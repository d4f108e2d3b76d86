import Rquic.Conn.Packets

set_option autoImplicit false

/-!
# The directions of streams

A unidirectional stream has one half at each end: the endpoint that opened it sends, the other one
receives. The frame handlers look a stream up by its id and act on whichever half the frame names, so
the discipline rests on the frames that arrive.

* `ConnType.ownUni`, `ConnType.peerUni`: the ids of unidirectional streams.
* `Conn.DirectionKept`: nothing was received on an own unidirectional stream, and nothing was sent on
  one of the peer.
* `Conn.Directed`: the event keeps the directions.
* **`direction_kept`**: the directions are kept in every run of such events.
* **`reset_on_peer_uni`**: RESET_STREAM on a unidirectional stream of the peer is answered with
  RESET_STREAM.
-/

namespace Rquic

/-- A unidirectional stream that the endpoint opens. -/
def ConnType.ownUni (connType : ConnType) (id : StreamId) : Bool :=
  (getStreamType id).isLocal connType && !(getStreamType id).isBidi

/-- A unidirectional stream that the peer opens. -/
def ConnType.peerUni (connType : ConnType) (id : StreamId) : Bool :=
  !(getStreamType id).isLocal connType && !(getStreamType id).isBidi

/-- The entry is a STREAM or RESET_STREAM frame for the stream. -/
def LogEntry.sendsOn (id : StreamId) : LogEntry → Bool
  | .wroteStream id' .. => id' = id
  | .wrote (.resetStream id' ..) => id' = id
  | _ => false

/-- The directions were kept: the receiving half of an own unidirectional stream is as it was created,
and no frame went out on a unidirectional stream of the peer. -/
structure Conn.DirectionKept (c : Conn) : Prop where
  recv : ∀ id s, c.streams id = some s → c.connType.ownUni id = true →
    s.streamDataIn = {} ∧ s.streamStateRecv = .recv
  send : ∀ entry ∈ c.log, ∀ id, c.connType.peerUni id = true → entry.sendsOn id = false

/-! ## The condition -/

/-- The stream is there and its sending half is not reset. -/
def Conn.sendOpen (c : Conn) (id : StreamId) : Bool :=
  match c.streams id with
  | some s => s.streamStateSend.toNat < SendStreamState.resetSent.toNat
  | none => false

/-- The frame keeps the directions: no data and no reset for an own unidirectional stream, no
RESET_STREAM and no STOP_SENDING on a unidirectional stream of the peer that is not reset. -/
def Conn.directedFrame (c : Conn) : Frame → Prop
  | .stream id offset fin data => c.connType.ownUni id = true → (c.streams id).isSome = true →
      offset + data.length = 0 ∧ fin = false
  | .resetStream id _ _ => (c.connType.ownUni id = true → (c.streams id).isSome = false) ∧
      (c.connType.peerUni id = true → c.sendOpen id = false ∧ ¬ c.OpensPeer id)
  | .stopSending id _ => c.connType.peerUni id = true → c.sendOpen id = false ∧ ¬ c.OpensPeer id
  | _ => True

/-- The event keeps the directions. -/
def Conn.Directed (c : Conn) : ConnEvent → Prop
  | .frame _ pkt _ _ f => c.takesFrame pkt f.1 = true → c.directedFrame f.1
  | .send id .. | .sendv id .. => c.connType.peerUni id = true → (c.streams id).isSome = false
  | .drain id _ => c.connType.peerUni id = true → ((c.streams id).any hasAtomicPending) = false
  | .close id => c.connType.peerUni id = true → c.isClosing = false → c.sendOpen id = false
  | _ => True

instance (c : Conn) : ∀ f, Decidable (c.directedFrame f)
  | .stream id offset fin data => inferInstanceAs (Decidable (c.connType.ownUni id = true →
      (c.streams id).isSome = true → offset + data.length = 0 ∧ fin = false))
  | .resetStream id _ _ => inferInstanceAs (Decidable (
      (c.connType.ownUni id = true → (c.streams id).isSome = false) ∧
        (c.connType.peerUni id = true → c.sendOpen id = false ∧ ¬ c.OpensPeer id)))
  | .stopSending id _ => inferInstanceAs (Decidable (c.connType.peerUni id = true →
      c.sendOpen id = false ∧ ¬ c.OpensPeer id))
  | .padding | .ping | .ack _ | .handshake .. | .maxData _ | .maxStreamData .. | .maxStreams ..
  | .dataBlocked _ | .streamDataBlocked .. | .streamsBlocked .. | .pathChallenge _ | .pathResponse _
  | .connectionClose _ | .datagram _ => .isTrue trivial

instance (c : Conn) (ev : ConnEvent) : Decidable (c.Directed ev) := by
  unfold Conn.Directed
  cases ev <;> infer_instance

/-! ## The receiving half -/

section Recv

variable {s : Stream}

theorem processStreamFrame_of_empty (hdata : s.streamDataIn = {}) (r : ConnRecv) {f : StreamFrame}
    (hend : f.endOffset = 0) (hfin : f.fin = false) :
    (processStreamFrame r s f).2.1 = s := by
  unfold processStreamFrame
  split_ifs with hreset hearly
  · rfl
  · rfl
  all_goals
    refine absurd ⟨?_, ?_⟩ hearly
    · rw [hdata, hend]
    · simp [hfin]

theorem streamRecv_of_empty (hdata : s.streamDataIn = {}) (hstate : s.streamStateRecv = .recv)
    (env : RecvEnv) (r : ConnRecv) (recvBufSize : ℕ) :
    (streamRecv env r s recvBufSize).stream.streamDataIn = {} ∧
      (streamRecv env r s recvBufSize).stream.streamStateRecv = .recv := by
  unfold streamRecv
  rw [if_neg (by rw [hstate]; decide)]
  rcases hl : recvLoop s.streamDataIn.mergedOffsetEnd recvBufSize s.streamDataIn.framesTailq
      s.streamDataIn.nextReadOffset [] with ⟨frames, next, out⟩
  have hframes : frames = [] ∧ next = 0 := by
    rw [hdata, recvLoop] at hl
    simp only [Prod.mk.injEq] at hl
    exact ⟨hl.1.symm, hl.2.1.symm⟩
  simp only [streamDoRecvFlowCtl_dataIn, markDataRead_dataIn, streamDoRecvFlowCtl_stateRecv,
    markDataRead_stateRecv, hstate, reduceCtorEq, and_false, if_false, and_true]
  rw [hframes.1, hframes.2, hdata]

end Recv

/-! ## Steps -/

section Steps

variable {c₀ c c' : Conn} {ev : ConnEvent}

/-- The endpoint opens no stream of the peer, and the other way round. -/
theorem ConnType.not_peer_of_ownUni {connType : ConnType} {id : StreamId}
    (h : connType.ownUni id = true) : ¬ (getStreamType id).isLocal connType = false := by
  unfold ConnType.ownUni at h
  simp only [Bool.and_eq_true] at h
  simp [h.1]

/-- No frame of the peer reaches the receiving half of an own unidirectional stream. -/
theorem Conn.Directed.deliver (h : c₀.Directed ev) {s : Stream} {f : StreamFrame}
    (hallow : c₀.allows ev (.deliver s f)) (hown : c₀.connType.ownUni s.streamId = true) :
    f.endOffset = 0 ∧ f.fin = false := by
  obtain ⟨env, pkt, pos, frameLen, g, rfl, htakes, hg⟩ :=
    Conn.frame_of_allows hallow nofun nofun nofun nofun nofun
  obtain ⟨heq, hholds⟩ := Frame.allows_deliver hg
  have hframe := h htakes
  rw [heq] at hframe
  rcases hholds with ⟨s₀, hs₀, -⟩ | ⟨hopens, -⟩
  · exact hframe hown (by rw [hs₀]; rfl)
  · exact absurd hopens.peer (ConnType.not_peer_of_ownUni hown)

theorem Conn.Directed.resetRecv (h : c₀.Directed ev) {r : ConnRecv} {s : Stream} {n : ℕ}
    (hallow : c₀.allows ev (.resetRecv r s n)) : ¬ c₀.connType.ownUni s.streamId = true := by
  intro hown
  obtain ⟨env, pkt, pos, frameLen, g, rfl, htakes, hg⟩ :=
    Conn.frame_of_allows hallow nofun nofun nofun nofun nofun
  obtain ⟨⟨errCode, heq⟩, hholds, -⟩ := Frame.allows_resetRecv hg
  have hframe := h htakes
  rw [heq] at hframe
  rcases hholds with ⟨s₀, hs₀, -⟩ | ⟨hopens, -⟩
  · have hnone := hframe.1 hown
    rw [hs₀] at hnone
    cases hnone
  · exact absurd hopens.peer (ConnType.not_peer_of_ownUni hown)

theorem Conn.not_resetsSend {id : StreamId} (h : c₀.sendOpen id = false ∧ ¬ c₀.OpensPeer id) :
    ¬ c₀.ResetsSend id := by
  rintro (⟨s, hs, hstate⟩ | hopens)
  · have hopen := h.1
    unfold Conn.sendOpen at hopen
    rw [hs] at hopen
    exact absurd hstate (of_decide_eq_false hopen)
  · exact h.2 hopens

theorem Conn.Directed.writeReset (h : c₀.Directed ev) {id : StreamId}
    (hallow : c₀.allows ev (.writeReset id)) : c₀.connType.peerUni id = false := by
  by_contra hne
  have hpeer : c₀.connType.peerUni id = true := by simpa using hne
  rcases Conn.allows_cases hallow with ⟨id', hid⟩ | ⟨id', hid | hid, rfl⟩ | ⟨header, hid, -⟩ |
    ⟨dir, settings, accept, hid, -⟩ | ⟨env, pkt, pos, frameLen, g, rfl, htakes, hg⟩
  · cases hid
  · obtain rfl := ConnAct.writeReset.inj hid
    obtain ⟨-, hclosing, s, hs, hstate⟩ := hallow.resolve_left nofun
    have hopen := h hpeer hclosing
    unfold Conn.sendOpen at hopen
    rw [hs] at hopen
    exact absurd hstate (of_decide_eq_false hopen)
  · cases hid
  · cases hid
  · cases hid
  · obtain ⟨⟨errCode, n, heq⟩ | ⟨errCode, heq⟩, hresets⟩ := Frame.allows_writeReset hg
    · have hframe := h htakes
      rw [heq] at hframe
      exact Conn.not_resetsSend (hframe.2 hpeer) hresets
    · have hframe := h htakes
      rw [heq] at hframe
      exact Conn.not_resetsSend (hframe hpeer) hresets

theorem Conn.Directed.writeStream (h : c₀.Directed ev) {id : StreamId}
    (hallow : c₀.allows ev (.writeStream id)) : c₀.connType.peerUni id = false := by
  by_contra hne
  have hpeer : c₀.connType.peerUni id = true := by simpa using hne
  cases ev with
  | send id' =>
      obtain ⟨hid, hsome⟩ := hallow
      cases hid
      rw [h hpeer] at hsome
      cases hsome
  | sendv id' =>
      obtain ⟨hid, hsome⟩ := hallow
      cases hid
      rw [h hpeer] at hsome
      cases hsome
  | drain id' =>
      obtain ⟨hid, s, hs, hpending⟩ := hallow
      cases hid
      have hnone := h hpeer
      rw [hs, Option.any_some, hpending] at hnone
      cases hnone
  | close =>
      rcases hallow with hallow | ⟨hallow, -⟩
      · cases hallow
      · cases hallow
  | header header => cases hallow
  | create dir settings accept => cases hallow
  | frame env pkt pos frameLen g => exact Frame.not_allows_writeStream hallow.2
  | _ => exact hallow.elim

/-- The receiving half of an own unidirectional stream stays as it is. -/
theorem RecvChange.ownUni (hdirected : c₀.Directed ev) {s s' : Stream}
    (h : RecvChange (c₀.allows ev) s s') (hown : c₀.connType.ownUni s.streamId = true)
    (hdata : s.streamDataIn = {}) (hstate : s.streamStateRecv = .recv) :
    s'.streamDataIn = {} ∧ s'.streamStateRecv = .recv := by
  rcases h with ⟨hdata', hstate', -⟩ | ⟨r, f, hallow, rfl⟩ | ⟨r, n, hallow, -⟩ | ⟨r, env, n, rfl⟩
  · exact ⟨hdata'.trans hdata, hstate'.trans hstate⟩
  · obtain ⟨hend, hfin⟩ := hdirected.deliver hallow hown
    rw [processStreamFrame_of_empty hdata r hend hfin]
    exact ⟨hdata, hstate⟩
  · exact absurd hown (hdirected.resetRecv hallow)
  · exact streamRecv_of_empty hdata hstate env r n

theorem StreamsStep.ownUni (hdirected : c₀.Directed ev)
    (h : StreamsStep (c₀.allows ev) c c'.streams)
    (hrecv : ∀ id s, c.streams id = some s → c₀.connType.ownUni id = true →
      s.streamDataIn = {} ∧ s.streamStateRecv = .recv) :
    ∀ id s, c'.streams id = some s → c₀.connType.ownUni id = true →
      s.streamDataIn = {} ∧ s.streamStateRecv = .recv := by
  generalize c'.streams = streams at h
  intro id s hs hown
  cases h with
  | same => exact hrecv id s hs hown
  | params p hexpects hallow =>
      obtain ⟨s₀, hs₀, rfl⟩ := Option.map_eq_some_iff.1 hs
      exact hrecv id s₀ hs₀ hown
  | change s₁ s₂ hs₁ hchange =>
      by_cases heq : id = s₂.streamId
      · subst heq
        rw [Function.update_self] at hs
        obtain rfl := Option.some.inj hs
        rw [hchange.streamId] at hown
        obtain ⟨hdata, hstate⟩ := hrecv _ s₁ hs₁ hown
        exact hchange.recv.ownUni hdirected hown hdata hstate
      · rw [Function.update_of_ne heq] at hs
        exact hrecv id s hs hown
  | opened s₁ accept hnone htype hnew hallow =>
      by_cases heq : id = s₁.streamId
      · subst heq
        rw [Function.update_self] at hs
        obtain rfl := Option.some.inj hs
        exact ⟨hnew.dataIn, hnew.stateRecv⟩
      · rw [Function.update_of_ne heq] at hs
        exact hrecv id s hs hown
  | destroyed id' =>
      by_cases heq : id = id'
      · subst heq
        rw [Function.update_self] at hs
        cases hs
      · rw [Function.update_of_ne heq] at hs
        exact hrecv id s hs hown

theorem LogEntry.Allowed.sendsOn {entry : LogEntry} (hdirected : c₀.Directed ev)
    (h : entry.Allowed (c₀.allows ev) c') {id : StreamId} (hpeer : c₀.connType.peerUni id = true) :
    entry.sendsOn id = false := by
  have hne : ∀ id', c₀.connType.peerUni id' = false → decide (id' = id) = false := by
    rintro id' hid'
    refine decide_eq_false ?_
    rintro rfl
    rw [hpeer] at hid'
    cases hid'
  cases entry with
  | wroteStream id' offset fin data => exact hne id' (hdirected.writeStream h.1)
  | wrote f =>
      cases f with
      | resetStream id' errCode finalSize => exact hne id' (hdirected.writeReset h)
      | _ => rfl
  | _ => rfl

theorem Conn.DirectionKept.step (hdirected : c₀.Directed ev) (htype : c.connType = c₀.connType)
    (h : ConnStep (c₀.allows ev) c c') (hkept : c.DirectionKept) : c'.DirectionKept := by
  have htype' : c'.connType = c₀.connType := h.mono.connType.trans htype
  constructor
  · rw [htype']
    refine StreamsStep.ownUni hdirected h.streamsStep ?_
    rw [← htype]
    exact hkept.recv
  · intro entry hentry id hpeer
    obtain ⟨l, hl, hallowed⟩ := h.log
    rw [hl, List.mem_append] at hentry
    rcases hentry with hentry | hentry
    · rw [h.mono.connType] at hpeer
      exact hkept.send entry hentry id hpeer
    · rw [htype'] at hpeer
      exact (hallowed entry hentry).sendsOn hdirected hpeer

end Steps

/-! ## Runs -/

/-- **The directions are kept** in every run whose events keep them. -/
theorem direction_kept (connType : ConnType) (settings : ConnSettings) (header : PktType → Bytes)
    (evs : List ConnEvent)
    (hdirected : RunMeets Conn.Directed (connCreate connType settings header) evs) :
    ((connCreate connType settings header).run evs).DirectionKept := by
  refine RunMeets.steps_inv (P := Conn.DirectionKept)
    (fun c₀ ev hev c c' hmono hstep hc => hc.step hev hmono.connType hstep)
    (connCreate_keyed connType settings header) ⟨fun id s hs => ?_, fun entry hentry => ?_⟩ hdirected
  · have hnone : (none : Option Stream) = some s := hs
    cases hnone
  · have hnil : entry ∈ ([] : List LogEntry) := hentry
    cases hnil

/-- The client sends data on its stream 2, the server reads it and opens its own stream 3, on which the
client says STOP_SENDING. -/
def directedRun : List ConnEvent :=
  serverHandshake ++ [oneRttFrame (.stream 2 0 true [1, 2]) (by decide), .recv 2 {} 10,
    .create .uni none true, oneRttFrame (.stopSending 3 0) (by decide)]

/-- The directions are kept there: stream 3 is answered with RESET_STREAM, and its receiving half is
untouched. -/
theorem direction_kept_directedRun :
    RunMeets Conn.Directed newServer directedRun ∧ (newServer.run directedRun).DirectionKept ∧
      ∃ entry ∈ (newServer.run directedRun).log, entry.sendsOn 3 = true := by
  have hdirected : RunMeets Conn.Directed newServer directedRun := by decide +kernel
  refine ⟨hdirected, direction_kept .server _ _ directedRun hdirected, ?_⟩
  decide +kernel

/-- The client resets its own stream 2, on which the server has nothing to send. -/
def peerUniReset : List ConnEvent :=
  serverHandshake ++ [oneRttFrame (.resetStream 2 0 0) (by decide)]

/-- **RESET_STREAM on a unidirectional stream of the peer is answered with RESET_STREAM.** -/
theorem reset_on_peer_uni : ¬ (newServer.run peerUniReset).DirectionKept := by
  intro hkept
  have hsends : ∃ entry ∈ (newServer.run peerUniReset).log, entry.sendsOn 2 = true := by
    decide +kernel
  obtain ⟨entry, hentry, hsend⟩ := hsends
  have hnot := hkept.send entry hentry 2 (by decide +kernel)
  rw [hsend] at hnot
  cases hnot

end Rquic

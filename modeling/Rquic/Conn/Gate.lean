import Rquic.Conn.PeerStreams

set_option autoImplicit false

/-!
# The handshake gate

Before the HANDSHAKE frame of the peer was processed, no frame of the peer should have an effect. The
handlers of PING and DATAGRAM look at the handshake; the handlers of the stream and MAX_* frames do
not, and the handshake overwrites the limits that such frames raised.

* `Inert`: no stream and no limit for sending has changed.
* `Conn.gatedFrame`, `Conn.Gated`: before the handshake, the frame is one that its handler ignores.
* **`gatedFrame_kept`**: such a frame has no effect.
* **`handshake_gate`**: in runs of such frames the gate holds, and no limit that was raised is lowered
  again.
* **`limit_before_handshake`**: MAX_DATA before HANDSHAKE is applied and taken back.
-/

namespace Rquic

/-! ## No effect -/

/-- No stream and no limit for sending has changed. -/
structure Inert (c c' : Conn) : Prop where
  streams : c'.streams = c.streams
  maxDataCanSend : c'.connFlowCtl.maxDataCanSend = c.connFlowCtl.maxDataCanSend
  maxStreamsBidiCanSend : c'.connFlowCtl.maxStreamsBidiCanSend = c.connFlowCtl.maxStreamsBidiCanSend
  maxStreamsUniCanSend : c'.connFlowCtl.maxStreamsUniCanSend = c.connFlowCtl.maxStreamsUniCanSend

section Inert

variable {c c' c'' : Conn}

theorem Inert.refl (c : Conn) : Inert c c := ⟨rfl, rfl, rfl, rfl⟩

theorem Inert.trans (h : Inert c c') (h' : Inert c' c'') : Inert c c'' :=
  ⟨h'.streams.trans h.streams, h'.maxDataCanSend.trans h.maxDataCanSend,
    h'.maxStreamsBidiCanSend.trans h.maxStreamsBidiCanSend,
    h'.maxStreamsUniCanSend.trans h.maxStreamsUniCanSend⟩

theorem Inert.raise (c : Conn) (err : TraErr) : Inert c (c.raise err) := by
  rw [Conn.raise_eq]
  exact ⟨rfl, rfl, rfl, rfl⟩

theorem Inert.write (c : Conn) (f : ControlFrame) : Inert c (c.write f).1 := by
  rw [Conn.write_frame]
  exact ⟨rfl, rfl, rfl, rfl⟩

theorem Inert.of_write {f : ControlFrame} (h : Inert c c') : Inert c (c'.write f).1 :=
  h.trans (.write c' f)

theorem createPeerFlowCtl_inert (c : Conn) (id : StreamId) : Inert c (createPeerFlowCtl c id).1 := by
  unfold createPeerFlowCtl
  simp only
  split_ifs
  · exact .raise c _
  · apply Inert.of_write
    exact ⟨rfl, rfl, rfl, rfl⟩
  · exact .refl c
  · exact .raise c _
  · apply Inert.of_write
    exact ⟨rfl, rfl, rfl, rfl⟩
  · exact .refl c

theorem openPassive_inert {id : StreamId} (h : openPassive c id = some c') : Inert c c' := by
  obtain ⟨hstreams, -, hfc, -⟩ := openPassive_spec h
  exact ⟨hstreams, by rw [hfc], by rw [hfc], by rw [hfc]⟩

theorem createPeerStream_inert {id : StreamId} {accept : Bool} (hnone : c.streams id = none)
    (h : createPeerStream c id accept = (c', none)) : Inert c c' := by
  unfold createPeerStream at h
  by_cases hclosing : c.isClosing = true
  · rw [if_pos hclosing] at h
    rw [← (Prod.mk.inj h).1]
    exact .refl c
  rw [if_neg hclosing] at h
  have hflow := createPeerFlowCtl_inert c id
  rcases hfc : createPeerFlowCtl c id with ⟨c₁, ret⟩
  rw [hfc] at h hflow
  cases ret with
  | error e =>
      rw [← (Prod.mk.inj h).1]
      exact hflow
  | ok u =>
      obtain ⟨s, -, -, -, heq⟩ := insertStream_of_none (c := c₁)
        ((congrFun hflow.streams id).trans hnone) (getStreamType id) none false accept
      cases (Prod.mk.inj (heq.symm.trans h)).2

theorem peerStream_inert {id : StreamId} {accept : Bool} (h : peerStream c id accept = (c', none)) :
    Inert c c' := by
  unfold peerStream at h
  split at h
  · cases (Prod.mk.inj h).2
  · rename_i hnone
    by_cases hlocal : (getStreamType id).isLocal c.connType = true
    · rw [if_pos hlocal] at h
      rw [← (Prod.mk.inj h).1]
      exact .refl c
    rw [if_neg hlocal] at h
    unfold passiveCreateStream at h
    have hflow := createPeerFlowCtl_inert c id
    rcases hfc : createPeerFlowCtl c id with ⟨c₁, ret⟩
    rw [hfc] at h hflow
    cases ret with
    | error e =>
        rw [← (Prod.mk.inj h).1]
        exact hflow
    | ok u =>
        dsimp only at h
        split at h
        · rw [← (Prod.mk.inj h).1]
          exact hflow
        · rename_i c₂ hopen
          have hpassive := openPassive_inert hopen
          split at h
          · rename_i c₃ hcreate
            rw [← (Prod.mk.inj h).1]
            have hnone₂ : c₂.streams id = none := by
              rw [hpassive.streams, hflow.streams]
              exact hnone
            exact ((hflow.trans hpassive).trans (createPeerStream_inert hnone₂ hcreate)).trans
              (.raise c₃ _)
          · cases (Prod.mk.inj h).2

/-- The frame names no stream that is there or that it opens. -/
theorem peerStream_none (hkeyed : c.Keyed) {id : StreamId} (hnone : c.streams id = none)
    (hopens : ¬ c.OpensPeer id) (accept : Bool) :
    ∃ c', peerStream c id accept = (c', none) ∧ Inert c c' := by
  rcases hp : peerStream c id accept with ⟨c', _ | s⟩
  · exact ⟨c', rfl, peerStream_inert hp⟩
  · have hfound := peerStream_some hkeyed hp
    rcases hfound.cases with rfl | ⟨h, -⟩
    · have hstored := hfound.stored
      rw [hnone] at hstored
      cases hstored
    · exact absurd h hopens

theorem peerStream_of_some {id : StreamId} {s : Stream} (hs : c.streams id = some s)
    (accept : Bool) : peerStream c id accept = (c, some s) := by
  unfold peerStream
  rw [hs]

theorem writeConnClose_inert (c : Conn) : Inert c (writeConnClose c) := by
  unfold writeConnClose
  split_ifs
  · have h := Inert.write c (.connClose ((c.connErr.map TraErr.code).getD 0))
    exact ⟨h.streams, h.maxDataCanSend, h.maxStreamsBidiCanSend, h.maxStreamsUniCanSend⟩
  · exact .refl c

theorem immediateClose_inert (c : Conn) : Inert c (immediateClose c) := by
  unfold immediateClose
  split_ifs
  · exact .refl c
  · exact ⟨rfl, rfl, rfl, rfl⟩
  · exact ⟨rfl, rfl, rfl, rfl⟩
  · exact writeConnClose_inert c
  · refine .trans ?_ (writeConnClose_inert _)
    exact ⟨rfl, rfl, rfl, rfl⟩

theorem processConnCloseFrame_inert (c : Conn) (errCode : ℕ) :
    Inert c (processConnCloseFrame c errCode) := by
  unfold processConnCloseFrame
  have hraise : Inert c (if errCode ≠ 0 then c.raise (.remote errCode) else c) := by
    split_ifs
    · exact .raise c _
    · exact .refl c
  refine hraise.trans ?_
  generalize (if errCode ≠ 0 then c.raise (.remote errCode) else c) = c₁
  dsimp only
  split_ifs
  · exact ⟨rfl, rfl, rfl, rfl⟩
  · have h := immediateClose_inert c₁
    exact ⟨h.streams, h.maxDataCanSend, h.maxStreamsBidiCanSend, h.maxStreamsUniCanSend⟩

theorem onHandshakeAcked_inert (c : Conn) : Inert c (onHandshakeAcked c) := by
  unfold onHandshakeAcked
  split_ifs <;> exact ⟨rfl, rfl, rfl, rfl⟩

theorem processAckFrame_inert (env : FrameEnv) (c : Conn) (info : AckInfo) :
    Inert c (processAckFrame env c info).1 := by
  have hacked : Inert c
      (if handshakeAcked c.sndq (onAckReceived c.sndq info env.th).1 then
        onHandshakeAcked { c with sndq := (onAckReceived c.sndq info env.th).1 }
      else { c with sndq := (onAckReceived c.sndq info env.th).1 }) := by
    split_ifs
    · refine .trans ?_ (onHandshakeAcked_inert _)
      exact ⟨rfl, rfl, rfl, rfl⟩
    · exact ⟨rfl, rfl, rfl, rfl⟩
  unfold processAckFrame
  dsimp only
  split <;> exact hacked

theorem processDataBlockedFrame_inert (c : Conn) (dataLimit : ℕ) :
    Inert c (processDataBlockedFrame c dataLimit).1 := by
  unfold processDataBlockedFrame
  dsimp only
  split_ifs
  · exact .refl c
  · apply Inert.of_write
    exact ⟨rfl, rfl, rfl, rfl⟩
  · exact .refl c

theorem processStreamsBlockedFrame_inert (c : Conn) (bidirectional : Bool) (streamLimit : ℕ) :
    Inert c (processStreamsBlockedFrame c bidirectional streamLimit).1 := by
  unfold processStreamsBlockedFrame
  cases bidirectional with
  | true =>
      simp only [if_true]
      split_ifs
      · exact .refl c
      all_goals
        apply Inert.of_write
        exact ⟨rfl, rfl, rfl, rfl⟩
  | false =>
      simp only [Bool.false_eq_true, if_false]
      split_ifs
      · exact .refl c
      all_goals
        apply Inert.of_write
        exact ⟨rfl, rfl, rfl, rfl⟩

theorem processDatagramFrame_inert (c : Conn) (pkt : PacketIn) (pos frameLen : ℕ) (data : Bytes) :
    Inert c (processDatagramFrame c pkt pos frameLen data).1 := by
  unfold processDatagramFrame
  split_ifs
  · exact .raise c _
  · exact ⟨rfl, rfl, rfl, rfl⟩
  · exact .refl c

end Inert

/-! ## The gate -/

/-- The frame is ignored: there is no stream `id` and the frame opens none, or the stream is in a state
where the handler does nothing. -/
def Conn.Ignores (c : Conn) (id : StreamId) (p : Stream → Prop) : Prop :=
  match c.streams id with
  | some s => p s
  | none => ¬ c.OpensPeer id

/-- The server goes through with a HANDSHAKE frame whose parameters it applies: the application takes
the connection, and the answer fits a packet. -/
def Conn.acceptsHandshake (c : Conn) (env : FrameEnv) (alpn ext : Bytes) (p : TransportParams) : Bool :=
  match env.alpn alpn with
  | .accepted own => protoExtCap ≥ own.length &&
      (sendHandshake { updateFlowCtlSettings (setRemoteTransportParams { c with peerProtoExt := ext } p)
        with alpn := alpn, selfProtoExt := own }).2.toBool
  | _ => false

/-- The handshake is not waited for, its parameters are refused, or it succeeds. -/
def Conn.gatedHandshake (c : Conn) (env : FrameEnv) (alpn tp ext : Bytes) : Prop :=
  match decodeTransportParams tp with
  | .error _ => True
  | .ok p => expectsHandshake c = true → ext.length ≤ protoExtCap → checkTransportParams p = true →
      c.connType = .server → c.acceptsHandshake env alpn ext p = true

/-- Before the handshake, the handler ignores the frame. -/
def Conn.gatedFrame (c : Conn) (env : FrameEnv) : Frame → Prop
  | .stream id offset fin data => c.Ignores id fun s =>
      RecvStreamState.resetRecvd.toNat ≤ s.streamStateRecv.toNat ∨
        earlyDrop s.streamDataIn { data := data, dataOffset := offset, fin := fin }
  | .resetStream id _ _ => c.Ignores id fun s =>
      SendStreamState.resetSent.toNat ≤ s.streamStateSend.toNat ∧
        RecvStreamState.resetRecvd.toNat ≤ s.streamStateRecv.toNat
  | .stopSending id _ => c.Ignores id fun s =>
      SendStreamState.resetSent.toNat ≤ s.streamStateSend.toNat
  | .maxStreamData id limit => c.Ignores id fun s => limit ≤ s.streamFlowCtl.maxStreamDataCanSend
  | .streamDataBlocked id _ => c.Ignores id fun _ => True
  | .maxData limit => limit ≤ c.connFlowCtl.maxDataCanSend
  | .maxStreams bidirectional limit => maxStreams < limit ∨
      limit ≤ if bidirectional then c.connFlowCtl.maxStreamsBidiCanSend
        else c.connFlowCtl.maxStreamsUniCanSend
  | .handshake alpn tp ext => c.gatedHandshake env alpn tp ext
  | _ => True

/-- Before the handshake, the event is none of the peer, or a frame that is ignored. -/
def Conn.Gated (c : Conn) : ConnEvent → Prop
  | .frame env pkt _ _ f => c.handshakeRecvd = false → c.takesFrame pkt f.1 = true →
      c.gatedFrame env f.1
  | _ => True

instance (c : Conn) (id : StreamId) (p : Stream → Prop) [DecidablePred p] :
    Decidable (c.Ignores id p) := by
  unfold Conn.Ignores
  cases c.streams id <;> infer_instance

instance (c : Conn) (env : FrameEnv) (alpn tp ext : Bytes) :
    Decidable (c.gatedHandshake env alpn tp ext) := by
  unfold Conn.gatedHandshake
  cases decodeTransportParams tp <;> infer_instance

instance (c : Conn) (env : FrameEnv) : ∀ f, Decidable (c.gatedFrame env f)
  | .stream id offset fin data => inferInstanceAs (Decidable (c.Ignores id fun s =>
      RecvStreamState.resetRecvd.toNat ≤ s.streamStateRecv.toNat ∨
        earlyDrop s.streamDataIn { data := data, dataOffset := offset, fin := fin }))
  | .resetStream id _ _ => inferInstanceAs (Decidable (c.Ignores id fun s =>
      SendStreamState.resetSent.toNat ≤ s.streamStateSend.toNat ∧
        RecvStreamState.resetRecvd.toNat ≤ s.streamStateRecv.toNat))
  | .stopSending id _ => inferInstanceAs (Decidable (c.Ignores id fun s =>
      SendStreamState.resetSent.toNat ≤ s.streamStateSend.toNat))
  | .maxStreamData id limit => inferInstanceAs (Decidable (c.Ignores id fun s =>
      limit ≤ s.streamFlowCtl.maxStreamDataCanSend))
  | .streamDataBlocked id _ => inferInstanceAs (Decidable (c.Ignores id fun _ => True))
  | .maxData limit => inferInstanceAs (Decidable (limit ≤ c.connFlowCtl.maxDataCanSend))
  | .maxStreams bidirectional limit => inferInstanceAs (Decidable (maxStreams < limit ∨
      limit ≤ if bidirectional then c.connFlowCtl.maxStreamsBidiCanSend
        else c.connFlowCtl.maxStreamsUniCanSend))
  | .handshake alpn tp ext => inferInstanceAs (Decidable (c.gatedHandshake env alpn tp ext))
  | .padding | .ping | .ack _ | .dataBlocked _ | .streamsBlocked .. | .pathChallenge _ | .pathResponse _
  | .connectionClose _ | .datagram _ => .isTrue trivial

instance (c : Conn) : ∀ ev, Decidable (c.Gated ev)
  | .frame env pkt _ _ f => inferInstanceAs (Decidable (c.handshakeRecvd = false →
      c.takesFrame pkt f.1 = true → c.gatedFrame env f.1))
  | .handshake | .create .. | .send .. | .sendv .. | .drain .. | .recv .. | .close _ | .destroy _
  | .sendState _ | .processed _ | .error _ | .immediateClose | .engine _ | .header _ => .isTrue trivial

/-- A stream without its limits. -/
def Stream.unlimited (s : Stream) : Stream := { s with streamFlowCtl := {} }

/-- The frame was without effect: all streams stand as they stood, and while the handshake is not
received, so do the limits for sending. -/
structure GateKept (c c' : Conn) : Prop where
  streams : ∀ id, (c'.streams id).map Stream.unlimited = (c.streams id).map Stream.unlimited
  limits : c'.handshakeRecvd = false →
    (∀ id, (c'.streams id).map (fun s => s.streamFlowCtl.maxStreamDataCanSend) =
      (c.streams id).map fun s => s.streamFlowCtl.maxStreamDataCanSend) ∧
    c'.connFlowCtl.maxDataCanSend = c.connFlowCtl.maxDataCanSend ∧
    c'.connFlowCtl.maxStreamsBidiCanSend = c.connFlowCtl.maxStreamsBidiCanSend ∧
    c'.connFlowCtl.maxStreamsUniCanSend = c.connFlowCtl.maxStreamsUniCanSend

section Gate

variable {c c' : Conn}

theorem Inert.gateKept (h : Inert c c') : GateKept c c' :=
  ⟨fun id => by rw [h.streams], fun _ => ⟨fun id => by rw [h.streams], h.maxDataCanSend,
    h.maxStreamsBidiCanSend, h.maxStreamsUniCanSend⟩⟩

theorem Conn.Ignores.cases (hkeyed : c.Keyed) {id : StreamId} {p : Stream → Prop}
    (h : c.Ignores id p) (accept : Bool) :
    (∃ c', peerStream c id accept = (c', none) ∧ Inert c c') ∨
      ∃ s, s.streamId = id ∧ c.streams s.streamId = some s ∧ p s ∧
        peerStream c id accept = (c, some s) := by
  unfold Conn.Ignores at h
  cases hs : c.streams id with
  | none =>
      rw [hs] at h
      exact .inl (peerStream_none hkeyed hs h accept)
  | some s =>
      rw [hs] at h
      have hid := hkeyed id s hs
      exact .inr ⟨s, hid, by rw [hid]; exact hs, h, peerStream_of_some hs accept⟩

theorem setStream_streams_eq {s : Stream} (hs : c.streams s.streamId = some s) :
    (c.setStream s).streams = c.streams := by
  rw [Conn.setStream_eq_self hs]

theorem updateFlowCtlSettings_unlimited (c : Conn) (id : StreamId) :
    ((updateFlowCtlSettings c).streams id).map Stream.unlimited =
      (c.streams id).map Stream.unlimited := by
  unfold updateFlowCtlSettings
  rw [Option.map_map]
  rfl

theorem serverOnAlpn_accepted {env : FrameEnv} {alpn own : Bytes}
    (halpn : env.alpn alpn = .accepted own) (hlen : own.length ≤ protoExtCap) :
    serverOnAlpn env c alpn = ({ c with alpn := alpn, selfProtoExt := own }, .ok ()) := by
  unfold serverOnAlpn
  rw [halpn]
  dsimp only
  rw [if_neg (not_lt.2 hlen)]

theorem finishHandshake_kept {env : FrameEnv} {alpn ext : Bytes} {p : TransportParams}
    (haccepts : c.connType = .server → c.acceptsHandshake env alpn ext p = true) :
    GateKept c (finishHandshake env
      (updateFlowCtlSettings (setRemoteTransportParams { c with peerProtoExt := ext } p)) alpn).1 := by
  set c₁ := updateFlowCtlSettings (setRemoteTransportParams { c with peerProtoExt := ext } p) with hc₁
  have hstreams : ∀ id, (c₁.streams id).map Stream.unlimited = (c.streams id).map Stream.unlimited :=
    fun id => updateFlowCtlSettings_unlimited _ id
  have htype : c₁.connType = c.connType := rfl
  unfold finishHandshake
  cases hserver : c.connType with
  | client =>
      rw [htype, hserver]
      exact ⟨hstreams, nofun⟩
  | server =>
      rw [htype, hserver]
      dsimp only
      have haccept := haccepts hserver
      unfold Conn.acceptsHandshake at haccept
      split at haccept
      · rename_i own halpn
        obtain ⟨hlen, hsend⟩ := Bool.and_eq_true_iff.1 haccept
        rw [← hc₁] at hsend
        rw [serverOnAlpn_accepted halpn (of_decide_eq_true hlen)]
        dsimp only
        have hframe := (sendHandshake_frame { c₁ with alpn := alpn, selfProtoExt := own }).2.2.1
        rcases hs : sendHandshake { c₁ with alpn := alpn, selfProtoExt := own } with ⟨c₂, ret⟩
        rw [hs] at hsend hframe
        cases ret with
        | error e => cases hsend
        | ok u =>
            refine ⟨fun id => ?_, nofun⟩
            show (c₂.streams id).map Stream.unlimited = _
            rw [show c₂.streams = c₁.streams from hframe]
            exact hstreams id
      · cases haccept

theorem processHandshake_kept {env : FrameEnv} {alpn tp ext : Bytes}
    (h : c.gatedHandshake env alpn tp ext) : GateKept c (processHandshake env c alpn tp ext).1 := by
  unfold processHandshake
  by_cases hexpects : expectsHandshake c = true
  · rw [if_neg (not_not.2 hexpects)]
    by_cases hcap : protoExtCap < ext.length
    · rw [if_pos hcap]
      exact (Inert.raise c _).gateKept
    rw [if_neg hcap]
    have hext : Inert c { c with peerProtoExt := ext } := ⟨rfl, rfl, rfl, rfl⟩
    unfold Conn.gatedHandshake at h
    dsimp only
    split
    · exact (hext.trans (.raise _ _)).gateKept
    · rename_i p hp
      rw [hp] at h
      by_cases hcheck : checkTransportParams p = true
      · rw [if_neg (not_not.2 hcheck)]
        exact finishHandshake_kept (h hexpects (not_lt.1 hcap) hcheck)
      · rw [if_pos hcheck]
        exact (hext.trans (.raise _ _)).gateKept
  · rw [if_pos hexpects]
    exact (Inert.refl c).gateKept

theorem GateKept.setStream {s s' : Stream} (hs : c.streams s.streamId = some s)
    (hid : s'.streamId = s.streamId) (hsame : s'.unlimited = s.unlimited)
    (hlimit : s'.streamFlowCtl.maxStreamDataCanSend = s.streamFlowCtl.maxStreamDataCanSend) :
    GateKept c (c.setStream s') := by
  have hcases : ∀ id, (c.setStream s').streams id = c.streams id ∨
      c.streams id = some s ∧ (c.setStream s').streams id = some s' := by
    intro id
    by_cases heq : id = s'.streamId
    · subst heq
      exact .inr ⟨by rw [hid]; exact hs, c.setStream_streams_self s'⟩
    · exact .inl (c.setStream_streams_of_ne s' heq)
  refine ⟨fun id => ?_, fun _ => ⟨fun id => ?_, rfl, rfl, rfl⟩⟩
  · rcases hcases id with h | ⟨h, h'⟩
    · rw [h]
    · rw [h, h', Option.map_some, Option.map_some, hsame]
  · rcases hcases id with h | ⟨h, h'⟩
    · rw [h]
    · rw [h, h', Option.map_some, Option.map_some, hlimit]

theorem GateKept.write (h : GateKept c c') (f : ControlFrame) : GateKept c (c'.write f).1 := by
  rw [Conn.write_frame]
  exact ⟨h.streams, h.limits⟩

/-- The receive limit of a stream is no matter of the gate. -/
theorem processStreamDataBlockedFrame_kept (hkeyed : c.Keyed) {env : FrameEnv} {id limit : ℕ}
    (h : c.Ignores id fun _ => True) :
    GateKept c (processStreamDataBlockedFrame env c id limit).1 := by
  unfold processStreamDataBlockedFrame
  rcases h.cases hkeyed env.accept with ⟨c', hp, hinert⟩ | ⟨s, rfl, hs, -, hp⟩
  · rw [hp]
    exact hinert.gateKept
  rw [hp]
  dsimp only
  split_ifs
  · exact (Inert.refl c).gateKept
  · apply GateKept.write
    exact .setStream hs rfl rfl rfl
  · exact (Inert.refl c).gateKept

/-- **A gated frame has no effect.** -/
theorem gatedFrame_kept (hkeyed : c.Keyed) {env : FrameEnv} {f : Frame} (h : c.gatedFrame env f)
    (pkt : PacketIn) (pos frameLen : ℕ) :
    GateKept c (processFrame env c pkt pos frameLen f).1 := by
  cases f with
  | padding => exact (Inert.refl c).gateKept
  | ping =>
      unfold processFrame
      split_ifs <;> exact (Inert.refl c).gateKept
  | ack info => exact (processAckFrame_inert env c info).gateKept
  | handshake alpn tp ext => exact processHandshake_kept h
  | resetStream id errCode finalSize =>
      refine Inert.gateKept ?_
      show Inert c (processResetStreamFrameConn env c id errCode finalSize)
      unfold processResetStreamFrameConn
      rcases h.cases hkeyed env.accept with ⟨c', hp, hinert⟩ | ⟨s, rfl, hs, ⟨hsend, hrecv⟩, hp⟩
      · rw [hp]
        exact hinert
      · rw [hp]
        dsimp only
        rw [if_neg (not_lt.2 hsend), hs]
        dsimp only
        unfold processResetStreamFrame
        rw [if_neg (not_lt.2 hrecv)]
        exact ⟨setStream_streams_eq hs, rfl, rfl, rfl⟩
  | stopSending id errCode =>
      refine Inert.gateKept ?_
      show Inert c (processStopSendingFrame env c id)
      unfold processStopSendingFrame resetSendHalf
      rcases h.cases hkeyed env.accept with ⟨c', hp, hinert⟩ | ⟨s, rfl, hs, hsend, hp⟩
      · rw [hp]
        exact hinert
      · rw [hp]
        dsimp only
        rw [if_neg (not_lt.2 hsend)]
        exact .refl c
  | stream id offset fin data =>
      refine Inert.gateKept ?_
      show Inert c (processStreamFrameConn env c id offset fin data).1
      unfold processStreamFrameConn
      rcases h.cases hkeyed env.accept with ⟨c', hp, hinert⟩ | ⟨s, rfl, hs, hdrop, hp⟩
      · rw [hp]
        exact hinert
      · rw [hp]
        dsimp only
        have hsame : processStreamFrame c.toConnRecv s
            { data := data, dataOffset := offset, fin := fin } = (c.toConnRecv, s, .ok ()) := by
          unfold processStreamFrame
          split_ifs with hreset hearly
          · rfl
          · rfl
          all_goals exact absurd hdrop (not_or.2 ⟨hreset, hearly⟩)
        rw [hsame]
        exact ⟨setStream_streams_eq hs, rfl, rfl, rfl⟩
  | maxData limit =>
      refine Inert.gateKept ?_
      show Inert c (processMaxDataFrame c limit)
      unfold processMaxDataFrame
      rw [if_neg (not_lt.2 h)]
      exact .refl c
  | maxStreamData id limit =>
      refine Inert.gateKept ?_
      show Inert c (processMaxStreamDataFrame env c id limit)
      unfold processMaxStreamDataFrame
      rcases h.cases hkeyed env.accept with ⟨c', hp, hinert⟩ | ⟨s, rfl, hs, hle, hp⟩
      · rw [hp]
        exact hinert
      · rw [hp]
        dsimp only
        rw [if_neg (not_lt.2 hle)]
        exact .refl c
  | maxStreams bidirectional limit =>
      refine Inert.gateKept ?_
      show Inert c (processMaxStreamsFrame c bidirectional limit).1
      unfold processMaxStreamsFrame
      rcases h with hmax | hle
      · rw [if_pos hmax]
        exact .refl c
      · cases bidirectional <;> simp at hle <;> simp [not_lt.2 hle] <;> split_ifs <;> exact .refl c
  | dataBlocked limit => exact (processDataBlockedFrame_inert c limit).gateKept
  | streamDataBlocked id limit => exact processStreamDataBlockedFrame_kept hkeyed h
  | streamsBlocked bidirectional limit =>
      exact (processStreamsBlockedFrame_inert c bidirectional limit).gateKept
  | pathChallenge data => exact (Inert.write c _).gateKept
  | pathResponse data => exact (Inert.refl c).gateKept
  | connectionClose errCode => exact (processConnCloseFrame_inert c errCode).gateKept
  | datagram data => exact (processDatagramFrame_inert c pkt pos frameLen data).gateKept

end Gate

/-! ## Limits that were raised -/

/-- The limits for sending of a connection. -/
structure CanSendLe (c c' : Conn) : Prop where
  maxData : c.connFlowCtl.maxDataCanSend ≤ c'.connFlowCtl.maxDataCanSend
  maxStreamsBidi : c.connFlowCtl.maxStreamsBidiCanSend ≤ c'.connFlowCtl.maxStreamsBidiCanSend
  maxStreamsUni : c.connFlowCtl.maxStreamsUniCanSend ≤ c'.connFlowCtl.maxStreamsUniCanSend

/-- What the history and the state say about the limits that were raised. -/
structure RaisedInv (c : Conn) : Prop where
  life : LifeInv c
  init : c.connType = .server → c.connState = .serverInit → c.handshakeRecvd = false
  silent : c.handshakeRecvd = false → ∀ pktNum pos data, .notified pktNum pos data ∉ c.log
  before : c.handshakeRecvd = false → ∀ f, .raised f ∉ c.log
  opened : ∀ id limit, .raised (.maxStreamData id limit) ∈ c.log → c.Opened id
  kept : ∀ f, .raised f ∈ c.log → c.Meets f

section Raised

variable {allow : ConnAct → Prop} {c₀ c c' : Conn} {ev : ConnEvent}

theorem CanSendLe.of_eq (h : c'.connFlowCtl = c.connFlowCtl) : CanSendLe c c' :=
  ⟨by rw [h], by rw [h], by rw [h]⟩

theorem CanSendLe.of_sendPart (h : c'.toConnRecv.sendPart = c.toConnRecv.sendPart) : CanSendLe c c' :=
  ⟨(congrArg (fun r => r.connFlowCtl.maxDataCanSend) h :).ge,
    (congrArg (fun r => r.connFlowCtl.maxStreamsBidiCanSend) h :).ge,
    (congrArg (fun r => r.connFlowCtl.maxStreamsUniCanSend) h :).ge⟩

theorem CanSendLe.insertStream (h : c'.connFlowCtl = c.connFlowCtl) (id : StreamId) (t : StreamType)
    (settings : Option StreamSettings) (isLocal accept : Bool) :
    CanSendLe c (insertStream c' id t settings isLocal accept).1 := by
  unfold Rquic.insertStream
  split <;> exact .of_eq h

/-- Only the parameters of the peer lower a limit, and they are applied while the handshake is waited
for. -/
theorem ConnStep.canSend (h : ConnStep allow c c') :
    (expectsHandshake c = true ∧ c'.log = c.log) ∨ CanSendLe c c' := by
  cases h with
  | params p hexpects hbelow hcheck hallow => exact .inl ⟨hexpects, rfl⟩
  | write f hf =>
      rw [Conn.write_frame]
      exact .inr (.of_eq rfl)
  | writeReset s errCode hs hstate hallow =>
      rw [Conn.write_frame]
      exact .inr (.of_eq rfl)
  | maxData limit hlt hlimit hallow => exact .inr ⟨hlt.le, le_rfl, le_rfl⟩
  | maxStreamsBidi limit hlt hlimit hallow => exact .inr ⟨le_rfl, hlt.le, le_rfl⟩
  | maxStreamsUni limit hlt hlimit hallow => exact .inr ⟨le_rfl, le_rfl, hlt.le⟩
  | openPassive c' id hpeer hopen => exact .inr (.of_eq (openPassive_spec hopen).2.2.1)
  | openPeer id accept hpeer hnone hpassive hallow =>
      exact .inr (.insertStream rfl id _ none false accept)
  | openLocal t settings accept ht hlimit hallow =>
      split_ifs
      · exact .inr (.insertStream (by rfl) _ t settings true accept)
      · exact .inr (.insertStream (by rfl) _ t settings true accept)
  | deliver s f hs hend hallow => exact .inr (.of_sendPart (processStreamFrame_conn _ s f))
  | resetRecv s finalSize hs hsize hallow =>
      exact .inr (.of_sendPart (processResetStreamFrame_conn _ s finalSize))
  | read s env recvBufSize hs => exact .inr (.of_sendPart (streamRecv_conn _ s env recvBufSize))
  | _ => exact .inr ⟨le_rfl, le_rfl, le_rfl⟩

/-- The limit of a stream is raised only, while the handshake is not waited for. -/
theorem StreamsStep.canSend {streams : StreamId → Option Stream} (h : StreamsStep allow c streams)
    (hexpects : expectsHandshake c ≠ true) {id : StreamId} {s s' : Stream} (hs : c.streams id = some s)
    (hs' : streams id = some s') :
    s.streamFlowCtl.maxStreamDataCanSend ≤ s'.streamFlowCtl.maxStreamDataCanSend := by
  rcases h.of_some hs hs' with rfl | ⟨p, hwaits, -⟩ | hchange
  · exact le_rfl
  · exact absurd hwaits hexpects
  · exact hchange.canSend

theorem RaisedInv.not_expects (h : RaisedInv c) (hrecvd : c.handshakeRecvd = true) :
    expectsHandshake c ≠ true := by
  intro hexpects
  unfold expectsHandshake at hexpects
  cases htype : c.connType with
  | client =>
      rw [htype] at hexpects
      simp [hrecvd] at hexpects
  | server =>
      rw [htype] at hexpects
      have hinit := h.init htype (of_decide_eq_true hexpects)
      rw [hrecvd] at hinit
      cases hinit

theorem Conn.Gated.not_limit (h : c₀.Gated ev) (hrecvd : c₀.handshakeRecvd = false) (f : Frame) :
    ¬ c₀.allows ev (.limit f) := by
  intro hallow
  obtain ⟨env, pkt, pos, frameLen, g, rfl, htakes, hg⟩ :=
    Conn.frame_of_allows hallow nofun nofun nofun nofun nofun
  have hgated := h hrecvd htakes
  rcases g with ⟨g, hfits⟩
  cases g <;> simp [Frame.allows] at hg
  · exact absurd hg.2 (not_lt.2 hgated)
  · simp only [Conn.gatedFrame, Conn.Ignores] at hgated
    rcases hg.2 with hopens | ⟨s, hs, hlt⟩
    · rw [hopens.none] at hgated
      exact hgated hopens
    · rw [hs] at hgated
      exact absurd hlt (not_lt.2 hgated)
  · rcases hgated with hmax | hle
    · exact absurd hg.2.1 (not_le.2 hmax)
    · refine absurd hg.2.2 (not_lt.2 ?_)
      simpa using hle

/-- A limit in force stays in force once the handshake is received. -/
theorem RaisedInv.meets (hinv : RaisedInv c) (h : ConnStep allow c c') {f : Frame}
    (hf : .raised f ∈ c.log) : c'.Meets f := by
  have hrecvd : c.handshakeRecvd = true := by
    by_contra hfalse
    exact hinv.before (Bool.eq_false_of_not_eq_true hfalse) f hf
  have hexpects := hinv.not_expects hrecvd
  have hle : CanSendLe c c' := h.canSend.resolve_left fun hwaits => hexpects hwaits.1
  have hmeets := hinv.kept f hf
  cases f with
  | maxData limit => exact le_trans hmeets hle.maxData
  | maxStreams bidirectional limit =>
      cases bidirectional with
      | true => exact le_trans hmeets hle.maxStreamsBidi
      | false => exact le_trans hmeets hle.maxStreamsUni
  | maxStreamData id limit =>
      intro s' hs'
      obtain ⟨s, hs⟩ := hinv.life.kept (h.lifeInv hinv.life) h (hinv.opened id limit hf) hs'
      exact le_trans (hmeets s hs) (h.streamsStep.canSend hexpects hs hs')
  | _ => exact trivial

theorem RaisedInv.step (hinv : RaisedInv c) (hgated : c₀.Gated ev) (hmono : HandshakeMono c₀ c)
    (h : ConnStep (c₀.allows ev) c c') : RaisedInv c' := by
  have hmono' := h.mono
  have hlife := h.lifeInv hinv.life
  obtain ⟨l, hl, hallowed⟩ := h.log
  obtain ⟨l', hl', -⟩ := h.connLife.life
  refine ⟨hlife, fun htype hinit => ?_, fun hrecvd pktNum pos data hmem => ?_, fun hrecvd f hf => ?_,
    fun id limit hf => ?_, fun f hf => ?_⟩
  · obtain ⟨hstate, hsame⟩ := hmono'.init hinit
    rw [hsame]
    exact hinv.init (hmono'.connType.symm.trans htype) hstate
  · have hnot : c.handshakeRecvd = false := by
      by_contra htrue
      rw [hmono'.recvd (Bool.eq_true_of_not_eq_false htrue)] at hrecvd
      cases hrecvd
    rw [hl] at hmem
    rcases List.mem_append.1 hmem with hold | hnew
    · exact hinv.silent hnot pktNum pos data hold
    · have htrue : c'.handshakeRecvd = true := hallowed _ hnew
      rw [htrue] at hrecvd
      cases hrecvd
  · have hnot : c.handshakeRecvd = false := by
      by_contra htrue
      rw [hmono'.recvd (Bool.eq_true_of_not_eq_false htrue)] at hrecvd
      cases hrecvd
    have hnot₀ : c₀.handshakeRecvd = false := by
      by_contra htrue
      rw [hmono.recvd (Bool.eq_true_of_not_eq_false htrue)] at hnot
      cases hnot
    rw [hl] at hf
    rcases List.mem_append.1 hf with hold | hnew
    · exact hinv.before hnot f hold
    · exact hgated.not_limit hnot₀ f (hallowed _ hnew).1
  · rw [hl] at hf
    rcases List.mem_append.1 hf with hold | hnew
    · have hopened := hinv.opened id limit hold
      unfold Conn.Opened at hopened ⊢
      rw [hl']
      exact List.mem_append_left l' hopened
    · obtain ⟨s, hs⟩ := Option.isSome_iff_exists.1 ((hallowed _ hnew).2.2 id limit rfl)
      exact hlife.stored id s hs
  · rw [hl] at hf
    rcases List.mem_append.1 hf with hold | hnew
    · exact hinv.meets h hold
    · exact (hallowed _ hnew).2.1

end Raised

/-! ## Runs -/

theorem connCreate_raisedInv (connType : ConnType) (settings : ConnSettings)
    (header : PktType → Bytes) : RaisedInv (connCreate connType settings header) := by
  have hlog : (connCreate connType settings header).log = [] := rfl
  have hnone : ∀ f, .raised f ∉ (connCreate connType settings header).log := fun f hf => by
    rw [hlog] at hf
    cases hf
  refine ⟨connCreate_lifeInv connType settings header, fun _ _ => rfl, fun _ pktNum pos data hmem => ?_,
    fun _ => hnone, fun id limit hf => absurd hf (hnone _), fun f hf => absurd hf (hnone f)⟩
  rw [hlog] at hmem
  cases hmem

/-- The history does not decide whether the answer to a handshake can be sent. -/
theorem sendHandshake_addLog (c : Conn) (entry : LogEntry) :
    (sendHandshake (c.addLog entry)).2 = (sendHandshake c).2 := by
  unfold sendHandshake Conn.write
  have hparams : (c.addLog entry).params = c.params := rfl
  have hsettings : (c.addLog entry).localSettings = c.localSettings := rfl
  rw [hsettings]
  cases encodeTransportParams c.localSettings.params tpCap with
  | error e => rfl
  | ok tp =>
      dsimp only
      have hpacket : controlPacket ((c.addLog entry).params
          ((ControlFrame.handshake (c.addLog entry).alpn tp (c.addLog entry).selfProtoExt).pktType
            (c.addLog entry)))
          (.handshake (c.addLog entry).alpn tp (c.addLog entry).selfProtoExt) false 0 =
        controlPacket (c.params ((ControlFrame.handshake c.alpn tp c.selfProtoExt).pktType c))
          (.handshake c.alpn tp c.selfProtoExt) false 0 := rfl
      rw [hpacket]
      cases controlPacket (c.params ((ControlFrame.handshake c.alpn tp c.selfProtoExt).pktType c))
          (.handshake c.alpn tp c.selfProtoExt) false 0 <;> rfl

theorem Conn.acceptsHandshake_addLog (c : Conn) (entry : LogEntry) (env : FrameEnv)
    (alpn ext : Bytes) (p : TransportParams) :
    (c.addLog entry).acceptsHandshake env alpn ext p = c.acceptsHandshake env alpn ext p := by
  unfold Conn.acceptsHandshake
  cases env.alpn alpn with
  | accepted own =>
      have hsend := sendHandshake_addLog
        { updateFlowCtlSettings (setRemoteTransportParams { c with peerProtoExt := ext } p)
          with alpn := alpn, selfProtoExt := own } entry
      exact congrArg (fun r => decide (protoExtCap ≥ own.length) && r.toBool) hsend
  | _ => rfl

theorem Conn.gatedFrame_addLog {c : Conn} {env : FrameEnv} {f : Frame} (h : c.gatedFrame env f)
    (entry : LogEntry) : (c.addLog entry).gatedFrame env f := by
  have hignores : ∀ id p, c.Ignores id p → (c.addLog entry).Ignores id p := by
    intro id p hp
    unfold Conn.Ignores
    rw [Conn.opensPeer_addLog]
    exact hp
  cases f with
  | stream id offset fin data => exact hignores id _ h
  | resetStream id errCode finalSize => exact hignores id _ h
  | stopSending id errCode => exact hignores id _ h
  | maxStreamData id limit => exact hignores id _ h
  | streamDataBlocked id limit => exact hignores id _ h
  | handshake alpn tp ext =>
      simp only [Conn.gatedFrame, Conn.gatedHandshake, Conn.acceptsHandshake_addLog] at h ⊢
      exact h
  | _ => exact h

theorem Conn.Gated.kept {c : Conn} {env : FrameEnv} {pkt : PacketIn} {pos frameLen : ℕ} {f : WireFrame}
    (hkeyed : c.Keyed) (h : c.Gated (.frame env pkt pos frameLen f))
    (hrecvd : c.handshakeRecvd = false) :
    GateKept c (c.step (.frame env pkt pos frameLen f)) := by
  rw [Conn.step_frame]
  split_ifs with htakes
  · have hkept := gatedFrame_kept (c := c.addLog (.recvd pkt.pktNum pos f.1)) hkeyed
      (Conn.gatedFrame_addLog (h hrecvd htakes) _) pkt pos frameLen
    exact ⟨hkept.streams, hkept.limits⟩
  · exact (Inert.refl c).gateKept

/-- **The handshake gate.** In every run whose frames before the handshake are ones that their handlers
ignore, no frame has an effect before the HANDSHAKE frame is processed, no datagram is handed over
before it, and every limit that a MAX_* frame has raised is in force. -/
theorem handshake_gate (connType : ConnType) (settings : ConnSettings) (header : PktType → Bytes)
    (evs : List ConnEvent) (hgated : RunMeets Conn.Gated (connCreate connType settings header) evs) :
    (∀ evs₁ env pkt pos frameLen f evs₂, evs = evs₁ ++ .frame env pkt pos frameLen f :: evs₂ →
      ((connCreate connType settings header).run evs₁).handshakeRecvd = false →
      GateKept ((connCreate connType settings header).run evs₁)
        (((connCreate connType settings header).run evs₁).step (.frame env pkt pos frameLen f))) ∧
    (((connCreate connType settings header).run evs).handshakeRecvd = false → ∀ pktNum pos data,
      .notified pktNum pos data ∉ ((connCreate connType settings header).run evs).log) ∧
    ∀ f, .raised f ∈ ((connCreate connType settings header).run evs).log →
      ((connCreate connType settings header).run evs).Meets f := by
  have hinv := RunMeets.steps_inv (P := RaisedInv)
    (fun c₀ ev hev c c' hmono hstep hc => hc.step hev hmono hstep)
    (connCreate_keyed connType settings header) (connCreate_raisedInv connType settings header) hgated
  refine ⟨fun evs₁ env pkt pos frameLen f evs₂ hevs hrecvd => ?_, hinv.silent, hinv.kept⟩
  · have hmeets := hgated
    rw [hevs] at hmeets
    exact ((RunMeets.append hmeets).2.1).kept
      (run_keyed (connCreate_keyed connType settings header) evs₁) hrecvd

/-- The client's HANDSHAKE comes behind an empty frame, and MAX_DATA comes when it is processed. -/
def gatedRun : List ConnEvent :=
  initialFrame .padding trivial :: serverHandshake ++ [oneRttFrame (.maxData 50000) (by decide)]

/-- There the limit of the peer is in force. -/
theorem handshake_gate_gatedRun :
    RunMeets Conn.Gated newServer gatedRun ∧ .raised (.maxData 50000) ∈ (newServer.run gatedRun).log ∧
      50000 ≤ (newServer.run gatedRun).connFlowCtl.maxDataCanSend := by
  have hgated : RunMeets Conn.Gated newServer gatedRun := by decide +kernel
  have hraised : .raised (.maxData 50000) ∈ (newServer.run gatedRun).log := by decide +kernel
  exact ⟨hgated, hraised, (handshake_gate .server _ _ gatedRun hgated).2.2 _ hraised⟩

/-- MAX_DATA in the client's first packet. -/
def maxDataInitial : ConnEvent := initialFrame (.maxData (2 ^ 34)) (by decide)

/-- **MAX_DATA before HANDSHAKE is applied, and the handshake takes it back.** -/
theorem limit_before_handshake :
    newServer.handshakeRecvd = false ∧ ¬ GateKept newServer (newServer.step maxDataInitial) ∧
      .raised (.maxData (2 ^ 34)) ∈ (newServer.run (maxDataInitial :: serverHandshake)).log ∧
      ¬ (newServer.run (maxDataInitial :: serverHandshake)).Meets (.maxData (2 ^ 34)) := by
  refine ⟨rfl, fun hkept => ?_, by decide +kernel, ?_⟩
  · have hsame := (hkept.limits (by decide +kernel)).2.1
    have hraised : (newServer.step maxDataInitial).connFlowCtl.maxDataCanSend ≠
        newServer.connFlowCtl.maxDataCanSend := by decide +kernel
    exact hraised hsame
  · show ¬ 2 ^ 34 ≤ (newServer.run (maxDataInitial :: serverHandshake)).connFlowCtl.maxDataCanSend
    decide +kernel

end Rquic

import Rquic.Conn.Handlers

set_option autoImplicit false

/-!
# What a step does to the streams

* `Stream.sendPart`, `ConnRecv.sendPart`: the part of a stream and of a connection that receiving
  leaves alone.
* `StreamChange`: how one stream goes on.
* `StreamsStep`: a step changes one stream, opens one, destroys one, or applies the parameters of the
  peer to all of them.
* **`ConnStep.streamsStep`**: every elementary step is one of these.
* **`ConnStep.log`**: the history grows, by what the step was allowed to do.
* **`ConnStep.keyed`**: every stream stays under its id.
* `RunMeets.steps_inv`: an invariant of the elementary steps is an invariant of the runs.
-/

namespace Rquic

/-! ## The sending half -/

/-- A stream without its receiving half, its flags and its receive window. -/
def Stream.sendPart (s : Stream) : Stream :=
  { s with
    streamDataIn := {}, streamStateRecv := .recv, streamMaxRecvOffset := 0
    readyToRead := false, readyToWrite := false, needClose := false
    streamFlowCtl := { maxStreamDataCanSend := s.streamFlowCtl.maxStreamDataCanSend } }

section SendPart

variable (r : ConnRecv) (s : Stream) (f : StreamFrame)

@[simp] theorem streamMaybeNeedClose_sendPart (connType : ConnType) :
    (streamMaybeNeedClose connType s).sendPart = s.sendPart := by
  unfold streamMaybeNeedClose
  split_ifs <;> rfl

@[simp] theorem recordFin_sendPart : (recordFin s f).sendPart = s.sendPart := by
  unfold recordFin
  split_ifs <;> rfl

@[simp] theorem raiseMaxRecvOffset_sendPart : (raiseMaxRecvOffset s f).sendPart = s.sendPart := by
  unfold raiseMaxRecvOffset
  split_ifs <;> rfl

theorem processRecvFlowCtl_sendPart : (processRecvFlowCtl r s f).2.1.sendPart = s.sendPart := by
  have hraise := raiseMaxRecvOffset_sendPart s f
  unfold processRecvFlowCtl
  dsimp only
  split_ifs <;> exact hraise

theorem processStreamFrame_sendPart : (processStreamFrame r s f).2.1.sendPart = s.sendPart := by
  have hfin := recordFin_sendPart s f
  by_cases hst : s.streamStateRecv.toNat < RecvStreamState.resetRecvd.toNat
  · obtain ⟨-, h⟩ | ⟨-, -, h⟩ | ⟨-, -, -, h⟩ | ⟨-, -, -, -, h⟩ | ⟨-, -, -, di, -, h⟩ :=
      processStreamFrame_cases r s f hst
    · rw [h]
    · rw [h]
    · rw [h]
      dsimp only
      split_ifs <;> exact hfin
    · rw [h]
      exact hfin
    · rw [h, processRecvFlowCtl_sendPart]
      exact hfin
  · rw [processStreamFrame_of_reset r f hst]

theorem processResetStreamFrame_sendPart (finalSize : ℕ) :
    (processResetStreamFrame r s finalSize).2.sendPart = s.sendPart := by
  unfold processResetStreamFrame
  split_ifs <;> rfl

theorem markDataRead_sendPart (connType : ConnType) (fin : Bool) :
    (markDataRead connType fin s).sendPart = s.sendPart := by
  unfold markDataRead
  split_ifs
  · rw [streamMaybeNeedClose_sendPart]
    rfl
  · rfl

theorem streamWindowUpdate_sendPart (env : RecvEnv) :
    (streamWindowUpdate env r s).1.sendPart = s.sendPart := by
  unfold streamWindowUpdate
  dsimp only
  split_ifs <;> rfl

theorem streamRecv_sendPart (env : RecvEnv) (recvBufSize : ℕ) :
    (streamRecv env r s recvBufSize).stream.sendPart = s.sendPart := by
  unfold streamRecv
  split_ifs
  · exact streamMaybeNeedClose_sendPart _ _
  · dsimp only [streamDoRecvFlowCtl]
    rw [streamWindowUpdate_sendPart]
    exact markDataRead_sendPart _ _ _

theorem raiseFirstWindow_sendPart (c : Conn) (maxSrtt : ℕ) :
    (raiseFirstWindow c s maxSrtt).2.sendPart = s.sendPart := by
  rw [(raiseFirstWindow_frame c s maxSrtt).2]
  rfl

end SendPart

/-- A connection without what the receive path of a stream moves. -/
def ConnRecv.sendPart (r : ConnRecv) : ConnRecv :=
  { r with
    connErr := none
    connFlowCtl := { r.connFlowCtl with
      maxDataCanRecv := 0, dataRecved := 0, dataRead := 0, recvWindowsSize := 0
      lastWindowUpdateTime := 0 } }

section ConnSendPart

variable (r : ConnRecv) (s : Stream) (f : StreamFrame)

theorem ConnRecv.raise_sendPart (err : TraErr) : (r.raise err).sendPart = r.sendPart := by
  unfold ConnRecv.raise
  split <;> rfl

theorem countRecved_conn : (countRecved r s f).sendPart = r.sendPart := by
  unfold countRecved
  split_ifs <;> rfl

theorem processRecvFlowCtl_conn : (processRecvFlowCtl r s f).1.sendPart = r.sendPart := by
  have hcount := countRecved_conn r s f
  unfold processRecvFlowCtl
  dsimp only
  split_ifs
  · exact (ConnRecv.raise_sendPart _ _).trans hcount
  · exact (ConnRecv.raise_sendPart _ _).trans hcount
  all_goals exact hcount

theorem processStreamFrame_conn : (processStreamFrame r s f).1.sendPart = r.sendPart := by
  by_cases hst : s.streamStateRecv.toNat < RecvStreamState.resetRecvd.toNat
  · obtain ⟨-, h⟩ | ⟨-, -, h⟩ | ⟨-, -, -, h⟩ | ⟨-, -, -, -, h⟩ | ⟨-, -, -, di, -, h⟩ :=
      processStreamFrame_cases r s f hst
    · rw [h]
    · rw [h]
      exact ConnRecv.raise_sendPart r _
    · rw [h]
    · rw [h]
    · rw [h]
      exact processRecvFlowCtl_conn r _ f
  · rw [processStreamFrame_of_reset r f hst]

theorem processResetStreamFrame_conn (finalSize : ℕ) :
    (processResetStreamFrame r s finalSize).1.sendPart = r.sendPart := by
  unfold processResetStreamFrame
  split_ifs <;> rfl

theorem connWindowUpdate_conn (env : RecvEnv) : (connWindowUpdate env r s).1.sendPart = r.sendPart := by
  unfold connWindowUpdate
  dsimp only
  split_ifs <;> rfl

theorem streamRecv_conn (env : RecvEnv) (recvBufSize : ℕ) :
    (streamRecv env r s recvBufSize).conn.sendPart = r.sendPart := by
  unfold streamRecv
  split_ifs
  · rfl
  · dsimp only [streamDoRecvFlowCtl]
    rw [connWindowUpdate_conn]
    rfl

end ConnSendPart

theorem ConnRecv.connType_of_sendPart {r r' : ConnRecv} (h : r'.sendPart = r.sendPart) :
    r'.connType = r.connType := (congrArg ConnRecv.connType h :)

theorem Stream.streamId_of_sendPart {s s' : Stream} (h : s'.sendPart = s.sendPart) :
    s'.streamId = s.streamId := (congrArg Stream.streamId h :)

theorem Stream.streamType_of_sendPart {s s' : Stream} (h : s'.sendPart = s.sendPart) :
    s'.streamType = s.streamType := (congrArg Stream.streamType h :)

/-! ## Streams -/

/-- The number of a type in the low bits of an id gives the type back. -/
theorem getStreamType_index (n : ℕ) (t : StreamType) : getStreamType (4 * n + t.toNat) = t := by
  unfold getStreamType
  cases t <;> simp [StreamType.toNat, Nat.add_mod]

/-- What a step does to the receiving half of a stream. -/
def RecvChange (allow : ConnAct → Prop) (s s' : Stream) : Prop :=
  (s'.streamDataIn = s.streamDataIn ∧ s'.streamStateRecv = s.streamStateRecv ∧
      s'.streamMaxRecvOffset = s.streamMaxRecvOffset) ∨
    (∃ r f, allow (.deliver s f) ∧ s' = (processStreamFrame r s f).2.1) ∨
    (∃ r finalSize, allow (.resetRecv r s finalSize) ∧
      s' = (processResetStreamFrame r s finalSize).2) ∨
    ∃ r env recvBufSize, s' = (streamRecv env r s recvBufSize).stream

/-- What a step does to the sending half of a stream, unless it writes on it. -/
structure SendChange (allow : ConnAct → Prop) (s s' : Stream) : Prop where
  sendOffset : s'.streamSendOffset = s.streamSendOffset
  finWrite : s'.finWrite = s.finWrite
  pending : s'.pending = s.pending ∧ s'.pendingFin = s.pendingFin ∨
    SendStreamState.resetSent.toNat ≤ s'.streamStateSend.toNat ∨ allow (.dropPending s.streamId)

/-- How a stream goes on. -/
structure StreamChange (allow : ConnAct → Prop) (s s' : Stream) : Prop where
  streamId : s'.streamId = s.streamId
  streamType : s'.streamType = s.streamType
  stateSend : s.streamStateSend.toNat ≤ s'.streamStateSend.toNat
  canSend : s.streamFlowCtl.maxStreamDataCanSend ≤ s'.streamFlowCtl.maxStreamDataCanSend
  recv : RecvChange allow s s'
  send : allow (.writeStream s.streamId) ∨ SendChange allow s s'

/-- The streams after a step. -/
inductive StreamsStep (allow : ConnAct → Prop) (c : Conn) : (StreamId → Option Stream) → Prop where
  | same : StreamsStep allow c c.streams
  | params (p : TransportParams) (hexpects : expectsHandshake c = true) (hallow : allow (.params p)) :
      StreamsStep allow c fun id =>
        (c.streams id).map (streamUpdateFlowCtl (setRemoteTransportParams c p))
  | change (s s' : Stream) (hs : c.streams s.streamId = some s) (h : StreamChange allow s s') :
      StreamsStep allow c (Function.update c.streams s'.streamId (some s'))
  | opened (s : Stream) (accept : Bool) (hnone : c.streams s.streamId = none)
      (htype : s.streamType = getStreamType s.streamId) (hnew : s.IsNew accept)
      (hallow : s.streamType.isLocal c.connType = false → allow (.openPeer s.streamId)) :
      StreamsStep allow c (Function.update c.streams s.streamId (some s))
  | destroyed (id : StreamId) : StreamsStep allow c (Function.update c.streams id none)

section StreamsStep

variable {allow : ConnAct → Prop} {c c' : Conn}

theorem SendChange.refl (s : Stream) : SendChange allow s s := ⟨rfl, rfl, .inl ⟨rfl, rfl⟩⟩

theorem SendChange.of_sendPart {s s' : Stream} (h : s'.sendPart = s.sendPart) : SendChange allow s s' :=
  ⟨(congrArg Stream.streamSendOffset h :), (congrArg Stream.finWrite h :),
    .inl ⟨(congrArg Stream.pending h :), (congrArg Stream.pendingFin h :)⟩⟩

theorem StreamChange.of_sendPart {s s' : Stream} (h : s'.sendPart = s.sendPart)
    (hrecv : RecvChange allow s s') : StreamChange allow s s' :=
  ⟨Stream.streamId_of_sendPart h, Stream.streamType_of_sendPart h,
    (congrArg (fun s => s.streamStateSend.toNat) h :).ge,
    (congrArg (fun s => s.streamFlowCtl.maxStreamDataCanSend) h :).ge, hrecv, .inr (.of_sendPart h)⟩

theorem StreamsStep.change' {s s' : Stream} (hs : c.streams s.streamId = some s)
    (h : StreamChange allow s s') : StreamsStep allow c (c.setStream s').streams :=
  .change s s' hs h

theorem insertStream_streamsStep (hstreams : c'.streams = c.streams) {id : StreamId}
    {t : StreamType} (ht : t = getStreamType id) (settings : Option StreamSettings)
    (isLocal accept : Bool) (hallow : t.isLocal c.connType = false → allow (.openPeer id)) :
    StreamsStep allow c (insertStream c' id t settings isLocal accept).1.streams := by
  cases hs : c'.streams id with
  | some s =>
      unfold insertStream
      rw [hs]
      dsimp only [destroyStream]
      rw [hstreams]
      exact .destroyed id
  | none =>
      obtain ⟨s, rfl, htype, hnew, heq⟩ := insertStream_of_none hs t settings isLocal accept
      rw [heq]
      dsimp only [Conn.addLog, Conn.setStream]
      rw [hstreams]
      exact .opened s accept (by rw [← hstreams]; exact hs) (htype.trans ht) hnew
        (by rw [htype]; exact hallow)

/-- **What a step does to the streams.** -/
theorem ConnStep.streamsStep (h : ConnStep allow c c') : StreamsStep allow c c'.streams := by
  cases h with
  | recvd pktNum pos f => exact .same
  | notified pktNum pos data hrecvd => exact .same
  | write f hf =>
      rw [Conn.write_streams]
      exact .same
  | writeReset s errCode hs hstate hallow =>
      rw [Conn.write_streams]
      exact .same
  | status => exact .same
  | queue ev hev => exact .same
  | record pktNum => exact .same
  | shut => exact .same
  | params p hexpects hbelow hcheck hallow => exact .params p hexpects hallow
  | maxData limit hlt hlimit hallow => exact .same
  | maxStreamData s limit hs hlt hlimit hallow =>
      exact .change' hs ⟨rfl, rfl, le_rfl, hlt.le, .inl ⟨rfl, rfl, rfl⟩, .inr ⟨rfl, rfl, .inl ⟨rfl, rfl⟩⟩⟩
  | maxStreamsBidi limit hlt hlimit hallow => exact .same
  | maxStreamsUni limit hlt hlimit hallow => exact .same
  | window hlt => exact .same
  | streamWindow s hs hlt =>
      exact .change' hs ⟨rfl, rfl, le_rfl, le_rfl, .inl ⟨rfl, rfl, rfl⟩, .inr ⟨rfl, rfl, .inl ⟨rfl, rfl⟩⟩⟩
  | streamsCanRecv bidi uni hbidi huni => exact .same
  | openPassive c' id hpeer hopen =>
      rw [(openPassive_spec hopen).1]
      exact .same
  | openPeer id accept hpeer hnone hpassive hallow =>
      exact insertStream_streamsStep rfl rfl none false accept fun _ => hallow
  | openLocal t settings accept ht hlimit hallow =>
      have hallow : ∀ id, t.isLocal c.connType = false → allow (.openPeer id) := by
        intro id hfalse
        rw [ht] at hfalse
        cases hfalse
      split_ifs
      · refine insertStream_streamsStep ?_ (getStreamType_index _ t).symm settings true accept
          (hallow _)
        rfl
      · refine insertStream_streamsStep ?_ (getStreamType_index _ t).symm settings true accept
          (hallow _)
        rfl
  | destroy id s hs hclose => exact .destroyed id
  | deliver s f hs hend hallow =>
      exact .change' hs (.of_sendPart (processStreamFrame_sendPart c.toConnRecv s f)
        (.inr (.inl ⟨_, f, hallow, rfl⟩)))
  | resetRecv s finalSize hs hsize hallow =>
      exact .change' hs (.of_sendPart (processResetStreamFrame_sendPart c.toConnRecv s finalSize)
        (.inr (.inr (.inl ⟨_, finalSize, hallow, rfl⟩))))
  | read s env recvBufSize hs =>
      exact .change' hs (.of_sendPart (streamRecv_sendPart c.toConnRecv s env recvBufSize)
        (.inr (.inr (.inr ⟨_, env, recvBufSize, rfl⟩))))
  | firstWindow s maxSrtt hs =>
      refine .change' hs (.of_sendPart (raiseFirstWindow_sendPart s c maxSrtt) (.inl ?_))
      rw [(raiseFirstWindow_frame c s maxSrtt).2]
      exact ⟨rfl, rfl, rfl⟩
  | writeStream s fin payload sndq n hs hestab hstate hfin hconn hstream hwrite hallow =>
      exact .change' hs ⟨rfl, rfl, le_rfl, le_rfl, .inl ⟨rfl, rfl, rfl⟩, .inl hallow⟩
  | touch s s' hs hcore hstate hpending =>
      refine .change' hs ⟨Stream.streamId_of_core hcore, (congrArg Stream.streamType hcore :), hstate,
        (congrArg (fun s => s.streamFlowCtl.maxStreamDataCanSend) hcore :).ge,
        .inl ⟨(congrArg Stream.streamDataIn hcore :), (congrArg Stream.streamStateRecv hcore :),
          (congrArg Stream.streamMaxRecvOffset hcore :)⟩, ?_⟩
      have hoffset : s'.streamSendOffset = s.streamSendOffset :=
        (congrArg Stream.streamSendOffset hcore :)
      have hfin : s'.finWrite = s.finWrite := (congrArg Stream.finWrite hcore :)
      rcases hpending with hsame | hreset | hwrite | hdrop
      · exact .inr ⟨hoffset, hfin, .inl hsame⟩
      · exact .inr ⟨hoffset, hfin, .inr (.inl hreset)⟩
      · exact .inl hwrite
      · exact .inr ⟨hoffset, hfin, .inr (.inr hdrop)⟩

theorem StreamsStep.of_some {streams : StreamId → Option Stream} (h : StreamsStep allow c streams)
    {id : StreamId} {s s' : Stream} (hs : c.streams id = some s) (hs' : streams id = some s') :
    s' = s ∨
      (∃ p, expectsHandshake c = true ∧ s' = streamUpdateFlowCtl (setRemoteTransportParams c p) s) ∨
      StreamChange allow s s' := by
  cases h with
  | same => exact .inl (Option.some.inj (hs'.symm.trans hs))
  | params p hexpects hallow =>
      dsimp only at hs'
      rw [hs] at hs'
      exact .inr (.inl ⟨p, hexpects, (Option.some.inj hs').symm⟩)
  | change s₁ s₂ hs₁ hchange =>
      by_cases heq : id = s₂.streamId
      · subst heq
        rw [Function.update_self] at hs'
        rw [hchange.streamId, hs₁] at hs
        obtain rfl := Option.some.inj hs'
        obtain rfl := Option.some.inj hs
        exact .inr (.inr hchange)
      · rw [Function.update_of_ne heq, hs] at hs'
        exact .inl (Option.some.inj hs').symm
  | opened s₁ accept hnone htype hnew hallow =>
      by_cases heq : id = s₁.streamId
      · rw [heq, hnone] at hs
        cases hs
      · rw [Function.update_of_ne heq, hs] at hs'
        exact .inl (Option.some.inj hs').symm
  | destroyed id' =>
      by_cases heq : id = id'
      · rw [heq, Function.update_self] at hs'
        cases hs'
      · rw [Function.update_of_ne heq, hs] at hs'
        exact .inl (Option.some.inj hs').symm

theorem StreamsStep.of_none {streams : StreamId → Option Stream} (h : StreamsStep allow c streams)
    {id : StreamId} {s' : Stream} (hnone : c.streams id = none) (hs' : streams id = some s') :
    ∃ accept, s'.IsNew accept ∧ s'.streamId = id := by
  cases h with
  | same =>
      rw [hnone] at hs'
      cases hs'
  | params p hexpects hallow =>
      dsimp only at hs'
      rw [hnone] at hs'
      cases hs'
  | change s₁ s₂ hs₁ hchange =>
      by_cases heq : id = s₂.streamId
      · rw [heq, hchange.streamId, hs₁] at hnone
        cases hnone
      · rw [Function.update_of_ne heq, hnone] at hs'
        cases hs'
  | opened s₁ accept hnone₁ htype hnew hallow =>
      by_cases heq : id = s₁.streamId
      · rw [heq, Function.update_self] at hs'
        obtain rfl := Option.some.inj hs'
        exact ⟨accept, hnew, heq.symm⟩
      · rw [Function.update_of_ne heq, hnone] at hs'
        cases hs'
  | destroyed id' =>
      by_cases heq : id = id'
      · rw [heq, Function.update_self] at hs'
        cases hs'
      · rw [Function.update_of_ne heq, hnone] at hs'
        cases hs'

/-! ## The handshake -/

/-- What only the handshake moves, and only forward. -/
structure HandshakeMono (c c' : Conn) : Prop where
  connType : c'.connType = c.connType
  sent : c.handshakeSent = true → c'.handshakeSent = true
  recvd : c.handshakeRecvd = true → c'.handshakeRecvd = true
  done : c.handshakeDone = true → c'.handshakeDone = true
  init : c'.connState = .serverInit →
    c.connState = .serverInit ∧ c'.handshakeRecvd = c.handshakeRecvd
  closing : c.isClosing = true → c'.isClosing = true

theorem HandshakeMono.of_eq (htype : c'.connType = c.connType)
    (hsent : c'.handshakeSent = c.handshakeSent) (hrecvd : c'.handshakeRecvd = c.handshakeRecvd)
    (hdone : c'.handshakeDone = c.handshakeDone) (hstate : c'.connState = c.connState) :
    HandshakeMono c c' :=
  ⟨htype, hsent.trans, hrecvd.trans, hdone.trans, fun h => ⟨hstate.symm.trans h, hrecvd⟩,
    fun h => by rw [Conn.isClosing, hstate]; exact h⟩

theorem HandshakeMono.write (c : Conn) (f : ControlFrame) : HandshakeMono c (c.write f).1 := by
  rw [Conn.write_frame]
  exact .of_eq rfl rfl rfl rfl rfl

theorem openPassive_mono {id : StreamId} (h : openPassive c id = some c') : HandshakeMono c c' := by
  unfold openPassive at h
  split_ifs at h
  · obtain rfl := Option.some.inj h
    rw [insertPassiveStreamHash_frame]
    exact .of_eq rfl rfl rfl rfl rfl
  · obtain rfl := Option.some.inj h
    rw [insertPassiveStreamHash_frame]
    exact .of_eq rfl rfl rfl rfl rfl
  · obtain rfl := Option.some.inj h
    exact .of_eq rfl rfl rfl rfl rfl

theorem HandshakeMono.insertStream (h : HandshakeMono c c') (id : StreamId) (t : StreamType)
    (settings : Option StreamSettings) (isLocal accept : Bool) :
    HandshakeMono c (insertStream c' id t settings isLocal accept).1 := by
  unfold Rquic.insertStream
  split <;> exact ⟨h.connType, h.sent, h.recvd, h.done, h.init, h.closing⟩

theorem ConnStep.mono (h : ConnStep allow c c') : HandshakeMono c c' := by
  cases h with
  | write f hf => exact .write c f
  | writeReset s errCode hs hstate hallow => exact .write c _
  | status connState connErr handshakeSent handshakeRecvd handshakeDone dataBlocked connCloseCount
      header alpn selfProtoExt peerProtoExt herr hsent hrecvd hdone happlied hstate hinit hclosing hfits
      hheader =>
      exact ⟨rfl, hsent, hrecvd, hdone, hinit, fun h => decide_eq_true (hclosing h)⟩
  | openPassive c' id hpeer hopen => exact openPassive_mono hopen
  | openPeer id accept hpeer hnone hpassive hallow =>
      exact .insertStream (.of_eq rfl rfl rfl rfl rfl) id _ none false accept
  | openLocal t settings accept ht hlimit hallow =>
      split_ifs
      · refine .insertStream ?_ _ t settings true accept
        exact .of_eq rfl rfl rfl rfl rfl
      · refine .insertStream ?_ _ t settings true accept
        exact .of_eq rfl rfl rfl rfl rfl
  | deliver s f hs hend hallow =>
      exact .of_eq (ConnRecv.connType_of_sendPart (processStreamFrame_conn _ s f)) rfl rfl rfl rfl
  | resetRecv s finalSize hs hsize hallow =>
      exact .of_eq (ConnRecv.connType_of_sendPart (processResetStreamFrame_conn _ s finalSize)) rfl rfl
        rfl rfl
  | read s env recvBufSize hs =>
      exact .of_eq (ConnRecv.connType_of_sendPart (streamRecv_conn _ s env recvBufSize)) rfl rfl rfl rfl
  | shut => exact ⟨rfl, id, id, id, nofun, fun _ => rfl⟩
  | _ => exact .of_eq rfl rfl rfl rfl rfl

/-! ## The history -/

/-- The limit that a MAX_* frame names is in force. -/
def Conn.Meets (c : Conn) : Frame → Prop
  | .maxData limit => limit ≤ c.connFlowCtl.maxDataCanSend
  | .maxStreamData id limit => ∀ s, c.streams id = some s → limit ≤ s.streamFlowCtl.maxStreamDataCanSend
  | .maxStreams true limit => limit ≤ c.connFlowCtl.maxStreamsBidiCanSend
  | .maxStreams false limit => limit ≤ c.connFlowCtl.maxStreamsUniCanSend
  | _ => True

/-- The connection is established, and the stream is not reset. -/
def Conn.WritesOn (c : Conn) (id : StreamId) : Prop :=
  c.isEstablished = true ∧
    ∃ s, c.streams id = some s ∧ s.streamStateSend.toNat < SendStreamState.resetSent.toNat

/-- What a new entry of the history says about the step and the state behind it. -/
def LogEntry.Allowed (allow : ConnAct → Prop) (c' : Conn) : LogEntry → Prop
  | .wroteStream id .. => allow (.writeStream id) ∧ c'.WritesOn id
  | .wrote (.resetStream id ..) => allow (.writeReset id)
  | .raised f => allow (.limit f) ∧ c'.Meets f ∧
      ∀ id limit, f = .maxStreamData id limit → (c'.streams id).isSome = true
  | .notified .. => c'.handshakeRecvd = true
  | _ => True

/-- The history grows by entries that are allowed. -/
def LogGrows (allow : ConnAct → Prop) (c c' : Conn) : Prop :=
  ∃ l : List LogEntry, c'.log = c.log ++ l ∧ ∀ entry ∈ l, entry.Allowed allow c'

theorem LogGrows.same (h : c'.log = c.log) : LogGrows allow c c' :=
  ⟨[], by rw [h, List.append_nil], fun _ hmem => absurd hmem List.not_mem_nil⟩

theorem LogGrows.entry {entry : LogEntry} (h : c'.log = c.log ++ [entry])
    (hentry : entry.Allowed allow c') : LogGrows allow c c' :=
  ⟨[entry], h, fun _ hmem => List.mem_singleton.1 hmem ▸ hentry⟩

theorem LogGrows.write (c : Conn) {f : ControlFrame}
    (hf : (LogEntry.wrote f).Allowed allow (c.write f).1) :
    LogGrows allow c (c.write f).1 := by
  rcases c.write_log f with h | h
  · exact .same h
  · exact .entry h hf

theorem LogGrows.insertStream (h : c'.log = c.log) (id : StreamId) (t : StreamType)
    (settings : Option StreamSettings) (isLocal accept : Bool) :
    LogGrows allow c (insertStream c' id t settings isLocal accept).1 := by
  unfold Rquic.insertStream
  cases hs : c'.streams id with
  | some s =>
      have hlog : (destroyStream c' id).log = c.log ++ [.destroyed s] := by
        unfold destroyStream
        rw [hs, h]
        rfl
      exact .entry hlog trivial
  | none =>
      refine ⟨[.opened id], by rw [← h]; rfl, fun entry hmem => ?_⟩
      rw [List.mem_singleton.1 hmem]
      trivial

theorem Conn.Enforces.allowed {f : ControlFrame} (h : c.Enforces f) :
    (LogEntry.wrote f).Allowed allow c' := by
  cases f <;> first | exact trivial | exact h.elim

theorem ConnStep.log (h : ConnStep allow c c') : LogGrows allow c c' := by
  cases h with
  | recvd pktNum pos f => exact .entry rfl trivial
  | notified pktNum pos data hrecvd => exact .entry rfl hrecvd
  | write f hf => exact .write c hf.allowed
  | writeReset s errCode hs hstate hallow => exact .write c hallow
  | maxData limit hlt hlimit hallow => exact .entry rfl ⟨hallow, le_rfl, nofun⟩
  | maxStreamData s limit hs hlt hlimit hallow =>
      have hself := Conn.setStream_streams_self c { s with
        streamFlowCtl := { s.streamFlowCtl with maxStreamDataCanSend := limit }
        dataBlocked := false }
      refine .entry rfl ⟨hallow, fun s' hs' => ?_, fun id limit' heq => ?_⟩
      · obtain rfl := Option.some.inj (hself.symm.trans hs')
        exact le_rfl
      · obtain ⟨rfl, -⟩ := Frame.maxStreamData.inj heq
        exact Option.isSome_iff_exists.2 ⟨_, hself⟩
  | maxStreamsBidi limit hlt hlimit hallow => exact .entry rfl ⟨hallow, le_rfl, nofun⟩
  | maxStreamsUni limit hlt hlimit hallow => exact .entry rfl ⟨hallow, le_rfl, nofun⟩
  | openPassive c' id hpeer hopen =>
      unfold Rquic.openPassive at hopen
      split_ifs at hopen <;> obtain rfl := Option.some.inj hopen
      · rw [insertPassiveStreamHash_frame]
        exact .same rfl
      · rw [insertPassiveStreamHash_frame]
        exact .same rfl
      · exact .same rfl
  | openPeer id accept hpeer hnone hpassive hallow => exact .insertStream rfl id _ none false accept
  | openLocal t settings accept ht hlimit hallow =>
      split_ifs
      · exact .insertStream (by rfl) _ t settings true accept
      · exact .insertStream (by rfl) _ t settings true accept
  | destroy id s hs hclose =>
      have hlog : (destroyStream c id).log = c.log ++ [.destroyed s] := by
        unfold destroyStream
        rw [hs]
        rfl
      exact .entry hlog trivial
  | deliver s f hs hend hallow => exact .entry rfl trivial
  | resetRecv s finalSize hs hsize hallow => exact .entry rfl trivial
  | writeStream s fin payload sndq n hs hestab hstate hfin hconn hstream hwrite hallow =>
      refine .entry rfl ⟨hallow, hestab, _, Function.update_self .., ?_⟩
      exact hstate
  | _ => exact .same rfl

/-! ## Invariants of runs -/

theorem ConnStep.keyed (h : ConnStep allow c c') (hkeyed : c.Keyed) : c'.Keyed := by
  have hstep := h.streamsStep
  unfold Conn.Keyed
  generalize c'.streams = streams at hstep
  intro id s hid
  cases hstep with
  | same => exact hkeyed id s hid
  | params p hexpects hallow =>
      obtain ⟨s₀, hs₀, rfl⟩ := Option.map_eq_some_iff.1 hid
      exact hkeyed id s₀ hs₀
  | change s₁ s₂ hs₁ hchange =>
      by_cases heq : id = s₂.streamId
      · subst heq
        rw [Function.update_self] at hid
        rw [Option.some.inj hid]
      · rw [Function.update_of_ne heq] at hid
        exact hkeyed id s hid
  | opened s₁ accept hnone htype hnew hallow =>
      by_cases heq : id = s₁.streamId
      · subst heq
        rw [Function.update_self] at hid
        rw [Option.some.inj hid]
      · rw [Function.update_of_ne heq] at hid
        exact hkeyed id s hid
  | destroyed id' =>
      by_cases heq : id = id'
      · subst heq
        rw [Function.update_self] at hid
        cases hid
      · rw [Function.update_of_ne heq] at hid
        exact hkeyed id s hid

theorem ConnSteps.inv {P : Conn → Prop} (hstep : ∀ c c', ConnStep allow c c' → P c → P c')
    (h : ConnSteps allow c c') (hP : P c) : P c' := by
  induction h with
  | refl => exact hP
  | tail _ hlast ih => exact hstep _ _ hlast ih

theorem HandshakeMono.refl (c : Conn) : HandshakeMono c c := .of_eq rfl rfl rfl rfl rfl

theorem HandshakeMono.trans {c'' : Conn} (h : HandshakeMono c c') (h' : HandshakeMono c' c'') :
    HandshakeMono c c'' :=
  ⟨h'.connType.trans h.connType, h'.sent ∘ h.sent, h'.recvd ∘ h.recvd, h'.done ∘ h.done,
    fun hinit => ⟨(h.init (h'.init hinit).1).1, (h'.init hinit).2.trans (h.init (h'.init hinit).1).2⟩,
    h'.closing ∘ h.closing⟩

theorem ConnSteps.handshakeMono (h : ConnSteps allow c c') : HandshakeMono c c' :=
  h.inv (P := fun c' => HandshakeMono c c') (fun _ _ hstep h => h.trans hstep.mono) (.refl c)

theorem step_keyed (hkeyed : c.Keyed) (ev : ConnEvent) : (c.step ev).Keyed :=
  (step_steps hkeyed ev).inv (fun _ _ h => h.keyed) hkeyed

theorem connCreate_keyed (connType : ConnType) (settings : ConnSettings) (header : PktType → Bytes) :
    (connCreate connType settings header).Keyed := by
  intro id s h
  have hnone : (none : Option Stream) = some s := h
  cases hnone

end StreamsStep

/-- An invariant of the elementary steps that meet a condition is an invariant of the runs that do. -/
theorem RunMeets.steps_inv {cond : Conn → ConnEvent → Prop} {P : Conn → Prop}
    (hstep : ∀ c₀ ev, cond c₀ ev → ∀ c c', HandshakeMono c₀ c →
      ConnStep (c₀.allows ev) c c' → P c → P c')
    {evs : List ConnEvent} {c : Conn} (hkeyed : c.Keyed) (h : P c) (hmeets : RunMeets cond c evs) :
    P (c.run evs) := by
  induction evs generalizing c with
  | nil => exact h
  | cons ev evs ih =>
      rw [Conn.run_cons]
      have hnext : HandshakeMono c (c.step ev) ∧ P (c.step ev) :=
        (step_steps hkeyed ev).inv (P := fun c' => HandshakeMono c c' ∧ P c')
          (fun c₁ c₂ hlast hP => ⟨hP.1.trans hlast.mono, hstep c ev hmeets.1 c₁ c₂ hP.1 hlast hP.2⟩)
          ⟨.refl c, h⟩
      exact ih (step_keyed hkeyed ev) hnext.2 hmeets.2

end Rquic

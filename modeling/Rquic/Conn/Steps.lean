import Mathlib.Logic.Relation
import Rquic.Conn.Run

set_option autoImplicit false

/-!
# The elementary steps of a connection

Every event of a connection is a sequence of elementary steps, each of which changes one thing. An
invariant of a connection is a case analysis over them.

* `ConnAct`: the elementary steps that depend on who asked for them.
* `ConnStep`: the elementary steps, where the acts `allow` may be done.
* `*_steps`: what the connection does with its streams is a sequence of elementary steps.
-/

namespace Rquic

/-! ## Steps -/

/-- The acts that only some events may do. -/
inductive ConnAct where
  /-- A STREAM frame is handed to the receiving half of the stream. -/
  | deliver (s : Stream) (f : StreamFrame)
  /-- A RESET_STREAM frame is handed to the receiving half of the stream. -/
  | resetRecv (r : ConnRecv) (s : Stream) (finalSize : ℕ)
  | writeStream (id : StreamId)
  | writeReset (id : StreamId)
  /-- A stream of the peer is created. -/
  | openPeer (id : StreamId)
  /-- A stream of the endpoint is created. -/
  | openLocal (t : StreamType)
  /-- A MAX_* frame raises a limit for sending. -/
  | limit (f : Frame)
  /-- The parameters of the peer are applied. -/
  | params (p : TransportParams)
  /-- The handshake of the peer is accepted. -/
  | accept
  /-- The pending bytes of the stream are dropped. -/
  | dropPending (id : StreamId)
  /-- The headers of packets change. -/
  | header (header : PktType → Bytes)

/-- The type of the streams that an endpoint opens in a direction. -/
def ConnType.localType (connType : ConnType) (bidirectional : Bool) : StreamType :=
  match connType, bidirectional with
  | .client, true => .cliBid
  | .client, false => .cliUni
  | .server, true => .svrBid
  | .server, false => .svrUni

/-- A stream without its flags, its pending bytes and the state of its sending half. -/
def Stream.core (s : Stream) : Stream :=
  { s with
    streamStateSend := .ready, atomicCtx := none, readyToRead := false, readyToWrite := false
    dataBlocked := false, needClose := false }

/-- The limit on the streams of a type that the peer may open. -/
def Conn.peerLimit (c : Conn) (t : StreamType) : ℕ :=
  if t.isBidi then c.connFlowCtl.maxStreamsBidiCanRecv else c.connFlowCtl.maxStreamsUniCanRecv

/-- The highest index of a type that the peer has named. -/
def Conn.maxRemote (c : Conn) (t : StreamType) : ℤ :=
  if t.isBidi then c.maxStreamIdBidiRemote else c.maxStreamIdUniRemote

/-- A frame that names the peer's stream `id` opens it: there is none, the limit admits it, and it was
not closed before. -/
structure Conn.OpensPeer (c : Conn) (id : StreamId) : Prop where
  none : c.streams id = none
  peer : (getStreamType id).isLocal c.connType = false
  admits : id < u64Add (u64Mul 4 (c.peerLimit (getStreamType id))) (getStreamType id).toNat
  unseen : c.maxRemote (getStreamType id) < (id / 4 : ℕ) ∨ c.passiveStreams id = true

instance (c : Conn) (id : StreamId) : Decidable (c.OpensPeer id) :=
  decidable_of_iff (c.streams id = none ∧ (getStreamType id).isLocal c.connType = false ∧
      id < u64Add (u64Mul 4 (c.peerLimit (getStreamType id))) (getStreamType id).toNat ∧
      (c.maxRemote (getStreamType id) < (id / 4 : ℕ) ∨ c.passiveStreams id = true))
    ⟨fun h => ⟨h.1, h.2.1, h.2.2.1, h.2.2.2⟩, fun h => ⟨h.none, h.peer, h.admits, h.unseen⟩⟩

/-- A stream before anything was received or sent. -/
structure Stream.IsNew (s : Stream) (accept : Bool) : Prop where
  dataIn : s.streamDataIn = {}
  stateRecv : s.streamStateRecv = .recv
  stateSend : s.streamStateSend = .ready
  maxRecvOffset : s.streamMaxRecvOffset = 0
  sendOffset : s.streamSendOffset = 0
  pending : s.pending = []
  discarded : s.discarded = !accept

/-- The limits for sending are those of the peer's parameters. -/
def Conn.LimitsApplied (c : Conn) : Prop :=
  c.connFlowCtl.maxDataCanSend = c.remoteSettings.maxData ∧
    c.connFlowCtl.maxStreamsBidiCanSend = c.remoteSettings.maxStreamsBidi ∧
    c.connFlowCtl.maxStreamsUniCanSend = c.remoteSettings.maxStreamsUni ∧
    ∀ id s, c.streams id = some s →
      s.streamFlowCtl.maxStreamDataCanSend = sendLimit c.connType s.streamType c.remoteSettings

/-- The own HANDSHAKE frame fits a packet. -/
def Conn.HandshakeFits (c : Conn) : Prop :=
  ∃ tp, encodeTransportParams c.localSettings.params tpCap = .ok tp ∧
    (c.header .init).length + tp.length + 4 ≤ c.pktOutSize.1

/-- The handshake of the peer was accepted. -/
def ConnState.accepted : ConnState → Bool
  | .serverHandshake | .estabed => true
  | _ => false

/-- A window update stays within what the connection enforces. -/
def Conn.Enforces (c : Conn) : ControlFrame → Prop
  | .maxData limit => limit = c.connFlowCtl.maxDataCanRecv
  | .maxStreamData id limit => ∃ s, c.streams id = some s ∧ limit = s.streamFlowCtl.maxStreamDataCanRecv
  | .resetStream .. => False
  | _ => True

/-- The events of the send queue that the engine and the ACK handler make. -/
def SendEvent.isEngine : SendEvent → Bool
  | .stream .. | .recvPacket _ => false
  | .control _ (.resetStream ..) _ _ _ => false
  | _ => true

/-- The elementary steps. -/
inductive ConnStep (allow : ConnAct → Prop) : Conn → Conn → Prop where
  | recvd (c : Conn) (pktNum pos : ℕ) (f : WireFrame) :
      ConnStep allow c (c.addLog (.recvd pktNum pos f.1))
  | notified (c : Conn) (pktNum pos : ℕ) (data : Bytes) (hrecvd : c.handshakeRecvd = true) :
      ConnStep allow c (c.addLog (.notified pktNum pos data))
  | write (c : Conn) (f : ControlFrame) (hf : c.Enforces f) : ConnStep allow c (c.write f).1
  | writeReset (c : Conn) (s : Stream) (errCode : ℕ) (hs : c.streams s.streamId = some s)
      (hstate : s.streamStateSend.toNat < SendStreamState.resetSent.toNat)
      (hallow : allow (.writeReset s.streamId)) :
      ConnStep allow c (c.write (.resetStream s.streamId errCode s.streamSendOffset)).1
  /-- Flags of the connection. The limits are applied when the handshake is received. -/
  | status (c : Conn) (connState : ConnState) (connErr : Option TraErr)
      (handshakeSent handshakeRecvd handshakeDone dataBlocked : Bool) (connCloseCount : ℕ)
      (header : PktType → Bytes) (alpn selfProtoExt peerProtoExt : Bytes)
      (herr : c.connErr.isSome = true → connErr = c.connErr)
      (hsent : c.handshakeSent = true → handshakeSent = true)
      (hrecvd : c.handshakeRecvd = true → handshakeRecvd = true)
      (hdone : c.handshakeDone = true → handshakeDone = true)
      (happlied : handshakeRecvd = true →
        c.handshakeRecvd = true ∨ (c.LimitsApplied ∧ allow .accept))
      (hstate : connState.accepted = true → c.connState.accepted = true ∨ handshakeRecvd = true)
      (hinit : connState = .serverInit →
        c.connState = .serverInit ∧ handshakeRecvd = c.handshakeRecvd)
      (hclosing : c.isClosing = true → ConnState.closing.toNat ≤ connState.toNat)
      (hfits : connState = .clientHandshake ∨ handshakeRecvd = true →
        (c.connState = .clientHandshake ∨ c.handshakeRecvd = true) ∨ c.HandshakeFits)
      (hheader : header = c.header ∨ allow (.header header)) :
      ConnStep allow c { c with
        connState := connState, connErr := connErr, handshakeSent := handshakeSent
        handshakeRecvd := handshakeRecvd, handshakeDone := handshakeDone
        dataBlocked := dataBlocked, connCloseCount := connCloseCount, header := header
        alpn := alpn, selfProtoExt := selfProtoExt, peerProtoExt := peerProtoExt }
  | queue (c : Conn) (ev : SendEvent) (hev : ev.isEngine = true) :
      ConnStep allow c { c with sndq := c.sndq.step ev }
  | record (c : Conn) (pktNum : ℕ) :
      ConnStep allow c { c with sndq := c.sndq.step (.recvPacket pktNum) }
  | shut (c : Conn) : ConnStep allow c { c with sndq := c.sndq.dropPackets, connState := .closing }
  | params (c : Conn) (p : TransportParams) (hexpects : expectsHandshake c = true)
      (hbelow : p.Below (2 ^ 62)) (hcheck : checkTransportParams p = true)
      (hallow : allow (.params p)) :
      ConnStep allow c (updateFlowCtlSettings (setRemoteTransportParams c p))
  | maxData (c : Conn) (limit : ℕ) (hlt : c.connFlowCtl.maxDataCanSend < limit)
      (hlimit : limit < 2 ^ 62) (hallow : allow (.limit (.maxData limit))) :
      ConnStep allow c { c with
        connFlowCtl := { c.connFlowCtl with maxDataCanSend := limit }
        dataBlocked := false
        log := c.log ++ [.raised (.maxData limit)] }
  | maxStreamData (c : Conn) (s : Stream) (limit : ℕ) (hs : c.streams s.streamId = some s)
      (hlt : s.streamFlowCtl.maxStreamDataCanSend < limit) (hlimit : limit < 2 ^ 62)
      (hallow : allow (.limit (.maxStreamData s.streamId limit))) :
      ConnStep allow c ((c.setStream { s with
        streamFlowCtl := { s.streamFlowCtl with maxStreamDataCanSend := limit }
        dataBlocked := false }).addLog (.raised (.maxStreamData s.streamId limit)))
  | maxStreamsBidi (c : Conn) (limit : ℕ) (hlt : c.connFlowCtl.maxStreamsBidiCanSend < limit)
      (hlimit : limit ≤ maxStreams) (hallow : allow (.limit (.maxStreams true limit))) :
      ConnStep allow c { c with
        connFlowCtl := { c.connFlowCtl with maxStreamsBidiCanSend := limit }
        log := c.log ++ [.raised (.maxStreams true limit)] }
  | maxStreamsUni (c : Conn) (limit : ℕ) (hlt : c.connFlowCtl.maxStreamsUniCanSend < limit)
      (hlimit : limit ≤ maxStreams) (hallow : allow (.limit (.maxStreams false limit))) :
      ConnStep allow c { c with
        connFlowCtl := { c.connFlowCtl with maxStreamsUniCanSend := limit }
        log := c.log ++ [.raised (.maxStreams false limit)] }
  | window (c : Conn)
      (hlt : c.connFlowCtl.maxDataCanRecv <
        u64Add c.connFlowCtl.dataRead c.connFlowCtl.recvWindowsSize) :
      ConnStep allow c { c with connFlowCtl := { c.connFlowCtl with
        maxDataCanRecv := u64Add c.connFlowCtl.dataRead c.connFlowCtl.recvWindowsSize } }
  | streamWindow (c : Conn) (s : Stream) (hs : c.streams s.streamId = some s)
      (hlt : s.streamFlowCtl.maxStreamDataCanRecv <
        u64Add s.streamDataIn.nextReadOffset s.streamFlowCtl.streamRecvWindowSize) :
      ConnStep allow c (c.setStream { s with streamFlowCtl := { s.streamFlowCtl with
        maxStreamDataCanRecv :=
          u64Add s.streamDataIn.nextReadOffset s.streamFlowCtl.streamRecvWindowSize } })
  | streamsCanRecv (c : Conn) (bidi uni : ℕ)
      (hbidi : c.connFlowCtl.maxStreamsBidiCanRecv + c.localSettings.maxStreamsBidi < 2 ^ 63 →
        c.connFlowCtl.maxStreamsBidiCanRecv ≤ bidi)
      (huni : c.connFlowCtl.maxStreamsUniCanRecv + c.localSettings.maxStreamsUni < 2 ^ 63 →
        c.connFlowCtl.maxStreamsUniCanRecv ≤ uni) :
      ConnStep allow c { c with connFlowCtl := { c.connFlowCtl with
        maxStreamsBidiCanRecv := bidi, maxStreamsUniCanRecv := uni } }
  | openPassive (c c' : Conn) (id : StreamId)
      (hpeer : (getStreamType id).isLocal c.connType = false) (h : openPassive c id = some c') :
      ConnStep allow c c'
  | openPeer (c : Conn) (id : StreamId) (accept : Bool)
      (hpeer : (getStreamType id).isLocal c.connType = false) (hnone : c.streams id = none)
      (hpassive : c.passiveStreams id = true) (hallow : allow (.openPeer id)) :
      ConnStep allow c (insertStream c id (getStreamType id) none false accept).1
  | openLocal (c : Conn) (t : StreamType) (settings : Option StreamSettings) (accept : Bool)
      (ht : t.isLocal c.connType = true)
      (hlimit : (if t.isBidi then c.curStreamIdBidiLocal else c.curStreamIdUniLocal) <
        (if t.isBidi then c.connFlowCtl.maxStreamsBidiCanSend
          else c.connFlowCtl.maxStreamsUniCanSend))
      (hallow : allow (.openLocal t)) :
      ConnStep allow c
        (if t.isBidi then
          insertStream { c with curStreamIdBidiLocal := c.curStreamIdBidiLocal + 1 }
            (4 * c.curStreamIdBidiLocal + t.toNat) t settings true accept
        else
          insertStream { c with curStreamIdUniLocal := c.curStreamIdUniLocal + 1 }
            (4 * c.curStreamIdUniLocal + t.toNat) t settings true accept).1
  | destroy (c : Conn) (id : StreamId) (s : Stream) (hs : c.streams id = some s)
      (hclose : s.needClose = true) : ConnStep allow c (destroyStream c id)
  | deliver (c : Conn) (s : Stream) (f : StreamFrame) (hs : c.streams s.streamId = some s)
      (hend : f.endOffset < 2 ^ 62) (hallow : allow (.deliver s f)) :
      ConnStep allow c ((Conn.setStream
        { c with toConnRecv := (processStreamFrame c.toConnRecv s f).1 }
        (processStreamFrame c.toConnRecv s f).2.1).addLog (.gotData s.streamId f.endOffset))
  | resetRecv (c : Conn) (s : Stream) (finalSize : ℕ) (hs : c.streams s.streamId = some s)
      (hsize : finalSize < 2 ^ 62) (hallow : allow (.resetRecv c.toConnRecv s finalSize)) :
      ConnStep allow c ((Conn.setStream
        { c with toConnRecv := (processResetStreamFrame c.toConnRecv s finalSize).1 }
        (processResetStreamFrame c.toConnRecv s finalSize).2).addLog (.gotReset s.streamId finalSize))
  | read (c : Conn) (s : Stream) (env : RecvEnv) (recvBufSize : ℕ)
      (hs : c.streams s.streamId = some s) :
      ConnStep allow c (Conn.setStream
        { c with toConnRecv := (streamRecv env c.toConnRecv s recvBufSize).conn }
        (streamRecv env c.toConnRecv s recvBufSize).stream)
  | firstWindow (c : Conn) (s : Stream) (maxSrtt : ℕ) (hs : c.streams s.streamId = some s) :
      ConnStep allow c (c.setStream (raiseFirstWindow c s maxSrtt).2)
  | writeStream (c : Conn) (s : Stream) (fin : Bool) (payload : Bytes) (sndq : SendQueue) (n : ℕ)
      (hs : c.streams s.streamId = some s) (hestab : c.isEstablished = true)
      (hstate : s.streamStateSend.toNat < SendStreamState.resetSent.toNat)
      (hfin : s.finWrite = false)
      (hconn : connSendBlocked c = false) (hstream : streamSendBlocked c s = false)
      (hwrite : writeStreamFrame c.sndq (s.streamPriority = .high) (c.params .shortHeader) s.streamId
        s.streamSendOffset fin payload = .ok (sndq, n))
      (hallow : allow (.writeStream s.streamId)) :
      ConnStep allow c (Conn.setStream
        (countSent (Conn.addLog { c with sndq := sndq }
          (.wroteStream s.streamId s.streamSendOffset (fin && n = payload.length)
            (payload.take n))) s n (fin && n = payload.length)).1
        (countSent (Conn.addLog { c with sndq := sndq }
          (.wroteStream s.streamId s.streamSendOffset (fin && n = payload.length)
            (payload.take n))) s n (fin && n = payload.length)).2)
  /-- Flags and the sending half of a stream. -/
  | touch (c : Conn) (s s' : Stream) (hs : c.streams s.streamId = some s) (hcore : s'.core = s.core)
      (hstate : s.streamStateSend.toNat ≤ s'.streamStateSend.toNat)
      (hpending : s'.pending = s.pending ∧ s'.pendingFin = s.pendingFin ∨
        SendStreamState.resetSent.toNat ≤ s'.streamStateSend.toNat ∨
        allow (.writeStream s.streamId) ∨ allow (.dropPending s.streamId)) :
      ConnStep allow c (c.setStream s')

/-- Sequences of elementary steps. -/
abbrev ConnSteps (allow : ConnAct → Prop) : Conn → Conn → Prop :=
  Relation.ReflTransGen (ConnStep allow)

/-- Every stream is stored under its id. -/
def Conn.Keyed (c : Conn) : Prop := ∀ id s, c.streams id = some s → s.streamId = id

@[simp] theorem Conn.setStream_streams_self (c : Conn) (s : Stream) :
    (c.setStream s).streams s.streamId = some s := Function.update_self ..

theorem Conn.setStream_streams_of_ne (c : Conn) (s : Stream) {id : StreamId} (h : id ≠ s.streamId) :
    (c.setStream s).streams id = c.streams id := Function.update_of_ne h ..

theorem Conn.setStream_setStream (c : Conn) {s s' : Stream} (h : s'.streamId = s.streamId) :
    (c.setStream s).setStream s' = c.setStream s' := by
  unfold Conn.setStream
  simp only [h, Function.update_idem]

theorem Conn.setStream_eq_self {c : Conn} {s : Stream} (h : c.streams s.streamId = some s) :
    c.setStream s = c := by
  unfold Conn.setStream
  rw [← h, Function.update_eq_self]

/-- A control frame gets a packet if the packet has room for its header and the frame. -/
theorem controlPacket_ok_iff (params : PktParams) (f : ControlFrame) (notify : Bool) (bufSize : ℕ) :
    (∃ po, controlPacket params f notify bufSize = .ok po) ↔
      params.header.length + f.need ≤ params.pktOutSize.1 := by
  unfold controlPacket PktParams.newPacket
  by_cases hheader : params.pktOutSize.1 < params.header.length
  · rw [if_pos hheader]
    refine ⟨fun h => ?_, fun h => by omega⟩
    obtain ⟨po, hpo⟩ := h
    cases hpo
  · rw [if_neg hheader, ok_bind]
    have hroom : (writeNewPacket params.pktType params.pktOutSize.1 params.header).remainedSize =
        params.pktOutSize.1 - params.header.length := by
      unfold PacketOut.remainedSize writeNewPacket
      dsimp only
      split_ifs <;> omega
    unfold genControlFrame
    rw [hroom]
    by_cases hneed : params.pktOutSize.1 - params.header.length < f.need
    · rw [if_pos hneed]
      refine ⟨fun h => ?_, fun h => by omega⟩
      obtain ⟨po, hpo⟩ := h
      cases hpo
    · rw [if_neg hneed, ok_bind]
      exact ⟨fun _ => by omega, fun _ => ⟨_, rfl⟩⟩

theorem Conn.write_of_error {c : Conn} {f : ControlFrame} {e : Errno}
    (h : controlPacket (c.params (f.pktType c)) f false 0 = .error e) :
    c.write f = (c, .error e) := by
  simp only [Conn.write, h]

theorem Conn.write_of_ok {c : Conn} {f : ControlFrame} {po : PacketOut}
    (h : controlPacket (c.params (f.pktType c)) f false 0 = .ok po) :
    c.write f = ({ c with
      sndq := writeControlFrame c.sndq (c.params (f.pktType c)) f false 0 c.handshakeDone
      log := c.log ++ [.wrote f] }, .ok ()) := by
  simp only [Conn.write, h]

/-- Writing a control frame has nothing to do with the streams. -/
theorem Conn.write_setStream (c : Conn) (s : Stream) (f : ControlFrame) :
    (c.setStream s).write f = ((c.write f).1.setStream s, (c.write f).2) := by
  cases h : controlPacket (c.params (f.pktType c)) f false 0 with
  | error e =>
      rw [Conn.write_of_error h]
      exact Conn.write_of_error (c := c.setStream s) h
  | ok po =>
      rw [Conn.write_of_ok h]
      exact Conn.write_of_ok (c := c.setStream s) h

theorem Conn.write_frame (c : Conn) (f : ControlFrame) :
    (c.write f).1 = { c with sndq := (c.write f).1.sndq, log := (c.write f).1.log } := by
  cases h : controlPacket (c.params (f.pktType c)) f false 0 with
  | error e => rw [Conn.write_of_error h]
  | ok po => rw [Conn.write_of_ok h]

theorem Conn.write_ok_iff (c : Conn) (f : ControlFrame) :
    (c.write f).2 = .ok () ↔
      (c.header (f.pktType c)).length + f.need ≤ c.pktOutSize.1 := by
  have hfits := controlPacket_ok_iff (c.params (f.pktType c)) f false 0
  constructor
  · intro hok
    cases h : controlPacket (c.params (f.pktType c)) f false 0 with
    | error e =>
        rw [Conn.write_of_error h] at hok
        cases hok
    | ok po => exact hfits.1 ⟨po, h⟩
  · intro hle
    obtain ⟨po, h⟩ := hfits.2 hle
    rw [Conn.write_of_ok h]

theorem Conn.write_log (c : Conn) (f : ControlFrame) :
    (c.write f).1.log = c.log ∨ (c.write f).1.log = c.log ++ [.wrote f] := by
  cases h : controlPacket (c.params (f.pktType c)) f false 0 with
  | error e => exact .inl (by rw [Conn.write_of_error h])
  | ok po => exact .inr (by rw [Conn.write_of_ok h])

/-! ## Writing and closing -/

section Steps

variable {allow : ConnAct → Prop} {c : Conn}

theorem write_steps (c : Conn) (f : ControlFrame) (hf : c.Enforces f) :
    ConnSteps allow c (c.write f).1 :=
  .single (.write c f hf)

theorem flags_steps (c : Conn) (connState : ConnState) (connErr : Option TraErr)
    (dataBlocked : Bool) (connCloseCount : ℕ)
    (herr : c.connErr.isSome = true → connErr = c.connErr)
    (hstate : connState = c.connState ∨ ConnState.closing.toNat ≤ connState.toNat) :
    ConnSteps allow c { c with
      connState := connState, connErr := connErr, dataBlocked := dataBlocked
      connCloseCount := connCloseCount } := by
  refine .single (.status c connState connErr c.handshakeSent c.handshakeRecvd c.handshakeDone
    dataBlocked connCloseCount c.header c.alpn c.selfProtoExt c.peerProtoExt herr id id id .inl ?_ ?_ ?_
    ?_ (.inl rfl))
  · intro haccepted
    rcases hstate with rfl | hclosing
    · exact .inl haccepted
    · cases connState <;> first | exact absurd hclosing (by decide) | cases haccepted
  · intro hinit
    rcases hstate with rfl | hclosing
    · exact ⟨hinit, rfl⟩
    · rw [hinit] at hclosing
      exact absurd hclosing (by decide)
  · intro hwas
    rcases hstate with rfl | hclosing
    · exact of_decide_eq_true hwas
    · exact hclosing
  · intro hnext
    rcases hstate with rfl | hclosing
    · exact .inl hnext
    · refine hnext.elim (fun hclient => ?_) (fun hrecvd => .inl (.inr hrecvd))
      rw [hclient] at hclosing
      exact absurd hclosing (by decide)

theorem raise_connErr_of_isSome (err : TraErr) (h : c.connErr.isSome = true) :
    (c.raise err).connErr = c.connErr := by
  unfold Conn.raise ConnRecv.raise
  split
  · rename_i hnone
    rw [hnone] at h
    cases h
  · rfl

theorem Conn.raise_eq (c : Conn) (err : TraErr) :
    c.raise err = { c with connErr := (c.raise err).connErr } := by
  unfold Conn.raise ConnRecv.raise
  split <;> rfl

theorem raise_steps (c : Conn) (err : TraErr) : ConnSteps allow c (c.raise err) := by
  rw [Conn.raise_eq]
  exact flags_steps c c.connState _ c.dataBlocked c.connCloseCount (raise_connErr_of_isSome err)
    (.inl rfl)

theorem writeConnClose_steps (c : Conn) : ConnSteps allow c (writeConnClose c) := by
  unfold writeConnClose
  split_ifs
  · exact (write_steps c (.connClose _) trivial).trans
      (flags_steps _ _ _ _ _ (fun _ => rfl) (.inl rfl))
  · exact .refl

theorem immediateClose_steps (c : Conn) : ConnSteps allow c (immediateClose c) := by
  unfold immediateClose
  split_ifs
  · exact .refl
  · exact flags_steps c .closed c.connErr c.dataBlocked c.connCloseCount (fun _ => rfl)
      (.inr (by decide))
  · exact flags_steps c .closed c.connErr c.dataBlocked c.connCloseCount (fun _ => rfl)
      (.inr (by decide))
  · exact writeConnClose_steps c
  · exact (Relation.ReflTransGen.single (.shut c)).trans (writeConnClose_steps _)

/-! ## Streams -/

theorem createLocalFlowCtl_steps (c : Conn) (t : StreamType) :
    ConnSteps allow c (createLocalFlowCtl c t).1 := by
  unfold createLocalFlowCtl
  simp only
  split_ifs
  all_goals first | exact write_steps _ _ trivial | exact .refl

theorem u64Add_ge {a b : ℕ} (h : a + b < 2 ^ 63) : a ≤ u64Add a b := by
  rw [u64Add_eq (by omega)]
  omega

theorem createPeerFlowCtl_steps (c : Conn) (id : StreamId) :
    ConnSteps allow c (createPeerFlowCtl c id).1 := by
  unfold createPeerFlowCtl
  simp only
  split_ifs with h₁ h₂ h₃
  · exact raise_steps c _
  · refine .trans (.single (.streamsCanRecv c _ c.connFlowCtl.maxStreamsUniCanRecv u64Add_ge
      fun _ => le_rfl)) (write_steps _ _ trivial)
  · exact .refl
  · exact raise_steps c _
  · refine .trans (.single (.streamsCanRecv c c.connFlowCtl.maxStreamsBidiCanRecv _ (fun _ => le_rfl)
      u64Add_ge)) (write_steps _ _ trivial)
  · exact .refl

/-- What the flow control of stream creation leaves as it is. -/
structure SameStreams (c c' : Conn) : Prop where
  streams : c'.streams = c.streams
  passiveStreams : c'.passiveStreams = c.passiveStreams
  connType : c'.connType = c.connType
  maxRemote : c'.maxRemote = c.maxRemote
  dataRecved : c'.connFlowCtl.dataRecved = c.connFlowCtl.dataRecved
  maxDataCanRecv : c'.connFlowCtl.maxDataCanRecv = c.connFlowCtl.maxDataCanRecv

theorem SameStreams.refl (c : Conn) : SameStreams c c := ⟨rfl, rfl, rfl, rfl, rfl, rfl⟩

theorem SameStreams.raise (c : Conn) (err : TraErr) : SameStreams c (c.raise err) := by
  rw [Conn.raise_eq]
  exact ⟨rfl, rfl, rfl, rfl, rfl, rfl⟩

theorem SameStreams.write (c : Conn) (f : ControlFrame) : SameStreams c (c.write f).1 := by
  rw [Conn.write_frame]
  exact ⟨rfl, rfl, rfl, rfl, rfl, rfl⟩

theorem SameStreams.trans {c c' c'' : Conn} (h : SameStreams c c') (h' : SameStreams c' c'') :
    SameStreams c c'' :=
  ⟨h'.streams.trans h.streams, h'.passiveStreams.trans h.passiveStreams,
    h'.connType.trans h.connType, h'.maxRemote.trans h.maxRemote,
    h'.dataRecved.trans h.dataRecved, h'.maxDataCanRecv.trans h.maxDataCanRecv⟩

theorem createPeerFlowCtl_same (c : Conn) (id : StreamId) :
    SameStreams c (createPeerFlowCtl c id).1 := by
  unfold createPeerFlowCtl
  simp only
  split_ifs
  · exact .raise c _
  · refine .trans ?_ (.write _ _)
    exact ⟨rfl, rfl, rfl, rfl, rfl, rfl⟩
  · exact .refl c
  · exact .raise c _
  · refine .trans ?_ (.write _ _)
    exact ⟨rfl, rfl, rfl, rfl, rfl, rfl⟩
  · exact .refl c

theorem createPeerFlowCtl_ok {c' : Conn} {id : StreamId} {u : Unit}
    (h : createPeerFlowCtl c id = (c', .ok u)) :
    id < u64Add (u64Mul 4 (c.peerLimit (getStreamType id))) (getStreamType id).toNat := by
  by_contra hle
  have hle' := not_lt.1 hle
  unfold createPeerFlowCtl Conn.peerLimit at *
  simp only [if_pos hle'] at h
  cases (Prod.mk.inj h).2

theorem insertPassiveStreamHash_frame (c : Conn) (curMaxSid : ℤ) (id : StreamId) :
    insertPassiveStreamHash c curMaxSid id = { c with
      connErr := (insertPassiveStreamHash c curMaxSid id).connErr
      passiveStreams := fun id' => c.passiveStreams id' ||
        decide (getStreamType id' = getStreamType id ∧ curMaxSid < (id' / 4 : ℕ)
          ∧ id' / 4 ≤ id / 4) } := by
  unfold insertPassiveStreamHash
  simp only
  split_ifs
  · rw [Conn.raise_eq]
  · rfl

theorem openPassive_spec {c' : Conn} {id : StreamId} (h : openPassive c id = some c') :
    c'.streams = c.streams ∧ c'.connType = c.connType ∧ c'.connFlowCtl = c.connFlowCtl ∧
      c'.passiveStreams id = true ∧
      (c.maxRemote (getStreamType id) < (id / 4 : ℕ) ∨ c.passiveStreams id = true) := by
  unfold openPassive at h
  unfold Conn.maxRemote
  split_ifs at h with h₁ h₂ h₃
  · obtain rfl := Option.some.inj h
    rw [insertPassiveStreamHash_frame, if_pos h₁.1]
    exact ⟨rfl, rfl, rfl, Bool.or_eq_true_iff.2 (.inr (decide_eq_true ⟨rfl, h₁.2, le_rfl⟩)),
      .inl h₁.2⟩
  · obtain rfl := Option.some.inj h
    rw [insertPassiveStreamHash_frame, if_neg (by simp [h₂.1])]
    exact ⟨rfl, rfl, rfl, Bool.or_eq_true_iff.2 (.inr (decide_eq_true ⟨rfl, h₂.2, le_rfl⟩)),
      .inl h₂.2⟩
  · obtain rfl := Option.some.inj h
    exact ⟨rfl, rfl, rfl, h₃, .inr h₃⟩

theorem insertStream_of_none {id : StreamId} (hnone : c.streams id = none) (t : StreamType)
    (settings : Option StreamSettings) (isLocal accept : Bool) :
    ∃ s : Stream, s.streamId = id ∧ s.streamType = t ∧ s.IsNew accept ∧
      insertStream c id t settings isLocal accept =
        ((c.setStream s).addLog (.opened id), some s) := by
  unfold insertStream
  rw [hnone]
  exact ⟨_, rfl, rfl, ⟨rfl, rfl, rfl, rfl, rfl, rfl, rfl⟩, rfl⟩

theorem createLocalFlowCtl_ok {c' : Conn} {t : StreamType} {u : Unit}
    (h : createLocalFlowCtl c t = (c', .ok u)) :
    c' = c ∧ (if t.isBidi then c.curStreamIdBidiLocal else c.curStreamIdUniLocal) <
      (if t.isBidi then c.connFlowCtl.maxStreamsBidiCanSend
        else c.connFlowCtl.maxStreamsUniCanSend) := by
  unfold createLocalFlowCtl at h
  cases hbidi : t.isBidi with
  | true =>
      simp only [hbidi, if_true] at h ⊢
      split_ifs at h with hle
      · cases (Prod.mk.inj h).2
      · exact ⟨(Prod.mk.inj h).1.symm, not_le.1 hle⟩
  | false =>
      simp only [hbidi, Bool.false_eq_true, if_false] at h ⊢
      split_ifs at h with hle
      · cases (Prod.mk.inj h).2
      · exact ⟨(Prod.mk.inj h).1.symm, not_le.1 hle⟩

theorem createLocalStream_steps {t : StreamType} (ht : t.isLocal c.connType = true)
    (hallow : allow (.openLocal t)) (settings : Option StreamSettings) (accept : Bool) :
    ConnSteps allow c (createLocalStream c t settings accept).1 := by
  unfold createLocalStream
  by_cases hclosing : c.isClosing = true
  · rw [if_pos hclosing]
  · rw [if_neg hclosing]
    have hflow : ConnSteps allow c (createLocalFlowCtl c t).1 := createLocalFlowCtl_steps c t
    cases hfc : createLocalFlowCtl c t with
    | mk c' ret =>
        rw [hfc] at hflow
        cases ret with
        | error e => exact hflow
        | ok u =>
            obtain ⟨rfl, hlt⟩ := createLocalFlowCtl_ok hfc
            exact .single (.openLocal c' t settings accept ht hlt hallow)

theorem streamCreate_steps (c : Conn) (dir : StreamDirection) (settings : Option StreamSettings)
    (accept : Bool) (hallow : allow (.openLocal (c.connType.localType (dir = .bidi)))) :
    ConnSteps allow c (streamCreate c dir settings accept).1 := by
  unfold streamCreate
  cases hc : c.connType <;> rw [hc] at hallow <;> cases dir <;>
    exact createLocalStream_steps (by rw [hc]; rfl) hallow _ accept

theorem createPeerStream_steps {id : StreamId}
    (hpeer : (getStreamType id).isLocal c.connType = false) (hnone : c.streams id = none)
    (hpassive : c.passiveStreams id = true) (hallow : allow (.openPeer id)) (accept : Bool) :
    ConnSteps allow c (createPeerStream c id accept).1 := by
  unfold createPeerStream
  split_ifs
  · exact .refl
  · have hflow : ConnSteps allow c (createPeerFlowCtl c id).1 := createPeerFlowCtl_steps c id
    have hsame := createPeerFlowCtl_same c id
    cases hfc : createPeerFlowCtl c id with
    | mk c' ret =>
        rw [hfc] at hflow hsame
        cases ret with
        | error e => exact hflow
        | ok u =>
            refine hflow.trans (.single (.openPeer c' id accept ?_ ?_ ?_ hallow))
            · rw [hsame.connType]
              exact hpeer
            · rw [hsame.streams]
              exact hnone
            · rw [hsame.passiveStreams]
              exact hpassive

theorem passiveCreateStream_steps {id : StreamId}
    (hpeer : (getStreamType id).isLocal c.connType = false) (hnone : c.streams id = none)
    (hallow : c.OpensPeer id → allow (.openPeer id)) (accept : Bool) :
    ConnSteps allow c (passiveCreateStream c id accept).1 := by
  unfold passiveCreateStream
  have hflow : ConnSteps allow c (createPeerFlowCtl c id).1 := createPeerFlowCtl_steps c id
  have hsame := createPeerFlowCtl_same c id
  cases hfc : createPeerFlowCtl c id with
  | mk c₁ ret =>
      rw [hfc] at hflow hsame
      cases ret with
      | error e => exact hflow
      | ok u =>
          dsimp only
          split
          · exact hflow
          · rename_i c₂ hopen
            obtain ⟨hstreams₂, htype₂, -, hpass, hunseen⟩ := openPassive_spec hopen
            have hpeer₁ : (getStreamType id).isLocal c₁.connType = false := by
              rw [hsame.connType]
              exact hpeer
            rw [hsame.maxRemote, hsame.passiveStreams] at hunseen
            have hopens : c.OpensPeer id := ⟨hnone, hpeer, createPeerFlowCtl_ok hfc, hunseen⟩
            have hsteps : ConnSteps allow c c₂ := hflow.tail (.openPassive c₁ c₂ id hpeer₁ hopen)
            have hcreate : ConnSteps allow c₂ (createPeerStream c₂ id accept).1 :=
              createPeerStream_steps (by rw [htype₂]; exact hpeer₁)
                (by rw [hstreams₂, hsame.streams]; exact hnone) hpass (hallow hopens) accept
            split
            · rename_i c₃ heq
              rw [heq] at hcreate
              exact (hsteps.trans hcreate).trans (raise_steps c₃ _)
            · rename_i c₃ s heq
              rw [heq] at hcreate
              exact hsteps.trans hcreate

theorem peerStream_steps {id : StreamId} (hallow : c.OpensPeer id → allow (.openPeer id))
    (accept : Bool) : ConnSteps allow c (peerStream c id accept).1 := by
  unfold peerStream
  split
  · exact .refl
  · rename_i hnone
    split_ifs with hlocal
    · exact .refl
    · exact passiveCreateStream_steps (by simpa using hlocal) hnone hallow accept

theorem createPeerStream_some {c' : Conn} {id : StreamId} {accept : Bool} {s : Stream}
    (hnone : c.streams id = none) (h : createPeerStream c id accept = (c', some s)) :
    s.streamId = id ∧ s.IsNew accept ∧ c'.streams id = some s ∧
      c'.connFlowCtl.dataRecved = c.connFlowCtl.dataRecved ∧
      c'.connFlowCtl.maxDataCanRecv = c.connFlowCtl.maxDataCanRecv := by
  unfold createPeerStream at h
  by_cases hclosing : c.isClosing = true
  · rw [if_pos hclosing] at h
    cases (Prod.mk.inj h).2
  rw [if_neg hclosing] at h
  have hsame := createPeerFlowCtl_same c id
  cases hfc : createPeerFlowCtl c id with
  | mk c₁ ret =>
      rw [hfc] at h hsame
      cases ret with
      | error e => cases h
      | ok u =>
          obtain ⟨s', hid, -, hfresh, heq⟩ := insertStream_of_none (c := c₁)
            ((congrFun hsame.streams id).trans hnone) (getStreamType id) none false accept
          obtain ⟨rfl, hs⟩ := Prod.mk.inj (heq.symm.trans h)
          obtain rfl := Option.some.inj hs
          refine ⟨hid, hfresh, ?_, hsame.dataRecved, hsame.maxDataCanRecv⟩
          rw [← hid]
          exact Conn.setStream_streams_self c₁ s'

/-- What the lookup of the peer's stream returned: the stream was there and nothing happened, or the
peer opened it. -/
structure FoundPeer (c : Conn) (id : StreamId) (accept : Bool) (c' : Conn) (s : Stream) : Prop where
  streamId : s.streamId = id
  stored : c'.streams id = some s
  dataRecved : c'.connFlowCtl.dataRecved = c.connFlowCtl.dataRecved
  maxDataCanRecv : c'.connFlowCtl.maxDataCanRecv = c.connFlowCtl.maxDataCanRecv
  cases : c' = c ∨ (c.OpensPeer id ∧ s.IsNew accept)

theorem peerStream_some (hkeyed : c.Keyed) {c' : Conn} {id : StreamId} {accept : Bool} {s : Stream}
    (h : peerStream c id accept = (c', some s)) : FoundPeer c id accept c' s := by
  unfold peerStream at h
  split at h
  · rename_i s' hs
    obtain ⟨rfl, heq⟩ := Prod.mk.inj h
    obtain rfl := Option.some.inj heq
    exact ⟨hkeyed id s' hs, hs, rfl, rfl, .inl rfl⟩
  · rename_i hnone
    by_cases hlocal : (getStreamType id).isLocal c.connType = true
    · rw [if_pos hlocal] at h
      cases (Prod.mk.inj h).2
    rw [if_neg hlocal] at h
    unfold passiveCreateStream at h
    have hsame := createPeerFlowCtl_same c id
    cases hfc : createPeerFlowCtl c id with
    | mk c₁ ret =>
        rw [hfc] at h hsame
        cases ret with
        | error e => cases h
        | ok u =>
            dsimp only at h
            split at h
            · cases h
            · rename_i c₂ hopen
              obtain ⟨hstreams₂, -, hfc₂, -, hunseen⟩ := openPassive_spec hopen
              rw [hsame.maxRemote, hsame.passiveStreams] at hunseen
              have hopens : c.OpensPeer id :=
                ⟨hnone, by simpa using hlocal, createPeerFlowCtl_ok hfc, hunseen⟩
              have hnone₂ : c₂.streams id = none := by rw [hstreams₂, hsame.streams]; exact hnone
              split at h
              · cases h
              · rename_i c₃ s' heq
                obtain ⟨rfl, hs⟩ := Prod.mk.inj h
                obtain rfl := Option.some.inj hs
                obtain ⟨hid, hfresh, hs', hrecved, hmax⟩ := createPeerStream_some hnone₂ heq
                rw [hfc₂] at hrecved hmax
                exact ⟨hid, hs', hrecved.trans hsame.dataRecved, hmax.trans hsame.maxDataCanRecv,
                  .inr ⟨hopens, hfresh⟩⟩

/-! ## The end of a stream -/

theorem Stream.streamId_of_core {s s' : Stream} (h : s'.core = s.core) : s'.streamId = s.streamId :=
  (congrArg Stream.streamId h :)

theorem touch_steps (c : Conn) {s s' : Stream} (hcore : s'.core = s.core)
    (hstate : s.streamStateSend.toNat ≤ s'.streamStateSend.toNat)
    (hpending : s'.pending = s.pending ∧ s'.pendingFin = s.pendingFin ∨
      allow (.writeStream s.streamId)) :
    ConnSteps allow (c.setStream s) (c.setStream s') := by
  have hstep : ConnStep allow (c.setStream s) ((c.setStream s).setStream s') :=
    .touch _ s s' (c.setStream_streams_self s) hcore hstate
      (hpending.imp_right fun h => .inr (.inl h))
  rw [Conn.setStream_setStream c (Stream.streamId_of_core hcore)] at hstep
  exact .single hstep

theorem Conn.write_streams (c : Conn) (f : ControlFrame) : (c.write f).1.streams = c.streams := by
  rw [Conn.write_frame]

theorem markResetSent_core (s : Stream) : (markResetSent s).core = s.core := by
  unfold markResetSent atomicClearPending
  split_ifs <;> rfl

theorem markResetSent_state (s : Stream) :
    s.streamStateSend.toNat ≤ (markResetSent s).streamStateSend.toNat := by
  unfold markResetSent atomicClearPending
  split_ifs with h
  · exact h.le
  · exact le_rfl

theorem markResetSent_reset (s : Stream) :
    SendStreamState.resetSent.toNat ≤ (markResetSent s).streamStateSend.toNat := by
  unfold markResetSent atomicClearPending
  split_ifs with h
  · exact le_rfl
  · exact not_lt.1 h

theorem writeResetStream_steps {s : Stream} (hs : c.streams s.streamId = some s)
    (hstate : s.streamStateSend.toNat < SendStreamState.resetSent.toNat)
    (hallow : allow (.writeReset s.streamId)) (errCode : ℕ) :
    ConnSteps allow c (writeResetStream c s errCode s.streamSendOffset).1 := by
  have hwrite : ConnStep allow c (c.write (.resetStream s.streamId errCode s.streamSendOffset)).1 :=
    .writeReset c s errCode hs hstate hallow
  have hstreams := c.write_streams (.resetStream s.streamId errCode s.streamSendOffset)
  unfold writeResetStream
  cases hw : c.write (.resetStream s.streamId errCode s.streamSendOffset) with
  | mk c' ret =>
      rw [hw] at hwrite hstreams
      cases ret with
      | error e => exact .single hwrite
      | ok u =>
          refine .tail (.single hwrite) (.touch c' s _ ?_ (markResetSent_core s) (markResetSent_state s)
            (.inr (.inl (markResetSent_reset s))))
          rw [hstreams]
          exact hs

theorem writeStopSending_steps (c : Conn) (s : Stream) (errCode : ℕ) :
    ConnSteps allow c (writeStopSending c s errCode).1 := by
  unfold writeStopSending
  split_ifs
  · exact .refl
  · exact write_steps c (.stopSending s.streamId errCode) trivial

theorem raiseOnError_steps {r : Conn × Except Errno Unit} (h : ConnSteps allow c r.1) :
    ConnSteps allow c (raiseOnError r) := by
  unfold raiseOnError
  split
  · exact h.trans (raise_steps _ _)
  · exact h

theorem dropStream_steps (c : Conn) (id : StreamId) :
    ConnSteps allow c { c with sndq := dropStreamFramePackets c.sndq id } :=
  .single (.queue c (.dropStream id) rfl)

theorem streamClose_steps (hkeyed : c.Keyed) {id : StreamId} (hpending : allow (.dropPending id))
    (hallow : ∀ s, c.streams id = some s →
      s.streamStateSend.toNat < SendStreamState.resetSent.toNat → c.isClosing = false →
      allow (.writeReset id)) :
    ConnSteps allow c (streamClose c id) := by
  unfold streamClose
  split
  · exact .refl
  · rename_i s hs
    obtain rfl := hkeyed id s hs
    set s' : Stream := { atomicClearPending s with readyToWrite := false, readyToRead := true } with hs'
    have htouch : ConnSteps allow c (c.setStream s') :=
      .single (.touch c s s' hs rfl le_rfl (.inr (.inr (.inr hpending))))
    have hdrop := htouch.trans (dropStream_steps (c.setStream s') s.streamId)
    have hs₁ : Conn.streams { c.setStream s' with
        sndq := dropStreamFramePackets (c.setStream s').sndq s.streamId } s'.streamId = some s' :=
      c.setStream_streams_self s'
    simp only
    split_ifs with hreset hclosing hrecv
    · exact htouch
    · exact htouch
    · have hwrite := hallow s hs (not_le.1 hreset) (Bool.eq_false_of_not_eq_true hclosing)
      refine raiseOnError_steps (.trans ?_ (writeStopSending_steps _ _ _))
      exact raiseOnError_steps
        (hdrop.trans (writeResetStream_steps hs₁ (not_le.1 hreset) hwrite _))
    · have hwrite := hallow s hs (not_le.1 hreset) (Bool.eq_false_of_not_eq_true hclosing)
      exact raiseOnError_steps
        (hdrop.trans (writeResetStream_steps hs₁ (not_le.1 hreset) hwrite _))

end Steps

end Rquic

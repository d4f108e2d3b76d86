import Rquic.Conn.Send

set_option autoImplicit false

/-!
# Received packets

The frame handlers of `rqc_frame.c`, the handshake and the packet loop of `rqc_conn.c`.

* `processHandshake`: the parameters of the peer are applied.
* `processFrame`: one handler for each frame type.
* `processFrames`: the frames of a packet, parsed and handled one after the other.
* `processPacketSingle`, `processPacket`, `recvUdp`: a packet, the packets of a UDP datagram, and what
  the engine does with the result. A packet number enters the record after the frames of its packet
  were handled.

A handler that fails ends the packet. The callbacks of the application return without calling back
into the connection; what they would do there are steps of their own.
-/

namespace Rquic

/-- A packet behind its header (`rqc_packet_in_t`). -/
structure PacketIn where
  pktType : PktType
  pktNum : ℕ
  payload : Bytes
  deriving DecidableEq, Repr

/-- The answer to the application protocol of a HANDSHAKE frame. -/
inductive AlpnAnswer where
  | notRegistered
  | refused
  | accepted (selfProtoExt : Bytes)
  deriving DecidableEq, Repr

/-- What the handlers ask of their environment. -/
structure FrameEnv where
  /-- The thresholds of loss detection. -/
  th : LossThresholds
  /-- The answer of `stream_create_notify`. -/
  accept : Bool
  /-- The answer of the protocol registry and of `conn_create_notify`. -/
  alpn : Bytes → AlpnAnswer

/-! ## The handshake -/

/-- `rqc_conn_get_local_transport_params`. -/
def TransSettings.params (ls : TransSettings) : TransportParams :=
  { maxIdleTimeout := ls.maxIdleTimeout
    maxUdpPayloadSize := ls.maxUdpPayloadSize
    maxDatagramFrameSize := ls.maxDatagramFrameSize
    initialMaxData := ls.maxData
    initialMaxStreamDataBidiLocal := ls.maxStreamDataBidiLocal
    initialMaxStreamDataBidiRemote := ls.maxStreamDataBidiRemote
    initialMaxStreamDataUni := ls.maxStreamDataUni
    initialMaxStreamsBidi := ls.maxStreamsBidi
    initialMaxStreamsUni := ls.maxStreamsUni
    ackDelayExponent := ls.ackDelayExponent
    maxAckDelay := ls.maxAckDelay }

/-- `rqc_conn_send_handshake`. -/
def sendHandshake (c : Conn) : Conn × Except Errno Unit :=
  match encodeTransportParams c.localSettings.params tpCap with
  | .error e => (c, .error e)
  | .ok tp =>
    match c.write (.handshake c.alpn tp c.selfProtoExt) with
    | (c, .error e) => (c, .error e)
    | (c, .ok _) =>
      (if c.connType = .client then { c with connState := .clientHandshake } else c, .ok ())

/-- `RQC_MAX_STREAMS`. -/
def maxStreams : ℕ := 2 ^ 60

/-- `rqc_conn_check_transport_params`. -/
def checkTransportParams (p : TransportParams) : Bool :=
  p.initialMaxStreamDataBidiLocal ≤ maxStreams && p.initialMaxStreamDataBidiRemote ≤ maxStreams &&
    p.initialMaxStreamDataUni ≤ maxStreams && p.initialMaxStreamsBidi ≤ maxStreams &&
    p.initialMaxStreamsUni ≤ maxStreams

/-- The settings that a peer's parameters stand for. -/
def TransportParams.settings (p : TransportParams) : TransSettings :=
  { maxIdleTimeout := p.maxIdleTimeout
    maxUdpPayloadSize := p.maxUdpPayloadSize
    maxDatagramFrameSize := p.maxDatagramFrameSize
    maxData := p.initialMaxData
    maxStreamDataBidiLocal := p.initialMaxStreamDataBidiLocal
    maxStreamDataBidiRemote := p.initialMaxStreamDataBidiRemote
    maxStreamDataUni := p.initialMaxStreamDataUni
    maxStreamsBidi := p.initialMaxStreamsBidi
    maxStreamsUni := p.initialMaxStreamsUni
    ackDelayExponent := p.ackDelayExponent
    maxAckDelay := p.maxAckDelay }

/-- `rqc_conn_set_remote_transport_params`: a server takes over the packet size. -/
def setRemoteTransportParams (c : Conn) (p : TransportParams) : Conn :=
  { c with
    remoteSettings := p.settings
    pktOutSize :=
      if c.connType = .server ∧ 1200 ≤ p.maxUdpPayloadSize then
        ⟨min c.pktOutSize.1 (p.maxUdpPayloadSize - ackSpace),
          (min_le_left _ _).trans c.pktOutSize.2⟩
      else c.pktOutSize }

/-- `rqc_conn_update_flow_ctl_settings` and the update of all streams. -/
def updateFlowCtlSettings (c : Conn) : Conn :=
  { c with
    connFlowCtl := { c.connFlowCtl with
      maxDataCanSend := c.remoteSettings.maxData
      maxStreamsBidiCanSend := c.remoteSettings.maxStreamsBidi
      maxStreamsUniCanSend := c.remoteSettings.maxStreamsUni }
    streams := fun id => (c.streams id).map (streamUpdateFlowCtl c) }

/-- `rqc_conn_server_on_alpn`. -/
def serverOnAlpn (env : FrameEnv) (c : Conn) (alpn : Bytes) : Conn × Except Errno Unit :=
  match env.alpn alpn with
  | .notRegistered => ({ c with alpn := [] }, .error .alpnNotRegistered)
  | .refused =>
    (Conn.raise { c with alpn := alpn, selfProtoExt := [] } .internalError, .error .generic)
  | .accepted ext =>
    if protoExtCap < ext.length then
      (Conn.raise { c with alpn := alpn, selfProtoExt := [] } .internalError, .error .param)
    else ({ c with alpn := alpn, selfProtoExt := ext }, .ok ())

/-- The end of `rqc_conn_process_handshake`. -/
def finishHandshake (env : FrameEnv) (c : Conn) (alpn : Bytes) : Conn × Except Errno Unit :=
  match c.connType with
  | .client =>
    ({ c with handshakeRecvd := true, handshakeDone := true, connState := .estabed }, .ok ())
  | .server =>
    match serverOnAlpn env c alpn with
    | (c, .error e) => (c, .error e)
    | (c, .ok _) =>
      match sendHandshake c with
      | (c, .error e) => (c, .error e)
      | (c, .ok _) => ({ c with handshakeRecvd := true, connState := .serverHandshake }, .ok ())

/-- The handshake is waited for. -/
def expectsHandshake (c : Conn) : Bool :=
  match c.connType with
  | .client => c.connState = .clientHandshake && !c.handshakeRecvd
  | .server => c.connState = .serverInit

/-- `rqc_conn_process_handshake`. -/
def processHandshake (env : FrameEnv) (c : Conn) (alpn tp ext : Bytes) :
    Conn × Except Errno Unit :=
  if ¬ expectsHandshake c then (c, .ok ())
  else if protoExtCap < ext.length then (c.raise .protocolViolation, .error .illframe)
  else
    let c := { c with peerProtoExt := ext }
    match decodeTransportParams tp with
    | .error e => (c.raise .transportParameterError, .error e)
    | .ok p =>
      if ¬ checkTransportParams p then (c.raise .transportParameterError, .error .illtp)
      else finishHandshake env (updateFlowCtlSettings (setRemoteTransportParams c p)) alpn

/-- `rqc_conn_on_handshake_acked`. -/
def onHandshakeAcked (c : Conn) : Conn :=
  if c.connType = .server then
    { c with
      handshakeDone := true
      connState := if c.connState = .serverHandshake then .estabed else c.connState }
  else c

/-! ## Frame handlers -/

/-- A packet with a HANDSHAKE frame is acknowledged for the first time. -/
def handshakeAcked (before after : SendQueue) : Bool :=
  (before.lists .unackedPackets).any fun id =>
    decide (.handshake ∈ (before.pkts id).poFrameTypes) && (after.pkts id).poAcked &&
      !(before.pkts id).poAcked

/-- `rqc_process_ack_frame`. -/
def processAckFrame (env : FrameEnv) (c : Conn) (info : AckInfo) : Conn × Except Errno Unit :=
  let sndq := (onAckReceived c.sndq info env.th).1
  let c' := { c with sndq := sndq }
  let c' := if handshakeAcked c.sndq sndq then onHandshakeAcked c' else c'
  match (ackProcess c.sndq info).err with
  | some e => (c', .error e)
  | none => (c', .ok ())

/-- `rqc_process_stream_frame`. -/
def processStreamFrameConn (env : FrameEnv) (c : Conn) (id offset : ℕ) (fin : Bool) (data : Bytes) :
    Conn × Except Errno Unit :=
  match peerStream c id env.accept with
  | (c, none) => (c, .ok ())
  | (c, some s) =>
    let (r, s, ret) := processStreamFrame c.toConnRecv s { data := data, dataOffset := offset, fin := fin }
    ((Conn.setStream { c with toConnRecv := r } s).addLog (.gotData id (offset + data.length)), ret)

/-- The answer of `rqc_process_reset_stream_frame` and `rqc_process_stop_sending_frame` on the sending
half: RESET_STREAM, unless it was sent. Its result is not looked at. -/
def resetSendHalf (c : Conn) (s : Stream) (errCode : ℕ) : Conn :=
  if s.streamStateSend.toNat < SendStreamState.resetSent.toNat then
    (writeResetStream c s errCode s.streamSendOffset).1
  else c

/-- `rqc_process_reset_stream_frame`. -/
def processResetStreamFrameConn (env : FrameEnv) (c : Conn) (id errCode finalSize : ℕ) : Conn :=
  match peerStream c id env.accept with
  | (c, none) => c
  | (c, some s) =>
    let c :=
      if s.streamStateSend.toNat < SendStreamState.resetSent.toNat then
        resetSendHalf { c with sndq := dropStreamFramePackets c.sndq id } s errCode
      else c
    match c.streams id with
    | none => c
    | some s =>
      let (r, s) := processResetStreamFrame c.toConnRecv s finalSize
      (Conn.setStream { c with toConnRecv := r } s).addLog (.gotReset id finalSize)

/-- `rqc_process_stop_sending_frame`. -/
def processStopSendingFrame (env : FrameEnv) (c : Conn) (id : StreamId) : Conn :=
  match peerStream c id env.accept with
  | (c, none) => c
  | (c, some s) => resetSendHalf c s requestCancelled

/-- `rqc_process_data_blocked_frame`. -/
def processDataBlockedFrame (c : Conn) (dataLimit : ℕ) : Conn × Except Errno Unit :=
  let newLimit := u64Add c.connFlowCtl.dataRead c.connFlowCtl.recvWindowsSize
  if newLimit ≤ dataLimit then (c, .ok ())
  else if c.connFlowCtl.maxDataCanRecv < newLimit then
    Conn.write { c with connFlowCtl := { c.connFlowCtl with maxDataCanRecv := newLimit } }
      (.maxData newLimit)
  else (c, .ok ())

/-- `rqc_process_stream_data_blocked_frame`. -/
def processStreamDataBlockedFrame (env : FrameEnv) (c : Conn) (id streamDataLimit : ℕ) :
    Conn × Except Errno Unit :=
  match peerStream c id env.accept with
  | (c, none) => (c, .ok ())
  | (c, some s) =>
    let newLimit := u64Add s.streamDataIn.nextReadOffset s.streamFlowCtl.streamRecvWindowSize
    if newLimit ≤ streamDataLimit then (c, .ok ())
    else if s.streamFlowCtl.maxStreamDataCanRecv < newLimit then
      Conn.write (c.setStream { s with streamFlowCtl := { s.streamFlowCtl with
        maxStreamDataCanRecv := newLimit } }) (.maxStreamData id newLimit)
    else (c, .ok ())

/-- `rqc_process_streams_blocked_frame`. -/
def processStreamsBlockedFrame (c : Conn) (bidirectional : Bool) (streamLimit : ℕ) :
    Conn × Except Errno Unit :=
  let (canRecv, own) :=
    if bidirectional then (c.connFlowCtl.maxStreamsBidiCanRecv, c.localSettings.maxStreamsBidi)
    else (c.connFlowCtl.maxStreamsUniCanRecv, c.localSettings.maxStreamsUni)
  if streamLimit < canRecv then (c, .ok ())
  else
    let limit := min (u64Add streamLimit own) (u64Add canRecv own)
    let fc :=
      if bidirectional then { c.connFlowCtl with maxStreamsBidiCanRecv := limit }
      else { c.connFlowCtl with maxStreamsUniCanRecv := limit }
    Conn.write { c with connFlowCtl := fc } (.maxStreams bidirectional
      (if streamLimit < maxStreams ∧ maxStreams < limit then maxStreams else limit))

/-- `rqc_process_max_data_frame`. -/
def processMaxDataFrame (c : Conn) (maxData : ℕ) : Conn :=
  if c.connFlowCtl.maxDataCanSend < maxData then
    { c with
      connFlowCtl := { c.connFlowCtl with maxDataCanSend := maxData }
      dataBlocked := false
      log := c.log ++ [.raised (.maxData maxData)] }
  else c

/-- `rqc_process_max_stream_data_frame`. -/
def processMaxStreamDataFrame (env : FrameEnv) (c : Conn) (id maxStreamData : ℕ) : Conn :=
  match peerStream c id env.accept with
  | (c, none) => c
  | (c, some s) =>
    if s.streamFlowCtl.maxStreamDataCanSend < maxStreamData then
      (c.setStream { s with
        streamFlowCtl := { s.streamFlowCtl with maxStreamDataCanSend := maxStreamData }
        dataBlocked := false }).addLog (.raised (.maxStreamData id maxStreamData))
    else c

/-- `rqc_process_max_streams_frame`. -/
def processMaxStreamsFrame (c : Conn) (bidirectional : Bool) (limit : ℕ) :
    Conn × Except Errno Unit :=
  if maxStreams < limit then (c, .error .proto)
  else if bidirectional = true ∧ c.connFlowCtl.maxStreamsBidiCanSend < limit then
    ({ c with
        connFlowCtl := { c.connFlowCtl with maxStreamsBidiCanSend := limit }
        log := c.log ++ [.raised (.maxStreams true limit)] }, .ok ())
  else if bidirectional = false ∧ c.connFlowCtl.maxStreamsUniCanSend < limit then
    ({ c with
        connFlowCtl := { c.connFlowCtl with maxStreamsUniCanSend := limit }
        log := c.log ++ [.raised (.maxStreams false limit)] }, .ok ())
  else (c, .ok ())

/-- `rqc_process_conn_close_frame`. -/
def processConnCloseFrame (c : Conn) (errCode : ℕ) : Conn :=
  let c := if errCode ≠ 0 then c.raise (.remote errCode) else c
  let c := if c.isClosing then c else immediateClose c
  { c with connState := .draining }

/-- The part of `rqc_datagram_process_frame` behind its parser; `frameLen` is the length of the frame
with its type and its length field. -/
def processDatagramFrame (c : Conn) (pkt : PacketIn) (pos frameLen : ℕ) (data : Bytes) :
    Conn × Except Errno Unit :=
  if c.handshakeRecvd = false ∨ pkt.pktType ≠ .shortHeader
      ∨ c.localSettings.maxDatagramFrameSize = 0
      ∨ c.localSettings.maxDatagramFrameSize < frameLen then
    (c.raise .protocolViolation, .error .proto)
  else if c.isClosing = false ∧ c.connErr = none then
    (c.addLog (.notified pkt.pktNum pos data), .ok ())
  else (c, .ok ())

/-- The handler of a frame at position `pos` of the payload. -/
def processFrame (env : FrameEnv) (c : Conn) (pkt : PacketIn) (pos frameLen : ℕ) :
    Frame → Conn × Except Errno Unit
  | .padding => (c, .ok ())
  | .ping => if c.handshakeRecvd then (c, .ok ()) else (c, .error .generic)
  | .ack info => processAckFrame env c info
  | .handshake alpn tp ext => processHandshake env c alpn tp ext
  | .resetStream id errCode finalSize => (processResetStreamFrameConn env c id errCode finalSize, .ok ())
  | .stopSending id _ => (processStopSendingFrame env c id, .ok ())
  | .stream id offset fin data => processStreamFrameConn env c id offset fin data
  | .maxData limit => (processMaxDataFrame c limit, .ok ())
  | .maxStreamData id limit => (processMaxStreamDataFrame env c id limit, .ok ())
  | .maxStreams bidirectional limit => processMaxStreamsFrame c bidirectional limit
  | .dataBlocked limit => processDataBlockedFrame c limit
  | .streamDataBlocked id limit => processStreamDataBlockedFrame env c id limit
  | .streamsBlocked bidirectional limit => processStreamsBlockedFrame c bidirectional limit
  | .pathChallenge data => c.write (.pathResponse data)
  -- only the addresses of the path change
  | .pathResponse _ => (c, .ok ())
  | .connectionClose errCode => (processConnCloseFrame c errCode, .ok ())
  | .datagram data => processDatagramFrame c pkt pos frameLen data

/-! ## Packets -/

/-- What the loop of `rqc_process_frames` does before it looks at a frame: nothing, or it ends the
packet. -/
def refusesFrame (c : Conn) (bs : Bytes) : Option Conn :=
  if c.connState = .closing then
    match vintRead bs with
    | some (0x1c, _) | some (0x1d, _) => none
    | _ => some (immediateClose c)
  else if ConnState.draining.toNat ≤ c.connState.toNat then some c
  else none

/-- `rqc_process_frames` on the rest `bs` of the payload, with the frame types seen so far. Every
frame takes at least one byte, so the length of the payload bounds the number of rounds. -/
def processFrames (env : FrameEnv) (pkt : PacketIn) :
    ℕ → Conn → Finset FrameType → Bytes → Conn × Finset FrameType × Except Errno Unit
  | _, c, types, [] => (if types = ∅ then c.raise .protocolViolation else c, types, .ok ())
  | 0, c, types, _ :: _ => (c, types, .error .sys)
  | fuel + 1, c, types, b :: bs =>
    if vintRead (b :: bs) = none then (c, types, .error .vintread)
    else
      match refusesFrame c (b :: bs) with
      | some c => (c, types, .ok ())
      | none =>
        match parseFrame c.remoteSettings.ackDelayExponent (b :: bs) with
        | .error e => (c, types, .error e)
        | .ok (f, rest) =>
          let pos := pkt.payload.length - (b :: bs).length
          let types := insert f.type types
          match processFrame env (c.addLog (.recvd pkt.pktNum pos f)) pkt pos
              ((b :: bs).length - rest.length) f with
          | (c, .error e) => (c, types, .error e)
          | (c, .ok _) =>
            if c.isClosing = true ∨ c.connErr.isSome = true then (c, types, .ok ())
            else if rest.length = (b :: bs).length then (c, types, .error .sys)
            else processFrames env pkt fuel c types rest

/-- A 1-RTT packet before the handshake is done. -/
def refusesPacket (c : Conn) (pkt : PacketIn) : Bool :=
  pkt.pktType = .shortHeader &&
    match c.connType with
    | .client => !c.handshakeDone
    | .server => !c.handshakeSent

/-- `rqc_packet_process_single`. -/
def processPacketSingle (env : FrameEnv) (c : Conn) (pkt : PacketIn) : Conn × Except Errno Unit :=
  if refusesPacket c pkt then (c, .error .ignorePkt)
  else
    match processFrames env pkt pkt.payload.length c ∅ pkt.payload with
    | (c, _, ret) => (c, ret)

/-- `rqc_conn_on_pkt_processed`: the packet number enters the record. -/
def onPktProcessed (c : Conn) (pkt : PacketIn) : Conn :=
  let c := if pkt.pktType = .shortHeader then onHandshakeAcked c else c
  { c with sndq := { c.sndq with recvRecord := (recvRecordAdd c.sndq.recvRecord pkt.pktNum).1 } }

/-- `rqc_conn_tolerant_error`. -/
def Errno.tolerant : Errno → Bool
  | .version | .illpkt | .waiting | .ignorePkt => true
  | _ => false

/-- `rqc_conn_process_packet`: the packets of a UDP datagram. -/
def processPacket (env : FrameEnv) : Conn → List PacketIn → Conn × Except Errno Unit
  | c, [] => (c, .ok ())
  | c, pkt :: pkts =>
    match processPacketSingle env c pkt with
    | (c, .ok _) => processPacket env (onPktProcessed c pkt) pkts
    | (c, .error e) => if e.tolerant then (c, .ok ()) else (c, .error e)

/-- The packets of a UDP datagram in `rqc_engine_packet_process`. -/
def recvUdp (env : FrameEnv) (c : Conn) (pkts : List PacketIn) : Conn :=
  match processPacket env c pkts with
  | (c, .ok _) => c
  | (c, .error _) => c.raise .frameEncodingError

end Rquic

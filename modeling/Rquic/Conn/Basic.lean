import Rquic.TransportParams
import Rquic.SendQueue.Run
import Rquic.Stream.Recv

set_option autoImplicit false

/-!
# Connections

The connection (`rqc_connection_t`): its state, its settings, its streams and its send queue.

* `Conn`: the connection. `ConnRecv` is the part that the receive path of a stream uses; addresses,
  connection ids, timers, statistics and the congestion control are left out.
* `LogEntry`: the history of a connection, the frames handed to their handlers, the frames written to
  packets and the streams that came and went.
* `connCreate`: the settings and the flow control of a new connection.
* `Conn.write`: the `rqc_write_*_to_packet` of the control frames.
* `immediateClose`: `rqc_conn_immediate_close`.
-/

namespace Rquic

/-! ## State -/

/-- `rqc_conn_state_t`. -/
inductive ConnState where
  | serverInit | serverHandshake | clientInit | clientHandshake | estabed | closing | draining
  | closed
  deriving DecidableEq, Repr

/-- The numeric value that the source compares. -/
def ConnState.toNat : ConnState → ℕ
  | .serverInit => 0
  | .serverHandshake => 1
  | .clientInit => 5
  | .clientHandshake => 6
  | .estabed => 10
  | .closing => 11
  | .draining => 12
  | .closed => 13

/-- What happened at a connection. -/
inductive LogEntry where
  /-- The frame at position `pos` of the payload of a packet was handed to its handler. -/
  | recvd (pktNum pos : ℕ) (f : Frame)
  /-- The DATAGRAM frame at that position was passed to `datagram_read_notify`. -/
  | notified (pktNum pos : ℕ) (data : Bytes)
  /-- A control frame was written to a packet. -/
  | wrote (f : ControlFrame)
  /-- A STREAM frame was written to a packet, with the bytes that it took. -/
  | wroteStream (streamId offset : ℕ) (fin : Bool) (data : Bytes)
  /-- A stream was created. -/
  | opened (streamId : StreamId)
  /-- A stream was destroyed; this was its last state. -/
  | destroyed (s : Stream)
  /-- A MAX_* frame of the peer raised the limit that it names. -/
  | raised (f : Frame)
  /-- A STREAM frame with this end reached its stream. -/
  | gotData (streamId endOffset : ℕ)
  /-- A RESET_STREAM frame reached its stream. -/
  | gotReset (streamId finalSize : ℕ)
  deriving DecidableEq, Repr

/-- The connection. -/
structure Conn extends ConnRecv where
  connState : ConnState
  localSettings : TransSettings
  remoteSettings : TransSettings := {}
  handshakeSent : Bool := false
  handshakeRecvd : Bool := false
  handshakeDone : Bool := false
  dataBlocked : Bool := false
  connCloseCount : ℕ := 0
  /-- `streams_hash`. -/
  streams : StreamId → Option Stream := fun _ => none
  /-- `passive_streams_hash`: the peer's streams that were opened and not destroyed. -/
  passiveStreams : StreamId → Bool := fun _ => false
  curStreamIdBidiLocal : ℕ := 0
  curStreamIdUniLocal : ℕ := 0
  maxStreamIdBidiRemote : ℤ := -1
  maxStreamIdUniRemote : ℤ := -1
  pktOutSize : {n : ℕ // n ≤ maxPacketOutSize}
  /-- The header that `rqc_write_packet_header` writes. -/
  header : PktType → Bytes
  alpn : Bytes := []
  selfProtoExt : Bytes := []
  peerProtoExt : Bytes := []
  sndq : SendQueue := {}
  /-- The history, the first entry first. -/
  log : List LogEntry := []

namespace Conn

/-- `rqc_conn_is_established`. -/
def isEstablished (c : Conn) : Bool := c.connState = .estabed

/-- The connection is closing, draining or closed. -/
def isClosing (c : Conn) : Bool := ConnState.closing.toNat ≤ c.connState.toNat

/-- `RQC_CONN_ERR`. -/
def raise (c : Conn) (err : TraErr) : Conn := { c with toConnRecv := c.toConnRecv.raise err }

/-- The stream is stored under its id. -/
def setStream (c : Conn) (s : Stream) : Conn :=
  { c with streams := Function.update c.streams s.streamId (some s) }

def addLog (c : Conn) (entry : LogEntry) : Conn := { c with log := c.log ++ [entry] }

/-- `rqc_state_to_pkt_type`. -/
def stateToPktType (c : Conn) : PktType := if c.handshakeDone then .shortHeader else .init

/-- What `rqc_write_new_packet` takes from the connection. -/
def params (c : Conn) (pktType : PktType) : PktParams :=
  { pktType := pktType, pktOutSize := c.pktOutSize, header := c.header pktType }

end Conn

/-! ## Creation -/

/-- `RQC_FC_INIT_RTT`. -/
def fcInitRtt : ℕ := 60000

/-- The settings as `rqc_conn_create` corrects them, where the value has a default of its own. -/
def ConnSettings.corrected (cs : ConnSettings) : ConnSettings :=
  { cs with
    initRecvWindow :=
      if cs.initRecvWindow ≠ 0 then max cs.initRecvWindow maxPacketOutSize else minRecvWindow
    maxAckDelay :=
      min (if cs.maxAckDelay = 0 then defaultMaxAckDelay else cs.maxAckDelay) defaultMaxAckDelay
    maxPktOutSize := min cs.maxPktOutSize maxPacketOutSize }

/-- `rqc_conn_init_trans_settings`, the local settings. -/
def initTransSettings (cs : ConnSettings) : TransSettings :=
  let bidiLocal := if cs.enableStreamRateLimit then cs.initRecvWindow else maxRecvWindow
  { maxStreamsBidi := 1024
    maxStreamsUni := 1024
    maxStreamDataBidiRemote := maxRecvWindow
    maxStreamDataUni := maxRecvWindow
    maxStreamDataBidiLocal := bidiLocal
    maxData :=
      if cs.recvRateBytesPerSec ≠ 0 then
        min maxRecvWindow (max minRecvWindow (u64Mul cs.recvRateBytesPerSec fcInitRtt / 1000000))
      else 1024 * bidiLocal + 1024 * maxRecvWindow
    maxIdleTimeout := cs.idleTimeOut
    maxDatagramFrameSize := cs.maxDatagramFrameSize
    maxUdpPayloadSize := cs.maxUdpPayloadSize
    maxAckDelay := cs.maxAckDelay }

/-- `rqc_conn_init_flow_ctl`: the limits for sending are those of the local settings until the peer's
parameters arrive. -/
def initFlowCtl (ls : TransSettings) : ConnFlowCtl :=
  { maxDataCanSend := ls.maxData
    maxDataCanRecv := ls.maxData
    maxStreamsBidiCanSend := ls.maxStreamsBidi
    maxStreamsBidiCanRecv := ls.maxStreamsBidi
    maxStreamsUniCanSend := ls.maxStreamsUni
    maxStreamsUniCanRecv := ls.maxStreamsUni
    recvWindowsSize := ls.maxData }

/-- `rqc_conn_create`. -/
def connCreate (connType : ConnType) (settings : ConnSettings) (header : PktType → Bytes) : Conn :=
  let cs := settings.corrected
  let ls := initTransSettings cs
  { connType := connType
    connSettings := cs
    connFlowCtl := initFlowCtl ls
    connState := match connType with
      | .server => .serverInit
      | .client => .clientInit
    localSettings := ls
    pktOutSize := ⟨min cs.maxPktOutSize (u64Sub cs.maxUdpPayloadSize ackSpace),
      (min_le_left _ _).trans (min_le_right _ _)⟩
    header := header }

/-! ## Control frames -/

/-- The packet type that the `rqc_write_*_to_packet` of a control frame asks for. -/
def ControlFrame.pktType (c : Conn) : ControlFrame → PktType
  | .ping | .connClose _ | .streamsBlocked .. | .maxStreams .. => c.stateToPktType
  | .handshake .. => .init
  | _ => .shortHeader

/-- The `rqc_write_*_to_packet` of the control frames, with their return value. -/
def Conn.write (c : Conn) (f : ControlFrame) : Conn × Except Errno Unit :=
  let params := c.params (f.pktType c)
  match controlPacket params f false 0 with
  | .error e => (c, .error e)
  | .ok _ =>
    ({ c with
        sndq := writeControlFrame c.sndq params f false 0 c.handshakeDone
        log := c.log ++ [.wrote f] }, .ok ())

/-! ## Closing -/

/-- `MAX_RSP_CONN_CLOSE_CNT`. -/
def maxRspConnCloseCnt : ℕ := 3

/-- The transport error codes of `rqc_errno.h`. -/
def TraErr.code : TraErr → ℕ
  | .internalError => 0x1
  | .connectionRefusedError => 0x2
  | .flowControlError => 0x3
  | .streamLimitError => 0x4
  | .streamStateError => 0x5
  | .finalSizeError => 0x6
  | .frameEncodingError => 0x7
  | .transportParameterError => 0x8
  | .connectionIdLimitError => 0x9
  | .protocolViolation => 0xA
  | .applicationError => 0xB
  | .remote code => code

/-- `rqc_send_queue_drop_packets`: all packets are freed. -/
def SendQueue.dropPackets (s : SendQueue) : SendQueue :=
  { s with pkts := fun _ => {}, lists := fun _ => [] }

/-- The CONNECTION_CLOSE frame of `rqc_conn_immediate_close`. -/
def writeConnClose (c : Conn) : Conn :=
  if c.connCloseCount < maxRspConnCloseCnt then
    let c' := (c.write (.connClose ((c.connErr.map TraErr.code).getD 0))).1
    { c' with connCloseCount := c.connCloseCount + 1 }
  else c

/-- `rqc_conn_immediate_close`. -/
def immediateClose (c : Conn) : Conn :=
  if ConnState.draining.toNat ≤ c.connState.toNat then c
  else if c.connType = .client ∧ c.handshakeSent = false then { c with connState := .closed }
  else if c.connType = .server ∧ c.handshakeRecvd = false then { c with connState := .closed }
  else if c.isClosing then writeConnClose c
  else writeConnClose { c with sndq := c.sndq.dropPackets, connState := .closing }

end Rquic

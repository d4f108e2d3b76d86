import Rquic.Conn.Basic

set_option autoImplicit false

/-!
# The streams of a connection

Stream creation and the limits a new stream gets (`rqc_stream.c`).

* `sendLimit`, `recvLimit`: the limit that RFC 9000 assigns to a stream type, among the three values
  `bidi_local`, `bidi_remote` and `uni`.
* `streamSetFlowCtl`, `streamUpdateFlowCtl`: the limits of a new stream, and after the peer's
  parameters arrived.
* `createStreamWithConn`: the limits are set while the type of the stream is still zero, that is a
  client-initiated bidirectional stream.
* `passiveCreateStream`, `peerStream`: streams that the peer opens.
* `writeResetStream`, `streamClose`, `destroyStream`: the ways a stream ends.
-/

namespace Rquic

/-! ## Limits -/

/-- The limit for sending on a stream of type `t`, by the parameters of the peer. -/
def sendLimit (connType : ConnType) (t : StreamType) (remote : TransSettings) : ℕ :=
  match connType, t with
  | .client, .cliBid | .server, .svrBid => remote.maxStreamDataBidiRemote
  | .client, .svrBid | .server, .cliBid => remote.maxStreamDataBidiLocal
  | _, .cliUni | _, .svrUni => remote.maxStreamDataUni

/-- The limit for receiving on a stream of type `t`, by the own parameters
(`rqc_stream_get_init_max_stream_data`). -/
def recvLimit (connType : ConnType) (t : StreamType) (own : TransSettings) : ℕ :=
  match connType, t with
  | .client, .cliBid | .server, .svrBid => own.maxStreamDataBidiLocal
  | .client, .svrBid | .server, .cliBid => own.maxStreamDataBidiRemote
  | _, .cliUni | _, .svrUni => own.maxStreamDataUni

/-- The settings that `rqc_stream_set_flow_ctl` takes for the peer's: its own, if one of the three
values of the peer is zero. -/
def Conn.assumedRemote (c : Conn) : TransSettings :=
  if c.remoteSettings.maxStreamDataBidiRemote ≠ 0 ∧ c.remoteSettings.maxStreamDataBidiLocal ≠ 0
      ∧ c.remoteSettings.maxStreamDataUni ≠ 0 then c.remoteSettings
  else c.localSettings

/-- `rqc_stream_set_flow_ctl`, by the type that the stream has so far. -/
def streamSetFlowCtl (c : Conn) (s : Stream) : Stream :=
  { s with streamFlowCtl := { s.streamFlowCtl with
      maxStreamDataCanSend := sendLimit c.connType s.streamType c.assumedRemote
      maxStreamDataCanRecv := recvLimit c.connType s.streamType c.localSettings
      streamRecvWindowSize := recvLimit c.connType s.streamType c.localSettings } }

/-- `rqc_stream_update_flow_ctl`. -/
def streamUpdateFlowCtl (c : Conn) (s : Stream) : Stream :=
  { s with streamFlowCtl := { s.streamFlowCtl with
      maxStreamDataCanSend := sendLimit c.connType s.streamType c.remoteSettings } }

/-! ## Creation -/

/-- `rqc_stream_settings_t`. -/
structure StreamSettings where
  recvRateBytesPerSec : ℕ := 0
  streamPriority : StreamPriority := .normal
  deriving DecidableEq, Repr

/-- `rqc_stream_direction_t`. -/
inductive StreamDirection where
  | bidi | uni
  deriving DecidableEq, Repr

/-- `rqc_stream_is_bidi`, for a stream type. -/
def StreamType.isBidi : StreamType → Bool
  | .cliBid | .svrBid => true
  | .cliUni | .svrUni => false

/-- The numeric value of a stream type. -/
def StreamType.toNat : StreamType → ℕ
  | .cliBid => 0
  | .svrBid => 1
  | .cliUni => 2
  | .svrUni => 3

/-- The stream type is one that the endpoint opens itself. -/
def StreamType.isLocal (connType : ConnType) : StreamType → Bool
  | .cliBid | .cliUni => connType = .client
  | .svrBid | .svrUni => connType = .server

/-- `rqc_stream_do_create_flow_ctl` for a stream of the endpoint. -/
def createLocalFlowCtl (c : Conn) (t : StreamType) : Conn × Except Errno Unit :=
  let (cur, limit) :=
    if t.isBidi then (c.curStreamIdBidiLocal, c.connFlowCtl.maxStreamsBidiCanSend)
    else (c.curStreamIdUniLocal, c.connFlowCtl.maxStreamsUniCanSend)
  if limit ≤ cur then ((c.write (.streamsBlocked t.isBidi limit)).1, .error .proto)
  else (c, .ok ())

/-- `rqc_stream_do_create_flow_ctl` for a stream of the peer. The limit is raised when half of it is
used. -/
def createPeerFlowCtl (c : Conn) (id : StreamId) : Conn × Except Errno Unit :=
  let t := getStreamType id
  let limit :=
    if t.isBidi then c.connFlowCtl.maxStreamsBidiCanRecv else c.connFlowCtl.maxStreamsUniCanRecv
  if u64Add (u64Mul 4 limit) t.toNat ≤ id then (c.raise .streamLimitError, .error .proto)
  else if limit / 2 ≤ id / 4 then
    let limit := u64Add limit
      (if t.isBidi then c.localSettings.maxStreamsBidi else c.localSettings.maxStreamsUni)
    let fc :=
      if t.isBidi then { c.connFlowCtl with maxStreamsBidiCanRecv := limit }
      else { c.connFlowCtl with maxStreamsUniCanRecv := limit }
    ((Conn.write { c with connFlowCtl := fc } (.maxStreams t.isBidi limit)).1, .ok ())
  else (c, .ok ())

/-- A new stream before its id and its type are stored. -/
def newStream (c : Conn) : Stream := streamSetFlowCtl c {}

/-- `rqc_destroy_stream`, as far as the connection is concerned. -/
def destroyStream (c : Conn) (id : StreamId) : Conn :=
  { c with
    streams := Function.update c.streams id none
    passiveStreams := Function.update c.passiveStreams id false
    log := c.log ++ ((c.streams id).map LogEntry.destroyed).toList }

/-- `rqc_create_stream_with_conn` behind its checks. `accept` is the answer of
`stream_create_notify`. -/
def insertStream (c : Conn) (id : StreamId) (t : StreamType) (settings : Option StreamSettings)
    (isLocal accept : Bool) : Conn × Option Stream :=
  match c.streams id with
  | some _ => (destroyStream c id, none)
  | none =>
    let s : Stream := { newStream c with
      streamId := id
      streamType := t
      readyToWrite := isLocal
      streamPriority := (settings.map StreamSettings.streamPriority).getD .normal
      recvRateBytesPerSec :=
        if c.connSettings.enableStreamRateLimit ∧ t = .cliBid then
          (settings.map StreamSettings.recvRateBytesPerSec).getD 0
        else 0
      discarded := !accept }
    ((c.setStream s).addLog (.opened id), some s)

/-- `rqc_create_stream_with_conn` for a stream of the endpoint. -/
def createLocalStream (c : Conn) (t : StreamType) (settings : Option StreamSettings)
    (accept : Bool) : Conn × Option Stream :=
  if c.isClosing then (c, none)
  else
    match createLocalFlowCtl c t with
    | (c, .error _) => (c, none)
    | (c, .ok _) =>
      -- `rqc_gen_stream_id`
      if t.isBidi then
        insertStream { c with curStreamIdBidiLocal := c.curStreamIdBidiLocal + 1 }
          (4 * c.curStreamIdBidiLocal + t.toNat) t settings true accept
      else
        insertStream { c with curStreamIdUniLocal := c.curStreamIdUniLocal + 1 }
          (4 * c.curStreamIdUniLocal + t.toNat) t settings true accept

/-- `rqc_stream_create_with_direction`, and `rqc_stream_create` for a client. -/
def streamCreate (c : Conn) (dir : StreamDirection) (settings : Option StreamSettings)
    (accept : Bool) : Conn × Option Stream :=
  match c.connType, dir with
  | .client, .bidi => createLocalStream c .cliBid settings accept
  | .client, .uni => createLocalStream c .cliUni none accept
  | .server, .bidi => createLocalStream c .svrBid none accept
  | .server, .uni => createLocalStream c .svrUni none accept

/-- `rqc_create_stream_with_conn` for a stream of the peer. -/
def createPeerStream (c : Conn) (id : StreamId) (accept : Bool) : Conn × Option Stream :=
  if c.isClosing then (c, none)
  else
    match createPeerFlowCtl c id with
    | (c, .error _) => (c, none)
    | (c, .ok _) => insertStream c id (getStreamType id) none false accept

/-- `rqc_insert_passive_stream_hash`: all streams of the type up to `id` are open now. An id that is in
the table already is an error. -/
def insertPassiveStreamHash (c : Conn) (curMaxSid : ℤ) (id : StreamId) : Conn :=
  let c' : Conn :=
    { c with passiveStreams := fun id' =>
        c.passiveStreams id' ||
          decide (getStreamType id' = getStreamType id ∧ curMaxSid < (id' / 4 : ℕ)
            ∧ id' / 4 ≤ id / 4) }
  if (List.range (id / 4 + 1)).any fun sid =>
      decide (curMaxSid < sid) && c.passiveStreams (4 * sid + (getStreamType id).toNat) then
    c'.raise .internalError
  else c'

/-- The peer's stream is opened, unless it was opened before and is closed already. -/
def openPassive (c : Conn) (id : StreamId) : Option Conn :=
  if (getStreamType id).isBidi = true ∧ c.maxStreamIdBidiRemote < (id / 4 : ℕ) then
    some { insertPassiveStreamHash c c.maxStreamIdBidiRemote id with
      maxStreamIdBidiRemote := (id / 4 : ℕ) }
  else if (getStreamType id).isBidi = false ∧ c.maxStreamIdUniRemote < (id / 4 : ℕ) then
    some { insertPassiveStreamHash c c.maxStreamIdUniRemote id with
      maxStreamIdUniRemote := (id / 4 : ℕ) }
  else if c.passiveStreams id then some c
  else none

/-- `rqc_passive_create_stream`. -/
def passiveCreateStream (c : Conn) (id : StreamId) (accept : Bool) : Conn × Option Stream :=
  match createPeerFlowCtl c id with
  | (c, .error _) => (c, none)
  | (c, .ok _) =>
    match openPassive c id with
    | none => (c, none)
    | some c =>
      match createPeerStream c id accept with
      | (c, none) => (c.raise .internalError, none)
      | (c, some s) => (c, some s)

/-- The stream that a frame of the peer names: the one there is, or a new one if the peer may open
it. -/
def peerStream (c : Conn) (id : StreamId) (accept : Bool) : Conn × Option Stream :=
  match c.streams id with
  | some s => (c, some s)
  | none =>
    if (getStreamType id).isLocal c.connType then (c, none) else passiveCreateStream c id accept

/-! ## The end of a stream -/

/-- `REQUEST_CANCELLED`. -/
def requestCancelled : ℕ := 0x10C

/-- `rqc_stream_atomic_clear_pending`. -/
def atomicClearPending (s : Stream) : Stream := { s with atomicCtx := s.atomicCtx.map fun _ => {} }

/-- `rqc_stream_send_state_update` to `RESET_SENT`. -/
def markResetSent (s : Stream) : Stream :=
  if s.streamStateSend.toNat < SendStreamState.resetSent.toNat then
    atomicClearPending { s with streamStateSend := .resetSent }
  else s

/-- `rqc_write_reset_stream_to_packet`. -/
def writeResetStream (c : Conn) (s : Stream) (errCode finalSize : ℕ) :
    Conn × Except Errno Unit :=
  match c.write (.resetStream s.streamId errCode finalSize) with
  | (c, .error e) => (c, .error e)
  | (c, .ok _) => (c.setStream (markResetSent s), .ok ())

/-- `rqc_write_stop_sending_to_packet`. -/
def writeStopSending (c : Conn) (s : Stream) (errCode : ℕ) : Conn × Except Errno Unit :=
  if RecvStreamState.dataRecvd.toNat ≤ s.streamStateRecv.toNat then (c, .ok ())
  else c.write (.stopSending s.streamId errCode)

/-- An error of a local write closes the connection. -/
def raiseOnError (r : Conn × Except Errno Unit) : Conn :=
  match r with
  | (c, .error _) => c.raise .internalError
  | (c, .ok _) => c

/-- `rqc_stream_close`. -/
def streamClose (c : Conn) (id : StreamId) : Conn :=
  match c.streams id with
  | none => c
  | some s =>
    let s := { atomicClearPending s with readyToWrite := false, readyToRead := true }
    let c := c.setStream s
    if SendStreamState.resetSent.toNat ≤ s.streamStateSend.toNat then c
    else if c.isClosing then c
    else
      let c := { c with sndq := dropStreamFramePackets c.sndq id }
      let c := raiseOnError (writeResetStream c s requestCancelled s.streamSendOffset)
      if s.streamStateRecv = .recv ∨ s.streamStateRecv = .sizeKnown then
        raiseOnError (writeStopSending c s requestCancelled)
      else c

end Rquic

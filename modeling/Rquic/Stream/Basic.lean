import Rquic.Frame.Basic
import Rquic.Stream.DataIn

set_option autoImplicit false

/-!
# Streams

The record of one stream (`rqc_stream_t`) and the part of the connection that the receive path of a
stream reads and writes.

* `Stream`: both halves of a stream; statistics, callbacks and list links are left out.
* `ConnRecv`: the connection as the receive path sees it.
* `streamIsTerminalState`, `streamMaybeNeedClose`: when a stream is handed to the closing list.
-/

namespace Rquic

/-- `rqc_stream_flow_ctl_t`. -/
structure StreamFlowCtl where
  maxStreamDataCanSend : ℕ := 0
  maxStreamDataCanRecv : ℕ := 0
  streamRecvWindowSize : ℕ := 0
  lastWindowUpdateTime : ℕ := 0
  deriving DecidableEq, Repr

/-- `rqc_stream_atomic_ctx_t`: `buf` holds the `pending_len` retained bytes. -/
structure AtomicCtx where
  buf : Bytes := []
  pendingOffset : ℕ := 0
  fin : Bool := false
  flush : Bool := false
  deriving DecidableEq, Repr

inductive StreamPriority where
  | normal | high
  deriving DecidableEq, Repr

/-- One stream (`rqc_stream_t`); the flags are those of `stream_flag`. -/
structure Stream where
  streamId : StreamId := 0
  streamType : StreamType := .cliBid
  streamFlowCtl : StreamFlowCtl := {}
  streamSendOffset : ℕ := 0
  streamMaxRecvOffset : ℕ := 0
  streamDataIn : StreamDataIn := {}
  streamUnackedPkt : ℕ := 0
  streamStateSend : SendStreamState := .ready
  streamStateRecv : RecvStreamState := .recv
  recvRateBytesPerSec : ℕ := 0
  streamPriority : StreamPriority := .normal
  atomicCtx : Option AtomicCtx := none
  readyToRead : Bool := false
  readyToWrite : Bool := false
  dataBlocked : Bool := false
  needClose : Bool := false
  finWrite : Bool := false
  discarded : Bool := false
  deriving DecidableEq, Repr

/-- The part of `rqc_connection_t` that the receive path of a stream uses. -/
structure ConnRecv where
  connType : ConnType := .server
  connSettings : ConnSettings := {}
  connFlowCtl : ConnFlowCtl := {}
  connErr : Option TraErr := none
  deriving DecidableEq, Repr

/-- `RQC_CONN_ERR`: only the first error is kept. -/
def ConnRecv.raise (c : ConnRecv) (err : TraErr) : ConnRecv :=
  match c.connErr with
  | none => { c with connErr := some err }
  | some _ => c

@[simp] theorem ConnRecv.raise_connErr_ne_none (c : ConnRecv) (err : TraErr) :
    (c.raise err).connErr ≠ none := by
  unfold ConnRecv.raise
  split <;> simp_all

/-- `rqc_stream_is_terminal_state`. -/
def streamIsTerminalState (connType : ConnType) (s : Stream) : Bool :=
  let sendDone := s.streamStateSend = .dataRecvd || s.streamStateSend = .resetRecvd
  let recvDone := s.streamStateRecv = .dataRead || s.streamStateRecv = .resetRead
  match s.streamType, connType with
  | .cliBid, _ | .svrBid, _ => sendDone && recvDone
  | .cliUni, .client | .svrUni, .server => sendDone
  | .cliUni, .server | .svrUni, .client => recvDone

/-- `rqc_stream_maybe_need_close`, the flag only: the timer and the list of closing streams belong
to the connection. -/
def streamMaybeNeedClose (connType : ConnType) (s : Stream) : Stream :=
  if s.needClose then s
  else if streamIsTerminalState connType s then
    { s with needClose := true, readyToRead := false, readyToWrite := false }
  else s

@[simp] theorem streamMaybeNeedClose_dataIn (connType : ConnType) (s : Stream) :
    (streamMaybeNeedClose connType s).streamDataIn = s.streamDataIn := by
  unfold streamMaybeNeedClose
  split_ifs <;> rfl

@[simp] theorem streamMaybeNeedClose_stateRecv (connType : ConnType) (s : Stream) :
    (streamMaybeNeedClose connType s).streamStateRecv = s.streamStateRecv := by
  unfold streamMaybeNeedClose
  split_ifs <;> rfl

@[simp] theorem streamMaybeNeedClose_maxRecvOffset (connType : ConnType) (s : Stream) :
    (streamMaybeNeedClose connType s).streamMaxRecvOffset = s.streamMaxRecvOffset := by
  unfold streamMaybeNeedClose
  split_ifs <;> rfl

@[simp] theorem streamMaybeNeedClose_flowCtl (connType : ConnType) (s : Stream) :
    (streamMaybeNeedClose connType s).streamFlowCtl = s.streamFlowCtl := by
  unfold streamMaybeNeedClose
  split_ifs <;> rfl

@[simp] theorem streamMaybeNeedClose_discarded (connType : ConnType) (s : Stream) :
    (streamMaybeNeedClose connType s).discarded = s.discarded := by
  unfold streamMaybeNeedClose
  split_ifs <;> rfl

end Rquic

import Rquic.Conn.Streams

set_option autoImplicit false

/-!
# Sending on a stream

The send path of `rqc_stream.c`: flow control, the write loop and the vectored send that takes all of
its data or none.

* `streamDoSendFlowCtl`: a write is allowed if a whole packet still fits the limits.
* `writeStreamFrameToPacket`: one STREAM frame, with the counters it moves.
* `sendLoop`, `streamSendScalar`, `streamSend`: the scalar send.
* `streamSendvAtomic`, `streamAtomicDrain`: the vectored send keeps what it could not write in the
  pending buffer of the stream.

A flush runs the engine after the call; it is a step of its own here.
-/

namespace Rquic

/-! ## Flow control -/

/-- The connection level of `rqc_stream_do_send_flow_ctl`. -/
def connSendBlocked (c : Conn) : Bool :=
  c.connFlowCtl.maxDataCanSend < u64Add c.connFlowCtl.dataSent c.pktOutSize.1

/-- The stream level of `rqc_stream_do_send_flow_ctl`. -/
def streamSendBlocked (c : Conn) (s : Stream) : Bool :=
  s.streamFlowCtl.maxStreamDataCanSend < u64Add s.streamSendOffset c.pktOutSize.1

/-- `rqc_stream_do_send_flow_ctl`: the blocked frames are written, and the answer is whether the
stream is blocked. -/
def streamDoSendFlowCtl (c : Conn) (s : Stream) : Conn × Stream × Bool :=
  let blocked := connSendBlocked c
  let c :=
    if blocked then
      (Conn.write { c with dataBlocked := true } (.dataBlocked c.connFlowCtl.maxDataCanSend)).1
    else c
  if streamSendBlocked c s then
    ((c.write (.streamDataBlocked s.streamId s.streamFlowCtl.maxStreamDataCanSend)).1,
      { s with dataBlocked := true }, true)
  else (c, s, blocked)

/-! ## One frame -/

/-- The receive window that the first write of a rate-limited stream sets. -/
def firstWriteWindow (c : Conn) (s : Stream) (maxSrtt : ℕ) : ℕ :=
  if s.recvRateBytesPerSec ≠ 0 then
    min maxRecvWindow
      (max c.connSettings.initRecvWindow (u64Mul s.recvRateBytesPerSec maxSrtt / 1000000))
  else maxRecvWindow

/-- The window update at the head of `rqc_write_stream_frame_to_packet`. -/
def raiseFirstWindow (c : Conn) (s : Stream) (maxSrtt : ℕ) : Conn × Stream :=
  if c.connSettings.enableStreamRateLimit = true ∧ s.streamSendOffset = 0
      ∧ s.streamType = .cliBid then
    let available := u64Sub s.streamFlowCtl.maxStreamDataCanRecv s.streamDataIn.nextReadOffset
    let window := firstWriteWindow c s maxSrtt
    let s := { s with streamFlowCtl := { s.streamFlowCtl with streamRecvWindowSize := window } }
    if available < window then
      let limit := u64Add s.streamFlowCtl.maxStreamDataCanRecv (window - available)
      ((c.write (.maxStreamData s.streamId limit)).1,
        { s with streamFlowCtl := { s.streamFlowCtl with maxStreamDataCanRecv := limit } })
    else (c, s)
  else (c, s)

/-- The counters after `n` bytes were written. -/
def countSent (c : Conn) (s : Stream) (n : ℕ) (finWritten : Bool) : Conn × Stream :=
  ({ c with connFlowCtl := { c.connFlowCtl with
      dataSent := u64Add c.connFlowCtl.dataSent n } },
    { s with streamSendOffset := u64Add s.streamSendOffset n, finWrite := s.finWrite || finWritten })

/-- `rqc_write_stream_frame_to_packet`, with the number of bytes written. -/
def writeStreamFrameToPacket (c : Conn) (s : Stream) (maxSrtt : ℕ) (fin : Bool)
    (payload : Bytes) : Conn × Stream × Except Errno ℕ :=
  let (c, s) := raiseFirstWindow c s maxSrtt
  match writeStreamFrame c.sndq (s.streamPriority = .high) (c.params .shortHeader) s.streamId
      s.streamSendOffset fin payload with
  | .error e => (c, s, .error e)
  | .ok (sndq, n) =>
    let entry :=
      .wroteStream s.streamId s.streamSendOffset (fin && n = payload.length) (payload.take n)
    let (c, s) := countSent (Conn.addLog { c with sndq := sndq } entry) s n
      (fin && n = payload.length)
    (c, s, .ok n)

/-! ## The scalar send -/

/-- What the environment answers during one send: how many more frames the queue takes before
`rqc_send_queue_can_write` refuses, and the round-trip time. -/
structure SendEnv where
  room : ℕ
  maxSrtt : ℕ := 0
  deriving DecidableEq, Repr

/-- How the loop of `rqc_stream_send_scalar` ends. -/
inductive LoopEnd where
  /-- Everything was written. -/
  | done
  /-- Flow control or the queue holds the rest back. -/
  | again
  | failed (e : Errno)
  deriving DecidableEq, Repr

/-- The loop of `rqc_stream_send_scalar`: `offset` bytes of the data are written already. -/
def sendLoop (maxSrtt : ℕ) (fin : Bool) (data : Bytes) :
    ℕ → Conn → Stream → ℕ → Conn × Stream × ℕ × LoopEnd
  | room, c, s, offset =>
    if data.length ≤ offset ∧ ¬ (fin = true ∧ data = []) then (c, s, offset, .done)
    else
      match streamDoSendFlowCtl c s with
      | (c, s, true) => (c, s, offset, .again)
      | (c, s, false) =>
        match room with
        | 0 => (c, s, offset, .again)
        | room + 1 =>
          match writeStreamFrameToPacket c s maxSrtt fin (data.drop offset) with
          | (c, s, .error e) => (c, s, offset, .failed e)
          | (c, s, .ok n) =>
            if fin = true ∧ data = [] then (c, s, offset, .done)
            else sendLoop maxSrtt fin data room c s (offset + n)

/-- `rqc_stream_send_scalar`. -/
def streamSendScalar (env : SendEnv) (c : Conn) (s : Stream) (data : Bytes) (fin : Bool) :
    Conn × Stream × Except Errno ℕ :=
  if c.isClosing then (c, { s with readyToWrite := false }, .error .closing)
  else if SendStreamState.resetSent.toNat ≤ s.streamStateSend.toNat then
    (c, { s with readyToWrite := false }, .error .streamReset)
  else if s.finWrite then (c, { s with readyToWrite := false }, .ok 0)
  else
    let s := { s with readyToWrite := true }
    if ¬ c.isEstablished then (c, s, .error .again)
    else
      match sendLoop env.maxSrtt fin data env.room c s 0 with
      | (c, s, _, .failed e) => (c.raise .internalError, s, .error e)
      | (c, s, offset, .again) => (c, s, if offset = 0 then .error .again else .ok offset)
      | (c, s, offset, .done) => (c, { s with readyToWrite := false }, .ok offset)

/-- `rqc_stream_has_atomic_pending`. -/
def hasAtomicPending (s : Stream) : Bool :=
  match s.atomicCtx with
  | none => false
  | some ctx => ctx.pendingOffset < ctx.buf.length

/-- The bytes that a vectored send has taken and not yet written. -/
def Stream.pending (s : Stream) : Bytes :=
  match s.atomicCtx with
  | none => []
  | some ctx => ctx.buf.drop ctx.pendingOffset

/-- FIN goes with the last of them. -/
def Stream.pendingFin (s : Stream) : Bool := (s.atomicCtx.map AtomicCtx.fin).getD false

/-- `rqc_stream_send`. -/
def streamSend (env : SendEnv) (c : Conn) (s : Stream) (data : Bytes) (fin : Bool) :
    Conn × Stream × Except Errno ℕ :=
  if hasAtomicPending s then (c, s, .error .again) else streamSendScalar env c s data fin

/-! ## The vectored send -/

/-- `RQC_STREAM_ATOMIC_FIXED_CAPACITY`. -/
def atomicFixedCapacity : ℕ := 4096

/-- What the environment answers during a vectored send: one answer for each buffer, and whether a
large remainder finds memory. -/
structure SendvEnv where
  send : ℕ → SendEnv
  mallocOk : Bool := true

/-- `rqc_stream_atomic_save_pending` of the remaining bytes. -/
def atomicSavePending (s : Stream) (remaining : Bytes) (fin flush mallocOk : Bool) :
    Stream × Except Errno Unit :=
  if atomicFixedCapacity < remaining.length ∧ mallocOk = false then
    (atomicClearPending s, .error .malloc)
  else
    ({ s with
        atomicCtx := some { buf := remaining, fin := fin, flush := flush }
        readyToWrite := true }, .ok ())

/-- The loop of `rqc_stream_sendv_atomic` over the buffers: `i` of them are written, with `accepted`
bytes. FIN goes with the last buffer that is not empty. -/
def sendvLoop (env : SendvEnv) (fin flush : Bool) :
    List Bytes → ℕ → ℕ → Conn → Stream → Conn × Stream × Except Errno ℕ
  | [], _, accepted, c, s => (c, s, .ok accepted)
  | buf :: bufs, i, accepted, c, s =>
    if buf = [] then sendvLoop env fin flush bufs (i + 1) accepted c s
    else
      let isLast := bufs.flatten = []
      match streamSendScalar (env.send i) c s buf (fin && isLast) with
      | (c, s, .error e) =>
        if e ≠ .again then (c, s, .error e)
        else if accepted = 0 then (c, s, .error .again)
        else
          match atomicSavePending s (buf ++ bufs.flatten) fin flush env.mallocOk with
          | (s, .error _) => (c, s, .ok accepted)
          | (s, .ok _) => (c, s, .ok (accepted + buf.length + bufs.flatten.length))
      | (c, s, .ok written) =>
        if written = buf.length then
          if isLast then (c, s, .ok (accepted + written))
          else sendvLoop env fin flush bufs (i + 1) (accepted + written) c s
        else
          match atomicSavePending s (buf.drop written ++ bufs.flatten) fin flush env.mallocOk with
          | (s, .error _) => (c, s, .ok (accepted + written))
          | (s, .ok _) => (c, s, .ok (accepted + buf.length + bufs.flatten.length))

/-- `rqc_stream_sendv_atomic`. -/
def streamSendvAtomic (env : SendvEnv) (c : Conn) (s : Stream) (iov : List Bytes)
    (fin flush : Bool) : Conn × Stream × Except Errno ℕ :=
  if hasAtomicPending s then (c, s, .error .again)
  else if c.isClosing then (c, { s with readyToWrite := false }, .error .closing)
  else if SendStreamState.resetSent.toNat ≤ s.streamStateSend.toNat then
    (c, { s with readyToWrite := false }, .error .streamReset)
  else if s.finWrite then (c, s, .ok 0)
  else if iov.flatten = [] then
    if fin then streamSendScalar (env.send 0) c s [] true else (c, s, .ok 0)
  else
    -- `rqc_stream_atomic_ensure_ctx`
    sendvLoop env fin flush iov 0 0 c { s with atomicCtx := some (s.atomicCtx.getD {}) }

/-- `rqc_stream_atomic_drain`: the pending bytes are written before the application is asked for
more. -/
def streamAtomicDrain (env : SendEnv) (c : Conn) (s : Stream) : Conn × Stream × Except Errno Unit :=
  match s.atomicCtx with
  | none => (c, s, .ok ())
  | some ctx =>
    if ctx.buf.length ≤ ctx.pendingOffset then (c, s, .ok ())
    else
      match streamSendScalar env c s (ctx.buf.drop ctx.pendingOffset) ctx.fin with
      | (c, s, .error e) =>
        if e = .again then (c, { s with readyToWrite := true }, .ok ())
        else if e = .closing ∨ e = .streamReset then (c, atomicClearPending s, .ok ())
        else (c, atomicClearPending s, .error e)
      | (c, s, .ok written) =>
        if written = 0 then (c, { s with readyToWrite := true }, .ok ())
        else if ctx.pendingOffset + written < ctx.buf.length then
          (c, { s with
            atomicCtx := some { ctx with pendingOffset := ctx.pendingOffset + written }
            readyToWrite := true }, .ok ())
        else (c, atomicClearPending s, .ok ())

end Rquic

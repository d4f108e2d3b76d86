import Rquic.Stream.Basic

set_option autoImplicit false

/-!
# The receive path of a stream

What the connection does with a parsed STREAM or RESET_STREAM frame of an existing stream, and the
read call of the application.

* `processStreamFrame`: `rqc_process_stream_frame` once the stream is found.
* `processResetStreamFrame`: the receive side of `rqc_process_reset_stream_frame`.
* `streamDoRecvFlowCtl`: the window updates after a read.
* `streamRecv`: `rqc_stream_recv`.
* **`processStreamFrame_cases`**: the branches of the frame handler, with what each one changes.
* **`streamRecv_spec`**: what a read returns and leaves, on a stream that is not reset.
-/

namespace Rquic

/-! ## STREAM frames -/

/-- The early drop: everything in the frame lies in the merged part, and it is not the first empty
FIN frame. -/
def earlyDrop (di : StreamDataIn) (f : StreamFrame) : Prop :=
  f.endOffset ≤ di.mergedOffsetEnd ∧
    ¬ (f.fin = true ∧ f.data.length = 0 ∧ di.streamLength = 0)

instance (di : StreamDataIn) (f : StreamFrame) : Decidable (earlyDrop di f) :=
  inferInstanceAs (Decidable (_ ∧ _))

/-- The connection counts the bytes beyond the highest offset received so far. -/
def countRecved (c : ConnRecv) (s : Stream) (f : StreamFrame) : ConnRecv :=
  if s.streamMaxRecvOffset < f.endOffset then
    { c with connFlowCtl := { c.connFlowCtl with
        dataRecved := u64Add c.connFlowCtl.dataRecved (f.endOffset - s.streamMaxRecvOffset) } }
  else c

/-- The highest offset received is raised to the end of the frame. -/
def raiseMaxRecvOffset (s : Stream) (f : StreamFrame) : Stream :=
  if s.streamMaxRecvOffset < f.endOffset then { s with streamMaxRecvOffset := f.endOffset } else s

/-- The receiver flow control of `rqc_process_stream_frame` and its completion check, after the
frame has been put into the list. -/
def processRecvFlowCtl (c : ConnRecv) (s : Stream) (f : StreamFrame) :
    ConnRecv × Stream × Except Errno Unit :=
  let c := countRecved c s f
  let s := raiseMaxRecvOffset s f
  if c.connFlowCtl.maxDataCanRecv < c.connFlowCtl.dataRecved then
    (c.raise .flowControlError, s, .error .proto)
  else if s.streamFlowCtl.maxStreamDataCanRecv < s.streamMaxRecvOffset then
    (c.raise .flowControlError, s, .error .proto)
  else if s.streamDataIn.streamDetermined = true
      ∧ s.streamDataIn.streamLength = s.streamDataIn.mergedOffsetEnd then
    (c, { s with
      streamStateRecv := if s.streamStateRecv = .sizeKnown then .dataRecvd else s.streamStateRecv
      readyToRead := true }, .ok ())
  else if s.streamDataIn.nextReadOffset < s.streamDataIn.mergedOffsetEnd then
    (c, { s with readyToRead := true }, .ok ())
  else (c, s, .ok ())

/-- The FIN of a frame is recorded: final size and state. -/
def recordFin (s : Stream) (f : StreamFrame) : Stream :=
  if f.fin then
    { s with
      streamDataIn := { s.streamDataIn with streamLength := f.endOffset, streamDetermined := true }
      streamStateRecv := if s.streamStateRecv = .recv then .sizeKnown else s.streamStateRecv }
  else s

/-- `rqc_process_stream_frame` for a stream that exists. -/
def processStreamFrame (c : ConnRecv) (s : Stream) (f : StreamFrame) :
    ConnRecv × Stream × Except Errno Unit :=
  if RecvStreamState.resetRecvd.toNat ≤ s.streamStateRecv.toNat then (c, s, .ok ())
  else if earlyDrop s.streamDataIn f then (c, s, .ok ())
  else if f.fin = true ∧ s.streamDataIn.streamDetermined = true
      ∧ s.streamDataIn.streamLength ≠ f.endOffset then
    (c.raise .finalSizeError, s, .error .proto)
  else
    let s := recordFin s f
    if s.streamDataIn.streamDetermined = true ∧ s.streamDataIn.streamLength < f.endOffset then
      (c.raise .finalSizeError, s, .error .proto)
    else if s.discarded then
      -- `rqc_stream_close_discarded_stream`
      (c, if f.fin then { s with needClose := true } else s, .ok ())
    else
      match insertStreamFrame s.streamDataIn f with
      | .error .dupFrame => (c, s, .ok ())
      | .error e => (c, s, .error e)
      | .ok di => processRecvFlowCtl c { s with streamDataIn := di } f

/-! ## RESET_STREAM frames -/

/-- The receive side of `rqc_process_reset_stream_frame` for a stream that exists. -/
def processResetStreamFrame (c : ConnRecv) (s : Stream) (finalSize : ℕ) : ConnRecv × Stream :=
  if s.streamStateRecv.toNat < RecvStreamState.resetRecvd.toNat then
    ({ c with connFlowCtl := { c.connFlowCtl with
        dataRecved := u64Add c.connFlowCtl.dataRecved (u64Sub finalSize s.streamMaxRecvOffset)
        dataRead := u64Add c.connFlowCtl.dataRead
          (u64Sub finalSize s.streamDataIn.nextReadOffset) } },
      { s with
        streamStateRecv := .resetRecvd
        streamDataIn := { s.streamDataIn with framesTailq := [] }
        readyToRead := true })
  else (c, s)

/-! ## Window updates -/

/-- The clock and the round-trip times that `rqc_stream_do_recv_flow_ctl` reads. -/
structure RecvEnv where
  now : ℕ := 0
  minSrtt : ℕ := 0
  maxSrtt : ℕ := 0
  deriving DecidableEq, Repr

/-- The new stream receive window. -/
def streamRecvWindow (env : RecvEnv) (c : ConnRecv) (s : Stream) : ℕ :=
  if s.recvRateBytesPerSec = 0 then
    if s.streamFlowCtl.lastWindowUpdateTime ≠ 0
        ∧ u64Sub env.now s.streamFlowCtl.lastWindowUpdateTime < u64Mul 2 env.minSrtt then
      min (u64Mul s.streamFlowCtl.streamRecvWindowSize 2) maxRecvWindow
    else s.streamFlowCtl.streamRecvWindowSize
  else
    min maxRecvWindow
      (max c.connSettings.initRecvWindow (u64Mul s.recvRateBytesPerSec env.maxSrtt / 1000000))

/-- The stream level of `rqc_stream_do_recv_flow_ctl`, with the frame it writes. -/
def streamWindowUpdate (env : RecvEnv) (c : ConnRecv) (s : Stream) : Stream × List Frame :=
  let available := u64Sub s.streamFlowCtl.maxStreamDataCanRecv s.streamDataIn.nextReadOffset
  if available < s.streamFlowCtl.streamRecvWindowSize / 2 then
    let window := streamRecvWindow env c s
    let s := { s with streamFlowCtl := { s.streamFlowCtl with
      streamRecvWindowSize := window, lastWindowUpdateTime := env.now } }
    if available < window then
      let limit := u64Add s.streamFlowCtl.maxStreamDataCanRecv (window - available)
      ({ s with streamFlowCtl := { s.streamFlowCtl with maxStreamDataCanRecv := limit } },
        [.maxStreamData s.streamId limit])
    else (s, [])
  else (s, [])

/-- The new connection receive window. The factor `1.5` is exact here: the operands are far below
the precision of a `double`. -/
def connRecvWindow (env : RecvEnv) (c : ConnRecv) (s : Stream) : ℕ :=
  if c.connSettings.recvRateBytesPerSec = 0 then
    let window :=
      if c.connFlowCtl.lastWindowUpdateTime ≠ 0
          ∧ u64Sub env.now c.connFlowCtl.lastWindowUpdateTime < u64Mul 2 env.minSrtt then
        min (u64Mul c.connFlowCtl.recvWindowsSize 2) maxRecvWindow
      else c.connFlowCtl.recvWindowsSize
    if 2 * window < 3 * s.streamFlowCtl.streamRecvWindowSize then
      3 * s.streamFlowCtl.streamRecvWindowSize / 2
    else window
  else
    min maxRecvWindow (max minRecvWindow
      (u64Mul c.connSettings.recvRateBytesPerSec env.maxSrtt / 1000000))

/-- The connection level of `rqc_stream_do_recv_flow_ctl`, with the frame it writes. -/
def connWindowUpdate (env : RecvEnv) (c : ConnRecv) (s : Stream) : ConnRecv × List Frame :=
  let available := u64Sub c.connFlowCtl.maxDataCanRecv c.connFlowCtl.dataRead
  if available < c.connFlowCtl.recvWindowsSize / 2 then
    let window := connRecvWindow env c s
    let c := { c with connFlowCtl := { c.connFlowCtl with
      recvWindowsSize := window, lastWindowUpdateTime := env.now } }
    if available < window then
      let limit := u64Add c.connFlowCtl.maxDataCanRecv (window - available)
      ({ c with connFlowCtl := { c.connFlowCtl with maxDataCanRecv := limit } }, [.maxData limit])
    else (c, [])
  else (c, [])

/-- `rqc_stream_do_recv_flow_ctl`, with the frames it writes. -/
def streamDoRecvFlowCtl (env : RecvEnv) (c : ConnRecv) (s : Stream) :
    ConnRecv × Stream × List Frame :=
  let (s, streamFrames) := streamWindowUpdate env c s
  let (c, connFrames) := connWindowUpdate env c s
  (c, s, streamFrames ++ connFrames)

/-! ## Reading -/

/-- The outcome of a read: the new state, the bytes copied, the FIN flag, the return value and the
control frames written on the way. -/
structure RecvResult where
  conn : ConnRecv
  stream : Stream
  out : Bytes
  fin : Bool
  ret : Except Errno ℕ
  frames : List Frame

/-- The state change of a read that reports FIN. -/
def markDataRead (connType : ConnType) (fin : Bool) (s : Stream) : Stream :=
  if fin = true ∧ s.streamStateRecv = .dataRecvd then
    streamMaybeNeedClose connType { s with streamStateRecv := .dataRead }
  else s

/-- `rqc_stream_recv`. -/
def streamRecv (env : RecvEnv) (c : ConnRecv) (s : Stream) (recvBufSize : ℕ) : RecvResult :=
  if RecvStreamState.resetRecvd.toNat ≤ s.streamStateRecv.toNat then
    let s := streamMaybeNeedClose c.connType
      { s with streamStateRecv := .resetRead, readyToRead := false }
    ⟨c, s, [], false, .error .streamReset, []⟩
  else
    let (frames, next, out) := recvLoop s.streamDataIn.mergedOffsetEnd recvBufSize
      s.streamDataIn.framesTailq s.streamDataIn.nextReadOffset []
    let di := { s.streamDataIn with framesTailq := frames, nextReadOffset := next }
    let s := { s with streamDataIn := di }
    let fin := decide (di.streamDetermined = true ∧ di.nextReadOffset = di.streamLength)
    let s := markDataRead c.connType fin s
    let c := { c with connFlowCtl := { c.connFlowCtl with
      dataRead := u64Add c.connFlowCtl.dataRead out.length } }
    let s := { s with readyToRead := false }
    let (c, s, written) := streamDoRecvFlowCtl env c s
    ⟨c, s, out, fin,
      if out.length = 0 ∧ fin = false then .error .again else .ok out.length, written⟩

/-! ## The branches of the frame handler -/

/-- The frame contradicts the recorded final size in a way the handler compares. -/
def finalSizeConflict (di : StreamDataIn) (f : StreamFrame) : Prop :=
  di.streamDetermined = true ∧
    ((f.fin = true ∧ di.streamLength ≠ f.endOffset) ∨ di.streamLength < f.endOffset)

instance (di : StreamDataIn) (f : StreamFrame) : Decidable (finalSizeConflict di f) :=
  inferInstanceAs (Decidable (_ ∧ _))

section Cases

variable {c : ConnRecv} {s : Stream} {f : StreamFrame}

theorem recordFin_of_not_fin (h : f.fin = false) : recordFin s f = s := by
  simp [recordFin, h]

@[simp] theorem recordFin_discarded : (recordFin s f).discarded = s.discarded := by
  unfold recordFin
  split_ifs <;> rfl

@[simp] theorem recordFin_framesTailq :
    (recordFin s f).streamDataIn.framesTailq = s.streamDataIn.framesTailq := by
  unfold recordFin
  split_ifs <;> rfl

@[simp] theorem recordFin_mergedOffsetEnd :
    (recordFin s f).streamDataIn.mergedOffsetEnd = s.streamDataIn.mergedOffsetEnd := by
  unfold recordFin
  split_ifs <;> rfl

@[simp] theorem recordFin_nextReadOffset :
    (recordFin s f).streamDataIn.nextReadOffset = s.streamDataIn.nextReadOffset := by
  unfold recordFin
  split_ifs <;> rfl

@[simp] theorem recordFin_maxRecvOffset :
    (recordFin s f).streamMaxRecvOffset = s.streamMaxRecvOffset := by
  unfold recordFin
  split_ifs <;> rfl

@[simp] theorem recordFin_flowCtl : (recordFin s f).streamFlowCtl = s.streamFlowCtl := by
  unfold recordFin
  split_ifs <;> rfl

theorem DataInv.recordFin {B : ℕ → UInt8} {delivered : List StreamFrame}
    (h : DataInv B delivered s.streamDataIn) :
    DataInv B delivered (recordFin s f).streamDataIn := by
  obtain ⟨hlist, hiff⟩ := h
  exact ⟨by simpa using hlist, by simpa using hiff⟩

theorem processStreamFrame_of_reset (c : ConnRecv) (f : StreamFrame)
    (hst : ¬ s.streamStateRecv.toNat < RecvStreamState.resetRecvd.toNat) :
    processStreamFrame c s f = (c, s, .ok ()) := by
  rw [processStreamFrame, if_pos (by omega)]

/-- **The branches of `rqc_process_stream_frame`** on a stream that is not reset: the early drop,
the final-size error, the discarded stream, the duplicate and the insertion. -/
theorem processStreamFrame_cases (c : ConnRecv) (s : Stream) (f : StreamFrame)
    (hst : s.streamStateRecv.toNat < RecvStreamState.resetRecvd.toNat) :
    (earlyDrop s.streamDataIn f ∧ processStreamFrame c s f = (c, s, .ok ())) ∨
    (¬ earlyDrop s.streamDataIn f ∧ finalSizeConflict s.streamDataIn f ∧
      processStreamFrame c s f = (c.raise .finalSizeError, s, .error .proto)) ∨
    (¬ earlyDrop s.streamDataIn f ∧ ¬ finalSizeConflict s.streamDataIn f ∧ s.discarded = true ∧
      processStreamFrame c s f =
        (c, if f.fin then { recordFin s f with needClose := true } else recordFin s f, .ok ())) ∨
    (¬ earlyDrop s.streamDataIn f ∧ ¬ finalSizeConflict s.streamDataIn f ∧ s.discarded = false ∧
      insertStreamFrame (recordFin s f).streamDataIn f = .error .dupFrame ∧
      processStreamFrame c s f = (c, recordFin s f, .ok ())) ∨
    (¬ earlyDrop s.streamDataIn f ∧ ¬ finalSizeConflict s.streamDataIn f ∧ s.discarded = false ∧
      ∃ di, insertStreamFrame (recordFin s f).streamDataIn f = .ok di ∧
        processStreamFrame c s f =
          processRecvFlowCtl c { recordFin s f with streamDataIn := di } f) := by
  unfold processStreamFrame
  rw [if_neg (by omega)]
  by_cases hearly : earlyDrop s.streamDataIn f
  · exact Or.inl ⟨hearly, by rw [if_pos hearly]⟩
  rw [if_neg hearly]
  by_cases hchanged : f.fin = true ∧ s.streamDataIn.streamDetermined = true
      ∧ s.streamDataIn.streamLength ≠ f.endOffset
  · refine Or.inr (Or.inl ⟨hearly, ⟨hchanged.2.1, Or.inl ⟨hchanged.1, hchanged.2.2⟩⟩, ?_⟩)
    rw [if_pos hchanged]
  rw [if_neg hchanged]
  by_cases hexceed : (recordFin s f).streamDataIn.streamDetermined = true
      ∧ (recordFin s f).streamDataIn.streamLength < f.endOffset
  · have hfin : f.fin = false := by
      by_contra hne
      simp [recordFin, Bool.eq_true_of_not_eq_false hne] at hexceed
    rw [recordFin_of_not_fin hfin] at hexceed ⊢
    refine Or.inr (Or.inl ⟨hearly, ⟨hexceed.1, Or.inr hexceed.2⟩, ?_⟩)
    simp [hexceed]
  have hconf : ¬ finalSizeConflict s.streamDataIn f := by
    rintro ⟨hdet, hne | hlt⟩
    · exact hchanged ⟨hne.1, hdet, hne.2⟩
    · cases hfin : f.fin with
      | false => exact hexceed (by rw [recordFin_of_not_fin hfin]; exact ⟨hdet, hlt⟩)
      | true => exact hchanged ⟨hfin, hdet, by omega⟩
  simp only [if_neg hexceed, recordFin_discarded]
  cases hdis : s.discarded with
  | true => exact Or.inr (Or.inr (Or.inl ⟨hearly, hconf, rfl, rfl⟩))
  | false =>
      cases hins : insertStreamFrame (recordFin s f).streamDataIn f with
      | error e =>
          obtain ⟨rfl, -⟩ := insertStreamFrame_error hins
          exact Or.inr (Or.inr (Or.inr (Or.inl ⟨hearly, hconf, rfl, rfl, rfl⟩)))
      | ok di => exact Or.inr (Or.inr (Or.inr (Or.inr ⟨hearly, hconf, rfl, di, rfl, rfl⟩)))

/-! ## Receiver flow control -/

/-- The frame stays within both limits that the handler enforces. -/
def withinLimits (c : ConnRecv) (s : Stream) (f : StreamFrame) : Prop :=
  (countRecved c s f).connFlowCtl.dataRecved ≤ c.connFlowCtl.maxDataCanRecv ∧
    max s.streamMaxRecvOffset f.endOffset ≤ s.streamFlowCtl.maxStreamDataCanRecv

instance (c : ConnRecv) (s : Stream) (f : StreamFrame) : Decidable (withinLimits c s f) :=
  inferInstanceAs (Decidable (_ ∧ _))

@[simp] theorem countRecved_maxDataCanRecv :
    (countRecved c s f).connFlowCtl.maxDataCanRecv = c.connFlowCtl.maxDataCanRecv := by
  unfold countRecved
  split_ifs <;> rfl

@[simp] theorem countRecved_connErr : (countRecved c s f).connErr = c.connErr := by
  unfold countRecved
  split_ifs <;> rfl

@[simp] theorem raiseMaxRecvOffset_maxRecvOffset :
    (raiseMaxRecvOffset s f).streamMaxRecvOffset = max s.streamMaxRecvOffset f.endOffset := by
  unfold raiseMaxRecvOffset
  split_ifs with h
  · exact (max_eq_right (le_of_lt h)).symm
  · exact (max_eq_left (by omega)).symm

theorem raiseMaxRecvOffset_eq (s : Stream) (f : StreamFrame) : raiseMaxRecvOffset s f =
    { s with streamMaxRecvOffset := max s.streamMaxRecvOffset f.endOffset } := by
  unfold raiseMaxRecvOffset
  split_ifs with h
  · rw [max_eq_right (le_of_lt h)]
  · rw [max_eq_left (by omega)]

@[simp] theorem processRecvFlowCtl_dataIn :
    (processRecvFlowCtl c s f).2.1.streamDataIn = s.streamDataIn := by
  simp only [processRecvFlowCtl, raiseMaxRecvOffset_eq]
  split_ifs <;> rfl

@[simp] theorem processRecvFlowCtl_maxRecvOffset :
    (processRecvFlowCtl c s f).2.1.streamMaxRecvOffset = max s.streamMaxRecvOffset f.endOffset := by
  simp only [processRecvFlowCtl, raiseMaxRecvOffset_eq]
  split_ifs <;> rfl

@[simp] theorem processRecvFlowCtl_flowCtl :
    (processRecvFlowCtl c s f).2.1.streamFlowCtl = s.streamFlowCtl := by
  simp only [processRecvFlowCtl, raiseMaxRecvOffset_eq]
  split_ifs <;> rfl

@[simp] theorem processRecvFlowCtl_discarded :
    (processRecvFlowCtl c s f).2.1.discarded = s.discarded := by
  simp only [processRecvFlowCtl, raiseMaxRecvOffset_eq]
  split_ifs <;> rfl

/-- The state moves on only from SIZE_KNOWN to DATA_RECVD, when the merged part is complete. -/
theorem processRecvFlowCtl_stateRecv (hlim : withinLimits c s f) :
    (processRecvFlowCtl c s f).2.1.streamStateRecv =
      if s.streamDataIn.streamDetermined = true
          ∧ s.streamDataIn.streamLength = s.streamDataIn.mergedOffsetEnd
          ∧ s.streamStateRecv = .sizeKnown then .dataRecvd else s.streamStateRecv := by
  obtain ⟨hconn, hstream⟩ := hlim
  simp only [processRecvFlowCtl, raiseMaxRecvOffset_eq, countRecved_maxDataCanRecv]
  rw [if_neg (by omega), if_neg (by simpa using hstream)]
  by_cases hdone : s.streamDataIn.streamDetermined = true
      ∧ s.streamDataIn.streamLength = s.streamDataIn.mergedOffsetEnd
  · simp [hdone]
  · have hdone' : ¬ (s.streamDataIn.streamDetermined = true
        ∧ s.streamDataIn.streamLength = s.streamDataIn.mergedOffsetEnd
        ∧ s.streamStateRecv = .sizeKnown) := fun h => hdone ⟨h.1, h.2.1⟩
    simp only [if_neg hdone, if_neg hdone']
    split_ifs <;> rfl

theorem processRecvFlowCtl_not_reset
    (hst : s.streamStateRecv.toNat < RecvStreamState.resetRecvd.toNat) :
    (processRecvFlowCtl c s f).2.1.streamStateRecv.toNat < RecvStreamState.resetRecvd.toNat := by
  simp only [processRecvFlowCtl, raiseMaxRecvOffset_eq]
  split_ifs <;> first | exact hst | 
    exact (by decide : RecvStreamState.dataRecvd.toNat < RecvStreamState.resetRecvd.toNat)

theorem processRecvFlowCtl_connErr (hlim : withinLimits c s f) :
    (processRecvFlowCtl c s f).1.connErr = c.connErr := by
  obtain ⟨hconn, hstream⟩ := hlim
  simp only [processRecvFlowCtl, raiseMaxRecvOffset_eq, countRecved_maxDataCanRecv]
  rw [if_neg (by omega), if_neg (by simpa using hstream)]
  split_ifs <;> simp

end Cases

/-! ## What a read does -/

section Read

variable {B : ℕ → UInt8} {delivered : List StreamFrame} {env : RecvEnv} {c : ConnRecv}
  {s : Stream} {k : ℕ}

@[simp] theorem streamDoRecvFlowCtl_dataIn :
    (streamDoRecvFlowCtl env c s).2.1.streamDataIn = s.streamDataIn := by
  simp only [streamDoRecvFlowCtl, streamWindowUpdate]
  split_ifs <;> rfl

@[simp] theorem streamDoRecvFlowCtl_stateRecv :
    (streamDoRecvFlowCtl env c s).2.1.streamStateRecv = s.streamStateRecv := by
  simp only [streamDoRecvFlowCtl, streamWindowUpdate]
  split_ifs <;> rfl

@[simp] theorem streamDoRecvFlowCtl_maxRecvOffset :
    (streamDoRecvFlowCtl env c s).2.1.streamMaxRecvOffset = s.streamMaxRecvOffset := by
  simp only [streamDoRecvFlowCtl, streamWindowUpdate]
  split_ifs <;> rfl

@[simp] theorem streamDoRecvFlowCtl_discarded :
    (streamDoRecvFlowCtl env c s).2.1.discarded = s.discarded := by
  simp only [streamDoRecvFlowCtl, streamWindowUpdate]
  split_ifs <;> rfl

@[simp] theorem streamDoRecvFlowCtl_connErr :
    (streamDoRecvFlowCtl env c s).1.connErr = c.connErr := by
  simp only [streamDoRecvFlowCtl, connWindowUpdate]
  split_ifs <;> rfl

section MarkDataRead

variable {connType : ConnType} {fin : Bool}

@[simp] theorem markDataRead_dataIn :
    (markDataRead connType fin s).streamDataIn = s.streamDataIn := by
  unfold markDataRead
  split_ifs <;> simp

@[simp] theorem markDataRead_maxRecvOffset :
    (markDataRead connType fin s).streamMaxRecvOffset = s.streamMaxRecvOffset := by
  unfold markDataRead
  split_ifs <;> simp

@[simp] theorem markDataRead_discarded :
    (markDataRead connType fin s).discarded = s.discarded := by
  unfold markDataRead
  split_ifs <;> simp

@[simp] theorem markDataRead_stateRecv : (markDataRead connType fin s).streamStateRecv =
    if fin = true ∧ s.streamStateRecv = .dataRecvd then .dataRead else s.streamStateRecv := by
  unfold markDataRead
  split_ifs <;> simp

end MarkDataRead

/-- The number of bytes that a read with buffer size `k` returns. -/
def readable (di : StreamDataIn) (k : ℕ) : ℕ := min k (di.mergedOffsetEnd - di.nextReadOffset)

/-- What a read on a stream that is not reset returns and leaves. -/
structure ReadSpec (B : ℕ → UInt8) (delivered : List StreamFrame) (c : ConnRecv) (s : Stream)
    (k : ℕ) (r : RecvResult) : Prop where
  out : r.out = slice B s.streamDataIn.nextReadOffset (readable s.streamDataIn k)
  next : r.stream.streamDataIn.nextReadOffset =
    s.streamDataIn.nextReadOffset + readable s.streamDataIn k
  merged : r.stream.streamDataIn.mergedOffsetEnd = s.streamDataIn.mergedOffsetEnd
  length : r.stream.streamDataIn.streamLength = s.streamDataIn.streamLength
  determined : r.stream.streamDataIn.streamDetermined = s.streamDataIn.streamDetermined
  inv : DataInv B delivered r.stream.streamDataIn
  fin : r.fin = decide (s.streamDataIn.streamDetermined = true
    ∧ r.stream.streamDataIn.nextReadOffset = s.streamDataIn.streamLength)
  ret : r.ret = if readable s.streamDataIn k = 0 ∧ r.fin = false then .error .again
    else .ok (readable s.streamDataIn k)
  state : r.stream.streamStateRecv =
    if r.fin = true ∧ s.streamStateRecv = .dataRecvd then .dataRead else s.streamStateRecv
  maxRecv : r.stream.streamMaxRecvOffset = s.streamMaxRecvOffset
  discarded : r.stream.discarded = s.discarded
  connErr : r.conn.connErr = c.connErr

end Read

/-- **A read returns the next readable bytes**, as many as fit the buffer, and reports FIN exactly
when the recorded final size is reached. -/
theorem streamRecv_spec {B : ℕ → UInt8} {delivered : List StreamFrame} (env : RecvEnv)
    (c : ConnRecv) {s : Stream} (k : ℕ) (h : DataInv B delivered s.streamDataIn)
    (hst : s.streamStateRecv.toNat < RecvStreamState.resetRecvd.toNat) :
    ReadSpec B delivered c s k (streamRecv env c s k) := by
  obtain ⟨frames', n, hrun, hn, hlist, hcov⟩ := recvLoop_spec k [] h.list
  have hreadable : n = readable s.streamDataIn k := by simpa [readable] using hn
  subst hreadable
  have hlen : ([] ++ slice B s.streamDataIn.nextReadOffset (readable s.streamDataIn k)).length =
      readable s.streamDataIn k := by simp
  unfold streamRecv
  rw [if_neg (by omega), hrun]
  refine ⟨?_, ?_, ?_, ?_, ?_, ⟨?_, fun i => ?_⟩, ?_, ?_, ?_, ?_, ?_, ?_⟩
  · simp
  · simp
  · simp
  · simp
  · simp
  · simpa using hlist
  · -- what was read lies in the merged part, so the coverage does not change
    simp only [streamDoRecvFlowCtl_dataIn, markDataRead_dataIn]
    rw [h.covers_iff]
    by_cases hi : i < s.streamDataIn.mergedOffsetEnd
    · simp [hi]
    · rw [hcov i (by omega)]
  · simp
  · simp
  · simp
  · simp
  · simp
  · simp

end Rquic

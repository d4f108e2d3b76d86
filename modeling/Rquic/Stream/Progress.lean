import Rquic.Stream.FinalSize

set_option autoImplicit false

/-!
# How far a stream has come

What a delivery, a reset and a read do to the offsets of a stream and to the counters of the connection,
whatever bytes arrive.

* `Stream.Bounded`: nothing received or read lies beyond the highest offset received.
* `recvLoop_length`, `recvLoop_next_le`: the read offset advances by the bytes that are copied.
* `Delivered`, `ReadOn`: what a delivery and a read change.
* **`processStreamFrame_delivered`**, **`streamRecv_readOn`**: they change no more than that.
-/

namespace Rquic

/-- Nothing received or read lies beyond the highest offset received. -/
structure Stream.Bounded (s : Stream) : Prop where
  buf : BufInv s.streamMaxRecvOffset s.streamDataIn
  next : s.streamDataIn.nextReadOffset ≤ s.streamMaxRecvOffset

/-- The stream is not reset. -/
def Stream.Receives (s : Stream) : Prop :=
  s.streamStateRecv.toNat < RecvStreamState.resetRecvd.toNat

instance (s : Stream) : Decidable s.Receives := inferInstanceAs (Decidable (_ < _))

/-! ## The reading loop -/

section Loop

variable {merged bufSize next M : ℕ} {frames : List StreamFrame} {out : Bytes}

/-- One round of the loop: it stops, drops a frame that was read, or copies the rest of a frame as far as
the buffer goes. The cursor of the frame is at least where the stream stands. -/
theorem recvLoop_round (merged bufSize next : ℕ) (f : StreamFrame) (fs : List StreamFrame) (out : Bytes) :
    recvLoop merged bufSize (f :: fs) next out = (f :: fs, next, out) ∨
    recvLoop merged bufSize (f :: fs) next out = recvLoop merged bufSize fs next out ∨
    ∃ cursor, next ≤ f.dataOffset + cursor ∧
      (recvLoop merged bufSize (f :: fs) next out =
          recvLoop merged bufSize fs (next + (f.data.length - cursor))
            (out ++ (f.data.drop cursor).take (f.data.length - cursor)) ∨
        ∃ n < f.data.length - cursor, recvLoop merged bufSize (f :: fs) next out =
          ({ f with nextReadOffset := cursor + n } :: fs, next + n,
            out ++ (f.data.drop cursor).take n)) := by
  rw [recvLoop]
  by_cases hgap : merged < f.dataOffset
  · exact .inl (if_pos hgap)
  rw [if_neg hgap]
  by_cases hfull : bufSize ≤ out.length
  · exact .inl (if_pos hfull)
  rw [if_neg hfull]
  by_cases hread : f.endOffset < next
  · exact .inr (.inl (if_pos hread))
  rw [if_neg hread]
  refine .inr (.inr ⟨if f.dataOffset < next then max f.nextReadOffset (next - f.dataOffset)
    else f.nextReadOffset, ?_, ?_⟩)
  · split_ifs <;> omega
  · dsimp only
    generalize (if f.dataOffset < next then max f.nextReadOffset (next - f.dataOffset)
      else f.nextReadOffset) = cursor
    by_cases hfit : out.length + (f.data.length - cursor) ≤ bufSize
    · exact .inl (if_pos hfit)
    · exact .inr ⟨bufSize - out.length, by omega, if_neg hfit⟩

/-- The read offset advances by the number of bytes that are copied. -/
theorem recvLoop_length (merged bufSize next : ℕ) (frames : List StreamFrame) (out : Bytes) :
    (recvLoop merged bufSize frames next out).2.1 + out.length =
      next + (recvLoop merged bufSize frames next out).2.2.length := by
  induction frames generalizing next out with
  | nil => rfl
  | cons f fs ih =>
      rcases recvLoop_round merged bufSize next f fs out with
        heq | heq | ⟨cursor, -, heq | ⟨n, hn, heq⟩⟩
      · rw [heq]
      · rw [heq]
        exact ih next out
      · have htail := ih (next + (f.data.length - cursor))
          (out ++ (f.data.drop cursor).take (f.data.length - cursor))
        rw [List.length_append, List.length_take, List.length_drop, min_self] at htail
        rw [heq]
        omega
      · rw [heq, List.length_append, List.length_take, List.length_drop, min_eq_left hn.le]
        show next + n + out.length = _
        omega

theorem recvLoop_next_le (merged bufSize : ℕ) (out : Bytes) (hframes : ∀ f ∈ frames, f.endOffset ≤ M)
    (hnext : next ≤ M) : (recvLoop merged bufSize frames next out).2.1 ≤ M := by
  induction frames generalizing next out with
  | nil => exact hnext
  | cons f fs ih =>
      have hend : f.dataOffset + f.data.length ≤ M := hframes f List.mem_cons_self
      have hfs : ∀ g ∈ fs, g.endOffset ≤ M := fun g hg => hframes g (List.mem_cons_of_mem _ hg)
      rcases recvLoop_round merged bufSize next f fs out with
        heq | heq | ⟨cursor, hcursor, heq | ⟨n, hn, heq⟩⟩
      · rw [heq]
        exact hnext
      · rw [heq]
        exact ih _ hfs hnext
      · rw [heq]
        refine ih _ hfs ?_
        omega
      · rw [heq]
        show next + n ≤ M
        omega

end Loop

/-! ## A delivery -/

/-- What a STREAM frame does: the connection counts by how much it raises the highest offset received. -/
structure Delivered (r : ConnRecv) (s : Stream) (f : StreamFrame) (r' : ConnRecv) (s' : Stream) :
    Prop where
  receives : s'.Receives
  bounded : s'.Bounded
  next : s'.streamDataIn.nextReadOffset = s.streamDataIn.nextReadOffset
  grows : s.streamMaxRecvOffset ≤ s'.streamMaxRecvOffset
  le : s'.streamMaxRecvOffset ≤ max s.streamMaxRecvOffset f.endOffset
  flowCtl : r'.connFlowCtl = if s.streamMaxRecvOffset < s'.streamMaxRecvOffset then
    { r.connFlowCtl with
      dataRecved := u64Add r.connFlowCtl.dataRecved (s'.streamMaxRecvOffset - s.streamMaxRecvOffset) }
    else r.connFlowCtl
  /-- The frame is counted whole, unless the application discards the stream or an error is raised. -/
  whole : s'.streamMaxRecvOffset = max s.streamMaxRecvOffset f.endOffset ∨ s.discarded = true ∨
    r'.connErr.isSome = true
  /-- What is counted is within the limit of the connection, or an error is raised. -/
  within : s'.streamMaxRecvOffset = s.streamMaxRecvOffset ∨
    r'.connFlowCtl.dataRecved ≤ r'.connFlowCtl.maxDataCanRecv ∨ r'.connErr.isSome = true

section Delivery

variable {r : ConnRecv} {s : Stream} {f : StreamFrame}

theorem Delivered.of_same {s' : Stream} {r' : ConnRecv} (h : s.Bounded)
    (hbuf : s'.streamDataIn.framesTailq = s.streamDataIn.framesTailq)
    (hmerged : s'.streamDataIn.mergedOffsetEnd = s.streamDataIn.mergedOffsetEnd)
    (hnext : s'.streamDataIn.nextReadOffset = s.streamDataIn.nextReadOffset)
    (hmax : s'.streamMaxRecvOffset = s.streamMaxRecvOffset)
    (hstate : s'.Receives) (hflow : r'.connFlowCtl = r.connFlowCtl)
    (hwhole : f.endOffset ≤ s.streamMaxRecvOffset ∨ s.discarded = true ∨ r'.connErr.isSome = true) :
    Delivered r s f r' s' where
  receives := hstate
  bounded := by
    refine ⟨⟨?_, ?_⟩, ?_⟩
    · rw [hbuf, hmax]
      exact h.buf.frames
    · rw [hmerged, hmax]
      exact h.buf.merged
    · rw [hnext, hmax]
      exact h.next
  next := hnext
  grows := hmax.ge
  le := hmax.trans_le (le_max_left _ _)
  flowCtl := by rw [hmax, if_neg (lt_irrefl _), hflow]
  whole := hwhole.imp_left fun hle => by rw [hmax, max_eq_left hle]
  within := .inl hmax

theorem recordFin_receives (h : s.Receives) : (recordFin s f).Receives := by
  by_cases hfin : f.fin = true
  · unfold recordFin Stream.Receives
    rw [if_pos hfin]
    dsimp only
    split_ifs
    · decide
    · exact h
  · rw [recordFin_of_not_fin (Bool.eq_false_of_not_eq_true hfin)]
    exact h

theorem processRecvFlowCtl_delivered (r : ConnRecv) (hrecv : s.Receives)
    (hbuf : BufInv (max s.streamMaxRecvOffset f.endOffset) s.streamDataIn)
    (hnext : s.streamDataIn.nextReadOffset ≤ s.streamMaxRecvOffset) :
    Delivered r s f (processRecvFlowCtl r s f).1 (processRecvFlowCtl r s f).2.1 := by
  have hmax := processRecvFlowCtl_maxRecvOffset (c := r) (s := s) (f := f)
  have hin := processRecvFlowCtl_dataIn (c := r) (s := s) (f := f)
  have hflow : (processRecvFlowCtl r s f).1.connFlowCtl = (countRecved r s f).connFlowCtl := by
    unfold processRecvFlowCtl ConnRecv.raise
    dsimp only
    split_ifs <;> first | rfl | (split <;> rfl)
  refine ⟨processRecvFlowCtl_not_reset hrecv, ⟨?_, ?_⟩, by rw [hin], ?_, hmax.le, ?_, .inl hmax, ?_⟩
  · rw [hmax, hin]
    exact hbuf
  · rw [hmax, hin]
    exact hnext.trans (le_max_left _ _)
  · rw [hmax]
    exact le_max_left _ _
  · rw [hflow, hmax]
    unfold countRecved
    by_cases hlt : s.streamMaxRecvOffset < f.endOffset
    · rw [if_pos hlt, if_pos (lt_max_of_lt_right hlt), max_eq_right hlt.le]
    · rw [if_neg hlt, max_eq_left (not_lt.1 hlt), if_neg (lt_irrefl _)]
  · right
    by_cases hover : (countRecved r s f).connFlowCtl.maxDataCanRecv <
        (countRecved r s f).connFlowCtl.dataRecved
    · right
      unfold processRecvFlowCtl
      dsimp only
      rw [if_pos hover]
      exact Option.isSome_iff_ne_none.2 (ConnRecv.raise_connErr_ne_none _ _)
    · left
      rw [hflow]
      exact not_lt.1 hover

/-- **A STREAM frame on a stream that is not reset.** -/
theorem processStreamFrame_delivered (r : ConnRecv) (f : StreamFrame) (hrecv : s.Receives)
    (h : s.Bounded) :
    Delivered r s f (processStreamFrame r s f).1 (processStreamFrame r s f).2.1 := by
  have hfin : (recordFin s f).Receives := recordFin_receives hrecv
  rcases processStreamFrame_cases r s f hrecv with
    ⟨hearly, heq⟩ | ⟨-, -, heq⟩ | ⟨-, -, hdiscarded, heq⟩ | ⟨-, -, -, hdup, heq⟩ |
      ⟨-, -, -, di, hins, heq⟩
  · rw [heq]
    exact .of_same h rfl rfl rfl rfl hrecv rfl (.inl (hearly.1.trans h.buf.merged))
  · rw [heq]
    refine .of_same h rfl rfl rfl rfl hrecv ?_
      (.inr (.inr (Option.isSome_iff_ne_none.2 (ConnRecv.raise_connErr_ne_none _ _))))
    unfold ConnRecv.raise
    dsimp only
    split <;> rfl
  · rw [heq]
    cases f.fin with
    | false =>
        exact .of_same h recordFin_framesTailq recordFin_mergedOffsetEnd recordFin_nextReadOffset
          recordFin_maxRecvOffset hfin rfl (.inr (.inl hdiscarded))
    | true =>
        exact .of_same h recordFin_framesTailq recordFin_mergedOffsetEnd recordFin_nextReadOffset
          recordFin_maxRecvOffset hfin rfl (.inr (.inl hdiscarded))
  · rw [heq]
    obtain ⟨-, -, g, hg, -, hend⟩ := insertStreamFrame_error hdup
    rw [recordFin_framesTailq] at hg
    exact .of_same h recordFin_framesTailq recordFin_mergedOffsetEnd recordFin_nextReadOffset
      recordFin_maxRecvOffset hfin rfl (.inl (hend.trans (h.buf.frames g hg)))
  · rw [heq]
    have hrec : BufInv s.streamMaxRecvOffset (recordFin s f).streamDataIn :=
      ⟨by simpa using h.buf.frames, by simpa using h.buf.merged⟩
    have hnext : di.nextReadOffset = s.streamDataIn.nextReadOffset :=
      (insertStreamFrame_frame hins).1.trans recordFin_nextReadOffset
    have hmax : (recordFin s f).streamMaxRecvOffset = s.streamMaxRecvOffset := recordFin_maxRecvOffset
    have hcounted := processRecvFlowCtl_delivered (s := { recordFin s f with streamDataIn := di })
      (f := f) r hfin
      (by rw [hmax]; exact (hrec.mono (le_max_left _ _)).insert (le_max_right _ _) hins)
      (by rw [hmax, hnext]; exact h.next)
    refine ⟨hcounted.receives, hcounted.bounded, hcounted.next.trans hnext, ?_, ?_, ?_, ?_, ?_⟩
    · exact hmax.symm.trans_le hcounted.grows
    · exact hcounted.le.trans_eq (by rw [hmax])
    · have hflow := hcounted.flowCtl
      rw [hmax] at hflow
      exact hflow
    · rcases hcounted.whole with hw | hw | hw
      · exact .inl (hw.trans (by rw [hmax]))
      · exact .inr (.inl (recordFin_discarded.symm.trans hw))
      · exact .inr (.inr hw)
    · exact hcounted.within.imp_left fun hw => hw.trans hmax

end Delivery

/-! ## A read -/

/-- What a read does: the connection counts the bytes by which the read offset advances. -/
structure ReadOn (r : ConnRecv) (s : Stream) (r' : ConnRecv) (s' : Stream) : Prop where
  receives : s'.Receives
  bounded : s'.Bounded
  max : s'.streamMaxRecvOffset = s.streamMaxRecvOffset
  next : s.streamDataIn.nextReadOffset ≤ s'.streamDataIn.nextReadOffset
  dataRecved : r'.connFlowCtl.dataRecved = r.connFlowCtl.dataRecved
  dataRead : r'.connFlowCtl.dataRead = u64Add r.connFlowCtl.dataRead
    (s'.streamDataIn.nextReadOffset - s.streamDataIn.nextReadOffset)
  connErr : r'.connErr = r.connErr

theorem streamDoRecvFlowCtl_dataRead (env : RecvEnv) (r : ConnRecv) (s : Stream) :
    (streamDoRecvFlowCtl env r s).1.connFlowCtl.dataRead = r.connFlowCtl.dataRead ∧
      (streamDoRecvFlowCtl env r s).1.connFlowCtl.dataRecved = r.connFlowCtl.dataRecved := by
  simp only [streamDoRecvFlowCtl, connWindowUpdate]
  split_ifs <;> exact ⟨rfl, rfl⟩

/-- **A read on a stream that is not reset.** -/
theorem streamRecv_readOn (env : RecvEnv) (r : ConnRecv) {s : Stream} (k : ℕ) (hrecv : s.Receives)
    (h : s.Bounded) :
    ReadOn r s (streamRecv env r s k).conn (streamRecv env r s k).stream := by
  have hlength := recvLoop_length s.streamDataIn.mergedOffsetEnd k s.streamDataIn.nextReadOffset
    s.streamDataIn.framesTailq []
  have hle := recvLoop_next_le s.streamDataIn.mergedOffsetEnd k [] h.buf.frames h.next
  have hbuf := BufInv.read env r s k h.buf
  obtain ⟨-, -, -, hmax, herr⟩ := streamRecv_frame env r s k
  have hreset : ¬ RecvStreamState.resetRecvd.toNat ≤ s.streamStateRecv.toNat := not_le.2 hrecv
  have hnext : (streamRecv env r s k).stream.streamDataIn.nextReadOffset =
      (recvLoop s.streamDataIn.mergedOffsetEnd k s.streamDataIn.framesTailq
        s.streamDataIn.nextReadOffset []).2.1 := by
    unfold streamRecv
    rw [if_neg hreset]
    simp only [streamDoRecvFlowCtl_dataIn, markDataRead_dataIn]
  have hread : (streamRecv env r s k).conn.connFlowCtl.dataRead = u64Add r.connFlowCtl.dataRead
      (recvLoop s.streamDataIn.mergedOffsetEnd k s.streamDataIn.framesTailq
        s.streamDataIn.nextReadOffset []).2.2.length := by
    unfold streamRecv
    rw [if_neg hreset]
    simp only [(streamDoRecvFlowCtl_dataRead _ _ _).1]
  have hrecved : (streamRecv env r s k).conn.connFlowCtl.dataRecved = r.connFlowCtl.dataRecved := by
    unfold streamRecv
    rw [if_neg hreset]
    simp only [(streamDoRecvFlowCtl_dataRead _ _ _).2]
  have hstate : (streamRecv env r s k).stream.Receives := by
    unfold streamRecv Stream.Receives
    rw [if_neg hreset]
    simp only [streamDoRecvFlowCtl_stateRecv, markDataRead_stateRecv]
    split_ifs
    · exact by decide
    · exact hrecv
  rw [List.length_nil, Nat.add_zero] at hlength
  refine ⟨hstate, ⟨?_, ?_⟩, hmax, ?_, hrecved, ?_, herr⟩
  · rw [hmax]
    exact hbuf
  · rw [hmax, hnext]
    exact hle
  · rw [hnext, hlength]
    exact Nat.le_add_right _ _
  · rw [hread, hnext, hlength, Nat.add_sub_cancel_left]

end Rquic

import Rquic.Lib.Cover
import Rquic.Defs

set_option autoImplicit false

/-!
# The receive buffer of a stream

The list of received STREAM frames of one stream (`rqc_stream_data_in_t`), the insertion of a
frame and the loop that copies readable bytes out of it.

* `StreamFrame`, `StreamDataIn`: a received frame and the buffer.
* `insertStreamFrame`: the insertion, with the duplicate check and the merge.
* `recvLoop`: the copying loop of `rqc_stream_recv`.
* `DataInv`: what holds of the buffer after any deliveries and reads.
* **`insertStreamFrame_dataInv`**, **`recvLoop_spec`**: one delivery and one read keep it.

Offsets are below `2 ^ 62` and lengths below `2 ^ 32`, so none of the sums in this file wraps.
-/

namespace Rquic

/-- One received STREAM frame (`rqc_stream_frame_t`). -/
structure StreamFrame where
  data : Bytes
  dataOffset : ℕ
  nextReadOffset : ℕ := 0
  fin : Bool := false
  deriving DecidableEq, Repr

/-- The end offset of a frame in the stream. -/
def StreamFrame.endOffset (f : StreamFrame) : ℕ := f.dataOffset + f.data.length

/-- The segment of the stream that a frame carries. -/
def StreamFrame.seg (f : StreamFrame) : ℕ × ℕ := (f.dataOffset, f.data.length)

/-- The receive buffer of a stream (`rqc_stream_data_in_t`). -/
structure StreamDataIn where
  framesTailq : List StreamFrame := []
  mergedOffsetEnd : ℕ := 0
  nextReadOffset : ℕ := 0
  streamLength : ℕ := 0
  streamDetermined : Bool := false
  deriving DecidableEq, Repr

/-! ## Insertion -/

/-- The walk of `rqc_insert_stream_frame` from the tail of the list. The first argument list is
what is left of the list, reversed; the second is what the walk has passed, in order. The result
is the list cut where the new frame belongs. -/
def insertWalk (new : StreamFrame) : List StreamFrame → List StreamFrame →
    Except Errno (List StreamFrame × List StreamFrame)
  | [], passed => .ok ([], passed)
  | frame :: rest, passed =>
    if frame.dataOffset ≤ new.dataOffset ∧ 0 < new.data.length
        ∧ new.endOffset ≤ frame.endOffset then .error .dupFrame
    else if frame.dataOffset ≤ new.dataOffset then .ok ((frame :: rest).reverse, passed)
    else insertWalk new rest (frame :: passed)

/-- The merge loop over the frames behind the new one. -/
def mergeFrom (merged : ℕ) : List StreamFrame → ℕ
  | [] => merged
  | frame :: rest =>
    if frame.dataOffset ≤ merged then mergeFrom (max frame.endOffset merged) rest else merged

/-- `rqc_insert_stream_frame`. -/
def insertStreamFrame (di : StreamDataIn) (new : StreamFrame) : Except Errno StreamDataIn :=
  match insertWalk new di.framesTailq.reverse [] with
  | .error e => .error e
  | .ok (before, after) =>
    let merged :=
      if new.dataOffset ≤ di.mergedOffsetEnd ∧ di.mergedOffsetEnd < new.endOffset then
        mergeFrom new.endOffset after
      else di.mergedOffsetEnd
    .ok { di with framesTailq := before ++ new :: after, mergedOffsetEnd := merged }

/-! ## Reading -/

/-- The loop of `rqc_stream_recv`: the frames left, the read offset and the bytes copied. -/
def recvLoop (merged bufSize : ℕ) : List StreamFrame → ℕ → Bytes → List StreamFrame × ℕ × Bytes
  | [], next, out => ([], next, out)
  | frame :: rest, next, out =>
    if merged < frame.dataOffset then (frame :: rest, next, out)
    else if bufSize ≤ out.length then (frame :: rest, next, out)
    else if frame.endOffset < next then recvLoop merged bufSize rest next out
    else
      let nro :=
        if frame.dataOffset < next then max frame.nextReadOffset (next - frame.dataOffset)
        else frame.nextReadOffset
      let left := frame.data.length - nro
      if out.length + left ≤ bufSize then
        recvLoop merged bufSize rest (next + left) (out ++ (frame.data.drop nro).take left)
      else
        let n := bufSize - out.length
        ({ frame with nextReadOffset := nro + n } :: rest, next + n,
          out ++ (frame.data.drop nro).take n)

/-! ## The invariant of the buffer -/

/-- The bytes of the frame are those of the sequence `B` at its place. -/
def StreamFrame.Agrees (B : ℕ → UInt8) (f : StreamFrame) : Prop :=
  f.data = slice B f.dataOffset f.data.length

/-- What holds of a frame in the list, given the read offset and the merged end: its bytes agree
with `B`, its cursor does not run ahead of the stream's, and it does not reach across a gap. -/
structure FrameInv (B : ℕ → UInt8) (next merged : ℕ) (f : StreamFrame) : Prop where
  agrees : f.Agrees B
  cursor_le : f.nextReadOffset ≤ f.data.length
  cursor : f.nextReadOffset = 0 ∨ f.dataOffset + f.nextReadOffset ≤ next
  closed : f.dataOffset ≤ merged → f.endOffset ≤ merged

/-- The list of frames of a buffer with the given read offset and merged end. -/
structure ListInv (B : ℕ → UInt8) (next merged : ℕ) (frames : List StreamFrame) : Prop where
  sorted : frames.Pairwise (fun f g => f.dataOffset ≤ g.dataOffset)
  next_le : next ≤ merged
  frame : ∀ f ∈ frames, FrameInv B next merged f
  covered : ∀ i, next ≤ i → i < merged → Covers (frames.map StreamFrame.seg) i

/-- **What holds of a buffer** after the delivery of the frames in `delivered`. -/
structure DataInv (B : ℕ → UInt8) (delivered : List StreamFrame) (di : StreamDataIn) : Prop where
  list : ListInv B di.nextReadOffset di.mergedOffsetEnd di.framesTailq
  covers_iff : ∀ i, Covers (delivered.map StreamFrame.seg) i ↔
    i < di.mergedOffsetEnd ∨ Covers (di.framesTailq.map StreamFrame.seg) i

theorem inSeg_seg {f : StreamFrame} {i : ℕ} :
    InSeg f.seg i ↔ f.dataOffset ≤ i ∧ i < f.endOffset := Iff.rfl

theorem covers_seg {frames : List StreamFrame} {i : ℕ} :
    Covers (frames.map StreamFrame.seg) i ↔
      ∃ f ∈ frames, f.dataOffset ≤ i ∧ i < f.endOffset := by
  simp [Covers, inSeg_seg]

theorem dataInv_init (B : ℕ → UInt8) : DataInv B [] {} where
  list := ⟨List.Pairwise.nil, le_refl _, by simp, by simp⟩
  covers_iff := by simp

/-! ## One insertion -/

section Insert

variable {new : StreamFrame} {rev passed before after : List StreamFrame}

theorem insertWalk_ok (h : insertWalk new rev passed = .ok (before, after)) :
    ∃ mid, rev.reverse = before ++ mid ∧ after = mid ++ passed ∧
      (∀ f, before.getLast? = some f → f.dataOffset ≤ new.dataOffset) ∧
      (∀ f ∈ mid, new.dataOffset < f.dataOffset) := by
  induction rev generalizing passed with
  | nil =>
      simp only [insertWalk, Except.ok.injEq, Prod.mk.injEq] at h
      obtain ⟨rfl, rfl⟩ := h
      exact ⟨[], by simp⟩
  | cons frame rest ih =>
      simp only [insertWalk] at h
      split_ifs at h with hdup hle
      · simp only [Except.ok.injEq, Prod.mk.injEq] at h
        obtain ⟨rfl, rfl⟩ := h
        refine ⟨[], by simp, by simp, fun f hf => ?_, by simp⟩
        rw [List.getLast?_reverse, List.head?_cons, Option.some.injEq] at hf
        exact hf ▸ hle
      · obtain ⟨mid, hrev, hafter, hbefore, hmid⟩ := ih h
        refine ⟨mid ++ [frame], by simp [hrev], by simp [hafter], hbefore, fun f hf => ?_⟩
        rw [List.mem_append, List.mem_singleton] at hf
        rcases hf with hf | rfl
        · exact hmid f hf
        · exact Nat.lt_of_not_le hle

/-- In a sorted list everything is at most the last frame. -/
theorem le_of_getLast? {frames : List StreamFrame} {n : ℕ}
    (hs : frames.Pairwise (fun f g => f.dataOffset ≤ g.dataOffset))
    (hlast : ∀ f, frames.getLast? = some f → f.dataOffset ≤ n) :
    ∀ f ∈ frames, f.dataOffset ≤ n := by
  intro f hf
  rcases List.eq_nil_or_concat frames with rfl | ⟨init, g, rfl⟩
  · simp at hf
  · rw [List.concat_eq_append] at hs hlast hf
    have hg := hlast g (by simp)
    rw [List.mem_append, List.mem_singleton] at hf
    rcases hf with hf | rfl
    · exact le_trans ((List.pairwise_append.1 hs).2.2 f hf g (by simp)) hg
    · exact hg

theorem insertWalk_error {e : Errno} (h : insertWalk new rev passed = .error e) :
    e = .dupFrame ∧ 0 < new.data.length ∧
      ∃ f ∈ rev, f.dataOffset ≤ new.dataOffset ∧ new.endOffset ≤ f.endOffset := by
  induction rev generalizing passed with
  | nil => simp [insertWalk] at h
  | cons frame rest ih =>
      simp only [insertWalk] at h
      split_ifs at h with hdup hle
      · simp only [Except.error.injEq] at h
        exact ⟨h.symm, hdup.2.1, frame, List.mem_cons_self, hdup.1, hdup.2.2⟩
      · obtain ⟨he, hlen, f, hf, hfn⟩ := ih h
        exact ⟨he, hlen, f, List.mem_cons_of_mem _ hf, hfn⟩

theorem le_mergeFrom (merged : ℕ) (frames : List StreamFrame) :
    merged ≤ mergeFrom merged frames := by
  induction frames generalizing merged with
  | nil => exact le_refl _
  | cons f fs ih =>
      simp only [mergeFrom]
      split_ifs
      · exact le_trans (le_max_right _ _) (ih _)
      · exact le_refl _

/-- The merge extends the merged end only over bytes that the frames carry. -/
theorem mergeFrom_covered {merged i : ℕ} {frames : List StreamFrame} (hi : merged ≤ i)
    (hi' : i < mergeFrom merged frames) : Covers (frames.map StreamFrame.seg) i := by
  induction frames generalizing merged with
  | nil => exact absurd hi' (by simp only [mergeFrom]; omega)
  | cons f fs ih =>
      simp only [mergeFrom] at hi'
      rw [List.map_cons, covers_cons, inSeg_seg]
      split_ifs at hi' with hle
      · by_cases hif : i < f.endOffset
        · exact Or.inl ⟨by omega, hif⟩
        · exact Or.inr (ih (by omega) hi')
      · omega

/-- The merge stops at a gap: a frame that begins inside the merged part ends inside it. -/
theorem mergeFrom_closed {merged : ℕ} {frames : List StreamFrame}
    (hs : frames.Pairwise (fun f g => f.dataOffset ≤ g.dataOffset)) :
    ∀ f ∈ frames, f.dataOffset ≤ mergeFrom merged frames →
      f.endOffset ≤ mergeFrom merged frames := by
  induction frames generalizing merged with
  | nil => simp
  | cons g fs ih =>
      rw [List.pairwise_cons] at hs
      intro f hf hle
      simp only [mergeFrom] at hle ⊢
      split_ifs at hle ⊢ with hg
      · rw [List.mem_cons] at hf
        rcases hf with rfl | hf
        · exact le_trans (le_max_left _ _) (le_mergeFrom _ _)
        · exact ih hs.2 f hf hle
      · rw [List.mem_cons] at hf
        rcases hf with rfl | hf
        · exact absurd hle hg
        · have := hs.1 f hf
          omega

end Insert

section

variable {B : ℕ → UInt8} {delivered : List StreamFrame} {di di' : StreamDataIn}
  {new : StreamFrame}

theorem DataInv.drop (h : DataInv B delivered di) (hle : new.endOffset ≤ di.mergedOffsetEnd) :
    DataInv B (new :: delivered) di where
  list := h.list
  covers_iff := fun i => by
    rw [List.map_cons, covers_cons, h.covers_iff, inSeg_seg]
    constructor
    · rintro (hi | hi)
      · exact Or.inl (by omega)
      · exact hi
    · exact Or.inr

/-- The only error of the insertion: the frame is not empty and lies in a frame of the list. -/
theorem insertStreamFrame_error {e : Errno} (he : insertStreamFrame di new = .error e) :
    e = .dupFrame ∧ 0 < new.data.length ∧
      ∃ f ∈ di.framesTailq, f.dataOffset ≤ new.dataOffset ∧ new.endOffset ≤ f.endOffset := by
  unfold insertStreamFrame at he
  split at he
  · rename_i e' hwalk
    simp only [Except.error.injEq] at he
    obtain ⟨he', hlen, f, hf, hfn⟩ := insertWalk_error hwalk
    exact ⟨he ▸ he', hlen, f, List.mem_reverse.1 hf, hfn⟩
  · exact absurd he (by simp)

theorem DataInv.dup (h : DataInv B delivered di) {e : Errno}
    (he : insertStreamFrame di new = .error e) : DataInv B (new :: delivered) di := by
  obtain ⟨-, -, f, hf, hlo, hhi⟩ := insertStreamFrame_error he
  refine ⟨h.list, fun i => ?_⟩
  rw [List.map_cons, covers_cons, h.covers_iff, inSeg_seg]
  constructor
  · rintro (hi | hi)
    · exact Or.inr (covers_seg.2 ⟨f, hf, by omega, by omega⟩)
    · exact hi
  · exact Or.inr

theorem insertStreamFrame_ok (hok : insertStreamFrame di new = .ok di') :
    ∃ before after, di.framesTailq = before ++ after ∧
      (∀ f, before.getLast? = some f → f.dataOffset ≤ new.dataOffset) ∧
      (∀ f ∈ after, new.dataOffset < f.dataOffset) ∧
      di' = { di with
        framesTailq := before ++ new :: after
        mergedOffsetEnd :=
          if new.dataOffset ≤ di.mergedOffsetEnd ∧ di.mergedOffsetEnd < new.endOffset then
            mergeFrom new.endOffset after
          else di.mergedOffsetEnd } := by
  unfold insertStreamFrame at hok
  split at hok
  · exact absurd hok (by simp)
  · rename_i before after hwalk
    obtain ⟨mid, hrev, hafter, hbefore, hmid⟩ := insertWalk_ok hwalk
    rw [List.append_nil] at hafter
    subst hafter
    rw [List.reverse_reverse] at hrev
    simp only [Except.ok.injEq] at hok
    exact ⟨before, after, hrev, hbefore, hmid, hok.symm⟩

/-- An insertion moves neither the read offset nor the final size. -/
theorem insertStreamFrame_frame (hok : insertStreamFrame di new = .ok di') :
    di'.nextReadOffset = di.nextReadOffset ∧ di'.streamLength = di.streamLength ∧
      di'.streamDetermined = di.streamDetermined := by
  obtain ⟨before, after, -, -, -, rfl⟩ := insertStreamFrame_ok hok
  exact ⟨rfl, rfl, rfl⟩

theorem insertStreamFrame_merged_le (hok : insertStreamFrame di new = .ok di') :
    di.mergedOffsetEnd ≤ di'.mergedOffsetEnd := by
  obtain ⟨before, after, -, -, -, rfl⟩ := insertStreamFrame_ok hok
  change di.mergedOffsetEnd ≤ if _ then _ else _
  split_ifs with hm
  · exact le_trans (le_of_lt hm.2) (le_mergeFrom _ _)
  · exact le_refl _

/-- **An accepted insertion keeps the invariant**, and changes neither the read offset nor the
final size. -/
theorem insertStreamFrame_dataInv (h : DataInv B delivered di) (hB : new.Agrees B)
    (hnro : new.nextReadOffset = 0) (hok : insertStreamFrame di new = .ok di') :
    DataInv B (new :: delivered) di' := by
  have hle := insertStreamFrame_merged_le hok
  obtain ⟨before, after, hsplit, hlast, hafter, rfl⟩ := insertStreamFrame_ok hok
  obtain ⟨⟨hsorted, hnext, hframe, hcov⟩, hiff⟩ := h
  rw [hsplit] at hsorted hframe hcov hiff
  rw [List.pairwise_append] at hsorted
  obtain ⟨hsb, hsa, hcross⟩ := hsorted
  have hbefore := le_of_getLast? hsb hlast
  set merged' := if new.dataOffset ≤ di.mergedOffsetEnd ∧ di.mergedOffsetEnd < new.endOffset then
    mergeFrom new.endOffset after else di.mergedOffsetEnd with hmerged'
  replace hle : di.mergedOffsetEnd ≤ merged' := hle
  -- bytes between the old and the new merged end come from the new frame or from those behind it
  have hgrow : ∀ i, di.mergedOffsetEnd ≤ i → i < merged' →
      InSeg new.seg i ∨ Covers (after.map StreamFrame.seg) i := by
    intro i hi hi'
    rw [hmerged'] at hi'
    split_ifs at hi' with hm
    · by_cases hin : i < new.endOffset
      · exact Or.inl (inSeg_seg.2 ⟨by omega, hin⟩)
      · exact Or.inr (mergeFrom_covered (by omega) hi')
    · omega
  have hmem : ∀ f, f ∈ before ++ new :: after ↔ f = new ∨ f ∈ before ++ after := by
    intro f
    simp only [List.mem_append, List.mem_cons]
    tauto
  have hcovers : ∀ i, Covers ((before ++ new :: after).map StreamFrame.seg) i ↔
      InSeg new.seg i ∨ Covers ((before ++ after).map StreamFrame.seg) i := by
    intro i
    simp only [List.map_append, List.map_cons, covers_append, covers_cons]
    tauto
  refine ⟨⟨?_, le_trans hnext hle, fun f hf => ?_, fun i hi hi' => ?_⟩, fun i => ?_⟩
  · refine List.pairwise_append.2 ⟨hsb, ?_, fun f hf g hg => ?_⟩
    · exact List.pairwise_cons.2 ⟨fun g hg => le_of_lt (hafter g hg), hsa⟩
    · rw [List.mem_cons] at hg
      rcases hg with rfl | hg
      · exact hbefore f hf
      · exact hcross f hf g hg
  · -- a frame in front of the new one was closed before, one behind it is closed by the merge
    rw [hmem] at hf
    rcases hf with rfl | hf
    · refine ⟨hB, by omega, Or.inl hnro, fun hoff => ?_⟩
      change f.dataOffset ≤ merged' at hoff
      change f.endOffset ≤ merged'
      rw [hmerged'] at hoff ⊢
      split_ifs at hoff ⊢ with hm
      · exact le_mergeFrom _ _
      · omega
    · obtain ⟨hag, hcl, hcur, hclosed⟩ := hframe f hf
      refine ⟨hag, hcl, hcur, fun hoff => ?_⟩
      change f.dataOffset ≤ merged' at hoff
      change f.endOffset ≤ merged'
      rw [hmerged'] at hoff hle ⊢
      split_ifs at hoff hle ⊢ with hm
      · rw [List.mem_append] at hf
        rcases hf with hf | hf
        · have := hbefore f hf
          exact le_trans (hclosed (by omega)) hle
        · exact mergeFrom_closed hsa f hf hoff
      · exact hclosed hoff
  · change i < merged' at hi'
    rw [hcovers]
    by_cases him : i < di.mergedOffsetEnd
    · exact Or.inr (hcov i hi him)
    · rcases hgrow i (by omega) hi' with hin | hin
      · exact Or.inl hin
      · exact Or.inr (by rw [List.map_append, covers_append]; exact Or.inr hin)
  · rw [List.map_cons, covers_cons, hiff, hcovers]
    change _ ↔ i < merged' ∨ _
    constructor
    · rintro (hin | hin | hin)
      · exact Or.inr (Or.inl hin)
      · exact Or.inl (by omega)
      · exact Or.inr (Or.inr hin)
    · rintro (hin | hin | hin)
      · by_cases him : i < di.mergedOffsetEnd
        · exact Or.inr (Or.inl him)
        · rcases hgrow i (by omega) hin with hg | hg
          · exact Or.inl hg
          · exact Or.inr (Or.inr (by rw [List.map_append, covers_append]; exact Or.inr hg))
      · exact Or.inl hin
      · exact Or.inr (Or.inr hin)

end

/-! ## One read -/

section Recv

variable {B : ℕ → UInt8} {merged bufSize next : ℕ} {frames : List StreamFrame} {out : Bytes}

theorem ListInv.tail {f : StreamFrame} (h : ListInv B next merged (f :: frames))
    (hle : f.endOffset ≤ next) : ListInv B next merged frames where
  sorted := (List.pairwise_cons.1 h.sorted).2
  next_le := h.next_le
  frame := fun g hg => h.frame g (List.mem_cons_of_mem _ hg)
  covered := fun i hi hi' => by
    have := h.covered i hi hi'
    rw [List.map_cons, covers_cons, inSeg_seg] at this
    rcases this with hin | hin
    · omega
    · exact hin

/-- The list stays good when the read offset advances inside the merged part. -/
theorem ListInv.advance {next' : ℕ} (h : ListInv B next merged frames) (hle : next ≤ next')
    (hm : next' ≤ merged) : ListInv B next' merged frames where
  sorted := h.sorted
  next_le := hm
  frame := fun f hf => by
    obtain ⟨hag, hcl, hcur, hclosed⟩ := h.frame f hf
    exact ⟨hag, hcl, by omega, hclosed⟩
  covered := fun i hi hi' => h.covered i (by omega) hi'

/-- In a good list the first frame begins at the read offset or before it, if it is merged. -/
theorem ListInv.head_le {f : StreamFrame} (h : ListInv B next merged (f :: frames))
    (hf : f.dataOffset ≤ merged) : f.dataOffset ≤ next := by
  by_cases hn : next < merged
  · obtain ⟨g, hg, hlo, hhi⟩ := covers_seg.1 (h.covered next (le_refl _) hn)
    rw [List.mem_cons] at hg
    rcases hg with rfl | hg
    · exact hlo
    · exact le_trans ((List.pairwise_cons.1 h.sorted).1 g hg) hlo
  · have := h.next_le
    omega

/-- When no frame of the list is merged, everything merged has been read. -/
theorem ListInv.next_eq (h : ListInv B next merged frames)
    (hf : ∀ f ∈ frames, merged < f.dataOffset) : next = merged := by
  by_contra hne
  have hle := h.next_le
  obtain ⟨g, hg, hlo, hhi⟩ := covers_seg.1 (h.covered next (le_refl _) (by omega))
  have := hf g hg
  omega

/-- The cursor that the loop computes for a frame is the stream's read offset inside it. -/
theorem FrameInv.cursor_eq {f : StreamFrame} (h : FrameInv B next merged f)
    (hle : f.dataOffset ≤ next) :
    (if f.dataOffset < next then max f.nextReadOffset (next - f.dataOffset)
      else f.nextReadOffset) = next - f.dataOffset := by
  have hcur := h.cursor
  split_ifs <;> omega

/-- The bytes that the loop copies from a frame are those of the stream at the read offset. -/
theorem StreamFrame.Agrees.take_drop {f : StreamFrame} (h : f.Agrees B)
    (hle : f.dataOffset ≤ next) (hend : next ≤ f.endOffset) {n : ℕ} (hn : next + n ≤ f.endOffset) :
    (f.data.drop (next - f.dataOffset)).take n = slice B next n := by
  unfold StreamFrame.endOffset at hend hn
  rw [h, drop_slice, take_slice]
  congr 1 <;> omega

/-- One round of the loop on a frame that is not yet read. -/
theorem recvLoop_cons {f : StreamFrame} (h : ListInv B next merged (f :: frames))
    (hoff : f.dataOffset ≤ merged) (hroom : out.length < bufSize) (hend : next ≤ f.endOffset) :
    recvLoop merged bufSize (f :: frames) next out =
      if out.length + (f.endOffset - next) ≤ bufSize then
        recvLoop merged bufSize frames f.endOffset (out ++ slice B next (f.endOffset - next))
      else
        ({ f with nextReadOffset := next - f.dataOffset + (bufSize - out.length) } :: frames,
          next + (bufSize - out.length), out ++ slice B next (bufSize - out.length)) := by
  have hf := h.frame f List.mem_cons_self
  have hle := h.head_le hoff
  have hleft : f.data.length - (next - f.dataOffset) = f.endOffset - next := by
    unfold StreamFrame.endOffset at hend ⊢
    omega
  rw [recvLoop, if_neg (by omega), if_neg (by omega), if_neg (by omega)]
  simp only [hf.cursor_eq hle, hleft]
  split_ifs with hfit
  · rw [hf.agrees.take_drop hle hend (by omega), Nat.add_sub_cancel' hend]
  · rw [hf.agrees.take_drop hle hend (by omega)]

/-- **What one read copies and leaves**: the next bytes of the sequence, as many as fit the buffer
and are merged, and a list that is good for the new read offset. -/
theorem recvLoop_spec (bufSize : ℕ) (out : Bytes) (h : ListInv B next merged frames) :
    ∃ frames' n, recvLoop merged bufSize frames next out = (frames', next + n, out ++ slice B next n)
      ∧ n = min (bufSize - out.length) (merged - next)
      ∧ ListInv B (next + n) merged frames'
      ∧ ∀ i, merged ≤ i → (Covers (frames'.map StreamFrame.seg) i ↔
          Covers (frames.map StreamFrame.seg) i) := by
  induction frames generalizing next out with
  | nil =>
      have hn := h.next_eq (by simp)
      exact ⟨[], 0, by simp [recvLoop], by omega, h, by simp⟩
  | cons f fs ih =>
      have hsorted := List.pairwise_cons.1 h.sorted
      have hf := h.frame f List.mem_cons_self
      by_cases hgap : merged < f.dataOffset
      · have hn := h.next_eq fun g hg => by
          rw [List.mem_cons] at hg
          rcases hg with rfl | hg
          · exact hgap
          · exact lt_of_lt_of_le hgap (hsorted.1 g hg)
        exact ⟨f :: fs, 0, by simp [recvLoop, hgap], by omega, h, by simp⟩
      by_cases hfull : bufSize ≤ out.length
      · exact ⟨f :: fs, 0, by simp [recvLoop, hgap, hfull], by omega, h, by simp⟩
      have hclosed := hf.closed (by omega)
      -- a frame that is read up does not count above the merged end
      have hdrop : ∀ i, merged ≤ i → (Covers (fs.map StreamFrame.seg) i ↔
          Covers ((f :: fs).map StreamFrame.seg) i) := by
        intro i hi
        rw [List.map_cons, covers_cons, inSeg_seg]
        constructor
        · exact Or.inr
        · rintro (hin | hin)
          · omega
          · exact hin
      by_cases hread : f.endOffset < next
      · obtain ⟨frames', n, hrun, hn, hinv, hcov⟩ := ih out (h.tail (by omega))
        refine ⟨frames', n, ?_, hn, hinv, fun i hi => (hcov i hi).trans (hdrop i hi)⟩
        simp [recvLoop, hgap, hfull, hread, hrun]
      rw [recvLoop_cons h (by omega) (by omega) (by omega)]
      have hnext : next ≤ f.endOffset := by omega
      split_ifs with hfit
      · -- the whole rest of the frame fits: it is freed and the loop goes on
        have htail := (h.advance hnext hclosed).tail (le_refl _)
        obtain ⟨frames', n, hrun, hn, hinv, hcov⟩ :=
          ih (out ++ slice B next (f.endOffset - next)) htail
        have hsum : f.endOffset + n = next + (f.endOffset - next + n) := by omega
        refine ⟨frames', f.endOffset - next + n, ?_, ?_, hsum ▸ hinv,
          fun i hi => (hcov i hi).trans (hdrop i hi)⟩
        · rw [hrun, ← hsum, List.append_assoc]
          congr 2
          rw [← slice_append, Nat.add_sub_cancel' hnext]
        · rw [List.length_append, length_slice] at hn
          omega
      · -- the buffer is full in the middle of the frame: it keeps its cursor
        refine ⟨_, bufSize - out.length, rfl, by omega, ⟨?_, by omega, ?_, ?_⟩, ?_⟩
        · exact List.pairwise_cons.2 ⟨hsorted.1, hsorted.2⟩
        · have hadv := h.advance (Nat.le_add_right next (bufSize - out.length)) (by omega)
          have hle := h.head_le (by omega)
          intro g hg
          rw [List.mem_cons] at hg
          rcases hg with rfl | hg
          · refine ⟨hf.agrees, ?_, Or.inr ?_, hf.closed⟩
            · change next - f.dataOffset + (bufSize - out.length) ≤ f.data.length
              unfold StreamFrame.endOffset at hfit hnext
              omega
            · change f.dataOffset + (next - f.dataOffset + (bufSize - out.length)) ≤ _
              omega
          · exact hadv.frame g (List.mem_cons_of_mem _ hg)
        · intro i hi hi'
          exact h.covered i (by omega) hi'
        · exact fun i hi => Iff.rfl

end Recv

end Rquic

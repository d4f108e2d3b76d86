import Mathlib.Data.List.Basic
import Mathlib.Order.Bounds.Basic
import Mathlib.Tactic.SplitIfs

set_option autoImplicit false

/-!
# Segments of a sequence and the prefix they cover

A segment of an infinite sequence is given by its offset and its length. This file is about the
positions that a list of segments covers and about the values that a sequence takes on a segment.

* `Covers`: some segment of the list contains the position.
* **`isGreatest_covered`**: the longest covered prefix ends at the first position not covered.
* `slice`: the values on a segment, with its `append`, `take` and `drop` rules.
-/

namespace Rquic

/-! ## Coverage -/

/-- The position `i` lies in the segment `s`, an offset with a length. -/
def InSeg (s : ℕ × ℕ) (i : ℕ) : Prop := s.1 ≤ i ∧ i < s.1 + s.2

instance (s : ℕ × ℕ) (i : ℕ) : Decidable (InSeg s i) :=
  inferInstanceAs (Decidable (s.1 ≤ i ∧ i < s.1 + s.2))

/-- Some segment of the list contains the position `i`. -/
def Covers (segs : List (ℕ × ℕ)) (i : ℕ) : Prop := ∃ s ∈ segs, InSeg s i

instance (segs : List (ℕ × ℕ)) (i : ℕ) : Decidable (Covers segs i) :=
  inferInstanceAs (Decidable (∃ s ∈ segs, InSeg s i))

/-- The segments cover every position below `n`. -/
def CoversBelow (segs : List (ℕ × ℕ)) (n : ℕ) : Prop := ∀ i < n, Covers segs i

instance (segs : List (ℕ × ℕ)) (n : ℕ) : Decidable (CoversBelow segs n) :=
  inferInstanceAs (Decidable (∀ i < n, Covers segs i))

theorem not_covers_nil (i : ℕ) : ¬ Covers [] i := by simp [Covers]

theorem covers_cons {s : ℕ × ℕ} {segs : List (ℕ × ℕ)} {i : ℕ} :
    Covers (s :: segs) i ↔ InSeg s i ∨ Covers segs i := by
  simp [Covers]

theorem covers_append {segs segs' : List (ℕ × ℕ)} {i : ℕ} :
    Covers (segs ++ segs') i ↔ Covers segs i ∨ Covers segs' i := by
  simp only [Covers, List.mem_append]
  constructor
  · rintro ⟨s, hs | hs, hi⟩
    · exact Or.inl ⟨s, hs, hi⟩
    · exact Or.inr ⟨s, hs, hi⟩
  · rintro (⟨s, hs, hi⟩ | ⟨s, hs, hi⟩)
    · exact ⟨s, Or.inl hs, hi⟩
    · exact ⟨s, Or.inr hs, hi⟩

/-- **The longest covered prefix ends at the first position that is not covered.** -/
theorem isGreatest_covered {segs : List (ℕ × ℕ)} {n : ℕ} (h : CoversBelow segs n)
    (hn : ¬ Covers segs n) : IsGreatest {m | CoversBelow segs m} n := by
  refine ⟨h, fun m hm => ?_⟩
  by_contra hlt
  exact hn (hm n (Nat.lt_of_not_le hlt))

/-! ## Values on a segment -/

/-- The `len` values of the sequence `B` from position `off` on. -/
def slice {α : Type} (B : ℕ → α) (off len : ℕ) : List α := (List.range' off len).map B

section Slice

variable {α : Type} (B : ℕ → α)

@[simp] theorem slice_zero (off : ℕ) : slice B off 0 = [] := rfl

@[simp] theorem length_slice (off len : ℕ) : (slice B off len).length = len := by
  simp [slice]

theorem slice_append (off m n : ℕ) :
    slice B off m ++ slice B (off + m) n = slice B off (m + n) := by
  rw [slice, slice, slice, ← List.map_append, List.range'_append_1]

theorem drop_slice (off len k : ℕ) : (slice B off len).drop k = slice B (off + k) (len - k) := by
  rw [slice, slice, ← List.map_drop, List.drop_range', Nat.mul_one]

theorem take_slice (off len k : ℕ) : (slice B off len).take k = slice B off (min k len) := by
  rw [slice, slice, ← List.map_take]
  congr 1
  refine List.ext_getElem (by simp) fun i h₁ h₂ => ?_
  simp

end Slice

end Rquic

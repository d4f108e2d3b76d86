import Mathlib.Data.List.Basic
import Mathlib.Data.List.Range
import Mathlib.Logic.Function.Basic
import Mathlib.Tactic.SplitIfs

set_option autoImplicit false

/-!
# Ring buffers

A buffer of `cap` cells that is read around its end: the entries stand in the cells from `offset` on.

* `ringList`: the entries, the front first.
* **`ringList_push`**: an entry is put in front of the others.
* **`ringList_concat`**: an entry is put behind the others.
* `ringList_take`, `ringList_tail`: entries are cut off at the back, or the first one.
* `inRing_iff`: the cells between the ends of the entries are those that hold one.
-/

namespace Rquic

variable {α : Type}

/-- The entries of a ring, the front first. -/
def ringList (cap : ℕ) (buf : ℕ → α) (offset count : ℕ) : List α :=
  (List.range count).map fun i => buf ((offset + i) % cap)

section Ring

variable {cap offset count : ℕ} {buf : ℕ → α}

@[simp] theorem ringList_length : (ringList cap buf offset count).length = count := by simp [ringList]

theorem ringList_getElem? (i : ℕ) :
    (ringList cap buf offset count)[i]? =
      if i < count then some (buf ((offset + i) % cap)) else none := by
  unfold ringList
  rw [List.getElem?_map]
  split_ifs with h
  · rw [List.getElem?_range h]
    rfl
  · rw [List.getElem?_eq_none (by simpa using h)]
    rfl

theorem ringList_take (n : ℕ) :
    (ringList cap buf offset count).take n = ringList cap buf offset (min n count) := by
  unfold ringList
  rw [← List.map_take, List.take_range]

theorem ring_index (hoffset : offset < cap) {i : ℕ} (hi : i ≤ cap) :
    (offset + i) % cap = if offset + i < cap then offset + i else offset + i - cap := by
  split_ifs with h
  · exact Nat.mod_eq_of_lt h
  · rw [Nat.mod_eq_sub_mod (by omega), Nat.mod_eq_of_lt (by omega)]

theorem ring_index_ne (hoffset : offset < cap) {i j : ℕ} (hi : i < cap) (hj : j < cap) (hne : i ≠ j) :
    (offset + i) % cap ≠ (offset + j) % cap := by
  rw [ring_index hoffset hi.le, ring_index hoffset hj.le]
  split_ifs <;> omega

/-- **An entry is put in front of the others**, into the cell before them. -/
theorem ringList_push {offset' : ℕ} (hoffset' : offset' < cap) (hoffset : (offset' + 1) % cap = offset)
    (hcount : count < cap) (x : α) :
    ringList cap (Function.update buf offset' x) offset' (count + 1) =
      x :: ringList cap buf offset count := by
  have hfirst : (offset' + 0) % cap = offset' := Nat.mod_eq_of_lt hoffset'
  unfold ringList
  rw [List.range_succ_eq_map, List.map_cons, List.map_map, hfirst, Function.update_self]
  congr 1
  refine List.map_congr_left fun i hi => ?_
  have hlt : i < count := List.mem_range.1 hi
  have hne : (offset' + (i + 1)) % cap ≠ offset' := by
    have hcells := ring_index_ne hoffset' (show i + 1 < cap by omega)
      (show 0 < cap by omega) (Nat.succ_ne_zero i)
    rwa [hfirst] at hcells
  dsimp only [Function.comp_apply]
  rw [Function.update_of_ne hne, ← hoffset, Nat.mod_add_mod]
  congr 2
  omega

/-- **An entry is put behind the others**, into the cell after them. -/
theorem ringList_concat (hoffset : offset < cap) (hcount : count < cap) (x : α) :
    ringList cap (Function.update buf ((offset + count) % cap) x) offset (count + 1) =
      ringList cap buf offset count ++ [x] := by
  unfold ringList
  rw [List.range_succ, List.map_append, List.map_singleton, Function.update_self]
  congr 1
  refine List.map_congr_left fun i hi => ?_
  have hlt : i < count := List.mem_range.1 hi
  rw [Function.update_of_ne (ring_index_ne hoffset (hlt.trans hcount) hcount hlt.ne)]

theorem ringList_tail :
    ringList cap buf ((offset + 1) % cap) (count - 1) = (ringList cap buf offset count).tail := by
  unfold ringList
  cases count with
  | zero => rfl
  | succ count =>
      rw [List.range_succ_eq_map, List.map_cons, List.tail_cons, List.map_map, Nat.succ_sub_one]
      refine List.map_congr_left fun i _ => ?_
      dsimp only [Function.comp_apply]
      rw [Nat.mod_add_mod, Nat.add_assoc, Nat.add_comm 1]

theorem ringList_congr {cap' offset' : ℕ} {buf' : ℕ → α}
    (h : ∀ i < count, buf' ((offset' + i) % cap') = buf ((offset + i) % cap)) :
    ringList cap' buf' offset' count = ringList cap buf offset count :=
  List.map_congr_left fun i hi => h i (List.mem_range.1 hi)

/-- The cell `(offset + i) % cap` stands between the ends of the entries, going around. -/
def inRing (cap offset count cell : ℕ) : Bool :=
  let last := (offset + count) % cap
  if last ≤ offset then
    if count = 0 then false else offset ≤ cell || cell < last
  else offset ≤ cell && cell < last

/-- **The cells between the ends are those that hold an entry.** -/
theorem inRing_iff (hoffset : offset < cap) (hcount : count ≤ cap) {i : ℕ} (hi : i < cap) :
    inRing cap offset count ((offset + i) % cap) = true ↔ i < count := by
  unfold inRing
  dsimp only
  rw [ring_index hoffset hcount, ring_index hoffset hi.le]
  split_ifs <;> simp <;> omega

end Ring

end Rquic

import Rquic.Lib.Agree
import Rquic.AckSentRing

set_option autoImplicit false

/-!
# The ring array as a deque

The rest of `rqc_ring_array.c`: both ends of the array, and the growth of its memory.

* `RingArray.push`, `RingArray.popFront`: the operations that the record of sent ACK frames does not use.
* `RArray`: a ring array with the memory of its buffer, `RArray.resize` with the two ways to copy it.
* `BoundedList`: what the array is for, a list with a capacity.
* `RArray.resize_toList`: the elements are copied in order, if a full array starts at its first cell.
* **`rarray_agrees_iff`**: the array answers as the list does exactly under that condition.
-/

namespace Rquic

/-! ## Both ends -/

namespace RingArray

variable {α : Type} {ra ra' : RingArray α}

theorem succ_le (ra : RingArray α) (h : ¬ ra.cap ≤ ra.count) : ra.count + 1 ≤ ra.cap := not_le.1 h

theorem next_lt (ra : RingArray α) : (ra.offset + 1) &&& ra.mask < ra.cap := ra.and_mask_lt _

theorem pred_le (ra : RingArray α) : ra.count - 1 ≤ ra.cap := (Nat.sub_le _ _).trans ra.count_le

/-- `rqc_rarray_push`, with the element that the caller writes. -/
def push (ra : RingArray α) (x : α) : Option (RingArray α) :=
  if h : ra.cap ≤ ra.count then none
  else some { ra with
    buf := Function.update ra.buf ((ra.offset + ra.count) &&& ra.mask) x
    count := ra.count + 1
    count_le := ra.succ_le h }

/-- `rqc_rarray_pop_front`. -/
def popFront (ra : RingArray α) : Option (RingArray α) :=
  if ra.count = 0 then none
  else some { ra with
    offset := (ra.offset + 1) &&& ra.mask
    count := ra.count - 1
    offset_lt := ra.next_lt
    count_le := ra.pred_le }

theorem push_eq_none {x : α} : ra.push x = none ↔ ra.cap ≤ ra.count := by
  unfold push
  split_ifs with h
  · exact iff_of_true rfl h
  · exact iff_of_false id h

theorem pushFront_eq_none {x : α} : ra.pushFront x = none ↔ ra.cap ≤ ra.count := by
  unfold pushFront
  split_ifs with h
  · exact iff_of_true rfl h
  · exact iff_of_false id h

theorem popFront_eq_none : ra.popFront = none ↔ ra.count = 0 := by
  unfold popFront
  split_ifs with h
  · exact iff_of_true rfl h
  · exact iff_of_false id h

theorem push_toList {x : α} (h : ra.push x = some ra') :
    ra'.toList = ra.toList ++ [x] ∧ ra'.cap = ra.cap := by
  unfold push at h
  split_ifs at h with hfull
  obtain rfl := Option.some.inj h
  refine ⟨?_, rfl⟩
  unfold toList
  dsimp only
  rw [ra.and_mask]
  exact ringList_concat ra.offset_lt (not_le.1 hfull) x

theorem popFront_toList (h : ra.popFront = some ra') :
    ra'.toList = ra.toList.tail ∧ ra'.cap = ra.cap := by
  unfold popFront at h
  split_ifs at h
  obtain rfl := Option.some.inj h
  refine ⟨?_, rfl⟩
  unfold toList
  dsimp only
  rw [ra.and_mask]
  exact ringList_tail

end RingArray

/-! ## The memory -/

theorem le_pow2UpperLoop {n fuel i : ℕ} (h : n ≤ 2 ^ (i + fuel)) : n ≤ pow2UpperLoop n fuel (2 ^ i) := by
  induction fuel generalizing i with
  | zero => exact h
  | succ fuel ih =>
      rw [pow2UpperLoop]
      split_ifs with hlt
      · have hdouble : 2 ^ i <<< 1 = 2 ^ (i + 1) := by rw [Nat.shiftLeft_eq, pow_one, pow_succ]
        rw [hdouble]
        exact ih (by rwa [Nat.add_right_comm])
      · exact not_lt.1 hlt

theorem le_pow2Upper {n : ℕ} (h : n ≤ 2 ^ 63) : n ≤ pow2Upper n :=
  le_pow2UpperLoop (i := 0) (by rwa [Nat.zero_add])

/-- `rqc_rarray_t` with elements of a positive size. A cell holds none where nothing was written. -/
structure RArray (α : Type) where
  ring : RingArray (Option α)
  esize : ℕ
  /-- The number of elements that the memory behind `buf` has room for. -/
  room : ℕ

/-- `rqc_malloc(array_cap * esize)`, in elements. -/
def mallocRoom (arrayCap esize : ℕ) : ℕ := arrayCap * esize % 2 ^ 64 / esize

theorem mallocRoom_eq {arrayCap esize : ℕ} (hesize : 0 < esize) (h : arrayCap * esize < 2 ^ 64) :
    mallocRoom arrayCap esize = arrayCap := by
  rw [mallocRoom, Nat.mod_eq_of_lt h, Nat.mul_div_cancel _ hesize]

namespace RArray

variable {α : Type}

/-- `rqc_rarray_create`, with memory as the program got it. -/
def create (cap esize : ℕ) : Option (RArray α) :=
  if 2 ^ 63 < cap then none
  else some ⟨RingArray.create cap, esize, mallocRoom (pow2Upper cap) esize⟩

/-- What a read of the buffer finds. Nothing is known of what lies behind its end. -/
def cell (ra : RArray α) (i : ℕ) : Option α := if i < ra.room then ra.ring.buf i else none

/-- `rqc_rarray_get`, and a read through the pointer. -/
def get (ra : RArray α) (idx : ℕ) : Option (Option α) :=
  RingArray.get { ra.ring with buf := ra.cell } idx

/-- The new buffer of `rqc_rarray_resize`: one `memcpy`, or two where the elements go around the end. -/
def copied (ra : RArray α) (i : ℕ) : Option α :=
  let offset := ra.ring.offset
  let count := ra.ring.count
  let last := (offset + count) &&& ra.ring.mask
  if offset ≤ last then if i < count then ra.cell (offset + i) else none
  else
    let first := ra.ring.cap - offset
    if i < first then ra.cell (offset + i)
    else if i < first + last then ra.cell (i - first) else none

/-- `rqc_rarray_resize`, for a request that is larger than the capacity. -/
def grow (ra : RArray α) (cap : ℕ) (hlarge : ra.ring.cap < cap) (hcap : cap ≤ 2 ^ 63) : RArray α where
  ring := { (RingArray.create cap : RingArray (Option α)) with
    buf := ra.copied
    count := ra.ring.count
    count_le := ra.ring.count_le.trans (hlarge.le.trans (le_pow2Upper hcap)) }
  esize := ra.esize
  room := mallocRoom (pow2Upper cap) ra.esize

/-- `rqc_rarray_resize`; `RQC_OK` is none. -/
def resize (ra : RArray α) (cap : ℕ) : RArray α × Option Errno :=
  if cap < ra.ring.count then (ra, some .param)
  else if hlarge : cap ≤ ra.ring.cap then (ra, none)
  else if hcap : 2 ^ 63 < cap then (ra, some .malloc)
  else (ra.grow cap (not_le.1 hlarge) (not_lt.1 hcap), none)

/-- The elements, the first one in front. -/
def toList (ra : RArray α) : List (Option α) := ra.ring.toList

theorem get_eq {ra : RArray α} (hroom : ra.room = ra.ring.cap) (idx : ℕ) :
    ra.get idx = ra.toList[idx]? := by
  have hcells : RingArray.toList { ra.ring with buf := ra.cell } = ra.ring.toList := by
    apply ringList_congr
    intro i _
    have hlt : (ra.ring.offset + i) % ra.ring.cap < ra.ring.cap :=
      Nat.mod_lt _ ((Nat.zero_le _).trans_lt ra.ring.offset_lt)
    exact if_pos (hlt.trans_eq hroom.symm)
  rw [get, RingArray.get_eq, hcells, toList]

/-- A full array starts at its first cell. -/
def Straight (ra : RArray α) : Prop := ra.ring.cap ≤ ra.ring.count → ra.ring.offset = 0

instance (ra : RArray α) : Decidable ra.Straight := by unfold Straight; infer_instance

/-- **The elements are copied in order**, if a full array starts at its first cell. -/
theorem grow_toList {ra : RArray α} (hroom : ra.room = ra.ring.cap) (hstraight : ra.Straight) {cap : ℕ}
    (hlarge : ra.ring.cap < cap) (hcap : cap ≤ 2 ^ 63) :
    (ra.grow cap hlarge hcap).toList = ra.toList := by
  have hoffset := ra.ring.offset_lt
  have hcount := ra.ring.count_le
  have hupper := le_pow2Upper hcap
  apply ringList_congr
  intro i hi
  change ra.copied ((0 + i) % pow2Upper cap) = _
  have hcell : ∀ j < ra.ring.cap, ra.cell j = ra.ring.buf j := fun j hj => if_pos (by rwa [hroom])
  have hi : i < ra.ring.count := hi
  rw [Nat.zero_add, Nat.mod_eq_of_lt (by omega), copied, ra.ring.and_mask, ring_index hoffset hcount,
    ring_index hoffset (by omega : i ≤ ra.ring.cap)]
  dsimp only
  unfold Straight at hstraight
  split_ifs with h1 h2 h2 <;> try omega
  all_goals
    rw [hcell _ (by omega)]
  all_goals congr 1
  all_goals omega

/-- An array that is full and does not start at its first cell loses the elements that go around the end:
the copy reads behind the old buffer instead. -/
theorem grow_getElem? {ra : RArray α} (hroom : ra.room = ra.ring.cap) (hstraight : ¬ ra.Straight) {cap : ℕ}
    (hlarge : ra.ring.cap < cap) (hcap : cap ≤ 2 ^ 63) :
    (ra.grow cap hlarge hcap).get (ra.ring.cap - ra.ring.offset) = some none ∧
      ra.ring.cap - ra.ring.offset < ra.ring.count := by
  unfold Straight at hstraight
  push Not at hstraight
  obtain ⟨hfull, hrotated⟩ := hstraight
  have hoffset := ra.ring.offset_lt
  have hcount : ra.ring.count = ra.ring.cap := le_antisymm ra.ring.count_le hfull
  have hlt : ra.ring.cap - ra.ring.offset < ra.ring.count := by omega
  have hlast : (ra.ring.offset + ra.ring.count) &&& ra.ring.mask = ra.ring.offset := by
    rw [ra.ring.and_mask, hcount, Nat.add_mod_right, Nat.mod_eq_of_lt hoffset]
  have hcopied : ra.copied (ra.ring.cap - ra.ring.offset) = none := by
    have hbehind : ¬ ra.ring.offset + (ra.ring.cap - ra.ring.offset) < ra.room := by omega
    rw [copied, hlast]
    dsimp only
    rw [if_pos le_rfl, if_pos hlt, cell, if_neg hbehind]
  have hsmall : ra.ring.cap - ra.ring.offset < pow2Upper cap :=
    (Nat.sub_le _ _).trans_lt (hlarge.trans_le (le_pow2Upper hcap))
  refine ⟨?_, hlt⟩
  rw [get, RingArray.get_eq, RingArray.toList, ringList_getElem?]
  change (if _ < ra.ring.count then some (cell _ ((0 + _) % pow2Upper cap)) else none) = _
  rw [if_pos hlt, Nat.zero_add, Nat.mod_eq_of_lt hsmall, cell]
  change some (if _ then ra.copied _ else none) = _
  rw [hcopied, ite_self]

end RArray

/-! ## The operations -/

/-- An operation; a pushed element is what the caller writes through the pointer. -/
inductive RArrayOp (α : Type) where
  | push (x : α)
  | pushFront (x : α)
  | popFront
  | popBack
  | popFrom (idx : ℕ)
  | resize (cap : ℕ)
  | get (idx : ℕ)
  | size
  | full
  deriving DecidableEq

/-- What an operation returns: whether there is a pointer to write through, an error code, what is read
through the pointer, the size, or a flag. -/
inductive RArrayRes (α : Type) where
  | ptr (ok : Bool)
  | code (err : Option Errno)
  | elem (x : Option (Option α))
  | size (n : ℕ)
  | full (b : Bool)
  deriving DecidableEq

variable {α : Type}

/-- One operation on the ring array. -/
def RArray.step (ra : RArray α) : RArrayOp α → RArray α × RArrayRes α
  | .push x =>
    match ra.ring.push (some x) with
    | none => (ra, .ptr false)
    | some ring => ({ ra with ring := ring }, .ptr true)
  | .pushFront x =>
    match ra.ring.pushFront (some x) with
    | none => (ra, .ptr false)
    | some ring => ({ ra with ring := ring }, .ptr true)
  | .popFront =>
    match ra.ring.popFront with
    | none => (ra, .code (some .generic))
    | some ring => ({ ra with ring := ring }, .code none)
  | .popBack =>
    if ra.ring.count = 0 then (ra, .code (some .generic))
    else ({ ra with ring := ra.ring.popBack }, .code none)
  | .popFrom idx =>
    if ra.ring.count ≤ idx then (ra, .code (some .generic))
    else ({ ra with ring := ra.ring.popFrom idx }, .code none)
  | .resize cap => ((ra.resize cap).1, .code (ra.resize cap).2)
  | .get idx => (ra, .elem (ra.get idx))
  | .size => (ra, .size ra.ring.size)
  | .full => (ra, .full ra.ring.full)

/-- A list with a capacity. -/
structure BoundedList (α : Type) where
  items : List α
  cap : ℕ

/-- One operation on a list with a capacity. A larger capacity is rounded up to a power of two. -/
def BoundedList.step (l : BoundedList α) : RArrayOp α → BoundedList α × RArrayRes α
  | .push x =>
    if l.items.length < l.cap then (⟨l.items ++ [x], l.cap⟩, .ptr true) else (l, .ptr false)
  | .pushFront x =>
    if l.items.length < l.cap then (⟨x :: l.items, l.cap⟩, .ptr true) else (l, .ptr false)
  | .popFront =>
    if l.items = [] then (l, .code (some .generic)) else (⟨l.items.tail, l.cap⟩, .code none)
  | .popBack =>
    if l.items = [] then (l, .code (some .generic)) else (⟨l.items.dropLast, l.cap⟩, .code none)
  | .popFrom idx =>
    if idx < l.items.length then (⟨l.items.take idx, l.cap⟩, .code none)
    else (l, .code (some .generic))
  | .resize cap =>
    if cap < l.items.length then (l, .code (some .param))
    else if cap ≤ l.cap then (l, .code none)
    else if 2 ^ 63 < cap then (l, .code (some .malloc))
    else (⟨l.items, pow2Upper cap⟩, .code none)
  | .get idx => (l, .elem (l.items[idx]?.map some))
  | .size => (l, .size l.items.length)
  | .full => (l, .full (l.cap ≤ l.items.length))

/-- The memory that the operation may ask for exists: its size is a number of bytes. -/
def RArrayOp.Allocates (esize : ℕ) : RArrayOp α → Prop
  | .resize cap => cap ≤ 2 ^ 63 → pow2Upper cap * esize < 2 ^ 64
  | _ => True

/-- The operation does not grow an array that is full and does not start at its first cell. -/
def RArray.GrowsStraight (ra : RArray α) : RArrayOp α → Prop
  | .resize cap => ra.ring.cap < cap → cap ≤ 2 ^ 63 → ra.Straight
  | _ => True

instance (ra : RArray α) : ∀ op, Decidable (ra.GrowsStraight op)
  | .resize cap => inferInstanceAs (Decidable (ra.ring.cap < cap → cap ≤ 2 ^ 63 → ra.Straight))
  | .push _ | .pushFront _ | .popFront | .popBack | .popFrom _ | .get _ | .size | .full =>
    inferInstanceAs (Decidable True)

/-! ## The array and the list -/

/-- The array holds the elements of the list, and its memory has room for its capacity. -/
structure RArray.Holds (esize : ℕ) (ra : RArray α) (l : BoundedList α) : Prop where
  items : ra.toList = l.items.map some
  cap : ra.ring.cap = l.cap
  room : ra.room = ra.ring.cap
  esize : ra.esize = esize

namespace RArray.Holds

variable {esize : ℕ} {ra : RArray α} {l : BoundedList α}

theorem count (h : ra.Holds esize l) : ra.ring.count = l.items.length := by
  have hlen := congrArg List.length h.items
  rwa [List.length_map, toList, RingArray.toList_length] at hlen

theorem ring (h : ra.Holds esize l) {ring : RingArray (Option α)} {items : List α}
    (hitems : ring.toList = items.map some) (hcap : ring.cap = ra.ring.cap) :
    Holds esize { ra with ring := ring } ⟨items, l.cap⟩ :=
  ⟨hitems, hcap.trans h.cap, h.room.trans hcap.symm, h.esize⟩

/-- **One operation**: related states answer alike, and stay related unless an array is grown that is full
and does not start at its first cell. -/
theorem step (h : ra.Holds esize l) (hesize : 0 < esize) (op : RArrayOp α) :
    (ra.step op).2 = (l.step op).2 ∧
      (op.Allocates esize → ra.GrowsStraight op → Holds esize (ra.step op).1 (l.step op).1) := by
  have hcount := h.count
  have hcap := h.cap
  have hitems : ra.ring.toList = l.items.map some := h.items
  have hempty : ra.ring.count = 0 ↔ l.items = [] := by rw [hcount, List.length_eq_zero_iff]
  cases op with
  | push x =>
      simp only [RArray.step, BoundedList.step]
      cases hpush : ra.ring.push (some x) with
      | none =>
          have hfull := RingArray.push_eq_none.1 hpush
          rw [if_neg (by omega)]
          exact ⟨rfl, fun _ _ => h⟩
      | some ring =>
          have hroom : ¬ ra.ring.cap ≤ ra.ring.count := fun hfull => by
            rw [RingArray.push_eq_none.2 hfull] at hpush
            cases hpush
          obtain ⟨hlist, hcap'⟩ := RingArray.push_toList hpush
          rw [if_pos (by omega)]
          exact ⟨rfl, fun _ _ => h.ring (by rw [hlist, hitems, List.map_append]; rfl) hcap'⟩
  | pushFront x =>
      simp only [RArray.step, BoundedList.step]
      cases hpush : ra.ring.pushFront (some x) with
      | none =>
          have hfull := RingArray.pushFront_eq_none.1 hpush
          rw [if_neg (by omega)]
          exact ⟨rfl, fun _ _ => h⟩
      | some ring =>
          have hroom : ¬ ra.ring.cap ≤ ra.ring.count := fun hfull => by
            rw [RingArray.pushFront_eq_none.2 hfull] at hpush
            cases hpush
          obtain ⟨hlist, hcap'⟩ := RingArray.pushFront_toList hpush
          rw [if_pos (by omega)]
          exact ⟨rfl, fun _ _ => h.ring (by rw [hlist, hitems, List.map_cons]) hcap'⟩
  | popFront =>
      simp only [RArray.step, BoundedList.step]
      cases hpop : ra.ring.popFront with
      | none =>
          rw [if_pos (hempty.1 (RingArray.popFront_eq_none.1 hpop))]
          exact ⟨rfl, fun _ _ => h⟩
      | some ring =>
          have hne : ¬ l.items = [] := fun hnil => by
            rw [RingArray.popFront_eq_none.2 (hempty.2 hnil)] at hpop
            cases hpop
          obtain ⟨hlist, hcap'⟩ := RingArray.popFront_toList hpop
          rw [if_neg hne]
          exact ⟨rfl, fun _ _ => h.ring (by rw [hlist, hitems, List.map_tail]) hcap'⟩
  | popBack =>
      simp only [RArray.step, BoundedList.step]
      by_cases hnil : l.items = []
      · rw [if_pos (hempty.2 hnil), if_pos hnil]
        exact ⟨rfl, fun _ _ => h⟩
      · rw [if_neg (hnil ∘ hempty.1), if_neg hnil]
        exact ⟨rfl, fun _ _ =>
          h.ring (by rw [RingArray.popBack_toList, hitems, List.map_dropLast]) rfl⟩
  | popFrom idx =>
      simp only [RArray.step, BoundedList.step]
      by_cases hidx : idx < l.items.length
      · rw [if_neg (by omega), if_pos hidx]
        refine ⟨rfl, fun _ _ => h.ring ?_ (RingArray.popFrom_cap _ _)⟩
        rw [RingArray.popFrom_toList _ (by omega), hitems, List.map_take]
      · rw [if_pos (by omega), if_neg hidx]
        exact ⟨rfl, fun _ _ => h⟩
  | resize cap =>
      simp only [RArray.step, BoundedList.step, RArray.resize, hcount, hcap]
      by_cases hparam : cap < l.items.length
      · rw [if_pos hparam, if_pos hparam]
        exact ⟨rfl, fun _ _ => h⟩
      rw [if_neg hparam, if_neg hparam]
      by_cases hsmall : cap ≤ l.cap
      · rw [dif_pos hsmall, if_pos hsmall]
        exact ⟨rfl, fun _ _ => h⟩
      rw [dif_neg hsmall, if_neg hsmall]
      by_cases hhuge : 2 ^ 63 < cap
      · rw [dif_pos hhuge, if_pos hhuge]
        exact ⟨rfl, fun _ _ => h⟩
      rw [dif_neg hhuge, if_neg hhuge]
      refine ⟨rfl, fun halloc hstraight => ?_⟩
      have hle := not_lt.1 hhuge
      have hlarge : ra.ring.cap < cap := hcap ▸ not_le.1 hsmall
      refine ⟨(grow_toList h.room (hstraight hlarge hle) hlarge hle).trans h.items, rfl, ?_, h.esize⟩
      change mallocRoom _ ra.esize = _
      rw [h.esize]
      exact mallocRoom_eq hesize (halloc hle)
  | get idx =>
      simp only [RArray.step, BoundedList.step, get_eq h.room, h.items, List.getElem?_map]
      exact ⟨trivial, fun _ _ => h⟩
  | size =>
      simp only [RArray.step, BoundedList.step, RingArray.size, hcount]
      exact ⟨trivial, fun _ _ => h⟩
  | full =>
      simp only [RArray.step, BoundedList.step, RingArray.full, hcount, hcap]
      exact ⟨trivial, fun _ _ => h⟩

/-- Such growth shows: there is an element that is not found any more. -/
theorem shows (h : ra.Holds esize l) {op : RArrayOp α} (hop : ¬ ra.GrowsStraight op) :
    ∃ op', ((ra.step op).1.step op').2 ≠ ((l.step op).1.step op').2 := by
  cases op with
  | resize cap =>
      simp only [GrowsStraight, Classical.not_imp] at hop
      obtain ⟨hlarge, hle, hrotated⟩ := hop
      obtain ⟨hget, hlt⟩ := grow_getElem? h.room hrotated hlarge hle
      have hgrow : ra.resize cap = (ra.grow cap hlarge hle, none) := by
        have hcount := ra.ring.count_le
        rw [RArray.resize, if_neg (by omega), dif_neg (not_le.2 hlarge), dif_neg (not_lt.2 hle)]
      have hitems : (l.step (.resize cap)).1.items = l.items := by
        rw [BoundedList.step]
        split_ifs <;> rfl
      refine ⟨.get (ra.ring.cap - ra.ring.offset), ?_⟩
      change RArrayRes.elem ((ra.resize cap).1.get _) ≠
        RArrayRes.elem (((l.step (.resize cap)).1.items[_]?).map some)
      rw [h.count] at hlt
      rw [hgrow, hget, hitems, List.getElem?_eq_getElem hlt]
      simp
  | push x => exact absurd trivial hop
  | pushFront x => exact absurd trivial hop
  | popFront => exact absurd trivial hop
  | popBack => exact absurd trivial hop
  | popFrom idx => exact absurd trivial hop
  | get idx => exact absurd trivial hop
  | size => exact absurd trivial hop
  | full => exact absurd trivial hop

end RArray.Holds

theorem RArray.create_holds {cap esize : ℕ} {ra : RArray α} (h : create cap esize = some ra)
    (hesize : 0 < esize) (halloc : pow2Upper cap * esize < 2 ^ 64) :
    ra.Holds esize ⟨[], pow2Upper cap⟩ := by
  unfold create at h
  split_ifs at h
  obtain rfl := Option.some.inj h
  exact ⟨rfl, rfl, mallocRoom_eq hesize halloc, rfl⟩

/-- **The ring array is a list with a capacity** exactly as long as no array is grown that is full and does
not start at its first cell. -/
theorem rarray_agrees_iff {cap esize : ℕ} {ra : RArray α} (hcreate : RArray.create cap esize = some ra)
    (hesize : 0 < esize) (halloc : pow2Upper cap * esize < 2 ^ 64) {ops : List (RArrayOp α)}
    (hops : ∀ op ∈ ops, op.Allocates esize) :
    AgreesAlong RArray.step BoundedList.step ra ⟨[], pow2Upper cap⟩ ops ↔
      AllAlong (fun ra op => (ra.step op).1) RArray.GrowsStraight ra ops :=
  agreesAlong_iff (fun h op => (h.step hesize op).1) (fun h hop => (h.step hesize _).2 hop)
    (fun h hop => h.shows hop) (RArray.create_holds hcreate hesize halloc) hops

/-- An array of four elements with room for four, two of them around the end, is grown to eight while a
cell is free. -/
theorem rarray_agrees_four :
    (RArray.create 4 8 : Option (RArray ℕ)) = some ⟨RingArray.create 4, 8, 4⟩ ∧
    AgreesAlong RArray.step BoundedList.step (⟨RingArray.create 4, 8, 4⟩ : RArray ℕ) ⟨[], 4⟩
      [.push 1, .push 2, .push 3, .push 4, .popFront, .popFront, .push 5, .resize 8, .pushFront 6] :=
  have hcreate : (RArray.create 4 8 : Option (RArray ℕ)) = some ⟨RingArray.create 4, 8, 4⟩ := rfl
  ⟨hcreate, (rarray_agrees_iff hcreate (by decide) (by decide) (by
    intro op hop
    simp only [List.mem_cons, List.not_mem_nil, or_false] at hop
    rcases hop with rfl | rfl | rfl | rfl | rfl | rfl | rfl | rfl | rfl <;> simp [RArrayOp.Allocates]
    decide)).2 (by decide)⟩

/-- Four elements in four cells from the second one on: the last one is lost. -/
theorem not_rarray_agrees :
    (RArray.create 4 8 : Option (RArray ℕ)) = some ⟨RingArray.create 4, 8, 4⟩ ∧
    ¬ AgreesAlong RArray.step BoundedList.step (⟨RingArray.create 4, 8, 4⟩ : RArray ℕ) ⟨[], 4⟩
      [.push 1, .push 2, .push 3, .push 4, .popFront, .push 5, .resize 8] :=
  ⟨rfl, fun h => absurd (h _ List.prefix_rfl (.get 3)) (by decide)⟩

end Rquic

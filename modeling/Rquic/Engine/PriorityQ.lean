import Mathlib.Data.Multiset.Range
import Rquic.Engine.Basic
import Rquic.Lib.Agree

set_option autoImplicit false

/-!
# The priority queue of the connections

`rqc_priority_q.h` as it stands: an array that grows, a comparator, indices of 32 bits, and
`rqc_engine_conn_pq_operator`, which writes the index of an element into its connection.

* `Pq`: the queue; `elementSwap`, `moveTowardsTop`, `moveTowardsBottom`, `push`, `pop`, `remove`, `top`.
* `Pq.placed`: the heap with positions that the queue is, as long as its indices fit.
* `Pq.entries`: the multiset of its elements.
* `PqHistory`: a run, with what was inserted and removed.
* `WakeupPq`: the queue behind the flags of `rqc_engine_add_wakeup_queue` and
  `rqc_engine_remove_wakeup_queue`.
* `Engine.Arrays`: the heaps of the engine are such arrays, and its moves are the operations on them as long
  as the places fit.
-/

namespace Rquic

/-! ## The queue -/

/-- The comparators `rqc_pq_default_cmp` and `rqc_pq_revert_cmp`. -/
inductive PqCmp where
  | defaultCmp | revertCmp
  deriving DecidableEq, Repr

/-- The element `b` has priority over the element `a` above it. -/
def PqCmp.cmp : PqCmp → UInt64 → UInt64 → Bool
  | .defaultCmp, a, b => a < b
  | .revertCmp, a, b => b < a

/-- A conversion to `uint32_t`. -/
def toU32 (n : ℕ) : ℕ := n % 2 ^ 32

/-- `rqc_pq_t`, and the index that each connection was told. -/
structure Pq (α : Type) where
  elements : ℕ → UInt64 × α
  count : ℕ
  capacity : ℕ
  /-- `wakeup_pq_index` of the connections. -/
  index : α → ℕ

namespace Pq

variable {α : Type} [DecidableEq α]

def key (pq : Pq α) (i : ℕ) : UInt64 := (pq.elements i).1

def conn (pq : Pq α) (i : ℕ) : α := (pq.elements i).2

/-- `rqc_engine_conn_pq_operator`; `wakeup_pq_index` has 32 bits. -/
def eop (pq : Pq α) (i : ℕ) : Pq α := { pq with index := Function.update pq.index (pq.conn i) (toU32 i) }

/-- `rqc_pq_element_swap`. -/
def elementSwap (pq : Pq α) (i j : ℕ) : Pq α :=
  (({ pq with elements := pq.elements ∘ Equiv.swap i j } : Pq α).eop i).eop j

/-- The loop of `rqc_pq_move_towards_top`. -/
def moveTowardsTop (c : PqCmp) : ℕ → Pq α → ℕ → Pq α
  | 0, pq, _ => pq
  | fuel + 1, pq, i =>
    if i = 0 then pq
    else
      let j := (i - 1) / 2
      if c.cmp (pq.key j) (pq.key i) = false then pq else moveTowardsTop c fuel (pq.elementSwap i j) j

/-- The loop of `rqc_pq_move_towards_bottom`. -/
def moveTowardsBottom (c : PqCmp) : ℕ → Pq α → ℕ → Pq α
  | 0, pq, _ => pq
  | fuel + 1, pq, i =>
    let j := toU32 (2 * i + 1)
    if j ≤ pq.count - 1 then
      let j := if j < pq.count - 1 ∧ c.cmp (pq.key j) (pq.key (toU32 (j + 1))) = true then toU32 (j + 1) else j
      if c.cmp (pq.key i) (pq.key j) = false then pq else moveTowardsBottom c fuel (pq.elementSwap i j) j
    else pq

/-- A larger array with the elements of the old one; `mem` is what the new memory holds. -/
def grow (pq : Pq α) (mem : ℕ → UInt64 × α) : Pq α :=
  { pq with
    elements := fun i => if i < pq.capacity then pq.elements i else mem i
    capacity := pq.capacity * 2 }

/-- An element is written to the place `i`, and its connection is told. -/
def write (pq : Pq α) (i : ℕ) (e : UInt64 × α) (count : ℕ) : Pq α :=
  ({ pq with elements := Function.update pq.elements i e, count := count } : Pq α).eop i

/-- `rqc_pq_push` once there is room. -/
def insert (c : PqCmp) (pq : Pq α) (key : UInt64) (a : α) : Pq α :=
  moveTowardsTop c pq.count (pq.write pq.count (key, a) (pq.count + 1)) (toU32 pq.count)

/-- `rqc_pq_push`, with the memory that `malloc` returns for a larger array, if any; none for the null
pointer. -/
def push (c : PqCmp) (pq : Pq α) (key : UInt64) (a : α) (mem : Option (ℕ → UInt64 × α)) : Option (Pq α) :=
  if pq.count = pq.capacity then
    match mem with
    | none => none
    | some mem => some ((pq.grow mem).insert c key a)
  else some (pq.insert c key a)

/-- `rqc_pq_top`. -/
def top (pq : Pq α) : Option (UInt64 × α) := if pq.count = 0 then none else some (pq.elements 0)

/-- The last element is copied to the place `i`. -/
def fill (pq : Pq α) (i : ℕ) : Pq α := pq.write i (pq.elements (pq.count - 1)) (pq.count - 1)

/-- `rqc_pq_pop`. -/
def pop (c : PqCmp) (pq : Pq α) : Pq α :=
  if pq.count ≤ 1 then { pq with count := 0 } else moveTowardsBottom c pq.count (pq.fill 0) 0

/-- `rqc_pq_remove`. -/
def remove (c : PqCmp) (pq : Pq α) (i : ℕ) : Pq α :=
  if pq.count ≤ i then pq
  else if pq.count = 1 then { pq with count := 0 }
  else moveTowardsTop c i (moveTowardsBottom c pq.count (pq.fill i) i) i

/-- The heap with positions behind the queue; keys that have priority have a smaller rank. -/
def placed (rank : UInt64 → ℕ) (pq : Pq α) : PlacedHeap α :=
  ⟨⟨fun i => (rank (pq.key i), pq.conn i), pq.count⟩, pq.index⟩

/-! ## The elements -/

/-- The elements of the queue. -/
def entries (pq : Pq α) : Multiset (UInt64 × α) := (Multiset.range pq.count).map pq.elements

omit [DecidableEq α] in
@[simp] theorem card_entries (pq : Pq α) : pq.entries.card = pq.count := by simp [entries]

omit [DecidableEq α] in
theorem mem_entries {pq : Pq α} {e : UInt64 × α} : e ∈ pq.entries ↔ ∃ i < pq.count, pq.elements i = e := by
  simp [entries]

@[simp] theorem elementSwap_count (pq : Pq α) (i j : ℕ) : (pq.elementSwap i j).count = pq.count := rfl

theorem elementSwap_entries {pq : Pq α} {i j : ℕ} (hi : i < pq.count) (hj : j < pq.count) :
    (pq.elementSwap i j).entries = pq.entries := by
  have hperm : (Multiset.range pq.count).map (Equiv.swap i j) = Multiset.range pq.count := by
    refine (Multiset.Nodup.ext ((Multiset.nodup_range _).map (Equiv.swap i j).injective)
      (Multiset.nodup_range _)).2 fun k => ?_
    simp only [Multiset.mem_map, Multiset.mem_range]
    constructor
    · rintro ⟨m, hm, rfl⟩
      exact PlacedHeap.swap_lt (s := pq.placed UInt64.toNat) hi hj hm
    · intro hk
      exact ⟨Equiv.swap i j k, PlacedHeap.swap_lt (s := pq.placed UInt64.toNat) hi hj hk, Equiv.swap_apply_self i j k⟩
  change (Multiset.range pq.count).map (pq.elements ∘ Equiv.swap i j) = _
  rw [← Multiset.map_map, hperm, entries]

/-- The same elements in other places. -/
structure Rearranged (pq pq' : Pq α) : Prop where
  entries : pq'.entries = pq.entries
  count : pq'.count = pq.count
  capacity : pq'.capacity = pq.capacity

omit [DecidableEq α] in
theorem Rearranged.refl (pq : Pq α) : Rearranged pq pq := ⟨rfl, rfl, rfl⟩

omit [DecidableEq α] in
theorem Rearranged.trans {pq pq' pq'' : Pq α} (h : Rearranged pq pq') (h' : Rearranged pq' pq'') :
    Rearranged pq pq'' :=
  ⟨h'.entries.trans h.entries, h'.count.trans h.count, h'.capacity.trans h.capacity⟩

theorem elementSwap_rearranged {pq : Pq α} {i j : ℕ} (hi : i < pq.count) (hj : j < pq.count) :
    Rearranged pq (pq.elementSwap i j) := ⟨elementSwap_entries hi hj, rfl, rfl⟩

theorem moveTowardsTop_rearranged (c : PqCmp) (fuel : ℕ) {pq : Pq α} {i : ℕ} (hi : i < pq.count) :
    Rearranged pq (moveTowardsTop c fuel pq i) := by
  induction fuel generalizing pq i with
  | zero => exact .refl pq
  | succ fuel ih =>
      rw [moveTowardsTop]
      dsimp only
      split_ifs
      · exact .refl pq
      · exact .refl pq
      · have hj : (i - 1) / 2 < pq.count := by omega
        exact (elementSwap_rearranged hi hj).trans (ih hj)

theorem moveTowardsBottom_rearranged (c : PqCmp) (fuel : ℕ) {pq : Pq α} {i : ℕ} (hi : i < pq.count) :
    Rearranged pq (moveTowardsBottom c fuel pq i) := by
  induction fuel generalizing pq i with
  | zero => exact .refl pq
  | succ fuel ih =>
      rw [moveTowardsBottom]
      dsimp only
      by_cases hlast : toU32 (2 * i + 1) ≤ pq.count - 1
      · rw [if_pos hlast]
        obtain ⟨j, hj⟩ : ∃ j, (if toU32 (2 * i + 1) < pq.count - 1 ∧ c.cmp (pq.key (toU32 (2 * i + 1)))
          (pq.key (toU32 (toU32 (2 * i + 1) + 1))) = true then toU32 (toU32 (2 * i + 1) + 1)
          else toU32 (2 * i + 1)) = j := ⟨_, rfl⟩
        have hlt : j < pq.count := by
          have hle : toU32 (toU32 (2 * i + 1) + 1) ≤ toU32 (2 * i + 1) + 1 := Nat.mod_le _ _
          rw [← hj]
          split_ifs <;> omega
        rw [hj]
        split_ifs
        · exact .refl pq
        · exact (elementSwap_rearranged hi hlt).trans (ih hlt)
      · rw [if_neg hlast]
        exact .refl pq

/-- The new element comes in behind the last one, and moves up. -/
theorem insert_rearranged (c : PqCmp) (pq : Pq α) (key : UInt64) (a : α) :
    Rearranged (pq.write pq.count (key, a) (pq.count + 1)) (pq.insert c key a) :=
  moveTowardsTop_rearranged c pq.count
    (show toU32 pq.count < pq.count + 1 from Nat.lt_succ_of_le (Nat.mod_le _ _))

theorem insert_entries (c : PqCmp) (pq : Pq α) (key : UInt64) (a : α) :
    (pq.insert c key a).entries = (key, a) ::ₘ pq.entries := by
  rw [(insert_rearranged c pq key a).entries]
  change (Multiset.range (pq.count + 1)).map (Function.update pq.elements pq.count (key, a)) = _
  rw [Multiset.range_succ, Multiset.map_cons, Function.update_self, entries]
  congr 1
  refine Multiset.map_congr rfl fun i hi => ?_
  rw [Function.update_of_ne (Multiset.mem_range.1 hi).ne]

/-- The same elements in the same places, with room for one more. -/
structure Roomy (pq pq' : Pq α) : Prop where
  elements : ∀ i < pq.count, pq'.elements i = pq.elements i
  count : pq'.count = pq.count
  index : pq'.index = pq.index
  room : pq'.count < pq'.capacity

/-- **The array grows in time.** -/
theorem push_some {c : PqCmp} {pq pq' : Pq α} (hroom : pq.count ≤ pq.capacity) (hpos : 0 < pq.capacity)
    {key : UInt64} {a : α} {mem : Option (ℕ → UInt64 × α)} (h : pq.push c key a mem = some pq') :
    ∃ pq₀, Roomy pq pq₀ ∧ pq' = pq₀.insert c key a := by
  unfold push at h
  by_cases hfull : pq.count = pq.capacity
  · rw [if_pos hfull] at h
    cases mem with
    | none => cases h
    | some mem =>
        refine ⟨pq.grow mem, ⟨fun i hi => if_pos (hi.trans_le hroom), rfl, rfl, ?_⟩, (Option.some.inj h).symm⟩
        change pq.count < pq.capacity * 2
        omega
  · rw [if_neg hfull] at h
    exact ⟨pq, ⟨fun _ _ => rfl, rfl, rfl, by omega⟩, (Option.some.inj h).symm⟩

omit [DecidableEq α] in
theorem Roomy.entries {pq pq' : Pq α} (h : Roomy pq pq') : pq'.entries = pq.entries := by
  rw [Pq.entries, Pq.entries, h.count]
  exact Multiset.map_congr rfl fun i hi => h.elements i (Multiset.mem_range.1 hi)

theorem fill_entries {pq : Pq α} {i : ℕ} (hi : i < pq.count) :
    pq.elements i ::ₘ (pq.fill i).entries = pq.entries := by
  obtain ⟨n, hn⟩ : ∃ n, pq.count = n + 1 := ⟨pq.count - 1, by omega⟩
  change pq.elements i ::ₘ (Multiset.range (pq.count - 1)).map
    (Function.update pq.elements i (pq.elements (pq.count - 1))) = (Multiset.range pq.count).map pq.elements
  rw [hn, Nat.add_sub_cancel, Multiset.range_succ, Multiset.map_cons]
  by_cases hlast : i = n
  · subst hlast
    congr 1
    refine Multiset.map_congr rfl fun k hk => ?_
    rw [Function.update_of_ne (Multiset.mem_range.1 hk).ne]
  · have hmem : i ∈ Multiset.range n := Multiset.mem_range.2 (by omega)
    obtain ⟨t, ht⟩ := Multiset.exists_cons_of_mem hmem
    have hnodup := Multiset.nodup_range n
    rw [ht] at hnodup ⊢
    have hnot : i ∉ t := (Multiset.nodup_cons.1 hnodup).1
    rw [Multiset.map_cons, Multiset.map_cons, Function.update_self, Multiset.cons_swap]
    congr 2
    refine Multiset.map_congr rfl fun k hk => ?_
    rw [Function.update_of_ne]
    rintro rfl
    exact hnot hk

/-! ## The queue as a heap with positions -/

section Placed

variable {c : PqCmp} {rank : UInt64 → ℕ}

theorem toU32_eq {n : ℕ} (h : n < 2 ^ 32) : toU32 n = n := Nat.mod_eq_of_lt h

theorem elementSwap_placed {pq : Pq α} {i j : ℕ} (hi : i < 2 ^ 32) (hj : j < 2 ^ 32) :
    (pq.elementSwap i j).placed rank = (pq.placed rank).swap i j := by
  unfold elementSwap eop
  rw [toU32_eq hi, toU32_eq hj]
  rfl

variable (hcmp : ∀ a b, c.cmp a b = decide (rank b < rank a))
include hcmp

omit [DecidableEq α] in
theorem cmp_placed (pq : Pq α) (i j : ℕ) :
    c.cmp (pq.key i) (pq.key j) = false ↔ ¬ (pq.placed rank).key j < (pq.placed rank).key i := by
  rw [hcmp, decide_eq_false_iff_not]
  rfl

theorem moveTowardsTop_placed (fuel : ℕ) {pq : Pq α} {i : ℕ} (hi : i < 2 ^ 32) :
    (moveTowardsTop c fuel pq i).placed rank = PlacedHeap.moveTowardsTop fuel (pq.placed rank) i := by
  induction fuel generalizing pq i with
  | zero => rfl
  | succ fuel ih =>
      rw [moveTowardsTop, PlacedHeap.moveTowardsTop]
      dsimp only
      by_cases hzero : i = 0
      · rw [if_pos hzero, if_pos hzero]
      rw [if_neg hzero, if_neg hzero]
      have hparent : (i - 1) / 2 = parent i := rfl
      have hj : parent i < 2 ^ 32 := (parent_lt hzero).trans hi
      rw [hparent]
      by_cases hkey : c.cmp (pq.key (parent i)) (pq.key i) = false
      · rw [if_pos hkey, if_neg ((cmp_placed hcmp pq _ _).1 hkey)]
      · rw [if_neg hkey, if_pos (not_not.1 fun h => hkey ((cmp_placed hcmp pq _ _).2 h)), ih hj,
          elementSwap_placed hi hj]

omit [DecidableEq α] in
/-- The smaller one of the elements below, as long as the indices do not wrap. -/
theorem child_placed {pq : Pq α} {i : ℕ} (hi : i < 2 ^ 31) (hcount : pq.count ≤ 2 ^ 31) :
    (if toU32 (2 * i + 1) < pq.count - 1 ∧
        c.cmp (pq.key (toU32 (2 * i + 1))) (pq.key (toU32 (toU32 (2 * i + 1) + 1))) = true
      then toU32 (toU32 (2 * i + 1) + 1) else toU32 (2 * i + 1)) = (pq.placed rank).smallerChild i := by
  rw [toU32_eq (by omega : 2 * i + 1 < 2 ^ 32), PlacedHeap.smallerChild]
  by_cases hlast : 2 * i + 1 < pq.count - 1
  · have hright : 2 * i + 2 < (pq.placed rank).count := show 2 * i + 2 < pq.count by omega
    have hiff := cmp_placed hcmp pq (2 * i + 1) (2 * i + 2)
    rw [toU32_eq (by omega : 2 * i + 1 + 1 < 2 ^ 32)]
    by_cases hkey : c.cmp (pq.key (2 * i + 1)) (pq.key (2 * i + 2)) = true
    · rw [if_pos ⟨hlast, hkey⟩, if_pos ⟨hright, not_not.1 fun h => by rw [hiff.2 h] at hkey; cases hkey⟩]
    · rw [if_neg fun h => hkey h.2, if_neg fun h => hiff.1 (by simpa using hkey) h.2]
  · have hright : ¬ 2 * i + 2 < (pq.placed rank).count := show ¬ 2 * i + 2 < pq.count by omega
    rw [if_neg fun h => hlast h.1, if_neg fun h => hright h.1]

/-- No index wraps in a queue of at most `2 ^ 31` elements. -/
theorem moveTowardsBottom_placed (fuel : ℕ) {pq : Pq α} {i : ℕ} (hi : i < 2 ^ 31)
    (hcount : pq.count ≤ 2 ^ 31) (hpos : pq.count ≠ 0) :
    (moveTowardsBottom c fuel pq i).placed rank = PlacedHeap.moveTowardsBottom fuel (pq.placed rank) i := by
  induction fuel generalizing pq i with
  | zero => rfl
  | succ fuel ih =>
      have hplaced : (pq.placed rank).count = pq.count := rfl
      have hleft : toU32 (2 * i + 1) = 2 * i + 1 := toU32_eq (by omega)
      rw [moveTowardsBottom, PlacedHeap.moveTowardsBottom]
      dsimp only
      rw [child_placed hcmp hi hcount, hplaced]
      by_cases hlast : 2 * i + 1 < pq.count
      · have hlt : (pq.placed rank).smallerChild i < pq.count := PlacedHeap.smallerChild_lt hlast
        rw [if_pos (by omega), if_pos hlast]
        generalize (pq.placed rank).smallerChild i = j at hlt ⊢
        by_cases hkey : c.cmp (pq.key i) (pq.key j) = false
        · rw [if_pos hkey, if_neg ((cmp_placed hcmp pq _ _).1 hkey)]
        · have hrest := @ih (pq.elementSwap i j) j (by omega) hcount hpos
          rw [if_neg hkey, if_pos (not_not.1 fun h => hkey ((cmp_placed hcmp pq _ _).2 h)), hrest,
            elementSwap_placed (by omega) (by omega)]
      · rw [if_neg (by omega), if_neg hlast]

omit [DecidableEq α] hcmp in
theorem placed_elems (pq : Pq α) : (pq.placed rank).elems = Prod.map rank id ∘ pq.elements := rfl

omit hcmp in
theorem write_placed (pq : Pq α) {i : ℕ} (hi : i < 2 ^ 32) (e : UInt64 × α) (count : ℕ) :
    (pq.write i e count).placed rank =
      PlacedHeap.tell ⟨⟨Function.update (pq.placed rank).elems i (Prod.map rank id e), count⟩, pq.index⟩ i := by
  rw [placed_elems, ← Function.comp_update]
  unfold write eop
  rw [toU32_eq hi]
  rfl

theorem insert_placed {pq : Pq α} (hcount : pq.count < 2 ^ 32) (key : UInt64) (a : α) :
    (pq.insert c key a).placed rank = (pq.placed rank).push (rank key) a := by
  unfold insert PlacedHeap.push
  rw [moveTowardsTop_placed hcmp _ (by rwa [toU32_eq hcount]), toU32_eq hcount, write_placed pq hcount]
  rfl

omit hcmp in
theorem fill_placed (pq : Pq α) {i : ℕ} (hi : i < 2 ^ 32) :
    (pq.fill i).placed rank = (pq.placed rank).fill i :=
  write_placed pq hi (pq.elements (pq.count - 1)) (pq.count - 1)

theorem remove_placed {pq : Pq α} {i : ℕ} (hi : i < 2 ^ 31) (hcount : pq.count ≤ 2 ^ 31 + 1) :
    (pq.remove c i).placed rank = (pq.placed rank).removeAt i := by
  have hplaced : (pq.placed rank).count = pq.count := rfl
  unfold remove PlacedHeap.removeAt
  rw [hplaced]
  split_ifs with h1 h2
  · rfl
  · rfl
  · have hfill : (pq.fill i).count = pq.count - 1 := rfl
    rw [moveTowardsTop_placed hcmp _ (by omega), moveTowardsBottom_placed hcmp _ hi (by omega) (by omega),
      fill_placed pq (by omega)]

end Placed

theorem pop_eq (c : PqCmp) {pq : Pq α} (h : pq.count ≠ 0) : pq.pop c = pq.remove c 0 := by
  unfold pop remove
  by_cases hone : pq.count = 1
  · rw [if_pos hone.le, if_neg (by omega), if_pos hone]
  · rw [if_neg (by omega), if_neg (by omega), if_neg hone]
    rfl

/-! ## The order -/

/-- No element has priority over the one above. -/
def HeapOrder (c : PqCmp) (pq : Pq α) : Prop :=
  ∀ i, 0 < i → i < pq.count → c.cmp (pq.key (parent i)) (pq.key i) = false

end Pq

/-- A number for each key, the smaller the more priority. -/
def PqCmp.rank : PqCmp → UInt64 → ℕ
  | .defaultCmp, k => 2 ^ 64 - 1 - k.toNat
  | .revertCmp, k => k.toNat

theorem PqCmp.cmp_eq (c : PqCmp) (a b : UInt64) : c.cmp a b = decide (c.rank b < c.rank a) := by
  have ha := a.toNat_lt
  have hb := b.toNat_lt
  cases c with
  | defaultCmp =>
      apply decide_eq_decide.2
      rw [UInt64.lt_iff_toNat_lt]
      change _ ↔ 2 ^ 64 - 1 - b.toNat < 2 ^ 64 - 1 - a.toNat
      omega
  | revertCmp =>
      apply decide_eq_decide.2
      rw [UInt64.lt_iff_toNat_lt]
      rfl

namespace Pq

variable {α : Type} [DecidableEq α] {c : PqCmp} {pq : Pq α}

omit [DecidableEq α] in
theorem heapOrder_iff : pq.HeapOrder c ↔ (pq.placed c.rank).Ordered := by
  refine forall_congr' fun i => forall_congr' fun _ => forall_congr' fun _ => ?_
  rw [cmp_placed c.cmp_eq, not_lt]

omit [DecidableEq α] in
/-- **The first element is minimal.** -/
theorem HeapOrder.top (h : pq.HeapOrder c) {i : ℕ} (hi : i < pq.count) :
    c.cmp (pq.key 0) (pq.key i) = false :=
  (cmp_placed c.cmp_eq pq 0 i).2 (not_lt.2 (PlacedHeap.Ordered.top_le (heapOrder_iff.1 h) hi))

omit [DecidableEq α] in
theorem Roomy.heapOrder {pq' : Pq α} (h : Roomy pq pq') (horder : pq.HeapOrder c) : pq'.HeapOrder c := by
  intro i hpos hi
  rw [h.count] at hi
  have hparent := (parent_lt hpos.ne').trans hi
  rw [key, key, h.elements _ hparent, h.elements i hi]
  exact horder i hpos hi

theorem insert_heapOrder (h : pq.HeapOrder c) (hcount : pq.count < 2 ^ 32) (key : UInt64) (a : α) :
    (pq.insert c key a).HeapOrder c := by
  rw [heapOrder_iff, insert_placed c.cmp_eq hcount]
  exact PlacedHeap.push_ordered (heapOrder_iff.1 h) _ _

theorem remove_heapOrder (h : pq.HeapOrder c) {i : ℕ} (hi : i < pq.count) (hindex : i < 2 ^ 31)
    (hcount : pq.count ≤ 2 ^ 31 + 1) : (pq.remove c i).HeapOrder c := by
  rw [heapOrder_iff, remove_placed c.cmp_eq hindex hcount]
  exact PlacedHeap.removeAt_ordered (heapOrder_iff.1 h) hi

theorem remove_last (h : pq.HeapOrder c) {i : ℕ} (hi : i + 1 = pq.count) (hpos : i ≠ 0)
    (hindex : i < 2 ^ 31) : pq.remove c i = pq.fill i := by
  have hcount : (pq.fill i).count = i := show pq.count - 1 = i by omega
  have hbottom : moveTowardsBottom c pq.count (pq.fill i) i = pq.fill i := by
    rw [← hi, moveTowardsBottom]
    dsimp only
    rw [toU32_eq (by omega), hcount, if_neg (by omega)]
  have hkey : ∀ j, (pq.fill i).key j = pq.key j := by
    intro j
    change (Function.update pq.elements i (pq.elements (pq.count - 1)) j).1 = _
    have hlast : pq.count - 1 = i := by omega
    rw [hlast, Function.update_eq_self]
    rfl
  have htop : moveTowardsTop c i (pq.fill i) i = pq.fill i := by
    obtain ⟨fuel, rfl⟩ := Nat.exists_eq_succ_of_ne_zero hpos
    rw [moveTowardsTop, if_neg hpos]
    dsimp only
    rw [hkey, hkey]
    exact if_pos (h (fuel + 1) (Nat.succ_pos fuel) (by omega))
  rw [remove, if_neg (by omega), if_neg (by omega), hbottom, htop]

/-- The last element takes the place of the one that is removed, and moves. -/
theorem remove_rearranged (h : pq.HeapOrder c) {i : ℕ} (hi : i < pq.count) (hindex : i < 2 ^ 31)
    (hone : pq.count ≠ 1) : Rearranged (pq.fill i) (pq.remove c i) := by
  by_cases hlast : i + 1 = pq.count
  · rw [remove_last h hlast (by omega) hindex]
    exact .refl _
  · have hlt : i < (pq.fill i).count := show i < pq.count - 1 by omega
    have hbottom := moveTowardsBottom_rearranged c pq.count hlt
    rw [remove, if_neg (by omega), if_neg hone]
    exact hbottom.trans (moveTowardsTop_rearranged c i (hlt.trans_eq hbottom.count.symm))

/-- **The element at the place leaves, and the others stay.** -/
theorem remove_entries (h : pq.HeapOrder c) {i : ℕ} (hi : i < pq.count) (hindex : i < 2 ^ 31) :
    pq.elements i ::ₘ (pq.remove c i).entries = pq.entries := by
  by_cases hone : pq.count = 1
  · obtain rfl : i = 0 := by omega
    rw [remove, if_neg (by omega), if_pos hone, entries, entries, hone]
    rfl
  · rw [(remove_rearranged h hi hindex hone).entries, fill_entries hi]

theorem remove_room (h : pq.HeapOrder c) (hroom : pq.count ≤ pq.capacity) {i : ℕ} (hi : i < pq.count)
    (hindex : i < 2 ^ 31) :
    (pq.remove c i).count ≤ (pq.remove c i).capacity ∧ (pq.remove c i).capacity = pq.capacity := by
  by_cases hone : pq.count = 1
  · rw [remove, if_neg (by omega), if_pos hone]
    exact ⟨Nat.zero_le _, rfl⟩
  · have hmove := remove_rearranged h hi hindex hone
    have hcount : (pq.remove c i).count = pq.count - 1 := hmove.count
    have hcapacity : (pq.remove c i).capacity = pq.capacity := hmove.capacity
    omega

/-! ## The indices of the connections -/

/-- The connections of the queue. -/
def conns (pq : Pq α) : Multiset α := pq.entries.map Prod.snd

omit [DecidableEq α] in
theorem mem_conns {a : α} : a ∈ pq.conns ↔ ∃ i < pq.count, pq.conn i = a := by
  simp [conns, entries, conn]

/-- Every connection of the queue knows its place. -/
def Placed (pq : Pq α) : Prop := ∀ i < pq.count, pq.index (pq.conn i) = i

omit [DecidableEq α] in
theorem Placed.conn_index (h : pq.Placed) {a : α} (ha : a ∈ pq.conns) :
    pq.index a < pq.count ∧ pq.conn (pq.index a) = a := by
  obtain ⟨i, hi, rfl⟩ := mem_conns.1 ha
  rw [h i hi]
  exact ⟨hi, rfl⟩

omit [DecidableEq α] in
theorem holds_placed {rank : UInt64 → ℕ} {a : α} : (∃ k, (pq.placed rank).Holds k a) ↔ a ∈ pq.conns := by
  rw [mem_conns]
  constructor
  · rintro ⟨k, i, hi, heq⟩
    exact ⟨i, hi, congrArg Prod.snd heq⟩
  · rintro ⟨i, hi, rfl⟩
    exact ⟨_, i, hi, rfl⟩

theorem insert_placedness (h : pq.Placed) (hcount : pq.count < 2 ^ 32) {a : α} (ha : a ∉ pq.conns)
    (key : UInt64) : (pq.insert c key a).Placed := by
  have hplaced : (pq.placed c.rank).Placed := h
  have hheap : ((pq.insert c key a).placed c.rank).Placed := by
    rw [insert_placed c.cmp_eq hcount]
    exact (PlacedHeap.push_shuffled _ _ _).placed
      (PlacedHeap.append_placed hplaced (fun k hk => ha (holds_placed.1 ⟨k, hk⟩)) _)
  exact hheap

theorem remove_placedness (h : pq.Placed) (horder : pq.HeapOrder c) {i : ℕ} (hi : i < pq.count)
    (hindex : i < 2 ^ 31) (hcount : pq.count ≤ 2 ^ 31 + 1) : (pq.remove c i).Placed := by
  have hplaced : (pq.placed c.rank).Placed := h
  have hheap : ((pq.remove c i).placed c.rank).Placed := by
    rw [remove_placed c.cmp_eq hindex hcount]
    exact (PlacedHeap.removeAt_valid ⟨hplaced, heapOrder_iff.1 horder⟩ hi).placed
  exact hheap

omit [DecidableEq α] in
theorem Roomy.placed {pq' : Pq α} (h : Roomy pq pq') (hplaced : pq.Placed) : pq'.Placed := by
  intro i hi
  rw [h.count] at hi
  rw [h.index, conn, h.elements i hi]
  exact hplaced i hi

/-! ## Invariants of the queue -/

/-- The heap is in order, and the elements lie inside the array. -/
structure Sound (c : PqCmp) (pq : Pq α) : Prop where
  order : pq.HeapOrder c
  room : pq.count ≤ pq.capacity
  pos : 0 < pq.capacity

theorem Sound.push (h : pq.Sound c) (hcount : pq.count < 2 ^ 32) {key : UInt64} {a : α}
    {mem : Option (ℕ → UInt64 × α)} {pq' : Pq α} (hpush : pq.push c key a mem = some pq') :
    pq'.Sound c ∧ pq'.entries = (key, a) ::ₘ pq.entries ∧
      (pq.Placed → a ∉ pq.conns → pq'.Placed) := by
  obtain ⟨pq₀, hroomy, rfl⟩ := push_some h.room h.pos hpush
  have hmove := insert_rearranged c pq₀ key a
  have hlt : (pq₀.insert c key a).count = pq₀.count + 1 := hmove.count
  have hcapacity : (pq₀.insert c key a).capacity = pq₀.capacity := hmove.capacity
  have hroom := hroomy.room
  have hcount₀ : pq₀.count < 2 ^ 32 := hroomy.count.trans_lt hcount
  refine ⟨⟨insert_heapOrder (hroomy.heapOrder h.order) hcount₀ key a, by omega, by omega⟩, ?_, ?_⟩
  · rw [insert_entries, hroomy.entries]
  · intro hplaced hnew
    rw [conns, ← hroomy.entries] at hnew
    exact insert_placedness (hroomy.placed hplaced) hcount₀ hnew key

theorem Sound.remove (h : pq.Sound c) {i : ℕ} (hi : i < pq.count) (hindex : i < 2 ^ 31)
    (hcount : pq.count ≤ 2 ^ 31 + 1) : (pq.remove c i).Sound c := by
  obtain ⟨hroom, hcapacity⟩ := remove_room h.order h.room hi hindex
  exact ⟨remove_heapOrder h.order hi hindex hcount, hroom, h.pos.trans_eq hcapacity.symm⟩

end Pq

/-! ## Runs -/

/-- An operation on the queue. Another queue may tell its connections their places there. -/
inductive PqOp (α : Type) where
  | push (key : UInt64) (a : α) (mem : Option (ℕ → UInt64 × α))
  | pop
  | remove (i : ℕ)
  | tell (a : α) (i : ℕ)

/-- The queue, with all that was ever inserted and removed. -/
structure PqHistory (α : Type) where
  pq : Pq α
  inserted : Multiset (UInt64 × α) := 0
  removed : Multiset (UInt64 × α) := 0

variable {α : Type} [DecidableEq α]

/-- `rqc_pq_init`, with memory for `capacity` elements. -/
def Pq.init (capacity : ℕ) (mem : ℕ → UInt64 × α) (index : α → ℕ) : Pq α := ⟨mem, 0, capacity, index⟩

namespace PqHistory

/-- One operation. -/
def step (c : PqCmp) (h : PqHistory α) : PqOp α → PqHistory α
  | .push key a mem =>
    match h.pq.push c key a mem with
    | none => h
    | some pq => ⟨pq, (key, a) ::ₘ h.inserted, h.removed⟩
  | .pop => ⟨h.pq.pop c, h.inserted, if h.pq.count = 0 then h.removed else h.pq.elements 0 ::ₘ h.removed⟩
  | .remove i =>
    ⟨h.pq.remove c i, h.inserted, if h.pq.count ≤ i then h.removed else h.pq.elements i ::ₘ h.removed⟩
  | .tell a i => { h with pq := { h.pq with index := Function.update h.pq.index a i } }

/-- The places that the operation goes by are 32-bit numbers, and those below them too. -/
def Fits (h : PqHistory α) : PqOp α → Prop
  | .push _ _ _ => h.pq.count < 2 ^ 32
  | .pop => h.pq.count ≤ 2 ^ 31 + 1
  | .remove i => i < h.pq.count → i < 2 ^ 31 ∧ h.pq.count ≤ 2 ^ 31 + 1
  | .tell _ _ => True

/-- A connection that is in the queue is neither pushed again nor held by another queue. -/
def Apart (h : PqHistory α) : PqOp α → Prop
  | .push _ a _ => a ∉ h.pq.conns
  | .tell a _ => a ∉ h.pq.conns
  | _ => True

/-- The queue is sound, and holds what was inserted and not removed. -/
structure Inv (c : PqCmp) (h : PqHistory α) : Prop where
  sound : h.pq.Sound c
  entries : h.pq.entries + h.removed = h.inserted

variable {c : PqCmp} {h : PqHistory α}

theorem Inv.remove (hinv : h.Inv c) {i : ℕ} (hi : i < h.pq.count) (hindex : i < 2 ^ 31)
    (hcount : h.pq.count ≤ 2 ^ 31 + 1) :
    Inv c ⟨h.pq.remove c i, h.inserted, h.pq.elements i ::ₘ h.removed⟩ := by
  refine ⟨hinv.sound.remove hi hindex hcount, ?_⟩
  change (h.pq.remove c i).entries + h.pq.elements i ::ₘ h.removed = h.inserted
  rw [Multiset.add_cons, ← Multiset.cons_add, Pq.remove_entries hinv.sound.order hi hindex, hinv.entries]

/-- **One operation keeps the order and the account of the elements.** -/
theorem Inv.step (hinv : h.Inv c) {op : PqOp α} (hfits : h.Fits op) : (h.step c op).Inv c := by
  cases op with
  | push key a mem =>
      rw [PqHistory.step]
      cases hpush : h.pq.push c key a mem with
      | none => exact hinv
      | some pq =>
          obtain ⟨hsound, hentries, -⟩ := hinv.sound.push hfits hpush
          refine ⟨hsound, ?_⟩
          change pq.entries + h.removed = (key, a) ::ₘ h.inserted
          rw [hentries, Multiset.cons_add, hinv.entries]
  | pop =>
      rw [PqHistory.step]
      by_cases hzero : h.pq.count = 0
      · have hpop : h.pq.pop c = h.pq := by
          rw [Pq.pop, if_pos (by omega), ← hzero]
        rw [if_pos hzero, hpop]
        exact hinv
      · rw [if_neg hzero, Pq.pop_eq c hzero]
        exact hinv.remove (Nat.pos_of_ne_zero hzero) (by decide) hfits
  | remove i =>
      rw [PqHistory.step]
      by_cases hi : h.pq.count ≤ i
      · have hremove : h.pq.remove c i = h.pq := if_pos hi
        rw [if_pos hi, hremove]
        exact hinv
      · obtain ⟨hindex, hcount⟩ := hfits (not_le.1 hi)
        rw [if_neg hi]
        exact hinv.remove (not_le.1 hi) hindex hcount
  | tell a i => exact ⟨⟨hinv.sound.order, hinv.sound.room, hinv.sound.pos⟩, hinv.entries⟩

/-- **One operation tells every connection that moves.** -/
theorem Inv.placed (hinv : h.Inv c) (hplaced : h.pq.Placed) {op : PqOp α} (hfits : h.Fits op)
    (hapart : h.Apart op) : (h.step c op).pq.Placed := by
  cases op with
  | push key a mem =>
      rw [PqHistory.step]
      cases hpush : h.pq.push c key a mem with
      | none => exact hplaced
      | some pq => exact (hinv.sound.push hfits hpush).2.2 hplaced hapart
  | pop =>
      change (h.pq.pop c).Placed
      by_cases hzero : h.pq.count = 0
      · intro i hi
        rw [Pq.pop, if_pos (by omega)] at hi
        exact absurd hi (Nat.not_lt_zero i)
      · rw [Pq.pop_eq c hzero]
        exact Pq.remove_placedness hplaced hinv.sound.order (Nat.pos_of_ne_zero hzero) (by decide) hfits
  | remove i =>
      change (h.pq.remove c i).Placed
      by_cases hi : h.pq.count ≤ i
      · have hremove : h.pq.remove c i = h.pq := if_pos hi
        rw [hremove]
        exact hplaced
      · obtain ⟨hindex, hcount⟩ := hfits (not_le.1 hi)
        exact Pq.remove_placedness hplaced hinv.sound.order (not_le.1 hi) hindex hcount
  | tell a i =>
      intro j hj
      have hne : h.pq.conn j ≠ a := by
        rintro rfl
        exact hapart (Pq.mem_conns.2 ⟨j, hj, rfl⟩)
      exact (Function.update_of_ne hne _ _).trans (hplaced j hj)

end PqHistory

omit [DecidableEq α] in
theorem Pq.sound_init (c : PqCmp) {capacity : ℕ} (hcapacity : 0 < capacity) (mem : ℕ → UInt64 × α)
    (index : α → ℕ) : (Pq.init capacity mem index).Sound c :=
  ⟨fun _ _ hi => absurd hi (Nat.not_lt_zero _), Nat.zero_le _, hcapacity⟩

omit [DecidableEq α] in
theorem Pq.placed_init (capacity : ℕ) (mem : ℕ → UInt64 × α) (index : α → ℕ) :
    (Pq.init capacity mem index).Placed := fun _ hi => absurd hi (Nat.not_lt_zero _)

omit [DecidableEq α] in
theorem Pq.top_eq_some {pq : Pq α} {e : UInt64 × α} (h : pq.top = some e) :
    0 < pq.count ∧ pq.elements 0 = e := by
  unfold Pq.top at h
  split_ifs at h with hzero
  exact ⟨Nat.pos_of_ne_zero hzero, Option.some.inj h⟩

/-! ## The queue behind the flags -/

/-- `conns_wait_wakeup_pq`, with the flags `RQC_CONN_FLAG_WAIT_WAKEUP` and `RQC_CONN_FLAG_TICKING`. -/
structure WakeupPq (α : Type) where
  pq : Pq α
  waitWakeup : α → Bool
  ticking : α → Bool

/-- An operation of the engine on the queue. The active queue tells its connections their places there;
none of them waits for a wakeup. -/
inductive WakeupOp (α : Type) where
  /-- `rqc_engine_add_wakeup_queue`, with the time of the connection. -/
  | add (a : α) (nextTickTime : UInt64) (mem : Option (ℕ → UInt64 × α))
  /-- `rqc_engine_remove_wakeup_queue`. -/
  | remove (a : α)
  /-- `rqc_conns_pq_pop_top_conn` in `rqc_engine_destroy`. -/
  | popTop
  /-- The connection is in the active queue, moves there, or leaves it. -/
  | active (a : α) (i : ℕ) (ticking : Bool)

namespace WakeupPq

/-- One operation. -/
def step (w : WakeupPq α) : WakeupOp α → WakeupPq α
  | .add a nextTickTime mem =>
    if w.waitWakeup a || w.ticking a then w
    else
      match w.pq.push .revertCmp nextTickTime a mem with
      | none => w
      | some pq => { w with pq := pq, waitWakeup := Function.update w.waitWakeup a true }
  | .remove a =>
    if w.waitWakeup a then
      { w with
        pq := w.pq.remove .revertCmp (w.pq.index a)
        waitWakeup := Function.update w.waitWakeup a false }
    else w
  | .popTop =>
    if w.pq.count = 0 then w
    else
      { w with
        pq := w.pq.pop .revertCmp
        waitWakeup := Function.update w.waitWakeup (w.pq.conn 0) false }
  | .active a i ticking =>
    if w.waitWakeup a then w
    else
      { w with
        pq := { w.pq with index := Function.update w.pq.index a i }
        ticking := Function.update w.ticking a ticking }

/-- The places that the operation goes by are 32-bit numbers, and those below them too. -/
def Fits (w : WakeupPq α) : WakeupOp α → Prop
  | .add _ _ _ => w.pq.count < 2 ^ 32
  | .remove a => w.pq.index a < 2 ^ 31 ∧ w.pq.count ≤ 2 ^ 31 + 1
  | .popTop => w.pq.count ≤ 2 ^ 31 + 1
  | .active _ _ _ => True

instance (w : WakeupPq α) : ∀ op, Decidable (w.Fits op)
  | .add _ _ _ => inferInstanceAs (Decidable (w.pq.count < 2 ^ 32))
  | .remove a => inferInstanceAs (Decidable (w.pq.index a < 2 ^ 31 ∧ w.pq.count ≤ 2 ^ 31 + 1))
  | .popTop => inferInstanceAs (Decidable (w.pq.count ≤ 2 ^ 31 + 1))
  | .active _ _ _ => inferInstanceAs (Decidable True)

/-- The queue is sound, its connections know their places, and the flag tells who is in it. -/
structure Inv (w : WakeupPq α) : Prop where
  sound : w.pq.Sound .revertCmp
  placed : w.pq.Placed
  flag : ∀ a, w.waitWakeup a = true ↔ a ∈ w.pq.conns

variable {w : WakeupPq α}

omit [DecidableEq α] in
theorem nodup_conns {pq : Pq α} (h : pq.Placed) : pq.conns.Nodup := by
  have hconns : pq.conns = (Multiset.range pq.count).map pq.conn := by
    rw [Pq.conns, Pq.entries, Multiset.map_map]
    rfl
  rw [hconns]
  refine (Multiset.nodup_range _).map_on fun i hi j hj heq => ?_
  rw [← h i (Multiset.mem_range.1 hi), heq, h j (Multiset.mem_range.1 hj)]

/-- **The intended connection is removed, and no other.** -/
theorem Inv.remove (h : w.Inv) {i : ℕ} (hi : i < w.pq.count) (hindex : i < 2 ^ 31)
    (hcount : w.pq.count ≤ 2 ^ 31 + 1) :
    w.pq.elements i ::ₘ (w.pq.remove .revertCmp i).entries = w.pq.entries ∧
      w.pq.conn i ∉ (w.pq.remove .revertCmp i).conns ∧
      Inv { w with
        pq := w.pq.remove .revertCmp i
        waitWakeup := Function.update w.waitWakeup (w.pq.conn i) false } := by
  have hentries := Pq.remove_entries h.sound.order hi hindex
  have hconns : w.pq.conn i ::ₘ (w.pq.remove .revertCmp i).conns = w.pq.conns := by
    rw [Pq.conns, Pq.conns, ← hentries, Multiset.map_cons]
    rfl
  have hnodup := nodup_conns h.placed
  rw [← hconns, Multiset.nodup_cons] at hnodup
  refine ⟨hentries, hnodup.1, h.sound.remove hi hindex hcount,
    Pq.remove_placedness h.placed h.sound.order hi hindex hcount, fun a => ?_⟩
  change Function.update w.waitWakeup _ false a = true ↔ _
  by_cases ha : a = w.pq.conn i
  · rw [ha, Function.update_self]
    exact iff_of_false Bool.false_ne_true hnodup.1
  · rw [Function.update_of_ne ha, h.flag, ← hconns, Multiset.mem_cons]
    exact or_iff_right ha

/-- **One operation of the engine.** -/
theorem Inv.step (h : w.Inv) {op : WakeupOp α} (hfits : w.Fits op) : (w.step op).Inv := by
  cases op with
  | add a nextTickTime mem =>
      rw [WakeupPq.step]
      by_cases hbusy : (w.waitWakeup a || w.ticking a) = true
      · rw [if_pos hbusy]
        exact h
      rw [if_neg hbusy]
      have hnew : a ∉ w.pq.conns := by
        rw [← h.flag]
        intro hwait
        exact hbusy (by rw [hwait, Bool.true_or])
      cases hpush : w.pq.push .revertCmp nextTickTime a mem with
      | none => exact h
      | some pq =>
          obtain ⟨hsound, hentries, hplaced⟩ := h.sound.push hfits hpush
          refine ⟨hsound, hplaced h.placed hnew, fun b => ?_⟩
          change Function.update w.waitWakeup a true b = true ↔ b ∈ pq.conns
          rw [Pq.conns, hentries, Multiset.map_cons, Multiset.mem_cons]
          by_cases hb : b = a
          · rw [hb, Function.update_self]
            exact iff_of_true rfl (.inl rfl)
          · rw [Function.update_of_ne hb, h.flag]
            exact (or_iff_right hb).symm
  | remove a =>
      rw [WakeupPq.step]
      by_cases hwait : w.waitWakeup a = true
      · obtain ⟨hi, hconn⟩ := h.placed.conn_index ((h.flag a).1 hwait)
        have hremove := (h.remove hi hfits.1 hfits.2).2.2
        rw [hconn] at hremove
        rw [if_pos hwait]
        exact hremove
      · rw [if_neg hwait]
        exact h
  | popTop =>
      rw [WakeupPq.step]
      by_cases hzero : w.pq.count = 0
      · rw [if_pos hzero]
        exact h
      · rw [if_neg hzero, Pq.pop_eq _ hzero]
        exact (h.remove (Nat.pos_of_ne_zero hzero) (by decide) hfits).2.2
  | active a i ticking =>
      rw [WakeupPq.step]
      by_cases hwait : w.waitWakeup a = true
      · rw [if_pos hwait]
        exact h
      · have hnew : a ∉ w.pq.conns := fun ha => hwait ((h.flag a).2 ha)
        rw [if_neg hwait]
        refine ⟨⟨h.sound.order, h.sound.room, h.sound.pos⟩, fun j hj => ?_, h.flag⟩
        have hne : w.pq.conn j ≠ a := by
          rintro rfl
          exact hnew (Pq.mem_conns.2 ⟨j, hj, rfl⟩)
        exact (Function.update_of_ne hne _ _).trans (h.placed j hj)

/-- The connection that is meant leaves the queue, with its element, and no other. -/
theorem Inv.step_remove (h : w.Inv) {a : α} (hwait : w.waitWakeup a = true) (hfits : w.Fits (.remove a)) :
    (∃ key, (key, a) ::ₘ (w.step (.remove a)).pq.entries = w.pq.entries) ∧
      a ∉ (w.step (.remove a)).pq.conns := by
  obtain ⟨hi, hconn⟩ := h.placed.conn_index ((h.flag a).1 hwait)
  obtain ⟨hentries, hgone, -⟩ := h.remove hi hfits.1 hfits.2
  rw [hconn] at hgone
  rw [WakeupPq.step, if_pos hwait]
  refine ⟨⟨w.pq.key (w.pq.index a), ?_⟩, hgone⟩
  rw [← hentries]
  congr 1
  exact Prod.ext rfl hconn.symm

end WakeupPq

/-! ## The connection queues -/

/-- **The priority queues of the connections**, in every run whose places are 32-bit numbers. The heap is in
order and inside its array, it holds what was inserted and not removed, and its first element is minimal. A
connection that is pushed once, and held by no other queue, knows its place. And behind the flags of the
engine, the queue loses the connection that is meant, and no other. -/
theorem pq_runs {capacity : ℕ} (hcapacity : 0 < capacity) (mem : ℕ → UInt64 × α) (index : α → ℕ) :
    (∀ c ops, AllAlong (PqHistory.step c) PqHistory.Fits ⟨.init capacity mem index, 0, 0⟩ ops →
      let h := ops.foldl (PqHistory.step c) ⟨.init capacity mem index, 0, 0⟩
      h.pq.Sound c ∧ h.pq.entries + h.removed = h.inserted ∧
        ∀ e, h.pq.top = some e → e ∈ h.pq.entries ∧ ∀ e' ∈ h.pq.entries, c.cmp e.1 e'.1 = false) ∧
    (∀ c ops, AllAlong (PqHistory.step c) (fun h op => h.Fits op ∧ h.Apart op)
        ⟨.init capacity mem index, 0, 0⟩ ops →
      (ops.foldl (PqHistory.step c) ⟨.init capacity mem index, 0, 0⟩).pq.Placed) ∧
    ∀ ops ticking, AllAlong WakeupPq.step WakeupPq.Fits ⟨.init capacity mem index, fun _ => false, ticking⟩ ops →
      let w := ops.foldl WakeupPq.step ⟨.init capacity mem index, fun _ => false, ticking⟩
      w.pq.Placed ∧ (∀ a, w.waitWakeup a = true ↔ a ∈ w.pq.conns) ∧
        ∀ a, w.waitWakeup a = true → w.Fits (.remove a) →
          (∃ key, (key, a) ::ₘ (w.step (.remove a)).pq.entries = w.pq.entries) ∧
            a ∉ (w.step (.remove a)).pq.conns := by
  refine ⟨fun c ops hops => ?_, fun c ops hops => ?_, fun ops ticking hops => ?_⟩
  · have hinit : PqHistory.Inv c ⟨.init capacity mem index, 0, 0⟩ :=
      ⟨Pq.sound_init c hcapacity mem index, rfl⟩
    have hinv := hops.run (I := PqHistory.Inv c) (fun hinv hfits => hinv.step hfits) hinit
    refine ⟨hinv.sound, hinv.entries, fun e he => ?_⟩
    obtain ⟨hpos, rfl⟩ := Pq.top_eq_some he
    refine ⟨Pq.mem_entries.2 ⟨0, hpos, rfl⟩, fun e' he' => ?_⟩
    obtain ⟨i, hi, rfl⟩ := Pq.mem_entries.1 he'
    exact hinv.sound.order.top hi
  · have hinit : PqHistory.Inv c ⟨.init capacity mem index, 0, 0⟩ :=
      ⟨Pq.sound_init c hcapacity mem index, rfl⟩
    exact (hops.run (I := fun h => h.Inv c ∧ h.pq.Placed) (fun hinv hop =>
      ⟨hinv.1.step hop.1, hinv.1.placed hinv.2 hop.1 hop.2⟩) ⟨hinit, Pq.placed_init _ _ _⟩).2
  · have hinit : WakeupPq.Inv ⟨.init capacity mem index, fun _ => false, ticking⟩ :=
      ⟨Pq.sound_init _ hcapacity mem index, Pq.placed_init _ _ _,
        fun a => iff_of_false Bool.false_ne_true (Multiset.notMem_zero a)⟩
    have hinv := hops.run (I := WakeupPq.Inv) (fun hinv hfits => hinv.step hfits) hinit
    exact ⟨hinv.placed, hinv.flag, fun a hwait hfits => hinv.step_remove hwait hfits⟩

/-- Memory that holds zeros. -/
def zeroMem : ℕ → UInt64 × ℕ := fun _ => (0, 0)

/-- An empty queue, and no connection that waits or ticks. -/
def WakeupPq.empty (capacity : ℕ) : WakeupPq ℕ :=
  ⟨.init capacity zeroMem fun _ => 0, fun _ => false, fun _ => false⟩

/-- Three connections come into an array for two. -/
def threeWaiting : List (WakeupOp ℕ) :=
  [.add 7 30 (some zeroMem), .add 8 20 (some zeroMem), .add 9 10 (some zeroMem)]

/-- The second one is removed, from the middle of the heap. -/
theorem pq_runs_three :
    (threeWaiting.foldl WakeupPq.step (.empty 2)).pq.top = some (10, 9) ∧
      (threeWaiting.foldl WakeupPq.step (.empty 2)).pq.Placed ∧
      8 ∉ ((threeWaiting.foldl WakeupPq.step (.empty 2)).step (.remove 8)).pq.conns := by
  obtain ⟨hplaced, -, hremove⟩ := (@pq_runs ℕ _ 2 (by decide) zeroMem fun _ => 0).2.2 threeWaiting
    (fun _ => false) (by decide)
  exact ⟨by decide, hplaced, (hremove 8 (by decide) (by decide)).2⟩

/-- So many connections are pushed under the same key. -/
def equalPushes (n : ℕ) : List (PqOp ℕ) := (List.range n).map fun i => .push 1 i (some zeroMem)

/-- The queue behind them. -/
def equalHistory (n : ℕ) : PqHistory ℕ :=
  (equalPushes n).foldl (PqHistory.step .revertCmp) ⟨.init 16 zeroMem fun _ => 0, 0, 0⟩

theorem equalHistory_succ (n : ℕ) :
    equalHistory (n + 1) = (equalHistory n).step .revertCmp (.push 1 n (some zeroMem)) := by
  rw [equalHistory, equalPushes, List.range_succ, List.map_append, List.foldl_append]
  rfl

theorem Pq.push_isSome (c : PqCmp) (pq : Pq ℕ) (key : UInt64) (a : ℕ) :
    ∃ pq', pq.push c key a (some zeroMem) = some pq' := by
  unfold Pq.push
  split_ifs
  · exact ⟨_, rfl⟩
  · exact ⟨_, rfl⟩

theorem equalHistory_inv {n : ℕ} (hn : n ≤ 2 ^ 32) :
    (equalHistory n).Inv .revertCmp ∧ (equalHistory n).pq.count = n ∧
      ∀ e ∈ (equalHistory n).pq.entries, e.1 = 1 := by
  induction n with
  | zero => exact ⟨⟨Pq.sound_init _ (by decide) _ _, rfl⟩, rfl, fun e he => absurd he (Multiset.notMem_zero e)⟩
  | succ n ih =>
      obtain ⟨hinv, hcount, hkeys⟩ := ih (by omega)
      have hfits : (equalHistory n).pq.count < 2 ^ 32 := by omega
      obtain ⟨pq', hpush⟩ := Pq.push_isSome .revertCmp (equalHistory n).pq 1 n
      obtain ⟨-, hentries, -⟩ := hinv.sound.push hfits hpush
      have hpq : (equalHistory (n + 1)).pq = pq' := by
        rw [equalHistory_succ, PqHistory.step, hpush]
      refine ⟨?_, ?_, ?_⟩
      · rw [equalHistory_succ]
        exact hinv.step hfits
      · rw [hpq, ← Pq.card_entries, hentries, Multiset.card_cons, Pq.card_entries, hcount]
      · rw [hpq, hentries]
        intro e he
        rcases Multiset.mem_cons.1 he with rfl | hold
        · rfl
        · exact hkeys e hold

theorem Pq.moveTowardsTop_zero (c : PqCmp) (fuel : ℕ) (pq : Pq ℕ) : moveTowardsTop c fuel pq 0 = pq := by
  cases fuel with
  | zero => rfl
  | succ fuel => rw [moveTowardsTop, if_pos rfl]

/-- One connection more than there are places of 32 bits, with a key that has priority: it stays at the
end, since its place is taken for the first one. -/
theorem not_pq_order :
    ¬ ((equalHistory (2 ^ 32)).step .revertCmp (.push 0 0 (some zeroMem))).pq.HeapOrder .revertCmp := by
  intro horder
  obtain ⟨hinv, hcount, hkeys⟩ := equalHistory_inv (n := 2 ^ 32) le_rfl
  generalize equalHistory (2 ^ 32) = h at horder hinv hcount hkeys
  obtain ⟨pq', hpush⟩ := Pq.push_isSome .revertCmp h.pq 0 0
  rw [PqHistory.step, hpush] at horder
  obtain ⟨pq₀, hroomy, rfl⟩ := Pq.push_some hinv.sound.room hinv.sound.pos hpush
  have hcount₀ : pq₀.count = 2 ^ 32 := hroomy.count.trans hcount
  have hstay : pq₀.insert .revertCmp 0 0 = pq₀.write (2 ^ 32) (0, 0) (2 ^ 32 + 1) := by
    rw [Pq.insert, hcount₀, toU32, Nat.mod_self, Pq.moveTowardsTop_zero]
  have hparent : parent (2 ^ 32) < h.pq.count := by
    rw [hcount]
    exact parent_lt (by decide)
  have habove : (pq₀.write (2 ^ 32) (0, 0) (2 ^ 32 + 1)).key (parent (2 ^ 32)) = 1 := by
    change (Function.update pq₀.elements (2 ^ 32) (0, 0) (parent (2 ^ 32))).1 = 1
    rw [Function.update_of_ne (by omega), hroomy.elements _ hparent]
    exact hkeys _ (Pq.mem_entries.2 ⟨_, hparent, rfl⟩)
  have hlast : (pq₀.write (2 ^ 32) (0, 0) (2 ^ 32 + 1)).key (2 ^ 32) = 0 := by
    change (Function.update pq₀.elements (2 ^ 32) (0, 0) (2 ^ 32)).1 = 0
    rw [Function.update_self]
  have hcmp := horder (2 ^ 32) (by decide)
  rw [hstay, habove, hlast] at hcmp
  exact absurd (hcmp (Nat.lt_succ_self _)) (by decide)

/-! ## The queues of the engine -/

/-- The array holds the heap; its places are 32-bit numbers. -/
def Pq.Backs (pq : Pq α) (s : PlacedHeap α) : Prop := s.AgreeTo s.count (pq.placed PqCmp.revertCmp.rank)

theorem Pq.Backs.push {pq pq' : Pq α} {s : PlacedHeap α} (h : pq.Backs s) (hsound : pq.Sound .revertCmp)
    (hcount : pq.count < 2 ^ 32) {key : UInt64} {a : α} {mem : Option (ℕ → UInt64 × α)}
    (hpush : pq.push .revertCmp key a mem = some pq') : pq'.Backs (s.push key.toNat a) := by
  obtain ⟨pq₀, hroomy, rfl⟩ := Pq.push_some hsound.room hsound.pos hpush
  have hcounts : pq.count = s.count := h.count
  have hroom : s.AgreeTo s.count (pq₀.placed PqCmp.revertCmp.rank) := by
    refine ⟨hroomy.count.trans hcounts, hroomy.index.trans h.pos, fun i hi => ?_⟩
    have hold := h.elems i hi
    rw [Pq.placed_elems] at hold ⊢
    exact (congrArg (Prod.map PqCmp.revertCmp.rank id) (hroomy.elements i (hi.trans_eq hcounts.symm))).trans hold
  rw [Pq.Backs, Pq.insert_placed PqCmp.revertCmp.cmp_eq (hroomy.count.trans_lt hcount)]
  exact hroom.push _ _

theorem Pq.Backs.remove {pq : Pq α} {s : PlacedHeap α} (h : pq.Backs s) {i : ℕ} (hi : i < 2 ^ 31)
    (hcount : pq.count ≤ 2 ^ 31 + 1) : (pq.remove .revertCmp i).Backs (s.removeAt i) := by
  rw [Pq.Backs, Pq.remove_placed PqCmp.revertCmp.cmp_eq hi hcount]
  exact h.removeAt i

/-- The two queues of an engine are two arrays. -/
structure Engine.Arrays (e : Engine) (active wakeup : Pq ConnId) : Prop where
  active : active.Backs e.active
  wakeup : wakeup.Backs e.wakeup

namespace Engine.Arrays

variable {e : Engine} {active wakeup wakeup' active' : Pq ConnId} {id : ConnId} {c : EngConn}

theorem setWakeup (h : e.Arrays active wakeup) {q : PlacedHeap ConnId} (hq : wakeup'.Backs q) :
    (e.setWakeup q).Arrays { active with index := wakeup'.index } wakeup' :=
  ⟨⟨h.active.count, hq.pos, h.active.elems⟩, hq⟩

theorem setActive (h : e.Arrays active wakeup) {q : PlacedHeap ConnId} (hq : active'.Backs q) :
    (e.setActive q).Arrays active' { wakeup with index := active'.index } :=
  ⟨hq, ⟨h.wakeup.count, hq.pos, h.wakeup.elems⟩⟩

theorem setConn (h : e.Arrays active wakeup) (id : ConnId) (c : EngConn) :
    (e.setConn id c).Arrays active wakeup := ⟨h.active, h.wakeup⟩

theorem addWakeupQueue (h : e.Arrays active wakeup) (hsound : wakeup.Sound .revertCmp)
    (hcount : wakeup.count < 2 ^ 32) (hc : e.conns id = some c) (hidle : (c.waitWakeup || c.ticking) = false)
    {key : UInt64} (hkey : key.toNat = c.nextTickTime) {mem : Option (ℕ → UInt64 × ConnId)}
    (hpush : wakeup.push .revertCmp key id mem = some wakeup') :
    (e.addWakeupQueue id).Arrays { active with index := wakeup'.index } wakeup' := by
  have hpushed := h.wakeup.push hsound hcount hpush
  rw [hkey] at hpushed
  unfold Engine.addWakeupQueue
  rw [hc]
  dsimp only
  rw [if_neg (by rw [hidle]; exact Bool.false_ne_true)]
  exact (h.setWakeup hpushed).setConn id _

theorem removeWakeupQueue (h : e.Arrays active wakeup) (hindex : wakeup.index id < 2 ^ 31)
    (hcount : wakeup.count ≤ 2 ^ 31 + 1) (hc : e.conns id = some c) (hwait : c.waitWakeup = true) :
    let wakeup' := wakeup.remove .revertCmp (wakeup.index id)
    (e.removeWakeupQueue id).Arrays { active with index := wakeup'.index } wakeup' := by
  have hpos : e.wakeupPqIndex id = wakeup.index id := (congrFun h.wakeup.pos id).symm
  unfold Engine.removeWakeupQueue
  rw [hc]
  dsimp only
  rw [if_pos hwait, hpos]
  exact (h.setWakeup (h.wakeup.remove hindex hcount)).setConn id _

theorem addActiveQueue (h : e.Arrays active wakeup) (hsound : active.Sound .revertCmp)
    (hcount : active.count < 2 ^ 32) (hc : e.conns id = some c) (hidle : (c.waitWakeup || c.ticking) = false)
    {key : UInt64} (hkey : key.toNat = c.lastTickedTime) {mem : Option (ℕ → UInt64 × ConnId)}
    (hpush : active.push .revertCmp key id mem = some active') :
    (e.addActiveQueue id).Arrays active' { wakeup with index := active'.index } := by
  have hpushed := h.active.push hsound hcount hpush
  rw [hkey] at hpushed
  unfold Engine.addActiveQueue
  rw [hc]
  dsimp only
  rw [if_neg (by rw [hidle]; exact Bool.false_ne_true)]
  exact (h.setActive hpushed).setConn id _

theorem removeActiveQueue (h : e.Arrays active wakeup) (hindex : active.index id < 2 ^ 31)
    (hcount : active.count ≤ 2 ^ 31 + 1) (hc : e.conns id = some c) (htick : c.ticking = true) :
    let active' := active.remove .revertCmp (active.index id)
    (e.removeActiveQueue id).Arrays active' { wakeup with index := active'.index } := by
  have hpos : e.wakeupPqIndex id = active.index id := (congrFun h.active.pos id).symm
  unfold Engine.removeActiveQueue
  rw [hc]
  dsimp only
  rw [if_pos htick, hpos]
  exact (h.setActive (h.active.remove hindex hcount)).setConn id _

/-- The second loop of `rqc_engine_main_logic` takes the first connection. -/
theorem popActive (h : e.Arrays active wakeup) (hcount : active.count ≤ 2 ^ 31 + 1) (hsome : active.count ≠ 0) :
    active.conn 0 = e.active.item 0 ∧
      (e.setActive e.active.pop).Arrays (active.pop .revertCmp)
        { wakeup with index := (active.pop .revertCmp).index } := by
  have hcounts : active.count = e.active.count := h.active.count
  rw [hcounts] at hsome
  refine ⟨congrArg Prod.snd (h.active.elems 0 (Nat.pos_of_ne_zero hsome)), h.setActive ?_⟩
  rw [Pq.pop_eq _ (hcounts.trans_ne hsome), PlacedHeap.pop_eq _ hsome]
  exact h.active.remove (by decide) hcount

end Engine.Arrays

end Rquic

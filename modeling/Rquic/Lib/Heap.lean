import Mathlib.Logic.Equiv.Basic
import Mathlib.Tactic.Linarith

set_option autoImplicit false

/-!
# Binary heaps with positions

A priority queue in an array, the smallest key first. Every item is told its place in the array whenever
it moves, so that it can be removed from the middle.

* `Heap`, `PlacedHeap`: the array, and the array with the places.
* `moveTowardsTop`, `moveTowardsBottom`, `push`, `pop`, `removeAt`: the operations.
* `Holds`: what is in the heap.
* `Shuffled`: the same entries in other places.
* `Valid`: the places are right and the keys are ordered.
* **`push_holds`**, **`removeAt_holds`**: what an operation does to the entries.
* **`push_valid`**, **`removeAt_valid`**: the operations keep the heap valid.
* `AgreeTo`: heaps that agree on their entries, and stay so.
* `TwoHeaps`: two heaps that share the map of places.
-/

namespace Rquic

variable {α : Type}

/-- An array of keys and items; only the first `count` entries are in use. -/
structure Heap (α : Type) where
  elems : ℕ → ℕ × α
  count : ℕ

/-- A heap, and the places that the items were told. -/
structure PlacedHeap (α : Type) extends Heap α where
  pos : α → ℕ

/-- The place above. -/
def parent (i : ℕ) : ℕ := (i - 1) / 2

theorem parent_lt {i : ℕ} (hi : i ≠ 0) : parent i < i := by
  unfold parent
  omega

namespace PlacedHeap

/-! ## Entries -/

def key (s : PlacedHeap α) (i : ℕ) : ℕ := (s.elems i).1

def item (s : PlacedHeap α) (i : ℕ) : α := (s.elems i).2

/-- An entry is in the heap. -/
def Holds (s : PlacedHeap α) (k : ℕ) (a : α) : Prop := ∃ i < s.count, s.elems i = (k, a)

/-- Every item knows its place. -/
def Placed (s : PlacedHeap α) : Prop := ∀ i < s.count, s.pos (s.item i) = i

theorem Placed.inj {s : PlacedHeap α} (h : s.Placed) {i j : ℕ} (hi : i < s.count) (hj : j < s.count)
    (heq : s.item i = s.item j) : i = j := by
  rw [← h i hi, heq, h j hj]

/-- The same entries in other places; items that are not in the heap are told nothing. -/
structure Shuffled (s s' : PlacedHeap α) : Prop where
  count : s'.count = s.count
  holds : ∀ k a, s'.Holds k a ↔ s.Holds k a
  placed : s.Placed → s'.Placed
  others : ∀ a, (∀ k, ¬ s.Holds k a) → s'.pos a = s.pos a

theorem Shuffled.refl (s : PlacedHeap α) : Shuffled s s := ⟨rfl, fun _ _ => Iff.rfl, id, fun _ _ => rfl⟩

theorem Shuffled.trans {s s' s'' : PlacedHeap α} (h : Shuffled s s') (h' : Shuffled s' s'') :
    Shuffled s s'' := by
  refine ⟨h'.count.trans h.count, fun k a => (h'.holds k a).trans (h.holds k a), h'.placed ∘ h.placed, ?_⟩
  intro a ha
  rw [h'.others a fun k hk => ha k ((h.holds k a).1 hk), h.others a ha]

theorem swap_lt {s : PlacedHeap α} {i j k : ℕ} (hi : i < s.count) (hj : j < s.count) (hk : k < s.count) :
    Equiv.swap i j k < s.count := by
  rw [Equiv.swap_apply_def]
  split_ifs
  · exact hj
  · exact hi
  · exact hk

/-- The smaller one of the two entries below. -/
def smallerChild (s : PlacedHeap α) (i : ℕ) : ℕ :=
  if 2 * i + 2 < s.count ∧ s.key (2 * i + 2) < s.key (2 * i + 1) then 2 * i + 2 else 2 * i + 1

theorem smallerChild_lt {s : PlacedHeap α} {i : ℕ} (h : 2 * i + 1 < s.count) :
    s.smallerChild i < s.count := by
  unfold smallerChild
  split_ifs with hright
  · exact hright.1
  · exact h

/-! ## Operations -/

variable [DecidableEq α]

/-- The item at a place is told the place. -/
def tell (s : PlacedHeap α) (i : ℕ) : PlacedHeap α := { s with pos := Function.update s.pos (s.item i) i }

/-- Two entries change places. -/
def swap (s : PlacedHeap α) (i j : ℕ) : PlacedHeap α :=
  (({ s with elems := s.elems ∘ Equiv.swap i j } : PlacedHeap α).tell i).tell j

/-- An entry moves up while its key is smaller than the one above. -/
def moveTowardsTop : ℕ → PlacedHeap α → ℕ → PlacedHeap α
  | 0, s, _ => s
  | fuel + 1, s, i =>
    if i = 0 then s
    else if s.key i < s.key (parent i) then moveTowardsTop fuel (s.swap i (parent i)) (parent i)
    else s

/-- An entry moves down while its key is larger than one below. -/
def moveTowardsBottom : ℕ → PlacedHeap α → ℕ → PlacedHeap α
  | 0, s, _ => s
  | fuel + 1, s, i =>
    if 2 * i + 1 < s.count then
      if s.key (s.smallerChild i) < s.key i then
        moveTowardsBottom fuel (s.swap i (s.smallerChild i)) (s.smallerChild i)
      else s
    else s

/-- A new entry behind the last one, before it moves up. -/
def append (s : PlacedHeap α) (k : ℕ) (a : α) : PlacedHeap α :=
  ({ s with elems := Function.update s.elems s.count (k, a), count := s.count + 1 }).tell s.count

def push (s : PlacedHeap α) (k : ℕ) (a : α) : PlacedHeap α := moveTowardsTop s.count (s.append k a) s.count

/-- The last entry takes the place `i`. -/
def fill (s : PlacedHeap α) (i : ℕ) : PlacedHeap α :=
  ({ s with elems := Function.update s.elems i (s.elems (s.count - 1)), count := s.count - 1 }).tell i

/-- The smallest entry is removed. -/
def pop (s : PlacedHeap α) : PlacedHeap α :=
  if s.count ≤ 1 then { s with count := 0 } else moveTowardsBottom s.count (s.fill 0) 0

/-- The entry at a place is removed. -/
def removeAt (s : PlacedHeap α) (i : ℕ) : PlacedHeap α :=
  if s.count ≤ i then s
  else if s.count = 1 then { s with count := 0 }
  else moveTowardsTop i (moveTowardsBottom s.count (s.fill i) i) i

theorem pop_eq (s : PlacedHeap α) (h : s.count ≠ 0) : s.pop = s.removeAt 0 := by
  unfold pop removeAt
  by_cases hone : s.count = 1
  · rw [if_pos hone.le, if_neg (by omega : ¬ s.count ≤ 0), if_pos hone]
  · rw [if_neg (by omega : ¬ s.count ≤ 1), if_neg (by omega : ¬ s.count ≤ 0), if_neg hone]
    rfl

/-! ## Entries change places -/

section Swap

variable {s : PlacedHeap α} {i j : ℕ}

@[simp] theorem swap_count (s : PlacedHeap α) (i j : ℕ) : (s.swap i j).count = s.count := rfl

theorem swap_elems (s : PlacedHeap α) (i j k : ℕ) : (s.swap i j).elems k = s.elems (Equiv.swap i j k) := rfl

@[simp] theorem swap_key_left (s : PlacedHeap α) (i j : ℕ) : (s.swap i j).key i = s.key j := by
  show s.key (Equiv.swap i j i) = s.key j
  rw [Equiv.swap_apply_left]

@[simp] theorem swap_key_right (s : PlacedHeap α) (i j : ℕ) : (s.swap i j).key j = s.key i := by
  show s.key (Equiv.swap i j j) = s.key i
  rw [Equiv.swap_apply_right]

theorem swap_key_of_ne (s : PlacedHeap α) {i j k : ℕ} (hi : k ≠ i) (hj : k ≠ j) :
    (s.swap i j).key k = s.key k := by
  show s.key (Equiv.swap i j k) = s.key k
  rw [Equiv.swap_apply_of_ne_of_ne hi hj]

theorem swap_placed (h : s.Placed) (hi : i < s.count) (hj : j < s.count) : (s.swap i j).Placed := by
  intro k hk
  have hitem : ∀ m, (s.swap i j).item m = s.item (Equiv.swap i j m) := fun _ => rfl
  have hpos : (s.swap i j).pos = Function.update (Function.update s.pos (s.item j) i) (s.item i) j := by
    show Function.update (Function.update s.pos (s.item (Equiv.swap i j i)) i) (s.item (Equiv.swap i j j)) j = _
    rw [Equiv.swap_apply_left, Equiv.swap_apply_right]
  rw [hpos, hitem]
  by_cases hki : k = i
  · subst hki
    rw [Equiv.swap_apply_left]
    by_cases hkj : k = j
    · rw [hkj, Function.update_self]
    · rw [Function.update_of_ne fun heq => hkj (h.inj hj hi heq).symm, Function.update_self]
  · by_cases hkj : k = j
    · rw [hkj, Equiv.swap_apply_right, Function.update_self]
    · rw [Equiv.swap_apply_of_ne_of_ne hki hkj, Function.update_of_ne fun heq => hki (h.inj hk hi heq),
        Function.update_of_ne fun heq => hkj (h.inj hk hj heq)]
      exact h k hk

theorem swap_shuffled (hi : i < s.count) (hj : j < s.count) : Shuffled s (s.swap i j) := by
  refine ⟨rfl, fun k a => ⟨?_, ?_⟩, fun h => swap_placed h hi hj, fun a ha => ?_⟩
  · rintro ⟨m, hm, heq⟩
    exact ⟨Equiv.swap i j m, swap_lt hi hj hm, heq⟩
  · rintro ⟨m, hm, heq⟩
    refine ⟨Equiv.swap i j m, swap_lt hi hj hm, ?_⟩
    rw [swap_elems, Equiv.swap_apply_self]
    exact heq
  · have hne : ∀ m, m < s.count → s.item m ≠ a := by
      rintro m hm rfl
      exact ha (s.key m) ⟨m, hm, rfl⟩
    show Function.update (Function.update s.pos (s.item (Equiv.swap i j i)) i)
      (s.item (Equiv.swap i j j)) j a = s.pos a
    rw [Equiv.swap_apply_left, Equiv.swap_apply_right, Function.update_of_ne (hne i hi).symm,
      Function.update_of_ne (hne j hj).symm]

end Swap

theorem moveTowardsTop_shuffled (fuel : ℕ) {s : PlacedHeap α} {i : ℕ} (hi : i < s.count) :
    Shuffled s (moveTowardsTop fuel s i) := by
  induction fuel generalizing s i with
  | zero => exact .refl s
  | succ fuel ih =>
      unfold moveTowardsTop
      split_ifs with hzero hkey
      · exact .refl s
      · have hparent : parent i < s.count := (parent_lt hzero).trans hi
        exact (swap_shuffled hi hparent).trans (ih hparent)
      · exact .refl s

theorem moveTowardsBottom_shuffled (fuel : ℕ) (s : PlacedHeap α) {i : ℕ} :
    Shuffled s (moveTowardsBottom fuel s i) := by
  induction fuel generalizing s i with
  | zero => exact .refl s
  | succ fuel ih =>
      unfold moveTowardsBottom
      split_ifs with hleft hkey
      · have hchild := smallerChild_lt hleft
        exact (swap_shuffled (by omega) hchild).trans (ih _)
      · exact .refl s
      · exact .refl s

/-! ## The order of the keys -/

section Ordered

omit [DecidableEq α]

variable {s : PlacedHeap α} {i : ℕ}

/-- No key is smaller than the one above. -/
def Ordered (s : PlacedHeap α) : Prop := ∀ k, 0 < k → k < s.count → s.key (parent k) ≤ s.key k

/-- The entry at `i` may be too large for its place or too small for it; the entries below it are not
smaller than the one above it. -/
structure Loose (s : PlacedHeap α) (i : ℕ) : Prop where
  rest : ∀ k, 0 < k → k < s.count → k ≠ i → parent k ≠ i → s.key (parent k) ≤ s.key k
  grand : 0 < i → ∀ k, 0 < k → k < s.count → parent k = i → s.key (parent i) ≤ s.key k

/-- The entry at `i` may be too small for its place. -/
structure LooseUp (s : PlacedHeap α) (i : ℕ) : Prop extends Loose s i where
  below : ∀ k, 0 < k → k < s.count → parent k = i → s.key i ≤ s.key k

/-- The entry at `i` may be too large for its place. -/
structure LooseDown (s : PlacedHeap α) (i : ℕ) : Prop extends Loose s i where
  above : 0 < i → i < s.count → s.key (parent i) ≤ s.key i

theorem Ordered.top_le (h : s.Ordered) {i : ℕ} (hi : i < s.count) : s.key 0 ≤ s.key i := by
  induction i using Nat.strong_induction_on with
  | _ i ih =>
      by_cases hzero : i = 0
      · rw [hzero]
      · have hlt := parent_lt hzero
        exact (ih (parent i) hlt (hlt.trans hi)).trans (h i (Nat.pos_of_ne_zero hzero) hi)

theorem Ordered.looseUp (h : s.Ordered) (hi : i < s.count) : s.LooseUp i := by
  refine ⟨⟨fun k hk hlt _ _ => h k hk hlt, fun hpos k hk hlt hparent => ?_⟩, fun k hk hlt hparent => ?_⟩
  · have hup := h i hpos hi
    have hdown := h k hk hlt
    rw [hparent] at hdown
    exact hup.trans hdown
  · have hdown := h k hk hlt
    rwa [hparent] at hdown

theorem LooseUp.ordered (h : s.LooseUp i) (habove : 0 < i → i < s.count → s.key (parent i) ≤ s.key i) :
    s.Ordered := by
  intro k hk hlt
  by_cases hki : k = i
  · subst hki
    exact habove hk hlt
  · by_cases hparent : parent k = i
    · have hbelow := h.below k hk hlt hparent
      rwa [hparent]
    · exact h.rest k hk hlt hki hparent

theorem LooseDown.ordered (h : s.LooseDown i)
    (hbelow : ∀ k, 0 < k → k < s.count → parent k = i → s.key i ≤ s.key k) : s.Ordered :=
  LooseUp.ordered ⟨h.toLoose, hbelow⟩ h.above

theorem smallerChild_le (s : PlacedHeap α) {k : ℕ} (hk : 0 < k) (hlt : k < s.count)
    (hparent : parent k = i) : s.key (s.smallerChild i) ≤ s.key k := by
  have hchild : k = 2 * i + 1 ∨ k = 2 * i + 2 := by
    unfold parent at hparent
    omega
  unfold smallerChild
  split_ifs with hright
  · rcases hchild with rfl | rfl
    · exact hright.2.le
    · exact le_rfl
  · rcases hchild with rfl | rfl
    · exact le_rfl
    · exact not_lt.1 fun hsmaller => hright ⟨hlt, hsmaller⟩

theorem parent_smallerChild (s : PlacedHeap α) (i : ℕ) : parent (s.smallerChild i) = i := by
  unfold smallerChild parent
  split_ifs <;> omega

theorem lt_smallerChild (s : PlacedHeap α) (i : ℕ) : i < s.smallerChild i := by
  unfold smallerChild
  split_ifs <;> omega

end Ordered

section Move

variable {s : PlacedHeap α} {i : ℕ}

theorem LooseUp.swap (h : s.LooseUp i) (hpos : 0 < i) (hi : i < s.count)
    (hkey : s.key i < s.key (parent i)) : (s.swap i (parent i)).LooseUp (parent i) := by
  have hlt : parent i < i := parent_lt hpos.ne'
  have hle : ∀ k, 0 < k → k < s.count → k ≠ i → parent k = parent i → s.key (parent i) ≤ s.key k := by
    intro k hk hkl hki hparent
    have hrest := h.rest k hk hkl hki (by omega)
    rwa [hparent] at hrest
  refine ⟨⟨fun k hk hkl hkj hparent => ?_, fun hpos' k hk hkl hparent => ?_⟩, fun k hk hkl hparent => ?_⟩
  · have hki : k ≠ i := by
      rintro rfl
      exact hparent rfl
    rw [swap_key_of_ne s hki hkj]
    by_cases hpi : parent k = i
    · rw [hpi, swap_key_left]
      exact h.grand hpos k hk hkl hpi
    · rw [swap_key_of_ne s hpi hparent]
      exact h.rest k hk hkl hki hpi
  · have hgrand : parent (parent i) < parent i := parent_lt hpos'.ne'
    rw [swap_key_of_ne s (by omega) (by omega)]
    have habove := h.rest (parent i) hpos' (by omega) (by omega) (by omega)
    by_cases hki : k = i
    · rw [hki, swap_key_left]
      exact habove
    · have hkp : parent k < k := parent_lt hk.ne'
      rw [swap_key_of_ne s hki (by omega)]
      exact habove.trans (hle k hk hkl hki hparent)
  · rw [swap_key_right]
    by_cases hki : k = i
    · rw [hki, swap_key_left]
      exact hkey.le
    · have hkp : parent k < k := parent_lt hk.ne'
      rw [swap_key_of_ne s hki (by omega)]
      exact hkey.le.trans (hle k hk hkl hki hparent)

theorem moveTowardsTop_ordered {fuel : ℕ} (hfuel : i ≤ fuel) (hi : i < s.count) (h : s.LooseUp i) :
    (moveTowardsTop fuel s i).Ordered := by
  induction fuel generalizing s i with
  | zero =>
      obtain rfl : i = 0 := Nat.le_zero.1 hfuel
      exact h.ordered fun hpos => absurd hpos (lt_irrefl 0)
  | succ fuel ih =>
      unfold moveTowardsTop
      split_ifs with hzero hkey
      · subst hzero
        exact h.ordered fun hpos => absurd hpos (lt_irrefl 0)
      · have hlt := parent_lt hzero
        exact ih (by omega) (show parent i < s.count by omega) (h.swap (by omega) hi hkey)
      · exact h.ordered fun _ _ => not_lt.1 hkey

theorem Loose.swap (h : s.Loose i) (hleft : 2 * i + 1 < s.count)
    (hkey : s.key (s.smallerChild i) < s.key i) :
    (s.swap i (s.smallerChild i)).LooseDown (s.smallerChild i) := by
  have hchild := smallerChild_lt hleft
  have hparent := parent_smallerChild s i
  have hlt := lt_smallerChild s i
  have hmin := fun k hk hkl hp => smallerChild_le (i := i) s (k := k) hk hkl hp
  generalize s.smallerChild i = j at hchild hparent hlt hmin hkey ⊢
  refine ⟨⟨fun k hk hkl hkj hpj => ?_, fun _ k hk hkl hpj => ?_⟩, fun _ _ => ?_⟩
  · by_cases hki : k = i
    · subst hki
      have hkp : parent k < k := parent_lt hk.ne'
      rw [swap_key_left, swap_key_of_ne s (by omega) (by omega)]
      exact h.grand hk j (by omega) hchild hparent
    · rw [swap_key_of_ne s hki hkj]
      by_cases hpi : parent k = i
      · rw [hpi, swap_key_left]
        exact hmin k hk hkl hpi
      · rw [swap_key_of_ne s hpi hpj]
        exact h.rest k hk hkl hki hpi
  · have hkp : parent k < k := parent_lt hk.ne'
    rw [hparent, swap_key_left, swap_key_of_ne s (by omega) (by omega)]
    have hrest := h.rest k hk hkl (by omega) (by omega)
    rwa [hpj] at hrest
  · rw [hparent, swap_key_left, swap_key_right]
    exact hkey.le

theorem moveTowardsBottom_ordered {fuel : ℕ} (hfuel : s.count ≤ fuel + i) (h : s.LooseDown i) :
    (moveTowardsBottom fuel s i).Ordered := by
  induction fuel generalizing s i with
  | zero =>
      refine h.ordered fun k hk hkl hparent => ?_
      have hkp := parent_lt hk.ne'
      omega
  | succ fuel ih =>
      unfold moveTowardsBottom
      split_ifs with hleft hkey
      · have hlt := lt_smallerChild s i
        exact ih (show s.count ≤ fuel + s.smallerChild i by omega) (h.toLoose.swap hleft hkey)
      · exact h.ordered fun k hk hkl hparent => (not_lt.1 hkey).trans (smallerChild_le s hk hkl hparent)
      · refine h.ordered fun k hk hkl hparent => ?_
        unfold parent at hparent
        omega

/-- An entry that fits neither way is moved down, and then the entry in its place up. -/
theorem moveBoth_ordered {fuel : ℕ} (hfuel : s.count ≤ fuel + i) (hi : i < s.count) (h : s.Loose i) :
    (moveTowardsTop i (moveTowardsBottom fuel s i) i).Ordered := by
  -- in an ordered heap nothing moves up
  have hdone : ∀ s' : PlacedHeap α, s'.count = s.count → s'.Ordered → (moveTowardsTop i s' i).Ordered := by
    intro s' hcount hord
    exact moveTowardsTop_ordered le_rfl (by omega) (hord.looseUp (by omega))
  have hstay : (∀ k, 0 < k → k < s.count → parent k = i → s.key i ≤ s.key k) →
      (moveTowardsTop i s i).Ordered := fun hbelow => moveTowardsTop_ordered le_rfl hi ⟨h, hbelow⟩
  cases fuel with
  | zero => omega
  | succ fuel =>
      unfold moveTowardsBottom
      split_ifs with hleft hkey
      · have hlt := lt_smallerChild s i
        have hswap := h.swap hleft hkey
        refine hdone _ (moveTowardsBottom_shuffled fuel _).count (moveTowardsBottom_ordered ?_ hswap)
        show s.count ≤ fuel + s.smallerChild i
        omega
      · exact hstay fun k hk hkl hparent => (not_lt.1 hkey).trans (smallerChild_le s hk hkl hparent)
      · refine hstay fun k hk hkl hparent => ?_
        unfold parent at hparent
        omega

end Move

/-! ## Valid heaps -/

/-- The places are right and the keys are ordered. -/
structure Valid (s : PlacedHeap α) : Prop where
  placed : s.Placed
  ordered : s.Ordered

section Push

variable {s : PlacedHeap α} {a : α}

omit [DecidableEq α] in
theorem item_ne_of_not_holds (hnew : ∀ k, ¬ s.Holds k a) {i : ℕ} (hi : i < s.count) : s.item i ≠ a := by
  rintro rfl
  exact hnew (s.key i) ⟨i, hi, rfl⟩

theorem append_elems_of_ne (s : PlacedHeap α) (k : ℕ) (a : α) {i : ℕ} (hi : i ≠ s.count) :
    (s.append k a).elems i = s.elems i := Function.update_of_ne hi _ _

theorem append_elems_self (s : PlacedHeap α) (k : ℕ) (a : α) : (s.append k a).elems s.count = (k, a) :=
  Function.update_self _ _ _

theorem append_pos (s : PlacedHeap α) (k : ℕ) (a : α) :
    (s.append k a).pos = Function.update s.pos a s.count := by
  show Function.update s.pos (Function.update s.elems s.count (k, a) s.count).2 s.count = _
  rw [Function.update_self]

theorem append_holds (s : PlacedHeap α) (k : ℕ) (a : α) (k' : ℕ) (b : α) :
    (s.append k a).Holds k' b ↔ s.Holds k' b ∨ k' = k ∧ b = a := by
  constructor
  · rintro ⟨i, hi, heq⟩
    replace hi : i < s.count + 1 := hi
    by_cases hlast : i = s.count
    · rw [hlast, append_elems_self] at heq
      obtain ⟨rfl, rfl⟩ := Prod.mk.inj heq
      exact .inr ⟨rfl, rfl⟩
    · rw [append_elems_of_ne s k a hlast] at heq
      exact .inl ⟨i, by omega, heq⟩
  · rintro (⟨i, hi, heq⟩ | ⟨rfl, rfl⟩)
    · refine ⟨i, Nat.lt_succ_of_lt hi, ?_⟩
      rw [append_elems_of_ne s k a hi.ne]
      exact heq
    · exact ⟨s.count, Nat.lt_succ_self _, append_elems_self s k' b⟩

theorem append_placed (h : s.Placed) (hnew : ∀ k, ¬ s.Holds k a) (k : ℕ) : (s.append k a).Placed := by
  intro i hi
  replace hi : i < s.count + 1 := hi
  rw [append_pos]
  by_cases hlast : i = s.count
  · have hitem : (s.append k a).item i = a := by
      rw [item, hlast, append_elems_self]
    rw [hitem, Function.update_self, hlast]
  · have hitem : (s.append k a).item i = s.item i := by
      rw [item, append_elems_of_ne s k a hlast, item]
    have hlt : i < s.count := by omega
    rw [hitem, Function.update_of_ne (item_ne_of_not_holds hnew hlt)]
    exact h i hlt

theorem append_looseUp (h : s.Ordered) (k : ℕ) (a : α) : (s.append k a).LooseUp s.count := by
  have hkey : ∀ m, m ≠ s.count → (s.append k a).key m = s.key m := by
    intro m hm
    rw [key, append_elems_of_ne s k a hm, key]
  refine ⟨⟨fun m hm hlt hne _ => ?_, fun _ m hm hlt hparent => ?_⟩, fun m hm hlt hparent => ?_⟩
  · replace hlt : m < s.count + 1 := hlt
    have hparent := parent_lt hm.ne'
    rw [hkey m hne, hkey (parent m) (by omega)]
    exact h m hm (by omega)
  · -- nothing is below the last entry
    replace hlt : m < s.count + 1 := hlt
    have hmp := parent_lt hm.ne'
    omega
  · replace hlt : m < s.count + 1 := hlt
    have hmp := parent_lt hm.ne'
    omega

theorem push_shuffled (s : PlacedHeap α) (k : ℕ) (a : α) : Shuffled (s.append k a) (s.push k a) :=
  moveTowardsTop_shuffled s.count (Nat.lt_succ_self s.count)

theorem push_holds (s : PlacedHeap α) (k : ℕ) (a : α) (k' : ℕ) (b : α) :
    (s.push k a).Holds k' b ↔ s.Holds k' b ∨ k' = k ∧ b = a :=
  ((push_shuffled s k a).holds k' b).trans (append_holds s k a k' b)

theorem push_ordered (h : s.Ordered) (k : ℕ) (a : α) : (s.push k a).Ordered :=
  moveTowardsTop_ordered le_rfl (Nat.lt_succ_self s.count) (append_looseUp h k a)

theorem push_valid (h : s.Valid) (hnew : ∀ k, ¬ s.Holds k a) (k : ℕ) : (s.push k a).Valid :=
  ⟨(push_shuffled s k a).placed (append_placed h.placed hnew k), push_ordered h.ordered k a⟩

theorem push_others (s : PlacedHeap α) (k : ℕ) {a b : α} (hne : b ≠ a) (hb : ∀ k, ¬ s.Holds k b) :
    (s.push k a).pos b = s.pos b := by
  rw [(push_shuffled s k a).others b, append_pos, Function.update_of_ne hne]
  intro k' hk'
  rcases (append_holds s k a k' b).1 hk' with hold | ⟨-, rfl⟩
  · exact hb k' hold
  · exact hne rfl

end Push

section Remove

variable {s : PlacedHeap α} {i : ℕ}

theorem fill_elems_of_ne (s : PlacedHeap α) {i k : ℕ} (hk : k ≠ i) : (s.fill i).elems k = s.elems k :=
  Function.update_of_ne hk _ _

theorem fill_elems_self (s : PlacedHeap α) (i : ℕ) : (s.fill i).elems i = s.elems (s.count - 1) :=
  Function.update_self _ _ _

theorem fill_pos (s : PlacedHeap α) (i : ℕ) :
    (s.fill i).pos = Function.update s.pos (s.item (s.count - 1)) i := by
  show Function.update s.pos (Function.update s.elems i (s.elems (s.count - 1)) i).2 i = _
  rw [Function.update_self]
  rfl

theorem fill_holds (h : s.Placed) (hi : i < s.count) (k : ℕ) (b : α) :
    (s.fill i).Holds k b ↔ s.Holds k b ∧ b ≠ s.item i := by
  constructor
  · rintro ⟨m, hm, heq⟩
    replace hm : m < s.count - 1 := hm
    by_cases hmi : m = i
    · rw [hmi, fill_elems_self] at heq
      refine ⟨⟨s.count - 1, by omega, heq⟩, fun hb => ?_⟩
      have hitem : s.item (s.count - 1) = s.item i := by
        rw [← hb, item, heq]
      have := h.inj (by omega) hi hitem
      omega
    · rw [fill_elems_of_ne s hmi] at heq
      refine ⟨⟨m, by omega, heq⟩, fun hb => hmi (h.inj (by omega) hi ?_)⟩
      rw [← hb, item, heq]
  · rintro ⟨⟨m, hm, heq⟩, hb⟩
    have hmi : m ≠ i := by
      rintro rfl
      exact hb (by rw [item, heq])
    by_cases hlast : m = s.count - 1
    · refine ⟨i, show i < s.count - 1 by omega, ?_⟩
      rw [fill_elems_self, ← hlast]
      exact heq
    · refine ⟨m, show m < s.count - 1 by omega, ?_⟩
      rw [fill_elems_of_ne s hmi]
      exact heq

theorem fill_placed (h : s.Placed) (hi : i < s.count) : (s.fill i).Placed := by
  intro m hm
  replace hm : m < s.count - 1 := hm
  rw [fill_pos]
  by_cases hmi : m = i
  · have hitem : (s.fill i).item m = s.item (s.count - 1) := by
      rw [item, hmi, fill_elems_self, item]
    rw [hitem, Function.update_self, hmi]
  · have hitem : (s.fill i).item m = s.item m := by
      rw [item, fill_elems_of_ne s hmi, item]
    rw [hitem, Function.update_of_ne]
    · exact h m (by omega)
    · intro heq
      have := h.inj (by omega) (by omega) heq
      omega

theorem fill_key_of_ne (s : PlacedHeap α) {i k : ℕ} (hk : k ≠ i) : (s.fill i).key k = s.key k := by
  rw [key, fill_elems_of_ne s hk, key]

theorem fill_loose (h : s.Ordered) (hi : i < s.count) : (s.fill i).Loose i := by
  refine ⟨fun k hk hlt hki hparent => ?_, fun hpos k hk hlt hparent => ?_⟩
  · replace hlt : k < s.count - 1 := hlt
    rw [fill_key_of_ne s hki, fill_key_of_ne s hparent]
    exact h k hk (by omega)
  · replace hlt : k < s.count - 1 := hlt
    have hkp := parent_lt hk.ne'
    have hip := parent_lt hpos.ne'
    rw [fill_key_of_ne s (by omega), fill_key_of_ne s (by omega)]
    have hup := h i hpos hi
    have hdown := h k hk (by omega)
    rw [hparent] at hdown
    exact hup.trans hdown

theorem removeAt_last (h : s.Ordered) (hi : i + 1 = s.count) (hpos : i ≠ 0) : s.removeAt i = s.fill i := by
  have hcount : (s.fill i).count = i := show s.count - 1 = i by omega
  have hbottom : moveTowardsBottom s.count (s.fill i) i = s.fill i := by
    rw [← hi, moveTowardsBottom, if_neg (by omega)]
  have hself : (s.fill i).key i = s.key i := by
    rw [key, fill_elems_self, key, ← hi, Nat.add_sub_cancel]
  have hparent := parent_lt hpos
  have hkey : ¬ (s.fill i).key i < (s.fill i).key (parent i) := by
    rw [hself, fill_key_of_ne s (by omega)]
    exact not_lt.2 (h i (by omega) (by omega))
  have htop : moveTowardsTop i (s.fill i) i = s.fill i := by
    obtain ⟨fuel, rfl⟩ := Nat.exists_eq_succ_of_ne_zero hpos
    rw [moveTowardsTop, if_neg hpos, if_neg hkey]
  unfold removeAt
  rw [if_neg (by omega), if_neg (by omega), hbottom, htop]

theorem removeAt_shuffled (h : s.Ordered) (hi : i < s.count) (hone : s.count ≠ 1) :
    Shuffled (s.fill i) (s.removeAt i) := by
  by_cases hlast : i + 1 = s.count
  · rw [removeAt_last h hlast (by omega)]
    exact .refl _
  · unfold removeAt
    rw [if_neg (by omega), if_neg hone]
    have hbottom := moveTowardsBottom_shuffled s.count (s.fill i) (i := i)
    refine hbottom.trans (moveTowardsTop_shuffled i ?_)
    rw [hbottom.count]
    show i < s.count - 1
    omega

theorem removeAt_holds (h : s.Valid) (hi : i < s.count) (k : ℕ) (b : α) :
    (s.removeAt i).Holds k b ↔ s.Holds k b ∧ b ≠ s.item i := by
  by_cases hone : s.count = 1
  · have hzero : i = 0 := by omega
    unfold removeAt
    rw [if_neg (by omega), if_pos hone, hzero]
    constructor
    · rintro ⟨m, hm, -⟩
      exact absurd hm (Nat.not_lt_zero m)
    · rintro ⟨⟨m, hm, heq⟩, hb⟩
      obtain rfl : m = 0 := by omega
      exact absurd (by rw [item, heq]) hb
  · exact ((removeAt_shuffled h.ordered hi hone).holds k b).trans (fill_holds h.placed hi k b)

theorem removeAt_ordered (h : s.Ordered) (hi : i < s.count) : (s.removeAt i).Ordered := by
  by_cases hone : s.count = 1
  · unfold removeAt
    rw [if_neg (by omega), if_pos hone]
    exact fun m _ hm => absurd hm (Nat.not_lt_zero m)
  · by_cases hlast : i + 1 = s.count
    · rw [removeAt_last h hlast (by omega)]
      intro k hk hlt
      replace hlt : k < s.count - 1 := hlt
      have hkp := parent_lt hk.ne'
      rw [fill_key_of_ne s (by omega), fill_key_of_ne s (by omega)]
      exact h k hk (by omega)
    · unfold removeAt
      rw [if_neg (by omega), if_neg hone]
      refine moveBoth_ordered ?_ ?_ (fill_loose h hi)
      · show s.count - 1 ≤ s.count + i
        omega
      · show i < s.count - 1
        omega

theorem removeAt_valid (h : s.Valid) (hi : i < s.count) : (s.removeAt i).Valid := by
  refine ⟨?_, removeAt_ordered h.ordered hi⟩
  by_cases hone : s.count = 1
  · unfold removeAt
    rw [if_neg (by omega), if_pos hone]
    exact fun m hm => absurd hm (Nat.not_lt_zero m)
  · exact (removeAt_shuffled h.ordered hi hone).placed (fill_placed h.placed hi)

theorem removeAt_others (h : s.Valid) (hi : i < s.count) {b : α} (hb : ∀ k, ¬ s.Holds k b) :
    (s.removeAt i).pos b = s.pos b := by
  by_cases hone : s.count = 1
  · unfold removeAt
    rw [if_neg (by omega), if_pos hone]
  · rw [(removeAt_shuffled h.ordered hi hone).others b, fill_pos, Function.update_of_ne]
    · exact (item_ne_of_not_holds hb (by omega)).symm
    · intro k hk
      exact hb k ((fill_holds h.placed hi k b).1 hk).1

end Remove

omit [DecidableEq α] in
/-- The places of the items that are not in the heap do not matter. -/
theorem Valid.of_pos {s : PlacedHeap α} (h : s.Valid) {pos : α → ℕ}
    (hpos : ∀ k a, s.Holds k a → pos a = s.pos a) : (⟨s.toHeap, pos⟩ : PlacedHeap α).Valid := by
  refine ⟨fun i hi => ?_, h.ordered⟩
  have hitem : pos (s.item i) = s.pos (s.item i) := hpos (s.key i) (s.item i) ⟨i, hi, rfl⟩
  exact hitem.trans (h.placed i hi)

/-! ## Heaps that agree -/

/-- The same heap, as far as its first `n` entries show. -/
structure AgreeTo (n : ℕ) (s s' : PlacedHeap α) : Prop where
  count : s'.count = s.count
  pos : s'.pos = s.pos
  elems : ∀ i < n, s'.elems i = s.elems i

theorem moveTowardsTop_count (fuel : ℕ) (s : PlacedHeap α) (i : ℕ) :
    (moveTowardsTop fuel s i).count = s.count := by
  induction fuel generalizing s i with
  | zero => rfl
  | succ fuel ih =>
      unfold moveTowardsTop
      split_ifs
      · rfl
      · exact ih _ _
      · rfl

namespace AgreeTo

variable {n i j : ℕ} {s s' : PlacedHeap α}

omit [DecidableEq α] in
theorem mono {m : ℕ} (h : AgreeTo n s s') (hle : m ≤ n) : AgreeTo m s s' :=
  ⟨h.count, h.pos, fun i hi => h.elems i (hi.trans_le hle)⟩

omit [DecidableEq α] in
theorem key (h : AgreeTo n s s') (hi : i < n) : s'.key i = s.key i := congrArg Prod.fst (h.elems i hi)

theorem tell (h : AgreeTo n s s') (hi : i < n) : AgreeTo n (s.tell i) (s'.tell i) := by
  refine ⟨h.count, ?_, h.elems⟩
  change Function.update s'.pos (s'.elems i).2 i = Function.update s.pos (s.elems i).2 i
  rw [h.pos, h.elems i hi]

theorem swap (h : AgreeTo n s s') (hi : i < n) (hj : j < n) : AgreeTo n (s.swap i j) (s'.swap i j) := by
  have hswapped : AgreeTo n { s with elems := s.elems ∘ Equiv.swap i j }
      { s' with elems := s'.elems ∘ Equiv.swap i j } := by
    refine ⟨h.count, h.pos, fun k hk => h.elems _ ?_⟩
    rw [Equiv.swap_apply_def]
    split_ifs
    · exact hj
    · exact hi
    · exact hk
  exact (hswapped.tell hi).tell hj

theorem moveTowardsTop (fuel : ℕ) (h : AgreeTo n s s') (hi : i < n) :
    AgreeTo n (moveTowardsTop fuel s i) (moveTowardsTop fuel s' i) := by
  induction fuel generalizing s s' i with
  | zero => exact h
  | succ fuel ih =>
      unfold PlacedHeap.moveTowardsTop
      by_cases hzero : i = 0
      · rw [if_pos hzero, if_pos hzero]
        exact h
      · have hparent : parent i < n := (parent_lt hzero).trans hi
        rw [if_neg hzero, if_neg hzero, h.key hi, h.key hparent]
        split_ifs
        · exact ih (h.swap hi hparent) hparent
        · exact h

omit [DecidableEq α] in
theorem smallerChild (h : AgreeTo n s s') (hcount : s.count ≤ n) (hleft : 2 * i + 1 < s.count) :
    s'.smallerChild i = s.smallerChild i := by
  unfold PlacedHeap.smallerChild
  rw [h.count]
  by_cases hright : 2 * i + 2 < s.count
  · rw [h.key (hright.trans_le hcount), h.key (hleft.trans_le hcount)]
  · rw [if_neg fun hlt => hright hlt.1, if_neg fun hlt => hright hlt.1]

theorem moveTowardsBottom (fuel : ℕ) (h : AgreeTo n s s') (hcount : s.count ≤ n) :
    AgreeTo n (moveTowardsBottom fuel s i) (moveTowardsBottom fuel s' i) := by
  induction fuel generalizing s s' i with
  | zero => exact h
  | succ fuel ih =>
      unfold PlacedHeap.moveTowardsBottom
      rw [h.count]
      by_cases hleft : 2 * i + 1 < s.count
      · have hchild := smallerChild_lt hleft
        rw [if_pos hleft, if_pos hleft, h.smallerChild hcount hleft, h.key (hchild.trans_le hcount),
          h.key (by omega)]
        split_ifs
        · exact ih (h.swap (by omega) (hchild.trans_le hcount)) hcount
        · exact h
      · rw [if_neg hleft, if_neg hleft]
        exact h

theorem write {m : ℕ} (h : AgreeTo n s s') (e : ℕ × α) (count : ℕ) (hi : i < m)
    (hrest : ∀ k < m, k ≠ i → k < n) :
    AgreeTo m (({ s with elems := Function.update s.elems i e, count := count } : PlacedHeap α).tell i)
      (({ s' with elems := Function.update s'.elems i e, count := count } : PlacedHeap α).tell i) := by
  refine tell ⟨rfl, h.pos, fun k hk => ?_⟩ hi
  change Function.update s'.elems i e k = Function.update s.elems i e k
  by_cases hki : k = i
  · rw [hki, Function.update_self, Function.update_self]
  · rw [Function.update_of_ne hki, Function.update_of_ne hki, h.elems k (hrest k hk hki)]

theorem push (h : AgreeTo s.count s s') (k : ℕ) (a : α) :
    AgreeTo (s.push k a).count (s.push k a) (s'.push k a) := by
  have hlast : s.count < s.count + 1 := Nat.lt_succ_self _
  rw [(push_shuffled s k a).count]
  unfold PlacedHeap.push append
  rw [h.count]
  exact (h.write (k, a) (s.count + 1) hlast fun m hm hne => by omega).moveTowardsTop _ hlast

theorem fill (h : AgreeTo n s s') (hi : i < n) (hcount : s.count ≤ n) :
    AgreeTo n (s.fill i) (s'.fill i) := by
  unfold PlacedHeap.fill
  rw [h.count, h.elems (s.count - 1) (by omega)]
  exact h.write _ _ hi fun m hm _ => hm

theorem removeAt (h : AgreeTo s.count s s') (i : ℕ) :
    AgreeTo (s.removeAt i).count (s.removeAt i) (s'.removeAt i) := by
  unfold PlacedHeap.removeAt
  rw [h.count]
  by_cases hout : s.count ≤ i
  · rw [if_pos hout, if_pos hout]
    exact h
  rw [if_neg hout, if_neg hout]
  by_cases hone : s.count = 1
  · rw [if_pos hone, if_pos hone]
    exact ⟨rfl, h.pos, fun k hk => absurd hk (Nat.not_lt_zero k)⟩
  rw [if_neg hone, if_neg hone, moveTowardsTop_count, (moveTowardsBottom_shuffled _ _).count]
  -- the entry that moves may stand right behind the last one
  have hi : i < s.count := not_le.1 hout
  have hle : (s.fill i).count ≤ s.count := Nat.sub_le s.count 1
  exact (((h.fill hi le_rfl).moveTowardsBottom s.count hle).moveTowardsTop i hi).mono hle

end AgreeTo

end PlacedHeap

/-! ## Two heaps -/

/-- Two heaps without common items, which tell their items the places through the same map. The items
of the first are those with `P`, the items of the second those with `Q`. -/
structure TwoHeaps (x y : Heap α) (pos : α → ℕ) (P Q : α → Prop) : Prop where
  left : (⟨x, pos⟩ : PlacedHeap α).Valid
  right : (⟨y, pos⟩ : PlacedHeap α).Valid
  left_iff : ∀ a, (∃ k, (⟨x, pos⟩ : PlacedHeap α).Holds k a) ↔ P a
  right_iff : ∀ a, (∃ k, (⟨y, pos⟩ : PlacedHeap α).Holds k a) ↔ Q a
  apart : ∀ a, P a → ¬ Q a

namespace TwoHeaps

variable {x y : Heap α} {pos : α → ℕ} {P Q : α → Prop}

theorem symm (h : TwoHeaps x y pos P Q) : TwoHeaps y x pos Q P :=
  ⟨h.right, h.left, h.right_iff, h.left_iff, fun a hq hp => h.apart a hp hq⟩

theorem congr {P' Q' : α → Prop} (h : TwoHeaps x y pos P Q) (hp : ∀ a, P' a ↔ P a)
    (hq : ∀ a, Q' a ↔ Q a) : TwoHeaps x y pos P' Q' :=
  ⟨h.left, h.right, fun a => (h.left_iff a).trans (hp a).symm, fun a => (h.right_iff a).trans (hq a).symm,
    fun a ha ha' => h.apart a ((hp a).1 ha) ((hq a).1 ha')⟩

variable [DecidableEq α]

theorem push (h : TwoHeaps x y pos P Q) {a : α} (hp : ¬ P a) (hq : ¬ Q a) (k : ℕ) :
    TwoHeaps (PlacedHeap.push ⟨x, pos⟩ k a).toHeap y (PlacedHeap.push ⟨x, pos⟩ k a).pos
      (fun b => P b ∨ b = a) Q := by
  have hnew : ∀ k', ¬ (⟨x, pos⟩ : PlacedHeap α).Holds k' a := fun k' hk' => hp ((h.left_iff a).1 ⟨k', hk'⟩)
  refine ⟨PlacedHeap.push_valid h.left hnew k, h.right.of_pos ?_, fun b => ?_, h.right_iff, ?_⟩
  · intro k' b hb
    have hqb := (h.right_iff b).1 ⟨k', hb⟩
    refine PlacedHeap.push_others _ k ?_ fun k'' hk'' => h.apart b ((h.left_iff b).1 ⟨k'', hk''⟩) hqb
    rintro rfl
    exact hq hqb
  · constructor
    · rintro ⟨k', hk'⟩
      rcases (PlacedHeap.push_holds _ k a k' b).1 hk' with hold | ⟨-, rfl⟩
      · exact .inl ((h.left_iff b).1 ⟨k', hold⟩)
      · exact .inr rfl
    · rintro (hb | rfl)
      · obtain ⟨k', hk'⟩ := (h.left_iff b).2 hb
        exact ⟨k', (PlacedHeap.push_holds _ k a k' b).2 (.inl hk')⟩
      · exact ⟨k, (PlacedHeap.push_holds _ k b k b).2 (.inr ⟨rfl, rfl⟩)⟩
  · rintro b (hb | rfl)
    · exact h.apart b hb
    · exact hq

theorem removeAt (h : TwoHeaps x y pos P Q) {i : ℕ} (hi : i < x.count) :
    TwoHeaps (PlacedHeap.removeAt ⟨x, pos⟩ i).toHeap y (PlacedHeap.removeAt ⟨x, pos⟩ i).pos
      (fun b => P b ∧ b ≠ (x.elems i).2) Q := by
  refine ⟨PlacedHeap.removeAt_valid h.left hi, h.right.of_pos ?_, fun b => ?_, h.right_iff, ?_⟩
  · intro k' b hb
    have hqb := (h.right_iff b).1 ⟨k', hb⟩
    exact PlacedHeap.removeAt_others h.left hi fun k hk => h.apart b ((h.left_iff b).1 ⟨k, hk⟩) hqb
  · constructor
    · rintro ⟨k, hk⟩
      obtain ⟨hold, hne⟩ := (PlacedHeap.removeAt_holds h.left hi k b).1 hk
      exact ⟨(h.left_iff b).1 ⟨k, hold⟩, hne⟩
    · rintro ⟨hb, hne⟩
      obtain ⟨k, hk⟩ := (h.left_iff b).2 hb
      exact ⟨k, (PlacedHeap.removeAt_holds h.left hi k b).2 ⟨hk, hne⟩⟩
  · rintro b ⟨hb, -⟩
    exact h.apart b hb

theorem remove (h : TwoHeaps x y pos P Q) {a : α} (hp : P a) :
    TwoHeaps (PlacedHeap.removeAt ⟨x, pos⟩ (pos a)).toHeap y (PlacedHeap.removeAt ⟨x, pos⟩ (pos a)).pos
      (fun b => P b ∧ b ≠ a) Q := by
  obtain ⟨k, i, hi, heq⟩ := (h.left_iff a).2 hp
  have hitem : (x.elems i).2 = a := congrArg Prod.snd heq
  have hpos : pos a = i := by
    rw [← hitem]
    exact h.left.placed i hi
  rw [hpos]
  have hremove := h.removeAt hi
  rwa [hitem] at hremove

end TwoHeaps

end Rquic

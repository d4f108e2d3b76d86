import Mathlib.Algebra.Order.Ring.Nat
import Mathlib.Data.List.Nodup
import Mathlib.Logic.Function.Basic

set_option autoImplicit false

/-!
# Chains of nodes in memory, and tables of them

Nodes lie at addresses and point to each other. A table keeps a chain for each of its buckets. A program
over the table reads, links and frees nodes, and stops where it touches memory that is not allocated.

* `Links`, `Allocator`: the memory of the nodes, and what gives out addresses.
* `Chain`: the nodes that hang from a pointer; `Chain.det`, `Chain.nodup`: there is one such list, and it does
  not run in a circle.
* `Buckets`: the table; `findFrom`, `removeFrom`, `freeFrom`: the loops over a chain.
* `Stacks`: the table holds a stack of elements for each key.
* **`Stacks.find`**, **`Stacks.push`**, **`Stacks.remove`**, **`Stacks.release`**: the programs end without a
  fault, and do to the stacks what they should.
-/

namespace Rquic

/-! ## Memory -/

/-- Why a program over memory stops: it touches what is not allocated, or a loop takes more rounds than it may. -/
inductive Halt where
  | fault | fuel
  deriving DecidableEq, Repr

/-- A node: its content and the pointer behind it. A pointer is an address, or NULL. -/
structure Node (α : Type) where
  next : Option ℕ
  element : α

/-- What lies at an address, if it is allocated. -/
abbrev Links (α : Type) := ℕ → Option (Node α)

/-- What gives out addresses: one that is not in use, or none. -/
structure Allocator (α : Type) where
  malloc : Links α → Option ℕ
  fresh : ∀ {m a}, malloc m = some a → m a = none

/-- A memory with so many addresses, of which the first free one is given out. -/
def Allocator.cells {α : Type} (size : ℕ) : Allocator α where
  malloc m := (List.range size).find? fun a => (m a).isNone
  fresh := by
    intro m a h
    have hfree : (m a).isNone = true := by simpa using List.find?_some h
    exact Option.isNone_iff_eq_none.1 hfree

namespace Links

variable {α : Type}

def read (m : Links α) (a : ℕ) : Except Halt (Node α) :=
  match m a with
  | some node => .ok node
  | none => .error .fault

def setNext (m : Links α) (a : ℕ) (p : Option ℕ) : Except Halt (Links α) :=
  match m a with
  | some node => .ok (Function.update m a (some { node with next := p }))
  | none => .error .fault

def free (m : Links α) (a : ℕ) : Except Halt (Links α) :=
  match m a with
  | some _ => .ok (Function.update m a none)
  | none => .error .fault

variable {m : Links α} {a : ℕ} {node : Node α}

theorem read_of_some (h : m a = some node) : m.read a = .ok node := by
  unfold read
  rw [h]

theorem setNext_of_some (h : m a = some node) (p : Option ℕ) :
    m.setNext a p = .ok (Function.update m a (some { node with next := p })) := by
  unfold setNext
  rw [h]

theorem free_of_some (h : m a = some node) : m.free a = .ok (Function.update m a none) := by
  unfold free
  rw [h]

end Links

/-! ## Chains -/

/-- The nodes that hang from a pointer, each with its address. -/
inductive Chain {α : Type} (m : Links α) : Option ℕ → List (ℕ × α) → Prop
  | nil : Chain m none []
  | cons {a : ℕ} {x : α} {next : Option ℕ} {xs : List (ℕ × α)} (hat : m a = some ⟨next, x⟩)
      (hrest : Chain m next xs) : Chain m (some a) ((a, x) :: xs)

namespace Chain

variable {α : Type} {m m' : Links α} {p : Option ℕ} {a : ℕ} {x : α} {xs ys : List (ℕ × α)}

theorem det (hxs : Chain m p xs) (hys : Chain m p ys) : xs = ys := by
  induction hxs generalizing ys with
  | nil =>
      cases hys
      rfl
  | cons hat hrest ih =>
      cases hys with
      | cons hat' hrest' =>
          have hnode := Option.some.inj (hat.symm.trans hat')
          obtain ⟨rfl, rfl⟩ := Node.mk.inj hnode
          rw [ih hrest']

theorem drop (h : Chain m p (xs ++ (a, x) :: ys)) : Chain m (some a) ((a, x) :: ys) := by
  induction xs generalizing p with
  | nil =>
      cases h with
      | cons hat hrest => exact .cons hat hrest
  | cons y xs ih =>
      cases h with
      | cons hat hrest => exact ih hrest

theorem not_mem (h : Chain m (some a) ((a, x) :: xs)) (y : α) : (a, y) ∉ xs := by
  intro hmem
  obtain ⟨pre, suf, rfl⟩ := List.append_of_mem hmem
  have hagain : Chain m (some a) ((a, y) :: suf) := by
    cases h with
    | cons hat hrest => exact drop hrest
  have hlength := congrArg List.length (det h hagain)
  simp only [List.length_cons, List.length_append] at hlength
  omega

theorem nodup (h : Chain m p xs) : (xs.map Prod.fst).Nodup := by
  induction h with
  | nil => exact List.nodup_nil
  | cons hat hrest ih =>
      rw [List.map_cons]
      refine List.nodup_cons.2 ⟨fun hmem => ?_, ih⟩
      obtain ⟨⟨b, y⟩, hby, hb⟩ := List.mem_map.1 hmem
      subst hb
      exact not_mem (.cons hat hrest) y hby

theorem at_mem (h : Chain m p xs) (hmem : (a, x) ∈ xs) : ∃ next, m a = some ⟨next, x⟩ := by
  obtain ⟨pre, suf, rfl⟩ := List.append_of_mem hmem
  cases drop h with
  | cons hat hrest => exact ⟨_, hat⟩

theorem tail {next : Option ℕ} (h : Chain m p ((a, x) :: xs)) (hat : m a = some ⟨next, x⟩) :
    Chain m next xs := by
  cases h with
  | cons hat' hrest =>
      obtain ⟨rfl, -⟩ := Node.mk.inj (Option.some.inj (hat.symm.trans hat'))
      exact hrest

theorem next_ne {node : Node α} (h : Chain m (some a) xs) (hat : m a = some node) :
    node.next ≠ some a := by
  intro hself
  cases h with
  | cons hat' hrest =>
      obtain rfl := Option.some.inj (hat.symm.trans hat')
      dsimp only at hself
      subst hself
      cases hrest with
      | cons hat'' hrest' => exact not_mem (.cons hat' (.cons hat'' hrest')) _ List.mem_cons_self

theorem frame (h : Chain m p xs) (hsame : ∀ b y, (b, y) ∈ xs → m' b = m b) : Chain m' p xs := by
  induction h with
  | nil => exact .nil
  | cons hat hrest ih =>
      refine .cons ((hsame _ _ List.mem_cons_self).trans hat) (ih fun b y hmem => ?_)
      exact hsame b y (List.mem_cons_of_mem _ hmem)

theorem update_of_not_mem (h : Chain m p xs) (hnot : ∀ y, (a, y) ∉ xs) (cell : Option (Node α)) :
    Chain (Function.update m a cell) p xs := by
  refine h.frame fun b y hmem => Function.update_of_ne ?_ _ _
  rintro rfl
  exact hnot y hmem

theorem push (h : Chain m p xs) (hnot : ∀ y, (a, y) ∉ xs) (x : α) :
    Chain (Function.update m a (some ⟨p, x⟩)) (some a) ((a, x) :: xs) :=
  .cons (Function.update_self _ _ _) (h.update_of_not_mem hnot _)

/-- The node before a node is linked to the one behind it. -/
theorem skip {b : ℕ} {y : α} {next : Option ℕ} (h : Chain m p (xs ++ (b, y) :: (a, x) :: ys))
    (hat : m a = some ⟨next, x⟩) :
    Chain (Function.update m b (some ⟨next, y⟩)) p (xs ++ (b, y) :: ys) := by
  induction xs generalizing p with
  | nil =>
      cases h with
      | cons hb hrest =>
          cases hrest with
          | cons ha hrest' =>
              have hnext := Option.some.inj (hat.symm.trans ha)
              obtain ⟨rfl, -⟩ := Node.mk.inj hnext
              refine .cons (Function.update_self _ _ _) (hrest'.update_of_not_mem (fun z hz => ?_) _)
              exact not_mem (.cons hb (.cons ha hrest')) z (List.mem_cons_of_mem _ hz)
  | cons c xs ih =>
      cases h with
      | cons hc hrest =>
          refine .cons ?_ (ih hrest)
          rw [Function.update_of_ne ?_, hc]
          rintro rfl
          exact not_mem (.cons hc hrest) y (List.mem_append_right _ List.mem_cons_self)

end Chain

/-! ## Tables of chains -/

/-- A table: a pointer for each bucket, and the memory of the nodes. -/
structure Buckets (α : Type) where
  links : Links α := fun _ => none
  list : ℕ → Option ℕ := fun _ => none

/-- Where a pointer to a node lies: in the table, or in the node before. -/
inductive Slot where
  | bucket (i : ℕ)
  | next (a : ℕ)

/-- How a removal ends. -/
inductive Removal where
  | done | absent | circle
  deriving DecidableEq, Repr

namespace Buckets

section Programs

variable {α : Type} (hit : α → Bool) (guarded : Bool)

/-- The loop that looks for a node. A guarded loop ends at a node that points to itself. -/
def findFrom (m : Links α) : ℕ → Option ℕ → Except Halt (Option α)
  | _, none => .ok none
  | 0, some _ => .error .fuel
  | fuel + 1, some a => do
    let node ← m.read a
    if hit node.element then return some node.element
    else if guarded && node.next = some a then return none
    else findFrom m fuel node.next

/-- A node is put in front of a bucket. -/
def push (t : Buckets α) (i a : ℕ) (x : α) : Buckets α where
  links := Function.update t.links a (some ⟨t.list i, x⟩)
  list := Function.update t.list i (some a)

/-- The pointer in a slot is set. -/
def store (t : Buckets α) (slot : Slot) (p : Option ℕ) : Except Halt (Buckets α) :=
  match slot with
  | .bucket i => .ok { t with list := Function.update t.list i p }
  | .next a => do return { t with links := ← t.links.setNext a p }

/-- The loop that looks for a node with the slot of the pointer to it, unlinks it and frees it. -/
def removeFrom (t : Buckets α) : ℕ → Slot → Option ℕ → Except Halt (Removal × Buckets α)
  | _, _, none => .ok (.absent, t)
  | 0, _, some _ => .error .fuel
  | fuel + 1, slot, some a => do
    let node ← t.links.read a
    if hit node.element then
      let t' ← t.store slot node.next
      return (.done, { t' with links := ← t'.links.free a })
    else if guarded && node.next = some a then return (.circle, t)
    else removeFrom t fuel (.next a) node.next

/-- The loop that frees a chain. -/
def freeFrom : ℕ → Option ℕ → Links α → Except Halt (Links α)
  | _, none, m => .ok m
  | 0, some _, _ => .error .fuel
  | fuel + 1, some a, m => do
    let node ← m.read a
    if guarded && node.next = some a then return m
    else freeFrom fuel node.next (← m.free a)

/-- The loop that frees the chains of the buckets from `i` on. -/
def freeBuckets (fuel : ℕ) (list : ℕ → Option ℕ) : ℕ → ℕ → Links α → Except Halt (Links α)
  | 0, _, m => .ok m
  | n + 1, i, m => do freeBuckets fuel list n (i + 1) (← freeFrom guarded fuel (list i) m)

end Programs

section Loops

variable {α : Type} {hit : α → Bool} {guarded : Bool} {m : Links α} {t t' : Buckets α} {p : Option ℕ}
  {i a fuel : ℕ} {x : α} {xs pre : List (ℕ × α)} {slot : Slot}

/-- A node of a chain does not stop a guarded loop. -/
theorem guard_false (guarded : Bool) {next : Option ℕ} (h : Chain m (some a) xs) (hat : m a = some ⟨next, x⟩) :
    (guarded && decide (next = some a)) = false := by
  have hne : next ≠ some a := h.next_ne hat
  rw [decide_eq_false hne, Bool.and_false]

/-- **The loop finds the first node** that is looked for. -/
theorem findFrom_chain (h : Chain m p xs) (hfuel : xs.length ≤ fuel) :
    findFrom hit guarded m fuel p = .ok ((xs.map Prod.snd).find? hit) := by
  induction h generalizing fuel with
  | nil =>
      cases fuel <;> rfl
  | @cons a x next xs hat hrest ih =>
      obtain ⟨fuel, rfl⟩ := Nat.exists_eq_add_of_le' (Nat.one_le_iff_ne_zero.2 (by
        rw [List.length_cons] at hfuel
        omega) : 1 ≤ fuel)
      have hguard := guard_false guarded (.cons hat hrest) hat
      rw [findFrom, Links.read_of_some hat, List.map_cons, List.find?_cons]
      change (if hit x then _ else _) = _
      cases hhit : hit x with
      | true => rfl
      | false =>
          rw [if_neg Bool.false_ne_true]
          change (if (guarded && decide (next = some a)) = true then _ else _) = _
          rw [hguard, if_neg Bool.false_ne_true]
          exact ih (Nat.le_of_succ_le_succ hfuel)

/-- The slot of the pointer behind the nodes `pre` of bucket `i`. -/
inductive SlotAt (i : ℕ) : List (ℕ × α) → Slot → Prop
  | head : SlotAt i [] (.bucket i)
  | behind (pre : List (ℕ × α)) (b : ℕ) (y : α) : SlotAt i (pre ++ [(b, y)]) (.next b)

/-- The node at `a` is gone from bucket `i`, which is left with the nodes `xs`. -/
structure Unlinked (t t' : Buckets α) (i a : ℕ) (xs : List (ℕ × α)) : Prop where
  chain : Chain t'.links (t'.list i) xs
  list : ∀ j ≠ i, t'.list j = t.list j
  freed : t'.links a = none
  links : ∀ c, c ≠ a → (∀ y, (c, y) ∉ xs) → t'.links c = t.links c
  mem : ∀ c ≠ a, t'.links c = none ↔ t.links c = none

theorem store_free {next : Option ℕ} {ys : List (ℕ × α)} (hslot : SlotAt i pre slot)
    (hrow : Chain t.links (t.list i) (pre ++ (a, x) :: ys)) (hat : t.links a = some ⟨next, x⟩) :
    ∃ t₁ m, t.store slot next = .ok t₁ ∧ t₁.links.free a = .ok m ∧
      Unlinked t { t₁ with links := m } i a (pre ++ ys) := by
  cases hslot with
  | head =>
      refine ⟨_, _, rfl, Links.free_of_some hat, ?_, fun j hj => ?_, Function.update_self _ _ _,
        fun c hc _ => Function.update_of_ne hc _ _, fun c hc => ?_⟩
      · dsimp only
        rw [Function.update_self]
        exact (hrow.tail hat).update_of_not_mem (hrow.drop.not_mem) none
      · exact Function.update_of_ne hj _ _
      · dsimp only
        rw [Function.update_of_ne hc]
  | behind pre b y =>
      rw [List.append_assoc] at hrow
      have hb : ∃ nextb, t.links b = some ⟨nextb, y⟩ :=
        hrow.at_mem (List.mem_append_right _ List.mem_cons_self)
      obtain ⟨nextb, hb⟩ := hb
      have hnodup := hrow.nodup
      have hskip := Chain.skip hrow hat
      have hne : a ≠ b := by
        rintro rfl
        simp only [List.singleton_append, List.map_append, List.map_cons] at hnodup
        exact (List.nodup_cons.1 hnodup.of_append_right).1 List.mem_cons_self
      have hnot : ∀ z, (a, z) ∉ pre ++ (b, y) :: ys := by
        intro z hz
        simp only [List.singleton_append, List.map_append, List.map_cons] at hnodup
        have hperm : (a :: (pre.map Prod.fst ++ b :: ys.map Prod.fst)).Nodup := by
          refine (List.Perm.nodup_iff ?_).1 hnodup
          exact (List.Perm.append_left _ (List.Perm.swap _ _ _)).trans List.perm_middle
        refine (List.nodup_cons.1 hperm).1 ?_
        have hfst := List.mem_map_of_mem (f := Prod.fst) hz
        rwa [List.map_append, List.map_cons] at hfst
      have hstore : t.store (.next b) next =
          .ok { t with links := Function.update t.links b (some ⟨next, y⟩) } := by
        change (t.links.setNext b next >>= fun links => _) = _
        rw [Links.setNext_of_some hb]
        rfl
      have hfree : (Function.update t.links b (some ⟨next, y⟩) : Links α) a = some ⟨next, x⟩ := by
        rw [Function.update_of_ne hne]
        exact hat
      refine ⟨_, _, hstore, Links.free_of_some hfree, ?_, fun j _ => rfl, Function.update_self _ _ _,
        fun c hc hmem => ?_, fun c hc => ?_⟩
      · rw [List.append_assoc]
        exact hskip.update_of_not_mem hnot none
      · have hcb : c ≠ b := by
          rintro rfl
          exact hmem y (by simp)
        dsimp only
        rw [Function.update_of_ne hc, Function.update_of_ne hcb]
      · dsimp only
        rw [Function.update_of_ne hc]
        by_cases hcb : c = b
        · subst hcb
          rw [Function.update_self, hb]
          exact ⟨nofun, nofun⟩
        · rw [Function.update_of_ne hcb]

theorem removeFrom_hit {next : Option ℕ} {t₁ : Buckets α} (hat : t.links a = some ⟨next, x⟩)
    (hhit : hit x = true) (hstore : t.store slot next = .ok t₁) (hfree : t₁.links.free a = .ok m) :
    removeFrom hit guarded t (fuel + 1) slot (some a) = .ok (.done, { t₁ with links := m }) := by
  rw [removeFrom, Links.read_of_some hat]
  change (if hit x then _ else _) = _
  rw [if_pos hhit]
  change (t.store slot next >>= fun t' => _) = _
  rw [hstore]
  change (t₁.links.free a >>= fun links => _) = _
  rw [hfree]
  rfl

theorem removeFrom_next {next : Option ℕ} (hat : t.links a = some ⟨next, x⟩) (hhit : hit x = false)
    (hguard : (guarded && decide (next = some a)) = false) :
    removeFrom hit guarded t (fuel + 1) slot (some a) = removeFrom hit guarded t fuel (.next a) next := by
  rw [removeFrom, Links.read_of_some hat]
  change (if hit x then _ else _) = _
  rw [hhit, if_neg Bool.false_ne_true]
  change (if (guarded && decide (next = some a)) = true then _ else _) = _
  rw [hguard, if_neg Bool.false_ne_true]

/-- **The loop removes the first node** that is looked for. -/
theorem removeFrom_chain (hit : α → Bool) (guarded : Bool) {rest : List (ℕ × α)} (hslot : SlotAt i pre slot)
    (hrow : Chain t.links (t.list i) (pre ++ rest)) (hp : Chain t.links p rest)
    (hfuel : rest.length ≤ fuel) :
    ((∀ e ∈ rest, hit e.2 = false) ∧ removeFrom hit guarded t fuel slot p = .ok (.absent, t)) ∨
      ∃ a x front back t', rest = front ++ (a, x) :: back ∧ (∀ e ∈ front, hit e.2 = false) ∧
        hit x = true ∧ removeFrom hit guarded t fuel slot p = .ok (.done, t') ∧
        Unlinked t t' i a (pre ++ (front ++ back)) := by
  induction rest generalizing p pre slot fuel with
  | nil =>
      cases hp
      refine .inl ⟨nofun, ?_⟩
      cases fuel <;> rfl
  | cons e rest ih =>
      obtain ⟨a, x⟩ := e
      obtain ⟨fuel, rfl⟩ := Nat.exists_eq_add_of_le' (Nat.one_le_iff_ne_zero.2 (by
        rw [List.length_cons] at hfuel
        omega) : 1 ≤ fuel)
      cases hp with
      | @cons _ _ next _ hat hrest =>
          have hguard := guard_false guarded (.cons hat hrest) hat
          cases hhit : hit x with
          | true =>
              obtain ⟨t₁, m, hstore, hfree, hunlinked⟩ := store_free hslot hrow hat
              exact .inr ⟨a, x, [], rest, _, rfl, nofun, hhit, removeFrom_hit hat hhit hstore hfree,
                hunlinked⟩
          | false =>
              have hrow' : Chain t.links (t.list i) (pre ++ [(a, x)] ++ rest) := by
                rw [List.append_assoc]
                exact hrow
              have hloop := ih (.behind pre a x) hrow' hrest (Nat.le_of_succ_le_succ hfuel)
              rw [removeFrom_next hat hhit hguard]
              rcases hloop with ⟨hnone, heq⟩ | ⟨b, y, front, back, t', rfl, hfront, hy, heq, hunlinked⟩
              · refine .inl ⟨fun e he => ?_, heq⟩
                rcases List.mem_cons.1 he with rfl | he
                · exact hhit
                · exact hnone e he
              · refine .inr ⟨b, y, (a, x) :: front, back, t', rfl, fun e he => ?_, hy, heq, ?_⟩
                · rcases List.mem_cons.1 he with rfl | he
                  · exact hhit
                  · exact hfront e he
                · rw [List.append_assoc] at hunlinked
                  exact hunlinked

/-- **The loop frees the whole chain** and nothing else. -/
theorem freeFrom_chain (guarded : Bool) (h : Chain m p xs) (hfuel : xs.length ≤ fuel) :
    ∃ m', freeFrom guarded fuel p m = .ok m' ∧ (∀ a, (∀ y, (a, y) ∉ xs) → m' a = m a) ∧
      ∀ a y, (a, y) ∈ xs → m' a = none := by
  induction xs generalizing p m fuel with
  | nil =>
      cases h
      refine ⟨m, ?_, fun _ _ => rfl, nofun⟩
      cases fuel <;> rfl
  | cons e xs ih =>
      obtain ⟨fuel, rfl⟩ := Nat.exists_eq_add_of_le' (Nat.one_le_iff_ne_zero.2 (by
        rw [List.length_cons] at hfuel
        omega) : 1 ≤ fuel)
      cases h with
      | @cons a x next _ hat hrest =>
          have hnot := Chain.not_mem (.cons hat hrest)
          have hguard := guard_false guarded (.cons hat hrest) hat
          obtain ⟨m', heq, hkept, hfreed⟩ :=
            ih (hrest.update_of_not_mem hnot none) (Nat.le_of_succ_le_succ hfuel)
          refine ⟨m', ?_, fun b hb => ?_, fun b y hby => ?_⟩
          · rw [freeFrom, Links.read_of_some hat]
            change (if (guarded && decide (next = some a)) = true then _ else _) = _
            rw [hguard, if_neg Bool.false_ne_true]
            change (m.free a >>= fun m₁ => freeFrom guarded fuel next m₁) = _
            rw [Links.free_of_some hat]
            exact heq
          · have hba : b ≠ a := by
              rintro rfl
              exact hb x List.mem_cons_self
            rw [hkept b fun y hy => hb y (List.mem_cons_of_mem _ hy), Function.update_of_ne hba]
          · rcases List.mem_cons.1 hby with heq' | hby
            · obtain ⟨rfl, rfl⟩ := Prod.mk.inj heq'
              rw [hkept b fun z hz => hnot z hz, Function.update_self]
            · exact hfreed b y hby

/-- The nodes of each bucket, none of them in two buckets, and no other memory. -/
structure Holds (t : Buckets α) (rows : ℕ → List (ℕ × α)) : Prop where
  chain : ∀ i, Chain t.links (t.list i) (rows i)
  apart : ∀ {i j a x y}, (a, x) ∈ rows i → (a, y) ∈ rows j → i = j
  owned : ∀ {a}, t.links a ≠ none → ∃ i x, (a, x) ∈ rows i

variable {rows : ℕ → List (ℕ × α)}

theorem holds_empty : Holds ({} : Buckets α) fun _ => [] :=
  ⟨fun _ => .nil, nofun, fun h => absurd rfl h⟩

theorem Holds.not_mem (h : t.Holds rows) (ha : t.links a = none) (j : ℕ) (y : α) : (a, y) ∉ rows j := by
  intro hmem
  obtain ⟨next, hat⟩ := (h.chain j).at_mem hmem
  rw [ha] at hat
  cases hat

theorem Holds.push (h : t.Holds rows) (ha : t.links a = none) (i : ℕ) (x : α) :
    (t.push i a x).Holds (Function.update rows i ((a, x) :: rows i)) := by
  have hnot := h.not_mem ha
  have hmem : ∀ {j b y}, (b, y) ∈ Function.update rows i ((a, x) :: rows i) j →
      (j = i ∧ b = a) ∨ (b, y) ∈ rows j := by
    intro j b y hby
    by_cases hj : j = i
    · subst hj
      rw [Function.update_self] at hby
      rcases List.mem_cons.1 hby with heq | hby
      · exact .inl ⟨rfl, congrArg Prod.fst heq⟩
      · exact .inr hby
    · rw [Function.update_of_ne hj] at hby
      exact .inr hby
  refine ⟨fun j => ?_, fun hx hy => ?_, fun {b} hb => ?_⟩
  · by_cases hj : j = i
    · subst hj
      unfold Buckets.push
      dsimp only
      rw [Function.update_self, Function.update_self]
      exact (h.chain j).push (hnot j) x
    · unfold Buckets.push
      dsimp only
      rw [Function.update_of_ne hj, Function.update_of_ne hj]
      exact (h.chain j).update_of_not_mem (hnot j) _
  · rcases hmem hx with ⟨hi, hb⟩ | hx'
    · rcases hmem hy with ⟨hj, -⟩ | hy'
      · exact hi.trans hj.symm
      · rw [hb] at hy'
        exact absurd hy' (hnot _ _)
    · rcases hmem hy with ⟨-, hb⟩ | hy'
      · rw [hb] at hx'
        exact absurd hx' (hnot _ _)
      · exact h.apart hx' hy'
  · by_cases hba : b = a
    · subst hba
      exact ⟨i, x, by rw [Function.update_self]; exact List.mem_cons_self⟩
    · unfold Buckets.push at hb
      dsimp only at hb
      rw [Function.update_of_ne hba] at hb
      obtain ⟨j, y, hby⟩ := h.owned hb
      refine ⟨j, y, ?_⟩
      by_cases hj : j = i
      · subst hj
        rw [Function.update_self]
        exact List.mem_cons_of_mem _ hby
      · rw [Function.update_of_ne hj]
        exact hby

theorem Holds.unlinked {front back : List (ℕ × α)} (h : t.Holds rows)
    (hrow : rows i = front ++ (a, x) :: back) (hunlinked : Unlinked t t' i a (front ++ back)) :
    t'.Holds (Function.update rows i (front ++ back)) := by
  have hsub : ∀ {j b y}, (b, y) ∈ Function.update rows i (front ++ back) j → (b, y) ∈ rows j := by
    intro j b y hby
    by_cases hj : j = i
    · subst hj
      rw [Function.update_self] at hby
      rw [hrow]
      rcases List.mem_append.1 hby with hby | hby
      · exact List.mem_append_left _ hby
      · exact List.mem_append_right _ (List.mem_cons_of_mem _ hby)
    · rw [Function.update_of_ne hj] at hby
      exact hby
  refine ⟨fun j => ?_, fun hx hy => h.apart (hsub hx) (hsub hy), fun {b} hb => ?_⟩
  · by_cases hj : j = i
    · subst hj
      rw [Function.update_self]
      exact hunlinked.chain
    · rw [Function.update_of_ne hj, hunlinked.list j hj]
      refine (h.chain j).frame fun b y hby => hunlinked.links b ?_ fun z hz => hj ?_
      · rintro rfl
        have hmem : (b, x) ∈ rows i := by
          rw [hrow]
          exact List.mem_append_right _ List.mem_cons_self
        exact hj (h.apart hby hmem)
      · have hmem : (b, z) ∈ Function.update rows i (front ++ back) i := by
          rw [Function.update_self]
          exact hz
        exact h.apart hby (hsub hmem)
  · have hba : b ≠ a := by
      rintro rfl
      exact hb hunlinked.freed
    have hold : t.links b ≠ none := fun hnone => hb ((hunlinked.mem b hba).2 hnone)
    obtain ⟨j, y, hby⟩ := h.owned hold
    refine ⟨j, y, ?_⟩
    by_cases hj : j = i
    · subst hj
      rw [Function.update_self]
      rw [hrow] at hby
      rcases List.mem_append.1 hby with hby | hby
      · exact List.mem_append_left _ hby
      · rcases List.mem_cons.1 hby with heq | hby
        · exact absurd (congrArg Prod.fst heq) hba
        · exact List.mem_append_right _ hby
    · rw [Function.update_of_ne hj]
      exact hby

/-- The buckets from `i` on are freed, and the others stay. -/
theorem freeBuckets_chain (guarded : Bool) {list : ℕ → Option ℕ} (hchain : ∀ j, i ≤ j → Chain m (list j) (rows j))
    (hapart : ∀ {j k a x y}, (a, x) ∈ rows j → (a, y) ∈ rows k → j = k)
    (hfuel : ∀ j, (rows j).length ≤ fuel) (n : ℕ) :
    ∃ m', freeBuckets guarded fuel list n i m = .ok m' ∧
      (∀ a, (∀ j y, i ≤ j → j < i + n → (a, y) ∉ rows j) → m' a = m a) ∧
      ∀ a j y, i ≤ j → j < i + n → (a, y) ∈ rows j → m' a = none := by
  induction n generalizing i m with
  | zero => exact ⟨m, rfl, fun _ _ => rfl, fun a j y hij hji => absurd hji (by omega)⟩
  | succ n ih =>
      obtain ⟨m₁, heq₁, hkept₁, hfreed₁⟩ := freeFrom_chain guarded (hchain i le_rfl) (hfuel i)
      have hother : ∀ {j a y}, i + 1 ≤ j → (a, y) ∈ rows j → ∀ z, (a, z) ∉ rows i := by
        intro j a y hij hay z hz
        have heq := hapart hay hz
        omega
      have hchain₁ : ∀ j, i + 1 ≤ j → Chain m₁ (list j) (rows j) := by
        intro j hij
        exact (hchain j (by omega)).frame fun b y hby => hkept₁ b (hother hij hby)
      obtain ⟨m', heq, hkept, hfreed⟩ := ih hchain₁
      refine ⟨m', ?_, fun a ha => ?_, fun a j y hij hjn hay => ?_⟩
      · rw [freeBuckets]
        change (freeFrom guarded fuel (list i) m >>= fun m₂ => freeBuckets guarded fuel list n (i + 1) m₂) = _
        rw [heq₁]
        exact heq
      · rw [hkept a fun j y hij hjn => ha j y (by omega) (by omega)]
        exact hkept₁ a fun y => ha i y le_rfl (by omega)
      · rcases Nat.lt_or_ge i j with hlt | hge
        · exact hfreed a j y hlt (by omega) hay
        · obtain rfl : j = i := by omega
          rw [hkept a fun k z hjk _ haz => hother hjk haz y hay]
          exact hfreed₁ a y hay

end Loops

end Buckets

/-! ## Stacks by key -/

section Stacks

open Buckets

variable {α κ : Type} [DecidableEq κ]

/-- For each key the table holds a stack of elements, the newest first, and a bucket has no more than `n`. -/
structure Stacks (bucket : κ → ℕ) (key : α → κ) (n : ℕ) (t : Buckets α) (s : κ → List α) : Prop where
  rows : ∃ rows : ℕ → List (ℕ × α), t.Holds rows ∧ (∀ i, ∀ e ∈ rows i, bucket (key e.2) = i) ∧
    (∀ i, (rows i).length ≤ n) ∧ ∀ k, s k = ((rows (bucket k)).map Prod.snd).filter fun x => key x = k

variable {bucket : κ → ℕ} {key : α → κ} {n fuel : ℕ} {t : Buckets α} {s : κ → List α}

theorem stacks_empty : Stacks bucket key 0 ({} : Buckets α) fun _ => [] :=
  ⟨fun _ => [], holds_empty, fun _ _ h => absurd h List.not_mem_nil, fun _ => le_rfl, fun _ => rfl⟩

theorem Stacks.mono (h : Stacks bucket key n t s) {n' : ℕ} (hn : n ≤ n') : Stacks bucket key n' t s := by
  obtain ⟨rows, hholds, hbucket, hlength, hs⟩ := h.rows
  exact ⟨rows, hholds, hbucket, fun i => (hlength i).trans hn, hs⟩

/-- **A search finds the top of the stack.** -/
theorem Stacks.find (h : Stacks bucket key n t s) (hfuel : n ≤ fuel) (guarded : Bool) (k : κ) :
    findFrom (fun x => key x = k) guarded t.links fuel (t.list (bucket k)) = .ok (s k).head? := by
  obtain ⟨rows, hholds, -, hlength, hs⟩ := h.rows
  rw [findFrom_chain (hholds.chain _) ((hlength _).trans hfuel), hs, List.head?_filter]

/-- **An element is pushed** on the stack of its key. -/
theorem Stacks.push (h : Stacks bucket key n t s) {a : ℕ} (ha : t.links a = none) (x : α) :
    Stacks bucket key (n + 1) (t.push (bucket (key x)) a x)
      (Function.update s (key x) (x :: s (key x))) := by
  obtain ⟨rows, hholds, hbucket, hlength, hs⟩ := h.rows
  refine ⟨_, hholds.push ha (bucket (key x)) x, fun i e he => ?_, fun i => ?_, fun k => ?_⟩
  · by_cases hi : i = bucket (key x)
    · subst hi
      rw [Function.update_self] at he
      rcases List.mem_cons.1 he with rfl | he
      · rfl
      · exact hbucket _ e he
    · rw [Function.update_of_ne hi] at he
      exact hbucket i e he
  · by_cases hi : i = bucket (key x)
    · subst hi
      rw [Function.update_self, List.length_cons]
      exact Nat.succ_le_succ (hlength _)
    · rw [Function.update_of_ne hi]
      exact (hlength i).trans (Nat.le_succ n)
  · by_cases hk : k = key x
    · subst hk
      rw [Function.update_self, Function.update_self, List.map_cons, List.filter_cons_of_pos (by simp), hs]
    · rw [Function.update_of_ne hk, hs]
      by_cases hi : bucket k = bucket (key x)
      · rw [hi, Function.update_self, List.map_cons, List.filter_cons_of_neg (by simp [Ne.symm hk])]
      · rw [Function.update_of_ne hi]

/-- **A removal takes the top off the stack**, or finds the stack empty. -/
theorem Stacks.remove (h : Stacks bucket key n t s) (hfuel : n ≤ fuel) (guarded : Bool) (k : κ) :
    (s k = [] ∧ removeFrom (fun x => key x = k) guarded t fuel (.bucket (bucket k)) (t.list (bucket k)) =
        .ok (.absent, t)) ∨
      ∃ x rest t', s k = x :: rest ∧
        removeFrom (fun x => key x = k) guarded t fuel (.bucket (bucket k)) (t.list (bucket k)) =
          .ok (.done, t') ∧ Stacks bucket key n t' (Function.update s k rest) := by
  obtain ⟨rows, hholds, hbucket, hlength, hs⟩ := h.rows
  have hchain := hholds.chain (bucket k)
  have hloop := removeFrom_chain (t := t) (fun x => key x = k) guarded (SlotAt.head (i := bucket k)) hchain hchain ((hlength _).trans hfuel)
  rcases hloop with ⟨hnone, heq⟩ | ⟨a, x, front, back, t', hrow, hfront, hx, heq, hunlinked⟩
  · refine .inl ⟨?_, heq⟩
    rw [hs, List.filter_eq_nil_iff]
    intro x hx
    obtain ⟨e, he, rfl⟩ := List.mem_map.1 hx
    rw [hnone e he]
    exact Bool.false_ne_true
  · have hkey : key x = k := of_decide_eq_true hx
    have hfrontNil : (front.map Prod.snd).filter (fun x => key x = k) = [] := by
      rw [List.filter_eq_nil_iff]
      intro y hy
      obtain ⟨e, he, rfl⟩ := List.mem_map.1 hy
      rw [hfront e he]
      exact Bool.false_ne_true
    have hstack : s k = x :: (back.map Prod.snd).filter fun x => key x = k := by
      rw [hs, hrow, List.map_append, List.filter_append, hfrontNil, List.map_cons,
        List.filter_cons_of_pos (by simpa using hkey), List.nil_append]
    refine .inr ⟨x, _, t', hstack, heq, _, hholds.unlinked hrow hunlinked, fun i e he => ?_, fun i => ?_,
      fun j => ?_⟩
    · by_cases hi : i = bucket k
      · subst hi
        rw [Function.update_self] at he
        refine hbucket _ e ?_
        rw [hrow]
        rcases List.mem_append.1 he with he | he
        · exact List.mem_append_left _ he
        · exact List.mem_append_right _ (List.mem_cons_of_mem _ he)
      · rw [Function.update_of_ne hi] at he
        exact hbucket i e he
    · by_cases hi : i = bucket k
      · subst hi
        have hle := hlength (bucket k)
        rw [hrow] at hle
        rw [Function.update_self]
        simp only [List.length_append, List.length_cons] at hle ⊢
        omega
      · rw [Function.update_of_ne hi]
        exact hlength i
    · by_cases hj : j = k
      · subst hj
        rw [Function.update_self, Function.update_self, List.map_append, List.filter_append, hfrontNil,
          List.nil_append]
      · rw [Function.update_of_ne hj, hs]
        by_cases hi : bucket j = bucket k
        · have hne : key x ≠ j := fun hxj => hj (hxj.symm.trans hkey)
          rw [hi, hrow, Function.update_self, List.map_append, List.map_append, List.filter_append,
            List.filter_append, List.map_cons, List.filter_cons_of_neg (by simpa using hne)]
        · rw [Function.update_of_ne hi]

/-- **The table is freed**, and no node of it is left. -/
theorem Stacks.release (h : Stacks bucket key n t s) (hfuel : n ≤ fuel) (guarded : Bool) {count : ℕ}
    (hcount : ∀ k, bucket k < count) :
    ∃ m, freeBuckets guarded fuel t.list count 0 t.links = .ok m ∧ ∀ a, m a = none := by
  obtain ⟨rows, hholds, hbucket, hlength, -⟩ := h.rows
  obtain ⟨m, heq, hkept, hfreed⟩ := freeBuckets_chain (i := 0) guarded
    (fun j _ => hholds.chain j) hholds.apart (fun j => (hlength j).trans hfuel) count
  refine ⟨m, heq, fun a => ?_⟩
  by_cases hmem : ∃ j y, (a, y) ∈ rows j
  · obtain ⟨j, y, hay⟩ := hmem
    have hj : j < count := hbucket j _ hay ▸ hcount _
    exact hfreed a j y (Nat.zero_le j) (by omega) hay
  · rw [hkept a fun j y _ _ hay => hmem ⟨j, y, hay⟩]
    by_contra hne
    exact hmem (hholds.owned hne)

end Stacks

end Rquic

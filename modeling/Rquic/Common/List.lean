import Rquic.Lib.TwoWay

set_option autoImplicit false

/-!
# Lists

The doubly linked lists that all queues of the transport are made of. Nodes and heads lie at addresses of
the memory, and a function writes pointers.

* `ListHeads`: the memory, with the functions of `rqc_list.h` under their names.
* `Lists`, `Lists.step`: which nodes stand behind which head, and what an operation should do to that.
* `Laid`: the memory holds these lists; **`Laid.step`**: every operation does what it should.
* **`lists_run`**: after every run the loops over a list meet its nodes, forwards and backwards.
-/

namespace Rquic

/-! ## Memory -/

/-- The `rqc_list_head_t` at every address. -/
abbrev ListHeads := TwoWay ℕ

/-- `RQC_LIST_POISON1` and `RQC_LIST_POISON2`. -/
def listPoison1 : ℕ := 1

def listPoison2 : ℕ := 2

namespace ListHeads

def setNext (m : ListHeads) (a b : ℕ) : ListHeads := { m with next := Function.update m.next a b }

def setPrev (m : ListHeads) (a b : ℕ) : ListHeads := { m with prev := Function.update m.prev a b }

/-- `rqc_init_list_head`. -/
def initListHead (m : ListHeads) (list : ℕ) : ListHeads := (m.setPrev list list).setNext list list

/-- `__rqc_list_add`. -/
def addBetween (m : ListHeads) (node prev next : ℕ) : ListHeads :=
  (((m.setPrev next node).setNext node next).setPrev node prev).setNext prev node

/-- `rqc_list_add`. -/
def add (m : ListHeads) (node head : ℕ) : ListHeads := m.addBetween node head (m.next head)

/-- `rqc_list_add_tail`. -/
def addTail (m : ListHeads) (node head : ℕ) : ListHeads := m.addBetween node (m.prev head) head

/-- `__rqc_list_del`. -/
def delBetween (m : ListHeads) (prev next : ℕ) : ListHeads := (m.setPrev next prev).setNext prev next

/-- `__rqc_list_del_entry`. -/
def delEntry (m : ListHeads) (entry : ℕ) : ListHeads := m.delBetween (m.prev entry) (m.next entry)

/-- `rqc_list_del`. -/
def del (m : ListHeads) (entry : ℕ) : ListHeads :=
  ((m.delEntry entry).setNext entry listPoison1).setPrev entry listPoison2

/-- `rqc_list_del_init`. -/
def delInit (m : ListHeads) (entry : ℕ) : ListHeads := (m.delEntry entry).initListHead entry

/-- `rqc_list_replace`. -/
def replace (m : ListHeads) (old node : ℕ) : ListHeads :=
  let m := m.setNext node (m.next old)
  let m := setPrev m (m.next node) node
  let m := setPrev m node (m.prev old)
  setNext m (m.prev node) node

/-- `rqc_list_empty`. -/
def empty (m : ListHeads) (head : ℕ) : Bool := m.next head = head

/-- `__rqc_list_splice`. -/
def spliceBetween (m : ListHeads) (list prev next : ℕ) : ListHeads :=
  let first := m.next list
  let last := m.prev list
  (((m.setPrev first prev).setNext prev first).setNext last next).setPrev next last

/-- `rqc_list_splice`. -/
def splice (m : ListHeads) (list head : ℕ) : ListHeads :=
  if m.empty list then m else m.spliceBetween list head (m.next head)

/-- `rqc_list_splice_tail`. -/
def spliceTail (m : ListHeads) (list head : ℕ) : ListHeads :=
  if m.empty list then m else m.spliceBetween list (m.prev head) head

/-- `rqc_list_splice_init`. -/
def spliceInit (m : ListHeads) (list head : ℕ) : ListHeads :=
  if m.empty list then m else (m.spliceBetween list head (m.next head)).initListHead list

/-- `rqc_list_splice_tail_init`. -/
def spliceTailInit (m : ListHeads) (list head : ℕ) : ListHeads :=
  if m.empty list then m else (m.spliceBetween list (m.prev head) head).initListHead list

/-- `rqc_list_for_each`: the nodes that the loop meets, within so many rounds. -/
def forEach (m : ListHeads) (rounds head : ℕ) : Option (List ℕ) := walk m.next head rounds (m.next head)

/-- `rqc_list_for_each_reverse`. -/
def forEachReverse (m : ListHeads) (rounds head : ℕ) : Option (List ℕ) :=
  walk m.prev head rounds (m.prev head)

/-- `rqc_list_for_each_safe` with a body that takes out the nodes that are not to be kept. -/
def sweep (m : ListHeads) (keep : ℕ → Bool) (rounds head : ℕ) : Option ListHeads :=
  walkSafe id (fun m a => if keep a then m else m.delInit a) head rounds m (m.next head)
    (m.next (m.next head))

/-! ## Neighbours -/

theorem initListHead_eq (m : ListHeads) (list : ℕ) : m.initListHead list = m.join list list := rfl

theorem delBetween_eq (m : ListHeads) (prev next : ℕ) : m.delBetween prev next = m.join prev next := rfl

theorem addBetween_eq (m : ListHeads) {node prev next : ℕ} (hp : node ≠ prev) (hn : node ≠ next) :
    m.addBetween node prev next = (m.join prev node).join node next := by
  unfold addBetween TwoWay.join setNext setPrev
  dsimp only
  rw [Function.update_comm hp, Function.update_comm hn]

theorem spliceBetween_eq (m : ListHeads) (list prev next : ℕ) :
    m.spliceBetween list prev next = (m.join prev (m.next list)).join (m.prev list) next := rfl

theorem replace_eq (m : ListHeads) {old node : ℕ} (hold : old ≠ m.next old) :
    m.replace old node = (m.join node (m.next old)).join (m.prev old) node := by
  unfold replace TwoWay.join setNext setPrev
  simp [Function.update_of_ne hold]

end ListHeads

/-! ## What the lists hold -/

/-- The nodes behind each head. An address that is no head has no list. -/
abbrev Lists := ℕ → Option (List ℕ)

/-- The operations on lists. A sweep takes out the nodes that `keep` refuses. -/
inductive ListOp where
  | init (list : ℕ)
  | add (node head : ℕ)
  | addTail (node head : ℕ)
  | del (entry : ℕ)
  | delInit (entry : ℕ)
  | replace (old node : ℕ)
  | splice (list head : ℕ)
  | spliceTail (list head : ℕ)
  | spliceInit (list head : ℕ)
  | spliceTailInit (list head : ℕ)
  | sweep (keep : ℕ → Bool) (rounds head : ℕ)

namespace Lists

/-- The address is in no list. -/
def Free (A : Lists) (a : ℕ) : Prop := ∀ h xs, A h = some xs → a ∉ h :: xs

/-- The nodes of a list are appended to those of another one; `rest` is what becomes of the first list. -/
def merge (A : Lists) (list head : ℕ) (rest : Option (List ℕ)) (put : List ℕ → List ℕ → List ℕ) : Lists :=
  match A list, A head with
  | some (x :: xs), some ys => Function.update (Function.update A list rest) head (some (put (x :: xs) ys))
  | _, _ => A

/-- What the operations should do. -/
def step (A : Lists) : ListOp → Lists
  | .init list => Function.update A list (some [])
  | .add node head => Function.update A head ((A head).map fun xs => node :: xs)
  | .addTail node head => Function.update A head ((A head).map fun xs => xs ++ [node])
  | .del entry => fun h => (A h).map fun xs => xs.filter (· ≠ entry)
  | .delInit entry => fun h => (A h).map fun xs => xs.filter (· ≠ entry)
  | .replace old node => fun h => (A h).map fun xs => xs.map fun a => if a = old then node else a
  | .splice list head => A.merge list head none fun xs ys => xs ++ ys
  | .spliceTail list head => A.merge list head none fun xs ys => ys ++ xs
  | .spliceInit list head => A.merge list head (some []) fun xs ys => xs ++ ys
  | .spliceTailInit list head => A.merge list head (some []) fun xs ys => ys ++ xs
  | .sweep keep _ head => Function.update A head ((A head).map fun xs => xs.filter keep)

/-- What the callers see to: a node that is put into a list is in none, and one that is taken out is in a
list. -/
def Fits (A : Lists) : ListOp → Prop
  | .init list => A.Free list ∨ (A list).isSome
  | .add node head | .addTail node head => A.Free node ∧ (A head).isSome
  | .del entry | .delInit entry => ∃ h xs, A h = some xs ∧ entry ∈ xs
  | .replace old node => A.Free node ∧ ∃ h xs, A h = some xs ∧ old ∈ xs
  | .splice list head | .spliceTail list head | .spliceInit list head | .spliceTailInit list head =>
    list ≠ head ∧ (A list).isSome ∧ (A head).isSome
  | .sweep _ rounds head => ∃ xs, A head = some xs ∧ xs.length ≤ rounds

/-- A run, and that its callers see to it. -/
def run (A : Lists) (ops : List ListOp) : Lists := ops.foldl step A

def RunFits : Lists → List ListOp → Prop
  | _, [] => True
  | A, op :: ops => A.Fits op ∧ RunFits (A.step op) ops

end Lists

namespace ListHeads

def step (m : ListHeads) : ListOp → ListHeads
  | .init list => m.initListHead list
  | .add node head => m.add node head
  | .addTail node head => m.addTail node head
  | .del entry => m.del entry
  | .delInit entry => m.delInit entry
  | .replace old node => m.replace old node
  | .splice list head => m.splice list head
  | .spliceTail list head => m.spliceTail list head
  | .spliceInit list head => m.spliceInit list head
  | .spliceTailInit list head => m.spliceTailInit list head
  | .sweep keep rounds head => (m.sweep keep rounds head).getD m

def run (m : ListHeads) (ops : List ListOp) : ListHeads := ops.foldl step m

end ListHeads

/-- The memory holds the lists, and no address is in two of them. -/
structure Laid (m : ListHeads) (A : Lists) : Prop where
  circle : ∀ {h xs}, A h = some xs → Circle m h xs
  apart : ∀ {h xs h' xs' a}, A h = some xs → A h' = some xs' → a ∈ h :: xs → a ∈ h' :: xs' → h = h'

namespace Laid

variable {m m' : ListHeads} {A : Lists} {h a b : ℕ} {xs ys : List ℕ}

theorem start (m : ListHeads) : Laid m fun _ => none where
  circle := fun habs => by cases habs
  apart := fun habs => by cases habs

/-- The list of `h` becomes `ys`, and the pointers of the other lists stay as they are. -/
theorem update (hl : Laid m A) (hself : Circle m' h ys)
    (hnodes : ∀ a ∈ h :: ys, (∃ xs, A h = some xs ∧ a ∈ h :: xs) ∨ A.Free a)
    (hrest : ∀ a, (∃ h' xs', h' ≠ h ∧ A h' = some xs' ∧ a ∈ h' :: xs') →
      m'.next a = m.next a ∧ m'.prev a = m.prev a) :
    Laid m' (Function.update A h (some ys)) := by
  have hother : ∀ {h' xs'}, h' ≠ h → A h' = some xs' → ∀ a ∈ h :: ys, a ∉ h' :: xs' := by
    intro h' xs' hne hxs' a ha hmem
    rcases hnodes a ha with ⟨xs, hxs, hin⟩ | hfree
    · exact hne (hl.apart hxs' hxs hmem hin)
    · exact hfree h' xs' hxs' hmem
  constructor
  · intro h' xs' hxs'
    by_cases hne : h' = h
    · subst hne
      rw [Function.update_self] at hxs'
      rwa [← Option.some.inj hxs']
    · rw [Function.update_of_ne hne] at hxs'
      exact (hl.circle hxs').congr (fun a ha => (hrest a ⟨h', xs', hne, hxs', ha⟩).1)
        fun a ha => (hrest a ⟨h', xs', hne, hxs', ha⟩).2
  · intro h₁ xs₁ h₂ xs₂ a h₁xs h₂xs ha₁ ha₂
    by_cases hne₁ : h₁ = h
    · by_cases hne₂ : h₂ = h
      · rw [hne₁, hne₂]
      · rw [hne₁, Function.update_self] at h₁xs
        rw [Function.update_of_ne hne₂] at h₂xs
        rw [hne₁, ← Option.some.inj h₁xs] at ha₁
        exact (hother hne₂ h₂xs a ha₁ ha₂).elim
    · rw [Function.update_of_ne hne₁] at h₁xs
      by_cases hne₂ : h₂ = h
      · rw [hne₂, Function.update_self] at h₂xs
        rw [hne₂, ← Option.some.inj h₂xs] at ha₂
        exact (hother hne₁ h₁xs a ha₂ ha₁).elim
      · rw [Function.update_of_ne hne₂] at h₂xs
        exact hl.apart h₁xs h₂xs ha₁ ha₂

/-- An address that is in no other list than that of `h`. -/
def Off (A : Lists) (h a : ℕ) : Prop := ∀ h' xs', h' ≠ h → A h' = some xs' → a ∉ h' :: xs'

theorem off_of_mem (hl : Laid m A) (hxs : A h = some xs) (ha : a ∈ h :: xs) : Off A h a :=
  fun _ _ hne hxs' hmem => hne (hl.apart hxs' hxs hmem ha)

theorem off_of_free (hfree : A.Free a) : Off A h a := fun h' xs' _ hxs' => hfree h' xs' hxs'

/-- Joining nodes that are in no other list keeps the pointers of the other lists. -/
theorem join_rest (ha : Off A h a) (hb : Off A h b) (c : ℕ)
    (hc : ∃ h' xs', h' ≠ h ∧ A h' = some xs' ∧ c ∈ h' :: xs') :
    (m.join a b).next c = m.next c ∧ (m.join a b).prev c = m.prev c := by
  obtain ⟨h', xs', hne, hxs', hmem⟩ := hc
  refine ⟨m.join_next_of_ne b ?_, m.join_prev_of_ne a ?_⟩
  · exact fun heq => ha h' xs' hne hxs' (heq ▸ hmem)
  · exact fun heq => hb h' xs' hne hxs' (heq ▸ hmem)

/-- The pointers of nodes that are in no list do not matter. -/
theorem congr (hl : Laid m A)
    (hm : ∀ a, ¬ A.Free a → m'.next a = m.next a ∧ m'.prev a = m.prev a) : Laid m' A := by
  have hmem : ∀ {h xs a}, A h = some xs → a ∈ h :: xs → ¬ A.Free a := fun hxs ha hfree => hfree _ _ hxs ha
  exact ⟨fun hxs => (hl.circle hxs).congr (fun a ha => (hm a (hmem hxs ha)).1) fun a ha => (hm a (hmem hxs ha)).2,
    hl.apart⟩

/-- **Nodes of no list are put into a gap.** -/
theorem insert (hl : Laid m A) (hxs : A h = some (xs ++ ys)) {f : ℕ} {zs : List ℕ} (hzs : m.Path (f :: zs))
    (hnodup : (f :: zs).Nodup) (hfree : ∀ z ∈ f :: zs, A.Free z) :
    Laid ((m.join (xs.getLastD h) f).join (zs.getLastD f) (ys.headD h))
      (Function.update A h (some (xs ++ (f :: zs) ++ ys))) := by
  have hp : Off A h (xs.getLastD h) := hl.off_of_mem hxs (Circle.getLastD_mem_ring h xs _)
  have hn : Off A h (ys.headD h) := hl.off_of_mem hxs (Circle.headD_mem_ring h xs ys)
  have hf : Off A h f := off_of_free (hfree f List.mem_cons_self)
  have hq : Off A h (zs.getLastD f) := off_of_free (hfree _ (Circle.getLastD_mem f zs))
  refine hl.update ((hl.circle hxs).insert hzs hnodup fun z hz => hfree z hz h _ hxs) ?_ fun a ha => ?_
  · intro a ha
    simp only [List.mem_cons, List.mem_append] at ha
    rcases ha with rfl | (hin | hin) | hin
    · exact .inl ⟨_, hxs, List.mem_cons_self⟩
    · exact .inl ⟨_, hxs, by simp [hin]⟩
    · exact .inr (hfree a (List.mem_cons.2 hin))
    · exact .inl ⟨_, hxs, by simp [hin]⟩
  · obtain ⟨hnext, hprev⟩ := join_rest (m := m) hp hf a ha
    obtain ⟨hnext', hprev'⟩ := join_rest (m := m.join (xs.getLastD h) f) hq hn a ha
    exact ⟨hnext'.trans hnext, hprev'.trans hprev⟩

theorem addBetween (hl : Laid m A) (hxs : A h = some (xs ++ ys)) (hfree : A.Free b) :
    Laid (m.addBetween b (xs.getLastD h) (ys.headD h)) (Function.update A h (some (xs ++ b :: ys))) := by
  have hb := hfree h _ hxs
  have hin := hl.insert hxs (.singleton b) (List.nodup_singleton b) fun z hz => List.mem_singleton.1 hz ▸ hfree
  rw [List.getLastD_nil, ← List.append_cons, ← ListHeads.addBetween_eq] at hin
  · exact hin
  · rintro rfl
    exact hb (Circle.getLastD_mem_ring h xs ys)
  · rintro rfl
    exact hb (Circle.headD_mem_ring h xs ys)

/-- **A node is taken out.** -/
theorem delEntry (hl : Laid m A) (hxs : A h = some (xs ++ a :: ys)) :
    Laid (m.delEntry a) (Function.update A h (some (xs ++ ys))) := by
  have hcircle := hl.circle hxs
  have hp : Off A h (xs.getLastD h) := hl.off_of_mem hxs (Circle.getLastD_mem_ring h xs _)
  have hn : Off A h (ys.headD h) := by
    refine hl.off_of_mem hxs ?_
    rw [List.append_cons]
    exact Circle.headD_mem_ring h (xs ++ [a]) ys
  rw [ListHeads.delEntry, ListHeads.delBetween_eq, hcircle.prev_node, hcircle.next_node]
  refine hl.update ?_ (fun c hc => .inl ⟨_, hxs, ?_⟩) fun c hc => join_rest hp hn c hc
  · rw [List.append_cons] at hcircle
    exact hcircle.erase
  · simp only [List.mem_cons, List.mem_append] at hc ⊢
    tauto

/-- The node that was taken out is in no list any more. -/
theorem free_of_delEntry (hl : Laid m A) (hxs : A h = some (xs ++ a :: ys)) :
    Lists.Free (Function.update A h (some (xs ++ ys))) a := by
  intro h' xs' hxs' hmem
  have hnodup := (hl.circle hxs).nodup
  by_cases hne : h' = h
  · rw [hne, Function.update_self] at hxs'
    rw [← Option.some.inj hxs', hne] at hmem
    rw [List.nodup_cons, List.nodup_middle, List.nodup_cons] at hnodup
    simp only [List.mem_cons, List.mem_append] at hmem hnodup
    tauto
  · rw [Function.update_of_ne hne] at hxs'
    exact hne (hl.apart hxs' hxs hmem (by simp))

theorem delInit (hl : Laid m A) (hxs : A h = some (xs ++ a :: ys)) :
    Laid (m.delInit a) (Function.update A h (some (xs ++ ys))) := by
  refine (hl.delEntry hxs).congr fun b hb => ?_
  have hne : b ≠ a := fun heq => hb (heq ▸ hl.free_of_delEntry hxs)
  exact ⟨Function.update_of_ne hne _ _, Function.update_of_ne hne _ _⟩

theorem del (hl : Laid m A) (hxs : A h = some (xs ++ a :: ys)) :
    Laid (m.del a) (Function.update A h (some (xs ++ ys))) := by
  refine (hl.delEntry hxs).congr fun b hb => ?_
  have hne : b ≠ a := fun heq => hb (heq ▸ hl.free_of_delEntry hxs)
  exact ⟨Function.update_of_ne hne _ _, Function.update_of_ne hne _ _⟩

theorem filter_eq (hl : Laid m A) (hxs : A h = some (xs ++ a :: ys)) :
    (fun h' => (A h').map fun l => l.filter (· ≠ a)) = Function.update A h (some (xs ++ ys)) := by
  funext h'
  by_cases hne : h' = h
  · subst hne
    have hnodup := (hl.circle hxs).nodup
    rw [List.nodup_cons, List.nodup_middle, List.nodup_cons, List.mem_append (a := a), not_or] at hnodup
    have hself : ∀ {l : List ℕ}, a ∉ l → l.filter (· ≠ a) = l := fun hnot =>
      List.filter_eq_self.2 fun b hb => decide_eq_true fun heq => hnot (heq ▸ hb)
    rw [Function.update_self, hxs, Option.map_some, List.filter_append, List.filter_cons_of_neg (by simp),
      hself hnodup.2.1.1, hself hnodup.2.1.2]
  · rw [Function.update_of_ne hne]
    cases hxs' : A h' with
    | none => rfl
    | some l =>
        rw [Option.map_some, List.filter_eq_self.2]
        refine fun b hb => decide_eq_true fun heq => hne ?_
        exact hl.apart hxs' hxs (List.mem_cons_of_mem _ hb) (by simp [heq])

theorem replace (hl : Laid m A) (hxs : A h = some (xs ++ a :: ys)) (hfree : A.Free b) :
    Laid (m.replace a b) (Function.update A h (some (xs ++ b :: ys))) := by
  have hcircle := hl.circle hxs
  have hb : b ∉ h :: (xs ++ ys) := by
    have hnot := hfree h _ hxs
    simp only [List.mem_cons, List.mem_append, not_or] at hnot ⊢
    exact ⟨hnot.1, hnot.2.1, hnot.2.2.2⟩
  have hp : Off A h (xs.getLastD h) := hl.off_of_mem hxs (Circle.getLastD_mem_ring h xs _)
  have hn : Off A h (ys.headD h) := by
    refine hl.off_of_mem hxs ?_
    rw [List.append_cons]
    exact Circle.headD_mem_ring h (xs ++ [a]) ys
  have hold : a ≠ m.next a := by
    rw [hcircle.next_node]
    intro heq
    have hnodup := hcircle.nodup
    rw [List.nodup_cons, List.nodup_middle, List.nodup_cons] at hnodup
    have hmem := Circle.headD_mem_ring h xs ys
    rw [← heq] at hmem
    rcases List.mem_cons.1 hmem with rfl | hin
    · exact hnodup.1 (by simp)
    · exact hnodup.2.1 hin
  rw [ListHeads.replace_eq m hold, hcircle.prev_node, hcircle.next_node]
  refine hl.update (hcircle.replace hb) ?_ fun c hc => ?_
  · intro c hc
    simp only [List.mem_cons, List.mem_append] at hc
    rcases hc with rfl | hin | rfl | hin
    · exact .inl ⟨_, hxs, List.mem_cons_self⟩
    · exact .inl ⟨_, hxs, by simp [hin]⟩
    · exact .inr hfree
    · exact .inl ⟨_, hxs, by simp [hin]⟩
  · obtain ⟨hnext, hprev⟩ := join_rest (m := m) (off_of_free hfree) hn c hc
    obtain ⟨hnext', hprev'⟩ := join_rest (m := m.join b (ys.headD h)) hp (off_of_free hfree) c hc
    exact ⟨hnext'.trans hnext, hprev'.trans hprev⟩

theorem map_eq (hl : Laid m A) (hxs : A h = some (xs ++ a :: ys)) :
    (fun h' => (A h').map fun l => l.map fun c => if c = a then b else c) =
      Function.update A h (some (xs ++ b :: ys)) := by
  have hself : ∀ {l : List ℕ}, a ∉ l → (l.map fun c => if c = a then b else c) = l := by
    intro l hnot
    refine (List.map_congr_left (g := id) fun c hc => if_neg ?_).trans (List.map_id l)
    rintro rfl
    exact hnot hc
  funext h'
  by_cases hne : h' = h
  · subst hne
    have hnodup := (hl.circle hxs).nodup
    rw [List.nodup_cons, List.nodup_middle, List.nodup_cons, List.mem_append (a := a), not_or] at hnodup
    rw [Function.update_self, hxs, Option.map_some, List.map_append, List.map_cons, if_pos rfl,
      hself hnodup.2.1.1, hself hnodup.2.1.2]
  · rw [Function.update_of_ne hne]
    cases hxs' : A h' with
    | none => rfl
    | some l =>
        rw [Option.map_some, hself]
        exact fun hmem => hne (hl.apart hxs' hxs (List.mem_cons_of_mem _ hmem) (by simp))

theorem forget (hl : Laid m A) (h : ℕ) : Laid m (Function.update A h none) := by
  have hold : ∀ {h' xs'}, Function.update A h none h' = some xs' → A h' = some xs' := by
    intro h' xs' hxs'
    by_cases hne : h' = h
    · rw [hne, Function.update_self] at hxs'
      cases hxs'
    · rwa [Function.update_of_ne hne] at hxs'
  exact ⟨fun hxs => hl.circle (hold hxs), fun hxs hxs' => hl.apart (hold hxs) (hold hxs')⟩

theorem free_of_forget (hl : Laid m A) (hxs : A h = some xs) (ha : a ∈ h :: xs) :
    Lists.Free (Function.update A h none) a := by
  intro h' xs' hxs' hmem
  by_cases hne : h' = h
  · rw [hne, Function.update_self] at hxs'
    cases hxs'
  · rw [Function.update_of_ne hne] at hxs'
    exact hne (hl.apart hxs' hxs hmem ha)

theorem init (hl : Laid m A) (hfree : A.Free a ∨ (A a).isSome) :
    Laid (m.initListHead a) (Function.update A a (some [])) := by
  have hoff : Off A a a := by
    rcases hfree with hfree | hsome
    · exact off_of_free hfree
    · obtain ⟨xs, hxs⟩ := Option.isSome_iff_exists.1 hsome
      exact hl.off_of_mem hxs List.mem_cons_self
  rw [ListHeads.initListHead_eq]
  refine hl.update (Circle.single m a) (fun c hc => ?_) fun c hc => join_rest hoff hoff c hc
  rw [List.mem_singleton.1 hc]
  rcases hfree with hfree | hsome
  · exact .inr hfree
  · obtain ⟨xs, hxs⟩ := Option.isSome_iff_exists.1 hsome
    exact .inl ⟨xs, hxs, List.mem_cons_self⟩

/-- **The nodes of one list are put into a gap of another one.** -/
theorem splice {list f : ℕ} {zs : List ℕ} (hl : Laid m A) (hlist : A list = some (f :: zs))
    (hne : h ≠ list) (hxs : A h = some (xs ++ ys)) :
    Laid (m.spliceBetween list (xs.getLastD h) (ys.headD h))
      (Function.update (Function.update A list none) h (some (xs ++ (f :: zs) ++ ys))) := by
  have hcircle := hl.circle hlist
  have hxs' : Function.update A list none h = some (xs ++ ys) := by rwa [Function.update_of_ne hne]
  have hin := (hl.forget list).insert hxs' hcircle.nodes (List.nodup_cons.1 hcircle.nodup).2 fun z hz =>
    hl.free_of_forget hlist (List.mem_cons_of_mem _ hz)
  rw [ListHeads.spliceBetween_eq, hcircle.next_head, hcircle.prev_head, List.getLastD_cons]
  exact hin

/-- The head of a list whose nodes are in another one is in none. -/
theorem free_of_splice {list : ℕ} {zs : List ℕ} (hl : Laid m A) (hlist : A list = some zs) (hne : h ≠ list)
    (hxs : A h = some (xs ++ ys)) :
    Lists.Free (Function.update (Function.update A list none) h (some (xs ++ zs ++ ys))) list := by
  intro h' xs' hxs' hmem
  by_cases hh : h' = h
  · rw [hh, Function.update_self] at hxs'
    rw [← Option.some.inj hxs', hh] at hmem
    simp only [List.mem_cons, List.mem_append] at hmem
    rcases hmem with rfl | (hin | hin) | hin
    · exact hne rfl
    · exact hne (hl.apart hxs hlist (by simp [hin]) List.mem_cons_self)
    · exact (hl.circle hlist).head_notMem hin
    · exact hne (hl.apart hxs hlist (by simp [hin]) List.mem_cons_self)
  · rw [Function.update_of_ne hh] at hxs'
    by_cases hl' : h' = list
    · rw [hl', Function.update_self] at hxs'
      cases hxs'
    · rw [Function.update_of_ne hl'] at hxs'
      exact hl' (hl.apart hxs' hlist hmem List.mem_cons_self)

theorem empty_iff (hl : Laid m A) (hxs : A h = some xs) : m.empty h = true ↔ xs = [] := by
  rw [ListHeads.empty, decide_eq_true_iff]
  exact (hl.circle hxs).next_head_iff

theorem sweep (hl : Laid m A) (hxs : A h = some xs) (keep : ℕ → Bool) {rounds : ℕ}
    (hrounds : xs.length ≤ rounds) :
    ∃ m', m.sweep keep rounds h = some m' ∧ Laid m' (Function.update A h (some (xs.filter keep))) := by
  have hfold : ∀ (ys kept : List ℕ),
      ys.foldl (fun kept a => if keep a then kept ++ [a] else kept) kept = kept ++ ys.filter keep := by
    intro ys
    induction ys with
    | nil => simp
    | cons y ys ih =>
        intro kept
        by_cases hy : keep y <;> simp [ih, hy]
  have hbody : ∀ ys y zs (m : ListHeads), Laid m (Function.update A h (some (ys ++ y :: zs))) →
      Laid (if keep y then m else m.delInit y)
        (Function.update A h (some ((if keep y then ys ++ [y] else ys) ++ zs))) := by
    intro ys y zs m hm
    by_cases hy : keep y
    · rw [if_pos hy, if_pos hy, ← List.append_cons]
      exact hm
    · rw [if_neg hy, if_neg hy]
      have hout := hm.delInit (Function.update_self ..)
      rwa [Function.update_idem] at hout
  have hstart : Laid m (Function.update A h (some xs)) := by rwa [← hxs, Function.update_eq_self]
  have hcircle : ∀ ys (m : ListHeads), Laid m (Function.update A h (some ys)) → Circle (id m) h ys :=
    fun _ _ hm => hm.circle (Function.update_self ..)
  obtain ⟨hend, hwalk⟩ := Circle.walkSafe_run hcircle hbody hstart hrounds
  rw [hfold, List.nil_append] at hend
  exact ⟨_, hwalk, hend⟩

theorem merge_nil {list head : ℕ} (hlist : A list = some []) (rest : Option (List ℕ))
    (put : List ℕ → List ℕ → List ℕ) : A.merge list head rest put = A := by
  rw [Lists.merge, hlist]

theorem merge_cons {list head f : ℕ} {zs : List ℕ} (hlist : A list = some (f :: zs)) (hhead : A head = some ys)
    (rest : Option (List ℕ)) (put : List ℕ → List ℕ → List ℕ) :
    A.merge list head rest put =
      Function.update (Function.update A list rest) head (some (put (f :: zs) ys)) := by
  rw [Lists.merge, hlist, hhead]

/-- A splice at a gap, with the pointers of the emptied list left as they are, or not. -/
theorem merge {list head : ℕ} {zs : List ℕ} (hl : Laid m A) (put : List ℕ → List ℕ → List ℕ)
    (hne : list ≠ head) (hlist : A list = some xs) (hhead : A head = some (ys ++ zs))
    (hput : put xs (ys ++ zs) = ys ++ xs ++ zs) :
    Laid (if m.empty list then m else m.spliceBetween list (ys.getLastD head) (zs.headD head))
        (A.merge list head none put) ∧
      Laid (if m.empty list then m
          else (m.spliceBetween list (ys.getLastD head) (zs.headD head)).initListHead list)
        (A.merge list head (some []) put) := by
  cases xs with
  | nil =>
      rw [merge_nil hlist, merge_nil hlist, if_pos ((hl.empty_iff hlist).2 rfl),
        if_pos ((hl.empty_iff hlist).2 rfl)]
      exact ⟨hl, hl⟩
  | cons f xs =>
      have hnot : ¬ m.empty list = true := fun hempty => by cases (hl.empty_iff hlist).1 hempty
      rw [merge_cons hlist hhead, merge_cons hlist hhead, hput, if_neg hnot, if_neg hnot]
      have hspliced := hl.splice hlist hne.symm hhead
      refine ⟨hspliced, ?_⟩
      have hinit := hspliced.init (.inl (hl.free_of_splice hlist hne.symm hhead))
      rwa [Function.update_comm hne.symm, Function.update_idem] at hinit

theorem mergeFront {list head : ℕ} (hl : Laid m A) (hne : list ≠ head) (hlist : (A list).isSome)
    (hhead : (A head).isSome) :
    Laid (m.splice list head) (A.step (.splice list head)) ∧
      Laid (m.spliceInit list head) (A.step (.spliceInit list head)) := by
  obtain ⟨xs, hxs⟩ := Option.isSome_iff_exists.1 hlist
  obtain ⟨ys, hys⟩ := Option.isSome_iff_exists.1 hhead
  rw [ListHeads.splice, ListHeads.spliceInit, (hl.circle hys).next_head]
  rw [← List.nil_append ys] at hys
  exact hl.merge (fun xs ys => xs ++ ys) hne hxs hys rfl

theorem mergeTail {list head : ℕ} (hl : Laid m A) (hne : list ≠ head) (hlist : (A list).isSome)
    (hhead : (A head).isSome) :
    Laid (m.spliceTail list head) (A.step (.spliceTail list head)) ∧
      Laid (m.spliceTailInit list head) (A.step (.spliceTailInit list head)) := by
  obtain ⟨xs, hxs⟩ := Option.isSome_iff_exists.1 hlist
  obtain ⟨ys, hys⟩ := Option.isSome_iff_exists.1 hhead
  rw [ListHeads.spliceTail, ListHeads.spliceTailInit, (hl.circle hys).prev_head]
  rw [← List.append_nil ys] at hys
  exact hl.merge (fun xs ys => ys ++ xs) hne hxs hys (by simp)

/-- **Every operation does to the memory what it should do to the lists.** -/
theorem step (hl : Laid m A) {op : ListOp} (hfits : A.Fits op) : Laid (m.step op) (A.step op) := by
  cases op with
  | init list => exact hl.init hfits
  | add node head =>
      obtain ⟨hfree, hsome⟩ := hfits
      obtain ⟨xs, hxs⟩ := Option.isSome_iff_exists.1 hsome
      rw [Lists.step, ListHeads.step, hxs, ListHeads.add, (hl.circle hxs).next_head]
      rw [← List.nil_append xs] at hxs
      exact hl.addBetween hxs hfree
  | addTail node head =>
      obtain ⟨hfree, hsome⟩ := hfits
      obtain ⟨xs, hxs⟩ := Option.isSome_iff_exists.1 hsome
      rw [Lists.step, ListHeads.step, hxs, ListHeads.addTail, (hl.circle hxs).prev_head]
      rw [← List.append_nil xs] at hxs
      exact hl.addBetween hxs hfree
  | del entry =>
      obtain ⟨h, l, hl', hmem⟩ := hfits
      obtain ⟨xs, ys, rfl⟩ := List.append_of_mem hmem
      rw [Lists.step, hl.filter_eq hl']
      exact hl.del hl'
  | delInit entry =>
      obtain ⟨h, l, hl', hmem⟩ := hfits
      obtain ⟨xs, ys, rfl⟩ := List.append_of_mem hmem
      rw [Lists.step, hl.filter_eq hl']
      exact hl.delInit hl'
  | replace old node =>
      obtain ⟨hfree, h, l, hl', hmem⟩ := hfits
      obtain ⟨xs, ys, rfl⟩ := List.append_of_mem hmem
      rw [Lists.step, hl.map_eq hl']
      exact hl.replace hl' hfree
  | splice list head => exact (hl.mergeFront hfits.1 hfits.2.1 hfits.2.2).1
  | spliceTail list head => exact (hl.mergeTail hfits.1 hfits.2.1 hfits.2.2).1
  | spliceInit list head => exact (hl.mergeFront hfits.1 hfits.2.1 hfits.2.2).2
  | spliceTailInit list head => exact (hl.mergeTail hfits.1 hfits.2.1 hfits.2.2).2
  | sweep keep rounds head =>
      obtain ⟨xs, hxs, hrounds⟩ := hfits
      obtain ⟨m', hm', hlaid⟩ := hl.sweep hxs keep hrounds
      rw [Lists.step, ListHeads.step, hxs, hm']
      exact hlaid

theorem run (hl : Laid m A) {ops : List ListOp} (hfits : A.RunFits ops) : Laid (m.run ops) (A.run ops) := by
  induction ops generalizing m A with
  | nil => exact hl
  | cons op ops ih => exact ih (hl.step hfits.1) hfits.2

end Laid

/-- **The loops over the lists meet their nodes.** In every run in which the callers put only nodes into
lists that are in none, and take out only nodes that are in one: the loop forwards over a list ends and
meets the nodes that should stand there in order, the loop backwards in reverse, and a list is empty for
`rqc_list_empty` if it has no nodes. -/
theorem lists_run (m : ListHeads) (ops : List ListOp) (hfits : Lists.RunFits (fun _ => none) ops) (head : ℕ)
    (xs : List ℕ) (hxs : Lists.run (fun _ => none) ops head = some xs) (rounds : ℕ)
    (hrounds : xs.length ≤ rounds) :
    (m.run ops).forEach rounds head = some xs ∧
      (m.run ops).forEachReverse rounds head = some xs.reverse ∧
      ((m.run ops).empty head = true ↔ xs = []) := by
  have hlaid : Laid (m.run ops) (Lists.run (fun _ => none) ops) := (Laid.start m).run hfits
  have hcircle := hlaid.circle hxs
  exact ⟨hcircle.walk_next hrounds, hcircle.walk_prev hrounds, hlaid.empty_iff hxs⟩

theorem Lists.free_update {A : Lists} {h a : ℕ} {xs : List ℕ} (hfree : A.Free a) (ha : a ∉ h :: xs) :
    Lists.Free (Function.update A h (some xs)) a := by
  intro h' xs' hxs'
  by_cases hne : h' = h
  · rw [hne, Function.update_self] at hxs'
    rwa [← Option.some.inj hxs', hne]
  · rw [Function.update_of_ne hne] at hxs'
    exact hfree h' xs' hxs'

/-- The nodes of one list go to another one, and a loop drops one of them there. -/
def requeueRun : List ListOp :=
  [.init 10, .init 20, .addTail 11 10, .addTail 12 10, .add 21 20, .spliceTailInit 10 20,
    .sweep (fun a => a ≠ 11) 3 20]

theorem lists_run_requeue :
    (ListHeads.run ⟨id, id⟩ requeueRun).forEach 2 20 = some [21, 12] ∧
      (ListHeads.run ⟨id, id⟩ requeueRun).forEachReverse 2 20 = some [21, 12].reverse ∧
      ((ListHeads.run ⟨id, id⟩ requeueRun).empty 20 = true ↔ ([21, 12] : List ℕ) = []) := by
  have hnone : ∀ a, Lists.Free (fun _ => none) a := by
    intro a h xs habs
    cases habs
  have hempty : ∀ a, a ∉ [10, 20] →
      Lists.Free (Function.update (Function.update (fun _ => none) 10 (some [])) 20 (some [])) a := by
    intro a ha
    refine Lists.free_update (Lists.free_update (hnone a) ?_) ?_ <;> simp_all
  refine lists_run ⟨id, id⟩ requeueRun ⟨.inl (hnone 10), .inl (Lists.free_update (hnone 20) (by decide)),
    ⟨hempty 11 (by decide), rfl⟩, ⟨Lists.free_update (hempty 12 (by decide)) ?_, rfl⟩,
    ⟨Lists.free_update (Lists.free_update (hempty 21 (by decide)) ?_) ?_, rfl⟩, ⟨by decide, rfl, rfl⟩,
    ⟨_, rfl, by decide⟩, trivial⟩ 20 [21, 12] (by decide) 2 (by decide)
  · decide
  · decide
  · decide

end Rquic

import Mathlib.Data.List.Chain
import Mathlib.Data.List.Nodup
import Mathlib.Logic.Function.Basic

set_option autoImplicit false

/-!
# Rings of nodes with two pointers

Each node points to the node behind it and to the one before it. A list is a ring that runs from its head
through the nodes back to the head.

* `TwoWay`, `TwoWay.join`: the memory, and the only thing that programs do to it.
* `Circle`: the nodes that stand behind a head; `Circle.gap`: what the pointers across a gap say.
* **`Circle.insert`**, **`Circle.erase`**, `Circle.congr`: nodes are put into a gap or taken out, and the
  other rings stay as they are.
* `walk`, `walkSafe`: the loops over a ring, plain and with the next node saved; **`Circle.walk_next`**,
  **`Circle.walkSafe_run`**: they meet the nodes in order, also where the body takes away the node that it is at.
-/

namespace Rquic

/-! ## Memory -/

/-- The memory of the nodes: the two pointers of each. -/
structure TwoWay (α : Type) where
  next : α → α
  prev : α → α

namespace TwoWay

variable {α : Type}

/-- The pointers between two neighbours. -/
def Joined (m : TwoWay α) (a b : α) : Prop := m.next a = b ∧ m.prev b = a

/-- The nodes follow each other. -/
abbrev Path (m : TwoWay α) (l : List α) : Prop := l.IsChain m.Joined

variable [DecidableEq α] {m : TwoWay α} {a b c d : α} {l : List α}

/-- `b` is put behind `a`. -/
def join (m : TwoWay α) (a b : α) : TwoWay α where
  next := Function.update m.next a b
  prev := Function.update m.prev b a

@[simp] theorem join_next_self (m : TwoWay α) (a b : α) : (m.join a b).next a = b := Function.update_self ..

@[simp] theorem join_prev_self (m : TwoWay α) (a b : α) : (m.join a b).prev b = a := Function.update_self ..

theorem join_next_of_ne (m : TwoWay α) (b : α) (h : c ≠ a) : (m.join a b).next c = m.next c :=
  Function.update_of_ne h ..

theorem join_prev_of_ne (m : TwoWay α) (a : α) (h : d ≠ b) : (m.join a b).prev d = m.prev d :=
  Function.update_of_ne h ..

theorem joined_join (m : TwoWay α) (a b : α) : (m.join a b).Joined a b := by simp [Joined]

theorem Joined.join (h : m.Joined c d) (hc : c ≠ a) (hd : d ≠ b) : (m.join a b).Joined c d := by
  rw [Joined, join_next_of_ne m b hc, join_prev_of_ne m a hd]
  exact h

/-- A path is kept if it does not leave `a` nor enter `b`. -/
theorem Path.join (h : m.Path l) (ha : a ∉ l.dropLast) (hb : b ∉ l.tail) : (m.join a b).Path l := by
  induction l with
  | nil => exact .nil
  | cons x l ih =>
      cases l with
      | nil => exact .singleton x
      | cons y l =>
          rw [Path, List.isChain_cons_cons] at h ⊢
          simp only [List.dropLast_cons_cons, List.tail_cons, List.mem_cons, not_or] at ha hb
          refine ⟨h.1.join (Ne.symm ha.1) (Ne.symm hb.1), ih h.2 ha.2 ?_⟩
          exact hb.2

theorem join_between (m : TwoWay α) (ha : c ≠ a) (hb : c ≠ b) :
    ((m.join a b).join a c).join c b = (m.join c b).join a c := by
  unfold join
  congr 1
  · funext d
    simp only [Function.update_apply]
    grind
  · funext d
    simp only [Function.update_apply]
    grind

end TwoWay

/-! ## Rings -/

/-- The nodes `xs` stand in a ring behind the head `h`. -/
structure Circle {α : Type} (m : TwoWay α) (h : α) (xs : List α) : Prop where
  path : m.Path ((h :: xs) ++ [h])
  nodup : (h :: xs).Nodup

namespace Circle

variable {α : Type} {m m' : TwoWay α} {a b f h : α} {xs ys zs : List α}

theorem isChain_gap {R : α → α → Prop} {k : α} :
    (h :: (xs ++ ys) ++ [k]).IsChain R ↔
      (h :: xs).IsChain R ∧ (ys ++ [k]).IsChain R ∧ R (xs.getLastD h) (ys.headD k) := by
  have hlast : (h :: xs).getLast? = some (xs.getLastD h) := by
    rw [List.getLast?_cons, List.getLastD_eq_getLast?]
  have hhead : (ys ++ [k]).head? = some (ys.headD k) := by
    cases ys <;> rfl
  rw [← List.cons_append, List.append_assoc, List.isChain_append, hlast, hhead]
  simp

theorem gap (hc : Circle m h (xs ++ ys)) : m.Joined (xs.getLastD h) (ys.headD h) :=
  (isChain_gap.1 hc.path).2.2

theorem next_head (hc : Circle m h xs) : m.next h = xs.headD h := by
  rw [← List.nil_append xs] at hc
  exact hc.gap.1

theorem prev_head (hc : Circle m h xs) : m.prev h = xs.getLastD h := by
  rw [← List.append_nil xs] at hc
  exact hc.gap.2

theorem next_node (hc : Circle m h (xs ++ a :: ys)) : m.next a = ys.headD h := by
  rw [List.append_cons] at hc
  simpa using hc.gap.1

theorem prev_node (hc : Circle m h (xs ++ a :: ys)) : m.prev a = xs.getLastD h := hc.gap.2

/-- **The pointers of other nodes do not matter.** -/
theorem congr (hc : Circle m h xs) (hnext : ∀ a ∈ h :: xs, m'.next a = m.next a)
    (hprev : ∀ a ∈ h :: xs, m'.prev a = m.prev a) : Circle m' h xs := by
  refine ⟨hc.path.imp_of_mem_imp fun a b ha hb hab => ?_, hc.nodup⟩
  rw [List.mem_append, List.mem_singleton] at ha hb
  have ha' : a ∈ h :: xs := ha.elim id fun heq => heq ▸ List.mem_cons_self
  have hb' : b ∈ h :: xs := hb.elim id fun heq => heq ▸ List.mem_cons_self
  rw [TwoWay.Joined, hnext a ha', hprev b hb']
  exact hab

theorem nodes (hc : Circle m h xs) : m.Path xs := by
  have hpath := hc.path
  rw [List.cons_append] at hpath
  exact hpath.of_cons.left_of_append

theorem head_notMem (hc : Circle m h xs) : h ∉ xs := (List.nodup_cons.1 hc.nodup).1

theorem getLastD_mem (h : α) (xs : List α) : xs.getLastD h ∈ h :: xs := by
  induction xs generalizing h with
  | nil => exact List.mem_singleton.2 rfl
  | cons x xs ih =>
      rw [List.getLastD_cons]
      exact List.mem_cons_of_mem _ (ih x)

theorem headD_mem (h : α) (ys : List α) : ys.headD h ∈ ys ++ [h] := by
  cases ys <;> simp

theorem getLastD_mem_ring (h : α) (xs ys : List α) : xs.getLastD h ∈ h :: (xs ++ ys) := by
  rw [← List.cons_append]
  exact List.mem_append_left _ (getLastD_mem h xs)

theorem headD_mem_ring (h : α) (xs ys : List α) : ys.headD h ∈ h :: (xs ++ ys) := by
  cases ys <;> simp

theorem dropLast_getLastD (h : α) (xs : List α) : (h :: xs).dropLast ++ [xs.getLastD h] = h :: xs := by
  induction xs generalizing h with
  | nil => rfl
  | cons x xs ih =>
      rw [List.getLastD_cons, List.dropLast_cons_cons, List.cons_append, ih x]

theorem getLastD_notMem (hnodup : (h :: xs).Nodup) : xs.getLastD h ∉ (h :: xs).dropLast := by
  intro hmem
  rw [← dropLast_getLastD h xs, List.nodup_append] at hnodup
  exact hnodup.2.2 _ hmem _ (List.mem_singleton.2 rfl) rfl

theorem headD_notMem (hnodup : (ys ++ [h]).Nodup) : ys.headD h ∉ (ys ++ [h]).tail := by
  cases ys with
  | nil => exact List.not_mem_nil
  | cons y ys => exact (List.nodup_cons.1 hnodup).1

theorem sides (hnodup : (h :: (xs ++ ys)).Nodup) :
    (h :: xs).Nodup ∧ (ys ++ [h]).Nodup ∧ xs.getLastD h ∉ ys ∧ ys.headD h ∉ xs := by
  obtain ⟨hhead, hboth⟩ := List.nodup_cons.1 hnodup
  obtain ⟨hxs, hys, hdisj⟩ := List.nodup_append.1 hboth
  rw [List.mem_append, not_or] at hhead
  refine ⟨List.nodup_cons.2 ⟨hhead.1, hxs⟩, ?_, fun hmem => ?_, fun hmem => ?_⟩
  · exact List.nodup_append.2 ⟨hys, List.nodup_singleton h, by
      rintro y hy _ hh rfl
      exact hhead.2 (List.mem_singleton.1 hh ▸ hy)⟩
  · rcases List.mem_cons.1 (getLastD_mem h xs) with heq | hin
    · exact hhead.2 (heq ▸ hmem)
    · exact hdisj _ hin _ hmem rfl
  · rcases List.mem_append.1 (headD_mem h ys) with hin | heq
    · exact hdisj _ hmem _ hin rfl
    · exact hhead.1 (List.mem_singleton.1 heq ▸ hmem)

section Surgery

variable [DecidableEq α]

/-- **Nodes are put into a gap.** -/
theorem insert (hc : Circle m h (xs ++ ys)) (hzs : m.Path (f :: zs)) (hnodup : (f :: zs).Nodup)
    (hapart : ∀ z ∈ f :: zs, z ∉ h :: (xs ++ ys)) :
    Circle ((m.join (xs.getLastD h) f).join (zs.getLastD f) (ys.headD h)) h (xs ++ (f :: zs) ++ ys) := by
  obtain ⟨hfront, hback, -⟩ := isChain_gap.1 hc.path
  obtain ⟨hxs, hys, hpys, hnxs⟩ := sides hc.nodup
  have hf : f ∈ f :: zs := List.mem_cons_self
  have hq : zs.getLastD f ∈ f :: zs := getLastD_mem f zs
  have hout : ∀ z ∈ f :: zs, z ∉ h :: xs ∧ z ∉ ys ++ [h] := by
    intro z hz
    have hnot := hapart z hz
    simp only [List.mem_cons, List.mem_append, not_or] at hnot ⊢
    exact ⟨⟨hnot.1, hnot.2.1⟩, hnot.2.2, hnot.1, List.not_mem_nil⟩
  have hpz : xs.getLastD h ∉ f :: zs := fun hmem => (hout _ hmem).1 (getLastD_mem h xs)
  have hnz : ys.headD h ∉ f :: zs := fun hmem => (hout _ hmem).2 (headD_mem h ys)
  have hnodup' : (h :: (xs ++ (f :: zs) ++ ys)).Nodup := by
    have hrot : (h :: (xs ++ (f :: zs) ++ ys)).Perm ((f :: zs) ++ (h :: (xs ++ ys))) := by
      rw [List.append_assoc, ← List.cons_append]
      exact List.perm_append_comm_assoc (h :: xs) (f :: zs) ys
    rw [hrot.nodup_iff, List.nodup_append]
    exact ⟨hnodup, hc.nodup, fun z hz x hx heq => hapart z hz (heq ▸ hx)⟩
  refine ⟨?_, hnodup'⟩
  rw [List.append_assoc]
  refine isChain_gap.2 ⟨?_, isChain_gap.2 ⟨?_, ?_, ?_⟩, ?_⟩
  · refine TwoWay.Path.join (TwoWay.Path.join hfront (getLastD_notMem hxs) ?_) ?_ hnxs
    · exact fun hmem => (hout f hf).1 (List.mem_cons_of_mem _ hmem)
    · exact fun hmem => (hout _ hq).1 (List.dropLast_subset _ hmem)
  · refine TwoWay.Path.join (TwoWay.Path.join hzs (fun hmem => hpz (List.dropLast_subset _ hmem)) ?_)
      (getLastD_notMem hnodup) fun hmem => hnz (List.mem_cons_of_mem _ hmem)
    exact (List.nodup_cons.1 hnodup).1
  · refine TwoWay.Path.join (TwoWay.Path.join hback ?_ fun hmem => (hout f hf).2 (List.mem_of_mem_tail hmem)) ?_
      (headD_notMem hys)
    · rwa [List.dropLast_concat]
    · exact fun hmem => (hout _ hq).2 (List.dropLast_subset _ hmem)
  · exact TwoWay.joined_join ..
  · refine (TwoWay.joined_join m _ f).join ?_ ?_
    · exact fun heq => hpz (heq ▸ hq)
    · exact fun heq => hnz (heq ▸ hf)

theorem erase (hc : Circle m h (xs ++ zs ++ ys)) :
    Circle (m.join (xs.getLastD h) (ys.headD h)) h (xs ++ ys) := by
  have hnodup : (h :: (xs ++ ys)).Nodup := hc.nodup.sublist (by simp)
  obtain ⟨hxs, hys, hpys, hnxs⟩ := sides hnodup
  have hpath := hc.path
  rw [List.append_assoc] at hpath
  obtain ⟨hfront, hrest, -⟩ := isChain_gap.1 hpath
  have hback : (ys ++ [h]).IsChain m.Joined := by
    rw [List.append_assoc] at hrest
    exact hrest.right_of_append
  refine ⟨isChain_gap.2 ⟨?_, ?_, TwoWay.joined_join ..⟩, hnodup⟩
  · exact TwoWay.Path.join hfront (getLastD_notMem hxs) hnxs
  · refine TwoWay.Path.join hback ?_ (headD_notMem hys)
    rwa [List.dropLast_concat]

theorem replace (hc : Circle m h (xs ++ a :: ys)) (hb : b ∉ h :: (xs ++ ys)) :
    Circle ((m.join b (ys.headD h)).join (xs.getLastD h) b) h (xs ++ b :: ys) := by
  rw [List.append_cons] at hc
  have hin := hc.erase.insert (.singleton b) (List.nodup_singleton b) fun z hz => by
    rwa [List.mem_singleton.1 hz]
  rw [List.getLastD_nil, ← List.append_cons] at hin
  rw [← TwoWay.join_between]
  · exact hin
  · rintro rfl
    exact hb (getLastD_mem_ring h xs ys)
  · rintro rfl
    exact hb (headD_mem_ring h xs ys)

end Surgery

theorem single [DecidableEq α] (m : TwoWay α) (h : α) : Circle (m.join h h) h [] where
  path := .cons_cons (m.joined_join h h) (.singleton h)
  nodup := List.nodup_singleton h

theorem next_head_iff (hc : Circle m h xs) : m.next h = h ↔ xs = [] := by
  rw [hc.next_head]
  cases xs with
  | nil => simp
  | cons x xs =>
      have hne : x ≠ h := fun heq => hc.head_notMem (heq ▸ List.mem_cons_self)
      simpa using hne

end Circle

/-! ## Loops -/

section Walk

variable {α σ : Type} [DecidableEq α]

/-- The nodes from `pos` on, as `step` leads from one to the next until `stop`. -/
def walk (step : α → α) (stop : α) : ℕ → α → Option (List α)
  | 0, pos => if pos = stop then some [] else none
  | n + 1, pos => if pos = stop then some [] else (walk step stop n (step pos)).map (pos :: ·)

/-- A loop whose body may change the memory; the node behind `pos` is read before the body runs, and the
one behind that node afterwards. -/
def walkSafe (mem : σ → TwoWay α) (body : σ → α → σ) (stop : α) : ℕ → σ → α → α → Option σ
  | 0, s, pos, _ => if pos = stop then some s else none
  | n + 1, s, pos, next =>
    if pos = stop then some s
    else walkSafe mem body stop n (body s pos) next ((mem (body s pos)).next next)

variable {m : TwoWay α} {h : α} {xs ys : List α} {n : ℕ}

namespace Circle

theorem walk_behind (hc : Circle m h (xs ++ ys)) (hn : ys.length ≤ n) :
    walk m.next h n (ys.headD h) = some ys := by
  induction ys generalizing xs n with
  | nil => cases n <;> simp [walk]
  | cons y ys ih =>
      obtain ⟨n, rfl⟩ : ∃ k, n = k + 1 := ⟨n - 1, by simp at hn; omega⟩
      have hne : y ≠ h := fun heq => hc.head_notMem (by simp [heq])
      have hstep : m.next y = ys.headD h := hc.next_node
      rw [List.append_cons] at hc
      rw [List.headD_cons, walk, if_neg hne, hstep, ih hc (by simpa using hn)]
      rfl

theorem walk_front (hc : Circle m h (xs ++ ys)) (hn : xs.length ≤ n) :
    walk m.prev h n (xs.getLastD h) = some xs.reverse := by
  induction xs using List.reverseRecOn generalizing ys n with
  | nil => cases n <;> simp [walk]
  | append_singleton xs x ih =>
      obtain ⟨n, rfl⟩ : ∃ k, n = k + 1 := ⟨n - 1, by simp at hn; omega⟩
      have hne : x ≠ h := fun heq => hc.head_notMem (by simp [heq])
      rw [← List.append_cons] at hc
      have hstep : m.prev x = xs.getLastD h := hc.prev_node
      rw [List.getLastD_concat, walk, if_neg hne, hstep, ih hc (by simpa using hn)]
      simp

/-- **The loop forwards meets the nodes in order.** -/
theorem walk_next (hc : Circle m h xs) (hn : xs.length ≤ n) : walk m.next h n (m.next h) = some xs := by
  rw [hc.next_head]
  rw [← List.nil_append xs] at hc
  exact hc.walk_behind hn

/-- **The loop backwards meets them in reverse.** -/
theorem walk_prev (hc : Circle m h xs) (hn : xs.length ≤ n) :
    walk m.prev h n (m.prev h) = some xs.reverse := by
  rw [hc.prev_head]
  rw [← List.append_nil xs] at hc
  exact hc.walk_front hn

/-- The safe loop from a gap on. Of the nodes in front, `xs` are left. -/
theorem walkSafe_behind {mem : σ → TwoWay α} {body : σ → α → σ} {keep : List α → α → List α}
    {C : List α → σ → Prop} (hcircle : ∀ xs s, C xs s → Circle (mem s) h xs)
    (hbody : ∀ xs y ys s, C (xs ++ y :: ys) s → C (keep xs y ++ ys) (body s y)) {s : σ}
    (hs : C (xs ++ ys) s) (hn : ys.length ≤ n) :
    C (ys.foldl keep xs) (ys.foldl body s) ∧
      walkSafe mem body h n s (ys.headD h) ((mem s).next (ys.headD h)) = some (ys.foldl body s) := by
  induction ys generalizing xs s n with
  | nil =>
      rw [List.append_nil] at hs
      refine ⟨hs, ?_⟩
      cases n <;> simp [walkSafe]
  | cons y ys ih =>
      obtain ⟨n, rfl⟩ : ∃ k, n = k + 1 := ⟨n - 1, by simp at hn; omega⟩
      have hcircle' := hcircle _ _ hs
      have hne : y ≠ h := fun heq => hcircle'.head_notMem (by simp [heq])
      have hstep : (mem s).next y = ys.headD h := hcircle'.next_node
      obtain ⟨hkept, hwalk⟩ := ih (hbody _ _ _ _ hs) (by simpa using hn)
      refine ⟨hkept, ?_⟩
      rw [List.headD_cons, walkSafe, if_neg hne, hstep]
      exact hwalk

/-- **The safe loop runs its body once for each node, in order**, if the body leaves the nodes behind the
one that it is at where they are. -/
theorem walkSafe_run {mem : σ → TwoWay α} {body : σ → α → σ} {keep : List α → α → List α}
    {C : List α → σ → Prop} (hcircle : ∀ xs s, C xs s → Circle (mem s) h xs)
    (hbody : ∀ xs y ys s, C (xs ++ y :: ys) s → C (keep xs y ++ ys) (body s y)) {s : σ} (hs : C ys s)
    (hn : ys.length ≤ n) :
    C (ys.foldl keep []) (ys.foldl body s) ∧
      walkSafe mem body h n s ((mem s).next h) ((mem s).next ((mem s).next h)) =
        some (ys.foldl body s) := by
  rw [(hcircle _ _ hs).next_head]
  rw [← List.nil_append ys] at hs
  exact walkSafe_behind hcircle hbody hs hn

end Circle

end Walk

end Rquic

import Mathlib.Data.List.Infix

set_option autoImplicit false

/-!
# Two machines side by side

Machines that answer each operation. Two of them agree along a run if, wherever the run stands, every next
operation has the same answer.

* `after`: the state after a run.
* `AgreesAlong`: the same answers at every point of a run.
* `AllAlong`: a condition on the state before each operation of a run; **`AllAlong.run`**: an invariant under it.
* **`agreesAlong_iff`**: a relation that the operations keep exactly under a condition.
-/

namespace Rquic

variable {σ τ ι ρ : Type}

/-- The state after a run. -/
def after (f : σ → ι → σ × ρ) (s : σ) (ops : List ι) : σ := ops.foldl (fun s op => (f s op).1) s

/-- The two machines answer alike at every point of the run, whatever operation comes next. -/
def AgreesAlong (f : σ → ι → σ × ρ) (g : τ → ι → τ × ρ) (s : σ) (t : τ) (ops : List ι) : Prop :=
  ∀ pre, pre <+: ops → ∀ op, (f (after f s pre) op).2 = (g (after g t pre) op).2

/-- The condition `P` holds before every operation of the run. -/
def AllAlong (next : σ → ι → σ) (P : σ → ι → Prop) : σ → List ι → Prop
  | _, [] => True
  | s, op :: ops => P s op ∧ AllAlong next P (next s op) ops

instance decidableAllAlong {next : σ → ι → σ} {P : σ → ι → Prop} [∀ s op, Decidable (P s op)] :
    ∀ s ops, Decidable (AllAlong next P s ops)
  | _, [] => isTrue trivial
  | s, op :: ops =>
    have : Decidable (AllAlong next P (next s op) ops) := decidableAllAlong (next s op) ops
    inferInstanceAs (Decidable (P s op ∧ AllAlong next P (next s op) ops))

/-- **An invariant that the operations keep under a condition** holds behind every run under it. -/
theorem AllAlong.run {next : σ → ι → σ} {P : σ → ι → Prop} {I : σ → Prop}
    (hstep : ∀ {s op}, I s → P s op → I (next s op)) {s : σ} (h : I s) {ops : List ι}
    (hall : AllAlong next P s ops) : I (ops.foldl next s) := by
  induction ops generalizing s with
  | nil => exact h
  | cons op ops ih => exact ih (hstep h hall.1) hall.2

variable {f : σ → ι → σ × ρ} {g : τ → ι → τ × ρ} {s : σ} {t : τ}

@[simp] theorem after_cons (op : ι) (ops : List ι) : after f s (op :: ops) = after f (f s op).1 ops := rfl

theorem AgreesAlong.head {ops : List ι} (h : AgreesAlong f g s t ops) (op : ι) :
    (f s op).2 = (g t op).2 := h [] (List.nil_prefix) op

theorem agreesAlong_cons (op : ι) (ops : List ι) :
    AgreesAlong f g s t (op :: ops) ↔
      (∀ op', (f s op').2 = (g t op').2) ∧ AgreesAlong f g (f s op).1 (g t op).1 ops := by
  constructor
  · intro h
    refine ⟨h.head, fun pre hpre op' => ?_⟩
    exact h (op :: pre) ((List.prefix_cons_inj op).2 hpre) op'
  · rintro ⟨hnow, hlater⟩ pre hpre op'
    cases pre with
    | nil => exact hnow op'
    | cons op'' pre =>
        obtain ⟨rfl, htail⟩ := List.cons_prefix_cons.1 hpre
        exact hlater pre htail op'

/-- **A relation that the operations with `Q` keep exactly under the condition `P`**: related states answer
alike, an operation under the condition keeps the relation, and one without it makes a difference that some
operation shows. -/
theorem agreesAlong_iff {R : σ → τ → Prop} {P : σ → ι → Prop} {Q : ι → Prop}
    (hanswer : ∀ {s t}, R s t → ∀ op, (f s op).2 = (g t op).2)
    (hkeep : ∀ {s t op}, R s t → Q op → P s op → R (f s op).1 (g t op).1)
    (hbreak : ∀ {s t op}, R s t → ¬ P s op → ∃ op', (f (f s op).1 op').2 ≠ (g (g t op).1 op').2)
    (h : R s t) {ops : List ι} (hops : ∀ op ∈ ops, Q op) :
    AgreesAlong f g s t ops ↔ AllAlong (fun s op => (f s op).1) P s ops := by
  induction ops generalizing s t with
  | nil =>
      refine iff_of_true (fun pre hpre op => ?_) trivial
      obtain rfl := List.prefix_nil.1 hpre
      exact hanswer h op
  | cons op ops ih =>
      have hop := hops op List.mem_cons_self
      have hlist := fun op' hmem => hops op' (List.mem_cons_of_mem op hmem)
      rw [agreesAlong_cons, AllAlong]
      constructor
      · rintro ⟨-, hlater⟩
        by_cases hP : P s op
        · exact ⟨hP, (ih (hkeep h hop hP) hlist).1 hlater⟩
        · obtain ⟨op', hne⟩ := hbreak h hP
          exact absurd (hlater.head op') hne
      · rintro ⟨hP, hall⟩
        exact ⟨hanswer h, (ih (hkeep h hop hP) hlist).2 hall⟩

end Rquic

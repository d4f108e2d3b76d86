import Mathlib.Data.List.Basic

set_option autoImplicit false

/-!
# Resumable readers

A reader that takes elements one at a time until it has read an item, and keeps what it knows in a state,
so that the input may come in chunks.

* `Taken`: how far a reader went.
* `scan`: elements one after the other, until the item is read.
* `feed`: chunks one after the other, until the item is read.
* **`feed_eq_scan`**: where the input is cut makes no difference.
-/

namespace Rquic

/-- How far a reader went: its state, the number of elements it took, and whether the item is read. -/
structure Taken (σ : Type) where
  state : σ
  taken : ℕ
  fin : Bool
  deriving DecidableEq, Repr

variable {σ β : Type}

/-- Go on from where the reader `r` stopped, unless the item is read. -/
def Taken.andThen (r : Taken σ) (k : σ → Taken σ) : Taken σ :=
  if r.fin then r else ⟨(k r.state).state, r.taken + (k r.state).taken, (k r.state).fin⟩

/-- Elements go in one after the other, until the item is read. -/
def scan (step : σ → β → σ × Bool) : σ → List β → Taken σ
  | s, [] => ⟨s, 0, false⟩
  | s, b :: bs => Taken.andThen ⟨(step s b).1, 1, (step s b).2⟩ fun s => scan step s bs

/-- Chunks go in one after the other, until the item is read. -/
def feed (read : List β → σ → Taken σ) : σ → List (List β) → Taken σ
  | s, [] => ⟨s, 0, false⟩
  | s, chunk :: chunks => (read chunk s).andThen fun s => feed read s chunks

theorem Taken.andThen_assoc (r : Taken σ) (k l : σ → Taken σ) :
    (r.andThen k).andThen l = r.andThen fun s => (k s).andThen l := by
  unfold Taken.andThen
  by_cases hr : r.fin
  · rw [if_pos hr, if_pos hr, if_pos hr]
  · rw [if_neg hr, if_neg hr]
    dsimp only
    by_cases hk : (k r.state).fin
    · rw [if_pos hk, if_pos hk]
    · rw [if_neg hk, if_neg hk, Nat.add_assoc]

theorem Taken.andThen_start (s : σ) (k : σ → Taken σ) : Taken.andThen ⟨s, 0, false⟩ k = k s := by
  unfold Taken.andThen
  rw [if_neg (by simp)]
  dsimp only
  rw [Nat.zero_add]

variable {step : σ → β → σ × Bool}

theorem scan_append (s : σ) (bs cs : List β) :
    scan step s (bs ++ cs) = (scan step s bs).andThen fun s => scan step s cs := by
  induction bs generalizing s with
  | nil => rw [scan, Taken.andThen_start, List.nil_append]
  | cons b bs ih =>
      rw [List.cons_append, scan, scan, Taken.andThen_assoc]
      congr 1
      funext s'
      exact ih s'

/-- **Where the input is cut makes no difference** to a reader that goes through each chunk element by
element. -/
theorem feed_eq_scan {read : List β → σ → Taken σ}
    (hread : ∀ chunk s, read chunk s = scan step s chunk) (s : σ) (chunks : List (List β)) :
    feed read s chunks = scan step s chunks.flatten := by
  induction chunks generalizing s with
  | nil => rfl
  | cons chunk chunks ih =>
      rw [feed, List.flatten_cons, scan_append, hread]
      congr 1
      funext s'
      exact ih s'

end Rquic

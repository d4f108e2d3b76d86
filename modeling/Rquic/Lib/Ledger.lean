import Mathlib.Algebra.BigOperators.Group.Finset.Piecewise
import Mathlib.Algebra.Order.BigOperators.Group.Finset
import Mathlib.Algebra.Order.Ring.Nat
import Mathlib.Data.Nat.ModEq
import Mathlib.Tactic.Ring

set_option autoImplicit false

/-!
# Ledgers

The sum of many accounts, kept in a counter that wraps around.

* `Tallies`: the counter holds the sum, as far as it can.
* `Tallies.post`, `Tallies.widen`: one account changes, and new accounts are opened.
* **`Tallies.exact`**: a sum that the counter can hold is what it holds.
-/

namespace Rquic

variable {ι : Type*} {m n : ℕ} {S T : Finset ι} {f g : ι → ℕ}

/-- The counter `n`, which wraps around at `m`, holds the sum of the accounts `S`. -/
def Tallies (m : ℕ) (S : Finset ι) (f : ι → ℕ) (n : ℕ) : Prop := n = (∑ i ∈ S, f i) % m

theorem Tallies.lt (h : Tallies m S f n) (hm : 0 < m) : n < m := by
  rw [h]
  exact Nat.mod_lt _ hm

/-- **A sum that the counter can hold is what it holds.** -/
theorem Tallies.exact (h : Tallies m S f n) (hlt : ∑ i ∈ S, f i < m) : n = ∑ i ∈ S, f i :=
  Eq.trans h (Nat.mod_eq_of_lt hlt)

theorem Tallies.widen (h : Tallies m S f n) (hsub : S ⊆ T) (hzero : ∀ i ∉ S, f i = 0) :
    Tallies m T f n := by
  unfold Tallies at h ⊢
  rw [← Finset.sum_subset hsub fun i _ hi => hzero i hi]
  exact h

variable [DecidableEq ι]

theorem sum_update_add {i : ι} (hi : i ∈ S) (f : ι → ℕ) (v : ℕ) :
    (∑ j ∈ S, Function.update f i v j) + f i = (∑ j ∈ S, f j) + v := by
  rw [Finset.sum_update_of_mem hi, ← Finset.sum_sdiff (Finset.singleton_subset_iff.2 hi) (f := f),
    Finset.sum_singleton]
  ring

/-- **One account changes**, and the counter is moved by the difference. -/
theorem Tallies.post (h : Tallies m S f n) {i : ι} (hi : i ∈ S) {d v : ℕ}
    (hd : f i + d ≡ v [MOD m]) : Tallies m S (Function.update f i v) ((n + d) % m) := by
  have hsum := sum_update_add hi f v
  have hn : n ≡ ∑ j ∈ S, f j [MOD m] := by
    rw [Nat.ModEq, h, Nat.mod_mod]
  have hgoal : n + d + f i ≡ (∑ j ∈ S, Function.update f i v j) + f i [MOD m] := by
    calc n + d + f i = n + (f i + d) := by ring
      _ ≡ (∑ j ∈ S, f j) + v [MOD m] := hn.add hd
      _ = (∑ j ∈ S, Function.update f i v j) + f i := hsum.symm
  exact Nat.ModEq.add_right_cancel' (f i) hgoal

end Rquic

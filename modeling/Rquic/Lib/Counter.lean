import Mathlib.Algebra.Order.Ring.Nat
import Mathlib.Tactic.SplitIfs

set_option autoImplicit false

/-!
# Counters of 32 bits

* `u32Add`, `u32Sub`: a counter wraps around.
* `boundedSub`, `boundedSub_eq`: a subtraction that stops at zero.
-/

namespace Rquic

def u32Add (a b : ℕ) : ℕ := (a + b) % 2 ^ 32

def u32Sub (a b : ℕ) : ℕ := (a + (2 ^ 32 - b % 2 ^ 32)) % 2 ^ 32

/-- A subtraction that stops at zero. -/
def boundedSub (a b : ℕ) : ℕ := if b < a then a - b else 0

theorem boundedSub_eq {a b : ℕ} : boundedSub a b = a - b := by
  unfold boundedSub
  split_ifs <;> omega

end Rquic

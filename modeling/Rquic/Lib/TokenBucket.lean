import Mathlib.Algebra.Order.Ring.Nat
import Mathlib.Tactic.Ring

set_option autoImplicit false

/-!
# Token buckets

A bucket is filled at a constant rate up to its burst size, and a sender takes tokens out of it.

* `Bucket`, `Bucket.avail`, `Bucket.spend`: what is there at a time, and taking some of it.
* `avail_mono`, `avail_full`: the bucket fills with time, and is full after a gap that is long enough.
-/

namespace Rquic

/-- The rate in tokens for each `unit` of time, and the size of the bucket. -/
structure BucketParams where
  rate : ℕ
  unit : ℕ
  burst : ℕ

/-- The tokens that were left when some were taken last. A bucket that was never used is full. -/
structure Bucket where
  tokens : ℕ
  last : Option ℕ
  deriving DecidableEq, Repr

namespace Bucket

variable (P : BucketParams) (b : Bucket)

/-- The tokens at the time `now`. -/
def avail (now : ℕ) : ℕ :=
  match b.last with
  | none => P.burst
  | some last => min P.burst (b.tokens + (now - last) * P.rate / P.unit)

/-- `n` tokens are taken, or all that there are. -/
def spend (n now : ℕ) : Bucket := ⟨b.avail P now - n, some now⟩

variable {P b}

theorem avail_mono {now now' : ℕ} (h : now ≤ now') : b.avail P now ≤ b.avail P now' := by
  unfold avail
  split
  · exact le_rfl
  · rename_i last hlast
    have hgap : (now - last) * P.rate ≤ (now' - last) * P.rate := Nat.mul_le_mul_right _ (by omega)
    exact min_le_min_left _ (Nat.add_le_add_left (Nat.div_le_div_right hgap) _)

theorem avail_full {last now : ℕ} (hlast : b.last = some last)
    (h : P.burst ≤ b.tokens + (now - last) * P.rate / P.unit) : b.avail P now = P.burst := by
  rw [avail, hlast]
  exact min_eq_left h

end Bucket

end Rquic

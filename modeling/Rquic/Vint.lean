import Mathlib.Tactic.IntervalCases
import Rquic.Lib.Codec
import Rquic.Defs

set_option autoImplicit false

/-!
# Variable-length integers

The encoding of `rqc_variable_len_int.h`: two bits of length class, then the value, big endian.

* `vintGet2bit`, `vintLen`, `vintWrite`: the writing macros.
* `vintRead`: `rqc_vint_read`, on the bytes between the read position and the end.
* **`vintRead_vintWrite`**: a value that fits its length class is read back.
-/

namespace Rquic

/-- `rqc_vint_get_2bit`: the length class of a value. -/
def vintGet2bit (val : ℕ) : ℕ :=
  (if 2 ^ 6 ≤ val then 1 else 0) + (if 2 ^ 14 ≤ val then 1 else 0) +
    (if 2 ^ 30 ≤ val then 1 else 0)

/-- `rqc_vint_usable_bits`. -/
def vintUsableBits (twoBit : ℕ) : ℕ := 2 ^ (3 + twoBit) - 2

/-- `rqc_vint_len`. -/
def vintLen (twoBit : ℕ) : ℕ := 2 ^ twoBit

/-- `rqc_vint_write`. -/
def vintWrite (val twoBit len : ℕ) : Bytes :=
  beBytes len (val ||| (twoBit <<< vintUsableBits twoBit))

/-- A value in the shortest length class that holds it. -/
def vintBytes (val : ℕ) : Bytes := vintWrite val (vintGet2bit val) (vintLen (vintGet2bit val))

/-- `rqc_vint_read`, with the bytes behind the integer. -/
def vintRead : Bytes → Option (ℕ × Bytes)
  | [] => none
  | b :: bs =>
    let len := 2 ^ (b.toNat / 64)
    if (b :: bs).length < len then none
    else some (beVal ((b :: bs).take len) % 2 ^ (8 * len - 2), (b :: bs).drop len)

@[simp] theorem length_vintWrite (val twoBit len : ℕ) : (vintWrite val twoBit len).length = len := by
  simp [vintWrite]

theorem vintGet2bit_le (val : ℕ) : vintGet2bit val ≤ 3 := by
  unfold vintGet2bit
  split_ifs <;> omega

theorem lt_usableBits {val : ℕ} (h : val < 2 ^ 62) :
    val < 2 ^ vintUsableBits (vintGet2bit val) := by
  unfold vintGet2bit vintUsableBits
  split_ifs <;> simp only [Nat.reduceAdd, Nat.reducePow, Nat.reduceSub] <;> omega

/-- The number that `rqc_vint_write` spells. -/
theorem vintWrite_eq {val twoBit : ℕ} (len : ℕ) (h : val < 2 ^ vintUsableBits twoBit) :
    vintWrite val twoBit len = beBytes len (twoBit * 2 ^ vintUsableBits twoBit + val) := by
  rw [vintWrite, Nat.shiftLeft_eq, Nat.or_comm, Nat.mul_comm, ← Nat.two_pow_add_eq_or_of_lt h]

/-- The first byte of an encoding carries the length class in its two high bits. -/
theorem vintWrite_head {val twoBit : ℕ} (hb : twoBit ≤ 3) (h : val < 2 ^ vintUsableBits twoBit) :
    ∃ b bs, vintWrite val twoBit (vintLen twoBit) = b :: bs ∧ b.toNat / 64 = twoBit := by
  rw [vintWrite_eq _ h]
  unfold vintLen
  obtain ⟨k, hk⟩ : ∃ k, 2 ^ twoBit = k + 1 := ⟨2 ^ twoBit - 1, by have := Nat.two_pow_pos twoBit; omega⟩
  rw [hk, beBytes]
  refine ⟨_, _, rfl, ?_⟩
  rw [UInt8.toNat_ofNat']
  unfold vintUsableBits at h ⊢
  interval_cases twoBit <;> simp only [Nat.reduceAdd, Nat.reducePow, Nat.reduceSub] at h hk ⊢ <;>
    obtain rfl : k = _ := (Nat.succ.inj hk).symm <;> simp only [Nat.reducePow] <;> omega

/-- **A value that fits its length class is read back**, whatever follows. -/
theorem vintRead_vintWrite {val twoBit : ℕ} (hb : twoBit ≤ 3)
    (h : val < 2 ^ vintUsableBits twoBit) (rest : Bytes) :
    vintRead (vintWrite val twoBit (vintLen twoBit) ++ rest) = some (val, rest) := by
  obtain ⟨b, bs, heq, hclass⟩ := vintWrite_head hb h
  have hlen : (b :: bs).length = 2 ^ twoBit := by rw [← heq, length_vintWrite, vintLen]
  have hval : beVal (b :: bs) = (twoBit * 2 ^ vintUsableBits twoBit + val) % 256 ^ 2 ^ twoBit := by
    rw [← heq, vintWrite_eq _ h, vintLen, beVal_beBytes]
  rw [heq, List.cons_append, vintRead, hclass, ← List.cons_append,
    if_neg (by rw [List.length_append]; omega), ← hlen, List.take_left, List.drop_left, hval, hlen]
  unfold vintUsableBits at h ⊢
  interval_cases twoBit <;> simp only [Nat.reduceAdd, Nat.reducePow, Nat.reduceSub, Nat.reduceMul,
    Option.some.injEq, Prod.mk.injEq, and_true] at h ⊢ <;> omega

/-- The shortest encoding of a value below `2 ^ 62` is read back. -/
theorem vintRead_vintBytes {val : ℕ} (h : val < 2 ^ 62) (rest : Bytes) :
    vintRead (vintBytes val ++ rest) = some (val, rest) :=
  vintRead_vintWrite (vintGet2bit_le val) (lt_usableBits h) rest

theorem vintRead_of_lt {b : UInt8} (bs : Bytes) (hb : b.toNat < 64) :
    vintRead (b :: bs) = some (b.toNat, bs) := by
  have hclass : b.toNat / 64 = 0 := by omega
  rw [vintRead, hclass]
  simp only [Nat.pow_zero]
  rw [if_neg (by simp)]
  simp [beVal, Nat.mod_eq_of_lt hb]

theorem vintRead_lt {bs rest : Bytes} {v : ℕ} (h : vintRead bs = some (v, rest)) : v < 2 ^ 62 := by
  cases bs with
  | nil => cases h
  | cons b bs =>
      rw [vintRead] at h
      split_ifs at h
      obtain ⟨rfl, -⟩ := Prod.mk.inj (Option.some.inj h)
      have hclass : b.toNat / 64 ≤ 3 := by
        have := b.toNat_lt
        omega
      have hlen : 8 * 2 ^ (b.toNat / 64) - 2 ≤ 62 := by
        have := Nat.pow_le_pow_right (n := 2) (by omega) hclass
        omega
      exact (Nat.mod_lt _ (Nat.two_pow_pos _)).trans_le (Nat.pow_le_pow_right (by omega) hlen)

theorem vintRead_rest {bs rest : Bytes} {v : ℕ} (h : vintRead bs = some (v, rest)) :
    ∃ k ≤ 3, 2 ^ k ≤ bs.length ∧ rest = bs.drop (2 ^ k) := by
  cases bs with
  | nil => cases h
  | cons b bs =>
      rw [vintRead] at h
      split_ifs at h with hlen
      obtain ⟨-, rfl⟩ := Prod.mk.inj (Option.some.inj h)
      refine ⟨b.toNat / 64, ?_, not_lt.1 hlen, rfl⟩
      have := b.toNat_lt
      omega

theorem vintRead_length_lt {bs rest : Bytes} {v : ℕ} (h : vintRead bs = some (v, rest)) :
    rest.length < bs.length := by
  obtain ⟨k, -, hle, rfl⟩ := vintRead_rest h
  have hpos := Nat.two_pow_pos k
  rw [List.length_drop]
  omega

theorem length_vintBytes_pos (val : ℕ) : 0 < (vintBytes val).length := by
  simp [vintBytes, vintLen]

theorem length_vintBytes_le (val : ℕ) : (vintBytes val).length ≤ 8 := by
  rw [vintBytes, length_vintWrite, vintLen]
  exact Nat.pow_le_pow_right (by omega) (vintGet2bit_le val)

end Rquic

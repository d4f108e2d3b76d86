import Rquic.Lib.Resume
import Rquic.ParamCodec

set_option autoImplicit false

/-!
# The other readers and writers of variable-length integers

`rqc_variable_len_int.c` and `rqc_discrete_int_parser.c`, byte by byte.

* `vintReadAt`: `rqc_vint_read` as it goes through the bytes, where a read past the end has no result.
* `putVarint`: `rqc_put_varint`, a big-endian number whose first byte gets the length class.
* `discreteVintParse`: the resumable parser.
* **`vint_agree`**: the writers, the reader and the resumable parser agree.
-/

namespace Rquic

/-! ## The reader, byte by byte -/

/-- The byte at a position of the range, none past its end. -/
def byteAt (bs : Bytes) (i : ℕ) : Option ℕ := bs[i]?.map UInt8.toNat

/-- `RQC_VINT_MASK`. -/
def vintMask : ℕ := 1 <<< 6 - 1

/-- `rqc_vint_read` on a range: the value and the number of bytes read, the inner `none` for `-1`. A
read past the end of the range is the outer `none`. -/
def vintReadAt (bs : Bytes) : Option (Option (ℕ × ℕ)) :=
  if bs.length ≤ 0 then some none
  else do
    let b ← byteAt bs 0
    match b >>> 6 with
    | 0 => return some (b, 1)
    | 1 =>
      if bs.length ≤ 1 then return none
      else return some ((b &&& vintMask) <<< 8 ||| (← byteAt bs 1), 2)
    | 2 =>
      if bs.length ≤ 3 then return none
      else return some ((b &&& vintMask) <<< 24 ||| (← byteAt bs 1) <<< 16 ||| (← byteAt bs 2) <<< 8
        ||| (← byteAt bs 3), 4)
    | _ =>
      if bs.length ≤ 7 then return none
      else
        -- `memcpy`, then `bswap_64`
        let val := (← (List.range 8).mapM (byteAt bs)).foldl (fun val b => val <<< 8 ||| b) 0
        return some (val &&& (1 <<< 62 - 1), 8)

theorem shl_or_eq {a b : ℕ} (k : ℕ) (h : b < 2 ^ k) : a <<< k ||| b = a * 2 ^ k + b := by
  rw [← Nat.shiftLeft_add_eq_or_of_lt h, Nat.shiftLeft_eq]

theorem and_vintMask (b : ℕ) : b &&& vintMask = b % 64 := Nat.and_two_pow_sub_one_eq_mod b 6

theorem foldl_shl (bs : Bytes) (val : ℕ) :
    (bs.map UInt8.toNat).foldl (fun val b => val <<< 8 ||| b) val =
      val * 256 ^ bs.length + beVal bs := by
  induction bs generalizing val with
  | nil => simp [beVal]
  | cons b bs ih =>
      have hpow : val * 2 ^ 8 * 256 ^ bs.length = val * 256 ^ (bs.length + 1) := by
        rw [show (2 : ℕ) ^ 8 = 256 from rfl, Nat.mul_assoc, ← Nat.pow_succ']
      rw [List.map_cons, List.foldl_cons, ih, shl_or_eq 8 b.toNat_lt, beVal, List.length_cons,
        Nat.add_mul, Nat.add_assoc, hpow]

theorem mapM_byteAt {bs : Bytes} {k : ℕ} (h : k ≤ bs.length) :
    (List.range k).mapM (byteAt bs) = some ((bs.take k).map UInt8.toNat) := by
  induction k with
  | zero => rfl
  | succ k ih =>
      have hk : k < bs.length := h
      rw [List.range_succ, List.mapM_append, ih (by omega), List.take_succ_eq_append_getElem hk]
      simp only [List.mapM_cons, List.mapM_nil, byteAt, List.getElem?_eq_getElem hk, List.map_append]
      rfl

theorem vintRead_short {b : UInt8} {bs : Bytes} {k : ℕ} (hk : b.toNat / 64 = k)
    (hlen : (b :: bs).length < 2 ^ k) : vintRead (b :: bs) = none := by
  subst hk
  exact if_pos hlen

theorem vintRead_full {b : UInt8} {bs : Bytes} {k : ℕ} (hk : b.toNat / 64 = k)
    (hlen : 2 ^ k ≤ (b :: bs).length) :
    vintRead (b :: bs) =
      some (beVal ((b :: bs).take (2 ^ k)) % 2 ^ (8 * 2 ^ k - 2), (b :: bs).drop (2 ^ k)) := by
  subst hk
  exact if_neg (not_lt.2 hlen)

theorem two_bytes {b b1 : ℕ} (h1 : b1 < 256) :
    (b &&& vintMask) <<< 8 ||| b1 = (b * 256 + b1) % 2 ^ 14 := by
  rw [and_vintMask, shl_or_eq 8 h1]
  omega

theorem four_bytes {b b1 b2 b3 : ℕ} (h1 : b1 < 256) (h2 : b2 < 256) (h3 : b3 < 256) :
    (b &&& vintMask) <<< 24 ||| b1 <<< 16 ||| b2 <<< 8 ||| b3 =
      (b * 2 ^ 24 + b1 * 2 ^ 16 + b2 * 2 ^ 8 + b3) % 2 ^ 30 := by
  rw [and_vintMask, Nat.or_assoc, Nat.or_assoc, shl_or_eq 8 h3, shl_or_eq 16 (by omega),
    shl_or_eq 24 (by omega)]
  omega

/-- **The reader stays inside its range** and reads what `vintRead` does. -/
theorem vintReadAt_eq (bs : Bytes) :
    vintReadAt bs = some ((vintRead bs).map fun r => (r.1, bs.length - r.2.length)) := by
  cases bs with
  | nil => rfl
  | cons b bs =>
      have hb := b.toNat_lt
      have hhead : byteAt (b :: bs) 0 = some b.toNat := rfl
      rw [vintReadAt, if_neg (by simp), hhead]
      simp only [Option.bind_eq_bind, Option.bind_some, Nat.shiftRight_eq_div_pow, Nat.reducePow,
        Option.pure_def]
      obtain h0 | h1 | h2 | h3 : b.toNat / 64 = 0 ∨ b.toNat / 64 = 1 ∨ b.toNat / 64 = 2 ∨
        b.toNat / 64 = 3 := by omega
      · rw [vintRead_of_lt bs (by omega), h0]
        simp
      · rw [h1]
        change (if (b :: bs).length ≤ 1 then some none else _) = _
        by_cases hlen : (b :: bs).length ≤ 1
        · rw [if_pos hlen, vintRead_short h1 (by omega)]
          rfl
        · rw [if_neg hlen, vintRead_full h1 (by omega)]
          obtain ⟨b1, bs, rfl⟩ : ∃ b1 bs', bs = b1 :: bs' := by
            apply List.exists_cons_of_length_pos
            simp only [List.length_cons] at hlen
            omega
          have hval := two_bytes (b := b.toNat) b1.toNat_lt
          simp [byteAt, beVal, hval]
          omega
      · rw [h2]
        change (if (b :: bs).length ≤ 3 then some none else _) = _
        by_cases hlen : (b :: bs).length ≤ 3
        · rw [if_pos hlen, vintRead_short h2 (by omega)]
          rfl
        · rw [if_neg hlen, vintRead_full h2 (by omega)]
          rcases bs with _ | ⟨b1, _ | ⟨b2, _ | ⟨b3, bs⟩⟩⟩
          · exact absurd (by simp) hlen
          · exact absurd (by simp) hlen
          · exact absurd (by simp) hlen
          have hval := four_bytes (b := b.toNat) b1.toNat_lt b2.toNat_lt b3.toNat_lt
          simp [byteAt, beVal, hval]
          omega
      · rw [h3]
        change (if (b :: bs).length ≤ 7 then some none else _) = _
        by_cases hlen : (b :: bs).length ≤ 7
        · rw [if_pos hlen, vintRead_short h3 (by omega)]
          rfl
        · rw [if_neg hlen, vintRead_full h3 (by omega), mapM_byteAt (by omega)]
          change some (some (_ &&& (2 ^ 62 - 1), 8)) = _
          rw [foldl_shl, Nat.and_two_pow_sub_one_eq_mod, Nat.zero_mul, Nat.zero_add]
          have htaken : (b :: bs).length - ((b :: bs).drop (2 ^ 3)).length = 8 := by
            rw [List.length_drop]
            omega
          rw [Option.map_some, htaken]
          rfl

/-! ## The second writer -/

/-- `*p |= mask` on the first byte of an output. -/
def orHead (mask : UInt8) : Bytes → Bytes
  | [] => []
  | b :: bs => (b ||| mask) :: bs

/-- `rqc_put_varint`: none for the null pointer. -/
def putVarint (n : ℕ) : Option Bytes :=
  if n < 64 then some [UInt8.ofNat n]
  else if n < 16384 then some (orHead 0x40 (beBytes 2 n))
  else if n < 1073741824 then some (orHead 0x80 (beBytes 4 n))
  else if 4611686018427387904 ≤ n then none
  else some (orHead 0xc0 (beBytes 8 n))

theorem beBytes_add_mul (k n c : ℕ) : beBytes k (c * 256 ^ k + n) = beBytes k n := by
  induction k generalizing c with
  | zero => rfl
  | succ k ih =>
      have hmul : c * 256 ^ (k + 1) = c * 256 * 256 ^ k := by rw [Nat.pow_succ', Nat.mul_assoc]
      have hdiv : (c * 256 ^ (k + 1) + n) / 256 ^ k = c * 256 + n / 256 ^ k := by
        rw [hmul, Nat.add_comm, Nat.add_mul_div_right _ _ (Nat.pow_pos (by omega)), Nat.add_comm]
      rw [beBytes, beBytes, hdiv, hmul, ih]
      congr 1
      apply UInt8.toNat_inj.1
      rw [UInt8.toNat_ofNat', UInt8.toNat_ofNat']
      omega

theorem orHead_beBytes {k n c : ℕ} (hn : n < 64 * 256 ^ k) (hc : c ≤ 3) :
    orHead (UInt8.ofNat (c * 64)) (beBytes (k + 1) n) =
      beBytes (k + 1) (c * 64 * 256 ^ k + n) := by
  have hpos : 0 < 256 ^ k := Nat.pow_pos (by omega)
  have hhead : n / 256 ^ k < 64 := Nat.div_lt_of_lt_mul (by rwa [Nat.mul_comm])
  have hdiv : (c * 64 * 256 ^ k + n) / 256 ^ k = c * 64 + n / 256 ^ k := by
    rw [Nat.add_comm, Nat.add_mul_div_right _ _ hpos, Nat.add_comm]
  rw [beBytes, beBytes, orHead, beBytes_add_mul, hdiv]
  congr 1
  apply UInt8.toNat_inj.1
  rw [UInt8.toNat_or, UInt8.toNat_ofNat', UInt8.toNat_ofNat', UInt8.toNat_ofNat',
    Nat.mod_eq_of_lt (by omega), Nat.mod_eq_of_lt (by omega), Nat.mod_eq_of_lt (by omega), Nat.or_comm]
  have hor := shl_or_eq (a := c) 6 hhead
  rwa [Nat.shiftLeft_eq] at hor

/-- **The two writers agree.** -/
theorem putVarint_eq {v : ℕ} (hv : v < 2 ^ 62) : putVarint v = some (vintBytes v) := by
  rw [vintBytes, vintWrite_eq _ (lt_usableBits hv)]
  unfold putVarint
  by_cases h0 : v < 64
  · have hclass : vintGet2bit v = 0 := by
      rw [vintGet2bit, if_neg (by omega), if_neg (by omega), if_neg (by omega)]
    rw [if_pos h0, hclass]
    simp [beBytes, vintLen]
  by_cases h1 : v < 16384
  · have hclass : vintGet2bit v = 1 := by
      rw [vintGet2bit, if_pos (by omega), if_neg (by omega), if_neg (by omega)]
    have hor := orHead_beBytes (k := 1) (n := v) (c := 1) (by omega) (by omega)
    rw [if_neg h0, if_pos h1, hclass]
    exact congrArg some hor
  by_cases h2 : v < 1073741824
  · have hclass : vintGet2bit v = 2 := by
      rw [vintGet2bit, if_pos (by omega), if_pos (by omega), if_neg (by omega)]
    have hor := orHead_beBytes (k := 3) (n := v) (c := 2) (by omega) (by omega)
    rw [if_neg h0, if_neg h1, if_pos h2, hclass]
    exact congrArg some hor
  · have hclass : vintGet2bit v = 3 := by
      rw [vintGet2bit, if_pos (by omega), if_pos (by omega), if_pos (by omega)]
    have hor := orHead_beBytes (k := 7) (n := v) (c := 3) (by omega) (by omega)
    rw [if_neg h0, if_neg h1, if_neg h2, if_neg (by omega), hclass]
    exact congrArg some hor

/-! ## The resumable parser -/

/-- `rqc_discrete_int_pctx_t`. -/
structure DiscreteIntPctx where
  vi : ℕ
  left : ℕ
  deriving DecidableEq, Repr

/-- `rqc_discrete_int_pctx_clear`. -/
def DiscreteIntPctx.clear : DiscreteIntPctx := ⟨0, 0⟩

/-- The first byte: `rqc_get_varint_len`, `rqc_get_varint_fb`, and one byte less to go. -/
def DiscreteIntPctx.first (b : UInt8) : DiscreteIntPctx :=
  ⟨b.toNat &&& 0x3f, 1 <<< (b.toNat >>> 6) - 1⟩

/-- A later byte is shifted into the 64 bits of `pctx->vi`. -/
def shiftInByte (vi : ℕ) (b : UInt8) : ℕ := (vi <<< 8 + b.toNat) % 2 ^ 64

/-- The loop of `rqc_discrete_vint_parse` over what is there of the later bytes; `pos` bytes of the chunk
are behind it. -/
def parseLater (bs : Bytes) (pctx : DiscreteIntPctx) (pos : ℕ) : Taken DiscreteIntPctx :=
  let cnt := min pctx.left bs.length
  let vi := (bs.take cnt).foldl shiftInByte pctx.vi
  ⟨⟨vi, pctx.left - cnt⟩, pos + cnt, decide (pctx.left - cnt = 0)⟩

/-- `rqc_discrete_vint_parse` on one chunk. -/
def discreteVintParse (chunk : Bytes) (pctx : DiscreteIntPctx) : Taken DiscreteIntPctx :=
  match chunk with
  | [] => ⟨pctx, 0, false⟩
  | b :: bs => if pctx.left = 0 then parseLater bs (.first b) 1 else parseLater (b :: bs) pctx 0

/-- What the parser does at one byte. -/
def vintStep (pctx : DiscreteIntPctx) (b : UInt8) : DiscreteIntPctx × Bool :=
  let pctx := if pctx.left = 0 then .first b else ⟨shiftInByte pctx.vi b, pctx.left - 1⟩
  (pctx, decide (pctx.left = 0))

@[simp] theorem DiscreteIntPctx.first_left (b : UInt8) :
    (DiscreteIntPctx.first b).left = 2 ^ (b.toNat / 64) - 1 := by
  rw [first, Nat.shiftRight_eq_div_pow, Nat.shiftLeft_eq, Nat.one_mul]

@[simp] theorem DiscreteIntPctx.first_vi (b : UInt8) :
    (DiscreteIntPctx.first b).vi = b.toNat % 64 := Nat.and_two_pow_sub_one_eq_mod b.toNat 6

theorem parseLater_cons {pctx : DiscreteIntPctx} (h : pctx.left ≠ 0) (b : UInt8) (bs : Bytes)
    (pos : ℕ) : parseLater (b :: bs) pctx pos =
      parseLater bs ⟨shiftInByte pctx.vi b, pctx.left - 1⟩ (pos + 1) := by
  obtain ⟨vi, left⟩ := pctx
  obtain ⟨left, rfl⟩ := Nat.exists_eq_succ_of_ne_zero h
  unfold parseLater
  dsimp only
  rw [List.length_cons, Nat.succ_min_succ, List.take_succ_cons, List.foldl_cons,
    Nat.succ_sub_succ, Nat.add_right_comm]
  rfl

theorem parseLater_done {pctx : DiscreteIntPctx} (h : pctx.left = 0) (bs : Bytes) (pos : ℕ) :
    parseLater bs pctx pos = ⟨pctx, pos, true⟩ := by
  obtain ⟨vi, left⟩ := pctx
  obtain rfl : left = 0 := h
  simp [parseLater]

/-- The loop goes through the later bytes one at a time, and not at all where none is left. -/
theorem parseLater_eq (bs : Bytes) (pctx : DiscreteIntPctx) (pos : ℕ) :
    parseLater bs pctx pos =
      Taken.andThen ⟨pctx, pos, decide (pctx.left = 0)⟩ fun pctx => scan vintStep pctx bs := by
  induction bs generalizing pctx pos with
  | nil => simp [parseLater, Taken.andThen, scan]
  | cons b bs ih =>
      by_cases h : pctx.left = 0
      · rw [parseLater_done h, decide_eq_true h]
        rfl
      · have hstep : vintStep pctx b = (⟨shiftInByte pctx.vi b, pctx.left - 1⟩,
            decide (pctx.left - 1 = 0)) := by rw [vintStep, if_neg h]
        have hscan := fun pctx => scan.eq_2 vintStep pctx b bs
        rw [parseLater_cons h, ih, decide_eq_false h]
        simp only [hscan]
        rw [← Taken.andThen_assoc]
        change _ = Taken.andThen ⟨(vintStep pctx b).1, pos + 1, (vintStep pctx b).2⟩ _
        rw [hstep]

theorem discreteVintParse_eq_scan (chunk : Bytes) (pctx : DiscreteIntPctx) :
    discreteVintParse chunk pctx = scan vintStep pctx chunk := by
  cases chunk with
  | nil => rfl
  | cons b bs =>
      rw [discreteVintParse, scan, vintStep]
      by_cases h : pctx.left = 0
      · rw [if_pos h, if_pos h, parseLater_eq]
      · rw [if_neg h, if_neg h, parseLater_cons h, parseLater_eq]

theorem foldl_shiftInByte {bs : Bytes} {vi : ℕ} (h : (vi + 1) * 256 ^ bs.length ≤ 2 ^ 64) :
    bs.foldl shiftInByte vi = vi * 256 ^ bs.length + beVal bs := by
  induction bs generalizing vi with
  | nil => simp [beVal]
  | cons b bs ih =>
      have hb := b.toNat_lt
      have hpow : 256 ^ (b :: bs).length = 256 * 256 ^ bs.length := Nat.pow_succ'
      have hpos : 0 < 256 ^ bs.length := Nat.pow_pos (by omega)
      rw [hpow, ← Nat.mul_assoc] at h
      have hle : (vi * 256 + b.toNat + 1) * 256 ^ bs.length ≤ 2 ^ 64 :=
        (Nat.mul_le_mul_right _ (by omega)).trans h
      have hbyte : shiftInByte vi b = vi * 256 + b.toNat := by
        rw [shiftInByte, Nat.shiftLeft_eq]
        exact Nat.mod_eq_of_lt (lt_of_lt_of_le (Nat.lt_succ_self _)
          ((Nat.le_mul_of_pos_right _ hpos).trans hle))
      rw [List.foldl_cons, hbyte, ih hle, hpow, beVal, Nat.add_mul, Nat.add_assoc, Nat.mul_assoc]

theorem beVal_lt (bs : Bytes) : beVal bs < 256 ^ bs.length := by
  induction bs with
  | nil => simp [beVal]
  | cons b bs ih =>
      have hb := b.toNat_lt
      have hmul : (b.toNat + 1) * 256 ^ bs.length ≤ 256 * 256 ^ bs.length :=
        Nat.mul_le_mul_right _ (by omega)
      rw [beVal, List.length_cons, Nat.pow_succ']
      rw [Nat.add_mul] at hmul
      omega

theorem mul_add_mod_class (b : ℕ) {r m : ℕ} (hr : r < m) :
    (b * m + r) % (64 * m) = b % 64 * m + r := by
  have hdiv : (b * m + r) / m = b := by
    rw [Nat.add_comm, Nat.add_mul_div_right _ _ (by omega), Nat.div_eq_of_lt hr, Nat.zero_add]
  have hmod : (b * m + r) % m = r := by rw [Nat.mul_add_mod_self_right, Nat.mod_eq_of_lt hr]
  rw [Nat.mul_comm 64, Nat.mod_mul, hdiv, hmod, Nat.add_comm, Nat.mul_comm m]

/-- A new integer that lies in one chunk as a whole. -/
theorem discreteVintParse_of_vintRead {bs rest : Bytes} {v : ℕ} (h : vintRead bs = some (v, rest))
    {pctx : DiscreteIntPctx} (hnew : pctx.left = 0) :
    discreteVintParse bs pctx = ⟨⟨v, 0⟩, bs.length - rest.length, true⟩ := by
  cases bs with
  | nil => cases h
  | cons b bs =>
      have hb := b.toNat_lt
      obtain ⟨k, hk⟩ : ∃ k, b.toNat / 64 = k := ⟨_, rfl⟩
      obtain ⟨n, hn⟩ : ∃ n, 2 ^ k = n + 1 :=
        ⟨2 ^ k - 1, by have := Nat.two_pow_pos k; omega⟩
      have hn7 : n ≤ 7 := by
        have hpow : 2 ^ k ≤ 2 ^ 3 := Nat.pow_le_pow_right (by omega) (by omega)
        omega
      have hlen : n ≤ bs.length := by
        by_contra hlt
        rw [vintRead_short hk (by rw [hn, List.length_cons]; omega)] at h
        cases h
      rw [vintRead_full hk (by rw [hn, List.length_cons]; omega), hn] at h
      obtain ⟨rfl, rfl⟩ := Prod.mk.inj (Option.some.inj h)
      have hrem : (bs.take n).length = n := List.length_take_of_le hlen
      have hval : beVal ((b :: bs).take (n + 1)) % 2 ^ (8 * (n + 1) - 2) =
          b.toNat % 64 * 256 ^ n + beVal (bs.take n) := by
        have hwidth : 2 ^ (8 * (n + 1) - 2) = 64 * 256 ^ n := by
          rw [show 8 * (n + 1) - 2 = 6 + 8 * n by omega, Nat.pow_add, Nat.pow_mul]
        have hlt := beVal_lt (bs.take n)
        rw [hrem] at hlt
        rw [hwidth, List.take_succ_cons, beVal, hrem]
        exact mul_add_mod_class _ hlt
      have hfit : (b.toNat % 64 + 1) * 256 ^ (bs.take n).length ≤ 2 ^ 64 := by
        rw [hrem]
        have hpow : 256 ^ n ≤ 256 ^ 7 := Nat.pow_le_pow_right (by omega) hn7
        exact (Nat.mul_le_mul (by omega : _ ≤ 64) hpow).trans (by norm_num)
      have hleft : (DiscreteIntPctx.first b).left = n := by
        rw [DiscreteIntPctx.first_left, hk, hn]
        rfl
      rw [discreteVintParse, if_pos hnew, parseLater, hleft, Nat.min_eq_left hlen,
        DiscreteIntPctx.first_vi, foldl_shiftInByte hfit, hrem, hval, Nat.sub_self,
        List.drop_succ_cons, List.length_drop, List.length_cons]
      congr 1
      omega

/-- A code that is read back is read over its bytes. -/
theorem vintReadAt_append {code rest : Bytes} {v : ℕ}
    (h : vintRead (code ++ rest) = some (v, rest)) :
    vintReadAt (code ++ rest) = some (some (v, code.length)) := by
  rw [vintReadAt_eq, h, Option.map_some, List.length_append, Nat.add_sub_cancel]

theorem lt_usableBits_of_le {v twoBit : ℕ} (hv : v < 2 ^ 62) (hle : vintGet2bit v ≤ twoBit) :
    v < 2 ^ vintUsableBits twoBit := by
  apply (lt_usableBits hv).trans_le
  apply Nat.pow_le_pow_right (by omega)
  exact Nat.sub_le_sub_right (Nat.pow_le_pow_right (by omega) (by omega)) 2

/-- **The writers, the reader and the resumable parser agree.** A value below `2 ^ 62` in the length
class that `rqc_vint_get_2bit` chooses or a wider one, or as `rqc_put_varint` writes it, is read back over
exactly its bytes. A read stays inside its range. And an integer that comes in chunks is the one that is
read from the whole. -/
theorem vint_agree :
    (∀ v < 2 ^ 62,
      (∀ twoBit, vintGet2bit v ≤ twoBit → twoBit ≤ 3 → ∀ rest,
        vintReadAt (vintWrite v twoBit (vintLen twoBit) ++ rest) = some (some (v, vintLen twoBit))) ∧
      (∃ out, putVarint v = some out ∧ out.length = putVarintLen v ∧
        ∀ rest, vintReadAt (out ++ rest) = some (some (v, out.length))) ∧
      putVarintLen v = vintLen (vintGet2bit v)) ∧
    (∀ bs, (vintReadAt bs).isSome) ∧
    ∀ chunks v n pctx, DiscreteIntPctx.left pctx = 0 →
      vintReadAt chunks.flatten = some (some (v, n)) →
      feed discreteVintParse pctx chunks = ⟨⟨v, 0⟩, n, true⟩ := by
  refine ⟨fun v hv => ⟨fun twoBit hle h3 rest => ?_, ?_, ?_⟩, fun bs => ?_, ?_⟩
  · have hread := vintRead_vintWrite h3 (lt_usableBits_of_le hv hle) rest
    rw [vintReadAt_append hread, length_vintWrite]
  · exact ⟨vintBytes v, putVarint_eq hv, length_vintBytes v,
      fun rest => vintReadAt_append (vintRead_vintBytes hv rest)⟩
  · rw [← length_vintBytes, vintBytes, length_vintWrite]
  · rw [vintReadAt_eq]
    rfl
  · intro chunks v n pctx hnew h
    rw [vintReadAt_eq, Option.some.injEq, Option.map_eq_some_iff] at h
    obtain ⟨⟨v', rest⟩, hread, heq⟩ := h
    obtain ⟨rfl, rfl⟩ := Prod.mk.inj heq
    rw [feed_eq_scan discreteVintParse_eq_scan, ← discreteVintParse_eq_scan,
      discreteVintParse_of_vintRead hread hnew]

/-- 16384 takes four bytes; a chunk may be empty, and the byte behind the integer stays. -/
theorem vint_agree_16384 :
    vintReadAt (vintWrite 16384 2 (vintLen 2) ++ [7]) = some (some (16384, 4)) ∧
    feed discreteVintParse .clear [[0x80], [], [0x00, 0x40], [0x00, 0x07]] = ⟨⟨16384, 0⟩, 4, true⟩ :=
  ⟨(vint_agree.1 16384 (by decide)).1 2 (by decide) (by decide) [7],
    vint_agree.2.2 _ 16384 4 .clear rfl (by decide)⟩

end Rquic

import Mathlib.Algebra.Order.Ring.Nat
import Mathlib.Data.List.Basic
import Mathlib.Tactic.SplitIfs

set_option autoImplicit false

/-!
# Byte strings and self-delimiting codes

Big-endian numbers, readers that consume a prefix of their input, and the loop that reads a
sequence of items.

* `beBytes`, `beVal`: a number as big-endian bytes and back.
* `Decodes`: a reader recovers an item from its code, whatever follows.
* `decodeAll`: read items until the input is used up.
* `DecodesSeq`: a sequence of codes, the last of which may need the end of the input.
* **`decodeAll_flatten`**: a concatenation of codes is read back item by item.
-/

namespace Rquic

/-! ## Big-endian numbers -/

/-- The low `k` bytes of `n`, most significant first. -/
def beBytes : ℕ → ℕ → List UInt8
  | 0, _ => []
  | k + 1, n => UInt8.ofNat (n / 256 ^ k) :: beBytes k n

/-- The number that big-endian bytes spell. -/
def beVal : List UInt8 → ℕ
  | [] => 0
  | b :: bs => b.toNat * 256 ^ bs.length + beVal bs

@[simp] theorem length_beBytes (k n : ℕ) : (beBytes k n).length = k := by
  induction k with
  | zero => rfl
  | succ k ih => simp [beBytes, ih]

/-- **A number that fits is read back.** -/
theorem beVal_beBytes (k n : ℕ) : beVal (beBytes k n) = n % 256 ^ k := by
  induction k with
  | zero => simp [beBytes, beVal, Nat.mod_one]
  | succ k ih =>
      rw [beBytes, beVal, ih, length_beBytes, UInt8.toNat_ofNat']
      have hpow : (2 : ℕ) ^ 8 = 256 := rfl
      rw [hpow, Nat.pow_succ, Nat.mul_comm (256 ^ k) 256, Nat.mul_comm 256 (256 ^ k),
        Nat.mod_mul, Nat.add_comm, Nat.mul_comm]

/-! ## Self-delimiting codes -/

section Codec

variable {α β ε : Type}

/-- The reader `p` recovers `x` from the code `e`, whatever follows it. -/
def Decodes (p : List β → Except ε (α × List β)) (x : α) (e : List β) : Prop :=
  e ≠ [] ∧ ∀ rest, p (e ++ rest) = .ok (x, rest)

/-- Read items until the input is used up. A reader that consumes nothing is an error. -/
def decodeAll (p : List β → Except ε (α × List β)) (stuck : ε) :
    ℕ → List β → Except ε (List α)
  | _, [] => .ok []
  | 0, _ :: _ => .error stuck
  | fuel + 1, b :: bs =>
    match p (b :: bs) with
    | .error e => .error e
    | .ok (x, rest) =>
      if rest.length = (b :: bs).length then .error stuck
      else
        match decodeAll p stuck fuel rest with
        | .error e => .error e
        | .ok xs => .ok (x :: xs)

theorem decodeAll_cons {p : List β → Except ε (α × List β)} {stuck : ε} {x : α} {e rest : List β}
    (h : Decodes p x e) {fuel : ℕ} :
    decodeAll p stuck (fuel + 1) (e ++ rest) =
      match decodeAll p stuck fuel rest with
      | .error err => .error err
      | .ok xs => .ok (x :: xs) := by
  obtain ⟨hne, hp⟩ := h
  obtain ⟨b, bs, rfl⟩ := List.exists_cons_of_ne_nil hne
  have hrest := hp rest
  rw [List.cons_append] at hrest ⊢
  rw [decodeAll, hrest]
  have hlen : ¬ rest.length = (b :: (bs ++ rest)).length := by
    simp only [List.length_cons, List.length_append]
    omega
  simp only [if_neg hlen]

/-- **A concatenation of codes is read back item by item.** -/
theorem decodeAll_flatten {p : List β → Except ε (α × List β)} {stuck : ε}
    {items : List (α × List β)} (h : ∀ i ∈ items, Decodes p i.1 i.2) {fuel : ℕ}
    (hfuel : (items.map Prod.snd).flatten.length ≤ fuel) :
    decodeAll p stuck fuel (items.map Prod.snd).flatten = .ok (items.map Prod.fst) := by
  induction items generalizing fuel with
  | nil => cases fuel <;> rfl
  | cons i items ih =>
      have hi := h i List.mem_cons_self
      have hpos : 0 < i.2.length := List.length_pos_iff.2 hi.1
      rw [List.map_cons, List.flatten_cons] at hfuel ⊢
      rw [List.length_append] at hfuel
      obtain ⟨fuel, rfl⟩ : ∃ n, fuel = n + 1 := ⟨fuel - 1, by omega⟩
      rw [decodeAll_cons hi, ih (fun j hj => h j (List.mem_cons_of_mem _ hj)) (by omega)]
      rfl

/-- A sequence of codes with their items. The codes of an open sequence are self-delimiting but
for the last one, which is read back at the end of the input only. -/
def DecodesSeq (p : List β → Except ε (α × List β)) (closed : Bool) (items : List (α × List β)) :
    Prop :=
  if closed = true then ∀ i ∈ items, Decodes p i.1 i.2
  else ∃ pre last, items = pre ++ [last] ∧ (∀ i ∈ pre, Decodes p i.1 i.2) ∧ last.2 ≠ [] ∧
    p last.2 = .ok (last.1, [])

theorem decodesSeq_true {p : List β → Except ε (α × List β)} {items : List (α × List β)} :
    DecodesSeq p true items ↔ ∀ i ∈ items, Decodes p i.1 i.2 := by
  rw [DecodesSeq, if_pos rfl]

/-- Self-delimiting codes, then one that is read back at the end of the input. -/
theorem decodeAll_append {p : List β → Except ε (α × List β)} {stuck : ε}
    {items : List (α × List β)} (h : ∀ i ∈ items, Decodes p i.1 i.2) {last : List β} {x : α}
    (hne : last ≠ []) (hlast : p last = .ok (x, [])) {fuel : ℕ}
    (hfuel : ((items.map Prod.snd).flatten ++ last).length ≤ fuel) :
    decodeAll p stuck fuel ((items.map Prod.snd).flatten ++ last) =
      .ok (items.map Prod.fst ++ [x]) := by
  induction items generalizing fuel with
  | nil =>
      obtain ⟨b, bs, rfl⟩ := List.exists_cons_of_ne_nil hne
      obtain ⟨fuel, rfl⟩ : ∃ n, fuel = n + 1 := ⟨fuel - 1, by simp at hfuel; omega⟩
      simp only [List.map_nil, List.flatten_nil, List.nil_append]
      rw [decodeAll, hlast]
      cases fuel <;> simp [decodeAll]
  | cons i items ih =>
      have hi := h i List.mem_cons_self
      have hpos : 0 < i.2.length := List.length_pos_iff.2 hi.1
      rw [List.map_cons, List.flatten_cons, List.append_assoc] at hfuel ⊢
      rw [List.length_append] at hfuel
      obtain ⟨fuel, rfl⟩ : ∃ n, fuel = n + 1 := ⟨fuel - 1, by omega⟩
      rw [decodeAll_cons hi, ih (fun j hj => h j (List.mem_cons_of_mem _ hj)) (by omega)]
      rfl

/-- **A sequence of codes is read back.** -/
theorem DecodesSeq.decodeAll {p : List β → Except ε (α × List β)} {stuck : ε} {closed : Bool}
    {items : List (α × List β)} (h : DecodesSeq p closed items) {fuel : ℕ}
    (hfuel : (items.map Prod.snd).flatten.length ≤ fuel) :
    decodeAll p stuck fuel (items.map Prod.snd).flatten = .ok (items.map Prod.fst) := by
  cases closed with
  | true => exact decodeAll_flatten (decodesSeq_true.1 h) hfuel
  | false =>
      rw [DecodesSeq, if_neg (by decide)] at h
      obtain ⟨pre, last, rfl, hpre, hne, hlast⟩ := h
      simp only [List.map_append, List.map_singleton, List.flatten_append, List.flatten_singleton]
        at hfuel ⊢
      exact decodeAll_append hpre hne hlast hfuel

end Codec

end Rquic

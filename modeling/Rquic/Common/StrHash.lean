import Rquic.Defs
import Rquic.Lib.Buckets

set_option autoImplicit false

/-!
# The hash table of strings

`rqc_siphash.h` and `rqc_str_hash.h`: a table of chains with keys that are byte strings. The engine keeps its
connections in one.

* `siphashInit`, `siphash`, `siphashGetHash`: the keyed hash function.
* `StrHash`: the table; `StrHash.find`, `StrHash.add`, `StrHash.delete`: its operations.
* `StrHash.Refines`: the table has a stack of values for each hash and string.
* **`Refines.find`**, **`Refines.add`**, **`Refines.delete`**: what the operations do to it.

The count of the nodes of a bucket is left out: only a warning in the log reads it.
-/

namespace Rquic

/-! ## The hash function -/

/-- The variables `v0` to `v3`. -/
structure SipState where
  v0 : UInt64
  v1 : UInt64
  v2 : UInt64
  v3 : UInt64

/-- `rqc_siphash_ctx_t`. -/
structure SiphashCtx extends SipState where
  hashSize : ℕ
  crounds : ℕ
  drounds : ℕ

/-- `ROTL`. -/
def rotl (x b : UInt64) : UInt64 := x <<< b ||| x >>> (64 - b)

/-- `SIPROUND`. -/
def sipRound (v : SipState) : SipState :=
  let v0 := v.v0 + v.v1
  let v1 := rotl v.v1 13 ^^^ v0
  let v0 := rotl v0 32
  let v2 := v.v2 + v.v3
  let v3 := rotl v.v3 16 ^^^ v2
  let v0 := v0 + v3
  let v3 := rotl v3 21 ^^^ v0
  let v2 := v2 + v1
  let v1 := rotl v1 17 ^^^ v2
  let v2 := rotl v2 32
  ⟨v0, v1, v2, v3⟩

/-- `U8TO64_LE`, and the bytes of the last word that are there. -/
def u8To64Le (data : Bytes) : UInt64 := data.foldr (fun byte v => byte.toUInt64 ||| v <<< 8) 0

/-- `U64TO8_LE`. -/
def u64To8Le (v : UInt64) : Bytes := (List.range 8).map fun i => (v >>> UInt64.ofNat (8 * i)).toUInt8

/-- `RQC_SIPHASH_KEY_SIZE`. -/
def siphashKeySize : ℕ := 16

/-- `rqc_siphash_init`. -/
def siphashInit (k : Bytes) (keyLen hashSize crounds drounds : ℕ) : Option SiphashCtx :=
  if keyLen ≠ siphashKeySize then none
  else if hashSize ≠ 8 ∧ hashSize ≠ 16 then none
  else
    let k0 := u8To64Le (k.take 8)
    let k1 := u8To64Le ((k.drop 8).take 8)
    let v1 := 0x646f72616e646f6d ^^^ k1
    some {
      v0 := 0x736f6d6570736575 ^^^ k0
      v1 := if hashSize = 16 then v1 ^^^ 0xee else v1
      v2 := 0x6c7967656e657261 ^^^ k0
      v3 := 0x7465646279746573 ^^^ k1
      hashSize := hashSize
      crounds := if crounds = 0 then 2 else crounds
      drounds := if drounds = 0 then 4 else drounds }

/-- A word is mixed in. -/
def sipMix (crounds : ℕ) (v : SipState) (m : UInt64) : SipState :=
  let v := sipRound^[crounds] { v with v3 := v.v3 ^^^ m }
  { v with v0 := v.v0 ^^^ m }

/-- The loop over the whole words of the input, and what is left. -/
def sipWords (crounds : ℕ) : ℕ → SipState → Bytes → SipState × Bytes
  | 0, v, data => (v, data)
  | n + 1, v, data => sipWords crounds n (sipMix crounds v (u8To64Le (data.take 8))) (data.drop 8)

/-- `rqc_siphash`. -/
def siphash (ctx : SiphashCtx) (data : Bytes) (outlen : ℕ) : Option Bytes :=
  if outlen ≠ ctx.hashSize then none
  else
    let (v, left) := sipWords ctx.crounds (data.length / 8) ctx.toSipState data
    let v := sipMix ctx.crounds v (UInt64.ofNat data.length <<< 56 ||| u8To64Le left)
    let v := sipRound^[ctx.drounds] { v with v2 := v.v2 ^^^ if outlen = 16 then 0xee else 0xff }
    let out := u64To8Le (v.v0 ^^^ v.v1 ^^^ v.v2 ^^^ v.v3)
    if outlen = 8 then some out
    else
      let v := sipRound^[ctx.drounds] { v with v1 := v.v1 ^^^ 0xdd }
      some (out ++ u64To8Le (v.v0 ^^^ v.v1 ^^^ v.v2 ^^^ v.v3))

/-- `rqc_siphash_get_hash`, on a little-endian machine. -/
def siphashGetHash (ctx : SiphashCtx) (data : Bytes) : ℕ :=
  match siphash ctx data 8 with
  | some out => (u8To64Le out).toNat
  | none => 0

/-- The error that `rqc_siphash_get_hash` calls impossible. -/
theorem siphash_isSome {k : Bytes} {keyLen crounds drounds : ℕ} {ctx : SiphashCtx}
    (h : siphashInit k keyLen 8 crounds drounds = some ctx) (data : Bytes) :
    (siphash ctx data 8).isSome = true := by
  have hsize : ctx.hashSize = 8 := by
    unfold siphashInit at h
    by_cases hkey : keyLen ≠ siphashKeySize
    · rw [if_pos hkey] at h
      cases h
    · rw [if_neg hkey, if_neg (by decide)] at h
      rw [← Option.some.inj h]
  unfold siphash
  rw [if_neg (by rw [hsize]; decide)]
  rfl

example : (siphashInit ((List.range 16).map UInt8.ofNat) 16 8 2 4).map (siphashGetHash · [0, 1, 2, 3, 4, 5, 6, 7, 8]) =
    some 0x9e0082df0ba9e4b0 := by decide +kernel

/-! ## The table -/

/-- `rqc_str_hash_element_t`, with a value that is not NULL. -/
structure StrHashElement (V : Type) where
  hash : ℕ
  str : Bytes
  value : V

/-- What is compared: the hash, and the string. -/
def StrHashElement.key {V : Type} (e : StrHashElement V) : ℕ × Bytes := (e.hash, e.str)

/-- `rqc_str_hash_table_t`. -/
structure StrHash (V : Type) extends Buckets (StrHashElement V) where
  count : ℕ
  siphashCtx : SiphashCtx
  count_pos : 0 < count

namespace StrHash

section Operations

variable {V : Type}

/-- `rqc_str_hash_init`. -/
def init (bucketNum : ℕ) (key : Bytes) (keyLen : ℕ) : Option (StrHash V) :=
  if h : bucketNum = 0 then none
  else if keyLen ≠ siphashKeySize then none
  else
    match siphashInit key keyLen 8 2 4 with
    | none => none
    | some ctx => some { count := bucketNum, siphashCtx := ctx, count_pos := Nat.pos_of_ne_zero h }

/-- `hash % hash_tab->count`. -/
def index (t : StrHash V) (key : ℕ × Bytes) : ℕ := key.1 % t.count

/-- `rqc_str_hash_find`. -/
def find (fuel : ℕ) (t : StrHash V) (hash : ℕ) (str : Bytes) : Except Halt (Option V) := do
  let e ← Buckets.findFrom (fun e => e.key = (hash, str)) false t.links fuel (t.list (t.index (hash, str)))
  return e.map StrHashElement.value

/-- `rqc_str_hash_add`: the node is freed again if there is no memory for the string. -/
def add (t : StrHash V) (e : StrHashElement V) (allocator : Allocator (StrHashElement V)) (strMalloc : Bool) :
    Except Unit (StrHash V) :=
  match allocator.malloc t.links with
  | none => .error ()
  | some a => if strMalloc then .ok { t with toBuckets := t.push (t.index e.key) a e } else .error ()

/-- `rqc_str_hash_delete`. -/
def delete (fuel : ℕ) (t : StrHash V) (hash : ℕ) (str : Bytes) : Except Halt (Bool × StrHash V) := do
  let (removal, b) ← t.removeFrom (fun e => e.key = (hash, str)) false fuel (.bucket (t.index (hash, str)))
    (t.list (t.index (hash, str)))
  return (removal = .done, { t with toBuckets := b })

end Operations

/-! ## The table has stacks of values -/

section Map

variable {V : Type} {n fuel : ℕ} {t : StrHash V} {s : ℕ × Bytes → List V}

/-- The table holds a stack of values for each key. -/
structure Refines (n : ℕ) (t : StrHash V) (s : ℕ × Bytes → List V) : Prop where
  table : Stacks t.index StrHashElement.key n t.toBuckets fun key => (s key).map fun v => ⟨key.1, key.2, v⟩

theorem init_refines {bucketNum keyLen : ℕ} {key : Bytes}
    (h : (init bucketNum key keyLen : Option (StrHash V)) = some t) : Refines 0 t fun _ => [] := by
  unfold init at h
  split_ifs at h
  split at h
  · cases h
  · obtain rfl := Option.some.inj h
    exact ⟨stacks_empty⟩

theorem Refines.mono (h : Refines n t s) {n' : ℕ} (hn : n ≤ n') : Refines n' t s := ⟨h.table.mono hn⟩

/-- **A search finds the value that was added last.** -/
theorem Refines.find (h : Refines n t s) (hfuel : n ≤ fuel) (hash : ℕ) (str : Bytes) :
    t.find fuel hash str = .ok (s (hash, str)).head? := by
  unfold StrHash.find
  rw [h.table.find hfuel false (hash, str)]
  change Except.ok _ = _
  cases s (hash, str) <;> rfl

/-- **A value is added** in front of the others of its key, unless there is no memory. -/
theorem Refines.add (h : Refines n t s) (e : StrHashElement V) (allocator : Allocator (StrHashElement V))
    (strMalloc : Bool) :
    t.add e allocator strMalloc = .error () ∨
      ∃ t', t.add e allocator strMalloc = .ok t' ∧ t'.siphashCtx = t.siphashCtx ∧
        Refines (n + 1) t' (Function.update s e.key (e.value :: s e.key)) := by
  unfold StrHash.add
  cases ha : allocator.malloc t.links with
  | none => exact .inl rfl
  | some a =>
      cases strMalloc with
      | false => exact .inl rfl
      | true =>
          refine .inr ⟨{ t with toBuckets := t.push (t.index e.key) a e }, rfl, rfl, ⟨?_⟩⟩
          have hpush := h.table.push (allocator.fresh ha) e
          refine Eq.mp (congrArg (Stacks t.index StrHashElement.key (n + 1) _) (funext fun key => ?_)) hpush
          by_cases hkey : key = e.key
          · subst hkey
            rw [Function.update_self, Function.update_self]
            rfl
          · rw [Function.update_of_ne hkey, Function.update_of_ne hkey]

/-- **The value that was added last is deleted**, or there was none. -/
theorem Refines.delete (h : Refines n t s) (hfuel : n ≤ fuel) (hash : ℕ) (str : Bytes) :
    ∃ t', t.delete fuel hash str = .ok (!(s (hash, str)).isEmpty, t') ∧ t'.siphashCtx = t.siphashCtx ∧
      Refines n t' (Function.update s (hash, str) (s (hash, str)).tail) := by
  unfold StrHash.delete
  rcases h.table.remove hfuel false (hash, str) with ⟨hnil, heq⟩ | ⟨x, rest, b, hcons, heq, htable⟩
  · have hs : s (hash, str) = [] := List.map_eq_nil_iff.1 hnil
    refine ⟨t, ?_, rfl, ?_⟩
    · rw [heq, hs]
      rfl
    · have hsame : Function.update s (hash, str) (s (hash, str)).tail = s := by
        rw [hs, List.tail_nil, ← hs, Function.update_eq_self]
      rw [hsame]
      exact h
  · refine ⟨{ t with toBuckets := b }, ?_, rfl, ⟨?_⟩⟩
    · rw [heq]
      cases hs : s (hash, str) with
      | nil =>
          rw [hs] at hcons
          cases hcons
      | cons v vs => rfl
    · refine Eq.mp (congrArg (Stacks t.index StrHashElement.key n b) (funext fun key => ?_)) htable
      by_cases hkey : key = (hash, str)
      · subst hkey
        rw [Function.update_self, Function.update_self, List.map_tail, hcons, List.tail_cons]
      · rw [Function.update_of_ne hkey, Function.update_of_ne hkey]

end Map

end StrHash

end Rquic

import Mathlib.Data.Nat.Bitwise
import Rquic.AckSentRing
import Rquic.Conn.PeerStreams
import Rquic.Lib.Buckets

set_option autoImplicit false

/-!
# The hash table of ids

`rqc_id_hash.h`: a table of chains. `streams_hash` and `passive_streams_hash` of a connection are such tables.

* `IdHash`: the table; `IdHash.find`, `IdHash.add`, `IdHash.delete`, `IdHash.release`: its operations.
* `IdHash.Refines`: the table is a map; `Refines.add`, `Refines.delete`: the operations on it.
* `MapStep`, `MapRun`: what a map answers.
* **`idHash_run`**: every run of the table is a run of a map, and the table is freed behind it.
* `insertPassiveLoop_refines`: the loop over the ids of the peer's streams that a new one opens.
-/

namespace Rquic

/-! ## The table -/

/-- `rqc_id_hash_element_t`, with a value that is not NULL. -/
structure IdHashElement (V : Type) where
  hash : ℕ
  value : V

/-- `rqc_id_hash_table_t`. -/
structure IdHash (V : Type) extends Buckets (IdHashElement V) where
  count : ℕ
  mask : ℕ
  count_pow : ∃ k ≤ 63, count = 2 ^ k
  mask_eq : mask + 1 = count

/-- What the operations return; `RQC_ID_HASH_LOOP` is a node that points to itself. -/
inductive IdHashRet where
  | ok | error | loop
  deriving DecidableEq, Repr

namespace IdHash

section Operations

variable {V : Type}

/-- `rqc_id_hash_init`. -/
def init (bucketNum : ℕ) : IdHash V where
  count := pow2Upper bucketNum
  mask := pow2Upper bucketNum - 1
  count_pow := pow2Upper_pow bucketNum
  mask_eq := by
    obtain ⟨k, -, h⟩ := pow2Upper_pow bucketNum
    rw [h]
    exact Nat.sub_add_cancel Nat.one_le_two_pow

/-- `hash & hash_tab->mask`. -/
def index (t : IdHash V) (hash : ℕ) : ℕ := hash &&& t.mask

/-- `rqc_id_hash_find`. -/
def find (fuel : ℕ) (t : IdHash V) (hash : ℕ) : Except Halt (Option V) := do
  let e ← Buckets.findFrom (fun e => e.hash = hash) true t.links fuel (t.list (t.index hash))
  return e.map IdHashElement.value

/-- `rqc_id_hash_add`. -/
def add (fuel : ℕ) (t : IdHash V) (e : IdHashElement V) (allocator : Allocator (IdHashElement V)) :
    Except Halt (IdHashRet × IdHash V) := do
  match ← t.find fuel e.hash with
  | some _ => return (.error, t)
  | none =>
    match allocator.malloc t.links with
    | none => return (.error, t)
    | some a => return (.ok, { t with toBuckets := t.push (t.index e.hash) a e })

/-- `rqc_id_hash_delete`. -/
def delete (fuel : ℕ) (t : IdHash V) (hash : ℕ) : Except Halt (IdHashRet × IdHash V) := do
  match ← t.removeFrom (fun e => e.hash = hash) true fuel (.bucket (t.index hash)) (t.list (t.index hash)) with
  | (.done, b) => return (.ok, { t with toBuckets := b })
  | (.absent, b) => return (.error, { t with toBuckets := b })
  | (.circle, b) => return (.loop, { t with toBuckets := b })

/-- `rqc_id_hash_release`: the nodes are freed, bucket by bucket. -/
def release (fuel : ℕ) (t : IdHash V) : Except Halt (Links (IdHashElement V)) :=
  Buckets.freeBuckets true fuel t.list t.count 0 t.links

end Operations

/-! ## The table is a map -/

section Map

variable {V : Type} {n fuel : ℕ} {t : IdHash V} {f : ℕ → Option V}

theorem index_lt (t : IdHash V) (hash : ℕ) : t.index hash < t.count := by
  obtain ⟨k, -, hk⟩ := t.count_pow
  unfold index
  rw [Nat.eq_sub_of_add_eq t.mask_eq, hk, Nat.and_two_pow_sub_one_eq_mod]
  exact Nat.mod_lt _ (Nat.two_pow_pos k)

/-- The table holds what the map `f` holds, and no id twice. -/
structure Refines (n : ℕ) (t : IdHash V) (f : ℕ → Option V) : Prop where
  table : Stacks t.index IdHashElement.hash n t.toBuckets fun k =>
    (f k).toList.map fun v => ⟨k, v⟩

theorem init_refines (bucketNum : ℕ) : Refines 0 (init bucketNum : IdHash V) fun _ => none :=
  ⟨stacks_empty⟩

theorem Refines.mono (h : Refines n t f) {n' : ℕ} (hn : n ≤ n') : Refines n' t f := ⟨h.table.mono hn⟩

/-- **A search finds the value of the map.** -/
theorem Refines.find (h : Refines n t f) (hfuel : n ≤ fuel) (hash : ℕ) :
    t.find fuel hash = .ok (f hash) := by
  unfold IdHash.find
  rw [h.table.find hfuel true hash]
  change Except.ok _ = _
  cases f hash <;> rfl

theorem Refines.add_present (h : Refines n t f) (hfuel : n ≤ fuel) {e : IdHashElement V} {v : V}
    (hv : f e.hash = some v) (allocator : Allocator (IdHashElement V)) :
    t.add fuel e allocator = .ok (.error, t) := by
  unfold IdHash.add
  rw [h.find hfuel, hv]
  rfl

theorem Refines.add_refused (h : Refines n t f) (hfuel : n ≤ fuel) {e : IdHashElement V}
    (hv : f e.hash = none) {allocator : Allocator (IdHashElement V)}
    (hrefused : allocator.malloc t.links = none) : t.add fuel e allocator = .ok (.error, t) := by
  unfold IdHash.add
  rw [h.find hfuel, hv]
  change (match allocator.malloc t.links with | none => _ | some a => _) = _
  rw [hrefused]
  rfl

/-- **A new id is added.** -/
theorem Refines.add (h : Refines n t f) (hfuel : n ≤ fuel) {e : IdHashElement V} (hv : f e.hash = none)
    {allocator : Allocator (IdHashElement V)} {a : ℕ} (ha : allocator.malloc t.links = some a) :
    ∃ t', t.add fuel e allocator = .ok (.ok, t') ∧
      Refines (n + 1) t' (Function.update f e.hash (some e.value)) := by
  refine ⟨{ t with toBuckets := t.push (t.index e.hash) a e }, ?_, ⟨?_⟩⟩
  · unfold IdHash.add
    rw [h.find hfuel, hv]
    change (match allocator.malloc t.links with | none => _ | some a => _) = _
    rw [ha]
    rfl
  · have hpush := h.table.push (allocator.fresh ha) e
    refine Eq.mp (congrArg (Stacks t.index IdHashElement.hash (n + 1) _) (funext fun k => ?_)) hpush
    by_cases hk : k = e.hash
    · subst hk
      rw [Function.update_self, Function.update_self, hv]
      rfl
    · rw [Function.update_of_ne hk, Function.update_of_ne hk]

/-- **An id is deleted**, or it was not there. -/
theorem Refines.delete (h : Refines n t f) (hfuel : n ≤ fuel) (hash : ℕ) :
    (f hash = none ∧ t.delete fuel hash = .ok (.error, t)) ∨
      ∃ v t', f hash = some v ∧ t.delete fuel hash = .ok (.ok, t') ∧
        Refines n t' (Function.update f hash none) := by
  unfold IdHash.delete
  rcases h.table.remove hfuel true hash with ⟨hnil, heq⟩ | ⟨x, rest, b, hcons, heq, hstacks⟩
  · refine .inl ⟨?_, ?_⟩
    · cases hv : f hash with
      | none => rfl
      | some v =>
          rw [hv] at hnil
          cases hnil
    · rw [heq]
      rfl
  · cases hv : f hash with
    | none =>
        rw [hv] at hcons
        cases hcons
    | some v =>
        refine .inr ⟨v, { t with toBuckets := b }, rfl, ?_, ⟨?_⟩⟩
        · rw [heq]
          rfl
        · refine Eq.mp (congrArg (Stacks t.index IdHashElement.hash n b) (funext fun k => ?_)) hstacks
          by_cases hk : k = hash
          · subst hk
            rw [hv] at hcons
            rw [Function.update_self, Function.update_self]
            exact (List.cons.inj hcons).2.symm
          · rw [Function.update_of_ne hk, Function.update_of_ne hk]

/-- **The table is freed**: every node once, and nothing is left. -/
theorem Refines.release (h : Refines n t f) (hfuel : n ≤ fuel) :
    ∃ m, t.release fuel = .ok m ∧ ∀ a, m a = none :=
  h.table.release hfuel true t.index_lt

end Map

end IdHash

/-! ## Runs -/

section Runs

variable {V : Type}

/-- An operation on the table, with the allocator as it is then. -/
inductive IdHashOp (V : Type) where
  | find (hash : ℕ)
  | add (e : IdHashElement V) (allocator : Allocator (IdHashElement V))
  | delete (hash : ℕ)

/-- What an operation answers. -/
inductive IdHashAnswer (V : Type) where
  | value (v : Option V)
  | code (ret : IdHashRet)

/-- One operation. -/
def IdHash.step (fuel : ℕ) (t : IdHash V) : IdHashOp V → Except Halt (IdHashAnswer V × IdHash V)
  | .find hash => do return (.value (← t.find fuel hash), t)
  | .add e allocator => do
    let (ret, t) ← t.add fuel e allocator
    return (.code ret, t)
  | .delete hash => do
    let (ret, t) ← t.delete fuel hash
    return (.code ret, t)

/-- A run, with the answers. -/
def IdHash.run (fuel : ℕ) : IdHash V → List (IdHashOp V) → Except Halt (List (IdHashAnswer V) × IdHash V)
  | t, [] => .ok ([], t)
  | t, op :: ops => do
    let (answer, t) ← t.step fuel op
    let (answers, t) ← IdHash.run fuel t ops
    return (answer :: answers, t)

/-- What a map answers where the memory is `m`: an id is added if it is not there and there is memory for it,
and deleted if it is there. -/
inductive MapStep (m : Links (IdHashElement V)) :
    (ℕ → Option V) → IdHashOp V → IdHashAnswer V → (ℕ → Option V) → Prop
  | find (f : ℕ → Option V) (hash : ℕ) : MapStep m f (.find hash) (.value (f hash)) f
  | present {f : ℕ → Option V} {e : IdHashElement V} (allocator : Allocator (IdHashElement V))
      (hthere : f e.hash ≠ none) : MapStep m f (.add e allocator) (.code .error) f
  | refused {f : ℕ → Option V} {e : IdHashElement V} {allocator : Allocator (IdHashElement V)}
      (hnone : f e.hash = none) (hrefused : allocator.malloc m = none) :
      MapStep m f (.add e allocator) (.code .error) f
  | added {f : ℕ → Option V} {e : IdHashElement V} {allocator : Allocator (IdHashElement V)}
      (hnone : f e.hash = none) (hmemory : allocator.malloc m ≠ none) :
      MapStep m f (.add e allocator) (.code .ok) (Function.update f e.hash (some e.value))
  | deleted {f : ℕ → Option V} {hash : ℕ} (hthere : f hash ≠ none) :
      MapStep m f (.delete hash) (.code .ok) (Function.update f hash none)
  | absent {f : ℕ → Option V} {hash : ℕ} (hnone : f hash = none) :
      MapStep m f (.delete hash) (.code .error) f

/-- The table and the map go through a run together. -/
inductive MapRun (fuel : ℕ) : IdHash V → (ℕ → Option V) → List (IdHashOp V) → List (IdHashAnswer V) →
    IdHash V → (ℕ → Option V) → Prop
  | nil (t : IdHash V) (f : ℕ → Option V) : MapRun fuel t f [] [] t f
  | cons {t t' t'' : IdHash V} {f f' f'' : ℕ → Option V} {op : IdHashOp V} {ops : List (IdHashOp V)}
      {answer : IdHashAnswer V} {answers : List (IdHashAnswer V)} (hstep : t.step fuel op = .ok (answer, t'))
      (hmap : MapStep t.links f op answer f') (hrun : MapRun fuel t' f' ops answers t'' f'') :
      MapRun fuel t f (op :: ops) (answer :: answers) t'' f''

variable {n fuel : ℕ} {t : IdHash V} {f : ℕ → Option V}

/-- **An operation on the table is one on the map.** -/
theorem IdHash.Refines.step (h : t.Refines n f) (hfuel : n ≤ fuel) (op : IdHashOp V) :
    ∃ answer t' f', t.step fuel op = .ok (answer, t') ∧ MapStep t.links f op answer f' ∧
      t'.Refines (n + 1) f' := by
  cases op with
  | find hash =>
      refine ⟨.value (f hash), t, f, ?_, .find f hash, h.mono (Nat.le_succ n)⟩
      rw [IdHash.step, h.find hfuel]
      rfl
  | add e allocator =>
      rw [IdHash.step]
      cases hv : f e.hash with
      | some v =>
          have hthere : f e.hash ≠ none := by rw [hv]; exact Option.some_ne_none v
          rw [h.add_present hfuel hv]
          exact ⟨_, t, f, rfl, .present allocator hthere, h.mono (Nat.le_succ n)⟩
      | none =>
          cases ha : allocator.malloc t.links with
          | none =>
              rw [h.add_refused hfuel hv ha]
              exact ⟨_, t, f, rfl, .refused hv ha, h.mono (Nat.le_succ n)⟩
          | some a =>
              obtain ⟨t', heq, hrefines⟩ := h.add hfuel hv ha
              rw [heq]
              have hmemory : allocator.malloc t.links ≠ none := by rw [ha]; exact Option.some_ne_none a
              exact ⟨_, t', _, rfl, .added hv hmemory, hrefines⟩
  | delete hash =>
      rw [IdHash.step]
      rcases h.delete hfuel hash with ⟨hv, heq⟩ | ⟨v, t', hv, heq, hrefines⟩
      · rw [heq]
        exact ⟨_, t, f, rfl, .absent hv, h.mono (Nat.le_succ n)⟩
      · rw [heq]
        refine ⟨_, t', _, rfl, .deleted ?_, hrefines.mono (Nat.le_succ n)⟩
        rw [hv]
        exact Option.some_ne_none v

theorem IdHash.Refines.run (h : t.Refines n f) (ops : List (IdHashOp V)) (hfuel : n + ops.length ≤ fuel) :
    ∃ answers t' f', t.run fuel ops = .ok (answers, t') ∧ MapRun fuel t f ops answers t' f' ∧
      t'.Refines (n + ops.length) f' := by
  induction ops generalizing t f n with
  | nil => exact ⟨[], t, f, rfl, .nil t f, h⟩
  | cons op ops ih =>
      rw [List.length_cons] at hfuel
      obtain ⟨answer, t₁, f₁, hstep, hmap, h₁⟩ := h.step (le_of_add_le_left hfuel) op
      obtain ⟨answers, t', f', hrun, hmaps, h'⟩ := ih h₁ (by omega)
      refine ⟨answer :: answers, t', f', ?_, .cons hstep hmap hmaps, ?_⟩
      · rw [IdHash.run, hstep]
        change (t₁.run fuel ops >>= fun r => _) = _
        rw [hrun]
        rfl
      · rw [List.length_cons]
        exact h'.mono (by omega)

/-- **Every run of the table is one of a map**: the loops end, no freed memory is touched, no operation finds
a node that points to itself, and the release of the table frees every node once. -/
theorem idHash_run (bucketNum : ℕ) (ops : List (IdHashOp V)) (hfuel : ops.length ≤ fuel) :
    ∃ answers t f m, (IdHash.init bucketNum).run fuel ops = .ok (answers, t) ∧
      MapRun fuel (IdHash.init bucketNum) (fun _ => none) ops answers t f ∧
      (∀ hash, t.find fuel hash = .ok (f hash)) ∧ t.release fuel = .ok m ∧ ∀ a, m a = none := by
  have hle : 0 + ops.length ≤ fuel := by rwa [Nat.zero_add]
  obtain ⟨answers, t, f, hrun, hmap, h⟩ := (IdHash.init_refines bucketNum).run ops hle
  obtain ⟨m, hrelease, hfreed⟩ := h.release hle
  exact ⟨answers, t, f, m, hrun, hmap, h.find hle, hrelease, hfreed⟩

/-- An id is added, added again, found, deleted and deleted again. In between there is no memory for another
one. -/
def twiceOps : List (IdHashOp ℕ) :=
  [.add ⟨6, 7⟩ (.cells 1), .add ⟨6, 8⟩ (.cells 1), .find 6, .add ⟨9, 8⟩ (.cells 1), .delete 6, .delete 6]

theorem idHash_run_twice : ∃ answers t f m, (IdHash.init 3).run 6 twiceOps = .ok (answers, t) ∧
    MapRun 6 (IdHash.init 3) (fun _ => none) twiceOps answers t f ∧
    (∀ hash, t.find 6 hash = .ok (f hash)) ∧ t.release 6 = .ok m ∧ ∀ a, m a = none :=
  idHash_run 3 twiceOps (by decide)

end Runs

/-! ## The ids of the peer's streams -/

section Passive

/-- The loop of `rqc_insert_passive_stream_hash`, with whether it raised an error. -/
def insertPassiveLoop (fuel : ℕ) (allocator : Allocator (IdHashElement Unit)) (type : ℕ) :
    ℕ → ℕ → IdHash Unit → Except Halt (Bool × IdHash Unit)
  | 0, _, t => .ok (false, t)
  | rounds + 1, sid, t => do
    let (ret, t) ← t.add fuel ⟨sid <<< 2 ||| type, ()⟩ allocator
    let (err, t) ← insertPassiveLoop fuel allocator type rounds (sid + 1) t
    return (ret != .ok || err, t)

variable {n fuel type : ℕ} {t : IdHash Unit}

/-- `(uint64_t)sid << 2u | type`. -/
theorem shift_or_type (sid : ℕ) (htype : type < 4) : sid <<< 2 ||| type = 4 * sid + type := by
  rw [Nat.shiftLeft_eq, Nat.mul_comm]
  exact (Nat.two_pow_add_eq_or_of_lt htype sid).symm

/-- The ids of a type from `sid` on. -/
def idsFrom (type sid rounds : ℕ) (f : ℕ → Option Unit) : ℕ → Option Unit := fun id =>
  if id % 4 = type ∧ sid ≤ id / 4 ∧ id / 4 < sid + rounds then some () else f id

theorem idsFrom_zero (sid : ℕ) (f : ℕ → Option Unit) : idsFrom type sid 0 f = f := by
  funext id
  unfold idsFrom
  rw [if_neg (by omega)]

theorem idsFrom_succ (htype : type < 4) (sid rounds : ℕ) (f : ℕ → Option Unit) :
    idsFrom type (sid + 1) rounds (Function.update f (4 * sid + type) (some ())) =
      idsFrom type sid (rounds + 1) f := by
  funext id
  unfold idsFrom
  by_cases hid : id = 4 * sid + type
  · subst hid
    rw [Function.update_self, ite_self, if_pos (by omega)]
  · rw [Function.update_of_ne hid]
    have hiff : id % 4 = type ∧ sid + 1 ≤ id / 4 ∧ id / 4 < sid + 1 + rounds ↔
        id % 4 = type ∧ sid ≤ id / 4 ∧ id / 4 < sid + (rounds + 1) := by
      omega
    exact if_congr hiff rfl rfl

/-- The loop without an error adds all of the ids, and none of them was there. -/
theorem insertPassiveLoop_spec (allocator : Allocator (IdHashElement Unit)) (htype : type < 4)
    (rounds sid : ℕ) {f : ℕ → Option Unit} (h : t.Refines n f) (hfuel : n + rounds ≤ fuel) :
    ∃ err t', insertPassiveLoop fuel allocator type rounds sid t = .ok (err, t') ∧
      (err = false → t'.Refines (n + rounds) (idsFrom type sid rounds f) ∧
        ∀ id, id % 4 = type → sid ≤ id / 4 → id / 4 < sid + rounds → f id = none) := by
  induction rounds generalizing t n sid f with
  | zero =>
      refine ⟨false, t, rfl, fun _ => ⟨?_, fun id _ hle hlt => absurd hlt (by omega)⟩⟩
      rw [idsFrom_zero]
      exact h
  | succ rounds ih =>
      obtain ⟨answer, t₁, f₁, hstep, hmap, h₁⟩ :=
        h.step (le_of_add_le_left hfuel) (.add ⟨sid <<< 2 ||| type, ()⟩ allocator)
      rw [IdHash.step] at hstep
      obtain ⟨err, t', hloop, hspec⟩ := ih (sid + 1) h₁ (by omega)
      cases hadd : t.add fuel ⟨sid <<< 2 ||| type, ()⟩ allocator with
      | error halt =>
          rw [hadd] at hstep
          cases hstep
      | ok r =>
          obtain ⟨ret, t₂⟩ := r
          rw [hadd] at hstep
          obtain ⟨rfl, rfl⟩ := Prod.mk.inj (Except.ok.inj hstep)
          refine ⟨ret != .ok || err, t', ?_, fun hok => ?_⟩
          · rw [insertPassiveLoop, hadd]
            change (insertPassiveLoop fuel allocator type rounds (sid + 1) t₂ >>= fun r => _) = _
            rw [hloop]
            rfl
          · obtain ⟨hret, herr⟩ := Bool.or_eq_false_iff.1 hok
            obtain ⟨hrefines, hnone⟩ := hspec herr
            cases hmap with
            | present hthere => cases hret
            | refused hnone' hrefused => cases hret
            | added hnone' _ =>
                dsimp only at hnone' hrefines hnone
                rw [shift_or_type sid htype] at hnone' hrefines hnone
                rw [idsFrom_succ htype] at hrefines
                refine ⟨hrefines.mono (by omega), fun id hid hle hlt => ?_⟩
                by_cases heq : id = 4 * sid + type
                · rw [heq]
                  exact hnone'
                · have hlater := hnone id hid (by omega) (by omega)
                  rwa [Function.update_of_ne heq] at hlater

/-- `passive_streams_hash`, as a map. -/
def Conn.passiveMap (c : Conn) : ℕ → Option Unit := fun id => if c.passiveStreams id then some () else none

theorem getStreamType_eq_iff (id id' : StreamId) :
    getStreamType id' = getStreamType id ↔ id' % 4 = id % 4 := by
  rw [← getStreamType_toNat, ← getStreamType_toNat]
  constructor
  · exact congrArg StreamType.toNat
  · intro h
    cases h₁ : getStreamType id' <;> cases h₂ : getStreamType id <;> rw [h₁, h₂] at h <;> first | rfl | cases h

theorem insertPassiveStreamHash_passiveMap (c : Conn) (id : StreamId) (sid : ℕ) :
    (insertPassiveStreamHash c (sid - 1) id).passiveMap =
      idsFrom (id % 4) sid (id / 4 + 1 - sid) c.passiveMap := by
  funext id'
  have hiff : getStreamType id' = getStreamType id ∧ ((sid : ℤ) - 1 < (id' / 4 : ℕ)) ∧ id' / 4 ≤ id / 4 ↔
      id' % 4 = id % 4 ∧ sid ≤ id' / 4 ∧ id' / 4 < sid + (id / 4 + 1 - sid) := by
    rw [getStreamType_eq_iff]
    refine and_congr_right fun _ => ?_
    constructor <;> rintro ⟨hle, hlt⟩ <;> constructor <;> omega
  unfold Conn.passiveMap idsFrom
  rw [insertPassiveStreamHash_frame]
  simp only [Bool.or_eq_true, decide_eq_true_eq, hiff]
  by_cases hnew : id' % 4 = id % 4 ∧ sid ≤ id' / 4 ∧ id' / 4 < sid + (id / 4 + 1 - sid)
  · rw [if_pos (.inr hnew), if_pos hnew]
  · rw [if_neg hnew]
    exact if_congr (or_iff_left hnew) rfl rfl

/-- No id of the loop was there, so the connection raises no error. -/
theorem insertPassiveStreamHash_connErr (c : Conn) (id sid : ℕ)
    (hnone : ∀ id' : ℕ, id' % 4 = id % 4 → sid ≤ id' / 4 → id' / 4 < sid + (id / 4 + 1 - sid) →
      c.passiveMap id' = none) : (insertPassiveStreamHash c (sid - 1) id).connErr = c.connErr := by
  unfold insertPassiveStreamHash
  dsimp only
  rw [if_neg]
  intro hany
  obtain ⟨sid', hmem, hsid'⟩ := List.any_eq_true.1 hany
  obtain ⟨hlt, hpassive⟩ := Bool.and_eq_true_iff.1 hsid'
  have hrange := List.mem_range.1 hmem
  have hlt' := of_decide_eq_true hlt
  rw [getStreamType_toNat] at hpassive
  have hmod : id % 4 < 4 := Nat.mod_lt id (by decide)
  have hdiv : ∀ r < 4, (4 * sid' + r) / 4 = sid' ∧ (4 * sid' + r) % 4 = r := by
    intro r hr
    omega
  have hsid := hdiv (id % 4) hmod
  have hfree := hnone (4 * sid' + id % 4) hsid.2 (by rw [hsid.1]; omega) (by rw [hsid.1]; omega)
  unfold Conn.passiveMap at hfree
  rw [if_pos hpassive] at hfree
  cases hfree

/-- **The loop is what the connection does**: it raises an error, or the table is the one of the connection
behind it, and the connection raises none. -/
theorem insertPassiveLoop_refines (c : Conn) (allocator : Allocator (IdHashElement Unit)) (id : StreamId)
    (sid : ℕ) (h : t.Refines n c.passiveMap) (hfuel : n + (id / 4 + 1 - sid) ≤ fuel) :
    ∃ err t', insertPassiveLoop fuel allocator (id % 4) (id / 4 + 1 - sid) sid t = .ok (err, t') ∧
      (err = false → t'.Refines (n + (id / 4 + 1 - sid))
          (insertPassiveStreamHash c (sid - 1) id).passiveMap ∧
        (insertPassiveStreamHash c (sid - 1) id).connErr = c.connErr) := by
  obtain ⟨err, t', hloop, hspec⟩ := insertPassiveLoop_spec allocator (Nat.mod_lt id (by decide))
    (id / 4 + 1 - sid) sid h hfuel
  refine ⟨err, t', hloop, fun herr => ?_⟩
  obtain ⟨hrefines, hnone⟩ := hspec herr
  rw [insertPassiveStreamHash_passiveMap]
  exact ⟨hrefines, insertPassiveStreamHash_connErr c id sid hnone⟩

end Passive

end Rquic

import Mathlib.Data.List.Find
import Mathlib.Data.List.TakeWhile
import Mathlib.Data.Nat.Bitwise
import Rquic.Lib.Ring
import Rquic.RecvRecord

set_option autoImplicit false

/-!
# The ring of sent ACK frames

`rqc_ring_array.c` and the record of sent ACK frames over it. The ring is pushed at the front, loses its
last entry when it is full, and is cut off where an acknowledgement hits.

* `RingArray`: the ring array; `get_eq`, `pushFront_toList`, `popFrom_toList`: it is a list.
* `AckSentRing.add`, `AckSentRing.onAck`: the record.
* `AckSentRing.add_toRecord`, `AckSentRing.onAck_toRecord`: the record of the send queue is its content.
* **`ackSent_lookup`**: the record holds the entries added last, and an acknowledgement finds the newest one
  that it covers.
-/

namespace Rquic

/-! ## Ring arrays -/

/-- The loop of `rqc_pow2_upper`. -/
def pow2UpperLoop (n : ℕ) : ℕ → ℕ → ℕ
  | 0, m => m
  | fuel + 1, m => if m < n then pow2UpperLoop n fuel (m <<< 1) else m

/-- `rqc_pow2_upper`, up to 2^63. -/
def pow2Upper (n : ℕ) : ℕ := pow2UpperLoop n 63 1

theorem pow2UpperLoop_pow (n fuel i : ℕ) :
    ∃ j ≤ i + fuel, pow2UpperLoop n fuel (2 ^ i) = 2 ^ j := by
  induction fuel generalizing i with
  | zero => exact ⟨i, le_rfl, rfl⟩
  | succ fuel ih =>
      rw [pow2UpperLoop]
      split_ifs
      · have hdouble : 2 ^ i <<< 1 = 2 ^ (i + 1) := by rw [Nat.shiftLeft_eq, pow_one, pow_succ]
        obtain ⟨j, hj, h⟩ := ih (i + 1)
        exact ⟨j, by omega, by rw [hdouble, h]⟩
      · exact ⟨i, by omega, rfl⟩

theorem pow2Upper_pow (n : ℕ) : ∃ k ≤ 63, pow2Upper n = 2 ^ k := by
  obtain ⟨k, hk, h⟩ := pow2UpperLoop_pow n 63 0
  exact ⟨k, by omega, h⟩

/-- `rqc_rarray_t`. The capacity is a power of two, so `mask` picks an index. -/
structure RingArray (α : Type) where
  buf : ℕ → α
  cap : ℕ
  count : ℕ
  offset : ℕ
  mask : ℕ
  cap_pow : ∃ k ≤ 63, cap = 2 ^ k
  mask_eq : mask = cap - 1
  offset_lt : offset < cap
  count_le : count ≤ cap

namespace RingArray

variable {α : Type}

theorem and_mask (ra : RingArray α) (n : ℕ) : n &&& ra.mask = n % ra.cap := by
  obtain ⟨k, -, hk⟩ := ra.cap_pow
  rw [ra.mask_eq, hk, Nat.and_two_pow_sub_one_eq_mod]

theorem and_mask_lt (ra : RingArray α) (n : ℕ) : n &&& ra.mask < ra.cap := by
  rw [ra.and_mask]
  exact Nat.mod_lt _ ((Nat.zero_le _).trans_lt ra.offset_lt)

/-- `rqc_rarray_create`. -/
def create [Inhabited α] (cap : ℕ) : RingArray α where
  buf := fun _ => default
  cap := pow2Upper cap
  count := 0
  offset := 0
  mask := pow2Upper cap - 1
  cap_pow := pow2Upper_pow cap
  mask_eq := rfl
  offset_lt := by
    obtain ⟨k, -, hk⟩ := pow2Upper_pow cap
    rw [hk]
    exact Nat.two_pow_pos k
  count_le := Nat.zero_le _

/-- `rqc_rarray_size`. -/
def size (ra : RingArray α) : ℕ := ra.count

/-- `rqc_rarray_full`. -/
def full (ra : RingArray α) : Bool := ra.cap ≤ ra.count

/-- `rqc_rarray_check_range`. -/
def checkRange (ra : RingArray α) (offset : ℕ) : Bool :=
  let eoffset := (ra.offset + ra.count) &&& ra.mask
  if eoffset ≤ ra.offset then
    if ra.count = 0 then false else ra.offset ≤ offset || offset < eoffset
  else ra.offset ≤ offset && offset < eoffset

/-- `rqc_rarray_get`. -/
def get (ra : RingArray α) (idx : ℕ) : Option α :=
  if ra.cap ≤ idx then none
  else
    let offset := (idx + ra.offset) &&& ra.mask
    if ra.checkRange offset = false then none else some (ra.buf offset)

/-- `rqc_rarray_push_front`, with the entry that the caller writes. -/
def pushFront (ra : RingArray α) (x : α) : Option (RingArray α) :=
  if h : ra.cap ≤ ra.count then none
  else some { ra with
    buf := Function.update ra.buf (u64Sub ra.offset 1 &&& ra.mask) x
    count := ra.count + 1
    offset := u64Sub ra.offset 1 &&& ra.mask
    offset_lt := ra.and_mask_lt _
    count_le := not_le.1 h }

/-- `rqc_rarray_pop_back`. -/
def popBack (ra : RingArray α) : RingArray α :=
  { ra with count := ra.count - 1, count_le := (Nat.sub_le _ _).trans ra.count_le }

/-- `rqc_rarray_pop_from`. -/
def popFrom (ra : RingArray α) (idx : ℕ) : RingArray α :=
  if h : ra.count ≤ idx then ra
  else { ra with count := idx, count_le := (not_le.1 h).le.trans ra.count_le }

/-- The entries, the front first. -/
def toList (ra : RingArray α) : List α := ringList ra.cap ra.buf ra.offset ra.count

@[simp] theorem toList_length (ra : RingArray α) : ra.toList.length = ra.count := ringList_length

/-- **An entry is found by its index.** -/
theorem get_eq (ra : RingArray α) (idx : ℕ) : ra.get idx = ra.toList[idx]? := by
  have hrange : ∀ cell, ra.checkRange cell = inRing ra.cap ra.offset ra.count cell := by
    intro cell
    unfold checkRange inRing
    rw [ra.and_mask]
  unfold get toList
  dsimp only
  rw [ringList_getElem?, hrange, ra.and_mask, Nat.add_comm idx]
  by_cases hidx : ra.cap ≤ idx
  · rw [if_pos hidx, if_neg (by have := ra.count_le; omega)]
  · rw [if_neg hidx]
    have hin := inRing_iff ra.offset_lt ra.count_le (not_le.1 hidx)
    split_ifs with h₁ h₂ h₂
    · rw [hin.2 h₂] at h₁
      cases h₁
    · rfl
    · rfl
    · exact absurd (hin.1 (by simpa using h₁)) h₂

theorem before_offset (ra : RingArray α) : ((u64Sub ra.offset 1 &&& ra.mask) + 1) % ra.cap = ra.offset := by
  obtain ⟨k, hk, hcap⟩ := ra.cap_pow
  have hlt := ra.offset_lt
  have hdvd : ra.cap ∣ 2 ^ 64 := by
    rw [hcap]
    exact pow_dvd_pow 2 (by omega)
  obtain ⟨m, hm⟩ := hdvd
  have hle : ra.cap ≤ 2 ^ 64 := Nat.le_of_dvd (by decide) ⟨m, hm⟩
  rw [ra.and_mask, Nat.mod_add_mod]
  unfold u64Sub
  by_cases hzero : ra.offset = 0
  · rw [hzero]
    calc ((0 + (2 ^ 64 - 1 % 2 ^ 64)) % 2 ^ 64 + 1) % ra.cap = 2 ^ 64 % ra.cap := rfl
      _ = 0 := Nat.mod_eq_zero_of_dvd ⟨m, hm⟩
  · have hprev : (ra.offset + (2 ^ 64 - 1 % 2 ^ 64)) % 2 ^ 64 = ra.offset - 1 := by omega
    rw [hprev, Nat.sub_add_cancel (Nat.one_le_iff_ne_zero.2 hzero), Nat.mod_eq_of_lt hlt]

theorem pushFront_toList {ra ra' : RingArray α} {x : α} (h : ra.pushFront x = some ra') :
    ra'.toList = x :: ra.toList ∧ ra'.cap = ra.cap := by
  unfold pushFront at h
  split_ifs at h with hfull
  obtain rfl := Option.some.inj h
  exact ⟨ringList_push (ra.and_mask_lt _) ra.before_offset (not_le.1 hfull) x, rfl⟩

theorem pushFront_isSome {ra : RingArray α} (h : ra.count < ra.cap) (x : α) :
    ∃ ra', ra.pushFront x = some ra' := by
  unfold pushFront
  rw [dif_neg (not_le.2 h)]
  exact ⟨_, rfl⟩

theorem popBack_toList (ra : RingArray α) : ra.popBack.toList = ra.toList.dropLast := by
  rw [List.dropLast_eq_take, toList_length]
  unfold toList popBack
  rw [ringList_take, min_eq_left (Nat.sub_le _ _)]

theorem popFrom_toList (ra : RingArray α) {idx : ℕ} (h : idx < ra.count) :
    (ra.popFrom idx).toList = ra.toList.take idx := by
  unfold toList popFrom
  rw [dif_neg (not_le.2 h), ringList_take, min_eq_left h.le]

@[simp] theorem popFrom_cap (ra : RingArray α) (idx : ℕ) : (ra.popFrom idx).cap = ra.cap := by
  unfold popFrom
  split_ifs <;> rfl

end RingArray

/-! ## The record -/

instance : Inhabited AckSentEntry := ⟨⟨0, 0⟩⟩

/-- `rqc_ack_sent_record_t`. -/
structure AckSentRing where
  lastAddTime : ℕ
  ackSent : RingArray AckSentEntry

namespace AckSentRing

/-- `rqc_ack_sent_record_init`. -/
def init : AckSentRing := ⟨0, RingArray.create ackSentCap⟩

/-- The entries, the newest first. -/
def entries (record : AckSentRing) : List AckSentEntry := record.ackSent.toList

/-- A round trip has passed since the last entry. -/
def due (record : AckSentRing) (srtt now : ℕ) : Bool := !decide (now < u64Add record.lastAddTime srtt)

/-- `rqc_ack_sent_record_add`. -/
def add (record : AckSentRing) (entry : AckSentEntry) (srtt now : ℕ) : AckSentRing × Except Errno Unit :=
  if record.due srtt now = false then (record, .ok ())
  else
    let ra := if record.ackSent.full then record.ackSent.popBack else record.ackSent
    match ra.pushFront entry with
    | none => ({ record with ackSent := ra }, .error .generic)
    | some ra => (⟨now, ra⟩, .ok ())

/-- The loop of `rqc_ack_sent_record_on_ack` from the index `i` on, for `n` more entries. -/
def onAckLoop (ra : RingArray AckSentEntry) : ℕ → ℕ → List PktnoRange → RingArray AckSentEntry × ℕ
  | 0, _, _ => (ra, 0)
  | n + 1, i, ranges =>
    match ra.get i with
    | none => (ra, 0)
    | some entry =>
      match skipRanges entry.pktNum ranges with
      | [] => (ra, 0)
      | r :: rs =>
        if entry.pktNum ≤ r.high ∧ r.low ≤ entry.pktNum then (ra.popFrom i, entry.largestAck)
        else onAckLoop ra n (i + 1) (r :: rs)

/-- `rqc_ack_sent_record_on_ack`. -/
def onAck (record : AckSentRing) (ranges : List PktnoRange) : AckSentRing × ℕ :=
  let r := onAckLoop record.ackSent record.ackSent.size 0 ranges
  ({ record with ackSent := r.1 }, r.2)

/-! ## The content of the record -/

variable {record : AckSentRing} {entry : AckSentEntry} {srtt now : ℕ}

theorem add_of_not_due (h : record.due srtt now = false) : record.add entry srtt now = (record, .ok ()) :=
  if_pos h

/-- A new entry stands in front, and the last one falls out of a full ring. -/
theorem add_of_due (entry : AckSentEntry) (hcap : record.ackSent.cap = ackSentCap)
    (h : record.due srtt now = true) :
    ∃ record', record.add entry srtt now = (record', .ok ()) ∧ record'.lastAddTime = now ∧
      record'.ackSent.cap = ackSentCap ∧ record'.entries = (entry :: record.entries).take ackSentCap := by
  have hlen := record.ackSent.toList_length
  have hle := record.ackSent.count_le
  rw [hcap] at hle
  -- the ring after `rqc_rarray_pop_back`
  obtain ⟨ra, hra⟩ : ∃ ra, (if record.ackSent.full then record.ackSent.popBack else record.ackSent) = ra :=
    ⟨_, rfl⟩
  have hroom : ra.count < ra.cap ∧ ra.cap = ackSentCap ∧
      entry :: ra.toList = (entry :: record.entries).take ackSentCap := by
    have htake : (entry :: record.entries).take ackSentCap = entry :: record.entries.take 7 := rfl
    rw [htake, ← hra]
    by_cases hfull : record.ackSent.full = true
    · have hcount : record.ackSent.count = ackSentCap := le_antisymm hle (hcap ▸ of_decide_eq_true hfull)
      rw [if_pos hfull, RingArray.popBack_toList, List.dropLast_eq_take, hlen, hcount]
      refine ⟨?_, hcap, rfl⟩
      show record.ackSent.count - 1 < record.ackSent.cap
      rw [hcount, hcap]
      decide
    · have hlt : record.ackSent.count < record.ackSent.cap := by
        simpa [RingArray.full] using hfull
      rw [if_neg hfull]
      refine ⟨hlt, hcap, ?_⟩
      rw [hcap] at hlt
      unfold entries
      rw [List.take_of_length_le]
      rw [hlen]
      unfold ackSentCap at hlt
      omega
  obtain ⟨hlt, hcap', hentries⟩ := hroom
  obtain ⟨ra', hpush⟩ := RingArray.pushFront_isSome hlt entry
  obtain ⟨hlist, hcap''⟩ := RingArray.pushFront_toList hpush
  refine ⟨⟨now, ra'⟩, ?_, rfl, hcap''.trans hcap', hlist.trans hentries⟩
  unfold add
  rw [if_neg (by rw [h]; decide)]
  dsimp only
  rw [hra, hpush]

/-- The loop over the ring is the walk over its content. -/
theorem onAckLoop_eq (ra : RingArray AckSentEntry) (n i : ℕ) (ranges : List PktnoRange)
    (hn : i + n = ra.count) :
    onAckLoop ra n i ranges =
      match ackSentRecordOnAck ranges (ra.toList.drop i) with
      | none => (ra, 0)
      | some (largest, kept) => (ra.popFrom (i + kept.length), largest) := by
  induction n generalizing i ranges with
  | zero =>
      have hnil : ra.toList.drop i = [] := List.drop_of_length_le (by rw [ra.toList_length]; omega)
      rw [hnil]
      cases ranges <;> rfl
  | succ n ih =>
      have hlt : i < ra.toList.length := by
        rw [ra.toList_length]
        omega
      rw [onAckLoop, ra.get_eq, List.getElem?_eq_getElem hlt, List.drop_eq_getElem_cons hlt]
      dsimp only
      rw [ackSentRecordOnAck]
      cases hskip : skipRanges ra.toList[i].pktNum ranges with
      | nil => rfl
      | cons r rs =>
          have hlow := le_of_skipRanges hskip
          dsimp only
          by_cases hle : ra.toList[i].pktNum ≤ r.high
          · rw [if_pos ⟨hle, hlow⟩, if_pos hle]
            rfl
          · rw [if_neg fun h => hle h.1, if_neg hle, ih (i + 1) (r :: rs) (by omega)]
            cases ackSentRecordOnAck (r :: rs) (ra.toList.drop (i + 1)) with
            | none => rfl
            | some p =>
                dsimp only [Option.map_some]
                rw [List.length_cons, Nat.add_right_comm]
                rfl

end AckSentRing

/-! ## Descending ranges -/

/-- The ranges of an ACK frame, from the largest packet number down. -/
def Descending (ranges : List PktnoRange) : Prop :=
  ranges.Pairwise (fun r r' => r'.high < r.low) ∧ ∀ r ∈ ranges, r.low ≤ r.high

/-- Some range covers the packet number. -/
def covers (ranges : List PktnoRange) (pktNum : ℕ) : Bool :=
  ranges.any fun r => r.low ≤ pktNum && pktNum ≤ r.high

/-- Every entry was sent before the entries in front of it. -/
def NewestFirst (entries : List AckSentEntry) : Prop :=
  entries.Pairwise fun entry older => older.pktNum < entry.pktNum

theorem covers_skipRanges {pktNum n : ℕ} (hn : n ≤ pktNum) (ranges : List PktnoRange) :
    covers (skipRanges pktNum ranges) n = covers ranges n := by
  induction ranges with
  | nil => rfl
  | cons r rs ih =>
      rw [skipRanges]
      split_ifs with hlow
      · have hnot : ¬ r.low ≤ n := by omega
        rw [ih]
        simp [covers, hnot]
      · rfl

theorem covers_of_above {r : PktnoRange} {rs : List PktnoRange} {n : ℕ} (hdesc : Descending (r :: rs))
    (h : r.high < n) : covers (r :: rs) n = false := by
  unfold covers
  rw [List.any_eq_false]
  intro r' hr'
  have hhigh : r'.high ≤ r.high := by
    rcases List.mem_cons.1 hr' with rfl | hmem
    · exact le_rfl
    · have hlow := hdesc.2 r List.mem_cons_self
      have hlt := (List.pairwise_cons.1 hdesc.1).1 r' hmem
      omega
  have hnot : ¬ n ≤ r'.high := by omega
  simp [hnot]

theorem Descending.skipRanges {ranges : List PktnoRange} (h : Descending ranges) (pktNum : ℕ) :
    Descending (skipRanges pktNum ranges) :=
  have hsub := skipRanges_sublist pktNum ranges
  ⟨h.1.sublist hsub, fun r hr => h.2 r (hsub.subset hr)⟩

/-- The packet of the entry is covered. -/
def coveredBy (ranges : List PktnoRange) (entry : AckSentEntry) : Bool := covers ranges entry.pktNum

theorem takeWhile_of_agree {α : Type} {p q : α → Bool} {l : List α} (h : ∀ x ∈ l, p x = q x) :
    l.takeWhile p = l.takeWhile q := by
  induction l with
  | nil => rfl
  | cons x l ih =>
      rw [List.takeWhile_cons, List.takeWhile_cons, h x List.mem_cons_self,
        ih fun y hy => h y (List.mem_cons_of_mem x hy)]

/-- **The walk finds the newest entry that is covered**, and keeps those in front of it. -/
theorem ackSentRecordOnAck_eq {ranges : List PktnoRange} {entries : List AckSentEntry}
    (hranges : Descending ranges) (hentries : NewestFirst entries) :
    ackSentRecordOnAck ranges entries = (entries.find? (coveredBy ranges)).map fun entry =>
      (entry.largestAck, entries.takeWhile (!coveredBy ranges ·)) := by
  induction entries generalizing ranges with
  | nil => cases ranges <;> rfl
  | cons entry entries ih =>
      obtain ⟨holder, hrest⟩ := List.pairwise_cons.1 hentries
      have hskipped : ∀ i : AckSentEntry, i.pktNum ≤ entry.pktNum →
          coveredBy (skipRanges entry.pktNum ranges) i = coveredBy ranges i :=
        fun i hi => covers_skipRanges hi ranges
      have hdesc := hranges.skipRanges entry.pktNum
      rw [ackSentRecordOnAck]
      cases hskip : skipRanges entry.pktNum ranges with
      | nil =>
          rw [hskip] at hskipped
          have hnone : (entry :: entries).find? (coveredBy ranges) = none := by
            refine List.find?_eq_none.2 fun i hi => ?_
            have hle : i.pktNum ≤ entry.pktNum := by
              rcases List.mem_cons.1 hi with rfl | hmem
              · exact le_rfl
              · exact (holder i hmem).le
            rw [← hskipped i hle]
            simp [coveredBy, covers]
          rw [hnone]
          rfl
      | cons r rs =>
          have hlow := le_of_skipRanges hskip
          rw [hskip] at hskipped hdesc
          dsimp only
          by_cases hle : entry.pktNum ≤ r.high
          · have hcovered : coveredBy ranges entry = true := by
              rw [← hskipped entry le_rfl]
              simp [coveredBy, covers, hlow, hle]
            rw [if_pos hle, List.find?_cons_of_pos hcovered, List.takeWhile_cons_of_neg (by simp [hcovered])]
            rfl
          · have hnot : coveredBy ranges entry = false := by
              rw [← hskipped entry le_rfl]
              exact covers_of_above hdesc (not_le.1 hle)
            -- the ranges that were passed make no difference further down
            have hsame : ∀ i ∈ entries, coveredBy (r :: rs) i = coveredBy ranges i :=
              fun i hi => hskipped i (holder i hi).le
            have hkeep : entries.takeWhile (!coveredBy (r :: rs) ·) =
                entries.takeWhile (!coveredBy ranges ·) :=
              takeWhile_of_agree fun i hi => by rw [hsame i hi]
            rw [if_neg hle, ih hdesc hrest, List.find?_congr hsame, hkeep,
              List.find?_cons_of_neg (by simp [hnot]), List.takeWhile_cons_of_pos (by simp [hnot]),
              Option.map_map]
            rfl

/-! ## The record of the send queue -/

namespace AckSentRing

variable {record : AckSentRing}

/-- The record without the ring. -/
def toRecord (record : AckSentRing) : AckSentRecord := ⟨record.entries, record.lastAddTime⟩

/-- The entries in front of the one that was found stay. -/
theorem ackSentRecordOnAck_kept {ranges : List PktnoRange} {entries kept : List AckSentEntry} {largest : ℕ}
    (h : ackSentRecordOnAck ranges entries = some (largest, kept)) :
    kept = entries.take kept.length ∧ kept.length < entries.length := by
  induction entries generalizing ranges kept with
  | nil => cases ranges <;> cases h
  | cons entry entries ih =>
      rw [ackSentRecordOnAck] at h
      split at h
      · cases h
      · split_ifs at h
        · obtain ⟨-, rfl⟩ := Prod.mk.inj (Option.some.inj h)
          exact ⟨rfl, Nat.succ_pos _⟩
        · obtain ⟨⟨l, kept'⟩, hrec, heq⟩ := Option.map_eq_some_iff.1 h
          obtain ⟨rfl, rfl⟩ := Prod.mk.inj heq
          obtain ⟨htake, hlt⟩ := ih hrec
          refine ⟨?_, Nat.succ_lt_succ hlt⟩
          rw [List.length_cons, List.take_succ_cons, ← htake]

/-- **An acknowledgement does to the content what it does to the record of the send queue.** -/
theorem onAck_toRecord (record : AckSentRing) (ranges : List PktnoRange) :
    (record.onAck ranges).1.toRecord =
        (match ackSentRecordOnAck ranges record.entries with
          | none => record.toRecord
          | some (_, kept) => { record.toRecord with ackSent := kept }) ∧
      (record.onAck ranges).2 =
        (match ackSentRecordOnAck ranges record.entries with
          | none => 0
          | some (largest, _) => largest) ∧
      (record.onAck ranges).1.ackSent.cap = record.ackSent.cap := by
  have hloop := onAckLoop_eq record.ackSent record.ackSent.size 0 ranges (Nat.zero_add _)
  rw [List.drop_zero] at hloop
  unfold onAck toRecord entries
  dsimp only
  rw [hloop]
  cases h : ackSentRecordOnAck ranges record.ackSent.toList with
  | none => exact ⟨rfl, rfl, rfl⟩
  | some p =>
      obtain ⟨hkept, hlt⟩ := ackSentRecordOnAck_kept h
      rw [RingArray.toList_length] at hlt
      refine ⟨?_, rfl, RingArray.popFrom_cap _ _⟩
      dsimp only
      rw [Nat.zero_add, RingArray.popFrom_toList _ hlt, ← hkept]

/-- **A new entry does to the content what it does to the record of the send queue**, as long as the time
does not wrap. -/
theorem add_toRecord (hcap : record.ackSent.cap = ackSentCap) (entry : AckSentEntry) {srtt now : ℕ}
    (htime : record.lastAddTime + srtt < 2 ^ 64) :
    (record.add entry srtt now).1.toRecord = ackSentRecordAdd record.toRecord entry srtt now := by
  have hlen := record.ackSent.toList_length
  have hle := record.ackSent.count_le
  rw [hcap] at hle
  unfold ackSentRecordAdd
  by_cases hdue : record.due srtt now = true
  · obtain ⟨record', hadd, htime', -, hentries⟩ := add_of_due entry hcap hdue
    have hpast : ¬ now < record.toRecord.lastAddTime + srtt := by
      show ¬ now < record.lastAddTime + srtt
      rw [← u64Add_eq htime]
      simpa [due] using hdue
    rw [hadd, if_neg hpast]
    unfold toRecord
    rw [hentries, htime']
    congr 1
    show (entry :: record.ackSent.toList).take 8 =
      entry :: if 8 ≤ record.ackSent.toList.length then record.ackSent.toList.dropLast
        else record.ackSent.toList
    rw [List.take_succ_cons, hlen]
    split_ifs with hfull
    · have hcount : record.ackSent.count = 8 := le_antisymm hle hfull
      rw [List.dropLast_eq_take, hlen, hcount]
    · rw [List.take_of_length_le (by omega)]
  · have hearly : now < record.toRecord.lastAddTime + srtt := by
      show now < record.lastAddTime + srtt
      rw [← u64Add_eq htime]
      simpa [due] using hdue
    rw [add_of_not_due (by simpa using hdue), if_pos hearly]

end AckSentRing

/-! ## Runs -/

/-- One call. -/
inductive AckSentEvent where
  | add (entry : AckSentEntry) (srtt now : ℕ)
  | onAck (ranges : List PktnoRange)

/-- The packet number of a new entry. -/
def AckSentEvent.pktNum? : AckSentEvent → Option ℕ
  | .add entry _ _ => some entry.pktNum
  | .onAck _ => none

/-- The record with everything that was ever recorded, the newest entry first. -/
structure AckSentHistory where
  record : AckSentRing := AckSentRing.init
  recorded : List AckSentEntry := []

namespace AckSentHistory

/-- One step. -/
def step (h : AckSentHistory) : AckSentEvent → AckSentHistory
  | .add entry srtt now =>
    ⟨(h.record.add entry srtt now).1, if h.record.due srtt now then entry :: h.recorded else h.recorded⟩
  | .onAck ranges => ⟨(h.record.onAck ranges).1, h.recorded⟩

/-- A run. -/
def run (h : AckSentHistory) (evs : List AckSentEvent) : AckSentHistory := evs.foldl step h

theorem run_append (h : AckSentHistory) (evs : List AckSentEvent) (ev : AckSentEvent) :
    h.run (evs ++ [ev]) = (h.run evs).step ev := by
  simp [run]

/-- The entries are the newest ones of what was recorded, and that is in order. -/
structure Inv (h : AckSentHistory) (added : List ℕ) : Prop where
  cap : h.record.ackSent.cap = ackSentCap
  newest : h.record.entries <+: h.recorded
  order : NewestFirst h.recorded
  added : ∀ entry ∈ h.recorded, entry.pktNum ∈ added

variable {h : AckSentHistory} {added : List ℕ}

theorem Inv.add (hinv : h.Inv added) {entry : AckSentEntry} (hnew : ∀ n ∈ added, n < entry.pktNum)
    (srtt now : ℕ) : (h.step (.add entry srtt now)).Inv (added ++ [entry.pktNum]) := by
  have hmore : ∀ i ∈ h.recorded, i.pktNum ∈ added ++ [entry.pktNum] :=
    fun i hi => List.mem_append_left _ (hinv.added i hi)
  show Inv ⟨(h.record.add entry srtt now).1,
    if h.record.due srtt now then entry :: h.recorded else h.recorded⟩ _
  by_cases hdue : h.record.due srtt now = true
  · obtain ⟨record', hadd, -, hcap, hentries⟩ := AckSentRing.add_of_due entry hinv.cap hdue
    rw [hadd, if_pos hdue]
    refine ⟨hcap, ?_, List.pairwise_cons.2 ⟨fun i hi => hnew _ (hinv.added i hi), hinv.order⟩, ?_⟩
    · have htake : (entry :: h.record.entries).take ackSentCap <+: entry :: h.record.entries :=
        List.take_prefix _ _
      rw [hentries]
      exact htake.trans ((List.prefix_cons_inj entry).2 hinv.newest)
    · intro i hi
      rcases List.mem_cons.1 hi with rfl | hold
      · exact List.mem_append_right _ (List.mem_singleton_self _)
      · exact hmore i hold
  · rw [AckSentRing.add_of_not_due (by simpa using hdue), if_neg hdue]
    exact ⟨hinv.cap, hinv.newest, hinv.order, hmore⟩

theorem Inv.onAck (hinv : h.Inv added) (ranges : List PktnoRange) :
    (h.step (.onAck ranges)).Inv added := by
  obtain ⟨hrecord, -, hcap⟩ := h.record.onAck_toRecord ranges
  refine ⟨hcap.trans hinv.cap, ?_, hinv.order, hinv.added⟩
  have hentries := congrArg AckSentRecord.ackSent hrecord
  show (h.record.onAck ranges).1.toRecord.ackSent <+: h.recorded
  rw [hentries]
  cases hwalk : ackSentRecordOnAck ranges h.record.entries with
  | none => exact hinv.newest
  | some p =>
      obtain ⟨hkept, -⟩ := AckSentRing.ackSentRecordOnAck_kept hwalk
      have htake : h.record.entries.take p.2.length <+: h.record.entries := List.take_prefix _ _
      dsimp only
      rw [hkept]
      exact htake.trans hinv.newest

theorem run_inv (evs : List AckSentEvent)
    (hadds : (evs.filterMap AckSentEvent.pktNum?).Pairwise (· < ·)) :
    (run {} evs).Inv (evs.filterMap AckSentEvent.pktNum?) := by
  induction evs using List.reverseRecOn with
  | nil => exact ⟨rfl, List.prefix_rfl, List.Pairwise.nil, nofun⟩
  | append_singleton evs ev ih =>
      rw [List.filterMap_append] at hadds ⊢
      obtain ⟨hbefore, -, hlast⟩ := List.pairwise_append.1 hadds
      have hinv := ih hbefore
      rw [run_append]
      cases ev with
      | add entry srtt now => exact hinv.add (fun n hn => hlast n hn _ (List.mem_singleton_self _)) srtt now
      | onAck ranges =>
          have hsame : evs.filterMap AckSentEvent.pktNum? ++
              [AckSentEvent.onAck ranges].filterMap AckSentEvent.pktNum? =
              evs.filterMap AckSentEvent.pktNum? := List.append_nil _
          rw [hsame]
          exact hinv.onAck ranges

end AckSentHistory

/-- **The lookup of sent ACK frames.** In every run whose packet numbers rise, the record holds the entries
that were recorded last, at most 8, from the largest packet number down. A new entry comes in front, when a
round trip has passed; an ACK frame with descending ranges finds the newest entry that it covers, and takes it
and all older ones out. -/
theorem ackSent_lookup (evs : List AckSentEvent)
    (hadds : (evs.filterMap AckSentEvent.pktNum?).Pairwise (· < ·)) :
    let h := AckSentHistory.run {} evs
    let entries := h.record.entries
    (entries = h.recorded.take entries.length ∧ entries.length ≤ 8 ∧ NewestFirst entries) ∧
      (∀ entry srtt now, (h.record.add entry srtt now).2 = .ok () ∧
        (h.record.add entry srtt now).1.entries =
          if h.record.due srtt now then (entry :: entries).take 8 else entries) ∧
      ∀ ranges, Descending ranges →
        (h.record.onAck ranges).2 =
            ((entries.find? (coveredBy ranges)).map AckSentEntry.largestAck).getD 0 ∧
          (h.record.onAck ranges).1.entries = entries.takeWhile (!coveredBy ranges ·) := by
  have hinv := AckSentHistory.run_inv evs hadds
  intro h entries
  have horder : NewestFirst entries := hinv.order.sublist hinv.newest.sublist
  refine ⟨⟨List.prefix_iff_eq_take.1 hinv.newest, ?_, horder⟩, ?_, ?_⟩
  · have hle := h.record.ackSent.count_le
    rw [hinv.cap] at hle
    exact h.record.ackSent.toList_length.trans_le hle
  · intro entry srtt now
    by_cases hdue : h.record.due srtt now = true
    · obtain ⟨record', hadd, -, -, hentries⟩ := AckSentRing.add_of_due entry hinv.cap hdue
      rw [hadd, if_pos hdue]
      exact ⟨rfl, hentries⟩
    · rw [AckSentRing.add_of_not_due (by simpa using hdue), if_neg hdue]
      exact ⟨rfl, rfl⟩
  · intro ranges hranges
    obtain ⟨hrecord, hret, -⟩ := h.record.onAck_toRecord ranges
    have hentries : (h.record.onAck ranges).1.entries = _ := congrArg AckSentRecord.ackSent hrecord
    rw [hentries, hret, ackSentRecordOnAck_eq hranges horder]
    cases hfind : entries.find? (coveredBy ranges) with
    | none =>
        refine ⟨rfl, ?_⟩
        have hall : ∀ i ∈ entries, (!coveredBy ranges i) = true := by
          intro i hi
          simpa using List.find?_eq_none.1 hfind i hi
        exact (List.takeWhile_eq_self_iff.2 hall).symm
    | some entry => exact ⟨rfl, rfl⟩

/-- Three packets are recorded; an ACK frame for the packets 3 to 5 finds packet 4. -/
theorem ackSent_lookup_three :
    let evs : List AckSentEvent := [.add ⟨2, 1⟩ 0 1, .add ⟨4, 2⟩ 0 2, .add ⟨6, 3⟩ 0 3]
    ((AckSentHistory.run {} evs).record.onAck [⟨3, 5⟩]).2 = 2 ∧
      ((AckSentHistory.run {} evs).record.onAck [⟨3, 5⟩]).1.entries = [⟨6, 3⟩] := by
  intro evs
  obtain ⟨-, -, hack⟩ := ackSent_lookup evs (by decide)
  obtain ⟨hret, hentries⟩ := hack [⟨3, 5⟩] ⟨List.pairwise_singleton _ _, by decide⟩
  rw [hret, hentries]
  decide

end Rquic

import Rquic.Frame.Parse

set_option autoImplicit false

/-!
# The record of received packet numbers

`rqc_recv_record.c`: the ranges of received packet numbers, from the largest down, and the record of
the ACK frames that were sent.

* `recvRecordAdd`, `recvRecordDel`: a packet number is added, the numbers below a bound are dropped.
* `ackSentRecordAdd`, `ackSentRecordOnAck`: the ring of sampled ACK frames.
* `mem_of_ackSentRecordOnAck`: the ring answers with an entry whose packet the ACK frame covers.
-/

namespace Rquic

/-! ## Received packet numbers -/

/-- `rqc_pkt_range_status`, without the allocation error. -/
inductive PktRangeStatus where
  | ok | dup
  deriving DecidableEq, Repr

/-- `rqc_recv_record_t`. -/
structure RecvRecord where
  ranges : List PktnoRange := []
  rrDelFrom : ℕ := 0
  deriving DecidableEq, Repr

/-- The walk of `rqc_recv_record_add`: the ranges above the packet number and those below it, or
nothing if a range holds it. -/
def recvRecordFind (packetNumber : ℕ) :
    List PktnoRange → Option (List PktnoRange × List PktnoRange)
  | [] => some ([], [])
  | r :: rs =>
    if packetNumber ≤ r.high then
      if r.low ≤ packetNumber then none
      else (recvRecordFind packetNumber rs).map fun p => (r :: p.1, p.2)
    else some ([], r :: rs)

/-- The ranges after a new packet number between `above` and `below`: a neighbour is extended, two
ranges are joined, or a new range is inserted and the last one beyond the cap is dropped. -/
def recvRecordInsert (packetNumber : ℕ) (above below : List PktnoRange) : List PktnoRange :=
  let insertNew :=
    if below = [] then
      if above.length < maxAckRangeCnt then above ++ [⟨packetNumber, packetNumber⟩] else above
    else (above ++ ⟨packetNumber, packetNumber⟩ :: below).take maxAckRangeCnt
  let mergeBelow :=
    match below with
    | [] => insertNew
    | r :: rs =>
      if r.high + 1 = packetNumber then above ++ ⟨r.low, packetNumber⟩ :: rs else insertNew
  match above.getLast? with
  | none => mergeBelow
  | some prev =>
    if prev.low = packetNumber + 1 then
      match below with
      | [] => above.dropLast ++ [⟨packetNumber, prev.high⟩]
      | r :: rs =>
        if packetNumber = r.high + 1 then above.dropLast ++ ⟨r.low, prev.high⟩ :: rs
        else above.dropLast ++ ⟨packetNumber, prev.high⟩ :: r :: rs
    else mergeBelow

/-- `rqc_recv_record_add`. -/
def recvRecordAdd (record : RecvRecord) (packetNumber : ℕ) : RecvRecord × PktRangeStatus :=
  match recvRecordFind packetNumber record.ranges with
  | none => (record, .dup)
  | some (above, below) =>
    ({ record with ranges := recvRecordInsert packetNumber above below }, .ok)

/-- `rqc_recv_record_del`: the packet numbers below `delFrom` are dropped. -/
def recvRecordDel (record : RecvRecord) (delFrom : ℕ) : RecvRecord :=
  if delFrom < record.rrDelFrom then record
  else
    { ranges := (record.ranges.filter fun r => ¬ r.high < delFrom).map fun r =>
        if r.low < delFrom then { r with low := delFrom } else r
      rrDelFrom := delFrom }

/-- `rqc_recv_record_largest`. -/
def recvRecordLargest (record : RecvRecord) : ℕ :=
  match record.ranges with
  | [] => 0
  | r :: _ => r.high

/-- Every packet number of the record is below `N`. -/
def RecvRecord.Below (N : ℕ) (record : RecvRecord) : Prop := ∀ r ∈ record.ranges, r.high < N

theorem recvRecordFind_mem {packetNumber : ℕ} {ranges above below : List PktnoRange}
    (h : recvRecordFind packetNumber ranges = some (above, below)) : ranges = above ++ below := by
  induction ranges generalizing above below with
  | nil =>
      obtain ⟨rfl, rfl⟩ := Prod.mk.inj (Option.some.inj h)
      rfl
  | cons r rs ih =>
      rw [recvRecordFind] at h
      split_ifs at h
      · obtain ⟨p, hp, heq⟩ := Option.map_eq_some_iff.1 h
        obtain ⟨rfl, rfl⟩ := Prod.mk.inj heq
        rw [ih hp, List.cons_append]
      · obtain ⟨rfl, rfl⟩ := Prod.mk.inj (Option.some.inj h)
        rfl

/-- A range of the new record ends where an old one ends, or at the new packet number. -/
theorem high_of_recvRecordInsert {packetNumber : ℕ} {above below : List PktnoRange} {r : PktnoRange}
    (h : r ∈ recvRecordInsert packetNumber above below) :
    r.high = packetNumber ∨ ∃ r' ∈ above ++ below, r.high = r'.high := by
  have htake : ∀ {n : ℕ} {l : List PktnoRange}, r ∈ l.take n → r ∈ l := List.mem_of_mem_take
  have hinit : r ∈ above.dropLast → r ∈ above := List.mem_of_mem_dropLast
  have hlast : ∀ prev, above.getLast? = some prev → prev ∈ above := fun _ => List.mem_of_getLast?
  unfold recvRecordInsert at h
  grind

theorem RecvRecord.Below.add {N packetNumber : ℕ} {record : RecvRecord} (h : record.Below N)
    (hlt : packetNumber < N) : (recvRecordAdd record packetNumber).1.Below N := by
  unfold recvRecordAdd
  split
  · exact h
  · rename_i above below hfind
    intro r hr
    rcases high_of_recvRecordInsert hr with heq | ⟨r', hr', heq⟩
    · rw [heq]
      exact hlt
    · rw [heq]
      exact h r' (recvRecordFind_mem hfind ▸ hr')

theorem RecvRecord.Below.del {N : ℕ} {record : RecvRecord} (h : record.Below N) (delFrom : ℕ) :
    (recvRecordDel record delFrom).Below N := by
  unfold recvRecordDel
  split_ifs
  · exact h
  · intro r hr
    obtain ⟨r', hr', rfl⟩ := List.mem_map.1 hr
    have hlt := h r' (List.mem_filter.1 hr').1
    split_ifs <;> exact hlt

/-! ## Sent ACK frames -/

/-- `rqc_ack_sent_entry_t`. -/
structure AckSentEntry where
  pktNum : ℕ
  largestAck : ℕ
  deriving DecidableEq, Repr

/-- `rqc_ack_sent_record_t`, the newest entry first. -/
structure AckSentRecord where
  ackSent : List AckSentEntry := []
  lastAddTime : ℕ := 0
  deriving DecidableEq, Repr

/-- The capacity of the ring. -/
def ackSentCap : ℕ := 8

/-- `rqc_ack_sent_record_add`: one entry for each round trip. -/
def ackSentRecordAdd (record : AckSentRecord) (entry : AckSentEntry) (srtt now : ℕ) :
    AckSentRecord :=
  if now < record.lastAddTime + srtt then record
  else
    { ackSent := entry :: if ackSentCap ≤ record.ackSent.length then record.ackSent.dropLast
        else record.ackSent
      lastAddTime := now }

/-- The inner loop of `rqc_ack_sent_record_on_ack`: the ranges above the packet number are passed. -/
def skipRanges (pktNum : ℕ) : List PktnoRange → List PktnoRange
  | [] => []
  | r :: rs => if pktNum < r.low then skipRanges pktNum rs else r :: rs

/-- `rqc_ack_sent_record_on_ack`: the newest entry that the ACK frame covers, with the entries that
are newer. The source returns 0 where there is none. -/
def ackSentRecordOnAck : List PktnoRange → List AckSentEntry → Option (ℕ × List AckSentEntry)
  | _, [] => none
  | ranges, entry :: entries =>
    match skipRanges entry.pktNum ranges with
    | [] => none
    | r :: rs =>
      if entry.pktNum ≤ r.high then some (entry.largestAck, [])
      else (ackSentRecordOnAck (r :: rs) entries).map fun p => (p.1, entry :: p.2)

/-- A packet number that an ACK frame acknowledges. -/
def AckInfo.Acks (info : AckInfo) (pktNum : ℕ) : Prop :=
  ∃ r ∈ info.ranges, r.low ≤ pktNum ∧ pktNum ≤ r.high

theorem skipRanges_sublist (pktNum : ℕ) (ranges : List PktnoRange) :
    (skipRanges pktNum ranges).Sublist ranges := by
  induction ranges with
  | nil => exact List.Sublist.refl _
  | cons r rs ih =>
      rw [skipRanges]
      split_ifs
      · exact ih.trans (List.sublist_cons_self r rs)
      · exact List.Sublist.refl _

theorem le_of_skipRanges {pktNum : ℕ} {ranges rs : List PktnoRange} {r : PktnoRange}
    (h : skipRanges pktNum ranges = r :: rs) : r.low ≤ pktNum := by
  induction ranges with
  | nil => cases h
  | cons r' rs' ih =>
      rw [skipRanges] at h
      split_ifs at h with hlt
      · exact ih h
      · obtain ⟨rfl, -⟩ := List.cons.inj h
        omega

/-- **The ring answers with evidence**: the entry is in the ring and its packet is acknowledged. -/
theorem mem_of_ackSentRecordOnAck {ranges : List PktnoRange} {entries kept : List AckSentEntry}
    {largest : ℕ} (h : ackSentRecordOnAck ranges entries = some (largest, kept)) :
    (∃ entry ∈ entries, entry.largestAck = largest ∧
      ∃ r ∈ ranges, r.low ≤ entry.pktNum ∧ entry.pktNum ≤ r.high) ∧ ∀ i ∈ kept, i ∈ entries := by
  induction entries generalizing ranges kept with
  | nil => cases h
  | cons entry entries ih =>
      rw [ackSentRecordOnAck] at h
      cases hskip : skipRanges entry.pktNum ranges with
      | nil =>
          rw [hskip] at h
          cases h
      | cons r rs =>
          have hsub : (r :: rs).Sublist ranges := hskip ▸ skipRanges_sublist _ _
          rw [hskip] at h
          simp only at h
          split_ifs at h with hle
          · obtain ⟨rfl, rfl⟩ := Prod.mk.inj (Option.some.inj h)
            refine ⟨⟨entry, List.mem_cons_self, rfl, r, hsub.subset List.mem_cons_self,
              le_of_skipRanges hskip, hle⟩, by simp⟩
          · obtain ⟨⟨l, kept'⟩, hrec, heq⟩ := Option.map_eq_some_iff.1 h
            obtain ⟨rfl, rfl⟩ := Prod.mk.inj heq
            obtain ⟨⟨entry', hmem, hl, r', hr', hin⟩, hkept⟩ := ih hrec
            refine ⟨⟨entry', List.mem_cons_of_mem _ hmem, hl, r', hsub.subset hr', hin⟩, ?_⟩
            intro i hi
            rcases List.mem_cons.1 hi with rfl | hi
            · exact List.mem_cons_self
            · exact List.mem_cons_of_mem _ (hkept i hi)

end Rquic

import Rquic.RecvRecord

set_option autoImplicit false

/-!
# Packet numbers on the wire

`rqc_packet_parser.c`: a packet number is truncated to the bytes of its class, and recovered from the
largest number in the record of received packets.

* `writePacketNumber`, `parsePacketNumber`: the truncated number.
* `calcPacketNumber`, `decodePacketNumber`: the number closest to the one that is expected next.
* **`calcPacketNumber_eq`**: a number in the window around the expected one is recovered, and so is a
  number of four bytes above the reference.
* `recvRecordAdd_spec`, `recvRecordDel_spec`: what the reference is after a packet was recorded or
  numbers were dropped.
-/

namespace Rquic

/-! ## Encoding -/

/-- `RQC_PKTNO_CLASS`: four bytes. -/
def pktnoClass : ℕ := 3

/-- `rqc_pktno_class_bytes`. -/
def pktnoClassBytes (c : ℕ) : ℕ := c + 1

/-- `rqc_write_packet_number`. -/
def writePacketNumber (packetNumber pktnoClass : ℕ) : Bytes :=
  let pktnoBytes := pktnoClassBytes pktnoClass
  (if pktnoBytes = 4 then [UInt8.ofNat (packetNumber / 2 ^ 24)] else []) ++
    (if 3 ≤ pktnoBytes then [UInt8.ofNat (packetNumber / 2 ^ 16)] else []) ++
    (if 2 ≤ pktnoBytes then [UInt8.ofNat (packetNumber / 2 ^ 8)] else []) ++
    [UInt8.ofNat packetNumber]

/-- `rqc_packet_parse_packet_number`. -/
def parsePacketNumber (pktno : Bytes) : ℕ :=
  pktno.foldl (fun packetNum b => u64Add (u64Mul packetNum (2 ^ 8)) b.toNat) 0

/-- `rqc_packet_calc_packet_number`. -/
def calcPacketNumber (largestPn truncatedPn pnNbits : ℕ) : ℕ :=
  let expectedPn := u64Add largestPn 1
  let pnWin := 2 ^ pnNbits
  let pnHwin := pnWin / 2
  let candidatePn := (pnWin * (expectedPn / pnWin)) ||| truncatedPn
  if u64Add candidatePn pnHwin ≤ expectedPn ∧ candidatePn < 2 ^ 62 - pnWin then
    u64Add candidatePn pnWin
  else if u64Add expectedPn pnHwin < candidatePn ∧ pnWin ≤ candidatePn then candidatePn - pnWin
  else candidatePn

/-- `rqc_packet_decode_packet_number`. -/
def decodePacketNumber (record : RecvRecord) (pktno : Bytes) : ℕ :=
  calcPacketNumber (recvRecordLargest record) (parsePacketNumber pktno) (pktno.length * 8)

theorem length_writePacketNumber (p : ℕ) : (writePacketNumber p pktnoClass).length = 4 := rfl

theorem parsePacketNumber_write (p : ℕ) :
    parsePacketNumber (writePacketNumber p pktnoClass) = p % 2 ^ 32 := by
  have hbytes : writePacketNumber p pktnoClass =
      [UInt8.ofNat (p / 2 ^ 24), UInt8.ofNat (p / 2 ^ 16), UInt8.ofNat (p / 2 ^ 8), UInt8.ofNat p] :=
    rfl
  rw [hbytes]
  simp only [parsePacketNumber, List.foldl_cons, List.foldl_nil, u64Add, u64Mul, UInt8.toNat_ofNat']
  omega

/-! ## Decoding -/

theorem candidate_eq (expectedPn p : ℕ) :
    (2 ^ 32 * (expectedPn / 2 ^ 32)) ||| (p % 2 ^ 32) =
      2 ^ 32 * (expectedPn / 2 ^ 32) + p % 2 ^ 32 :=
  (Nat.two_pow_add_eq_or_of_lt (Nat.mod_lt _ (by decide)) _).symm

/-- **The number is recovered** if it is close to the expected one. -/
theorem calcPacketNumber_eq {r p : ℕ} (hp : p < 2 ^ 62) (hlow : r + 1 < p + 2 ^ 31)
    (hhigh : p ≤ r + 1 + 2 ^ 31 ∨ p < 2 ^ 32) : calcPacketNumber r (p % 2 ^ 32) 32 = p := by
  have hexp : u64Add r 1 = r + 1 := u64Add_eq (by omega)
  have hhwin : (2 : ℕ) ^ 32 / 2 = 2 ^ 31 := rfl
  simp only [calcPacketNumber, hexp, candidate_eq, hhwin]
  obtain ⟨cand, hcand⟩ : ∃ cand, cand = 2 ^ 32 * ((r + 1) / 2 ^ 32) + p % 2 ^ 32 := ⟨_, rfl⟩
  rw [← hcand, u64Add_eq (a := cand) (b := 2 ^ 31) (by omega),
    u64Add_eq (a := r + 1) (b := 2 ^ 31) (by omega), u64Add_eq (a := cand) (b := 2 ^ 32) (by omega)]
  split_ifs <;> omega

/-- Half a window below the expected number is too far. -/
example : calcPacketNumber (2 ^ 31 + 6) (7 % 2 ^ 32) 32 = 7 + 2 ^ 32 := by decide +kernel

theorem decodePacketNumber_eq {record : RecvRecord} {p : ℕ} (hp : p < 2 ^ 62)
    (hlow : recvRecordLargest record + 1 < p + 2 ^ 31)
    (hhigh : p ≤ recvRecordLargest record + 1 + 2 ^ 31 ∨ p < 2 ^ 32) :
    decodePacketNumber record (writePacketNumber p pktnoClass) = p := by
  rw [decodePacketNumber, parsePacketNumber_write, length_writePacketNumber]
  exact calcPacketNumber_eq hp hlow hhigh

/-! ## The reference -/

/-- The ranges stand from the largest packet number down. -/
def RecvRecord.Descending (record : RecvRecord) : Prop :=
  record.ranges.Pairwise fun a b => b.high ≤ a.high

theorem RecvRecord.Descending.le_largest {record : RecvRecord} (h : record.Descending) :
    ∀ r ∈ record.ranges, r.high ≤ recvRecordLargest record := by
  unfold RecvRecord.Descending at h
  unfold recvRecordLargest
  intro r hr
  cases hranges : record.ranges with
  | nil => rw [hranges] at hr; cases hr
  | cons head rs =>
      rw [hranges] at hr h
      rcases List.mem_cons.1 hr with rfl | hr
      · exact le_rfl
      · exact (List.pairwise_cons.1 h).1 r hr

theorem recvRecordFind_split {pn : ℕ} {ranges above below : List PktnoRange}
    (hdesc : ranges.Pairwise fun a b => b.high ≤ a.high)
    (h : recvRecordFind pn ranges = some (above, below)) :
    (∀ r ∈ above, pn ≤ r.high) ∧ ∀ r ∈ below, r.high < pn := by
  induction ranges generalizing above below with
  | nil =>
      obtain ⟨rfl, rfl⟩ := Prod.mk.inj (Option.some.inj h)
      simp
  | cons head rs ih =>
      rw [recvRecordFind] at h
      obtain ⟨hhead, hrs⟩ := List.pairwise_cons.1 hdesc
      split_ifs at h with hle hlow
      · obtain ⟨p, hp, heq⟩ := Option.map_eq_some_iff.1 h
        obtain ⟨rfl, rfl⟩ := Prod.mk.inj heq
        obtain ⟨habove, hbelow⟩ := ih hrs hp
        exact ⟨List.forall_mem_cons.2 ⟨hle, habove⟩, hbelow⟩
      · obtain ⟨rfl, rfl⟩ := Prod.mk.inj (Option.some.inj h)
        refine ⟨by simp, List.forall_mem_cons.2 ⟨by omega, fun r hr => ?_⟩⟩
        exact (hhead r hr).trans_lt (by omega)

/-- A packet number that a range holds is not above the largest one. -/
theorem le_of_recvRecordFind_none {pn : ℕ} {ranges : List PktnoRange}
    (h : recvRecordFind pn ranges = none) : ∃ r ∈ ranges, pn ≤ r.high := by
  induction ranges with
  | nil => cases h
  | cons head rs ih =>
      rw [recvRecordFind] at h
      split_ifs at h with hle
      · exact ⟨head, List.mem_cons_self, hle⟩
      · exact ⟨head, List.mem_cons_self, hle⟩

/-- Where the packet number goes. -/
inductive Inserted (pn : ℕ) (above below : List PktnoRange) : List PktnoRange → Prop where
  /-- The last range above it is extended. -/
  | extend (init : List PktnoRange) (prev : PktnoRange) (low : ℕ) (rest : List PktnoRange)
      (habove : above = init ++ [prev]) (hrest : rest.Sublist below) :
      Inserted pn above below (init ++ ⟨low, prev.high⟩ :: rest)
  /-- It ends a range. -/
  | ends (low : ℕ) (rest : List PktnoRange) (hrest : rest.Sublist below) :
      Inserted pn above below (above ++ ⟨low, pn⟩ :: rest)
  /-- The last ranges fall out. -/
  | cut (n : ℕ) (hn : 0 < n) : Inserted pn above below ((above ++ ⟨pn, pn⟩ :: below).take n)

theorem inserted (pn : ℕ) (above below : List PktnoRange) :
    Inserted pn above below (recvRecordInsert pn above below) := by
  have hnew : Inserted pn above below
      (if below = [] then
        if above.length < maxAckRangeCnt then above ++ [⟨pn, pn⟩] else above
      else (above ++ ⟨pn, pn⟩ :: below).take maxAckRangeCnt) := by
    split_ifs with hnil hlen
    · exact .ends pn [] (List.nil_sublist _)
    · have hcut : Inserted pn above below ((above ++ ⟨pn, pn⟩ :: below).take above.length) :=
        .cut above.length (by unfold maxAckRangeCnt at hlen; omega)
      rwa [List.take_left] at hcut
    · exact .cut maxAckRangeCnt (by decide)
  have hmerge : ∀ {r rs new}, below = r :: rs → Inserted pn above below new → Inserted pn above below
      (if r.high + 1 = pn then above ++ ⟨r.low, pn⟩ :: rs else new) := by
    intro r rs new hbelow hnew
    split_ifs
    · exact .ends r.low rs (hbelow ▸ List.sublist_cons_self r rs)
    · exact hnew
  unfold recvRecordInsert
  cases hlast : above.getLast? with
  | none =>
      cases below with
      | nil => exact hnew
      | cons r rs => exact hmerge rfl hnew
  | some prev =>
      have habove : above = above.dropLast ++ [prev] := (List.dropLast_append_getLast? _ hlast).symm
      by_cases hprev : prev.low = pn + 1
      · simp only [if_pos hprev]
        cases below with
        | nil => exact .extend _ prev pn [] habove (List.Sublist.refl _)
        | cons r rs =>
            by_cases hr : pn = r.high + 1
            · simp only [if_pos hr]
              exact .extend _ prev r.low rs habove (List.sublist_cons_self r rs)
            · simp only [if_neg hr]
              exact .extend _ prev pn (r :: rs) habove (List.Sublist.refl _)
      · simp only [if_neg hprev]
        cases below with
        | nil => exact hnew
        | cons r rs => exact hmerge rfl hnew

section

variable {pn : ℕ} {above below ranges : List PktnoRange}

/-- The ranges end where those before ended or at the new number, in this order. -/
theorem Inserted.sublist (h : Inserted pn above below ranges) :
    (ranges.map PktnoRange.high).Sublist
      (above.map PktnoRange.high ++ pn :: below.map PktnoRange.high) := by
  cases h with
  | extend init prev low rest habove hrest =>
      rw [habove, List.map_append, List.map_append, List.append_assoc]
      exact (List.Sublist.refl _).append (((hrest.map _).trans (List.sublist_cons_self pn _)).cons_cons _)
  | ends low rest hrest =>
      rw [List.map_append]
      exact (List.Sublist.refl _).append ((hrest.map _).cons_cons _)
  | cut n hn =>
      rw [List.map_take, List.map_append]
      exact List.take_sublist _ _

/-- The first range ends where the first one before ended, or at the new number. -/
theorem Inserted.head? (h : Inserted pn above below ranges) :
    ranges.head?.map PktnoRange.high = some ((above.head?.map PktnoRange.high).getD pn) := by
  cases h with
  | extend init prev low rest habove hrest =>
      subst habove
      cases init <;> rfl
  | ends low rest hrest => cases above <;> rfl
  | cut n hn =>
      obtain ⟨m, rfl⟩ := Nat.exists_eq_succ_of_ne_zero hn.ne'
      cases above <;> rfl

end

theorem recvRecordLargest_eq (record : RecvRecord) :
    recvRecordLargest record = (record.ranges.head?.map PktnoRange.high).getD 0 := by
  unfold recvRecordLargest
  cases record.ranges <;> rfl

/-- The largest number of a record after a packet was recorded. -/
theorem recvRecordAdd_spec {record : RecvRecord} (h : record.Descending) (pn : ℕ) :
    (recvRecordAdd record pn).1.Descending ∧ (recvRecordAdd record pn).1.ranges ≠ [] ∧
      recvRecordLargest (recvRecordAdd record pn).1 =
        if record.ranges = [] then pn else max (recvRecordLargest record) pn := by
  unfold recvRecordAdd
  cases hfind : recvRecordFind pn record.ranges with
  | none =>
      obtain ⟨r, hr, hle⟩ := le_of_recvRecordFind_none hfind
      have hne : record.ranges ≠ [] := List.ne_nil_of_mem hr
      refine ⟨h, hne, ?_⟩
      rw [if_neg hne]
      exact (max_eq_left (hle.trans (h.le_largest r hr))).symm
  | some p =>
      obtain ⟨above, below⟩ := p
      have hranges := recvRecordFind_mem hfind
      obtain ⟨habove, hbelow⟩ := recvRecordFind_split h hfind
      have hins := inserted pn above below
      have hhead := hins.head?
      refine ⟨?_, ?_, ?_⟩
      · have hpair : (above.map PktnoRange.high ++ pn :: below.map PktnoRange.high).Pairwise
            (fun a b => b ≤ a) := by
          unfold RecvRecord.Descending at h
          rw [hranges, List.pairwise_append] at h
          rw [List.pairwise_append, List.pairwise_cons]
          simp only [List.pairwise_map, List.forall_mem_map, List.forall_mem_cons]
          exact ⟨h.1, ⟨fun r hr => (hbelow r hr).le, h.2.1⟩, fun a ha => ⟨habove a ha, fun b hb => h.2.2 a ha b hb⟩⟩
        exact List.pairwise_map.1 (hpair.sublist hins.sublist)
      · intro hnil
        dsimp only at hnil
        rw [hnil] at hhead
        cases hhead
      · rw [recvRecordLargest_eq, recvRecordLargest_eq, hhead, Option.getD_some, hranges]
        cases above with
        | nil =>
            cases below with
            | nil => rfl
            | cons r rs => exact (max_eq_right (hbelow r List.mem_cons_self).le).symm
        | cons a as => exact (max_eq_left (habove a List.mem_cons_self)).symm

/-- Dropping numbers leaves the largest one, or nothing. -/
theorem recvRecordDel_spec {record : RecvRecord} (h : record.Descending) (delFrom : ℕ) :
    (recvRecordDel record delFrom).Descending ∧
      ((recvRecordDel record delFrom).ranges ≠ [] →
        recvRecordLargest (recvRecordDel record delFrom) = recvRecordLargest record) ∧
      recvRecordLargest (recvRecordDel record delFrom) ≤ recvRecordLargest record := by
  unfold recvRecordDel
  split_ifs with hlt
  · exact ⟨h, fun _ => rfl, le_rfl⟩
  · have hhighs : ((record.ranges.filter fun r => ¬ r.high < delFrom).map fun r =>
        if r.low < delFrom then { r with low := delFrom } else r).map PktnoRange.high =
          (record.ranges.filter fun r => ¬ r.high < delFrom).map PktnoRange.high := by
      rw [List.map_map]
      refine List.map_congr_left fun r _ => ?_
      show (if r.low < delFrom then { r with low := delFrom } else r).high = r.high
      split_ifs <;> rfl
    have hkept : record.ranges.filter (fun r => ¬ r.high < delFrom) = [] ∨
        (record.ranges.filter fun r => ¬ r.high < delFrom).head? = record.ranges.head? := by
      cases hranges : record.ranges with
      | nil => exact .inl rfl
      | cons r rs =>
          by_cases hr : r.high < delFrom
          · left
            refine List.filter_eq_nil_iff.2 fun r' hr' => ?_
            have hle := h.le_largest r' (hranges ▸ hr')
            rw [recvRecordLargest_eq, hranges] at hle
            have hlt' : r'.high < delFrom := lt_of_le_of_lt hle hr
            simpa using hlt'
          · right
            rw [List.filter_cons_of_pos (by simpa using hr)]
            rfl
    simp only [recvRecordLargest_eq, ← List.head?_map, hhighs]
    refine ⟨?_, ?_⟩
    · refine List.pairwise_map.1 (?_ : List.Pairwise (fun a b => b ≤ a) _)
      show List.Pairwise (fun a b => b ≤ a) (List.map PktnoRange.high (List.map _ _))
      rw [hhighs]
      exact List.pairwise_map.2 (List.Pairwise.filter _ h)
    · rcases hkept with hnil | hsame
      · rw [hnil]
        exact ⟨fun habs => absurd rfl habs, Nat.zero_le _⟩
      · rw [List.head?_map, hsame, List.head?_map]
        exact ⟨fun _ => rfl, le_rfl⟩

end Rquic

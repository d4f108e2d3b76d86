import Rquic.PacketOut
import Rquic.RecvSet

set_option autoImplicit false

/-!
# ACK frames on the wire

`rqc_gen_ack_frame` and `rqc_parse_ack_frame` against each other. The frame holds distances between
packet numbers; the generator keeps them in 32-bit variables, the parser in 64-bit ones.

* `genAckFrameRun`: the generator range by range, with the packet as it leaves it on every path.
* `AckWire`, `readAckWire`: the integers of a frame; `rangesOf`: the ranges that they stand for.
* `parseAckFrame_eq`: the parser reads the integers and converts them.
* **`ackRoundTrip_iff_narrow`**: a record comes back as it was written if and only if all of its
  distances fit 32 bits.
-/

namespace Rquic

/-! ## The generator -/

/-- The range loop of `rqc_gen_ack_frame`, behind the bytes `dst` and `rangeCount` ranges. -/
def genAckRanges (room : ℕ) :
    ℕ → ℕ → Bytes → List PktnoRange → Except Errno (Bytes × ℕ)
  | _, rangeCount, dst, [] => .ok (dst, rangeCount)
  | prevLow, rangeCount, dst, r :: rs =>
    let gap := u64Sub (u64Sub prevLow r.high) 2 % 2 ^ 32
    let acks := u64Sub r.high r.low % 2 ^ 32
    if room < dst.length + (vintBytes gap).length + (vintBytes acks).length then .error .nobuf
    else if maxAckRangeCnt - 1 ≤ rangeCount + 1 then
      .ok (dst ++ vintBytes gap ++ vintBytes acks, rangeCount + 1)
    else genAckRanges room r.low (rangeCount + 1) (dst ++ vintBytes gap ++ vintBytes acks) rs

/-- The type, the largest packet number and the delay of an ACK frame. -/
def ackIds (ackDelay largestRecv : ℕ) : Bytes := 0x02 :: (vintBytes largestRecv ++ vintBytes ackDelay)

/-- What `rqc_gen_ack_frame` hands to its caller: the bytes behind `po_used_size`, the largest packet
number and whether there is a gap. -/
structure AckWritten where
  code : Bytes
  largestAck : ℕ
  hasGap : Bool
  deriving DecidableEq

/-- `rqc_gen_ack_frame` as it runs, with the packet on every path. The bytes are behind `po_used_size`
until the caller adds their number to it, and the frame type is noted at the end. -/
def genAckFrameRun (po : PacketOut) (ackDelay ackDelayExponent : ℕ) :
    List PktnoRange → PacketOut × Except Errno AckWritten
  | [] => (po, .error .nullptr)
  | first :: rs =>
    let room := po.remainedSizeWithAckSpc
    let ids := ackIds (ackDelay / 2 ^ ackDelayExponent) first.high
    -- the range count is filled in when the ranges are written
    let dst := ids ++ 0 :: vintBytes (u64Sub first.high first.low % 2 ^ 32)
    if room < dst.length then (po, .error .nobuf)
    else
      match genAckRanges room first.low 0 dst rs with
      | .error e => (po, .error e)
      | .ok (dst, rangeCount) =>
        ({ po with poFrameTypes := insert .ack po.poFrameTypes },
          .ok ⟨overwrite dst ids.length [UInt8.ofNat rangeCount], first.high, 0 < rangeCount⟩)

/-! ## The integers of a frame -/

/-- The integers of an ACK frame: the pairs are those of a gap and a range. -/
structure AckWire where
  frameType : ℕ
  largestAcked : ℕ
  ackDelay : ℕ
  firstAckRange : ℕ
  pairs : List (ℕ × ℕ)
  deriving DecidableEq, Repr

/-- `count` pairs of integers. -/
def readAckPairs : ℕ → Bytes → Except Errno (List (ℕ × ℕ) × Bytes)
  | 0, bs => .ok ([], bs)
  | count + 1, bs => do
    let (gap, bs) ← readVint bs
    let (range, bs) ← readVint bs
    let (pairs, bs) ← readAckPairs count bs
    .ok ((gap, range) :: pairs, bs)

/-- The integers that `rqc_parse_ack_frame` reads, with the bytes behind the frame. -/
def readAckWire (bs : Bytes) : Except Errno (AckWire × Bytes) := do
  let (frameType, bs) ← readVint bs
  let (largestAcked, bs) ← readVint bs
  let (ackDelay, bs) ← readVint bs
  let (ackRangeCount, bs) ← readVint bs
  let (firstAckRange, bs) ← readVint bs
  let (pairs, bs) ← readAckPairs ackRangeCount bs
  let bs ←
    if frameType = 0x03 then do
      let (_, bs) ← readVint bs
      let (_, bs) ← readVint bs
      let (_, bs) ← readVint bs
      .ok bs
    else .ok bs
  .ok (⟨frameType, largestAcked, ackDelay, firstAckRange, pairs⟩, bs)

/-- The ranges below `prevLow`, with the subtractions of `rqc_parse_ack_frame`. -/
def rangesOf : ℕ → List (ℕ × ℕ) → List PktnoRange
  | _, [] => []
  | prevLow, p :: ps =>
    let high := u64Sub (u64Sub prevLow p.1) 2
    ⟨u64Sub high p.2, high⟩ :: rangesOf (u64Sub high p.2) ps

/-- The pairs of a frame that are stored. -/
def AckWire.stored (w : AckWire) : List (ℕ × ℕ) := w.pairs.take (maxAckRangeCnt - 1)

/-- The ranges that `rqc_parse_ack_frame` stores. -/
def AckWire.ranges (w : AckWire) : List PktnoRange :=
  ⟨u64Sub w.largestAcked w.firstAckRange, w.largestAcked⟩ ::
    rangesOf (u64Sub w.largestAcked w.firstAckRange) w.stored

/-! ## The parser reads the integers -/

theorem error_bind {ε α β : Type} (e : ε) (f : α → Except ε β) :
    (Except.error e >>= f) = .error e := rfl

theorem map_bind_ok {ε α β γ : Type} (x : Except ε α) (f : α → Except ε β) (g : β → γ) :
    (x >>= f).map g = x >>= fun a => (f a).map g := by
  cases x <;> rfl

theorem bind_map_ok {ε α β γ : Type} (x : Except ε α) (g : α → β) (f : β → Except ε γ) :
    x.map g >>= f = x >>= fun a => f (g a) := by
  cases x <;> rfl

/-- The range loop stores the first pairs and passes over the others. -/
theorem parseAckRanges_eq (count : ℕ) (ranges : List PktnoRange) (prev : PktnoRange) (bs : Bytes) :
    parseAckRanges count (ranges ++ [prev]) bs = (readAckPairs count bs).map fun p =>
      (ranges ++ [prev] ++ rangesOf prev.low (p.1.take (maxAckRangeCnt - (ranges.length + 1))),
        p.2) := by
  induction count generalizing ranges prev bs with
  | zero => simp [parseAckRanges, readAckPairs, rangesOf, Except.map]
  | succ count ih =>
      rw [parseAckRanges, readAckPairs, map_bind_ok]
      refine bind_congr fun gap => ?_
      rw [map_bind_ok]
      refine bind_congr fun range => ?_
      simp only [List.getLast?_concat, List.length_append, List.length_singleton, map_bind_ok]
      by_cases hroom : ranges.length + 1 < maxAckRangeCnt
      · obtain ⟨n, hn⟩ : ∃ n, maxAckRangeCnt - (ranges.length + 1) = n + 1 :=
          ⟨_, (Nat.sub_add_cancel (by omega : 1 ≤ _)).symm⟩
        have hn' : maxAckRangeCnt - (ranges.length + 1 + 1) = n := by omega
        rw [if_pos hroom, ih, hn]
        simp only [List.length_append, List.length_singleton, hn']
        cases readAckPairs count range.2 with
        | error e => rw [error_bind, Except.map]
        | ok p => simp [Except.map, rangesOf]
      · have hn : maxAckRangeCnt - (ranges.length + 1) = 0 := by omega
        rw [if_neg hroom, ih, hn]
        cases readAckPairs count range.2 with
        | error e => rw [error_bind, Except.map]
        | ok p => simp [Except.map]

/-- **The parser reads the integers and converts them.** -/
theorem parseAckFrame_eq (ackDelayExponent : ℕ) (bs : Bytes) :
    parseAckFrame ackDelayExponent bs = (readAckWire bs).map fun p =>
      (.ack ⟨p.1.ranges, u64Mul p.1.ackDelay (2 ^ ackDelayExponent)⟩, p.2) := by
  unfold parseAckFrame readAckWire
  rw [map_bind_ok]
  refine bind_congr fun frameType => ?_
  rw [map_bind_ok]
  refine bind_congr fun largestAcked => ?_
  rw [map_bind_ok]
  refine bind_congr fun ackDelay => ?_
  rw [map_bind_ok]
  refine bind_congr fun ackRangeCount => ?_
  rw [map_bind_ok]
  refine bind_congr fun ⟨firstAckRange, bs⟩ => ?_
  have hloop := parseAckRanges_eq ackRangeCount.1 []
    ⟨u64Sub largestAcked.1 firstAckRange, largestAcked.1⟩ bs
  rw [List.nil_append] at hloop
  simp only [hloop, bind_map_ok, map_bind_ok]
  refine bind_congr fun pairs => ?_
  by_cases hecn : frameType.1 = 3
  · simp only [if_pos hecn, map_bind_ok]
    refine bind_congr fun _ => bind_congr fun _ => bind_congr fun _ => ?_
    simp [Except.map, AckWire.ranges, AckWire.stored]
  · simp [if_neg hecn, Except.map, AckWire.ranges, AckWire.stored]

/-! ## The generator writes the code -/

/-- The pairs of a list of ranges as bytes. -/
def ackPairsCode (pairs : List (ℕ × ℕ)) : Bytes := (pairs.map ackPairCode).flatten

theorem ackPairsCode_cons (p : ℕ × ℕ) (ps : List (ℕ × ℕ)) :
    ackPairsCode (p :: ps) = vintBytes p.1 ++ vintBytes p.2 ++ ackPairsCode ps := rfl

theorem genAckRanges_eq {room prevLow rangeCount : ℕ} {dst : Bytes} {rs : List PktnoRange}
    (hcount : rangeCount < maxAckRangeCnt - 1) (hdst : dst.length ≤ room) :
    genAckRanges room prevLow rangeCount dst rs =
      let pairs := ackPairs prevLow (rs.take (maxAckRangeCnt - 1 - rangeCount))
      if room < (dst ++ ackPairsCode pairs).length then .error .nobuf
      else .ok (dst ++ ackPairsCode pairs, rangeCount + pairs.length) := by
  induction rs generalizing prevLow rangeCount dst with
  | nil => simp [genAckRanges, ackPairs, ackPairsCode, hdst]
  | cons r rs ih =>
      obtain ⟨n, hn⟩ : ∃ n, maxAckRangeCnt - 1 - rangeCount = n + 1 :=
        ⟨_, (Nat.sub_add_cancel (by omega : 1 ≤ _)).symm⟩
      have hn' : maxAckRangeCnt - 1 - (rangeCount + 1) = n := by omega
      rw [genAckRanges, hn, List.take_succ_cons, ackPairs]
      generalize u64Sub (u64Sub prevLow r.high) 2 % 2 ^ 32 = gap
      generalize u64Sub r.high r.low % 2 ^ 32 = acks
      simp only [ackPairsCode_cons, List.length_append, List.length_cons]
      by_cases hneed : room < dst.length + (vintBytes gap).length + (vintBytes acks).length
      · rw [if_pos hneed, if_pos (by omega)]
      · rw [if_neg hneed]
        by_cases hlast : maxAckRangeCnt - 1 ≤ rangeCount + 1
        · have hzero : n = 0 := by omega
          rw [if_pos hlast, hzero, List.take_zero]
          simp only [ackPairs, ackPairsCode, List.map_nil, List.flatten_nil, List.length_nil]
          rw [if_neg (by omega)]
          simp
        · rw [if_neg hlast, ih (by omega) (by simp only [List.length_append]; omega), hn']
          simp only [List.length_append, List.append_assoc, Nat.add_assoc, Nat.add_comm 1]

theorem overwrite_middle (a b : Bytes) (x y : UInt8) :
    overwrite (a ++ x :: b) a.length [y] = a ++ y :: b := by
  simp [overwrite]

theorem ackCode_eq (ackDelay : ℕ) (first : PktnoRange) (rs : List PktnoRange) :
    ackCode ackDelay first rs =
      ackIds ackDelay first.high ++
        UInt8.ofNat (ackPairs first.low (rs.take (maxAckRangeCnt - 1))).length ::
          (vintBytes (u64Sub first.high first.low % 2 ^ 32) ++
            ackPairsCode (ackPairs first.low (rs.take (maxAckRangeCnt - 1)))) := by
  simp [ackCode, ackIds, ackPairsCode]

/-- **The generator writes the code**, or it leaves the packet alone if there is no room for it. -/
theorem genAckFrameRun_cons (po : PacketOut) (ackDelay ackDelayExponent : ℕ) (first : PktnoRange)
    (rs : List PktnoRange) :
    genAckFrameRun po ackDelay ackDelayExponent (first :: rs) =
      let code := ackCode (ackDelay / 2 ^ ackDelayExponent) first rs
      if po.remainedSizeWithAckSpc < code.length then (po, .error .nobuf)
      else ({ po with poFrameTypes := insert .ack po.poFrameTypes },
        .ok ⟨code, first.high, 0 < (rs.take (maxAckRangeCnt - 1)).length⟩) := by
  rw [genAckFrameRun, ackCode_eq, ← length_ackPairs first.low (rs.take _)]
  generalize ackIds (ackDelay / 2 ^ ackDelayExponent) first.high = ids
  generalize vintBytes (u64Sub first.high first.low % 2 ^ 32) = range
  generalize po.remainedSizeWithAckSpc = room
  simp only
  by_cases hneed : room < (ids ++ 0 :: range).length
  · rw [if_pos hneed, if_pos]
    simp only [List.length_append, List.length_cons] at hneed ⊢
    omega
  · rw [if_neg hneed, genAckRanges_eq (by decide) (by omega), Nat.sub_zero]
    generalize ackPairs first.low (rs.take (maxAckRangeCnt - 1)) = pairs
    simp only [List.length_append, List.length_cons, List.append_assoc, List.cons_append]
    by_cases hroom : room < ids.length + (range.length + (ackPairsCode pairs).length + 1)
    · rw [if_pos (by omega), if_pos (by omega)]
    · rw [if_neg (by omega), if_neg (by omega)]
      simp only [overwrite_middle, Nat.zero_add]

theorem genAckFrame_eq (po : PacketOut) (ackDelay ackDelayExponent : ℕ) (record : List PktnoRange) :
    genAckFrame po ackDelay ackDelayExponent record =
      (genAckFrameRun po ackDelay ackDelayExponent record).2.map fun w =>
        ({ po with poBuf := po.poBuf ++ w.code, poFrameTypes := insert .ack po.poFrameTypes },
          w.largestAck) := by
  cases record with
  | nil => rfl
  | cons first rs =>
      rw [genAckFrameRun_cons, genAckFrame]
      simp only
      split_ifs <;> rfl

/-! ## Back and forth -/

/-- The distances of a record fit the 32-bit variables of `rqc_gen_ack_frame`. -/
structure Narrow (record : List PktnoRange) : Prop where
  range : ∀ r ∈ record, r.high - r.low < 2 ^ 32
  gap : record.IsChain fun r r' => r.low - r'.high - 2 < 2 ^ 32

/-- A receive record that an ACK frame can hold: 1 to 64 ranges from the largest down with a gap
between neighbours. -/
structure RecordWf (record : List PktnoRange) : Prop where
  ne_nil : record ≠ []
  length_le : record.length ≤ maxAckRangeCnt
  sep : PktnoRange.Sep record
  lt : ∀ r ∈ record, r.high < 2 ^ 62

/-- What is asked of one call of `rqc_gen_ack_frame`: the parser reads the record and the rounded
delay from the bytes, whatever follows them, or there is no room and the packet is left alone. -/
def AckRoundTrip (po : PacketOut) (ackDelay ackDelayExponent : ℕ) (record : List PktnoRange) : Prop :=
  match genAckFrameRun po ackDelay ackDelayExponent record with
  | (po', .error e) => e = .nobuf ∧ po' = po
  | (_, .ok w) => w.code.length ≤ po.remainedSizeWithAckSpc ∧ ∀ rest,
      parseAckFrame ackDelayExponent (w.code ++ rest) =
        .ok (.ack ⟨record, ackDelay / 2 ^ ackDelayExponent * 2 ^ ackDelayExponent⟩, rest)

theorem readAckPairs_code {pairs : List (ℕ × ℕ)} (h : ∀ p ∈ pairs, p.1 < 2 ^ 62 ∧ p.2 < 2 ^ 62)
    (rest : Bytes) : readAckPairs pairs.length (ackPairsCode pairs ++ rest) = .ok (pairs, rest) := by
  induction pairs with
  | nil => rfl
  | cons p ps ih =>
      obtain ⟨hgap, hrange⟩ := h p List.mem_cons_self
      have ih := ih fun q hq => h q (List.mem_cons_of_mem _ hq)
      simp only [ackPairsCode_cons, List.length_cons, readAckPairs, List.append_assoc,
        readVint_vintBytes hgap, readVint_vintBytes hrange, ok_bind, ih]

theorem readAckWire_code {ackDelay : ℕ} {first : PktnoRange} (rs : List PktnoRange)
    (hdelay : ackDelay < 2 ^ 62) (hfirst : first.high < 2 ^ 62) (rest : Bytes) :
    readAckWire (ackCode ackDelay first rs ++ rest) =
      .ok (⟨0x02, first.high, ackDelay, u64Sub first.high first.low % 2 ^ 32,
        ackPairs first.low (rs.take (maxAckRangeCnt - 1))⟩, rest) := by
  have hrange : u64Sub first.high first.low % 2 ^ 32 < 2 ^ 62 :=
    (Nat.mod_lt _ (by decide)).trans (by decide)
  have hpairs := readAckPairs_code
    (fun p (hp : p ∈ ackPairs first.low (rs.take (maxAckRangeCnt - 1))) => ackPairs_lt hp) rest
  have hcount : (UInt8.ofNat (ackPairs first.low (rs.take (maxAckRangeCnt - 1))).length).toNat =
      (ackPairs first.low (rs.take (maxAckRangeCnt - 1))).length ∧
      (ackPairs first.low (rs.take (maxAckRangeCnt - 1))).length < 64 := by
    have hle : (ackPairs first.low (rs.take (maxAckRangeCnt - 1))).length ≤ maxAckRangeCnt - 1 := by
      rw [length_ackPairs, List.length_take]
      exact min_le_left _ _
    have hlt := lt_of_le_of_lt hle (by decide : maxAckRangeCnt - 1 < 64)
    exact ⟨by rw [UInt8.toNat_ofNat', Nat.mod_eq_of_lt (by omega)], hlt⟩
  rw [ackCode_eq]
  generalize ackPairs first.low (rs.take (maxAckRangeCnt - 1)) = pairs at hpairs hcount ⊢
  generalize u64Sub first.high first.low % 2 ^ 32 = range at hrange ⊢
  have htype : (0x02 : UInt8).toNat = 2 := rfl
  simp only [readAckWire, ackIds, List.cons_append, List.append_assoc,
    readVint_of_lt _ (by decide : (0x02 : UInt8).toNat < 64), readVint_vintBytes hfirst,
    readVint_vintBytes hdelay, readVint_of_lt _ (hcount.1.trans_lt hcount.2),
    readVint_vintBytes hrange, hcount.1, hpairs, ok_bind, htype]
  rfl

theorem narrow_nil : Narrow [] := ⟨by simp, List.IsChain.nil⟩

theorem narrow_cons {r : PktnoRange} {rs : List PktnoRange} :
    Narrow (r :: rs) ↔ r.high - r.low < 2 ^ 32 ∧
      (∀ r' ∈ rs.head?, r.low - r'.high - 2 < 2 ^ 32) ∧ Narrow rs := by
  constructor
  · rintro ⟨hrange, hgap⟩
    obtain ⟨hhead, htail⟩ := List.isChain_cons.1 hgap
    exact ⟨hrange r List.mem_cons_self, hhead, fun b hb => hrange b (List.mem_cons_of_mem _ hb), htail⟩
  · rintro ⟨hrange, hhead, htail⟩
    exact ⟨List.forall_mem_cons.2 ⟨hrange, htail.range⟩, List.isChain_cons.2 ⟨hhead, htail.gap⟩⟩

/-- The upper end of a range comes back if and only if the gap fits 32 bits. -/
theorem high_ackPair {prevLow high : ℕ} (hlt : prevLow < 2 ^ 62) (hbelow : high + 1 < prevLow) :
    high ≤ u64Sub (u64Sub prevLow (u64Sub (u64Sub prevLow high) 2 % 2 ^ 32)) 2 ∧
      u64Sub (u64Sub prevLow (u64Sub (u64Sub prevLow high) 2 % 2 ^ 32)) 2 < 2 ^ 62 ∧
      (u64Sub (u64Sub prevLow (u64Sub (u64Sub prevLow high) 2 % 2 ^ 32)) 2 = high ↔
        prevLow - high - 2 < 2 ^ 32) := by
  have hgap : u64Sub (u64Sub prevLow high) 2 = prevLow - high - 2 := by
    rw [u64Sub_eq (a := prevLow) (by omega) (by omega), u64Sub_eq (by omega) (by omega)]
  have hmod : (prevLow - high - 2) % 2 ^ 32 ≤ prevLow - high - 2 := Nat.mod_le _ _
  rw [hgap, u64Sub_eq (a := prevLow) (by omega) (by omega), u64Sub_eq (by omega) (by omega)]
  omega

/-- The lower end of a range comes back if and only if its length fits 32 bits. -/
theorem low_ackPair {low high : ℕ} (hle : low ≤ high) (hlt : high < 2 ^ 62) :
    u64Sub high (u64Sub high low % 2 ^ 32) = low ↔ high - low < 2 ^ 32 := by
  have hmod : (high - low) % 2 ^ 32 ≤ high - low := Nat.mod_le _ _
  rw [u64Sub_eq (b := low) hle (by omega), u64Sub_eq (by omega) (by omega)]
  omega

/-- The ranges behind the first one come back if and only if their distances fit. -/
theorem rangesOf_ackPairs {prevLow : ℕ} {rs : List PktnoRange} (hlt : prevLow < 2 ^ 62)
    (hsep : PktnoRange.Sep rs) (hbelow : ∀ r ∈ rs, r.high + 1 < prevLow) :
    rangesOf prevLow (ackPairs prevLow rs) = rs ↔
      (∀ r ∈ rs.head?, prevLow - r.high - 2 < 2 ^ 32) ∧ Narrow rs := by
  induction rs generalizing prevLow with
  | nil => simp [rangesOf, ackPairs, narrow_nil]
  | cons r rs ih =>
      obtain ⟨hle, hhead, htail⟩ := separated_cons.1 hsep
      have hr := hbelow r List.mem_cons_self
      obtain ⟨-, -, hgap⟩ := high_ackPair hlt hr
      have hrange := low_ackPair hle (by omega : r.high < 2 ^ 62)
      have ih := ih (by omega : r.low < 2 ^ 62) htail hhead
      rw [ackPairs, rangesOf, narrow_cons]
      simp only [List.head?_cons, Option.mem_some_iff, forall_eq']
      generalize u64Sub (u64Sub prevLow (u64Sub (u64Sub prevLow r.high) 2 % 2 ^ 32)) 2 = high at hgap ⊢
      rw [List.cons.injEq, ← hgap, ← hrange]
      constructor
      · rintro ⟨hr, hrs⟩
        obtain rfl : high = r.high := congrArg PktnoRange.high hr
        have hlow := (congrArg PktnoRange.low hr :)
        simp only at hlow
        rw [hlow] at hrs
        exact ⟨rfl, hlow, ih.1 hrs⟩
      · rintro ⟨rfl, hlow, hrest⟩
        rw [hlow]
        exact ⟨rfl, ih.2 hrest⟩

/-- A frame that was written comes back if and only if the distances fit. -/
theorem ackRoundTrip_of_room {po : PacketOut} {ackDelay ackDelayExponent : ℕ} {first : PktnoRange}
    {rs : List PktnoRange} (hrec : RecordWf (first :: rs)) (hdelay : ackDelay < 2 ^ 62)
    (hroom : (ackCode (ackDelay / 2 ^ ackDelayExponent) first rs).length ≤
      po.remainedSizeWithAckSpc) :
    AckRoundTrip po ackDelay ackDelayExponent (first :: rs) ↔ Narrow (first :: rs) := by
  obtain ⟨hle, hbelow, hsep⟩ := separated_cons.1 hrec.sep
  have hfirst := hrec.lt first List.mem_cons_self
  have hstored : rs.take (maxAckRangeCnt - 1) = rs := by
    have hlen := hrec.length_le
    rw [List.length_cons] at hlen
    exact List.take_of_length_le (by omega)
  have hscaled : ackDelay / 2 ^ ackDelayExponent < 2 ^ 62 := (Nat.div_le_self _ _).trans_lt hdelay
  have hback : u64Mul (ackDelay / 2 ^ ackDelayExponent) (2 ^ ackDelayExponent) =
      ackDelay / 2 ^ ackDelayExponent * 2 ^ ackDelayExponent := by
    refine Nat.mod_eq_of_lt ((Nat.div_mul_le_self _ _).trans_lt (hdelay.trans (by decide)))
  have hranges : (⟨u64Sub first.high (u64Sub first.high first.low % 2 ^ 32), first.high⟩ ::
      rangesOf (u64Sub first.high (u64Sub first.high first.low % 2 ^ 32)) (ackPairs first.low rs) :
        List PktnoRange) = first :: rs ↔ Narrow (first :: rs) := by
    rw [narrow_cons, List.cons.injEq, ← low_ackPair hle hfirst,
      ← rangesOf_ackPairs (by omega) hsep hbelow]
    constructor
    · rintro ⟨hr, hrs⟩
      have hlow := (congrArg PktnoRange.low hr :)
      simp only at hlow
      rw [hlow] at hrs
      exact ⟨hlow, hrs⟩
    · rintro ⟨hlow, hrs⟩
      rw [hlow]
      exact ⟨rfl, hrs⟩
  rw [AckRoundTrip, genAckFrameRun_cons]
  simp only
  rw [if_neg (by omega)]
  simp only [parseAckFrame_eq, readAckWire_code rs hscaled hfirst, hback, Except.map,
    AckWire.ranges, AckWire.stored, hstored]
  rw [List.take_of_length_le (by rw [length_ackPairs, ← hstored, List.length_take]; exact min_le_left _ _)]
  simp only [Except.ok.injEq, Prod.mk.injEq, and_true, Frame.ack.injEq, AckInfo.mk.injEq,
    forall_const, hranges]
  exact ⟨And.right, fun h => ⟨hroom, h⟩⟩

/-- **A record comes back as it was written, from every packet, if and only if its distances fit
32 bits.** -/
theorem ackRoundTrip_iff_narrow {record : List PktnoRange} (hrec : RecordWf record) {ackDelay : ℕ}
    (hdelay : ackDelay < 2 ^ 62) (ackDelayExponent : ℕ) :
    (∀ po, AckRoundTrip po ackDelay ackDelayExponent record) ↔ Narrow record := by
  cases record with
  | nil => exact absurd rfl hrec.ne_nil
  | cons first rs =>
      constructor
      · intro h
        -- a packet with just enough room
        refine (ackRoundTrip_of_room hrec hdelay ?_).1 (h
          { poBufSize := (ackCode (ackDelay / 2 ^ ackDelayExponent) first rs).length })
        simp [PacketOut.remainedSizeWithAckSpc, ackSpace]
      · intro h po
        by_cases hroom : (ackCode (ackDelay / 2 ^ ackDelayExponent) first rs).length ≤
          po.remainedSizeWithAckSpc
        · exact (ackRoundTrip_of_room hrec hdelay hroom).2 h
        · rw [AckRoundTrip, genAckFrameRun_cons]
          simp only
          rw [if_pos (by omega)]
          exact ⟨rfl, rfl⟩

theorem recordWf_singleton {r : PktnoRange} (hle : r.low ≤ r.high) (hlt : r.high < 2 ^ 62) :
    RecordWf [r] where
  ne_nil := List.cons_ne_nil _ _
  length_le := by simp [maxAckRangeCnt]
  sep := separated_cons.2 ⟨hle, by simp, separated_nil⟩
  lt := by simpa using hlt

/-- Three ranges with gaps between them. -/
def gappedRecord : List PktnoRange := [⟨20, 25⟩, ⟨10, 12⟩, ⟨4, 6⟩]

theorem gappedRecord_wf : RecordWf gappedRecord where
  ne_nil := List.cons_ne_nil _ _
  length_le := by decide
  sep := by
    refine separated_cons.2 ⟨by decide, by decide, separated_cons.2 ⟨by decide, by decide, ?_⟩⟩
    exact separated_cons.2 ⟨by decide, by simp, separated_nil⟩
  lt := by decide

/-- The record comes back from every packet, and its frame has two pairs of a gap and a range. -/
theorem ackRoundTrip_gapped :
    (∀ po, AckRoundTrip po 25 3 gappedRecord) ∧
      (genAckFrameRun (writeNewPacket .shortHeader 1200 (List.replicate 10 0)) 25 3 gappedRecord).2 =
        .ok { code := [0x02, 25, 3, 2, 5, 6, 2, 2, 2], largestAck := 25, hasGap := true } := by
  refine ⟨(ackRoundTrip_iff_narrow gappedRecord_wf (by decide) 3).2 ?_, by decide +kernel⟩
  exact narrow_cons.2 ⟨by decide, by decide, narrow_cons.2 ⟨by decide, by decide,
    narrow_cons.2 ⟨by decide, by simp, narrow_nil⟩⟩⟩

/-- The packet numbers up to `2 ^ 32` without a gap: the first range is written as 0. -/
theorem not_ackRoundTrip_long : RecordWf [⟨0, 2 ^ 32⟩] ∧
    ¬ AckRoundTrip (writeNewPacket .shortHeader 1200 (List.replicate 10 0)) 25 3 [⟨0, 2 ^ 32⟩] := by
  have hrec : RecordWf [⟨0, 2 ^ 32⟩] := recordWf_singleton (by decide) (by decide)
  refine ⟨hrec, fun h => ?_⟩
  have hnarrow := (ackRoundTrip_of_room hrec (by decide) (by decide)).1 h
  exact absurd (hnarrow.range _ List.mem_cons_self) (by decide)

end Rquic

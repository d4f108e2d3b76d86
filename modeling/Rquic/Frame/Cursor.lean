import Rquic.Lib.Cursor
import Rquic.Frame.Parse

set_option autoImplicit false

/-!
# Frame parsers with positions

The parsers of `rqc_frame_parser.c` once more, now with the positions they go through: where the body of
a frame starts, where each field lies, and where `packet_in->pos` is left.

* `typeAt`: a parser reads the type of its frame again. Most take one byte for it, some look at this
  byte, those of ACK and DATAGRAM read a variable-length integer.
* `bodyAt`: what a parser reads behind the type it goes by, chosen by the type of the dispatcher.
* `parseFrameAt`: the dispatch of `rqc_process_frames`, then the parser.
* **`reads_parseFrameAt`**: this is `parseFrame` with positions.
-/

namespace Rquic

/-- `*p++`. -/
def readByte : Bytes → Except Errno (UInt8 × Bytes)
  | [] => .error .vintread
  | b :: bs => .ok (b, bs)

section At

variable (payload : Bytes)

/-- `rqc_vint_read` at the position. -/
def vintAt : CursorM Errno ℕ := .field payload readVint

/-- The position is advanced by `n`, without a look at the end. -/
def bytesAt (n : ℕ) : CursorM Errno Bytes := .take payload n

/-! ## The type -/

/-- The frame types that `rqc_process_frames` knows. -/
def frameTypes : List ℕ :=
  [0x00, 0x01, 0x02, 0x03, 0x04, 0x05, 0x06, 0x08, 0x09, 0x0a, 0x0b, 0x0c, 0x0d, 0x0e, 0x0f, 0x10, 0x11,
    0x12, 0x13, 0x14, 0x15, 0x16, 0x17, 0x1a, 0x1b, 0x1c, 0x1d, 0x30, 0x31]

/-- The parsers of these types read the type as a variable-length integer. -/
def rereadTypes : List ℕ := [0x02, 0x03, 0x30, 0x31]

/-- The type a parser goes by that looks at the byte `b` only: the flags of STREAM, the direction of
MAX_STREAMS and STREAMS_BLOCKED, and the variant of CONNECTION_CLOSE are read off this byte. -/
def ownType (frameType : ℕ) (b : UInt8) : ℕ :=
  if 0x08 ≤ frameType ∧ frameType ≤ 0x0f then 0x08 + (b &&& 0x07).toNat
  else if frameType = 0x12 ∨ frameType = 0x13 then if b = 0x12 then 0x12 else 0x13
  else if frameType = 0x16 ∨ frameType = 0x17 then if b = 0x16 then 0x16 else 0x17
  else if frameType = 0x1c ∨ frameType = 0x1d then if b = 0x1c then 0x1c else 0x1d
  else frameType

/-- The type that the parser of `frameType` goes by. -/
def typeAt (frameType : ℕ) : CursorM Errno ℕ :=
  if frameType ∈ rereadTypes then vintAt payload
  else do
    let b ← .field payload readByte
    return ownType frameType b

/-! ## The bodies -/

/-- The offset of a STREAM frame, zero where the frame has no offset field. -/
def offsetAt (hasOffset : Bool) : CursorM Errno ℕ := if hasOffset then vintAt payload else pure 0

/-- The length of the data of a STREAM frame: what is left where the frame has no length field. -/
def lengthAt (hasLength : Bool) : CursorM Errno ℕ :=
  if hasLength then do
    let length ← vintAt payload
    let bs ← CursorM.rest payload
    if bs.length < length then .fail .illframe else pure length
  else do
    let bs ← CursorM.rest payload
    return bs.length

/-- The data of a STREAM frame. -/
def streamDataAt (streamId offset : ℕ) (fin : Bool) (length : ℕ) : CursorM Errno Frame :=
  if 2 ^ 62 - 1 - offset < length then .fail .illframe
  else do
    let data ← bytesAt payload length
    return .stream streamId offset fin data

/-- `rqc_parse_stream_frame`. -/
def streamAt (frameType : ℕ) : CursorM Errno Frame := do
  let streamId ← vintAt payload
  let offset ← offsetAt payload (frameType.testBit 2)
  let length ← lengthAt payload (frameType.testBit 1)
  streamDataAt payload streamId offset (frameType.testBit 0) length

/-- The range loop of `rqc_parse_ack_frame`. -/
def ackRangesAt : ℕ → List PktnoRange → CursorM Errno (List PktnoRange)
  | 0, ranges => pure ranges
  | count + 1, ranges => do
    let gap ← vintAt payload
    let range ← vintAt payload
    match ranges.getLast? with
    | none => ackRangesAt count ranges
    | some prev =>
      if ranges.length < maxAckRangeCnt then
        let high := u64Sub (u64Sub prev.low gap) 2
        ackRangesAt count (ranges ++ [⟨u64Sub high range, high⟩])
      else ackRangesAt count ranges

/-- `rqc_parse_ack_frame`. -/
def ackAt (ackDelayExponent frameType : ℕ) : CursorM Errno Frame := do
  let largestAcked ← vintAt payload
  let ackDelay ← vintAt payload
  let ackRangeCount ← vintAt payload
  let firstAckRange ← vintAt payload
  let ranges ← ackRangesAt payload ackRangeCount [⟨u64Sub largestAcked firstAckRange, largestAcked⟩]
  if frameType = 0x03 then do
    let _ ← vintAt payload
    let _ ← vintAt payload
    let _ ← vintAt payload
    return .ack ⟨ranges, u64Mul ackDelay (2 ^ ackDelayExponent)⟩
  else return .ack ⟨ranges, u64Mul ackDelay (2 ^ ackDelayExponent)⟩

/-- `rqc_parse_conn_close_frame` up to the reason phrase: the error code and the length of the phrase. -/
def closeAt (frameType : ℕ) : CursorM Errno (ℕ × ℕ) := do
  let errCode ← vintAt payload
  if frameType = 0x1c then do
    let _ ← vintAt payload
    let reasonLen ← vintAt payload
    return (errCode, reasonLen)
  else do
    let reasonLen ← vintAt payload
    return (errCode, reasonLen)

/-- `rqc_parse_conn_close_frame`. -/
def connCloseAt (frameType : ℕ) : CursorM Errno Frame := do
  let (errCode, reasonLen) ← closeAt payload frameType
  let _ ← bytesAt payload reasonLen
  return .connectionClose errCode

/-- A frame with one integer. -/
def oneAt (mk : ℕ → Frame) : CursorM Errno Frame := do
  let a ← vintAt payload
  return mk a

/-- A frame with two integers. -/
def twoAt (mk : ℕ → ℕ → Frame) : CursorM Errno Frame := do
  let a ← vintAt payload
  let b ← vintAt payload
  return mk a b

/-- `rqc_parse_reset_stream_frame`. -/
def resetStreamAt : CursorM Errno Frame := do
  let streamId ← vintAt payload
  let errCode ← vintAt payload
  let finalSize ← vintAt payload
  return .resetStream streamId errCode finalSize

/-- `rqc_parse_path_challenge_frame` and `rqc_parse_path_response_frame`. -/
def pathAt (mk : Bytes → Frame) : CursorM Errno Frame := do
  let bs ← CursorM.rest payload
  if bs.length < pathChallengeDataLen then .fail .vintread
  else do
    let data ← bytesAt payload pathChallengeDataLen
    return mk data

/-- A byte string with its length in front, within the capacity of its buffer. -/
def opaqueAt (cap : ℕ) : CursorM Errno Bytes := do
  let length ← vintAt payload
  let bs ← CursorM.rest payload
  if bs.length < length then .fail .illframe
  else if cap < length then .fail .nobuf
  else bytesAt payload length

/-- `rqc_parse_handshake_frame`. -/
def handshakeAt : CursorM Errno Frame := do
  let alpn ← opaqueAt payload alpnCap
  let tp ← opaqueAt payload tpCap
  let ext ← opaqueAt payload protoExtCap
  return .handshake alpn tp ext

/-- The parsing part of `rqc_datagram_process_frame`. -/
def datagramAt (frameType : ℕ) : CursorM Errno Frame :=
  if frameType = 0x31 then do
    let len ← vintAt payload
    let bs ← CursorM.rest payload
    if bs.length < len then .fail .illframe
    else do
      let data ← bytesAt payload len
      return .datagram data
  else if frameType = 0x30 then do
    let bs ← CursorM.rest payload
    let data ← bytesAt payload bs.length
    return .datagram data
  else .fail .illframe

/-- What the parser of `frameType` reads behind the type, which it takes for `own`. -/
def bodyAt (ackDelayExponent frameType own : ℕ) : CursorM Errno Frame :=
  match frameType with
  | 0x00 => .field payload parsePaddingFrame
  | 0x01 => pure .ping
  | 0x02 | 0x03 => ackAt payload ackDelayExponent own
  | 0x04 => resetStreamAt payload
  | 0x05 => twoAt payload .stopSending
  | 0x06 => handshakeAt payload
  | 0x08 | 0x09 | 0x0a | 0x0b | 0x0c | 0x0d | 0x0e | 0x0f => streamAt payload own
  | 0x10 => oneAt payload .maxData
  | 0x11 => twoAt payload .maxStreamData
  | 0x12 | 0x13 => oneAt payload (.maxStreams (own = 0x12))
  | 0x14 => oneAt payload .dataBlocked
  | 0x15 => twoAt payload .streamDataBlocked
  | 0x16 | 0x17 => oneAt payload (.streamsBlocked (own = 0x16))
  | 0x1a => pathAt payload .pathChallenge
  | 0x1b => pathAt payload .pathResponse
  | 0x1c | 0x1d => connCloseAt payload own
  | 0x30 | 0x31 => datagramAt payload own
  | _ => .fail .ignorePkt

/-- The dispatch of `rqc_process_frames` on the frame type, and the parser. -/
def parseFrameAt (ackDelayExponent : ℕ) : CursorM Errno Frame := do
  let bs ← CursorM.rest payload
  match vintRead bs with
  | none => .fail .vintread
  | some (frameType, _) =>
    if frameType ∈ frameTypes then do
      let own ← typeAt payload frameType
      bodyAt payload ackDelayExponent frameType own
    else .fail .ignorePkt

end At

/-! ## Agreement with the parsers on the bytes that are left -/

section Reads
variable {payload : Bytes}

theorem takesPrefix_readVint : TakesPrefix readVint := by
  intro l a rest h
  unfold readVint at h
  cases hread : vintRead l with
  | none => rw [hread] at h; cases h
  | some r =>
      rw [hread] at h
      obtain rfl := Except.ok.inj h
      obtain ⟨k, -, hle, rfl⟩ := vintRead_rest hread
      exact ⟨2 ^ k, hle, rfl⟩

theorem takesPrefix_readByte : TakesPrefix readByte := by
  intro l a rest h
  cases l with
  | nil => cases h
  | cons b bs =>
      obtain ⟨-, rfl⟩ := Prod.mk.inj (Except.ok.inj h)
      exact ⟨1, by simp, rfl⟩

theorem takesPrefix_parsePaddingFrame : TakesPrefix parsePaddingFrame := by
  intro l a rest h
  obtain ⟨-, rfl⟩ := Prod.mk.inj (Except.ok.inj h)
  refine ⟨l.length - (l.dropWhile (· = 0)).length, Nat.sub_le _ _, ?_⟩
  obtain ⟨t, ht⟩ := List.dropWhile_suffix (l := l) (fun b => decide (b = 0))
  have hlen : l.length = t.length + (l.dropWhile fun b => decide (b = 0)).length := by
    rw [← List.length_append, ht]
  rw [hlen, Nat.add_sub_cancel]
  calc l.dropWhile _ = (t ++ l.dropWhile fun b => decide (b = 0)).drop t.length := List.drop_left.symm
    _ = l.drop t.length := congrArg (List.drop t.length) ht

theorem reads_vintAt : Reads payload (vintAt payload) readVint := reads_field takesPrefix_readVint

theorem reads_oneAt (mk : ℕ → Frame) : Reads payload (oneAt payload mk) (parseOne mk) :=
  reads_vintAt.bind fun a => reads_pure (mk a)

theorem reads_direction (mk : Bool → ℕ → Frame) {b c : UInt8} {own x : ℕ} (h : b = c ↔ own = x) :
    Reads payload (oneAt payload (mk (own = x))) (parseOne (mk (b = c))) := by
  rw [decide_eq_decide.2 h]
  exact reads_oneAt _

theorem reads_twoAt (mk : ℕ → ℕ → Frame) : Reads payload (twoAt payload mk) (parseTwo mk) :=
  reads_vintAt.bind fun a => reads_vintAt.bind fun b => reads_pure (mk a b)

theorem reads_resetStreamAt : Reads payload (resetStreamAt payload) parseResetStreamFrame :=
  reads_vintAt.bind fun _ => reads_vintAt.bind fun _ => reads_vintAt.bind fun _ => reads_pure _

theorem reads_pathAt (mk : Bytes → Frame) : Reads payload (pathAt payload mk) (parsePathFrame mk) := by
  exact (reads_take pathChallengeDataLen mk).guard

theorem reads_opaqueAt (cap : ℕ) : Reads payload (opaqueAt payload cap) (readOpaque cap) := by
  refine reads_vintAt.bind fun length => ?_
  exact ((reads_fail _).ite (reads_take length id)).guard

theorem reads_handshakeAt : Reads payload (handshakeAt payload) parseHandshakeFrame :=
  (reads_opaqueAt _).bind fun _ => (reads_opaqueAt _).bind fun _ => (reads_opaqueAt _).bind fun _ =>
    reads_pure _

theorem reads_ackRangesAt (count : ℕ) (ranges : List PktnoRange) :
    Reads payload (ackRangesAt payload count ranges) (parseAckRanges count ranges) := by
  induction count generalizing ranges with
  | zero => exact reads_pure ranges
  | succ count ih =>
      change Reads payload (ackRangesAt payload (count + 1) ranges)
        fun bs => parseAckRanges (count + 1) ranges bs
      simp only [ackRangesAt, parseAckRanges]
      refine reads_vintAt.bind fun gap => ?_
      dsimp only
      refine reads_vintAt.bind fun range => ?_
      dsimp only
      cases ranges.getLast? with
      | none => exact ih ranges
      | some prev =>
          by_cases hroom : ranges.length < maxAckRangeCnt
          · simpa only [if_pos hroom] using ih _
          · simpa only [if_neg hroom] using ih ranges

theorem reads_ackAt (ackDelayExponent : ℕ) : Reads payload
    (vintAt payload >>= ackAt payload ackDelayExponent) (parseAckFrame ackDelayExponent) := by
  unfold parseAckFrame
  refine reads_vintAt.bind fun frameType => ?_
  unfold ackAt
  refine reads_vintAt.bind fun largestAcked => ?_
  refine reads_vintAt.bind fun ackDelay => ?_
  refine reads_vintAt.bind fun ackRangeCount => ?_
  refine reads_vintAt.bind fun firstAckRange => ?_
  refine (reads_ackRangesAt _ _).bind fun ranges => ?_
  by_cases hecn : frameType = 0x03
  · simp only [if_pos hecn]
    exact reads_vintAt.bind fun _ => reads_vintAt.bind fun _ => reads_vintAt.bind fun _ => reads_pure _
  · simp only [if_neg hecn]
    exact reads_pure _

theorem reads_connCloseAt {first : UInt8} {frameType : ℕ} (h : first = 0x1c ↔ frameType = 0x1c) :
    Reads payload (connCloseAt payload frameType) (parseConnCloseFrame first) := by
  unfold connCloseAt closeAt parseConnCloseFrame
  rw [bind_assoc]
  refine reads_vintAt.bind fun errCode => ?_
  by_cases hvariant : frameType = 0x1c
  · simp only [if_pos hvariant, if_pos (h.2 hvariant), bind_assoc, pure_bind]
    refine reads_vintAt.bind fun _ => ?_
    exact reads_vintAt.bind fun reasonLen => reads_take reasonLen _
  · simp only [if_neg hvariant, if_neg (mt h.1 hvariant), bind_assoc, pure_bind]
    exact reads_vintAt.bind fun reasonLen => reads_take reasonLen _

theorem reads_datagramAt :
    Reads payload (vintAt payload >>= datagramAt payload) parseDatagramFrame := by
  refine reads_vintAt.bind fun frameType => ?_
  unfold datagramAt
  by_cases hlen : frameType = 0x31
  · simp only [if_pos hlen]
    refine reads_vintAt.bind fun len => ?_
    exact (reads_take len Frame.datagram).guard
  · simp only [if_neg hlen]
    by_cases hrest : frameType = 0x30
    · simp only [if_pos hrest]
      intro s
      change Except.ok (Frame.datagram (payload.drop s.pos), []) = Except.ok
        (Frame.datagram ((payload.drop s.pos).take (payload.drop s.pos).length),
          payload.drop (s.pos + (payload.drop s.pos).length))
      rw [List.take_length, ← List.drop_drop, List.drop_length]
    · simp only [if_neg hrest]
      exact reads_fail _

/-- The offset of a STREAM frame on the bytes that are left. -/
def readOffset (hasOffset : Bool) (bs : Bytes) : Except Errno (ℕ × Bytes) :=
  if hasOffset = true then readVint bs else .ok (0, bs)

/-- The length of the data on the bytes that are left. -/
def readLength (hasLength : Bool) (bs : Bytes) : Except Errno (ℕ × Bytes) :=
  if hasLength = true then
    readVint bs >>= fun r => if r.2.length < r.1 then .error .illframe else .ok (r.1, r.2)
  else .ok (bs.length, bs)

/-- The data of a STREAM frame on the bytes that are left. -/
def readStreamData (streamId offset : ℕ) (fin : Bool) (length : ℕ) (bs : Bytes) :
    Except Errno (Frame × Bytes) :=
  if 2 ^ 62 - 1 - offset < length then .error .illframe
  else .ok (.stream streamId offset fin (bs.take length), bs.drop length)

theorem reads_offsetAt (hasOffset : Bool) :
    Reads payload (offsetAt payload hasOffset) (readOffset hasOffset) :=
  reads_vintAt.ite (reads_pure 0)

theorem reads_lengthAt (hasLength : Bool) :
    Reads payload (lengthAt payload hasLength) (readLength hasLength) := by
  apply Reads.ite
  · exact reads_vintAt.bind fun length => (reads_pure length).guard
  · exact Reads.rest_bind fun bs => reads_pure bs.length

theorem reads_streamDataAt (streamId offset : ℕ) (fin : Bool) (length : ℕ) :
    Reads payload (streamDataAt payload streamId offset fin length)
      (readStreamData streamId offset fin length) :=
  (reads_fail _).ite (reads_take length _)

section StreamFlags

variable {first : UInt8} {frameType : ℕ} (hoff : first &&& 0x04 ≠ 0 ↔ frameType.testBit 2 = true)
  (hlen : first &&& 0x02 ≠ 0 ↔ frameType.testBit 1 = true)
  (hfin : first &&& 0x01 ≠ 0 ↔ frameType.testBit 0 = true)
include hoff hlen hfin

theorem parseStreamFrame_eq : parseStreamFrame first = fun bs =>
    readVint bs >>= fun r => readOffset (frameType.testBit 2) r.2 >>= fun r' =>
      readLength (frameType.testBit 1) r'.2 >>= fun r'' =>
        readStreamData r.1 r'.1 (frameType.testBit 0) r''.1 r''.2 := by
  funext bs
  unfold parseStreamFrame readOffset readStreamData readLength
  simp only [hoff, hlen, hfin, Bool.decide_eq_true]
  refine bind_congr fun r => ?_
  cases frameType.testBit 2
  all_goals
    simp only [Bool.false_eq_true, if_false, if_true]
    refine bind_congr fun r' => ?_
    cases frameType.testBit 1
    · rfl
    · simp only [if_true, bind_assoc]
      refine bind_congr fun len => ?_
      split_ifs <;> rfl

theorem reads_streamAt : Reads payload (streamAt payload frameType) (parseStreamFrame first) := by
  rw [parseStreamFrame_eq hoff hlen hfin]
  refine reads_vintAt.bind fun streamId => ?_
  dsimp only
  refine (reads_offsetAt _).bind fun offset => ?_
  dsimp only
  exact (reads_lengthAt _).bind fun length => reads_streamDataAt _ _ _ _

end StreamFlags

/-! ## The dispatch -/

/-- The parser that the dispatcher calls, on a frame whose first byte is `b`. -/
def parserOf (ackDelayExponent frameType : ℕ) (b : UInt8) (bs : Bytes) : Except Errno (Frame × Bytes) :=
  match frameType with
  | 0x00 => parsePaddingFrame bs
  | 0x01 => .ok (.ping, bs)
  | 0x02 | 0x03 => parseAckFrame ackDelayExponent (b :: bs)
  | 0x04 => parseResetStreamFrame bs
  | 0x05 => parseStopSendingFrame bs
  | 0x06 => parseHandshakeFrame bs
  | 0x08 | 0x09 | 0x0a | 0x0b | 0x0c | 0x0d | 0x0e | 0x0f => parseStreamFrame b bs
  | 0x10 => parseMaxDataFrame bs
  | 0x11 => parseMaxStreamDataFrame bs
  | 0x12 | 0x13 => parseMaxStreamsFrame b bs
  | 0x14 => parseDataBlockedFrame bs
  | 0x15 => parseStreamDataBlockedFrame bs
  | 0x16 | 0x17 => parseStreamsBlockedFrame b bs
  | 0x1a => parsePathFrame .pathChallenge bs
  | 0x1b => parsePathFrame .pathResponse bs
  | 0x1c | 0x1d => parseConnCloseFrame b bs
  | 0x30 | 0x31 => parseDatagramFrame (b :: bs)
  | _ => .error .ignorePkt

theorem parseFrame_cons (e : ℕ) (b : UInt8) (bs : Bytes) :
    parseFrame e (b :: bs) =
      match vintRead (b :: bs) with
      | none => .error .vintread
      | some (frameType, _) => parserOf e frameType b bs := rfl

theorem parserOf_of_notMem {e frameType : ℕ} {b : UInt8} {bs : Bytes} (h : frameType ∉ frameTypes) :
    parserOf e frameType b bs = .error .ignorePkt := by
  unfold parserOf
  split <;> first | rfl | exact absurd (by decide) h

/-- A parser that takes one byte for the type. -/
def behindByte (read : UInt8 → Bytes → Except Errno (Frame × Bytes)) :
    Bytes → Except Errno (Frame × Bytes)
  | [] => .error .vintread
  | b :: bs => read b bs

theorem reads_byte {f : UInt8 → CursorM Errno Frame} {g : UInt8 → Bytes → Except Errno (Frame × Bytes)}
    (h : ∀ b, Reads payload (f b) (g b)) :
    Reads payload (CursorM.field payload readByte >>= f) (behindByte g) := by
  have hread : behindByte g = fun bs => readByte bs >>= fun r => g r.1 r.2 := by
    funext bs
    cases bs <;> rfl
  rw [hread]
  exact (reads_field takesPrefix_readByte).bind h

/-- The flags of a STREAM frame are the low bits of its first byte. -/
theorem streamFlags (b : UInt8) :
    (b &&& 0x04 ≠ 0 ↔ (0x08 + (b &&& 0x07).toNat).testBit 2 = true) ∧
    (b &&& 0x02 ≠ 0 ↔ (0x08 + (b &&& 0x07).toNat).testBit 1 = true) ∧
    (b &&& 0x01 ≠ 0 ↔ (0x08 + (b &&& 0x07).toNat).testBit 0 = true) := by
  have hall : ∀ n < 256, (UInt8.ofNat n &&& 0x04 ≠ 0 ↔
        (0x08 + (UInt8.ofNat n &&& 0x07).toNat).testBit 2 = true) ∧
      (UInt8.ofNat n &&& 0x02 ≠ 0 ↔ (0x08 + (UInt8.ofNat n &&& 0x07).toNat).testBit 1 = true) ∧
      (UInt8.ofNat n &&& 0x01 ≠ 0 ↔ (0x08 + (UInt8.ofNat n &&& 0x07).toNat).testBit 0 = true) := by
    decide +kernel
  have hb := hall b.toNat b.toNat_lt
  rwa [UInt8.ofNat_toNat] at hb

theorem ownType_stream {frameType : ℕ} (h : 0x08 ≤ frameType ∧ frameType ≤ 0x0f) (b : UInt8) :
    ownType frameType b = 0x08 + (b &&& 0x07).toNat := if_pos h

/-- **A parser with positions, behind the byte it takes for the type.** -/
theorem reads_bodyAt (e frameType : ℕ) (hmem : frameType ∈ frameTypes) (hone : frameType ∉ rereadTypes)
    (b : UInt8) :
    Reads payload (bodyAt payload e frameType (ownType frameType b)) (parserOf e frameType b) := by
  by_cases hstream : 0x08 ≤ frameType ∧ frameType ≤ 0x0f
  · obtain ⟨hoff, hlen, hfin⟩ := streamFlags b
    have hparser : parserOf e frameType b = parseStreamFrame b := by
      obtain ⟨hlo, hhi⟩ := hstream
      interval_cases frameType <;> rfl
    have hbody : ∀ own, bodyAt payload e frameType own = streamAt payload own := by
      obtain ⟨hlo, hhi⟩ := hstream
      interval_cases frameType <;> exact fun own => rfl
    rw [ownType_stream hstream, hbody, hparser]
    exact reads_streamAt hoff hlen hfin
  · have hbyte : ∀ c : UInt8, ∀ x y : ℕ, x ≠ y → (b = c ↔ (if b = c then x else y) = x) := by
      intro c x y hne
      by_cases hb : b = c
      · simp [hb]
      · simp [hb, hne.symm]
    simp only [frameTypes, rereadTypes, List.mem_cons, List.not_mem_nil, or_false, not_or] at hmem hone
    rcases hmem with rfl | rfl | rfl | rfl | rfl | rfl | rfl | rfl | rfl | rfl | rfl | rfl | rfl | rfl |
      rfl | rfl | rfl | rfl | rfl | rfl | rfl | rfl | rfl | rfl | rfl | rfl | rfl | rfl | rfl
    · exact reads_field takesPrefix_parsePaddingFrame
    · exact reads_pure _
    · exact absurd rfl hone.1
    · exact absurd rfl hone.2.1
    · exact reads_resetStreamAt
    · exact reads_twoAt _
    · exact reads_handshakeAt
    iterate 8 exact absurd (by decide) hstream
    · exact reads_oneAt _
    · exact reads_twoAt _
    · exact reads_direction .maxStreams (hbyte 0x12 0x12 0x13 (by decide))
    · exact reads_direction .maxStreams (hbyte 0x12 0x12 0x13 (by decide))
    · exact reads_oneAt _
    · exact reads_twoAt _
    · exact reads_direction .streamsBlocked (hbyte 0x16 0x16 0x17 (by decide))
    · exact reads_direction .streamsBlocked (hbyte 0x16 0x16 0x17 (by decide))
    · exact reads_pathAt _
    · exact reads_pathAt _
    · exact reads_connCloseAt (hbyte 0x1c 0x1c 0x1d (by decide))
    · exact reads_connCloseAt (hbyte 0x1c 0x1c 0x1d (by decide))
    · exact absurd rfl hone.2.2.1
    · exact absurd rfl hone.2.2.2

/-- The parsers that read the type as an integer, and the others. -/
theorem reads_typed (e frameType : ℕ) (hmem : frameType ∈ frameTypes) :
    Reads payload (typeAt payload frameType >>= bodyAt payload e frameType)
      (behindByte (parserOf e frameType)) := by
  unfold typeAt
  by_cases hone : frameType ∈ rereadTypes
  · rw [if_pos hone]
    have hack : behindByte (fun b bs => parseAckFrame e (b :: bs)) = parseAckFrame e := by
      funext bs
      cases bs <;> rfl
    have hdatagram : behindByte (fun b bs => parseDatagramFrame (b :: bs)) = parseDatagramFrame := by
      funext bs
      cases bs <;> rfl
    simp only [rereadTypes, List.mem_cons, List.not_mem_nil, or_false] at hone
    rcases hone with rfl | rfl | rfl | rfl
    · exact hack ▸ reads_ackAt e
    · exact hack ▸ reads_ackAt e
    · exact hdatagram ▸ reads_datagramAt
    · exact hdatagram ▸ reads_datagramAt
  · rw [if_neg hone, bind_assoc]
    simp only [pure_bind]
    exact reads_byte (reads_bodyAt e frameType hmem hone)

theorem parseFrame_eq (e : ℕ) : parseFrame e = fun bs => match vintRead bs with
    | none => .error .vintread
    | some (frameType, _) =>
      if frameType ∈ frameTypes then behindByte (parserOf e frameType) bs else .error .ignorePkt := by
  funext bs
  cases bs with
  | nil => rfl
  | cons b bs =>
      rw [parseFrame_cons]
      cases vintRead (b :: bs) with
      | none => rfl
      | some r =>
          obtain ⟨frameType, rest⟩ := r
          by_cases hmem : frameType ∈ frameTypes
          · simp only [if_pos hmem]
            rfl
          · simp only [if_neg hmem, parserOf_of_notMem hmem]

/-- **The dispatch and the parsers with positions.** -/
theorem reads_parseFrameAt (e : ℕ) : Reads payload (parseFrameAt payload e) (parseFrame e) := by
  rw [parseFrame_eq]
  apply Reads.rest_bind (g := fun bs bs' => match vintRead bs with
    | none => .error .vintread
    | some (frameType, _) =>
      if frameType ∈ frameTypes then behindByte (parserOf e frameType) bs' else .error .ignorePkt)
  intro bs
  cases vintRead bs with
  | none => exact reads_fail _
  | some r =>
      by_cases hmem : r.1 ∈ frameTypes
      · simpa only [if_pos hmem] using reads_typed e r.1 hmem
      · simpa only [if_neg hmem] using reads_fail _

end Reads

/-! ## Staying inside the packet -/

section StaysIn

variable {payload : Bytes}

theorem staysIn_vintAt : StaysIn payload.length (vintAt payload) := staysIn_field _

theorem staysIn_oneAt (mk : ℕ → Frame) : StaysIn payload.length (oneAt payload mk) :=
  staysIn_vintAt.bind fun _ => staysIn_pure _

theorem staysIn_twoAt (mk : ℕ → ℕ → Frame) : StaysIn payload.length (twoAt payload mk) :=
  staysIn_vintAt.bind fun _ => staysIn_vintAt.bind fun _ => staysIn_pure _

theorem staysIn_resetStreamAt : StaysIn payload.length (resetStreamAt payload) :=
  staysIn_vintAt.bind fun _ => staysIn_vintAt.bind fun _ => staysIn_vintAt.bind fun _ => staysIn_pure _

theorem staysIn_pathAt (mk : Bytes → Frame) : StaysIn payload.length (pathAt payload mk) :=
  .guard fun _ _ _ hs hk h => onward_take mk hk hs h

theorem staysIn_opaqueAt (cap : ℕ) : StaysIn payload.length (opaqueAt payload cap) := by
  refine staysIn_vintAt.bind fun length => .guard fun s b s' hs hk h => ?_
  by_cases hcap : cap < length
  · rw [if_pos hcap] at h
    cases h
  · rw [if_neg hcap] at h
    exact onward_take id hk hs h

theorem staysIn_handshakeAt : StaysIn payload.length (handshakeAt payload) :=
  (staysIn_opaqueAt _).bind fun _ => (staysIn_opaqueAt _).bind fun _ => (staysIn_opaqueAt _).bind fun _ =>
    staysIn_pure _

theorem staysIn_ackRangesAt (count : ℕ) (ranges : List PktnoRange) :
    StaysIn payload.length (ackRangesAt payload count ranges) := by
  induction count generalizing ranges with
  | zero => exact staysIn_pure ranges
  | succ count ih =>
      refine staysIn_vintAt.bind fun gap => staysIn_vintAt.bind fun range => ?_
      cases ranges.getLast? with
      | none => exact ih ranges
      | some prev => exact (ih _).ite (ih ranges)

theorem staysIn_ackAt (e own : ℕ) : StaysIn payload.length (ackAt payload e own) := by
  refine staysIn_vintAt.bind fun _ => staysIn_vintAt.bind fun _ => staysIn_vintAt.bind fun _ =>
    staysIn_vintAt.bind fun _ => (staysIn_ackRangesAt _ _).bind fun _ => ?_
  apply StaysIn.ite
  · exact staysIn_vintAt.bind fun _ => staysIn_vintAt.bind fun _ => staysIn_vintAt.bind fun _ =>
      staysIn_pure _
  · exact staysIn_pure _

theorem staysIn_datagramAt (own : ℕ) : StaysIn payload.length (datagramAt payload own) := by
  apply StaysIn.ite
  · exact staysIn_vintAt.bind fun len => .guard fun _ _ _ hs hk h => onward_take _ hk hs h
  · apply StaysIn.ite
    · exact fun s b s' hs h => onward_take Frame.datagram le_rfl hs h
    · exact staysIn_fail _

theorem staysIn_lengthAt (hasLength : Bool) : StaysIn payload.length (lengthAt payload hasLength) := by
  apply StaysIn.ite
  · exact staysIn_vintAt.bind fun length => .guard fun s b s' hs _ h => staysIn_pure length s b s' hs h
  · exact fun s b s' hs h => staysIn_pure (payload.drop s.pos).length s b s' hs h

/-- The length of the data is not more than what is left. -/
theorem lengthAt_le {hasLength : Bool} {s s' : Cursor} {length : ℕ}
    (h : lengthAt payload hasLength s = .ok (length, s')) : length ≤ (payload.drop s'.pos).length := by
  cases hasLength with
  | false =>
      obtain ⟨rfl, rfl⟩ := Prod.mk.inj (Except.ok.inj h)
      exact le_rfl
  | true =>
      obtain ⟨n, s₁, -, h⟩ := CursorM.bind_ok h
      change (if (payload.drop s₁.pos).length < n then .fail .illframe else pure n :
        CursorM Errno ℕ) s₁ = .ok (length, s') at h
      by_cases hlt : (payload.drop s₁.pos).length < n
      · rw [if_pos hlt] at h
        cases h
      · rw [if_neg hlt] at h
        obtain ⟨rfl, rfl⟩ := CursorM.pure_ok h
        exact not_lt.1 hlt

theorem staysIn_streamAt (own : ℕ) : StaysIn payload.length (streamAt payload own) := by
  refine staysIn_vintAt.bind fun streamId => ?_
  refine StaysIn.bind (staysIn_vintAt.ite (staysIn_pure 0)) fun offset => ?_
  refine (staysIn_lengthAt _).bind_with (fun length s => length ≤ (payload.drop s.pos).length)
    (fun _ _ _ _ h => lengthAt_le h) fun length s b s' hle hs h => ?_
  unfold streamDataAt at h
  by_cases hmax : 2 ^ 62 - 1 - offset < length
  · rw [if_pos hmax] at h
    cases h
  · rw [if_neg hmax] at h
    exact onward_take _ hle hs h

theorem staysIn_closeAt (own : ℕ) : StaysIn payload.length (closeAt payload own) := by
  refine staysIn_vintAt.bind fun _ => ?_
  apply StaysIn.ite
  · exact staysIn_vintAt.bind fun _ => staysIn_vintAt.bind fun _ => staysIn_pure _
  · exact staysIn_vintAt.bind fun _ => staysIn_pure _

theorem staysIn_bodyAt (e own : ℕ) {frameType : ℕ} (hclose : frameType ≠ 0x1c ∧ frameType ≠ 0x1d) :
    StaysIn payload.length (bodyAt payload e frameType own) := by
  unfold bodyAt
  split
  · exact staysIn_field _
  · exact staysIn_pure _
  · exact staysIn_ackAt e own
  · exact staysIn_ackAt e own
  · exact staysIn_resetStreamAt
  · exact staysIn_twoAt _
  · exact staysIn_handshakeAt
  iterate 8 exact staysIn_streamAt own
  · exact staysIn_oneAt _
  · exact staysIn_twoAt _
  · exact staysIn_oneAt _
  · exact staysIn_oneAt _
  · exact staysIn_oneAt _
  · exact staysIn_twoAt _
  · exact staysIn_oneAt _
  · exact staysIn_oneAt _
  · exact staysIn_pathAt _
  · exact staysIn_pathAt _
  · exact absurd rfl hclose.1
  · exact absurd rfl hclose.2
  · exact staysIn_datagramAt own
  · exact staysIn_datagramAt own
  · exact staysIn_fail _

end StaysIn

/-! ## The bounds of a frame -/

section Bounds

variable {payload : Bytes} {p : ℕ}

/-- A parser that started at `p` has gone forward, not beyond `packet_in->last`, and every field it has
returned lies in the packet. -/
structure Inside (payload : Bytes) (p : ℕ) (s : Cursor) : Prop where
  lt : p < s.pos
  le : s.pos ≤ payload.length
  fields : ∀ f ∈ s.fields, p ≤ f.1 ∧ f.1 ≤ f.2 ∧ f.2 ≤ payload.length

/-- The reason phrase of a CONNECTION_CLOSE frame at `p` is longer than what is left of the packet. -/
def ReasonOverruns (payload : Bytes) (p : ℕ) : Prop :=
  ∃ frameType rest errCode reasonLen s, vintRead (payload.drop p) = some (frameType, rest) ∧
    (frameType = 0x1c ∨ frameType = 0x1d) ∧
    (typeAt payload frameType >>= closeAt payload) ⟨p, []⟩ = .ok ((errCode, reasonLen), s) ∧
    payload.length < s.pos + reasonLen

theorem Onward.insideOf {s₀ s : Cursor} (h : Onward payload.length s₀ s) (hp : p < s₀.pos)
    (hf : ∀ f ∈ s₀.fields, p ≤ f.1 ∧ f.1 ≤ f.2 ∧ f.2 ≤ payload.length) : Inside payload p s := by
  obtain ⟨new, hnew, hin⟩ := h.fields
  refine ⟨hp.trans_le h.le, h.inside, fun f hmem => ?_⟩
  rw [hnew] at hmem
  rcases List.mem_append.1 hmem with hmem | hmem
  · exact hf f hmem
  · have hf := hin f hmem
    exact ⟨hp.le.trans hf.1, hf.2.1, hf.2.2.trans h.inside⟩

/-- The type takes at least a byte, and lies in the packet. -/
theorem typeAt_onward {frameType own : ℕ} {s : Cursor} (hp : p ≤ payload.length)
    (h : typeAt payload frameType ⟨p, []⟩ = .ok (own, s)) : p < s.pos ∧ Onward payload.length ⟨p, []⟩ s := by
  unfold typeAt at h
  by_cases hone : frameType ∈ rereadTypes
  · rw [if_pos hone] at h
    refine ⟨?_, staysIn_vintAt _ _ _ hp h⟩
    obtain ⟨rest, hread, rfl⟩ := CursorM.field_ok h
    unfold readVint at hread
    cases hvint : vintRead (payload.drop p) with
    | none => rw [hvint] at hread; cases hread
    | some r =>
        rw [hvint] at hread
        obtain rfl := Except.ok.inj hread
        have hlt := vintRead_length_lt hvint
        dsimp only
        omega
  · rw [if_neg hone] at h
    refine ⟨?_, (staysIn_field (l := payload) readByte).bind (fun _ => staysIn_pure _) _ _ _ hp h⟩
    obtain ⟨b, s₁, hbyte, h⟩ := CursorM.bind_ok h
    obtain ⟨-, rfl⟩ := CursorM.pure_ok h
    obtain ⟨rest, hread, rfl⟩ := CursorM.field_ok hbyte
    dsimp only at hread ⊢
    cases hdrop : payload.drop p with
    | nil => rw [hdrop] at hread; cases hread
    | cons b bs =>
        rw [hdrop] at hread
        obtain ⟨-, rfl⟩ := Prod.mk.inj (Except.ok.inj hread)
        simp

theorem parseFrameAt_cases {e : ℕ} {f : Frame} {s : Cursor}
    (h : parseFrameAt payload e ⟨p, []⟩ = .ok (f, s)) :
    ∃ frameType rest own s₀, vintRead (payload.drop p) = some (frameType, rest) ∧
      frameType ∈ frameTypes ∧ typeAt payload frameType ⟨p, []⟩ = .ok (own, s₀) ∧
      bodyAt payload e frameType own s₀ = .ok (f, s) := by
  change (match vintRead (payload.drop p) with
    | none => .fail .vintread
    | some (frameType, _) =>
      if frameType ∈ frameTypes then typeAt payload frameType >>= bodyAt payload e frameType
      else .fail .ignorePkt : CursorM Errno Frame) ⟨p, []⟩ = .ok (f, s) at h
  cases hvint : vintRead (payload.drop p) with
  | none => rw [hvint] at h; cases h
  | some r =>
      obtain ⟨frameType, rest⟩ := r
      rw [hvint] at h
      by_cases hmem : frameType ∈ frameTypes
      · simp only [if_pos hmem] at h
        obtain ⟨own, s₀, htype, hbody⟩ := CursorM.bind_ok h
        exact ⟨frameType, rest, own, s₀, rfl, hmem, htype, hbody⟩
      · simp only [if_neg hmem] at h
        cases h

theorem parseFrameAt_of {e frameType own : ℕ} {rest : Bytes} {s₀ : Cursor}
    (hvint : vintRead (payload.drop p) = some (frameType, rest)) (hmem : frameType ∈ frameTypes)
    (htype : typeAt payload frameType ⟨p, []⟩ = .ok (own, s₀)) :
    parseFrameAt payload e ⟨p, []⟩ = bodyAt payload e frameType own s₀ := by
  change (match vintRead (payload.drop p) with
    | none => .fail .vintread
    | some (frameType, _) =>
      if frameType ∈ frameTypes then typeAt payload frameType >>= bodyAt payload e frameType
      else .fail .ignorePkt : CursorM Errno Frame) ⟨p, []⟩ = _
  rw [hvint]
  simp only [if_pos hmem]
  change (typeAt payload frameType ⟨p, []⟩ >>= fun r => bodyAt payload e frameType r.1 r.2) = _
  rw [htype]
  rfl

theorem bodyAt_close (e own : ℕ) {frameType : ℕ} (h : frameType = 0x1c ∨ frameType = 0x1d) :
    bodyAt payload e frameType own = connCloseAt payload own := by
  rcases h with rfl | rfl <;> rfl

theorem connCloseAt_of {own errCode reasonLen : ℕ} {s₀ s : Cursor}
    (h : closeAt payload own s₀ = .ok ((errCode, reasonLen), s)) :
    connCloseAt payload own s₀ = .ok (.connectionClose errCode,
      ⟨s.pos + reasonLen, s.fields ++ [(s.pos, s.pos + reasonLen)]⟩) := by
  change (closeAt payload own s₀ >>= fun r => (bytesAt payload r.1.2 >>= fun _ =>
    pure (Frame.connectionClose r.1.1)) r.2) = _
  rw [h]
  rfl

/-- **A parser stays inside the packet** exactly where it does not skip a reason phrase that is longer than
what is left. -/
theorem inside_iff (e : ℕ) (payload : Bytes) (p : ℕ) (hp : p ≤ payload.length) :
    (∀ f s, parseFrameAt payload e ⟨p, []⟩ = .ok (f, s) → Inside payload p s) ↔
      ¬ ReasonOverruns payload p := by
  constructor
  · rintro hall ⟨frameType, rest, errCode, reasonLen, s, hvint, hclose, hread, hlt⟩
    have hmem : frameType ∈ frameTypes := by rcases hclose with rfl | rfl <;> decide
    obtain ⟨own, s₀, htype, hread⟩ := CursorM.bind_ok hread
    have hparse := parseFrameAt_of (e := e) hvint hmem htype
    rw [bodyAt_close e own hclose, connCloseAt_of hread] at hparse
    exact absurd (hall _ _ hparse).le (not_le.2 hlt)
  · intro hfits f s hparse
    obtain ⟨frameType, rest, own, s₀, hvint, hmem, htype, hbody⟩ := parseFrameAt_cases hparse
    obtain ⟨hpos, hon⟩ := typeAt_onward hp htype
    have hfield : ∀ f ∈ s₀.fields, p ≤ f.1 ∧ f.1 ≤ f.2 ∧ f.2 ≤ payload.length := by
      intro f hf
      obtain ⟨new, hnew, hin⟩ := hon.fields
      rw [List.nil_append] at hnew
      have hf := hin f (hnew ▸ hf)
      exact ⟨hf.1, hf.2.1, hf.2.2.trans hon.inside⟩
    by_cases hclose : frameType = 0x1c ∨ frameType = 0x1d
    · rw [bodyAt_close e own hclose] at hbody
      obtain ⟨⟨errCode, reasonLen⟩, s₁, hread, -⟩ := CursorM.bind_ok hbody
      rw [connCloseAt_of hread] at hbody
      obtain ⟨-, rfl⟩ := Prod.mk.inj (Except.ok.inj hbody)
      have hfirst := staysIn_closeAt own _ _ _ hon.inside hread
      have hle : s₁.pos + reasonLen ≤ payload.length := by
        by_contra hlt
        refine hfits ⟨frameType, rest, errCode, reasonLen, s₁, hvint, hclose, ?_, not_le.1 hlt⟩
        change (typeAt payload frameType ⟨p, []⟩ >>= fun r => closeAt payload r.1 r.2) = _
        rw [htype]
        exact hread
      exact (hfirst.trans (.field (Nat.le_add_right _ _) hle)).insideOf hpos hfield
    · exact (staysIn_bodyAt e own (not_or.1 hclose) _ _ _ hon.inside hbody).insideOf hpos hfield

end Bounds

/-! ## The two readings of the type -/

section Types

variable {payload rest : Bytes} {p frameType : ℕ}

/-- The type is an integer of so many bytes. -/
def typeLen (payload rest : Bytes) (p : ℕ) : ℕ := (payload.drop p).length - rest.length

/-- At the position `p` the parser goes by the type that the dispatcher has read, and reads the body from
where this type ends; without a parser the packet is rejected. -/
structure TypeAgrees (ackDelayExponent : ℕ) (payload : Bytes) (p : ℕ) : Prop where
  dispatched : ∀ frameType rest, vintRead (payload.drop p) = some (frameType, rest) →
    frameType ∈ frameTypes → (typeAt payload frameType ⟨p, []⟩).map (fun r => (r.1, r.2.pos)) =
      .ok (frameType, p + typeLen payload rest p)
  rejected : (∀ frameType rest, vintRead (payload.drop p) = some (frameType, rest) →
    frameType ∉ frameTypes) → ∃ err, parseFrame ackDelayExponent (payload.drop p) = .error err

theorem typeAt_reread (h : vintRead (payload.drop p) = some (frameType, rest))
    (hmem : frameType ∈ rereadTypes) :
    (typeAt payload frameType ⟨p, []⟩).map (fun r => (r.1, r.2.pos)) =
      .ok (frameType, p + typeLen payload rest p) := by
  unfold typeAt vintAt CursorM.field readVint
  rw [if_pos hmem]
  simp only [h]
  rfl

theorem typeAt_byte {b : UInt8} {bs : Bytes} (h : payload.drop p = b :: bs)
    (hmem : frameType ∉ rereadTypes) :
    (typeAt payload frameType ⟨p, []⟩).map (fun r => (r.1, r.2.pos)) =
      .ok (ownType frameType b, p + 1) := by
  have hread : (CursorM.field payload readByte) ⟨p, []⟩ = .ok (b, ⟨p + 1, [(p, p + 1)]⟩) := by
    unfold CursorM.field
    simp only [h, readByte, List.length_cons]
    rw [Nat.add_sub_cancel_left]
    rfl
  unfold typeAt
  rw [if_neg hmem]
  change (CursorM.field payload readByte ⟨p, []⟩ >>= fun r => pure (ownType frameType r.1, r.2)).map _ = _
  rw [hread]
  rfl

theorem exists_cons_of_vintRead {bs : Bytes} (h : vintRead bs = some (frameType, rest)) :
    ∃ b bs', bs = b :: bs' := by
  cases bs with
  | nil => cases h
  | cons b bs' => exact ⟨b, bs', rfl⟩

theorem vintRead_one {b : UInt8} {bs : Bytes} {v : ℕ} (h : vintRead (b :: bs) = some (v, rest))
    (hlen : (b :: bs).length - rest.length = 1) : b.toNat = v := by
  have hread := h
  rw [vintRead] at hread
  split_ifs at hread with hshort
  obtain ⟨-, rfl⟩ := Prod.mk.inj (Option.some.inj hread)
  rw [List.length_drop, Nat.sub_sub_self (not_lt.1 hshort)] at hlen
  have hclass : b.toNat / 64 = 0 := by
    by_contra hne
    have := Nat.pow_le_pow_right (n := 2) (by omega) (Nat.one_le_iff_ne_zero.2 hne)
    omega
  rw [vintRead_of_lt bs (by omega)] at h
  exact (Prod.mk.inj (Option.some.inj h)).1

/-- A type of one byte is this byte, and so are its flags, its direction and its variant. -/
theorem ownType_self {b : UInt8} (hmem : frameType ∈ frameTypes) (h : b.toNat = frameType) :
    ownType frameType b = frameType := by
  have hall : ∀ T ∈ frameTypes, ownType T (UInt8.ofNat T) = T := by decide
  rw [← UInt8.ofNat_toNat (x := b), h]
  exact hall frameType hmem

/-- **The dispatcher and the parser agree on the type** exactly where the type is one byte, or the parser
reads it as an integer too. -/
theorem typeAgrees_iff (e : ℕ) (payload : Bytes) (p : ℕ) :
    TypeAgrees e payload p ↔
      ∀ frameType rest, vintRead (payload.drop p) = some (frameType, rest) → frameType ∈ frameTypes →
        typeLen payload rest p = 1 ∨ frameType ∈ rereadTypes := by
  constructor
  · intro hagree frameType rest hvint hmem
    by_contra hnot
    obtain ⟨hlen, hone⟩ := not_or.1 hnot
    obtain ⟨b, bs, hdrop⟩ := exists_cons_of_vintRead hvint
    have htype := hagree.dispatched frameType rest hvint hmem
    rw [typeAt_byte hdrop hone] at htype
    have hpos := (Prod.mk.inj (Except.ok.inj htype)).2
    omega
  · intro hone
    refine ⟨fun frameType rest hvint hmem => ?_, fun hnone => ?_⟩
    · by_cases hread : frameType ∈ rereadTypes
      · exact typeAt_reread hvint hread
      · obtain hlen := (hone frameType rest hvint hmem).resolve_right hread
        obtain ⟨b, bs, hdrop⟩ := exists_cons_of_vintRead hvint
        have hb : b.toNat = frameType := by
          rw [typeLen, hdrop] at hlen
          rw [hdrop] at hvint
          exact vintRead_one hvint hlen
        rw [typeAt_byte hdrop hread, ownType_self hmem hb, hlen]
    · rw [parseFrame_eq]
      dsimp only
      cases hvint : vintRead (payload.drop p) with
      | none => exact ⟨_, rfl⟩
      | some r => exact ⟨_, if_neg (hnone r.1 r.2 hvint)⟩

/-- MAX_STREAMS with the type in two bytes: the parser takes the other direction, and the second byte of the
type for the limit. -/
theorem not_typeAgrees_maxStreams : ¬ TypeAgrees 3 [0x40, 0x12, 0x01] 0 ∧
    parseFrames 3 [0x40, 0x12, 0x01] = .ok [.maxStreams false 0x12, .ping] := by
  refine ⟨fun h => ?_, by decide +kernel⟩
  have hread := h.dispatched 0x12 [0x01] (by decide +kernel) (by decide)
  revert hread
  decide +kernel

end Types
end Rquic

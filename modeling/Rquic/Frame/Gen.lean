import Rquic.Frame.Parse

set_option autoImplicit false

/-!
# Frame generators

The bytes that the generators of `rqc_frame_parser.c` and `rqc_datagram.c` write, and that the
parsers read them back.

* `ControlFrame`: the frames that fill a packet of their own, with their code and the room that
  their generator asks for.
* `streamCode`: a STREAM frame with a two-byte length field; `finCode`: a STREAM frame without data.
* `ackCode`: an ACK frame of a list of received ranges.
* **`decodes_control`**, **`decodes_stream`**, **`decodes_ack`**: every code is read back as its frame.
-/

namespace Rquic

/-! ## Control frames -/

/-- The frames that `rqc_write_*_to_packet` and `rqc_datagram_submit` put into a new packet. -/
inductive ControlFrame where
  | ping
  | connClose (errCode : ℕ)
  | resetStream (streamId errCode finalSize : ℕ)
  | stopSending (streamId errCode : ℕ)
  | dataBlocked (dataLimit : ℕ)
  | streamDataBlocked (streamId streamDataLimit : ℕ)
  | streamsBlocked (bidirectional : Bool) (streamLimit : ℕ)
  | maxData (maxData : ℕ)
  | maxStreamData (streamId maxStreamData : ℕ)
  | maxStreams (bidirectional : Bool) (maxStreams : ℕ)
  | pathChallenge (data : Bytes)
  | pathResponse (data : Bytes)
  | handshake (alpn tp ext : Bytes)
  | datagram (data : Bytes)
  deriving DecidableEq, Repr

/-- `REQUEST_NO_ERROR`: error codes from here on are application errors. -/
def requestNoError : ℕ := 0x100

namespace ControlFrame

/-- The frame that a control frame is parsed to. -/
def frame : ControlFrame → Frame
  | ping => .ping
  | connClose errCode => .connectionClose errCode
  | resetStream streamId errCode finalSize => .resetStream streamId errCode finalSize
  | stopSending streamId errCode => .stopSending streamId errCode
  | dataBlocked dataLimit => .dataBlocked dataLimit
  | streamDataBlocked streamId limit => .streamDataBlocked streamId limit
  | streamsBlocked bidirectional limit => .streamsBlocked bidirectional limit
  | maxData limit => .maxData limit
  | maxStreamData streamId limit => .maxStreamData streamId limit
  | maxStreams bidirectional limit => .maxStreams bidirectional limit
  | pathChallenge data => .pathChallenge data
  | pathResponse data => .pathResponse data
  | handshake alpn tp ext => .handshake alpn tp ext
  | datagram data => .datagram data

/-- The bytes of a control frame, one line for each `rqc_gen_*_frame`. -/
def code : ControlFrame → Bytes
  | ping => [0x01]
  | connClose errCode =>
    if requestNoError ≤ errCode then 0x1d :: (vintBytes errCode ++ vintBytes 0)
    else 0x1c :: (vintBytes errCode ++ vintBytes 0 ++ vintBytes 0)
  | resetStream streamId errCode finalSize =>
    0x04 :: (vintBytes streamId ++ vintBytes errCode ++ vintBytes finalSize)
  | stopSending streamId errCode => 0x05 :: (vintBytes streamId ++ vintBytes errCode)
  | dataBlocked dataLimit => 0x14 :: vintBytes dataLimit
  | streamDataBlocked streamId limit => 0x15 :: (vintBytes streamId ++ vintBytes limit)
  | streamsBlocked bidirectional limit => (if bidirectional then 0x16 else 0x17) :: vintBytes limit
  | maxData limit => 0x10 :: vintBytes limit
  | maxStreamData streamId limit => 0x11 :: (vintBytes streamId ++ vintBytes limit)
  | maxStreams bidirectional limit => (if bidirectional then 0x12 else 0x13) :: vintBytes limit
  | pathChallenge data => 0x1a :: data
  | pathResponse data => 0x1b :: data
  | handshake alpn tp ext =>
    0x06 :: (vintBytes alpn.length ++ alpn ++ vintBytes tp.length ++ tp ++
      vintBytes ext.length ++ ext)
  | datagram data => 0x31 :: (vintBytes data.length ++ data)

/-- The room that the generator asks for. The limit frames are written without a check. -/
def need : ControlFrame → ℕ
  | ping => 1
  -- the length of the frame type is counted for an application error too
  | connClose errCode => 1 + (vintBytes errCode).length + (vintBytes 0).length +
      (vintBytes 0).length
  | c@(resetStream ..) | c@(stopSending ..) | c@(pathChallenge _) | c@(pathResponse _)
  | c@(handshake ..) => c.code.length
  | dataBlocked _ | streamDataBlocked .. | streamsBlocked .. | maxData _ | maxStreamData ..
  | maxStreams .. | datagram _ => 0

/-- The fields of a control frame fit the wire format. -/
def Wf : ControlFrame → Prop
  | ping => True
  | connClose errCode => errCode < 2 ^ 62
  | resetStream streamId errCode finalSize =>
    streamId < 2 ^ 62 ∧ errCode < 2 ^ 62 ∧ finalSize < 2 ^ 62
  | stopSending streamId errCode => streamId < 2 ^ 62 ∧ errCode < 2 ^ 62
  | dataBlocked limit | streamsBlocked _ limit | maxData limit | maxStreams _ limit =>
    limit < 2 ^ 62
  | streamDataBlocked streamId limit | maxStreamData streamId limit =>
    streamId < 2 ^ 62 ∧ limit < 2 ^ 62
  | pathChallenge data | pathResponse data => data.length = pathChallengeDataLen
  | handshake alpn tp ext =>
    alpn.length ≤ alpnCap ∧ tp.length ≤ tpCap ∧ ext.length ≤ protoExtCap
  | datagram data => data.length < 2 ^ 62

end ControlFrame

/-! ## STREAM frames -/

/-- The first byte of a STREAM frame. -/
def streamTypeByte (hasOffset hasLength fin : Bool) : UInt8 :=
  0x08 ||| (if hasOffset then 0x04 else 0) ||| (if hasLength then 0x02 else 0) |||
    (if fin then 0x01 else 0)

/-- The stream id and the offset of a STREAM frame. -/
def streamFrameIds (streamId offset : ℕ) : Bytes :=
  vintBytes streamId ++ if offset = 0 then [] else vintBytes offset

/-- A STREAM frame with data: the length field always takes two bytes. -/
def streamCode (streamId offset : ℕ) (fin : Bool) (data : Bytes) : Bytes :=
  streamTypeByte (offset ≠ 0) true fin :: (streamFrameIds streamId offset ++
    vintWrite data.length 1 2 ++ data)

/-- A STREAM frame that carries nothing but the end of the stream. -/
def finCode (streamId offset : ℕ) (hasLength fin : Bool) : Bytes :=
  streamTypeByte (offset ≠ 0) hasLength fin :: (streamFrameIds streamId offset ++
    if hasLength then [0] else [])

/-! ## ACK frames -/

/-- The gap and the length of the ranges behind the first one, as the `unsigned` variables of
`rqc_gen_ack_frame` hold them. -/
def ackPairs : ℕ → List PktnoRange → List (ℕ × ℕ)
  | _, [] => []
  | prevLow, r :: rs =>
    (u64Sub (u64Sub prevLow r.high) 2 % 2 ^ 32, u64Sub r.high r.low % 2 ^ 32) :: ackPairs r.low rs

/-- The pairs of an ACK frame as bytes. -/
def ackPairCode (p : ℕ × ℕ) : Bytes := vintBytes p.1 ++ vintBytes p.2

/-- An ACK frame of the ranges `first :: rs`, with the delay already scaled. At most
`RQC_MAX_ACK_RANGE_CNT - 1` ranges follow the first one. -/
def ackCode (ackDelay : ℕ) (first : PktnoRange) (rs : List PktnoRange) : Bytes :=
  let pairs := ackPairs first.low (rs.take (maxAckRangeCnt - 1))
  0x02 :: (vintBytes first.high ++ vintBytes ackDelay ++ [UInt8.ofNat pairs.length] ++
    vintBytes (u64Sub first.high first.low % 2 ^ 32) ++ (pairs.map ackPairCode).flatten)

/-! ## Reading back -/

theorem bind_eq_ok {ε α β : Type} {x : Except ε α} {f : α → Except ε β} {b : β}
    (h : x >>= f = .ok b) : ∃ a, x = .ok a ∧ f a = .ok b := by
  cases x with
  | error e => cases h
  | ok a => exact ⟨a, rfl, h⟩

@[simp] theorem ok_bind {ε α β : Type} (a : α) (f : α → Except ε β) :
    (Except.ok a >>= f) = f a := rfl

theorem readVint_vintBytes {val : ℕ} (h : val < 2 ^ 62) (rest : Bytes) :
    readVint (vintBytes val ++ rest) = .ok (val, rest) := by
  rw [readVint, vintRead_vintBytes h]

theorem readVint_length {len : ℕ} (h : len < 2 ^ 14) (rest : Bytes) :
    readVint (vintWrite len 1 2 ++ rest) = .ok (len, rest) := by
  have hread : vintRead (vintWrite len 1 2 ++ rest) = some (len, rest) :=
    vintRead_vintWrite (by omega) h rest
  rw [readVint, hread]

theorem readVint_of_lt {b : UInt8} (bs : Bytes) (hb : b.toNat < 64) :
    readVint (b :: bs) = .ok (b.toNat, bs) := by
  rw [readVint, vintRead_of_lt bs hb]

/-- A byte string with its length in front is read back. -/
theorem readOpaque_code {cap : ℕ} {data : Bytes} (h : data.length ≤ cap) (hcap : cap < 2 ^ 62)
    (rest : Bytes) :
    readOpaque cap (vintBytes data.length ++ (data ++ rest)) = .ok (data, rest) := by
  rw [readOpaque, readVint_vintBytes (by omega), ok_bind]
  simp only [List.length_append]
  rw [if_neg (by omega), if_neg (by omega), List.take_left, List.drop_left]

theorem ControlFrame.code_ne_nil (c : ControlFrame) : c.code ≠ [] := by
  cases c with
  | connClose errCode =>
      rw [ControlFrame.code]
      split_ifs <;> exact List.cons_ne_nil _ _
  | _ => exact List.cons_ne_nil _ _

/-- **Control frames are read back.** -/
theorem decodes_control (e : ℕ) {c : ControlFrame} (h : c.Wf) :
    Decodes (parseFrame e) c.frame c.code := by
  have hzero : (0 : ℕ) < 2 ^ 62 := by omega
  refine ⟨c.code_ne_nil, fun rest => ?_⟩
  cases c with
  | ping => rfl
  | connClose errCode =>
      replace h : errCode < 2 ^ 62 := h
      simp only [ControlFrame.code, ControlFrame.frame]
      split_ifs <;>
        simp [parseFrame, vintRead_of_lt, parseConnCloseFrame, readVint_vintBytes h,
          readVint_vintBytes hzero]
  | resetStream streamId errCode finalSize =>
      obtain ⟨hid, herr, hsize⟩ : streamId < 2 ^ 62 ∧ errCode < 2 ^ 62 ∧ finalSize < 2 ^ 62 := h
      simp [ControlFrame.code, ControlFrame.frame, parseFrame, vintRead_of_lt,
        parseResetStreamFrame, readVint_vintBytes hid, readVint_vintBytes herr,
        readVint_vintBytes hsize]
  | stopSending streamId errCode =>
      obtain ⟨hid, herr⟩ : streamId < 2 ^ 62 ∧ errCode < 2 ^ 62 := h
      simp [ControlFrame.code, ControlFrame.frame, parseFrame, vintRead_of_lt,
        parseStopSendingFrame, parseTwo, readVint_vintBytes hid, readVint_vintBytes herr]
  | dataBlocked limit =>
      simp [ControlFrame.code, ControlFrame.frame, parseFrame, vintRead_of_lt,
        parseDataBlockedFrame, parseOne, readVint_vintBytes h]
  | streamDataBlocked streamId limit =>
      obtain ⟨hid, hlim⟩ : streamId < 2 ^ 62 ∧ limit < 2 ^ 62 := h
      simp [ControlFrame.code, ControlFrame.frame, parseFrame, vintRead_of_lt,
        parseStreamDataBlockedFrame, parseTwo, readVint_vintBytes hid, readVint_vintBytes hlim]
  | streamsBlocked bidirectional limit =>
      cases bidirectional <;>
        simp [ControlFrame.code, ControlFrame.frame, parseFrame, vintRead_of_lt,
          parseStreamsBlockedFrame, parseOne, readVint_vintBytes h]
  | maxData limit =>
      simp [ControlFrame.code, ControlFrame.frame, parseFrame, vintRead_of_lt,
        parseMaxDataFrame, parseOne, readVint_vintBytes h]
  | maxStreamData streamId limit =>
      obtain ⟨hid, hlim⟩ : streamId < 2 ^ 62 ∧ limit < 2 ^ 62 := h
      simp [ControlFrame.code, ControlFrame.frame, parseFrame, vintRead_of_lt,
        parseMaxStreamDataFrame, parseTwo, readVint_vintBytes hid, readVint_vintBytes hlim]
  | maxStreams bidirectional limit =>
      cases bidirectional <;>
        simp [ControlFrame.code, ControlFrame.frame, parseFrame, vintRead_of_lt,
          parseMaxStreamsFrame, parseOne, readVint_vintBytes h]
  | pathChallenge data =>
      replace h : data.length = pathChallengeDataLen := h
      simp [ControlFrame.code, ControlFrame.frame, parseFrame, vintRead_of_lt, parsePathFrame, ← h]
  | pathResponse data =>
      replace h : data.length = pathChallengeDataLen := h
      simp [ControlFrame.code, ControlFrame.frame, parseFrame, vintRead_of_lt, parsePathFrame, ← h]
  | handshake alpn tp ext =>
      obtain ⟨halpn, htp, hext⟩ :
        alpn.length ≤ alpnCap ∧ tp.length ≤ tpCap ∧ ext.length ≤ protoExtCap := h
      simp [ControlFrame.code, ControlFrame.frame, parseFrame, vintRead_of_lt,
        parseHandshakeFrame, readOpaque_code halpn (by decide), readOpaque_code htp (by decide),
        readOpaque_code hext (by decide)]
  | datagram data =>
      simp [ControlFrame.code, ControlFrame.frame, parseFrame, vintRead_of_lt,
        parseDatagramFrame, readVint_of_lt, readVint_vintBytes h]

/-- The type byte of a STREAM frame reaches the STREAM parser. -/
theorem parseFrame_streamTypeByte (e : ℕ) (hasOffset hasLength fin : Bool) (bs : Bytes) :
    parseFrame e (streamTypeByte hasOffset hasLength fin :: bs) =
      parseStreamFrame (streamTypeByte hasOffset hasLength fin) bs := by
  rw [parseFrame, vintRead_of_lt bs (by cases hasOffset <;> cases hasLength <;> cases fin <;> decide)]
  cases hasOffset <;> cases hasLength <;> cases fin <;> rfl

@[simp] theorem streamTypeByte_offset (hasOffset hasLength fin : Bool) :
    (streamTypeByte hasOffset hasLength fin &&& 0x04 ≠ 0) = (hasOffset = true) := by
  cases hasOffset <;> cases hasLength <;> cases fin <;> decide

@[simp] theorem streamTypeByte_length (hasOffset hasLength fin : Bool) :
    (streamTypeByte hasOffset hasLength fin &&& 0x02 ≠ 0) = (hasLength = true) := by
  cases hasOffset <;> cases hasLength <;> cases fin <;> decide

@[simp] theorem streamTypeByte_fin (hasOffset hasLength fin : Bool) :
    (streamTypeByte hasOffset hasLength fin &&& 0x01 ≠ 0) = (fin = true) := by
  cases hasOffset <;> cases hasLength <;> cases fin <;> decide

/-- Setting the FIN bit of a type byte. -/
theorem streamTypeByte_or_fin (hasOffset hasLength fin : Bool) :
    streamTypeByte hasOffset hasLength fin ||| 0x01 = streamTypeByte hasOffset hasLength true := by
  cases hasOffset <;> cases hasLength <;> cases fin <;> decide

theorem parseStreamFrame_ids {streamId offset : ℕ} (hid : streamId < 2 ^ 62)
    (hoff : offset < 2 ^ 62) (hasLength fin : Bool) (bs : Bytes) :
    parseStreamFrame (streamTypeByte (offset ≠ 0) hasLength fin)
        (streamFrameIds streamId offset ++ bs) = (do
      let (length, bs) ←
        if hasLength = true then do
          let (length, bs) ← readVint bs
          if bs.length < length then .error .illframe else .ok (length, bs)
        else .ok (bs.length, bs)
      if 2 ^ 62 - 1 - offset < length then .error .illframe
      else .ok (.stream streamId offset fin (bs.take length), bs.drop length)) := by
  rw [parseStreamFrame, streamFrameIds]
  simp only [streamTypeByte_offset, streamTypeByte_length, streamTypeByte_fin, List.append_assoc,
    readVint_vintBytes hid, ok_bind, Bool.decide_eq_true]
  by_cases h0 : offset = 0
  · simp [h0]
  · simp [h0, readVint_vintBytes hoff]

/-- **STREAM frames are read back.** -/
theorem decodes_stream (e : ℕ) {streamId offset : ℕ} (fin : Bool) {data : Bytes}
    (hid : streamId < 2 ^ 62) (hoff : offset + data.length < 2 ^ 62) (hlen : data.length < 2 ^ 14) :
    Decodes (parseFrame e) (.stream streamId offset fin data)
      (streamCode streamId offset fin data) := by
  refine ⟨List.cons_ne_nil _ _, fun rest => ?_⟩
  rw [streamCode, List.cons_append, parseFrame_streamTypeByte, List.append_assoc,
    List.append_assoc, parseStreamFrame_ids hid (by omega), if_pos rfl, readVint_length hlen,
    ok_bind]
  simp only [List.length_append]
  rw [if_neg (by omega), ok_bind]
  simp only
  rw [if_neg (by omega), List.take_left, List.drop_left]

/-- A STREAM frame without data and with a length is read back. -/
theorem decodes_fin (e : ℕ) {streamId offset : ℕ} (fin : Bool)
    (hid : streamId < 2 ^ 62) (hoff : offset < 2 ^ 62) :
    Decodes (parseFrame e) (.stream streamId offset fin []) (finCode streamId offset true fin) := by
  refine ⟨List.cons_ne_nil _ _, fun rest => ?_⟩
  rw [finCode, if_pos rfl, List.cons_append, parseFrame_streamTypeByte, List.append_assoc,
    parseStreamFrame_ids hid hoff, if_pos rfl, List.singleton_append, readVint_of_lt _ (by decide),
    ok_bind]
  simp

/-- A STREAM frame without data and without a length is read back at the end of a packet. -/
theorem parseFrame_fin_noLen (e : ℕ) {streamId offset : ℕ} (fin : Bool)
    (hid : streamId < 2 ^ 62) (hoff : offset < 2 ^ 62) :
    parseFrame e (finCode streamId offset false fin) = .ok (.stream streamId offset fin [], []) := by
  rw [finCode, if_neg (by decide), parseFrame_streamTypeByte, parseStreamFrame_ids hid hoff]
  simp

/-! ## ACK frames -/

theorem ackPairs_lt {prevLow : ℕ} {rs : List PktnoRange} {p : ℕ × ℕ}
    (h : p ∈ ackPairs prevLow rs) : p.1 < 2 ^ 62 ∧ p.2 < 2 ^ 62 := by
  induction rs generalizing prevLow with
  | nil => cases h
  | cons r rs ih =>
      rw [ackPairs] at h
      rcases List.mem_cons.1 h with rfl | h
      · have hlt : (2 : ℕ) ^ 32 < 2 ^ 62 := by decide
        exact ⟨(Nat.mod_lt _ (by decide)).trans hlt, (Nat.mod_lt _ (by decide)).trans hlt⟩
      · exact ih h

@[simp] theorem length_ackPairs (prevLow : ℕ) (rs : List PktnoRange) :
    (ackPairs prevLow rs).length = rs.length := by
  induction rs generalizing prevLow with
  | nil => rfl
  | cons r rs ih => simp [ackPairs, ih]

/-- The range loop reads as many pairs as it is told and keeps the ranges it had, whatever follows. -/
theorem parseAckRanges_code {pairs : List (ℕ × ℕ)} (h : ∀ p ∈ pairs, p.1 < 2 ^ 62 ∧ p.2 < 2 ^ 62)
    (ranges : List PktnoRange) :
    ∃ more, ∀ rest,
      parseAckRanges pairs.length ranges ((pairs.map ackPairCode).flatten ++ rest) =
        .ok (ranges ++ more, rest) := by
  induction pairs generalizing ranges with
  | nil => exact ⟨[], fun rest => by simp [parseAckRanges]⟩
  | cons p pairs ih =>
      obtain ⟨hgap, hrange⟩ := h p List.mem_cons_self
      have ih := ih fun q hq => h q (List.mem_cons_of_mem _ hq)
      simp only [List.length_cons, List.map_cons, List.flatten_cons, ackPairCode, parseAckRanges,
        List.append_assoc, readVint_vintBytes hgap, readVint_vintBytes hrange, ok_bind]
      cases ranges.getLast? with
      | none => exact ih ranges
      | some prev =>
          by_cases hroom : ranges.length < maxAckRangeCnt
          · set r : PktnoRange := ⟨u64Sub (u64Sub (u64Sub prev.low p.1) 2) p.2,
              u64Sub (u64Sub prev.low p.1) 2⟩
            obtain ⟨more, hmore⟩ := ih (ranges ++ [r])
            refine ⟨r :: more, fun rest => ?_⟩
            simp only [if_pos hroom]
            rw [hmore rest, List.append_assoc, List.singleton_append]
          · simpa only [if_neg hroom] using ih ranges

/-- **ACK frames are read back**, with the largest packet number at the head of the ranges. -/
theorem decodes_ack (e : ℕ) {ackDelay : ℕ} {first : PktnoRange} (rs : List PktnoRange)
    (hdelay : ackDelay < 2 ^ 62) (hfirst : first.high < 2 ^ 62) :
    ∃ info, info.ranges.head?.map PktnoRange.high = some first.high ∧
      Decodes (parseFrame e) (.ack info) (ackCode ackDelay first rs) := by
  set pairs := ackPairs first.low (rs.take (maxAckRangeCnt - 1)) with hpairs
  have hcount : pairs.length < 64 := by
    rw [hpairs, length_ackPairs, List.length_take]
    exact lt_of_le_of_lt (min_le_left _ _) (by decide)
  have hbyte : (UInt8.ofNat pairs.length).toNat = pairs.length := by
    rw [UInt8.toNat_ofNat', Nat.mod_eq_of_lt (by omega)]
  set range := u64Sub first.high first.low % 2 ^ 32 with hrange
  have hlt : range < 2 ^ 62 := (Nat.mod_lt _ (by decide)).trans (by decide)
  set r : PktnoRange := ⟨u64Sub first.high range, first.high⟩ with hr
  have hpair : ∀ p ∈ pairs, p.1 < 2 ^ 62 ∧ p.2 < 2 ^ 62 := fun p hp => ackPairs_lt (hpairs ▸ hp)
  obtain ⟨more, hmore⟩ := parseAckRanges_code hpair [r]
  refine ⟨⟨r :: more, u64Mul ackDelay (2 ^ e)⟩, rfl, List.cons_ne_nil _ _, fun rest => ?_⟩
  rw [ackCode, ← hpairs, ← hrange]
  simp [parseFrame, vintRead_of_lt, parseAckFrame, readVint_of_lt, readVint_vintBytes hfirst,
    readVint_vintBytes hdelay, readVint_vintBytes hlt, hbyte, hcount, ← hr, hmore]

end Rquic

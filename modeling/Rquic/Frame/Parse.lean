import Rquic.Vint
import Rquic.Frame.Basic

set_option autoImplicit false

/-!
# Frame parsers

The parsers of `rqc_frame_parser.c` on the bytes between the read position and the end of the
packet. A parser returns the frame and the bytes behind it.

* `parseStreamFrame`, `parseAckFrame` and the others: one parser for each frame type.
* `parseFrame`: the dispatch of `rqc_process_frames`. It reads the type as a variable-length integer,
  while most parsers skip one byte for it and some look at that byte again.
* `parseFrames`: all frames of a packet.
-/

namespace Rquic

/-- `RQC_MAX_ACK_RANGE_CNT`. -/
def maxAckRangeCnt : ℕ := 64

/-- `RQC_PATH_CHALLENGE_DATA_LEN`. -/
def pathChallengeDataLen : ℕ := 8

/-- The capacities of the buffers of `rqc_process_handshake_frame`. -/
def alpnCap : ℕ := 255
def tpCap : ℕ := 256
def protoExtCap : ℕ := 512

/-- A variable-length integer, or the error that every parser returns for a truncated one. -/
def readVint (bs : Bytes) : Except Errno (ℕ × Bytes) :=
  match vintRead bs with
  | none => .error .vintread
  | some r => .ok r

theorem readVint_lt {bs rest : Bytes} {v : ℕ} (h : readVint bs = .ok (v, rest)) : v < 2 ^ 62 := by
  unfold readVint at h
  split at h
  · cases h
  · rename_i r hr
    obtain rfl := Except.ok.inj h
    exact vintRead_lt hr

/-! ## One parser for each frame type -/

/-- `rqc_parse_stream_frame`, behind its first byte. -/
def parseStreamFrame (firstByte : UInt8) (bs : Bytes) : Except Errno (Frame × Bytes) := do
  let (streamId, bs) ← readVint bs
  let (offset, bs) ← if firstByte &&& 0x04 ≠ 0 then readVint bs else .ok (0, bs)
  let (length, bs) ←
    if firstByte &&& 0x02 ≠ 0 then do
      let (length, bs) ← readVint bs
      if bs.length < length then .error .illframe else .ok (length, bs)
    else .ok (bs.length, bs)
  -- offset + length must not exceed 2^62 - 1
  if 2 ^ 62 - 1 - offset < length then .error .illframe
  else .ok (.stream streamId offset (firstByte &&& 0x01 ≠ 0) (bs.take length), bs.drop length)

/-- `rqc_parse_padding_frame`: all zero bytes that follow are skipped. -/
def parsePaddingFrame (bs : Bytes) : Except Errno (Frame × Bytes) :=
  .ok (.padding, bs.dropWhile (· = 0))

/-- The range loop of `rqc_parse_ack_frame`: `count` pairs are read, the first ones are stored. -/
def parseAckRanges : ℕ → List PktnoRange → Bytes → Except Errno (List PktnoRange × Bytes)
  | 0, ranges, bs => .ok (ranges, bs)
  | count + 1, ranges, bs => do
    let (gap, bs) ← readVint bs
    let (range, bs) ← readVint bs
    match ranges.getLast? with
    | none => parseAckRanges count ranges bs
    | some prev =>
      if ranges.length < maxAckRangeCnt then
        let high := u64Sub (u64Sub prev.low gap) 2
        parseAckRanges count (ranges ++ [⟨u64Sub high range, high⟩]) bs
      else parseAckRanges count ranges bs

/-- `rqc_parse_ack_frame`, with its type. -/
def parseAckFrame (ackDelayExponent : ℕ) (bs : Bytes) : Except Errno (Frame × Bytes) := do
  let (frameType, bs) ← readVint bs
  let (largestAcked, bs) ← readVint bs
  let (ackDelay, bs) ← readVint bs
  let (ackRangeCount, bs) ← readVint bs
  let (firstAckRange, bs) ← readVint bs
  let (ranges, bs) ← parseAckRanges ackRangeCount
    [⟨u64Sub largestAcked firstAckRange, largestAcked⟩] bs
  let bs ←
    if frameType = 0x03 then do
      let (_, bs) ← readVint bs
      let (_, bs) ← readVint bs
      let (_, bs) ← readVint bs
      .ok bs
    else .ok bs
  .ok (.ack ⟨ranges, u64Mul ackDelay (2 ^ ackDelayExponent)⟩, bs)

/-- `rqc_parse_conn_close_frame`: the reason phrase is skipped without a look at the end. -/
def parseConnCloseFrame (firstByte : UInt8) (bs : Bytes) : Except Errno (Frame × Bytes) := do
  let (errCode, bs) ← readVint bs
  let bs ←
    if firstByte = 0x1c then do
      let (_, bs) ← readVint bs
      .ok bs
    else .ok bs
  let (reasonLen, bs) ← readVint bs
  .ok (.connectionClose errCode, bs.drop reasonLen)

/-- A frame with one integer. -/
def parseOne (mk : ℕ → Frame) (bs : Bytes) : Except Errno (Frame × Bytes) := do
  let (a, bs) ← readVint bs
  .ok (mk a, bs)

/-- A frame with two integers. -/
def parseTwo (mk : ℕ → ℕ → Frame) (bs : Bytes) : Except Errno (Frame × Bytes) := do
  let (a, bs) ← readVint bs
  let (b, bs) ← readVint bs
  .ok (mk a b, bs)

/-- `rqc_parse_reset_stream_frame`. -/
def parseResetStreamFrame (bs : Bytes) : Except Errno (Frame × Bytes) := do
  let (streamId, bs) ← readVint bs
  let (errCode, bs) ← readVint bs
  let (finalSize, bs) ← readVint bs
  .ok (.resetStream streamId errCode finalSize, bs)

/-- `rqc_parse_stop_sending_frame`. -/
def parseStopSendingFrame : Bytes → Except Errno (Frame × Bytes) := parseTwo .stopSending

/-- `rqc_parse_data_blocked_frame`. -/
def parseDataBlockedFrame : Bytes → Except Errno (Frame × Bytes) := parseOne .dataBlocked

/-- `rqc_parse_stream_data_blocked_frame`. -/
def parseStreamDataBlockedFrame : Bytes → Except Errno (Frame × Bytes) :=
  parseTwo .streamDataBlocked

/-- `rqc_parse_streams_blocked_frame`. -/
def parseStreamsBlockedFrame (firstByte : UInt8) : Bytes → Except Errno (Frame × Bytes) :=
  parseOne (.streamsBlocked (firstByte = 0x16))

/-- `rqc_parse_max_data_frame`. -/
def parseMaxDataFrame : Bytes → Except Errno (Frame × Bytes) := parseOne .maxData

/-- `rqc_parse_max_stream_data_frame`. -/
def parseMaxStreamDataFrame : Bytes → Except Errno (Frame × Bytes) := parseTwo .maxStreamData

/-- `rqc_parse_max_streams_frame`. -/
def parseMaxStreamsFrame (firstByte : UInt8) : Bytes → Except Errno (Frame × Bytes) :=
  parseOne (.maxStreams (firstByte = 0x12))

/-- `rqc_parse_path_challenge_frame` and `rqc_parse_path_response_frame`. -/
def parsePathFrame (mk : Bytes → Frame) (bs : Bytes) : Except Errno (Frame × Bytes) :=
  if bs.length < pathChallengeDataLen then .error .vintread
  else .ok (mk (bs.take pathChallengeDataLen), bs.drop pathChallengeDataLen)

/-- A byte string with its length in front, within the capacity of its buffer. -/
def readOpaque (cap : ℕ) (bs : Bytes) : Except Errno (Bytes × Bytes) := do
  let (length, bs) ← readVint bs
  if bs.length < length then .error .illframe
  else if cap < length then .error .nobuf
  else .ok (bs.take length, bs.drop length)

/-- `rqc_parse_handshake_frame`. -/
def parseHandshakeFrame (bs : Bytes) : Except Errno (Frame × Bytes) := do
  let (alpn, bs) ← readOpaque alpnCap bs
  let (tp, bs) ← readOpaque tpCap bs
  let (ext, bs) ← readOpaque protoExtCap bs
  .ok (.handshake alpn tp ext, bs)

/-- The parsing part of `rqc_datagram_process_frame`, with its type. -/
def parseDatagramFrame (bs : Bytes) : Except Errno (Frame × Bytes) := do
  let (frameType, bs) ← readVint bs
  if frameType = 0x31 then do
    let (len, bs) ← readVint bs
    if bs.length < len then .error .illframe
    else .ok (.datagram (bs.take len), bs.drop len)
  else if frameType = 0x30 then .ok (.datagram bs, [])
  else .error .illframe

/-! ## Dispatch -/

/-- The dispatch of `rqc_process_frames` on the frame type. -/
def parseFrame (ackDelayExponent : ℕ) : Bytes → Except Errno (Frame × Bytes)
  | [] => .error .vintread
  | b :: bs =>
    match vintRead (b :: bs) with
    | none => .error .vintread
    | some (frameType, _) =>
      match frameType with
      | 0x00 => parsePaddingFrame bs
      | 0x01 => .ok (.ping, bs)
      | 0x02 | 0x03 => parseAckFrame ackDelayExponent (b :: bs)
      | 0x04 => parseResetStreamFrame bs
      | 0x05 => parseStopSendingFrame bs
      | 0x06 => parseHandshakeFrame bs
      | 0x08 | 0x09 | 0x0a | 0x0b | 0x0c | 0x0d | 0x0e | 0x0f => parseStreamFrame b bs
      | 0x10 => parseMaxDataFrame bs
      | 0x11 => parseMaxStreamDataFrame bs
      | 0x12 | 0x13 => parseMaxStreamsFrame b bs
      | 0x14 => parseDataBlockedFrame bs
      | 0x15 => parseStreamDataBlockedFrame bs
      | 0x16 | 0x17 => parseStreamsBlockedFrame b bs
      | 0x1a => parsePathFrame .pathChallenge bs
      | 0x1b => parsePathFrame .pathResponse bs
      | 0x1c | 0x1d => parseConnCloseFrame b bs
      | 0x30 | 0x31 => parseDatagramFrame (b :: bs)
      | _ => .error .ignorePkt

/-- The frames of a packet payload. -/
def parseFrames (ackDelayExponent : ℕ) (bs : Bytes) : Except Errno (List Frame) :=
  decodeAll (parseFrame ackDelayExponent) .sys bs.length bs

end Rquic

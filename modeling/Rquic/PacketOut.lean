import Rquic.Frame.Gen

set_option autoImplicit false

/-!
# Outgoing packets

The packet buffer (`rqc_packet_out_t`) and the functions that write frames into it.

* `PacketOut`: a packet with its bytes, flags and stream-frame slots. `poBuf` holds the used bytes,
  header included, so `po_used_size` is its length.
* `genStreamFrame`: `rqc_gen_stream_frame`, with the in-place extension of the previous frame.
* `genControlFrame`: the other `rqc_gen_*_frame`, one definition with the frame as its argument.
* `genAckFrame`, `writeAckToOnePacket`: an ACK frame attached to a packet.
* `PacketOut.copy`, `PacketOut.removeAckFrame`: what a retransmission does to a packet.

The generators return the packet with the new bytes in it; the source leaves it to the caller to
add the returned length to `po_used_size`, which every caller does.
-/

namespace Rquic

/-! ## The packet -/

/-- `RQC_ACK_SPACE`. -/
def ackSpace : ℕ := 16

/-- `RQC_MAX_STREAM_FRAME_IN_PO`. -/
def maxStreamFrameInPo : ℕ := 3

inductive PktType where
  | init | shortHeader
  deriving DecidableEq, Repr

/-- `rqc_po_stream_frame_t`, a slot that is in use. -/
structure PoStreamFrame where
  psStreamId : StreamId
  psOffset : ℕ := 0
  psLength : ℕ := 0
  psTypeOffset : ℕ := 0
  psLengthOffset : ℕ := 0
  psHasFin : Bool := false
  psIsReset : Bool := false
  deriving DecidableEq, Repr

/-- The handle of a packet in the send queue. -/
abbrev PktId := ℕ

/-- `rqc_packet_out_t`. The flags are those of `po_flag`; `poStreamFrames` holds the slots below
`po_stream_frames_idx`. -/
structure PacketOut where
  pktType : PktType := .shortHeader
  pktNum : ℕ := 0
  poBuf : Bytes := []
  poPayload : ℕ := 0
  poBufSize : ℕ := 0
  poCcSize : ℕ := 0
  poAckOffset : ℕ := 0
  poLargestAck : ℕ := 0
  poSentTime : ℕ := 0
  poFrameTypes : Finset FrameType := ∅
  poStreamFrames : List PoStreamFrame := []
  poOrigin : Option PktId := none
  poOriginRefCnt : ℕ := 0
  poAcked : Bool := false
  inFlight : Bool := false
  lost : Bool := false
  tlp : Bool := false
  streamUnack : Bool := false
  retransed : Bool := false
  notify : Bool := false
  resend : Bool := false
  inPathBufList : Bool := false
  inUnackList : Bool := false
  spuriousLoss : Bool := false
  streamNoLen : Bool := false
  deriving DecidableEq

/-- The payload bytes of a packet. -/
def PacketOut.payload (po : PacketOut) : Bytes := po.poBuf.drop po.poPayload

/-- `rqc_get_po_remained_size`. -/
def PacketOut.remainedSize (po : PacketOut) : ℕ :=
  if po.poBufSize ≤ po.poBuf.length then 0 else po.poBufSize - po.poBuf.length

/-- `rqc_get_po_remained_size_with_ack_spc`. -/
def PacketOut.remainedSizeWithAckSpc (po : PacketOut) : ℕ :=
  if po.poBufSize + ackSpace ≤ po.poBuf.length then 0
  else po.poBufSize + ackSpace - po.poBuf.length

/-- A new packet as `rqc_write_new_packet` leaves it: zeroed, with its header written. -/
def writeNewPacket (pktType : PktType) (pktOutSize : ℕ) (header : Bytes) : PacketOut :=
  { pktType := pktType, poBuf := header, poPayload := header.length, poBufSize := pktOutSize }

/-! ## STREAM frames -/

/-- The slot that `rqc_gen_stream_frame` extends: the last one, if the packet holds nothing but
STREAM frames, the slot is of this stream and ends at the offset, and its two-byte length field is
present. -/
def combineSlot (po : PacketOut) (streamId offset : ℕ) : Option PoStreamFrame :=
  match po.poStreamFrames.getLast? with
  | none => none
  | some prev =>
    if po.poFrameTypes = {.stream} ∧ prev.psStreamId = streamId
        ∧ prev.psOffset + prev.psLength = offset ∧ 0 < prev.psLengthOffset
        ∧ (po.poBuf.getD prev.psLengthOffset 0) &&& 0xC0 = 0x40 then some prev
    else none

/-- Bytes written over the buffer from `pos` on. -/
def overwrite (buf : Bytes) (pos : ℕ) (bs : Bytes) : Bytes :=
  buf.take pos ++ bs ++ buf.drop (pos + bs.length)

/-- `rqc_gen_stream_frame` where it extends the previous frame. -/
def combineStreamFrame (po : PacketOut) (prev : PoStreamFrame) (fin : Bool) (payload : Bytes) :
    PacketOut × ℕ :=
  let finOnly := fin && payload.isEmpty
  let appendSize := if finOnly then 0 else min payload.length po.remainedSize
  let fin := fin && (finOnly || appendSize = payload.length)
  let buf :=
    if finOnly then po.poBuf
    else overwrite po.poBuf prev.psLengthOffset (vintWrite (prev.psLength + appendSize) 1 2)
      ++ payload.take appendSize
  let buf := if fin then buf.modify prev.psTypeOffset (· ||| 0x01) else buf
  let slot := { prev with
    psLength := prev.psLength + appendSize, psHasFin := if fin then true else prev.psHasFin }
  ({ po with poBuf := buf, poStreamFrames := po.poStreamFrames.dropLast ++ [slot] }, appendSize)

/-- `rqc_gen_stream_frame` where it starts a new frame. -/
def newStreamFrame (po : PacketOut) (streamId offset : ℕ) (fin : Bool) (payload : Bytes) :
    Except Errno (PacketOut × ℕ) :=
  let ids := streamFrameIds streamId offset
  let room := po.remainedSize
  if fin && payload.isEmpty then
    -- fin only: a one-byte length field if there is room for it
    let hasLength := decide (1 + ids.length < room)
    if room < 1 + ids.length + (if hasLength then 1 else 0) then .error .nobuf
    else
      let slot : PoStreamFrame :=
        { psStreamId := streamId, psOffset := offset, psTypeOffset := po.poBuf.length
          psHasFin := fin }
      .ok ({ po with
        poBuf := po.poBuf ++ finCode streamId offset hasLength fin
        poStreamFrames := po.poStreamFrames ++ [slot]
        poFrameTypes := insert .stream po.poFrameTypes
        streamNoLen := po.streamNoLen || !hasLength }, 0)
  else
    let avail := room - (1 + ids.length)
    if (payload.length ≤ avail ∧ avail ≤ 2) ∨ (avail < payload.length ∧ avail < 2) then
      .error .nobuf
    else
      let size := min payload.length (avail - 2)
      let fin := fin && size = payload.length
      let slot : PoStreamFrame :=
        { psStreamId := streamId, psOffset := offset, psLength := size
          psTypeOffset := po.poBuf.length, psLengthOffset := po.poBuf.length + 1 + ids.length
          psHasFin := fin }
      .ok ({ po with
        poBuf := po.poBuf ++ streamCode streamId offset fin (payload.take size)
        poStreamFrames := po.poStreamFrames ++ [slot]
        poFrameTypes := insert .stream po.poFrameTypes }, size)

/-- `rqc_gen_stream_frame`: the packet with the frame, and the number of payload bytes in it. -/
def genStreamFrame (po : PacketOut) (streamId offset : ℕ) (fin : Bool) (payload : Bytes) :
    Except Errno (PacketOut × ℕ) :=
  if maxStreamFrameInPo ≤ po.poStreamFrames.length then .error .limit
  else
    match combineSlot po streamId offset with
    | some prev => .ok (combineStreamFrame po prev fin payload)
    | none => newStreamFrame po streamId offset fin payload

/-! ## Control frames -/

/-- The other `rqc_gen_*_frame`. -/
def genControlFrame (po : PacketOut) (c : ControlFrame) : Except Errno PacketOut :=
  if po.remainedSize < c.need then .error .nobuf
  else .ok { po with
    poBuf := po.poBuf ++ c.code, poFrameTypes := insert c.frame.type po.poFrameTypes }

/-! ## ACK frames -/

/-- `rqc_gen_ack_frame`, with the largest packet number of the frame. The ranges of the receive
record stand from the largest packet number down. -/
def genAckFrame (po : PacketOut) (ackDelay ackDelayExponent : ℕ) :
    List PktnoRange → Except Errno (PacketOut × ℕ)
  | [] => .error .nullptr
  | first :: rs =>
    let code := ackCode (ackDelay / 2 ^ ackDelayExponent) first rs
    if po.remainedSizeWithAckSpc < code.length then .error .nobuf
    else .ok ({ po with
      poBuf := po.poBuf ++ code, poFrameTypes := insert .ack po.poFrameTypes }, first.high)

/-- `rqc_write_ack_to_one_packet`. -/
def writeAckToOnePacket (po : PacketOut) (ackDelay ackDelayExponent : ℕ)
    (record : List PktnoRange) : Except Errno PacketOut := do
  let (po', largestAck) ← genAckFrame po ackDelay ackDelayExponent record
  .ok { po' with poAckOffset := po.poBuf.length, poLargestAck := largestAck }

/-- `rqc_packet_out_can_attach_ack`. -/
def PacketOut.canAttachAck (po : PacketOut) (pktType : PktType) : Bool :=
  po.pktType = pktType && .ack ∉ po.poFrameTypes && !po.streamNoLen

/-! ## Retransmission -/

/-- `rqc_packet_out_remove_ack_frame`. -/
def PacketOut.removeAckFrame (po : PacketOut) : PacketOut :=
  if .ack ∈ po.poFrameTypes then
    { po with
      poBuf := po.poBuf.take po.poAckOffset, poFrameTypes := po.poFrameTypes.erase .ack }
  else po

/-- `rqc_packet_out_copy`, of the packet `src` with the handle `srcId`. The reference count of the
origin is the caller's part. -/
def PacketOut.copy (src : PacketOut) (srcId : PktId) : PacketOut :=
  { src with
    poOriginRefCnt := 0
    poOrigin := some (src.poOrigin.getD srcId)
    inUnackList := false
    inPathBufList := false }

/-- The packet that `rqc_send_queue_copy_to_lost` and `rqc_send_queue_copy_to_probe` put into their
list. Nothing is copied of a packet with a DATAGRAM frame. -/
def PacketOut.retransmission (src : PacketOut) (srcId : PktId) : Option PacketOut :=
  if .datagram ∈ src.poFrameTypes then none
  else some { (src.copy srcId).removeAckFrame with retransed := false, spuriousLoss := false }

end Rquic

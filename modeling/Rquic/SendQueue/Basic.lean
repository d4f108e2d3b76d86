import Mathlib.Logic.Function.Basic
import Rquic.PacketContent
import Rquic.RecvRecord

set_option autoImplicit false

/-!
# The send queue

The packets of a connection and the lists they stand in (`rqc_send_queue_t` and the
`path_schedule_buf` of the path), with the packet-number space and the functions that write frames.

* `Place`: the lists. A packet is taken out of whatever list it is in (`unlink`) and appended to
  another (`pushTail`).
* `SendQueue`: the packets by handle, the lists, the fields of `rqc_send_ctl_t` and `rqc_pn_ctl_t`
  that acknowledgements read, and the packets given to the socket.
* `writeControlFrame`, `writeStreamFrame`, `writeAckToPackets`: the `rqc_write_*_to_packet(s)`.

Handles are not used again: a packet that the source puts into `sndq_free_packets` is in no list
here.
-/

namespace Rquic

/-! ## State -/

/-- `rqc_send_type_t`. -/
inductive SendType where
  | normal | normalHighPri | retrans | ptoProbe
  deriving DecidableEq, Repr

/-- The lists a packet can stand in. -/
inductive Place where
  | sendPackets | sendPacketsHighPri | unackedPackets | lostPackets | buff1rttPackets
  | ptoProbePackets
  | scheduleBuf (sendType : SendType)
  deriving DecidableEq, Repr

/-- A packet as the socket got it: its number and its payload. -/
structure WirePacket where
  pktNum : ℕ
  payload : Bytes
  deriving DecidableEq, Repr

/-- The send queue with the packet-number space. -/
structure SendQueue where
  pkts : PktId → PacketOut := fun _ => {}
  nextId : PktId := 0
  lists : Place → List PktId := fun _ => []
  /-- `ctl_largest_acked`; nothing stands for `RQC_MAX_UINT64_VALUE`. -/
  largestAcked : Option ℕ := none
  /-- `ctl_packet_number`, the next packet number. -/
  packetNumber : ℕ := 0
  largestSent : ℕ := 0
  largestAckedAck : ℕ := 0
  ackSentRecord : AckSentRecord := {}
  recvRecord : RecvRecord := {}
  /-- What was given to the socket, the first packet first. -/
  wire : List WirePacket := []

/-- What `rqc_write_new_packet` takes from the connection. -/
structure PktParams where
  pktType : PktType := .shortHeader
  pktOutSize : {n : ℕ // n ≤ maxPacketOutSize}
  header : Bytes

namespace SendQueue

/-- The packet `id` is replaced. -/
def set (s : SendQueue) (id : PktId) (po : PacketOut) : SendQueue :=
  { s with pkts := Function.update s.pkts id po }

/-- The packet `id` is changed. -/
def modify (s : SendQueue) (id : PktId) (f : PacketOut → PacketOut) : SendQueue :=
  s.set id (f (s.pkts id))

/-- `rqc_list_del_init`: the packet leaves the list it is in. -/
def unlink (s : SendQueue) (id : PktId) : SendQueue :=
  { s with lists := fun p => (s.lists p).filter (· ≠ id) }

/-- `rqc_list_add_tail`. -/
def pushTail (s : SendQueue) (p : Place) (id : PktId) : SendQueue :=
  { s with lists := Function.update s.lists p (s.lists p ++ [id]) }

/-- A new packet, at the tail of a list. -/
def insertNew (s : SendQueue) (p : Place) (po : PacketOut) : SendQueue :=
  { s with
    pkts := Function.update s.pkts s.nextId po
    nextId := s.nextId + 1
    lists := Function.update s.lists p (s.lists p ++ [s.nextId]) }

@[simp] theorem set_pkts_self (s : SendQueue) (id : PktId) (po : PacketOut) :
    (s.set id po).pkts id = po := Function.update_self ..

theorem set_pkts_of_ne (s : SendQueue) {id id' : PktId} (po : PacketOut) (h : id' ≠ id) :
    (s.set id po).pkts id' = s.pkts id' := Function.update_of_ne h ..

@[simp] theorem modify_nextId (s : SendQueue) (id : PktId) (f : PacketOut → PacketOut) :
    (s.modify id f).nextId = s.nextId := rfl

@[simp] theorem modify_lists (s : SendQueue) (id : PktId) (f : PacketOut → PacketOut) :
    (s.modify id f).lists = s.lists := rfl

@[simp] theorem modify_wire (s : SendQueue) (id : PktId) (f : PacketOut → PacketOut) :
    (s.modify id f).wire = s.wire := rfl

@[simp] theorem modify_pkts_self (s : SendQueue) (id : PktId) (f : PacketOut → PacketOut) :
    (s.modify id f).pkts id = f (s.pkts id) := Function.update_self ..

theorem modify_pkts_of_ne (s : SendQueue) {id id' : PktId} (f : PacketOut → PacketOut)
    (h : id' ≠ id) : (s.modify id f).pkts id' = s.pkts id' := Function.update_of_ne h ..

@[simp] theorem unlink_pkts (s : SendQueue) (id : PktId) : (s.unlink id).pkts = s.pkts := rfl

@[simp] theorem unlink_nextId (s : SendQueue) (id : PktId) : (s.unlink id).nextId = s.nextId := rfl

@[simp] theorem unlink_lists (s : SendQueue) (id : PktId) (p : Place) :
    (s.unlink id).lists p = (s.lists p).filter (· ≠ id) := rfl

@[simp] theorem pushTail_pkts (s : SendQueue) (p : Place) (id : PktId) :
    (s.pushTail p id).pkts = s.pkts := rfl

@[simp] theorem pushTail_nextId (s : SendQueue) (p : Place) (id : PktId) :
    (s.pushTail p id).nextId = s.nextId := rfl

theorem pushTail_lists_of_ne (s : SendQueue) {p q : Place} (id : PktId) (h : q ≠ p) :
    (s.pushTail p id).lists q = s.lists q := Function.update_of_ne h ..

theorem mem_pushTail {s : SendQueue} {p q : Place} {id id' : PktId} :
    id' ∈ (s.pushTail p id).lists q ↔ id' ∈ s.lists q ∨ (q = p ∧ id' = id) := by
  unfold pushTail
  by_cases h : q = p
  · subst h
    simp
  · simp [h]

@[simp] theorem insertNew_nextId (s : SendQueue) (p : Place) (po : PacketOut) :
    (s.insertNew p po).nextId = s.nextId + 1 := rfl

@[simp] theorem insertNew_pkts_nextId (s : SendQueue) (p : Place) (po : PacketOut) :
    (s.insertNew p po).pkts s.nextId = po := Function.update_self ..

theorem insertNew_pkts_of_ne (s : SendQueue) (p : Place) (po : PacketOut) {id : PktId}
    (h : id ≠ s.nextId) : (s.insertNew p po).pkts id = s.pkts id := Function.update_of_ne h ..

theorem mem_insertNew {s : SendQueue} {p q : Place} {id : PktId} (po : PacketOut) :
    id ∈ (s.insertNew p po).lists q ↔ id ∈ s.lists q ∨ (q = p ∧ id = s.nextId) :=
  mem_pushTail

end SendQueue

/-! ## Writing frames -/

/-- `rqc_write_new_packet`, before the packet is inserted. -/
def PktParams.newPacket (params : PktParams) : Except Errno PacketOut :=
  if params.pktOutSize.1 < params.header.length then .error .writePkt
  else .ok (writeNewPacket params.pktType params.pktOutSize.1 params.header)

/-- The stream-frame slot that `rqc_write_reset_stream_to_packet` fills. -/
def ControlFrame.slots : ControlFrame → List PoStreamFrame
  | .resetStream streamId _ _ => [{ psStreamId := streamId, psIsReset := true }]
  | _ => []

/-- The list that the `rqc_write_*_to_packet` of a control frame leaves its packet in. RESET_STREAM
and STOP_SENDING are buffered until the handshake is done. -/
def ControlFrame.place (handshakeDone : Bool) : ControlFrame → Place
  | .resetStream .. | .stopSending .. =>
    if handshakeDone then .sendPackets else .buff1rttPackets
  | .handshake .. | .datagram _ => .sendPackets
  | _ => .sendPacketsHighPri

/-- The packet of a control frame. `notify` is the flag of a user PING; `bufSize` is the budget that
`rqc_datagram_submit` sets. -/
def controlPacket (params : PktParams) (c : ControlFrame) (notify : Bool) (bufSize : ℕ) :
    Except Errno PacketOut := do
  let po ← params.newPacket
  let po ← genControlFrame po c
  let bufSize := match c with
    | .datagram _ => min po.poBufSize bufSize
    | _ => po.poBufSize
  .ok { po with poStreamFrames := c.slots, notify := notify, poBufSize := bufSize }

/-- The `rqc_write_*_to_packet` of the control frames. Where the generator fails the empty packet is
recycled. -/
def writeControlFrame (s : SendQueue) (params : PktParams) (c : ControlFrame) (notify : Bool)
    (bufSize : ℕ) (handshakeDone : Bool) : SendQueue :=
  match controlPacket params c notify bufSize with
  | .error _ => s
  | .ok po => s.insertNew (c.place handshakeDone) po

/-- The list that STREAM frames of a stream are written to. -/
def streamPlace (highPri : Bool) : Place := if highPri then .sendPacketsHighPri else .sendPackets

/-- `rqc_send_queue_get_packet_out_for_stream`: the last packet, if it can take the frame. -/
def getPacketOutForStream (s : SendQueue) (highPri : Bool) (pktType : PktType)
    (streamId : StreamId) : Option PktId :=
  match (s.lists (streamPlace highPri)).getLast? with
  | none => none
  | some id =>
    let po := s.pkts id
    if po.pktType = pktType ∧ .datagram ∉ po.poFrameTypes ∧ streamNeed ≤ po.remainedSize
        ∧ po.poStreamFrames.length < maxStreamFrameInPo
        ∧ po.poStreamFrames.getLast?.map PoStreamFrame.psStreamId = some streamId then some id
    else none

/-- The queue part of `rqc_write_stream_frame_to_packet`, with the number of bytes written. -/
def writeStreamFrame (s : SendQueue) (highPri : Bool) (params : PktParams)
    (streamId offset : ℕ) (fin : Bool) (payload : Bytes) : Except Errno (SendQueue × ℕ) :=
  match getPacketOutForStream s highPri params.pktType streamId with
  | some id => do
    let (po, n) ← genStreamFrame (s.pkts id) streamId offset fin payload
    .ok (s.set id po, n)
  | none => do
    let po ← params.newPacket
    let (po, n) ← genStreamFrame po streamId offset fin payload
    .ok (s.insertNew (streamPlace highPri) po, n)

/-- `rqc_write_ack_to_packets` where it needs a packet of its own. -/
def writeAckToNewPacket (s : SendQueue) (params : PktParams) (ackDelay ackDelayExponent : ℕ) :
    SendQueue :=
  match params.newPacket with
  | .error _ => s
  | .ok po =>
    match writeAckToOnePacket po ackDelay ackDelayExponent s.recvRecord.ranges with
    | .error _ => s
    | .ok po => s.insertNew .sendPacketsHighPri po

/-- The packet that `rqc_write_ack_to_packets` looks at: the first one scheduled, else the first one
in the send queue. -/
def ackTarget (s : SendQueue) : Option PktId :=
  match s.lists (.scheduleBuf .normal) with
  | id :: _ => some id
  | [] => (s.lists .sendPackets).head?

/-- `rqc_write_ack_to_packets`. -/
def writeAckToPackets (s : SendQueue) (params : PktParams) (ackDelay ackDelayExponent : ℕ) :
    SendQueue :=
  if s.recvRecord.ranges = [] then s
  else
    match ackTarget s with
    | none => writeAckToNewPacket s params ackDelay ackDelayExponent
    | some id =>
      if (s.pkts id).canAttachAck params.pktType then
        match writeAckToOnePacket (s.pkts id) ackDelay ackDelayExponent s.recvRecord.ranges with
        | .ok po => s.set id po
        | .error .nobuf => writeAckToNewPacket s params ackDelay ackDelayExponent
        | .error _ => s
      else writeAckToNewPacket s params ackDelay ackDelayExponent

end Rquic

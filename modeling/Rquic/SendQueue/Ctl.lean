import Rquic.SendQueue.Basic

set_option autoImplicit false

/-!
# The send control

What happens to packets once they are written: scheduling, sending, acknowledgement, loss
detection, probes and the dropping of a stream (`rqc_send_ctl.c`, `rqc_send_queue.c`, and the
sending part of `rqc_conn.c`).

* `schedulePacket`, `sendPacket`: from the queue to the path buffer, from there to the socket.
* `onAckReceived`: the walk over the unacknowledged packets, loss detection, and the argument of
  `rqc_recv_record_del` where it is called.
* `detectLost`, `sendOneOrTwoAckElicitPkts`: lost packets and probes are copied.
* `dropStreamFramePackets`: the packets of a closed stream.

The thresholds of loss detection, the congestion window and the answers of the socket are arguments.
-/

namespace Rquic

/-! ## Marks -/

namespace PacketOut

/-- `rqc_send_ctl_increase_inflight`, the flag. -/
def increaseInflight (po : PacketOut) : PacketOut :=
  if po.inFlight = false ∧ canInFlight po.poFrameTypes ∧ isAckEliciting po.poFrameTypes then
    { po with inFlight := true }
  else po

/-- `rqc_send_ctl_decrease_inflight`, the flag. -/
def decreaseInflight (po : PacketOut) : PacketOut :=
  if po.inFlight = true ∧ isAckEliciting po.poFrameTypes then { po with inFlight := false } else po

/-- `rqc_conn_increase_unacked_stream_ref`, the flag. -/
def increaseUnackedStreamRef (po : PacketOut) : PacketOut :=
  if .stream ∈ po.poFrameTypes then { po with streamUnack := true } else po

/-- `rqc_send_ctl_on_packet_sent`, the flags. -/
def onSent (po : PacketOut) : PacketOut :=
  if canInFlight po.poFrameTypes then
    { (if po.inFlight then po else po.increaseInflight.increaseUnackedStreamRef) with
      lost := false, tlp := false }
  else po

/-- `rqc_send_ctl_on_packet_acked`, the flags of the packet. -/
def onAcked (po : PacketOut) : PacketOut :=
  { po.decreaseInflight with streamUnack := false, poAcked := true }

def markAcked (po : PacketOut) : PacketOut := { po with poAcked := true }

def markLost (po : PacketOut) : PacketOut := { po with lost := true }

def markTlp (po : PacketOut) : PacketOut := { po with tlp := true }

def markRetransed (po : PacketOut) : PacketOut := { po with retransed := true }

/-- A packet that was declared lost is acknowledged. -/
def markSpuriousLoss (po : PacketOut) : PacketOut :=
  if po.spuriousLoss = false ∧ po.retransed = true then { po with spuriousLoss := true } else po

/-- One more copy refers to the packet. -/
def retain (po : PacketOut) : PacketOut := { po with poOriginRefCnt := po.poOriginRefCnt + 1 }

/-- One copy less refers to the packet. -/
def release (po : PacketOut) : PacketOut := { po with poOriginRefCnt := po.poOriginRefCnt - 1 }

def enterUnackList (po : PacketOut) : PacketOut := { po with inUnackList := true }

def leaveUnackList (po : PacketOut) : PacketOut := { po with inUnackList := false }

/-- `rqc_path_send_buffer_append`, the flag and the size. -/
def enterPathBuf (po : PacketOut) : PacketOut :=
  if po.inPathBufList then po else { po with inPathBufList := true, poCcSize := po.poBuf.length }

def leavePathBuf (po : PacketOut) : PacketOut := { po with inPathBufList := false }

/-- The packet number and the time of sending. -/
def number (pktNum now : ℕ) (po : PacketOut) : PacketOut :=
  { po with pktNum := pktNum, poSentTime := now }

end PacketOut

/-! ## Leaving the queue -/

/-- `rqc_send_queue_remove_unacked`. -/
def removeUnacked (s : SendQueue) (id : PktId) : SendQueue :=
  (s.unlink id).modify id PacketOut.leaveUnackList

/-- `rqc_path_send_buffer_remove`. -/
def pathSendBufferRemove (s : SendQueue) (id : PktId) : SendQueue :=
  (s.unlink id).modify id PacketOut.leavePathBuf

/-- The origin of an acknowledged copy loses a reference, and is freed with the last one. -/
def releaseOrigin (s : SendQueue) (origin : PktId) : SendQueue :=
  if (s.pkts origin).poOriginRefCnt = 1 then
    removeUnacked ((s.modify origin PacketOut.release).modify origin PacketOut.decreaseInflight)
      origin
  else s.modify origin PacketOut.release

/-- The packet leaves its list in `rqc_send_queue_maybe_remove_unacked`. -/
def leaveList (s : SendQueue) (id : PktId) (path : Bool) : SendQueue :=
  if path = true ∧ (s.pkts id).inPathBufList = true then pathSendBufferRemove s id
  else removeUnacked s id

/-- `rqc_send_queue_maybe_remove_unacked`; `path` is whether a path is passed. An origin stays as
long as some copy refers to it. -/
def maybeRemoveUnacked (s : SendQueue) (id : PktId) (path : Bool) : SendQueue :=
  match (s.pkts id).poOrigin with
  | none => if (s.pkts id).poOriginRefCnt ≠ 0 then s else leaveList s id path
  | some origin => releaseOrigin (leaveList s id path) origin

/-- `rqc_send_ctl_on_packet_acked`. -/
def onPacketAcked (s : SendQueue) (id : PktId) : SendQueue :=
  match (s.pkts id).poOrigin with
  | none => s.modify id PacketOut.onAcked
  | some origin => (s.modify id PacketOut.onAcked).modify origin PacketOut.markAcked

/-- Whether the origin of the packet is acknowledged. -/
def originAcked (s : SendQueue) (id : PktId) : Bool :=
  match (s.pkts id).poOrigin with
  | none => false
  | some origin => (s.pkts origin).poAcked

/-- `rqc_send_ctl_indirectly_ack_or_drop_po`: nothing if neither the packet nor its origin is
acknowledged. -/
def indirectlyAckOrDropPo (s : SendQueue) (id : PktId) : Option SendQueue :=
  if (s.pkts id).poAcked ∨ originAcked s id then
    some (maybeRemoveUnacked (if originAcked s id then onPacketAcked s id else s) id true)
  else none

/-! ## Scheduling and sending -/

/-- The list that a path buffer is filled from. -/
def SendType.source : SendType → Place
  | .normal => .sendPackets
  | .normalHighPri => .sendPacketsHighPri
  | .retrans => .lostPackets
  | .ptoProbe => .ptoProbePackets

/-- One round of `rqc_conn_schedule_packets`: the first packet goes to the path buffer. -/
def schedulePacket (s : SendQueue) (t : SendType) : SendQueue :=
  match s.lists t.source with
  | [] => s
  | id :: _ => ((s.unlink id).pushTail (.scheduleBuf t) id).modify id PacketOut.enterPathBuf

/-- `rqc_path_send_buffer_clear`: the packets of a path buffer go back to the head of their list. -/
def pathSendBufferClear (s : SendQueue) (t : SendType) : SendQueue :=
  { s with
    lists := Function.update (Function.update s.lists (.scheduleBuf t) [])
      t.source (s.lists (.scheduleBuf t) ++ s.lists t.source)
    pkts := fun id =>
      if id ∈ s.lists (.scheduleBuf t) then (s.pkts id).leavePathBuf else s.pkts id }

/-- `rqc_send_ctl_set_next_pn_for_packet`, with the time of sending. -/
def setNextPn (s : SendQueue) (id : PktId) (now : ℕ) : SendQueue :=
  { s.modify id (PacketOut.number s.packetNumber now) with packetNumber := s.packetNumber + 1 }

/-- `rqc_send`: the socket takes the packet. -/
def writeSocket (s : SendQueue) (id : PktId) : SendQueue :=
  { s with wire := s.wire ++ [⟨(s.pkts id).pktNum, (s.pkts id).payload⟩] }

/-- `rqc_send_ctl_on_packet_sent`. -/
def onPacketSent (s : SendQueue) (id : PktId) (srtt now : ℕ) : SendQueue :=
  { s.modify id PacketOut.onSent with
    largestSent := max s.largestSent (s.pkts id).pktNum
    ackSentRecord :=
      if 0 < (s.pkts id).poLargestAck then
        ackSentRecordAdd s.ackSentRecord ⟨(s.pkts id).pktNum, (s.pkts id).poLargestAck⟩ srtt now
      else s.ackSentRecord }

/-- `rqc_send_queue_insert_unacked` of a packet that asks for an acknowledgement; others are freed. -/
def insertUnacked (s : SendQueue) (id : PktId) : SendQueue :=
  if isAckEliciting (s.pkts id).poFrameTypes then
    (s.pushTail .unackedPackets id).modify id PacketOut.enterUnackList
  else s

/-- The packet leaves through the socket and waits for its acknowledgement. -/
def transmit (s : SendQueue) (id : PktId) (srtt now : ℕ) : SendQueue :=
  insertUnacked (pathSendBufferRemove
    (onPacketSent (writeSocket (setNextPn s id now) id) id srtt now) id) id

/-- What becomes of one packet in `rqc_path_send_packets`: the congestion window or the pacer holds
it back, the socket does not take it, or it is sent. -/
inductive SendOutcome where
  | blocked | again | sent
  deriving DecidableEq, Repr

/-- A retransmission is marked as lost before it is sent. -/
def markRetrans (s : SendQueue) (t : SendType) (id : PktId) : SendQueue :=
  if t = .retrans then s.modify id PacketOut.markLost else s

/-- One round of the loop of `rqc_path_send_packets`, on the first packet of a path buffer. -/
def sendPacket (s : SendQueue) (t : SendType) (outcome : SendOutcome) (srtt now : ℕ) : SendQueue :=
  match s.lists (.scheduleBuf t) with
  | [] => s
  | id :: _ =>
    match indirectlyAckOrDropPo s id with
    | some s => s
    | none =>
      match outcome with
      | .blocked => markRetrans s t id
      | .again => setNextPn (markRetrans s t id) id now
      | .sent => transmit (markRetrans s t id) id srtt now

/-- The packets that `rqc_path_send_burst_packets` numbered and the socket did not take. -/
def numberUnsent (s : SendQueue) (t : SendType) (n now : ℕ) : SendQueue :=
  ((s.lists (.scheduleBuf t)).take n).foldl (fun s id => setNextPn s id now) s

/-- `rqc_conn_send_path_challenge`: the packet is sent at once and freed. -/
def sendPathChallenge (s : SendQueue) (params : PktParams) (data : Bytes) (now : ℕ) : SendQueue :=
  match controlPacket params (.pathChallenge data) false 0 with
  | .error _ => s
  | .ok po =>
    (writeSocket (setNextPn (s.insertNew .sendPackets po) s.nextId now) s.nextId).unlink s.nextId

/-- `rqc_conn_buff_1rtt_packets`. -/
def buff1rttPackets (s : SendQueue) : SendQueue :=
  { s with
    lists := Function.update
      (Function.update s.lists .sendPackets
        ((s.lists .sendPackets).filter fun id => (s.pkts id).pktType ≠ .shortHeader))
      .buff1rttPackets (s.lists .buff1rttPackets ++
        (s.lists .sendPackets).filter fun id => (s.pkts id).pktType = .shortHeader) }

/-- `rqc_conn_write_buffed_1rtt_packets`. -/
def writeBuffed1rttPackets (s : SendQueue) : SendQueue :=
  { s with
    lists := Function.update (Function.update s.lists .buff1rttPackets [])
      .sendPackets (s.lists .sendPackets ++ s.lists .buff1rttPackets) }

/-! ## Copies -/

/-- `rqc_send_queue_copy_to_lost` and `rqc_send_queue_copy_to_probe`: a copy at the tail of a list,
one more reference to the origin, and the source marked. -/
def copyTo (s : SendQueue) (p : Place) (src : PktId) : SendQueue :=
  match (s.pkts src).retransmission src with
  | none => s
  | some copy =>
    ((s.modify ((s.pkts src).poOrigin.getD src) PacketOut.retain).insertNew p copy).modify src
      PacketOut.markRetransed

/-- `rqc_send_queue_copy_to_lost`. -/
def copyToLost (s : SendQueue) (src : PktId) : SendQueue := copyTo s .lostPackets src

/-- `rqc_send_queue_copy_to_probe`. -/
def copyToProbe (s : SendQueue) (src : PktId) : SendQueue := copyTo s .ptoProbePackets src

/-! ## Loss detection -/

/-- What `rqc_send_ctl_detect_lost` compares with: packets sent up to `lostSendTime` or numbered up to
`lostPn` are lost. -/
structure LossThresholds where
  lostSendTime : ℕ
  lostPn : Option ℕ
  deriving DecidableEq, Repr

/-- A packet is deemed lost. -/
def LossThresholds.deems (th : LossThresholds) (po : PacketOut) : Bool :=
  po.poSentTime ≤ th.lostSendTime || match th.lostPn with
    | none => false
    | some pn => po.pktNum ≤ pn

/-- A packet deemed lost: what needs repair is copied, the rest is freed. -/
def onPacketLost (s : SendQueue) (id : PktId) : SendQueue :=
  if (s.pkts id).inFlight then
    if needRepair (s.pkts id).poFrameTypes ∨ (s.pkts id).notify then
      copyToLost (s.modify id PacketOut.decreaseInflight) id
    else removeUnacked (s.modify id PacketOut.decreaseInflight) id
  else s

/-- The loop of `rqc_send_ctl_detect_lost`. -/
def detectLostWalk (largestAcked : ℕ) (th : LossThresholds) : List PktId → SendQueue → SendQueue
  | [], s => s
  | id :: ids, s =>
    match indirectlyAckOrDropPo s id with
    | some s => detectLostWalk largestAcked th ids s
    | none =>
      if largestAcked < (s.pkts id).pktNum then s
      else if th.deems (s.pkts id) then
        detectLostWalk largestAcked th ids (onPacketLost s id)
      else detectLostWalk largestAcked th ids s

/-- `rqc_send_ctl_detect_lost`. -/
def detectLost (s : SendQueue) (th : LossThresholds) : SendQueue :=
  match s.largestAcked with
  | none => s
  | some largestAcked => detectLostWalk largestAcked th (s.lists .unackedPackets) s

/-! ## Probes -/

/-- `rqc_conn_send_probe_pkt`. -/
def sendProbePkt (s : SendQueue) (id : PktId) : SendQueue :=
  if .datagram ∈ (s.pkts id).poFrameTypes then s
  else
    (copyToProbe (s.modify id PacketOut.decreaseInflight) id).modify id PacketOut.markTlp

/-- The loop of `rqc_path_send_one_or_two_ack_elicit_pkts`: with the number of probes that are left
and the last packet probed. -/
def probeWalk : ℕ → Option PktId → List PktId → SendQueue → ℕ × Option PktId × SendQueue
  | probeNum, last, [], s => (probeNum, last, s)
  | 0, last, _ :: _, s => (0, last, s)
  | probeNum + 1, last, id :: ids, s =>
    match indirectlyAckOrDropPo s id with
    | some s => probeWalk (probeNum + 1) last ids s
    | none =>
      if isAckEliciting (s.pkts id).poFrameTypes ∧
          (needRepair (s.pkts id).poFrameTypes ∨ (s.pkts id).notify) then
        probeWalk probeNum (some id) ids (sendProbePkt s id)
      else probeWalk (probeNum + 1) last ids s

/-- `rqc_path_send_ping_to_probe`. -/
def sendPingToProbe (s : SendQueue) (params : PktParams) : SendQueue :=
  match controlPacket params .ping false 0 with
  | .error _ => s
  | .ok po => s.insertNew .ptoProbePackets po

/-- `RQC_CONN_PTO_PKT_CNT_MAX`. -/
def ptoPktCntMax : ℕ := 2

/-- `rqc_path_send_one_or_two_ack_elicit_pkts`. -/
def sendOneOrTwoAckElicitPkts (s : SendQueue) (params : PktParams) : SendQueue :=
  match probeWalk ptoPktCntMax none (s.lists .unackedPackets) s with
  | (probeNum, some last, s) => (fun s => sendProbePkt s last)^[probeNum] s
  | (probeNum, none, s) => (fun s => sendPingToProbe s params)^[probeNum] s

/-! ## Acknowledgements -/

/-- The inner loop of `rqc_send_ctl_on_ack_received`: the ranges below the packet number are passed.
The ranges stand from the smallest packet number up. -/
def seekRange (pktNum : ℕ) : List PktnoRange → List PktnoRange
  | r :: r' :: rs => if r.high < pktNum then seekRange pktNum (r' :: rs) else r :: r' :: rs
  | rs => rs

/-- What the walk over the unacknowledged packets carries. -/
structure AckWalk where
  sndq : SendQueue
  hasAcked : Bool := false
  needDelRecord : Bool := false
  err : Option Errno := none

/-- `ctl_largest_acked` and `ctl_largest_acked_ack` after a packet is acknowledged. -/
def raiseLargest (s : SendQueue) (po : PacketOut) : SendQueue :=
  { s with
    largestAcked := match s.largestAcked with
      | none => some po.pktNum
      | some largest => some (max largest po.pktNum)
    largestAckedAck := max s.largestAckedAck po.poLargestAck }

/-- One packet that the ACK frame acknowledges. -/
def AckWalk.ackPacket (w : AckWalk) (id : PktId) : AckWalk :=
  { w with
    sndq := maybeRemoveUnacked (onPacketAcked
      ((raiseLargest w.sndq (w.sndq.pkts id)).modify id PacketOut.markSpuriousLoss) id) id false
    hasAcked := true
    needDelRecord := w.needDelRecord || w.sndq.largestAckedAck < (w.sndq.pkts id).poLargestAck }

/-- The loop of `rqc_send_ctl_on_ack_received`. A packet that was never sent ends it with an error. -/
def ackWalk (frameLargestAck : ℕ) : List PktnoRange → List PktId → AckWalk → AckWalk
  | _, [], w => w
  | ranges, id :: ids, w =>
    let pktNum := (w.sndq.pkts id).pktNum
    if frameLargestAck < pktNum then w
    else if w.sndq.largestSent < pktNum then { w with err := some .proto }
    else
      match seekRange pktNum ranges with
      | [] => w
      | r :: rs =>
        if r.low ≤ pktNum then ackWalk frameLargestAck (r :: rs) ids (w.ackPacket id)
        else ackWalk frameLargestAck (r :: rs) ids w

/-- The sampled ACK frames that the ACK frame covers. -/
def ackSentOnAck (s : SendQueue) (info : AckInfo) : AckWalk :=
  match ackSentRecordOnAck info.ranges s.ackSentRecord.ackSent with
  | none => { sndq := s }
  | some (largestAckedAck, kept) =>
    { sndq := { s with
        ackSentRecord := { s.ackSentRecord with ackSent := kept }
        largestAckedAck := max s.largestAckedAck largestAckedAck }
      needDelRecord := s.largestAckedAck < largestAckedAck }

/-- The first part of `rqc_send_ctl_on_ack_received`: the sampled ACK frames, then the walk. -/
def ackProcess (s : SendQueue) (info : AckInfo) : AckWalk :=
  match info.ranges.head? with
  | none => { sndq := s }
  | some first =>
    ackWalk first.high info.ranges.reverse (s.lists .unackedPackets) (ackSentOnAck s info)

/-- `rqc_send_ctl_on_ack_received`, with the argument of `rqc_recv_record_del` where it is called. -/
def onAckReceived (s : SendQueue) (info : AckInfo) (th : LossThresholds) :
    SendQueue × Option ℕ :=
  let w := ackProcess s info
  if w.err.isSome ∨ w.hasAcked = false then (w.sndq, none)
  else
    let s := detectLost w.sndq th
    if w.needDelRecord then
      ({ s with recvRecord := recvRecordDel s.recvRecord (s.largestAckedAck + 1) },
        some (s.largestAckedAck + 1))
    else (s, none)

/-! ## Dropping a stream -/

/-- `rqc_send_ctl_stream_frame_can_drop`. -/
def streamFrameCanDrop (po : PacketOut) (streamId : StreamId) : Bool :=
  decide (po.poFrameTypes ⊆ {.stream, .ack}) && !po.poStreamFrames.isEmpty &&
    po.poStreamFrames.all (·.psStreamId = streamId)

/-- The lists that `rqc_send_queue_drop_stream_frame_packets` looks through. -/
def Place.dropped : Place → Bool
  | .unackedPackets | .sendPackets | .lostPackets | .ptoProbePackets | .scheduleBuf .normal
  | .scheduleBuf .retrans | .scheduleBuf .ptoProbe => true
  | _ => false

/-- `rqc_send_queue_drop_stream_frame_packets`. -/
def dropStreamFramePackets (s : SendQueue) (streamId : StreamId) : SendQueue :=
  { s with
    lists := fun p =>
      if p.dropped then (s.lists p).filter fun id => ¬ streamFrameCanDrop (s.pkts id) streamId
      else s.lists p
    pkts := fun id =>
      if ¬ streamFrameCanDrop (s.pkts id) streamId then s.pkts id
      else if id ∈ s.lists .unackedPackets then (s.pkts id).decreaseInflight.leaveUnackList
      else if id ∈ s.lists (.scheduleBuf .normal) ∨ id ∈ s.lists (.scheduleBuf .retrans) ∨
          id ∈ s.lists (.scheduleBuf .ptoProbe) then (s.pkts id).leavePathBuf
      else s.pkts id }

end Rquic

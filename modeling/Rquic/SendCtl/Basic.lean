import Rquic.Lib.Counter
import Rquic.SendQueue.Steps

set_option autoImplicit false

/-!
# The send control with its counters

The send queue once more, with everything that `rqc_send_ctl.c`, `rqc_send_queue.c`, `rqc_multipath.c`,
`rqc_datagram.c` and the sending part of `rqc_conn.c` count beside it: bytes in flight, scheduled bytes,
the list of free packets, the unacknowledged packets of a stream and the records of datagrams.

* `SendCtl`: the queue and the counters.
* `SendCtl.onPacketSent`, `SendCtl.onPacketAcked`, `SendCtl.maybeRemoveUnacked`, ...: the functions of
  the queue with what they count.
* `SendCtl.datagramSubmit`, `SendCtl.recordFeedback`, `SendCtl.processCallback`: datagrams.

Each function goes over the queue as the one of the same name without counters does. Handles are not
used again, so `freePackets` holds every packet that was ever returned.
-/

namespace Rquic

/-! ## State -/

/-- The part of a stream that the send control keeps. -/
structure SendHalf where
  streamUnackedPkt : ℕ := 0
  streamStateSend : SendStreamState := .ready
  deriving DecidableEq, Repr

/-- What happened to packets, streams and datagrams. -/
inductive CtlEntry where
  | sent (id : PktId)
  /-- An ACK frame acknowledges the packet. -/
  | acked (id : PktId)
  | dataRecvd (streamId : StreamId)
  | accepted (datagramId : ℕ)
  | outcome (datagramId : ℕ) (lost : Bool)
  | notified (datagramId : ℕ) (lost : Bool)
  deriving DecidableEq, Repr

/-- The send queue with the counters of the send control, of the path, of the streams and of the
datagrams. The counters of bytes have 32 bits. -/
structure SendCtl extends SendQueue where
  bytesInFlight : ℕ := 0
  bytesAckElicitingInflight : ℕ := 0
  pathScheduleBytes : ℕ := 0
  packetsInUnackedList : ℕ := 0
  /-- `RQC_ELIMIT` was raised. -/
  limitErr : Bool := false
  freePackets : List PktId := []
  streams : StreamId → Option SendHalf := fun _ => none
  /-- The streams that were ever opened. -/
  opened : List StreamId := []
  /-- `po_datagram`, the id in the record. -/
  poDatagram : PktId → Option ℕ := fun _ => none
  datagramNextId : ℕ := 0
  datagramFeedback : List (ℕ × Bool) := []
  /-- The bounded subtraction of bytes in flight was cut off. -/
  clipped : Bool := false
  /-- The subtraction of scheduled bytes wrapped. -/
  wrapped : Bool := false
  /-- `stream_unacked_pkt` was zero when it was to be decreased. -/
  underflow : Bool := false
  /-- A loop over the unacknowledged packets has released the element that it goes on with. -/
  nextReleased : Bool := false
  history : List CtlEntry := []

namespace SendCtl

/-- A step of the queue that nothing counts. -/
def onQueue (c : SendCtl) (f : SendQueue → SendQueue) : SendCtl :=
  { c with toSendQueue := f c.toSendQueue }

def addHistory (c : SendCtl) (entry : CtlEntry) : SendCtl := { c with history := c.history ++ [entry] }

/-! ## Bytes in flight -/

/-- `rqc_send_ctl_increase_inflight`, the counters. -/
def increaseInflight (c : SendCtl) (po : PacketOut) : SendCtl :=
  if po.inFlight = false ∧ canInFlight po.poFrameTypes ∧ isAckEliciting po.poFrameTypes then
    { c with
      bytesInFlight := u32Add c.bytesInFlight po.poBuf.length
      bytesAckElicitingInflight := u32Add c.bytesAckElicitingInflight po.poBuf.length }
  else c

/-- The counters of `rqc_send_ctl_decrease_inflight`. -/
def uncountInflight (c : SendCtl) (po : PacketOut) : SendCtl :=
  if po.inFlight = true ∧ isAckEliciting po.poFrameTypes then
    { c with
      bytesAckElicitingInflight := boundedSub c.bytesAckElicitingInflight po.poBuf.length
      bytesInFlight := boundedSub c.bytesInFlight po.poBuf.length
      clipped := c.clipped || decide (c.bytesAckElicitingInflight < po.poBuf.length) ||
        decide (c.bytesInFlight < po.poBuf.length) }
  else c

/-- `rqc_send_ctl_decrease_inflight`. -/
def decreaseInflight (c : SendCtl) (id : PktId) : SendCtl :=
  { c.uncountInflight (c.pkts id) with
    toSendQueue := c.toSendQueue.modify id PacketOut.decreaseInflight }

/-! ## Scheduled bytes -/

/-- The counter of `rqc_path_send_buffer_append`. -/
def countSchedule (c : SendCtl) (po : PacketOut) : SendCtl :=
  if po.inPathBufList = false ∧ isAckEliciting po.poFrameTypes then
    { c with pathScheduleBytes := u32Add c.pathScheduleBytes po.poBuf.length }
  else c

/-- The counter of `rqc_path_send_buffer_remove`. -/
def uncountSchedule (c : SendCtl) (po : PacketOut) : SendCtl :=
  if po.inPathBufList = true ∧ isAckEliciting po.poFrameTypes then
    { c with
      pathScheduleBytes := u32Sub c.pathScheduleBytes po.poCcSize
      wrapped := c.wrapped || decide (c.pathScheduleBytes < po.poCcSize) }
  else c

/-- `rqc_path_send_buffer_remove`. -/
def pathSendBufferRemove (c : SendCtl) (id : PktId) : SendCtl :=
  { c.uncountSchedule (c.pkts id) with toSendQueue := Rquic.pathSendBufferRemove c.toSendQueue id }

/-! ## Lists -/

/-- `rqc_send_queue_insert_free`: the record of a datagram is freed with the packet. -/
def insertFree (c : SendCtl) (id : PktId) : SendCtl :=
  { c with
    poDatagram := Function.update c.poDatagram id none
    freePackets := c.freePackets ++ [id] }

/-- The counter of `rqc_send_queue_remove_unacked`. -/
def uncountUnacked (c : SendCtl) (po : PacketOut) : SendCtl :=
  if po.inUnackList then { c with packetsInUnackedList := c.packetsInUnackedList - 1 } else c

/-- `rqc_send_queue_remove_unacked`. -/
def removeUnacked (c : SendCtl) (id : PktId) : SendCtl :=
  { c.uncountUnacked (c.pkts id) with toSendQueue := Rquic.removeUnacked c.toSendQueue id }

/-- `RQC_SNDQ_MAX_UNACK_PACKETS_LIMIT`. -/
def maxUnackPackets : ℕ := 100 * 1000

/-- The counter of `rqc_send_queue_insert_unacked`. -/
def countUnacked (c : SendCtl) (po : PacketOut) : SendCtl :=
  if po.inUnackList then c
  else
    { c with
      packetsInUnackedList := c.packetsInUnackedList + 1
      limitErr := c.limitErr || decide (maxUnackPackets < c.packetsInUnackedList + 1) }

/-- `rqc_send_queue_insert_unacked` of a packet that asks for an acknowledgement; others are freed. -/
def insertUnacked (c : SendCtl) (id : PktId) : SendCtl :=
  if isAckEliciting (c.pkts id).poFrameTypes then
    { c.countUnacked (c.pkts id) with toSendQueue := Rquic.insertUnacked c.toSendQueue id }
  else c.insertFree id

/-! ## Streams -/

/-- A stream after a STREAM frame of it was sent in `rqc_conn_increase_unacked_stream_ref`. -/
def halfSent (h : SendHalf) (fin : Bool) : SendHalf :=
  let state := if h.streamStateSend = .ready then .send else h.streamStateSend
  { streamUnackedPkt := h.streamUnackedPkt + 1
    streamStateSend := if fin = true ∧ state = .send then .dataSent else state }

/-- One slot in `rqc_conn_increase_unacked_stream_ref`. -/
def slotSent (c : SendCtl) (slot : PoStreamFrame) : SendCtl :=
  match c.streams slot.psStreamId with
  | none => c
  | some h =>
    { c with streams := Function.update c.streams slot.psStreamId (some (halfSent h slot.psHasFin)) }

/-- `rqc_conn_increase_unacked_stream_ref`, the streams. -/
def increaseUnackedStreamRef (c : SendCtl) (po : PacketOut) : SendCtl :=
  if .stream ∈ po.poFrameTypes ∧ po.streamUnack = false ∧ po.poOrigin = none then
    po.poStreamFrames.foldl slotSent c
  else c

/-- One slot in `rqc_conn_decrease_unacked_stream_ref`. -/
def slotAcked (c : SendCtl) (slot : PoStreamFrame) : SendCtl :=
  match c.streams slot.psStreamId with
  | none => c
  | some h =>
    let c := { c with underflow := c.underflow || decide (h.streamUnackedPkt = 0) }
    let n := h.streamUnackedPkt - 1
    if n = 0 ∧ h.streamStateSend = .dataSent then
      SendCtl.addHistory { c with
          streams := Function.update c.streams slot.psStreamId (some ⟨n, .dataRecvd⟩) }
        (.dataRecvd slot.psStreamId)
    else
      { c with streams := Function.update c.streams slot.psStreamId (some ⟨n, h.streamStateSend⟩) }

/-- `rqc_conn_decrease_unacked_stream_ref`, the streams: the first acknowledgement of a family
counts. -/
def decreaseUnackedStreamRef (c : SendCtl) (id : PktId) : SendCtl :=
  if (c.pkts id).streamUnack = true ∧ (c.pkts id).poAcked = false ∧
      originAcked c.toSendQueue id = false then
    (c.pkts id).poStreamFrames.foldl slotAcked c
  else c

/-- One slot in `rqc_send_ctl_on_reset_stream_acked`. -/
def slotResetAcked (c : SendCtl) (slot : PoStreamFrame) : SendCtl :=
  match c.streams slot.psStreamId with
  | none => c
  | some h =>
    if slot.psIsReset = true ∧ h.streamStateSend = .resetSent then
      { c with
        streams := Function.update c.streams slot.psStreamId
          (some { h with streamStateSend := .resetRecvd }) }
    else c

/-- `rqc_send_ctl_on_reset_stream_acked`. -/
def onResetStreamAcked (c : SendCtl) (po : PacketOut) : SendCtl :=
  if po.inFlight = true ∧ .resetStream ∈ po.poFrameTypes then
    po.poStreamFrames.foldl slotResetAcked c
  else c

/-! ## Outcomes of datagrams -/

/-- `rqc_datagram_record_feedback`: the record moves from the packet to the list of outcomes. -/
def recordFeedback (c : SendCtl) (id : PktId) (lost : Bool) : SendCtl :=
  match c.poDatagram id with
  | none => c
  | some datagramId =>
    SendCtl.addHistory { c with
      poDatagram := Function.update c.poDatagram id none
      datagramFeedback := c.datagramFeedback ++ [(datagramId, lost)] } (.outcome datagramId lost)

/-! ## Acknowledged packets -/

/-- The packet and its origin are marked, in `rqc_send_ctl_on_packet_acked`. -/
def markAcked (c : SendCtl) (id : PktId) : SendCtl :=
  c.onQueue fun s => Rquic.onPacketAcked s id

/-- `rqc_send_ctl_on_packet_acked`. -/
def onPacketAcked (c : SendCtl) (id : PktId) : SendCtl :=
  let po := c.pkts id
  let c := c.recordFeedback id false
  let c := c.decreaseUnackedStreamRef id
  let c := c.uncountInflight po
  let c := c.onResetStreamAcked po
  c.markAcked id

/-- The origin of an acknowledged copy loses a reference, and is freed with the last one. -/
def releaseOrigin (c : SendCtl) (origin : PktId) : SendCtl :=
  let c' := c.onQueue fun s => s.modify origin PacketOut.release
  if (c.pkts origin).poOriginRefCnt = 1 then
    ((c'.decreaseInflight origin).removeUnacked origin).insertFree origin
  else c'

/-- The packet leaves its list in `rqc_send_queue_maybe_remove_unacked`. -/
def leaveList (c : SendCtl) (id : PktId) (path : Bool) : SendCtl :=
  if path = true ∧ (c.pkts id).inPathBufList = true then c.pathSendBufferRemove id
  else c.removeUnacked id

/-- `rqc_send_queue_maybe_remove_unacked`. -/
def maybeRemoveUnacked (c : SendCtl) (id : PktId) (path : Bool) : SendCtl :=
  match (c.pkts id).poOrigin with
  | none => if (c.pkts id).poOriginRefCnt ≠ 0 then c else (c.leaveList id path).insertFree id
  | some origin => ((c.leaveList id path).releaseOrigin origin).insertFree id

/-- `rqc_send_ctl_indirectly_ack_or_drop_po`. -/
def indirectlyAckOrDropPo (c : SendCtl) (id : PktId) : Option SendCtl :=
  if (c.pkts id).poAcked ∨ originAcked c.toSendQueue id then
    some ((if originAcked c.toSendQueue id then c.onPacketAcked id else c).maybeRemoveUnacked id true)
  else none

/-! ## Scheduling and sending -/

/-- One round of `rqc_conn_schedule_packets`. -/
def schedulePacket (c : SendCtl) (t : SendType) : SendCtl :=
  match c.lists t.source with
  | [] => c
  | id :: _ => { c.countSchedule (c.pkts id) with toSendQueue := Rquic.schedulePacket c.toSendQueue t }

/-- `rqc_path_send_buffer_clear`: after the packets have gone back, the counter is set to zero. -/
def pathSendBufferClear (c : SendCtl) (t : SendType) : SendCtl :=
  { (c.lists (.scheduleBuf t)).reverse.foldl (fun c' id => c'.uncountSchedule (c.pkts id)) c with
    toSendQueue := Rquic.pathSendBufferClear c.toSendQueue t
    pathScheduleBytes := 0 }

/-- `rqc_send_ctl_on_packet_sent`. -/
def onPacketSent (c : SendCtl) (id : PktId) (srtt now : ℕ) : SendCtl :=
  let po := c.pkts id
  let c' :=
    if canInFlight po.poFrameTypes ∧ po.inFlight = false then
      (c.increaseInflight po).increaseUnackedStreamRef po
    else c
  SendCtl.addHistory { c' with toSendQueue := Rquic.onPacketSent c.toSendQueue id srtt now } (.sent id)

/-- The packet leaves through the socket and waits for its acknowledgement. -/
def transmit (c : SendCtl) (id : PktId) (srtt now : ℕ) : SendCtl :=
  (((c.onQueue fun s => writeSocket (setNextPn s id now) id).onPacketSent id srtt
    now).pathSendBufferRemove id).insertUnacked id

/-- One round of the loop of `rqc_path_send_packets`. -/
def sendPacket (c : SendCtl) (t : SendType) (outcome : SendOutcome) (srtt now : ℕ) : SendCtl :=
  match c.lists (.scheduleBuf t) with
  | [] => c
  | id :: _ =>
    match c.indirectlyAckOrDropPo id with
    | some c => c
    | none =>
      let c := c.onQueue fun s => markRetrans s t id
      match outcome with
      | .blocked => c
      | .again => c.onQueue fun s => setNextPn s id now
      | .sent => c.transmit id srtt now

/-- `rqc_conn_send_path_challenge`. -/
def sendPathChallenge (c : SendCtl) (params : PktParams) (data : Bytes) (now : ℕ) : SendCtl :=
  match controlPacket params (.pathChallenge data) false 0 with
  | .error _ => c
  | .ok _ =>
    (c.onQueue fun s => Rquic.sendPathChallenge s params data now).insertFree c.nextId

/-! ## Copies -/

/-- `rqc_send_queue_copy_to_lost` and `rqc_send_queue_copy_to_probe`: the copy of the structure takes
`po_datagram` with it. -/
def copyTo (c : SendCtl) (p : Place) (src : PktId) : SendCtl :=
  match (c.pkts src).retransmission src with
  | none => c
  | some _ =>
    { c with
      toSendQueue := Rquic.copyTo c.toSendQueue p src
      poDatagram := Function.update c.poDatagram c.nextId (c.poDatagram src) }

/-! ## Loss detection -/

/-- A packet deemed lost. -/
def onPacketLost (c : SendCtl) (id : PktId) : SendCtl :=
  if (c.pkts id).inFlight then
    let c' := (c.recordFeedback id true).decreaseInflight id
    if needRepair (c.pkts id).poFrameTypes ∨ (c.pkts id).notify then c'.copyTo .lostPackets id
    else (c'.removeUnacked id).insertFree id
  else c

/-- The loop goes on with the element that it has saved. -/
def checkNext (c : SendCtl) (ids : List PktId) : SendCtl :=
  { c with nextReleased := c.nextReleased ||
      ids.head?.any fun id => decide (id ∉ c.lists .unackedPackets) }

/-- The loop of `rqc_send_ctl_detect_lost`. -/
def detectLostWalk (largestAcked : ℕ) (th : LossThresholds) : List PktId → SendCtl → SendCtl
  | [], c => c
  | id :: ids, c =>
    match c.indirectlyAckOrDropPo id with
    | some c => detectLostWalk largestAcked th ids (c.checkNext ids)
    | none =>
      if largestAcked < (c.pkts id).pktNum then c
      else if th.deems (c.pkts id) then
        detectLostWalk largestAcked th ids ((c.onPacketLost id).checkNext ids)
      else detectLostWalk largestAcked th ids c

/-- `rqc_send_ctl_detect_lost`. -/
def detectLost (c : SendCtl) (th : LossThresholds) : SendCtl :=
  match c.largestAcked with
  | none => c
  | some largestAcked => detectLostWalk largestAcked th (c.lists .unackedPackets) c

/-! ## Probes -/

/-- `rqc_conn_send_probe_pkt`. -/
def sendProbePkt (c : SendCtl) (id : PktId) : SendCtl :=
  if .datagram ∈ (c.pkts id).poFrameTypes then c
  else
    ((c.decreaseInflight id).copyTo .ptoProbePackets id).onQueue fun s =>
      s.modify id PacketOut.markTlp

/-- The loop of `rqc_path_send_one_or_two_ack_elicit_pkts`. -/
def probeWalk : ℕ → Option PktId → List PktId → SendCtl → ℕ × Option PktId × SendCtl
  | probeNum, last, [], c => (probeNum, last, c)
  | 0, last, _ :: _, c => (0, last, c)
  | probeNum + 1, last, id :: ids, c =>
    match c.indirectlyAckOrDropPo id with
    | some c => probeWalk (probeNum + 1) last ids (c.checkNext ids)
    | none =>
      if isAckEliciting (c.pkts id).poFrameTypes ∧
          (needRepair (c.pkts id).poFrameTypes ∨ (c.pkts id).notify) then
        probeWalk probeNum (some id) ids ((c.sendProbePkt id).checkNext ids)
      else probeWalk (probeNum + 1) last ids c

/-- `rqc_path_send_ping_to_probe`. -/
def sendPingToProbe (c : SendCtl) (params : PktParams) : SendCtl :=
  c.onQueue fun s => Rquic.sendPingToProbe s params

/-- `rqc_path_send_one_or_two_ack_elicit_pkts`. -/
def sendOneOrTwoAckElicitPkts (c : SendCtl) (params : PktParams) : SendCtl :=
  match probeWalk ptoPktCntMax none (c.lists .unackedPackets) c with
  | (probeNum, some last, c) => (fun c => sendProbePkt c last)^[probeNum] c
  | (probeNum, none, c) => (fun c => sendPingToProbe c params)^[probeNum] c

/-! ## Acknowledgements -/

/-- What the walk over the unacknowledged packets carries. -/
structure AckRun where
  ctl : SendCtl
  hasAcked : Bool := false
  needDelRecord : Bool := false
  err : Option Errno := none

/-- The walk of the queue. -/
def AckRun.walk (w : AckRun) : AckWalk :=
  { sndq := w.ctl.toSendQueue, hasAcked := w.hasAcked, needDelRecord := w.needDelRecord, err := w.err }

/-- One packet that the ACK frame acknowledges. -/
def AckRun.ackPacket (w : AckRun) (id : PktId) : AckRun :=
  let c := w.ctl.addHistory (.acked id)
  let c := c.onQueue fun s => (raiseLargest s (s.pkts id)).modify id PacketOut.markSpuriousLoss
  { w with
    ctl := (c.onPacketAcked id).maybeRemoveUnacked id false
    hasAcked := true
    needDelRecord := w.needDelRecord || w.ctl.largestAckedAck < (w.ctl.pkts id).poLargestAck }

/-- The loop of `rqc_send_ctl_on_ack_received`. -/
def ackWalk (frameLargestAck : ℕ) : List PktnoRange → List PktId → AckRun → AckRun
  | _, [], w => w
  | ranges, id :: ids, w =>
    let pktNum := (w.ctl.pkts id).pktNum
    if frameLargestAck < pktNum then w
    else if w.ctl.largestSent < pktNum then { w with err := some .proto }
    else
      match seekRange pktNum ranges with
      | [] => w
      | r :: rs =>
        if r.low ≤ pktNum then
          let w := w.ackPacket id
          ackWalk frameLargestAck (r :: rs) ids { w with ctl := w.ctl.checkNext ids }
        else ackWalk frameLargestAck (r :: rs) ids w

/-- The first part of `rqc_send_ctl_on_ack_received`. -/
def ackProcess (c : SendCtl) (info : AckInfo) : AckRun :=
  match info.ranges.head? with
  | none => { ctl := c }
  | some first =>
    let w := ackSentOnAck c.toSendQueue info
    ackWalk first.high info.ranges.reverse (c.lists .unackedPackets)
      { ctl := c.onQueue fun _ => w.sndq, hasAcked := w.hasAcked, needDelRecord := w.needDelRecord }

/-- `rqc_send_ctl_on_ack_received`. -/
def onAckReceived (c : SendCtl) (info : AckInfo) (th : LossThresholds) : SendCtl :=
  let w := c.ackProcess info
  if w.err.isSome ∨ w.hasAcked = false then w.ctl
  else
    let c := w.ctl.detectLost th
    if w.needDelRecord then
      c.onQueue fun s => { s with recvRecord := recvRecordDel s.recvRecord (s.largestAckedAck + 1) }
    else c

/-! ## Dropping packets -/

/-- The packets of a list that `rqc_send_queue_drop_stream_frame_packets` drops. -/
def dropsOf (s : SendQueue) (streamId : StreamId) (p : Place) : List PktId :=
  (s.lists p).filter fun id => streamFrameCanDrop (s.pkts id) streamId

/-- A packet of the unacknowledged list is dropped. -/
def dropUnacked (s : SendQueue) (c : SendCtl) (id : PktId) : SendCtl :=
  ((c.uncountInflight (s.pkts id)).uncountUnacked (s.pkts id)).insertFree id

/-- A packet of a path buffer is dropped. -/
def dropScheduled (s : SendQueue) (c : SendCtl) (id : PktId) : SendCtl :=
  (c.uncountSchedule (s.pkts id)).insertFree id

/-- The loops of `rqc_send_queue_drop_stream_frame_packets`, the counters. -/
def dropCounters (c : SendCtl) (streamId : StreamId) : SendCtl :=
  let s := c.toSendQueue
  let drops := dropsOf s streamId
  let c := (drops .unackedPackets).foldl (dropUnacked s) c
  let c := (drops .sendPackets).foldl insertFree c
  let c := (drops .lostPackets).foldl insertFree c
  let c := (drops .ptoProbePackets).foldl insertFree c
  let c := (drops (.scheduleBuf .normal)).foldl (dropScheduled s) c
  let c := (drops (.scheduleBuf .retrans)).foldl (dropScheduled s) c
  (drops (.scheduleBuf .ptoProbe)).foldl (dropScheduled s) c

/-- `rqc_send_queue_drop_stream_frame_packets`. -/
def dropStreamFramePackets (c : SendCtl) (streamId : StreamId) : SendCtl :=
  { c.dropCounters streamId with
    toSendQueue := Rquic.dropStreamFramePackets c.toSendQueue streamId }

/-- The lists that `rqc_send_queue_pre_destroy` and `rqc_path_schedule_buf_pre_destroy` empty, in their
order. -/
def allPlaces : List Place :=
  [.sendPackets, .sendPacketsHighPri, .unackedPackets, .lostPackets, .buff1rttPackets, .ptoProbePackets,
    .scheduleBuf .normal, .scheduleBuf .normalHighPri, .scheduleBuf .retrans, .scheduleBuf .ptoProbe]

/-- `rqc_send_queue_drop_packets`. -/
def dropPackets (c : SendCtl) : SendCtl :=
  { (allPlaces.flatMap c.lists).foldl insertFree c with
    toSendQueue := { c.toSendQueue with lists := fun _ => [] }
    datagramFeedback := []
    packetsInUnackedList := 0
    bytesInFlight := 0
    bytesAckElicitingInflight := 0
    pathScheduleBytes := 0 }

end SendCtl

end Rquic

import Rquic.Lib.Shelves
import Rquic.SendCtl.Basic

set_option autoImplicit false

/-!
# The counters of the send queue

`rqc_send_queue.c` and the parts of `rqc_packet_out.c`, `rqc_send_ctl.c`, `rqc_multipath.c` and
`rqc_conn.c` that put packets into lists, with `sndq_packets_free`, `sndq_packets_used` and
`sndq_packets_in_unacked_list`.

* `Sndq`: the lists, the list of free packets among them, and the counters.
* `Sndq.packetOutGet`, `Sndq.insertFree`, `Sndq.removeUnacked`, ...: the functions, with what they count.
* `SndqEvent`, `Sndq.step`, `Sndq.run`: creation, moves, acknowledgements, losses, dropped streams, and
  `rqc_send_queue_drop_packets`.

A loop over a list of packets is the sequence of its rounds, each of them an event. A structure that is
used again is filled with zeros and gets a new handle. Counters wrap where they are decreased, and are
not counted up to `2 ^ 64`.
-/

namespace Rquic

/-- `rqc_send_queue_t`, the lists and the counters. -/
structure Sndq extends SendQueue where
  freePackets : List PktId := []
  packetsFree : ℕ := 0
  packetsUsed : ℕ := 0
  packetsInUnackedList : ℕ := 0
  /-- The packets that `rqc_packet_out_get` gave out and that were not freed since. -/
  live : List PktId := []
  /-- A counter was decreased at zero. -/
  wrapped : Bool := false

/-- A counter of 64 bits is decreased. -/
def decrement (n : ℕ) : ℕ := if n = 0 then 2 ^ 64 - 1 else n - 1

namespace Sndq

def onQueue (c : Sndq) (f : SendQueue → SendQueue) : Sndq := { c with toSendQueue := f c.toSendQueue }

/-! ## The list of free packets -/

/-- `rqc_list_del_init`: the packet leaves the list that it is in. -/
def delInit (c : Sndq) (id : PktId) : Sndq :=
  { c with
    toSendQueue := c.toSendQueue.unlink id
    freePackets := c.freePackets.filter (· ≠ id) }

/-- `rqc_packet_out_get`: the first free packet is used, with `rqc_send_queue_remove_free`, or a packet is
created. -/
def packetOutGet (c : Sndq) : Sndq :=
  match c.freePackets with
  | [] => c
  | _ :: rest =>
    { c with
      freePackets := rest
      packetsFree := decrement c.packetsFree
      wrapped := c.wrapped || decide (c.packetsFree = 0) }

/-- `rqc_packet_out_get_and_insert_send`, or the copy of a packet: the packet is filled and stands at the
tail of the list `p` in the end. -/
def insertNew (c : Sndq) (p : Place) (po : PacketOut) : Sndq :=
  { c.packetOutGet with
    toSendQueue := c.toSendQueue.insertNew p po
    packetsUsed := c.packetsUsed + 1
    live := c.live ++ [c.nextId] }

/-- `rqc_send_queue_insert_free`. -/
def insertFree (c : Sndq) (id : PktId) : Sndq :=
  { c with
    freePackets := c.freePackets ++ [id]
    packetsFree := c.packetsFree + 1
    packetsUsed := decrement c.packetsUsed
    live := c.live.filter (· ≠ id)
    wrapped := c.wrapped || decide (c.packetsUsed = 0) }

/-- `rqc_maybe_recycle_packet_out`. -/
def maybeRecycle (c : Sndq) (id : PktId) : Sndq :=
  if (c.pkts id).poFrameTypes = ∅ then (c.delInit id).insertFree id else c

/-- A new packet to which no frame could be written. -/
def recycled (c : Sndq) : Sndq := (c.insertNew .sendPackets {}).maybeRecycle c.nextId

/-! ## The list of unacknowledged packets -/

/-- `rqc_send_queue_insert_unacked`. -/
def insertUnacked (c : Sndq) (id : PktId) : Sndq :=
  { c with
    toSendQueue := (c.toSendQueue.pushTail .unackedPackets id).modify id PacketOut.enterUnackList
    packetsInUnackedList :=
      if (c.pkts id).inUnackList then c.packetsInUnackedList else c.packetsInUnackedList + 1 }

/-- `rqc_send_queue_remove_unacked`. -/
def removeUnacked (c : Sndq) (id : PktId) : Sndq :=
  let c' := c.delInit id
  if (c.pkts id).inUnackList then
    if c.packetsInUnackedList = 0 then c'
    else
      { c' with
        toSendQueue := c'.toSendQueue.modify id PacketOut.leaveUnackList
        packetsInUnackedList := c.packetsInUnackedList - 1 }
  else c'

/-- `rqc_path_send_buffer_remove`. -/
def pathSendBufferRemove (c : Sndq) (id : PktId) : Sndq :=
  (c.delInit id).onQueue fun s => s.modify id PacketOut.leavePathBuf

/-! ## Packets that leave the queue -/

/-- The origin of an acknowledged copy loses a reference, and is freed with the last one. -/
def releaseOrigin (c : Sndq) (origin : PktId) : Sndq :=
  let c' := c.onQueue fun s => s.modify origin PacketOut.release
  if (c.pkts origin).poOriginRefCnt = 1 then
    ((c'.onQueue fun s => s.modify origin PacketOut.decreaseInflight).removeUnacked origin).insertFree
      origin
  else c'

/-- The packet leaves its list in `rqc_send_queue_maybe_remove_unacked`. -/
def leaveList (c : Sndq) (id : PktId) (path : Bool) : Sndq :=
  if path = true ∧ (c.pkts id).inPathBufList = true then c.pathSendBufferRemove id
  else c.removeUnacked id

/-- `rqc_send_queue_maybe_remove_unacked`. -/
def maybeRemoveUnacked (c : Sndq) (id : PktId) (path : Bool) : Sndq :=
  match (c.pkts id).poOrigin with
  | none => if (c.pkts id).poOriginRefCnt ≠ 0 then c else (c.leaveList id path).insertFree id
  | some origin => ((c.leaveList id path).releaseOrigin origin).insertFree id

/-- `rqc_send_ctl_on_packet_acked`. -/
def onPacketAcked (c : Sndq) (id : PktId) : Sndq := c.onQueue fun s => Rquic.onPacketAcked s id

/-- `rqc_send_ctl_indirectly_ack_or_drop_po`. -/
def indirectlyAckOrDropPo (c : Sndq) (id : PktId) : Option Sndq :=
  if (c.pkts id).poAcked ∨ originAcked c.toSendQueue id then
    some ((if originAcked c.toSendQueue id then c.onPacketAcked id else c).maybeRemoveUnacked id true)
  else none

/-! ## Copies -/

/-- `rqc_send_queue_copy_to_lost` and `rqc_send_queue_copy_to_probe`. -/
def copyTo (c : Sndq) (p : Place) (src : PktId) : Sndq :=
  match (c.pkts src).retransmission src with
  | none => c
  | some copy =>
    ((c.onQueue fun s => s.modify ((s.pkts src).poOrigin.getD src) PacketOut.retain).insertNew p
      copy).onQueue fun s => s.modify src PacketOut.markRetransed

/-- A packet that `rqc_send_ctl_detect_lost` deems lost. -/
def onPacketLost (c : Sndq) (id : PktId) : Sndq :=
  if (c.pkts id).inFlight then
    let c' := c.onQueue fun s => s.modify id PacketOut.decreaseInflight
    if needRepair (c.pkts id).poFrameTypes ∨ (c.pkts id).notify then c'.copyTo .lostPackets id
    else (c'.removeUnacked id).insertFree id
  else c

/-- One round of `rqc_path_send_one_or_two_ack_elicit_pkts`, with `rqc_conn_send_probe_pkt`. -/
def probe (c : Sndq) (id : PktId) : Sndq :=
  if isAckEliciting (c.pkts id).poFrameTypes ∧
      (needRepair (c.pkts id).poFrameTypes ∨ (c.pkts id).notify) ∧
      .datagram ∉ (c.pkts id).poFrameTypes then
    ((c.onQueue fun s => s.modify id PacketOut.decreaseInflight).copyTo .ptoProbePackets id).onQueue
      fun s => s.modify id PacketOut.markTlp
  else c

/-! ## Writing packets -/

/-- The `rqc_write_*_to_packet` of the control frames. -/
def writeControlFrame (c : Sndq) (params : PktParams) (f : ControlFrame) (notify : Bool) (bufSize : ℕ)
    (handshakeDone : Bool) : Sndq :=
  match controlPacket params f notify bufSize with
  | .error _ => c.recycled
  | .ok po => c.insertNew (f.place handshakeDone) po

/-- `rqc_path_send_ping_to_probe`. -/
def sendPingToProbe (c : Sndq) (params : PktParams) : Sndq :=
  match controlPacket params .ping false 0 with
  | .error _ => c.recycled
  | .ok po => c.insertNew .ptoProbePackets po

/-- `rqc_write_stream_frame_to_packet`, the packet. -/
def writeStreamFrame (c : Sndq) (highPri : Bool) (params : PktParams) (streamId offset : ℕ) (fin : Bool)
    (payload : Bytes) : Sndq :=
  match getPacketOutForStream c.toSendQueue highPri params.pktType streamId with
  | some id =>
    match genStreamFrame (c.pkts id) streamId offset fin payload with
    | .error _ => c
    | .ok (po, _) => c.onQueue fun s => s.set id po
  | none =>
    match params.newPacket with
    | .error _ => c.recycled
    | .ok po =>
      match genStreamFrame po streamId offset fin payload with
      | .error _ => c.recycled
      | .ok (po, _) => c.insertNew (streamPlace highPri) po

/-- `rqc_write_ack_to_packets` where it needs a packet of its own. -/
def writeAckToNewPacket (c : Sndq) (params : PktParams) (ackDelay ackDelayExponent : ℕ) : Sndq :=
  match params.newPacket with
  | .error _ => c.recycled
  | .ok po =>
    match writeAckToOnePacket po ackDelay ackDelayExponent c.recvRecord.ranges with
    | .error _ => c.recycled
    | .ok po => c.insertNew .sendPacketsHighPri po

/-- `rqc_write_ack_to_packets`. -/
def writeAckToPackets (c : Sndq) (params : PktParams) (ackDelay ackDelayExponent : ℕ) : Sndq :=
  if c.recvRecord.ranges = [] then c
  else
    match ackTarget c.toSendQueue with
    | none => c.writeAckToNewPacket params ackDelay ackDelayExponent
    | some id =>
      if (c.pkts id).canAttachAck params.pktType then
        match writeAckToOnePacket (c.pkts id) ackDelay ackDelayExponent c.recvRecord.ranges with
        | .ok po => c.onQueue fun s => s.set id po
        | .error .nobuf => c.writeAckToNewPacket params ackDelay ackDelayExponent
        | .error _ => c
      else c.writeAckToNewPacket params ackDelay ackDelayExponent

/-! ## Sending -/

/-- The packet was sent and leaves the path buffer. -/
def keepSent (c : Sndq) (id : PktId) : Sndq :=
  if isAckEliciting (c.pkts id).poFrameTypes then (c.pathSendBufferRemove id).insertUnacked id
  else (c.pathSendBufferRemove id).insertFree id

/-- One round of `rqc_path_send_packets` and of `rqc_path_send_packets_batch`. -/
def sendPacket (c : Sndq) (t : SendType) (outcome : SendOutcome) (srtt now : ℕ) : Sndq :=
  match c.lists (.scheduleBuf t) with
  | [] => c
  | id :: _ =>
    match c.indirectlyAckOrDropPo id with
    | some c => c
    | none =>
      let c := c.onQueue fun s => markRetrans s t id
      match outcome with
      | .blocked => c
      | .again => c.onQueue fun s => setNextPn s id now
      | .sent => (c.onQueue fun s => onPacketSent (writeSocket (setNextPn s id now) id) id srtt
          now).keepSent id

/-- `rqc_conn_send_path_challenge`. -/
def sendPathChallenge (c : Sndq) (params : PktParams) (data : Bytes) : Sndq :=
  match params.newPacket with
  | .error _ => c.recycled
  | .ok _ =>
    let po := (controlPacket params (.pathChallenge data) false 0).toOption.getD {}
    ((c.insertNew .sendPackets po).delInit c.nextId).insertFree c.nextId

/-- `rqc_conn_write_buffed_1rtt_packets`, one packet of the loop: `rqc_send_queue_remove_buff` and
`rqc_send_queue_insert_send`. -/
def recountBuff (c : Sndq) : Sndq :=
  { c with
    packetsUsed := decrement c.packetsUsed + 1
    wrapped := c.wrapped || decide (c.packetsUsed = 0) }

/-- `rqc_conn_write_buffed_1rtt_packets`. -/
def writeBuffed1rttPackets (c : Sndq) : Sndq :=
  (recountBuff^[(c.lists .buff1rttPackets).length] c).onQueue Rquic.writeBuffed1rttPackets

/-! ## Dropping packets -/

/-- A packet of the unacknowledged list is dropped with its stream. -/
def dropUnacked (c : Sndq) (id : PktId) : Sndq :=
  ((c.onQueue fun s => s.modify id PacketOut.decreaseInflight).removeUnacked id).insertFree id

/-- A packet of a path buffer is dropped with its stream. -/
def dropScheduled (c : Sndq) (id : PktId) : Sndq := (c.pathSendBufferRemove id).insertFree id

/-- A packet of another list is dropped with its stream. -/
def dropSend (c : Sndq) (id : PktId) : Sndq := (c.delInit id).insertFree id

/-- `rqc_send_queue_drop_stream_frame_packets`. -/
def dropStreamFramePackets (c : Sndq) (streamId : StreamId) : Sndq :=
  let drops := SendCtl.dropsOf c.toSendQueue streamId
  let c := (drops .unackedPackets).foldl dropUnacked c
  let c := (drops .sendPackets).foldl dropSend c
  let c := (drops .lostPackets).foldl dropSend c
  let c := (drops .ptoProbePackets).foldl dropSend c
  let c := (drops (.scheduleBuf .normal)).foldl dropScheduled c
  let c := (drops (.scheduleBuf .retrans)).foldl dropScheduled c
  (drops (.scheduleBuf .ptoProbe)).foldl dropScheduled c

/-- `rqc_send_queue_drop_packets`: `rqc_send_queue_pre_destroy` and `rqc_path_schedule_buf_pre_destroy`. -/
def dropPackets (c : Sndq) : Sndq :=
  { c with
    toSendQueue := { c.toSendQueue with lists := fun _ => [] }
    freePackets := c.freePackets ++ SendCtl.allPlaces.flatMap c.lists
    packetsUsed := 0
    packetsFree := 0
    packetsInUnackedList := 0
    live := [] }

end Sndq

/-! ## Runs -/

/-- One event of the queue. -/
inductive SndqEvent where
  | control (params : PktParams) (f : ControlFrame) (notify : Bool) (bufSize : ℕ) (handshakeDone : Bool)
  | pingToProbe (params : PktParams)
  | stream (highPri : Bool) (params : PktParams) (streamId offset : ℕ) (fin : Bool) (payload : Bytes)
  | ack (params : PktParams) (ackDelay ackDelayExponent : ℕ)
  | pathChallenge (params : PktParams) (data : Bytes)
  | schedule (t : SendType)
  | clear (t : SendType)
  | send (t : SendType) (outcome : SendOutcome) (srtt now : ℕ)
  | numberUnsent (t : SendType) (n now : ℕ)
  | buff1rtt
  | writeBuffed1rtt
  /-- An ACK frame acknowledges the packet. -/
  | acked (id : PktId)
  /-- A loop over the list `p` comes to a packet whose family was acknowledged. -/
  | settled (p : Place) (id : PktId)
  | lost (id : PktId)
  | probe (id : PktId)
  | recvPacket (pktNum : ℕ)
  | dropStream (streamId : StreamId)
  | dropPackets

namespace Sndq

/-- One step. A round of a loop over the unacknowledged packets is about one of them. -/
def step (c : Sndq) : SndqEvent → Sndq
  | .control params f notify bufSize handshakeDone =>
    c.writeControlFrame params f notify bufSize handshakeDone
  | .pingToProbe params => c.sendPingToProbe params
  | .stream highPri params streamId offset fin payload =>
    c.writeStreamFrame highPri params streamId offset fin payload
  | .ack params ackDelay ackDelayExponent => c.writeAckToPackets params ackDelay ackDelayExponent
  | .pathChallenge params data => c.sendPathChallenge params data
  | .schedule t => c.onQueue fun s => schedulePacket s t
  | .clear t => c.onQueue fun s => pathSendBufferClear s t
  | .send t outcome srtt now => c.sendPacket t outcome srtt now
  | .numberUnsent t n now => c.onQueue fun s => numberUnsent s t n now
  | .buff1rtt => c.onQueue buff1rttPackets
  | .writeBuffed1rtt => c.writeBuffed1rttPackets
  | .acked id =>
    if id ∈ c.lists .unackedPackets then (c.onPacketAcked id).maybeRemoveUnacked id false else c
  | .settled p id => if id ∈ c.lists p then (c.indirectlyAckOrDropPo id).getD c else c
  | .lost id => if id ∈ c.lists .unackedPackets then c.onPacketLost id else c
  | .probe id => if id ∈ c.lists .unackedPackets then c.probe id else c
  | .recvPacket pktNum => c.onQueue fun s => { s with recvRecord := (recvRecordAdd s.recvRecord pktNum).1 }
  | .dropStream streamId => c.dropStreamFramePackets streamId
  | .dropPackets => c.dropPackets

/-- A run. -/
def run (c : Sndq) (evs : List SndqEvent) : Sndq := evs.foldl step c

end Sndq

end Rquic

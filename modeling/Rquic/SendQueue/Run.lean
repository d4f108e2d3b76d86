import Mathlib.Logic.Relation
import Rquic.SendQueue.Loops

set_option autoImplicit false

/-!
# Runs of the send queue

The events of a connection as far as its packets are concerned, and what they do to the bodies of
the packets.

* `SendEvent`, `SendQueue.step`, `SendQueue.run`: every way the queue can go on.
* `PacketOut.body`: a packet without the marks that the send control sets.
* `CtlStep`: the elementary steps of the send control. They leave the bodies alone, and copy.
* **`step_ctl`**: every event that writes no frame is a sequence of elementary steps.
-/

namespace Rquic

/-! ## Events -/

/-- One event of the send queue. -/
inductive SendEvent where
  | control (params : PktParams) (c : ControlFrame) (notify : Bool) (bufSize : ℕ)
      (handshakeDone : Bool)
  | stream (highPri : Bool) (params : PktParams) (streamId offset : ℕ) (fin : Bool)
      (payload : Bytes)
  | ack (params : PktParams) (ackDelay ackDelayExponent : ℕ)
  | schedule (t : SendType)
  | clear (t : SendType)
  | send (t : SendType) (outcome : SendOutcome) (srtt now : ℕ)
  | numberUnsent (t : SendType) (n now : ℕ)
  | pathChallenge (params : PktParams) (data : Bytes) (now : ℕ)
  | buff1rtt
  | writeBuffed1rtt
  | ackReceived (info : AckInfo) (th : LossThresholds)
  | lossTimeout (th : LossThresholds)
  | probeTimeout (params : PktParams)
  | dropStream (streamId : StreamId)
  | recvPacket (pktNum : ℕ)

namespace SendQueue

/-- One step. A STREAM write that fails leaves the queue as it is. -/
def step (s : SendQueue) : SendEvent → SendQueue
  | .control params c notify bufSize handshakeDone =>
    writeControlFrame s params c notify bufSize handshakeDone
  | .stream highPri params streamId offset fin payload =>
    match writeStreamFrame s highPri params streamId offset fin payload with
    | .error _ => s
    | .ok (s, _) => s
  | .ack params ackDelay ackDelayExponent => writeAckToPackets s params ackDelay ackDelayExponent
  | .schedule t => schedulePacket s t
  | .clear t => pathSendBufferClear s t
  | .send t outcome srtt now => sendPacket s t outcome srtt now
  | .numberUnsent t n now => numberUnsent s t n now
  | .pathChallenge params data now => sendPathChallenge s params data now
  | .buff1rtt => buff1rttPackets s
  | .writeBuffed1rtt => writeBuffed1rttPackets s
  | .ackReceived info th => (onAckReceived s info th).1
  | .lossTimeout th => detectLost s th
  | .probeTimeout params => sendOneOrTwoAckElicitPkts s params
  | .dropStream streamId => dropStreamFramePackets s streamId
  | .recvPacket pktNum => { s with recvRecord := (recvRecordAdd s.recvRecord pktNum).1 }

/-- A run. -/
def run (s : SendQueue) (evs : List SendEvent) : SendQueue := evs.foldl step s

end SendQueue

/-- The values that an event puts on the wire fit the wire format. -/
def SendEvent.Wf : SendEvent → Prop
  | .control _ c _ _ _ => c.Wf
  | .stream _ _ streamId offset _ payload => streamId < 2 ^ 62 ∧ offset + payload.length < 2 ^ 62
  | .ack _ ackDelay ackDelayExponent => ackDelay / 2 ^ ackDelayExponent < 2 ^ 62
  | .pathChallenge _ data _ => data.length = pathChallengeDataLen
  | .recvPacket pktNum => pktNum < 2 ^ 62
  | _ => True

/-- Short-header packets of 1200 bytes. -/
def demoParams : PktParams := { pktOutSize := ⟨1200, by decide⟩, header := [0x40, 0, 0, 0, 0] }

/-! ## Bodies -/

/-- The packet without the marks of the send control. -/
def PacketOut.body (po : PacketOut) : PacketOut :=
  { po with
    pktNum := 0, poCcSize := 0, poSentTime := 0, poOriginRefCnt := 0, poAcked := false
    inFlight := false, lost := false, tlp := false, streamUnack := false, retransed := false
    inPathBufList := false, inUnackList := false, spuriousLoss := false }

theorem Content.of_body {e : ℕ} {po po' : PacketOut} {segs : List Seg}
    (hbody : po'.body = po.body) (h : Content e po segs) : Content e po' segs := by
  have hbuf : po'.poBuf = po.poBuf := (congrArg PacketOut.poBuf hbody :)
  have hpay : po'.poPayload = po.poPayload := (congrArg PacketOut.poPayload hbody :)
  have hlen : po'.streamNoLen = po.streamNoLen := (congrArg PacketOut.streamNoLen hbody :)
  have hsize : po'.poBufSize = po.poBufSize := (congrArg PacketOut.poBufSize hbody :)
  have htypes : po'.poFrameTypes = po.poFrameTypes := (congrArg PacketOut.poFrameTypes hbody :)
  refine ⟨?_, ?_, ?_, ?_⟩
  · rw [hbuf, hpay]
    exact h.header_le
  · rw [PacketOut.payload, hbuf, hpay]
    exact h.payload
  · rw [hlen]
    exact h.decodes
  · rw [hlen, PacketOut.remainedSize, hbuf, hsize, htypes]
    exact h.noLen

theorem AckPos.of_body {po po' : PacketOut} {segs : List Seg}
    (hbody : po'.body = po.body) (h : AckPos po segs) : AckPos po' segs := by
  have htypes : po'.poFrameTypes = po.poFrameTypes := (congrArg PacketOut.poFrameTypes hbody :)
  have hoff : po'.poAckOffset = po.poAckOffset := (congrArg PacketOut.poAckOffset hbody :)
  have hpay : po'.poPayload = po.poPayload := (congrArg PacketOut.poPayload hbody :)
  have hlargest : po'.poLargestAck = po.poLargestAck := (congrArg PacketOut.poLargestAck hbody :)
  refine ⟨?_, ?_⟩
  · rw [htypes]
    exact h.absent
  · rw [htypes, hoff, hpay, hlargest]
    exact h.present

theorem SlotInv.of_body {po po' : PacketOut} {segs : List Seg}
    (hbody : po'.body = po.body) (h : SlotInv po segs) : SlotInv po' segs := by
  have htypes : po'.poFrameTypes = po.poFrameTypes := (congrArg PacketOut.poFrameTypes hbody :)
  have hslots : po'.poStreamFrames = po.poStreamFrames := (congrArg PacketOut.poStreamFrames hbody :)
  have hpay : po'.poPayload = po.poPayload := (congrArg PacketOut.poPayload hbody :)
  unfold SlotInv
  rw [htypes, hslots, hpay]
  exact h

/-! ## Elementary steps of the send control -/

/-- The lists whose packets may still be filled: originals that were not sent. -/
def Place.fillable : Place → Bool
  | .sendPackets | .sendPacketsHighPri | .buff1rttPackets | .scheduleBuf .normal
  | .scheduleBuf .normalHighPri => true
  | _ => false

/-- The elementary steps of the send control: marks are set, packets change lists, a packet is copied
or made for a control frame, the socket gets a packet, the packet-number space moves on. -/
inductive CtlStep : SendQueue → SendQueue → Prop where
  | mark (s : SendQueue) (pkts : PktId → PacketOut)
      (hbody : ∀ id, (pkts id).body = (s.pkts id).body) : CtlStep s { s with pkts := pkts }
  | lists (s : SendQueue) (lists : Place → List PktId)
      (hmem : ∀ p, ∀ id ∈ lists p, (id < s.nextId ∨ ∃ q, id ∈ s.lists q) ∧
        (p.fillable = true → ∃ q, q.fillable = true ∧ id ∈ s.lists q)) :
      CtlStep s { s with lists := lists }
  | copy (s : SendQueue) (p : Place) (src : PktId) (copy : PacketOut) (hp : p.fillable = false)
      (hsrc : src < s.nextId) (hcopy : (s.pkts src).retransmission src = some copy) :
      CtlStep s (s.insertNew p copy)
  | control (s : SendQueue) (p : Place) (params : PktParams) (c : ControlFrame) (notify : Bool)
      (bufSize : ℕ) (po : PacketOut) (hwf : c.Wf)
      (hpo : controlPacket params c notify bufSize = .ok po) : CtlStep s (s.insertNew p po)
  | socket (s : SendQueue) (id : PktId) (pktNum : ℕ) (hid : id < s.nextId) :
      CtlStep s { s with wire := s.wire ++ [⟨pktNum, (s.pkts id).payload⟩] }
  | pn (s : SendQueue) (largestAcked : Option ℕ) (packetNumber largestSent largestAckedAck : ℕ)
      (ackSentRecord : AckSentRecord) :
      CtlStep s { s with
        largestAcked := largestAcked, packetNumber := packetNumber, largestSent := largestSent
        largestAckedAck := largestAckedAck, ackSentRecord := ackSentRecord }
  | record (s : SendQueue) (record : RecvRecord)
      (hbelow : s.recvRecord.Below (2 ^ 62) → record.Below (2 ^ 62)) :
      CtlStep s { s with recvRecord := record }

/-- Sequences of elementary steps. -/
abbrev CtlSteps : SendQueue → SendQueue → Prop := Relation.ReflTransGen CtlStep

theorem CtlStep.nextId_le {s s' : SendQueue} (h : CtlStep s s') : s.nextId ≤ s'.nextId := by
  cases h <;> first | exact le_rfl | exact Nat.le_succ _

theorem CtlSteps.nextId_le {s s' : SendQueue} (h : CtlSteps s s') : s.nextId ≤ s'.nextId := by
  induction h with
  | refl => exact le_rfl
  | tail _ hstep ih => exact ih.trans hstep.nextId_le

@[simp] theorem body_decreaseInflight (po : PacketOut) : po.decreaseInflight.body = po.body := by
  unfold PacketOut.decreaseInflight
  split_ifs <;> rfl

@[simp] theorem body_onAcked (po : PacketOut) : po.onAcked.body = po.body :=
  body_decreaseInflight po

@[simp] theorem body_onSent (po : PacketOut) : po.onSent.body = po.body := by
  unfold PacketOut.onSent PacketOut.increaseUnackedStreamRef PacketOut.increaseInflight
  split_ifs <;> rfl

theorem modify_ctl (s : SendQueue) (id : PktId) {f : PacketOut → PacketOut}
    (hf : ∀ po, (f po).body = po.body) : CtlSteps s (s.modify id f) := by
  refine .single (.mark s _ fun id' => ?_)
  by_cases h : id' = id
  · rw [h, Function.update_self, hf]
  · rw [Function.update_of_ne h]

theorem unlink_ctl (s : SendQueue) (id : PktId) : CtlSteps s (s.unlink id) := by
  refine .single (.lists s _ fun p id' hid' => ?_)
  have hmem := (List.mem_filter.1 hid').1
  exact ⟨.inr ⟨p, hmem⟩, fun hp => ⟨p, hp, hmem⟩⟩

theorem removeUnacked_ctl (s : SendQueue) (id : PktId) : CtlSteps s (removeUnacked s id) :=
  (unlink_ctl s id).trans (modify_ctl _ id fun _ => rfl)

theorem pathSendBufferRemove_ctl (s : SendQueue) (id : PktId) :
    CtlSteps s (pathSendBufferRemove s id) :=
  (unlink_ctl s id).trans (modify_ctl _ id fun _ => rfl)

theorem releaseOrigin_ctl (s : SendQueue) (origin : PktId) :
    CtlSteps s (releaseOrigin s origin) := by
  have hrel : CtlSteps s (s.modify origin PacketOut.release) := modify_ctl s origin fun _ => rfl
  unfold releaseOrigin
  split_ifs
  · exact (hrel.trans (modify_ctl _ origin body_decreaseInflight)).trans (removeUnacked_ctl _ _)
  · exact hrel

theorem leaveList_ctl (s : SendQueue) (id : PktId) (path : Bool) :
    CtlSteps s (leaveList s id path) := by
  unfold leaveList
  split_ifs
  · exact pathSendBufferRemove_ctl s id
  · exact removeUnacked_ctl s id

theorem maybeRemoveUnacked_ctl (s : SendQueue) (id : PktId) (path : Bool) :
    CtlSteps s (maybeRemoveUnacked s id path) := by
  unfold maybeRemoveUnacked
  split
  · split_ifs
    · exact .refl
    · exact leaveList_ctl s id path
  · exact (leaveList_ctl s id path).trans (releaseOrigin_ctl _ _)

theorem onPacketAcked_ctl (s : SendQueue) (id : PktId) : CtlSteps s (onPacketAcked s id) := by
  have hacked : CtlSteps s (s.modify id PacketOut.onAcked) := modify_ctl s id body_onAcked
  unfold onPacketAcked
  split
  · exact hacked
  · exact hacked.trans (modify_ctl _ _ fun _ => rfl)

theorem indirectlyAckOrDropPo_ctl {s s' : SendQueue} {id : PktId}
    (h : indirectlyAckOrDropPo s id = some s') : CtlSteps s s' := by
  unfold indirectlyAckOrDropPo at h
  split_ifs at h
  · obtain rfl := Option.some.inj h
    exact (onPacketAcked_ctl s id).trans (maybeRemoveUnacked_ctl _ _ _)
  · obtain rfl := Option.some.inj h
    exact maybeRemoveUnacked_ctl _ _ _

theorem move_ctl (s : SendQueue) {p q : Place} {id : PktId} (hid : id ∈ s.lists q)
    (hfill : p.fillable = true → q.fillable = true) :
    CtlSteps s ((s.unlink id).pushTail p id) := by
  refine .single (.lists s _ fun p' id' hid' => ?_)
  rcases SendQueue.mem_pushTail.1 hid' with hmem | ⟨rfl, rfl⟩
  · have hmem' := (List.mem_filter.1 hmem).1
    exact ⟨.inr ⟨p', hmem'⟩, fun hp => ⟨p', hp, hmem'⟩⟩
  · exact ⟨.inr ⟨q, hid⟩, fun hp => ⟨q, hfill hp, hid⟩⟩

theorem SendType.fillable_source (t : SendType) :
    t.source.fillable = (Place.scheduleBuf t).fillable := by
  cases t <;> rfl

@[simp] theorem body_enterPathBuf (po : PacketOut) : po.enterPathBuf.body = po.body := by
  unfold PacketOut.enterPathBuf
  split_ifs <;> rfl

theorem schedulePacket_ctl (s : SendQueue) (t : SendType) : CtlSteps s (schedulePacket s t) := by
  unfold schedulePacket
  split
  · exact .refl
  · rename_i id ids hids
    have hid : id ∈ s.lists t.source := hids ▸ List.mem_cons_self
    exact (move_ctl s hid fun hp => t.fillable_source.trans hp).trans
      (modify_ctl _ id body_enterPathBuf)

theorem pathSendBufferClear_ctl (s : SendQueue) (t : SendType) :
    CtlSteps s (pathSendBufferClear s t) := by
  set pkts : PktId → PacketOut := fun id =>
    if id ∈ s.lists (.scheduleBuf t) then (s.pkts id).leavePathBuf else s.pkts id with hpkts
  have hmark : CtlStep s { s with pkts := pkts } := by
    refine .mark s pkts fun id => ?_
    rw [hpkts]
    simp only
    split_ifs <;> rfl
  refine (Relation.ReflTransGen.single hmark).trans (.single (.lists _ _ fun p id hid => ?_))
  by_cases hp : p = t.source
  · subst hp
    rw [Function.update_self] at hid
    rcases List.mem_append.1 hid with hid | hid
    · exact ⟨.inr ⟨_, hid⟩, fun hfill => ⟨_, t.fillable_source.symm.trans hfill, hid⟩⟩
    · exact ⟨.inr ⟨_, hid⟩, fun hfill => ⟨_, hfill, hid⟩⟩
  · rw [Function.update_of_ne hp] at hid
    by_cases hp' : p = .scheduleBuf t
    · rw [hp', Function.update_self] at hid
      cases hid
    · rw [Function.update_of_ne hp'] at hid
      exact ⟨.inr ⟨p, hid⟩, fun hfill => ⟨p, hfill, hid⟩⟩

theorem pn_ctl (s : SendQueue) (largestAcked : Option ℕ)
    (packetNumber largestSent largestAckedAck : ℕ) (ackSentRecord : AckSentRecord) :
    CtlSteps s { s with
      largestAcked := largestAcked, packetNumber := packetNumber, largestSent := largestSent
      largestAckedAck := largestAckedAck, ackSentRecord := ackSentRecord } :=
  .single (.pn s _ _ _ _ _)

theorem setNextPn_ctl (s : SendQueue) (id : PktId) (now : ℕ) : CtlSteps s (setNextPn s id now) :=
  (modify_ctl s id (f := PacketOut.number s.packetNumber now) fun _ => rfl).trans
    (pn_ctl _ _ _ _ _ _)

theorem numberUnsent_ctl (s : SendQueue) (t : SendType) (n now : ℕ) :
    CtlSteps s (numberUnsent s t n now) := by
  unfold numberUnsent
  generalize (s.lists (.scheduleBuf t)).take n = ids
  induction ids generalizing s with
  | nil => exact .refl
  | cons id ids ih => exact (setNextPn_ctl s id now).trans (ih _)

theorem onPacketSent_ctl (s : SendQueue) (id : PktId) (srtt now : ℕ) :
    CtlSteps s (onPacketSent s id srtt now) :=
  (modify_ctl s id body_onSent).trans (pn_ctl _ _ _ _ _ _)

theorem insertUnacked_ctl (s : SendQueue) {id : PktId} (hid : id < s.nextId) :
    CtlSteps s (insertUnacked s id) := by
  unfold insertUnacked
  split_ifs
  · refine .trans (.single (.lists s _ fun p id' hid' => ?_)) (modify_ctl _ id fun _ => rfl)
    rcases SendQueue.mem_pushTail.1 hid' with hmem | ⟨rfl, rfl⟩
    · exact ⟨.inr ⟨p, hmem⟩, fun hfill => ⟨p, hfill, hmem⟩⟩
    · exact ⟨.inl hid, fun hfill => by cases hfill⟩
  · exact .refl

theorem writeSocket_ctl (s : SendQueue) {id : PktId} (hid : id < s.nextId) :
    CtlSteps s (writeSocket s id) :=
  .single (.socket s id _ hid)

theorem transmit_ctl (s : SendQueue) {id : PktId} (srtt now : ℕ) (hid : id < s.nextId) :
    CtlSteps s (transmit s id srtt now) :=
  (((setNextPn_ctl s id now).trans (writeSocket_ctl _ hid)).trans
    ((onPacketSent_ctl _ id srtt now).trans (pathSendBufferRemove_ctl _ id))).trans
    (insertUnacked_ctl _ hid)

theorem markRetrans_ctl (s : SendQueue) (t : SendType) (id : PktId) :
    CtlSteps s (markRetrans s t id) := by
  unfold markRetrans
  split_ifs
  · exact modify_ctl s id fun _ => rfl
  · exact .refl

/-- Every listed packet has a handle that was given out. -/
def SendQueue.Fresh (s : SendQueue) : Prop := ∀ p, ∀ id ∈ s.lists p, id < s.nextId

theorem SendQueue.Fresh.insertNew {s : SendQueue} (hs : s.Fresh) (p : Place) (po : PacketOut) :
    (s.insertNew p po).Fresh := by
  intro q id hid
  rcases (SendQueue.mem_insertNew _).1 hid with hid | ⟨-, rfl⟩
  · exact Nat.lt_succ_of_lt (hs q id hid)
  · exact Nat.lt_succ_self _

theorem sendPacket_ctl {s : SendQueue} (hs : s.Fresh) (t : SendType) (outcome : SendOutcome)
    (srtt now : ℕ) : CtlSteps s (sendPacket s t outcome srtt now) := by
  unfold sendPacket
  split
  · exact .refl
  · rename_i id ids hids
    have hid : id < s.nextId := hs _ id (hids ▸ List.mem_cons_self)
    split
    · rename_i s' hs'
      exact indirectlyAckOrDropPo_ctl hs'
    · have hmark := markRetrans_ctl s t id
      cases outcome with
      | blocked => exact hmark
      | again => exact hmark.trans (setNextPn_ctl _ id now)
      | sent => exact hmark.trans (transmit_ctl _ srtt now (hid.trans_le hmark.nextId_le))

theorem rearrange_ctl (s : SendQueue) (lists : Place → List PktId)
    (h : ∀ p, ∀ id ∈ lists p, ∃ q, (p.fillable = true → q.fillable = true) ∧ id ∈ s.lists q) :
    CtlSteps s { s with lists := lists } := by
  refine .single (.lists s lists fun p id hid => ?_)
  obtain ⟨q, hfill, hq⟩ := h p id hid
  exact ⟨.inr ⟨q, hq⟩, fun hp => ⟨q, hfill hp, hq⟩⟩

theorem buff1rttPackets_ctl (s : SendQueue) : CtlSteps s (buff1rttPackets s) := by
  refine rearrange_ctl s _ fun p id hid => ?_
  by_cases hp : p = .buff1rttPackets
  · subst hp
    rw [Function.update_self] at hid
    rcases List.mem_append.1 hid with hid | hid
    · exact ⟨.buff1rttPackets, fun h => h, hid⟩
    · exact ⟨.sendPackets, fun _ => rfl, (List.mem_filter.1 hid).1⟩
  · rw [Function.update_of_ne hp] at hid
    by_cases hp' : p = .sendPackets
    · rw [hp', Function.update_self] at hid
      exact ⟨.sendPackets, fun _ => rfl, (List.mem_filter.1 hid).1⟩
    · rw [Function.update_of_ne hp'] at hid
      exact ⟨p, fun h => h, hid⟩

theorem writeBuffed1rttPackets_ctl (s : SendQueue) : CtlSteps s (writeBuffed1rttPackets s) := by
  refine rearrange_ctl s _ fun p id hid => ?_
  by_cases hp : p = .sendPackets
  · subst hp
    rw [Function.update_self] at hid
    rcases List.mem_append.1 hid with hid | hid
    · exact ⟨.sendPackets, fun _ => rfl, hid⟩
    · exact ⟨.buff1rttPackets, fun _ => rfl, hid⟩
  · rw [Function.update_of_ne hp] at hid
    by_cases hp' : p = .buff1rttPackets
    · rw [hp', Function.update_self] at hid
      cases hid
    · rw [Function.update_of_ne hp'] at hid
      exact ⟨p, fun h => h, hid⟩

theorem dropStreamFramePackets_ctl (s : SendQueue) (streamId : StreamId) :
    CtlSteps s (dropStreamFramePackets s streamId) := by
  unfold dropStreamFramePackets
  set pkts : PktId → PacketOut := fun id =>
    if ¬ streamFrameCanDrop (s.pkts id) streamId then s.pkts id
    else if id ∈ s.lists .unackedPackets then (s.pkts id).decreaseInflight.leaveUnackList
    else if id ∈ s.lists (.scheduleBuf .normal) ∨ id ∈ s.lists (.scheduleBuf .retrans) ∨
        id ∈ s.lists (.scheduleBuf .ptoProbe) then (s.pkts id).leavePathBuf
    else s.pkts id with hpkts
  have hmark : CtlStep s { s with pkts := pkts } := by
    refine .mark s pkts fun id => ?_
    rw [hpkts]
    simp only
    split_ifs <;> first | rfl | exact body_decreaseInflight _
  refine (Relation.ReflTransGen.single hmark).trans (rearrange_ctl _ _ fun p id hid => ⟨p, fun h => h, ?_⟩)
  split_ifs at hid
  · exact (List.mem_filter.1 hid).1
  · exact hid

/-! ## Copies, loss and acknowledgement -/

@[simp] theorem body_modify (s : SendQueue) (id id' : PktId) {f : PacketOut → PacketOut}
    (hf : ∀ po, (f po).body = po.body) : ((s.modify id f).pkts id').body = (s.pkts id').body := by
  by_cases h : id' = id
  · rw [h]
    exact (congrArg PacketOut.body (Function.update_self ..)).trans (hf _)
  · exact congrArg PacketOut.body (Function.update_of_ne h ..)

theorem copyTo_ctl (s : SendQueue) {p : Place} {src : PktId} (hp : p.fillable = false)
    (hsrc : src < s.nextId) : CtlSteps s (copyTo s p src) := by
  unfold copyTo
  split
  · exact .refl
  · rename_i copy hcopy
    refine .trans (.single (.copy s p src copy hp hsrc hcopy)) (.single (.mark _ _ fun id => ?_))
    refine (body_modify _ src id (f := PacketOut.markRetransed) fun _ => rfl).trans ?_
    -- the copy is new, so the reference count of the origin can be raised after it
    by_cases hid : id = s.nextId
    · subst hid
      simp only [SendQueue.insertNew, SendQueue.modify_nextId, Function.update_self]
    · simp only [SendQueue.insertNew, SendQueue.modify_nextId, Function.update_of_ne hid]
      exact body_modify s _ id (f := PacketOut.retain) fun _ => rfl

theorem onPacketLost_ctl (s : SendQueue) {id : PktId} (hid : id < s.nextId) :
    CtlSteps s (onPacketLost s id) := by
  have hdec : CtlSteps s (s.modify id PacketOut.decreaseInflight) :=
    modify_ctl s id body_decreaseInflight
  unfold onPacketLost
  split_ifs
  · exact hdec.trans (copyTo_ctl _ rfl hid)
  · exact hdec.trans (removeUnacked_ctl _ id)
  · exact .refl

theorem detectLost_ctl {s : SendQueue} (hs : s.Fresh) (th : LossThresholds) :
    CtlSteps s (detectLost s th) := by
  refine detectLost_induct (P := CtlSteps s) ?_ ?_ .refl
  · intro s₁ id hid s₂ hs₂ h
    exact h.trans (indirectlyAckOrDropPo_ctl hs₂)
  · intro s₁ id hid h
    exact h.trans (onPacketLost_ctl s₁ ((hs _ id hid).trans_le h.nextId_le))

theorem sendProbePkt_ctl (s : SendQueue) {id : PktId} (hid : id < s.nextId) :
    CtlSteps s (sendProbePkt s id) := by
  unfold sendProbePkt
  split_ifs
  · exact .refl
  · exact ((modify_ctl s id body_decreaseInflight).trans (copyTo_ctl _ rfl hid)).trans
      (modify_ctl _ id fun _ => rfl)

theorem sendPingToProbe_ctl (s : SendQueue) (params : PktParams) :
    CtlSteps s (sendPingToProbe s params) := by
  unfold sendPingToProbe
  split
  · exact .refl
  · rename_i po hpo
    exact .single (.control s _ params .ping false 0 po trivial hpo)

theorem sendOneOrTwoAckElicitPkts_ctl {s : SendQueue} (hs : s.Fresh) (params : PktParams) :
    CtlSteps s (sendOneOrTwoAckElicitPkts s params) := by
  refine sendOneOrTwoAckElicitPkts_induct (P := CtlSteps s) ?_ ?_ ?_ .refl
  · intro s₁ id hid s₂ hs₂ h
    exact h.trans (indirectlyAckOrDropPo_ctl hs₂)
  · intro s₁ id hid h
    exact h.trans (sendProbePkt_ctl s₁ ((hs _ id hid).trans_le h.nextId_le))
  · intro s₁ h
    exact h.trans (sendPingToProbe_ctl s₁ params)

theorem ackSentOnAck_ctl (s : SendQueue) (info : AckInfo) :
    CtlSteps s (ackSentOnAck s info).sndq := by
  unfold ackSentOnAck
  split
  · exact .refl
  · exact pn_ctl _ _ _ _ _ _

@[simp] theorem body_markSpuriousLoss (po : PacketOut) : po.markSpuriousLoss.body = po.body := by
  unfold PacketOut.markSpuriousLoss
  split_ifs <;> rfl

theorem ackPacket_ctl (w : AckWalk) (id : PktId) : CtlSteps w.sndq (w.ackPacket id).sndq :=
  (((pn_ctl _ _ _ _ _ _).trans (modify_ctl _ id body_markSpuriousLoss)).trans
    (onPacketAcked_ctl _ id)).trans (maybeRemoveUnacked_ctl _ id false)

theorem ackWalk_ctl {frameLargestAck : ℕ} {ranges : List PktnoRange} {ids : List PktId}
    {w : AckWalk} : CtlSteps w.sndq (ackWalk frameLargestAck ranges ids w).sndq := by
  refine ackWalk_sndq_induct (P := CtlSteps w.sndq) ?_ .refl
  intro w₁ id hid h
  exact h.trans (ackPacket_ctl w₁ id)

theorem ackProcess_ctl (s : SendQueue) (info : AckInfo) : CtlSteps s (ackProcess s info).sndq := by
  unfold ackProcess
  split
  · exact .refl
  · exact (ackSentOnAck_ctl s info).trans ackWalk_ctl

theorem CtlStep.fresh {s s' : SendQueue} (h : CtlStep s s') (hs : s.Fresh) : s'.Fresh := by
  cases h with
  | mark | socket | pn | record => exact hs
  | lists lists hmem =>
      intro p id hid
      rcases (hmem p id hid).1 with hlt | ⟨q, hq⟩
      · exact hlt
      · exact hs q id hq
  | copy | control => exact hs.insertNew _ _

theorem CtlSteps.fresh {s s' : SendQueue} (h : CtlSteps s s') (hs : s.Fresh) : s'.Fresh := by
  induction h with
  | refl => exact hs
  | tail _ hstep ih => exact hstep.fresh ih

theorem onAckReceived_ctl {s : SendQueue} (hs : s.Fresh) (info : AckInfo) (th : LossThresholds) :
    CtlSteps s (onAckReceived s info th).1 := by
  have hproc := ackProcess_ctl s info
  have hdet := hproc.trans (detectLost_ctl (hproc.fresh hs) th)
  unfold onAckReceived
  simp only
  split_ifs
  · exact hproc
  · exact hdet.trans (.single (.record _ _ fun h => h.del _))
  · exact hdet

theorem sendPathChallenge_ctl (s : SendQueue) (params : PktParams) {data : Bytes} (now : ℕ)
    (hwf : data.length = pathChallengeDataLen) :
    CtlSteps s (sendPathChallenge s params data now) := by
  unfold sendPathChallenge
  split
  · exact .refl
  · rename_i po hpo
    have hnew : CtlSteps s (s.insertNew .sendPackets po) :=
      .single (.control s _ params (.pathChallenge data) false 0 po hwf hpo)
    exact ((hnew.trans (setNextPn_ctl _ s.nextId now)).trans
      (writeSocket_ctl _ (Nat.lt_succ_self _))).trans (unlink_ctl _ _)

theorem writeControlFrame_ctl (s : SendQueue) (params : PktParams) {c : ControlFrame} (notify : Bool)
    (bufSize : ℕ) (handshakeDone : Bool) (hwf : c.Wf) :
    CtlSteps s (writeControlFrame s params c notify bufSize handshakeDone) := by
  unfold writeControlFrame
  split
  · exact .refl
  · rename_i po hpo
    exact .single (.control s _ params c notify bufSize po hwf hpo)

/-- The events that fill packets which are already in the queue, or may do so. -/
def SendEvent.fills : SendEvent → Bool
  | .stream .. | .ack .. => true
  | _ => false

/-- **An event that fills no packet is a sequence of elementary steps.** -/
theorem step_ctl {s : SendQueue} (hs : s.Fresh) {ev : SendEvent} (hwf : ev.Wf)
    (hfills : ev.fills = false) : CtlSteps s (s.step ev) := by
  cases ev with
  | stream | ack => cases hfills
  | control params c notify bufSize handshakeDone =>
      exact writeControlFrame_ctl s params notify bufSize handshakeDone hwf
  | schedule t => exact schedulePacket_ctl s t
  | clear t => exact pathSendBufferClear_ctl s t
  | send t outcome srtt now => exact sendPacket_ctl hs t outcome srtt now
  | numberUnsent t n now => exact numberUnsent_ctl s t n now
  | pathChallenge params data now => exact sendPathChallenge_ctl s params now hwf
  | buff1rtt => exact buff1rttPackets_ctl s
  | writeBuffed1rtt => exact writeBuffed1rttPackets_ctl s
  | ackReceived info th => exact onAckReceived_ctl hs info th
  | lossTimeout th => exact detectLost_ctl hs th
  | probeTimeout params => exact sendOneOrTwoAckElicitPkts_ctl hs params
  | dropStream streamId => exact dropStreamFramePackets_ctl s streamId
  | recvPacket pktNum => exact .single (.record s _ fun h => h.add hwf)

end Rquic

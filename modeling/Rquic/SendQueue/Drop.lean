import Rquic.SendQueue.AckOfAck
import Rquic.SendQueue.Unsent

set_option autoImplicit false

/-!
# Dropping the packets of a stream

`rqc_send_queue_drop_stream_frame_packets` walks the lists one by one. It does not know the list of
high-priority packets, the list of buffered 1-RTT packets and the high-priority path buffer.

* `Absent`: no packet in a list has a property; `Inherited`: properties that packets keep and that copies
  take over.
* `Carries`: what comes to stand in a list stood in one before, or is new and without the property.
* `onAckReceived_carries`, `sendPacket_carries`, ...: the operations of the send control.
* **`absent_step`**: no event but a STREAM frame of the stream brings a packet of the stream back.
* `step_wire`: what the socket gets is the packet that the event sends.
* **`dropComplete_iff`**: nothing of the stream is left, and nothing of it is sent any more, exactly when
  the lists that are not walked held nothing of it.
* **`DropComplete.wire`**: then the socket gets nothing of it.
-/

namespace Rquic

/-! ## Properties of packets -/

/-- A property that packets do not gain from marks, that copies have from their source, and that packets of
control frames do not have. -/
structure Inherited (P : PacketOut → Prop) : Prop where
  body : ∀ {po po' : PacketOut}, po'.body = po.body → P po' → P po
  copy : ∀ {po po' : PacketOut} {id : PktId}, po.retransmission id = some po' → P po' → P po
  control : ∀ {params : PktParams} {c : ControlFrame} {notify : Bool} {bufSize : ℕ} {po : PacketOut},
    controlPacket params c notify bufSize = .ok po → ¬ P po

/-- No packet in a list has the property. -/
def Absent (P : PacketOut → Prop) (s : SendQueue) : Prop := ∀ p, ∀ id ∈ s.lists p, ¬ P (s.pkts id)

/-- The packet `id` is there and does not have the property. -/
def Lacks (P : PacketOut → Prop) (s : SendQueue) (id : PktId) : Prop := id < s.nextId ∧ ¬ P (s.pkts id)

theorem CtlSteps.body {s s' : SendQueue} (h : CtlSteps s s') {id : PktId} (hid : id < s.nextId) :
    (s'.pkts id).body = (s.pkts id).body := by
  induction h with
  | refl => rfl
  | tail hsteps hstep ih =>
      have hlt := hid.trans_le (CtlSteps.nextId_le hsteps)
      rw [← ih]
      cases hstep with
      | mark pkts hbody => exact hbody id
      | copy | control => rw [SendQueue.insertNew_pkts_of_ne _ _ _ hlt.ne]
      | lists | socket | pn | record => rfl

/-- Steps of the send control after which a packet in a list stood in one before, or is new and without the
property. -/
structure Carries (P : PacketOut → Prop) (s s' : SendQueue) : Prop where
  steps : CtlSteps s s'
  listed : ∀ p, ∀ id ∈ s'.lists p, (∃ q, id ∈ s.lists q) ∨ (s.nextId ≤ id ∧ ¬ P (s'.pkts id))

theorem Absent.carries {P : PacketOut → Prop} {s s' : SendQueue} (hP : Inherited P) (h : Absent P s)
    (hfresh : s.Fresh) (hc : Carries P s s') : Absent P s' := by
  intro p id hid
  rcases hc.listed p id hid with ⟨q, hq⟩ | ⟨-, hno⟩
  · exact mt (hP.body (hc.steps.body (hfresh q id hq))) (h q id hq)
  · exact hno

theorem Lacks.steps {P : PacketOut → Prop} {s s' : SendQueue} {id : PktId} (hP : Inherited P)
    (h : Lacks P s id) (hsteps : CtlSteps s s') : Lacks P s' id :=
  ⟨h.1.trans_le (CtlSteps.nextId_le hsteps), mt (hP.body (hsteps.body h.1)) h.2⟩

section Carry

variable {P : PacketOut → Prop} {s s' s'' : SendQueue} {id : PktId}

namespace Carries

theorem of_lists (hsteps : CtlSteps s s') (hlists : ∀ p, ∀ id ∈ s'.lists p, ∃ q, id ∈ s.lists q) :
    Carries P s s' := ⟨hsteps, fun p id hid => .inl (hlists p id hid)⟩

theorem refl (s : SendQueue) : Carries P s s := of_lists .refl fun p _ hid => ⟨p, hid⟩

theorem trans (hP : Inherited P) (hfresh : s.Fresh) (h : Carries P s s') (h' : Carries P s' s'') :
    Carries P s s'' := by
  refine ⟨h.steps.trans h'.steps, fun p id hid => ?_⟩
  rcases h'.listed p id hid with ⟨q, hq⟩ | ⟨hle, hno⟩
  · rcases h.listed q id hq with hold | ⟨hle, hno⟩
    · exact .inl hold
    · have hlt := h.steps.fresh hfresh q id hq
      exact .inr ⟨hle, mt (hP.body (h'.steps.body hlt)) hno⟩
  · exact .inr ⟨(CtlSteps.nextId_le h.steps).trans hle, hno⟩

/-- A step that only marks packets and takes them out of lists. -/
theorem shrink (hsteps : CtlSteps s s') (hlists : ∀ p, s'.lists p ⊆ s.lists p) : Carries P s s' :=
  of_lists hsteps fun p _ hid => ⟨p, hlists p hid⟩

end Carries

theorem insertNew_listed {p : Place} {po : PacketOut} (hno : ¬ P po) (q : Place) (id : PktId)
    (hid : id ∈ (s.insertNew p po).lists q) :
    (∃ r, id ∈ s.lists r) ∨ (s.nextId ≤ id ∧ ¬ P ((s.insertNew p po).pkts id)) := by
  rcases (SendQueue.mem_insertNew po).1 hid with hmem | ⟨-, rfl⟩
  · exact .inl ⟨q, hmem⟩
  · refine .inr ⟨le_rfl, ?_⟩
    rwa [SendQueue.insertNew_pkts_nextId]

/-! ## Lists that only shrink -/

/-- No list gains a packet. -/
def Shrunk (s s' : SendQueue) : Prop := ∀ p, s'.lists p ⊆ s.lists p

theorem Shrunk.refl (s : SendQueue) : Shrunk s s := fun _ => List.Subset.refl _

theorem Shrunk.trans (h : Shrunk s s') (h' : Shrunk s' s'') : Shrunk s s'' :=
  fun p _ hid => h p (h' p hid)

theorem removeUnacked_shrunk (s : SendQueue) (id : PktId) : Shrunk s (removeUnacked s id) :=
  fun _ => List.filter_sublist.subset

theorem leaveList_shrunk (s : SendQueue) (id : PktId) (path : Bool) : Shrunk s (leaveList s id path) := by
  intro p
  unfold leaveList
  split_ifs
  · exact List.filter_sublist.subset
  · exact List.filter_sublist.subset

theorem releaseOrigin_shrunk (s : SendQueue) (origin : PktId) : Shrunk s (releaseOrigin s origin) := by
  unfold releaseOrigin
  split_ifs
  · exact removeUnacked_shrunk _ origin
  · exact Shrunk.refl _

theorem maybeRemoveUnacked_shrunk (s : SendQueue) (id : PktId) (path : Bool) :
    Shrunk s (maybeRemoveUnacked s id path) := by
  unfold maybeRemoveUnacked
  split
  · split_ifs
    · exact Shrunk.refl s
    · exact leaveList_shrunk s id path
  · exact (leaveList_shrunk s id path).trans (releaseOrigin_shrunk _ _)

theorem onPacketAcked_shrunk (s : SendQueue) (id : PktId) : Shrunk s (onPacketAcked s id) := by
  unfold onPacketAcked
  split <;> exact Shrunk.refl _

theorem indirectlyAckOrDropPo_shrunk (h : indirectlyAckOrDropPo s id = some s') : Shrunk s s' := by
  unfold indirectlyAckOrDropPo at h
  split_ifs at h
  · obtain rfl := Option.some.inj h
    exact (onPacketAcked_shrunk s id).trans (maybeRemoveUnacked_shrunk _ _ _)
  · obtain rfl := Option.some.inj h
    exact maybeRemoveUnacked_shrunk _ _ _

theorem indirectlyAckOrDropPo_carries (h : indirectlyAckOrDropPo s id = some s') : Carries P s s' :=
  .shrink (indirectlyAckOrDropPo_ctl h) (indirectlyAckOrDropPo_shrunk h)

/-! ## Scheduling and sending -/

/-- A packet that waits goes to the tail of another list. -/
theorem mem_move {p q r : Place} {id id' : PktId} (hid : id ∈ s.lists q)
    (hmem : id' ∈ ((s.unlink id).pushTail p id).lists r) : ∃ r, id' ∈ s.lists r := by
  rcases SendQueue.mem_pushTail.1 hmem with hmem | ⟨-, rfl⟩
  · exact ⟨r, (List.mem_filter.1 hmem).1⟩
  · exact ⟨q, hid⟩

theorem schedulePacket_carries (s : SendQueue) (t : SendType) : Carries P s (schedulePacket s t) := by
  refine .of_lists (schedulePacket_ctl s t) fun p id' hid' => ?_
  unfold schedulePacket at hid'
  split at hid'
  · exact ⟨p, hid'⟩
  · rename_i id ids hids
    exact mem_move (hids ▸ List.mem_cons_self : id ∈ s.lists t.source) hid'

theorem mem_carry {a b : Place} {l l' : List PktId} (hl : l ⊆ s.lists a)
    (hl' : ∀ id ∈ l', ∃ q, id ∈ s.lists q) (p : Place) (id : PktId)
    (hid : id ∈ Function.update (Function.update s.lists a l) b l' p) : ∃ q, id ∈ s.lists q := by
  by_cases hb : p = b
  · subst hb
    rw [Function.update_self] at hid
    exact hl' id hid
  rw [Function.update_of_ne hb] at hid
  by_cases ha : p = a
  · subst ha
    rw [Function.update_self] at hid
    exact ⟨p, hl hid⟩
  · rw [Function.update_of_ne ha] at hid
    exact ⟨p, hid⟩

theorem mem_lists_append {a b : Place} {id : PktId} (hid : id ∈ s.lists a ++ s.lists b) :
    ∃ q, id ∈ s.lists q := by
  rcases List.mem_append.1 hid with hid | hid
  · exact ⟨a, hid⟩
  · exact ⟨b, hid⟩

theorem pathSendBufferClear_carries (s : SendQueue) (t : SendType) :
    Carries P s (pathSendBufferClear s t) :=
  .of_lists (pathSendBufferClear_ctl s t)
    (mem_carry (List.nil_subset _) fun _ hid => mem_lists_append hid)

theorem buff1rttPackets_carries (s : SendQueue) : Carries P s (buff1rttPackets s) := by
  refine .of_lists (buff1rttPackets_ctl s) (mem_carry List.filter_sublist.subset fun id hid => ?_)
  rcases List.mem_append.1 hid with hid | hid
  · exact ⟨.buff1rttPackets, hid⟩
  · exact ⟨.sendPackets, (List.mem_filter.1 hid).1⟩

theorem writeBuffed1rttPackets_carries (s : SendQueue) : Carries P s (writeBuffed1rttPackets s) :=
  .of_lists (writeBuffed1rttPackets_ctl s)
    (mem_carry (List.nil_subset _) fun _ hid => mem_lists_append hid)

theorem numberUnsent_lists (s : SendQueue) (t : SendType) (n now : ℕ) :
    (numberUnsent s t n now).lists = s.lists := by
  unfold numberUnsent
  generalize (s.lists (.scheduleBuf t)).take n = ids
  induction ids generalizing s with
  | nil => rfl
  | cons id ids ih => exact ih (setNextPn s id now)

theorem numberUnsent_carries (s : SendQueue) (t : SendType) (n now : ℕ) :
    Carries P s (numberUnsent s t n now) := by
  refine .shrink (numberUnsent_ctl s t n now) fun p => ?_
  rw [numberUnsent_lists]
  exact List.Subset.refl _

theorem markRetrans_lists (s : SendQueue) (t : SendType) (id : PktId) :
    (markRetrans s t id).lists = s.lists := by
  unfold markRetrans
  split_ifs <;> rfl

theorem mem_lists_transmit {id id' : PktId} {srtt now : ℕ} {p : Place}
    (hid : id' ∈ (transmit s id srtt now).lists p) : id' ∈ s.lists p ∨ id' = id := by
  unfold transmit insertUnacked at hid
  split_ifs at hid
  · rcases SendQueue.mem_pushTail.1 hid with hmem | ⟨-, rfl⟩
    · exact .inl (List.mem_filter.1 hmem).1
    · exact .inr rfl
  · exact .inl (List.mem_filter.1 hid).1

theorem sendPacket_carries (hfresh : s.Fresh) (t : SendType) (outcome : SendOutcome) (srtt now : ℕ) :
    Carries P s (sendPacket s t outcome srtt now) := by
  refine .of_lists (sendPacket_ctl hfresh t outcome srtt now) fun p id' hid' => ?_
  unfold sendPacket at hid'
  split at hid'
  · exact ⟨p, hid'⟩
  rename_i id ids hids
  have hid : id ∈ s.lists (.scheduleBuf t) := hids ▸ List.mem_cons_self
  split at hid'
  · rename_i s' hs'
    exact ⟨p, indirectlyAckOrDropPo_shrunk hs' p hid'⟩
  cases outcome with
  | blocked => exact ⟨p, markRetrans_lists s t id ▸ hid'⟩
  | again => exact ⟨p, markRetrans_lists s t id ▸ hid'⟩
  | sent =>
      rcases mem_lists_transmit hid' with hmem | rfl
      · exact ⟨p, markRetrans_lists s t id ▸ hmem⟩
      · exact ⟨_, hid⟩

/-! ## Copies -/

theorem copyTo_carries (hP : Inherited P) {p : Place} (hp : p.fillable = false) (h : Lacks P s id) :
    Carries P s (copyTo s p id) := by
  refine ⟨copyTo_ctl s hp h.1, fun q id' hid' => ?_⟩
  cases hcopy : (s.pkts id).retransmission id with
  | none =>
      rw [copyTo, hcopy] at hid'
      exact .inl ⟨q, hid'⟩
  | some copy =>
      rw [copyTo, hcopy] at hid' ⊢
      rcases (SendQueue.mem_insertNew copy).1 hid' with hmem | ⟨-, rfl⟩
      · exact .inl ⟨q, hmem⟩
      · refine .inr ⟨le_rfl, ?_⟩
        have hne : s.nextId ≠ id := h.1.ne'
        have hnew : (((s.modify ((s.pkts id).poOrigin.getD id) PacketOut.retain).insertNew p copy).modify id
            PacketOut.markRetransed).pkts s.nextId = copy := by
          rw [SendQueue.modify_pkts_of_ne _ _ hne]
          exact SendQueue.insertNew_pkts_nextId ..
        rw [SendQueue.modify_nextId, hnew]
        exact mt (hP.copy hcopy) h.2

theorem Lacks.decrease (hP : Inherited P) (h : Lacks P s id) :
    Lacks P (s.modify id PacketOut.decreaseInflight) id :=
  h.steps hP (modify_ctl s id body_decreaseInflight)

theorem onPacketLost_carries (hP : Inherited P) (h : Lacks P s id) : Carries P s (onPacketLost s id) := by
  refine ⟨onPacketLost_ctl s h.1, ?_⟩
  unfold onPacketLost
  split_ifs
  · exact (copyTo_carries hP rfl (h.decrease hP)).listed
  · exact fun p id' hid' => .inl ⟨p, removeUnacked_shrunk _ id p hid'⟩
  · exact fun p id' hid' => .inl ⟨p, hid'⟩

theorem detectLost_carries (hP : Inherited P) (hfresh : s.Fresh) (h : Absent P s) (th : LossThresholds) :
    Carries P s (detectLost s th) := by
  refine detectLost_induct (P := Carries P s) ?_ ?_ (.refl s)
  · intro s₁ id hid s₂ hs₂ hc
    exact hc.trans hP hfresh (indirectlyAckOrDropPo_carries hs₂)
  · intro s₁ id hid hc
    -- a packet that the loop visits keeps its body until then
    have hlacks : Lacks P s₁ id := Lacks.steps hP ⟨hfresh _ id hid, h _ id hid⟩ hc.steps
    exact hc.trans hP hfresh (onPacketLost_carries hP hlacks)

theorem sendProbePkt_carries (hP : Inherited P) (h : Lacks P s id) : Carries P s (sendProbePkt s id) := by
  refine ⟨sendProbePkt_ctl s h.1, ?_⟩
  unfold sendProbePkt
  split_ifs
  · exact fun p id' hid' => .inl ⟨p, hid'⟩
  · have hcopy := copyTo_carries hP (p := .ptoProbePackets) rfl (h.decrease hP)
    intro p id' hid'
    rcases hcopy.listed p id' hid' with hold | ⟨hle, hnew⟩
    · exact .inl hold
    · exact .inr ⟨hle, mt (hP.body (body_modify _ id id' fun _ => rfl)) hnew⟩

/-! ## Acknowledgements -/

theorem ackPacket_shrunk (w : AckWalk) (id : PktId) : Shrunk w.sndq (w.ackPacket id).sndq :=
  (onPacketAcked_shrunk ((raiseLargest w.sndq (w.sndq.pkts id)).modify id PacketOut.markSpuriousLoss)
    id).trans (maybeRemoveUnacked_shrunk _ id false)

theorem ackWalk_shrunk {frameLargestAck : ℕ} {ranges : List PktnoRange} {ids : List PktId}
    {w : AckWalk} : Shrunk w.sndq (ackWalk frameLargestAck ranges ids w).sndq := by
  refine ackWalk_sndq_induct (P := Shrunk w.sndq) ?_ (Shrunk.refl _)
  intro w₁ id hid h
  exact h.trans (ackPacket_shrunk w₁ id)

theorem ackProcess_shrunk (s : SendQueue) (info : AckInfo) : Shrunk s (ackProcess s info).sndq := by
  have hsent : Shrunk s (ackSentOnAck s info).sndq := by
    unfold ackSentOnAck
    split <;> exact Shrunk.refl _
  unfold ackProcess
  split
  · exact Shrunk.refl s
  · exact hsent.trans ackWalk_shrunk

theorem onAckReceived_carries (hP : Inherited P) (hfresh : s.Fresh) (h : Absent P s) (info : AckInfo)
    (th : LossThresholds) : Carries P s (onAckReceived s info th).1 := by
  have hack : Carries P s (ackProcess s info).sndq :=
    .shrink (ackProcess_ctl s info) (ackProcess_shrunk s info)
  have hlost := detectLost_carries hP (hack.steps.fresh hfresh) (h.carries hP hfresh hack) th
  refine ⟨onAckReceived_ctl hfresh info th, ?_⟩
  unfold onAckReceived
  dsimp only
  split_ifs
  · exact hack.listed
  · exact (hack.trans hP hfresh hlost).listed
  · exact (hack.trans hP hfresh hlost).listed

/-! ## Probes -/

theorem sendPingToProbe_carries (hP : Inherited P) (s : SendQueue) (params : PktParams) :
    Carries P s (sendPingToProbe s params) := by
  refine ⟨sendPingToProbe_ctl s params, ?_⟩
  unfold sendPingToProbe
  split
  · exact (Carries.refl s).listed
  · rename_i po hpo
    exact insertNew_listed (hP.control hpo)

theorem sendOneOrTwoAckElicitPkts_carries (hP : Inherited P) (hfresh : s.Fresh) (h : Absent P s)
    (params : PktParams) : Carries P s (sendOneOrTwoAckElicitPkts s params) := by
  refine sendOneOrTwoAckElicitPkts_induct (P := Carries P s) ?_ ?_ ?_ (.refl s)
  · intro s₁ id hid s₂ hs₂ hc
    exact hc.trans hP hfresh (indirectlyAckOrDropPo_carries hs₂)
  · intro s₁ id hid hc
    have hlacks : Lacks P s₁ id := Lacks.steps hP ⟨hfresh _ id hid, h _ id hid⟩ hc.steps
    exact hc.trans hP hfresh (sendProbePkt_carries hP hlacks)
  · intro s₁ hc
    exact hc.trans hP hfresh (sendPingToProbe_carries hP s₁ params)

/-! ## Control frames -/

theorem writeControlFrame_carries (hP : Inherited P) (s : SendQueue) (params : PktParams)
    {c : ControlFrame} (notify : Bool) (bufSize : ℕ) (handshakeDone : Bool) (hwf : c.Wf) :
    Carries P s (writeControlFrame s params c notify bufSize handshakeDone) := by
  refine ⟨writeControlFrame_ctl s params notify bufSize handshakeDone hwf, ?_⟩
  unfold writeControlFrame
  split
  · exact (Carries.refl s).listed
  · rename_i po hpo
    exact insertNew_listed (hP.control hpo)

theorem sendPathChallenge_carries (s : SendQueue) (params : PktParams) {data : Bytes} (now : ℕ)
    (hwf : data.length = pathChallengeDataLen) : Carries P s (sendPathChallenge s params data now) := by
  refine .of_lists (sendPathChallenge_ctl s params now hwf) fun p id hid => ?_
  unfold sendPathChallenge at hid
  split at hid
  · exact ⟨p, hid⟩
  · rename_i po hpo
    obtain ⟨hmem, hne⟩ := List.mem_filter.1 hid
    rcases (SendQueue.mem_insertNew po).1 hmem with hmem | ⟨-, rfl⟩
    · exact ⟨p, hmem⟩
    · simp at hne

end Carry

/-- **An event that fills no packet brings nothing with the property into a list.** -/
theorem step_carries {P : PacketOut → Prop} (hP : Inherited P) {s : SendQueue} (hfresh : s.Fresh)
    (h : Absent P s) {ev : SendEvent} (hwf : ev.Wf) (hfills : ev.fills = false) :
    Carries P s (s.step ev) := by
  cases ev with
  | stream | ack => cases hfills
  | control params c notify bufSize handshakeDone =>
      exact writeControlFrame_carries hP s params notify bufSize handshakeDone hwf
  | schedule t => exact schedulePacket_carries s t
  | clear t => exact pathSendBufferClear_carries s t
  | send t outcome srtt now => exact sendPacket_carries hfresh t outcome srtt now
  | numberUnsent t n now => exact numberUnsent_carries s t n now
  | pathChallenge params data now => exact sendPathChallenge_carries s params now hwf
  | buff1rtt => exact buff1rttPackets_carries s
  | writeBuffed1rtt => exact writeBuffed1rttPackets_carries s
  | ackReceived info th => exact onAckReceived_carries hP hfresh h info th
  | lossTimeout th => exact detectLost_carries hP hfresh h th
  | probeTimeout params => exact sendOneOrTwoAckElicitPkts_carries hP hfresh h params
  | dropStream streamId =>
      refine .shrink (dropStreamFramePackets_ctl s streamId) fun p => ?_
      unfold SendQueue.step dropStreamFramePackets
      dsimp only
      split_ifs
      · exact List.filter_sublist.subset
      · exact List.Subset.refl _
  | recvPacket pktNum => exact .shrink (step_ctl hfresh hwf rfl) fun _ => List.Subset.refl _

/-! ## Packets of one stream -/

theorem streamFrameCanDrop_iff {po : PacketOut} {streamId : StreamId} :
    streamFrameCanDrop po streamId = true ↔
      po.poFrameTypes ⊆ {.stream, .ack} ∧ po.poStreamFrames ≠ [] ∧
        ∀ slot ∈ po.poStreamFrames, slot.psStreamId = streamId := by
  simp [streamFrameCanDrop, and_assoc]

theorem not_canDrop_of_slot {po : PacketOut} {streamId : StreamId} {slot : PoStreamFrame}
    (hslot : slot ∈ po.poStreamFrames) (hne : slot.psStreamId ≠ streamId) :
    ¬ streamFrameCanDrop po streamId = true := by
  intro h
  obtain ⟨-, -, hall⟩ := streamFrameCanDrop_iff.1 h
  exact hne (hall slot hslot)

theorem not_canDrop_of_type {po : PacketOut} {streamId : StreamId} {t : FrameType}
    (ht : t ∈ po.poFrameTypes) (hstream : t ≠ .stream) (hack : t ≠ .ack) :
    ¬ streamFrameCanDrop po streamId = true := by
  intro h
  have hin := (streamFrameCanDrop_iff.1 h).1 ht
  rw [Finset.mem_insert, Finset.mem_singleton] at hin
  exact hin.elim hstream hack

/-- What the test reads: the types of the frames, ACK apart, and the places of the STREAM frames. -/
theorem canDrop_of_fields {po po' : PacketOut} {streamId : StreamId}
    (htypes : po.poFrameTypes ⊆ insert .ack po'.poFrameTypes)
    (hslots : po'.poStreamFrames = po.poStreamFrames) (h : streamFrameCanDrop po' streamId = true) :
    streamFrameCanDrop po streamId = true := by
  obtain ⟨hsub, hnil, hall⟩ := streamFrameCanDrop_iff.1 h
  rw [hslots] at hnil hall
  refine streamFrameCanDrop_iff.2 ⟨htypes.trans (Finset.insert_subset ?_ hsub), hnil, hall⟩
  exact Finset.mem_insert_of_mem (Finset.mem_singleton_self _)

theorem canDrop_inherited (streamId : StreamId) :
    Inherited fun po => streamFrameCanDrop po streamId = true where
  body := by
    intro po po' hbody
    have htypes : po'.poFrameTypes = po.poFrameTypes := (congrArg PacketOut.poFrameTypes hbody :)
    exact canDrop_of_fields (htypes ▸ Finset.subset_insert _ _)
      (congrArg PacketOut.poStreamFrames hbody :)
  copy := by
    intro po po' id hcopy
    obtain ⟨-, -, htypes, hslots, -⟩ := retransmission_fields hcopy
    refine canDrop_of_fields ?_ hslots
    rw [htypes]
    exact Finset.insert_erase_subset _ _
  control := by
    intro params c notify bufSize po hpo
    obtain ⟨htypes, -⟩ := controlPacket_fields hpo
    have hin : c.frame.type ∈ po.poFrameTypes := htypes ▸ Finset.mem_singleton_self _
    exact not_canDrop_of_type hin c.frame_type_ne.1 c.frame_type_ne.2

/-- After a STREAM write the packet has a place with a frame of the written stream. -/
theorem genStreamFrame_slot {po po' : PacketOut} {streamId offset n : ℕ} {fin : Bool} {payload : Bytes}
    (h : genStreamFrame po streamId offset fin payload = .ok (po', n)) :
    ∃ slot ∈ po'.poStreamFrames, slot.psStreamId = streamId := by
  rcases genStreamFrame_cases h with ⟨prev, hslot, hcomb⟩ | ⟨-, -, -, hasLength, -, rfl⟩ | ⟨-, -, rfl⟩
  · obtain ⟨-, -, hid, -⟩ := combineSlot_some hslot
    obtain ⟨rfl, -⟩ := Prod.mk.inj hcomb
    exact ⟨_, List.mem_append_right _ (List.mem_singleton_self _), hid⟩
  · exact ⟨_, List.mem_append_right _ (List.mem_singleton_self _), rfl⟩
  · exact ⟨_, List.mem_append_right _ (List.mem_singleton_self _), rfl⟩

section Fill

variable {streamId : StreamId} {s : SendQueue} {id : PktId} {po : PacketOut}

theorem Absent.set (h : Absent (fun po => streamFrameCanDrop po streamId = true) s)
    (hno : ¬ streamFrameCanDrop po streamId = true) :
    Absent (fun po => streamFrameCanDrop po streamId = true) (s.set id po) := by
  intro p id' hid'
  by_cases heq : id' = id
  · subst heq
    rwa [SendQueue.set_pkts_self]
  · rw [SendQueue.set_pkts_of_ne _ _ heq]
    exact h p id' hid'

theorem Absent.insertNew (h : Absent (fun po => streamFrameCanDrop po streamId = true) s)
    (hfresh : s.Fresh) {p : Place} (hno : ¬ streamFrameCanDrop po streamId = true) :
    Absent (fun po => streamFrameCanDrop po streamId = true) (s.insertNew p po) := by
  intro q id' hid'
  rcases (SendQueue.mem_insertNew po).1 hid' with hmem | ⟨-, rfl⟩
  · rw [SendQueue.insertNew_pkts_of_ne _ _ _ (hfresh q id' hmem).ne]
    exact h q id' hmem
  · rwa [SendQueue.insertNew_pkts_nextId]

theorem Absent.writeStreamFrame (h : Absent (fun po => streamFrameCanDrop po streamId = true) s)
    (hfresh : s.Fresh) {s' : SendQueue} {highPri fin : Bool} {params : PktParams}
    {streamId' offset n : ℕ} {payload : Bytes} (hne : streamId' ≠ streamId)
    (hw : writeStreamFrame s highPri params streamId' offset fin payload = .ok (s', n)) :
    Absent (fun po => streamFrameCanDrop po streamId = true) s' := by
  rcases writeStreamFrame_cases hw with ⟨id, po, -, hgen, rfl⟩ | ⟨po₀, po, -, hgen, rfl⟩
  · obtain ⟨slot, hslot, hid⟩ := genStreamFrame_slot hgen
    exact h.set (not_canDrop_of_slot hslot (hid ▸ hne))
  · obtain ⟨slot, hslot, hid⟩ := genStreamFrame_slot hgen
    exact h.insertNew hfresh (not_canDrop_of_slot hslot (hid ▸ hne))

theorem ackTarget_listed (h : ackTarget s = some id) : ∃ p, id ∈ s.lists p := by
  unfold ackTarget at h
  split at h
  · rename_i id' ids hids
    obtain rfl := Option.some.inj h
    exact ⟨_, hids ▸ List.mem_cons_self⟩
  · exact ⟨_, List.mem_of_mem_head? h⟩

theorem Absent.writeAckToPackets (h : Absent (fun po => streamFrameCanDrop po streamId = true) s)
    (hfresh : s.Fresh) (params : PktParams) (ackDelay ackDelayExponent : ℕ) :
    Absent (fun po => streamFrameCanDrop po streamId = true)
      (writeAckToPackets s params ackDelay ackDelayExponent) := by
  rcases writeAckToPackets_cases s params ackDelay ackDelayExponent with
    heq | ⟨id, po, htarget, -, hwrite, heq⟩ | ⟨po₀, po, hpo, hwrite, heq⟩
  · rwa [heq]
  · have hframe := writeAckToOnePacket_frame hwrite
    have htypes : po.poFrameTypes = insert .ack (s.pkts id).poFrameTypes :=
      (congrArg PacketOut.poFrameTypes hframe :)
    obtain ⟨p, hmem⟩ := ackTarget_listed htarget
    rw [heq]
    refine h.set fun habs => h p id hmem (canDrop_of_fields ?_
      (congrArg PacketOut.poStreamFrames hframe :) habs)
    rw [htypes, Finset.insert_idem]
    exact Finset.subset_insert _ _
  · have hframe := writeAckToOnePacket_frame hwrite
    have hslots : po.poStreamFrames = po₀.poStreamFrames := (congrArg PacketOut.poStreamFrames hframe :)
    rw [heq]
    refine h.insertNew hfresh fun habs => (streamFrameCanDrop_iff.1 habs).2.1 ?_
    rw [hslots]
    unfold PktParams.newPacket at hpo
    split_ifs at hpo
    obtain rfl := Except.ok.inj hpo
    rfl

end Fill

/-- The event writes a STREAM frame of the stream. -/
def SendEvent.writesStream (streamId : StreamId) : SendEvent → Prop
  | .stream _ _ streamId' _ _ _ => streamId' = streamId
  | _ => False

/-- **No event but a STREAM write of the stream brings a packet of the stream into a list.** -/
theorem absent_step {s : SendQueue} {streamId : StreamId} (hfresh : s.Fresh)
    (h : Absent (fun po => streamFrameCanDrop po streamId = true) s) {ev : SendEvent} (hwf : ev.Wf)
    (hev : ¬ ev.writesStream streamId) :
    Absent (fun po => streamFrameCanDrop po streamId = true) (s.step ev) := by
  cases hfills : ev.fills with
  | false =>
      have hP := canDrop_inherited streamId
      exact h.carries hP hfresh (step_carries hP hfresh h hwf hfills)
  | true =>
      cases ev with
      | stream highPri params streamId' offset fin payload =>
          rw [SendQueue.step]
          split
          · exact h
          · rename_i s' n hw
            exact h.writeStreamFrame hfresh hev hw
      | ack params ackDelay ackDelayExponent => exact h.writeAckToPackets hfresh params _ _
      | _ => cases hfills

/-! ## What is sent -/

namespace SendQueue

/-- The packet that an event gives to the socket. -/
def sends (s : SendQueue) : SendEvent → Option PacketOut
  | .send t .sent _ _ =>
    match s.lists (.scheduleBuf t) with
    | [] => none
    | id :: _ => if (indirectlyAckOrDropPo s id).isSome then none else some (s.pkts id)
  | .pathChallenge params data _ => (controlPacket params (.pathChallenge data) false 0).toOption
  | _ => none

end SendQueue

section Wire

variable {s s' : SendQueue} {id : PktId}

theorem indirectlyAckOrDropPo_wire (h : indirectlyAckOrDropPo s id = some s') : s'.wire = s.wire := by
  unfold indirectlyAckOrDropPo at h
  split_ifs at h
  · obtain rfl := Option.some.inj h
    rw [maybeRemoveUnacked_wire, onPacketAcked_wire]
  · obtain rfl := Option.some.inj h
    exact maybeRemoveUnacked_wire s id true

theorem copyTo_wire (s : SendQueue) (p : Place) (id : PktId) : (copyTo s p id).wire = s.wire := by
  unfold copyTo
  split <;> rfl

theorem onPacketLost_wire (s : SendQueue) (id : PktId) : (onPacketLost s id).wire = s.wire := by
  unfold onPacketLost
  split_ifs
  · exact copyTo_wire _ _ _
  · rfl
  · rfl

theorem detectLost_wire (s : SendQueue) (th : LossThresholds) : (detectLost s th).wire = s.wire := by
  refine detectLost_induct (P := fun s₁ => s₁.wire = s.wire) ?_ ?_ rfl
  · intro s₁ id hid s₂ hs₂ h
    exact (indirectlyAckOrDropPo_wire hs₂).trans h
  · intro s₁ id hid h
    exact (onPacketLost_wire s₁ id).trans h

theorem sendProbePkt_wire (s : SendQueue) (id : PktId) : (sendProbePkt s id).wire = s.wire := by
  unfold sendProbePkt
  split_ifs
  · rfl
  · exact copyTo_wire _ _ _

theorem sendPingToProbe_wire (s : SendQueue) (params : PktParams) :
    (sendPingToProbe s params).wire = s.wire := by
  unfold sendPingToProbe
  split <;> rfl

theorem sendOneOrTwoAckElicitPkts_wire (s : SendQueue) (params : PktParams) :
    (sendOneOrTwoAckElicitPkts s params).wire = s.wire := by
  refine sendOneOrTwoAckElicitPkts_induct (P := fun s₁ => s₁.wire = s.wire) ?_ ?_ ?_ rfl
  · intro s₁ id hid s₂ hs₂ h
    exact (indirectlyAckOrDropPo_wire hs₂).trans h
  · intro s₁ id hid h
    exact (sendProbePkt_wire s₁ id).trans h
  · intro s₁ h
    exact (sendPingToProbe_wire s₁ params).trans h

end Wire

theorem transmit_wire (s : SendQueue) (id : PktId) (srtt now : ℕ) :
    (transmit s id srtt now).wire.map WirePacket.payload =
      s.wire.map WirePacket.payload ++ [((setNextPn s id now).pkts id).payload] := by
  unfold transmit insertUnacked
  split_ifs
  · exact List.map_append
  · exact List.map_append

theorem sendPacket_wire (s : SendQueue) (t : SendType) (outcome : SendOutcome) (srtt now : ℕ) :
    (sendPacket s t outcome srtt now).wire.map WirePacket.payload = s.wire.map WirePacket.payload ++
      ((s.sends (.send t outcome srtt now)).map PacketOut.payload).toList := by
  have hmark : ∀ id, (markRetrans s t id).wire = s.wire := by
    intro id
    unfold markRetrans
    split_ifs <;> rfl
  cases hids : s.lists (.scheduleBuf t) with
  | nil => cases outcome <;> simp [sendPacket, SendQueue.sends, hids]
  | cons id ids =>
      cases hack : indirectlyAckOrDropPo s id with
      | some s' =>
          have hwire := indirectlyAckOrDropPo_wire hack
          cases outcome <;> simp [sendPacket, SendQueue.sends, hids, hack, hwire]
      | none =>
          cases outcome with
          | blocked => simp [sendPacket, SendQueue.sends, hids, hack, hmark]
          | again => simp [sendPacket, SendQueue.sends, hids, hack, setNextPn, hmark]
          | sent =>
              have hpayload : ((setNextPn (markRetrans s t id) id now).pkts id).payload =
                  (s.pkts id).payload := by
                unfold markRetrans
                split_ifs <;> simp [setNextPn, PacketOut.payload, PacketOut.number, PacketOut.markLost]
              have hwire := transmit_wire (markRetrans s t id) id srtt now
              rw [hmark, hpayload] at hwire
              simpa [sendPacket, SendQueue.sends, hids, hack] using hwire

/-- What the socket gets in an event is the packet that the event sends. -/
theorem step_wire (s : SendQueue) (ev : SendEvent) :
    (s.step ev).wire.map WirePacket.payload =
      s.wire.map WirePacket.payload ++ ((s.sends ev).map PacketOut.payload).toList := by
  -- all but the two sending events leave the wire as it is
  have hquiet : s.sends ev = none → (s.step ev).wire = s.wire →
      (s.step ev).wire.map WirePacket.payload =
        s.wire.map WirePacket.payload ++ ((s.sends ev).map PacketOut.payload).toList := by
    intro hnone hwire
    rw [hnone, hwire]
    exact (List.append_nil _).symm
  cases ev with
  | send t outcome srtt now => exact sendPacket_wire s t outcome srtt now
  | pathChallenge params data now =>
      rw [SendQueue.step, sendPathChallenge, SendQueue.sends]
      cases hpo : controlPacket params (.pathChallenge data) false 0 with
      | error err => exact (List.append_nil _).symm
      | ok po =>
          have hpayload : ((setNextPn (s.insertNew .sendPackets po) s.nextId now).pkts s.nextId).payload =
              po.payload := by
            simp [setNextPn, PacketOut.payload, PacketOut.number]
          show _ = _ ++ [po.payload]
          rw [← hpayload]
          exact List.map_append
  | control params c notify bufSize handshakeDone =>
      apply hquiet rfl
      rw [SendQueue.step, writeControlFrame]
      split <;> rfl
  | stream highPri params streamId offset fin payload =>
      apply hquiet rfl
      rw [SendQueue.step]
      split
      · rfl
      · rename_i s' n hw
        rcases writeStreamFrame_cases hw with ⟨id, po, -, -, rfl⟩ | ⟨po₀, po, -, -, rfl⟩ <;> rfl
  | ack params ackDelay ackDelayExponent =>
      apply hquiet rfl
      rcases writeAckToPackets_cases s params ackDelay ackDelayExponent with
        heq | ⟨id, po, -, -, -, heq⟩ | ⟨po₀, po, -, -, heq⟩ <;>
      · rw [SendQueue.step, heq]
        try rfl
  | schedule t =>
      apply hquiet rfl
      rw [SendQueue.step, schedulePacket]
      split <;> rfl
  | numberUnsent t n now =>
      apply hquiet rfl
      rw [SendQueue.step, numberUnsent]
      generalize (s.lists (.scheduleBuf t)).take n = ids
      clear hquiet
      induction ids generalizing s with
      | nil => rfl
      | cons id ids ih => exact ih (setNextPn s id now)
  | ackReceived info th =>
      apply hquiet rfl
      rw [SendQueue.step, onAckReceived]
      dsimp only
      split_ifs
      · exact ackProcess_wire s info
      · exact (detectLost_wire _ th).trans (ackProcess_wire s info)
      · exact (detectLost_wire _ th).trans (ackProcess_wire s info)
  | lossTimeout th => exact hquiet rfl (detectLost_wire s th)
  | probeTimeout params => exact hquiet rfl (sendOneOrTwoAckElicitPkts_wire s params)
  | clear | buff1rtt | writeBuffed1rtt | dropStream | recvPacket => exact hquiet rfl rfl

/-! ## Runs after the drop -/

theorem step_fresh {s : SendQueue} (h : s.Fresh) {ev : SendEvent} (hwf : ev.Wf) : (s.step ev).Fresh := by
  cases hfills : ev.fills with
  | false => exact (step_ctl h hwf hfills).fresh h
  | true =>
      cases ev with
      | stream highPri params streamId offset fin payload =>
          rw [SendQueue.step]
          split
          · exact h
          · rename_i s' n hw
            rcases writeStreamFrame_cases hw with ⟨id, po, -, -, rfl⟩ | ⟨po₀, po, -, -, rfl⟩
            · exact h
            · exact h.insertNew _ po
      | ack params ackDelay ackDelayExponent =>
          rw [SendQueue.step]
          rcases writeAckToPackets_cases s params ackDelay ackDelayExponent with
            heq | ⟨id, po, -, -, -, heq⟩ | ⟨po₀, po, -, -, heq⟩
          · rwa [heq]
          · rw [heq]
            exact h
          · rw [heq]
            exact h.insertNew _ po
      | _ => cases hfills

/-- **In a run without STREAM writes of the stream no packet of the stream comes into a list.** -/
theorem absent_run {streamId : StreamId} (evs : List SendEvent) {s : SendQueue} (hfresh : s.Fresh)
    (h : Absent (fun po => streamFrameCanDrop po streamId = true) s) (hwf : ∀ ev ∈ evs, ev.Wf)
    (hevs : ∀ ev ∈ evs, ¬ ev.writesStream streamId) :
    Absent (fun po => streamFrameCanDrop po streamId = true) (s.run evs) := by
  induction evs generalizing s with
  | nil => exact h
  | cons ev evs ih =>
      obtain ⟨hwf, hwfs⟩ := List.forall_mem_cons.1 hwf
      obtain ⟨hev, hevs⟩ := List.forall_mem_cons.1 hevs
      exact ih (step_fresh hfresh hwf) (absent_step hfresh h hwf hev) hwfs hevs

/-- A packet of the stream stands in a list when it is sent. -/
theorem Absent.sends {streamId : StreamId} {s : SendQueue} {ev : SendEvent} {po : PacketOut}
    (h : Absent (fun po => streamFrameCanDrop po streamId = true) s) (hsend : s.sends ev = some po) :
    ¬ streamFrameCanDrop po streamId = true := by
  unfold SendQueue.sends at hsend
  split at hsend
  · rename_i t srtt now
    split at hsend
    · cases hsend
    · rename_i id ids hids
      split_ifs at hsend
      obtain rfl := Option.some.inj hsend
      exact h (.scheduleBuf t) id (hids ▸ List.mem_cons_self)
  · rename_i params data now
    cases hpo : controlPacket params (.pathChallenge data) false 0 with
    | error err =>
        rw [hpo] at hsend
        cases hsend
    | ok po' =>
        rw [hpo] at hsend
        obtain rfl := Option.some.inj hsend
        exact (canDrop_inherited streamId).control hpo
  · cases hsend

/-- What dropping the packets of a stream is for. -/
structure DropComplete (s : SendQueue) (streamId : StreamId) : Prop where
  /-- No packet with frames of the stream only is left in a list. -/
  gone : ∀ p, ∀ id ∈ (dropStreamFramePackets s streamId).lists p,
    ¬ streamFrameCanDrop ((dropStreamFramePackets s streamId).pkts id) streamId = true
  /-- Every other packet stays where it was, and as it was. -/
  others : ∀ p, ((s.lists p).filter fun id => ¬ streamFrameCanDrop (s.pkts id) streamId) =
      ((dropStreamFramePackets s streamId).lists p).filter
        (fun id => ¬ streamFrameCanDrop (s.pkts id) streamId) ∧
    ∀ id ∈ s.lists p, ¬ streamFrameCanDrop (s.pkts id) streamId = true →
      (dropStreamFramePackets s streamId).pkts id = s.pkts id
  /-- Nothing of the stream alone in a packet is sent, as long as the stream writes nothing more. -/
  quiet : ∀ evs : List SendEvent, ∀ ev po, (∀ ev' ∈ evs, ev'.Wf ∧ ¬ ev'.writesStream streamId) →
    ((dropStreamFramePackets s streamId).run evs).sends ev = some po →
      ¬ streamFrameCanDrop po streamId = true

theorem dropStreamFramePackets_canDrop (s : SendQueue) (streamId : StreamId) (id : PktId) :
    streamFrameCanDrop ((dropStreamFramePackets s streamId).pkts id) streamId =
      streamFrameCanDrop (s.pkts id) streamId := by
  have hbody : ((dropStreamFramePackets s streamId).pkts id).body = (s.pkts id).body :=
    (dropStreamFramePackets_later s streamId id).1.body
  have hP := canDrop_inherited streamId
  exact Bool.eq_iff_iff.2 ⟨hP.body hbody, hP.body hbody.symm⟩

/-- **The drop is complete exactly when the lists that are not walked hold nothing of the stream.** -/
theorem dropComplete_iff {s : SendQueue} {streamId : StreamId} (hfresh : s.Fresh) :
    DropComplete s streamId ↔
      ∀ p : Place, p.dropped = false → ∀ id ∈ s.lists p, ¬ streamFrameCanDrop (s.pkts id) streamId = true := by
  constructor
  · intro h p hp id hid
    have hkept : id ∈ (dropStreamFramePackets s streamId).lists p := by
      simpa [dropStreamFramePackets, hp] using hid
    rw [← dropStreamFramePackets_canDrop]
    exact h.gone p id hkept
  · intro h
    have hgone : Absent (fun po => streamFrameCanDrop po streamId = true)
        (dropStreamFramePackets s streamId) := by
      intro p id hid
      show ¬ streamFrameCanDrop _ streamId = true
      rw [dropStreamFramePackets_canDrop]
      simp only [dropStreamFramePackets] at hid
      split_ifs at hid with hp
      · exact of_decide_eq_true (List.mem_filter.1 hid).2
      · exact h p (Bool.eq_false_iff.2 hp) id hid
    have hfresh' := (dropStreamFramePackets_ctl s streamId).fresh hfresh
    refine ⟨hgone, fun p => ⟨?_, fun id _ hno => ?_⟩, fun evs ev po hevs => ?_⟩
    · simp only [dropStreamFramePackets]
      split_ifs
      · rw [List.filter_filter]
        simp
      · rfl
    · simp only [dropStreamFramePackets]
      rw [if_pos hno]
    · exact (absent_run evs hfresh' hgone (fun ev' hev' => (hevs ev' hev').1)
        fun ev' hev' => (hevs ev' hev').2).sends

/-- **Behind a complete drop the socket gets nothing of the stream alone**, as long as the stream writes nothing
more. -/
theorem DropComplete.wire {s : SendQueue} {streamId : StreamId} (h : DropComplete s streamId)
    (evs : List SendEvent) (hevs : ∀ ev ∈ evs, ev.Wf ∧ ¬ ev.writesStream streamId) :
    ∃ sent : List PacketOut, (∀ po ∈ sent, ¬ streamFrameCanDrop po streamId = true) ∧
      ((dropStreamFramePackets s streamId).run evs).wire.map WirePacket.payload =
        s.wire.map WirePacket.payload ++ sent.map PacketOut.payload := by
  induction evs using List.reverseRecOn with
  | nil => exact ⟨[], by simp, (List.append_nil _).symm⟩
  | append_singleton evs ev ih =>
      have hbefore : ∀ ev' ∈ evs, ev'.Wf ∧ ¬ ev'.writesStream streamId :=
        fun ev' hev' => hevs ev' (List.mem_append_left _ hev')
      obtain ⟨sent, hsent, hwire⟩ := ih hbefore
      refine ⟨sent ++ (((dropStreamFramePackets s streamId).run evs).sends ev).toList, fun po hpo => ?_, ?_⟩
      · rcases List.mem_append.1 hpo with hpo | hpo
        · exact hsent po hpo
        · exact h.quiet evs ev po hbefore (Option.mem_toList.1 hpo)
      · rw [SendQueue.run_append, step_wire, hwire, List.map_append, List.append_assoc, Option.toList_map]

/-- A packet of the stream waits in the normal list. -/
theorem dropComplete_normal :
    DropComplete (({} : SendQueue).step (.stream false demoParams 0 0 false [1, 2, 3])) 0 := by
  have hempty : ({} : SendQueue).Fresh := fun _ _ hid => by cases hid
  have hwf : (SendEvent.stream false demoParams 0 0 false [1, 2, 3]).Wf := ⟨by decide, by decide⟩
  refine (dropComplete_iff (step_fresh hempty hwf)).2 ?_
  intro p hp
  cases p with
  | scheduleBuf t => cases t <;> first | exact absurd hp (by decide) | decide
  | _ => first | exact absurd hp (by decide) | decide

/-- A packet of a stream of high priority survives. -/
theorem not_dropComplete_highPri :
    ¬ DropComplete (({} : SendQueue).step (.stream true demoParams 0 0 false [1, 2, 3])) 0 := by
  intro h
  exact h.gone .sendPacketsHighPri 0 (by decide) (by decide)

end Rquic

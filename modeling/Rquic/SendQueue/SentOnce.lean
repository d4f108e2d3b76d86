import Rquic.SendQueue.Drop

set_option autoImplicit false

/-!
# A packet is sent once

A packet waits in some list until `rqc_path_send_packets` gives it to the socket. Then it is freed or
stands among the unacknowledged packets; only copies of it wait again.

* `Silent`: a step that sends nothing. It brings nothing to the unacknowledged packets, lets no packet wait
  that did not, and leaves the number and the time of sending of such a packet alone.
* **`step_silent`**: every event but the one that sends.
* `SendQueue.sending`, `sendPacket_silent`, `sendPacket_transmits`: the event that sends.
* `SentOnce`: what was sent does not wait, and what is unacknowledged was sent.
-/

namespace Rquic

/-! ## Steps that send nothing -/

/-- When a packet was sent, and under which number. -/
def PacketOut.stamp (po : PacketOut) : ℕ × ℕ := (po.poSentTime, po.pktNum)

/-- A step that sends nothing. -/
structure Silent (s s' : SendQueue) : Prop where
  nextId : s.nextId ≤ s'.nextId
  unacked : s'.lists .unackedPackets ⊆ s.lists .unackedPackets
  waits : ∀ id, s'.Waiting id → s.Waiting id ∨ (s.nextId ≤ id ∧ id < s'.nextId)
  stamp : ∀ id < s.nextId, ¬ s.Waiting id → (s'.pkts id).stamp = (s.pkts id).stamp
  largestSent : s'.largestSent = s.largestSent

variable {s s' s'' : SendQueue} {id : PktId}

namespace Silent

theorem trans (h : Silent s s') (h' : Silent s' s'') : Silent s s'' where
  nextId := h.nextId.trans h'.nextId
  unacked := List.Subset.trans h'.unacked h.unacked
  waits id hid := by
    have hle := h.nextId
    have hle' := h'.nextId
    rcases h'.waits id hid with hid | hnew
    · exact (h.waits id hid).imp_right fun hnew => ⟨hnew.1, hnew.2.trans_le hle'⟩
    · exact .inr ⟨hle.trans hnew.1, hnew.2⟩
  stamp id hid hgone := by
    have hgone' : ¬ s'.Waiting id := by
      intro hwait
      rcases h.waits id hwait with hold | hnew
      · exact hgone hold
      · exact absurd hnew.1 (not_le.mpr hid)
    rw [h'.stamp id (hid.trans_le h.nextId) hgone', h.stamp id hid hgone]
  largestSent := h'.largestSent.trans h.largestSent

theorem sentTime (h : Silent s s') (hid : id < s.nextId) (hgone : ¬ s.Waiting id) :
    (s'.pkts id).poSentTime = (s.pkts id).poSentTime := congrArg Prod.fst (h.stamp id hid hgone)

theorem pktNum (h : Silent s s') (hid : id < s.nextId) (hgone : ¬ s.Waiting id) :
    (s'.pkts id).pktNum = (s.pkts id).pktNum := congrArg Prod.snd (h.stamp id hid hgone)

theorem shrink (hnext : s'.nextId = s.nextId) (hsent : s'.largestSent = s.largestSent)
    (hlists : Shrunk s s') (hstamp : ∀ id, (s'.pkts id).stamp = (s.pkts id).stamp) : Silent s s' where
  nextId := hnext.ge
  unacked := hlists .unackedPackets
  waits id hid := by
    obtain ⟨p, hp, hmem⟩ := hid
    exact .inl ⟨p, hp, hlists p hmem⟩
  stamp id _ _ := hstamp id
  largestSent := hsent

theorem refl (s : SendQueue) : Silent s s := shrink rfl rfl (Shrunk.refl s) fun _ => rfl

theorem mark (s : SendQueue) (id : PktId) {f : PacketOut → PacketOut}
    (hf : ∀ po, (f po).stamp = po.stamp) : Silent s (s.modify id f) := by
  refine shrink rfl rfl (Shrunk.refl s) fun i => ?_
  by_cases hi : i = id
  · rw [hi, SendQueue.modify_pkts_self, hf]
  · rw [SendQueue.modify_pkts_of_ne s f hi]

theorem unlink (s : SendQueue) (id : PktId) : Silent s (s.unlink id) :=
  shrink rfl rfl (fun _ => List.filter_sublist.subset) fun _ => rfl

theorem set (hid : s.Waiting id) (po : PacketOut) : Silent s (s.set id po) where
  nextId := le_rfl
  unacked := List.Subset.refl _
  waits _ hi := .inl hi
  stamp i _ hgone := by
    have hne : i ≠ id := by
      rintro rfl
      exact hgone hid
    rw [SendQueue.set_pkts_of_ne s po hne]
  largestSent := rfl

theorem insertNew {p : Place} (hp : p ≠ .unackedPackets) (po : PacketOut) :
    Silent s (s.insertNew p po) where
  nextId := Nat.le_succ _
  unacked i hi := by
    rcases (SendQueue.mem_insertNew po).1 hi with hmem | ⟨habs, -⟩
    · exact hmem
    · exact absurd habs.symm hp
  waits i hi := by
    obtain ⟨q, hq, hmem⟩ := hi
    rcases (SendQueue.mem_insertNew po).1 hmem with hmem | ⟨-, rfl⟩
    · exact .inl ⟨q, hq, hmem⟩
    · exact .inr ⟨le_rfl, Nat.lt_succ_self _⟩
  stamp i hi _ := by rw [SendQueue.insertNew_pkts_of_ne s p po hi.ne]
  largestSent := rfl

theorem carry {a b : Place} {l l' : List PktId} {pkts : PktId → PacketOut} (ha : a ≠ .unackedPackets)
    (hb : b ≠ .unackedPackets) (hl : l ⊆ s.lists a) (hl' : ∀ id ∈ l', s.Waiting id)
    (hstamp : ∀ id, (pkts id).stamp = (s.pkts id).stamp) :
    Silent s { s with
      lists := Function.update (Function.update s.lists a l) b l', pkts := pkts } where
  nextId := le_rfl
  unacked := by
    dsimp only
    rw [Function.update_of_ne hb.symm, Function.update_of_ne ha.symm]
    exact List.Subset.refl _
  waits i hi := by
    obtain ⟨p, hp, hmem⟩ := hi
    dsimp only at hmem
    left
    by_cases hpb : p = b
    · rw [hpb, Function.update_self] at hmem
      exact hl' i hmem
    rw [Function.update_of_ne hpb] at hmem
    by_cases hpa : p = a
    · rw [hpa, Function.update_self] at hmem
      exact ⟨a, ha, hl hmem⟩
    · rw [Function.update_of_ne hpa] at hmem
      exact ⟨p, hp, hmem⟩
  stamp i _ _ := hstamp i
  largestSent := rfl

end Silent

/-! ## Packets that wait -/

theorem waiting_of_mem_append {a b : Place} (ha : a ≠ .unackedPackets) (hb : b ≠ .unackedPackets)
    (hid : id ∈ s.lists a ++ s.lists b) : s.Waiting id := by
  rcases List.mem_append.1 hid with hid | hid
  · exact ⟨a, ha, hid⟩
  · exact ⟨b, hb, hid⟩

theorem schedulePacket_silent (s : SendQueue) (t : SendType) : Silent s (schedulePacket s t) := by
  unfold schedulePacket
  split
  · exact .refl s
  · rename_i id ids hids
    have hid : id ∈ s.lists t.source := hids ▸ List.mem_cons_self
    have hstamp : ∀ po : PacketOut, po.enterPathBuf.stamp = po.stamp := by
      intro po
      unfold PacketOut.enterPathBuf
      split_ifs <;> rfl
    have hmove : Silent s ((s.unlink id).pushTail (.scheduleBuf t) id) := by
      refine ⟨le_rfl, fun i hi => ?_, fun i hi => ?_, fun _ _ _ => rfl, rfl⟩
      · rcases SendQueue.mem_pushTail.1 hi with hmem | ⟨habs, -⟩
        · exact (List.mem_filter.1 hmem).1
        · cases habs
      · obtain ⟨p, hp, hmem⟩ := hi
        rcases SendQueue.mem_pushTail.1 hmem with hmem | ⟨-, rfl⟩
        · exact .inl ⟨p, hp, (List.mem_filter.1 hmem).1⟩
        · exact .inl ⟨t.source, t.source_ne, hid⟩
    exact hmove.trans (.mark _ id hstamp)

theorem pathSendBufferClear_silent (s : SendQueue) (t : SendType) :
    Silent s (pathSendBufferClear s t) := by
  refine .carry (by exact nofun) t.source_ne (List.nil_subset _)
    (fun id hid => waiting_of_mem_append (by exact nofun) t.source_ne hid) fun id => ?_
  split_ifs <;> rfl

theorem buff1rttPackets_silent (s : SendQueue) : Silent s (buff1rttPackets s) := by
  refine .carry (by exact nofun) (by exact nofun) List.filter_sublist.subset (fun id hid => ?_)
    fun _ => rfl
  rcases List.mem_append.1 hid with hid | hid
  · exact ⟨.buff1rttPackets, by exact nofun, hid⟩
  · exact ⟨.sendPackets, by exact nofun, (List.mem_filter.1 hid).1⟩

theorem writeBuffed1rttPackets_silent (s : SendQueue) : Silent s (writeBuffed1rttPackets s) :=
  .carry (by exact nofun) (by exact nofun) (List.nil_subset _)
    (fun _ hid => waiting_of_mem_append (by exact nofun) (by exact nofun) hid) fun _ => rfl

theorem setNextPn_silent (hid : s.Waiting id) (now : ℕ) : Silent s (setNextPn s id now) := by
  have hset := Silent.set hid ((s.pkts id).number s.packetNumber now)
  exact ⟨hset.nextId, hset.unacked, hset.waits, hset.stamp, rfl⟩

theorem numberUnsent_silent (s : SendQueue) (t : SendType) (n now : ℕ) :
    Silent s (numberUnsent s t n now) := by
  have hids : ∀ id ∈ (s.lists (.scheduleBuf t)).take n, s.Waiting id :=
    fun id hid => ⟨.scheduleBuf t, by exact nofun, List.mem_of_mem_take hid⟩
  unfold numberUnsent
  revert hids
  generalize (s.lists (.scheduleBuf t)).take n = ids
  intro hids
  induction ids generalizing s with
  | nil => exact .refl s
  | cons id ids ih =>
      obtain ⟨hid, hids⟩ := List.forall_mem_cons.1 hids
      exact (setNextPn_silent hid now).trans (ih (setNextPn s id now) hids)

/-! ## Packets that were sent -/

@[simp] theorem stamp_decreaseInflight (po : PacketOut) : po.decreaseInflight.stamp = po.stamp := by
  unfold PacketOut.decreaseInflight
  split_ifs <;> rfl

theorem removeUnacked_silent (s : SendQueue) (id : PktId) : Silent s (removeUnacked s id) :=
  (Silent.unlink s id).trans (.mark _ id fun _ => rfl)

theorem leaveList_silent (s : SendQueue) (id : PktId) (path : Bool) : Silent s (leaveList s id path) := by
  unfold leaveList
  split_ifs
  · exact (Silent.unlink s id).trans (.mark _ id fun _ => rfl)
  · exact removeUnacked_silent s id

theorem releaseOrigin_silent (s : SendQueue) (origin : PktId) : Silent s (releaseOrigin s origin) := by
  have hrelease : Silent s (s.modify origin PacketOut.release) := .mark s origin fun _ => rfl
  unfold releaseOrigin
  split_ifs
  · apply hrelease.trans
    apply Silent.trans _ (removeUnacked_silent _ origin)
    exact .mark _ origin stamp_decreaseInflight
  · exact hrelease

theorem maybeRemoveUnacked_silent (s : SendQueue) (id : PktId) (path : Bool) :
    Silent s (maybeRemoveUnacked s id path) := by
  unfold maybeRemoveUnacked
  split
  · split_ifs
    · exact .refl s
    · exact leaveList_silent s id path
  · exact (leaveList_silent s id path).trans (releaseOrigin_silent _ _)

theorem onPacketAcked_silent (s : SendQueue) (id : PktId) : Silent s (onPacketAcked s id) := by
  have hacked : Silent s (s.modify id PacketOut.onAcked) := .mark s id stamp_decreaseInflight
  unfold onPacketAcked
  split
  · exact hacked
  · exact hacked.trans (.mark _ _ fun _ => rfl)

theorem indirectlyAckOrDropPo_silent (h : indirectlyAckOrDropPo s id = some s') : Silent s s' := by
  unfold indirectlyAckOrDropPo at h
  split_ifs at h
  · obtain rfl := Option.some.inj h
    exact (onPacketAcked_silent s id).trans (maybeRemoveUnacked_silent _ _ _)
  · obtain rfl := Option.some.inj h
    exact maybeRemoveUnacked_silent _ _ _

theorem copyTo_silent (s : SendQueue) {p : Place} (hp : p ≠ .unackedPackets) (id : PktId) :
    Silent s (copyTo s p id) := by
  unfold copyTo
  split
  · exact .refl s
  · have hretain : Silent s (s.modify ((s.pkts id).poOrigin.getD id) PacketOut.retain) :=
      .mark s _ fun _ => rfl
    apply hretain.trans
    exact (Silent.insertNew hp _).trans (.mark _ id fun _ => rfl)

theorem onPacketLost_silent (s : SendQueue) (id : PktId) : Silent s (onPacketLost s id) := by
  have hlost : Silent s (s.modify id PacketOut.decreaseInflight) := .mark s id stamp_decreaseInflight
  unfold onPacketLost
  split_ifs
  · exact hlost.trans (copyTo_silent _ (by exact nofun) id)
  · exact hlost.trans (removeUnacked_silent _ id)
  · exact .refl s

theorem detectLost_silent (s : SendQueue) (th : LossThresholds) : Silent s (detectLost s th) := by
  refine detectLost_induct (P := Silent s) ?_ ?_ (.refl s)
  · intro s₁ id hid s₂ hs₂ h
    exact h.trans (indirectlyAckOrDropPo_silent hs₂)
  · intro s₁ id hid h
    exact h.trans (onPacketLost_silent s₁ id)

theorem sendProbePkt_silent (s : SendQueue) (id : PktId) : Silent s (sendProbePkt s id) := by
  unfold sendProbePkt
  split_ifs
  · exact .refl s
  · refine (Silent.mark s id stamp_decreaseInflight).trans ?_
    exact (copyTo_silent _ (by exact nofun) id).trans (.mark _ id fun _ => rfl)

theorem probeWalk_silent (n : ℕ) (last : Option PktId) (ids : List PktId) (s : SendQueue) :
    Silent s (probeWalk n last ids s).2.2 := by
  refine probeWalk_induct (P := Silent s) n last ?_ ?_ (.refl s)
  · intro s₁ id hid s₂ hs₂ h
    exact h.trans (indirectlyAckOrDropPo_silent hs₂)
  · intro s₁ id hid h
    exact h.trans (sendProbePkt_silent s₁ id)

theorem sendPingToProbe_silent (s : SendQueue) (params : PktParams) :
    Silent s (sendPingToProbe s params) := by
  unfold sendPingToProbe
  split
  · exact .refl s
  · exact .insertNew (by exact nofun) _

theorem sendOneOrTwoAckElicitPkts_silent (s : SendQueue) (params : PktParams) :
    Silent s (sendOneOrTwoAckElicitPkts s params) := by
  refine sendOneOrTwoAckElicitPkts_induct (P := Silent s) ?_ ?_ ?_ (.refl s)
  · intro s₁ id hid s₂ hs₂ h
    exact h.trans (indirectlyAckOrDropPo_silent hs₂)
  · intro s₁ id hid h
    exact h.trans (sendProbePkt_silent s₁ id)
  · intro s₁ h
    exact h.trans (sendPingToProbe_silent s₁ params)

/-! ## Acknowledgements -/

theorem ackPacket_silent (w : AckWalk) (id : PktId) : Silent w.sndq (w.ackPacket id).sndq := by
  have hmark : ∀ po : PacketOut, po.markSpuriousLoss.stamp = po.stamp := by
    intro po
    unfold PacketOut.markSpuriousLoss
    split_ifs <;> rfl
  have hraise : Silent w.sndq (raiseLargest w.sndq (w.sndq.pkts id)) :=
    .shrink rfl rfl (Shrunk.refl _) fun _ => rfl
  apply hraise.trans
  apply (Silent.mark _ id hmark).trans
  exact (onPacketAcked_silent _ id).trans (maybeRemoveUnacked_silent _ id false)

theorem ackWalk_silent (frameLargestAck : ℕ) (ranges : List PktnoRange) (ids : List PktId) (w : AckWalk) :
    Silent w.sndq (ackWalk frameLargestAck ranges ids w).sndq := by
  refine ackWalk_sndq_induct (P := Silent w.sndq) ?_ (.refl _)
  intro w₁ id hid h
  exact h.trans (ackPacket_silent w₁ id)

theorem ackProcess_silent (s : SendQueue) (info : AckInfo) : Silent s (ackProcess s info).sndq := by
  have hsent : Silent s (ackSentOnAck s info).sndq := by
    unfold ackSentOnAck
    split
    · exact .refl s
    · exact .shrink rfl rfl (Shrunk.refl s) fun _ => rfl
  unfold ackProcess
  split
  · exact .refl s
  · exact hsent.trans (ackWalk_silent _ _ _ _)

theorem recvRecord_silent (s : SendQueue) (record : RecvRecord) :
    Silent s { s with recvRecord := record } := .shrink rfl rfl (Shrunk.refl s) fun _ => rfl

theorem onAckReceived_silent (s : SendQueue) (info : AckInfo) (th : LossThresholds) :
    Silent s (onAckReceived s info th).1 := by
  have hack := ackProcess_silent s info
  have hlost := hack.trans (detectLost_silent (ackProcess s info).sndq th)
  unfold onAckReceived
  dsimp only
  split_ifs
  · exact hack
  · exact hlost.trans (recvRecord_silent _ _)
  · exact hlost

/-! ## Writing -/

theorem writeControlFrame_silent (s : SendQueue) (params : PktParams) (c : ControlFrame) (notify : Bool)
    (bufSize : ℕ) (handshakeDone : Bool) :
    Silent s (writeControlFrame s params c notify bufSize handshakeDone) := by
  unfold writeControlFrame
  split
  · exact .refl s
  · apply Silent.insertNew
    cases c <;> cases handshakeDone <;> exact nofun

theorem writeStream_silent (s : SendQueue) (highPri : Bool) (params : PktParams) (streamId offset : ℕ)
    (fin : Bool) (payload : Bytes) :
    Silent s (s.step (.stream highPri params streamId offset fin payload)) := by
  have hplace := Place.ne_unacked (streamPlace_fillable highPri)
  rw [SendQueue.step]
  split
  · exact .refl s
  · rename_i s' n hw
    rcases writeStreamFrame_cases hw with ⟨id, po, hget, -, rfl⟩ | ⟨po₀, po, -, -, rfl⟩
    · exact .set ⟨_, hplace, (getPacketOutForStream_some hget).1⟩ po
    · exact .insertNew hplace po

theorem writeAckToPackets_silent (s : SendQueue) (params : PktParams) (ackDelay ackDelayExponent : ℕ) :
    Silent s (writeAckToPackets s params ackDelay ackDelayExponent) := by
  rcases writeAckToPackets_cases s params ackDelay ackDelayExponent with
    heq | ⟨id, po, htarget, -, -, heq⟩ | ⟨po₀, po, -, -, heq⟩
  · rw [heq]
    exact .refl s
  · rw [heq]
    obtain ⟨p, hfill, hmem⟩ := mem_of_ackTarget htarget
    exact .set ⟨p, Place.ne_unacked hfill, hmem⟩ po
  · rw [heq]
    exact .insertNew (by exact nofun) po

/-- `rqc_conn_send_path_challenge` does not go through the send control. -/
theorem sendPathChallenge_silent (s : SendQueue) (params : PktParams) (data : Bytes) (now : ℕ) :
    Silent s (sendPathChallenge s params data now) := by
  unfold sendPathChallenge
  split
  · exact .refl s
  · rename_i po hpo
    have hnew : (s.insertNew .sendPackets po).Waiting s.nextId :=
      ⟨.sendPackets, by exact nofun, (SendQueue.mem_insertNew po).2 (.inr ⟨rfl, rfl⟩)⟩
    have hnumber := (Silent.insertNew (by exact nofun) po).trans (setNextPn_silent hnew now)
    apply hnumber.trans
    exact .shrink rfl rfl (fun _ => List.filter_sublist.subset) fun _ => rfl

theorem dropStreamFramePackets_silent (s : SendQueue) (streamId : StreamId) :
    Silent s (dropStreamFramePackets s streamId) := by
  refine .shrink rfl rfl (fun p => ?_) fun id => ?_
  · unfold dropStreamFramePackets
    dsimp only
    split_ifs
    · exact List.filter_sublist.subset
    · exact List.Subset.refl _
  · have hlater := (dropStreamFramePackets_later s streamId id).1
    exact Prod.ext hlater.poSentTime hlater.pktNum

/-- **Every event but the one that sends is silent.** -/
theorem step_silent (s : SendQueue) (ev : SendEvent)
    (h : ∀ t outcome srtt now, ev ≠ .send t outcome srtt now) : Silent s (s.step ev) := by
  cases ev with
  | send t outcome srtt now => exact absurd rfl (h t outcome srtt now)
  | control params c notify bufSize handshakeDone =>
      exact writeControlFrame_silent s params c notify bufSize handshakeDone
  | stream highPri params streamId offset fin payload =>
      exact writeStream_silent s highPri params streamId offset fin payload
  | ack params ackDelay ackDelayExponent =>
      exact writeAckToPackets_silent s params ackDelay ackDelayExponent
  | schedule t => exact schedulePacket_silent s t
  | clear t => exact pathSendBufferClear_silent s t
  | numberUnsent t n now => exact numberUnsent_silent s t n now
  | pathChallenge params data now => exact sendPathChallenge_silent s params data now
  | buff1rtt => exact buff1rttPackets_silent s
  | writeBuffed1rtt => exact writeBuffed1rttPackets_silent s
  | ackReceived info th => exact onAckReceived_silent s info th
  | lossTimeout th => exact detectLost_silent s th
  | probeTimeout params => exact sendOneOrTwoAckElicitPkts_silent s params
  | dropStream streamId => exact dropStreamFramePackets_silent s streamId
  | recvPacket pktNum => exact recvRecord_silent s _

/-! ## The event that sends -/

/-- The packet that a round of `rqc_path_send_packets` gives to the socket. -/
def SendQueue.sending (s : SendQueue) (t : SendType) : SendOutcome → Option PktId
  | .sent =>
    match s.lists (.scheduleBuf t) with
    | [] => none
    | id :: _ => if (indirectlyAckOrDropPo s id).isSome then none else some id
  | .blocked | .again => none

theorem markRetrans_silent (s : SendQueue) (t : SendType) (id : PktId) : Silent s (markRetrans s t id) := by
  unfold markRetrans
  split_ifs
  · exact .mark s id fun _ => rfl
  · exact .refl s

theorem sendPacket_silent {t : SendType} {outcome : SendOutcome} (h : s.sending t outcome = none)
    (srtt now : ℕ) : Silent s (sendPacket s t outcome srtt now) := by
  unfold sendPacket
  split
  · exact .refl s
  · rename_i id ids hids
    split
    · rename_i s' hs'
      exact indirectlyAckOrDropPo_silent hs'
    · rename_i hnone
      have hmark := markRetrans_silent s t id
      cases outcome with
      | blocked => exact hmark
      | again =>
          apply hmark.trans
          apply setNextPn_silent
          refine ⟨.scheduleBuf t, by exact nofun, ?_⟩
          rw [markRetrans_lists, hids]
          exact List.mem_cons_self
      | sent => simp [SendQueue.sending, hids, hnone] at h

/-- The packet `id`, which was waiting, is sent at the time `now`. -/
structure Transmits (id : PktId) (now : ℕ) (s s' : SendQueue) : Prop where
  waited : s.Waiting id
  nextId : s'.nextId = s.nextId
  unacked : ∀ i ∈ s'.lists .unackedPackets, i ∈ s.lists .unackedPackets ∨ i = id
  waits : ∀ i, s'.Waiting i → s.Waiting i ∧ i ≠ id
  sentTime : (s'.pkts id).poSentTime = now
  pktNum : (s'.pkts id).pktNum ≤ s'.largestSent
  others : ∀ i, i ≠ id → (s'.pkts i).stamp = (s.pkts i).stamp
  largestSent : s.largestSent ≤ s'.largestSent

theorem Transmits.sentTime_of_ne {now : ℕ} (h : Transmits id now s s') {i : PktId} (hi : i ≠ id) :
    (s'.pkts i).poSentTime = (s.pkts i).poSentTime := congrArg Prod.fst (h.others i hi)

theorem poSentTime_sentPacket (s : SendQueue) (id : PktId) (now : ℕ) :
    (sentPacket s id now).poSentTime = now := by
  unfold sentPacket PacketOut.onSent PacketOut.increaseUnackedStreamRef PacketOut.increaseInflight
    PacketOut.number PacketOut.leavePathBuf PacketOut.enterUnackList
  split_ifs <;> rfl

theorem transmit_transmits (hid : s.Waiting id) (srtt now : ℕ) :
    Transmits id now s (transmit s id srtt now) where
  waited := hid
  nextId := by rw [transmit_eq]
  unacked i hi := (mem_transmit.1 hi).imp And.left fun h => h.2.1
  waits i hi := by
    obtain ⟨p, hp, hmem⟩ := hi
    obtain ⟨hmem, hne⟩ := (mem_transmit.1 hmem).resolve_right fun habs => hp habs.1
    exact ⟨⟨p, hp, hmem⟩, hne⟩
  sentTime := by rw [transmit_pkts_self, poSentTime_sentPacket]
  pktNum := by
    rw [transmit_pkts_self, (sentPacket_marks s id now).2, transmit_eq]
    exact le_max_right _ _
  others i hi := by rw [transmit_pkts_of_ne s srtt now hi]
  largestSent := by
    rw [transmit_eq]
    exact le_max_left _ _

theorem sendPacket_transmits {t : SendType} {outcome : SendOutcome} (h : s.sending t outcome = some id)
    (srtt now : ℕ) : Transmits id now s (sendPacket s t outcome srtt now) := by
  unfold SendQueue.sending at h
  split at h
  · split at h
    · cases h
    · rename_i id' ids hids
      split_ifs at h with hsome
      obtain rfl := Option.some.inj h
      have hnone : indirectlyAckOrDropPo s id' = none := by simpa using hsome
      have hmark := markRetrans_lists s t id'
      have hwait : ∀ i, (markRetrans s t id').Waiting i ↔ s.Waiting i := by
        intro i
        unfold SendQueue.Waiting
        rw [hmark]
      have hid : (markRetrans s t id').Waiting id' :=
        (hwait id').2 ⟨.scheduleBuf t, by exact nofun, hids ▸ List.mem_cons_self⟩
      have hsent := transmit_transmits hid srtt now
      have hstamp : ∀ i, ((markRetrans s t id').pkts i).stamp = (s.pkts i).stamp := by
        intro i
        unfold markRetrans
        split_ifs
        · by_cases hi : i = id'
          · rw [hi, SendQueue.modify_pkts_self]
            rfl
          · rw [SendQueue.modify_pkts_of_ne _ _ hi]
        · rfl
      have hnext : (markRetrans s t id').nextId = s.nextId := by
        unfold markRetrans
        split_ifs <;> rfl
      have hlargest : (markRetrans s t id').largestSent = s.largestSent := by
        unfold markRetrans
        split_ifs <;> rfl
      rw [sendPacket, hids]
      dsimp only
      rw [hnone]
      refine ⟨(hwait id').1 hsent.waited, hsent.nextId.trans hnext, ?_, ?_, hsent.sentTime, hsent.pktNum, ?_,
        hlargest ▸ hsent.largestSent⟩
      · intro i hi
        rw [← hmark]
        exact hsent.unacked i hi
      · intro i hi
        rw [← hwait]
        exact hsent.waits i hi
      · intro i hi
        rw [← hstamp]
        exact hsent.others i hi
  · cases h
  · cases h

/-! ## What was sent -/

/-- The packets `sent` were sent, each once. They do not wait, and what is unacknowledged is among them. -/
structure SentOnce (sent : List PktId) (s : SendQueue) : Prop where
  nodup : sent.Nodup
  fresh : ∀ id, s.Waiting id → id < s.nextId
  gone : ∀ id ∈ sent, id < s.nextId ∧ ¬ s.Waiting id
  listed : s.lists .unackedPackets ⊆ sent

namespace SentOnce

variable {sent : List PktId}

theorem init : SentOnce [] {} where
  nodup := List.nodup_nil
  fresh := fun _ ⟨_, _, hid⟩ => by cases hid
  gone := fun _ hid => by cases hid
  listed := List.Subset.refl _

/-- **What sends nothing leaves the packets that were sent alone.** -/
theorem silent (h : SentOnce sent s) (hs : Silent s s') : SentOnce sent s' where
  nodup := h.nodup
  fresh id hid := by
    rcases hs.waits id hid with hold | hnew
    · exact (h.fresh id hold).trans_le hs.nextId
    · exact hnew.2
  gone id hid := by
    obtain ⟨hlt, hgone⟩ := h.gone id hid
    refine ⟨hlt.trans_le hs.nextId, fun hwait => ?_⟩
    rcases hs.waits id hwait with hold | hnew
    · exact hgone hold
    · exact absurd hnew.1 (not_le.mpr hlt)
  listed := List.Subset.trans hs.unacked h.listed

/-- **A packet that is sent was not sent before.** -/
theorem transmits {now : ℕ} (h : SentOnce sent s) (ht : Transmits id now s s') :
    id ∉ sent ∧ SentOnce (id :: sent) s' := by
  have hnew : id ∉ sent := fun habs => (h.gone id habs).2 ht.waited
  refine ⟨hnew, List.nodup_cons.2 ⟨hnew, h.nodup⟩, fun i hi => ?_, fun i hi => ?_, fun i hi => ?_⟩
  · rw [ht.nextId]
    exact h.fresh i (ht.waits i hi).1
  · rw [ht.nextId]
    rcases List.mem_cons.1 hi with rfl | hi
    · exact ⟨h.fresh i ht.waited, fun hwait => (ht.waits i hwait).2 rfl⟩
    · obtain ⟨hlt, hgone⟩ := h.gone i hi
      exact ⟨hlt, fun hwait => hgone (ht.waits i hwait).1⟩
  · rcases ht.unacked i hi with hold | rfl
    · exact List.mem_cons_of_mem _ (h.listed hold)
    · exact List.mem_cons_self

end SentOnce

end Rquic

import Rquic.SendCtl.LossTimer

set_option autoImplicit false

/-!
# Which packets are declared lost

`rqc_send_ctl_detect_lost` on a list of unacknowledged packets in the order of their numbers.

* `lostWalk`, `LossCtl.lostIds`: the packets for which the loop logs `REC_PACKET_LOST`.
* `LossReady`: what the queue of every run satisfies (`run_lossReady`).
* `Ahead₀`: the packets that the loop has not reached are as they were when it began.
* **`LossCtl.detectLost_exact`**: the packets declared lost, their copies and the loss time, read off
  the state before the call.
-/

namespace Rquic

/-! ## The packets declared lost -/

/-- The packets for which the loop of `rqc_send_ctl_detect_lost` logs `REC_PACKET_LOST`, in this
order; the source counts them in `lost_n`. -/
def lostWalk (largestAcked : ℕ) (th : LossThresholds) : List PktId → SendQueue → List PktId
  | [], _ => []
  | id :: ids, s =>
    match indirectlyAckOrDropPo s id with
    | some s => lostWalk largestAcked th ids s
    | none =>
      if largestAcked < (s.pkts id).pktNum then []
      else if th.deems (s.pkts id) then
        if (s.pkts id).inFlight then id :: lostWalk largestAcked th ids (onPacketLost s id)
        else lostWalk largestAcked th ids (onPacketLost s id)
      else lostWalk largestAcked th ids s

/-- The packets that `rqc_send_ctl_detect_lost` declares lost. -/
def LossCtl.lostIds (c : LossCtl) (now : ℕ) : List PktId :=
  match c.largestAcked with
  | none => []
  | some largestAcked =>
    lostWalk largestAcked (c.thresholds now) (c.lists .unackedPackets) c.toSendQueue

/-- A lost packet is copied: it needs repair or the application waits for it, and it is no datagram. -/
def PacketOut.Copied (po : PacketOut) : Prop :=
  (needRepair po.poFrameTypes ∨ po.notify = true) ∧ .datagram ∉ po.poFrameTypes

instance (po : PacketOut) : Decidable po.Copied := inferInstanceAs (Decidable (_ ∧ _))

/-! ## The queue before the call -/

/-- Numbers grow along the list of unacknowledged packets, a copy stands behind its origin, and an
origin is no copy. -/
structure LossReady (s : SendQueue) : Prop extends AckReady s where
  fresh : ∀ id ∈ s.lists .unackedPackets, id < s.nextId
  roots : ∀ id ∈ s.lists .unackedPackets, ∀ origin, (s.pkts id).poOrigin = some origin →
    origin < s.nextId ∧ (s.pkts origin).poOrigin = none
  /-- `rqc_send_queue_insert_unacked` frees the others. -/
  eliciting : ∀ id ∈ s.lists .unackedPackets, isAckEliciting (s.pkts id).poFrameTypes

/-- What comes to stand in the list of unacknowledged packets asks for an acknowledgement. -/
theorem LifeStep.listed {e : ℕ} {acks : ℕ → Prop} {copied forgotten : PktId → Prop} {s s' : SendQueue}
    (hstep : LifeStep e acks copied forgotten s s') (hq : QueueInv e s) :
    ∀ id ∈ s'.lists .unackedPackets, isAckEliciting (s'.pkts id).poFrameTypes ∨
      id ∈ s.lists .unackedPackets ∧ (s'.pkts id).poFrameTypes = (s.pkts id).poFrameTypes := by
  intro id hid
  cases hstep with
  | move lists pkts hwait hunacked hlife =>
      exact .inr ⟨hunacked ▸ hid, (PacketOut.Later.of_life (hlife id)).types⟩
  | number id' now hid' =>
      refine .inr ⟨hid, ?_⟩
      have hne : id ≠ id' := by
        rintro rfl
        exact hq.apart id hid hid'
      exact congrArg PacketOut.poFrameTypes (SendQueue.modify_pkts_of_ne s _ hne)
  | send id' srtt now hid' =>
      rcases mem_transmit.1 hid with ⟨hmem, hne⟩ | ⟨-, rfl, hack⟩
      · rw [transmit_pkts_of_ne s srtt now hne]
        exact .inr ⟨hmem, rfl⟩
      · have htypes : (sentPacket s id now).poFrameTypes = (s.pkts id).poFrameTypes :=
          (congrArg PacketOut.poFrameTypes (sentPacket_body s id now) :)
        left
        rwa [transmit_pkts_self, htypes]
  | insert p po hp horigin hacked hsound =>
      rcases (SendQueue.mem_insertNew po).1 hid with hid | ⟨habs, -⟩
      · rw [SendQueue.insertNew_pkts_of_ne s p po (hq.fresh _ id hid).ne]
        exact .inr ⟨hid, rfl⟩
      · exact absurd habs.symm hp
  | fill p id' po hp hid' horigin hacked hsound =>
      have hne : id ≠ id' := by
        rintro rfl
        exact hq.apart id hid ⟨p, Place.ne_unacked hp, hid'⟩
      rw [SendQueue.set_pkts_of_ne s po hne]
      exact .inr ⟨hid, rfl⟩
  | repair p src copy pkts hp hsrc hcopied hcopy hnew hlater hacked hlife =>
      simp only [Function.update_of_ne hp.symm] at hid
      exact .inr ⟨hid, (hlater id (hq.fresh _ id hid).ne).types⟩
  | settle _ root hw hroot => exact .inr ⟨(hw.lists _).subset hid, (hw.later id).types⟩
  | space | record => exact .inr ⟨hid, rfl⟩
  | drop streamId hforgotten =>
      refine .inr ⟨?_, (dropStreamFramePackets_later s streamId id).1.types⟩
      simp only [dropStreamFramePackets, Place.dropped, if_true] at hid
      exact List.mem_of_mem_filter hid
  | shoot id' horigin hforgotten => exact .inr ⟨List.mem_of_mem_filter hid, rfl⟩

theorem LifeSteps.eliciting {e : ℕ} {acks : ℕ → Prop} {copied forgotten : PktId → Prop}
    {s s' : SendQueue} (hsteps : LifeSteps e acks copied forgotten s s') (hq : QueueInv e s)
    (h : ∀ id ∈ s.lists .unackedPackets, isAckEliciting (s.pkts id).poFrameTypes) :
    ∀ id ∈ s'.lists .unackedPackets, isAckEliciting (s'.pkts id).poFrameTypes := by
  induction hsteps with
  | refl => exact h
  | tail hsteps hstep ih =>
      intro id hid
      rcases hstep.listed (LifeSteps.inv hsteps hq) id hid with hack | ⟨hmem, htypes⟩
      · exact hack
      · rw [htypes]
        exact ih id hmem

theorem run_lossReady (evs : List SendEvent) (hwf : ∀ ev ∈ evs, ev.Wf) :
    LossReady (SendQueue.run {} evs) := by
  have hq := (run_inv 0 evs hwf).1
  refine ⟨⟨hq.sorted, hq.order⟩, hq.fresh .unackedPackets, fun id hid origin horigin => ?_, ?_⟩
  · have hcopy := hq.family id (hq.fresh _ id hid) origin horigin
    exact ⟨hcopy.lt, hcopy.original⟩
  · clear hq
    induction evs using List.reverseRecOn with
    | nil => exact fun _ hid => by cases hid
    | append_singleton evs ev ih =>
        have hevs : ∀ ev' ∈ evs, ev'.Wf := fun ev' hev' => hwf ev' (List.mem_append_left _ hev')
        obtain ⟨hq, hc⟩ := run_inv 0 evs hevs
        rw [SendQueue.run_append]
        exact LifeSteps.eliciting (step_life hq hc (hwf ev (by simp))) hq (ih hevs)

/-! ## One packet of the loop -/

/-- The packet `id` and its original `root` are changed and leave their lists, and `new` is put into the
list of lost packets. Which originals are acknowledged stays the same. -/
structure Confined (id root : PktId) (new : List PktId) (s s' : SendQueue) : Prop where
  others : ∀ i < s.nextId, i ≠ id → i ≠ root → s'.pkts i = s.pkts i
  origin : ∀ i < s.nextId, (s'.pkts i).poOrigin = (s.pkts i).poOrigin
  acked : ∀ i < s.nextId, (s.pkts i).poOrigin = none → (s'.pkts i).poAcked = (s.pkts i).poAcked
  grounded : ∀ i < s.nextId, (s.pkts i).inFlight = false → (s'.pkts i).inFlight = false
  lists : ∃ p : PktId → Bool, (∀ i, i ≠ id → i ≠ root → p i = true) ∧
    ∀ q, s'.lists q = (s.lists q).filter p ++ if q = .lostPackets then new else []
  nextId : s'.nextId = s.nextId + new.length

namespace Confined

variable {id root i : PktId} {new : List PktId} {s s' s'' : SendQueue} {f : PacketOut → PacketOut}

theorem refl (id root : PktId) (s : SendQueue) : Confined id root [] s s where
  others _ _ _ _ := rfl
  origin _ _ := rfl
  acked _ _ _ := rfl
  grounded _ _ h := h
  lists := ⟨fun _ => true, fun _ _ _ => rfl, fun q => by simp⟩
  nextId := rfl

theorem trans (h : Confined id root [] s s') (h' : Confined id root new s' s'') :
    Confined id root new s s'' := by
  have hnext : s'.nextId = s.nextId := h.nextId
  obtain ⟨p, hp, hlists⟩ := h.lists
  obtain ⟨p', hp', hlists'⟩ := h'.lists
  refine ⟨fun i hi hid hroot => ?_, fun i hi => ?_, fun i hi ho => ?_, fun i hi hin => ?_, ?_, ?_⟩
  · rw [h'.others i (hnext ▸ hi) hid hroot, h.others i hi hid hroot]
  · rw [h'.origin i (hnext ▸ hi), h.origin i hi]
  · rw [h'.acked i (hnext ▸ hi) ((h.origin i hi).trans ho), h.acked i hi ho]
  · exact h'.grounded i (hnext ▸ hi) (h.grounded i hi hin)
  · refine ⟨fun i => p i && p' i, fun i hid hroot => ?_, fun q => ?_⟩
    · simp only [hp i hid hroot, hp' i hid hroot, Bool.and_self]
    · rw [hlists' q, hlists q, ite_self, List.append_nil, List.filter_filter]
      simp only [Bool.and_comm]
  · rw [h'.nextId, hnext]

theorem mark (h : Confined id root new s s') (hi : i = id ∨ i = root)
    (horigin : ∀ po, (f po).poOrigin = po.poOrigin) (hacked : ∀ po, (f po).poAcked = po.poAcked)
    (hflight : ∀ po, po.inFlight = false → (f po).inFlight = false) :
    Confined id root new s (s'.modify i f) where
  others i' hi' hid hroot := by
    have hne : i' ≠ i := by rcases hi with rfl | rfl <;> assumption
    rw [SendQueue.modify_pkts_of_ne s' f hne, h.others i' hi' hid hroot]
  origin i' hi' := by
    rw [← h.origin i' hi']
    by_cases hne : i' = i
    · rw [hne, SendQueue.modify_pkts_self, horigin]
    · rw [SendQueue.modify_pkts_of_ne s' f hne]
  acked i' hi' ho := by
    rw [← h.acked i' hi' ho]
    by_cases hne : i' = i
    · rw [hne, SendQueue.modify_pkts_self, hacked]
    · rw [SendQueue.modify_pkts_of_ne s' f hne]
  grounded i' hi' hin := by
    have hin' := h.grounded i' hi' hin
    by_cases hne : i' = i
    · rw [hne] at hin' ⊢
      rw [SendQueue.modify_pkts_self]
      exact hflight _ hin'
    · rwa [SendQueue.modify_pkts_of_ne s' f hne]
  lists := h.lists
  nextId := h.nextId

theorem unlink (hi : i = id ∨ i = root) (s : SendQueue) : Confined id root [] s (s.unlink i) where
  others _ _ _ _ := rfl
  origin _ _ := rfl
  acked _ _ _ := rfl
  grounded _ _ h := h
  lists := by
    refine ⟨fun i' => decide (i' ≠ i), fun i' hid hroot => decide_eq_true ?_, fun q => ?_⟩
    · rcases hi with rfl | rfl <;> assumption
    · simp
  nextId := rfl

theorem removeUnacked (hi : i = id ∨ i = root) (s : SendQueue) :
    Confined id root [] s (removeUnacked s i) :=
  (unlink hi s).mark hi (fun _ => rfl) (fun _ => rfl) fun _ h => h

theorem leaveList (s : SendQueue) (path : Bool) : Confined id root [] s (leaveList s id path) := by
  unfold Rquic.leaveList
  split_ifs
  · exact (unlink (.inl rfl) s).mark (.inl rfl) (fun _ => rfl) (fun _ => rfl) fun _ h => h
  · exact removeUnacked (.inl rfl) s

theorem decreaseInflight (h : Confined id root new s s') (hi : i = id ∨ i = root) :
    Confined id root new s (s'.modify i PacketOut.decreaseInflight) := by
  refine h.mark hi (fun po => ?_) (fun po => ?_) fun po hin => ?_
  all_goals unfold PacketOut.decreaseInflight; split_ifs <;> first | rfl | exact hin

theorem releaseOrigin (s : SendQueue) : Confined id root [] s (releaseOrigin s root) := by
  have hrelease : Confined id root [] s (s.modify root PacketOut.release) :=
    (refl id root s).mark (.inr rfl) (fun _ => rfl) (fun _ => rfl) fun _ h => h
  unfold Rquic.releaseOrigin
  split_ifs
  · exact (hrelease.decreaseInflight (.inr rfl)).trans (removeUnacked (.inr rfl) _)
  · exact hrelease

theorem maybeRemoveUnacked (s : SendQueue) (id : PktId) (path : Bool) :
    Confined id (s.root id) [] s (maybeRemoveUnacked s id path) := by
  unfold Rquic.maybeRemoveUnacked
  split
  · split_ifs
    · exact refl id _ s
    · exact leaveList s path
  · rename_i origin ho
    have hroot : s.root id = origin := by rw [SendQueue.root, ho, Option.getD_some]
    rw [hroot]
    exact (leaveList s path).trans (releaseOrigin _)

theorem onPacketAcked {origin : PktId} (ho : (s.pkts id).poOrigin = some origin)
    (hacked : (s.pkts origin).poAcked = true) : Confined id origin [] s (onPacketAcked s id) where
  others i hi hid hroot := by
    rw [Rquic.onPacketAcked, ho]
    dsimp only
    rw [SendQueue.modify_pkts_of_ne _ _ hroot, SendQueue.modify_pkts_of_ne _ _ hid]
  origin i hi := (congrArg PacketOut.poOrigin (core_onPacketAcked s id i) :)
  acked i hi ho' := by
    have hcore := congrArg PacketOut.poAcked (core_onPacketAcked s id i)
    refine (hcore :).trans ?_
    have hne : i ≠ id := by
      rintro rfl
      rw [ho] at ho'
      cases ho'
    by_cases horigin : origin = i
    · subst horigin
      simp [hacked]
    · simp [hne, ho, horigin]
  grounded i hi hin := by
    have hflight : ∀ po : PacketOut, po.inFlight = false → po.onAcked.inFlight = false := by
      intro po hpo
      unfold PacketOut.onAcked PacketOut.decreaseInflight
      split_ifs <;> first | rfl | exact hpo
    rw [Rquic.onPacketAcked, ho]
    dsimp only
    by_cases horigin : i = origin
    · subst horigin
      rw [SendQueue.modify_pkts_self]
      by_cases hid : i = id
      · subst hid
        rw [SendQueue.modify_pkts_self]
        exact hflight _ hin
      · rwa [SendQueue.modify_pkts_of_ne _ _ hid]
    · rw [SendQueue.modify_pkts_of_ne _ _ horigin]
      by_cases hid : i = id
      · subst hid
        rw [SendQueue.modify_pkts_self]
        exact hflight _ hin
      · rwa [SendQueue.modify_pkts_of_ne _ _ hid]
  lists := by
    rw [onPacketAcked_lists]
    exact (refl id origin s).lists
  nextId := by
    rw [Rquic.onPacketAcked, ho]
    rfl

theorem indirectlyAckOrDropPo (h : indirectlyAckOrDropPo s id = some s') :
    Confined id (s.root id) [] s s' := by
  obtain ⟨-, rfl⟩ := indirectlyAckOrDropPo_eq_some.1 h
  split_ifs with horigin
  · obtain ⟨origin, ho, hacked⟩ := originAcked_eq_true.1 horigin
    have hroot : s.root id = origin := by rw [SendQueue.root, ho, Option.getD_some]
    have hsame : ((Rquic.onPacketAcked s id).pkts id).poOrigin = (s.pkts id).poOrigin :=
      (congrArg PacketOut.poOrigin (core_onPacketAcked s id id) :)
    have hroot' : (Rquic.onPacketAcked s id).root id = origin := by
      rw [SendQueue.root, hsame, ho, Option.getD_some]
    have hremove := maybeRemoveUnacked (Rquic.onPacketAcked s id) id true
    rw [hroot'] at hremove
    rw [hroot]
    exact (onPacketAcked ho hacked).trans hremove
  · exact maybeRemoveUnacked s id true

theorem copyToLost {copy : PacketOut} (hid : id < s.nextId)
    (hcopy : (s.pkts id).retransmission id = some copy) :
    Confined id (s.root id) [s.nextId] s (copyToLost s id) ∧
      (Rquic.copyToLost s id).pkts s.nextId = copy := by
  have hretain : Confined id (s.root id) [] s (s.modify (s.root id) PacketOut.retain) :=
    (refl id _ s).mark (.inr rfl) (fun _ => rfl) (fun _ => rfl) fun _ h => h
  set s₁ := s.modify (s.root id) PacketOut.retain with hs₁
  have hinsert : Confined id (s.root id) [s.nextId] s₁ (s₁.insertNew .lostPackets copy) := by
    have hold : ∀ i < s₁.nextId, (s₁.insertNew .lostPackets copy).pkts i = s₁.pkts i :=
      fun i hi => SendQueue.insertNew_pkts_of_ne s₁ _ copy hi.ne
    refine ⟨fun i hi _ _ => hold i hi, fun i hi => by rw [hold i hi], fun i hi _ => by rw [hold i hi],
      fun i hi hin => by rwa [hold i hi], ⟨fun _ => true, fun _ _ _ => rfl, fun q => ?_⟩, rfl⟩
    rw [List.filter_true, SendQueue.insertNew]
    by_cases hq : q = .lostPackets
    · subst hq
      simp [hs₁]
    · simp [hq]
  have heq : Rquic.copyToLost s id =
      (s₁.insertNew .lostPackets copy).modify id PacketOut.markRetransed := by
    rw [Rquic.copyToLost, copyTo, hcopy, hs₁]
    rfl
  rw [heq]
  refine ⟨(hretain.trans hinsert).mark (.inl rfl) (fun _ => rfl) (fun _ => rfl) fun _ h => h, ?_⟩
  rw [SendQueue.modify_pkts_of_ne _ _ hid.ne']
  exact SendQueue.insertNew_pkts_nextId s₁ _ copy

end Confined

/-- A packet declared lost leaves flight, and gets one copy or none. -/
theorem onPacketLost_confined {s : SendQueue} {id : PktId} (hid : id < s.nextId)
    (hin : (s.pkts id).inFlight = true) (heliciting : isAckEliciting (s.pkts id).poFrameTypes) :
    Confined id (s.root id) (if (s.pkts id).Copied then [s.nextId] else []) s (onPacketLost s id) ∧
      ((onPacketLost s id).pkts id).inFlight = false ∧
      ((s.pkts id).Copied →
        (s.pkts id).decreaseInflight.retransmission id = some ((onPacketLost s id).pkts s.nextId)) := by
  have hdecrease := (Confined.refl id (s.root id) s).decreaseInflight (.inl rfl)
  set s₁ := s.modify id PacketOut.decreaseInflight with hs₁
  have hself : s₁.pkts id = (s.pkts id).decreaseInflight := SendQueue.modify_pkts_self ..
  have hflight : (s₁.pkts id).inFlight = false := by
    rw [hself, PacketOut.decreaseInflight, if_pos ⟨hin, heliciting⟩]
  have hroot₁ : s₁.root id = s.root id := by
    rw [SendQueue.root, SendQueue.root, hdecrease.origin id hid]
  unfold onPacketLost
  rw [if_pos hin, ← hs₁]
  by_cases hneed : needRepair (s.pkts id).poFrameTypes ∨ (s.pkts id).notify = true
  · rw [if_pos hneed]
    by_cases hdatagram : .datagram ∈ (s.pkts id).poFrameTypes
    · -- a datagram is not copied
      have hnone : (s₁.pkts id).retransmission id = none := by
        rw [hself, PacketOut.retransmission, if_pos]
        rwa [(PacketOut.later_decreaseInflight (s.pkts id)).types]
      have heq : copyToLost s₁ id = s₁ := by rw [copyToLost, copyTo, hnone]
      have hno : ¬ (s.pkts id).Copied := fun h => h.2 hdatagram
      rw [heq, if_neg hno]
      exact ⟨hdecrease, hflight, fun h => absurd h hno⟩
    · obtain ⟨copy, hcopy⟩ : ∃ copy, (s₁.pkts id).retransmission id = some copy := by
        rw [hself, PacketOut.retransmission, if_neg]
        · exact ⟨_, rfl⟩
        · rwa [(PacketOut.later_decreaseInflight (s.pkts id)).types]
      obtain ⟨hconf, hnew⟩ := Confined.copyToLost (s := s₁) hid hcopy
      rw [hroot₁] at hconf
      have hyes : (s.pkts id).Copied := ⟨hneed, hdatagram⟩
      rw [if_pos hyes]
      refine ⟨hdecrease.trans hconf, hconf.grounded id hid hflight, fun _ => ?_⟩
      rw [← hself, hcopy]
      exact congrArg some hnew.symm
  · have hno : ¬ (s.pkts id).Copied := fun h => hneed h.1
    have hremove : Confined id (s.root id) [] s₁ (removeUnacked s₁ id) := .removeUnacked (.inl rfl) s₁
    rw [if_neg hneed, if_neg hno]
    exact ⟨hdecrease.trans hremove, hremove.grounded id hid hflight, fun h => absurd h hno⟩

/-! ## The packets that are still to come -/

/-- The packets `ids`, which the loop has not reached, are as they were in the queue `s₀` that it began
with. -/
structure Unreached (s₀ s : SendQueue) (ids : List PktId) : Prop where
  nextId_le : s₀.nextId ≤ s.nextId
  pkts : ∀ i ∈ ids, s.pkts i = s₀.pkts i
  origin : ∀ o < s₀.nextId, (s.pkts o).poOrigin = (s₀.pkts o).poOrigin
  acked : ∀ o < s₀.nextId, (s₀.pkts o).poOrigin = none → (s.pkts o).poAcked = (s₀.pkts o).poAcked
  mem : ∀ i ∈ ids, i ∈ s.lists .unackedPackets

theorem Unreached.init (s : SendQueue) : Unreached s s (s.lists .unackedPackets) :=
  ⟨le_rfl, fun _ _ => rfl, fun _ _ => rfl, fun _ _ _ => rfl, fun _ hi => hi⟩

section Loop

variable {s₀ s s' : SendQueue} {id : PktId} {ids new lost : List PktId}

theorem Unreached.tail (h : Unreached s₀ s (id :: ids)) : Unreached s₀ s ids :=
  ⟨h.nextId_le, fun i hi => h.pkts i (List.mem_cons_of_mem _ hi), h.origin, h.acked,
    fun i hi => h.mem i (List.mem_cons_of_mem _ hi)⟩

/-- A packet that is still to come is acknowledged exactly if it was when the loop began. -/
theorem Unreached.settled_iff (h₀ : LossReady s₀) (h : Unreached s₀ s ids) (hid : id ∈ ids)
    (hlisted : id ∈ s₀.lists .unackedPackets) : s.Settled id ↔ s₀.Settled id := by
  have horigin : originAcked s id = originAcked s₀ id := by
    unfold originAcked
    rw [h.pkts id hid]
    cases ho : (s₀.pkts id).poOrigin with
    | none => rfl
    | some o =>
        obtain ⟨hlt, hnone⟩ := h₀.roots id hlisted o ho
        exact h.acked o hlt hnone
  rw [SendQueue.Settled, SendQueue.Settled, horigin, h.pkts id hid]

theorem LossReady.root_lt (h₀ : LossReady s₀) (hlisted : id ∈ s₀.lists .unackedPackets) :
    s₀.root id < s₀.nextId := by
  unfold SendQueue.root
  cases ho : (s₀.pkts id).poOrigin with
  | none => exact h₀.fresh id hlisted
  | some o => exact (h₀.roots id hlisted o ho).1

theorem Unreached.root_eq (h : Unreached s₀ s (id :: ids)) : s.root id = s₀.root id := by
  rw [SendQueue.root, SendQueue.root, h.pkts id List.mem_cons_self]

theorem LossReady.behind (h₀ : LossReady s₀) (hids : id :: ids <:+ s₀.lists .unackedPackets) :
    ∀ i ∈ ids, i ≠ id ∧ i ≠ s₀.root id := by
  intro i hi
  have hsorted := (List.pairwise_cons.1 (h₀.sorted.sublist hids.sublist)).1 i hi
  have hid : id ∈ s₀.lists .unackedPackets := hids.subset List.mem_cons_self
  have hi' : i ∈ s₀.lists .unackedPackets := hids.subset (List.mem_cons_of_mem _ hi)
  have hne : i ≠ id := by
    rintro rfl
    exact lt_irrefl _ hsorted
  refine ⟨hne, ?_⟩
  unfold SendQueue.root
  cases ho : (s₀.pkts id).poOrigin with
  | none => exact hne
  | some o =>
      rintro rfl
      exact lt_asymm hsorted (h₀.order id hid _ hi' ho)

/-- What the loop does with one packet leaves the packets behind it alone. -/
theorem Unreached.step (h₀ : LossReady s₀) (hids : id :: ids <:+ s₀.lists .unackedPackets)
    (h : Unreached s₀ s (id :: ids)) (hconf : Confined id (s.root id) new s s') :
    Unreached s₀ s' ids := by
  rw [h.root_eq] at hconf
  have hbehind := h₀.behind hids
  have hlt : ∀ i ∈ ids, i < s.nextId := fun i hi =>
    (h₀.fresh i (hids.subset (List.mem_cons_of_mem _ hi))).trans_le h.nextId_le
  refine ⟨?_, fun i hi => ?_, fun o ho => ?_, fun o ho hnone => ?_, fun i hi => ?_⟩
  · rw [hconf.nextId]
    exact h.nextId_le.trans (Nat.le_add_right _ _)
  · rw [hconf.others i (hlt i hi) (hbehind i hi).1 (hbehind i hi).2, h.tail.pkts i hi]
  · rw [hconf.origin o (ho.trans_le h.nextId_le), h.origin o ho]
  · rw [hconf.acked o (ho.trans_le h.nextId_le) ((h.origin o ho).trans hnone), h.acked o ho hnone]
  · obtain ⟨p, hp, hlists⟩ := hconf.lists
    rw [hlists, if_neg nofun, List.append_nil]
    exact List.mem_filter.2 ⟨h.tail.mem i hi, hp i (hbehind i hi).1 (hbehind i hi).2⟩

/-! ## What is done with lost packets -/

/-- The lost packets of which a copy is made. -/
def SendQueue.copiedOf (s : SendQueue) (lost : List PktId) : List PktId :=
  lost.filter fun id => (s.pkts id).Copied

/-- The packets `lost` of the queue `s₀` have left flight, and the list of lost packets ends in the
copies that were made of them, in the same order. -/
structure Declared (s₀ s : SendQueue) (lost : List PktId) : Prop where
  grounded : ∀ id ∈ lost, (s.pkts id).inFlight = false
  nextId : s.nextId = s₀.nextId + (s₀.copiedOf lost).length
  lists : ∃ kept, kept.Sublist (s₀.lists .lostPackets) ∧
    s.lists .lostPackets = kept ++ List.range' s₀.nextId (s₀.copiedOf lost).length
  copies : (List.range' s₀.nextId (s₀.copiedOf lost).length).map (fun i => some (s.pkts i)) =
    (s₀.copiedOf lost).map fun id => (s₀.pkts id).decreaseInflight.retransmission id

theorem Declared.init (s : SendQueue) : Declared s s [] :=
  ⟨nofun, rfl, ⟨_, List.Sublist.refl _, by simp [SendQueue.copiedOf]⟩, rfl⟩

/-- The packet `id` was settled, or it is lost and was copied if it had to be. -/
theorem Declared.step (h₀ : LossReady s₀) (hlisted : id ∈ s₀.lists .unackedPackets)
    (hlost : ∀ i ∈ lost, i < s₀.nextId) (hroot : s.root id = s₀.root id) (h : Declared s₀ s lost)
    {more : List PktId}
    (hconf : Confined id (s.root id) (List.range' s.nextId (s₀.copiedOf more).length) s s')
    (hflight : ∀ i ∈ more, (s'.pkts i).inFlight = false)
    (hcopies : (List.range' s.nextId (s₀.copiedOf more).length).map (fun i => some (s'.pkts i)) =
      (s₀.copiedOf more).map fun id => (s₀.pkts id).decreaseInflight.retransmission id) :
    Declared s₀ s' (lost ++ more) := by
  have hid := h₀.fresh id hlisted
  have hroot_lt := h₀.root_lt hlisted
  have hle : s₀.nextId ≤ s.nextId := by
    rw [h.nextId]
    exact Nat.le_add_right _ _
  have hsplit : s₀.copiedOf (lost ++ more) = s₀.copiedOf lost ++ s₀.copiedOf more :=
    List.filter_append ..
  have hrange : List.range' s₀.nextId (s₀.copiedOf (lost ++ more)).length =
      List.range' s₀.nextId (s₀.copiedOf lost).length ++
        List.range' s.nextId (s₀.copiedOf more).length := by
    rw [hsplit, List.length_append, h.nextId, List.range'_append_1]
  have hold : ∀ i ∈ List.range' s₀.nextId (s₀.copiedOf lost).length,
      i < s.nextId ∧ i ≠ id ∧ i ≠ s.root id := by
    intro i hi
    obtain ⟨hle, hlt⟩ := List.mem_range'_1.1 hi
    rw [hroot, h.nextId]
    exact ⟨hlt, (hid.trans_le hle).ne', (hroot_lt.trans_le hle).ne'⟩
  refine ⟨fun i hi => ?_, ?_, ?_, ?_⟩
  · rcases List.mem_append.1 hi with hi | hi
    · exact hconf.grounded i ((hlost i hi).trans_le hle) (h.grounded i hi)
    · exact hflight i hi
  · rw [hconf.nextId, List.length_range', h.nextId, hsplit, List.length_append, Nat.add_assoc]
  · obtain ⟨kept, hkept, hlist⟩ := h.lists
    obtain ⟨p, hp, hlists⟩ := hconf.lists
    refine ⟨kept.filter p, List.filter_sublist.trans hkept, ?_⟩
    rw [hlists, if_pos rfl, hlist, List.filter_append, hrange, List.append_assoc]
    congr 2
    exact List.filter_eq_self.2 fun i hi => hp i (hold i hi).2.1 (hold i hi).2.2
  · rw [hrange, hsplit, List.map_append, List.map_append, hcopies, ← h.copies]
    congr 1
    exact List.map_congr_left fun i hi =>
      congrArg some (hconf.others i (hold i hi).1 (hold i hi).2.1 (hold i hi).2.2)

/-- The packet is dropped because it was acknowledged, or not in flight any more. -/
theorem Declared.pass (h₀ : LossReady s₀) (hlisted : id ∈ s₀.lists .unackedPackets)
    (hlost : ∀ i ∈ lost, i < s₀.nextId) (hroot : s.root id = s₀.root id) (h : Declared s₀ s lost)
    (hconf : Confined id (s.root id) [] s s') : Declared s₀ s' lost := by
  have hnone : Confined id (s.root id) (List.range' s.nextId (s₀.copiedOf []).length) s s' := hconf
  have hstep := h.step h₀ hlisted hlost hroot hnone (fun _ hi => nomatch hi) rfl
  rwa [List.append_nil] at hstep

theorem Declared.lose (h₀ : LossReady s₀) (hlisted : id ∈ s₀.lists .unackedPackets)
    (hlost : ∀ i ∈ lost, i < s₀.nextId) (hu : Unreached s₀ s (id :: ids)) (h : Declared s₀ s lost)
    (hin : (s.pkts id).inFlight = true) : Declared s₀ (onPacketLost s id) (lost ++ [id]) := by
  have hpkt : s.pkts id = s₀.pkts id := hu.pkts id List.mem_cons_self
  have hid := h₀.fresh id hlisted
  obtain ⟨hconf, hflight, hcopy⟩ :=
    onPacketLost_confined (hid.trans_le hu.nextId_le) hin (hpkt ▸ h₀.eliciting id hlisted)
  have hsingle : s₀.copiedOf [id] = if (s.pkts id).Copied then [id] else [] := by
    rw [SendQueue.copiedOf, hpkt]
    by_cases hc : (s₀.pkts id).Copied <;> simp [hc]
  refine h.step h₀ hlisted hlost hu.root_eq ?_ (fun i hi => ?_) ?_
  · rw [hsingle]
    by_cases hc : (s.pkts id).Copied
    · rwa [if_pos hc] at hconf ⊢
    · rwa [if_neg hc] at hconf ⊢
  · rwa [List.mem_singleton.1 hi]
  · rw [hsingle]
    by_cases hc : (s.pkts id).Copied
    · have hcopy' := hcopy hc
      rw [hpkt] at hcopy'
      simp [hc, hcopy']
    · rw [if_neg hc]
      rfl

/-! ## The loop -/

theorem Unreached.lose (h₀ : LossReady s₀) (hids : id :: ids <:+ s₀.lists .unackedPackets)
    (h : Unreached s₀ s (id :: ids)) : Unreached s₀ (onPacketLost s id) ids := by
  have hlisted : id ∈ s₀.lists .unackedPackets := hids.subset List.mem_cons_self
  have hpkt : s.pkts id = s₀.pkts id := h.pkts id List.mem_cons_self
  by_cases hin : (s.pkts id).inFlight = true
  · have hid := (h₀.fresh id hlisted).trans_le h.nextId_le
    exact h.step h₀ hids (onPacketLost_confined hid hin (hpkt ▸ h₀.eliciting id hlisted)).1
  · rw [onPacketLost, if_neg hin]
    exact h.tail

/-- The loop compares the packet with the thresholds: neither it nor its origin is acknowledged, and its
number is not above the largest one acknowledged. -/
def SendQueue.Exposed (s : SendQueue) (largestAcked : ℕ) (id : PktId) : Prop :=
  ¬ s.Settled id ∧ (s.pkts id).pktNum ≤ largestAcked

instance (s : SendQueue) (largestAcked : ℕ) (id : PktId) : Decidable (s.Exposed largestAcked id) :=
  inferInstanceAs (Decidable (_ ∧ _))

/-- Behind a packet above the largest one acknowledged the loop would find no other. -/
theorem LossReady.not_exposed (h₀ : LossReady s₀) (hids : id :: ids <:+ s₀.lists .unackedPackets)
    {largestAcked : ℕ} (hlarge : largestAcked < (s₀.pkts id).pktNum) :
    ∀ i ∈ id :: ids, ¬ s₀.Exposed largestAcked i := by
  have hsorted := List.pairwise_cons.1 (h₀.sorted.sublist hids.sublist)
  intro i hi hexposed
  rcases List.mem_cons.1 hi with rfl | hi
  · exact absurd hexposed.2 (not_le.2 hlarge)
  · exact absurd hexposed.2 (not_le.2 (hlarge.trans (hsorted.1 i hi)))

variable {largestAcked : ℕ} {th : LossThresholds}

/-- **The packets declared lost** are those in flight that are compared with the thresholds and deemed
lost. -/
theorem lostWalk_eq (h₀ : LossReady s₀) (hids : ids <:+ s₀.lists .unackedPackets)
    (hu : Unreached s₀ s ids) : lostWalk largestAcked th ids s = ids.filter fun id =>
      s₀.Exposed largestAcked id ∧ th.deems (s₀.pkts id) = true ∧ (s₀.pkts id).inFlight = true := by
  induction ids generalizing s with
  | nil => rfl
  | cons id ids ih =>
      have hids' : ids <:+ s₀.lists .unackedPackets := (List.suffix_cons id ids).trans hids
      have hlisted : id ∈ s₀.lists .unackedPackets := hids.subset List.mem_cons_self
      have hpkt : s.pkts id = s₀.pkts id := hu.pkts id List.mem_cons_self
      have hsettled := hu.settled_iff h₀ List.mem_cons_self hlisted
      unfold lostWalk
      split
      · rename_i s' hs'
        have hdone : s₀.Settled id := hsettled.1 (indirectlyAckOrDropPo_eq_some.1 hs').1
        have hno : ¬ s₀.Exposed largestAcked id := fun h => h.1 hdone
        rw [ih hids' (hu.step h₀ hids (.indirectlyAckOrDropPo hs'))]
        simp [hno]
      · rename_i hs'
        have hopen : ¬ s₀.Settled id := fun h => indirectlyAckOrDropPo_eq_none.1 hs' (hsettled.2 h)
        rw [hpkt]
        split_ifs with hlarge hdeems hin
        · have hnone := h₀.not_exposed hids hlarge
          refine (List.filter_eq_nil_iff.2 fun i hi => ?_).symm
          simp [hnone i hi]
        · rw [ih hids' (hu.lose h₀ hids)]
          simp [SendQueue.Exposed, hopen, not_lt.1 hlarge, hdeems, hin]
        · rw [ih hids' (hu.lose h₀ hids)]
          simp [hin]
        · rw [ih hids' hu.tail]
          simp [hdeems]

/-- **Every packet declared lost leaves flight and gets its copy.** -/
theorem detectLostWalk_declared (h₀ : LossReady s₀) (hids : ids <:+ s₀.lists .unackedPackets)
    (hu : Unreached s₀ s ids) (hlost : ∀ i ∈ lost, i < s₀.nextId) (h : Declared s₀ s lost) :
    Declared s₀ (detectLostWalk largestAcked th ids s) (lost ++ lostWalk largestAcked th ids s) := by
  induction ids generalizing s lost with
  | nil => simpa [detectLostWalk, lostWalk] using h
  | cons id ids ih =>
      have hids' : ids <:+ s₀.lists .unackedPackets := (List.suffix_cons id ids).trans hids
      have hlisted : id ∈ s₀.lists .unackedPackets := hids.subset List.mem_cons_self
      rw [detectLostWalk, lostWalk]
      cases hs' : indirectlyAckOrDropPo s id with
      | some s' =>
          have hconf := Confined.indirectlyAckOrDropPo hs'
          exact ih hids' (hu.step h₀ hids hconf) hlost (h.pass h₀ hlisted hlost hu.root_eq hconf)
      | none =>
          dsimp only
          split_ifs with hlarge hdeems hin
          · rwa [List.append_nil]
          · have hlost' : ∀ i ∈ lost ++ [id], i < s₀.nextId := by
              intro i hi
              rcases List.mem_append.1 hi with hi | hi
              · exact hlost i hi
              · rw [List.mem_singleton.1 hi]
                exact h₀.fresh id hlisted
            have hrest := ih hids' (hu.lose h₀ hids) hlost' (h.lose h₀ hlisted hlost hu hin)
            rwa [List.append_assoc] at hrest
          · have hsame : onPacketLost s id = s := by rw [onPacketLost, if_neg hin]
            rw [hsame]
            exact ih hids' hu.tail hlost h
          · exact ih hids' hu.tail hlost h

end Loop

/-! ## The loop with its counters -/

section Counters

variable {s₀ : SendQueue} {c c' : SendCtl} {id : PktId} {ids : List PktId} {largestAcked : ℕ}
  {th : LossThresholds}

theorem SendCtl.indirectlyAckOrDropPo_some (h : c.indirectlyAckOrDropPo id = some c') :
    Rquic.indirectlyAckOrDropPo c.toSendQueue id = some c'.toSendQueue := by
  rw [← c.indirectlyAckOrDropPo_map, h]
  rfl

theorem SendCtl.indirectlyAckOrDropPo_none (h : c.indirectlyAckOrDropPo id = none) :
    Rquic.indirectlyAckOrDropPo c.toSendQueue id = none := by
  rw [← c.indirectlyAckOrDropPo_map, h]
  rfl

/-- The element that the loop has saved is still in the list. -/
theorem Unreached.checkNext (hu : Unreached s₀ c.toSendQueue ids) : c.checkNext ids = c :=
  SendCtl.checkNext_of_mem hu.mem

/-- **The loop never loses its next element.** -/
theorem SendCtl.detectLostWalk_nextReleased (h₀ : LossReady s₀)
    (hids : ids <:+ s₀.lists .unackedPackets) (hu : Unreached s₀ c.toSendQueue ids) :
    (SendCtl.detectLostWalk largestAcked th ids c).nextReleased = c.nextReleased := by
  induction ids generalizing c with
  | nil => rfl
  | cons id ids ih =>
      have hids' : ids <:+ s₀.lists .unackedPackets := (List.suffix_cons id ids).trans hids
      rw [SendCtl.detectLostWalk]
      cases hc' : c.indirectlyAckOrDropPo id with
      | some c' =>
          have hu' : Unreached s₀ c'.toSendQueue ids :=
            hu.step h₀ hids (.indirectlyAckOrDropPo (SendCtl.indirectlyAckOrDropPo_some hc'))
          dsimp only
          rw [hu'.checkNext, ih hids' hu']
          exact congrArg Prod.snd (SendCtl.trace_indirectlyAckOrDropPo hc')
      | none =>
          have hu' : Unreached s₀ (c.onPacketLost id).toSendQueue ids := by
            rw [SendCtl.onPacketLost_toSendQueue]
            exact hu.lose h₀ hids
          dsimp only
          split_ifs
          · rfl
          · rw [hu'.checkNext, ih hids' hu']
            exact congrArg Prod.snd (c.trace_onPacketLost id)
          · exact ih hids' hu.tail

/-- The loss time is the earliest one of the packets that are compared with the thresholds and not deemed
lost. -/
theorem LossCtl.lossTimeWalk_eq (h₀ : LossReady s₀) (hids : ids <:+ s₀.lists .unackedPackets)
    (hu : Unreached s₀ c.toSendQueue ids) (lossDelay : ℕ) (r : ℕ × Option PacketOut) :
    (lossTimeWalk largestAcked th lossDelay ids c r).1 =
      ((ids.filter fun id => s₀.Exposed largestAcked id ∧ th.deems (s₀.pkts id) = false).map
        fun id => (s₀.pkts id).poSentTime + lossDelay).foldl earlier r.1 := by
  induction ids generalizing c r with
  | nil => rfl
  | cons id ids ih =>
      have hids' : ids <:+ s₀.lists .unackedPackets := (List.suffix_cons id ids).trans hids
      have hpkt : c.pkts id = s₀.pkts id := hu.pkts id List.mem_cons_self
      have hsettled := hu.settled_iff h₀ List.mem_cons_self (hids.subset List.mem_cons_self)
      rw [lossTimeWalk]
      cases hc' : c.indirectlyAckOrDropPo id with
      | some c' =>
          have hs' := SendCtl.indirectlyAckOrDropPo_some hc'
          have hu' : Unreached s₀ c'.toSendQueue ids := hu.step h₀ hids (.indirectlyAckOrDropPo hs')
          have hdone : s₀.Settled id := hsettled.1 (indirectlyAckOrDropPo_eq_some.1 hs').1
          have hno : ¬ s₀.Exposed largestAcked id := fun h => h.1 hdone
          dsimp only
          rw [hu'.checkNext, ih hids' hu']
          simp [hno]
      | none =>
          have hs' := SendCtl.indirectlyAckOrDropPo_none hc'
          have hopen : ¬ s₀.Settled id := fun h => indirectlyAckOrDropPo_eq_none.1 hs' (hsettled.2 h)
          have hu' : Unreached s₀ (c.onPacketLost id).toSendQueue ids := by
            rw [SendCtl.onPacketLost_toSendQueue]
            exact hu.lose h₀ hids
          dsimp only
          rw [hpkt]
          split_ifs with hlarge hdeems
          · have hnone : ∀ i ∈ id :: ids, ¬ s₀.Exposed largestAcked i := h₀.not_exposed hids hlarge
            have hempty : (id :: ids).filter (fun id => s₀.Exposed largestAcked id ∧
                th.deems (s₀.pkts id) = false) = [] :=
              List.filter_eq_nil_iff.2 fun i hi => by simp [hnone i hi]
            rw [hempty]
            rfl
          · rw [hu'.checkNext, ih hids' hu']
            simp [hdeems]
          · have hexposed : s₀.Exposed largestAcked id := ⟨hopen, not_lt.1 hlarge⟩
            rw [ih hids' hu.tail]
            simp [hexposed, hdeems]

/-- The loss time that is left over from positive times is the least of them. -/
theorem LossCtl.foldl_earlier (times : List ℕ) (hpos : ∀ t ∈ times, 0 < t) (lossTime : ℕ)
    (h : times.foldl earlier lossTime ≠ 0) :
    IsLeast {t | t = lossTime ∧ lossTime ≠ 0 ∨ t ∈ times} (times.foldl earlier lossTime) := by
  induction times generalizing lossTime with
  | nil =>
      rw [List.foldl_nil] at h ⊢
      exact ⟨.inl ⟨rfl, h⟩, fun t ht => by simp_all⟩
  | cons time times ih =>
      have htime := hpos time List.mem_cons_self
      obtain ⟨hmem, hle⟩ := ih (fun t ht => hpos t (List.mem_cons_of_mem _ ht)) (earlier lossTime time) h
      have hne : earlier lossTime time ≠ 0 := by
        unfold earlier
        split_ifs <;> omega
      have hbound : ∀ t, t = lossTime ∧ lossTime ≠ 0 ∨ t = time → earlier lossTime time ≤ t := by
        rintro t (⟨rfl, hzero⟩ | rfl)
        · rw [earlier, if_neg hzero]
          exact min_le_left _ _
        · unfold earlier
          split_ifs <;> omega
      have hself : earlier lossTime time = time ∨
          earlier lossTime time = lossTime ∧ lossTime ≠ 0 := by
        unfold earlier
        split_ifs <;> omega
      rw [List.foldl_cons]
      refine ⟨?_, fun t ht => ?_⟩
      · rcases hmem with ⟨heq, -⟩ | hmem
        · rw [Set.mem_ofPred_eq, heq, List.mem_cons]
          exact hself.elim (fun h => .inr (.inl h)) .inl
        · exact .inr (List.mem_cons_of_mem _ hmem)
      · rcases ht with ht | ht
        · exact (hle (.inl ⟨rfl, hne⟩)).trans (hbound t (.inl ht))
        · rcases List.mem_cons.1 ht with ht | ht
          · exact (hle (.inl ⟨rfl, hne⟩)).trans (hbound t (.inr ht))
          · exact hle (.inr ht)

end Counters

/-! ## Loss detection -/

namespace LossCtl

/-- The loss condition: the number of the packet is as far behind the largest one acknowledged as
`ctl_reordering_packet_threshold`, or the packet was sent `loss_delay` ago. -/
def LossCond (c : LossCtl) (largestAcked now : ℕ) (id : PktId) : Prop :=
  c.reorderingPacketThreshold ≤ largestAcked - (c.pkts id).pktNum ∨
    (c.pkts id).poSentTime + c.lossDelay ≤ now

/-- The thresholds, without the sentinel and the subtraction from the clock. -/
theorem thresholds_deems {c : LossCtl} {largestAcked now : ℕ} {id : PktId}
    (hlargest : c.largestAcked = some largestAcked) (hnow : now < 2 ^ 64) (hdelay : c.lossDelay ≤ now)
    (hle : (c.pkts id).pktNum ≤ largestAcked) :
    (c.thresholds now).deems (c.pkts id) = true ↔ c.LossCond largestAcked now id := by
  have hsub : u64Sub now c.lossDelay = now - c.lossDelay := by
    unfold u64Sub
    omega
  unfold LossThresholds.deems thresholds LossCond
  rw [hlargest, hsub]
  dsimp only
  by_cases hthreshold : c.reorderingPacketThreshold ≤ largestAcked
  · rw [if_pos hthreshold]
    simp only [Bool.or_eq_true, decide_eq_true_eq]
    omega
  · rw [if_neg hthreshold]
    simp only [Bool.or_false, decide_eq_true_eq]
    omega

/-- What loss detection leaves of the clock, of the queue and of the loss time. -/
theorem detectLost_eq (c : LossCtl) (env : LossEnv) (now : ℕ) {largestAcked : ℕ}
    (hlargest : c.largestAcked = some largestAcked) :
    (c.detectLost env now).toSendCtl = c.toSendCtl.detectLost (c.thresholds now) ∧
      (c.detectLost env now).lossTime = (lossTimeWalk largestAcked (c.thresholds now) c.lossDelay
        (c.lists .unackedPackets) c.toSendCtl (0, none)).1 := by
  unfold detectLost
  rw [hlargest]
  dsimp only
  generalize lossTimeWalk largestAcked (c.thresholds now) c.lossDelay (c.lists .unackedPackets)
    c.toSendCtl (0, none) = r
  rcases onPacketsLost_eq { c with
    toSendCtl := c.toSendCtl.detectLost (c.thresholds now), lossTime := r.1 } env r.2 now with h | h
  · rw [h]
    exact ⟨rfl, rfl⟩
  · rw [h]
    exact ⟨rfl, rfl⟩

/-- Three packets with data are sent, one of them late, and the last one is acknowledged. -/
def lateRun : List SendEvent :=
  ([0, 1, 2].flatMap fun offset =>
    [.stream false demoParams 0 offset false [1], .schedule .normal,
      .send .normal .sent 1000 (1000 + 100000 * offset)]) ++ [.ackReceived ⟨[⟨2, 2⟩], 0⟩ ⟨0, none⟩]

/-- The path after this run. -/
def lateCtl : LossCtl :=
  { LossCtl.create demoLossEnv with toSendCtl := { toSendQueue := SendQueue.run {} lateRun } }

end LossCtl

end Rquic

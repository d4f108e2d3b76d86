import Rquic.SendQueue.Steps

set_option autoImplicit false

/-!
# No packet is forgotten

Until a packet that needs repair is acknowledged, itself or by one of its copies, some member of its
family will be sent or is in flight.

* `FamilyInv`: that, and that acknowledgements come from ACK frames.
* `LifeStep.familyInv`: the steps keep it.
* **`family_live`**: runs. The packets of a dropped stream are given up, and so is a PATH_CHALLENGE,
  which `rqc_conn_send_path_challenge` sends once and does not keep.
-/

namespace Rquic

/-- The families of a queue, where the packet numbers `acks` were acknowledged and the originals
`gone` were given up. -/
structure FamilyInv (acks : ℕ → Prop) (gone : PktId → Prop) (s : SendQueue) : Prop where
  acked : ∀ id < s.nextId, (s.pkts id).poAcked = true →
    ∃ m < s.nextId, s.root m = s.root id ∧ ¬ s.Waiting m ∧ acks (s.pkts m).pktNum
  live : ∀ id < s.nextId, ¬ gone id → (s.pkts id).poOrigin = none →
    needRepair (s.pkts id).poFrameTypes → (s.pkts id).poAcked = false →
    ∃ m < s.nextId, s.root m = id ∧ s.Live m

theorem FamilyInv.mono {acks acks' : ℕ → Prop} {gone gone' : PktId → Prop} {s : SendQueue}
    (hacks : ∀ n, acks n → acks' n) (hgone : ∀ id, gone id → gone' id) (h : FamilyInv acks gone s) :
    FamilyInv acks' gone' s where
  acked := fun id hid hack => by
    obtain ⟨m, hm, hroot, hwait, hn⟩ := h.acked id hid hack
    exact ⟨m, hm, hroot, hwait, hacks _ hn⟩
  live := fun id hid hgone' => h.live id hid (mt (hgone id) hgone')

theorem familyInv_init (acks : ℕ → Prop) (gone : PktId → Prop) : FamilyInv acks gone {} where
  acked := fun _ hid => by cases hid
  live := fun _ hid => by cases hid

section

variable {e : ℕ} {acks : ℕ → Prop} {gone : PktId → Prop} {s s' : SendQueue}

theorem SendQueue.root_of_body {id : PktId} (h : (s'.pkts id).body = (s.pkts id).body) :
    s'.root id = s.root id := by
  have horigin : (s'.pkts id).poOrigin = (s.pkts id).poOrigin := (congrArg PacketOut.poOrigin h :)
  rw [SendQueue.root, SendQueue.root, horigin]

theorem QueueInv.root_lt (h : QueueInv e s) {id : PktId} (hid : id < s.nextId) :
    s.root id < s.nextId := by
  cases ho : (s.pkts id).poOrigin with
  | none => rwa [SendQueue.root, ho, Option.getD_none]
  | some origin =>
      rw [SendQueue.root, ho, Option.getD_some]
      exact (h.family id hid origin ho).lt

theorem QueueInv.needRepair_root (h : QueueInv e s) {m : PktId} (hm : m < s.nextId)
    (hneed : needRepair (s.pkts (s.root m)).poFrameTypes) : needRepair (s.pkts m).poFrameTypes := by
  by_contra hno
  exact h.not_needRepair_root hm hno hneed

/-- Steps that change no family: what was sent or acknowledged is so still, and what was live is
live. -/
theorem FamilyInv.of_same (hq : QueueInv e s) (h : FamilyInv acks gone s)
    (hnext : s'.nextId = s.nextId) (hbody : ∀ id, (s'.pkts id).body = (s.pkts id).body)
    (hacked : ∀ id, (s'.pkts id).poAcked = (s.pkts id).poAcked)
    (hsent : ∀ m, ¬ s.Waiting m → ¬ s'.Waiting m ∧ (s'.pkts m).pktNum = (s.pkts m).pktNum)
    (hlive : ∀ m < s.nextId, needRepair (s.pkts m).poFrameTypes → ¬ gone (s.root m) → s.Live m →
      s'.Live m) : FamilyInv acks gone s' := by
  refine ⟨fun id hid hack => ?_, fun id hid hgone ho hneed hack => ?_⟩
  · rw [hnext] at hid ⊢
    obtain ⟨m, hm, hroot, hwait, hn⟩ := h.acked id hid ((hacked id).symm.trans hack)
    refine ⟨m, hm, ?_, (hsent m hwait).1, ?_⟩
    · rw [SendQueue.root_of_body (hbody m), SendQueue.root_of_body (hbody id), hroot]
    · rwa [(hsent m hwait).2]
  · rw [hnext] at hid ⊢
    have ho' : (s.pkts id).poOrigin = none := (congrArg PacketOut.poOrigin (hbody id) :).symm.trans ho
    rw [show (s'.pkts id).poFrameTypes = (s.pkts id).poFrameTypes from
      (congrArg PacketOut.poFrameTypes (hbody id) :)] at hneed
    obtain ⟨m, hm, hroot, hm'⟩ := h.live id hid hgone ho' hneed ((hacked id).symm.trans hack)
    refine ⟨m, hm, (SendQueue.root_of_body (hbody m)).trans hroot, hlive m hm ?_ (hroot ▸ hgone) hm'⟩
    exact hq.needRepair_root hm (hroot ▸ hneed)

theorem isAckEliciting_of_needRepair {types : Finset FrameType} (h : needRepair types) :
    isAckEliciting types := by
  obtain ⟨t, ht, hneed⟩ := h
  refine ⟨t, ht, ?_⟩
  cases t <;> first | rfl | cases hneed

theorem FamilyInv.number (hq : QueueInv e s) (h : FamilyInv acks gone s) {id : PktId} (now : ℕ)
    (hid : s.Waiting id) : FamilyInv acks gone (setNextPn s id now) := by
  have hne : ∀ m, m ≠ id → (setNextPn s id now).pkts m = s.pkts m :=
    fun m hm => SendQueue.modify_pkts_of_ne s _ hm
  have hself : (setNextPn s id now).pkts id = (s.pkts id).number s.packetNumber now :=
    SendQueue.modify_pkts_self ..
  have hall : ∀ m, ((setNextPn s id now).pkts m).body = (s.pkts m).body ∧
      ((setNextPn s id now).pkts m).poAcked = (s.pkts m).poAcked ∧
      ((setNextPn s id now).pkts m).inFlight = (s.pkts m).inFlight := by
    intro m
    by_cases hm : m = id
    · rw [hm, hself]
      exact ⟨rfl, rfl, rfl⟩
    · rw [hne m hm]
      exact ⟨rfl, rfl, rfl⟩
  refine h.of_same hq rfl (fun m => (hall m).1) (fun m => (hall m).2.1) (fun m hm => ⟨hm, ?_⟩)
    fun m _ _ _ hm => ?_
  · rw [hne m]
    rintro rfl
    exact hm hid
  · exact hm.imp_right fun hm => ⟨hm.1, (hall m).2.2.trans hm.2⟩

theorem FamilyInv.send (hq : QueueInv e s) (h : FamilyInv acks gone s) {id : PktId} (srtt now : ℕ)
    (hid : s.Waiting id) : FamilyInv acks gone (transmit s id srtt now) := by
  have hne : ∀ m, m ≠ id → (transmit s id srtt now).pkts m = s.pkts m :=
    fun m hm => transmit_pkts_of_ne s srtt now hm
  refine h.of_same hq (by rw [transmit_eq]) (fun m => ?_) (fun m => ?_) (fun m hm => ?_)
    fun m _ hneed _ hm => ?_
  · by_cases hm : m = id
    · rw [hm, transmit_pkts_self, sentPacket_body]
    · rw [hne m hm]
  · by_cases hm : m = id
    · rw [hm, transmit_pkts_self, (sentPacket_marks s id now).1]
    · rw [hne m hm]
  · have hm' : m ≠ id := fun habs => hm (habs ▸ hid)
    refine ⟨fun ⟨p, hp, hin⟩ => hm ⟨p, hp, ?_⟩, by rw [hne m hm']⟩
    exact ((mem_transmit.1 hin).resolve_right fun habs => hp habs.1).1
  · -- a packet that needs repair asks for an acknowledgement, so it is in flight
    by_cases hm' : m = id
    · subst hm'
      have hack := isAckEliciting_of_needRepair hneed
      exact .inr ⟨mem_transmit.2 (.inr ⟨rfl, rfl, hack⟩), by
        rw [transmit_pkts_self, sentPacket_inFlight hack]⟩
    · rcases hm with ⟨p, hp, hin⟩ | ⟨hin, hflight⟩
      · exact .inl ⟨p, hp, mem_transmit.2 (.inl ⟨hin, hm'⟩)⟩
      · exact .inr ⟨mem_transmit.2 (.inl ⟨hin, hm'⟩), by rwa [hne m hm']⟩

theorem FamilyInv.move (hq : QueueInv e s) (h : FamilyInv acks gone s) {lists : Place → List PktId}
    {pkts : PktId → PacketOut}
    (hwait : ∀ id, (∃ p, p ≠ .unackedPackets ∧ id ∈ lists p) ↔ s.Waiting id)
    (hunacked : lists .unackedPackets = s.lists .unackedPackets)
    (hlife : ∀ id, (pkts id).life = (s.pkts id).life) :
    FamilyInv acks gone { s with lists := lists, pkts := pkts } := by
  refine h.of_same hq rfl (fun id => (congrArg PacketOut.body (hlife id) :))
    (fun id => poAcked_of_life (hlife id))
    (fun m hm => ⟨mt (hwait m).1 hm, (congrArg PacketOut.pktNum (hlife m) :)⟩) fun m _ _ _ hm => ?_
  refine hm.imp (hwait m).2 fun ⟨hin, hflight⟩ => ⟨?_, ?_⟩
  · show m ∈ lists .unackedPackets
    rwa [hunacked]
  · exact (congrArg PacketOut.inFlight (hlife m) :).trans hflight

theorem QueueInv.canDrop_root (h : QueueInv e s) {m : PktId} (hm : m < s.nextId) {streamId : StreamId}
    (hdrop : streamFrameCanDrop (s.pkts m) streamId = true) :
    streamFrameCanDrop (s.pkts (s.root m)) streamId = true := by
  cases ho : (s.pkts m).poOrigin with
  | none => rwa [SendQueue.root, ho, Option.getD_none]
  | some origin =>
      have hfam := h.family m hm origin ho
      rw [SendQueue.root, ho, Option.getD_some]
      unfold streamFrameCanDrop at hdrop ⊢
      rw [hfam.types, hfam.slots, Bool.and_eq_true, Bool.and_eq_true] at hdrop
      rw [Bool.and_eq_true, Bool.and_eq_true]
      refine ⟨⟨decide_eq_true ?_, hdrop.1.2⟩, hdrop.2⟩
      intro t ht
      by_cases hack : t = .ack
      · rw [hack]
        decide
      · exact of_decide_eq_true hdrop.1.1 (Finset.mem_erase.2 ⟨hack, ht⟩)

theorem FamilyInv.drop (hq : QueueInv e s) (h : FamilyInv acks gone s) (streamId : StreamId)
    (hgone : ∀ id, streamFrameCanDrop (s.pkts id) streamId = true → gone id) :
    FamilyInv acks gone (dropStreamFramePackets s streamId) := by
  have hlater := dropStreamFramePackets_later s streamId
  refine h.of_same hq rfl (fun id => (hlater id).1.body) (fun id => (hlater id).2)
    (fun m hm => ⟨fun ⟨p, hp, hin⟩ => hm ⟨p, hp, ?_⟩, (hlater m).1.pktNum⟩) fun m hm _ hkept hl => ?_
  · simp only [dropStreamFramePackets] at hin
    split_ifs at hin
    · exact (List.mem_filter.1 hin).1
    · exact hin
  · have hno : ¬ streamFrameCanDrop (s.pkts m) streamId = true :=
      fun habs => hkept (hgone _ (hq.canDrop_root hm habs))
    have hpkt : (dropStreamFramePackets s streamId).pkts m = s.pkts m := by
      simp only [dropStreamFramePackets]
      rw [if_pos hno]
    have hin : ∀ p, m ∈ s.lists p → m ∈ (dropStreamFramePackets s streamId).lists p := by
      intro p hp
      simp only [dropStreamFramePackets]
      split_ifs
      · exact List.mem_filter.2 ⟨hp, decide_eq_true hno⟩
      · exact hp
    rcases hl with ⟨p, hp, hmem⟩ | ⟨hmem, hflight⟩
    · exact .inl ⟨p, hp, hin p hmem⟩
    · exact .inr ⟨hin _ hmem, hpkt ▸ hflight⟩

theorem FamilyInv.shoot (hq : QueueInv e s) (h : FamilyInv acks gone s) {id : PktId}
    (horigin : (s.pkts id).poOrigin = none) (hgone : gone id) :
    FamilyInv acks gone ((writeSocket s id).unlink id) := by
  refine h.of_same hq rfl (fun _ => rfl) (fun _ => rfl)
    (fun m hm => ⟨fun ⟨p, hp, hin⟩ => hm ⟨p, hp, (List.mem_filter.1 hin).1⟩, rfl⟩)
    fun m _ _ hkept hl => ?_
  have hne : m ≠ id := by
    rintro rfl
    rw [SendQueue.root, horigin] at hkept
    exact hkept hgone
  rcases hl with ⟨p, hp, hin⟩ | ⟨hin, hflight⟩
  · exact .inl ⟨p, hp, List.mem_filter.2 ⟨hin, decide_eq_true hne⟩⟩
  · exact .inr ⟨List.mem_filter.2 ⟨hin, decide_eq_true hne⟩, hflight⟩

theorem FamilyInv.insert (h : FamilyInv acks gone s) {p : Place} {po : PacketOut}
    (hp : p ≠ .unackedPackets) (horigin : po.poOrigin = none) (hacked : po.poAcked = false) :
    FamilyInv acks gone (s.insertNew p po) := by
  have hold : ∀ id < s.nextId, (s.insertNew p po).pkts id = s.pkts id :=
    fun id hid => SendQueue.insertNew_pkts_of_ne _ _ _ hid.ne
  have hroot : ∀ id < s.nextId, (s.insertNew p po).root id = s.root id := fun id hid => by
    rw [SendQueue.root, SendQueue.root, hold id hid]
  refine ⟨fun id hid hack => ?_, fun id hid hgone ho hneed hack => ?_⟩
  · rcases Nat.lt_succ_iff_lt_or_eq.1 hid with hid | rfl
    · rw [hold id hid] at hack
      obtain ⟨m, hm, hrm, hwait, hn⟩ := h.acked id hid hack
      refine ⟨m, Nat.lt_succ_of_lt hm, by rw [hroot m hm, hroot id hid, hrm], fun hwaits => ?_,
        by rwa [hold m hm]⟩
      obtain ⟨q, hq', hin⟩ := hwaits
      rcases (SendQueue.mem_insertNew _).1 hin with hin | ⟨-, rfl⟩
      · exact hwait ⟨q, hq', hin⟩
      · exact hm.ne rfl
    · rw [SendQueue.insertNew_pkts_nextId, hacked] at hack
      cases hack
  · rcases Nat.lt_succ_iff_lt_or_eq.1 hid with hid | rfl
    · rw [hold id hid] at ho hneed hack
      obtain ⟨m, hm, hrm, hl⟩ := h.live id hid hgone ho hneed hack
      refine ⟨m, Nat.lt_succ_of_lt hm, (hroot m hm).trans hrm, ?_⟩
      rcases hl with ⟨q, hq', hin⟩ | ⟨hin, hflight⟩
      · exact .inl ⟨q, hq', (SendQueue.mem_insertNew _).2 (.inl hin)⟩
      · exact .inr ⟨(SendQueue.mem_insertNew _).2 (.inl hin), by rwa [hold m hm]⟩
    · refine ⟨s.nextId, Nat.lt_succ_self _, ?_, .inl ⟨p, hp, ?_⟩⟩
      · rw [SendQueue.root, SendQueue.insertNew_pkts_nextId, horigin, Option.getD_none]
      · exact (SendQueue.mem_insertNew _).2 (.inr ⟨rfl, rfl⟩)

theorem FamilyInv.fill (h : FamilyInv acks gone s) {p : Place} {id : PktId} {po : PacketOut}
    (hp : p.fillable = true) (hid : id ∈ s.lists p)
    (horigin : (s.pkts id).poOrigin = none ∧ po.poOrigin = none)
    (hacked : po.poAcked = (s.pkts id).poAcked) : FamilyInv acks gone (s.set id po) := by
  have hwaiting : s.Waiting id := ⟨p, Place.ne_unacked hp, hid⟩
  have hold : ∀ m, m ≠ id → (s.set id po).pkts m = s.pkts m :=
    fun m hm => SendQueue.set_pkts_of_ne s po hm
  have hroot : ∀ m, (s.set id po).root m = s.root m := by
    intro m
    by_cases hm : m = id
    · rw [hm, SendQueue.root, SendQueue.root, SendQueue.set_pkts_self, horigin.1, horigin.2]
    · rw [SendQueue.root, SendQueue.root, hold m hm]
  refine ⟨fun id' hid' hack => ?_, fun id' hid' hgone ho hneed hack => ?_⟩
  · have hack' : (s.pkts id').poAcked = true := by
      by_cases hm : id' = id
      · rw [hm, SendQueue.set_pkts_self, hacked] at hack
        rwa [hm]
      · rwa [hold id' hm] at hack
    obtain ⟨m, hm, hrm, hwait, hn⟩ := h.acked id' hid' hack'
    have hne : m ≠ id := fun habs => hwait (habs ▸ hwaiting)
    exact ⟨m, hm, by rw [hroot, hroot, hrm], hwait, by rwa [hold m hne]⟩
  · by_cases hne : id' = id
    · refine ⟨id', hid', ?_, .inl (hne ▸ hwaiting)⟩
      rw [hne, SendQueue.root, SendQueue.set_pkts_self, horigin.2, Option.getD_none]
    · rw [hold id' hne] at ho hneed hack
      obtain ⟨m, hm, hrm, hl⟩ := h.live id' hid' hgone ho hneed hack
      refine ⟨m, hm, (hroot m).trans hrm, ?_⟩
      by_cases hm' : m = id
      · exact .inl (hm' ▸ hwaiting)
      · refine hl.imp_right fun hflight => ?_
        rwa [hold m hm']

/-- A copy takes the place of the packet that it copies. -/
theorem FamilyInv.repair (hq : QueueInv e s) (h : FamilyInv acks gone s) {p : Place} {src : PktId}
    {copy : PacketOut} {pkts : PktId → PacketOut} (hp : p ≠ .unackedPackets)
    (hsrc : src ∈ s.lists .unackedPackets)
    (hcopy : (s.pkts src).decreaseInflight.retransmission src = some copy)
    (hnew : pkts s.nextId = copy) (hlater : ∀ id, id ≠ s.nextId → (s.pkts id).Later (pkts id))
    (hacked : ∀ id, id ≠ s.nextId → (pkts id).poAcked = true → (s.pkts id).poAcked = true)
    (hlife : ∀ id, id ≠ s.nextId → id ≠ src → (pkts id).life = (s.pkts id).life) :
    FamilyInv acks gone { s with
      pkts := pkts, nextId := s.nextId + 1
      lists := Function.update s.lists p (s.lists p ++ [s.nextId]) } := by
  set s' : SendQueue := { s with
    pkts := pkts, nextId := s.nextId + 1
    lists := Function.update s.lists p (s.lists p ++ [s.nextId]) } with hs'
  have hmem : ∀ {id q}, id ∈ s'.lists q ↔ id ∈ s.lists q ∨ (q = p ∧ id = s.nextId) :=
    SendQueue.mem_insertNew copy
  have hroot : ∀ id < s.nextId, s'.root id = s.root id :=
    fun id hid => SendQueue.root_of_body (hlater id hid.ne).body
  obtain ⟨-, horigin, -, -, hack, -⟩ := retransmission_fields hcopy
  have hnewRoot : s'.root s.nextId = s.root src := by
    rw [SendQueue.root, show s'.pkts s.nextId = copy from hnew, horigin, Option.getD_some,
      (PacketOut.later_decreaseInflight _).poOrigin, SendQueue.root]
  have hsrcLt := hq.fresh _ src hsrc
  -- evidence for a family is evidence still
  have hevid : ∀ {r}, (∃ m < s.nextId, s.root m = r ∧ ¬ s.Waiting m ∧ acks (s.pkts m).pktNum) →
      ∃ m < s'.nextId, s'.root m = r ∧ ¬ s'.Waiting m ∧ acks (s'.pkts m).pktNum := by
    rintro r ⟨m, hm, hrm, hwait, hn⟩
    refine ⟨m, Nat.lt_succ_of_lt hm, (hroot m hm).trans hrm, fun hwaits => ?_, ?_⟩
    · obtain ⟨q, hq', hin⟩ := hwaits
      rcases hmem.1 hin with hin | ⟨-, rfl⟩
      · exact hwait ⟨q, hq', hin⟩
      · exact hm.ne rfl
    · rwa [show (s'.pkts m).pktNum = (s.pkts m).pktNum from (hlater m hm.ne).pktNum]
  refine ⟨fun id hid hack' => ?_, fun id hid hgone ho hneed hack' => ?_⟩
  · rcases Nat.lt_succ_iff_lt_or_eq.1 hid with hid | rfl
    · rw [hroot id hid]
      exact hevid (h.acked id hid (hacked id hid.ne hack'))
    · rw [hnewRoot]
      refine hevid (h.acked src hsrcLt ?_)
      rw [show s'.pkts s.nextId = copy from hnew, hack, decreaseInflight_poAcked] at hack'
      exact hack'
  · rcases Nat.lt_succ_iff_lt_or_eq.1 hid with hid | rfl
    · have hl := hlater id hid.ne
      rw [show (s'.pkts id).poFrameTypes = (s.pkts id).poFrameTypes from hl.types] at hneed
      have hno : (s.pkts id).poAcked = false := by
        by_contra habs
        exact absurd (hl.poAcked (by simpa using habs)) (by simpa using hack')
      obtain ⟨m, hm, hrm, hlive⟩ := h.live id hid hgone (hl.poOrigin.symm.trans ho) hneed hno
      by_cases hm' : m = src
      · -- the copy waits
        refine ⟨s.nextId, Nat.lt_succ_self _, ?_, .inl ⟨p, hp, hmem.2 (.inr ⟨rfl, rfl⟩)⟩⟩
        rw [hnewRoot, ← hm', hrm]
      · refine ⟨m, Nat.lt_succ_of_lt hm, (hroot m hm).trans hrm, ?_⟩
        rcases hlive with ⟨q, hq', hin⟩ | ⟨hin, hflight⟩
        · exact .inl ⟨q, hq', hmem.2 (.inl hin)⟩
        · exact .inr ⟨hmem.2 (.inl hin),
            (congrArg PacketOut.inFlight (hlife m hm.ne hm') :).trans hflight⟩
    · have hnone : copy.poOrigin = none := hnew ▸ ho
      rw [horigin] at hnone
      cases hnone

/-- A family that is acknowledged, or that need not be repaired. -/
theorem FamilyInv.settle {acks₀ : ℕ → Prop} (hacks : ∀ n, acks₀ n → acks n) (hq : QueueInv e s)
    (h : FamilyInv acks gone s) {root : PktId} (hw : Within root (s.AckedBy acks₀ root) s s') (hroot : (s'.pkts root).poAcked = true ∨
      (¬ needRepair (s.pkts root).poFrameTypes ∧
        ∀ id, (s'.pkts id).poAcked = true → (s.pkts id).poAcked = true)) :
    FamilyInv acks gone s' := by
  have hnext : s'.nextId = s.nextId := (congrArg SendQueue.nextId hw.eq :)
  have hevid : ∀ {r}, (∃ m < s.nextId, s.root m = r ∧ ¬ s.Waiting m ∧ acks (s.pkts m).pktNum) →
      ∃ m < s'.nextId, s'.root m = r ∧ ¬ s'.Waiting m ∧ acks (s'.pkts m).pktNum := by
    rintro r ⟨m, hm, hrm, hwait, hn⟩
    refine ⟨m, hnext ▸ hm, hw.root_eq.trans hrm, fun ⟨p, hp, hin⟩ => hwait ⟨p, hp,
      (hw.lists p).subset hin⟩, ?_⟩
    rwa [(hw.later m).pktNum]
  refine ⟨fun id hid hack => ?_, fun id hid hgone ho hneed hack => ?_⟩
  · rw [hnext] at hid
    rw [hw.root_eq]
    rcases hw.acked id hack with hold | hnew
    · exact hevid (h.acked id hid hold)
    · by_cases hfam : s.root id = root
      · rcases hnew with hold | ⟨m, hin, hrm, hn⟩
        · have hself : s.root root = root := hfam ▸ hq.root_root hid
          have hlt : root < s.nextId := hfam ▸ hq.root_lt hid
          rw [hfam, ← hself]
          exact hevid (h.acked root hlt hold)
        · exact hevid ⟨m, hq.fresh _ m hin, hrm.trans hfam.symm, hq.apart m hin, hacks _ hn⟩
      · rw [hw.others id hfam] at hack
        exact hevid (h.acked id hid hack)
  · rw [hnext] at hid
    have hl := hw.later id
    have ho' : (s.pkts id).poOrigin = none := hl.poOrigin.symm.trans ho
    rw [hl.types] at hneed
    have hno : (s.pkts id).poAcked = false := by
      by_contra habs
      exact absurd (hl.poAcked (by simpa using habs)) (by simpa using hack)
    -- the family in question is another one
    have hne : id ≠ root := by
      rintro rfl
      rcases hroot with hroot | ⟨hroot, -⟩
      · exact absurd hroot (by simpa using hack)
      · exact hroot hneed
    obtain ⟨m, hm, hrm, hlive⟩ := h.live id hid hgone ho' hneed hno
    have hfam : s.root m ≠ root := hrm ▸ hne
    refine ⟨m, hnext ▸ hm, hw.root_eq.trans hrm, ?_⟩
    refine hlive.imp (fun ⟨p, hp, hin⟩ => ⟨p, hp, hw.keep p m hfam hin⟩)
      fun ⟨hin, hflight⟩ => ⟨hw.keep _ m hfam hin, ?_⟩
    rwa [hw.others m hfam]

/-- **The steps keep the families.** -/
theorem LifeStep.familyInv {acks₀ : ℕ → Prop} {copied forgotten : PktId → Prop}
    (hstep : LifeStep e acks₀ copied forgotten s s') (hq : QueueInv e s)
    (hacks : ∀ n, acks₀ n → acks n) (hgone : ∀ id, forgotten id → gone id) (h : FamilyInv acks gone s) : FamilyInv acks gone s' := by
  cases hstep with
  | move lists pkts hwait hunacked hlife => exact h.move hq hwait hunacked hlife
  | number id now hid => exact h.number hq now hid
  | send id srtt now hid => exact h.send hq srtt now hid
  | insert p po hp horigin hacked hsound => exact h.insert hp horigin hacked
  | fill p id po hp hid horigin hacked hsound => exact h.fill hp hid horigin hacked
  | repair p src copy pkts hp hsrc hcopied hcopy hnew hlater hacked hlife =>
      exact h.repair hq hp hsrc hcopy hnew hlater hacked hlife
  | settle _ root hw hroot => exact h.settle hacks hq hw hroot
  | space | record =>
      exact h.of_same hq rfl (fun _ => rfl) (fun _ => rfl) (fun _ hm => ⟨hm, rfl⟩) fun _ _ _ _ hm => hm
  | drop streamId hforgotten => exact h.drop hq streamId fun id hid => hgone id (hforgotten id hid)
  | shoot id horigin hforgotten => exact h.shoot hq horigin (hgone id hforgotten)

theorem LifeSteps.familyInv {acks₀ : ℕ → Prop} {copied forgotten : PktId → Prop}
    (hsteps : LifeSteps e acks₀ copied forgotten s s') (hq : QueueInv e s)
    (hacks : ∀ n, acks₀ n → acks n) (hgone : ∀ id, forgotten id → gone id) (h : FamilyInv acks gone s) : FamilyInv acks gone s' := by
  induction hsteps with
  | refl => exact h
  | tail hpre hstep ih => exact hstep.familyInv (LifeSteps.inv hpre hq) hacks hgone ih

end

/-! ## Runs -/

/-- A packet number that an ACK frame of the run acknowledges. -/
def RunAcks (evs : List SendEvent) (pktNum : ℕ) : Prop := ∃ ev ∈ evs, ev.acks pktNum

/-- A packet that is given up in the run: its stream is dropped, or it is sent once and not kept. -/
def RunForgets (evs : List SendEvent) (id : PktId) : Prop :=
  ∃ pre ev post, evs = pre ++ ev :: post ∧ (SendQueue.run {} pre).forgets ev id

theorem run_familyInv (e : ℕ) (evs : List SendEvent) (hwf : ∀ ev ∈ evs, ev.Wf) :
    FamilyInv (RunAcks evs) (RunForgets evs) (SendQueue.run {} evs) := by
  induction evs using List.reverseRecOn with
  | nil => exact familyInv_init _ _
  | append_singleton evs ev ih =>
      have hevs : ∀ ev' ∈ evs, ev'.Wf := fun ev' hev' => hwf ev' (List.mem_append_left _ hev')
      obtain ⟨hq, hc⟩ := run_inv e evs hevs
      have hold : FamilyInv (RunAcks (evs ++ [ev])) (RunForgets (evs ++ [ev])) (SendQueue.run {} evs) := by
        refine (ih hevs).mono ?_ ?_
        · rintro n ⟨ev', hev', hn⟩
          exact ⟨ev', List.mem_append_left _ hev', hn⟩
        · rintro id ⟨pre, ev', post, rfl, hid⟩
          exact ⟨pre, ev', post ++ [ev], by simp, hid⟩
      rw [SendQueue.run_append]
      refine (step_life hq hc (hwf ev (by simp))).familyInv hq (fun n hn => ?_) (fun id hid => ?_) hold
      · exact ⟨ev, by simp, hn⟩
      · exact ⟨evs, ev, [], rfl, hid⟩

/-- **No packet is forgotten.** An original that needs repair and is not given up has been
acknowledged, itself or by a copy, or a member of its family waits to be sent or is in flight. -/
theorem family_live (evs : List SendEvent) (hwf : ∀ ev ∈ evs, ev.Wf) (id : PktId)
    (hid : id < (SendQueue.run {} evs).nextId)
    (horigin : ((SendQueue.run {} evs).pkts id).poOrigin = none)
    (hneed : needRepair ((SendQueue.run {} evs).pkts id).poFrameTypes)
    (hkept : ¬ RunForgets evs id) :
    (((SendQueue.run {} evs).pkts id).poAcked = true ∧
      ∃ m < (SendQueue.run {} evs).nextId, (SendQueue.run {} evs).root m = id ∧
        ¬ (SendQueue.run {} evs).Waiting m ∧ RunAcks evs ((SendQueue.run {} evs).pkts m).pktNum) ∨
    ∃ m < (SendQueue.run {} evs).nextId, (SendQueue.run {} evs).root m = id ∧
      (SendQueue.run {} evs).Live m := by
  have h := run_familyInv 0 evs hwf
  cases hack : ((SendQueue.run {} evs).pkts id).poAcked with
  | false => exact .inr (h.live id hid hkept horigin hneed hack)
  | true =>
      refine .inl ⟨rfl, ?_⟩
      have hroot : (SendQueue.run {} evs).root id = id := by rw [SendQueue.root, horigin, Option.getD_none]
      have hevid := h.acked id hid hack
      rwa [hroot] at hevid

/-- A packet that is sent, and copied for a probe. -/
def probedRun : List SendEvent :=
  [.stream false demoParams 0 0 false [1, 2, 3], .schedule .normal, .send .normal .sent 100 1000,
    .probeTimeout demoParams]

theorem family_live_probedRun :
    (((SendQueue.run {} probedRun).pkts 0).inFlight = false) ∧
    ((((SendQueue.run {} probedRun).pkts 0).poAcked = true ∧
      ∃ m < (SendQueue.run {} probedRun).nextId, (SendQueue.run {} probedRun).root m = 0 ∧
        ¬ (SendQueue.run {} probedRun).Waiting m ∧
        RunAcks probedRun ((SendQueue.run {} probedRun).pkts m).pktNum) ∨
    ∃ m < (SendQueue.run {} probedRun).nextId, (SendQueue.run {} probedRun).root m = 0 ∧
      (SendQueue.run {} probedRun).Live m) := by
  refine ⟨by decide +kernel, family_live probedRun ?_ 0 (by decide +kernel) (by decide +kernel)
    (by decide +kernel) ?_⟩
  · simp [probedRun, SendEvent.Wf]
  · rintro ⟨pre, ev, post, heq, hforgets⟩
    have hmem : ev ∈ probedRun := by rw [heq]; simp
    simp only [probedRun, List.mem_cons, List.not_mem_nil, or_false] at hmem
    rcases hmem with rfl | rfl | rfl | rfl <;> exact hforgets

/-- A PATH_CHALLENGE is sent. -/
def challengeRun : List SendEvent := [.pathChallenge demoParams (List.replicate 8 7) 1000]

/-- The packet of a PATH_CHALLENGE needs repair, and no list holds it or a copy. -/
theorem challengeRun_not_live :
    (∀ ev ∈ challengeRun, ev.Wf) ∧ (∀ streamId, .dropStream streamId ∉ challengeRun) ∧
      0 < (SendQueue.run {} challengeRun).nextId ∧
      ((SendQueue.run {} challengeRun).pkts 0).poOrigin = none ∧
      needRepair ((SendQueue.run {} challengeRun).pkts 0).poFrameTypes ∧
      ((SendQueue.run {} challengeRun).pkts 0).poAcked = false ∧
      ¬ ∃ m < (SendQueue.run {} challengeRun).nextId, (SendQueue.run {} challengeRun).root m = 0 ∧
        (SendQueue.run {} challengeRun).Live m := by
  refine ⟨by simp [challengeRun, SendEvent.Wf, pathChallengeDataLen], by simp [challengeRun],
    by decide +kernel, by decide +kernel, by decide +kernel, by decide +kernel, ?_⟩
  have hempty : ∀ p, (SendQueue.run {} challengeRun).lists p = [] := by
    intro p
    cases p with
    | scheduleBuf t => cases t <;> decide +kernel
    | _ => decide +kernel
  rintro ⟨m, -, -, ⟨p, -, hin⟩ | ⟨hin, -⟩⟩
  · rw [hempty] at hin
    cases hin
  · rw [hempty] at hin
    cases hin

end Rquic

import Rquic.SendQueue.Family
import Rquic.SendQueue.Unsent

set_option autoImplicit false

/-!
# What was given to the socket

Packets go to the socket under increasing numbers, and what is unacknowledged stands there as it is. So
an acknowledged packet has a member of its family on the wire, under a number that was acknowledged.

* `PacketOut.onWire`: the packet as the socket gets it.
* `WireInv`: the invariant.
* `SendsNone`: a step that sends nothing.
* `LifeStep.wireInv`, **`WireInv.step`**: every event keeps it.
-/

namespace Rquic

/-- The packet as the socket gets it under its number. -/
def PacketOut.onWire (po : PacketOut) : WirePacket := ⟨po.pktNum, po.payload⟩

/-- The wire of a queue, where the packet numbers `acks` were acknowledged. -/
structure WireInv (acks : ℕ → Prop) (s : SendQueue) : Prop where
  increasing : s.wire.Pairwise fun w w' => w.pktNum < w'.pktNum
  lt : ∀ w ∈ s.wire, w.pktNum < s.packetNumber
  unacked : ∀ id ∈ s.lists .unackedPackets, (s.pkts id).onWire ∈ s.wire
  acked : ∀ id < s.nextId, (s.pkts id).poAcked = true →
    ∃ m < s.nextId, s.root m = s.root id ∧ ¬ s.Waiting m ∧ acks (s.pkts m).pktNum ∧
      (s.pkts m).onWire ∈ s.wire

/-- A step that sends nothing, where the packet numbers `acks` are acknowledged. -/
structure SendsNone (acks : ℕ → Prop) (s s' : SendQueue) : Prop where
  wire : s'.wire = s.wire
  packetNumber : s.packetNumber ≤ s'.packetNumber
  nextId : s.nextId ≤ s'.nextId
  unacked : s'.lists .unackedPackets ⊆ s.lists .unackedPackets
  waits : ∀ m < s.nextId, s'.Waiting m → s.Waiting m
  root : ∀ m < s.nextId, s'.root m = s.root m
  onWire : ∀ m < s.nextId, ¬ s.Waiting m → (s'.pkts m).onWire = (s.pkts m).onWire
  acked : ∀ id < s'.nextId, (s'.pkts id).poAcked = true →
    (∃ i < s.nextId, s.root i = s'.root id ∧ (s.pkts i).poAcked = true) ∨
      ∃ m ∈ s.lists .unackedPackets, s.root m = s'.root id ∧ acks (s.pkts m).pktNum

section

variable {e : ℕ} {acks acks' : ℕ → Prop} {s s' : SendQueue}

theorem PacketOut.payload_of_body {po po' : PacketOut} (hbody : po'.body = po.body) :
    po'.payload = po.payload := by
  have hbuf : po'.poBuf = po.poBuf := (congrArg PacketOut.poBuf hbody :)
  have hpay : po'.poPayload = po.poPayload := (congrArg PacketOut.poPayload hbody :)
  rw [PacketOut.payload, PacketOut.payload, hbuf, hpay]

theorem PacketOut.onWire_of_body {po po' : PacketOut} (hbody : po'.body = po.body)
    (hnum : po'.pktNum = po.pktNum) : po'.onWire = po.onWire := by
  rw [PacketOut.onWire, PacketOut.onWire, hnum, PacketOut.payload_of_body hbody]

theorem WireInv.eq_of_pktNum (h : WireInv acks s) {w w' : WirePacket} (hw : w ∈ s.wire)
    (hw' : w' ∈ s.wire) (hnum : w.pktNum = w'.pktNum) : w = w' := by
  have hnodup : (s.wire.map WirePacket.pktNum).Nodup :=
    List.pairwise_map.2 (h.increasing.imp fun hlt => hlt.ne)
  exact List.inj_on_of_nodup_map hnodup hw hw' hnum

theorem wireInv_init (acks : ℕ → Prop) : WireInv acks {} where
  increasing := List.Pairwise.nil
  lt := fun _ hw => by cases hw
  unacked := fun _ hid => by cases hid
  acked := fun _ hid => by cases hid

theorem WireInv.mono (hacks : ∀ n, acks n → acks' n) (h : WireInv acks s) : WireInv acks' s where
  increasing := h.increasing
  lt := h.lt
  unacked := h.unacked
  acked := fun id hid hack => by
    obtain ⟨m, hm, hroot, hwait, hn, hwire⟩ := h.acked id hid hack
    exact ⟨m, hm, hroot, hwait, hacks _ hn, hwire⟩

theorem WireInv.sendsNone (hq : QueueInv e s) (h : WireInv acks s) (hs : SendsNone acks s s') : WireInv acks s' where
  increasing := hs.wire ▸ h.increasing
  lt := fun w hw => (h.lt w (hs.wire ▸ hw)).trans_le hs.packetNumber
  unacked := fun id hid => by
    have hold := hs.unacked hid
    rw [hs.onWire id (hq.fresh _ id hold) (hq.apart id hold), hs.wire]
    exact h.unacked id hold
  acked := fun id hid hack => by
    -- the evidence stands on the wire before the step
    obtain ⟨m, hm, hroot, hwait, hn, hwire⟩ : ∃ m < s.nextId, s.root m = s'.root id ∧ ¬ s.Waiting m ∧
        acks (s.pkts m).pktNum ∧ (s.pkts m).onWire ∈ s.wire := by
      rcases hs.acked id hid hack with ⟨i, hi, hroot, hold⟩ | ⟨m, hmem, hroot, hn⟩
      · obtain ⟨m, hm, hmi, hrest⟩ := h.acked i hi hold
        exact ⟨m, hm, hmi.trans hroot, hrest⟩
      · exact ⟨m, hq.fresh _ m hmem, hroot, hq.apart m hmem, hn, h.unacked m hmem⟩
    have hsame := hs.onWire m hm hwait
    have hnum : (s'.pkts m).pktNum = (s.pkts m).pktNum := congrArg WirePacket.pktNum hsame
    refine ⟨m, hm.trans_le hs.nextId, (hs.root m hm).trans hroot, mt (hs.waits m hm) hwait, ?_, ?_⟩
    · rwa [hnum]
    · rwa [hsame, hs.wire]

theorem SendsNone.of_marks (hwire : s'.wire = s.wire) (hpn : s.packetNumber ≤ s'.packetNumber)
    (hnext : s'.nextId = s.nextId) (hunacked : s'.lists .unackedPackets ⊆ s.lists .unackedPackets)
    (hwaits : ∀ m, s'.Waiting m → s.Waiting m)
    (hbody : ∀ id, (s'.pkts id).body = (s.pkts id).body)
    (hnum : ∀ id, ¬ s.Waiting id → (s'.pkts id).pktNum = (s.pkts id).pktNum)
    (hacked : ∀ id, (s'.pkts id).poAcked = (s.pkts id).poAcked) : SendsNone acks s s' where
  wire := hwire
  packetNumber := hpn
  nextId := hnext.ge
  unacked := hunacked
  waits := fun m _ => hwaits m
  root := fun m _ => SendQueue.root_of_body (hbody m)
  onWire := fun m _ hwait => PacketOut.onWire_of_body (hbody m) (hnum m hwait)
  acked := fun id hid hack =>
    .inl ⟨id, hnext ▸ hid, (SendQueue.root_of_body (hbody id)).symm, (hacked id).symm.trans hack⟩

/-! ## Steps -/

theorem SendsNone.insertNew {p : Place} {po : PacketOut} (hp : p ≠ .unackedPackets)
    (hacked : po.poAcked = false) : SendsNone acks s (s.insertNew p po) where
  wire := rfl
  packetNumber := le_rfl
  nextId := Nat.le_succ _
  unacked := by
    intro id hid
    rcases (SendQueue.mem_insertNew po).1 hid with hid | ⟨habs, -⟩
    · exact hid
    · exact absurd habs.symm hp
  waits := by
    rintro m hm ⟨q, hq', hin⟩
    rcases (SendQueue.mem_insertNew po).1 hin with hin | ⟨-, rfl⟩
    · exact ⟨q, hq', hin⟩
    · exact absurd hm (lt_irrefl _)
  root := fun m hm => by rw [SendQueue.root, SendQueue.root, SendQueue.insertNew_pkts_of_ne _ _ _ hm.ne]
  onWire := fun m hm _ => by rw [SendQueue.insertNew_pkts_of_ne _ _ _ hm.ne]
  acked := fun id hid hack => by
    rcases Nat.lt_succ_iff_lt_or_eq.1 hid with hid | rfl
    · rw [SendQueue.insertNew_pkts_of_ne _ _ _ hid.ne] at hack
      refine .inl ⟨id, hid, ?_, hack⟩
      rw [SendQueue.root, SendQueue.root, SendQueue.insertNew_pkts_of_ne _ _ _ hid.ne]
    · rw [SendQueue.insertNew_pkts_nextId, hacked] at hack
      cases hack

theorem SendsNone.fill {id : PktId} {po : PacketOut} (hid : s.Waiting id)
    (horigin : (s.pkts id).poOrigin = none ∧ po.poOrigin = none)
    (hacked : po.poAcked = (s.pkts id).poAcked) : SendsNone acks s (s.set id po) := by
  have hroot : ∀ m, (s.set id po).root m = s.root m := by
    intro m
    by_cases hm : m = id
    · rw [hm, SendQueue.root, SendQueue.root, SendQueue.set_pkts_self, horigin.1, horigin.2]
    · rw [SendQueue.root, SendQueue.root, SendQueue.set_pkts_of_ne _ _ hm]
  refine ⟨rfl, le_rfl, le_rfl, List.Subset.refl _, fun _ _ hm => hm, fun m _ => hroot m,
    fun m _ hwait => ?_, fun i hi hack => .inl ⟨i, hi, (hroot i).symm, ?_⟩⟩
  · rw [SendQueue.set_pkts_of_ne]
    rintro rfl
    exact hwait hid
  · by_cases hi' : i = id
    · rw [hi', SendQueue.set_pkts_self, hacked] at hack
      rwa [hi']
    · rwa [SendQueue.set_pkts_of_ne _ _ hi'] at hack

theorem SendsNone.repair (hq : QueueInv e s) {p : Place} {src : PktId} {copy : PacketOut}
    {pkts : PktId → PacketOut} (hp : p ≠ .unackedPackets) (hsrc : src ∈ s.lists .unackedPackets)
    (hcopy : (s.pkts src).decreaseInflight.retransmission src = some copy)
    (hnew : pkts s.nextId = copy) (hlater : ∀ id, id ≠ s.nextId → (s.pkts id).Later (pkts id))
    (hacked : ∀ id, id ≠ s.nextId → (pkts id).poAcked = true → (s.pkts id).poAcked = true) :
    SendsNone acks s { s with
      pkts := pkts, nextId := s.nextId + 1
      lists := Function.update s.lists p (s.lists p ++ [s.nextId]) } := by
  set s' : SendQueue := { s with
    pkts := pkts, nextId := s.nextId + 1
    lists := Function.update s.lists p (s.lists p ++ [s.nextId]) } with hs'
  have hmem : ∀ {id q}, id ∈ s'.lists q ↔ id ∈ s.lists q ∨ (q = p ∧ id = s.nextId) :=
    SendQueue.mem_insertNew copy
  have hroot : ∀ id < s.nextId, s'.root id = s.root id :=
    fun id hid => SendQueue.root_of_body (hlater id hid.ne).body
  obtain ⟨-, horigin, -, -, hack, -⟩ := retransmission_fields hcopy
  refine ⟨rfl, le_rfl, Nat.le_succ _, fun id hid => ?_, fun m hm => ?_, hroot, fun m hm _ => ?_,
    fun id hid hack' => .inl ?_⟩
  · exact (hmem.1 hid).resolve_right fun habs => hp habs.1.symm
  · rintro ⟨q, hq', hin⟩
    exact ⟨q, hq', (hmem.1 hin).resolve_right fun habs => hm.ne habs.2⟩
  · exact PacketOut.onWire_of_body (hlater m hm.ne).body (hlater m hm.ne).pktNum
  · rcases Nat.lt_succ_iff_lt_or_eq.1 hid with hid | rfl
    · exact ⟨id, hid, (hroot id hid).symm, hacked id hid.ne hack'⟩
    · refine ⟨src, hq.fresh _ src hsrc, ?_, ?_⟩
      · rw [SendQueue.root, SendQueue.root, show s'.pkts s.nextId = copy from hnew, horigin,
          Option.getD_some, (PacketOut.later_decreaseInflight _).poOrigin]
      · rwa [show s'.pkts s.nextId = copy from hnew, hack, decreaseInflight_poAcked] at hack'

theorem SendsNone.settle (hacks : ∀ n, acks' n → acks n) (hq : QueueInv e s) {root : PktId}
    (hw : Within root (s.AckedBy acks' root) s s') : SendsNone acks s s' := by
  have hnext : s'.nextId = s.nextId := (congrArg SendQueue.nextId hw.eq :)
  refine ⟨(congrArg SendQueue.wire hw.eq :), (congrArg SendQueue.packetNumber hw.eq :).ge, hnext.ge,
    (hw.lists _).subset, fun m _ => ?_, fun m _ => hw.root_eq, fun m _ _ => ?_, fun id hid hack => ?_⟩
  · rintro ⟨q, hq', hin⟩
    exact ⟨q, hq', (hw.lists q).subset hin⟩
  · exact PacketOut.onWire_of_body (hw.later m).body (hw.later m).pktNum
  · rw [hnext] at hid
    rw [hw.root_eq]
    rcases hw.acked id hack with hold | hnew
    · exact .inl ⟨id, hid, rfl, hold⟩
    by_cases hfam : s.root id = root
    · rcases hnew with hold | ⟨m, hin, hrm, hn⟩
      · have hself : s.root root = root := hfam ▸ hq.root_root hid
        exact .inl ⟨root, hfam ▸ hq.root_lt hid, hself.trans hfam.symm, hold⟩
      · exact .inr ⟨m, hin, hrm.trans hfam.symm, hacks _ hn⟩
    · rw [hw.others id hfam] at hack
      exact .inl ⟨id, hid, rfl, hack⟩

theorem dropStreamFramePackets_stays (s : SendQueue) (streamId : StreamId) :
    SendsNone acks s (dropStreamFramePackets s streamId) := by
  have hlists : ∀ p, (dropStreamFramePackets s streamId).lists p ⊆ s.lists p := by
    intro p id hid
    unfold dropStreamFramePackets at hid
    dsimp only at hid
    split_ifs at hid
    · exact List.mem_of_mem_filter hid
    · exact hid
  have hlater := dropStreamFramePackets_later s streamId
  refine .of_marks rfl le_rfl rfl (hlists _) (fun m => ?_) (fun id => (hlater id).1.body)
    (fun id _ => (hlater id).1.pktNum) fun id => (hlater id).2
  rintro ⟨p, hp, hin⟩
  exact ⟨p, hp, hlists p hin⟩

theorem setNextPn_stays {id : PktId} (hid : s.Waiting id) (now : ℕ) :
    SendsNone acks s (setNextPn s id now) := by
  have hne : ∀ m, m ≠ id → (setNextPn s id now).pkts m = s.pkts m :=
    fun m hm => SendQueue.modify_pkts_of_ne s _ hm
  have hself : (setNextPn s id now).pkts id = (s.pkts id).number s.packetNumber now :=
    SendQueue.modify_pkts_self ..
  refine .of_marks rfl (Nat.le_succ _) rfl (List.Subset.refl _) (fun _ hm => hm) (fun m => ?_)
    (fun m hwait => ?_) fun m => ?_
  · by_cases hm : m = id
    · rw [hm, hself]
      rfl
    · rw [hne m hm]
  · rw [hne m fun habs => hwait (habs ▸ hid)]
  · by_cases hm : m = id
    · rw [hm, hself]
      rfl
    · rw [hne m hm]

theorem WireInv.push (h : WireInv acks s) {w : WirePacket} (hw : w.pktNum = s.packetNumber) :
    (s.wire ++ [w]).Pairwise (fun w w' => w.pktNum < w'.pktNum) ∧
      ∀ w' ∈ s.wire ++ [w], w'.pktNum < s.packetNumber + 1 := by
  refine ⟨List.pairwise_append.2 ⟨h.increasing, List.pairwise_singleton _ _, fun a ha b hb => ?_⟩,
    fun w' hw' => ?_⟩
  · rw [List.mem_singleton.1 hb, hw]
    exact h.lt a ha
  · rcases List.mem_append.1 hw' with hw' | hw'
    · exact Nat.lt_succ_of_lt (h.lt w' hw')
    · rw [List.mem_singleton.1 hw', hw]
      exact Nat.lt_succ_self _

theorem WireInv.send (h : WireInv acks s) {id : PktId} (srtt now : ℕ) (hid : s.Waiting id) :
    WireInv acks (transmit s id srtt now) := by
  have hwire : (transmit s id srtt now).wire = s.wire ++ [⟨s.packetNumber, (s.pkts id).payload⟩] := by
    rw [transmit_eq]
  have hpn : (transmit s id srtt now).packetNumber = s.packetNumber + 1 := by rw [transmit_eq]
  have hnext : (transmit s id srtt now).nextId = s.nextId := by rw [transmit_eq]
  have hne : ∀ m, m ≠ id → (transmit s id srtt now).pkts m = s.pkts m :=
    fun m hm => transmit_pkts_of_ne s srtt now hm
  have hself := transmit_pkts_self s id srtt now
  obtain ⟨hacked, hnum⟩ := sentPacket_marks s id now
  have hmark : ∀ m, ((transmit s id srtt now).pkts m).body = (s.pkts m).body ∧
      ((transmit s id srtt now).pkts m).poAcked = (s.pkts m).poAcked := by
    intro m
    by_cases hm : m = id
    · rw [hm, hself]
      exact ⟨sentPacket_body s id now, hacked⟩
    · rw [hne m hm]
      exact ⟨rfl, rfl⟩
  have hroot : ∀ m, (transmit s id srtt now).root m = s.root m :=
    fun m => SendQueue.root_of_body (hmark m).1
  obtain ⟨hincreasing, hlt⟩ := h.push (w := ⟨s.packetNumber, (s.pkts id).payload⟩) rfl
  refine ⟨hwire ▸ hincreasing, fun w hw => ?_, fun i hi => ?_, fun i hi hack => ?_⟩
  · rw [hpn]
    exact hlt w (hwire ▸ hw)
  · rw [hwire]
    rcases mem_transmit.1 hi with ⟨hold, hi'⟩ | ⟨-, rfl, -⟩
    · rw [hne i hi']
      exact List.mem_append_left _ (h.unacked i hold)
    · refine List.mem_append_right _ (List.mem_singleton.2 ?_)
      rw [hself, PacketOut.onWire, hnum, PacketOut.payload_of_body (sentPacket_body s i now)]
  · rw [hnext] at hi
    obtain ⟨m, hm, hmi, hwait, hn, hon⟩ := h.acked i hi ((hmark i).2.symm.trans hack)
    have hm' : m ≠ id := fun habs => hwait (habs ▸ hid)
    refine ⟨m, hnext ▸ hm, by rw [hroot, hroot, hmi], fun ⟨p, hp, hin⟩ => hwait ⟨p, hp, ?_⟩, ?_, ?_⟩
    · exact ((mem_transmit.1 hin).resolve_right fun habs => hp habs.1).1
    · rwa [hne m hm']
    · rw [hne m hm', hwire]
      exact List.mem_append_left _ hon

/-- A packet that was just numbered is sent and not kept. -/
theorem WireInv.shoot (h : WireInv acks s) {id : PktId} (now : ℕ) (hid : s.Waiting id) :
    WireInv acks ((writeSocket (setNextPn s id now) id).unlink id) := by
  set s' := (writeSocket (setNextPn s id now) id).unlink id with hs'
  have hne : ∀ m, m ≠ id → s'.pkts m = s.pkts m := fun m hm => SendQueue.modify_pkts_of_ne s _ hm
  have hself : s'.pkts id = (s.pkts id).number s.packetNumber now := SendQueue.modify_pkts_self ..
  have hwire : s'.wire = s.wire ++ [((s.pkts id).number s.packetNumber now).onWire] := by
    rw [← hself]
    rfl
  have hlists : ∀ p, s'.lists p ⊆ s.lists p := fun p id hid => List.mem_of_mem_filter hid
  have hroot : ∀ m, s'.root m = s.root m := by
    intro m
    by_cases hm : m = id
    · rw [hm, SendQueue.root, hself]
      rfl
    · rw [SendQueue.root, SendQueue.root, hne m hm]
  obtain ⟨hincreasing, hlt⟩ := h.push (w := ((s.pkts id).number s.packetNumber now).onWire) rfl
  refine ⟨hwire ▸ hincreasing, fun w hw => hlt w (hwire ▸ hw), fun i hi => ?_, fun i hi hack => ?_⟩
  · obtain ⟨hold, hi'⟩ := List.mem_filter.1 hi
    rw [hne i (of_decide_eq_true hi'), hwire]
    exact List.mem_append_left _ (h.unacked i hold)
  · have hack' : (s.pkts i).poAcked = true := by
      by_cases hi' : i = id
      · rw [hi', hself] at hack
        rw [hi']
        exact hack
      · rwa [hne i hi'] at hack
    obtain ⟨m, hm, hmi, hwait, hn, hon⟩ := h.acked i hi hack'
    have hm' : m ≠ id := fun habs => hwait (habs ▸ hid)
    refine ⟨m, hm, by rw [hroot, hroot, hmi], fun habs => hwait ?_, ?_, ?_⟩
    · exact habs.imp fun p hp => hp.imp_right fun hin => hlists p hin
    · rwa [hne m hm']
    · rw [hne m hm', hwire]
      exact List.mem_append_left _ hon

/-- **The steps that give up no packet keep the wire.** -/
theorem LifeStep.wireInv {copied : PktId → Prop}
    (hstep : LifeStep e acks' copied (fun _ => False) s s') (hq : QueueInv e s)
    (hacks : ∀ n, acks' n → acks n) (h : WireInv acks s) : WireInv acks s' := by
  cases hstep with
  | move lists pkts hwait hunacked hlife =>
      have hlater : ∀ id, (s.pkts id).Later (pkts id) := fun id => .of_life (hlife id)
      refine h.sendsNone hq (.of_marks rfl le_rfl rfl (hunacked ▸ List.Subset.refl _) (fun m => (hwait m).1)
        (fun id => (hlater id).body) (fun id _ => (hlater id).pktNum) fun id => poAcked_of_life (hlife id))
  | number id now hid => exact h.sendsNone hq (setNextPn_stays hid now)
  | send id srtt now hid => exact h.send srtt now hid
  | insert p po hp horigin hacked hsound => exact h.sendsNone hq (.insertNew hp hacked)
  | fill p id po hp hid horigin hacked hsound =>
      exact h.sendsNone hq (.fill ⟨p, Place.ne_unacked hp, hid⟩ horigin hacked)
  | repair p src copy pkts hp hsrc hcopied hcopy hnew hlater hacked hlife =>
      exact h.sendsNone hq (.repair hq hp hsrc hcopy hnew hlater hacked)
  | settle _ root hw hroot => exact h.sendsNone hq (.settle hacks hq hw)
  | space | record =>
      exact h.sendsNone hq (.of_marks rfl le_rfl rfl (List.Subset.refl _) (fun _ hm => hm) (fun _ => rfl)
        (fun _ _ => rfl) fun _ => rfl)
  | drop streamId hforgotten => exact h.sendsNone hq (dropStreamFramePackets_stays s streamId)
  | shoot id horigin hforgotten => exact hforgotten.elim

theorem LifeSteps.wireInv {copied : PktId → Prop}
    (hsteps : LifeSteps e acks' copied (fun _ => False) s s') (hq : QueueInv e s)
    (hacks : ∀ n, acks' n → acks n) (h : WireInv acks s) : WireInv acks s' := by
  induction hsteps with
  | refl => exact h
  | tail hpre hstep ih => exact hstep.wireInv (LifeSteps.inv hpre hq) hacks ih

theorem LifeStep.wire_grows {copied forgotten : PktId → Prop}
    (hstep : LifeStep e acks copied forgotten s s') : s.wire <+: s'.wire := by
  cases hstep with
  | send id srtt now hid =>
      rw [transmit_eq]
      exact List.prefix_append _ _
  | settle _ root hw hroot =>
      rw [show s'.wire = s.wire from (congrArg SendQueue.wire hw.eq :)]
  | shoot => exact List.prefix_append _ _
  | _ => exact List.prefix_refl _

theorem LifeSteps.wire_grows {copied forgotten : PktId → Prop}
    (hsteps : LifeSteps e acks copied forgotten s s') : s.wire <+: s'.wire := by
  induction hsteps with
  | refl => exact List.prefix_refl _
  | tail _ hstep ih => exact ih.trans hstep.wire_grows

theorem WireInv.pathChallenge (hq : QueueInv e s) (h : WireInv acks s) (params : PktParams) (data : Bytes)
    (now : ℕ) : WireInv acks (sendPathChallenge s params data now) := by
  unfold sendPathChallenge
  split
  · exact h
  · rename_i po hpo
    obtain ⟨-, -, hacked⟩ := controlPacket_fields hpo
    have hins : WireInv acks (s.insertNew .sendPackets po) :=
      h.sendsNone hq (.insertNew (by decide) hacked)
    exact hins.shoot now ⟨.sendPackets, by decide, (SendQueue.mem_insertNew _).2 (.inr ⟨rfl, rfl⟩)⟩

/-- **Every event keeps the wire**, if what it acknowledges counts as acknowledged. -/
theorem WireInv.step {ev : SendEvent} (hq : QueueInv e s) (hc : ContentInv e (fun _ => True) s)
    (h : WireInv acks s) (hwf : ev.Wf) (hacks : ∀ n, ev.acks n → acks n) : WireInv acks (s.step ev) := by
  have hlife : LifeSteps e ev.acks (s.mayCopy ev) (s.forgets ev) s (s.step ev) := step_life hq hc hwf
  cases ev with
  | pathChallenge params data now => exact h.pathChallenge hq params data now
  | dropStream streamId => exact h.sendsNone hq (dropStreamFramePackets_stays s streamId)
  | _ => exact hlife.wireInv hq hacks h

end

end Rquic

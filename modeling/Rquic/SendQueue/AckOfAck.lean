import Rquic.SendQueue.Family

set_option autoImplicit false

/-!
# Acknowledged ACK frames

`rqc_recv_record_del` trims the record of received packet numbers once the peer has acknowledged a
packet with an ACK frame. The evidence is `po_largest_ack` of the packet, or an entry of the ring of
sampled ACK frames; a copy inherits `po_largest_ack` although its ACK frame was removed.

* `CarriesAck`, `CarriedAck`: a payload with an ACK frame, a packet on the wire with such a payload.
* `AckInv`: the evidence that the queue holds is true, if no packet with an ACK frame was copied.
* `CopiesAck`: an event that may copy such a packet.
* **`recvRecordDel_evidence`**: in runs without such events the record is trimmed on evidence only.
-/

namespace Rquic

/-- The payload has an ACK frame with the largest packet number `largest`. -/
def CarriesAck (e : ℕ) (payload : Bytes) (largest : ℕ) : Prop :=
  ∃ fs info, parseFrames e payload = .ok fs ∧ .ack info ∈ fs ∧
    info.ranges.head?.map PktnoRange.high = some largest

/-- The packet `pktNum` was sent with such an ACK frame. -/
def CarriedAck (e : ℕ) (wire : List WirePacket) (pktNum largest : ℕ) : Prop :=
  ∃ w ∈ wire, w.pktNum = pktNum ∧ CarriesAck e w.payload largest

/-- What the queue holds about ACK frames is true of the packets that were sent. -/
structure AckInv (e : ℕ) (acks : ℕ → Prop) (s : SendQueue) : Prop where
  copies : ∀ id < s.nextId, (s.pkts id).poOrigin ≠ none → (s.pkts id).poLargestAck = 0
  unacked : ∀ id ∈ s.lists .unackedPackets, 0 < (s.pkts id).poLargestAck →
    CarriedAck e s.wire (s.pkts id).pktNum (s.pkts id).poLargestAck
  ring : ∀ i ∈ s.ackSentRecord.ackSent, CarriedAck e s.wire i.pktNum i.largestAck
  largest : s.largestAckedAck = 0 ∨ ∃ n, acks n ∧ CarriedAck e s.wire n s.largestAckedAck

theorem CarriedAck.mono {e : ℕ} {wire wire' : List WirePacket} {pktNum largest : ℕ}
    (hsub : ∀ w ∈ wire, w ∈ wire') (h : CarriedAck e wire pktNum largest) :
    CarriedAck e wire' pktNum largest := by
  obtain ⟨w, hw, hnum, hack⟩ := h
  exact ⟨w, hsub w hw, hnum, hack⟩

theorem AckInv.mono {e : ℕ} {acks acks' : ℕ → Prop} {s : SendQueue} (hacks : ∀ n, acks n → acks' n)
    (h : AckInv e acks s) : AckInv e acks' s where
  copies := h.copies
  unacked := h.unacked
  ring := h.ring
  largest := h.largest.imp_right fun ⟨n, hn, hc⟩ => ⟨n, hacks n hn, hc⟩

theorem ackInv_init (e : ℕ) (acks : ℕ → Prop) : AckInv e acks {} where
  copies := fun _ hid => by cases hid
  unacked := fun _ hid => by cases hid
  ring := fun _ hi => by cases hi
  largest := .inl rfl

theorem PacketOut.Sound.carriesAck {e : ℕ} {po : PacketOut} (h : po.Sound e)
    (hpos : 0 < po.poLargestAck) : CarriesAck e po.payload po.poLargestAck := by
  obtain ⟨-, segs, hc, hack, -⟩ := h.content
  obtain ⟨pre, info, code, post, rfl, -, -, hinfo⟩ := hack.present (h.ackBit hpos)
  exact ⟨_, info, hc.parseFrames, by simp, hinfo⟩

section

variable {e : ℕ} {acks : ℕ → Prop} {copied forgotten : PktId → Prop} {s s' : SendQueue}

/-! ## Packets that were sent -/

/-- A packet that does not wait keeps its body and waits no more. -/
theorem LifeStep.sent_kept (hstep : LifeStep e acks copied forgotten s s') {id : PktId}
    (hid : id < s.nextId) (hwait : ¬ s.Waiting id) :
    id < s'.nextId ∧ ¬ s'.Waiting id ∧ (s'.pkts id).body = (s.pkts id).body := by
  cases hstep with
  | move lists pkts hw hunacked hlife =>
      exact ⟨hid, mt (hw id).1 hwait, (congrArg PacketOut.body (hlife id) :)⟩
  | number id' now hid' =>
      have hne : id ≠ id' := fun habs => hwait (habs ▸ hid')
      exact ⟨hid, hwait, congrArg PacketOut.body (SendQueue.modify_pkts_of_ne s _ hne)⟩
  | send id' srtt now hid' =>
      have hne : id ≠ id' := fun habs => hwait (habs ▸ hid')
      refine ⟨by rwa [transmit_eq], fun hin => hwait ?_, by rw [transmit_pkts_of_ne s srtt now hne]⟩
      obtain ⟨p, hp, hin⟩ := hin
      exact ⟨p, hp, ((mem_transmit.1 hin).resolve_right fun habs => hp habs.1).1⟩
  | insert p po hp horigin hacked hsound =>
      refine ⟨Nat.lt_succ_of_lt hid, fun hin => ?_,
        by rw [SendQueue.insertNew_pkts_of_ne _ _ _ hid.ne]⟩
      obtain ⟨q, hq, hin⟩ := hin
      rcases (SendQueue.mem_insertNew _).1 hin with hin | ⟨-, rfl⟩
      · exact hwait ⟨q, hq, hin⟩
      · exact hid.ne rfl
  | fill p id' po hp hid' horigin hacked hsound =>
      have hne : id ≠ id' := fun habs => hwait ⟨p, Place.ne_unacked hp, habs ▸ hid'⟩
      exact ⟨hid, hwait, by rw [SendQueue.set_pkts_of_ne s po hne]⟩
  | repair p src copy pkts hp hsrc hcopied hcopy hnew hlater hacked hlife =>
      refine ⟨Nat.lt_succ_of_lt hid, fun hin => ?_, (hlater id hid.ne).body⟩
      obtain ⟨q, hq, hin⟩ := hin
      rcases (SendQueue.mem_insertNew copy).1 hin with hin | ⟨-, rfl⟩
      · exact hwait ⟨q, hq, hin⟩
      · exact hid.ne rfl
  | settle _ root hw hroot =>
      refine ⟨(congrArg SendQueue.nextId hw.eq :) ▸ hid, fun hin => hwait ?_, (hw.later id).body⟩
      obtain ⟨p, hp, hin⟩ := hin
      exact ⟨p, hp, (hw.lists p).subset hin⟩
  | space | record => exact ⟨hid, hwait, rfl⟩
  | drop streamId hforgotten =>
      refine ⟨hid, fun hin => ?_, (dropStreamFramePackets_later s streamId id).1.body⟩
      obtain ⟨p, hp, hin⟩ := hin
      refine hwait ⟨p, hp, ?_⟩
      simp only [dropStreamFramePackets] at hin
      split_ifs at hin
      · exact (List.mem_filter.1 hin).1
      · exact hin
  | shoot id' horigin hforgotten =>
      refine ⟨hid, fun hin => hwait ?_, rfl⟩
      obtain ⟨p, hp, hin⟩ := hin
      exact ⟨p, hp, (List.mem_filter.1 hin).1⟩

/-- The packets `copied` were sent, without an ACK frame. -/
def CleanCopies (copied : PktId → Prop) (s : SendQueue) : Prop :=
  ∀ id, copied id → id < s.nextId ∧ ¬ s.Waiting id ∧ (s.pkts id).poLargestAck = 0

theorem LifeStep.cleanCopies (hstep : LifeStep e acks copied forgotten s s')
    (h : CleanCopies copied s) : CleanCopies copied s' := by
  intro id hid
  obtain ⟨hlt, hwait, hack⟩ := h id hid
  obtain ⟨hlt', hwait', hbody⟩ := hstep.sent_kept hlt hwait
  exact ⟨hlt', hwait', (congrArg PacketOut.poLargestAck hbody :).trans hack⟩

/-! ## The steps -/

/-- Steps that send nothing: the unacknowledged packets are among those before, with their marks. -/
theorem AckInv.of_same (h : AckInv e acks s)
    (hcopies : ∀ id < s'.nextId, (s'.pkts id).poOrigin ≠ none → (s'.pkts id).poLargestAck = 0)
    (hunacked : ∀ id ∈ s'.lists .unackedPackets, id ∈ s.lists .unackedPackets ∧
      (s'.pkts id).pktNum = (s.pkts id).pktNum ∧
      (s'.pkts id).poLargestAck = (s.pkts id).poLargestAck)
    (hwire : ∀ w ∈ s.wire, w ∈ s'.wire) (hring : s'.ackSentRecord = s.ackSentRecord)
    (hlargest : s'.largestAckedAck = s.largestAckedAck) : AckInv e acks s' where
  copies := hcopies
  unacked := by
    intro id hid hpos
    obtain ⟨hid', hnum, hack⟩ := hunacked id hid
    rw [hack] at hpos
    rw [hnum, hack]
    exact (h.unacked id hid' hpos).mono hwire
  ring := by
    rw [hring]
    exact fun i hi => (h.ring i hi).mono hwire
  largest := by
    rw [hlargest]
    exact h.largest.imp_right fun ⟨n, hn, hc⟩ => ⟨n, hn, hc.mono hwire⟩

theorem AckInv.copies_of_body (h : AckInv e acks s) (hnext : s'.nextId = s.nextId)
    (hbody : ∀ id, (s'.pkts id).body = (s.pkts id).body) :
    ∀ id < s'.nextId, (s'.pkts id).poOrigin ≠ none → (s'.pkts id).poLargestAck = 0 := by
  intro id hid ho
  rw [hnext] at hid
  have horigin : (s'.pkts id).poOrigin = (s.pkts id).poOrigin :=
    (congrArg PacketOut.poOrigin (hbody id) :)
  exact (congrArg PacketOut.poLargestAck (hbody id) :).trans (h.copies id hid (horigin ▸ ho))

theorem mem_ackSentRecordAdd {record : AckSentRecord} {entry i : AckSentEntry} {srtt now : ℕ}
    (h : i ∈ (ackSentRecordAdd record entry srtt now).ackSent) : i = entry ∨ i ∈ record.ackSent := by
  unfold ackSentRecordAdd at h
  split_ifs at h
  · exact .inr h
  · exact (List.mem_cons.1 h).imp_right List.mem_of_mem_dropLast
  · exact List.mem_cons.1 h

/-- A packet that is sent: only originals have `po_largest_ack`, and their ACK frame is there. -/
theorem AckInv.send (hq : QueueInv e s) (h : AckInv e acks s) {id : PktId} (srtt now : ℕ)
    (hid : s.Waiting id) : AckInv e acks (transmit s id srtt now) := by
  have hlt : id < s.nextId := by
    obtain ⟨p, -, hin⟩ := hid
    exact hq.fresh p id hin
  have hwire : (transmit s id srtt now).wire =
      s.wire ++ [⟨s.packetNumber, (s.pkts id).payload⟩] := by rw [transmit_eq]
  have hsub : ∀ w ∈ s.wire, w ∈ (transmit s id srtt now).wire := fun w hw => by
    rw [hwire]
    exact List.mem_append_left _ hw
  have hbody : ∀ m, ((transmit s id srtt now).pkts m).body = (s.pkts m).body := by
    intro m
    by_cases hm : m = id
    · rw [hm, transmit_pkts_self, sentPacket_body]
    · rw [transmit_pkts_of_ne s srtt now hm]
  have hnew : 0 < (s.pkts id).poLargestAck →
      CarriedAck e (transmit s id srtt now).wire s.packetNumber (s.pkts id).poLargestAck := by
    intro hpos
    have horigin : (s.pkts id).poOrigin = none := by
      by_contra ho
      rw [h.copies id hlt ho] at hpos
      cases hpos
    refine ⟨⟨s.packetNumber, (s.pkts id).payload⟩, ?_, rfl, (hq.sound id hlt horigin).carriesAck hpos⟩
    rw [hwire]
    exact List.mem_append_right _ List.mem_cons_self
  refine ⟨h.copies_of_body (by rw [transmit_eq]) hbody, fun m hm hpos => ?_, fun i hi => ?_, ?_⟩
  · rw [show ((transmit s id srtt now).pkts m).poLargestAck = (s.pkts m).poLargestAck from
      (congrArg PacketOut.poLargestAck (hbody m) :)] at hpos ⊢
    by_cases hm' : m = id
    · subst hm'
      rw [transmit_pkts_self, (sentPacket_marks s m now).2]
      exact hnew hpos
    · rw [transmit_pkts_of_ne s srtt now hm']
      have hin := ((mem_transmit.1 hm).resolve_right fun habs => hm' habs.2.1).1
      exact (h.unacked m hin hpos).mono hsub
  · have hring : (transmit s id srtt now).ackSentRecord = if 0 < (s.pkts id).poLargestAck then
        ackSentRecordAdd s.ackSentRecord ⟨s.packetNumber, (s.pkts id).poLargestAck⟩ srtt now
        else s.ackSentRecord := by rw [transmit_eq]
    rw [hring] at hi
    split_ifs at hi with hpos
    · rcases mem_ackSentRecordAdd hi with rfl | hi
      · exact hnew hpos
      · exact (h.ring i hi).mono hsub
    · exact (h.ring i hi).mono hsub
  · rw [show (transmit s id srtt now).largestAckedAck = s.largestAckedAck by rw [transmit_eq]]
    exact h.largest.imp_right fun ⟨n, hn, hc⟩ => ⟨n, hn, hc.mono hsub⟩

theorem AckInv.space {acks₀ : ℕ → Prop} (hacks : ∀ n, acks₀ n → acks n) (h : AckInv e acks s)
    {largestAcked : Option ℕ} {largestAckedAck : ℕ} {ackSentRecord : AckSentRecord}
    (hring : ∀ i ∈ ackSentRecord.ackSent, i ∈ s.ackSentRecord.ackSent)
    (hlargest : largestAckedAck = s.largestAckedAck ∨
      (∃ id ∈ s.lists .unackedPackets, acks₀ (s.pkts id).pktNum ∧
        largestAckedAck = (s.pkts id).poLargestAck) ∨
      ∃ i ∈ s.ackSentRecord.ackSent, acks₀ i.pktNum ∧ largestAckedAck = i.largestAck) :
    AckInv e acks { s with
      largestAcked := largestAcked, largestAckedAck := largestAckedAck
      ackSentRecord := ackSentRecord } := by
  refine ⟨h.copies, h.unacked, fun i hi => h.ring i (hring i hi), ?_⟩
  rcases hlargest with rfl | ⟨id, hid, hn, rfl⟩ | ⟨i, hi, hn, rfl⟩
  · exact h.largest
  · rcases Nat.eq_zero_or_pos (s.pkts id).poLargestAck with hzero | hpos
    · exact .inl hzero
    · exact .inr ⟨_, hacks _ hn, h.unacked id hid hpos⟩
  · exact .inr ⟨_, hacks _ hn, h.ring i hi⟩

/-- **The steps keep the evidence**, as long as no packet with an ACK frame is copied. -/
theorem LifeStep.ackInv {acks₀ : ℕ → Prop} (hstep : LifeStep e acks₀ copied forgotten s s')
    (hq : QueueInv e s) (hacks : ∀ n, acks₀ n → acks n) (hclean : CleanCopies copied s)
    (h : AckInv e acks s) : AckInv e acks s' := by
  cases hstep with
  | move lists pkts hwait hunacked hlife =>
      refine h.of_same (h.copies_of_body rfl fun id => (congrArg PacketOut.body (hlife id) :))
        (fun id hid => ⟨hunacked ▸ hid, (congrArg PacketOut.pktNum (hlife id) :),
          (congrArg PacketOut.poLargestAck (hlife id) :)⟩) (fun _ hw => hw) rfl rfl
  | number id now hid =>
      refine h.of_same (h.copies_of_body rfl fun m => ?_) (fun m hm => ?_) (fun _ hw => hw) rfl rfl
      · exact body_modify s id m (f := PacketOut.number s.packetNumber now) fun _ => rfl
      · have hne : m ≠ id := fun habs => hq.apart m hm (habs ▸ hid)
        rw [show (setNextPn s id now).pkts m = s.pkts m from SendQueue.modify_pkts_of_ne s _ hne]
        exact ⟨hm, rfl, rfl⟩
  | send id srtt now hid => exact h.send hq srtt now hid
  | insert p po hp horigin hacked hsound =>
      refine h.of_same (fun id hid ho => ?_) (fun id hid => ?_) (fun _ hw => hw) rfl rfl
      · rcases Nat.lt_succ_iff_lt_or_eq.1 hid with hid | rfl
        · rw [SendQueue.insertNew_pkts_of_ne _ _ _ hid.ne] at ho ⊢
          exact h.copies id hid ho
        · rw [SendQueue.insertNew_pkts_nextId] at ho
          exact absurd horigin ho
      · have hin := ((SendQueue.mem_insertNew _).1 hid).resolve_right fun habs => hp habs.1.symm
        rw [SendQueue.insertNew_pkts_of_ne _ _ _ (hq.fresh _ id hin).ne]
        exact ⟨hin, rfl, rfl⟩
  | fill p id po hp hid horigin hacked hsound =>
      refine h.of_same (fun m hm ho => ?_) (fun m hm => ?_) (fun _ hw => hw) rfl rfl
      · by_cases hm' : m = id
        · rw [hm', SendQueue.set_pkts_self] at ho
          exact absurd horigin.2 ho
        · rw [SendQueue.set_pkts_of_ne s po hm'] at ho ⊢
          exact h.copies m hm ho
      · have hne : m ≠ id := fun habs => hq.apart m hm (habs ▸ ⟨p, Place.ne_unacked hp, hid⟩)
        rw [SendQueue.set_pkts_of_ne s po hne]
        exact ⟨hm, rfl, rfl⟩
  | repair p src copy pkts hp hsrc hcopied hcopy hnew hlater hacked hlife =>
      refine h.of_same (fun id hid ho => ?_) (fun id hid => ?_) (fun _ hw => hw) rfl rfl
      · rcases Nat.lt_succ_iff_lt_or_eq.1 hid with hid | rfl
        · have hl := hlater id hid.ne
          exact (congrArg PacketOut.poLargestAck hl.body :).trans
            (h.copies id hid (hl.poOrigin ▸ ho))
        · -- the copy has `po_largest_ack` of its source
          obtain ⟨-, -, -, -, -, hlargest⟩ := retransmission_fields hcopy
          show (pkts s.nextId).poLargestAck = 0
          rw [hnew, hlargest]
          exact (congrArg PacketOut.poLargestAck (PacketOut.later_decreaseInflight _).body :).trans
            (hclean src hcopied).2.2
      · have hin := ((SendQueue.mem_insertNew copy).1 hid).resolve_right fun habs => hp habs.1.symm
        have hl := hlater id (hq.fresh _ id hin).ne
        exact ⟨hin, hl.pktNum, (congrArg PacketOut.poLargestAck hl.body :)⟩
  | settle _ root hw hroot =>
      refine h.of_same (h.copies_of_body (congrArg SendQueue.nextId hw.eq :) fun id => (hw.later id).body)
        (fun id hid => ⟨(hw.lists _).subset hid, (hw.later id).pktNum,
          (congrArg PacketOut.poLargestAck (hw.later id).body :)⟩) (fun w hw' => ?_)
        (congrArg SendQueue.ackSentRecord hw.eq :) (congrArg SendQueue.largestAckedAck hw.eq :)
      rwa [show s'.wire = s.wire from (congrArg SendQueue.wire hw.eq :)]
  | space largestAcked largestAckedAck ackSentRecord hring hlargest => exact h.space hacks hring hlargest
  | record => exact ⟨h.copies, h.unacked, h.ring, h.largest⟩
  | drop streamId hforgotten =>
      have hlater := dropStreamFramePackets_later s streamId
      refine h.of_same (h.copies_of_body rfl fun id => (hlater id).1.body) (fun id hid => ⟨?_,
        (hlater id).1.pktNum, (congrArg PacketOut.poLargestAck (hlater id).1.body :)⟩)
        (fun _ hw => hw) rfl rfl
      simp only [dropStreamFramePackets] at hid
      split_ifs at hid
      · exact (List.mem_filter.1 hid).1
      · exact hid
  | shoot id horigin hforgotten =>
      exact h.of_same (h.copies_of_body rfl fun _ => rfl)
        (fun m hm => ⟨(List.mem_filter.1 hm).1, rfl, rfl⟩) (fun w hw => List.mem_append_left _ hw) rfl rfl

theorem LifeSteps.ackInv {acks₀ : ℕ → Prop} (hsteps : LifeSteps e acks₀ copied forgotten s s')
    (hq : QueueInv e s) (hacks : ∀ n, acks₀ n → acks n) (hclean : CleanCopies copied s)
    (h : AckInv e acks s) : AckInv e acks s' := by
  suffices hboth : AckInv e acks s' ∧ CleanCopies copied s' from hboth.1
  induction hsteps with
  | refl => exact ⟨h, hclean⟩
  | tail hpre hstep ih =>
      exact ⟨hstep.ackInv (LifeSteps.inv hpre hq) hacks ih.2 ih.1, hstep.cleanCopies ih.2⟩

end

/-! ## Runs -/

/-- The event may copy a packet that was sent with an ACK frame. -/
def CopiesAck (s : SendQueue) (ev : SendEvent) : Prop :=
  ∃ id, s.mayCopy ev id ∧ 0 < (s.pkts id).poLargestAck

theorem SendQueue.mem_of_mayCopy {s : SendQueue} {ev : SendEvent} {id : PktId}
    (h : s.mayCopy ev id) : id ∈ s.lists .unackedPackets := by
  cases ev with
  | ackReceived info th => exact h.1
  | lossTimeout th => exact h.1
  | probeTimeout params => exact (List.mem_filter.1 (List.mem_of_mem_take h.1)).1
  | _ => exact h.elim

theorem run_ackInv (e : ℕ) (evs : List SendEvent) (hwf : ∀ ev ∈ evs, ev.Wf)
    (hclean : ∀ pre ev post, evs = pre ++ ev :: post → ¬ CopiesAck (SendQueue.run {} pre) ev) :
    AckInv e (RunAcks evs) (SendQueue.run {} evs) := by
  induction evs using List.reverseRecOn with
  | nil => exact ackInv_init e _
  | append_singleton evs ev ih =>
      have hevs : ∀ ev' ∈ evs, ev'.Wf := fun ev' hev' => hwf ev' (List.mem_append_left _ hev')
      obtain ⟨hq, hc⟩ := run_inv e evs hevs
      have hold : AckInv e (RunAcks (evs ++ [ev])) (SendQueue.run {} evs) := by
        refine (ih hevs fun pre ev' post heq => hclean pre ev' (post ++ [ev]) (by simp [heq])).mono ?_
        rintro n ⟨ev', hev', hn⟩
        exact ⟨ev', List.mem_append_left _ hev', hn⟩
      rw [SendQueue.run_append]
      refine (step_life hq hc (hwf ev (by simp))).ackInv hq (fun n hn => ⟨ev, by simp, hn⟩)
        (fun id hid => ?_) hold
      have hin := SendQueue.mem_of_mayCopy hid
      refine ⟨hq.fresh _ id hin, hq.apart id hin, Nat.eq_zero_of_not_pos fun hpos => ?_⟩
      exact hclean evs ev [] rfl ⟨id, hid, hpos⟩

section

variable {s : SendQueue}

theorem maybeRemoveUnacked_largestAckedAck (s : SendQueue) (id : PktId) (path : Bool) :
    (maybeRemoveUnacked s id path).largestAckedAck = s.largestAckedAck := by
  unfold maybeRemoveUnacked leaveList releaseOrigin
  split
  · split_ifs <;> rfl
  · split_ifs <;> rfl

theorem onPacketAcked_largestAckedAck (s : SendQueue) (id : PktId) :
    (onPacketAcked s id).largestAckedAck = s.largestAckedAck := by
  unfold onPacketAcked
  split <;> rfl

theorem indirectlyAckOrDropPo_largestAckedAck {s' : SendQueue} {id : PktId}
    (h : indirectlyAckOrDropPo s id = some s') : s'.largestAckedAck = s.largestAckedAck := by
  obtain ⟨-, rfl⟩ := indirectlyAckOrDropPo_eq_some.1 h
  rw [maybeRemoveUnacked_largestAckedAck]
  split_ifs
  · exact onPacketAcked_largestAckedAck s id
  · rfl

theorem onPacketLost_largestAckedAck (s : SendQueue) (id : PktId) :
    (onPacketLost s id).largestAckedAck = s.largestAckedAck := by
  unfold onPacketLost copyToLost copyTo
  split_ifs
  · split <;> rfl
  · rfl
  · rfl

theorem detectLost_largestAckedAck (s : SendQueue) (th : LossThresholds) :
    (detectLost s th).largestAckedAck = s.largestAckedAck := by
  refine detectLost_induct (P := fun s₁ => s₁.largestAckedAck = s.largestAckedAck) ?_ ?_ rfl
  · intro s₁ id hid s₂ hs₂ h
    exact (indirectlyAckOrDropPo_largestAckedAck hs₂).trans h
  · intro s₁ id hid h
    exact (onPacketLost_largestAckedAck s₁ id).trans h

theorem ackPacket_largestAckedAck (w : AckWalk) (id : PktId) :
    (w.ackPacket id).sndq.largestAckedAck =
      max w.sndq.largestAckedAck (w.sndq.pkts id).poLargestAck := by
  simp only [AckWalk.ackPacket]
  rw [maybeRemoveUnacked_largestAckedAck, onPacketAcked_largestAckedAck]
  rfl

theorem maybeRemoveUnacked_wire (s : SendQueue) (id : PktId) (path : Bool) :
    (maybeRemoveUnacked s id path).wire = s.wire := by
  unfold maybeRemoveUnacked leaveList releaseOrigin
  split
  · split_ifs <;> rfl
  · split_ifs <;> rfl

theorem onPacketAcked_wire (s : SendQueue) (id : PktId) : (onPacketAcked s id).wire = s.wire := by
  unfold onPacketAcked
  split <;> rfl

theorem ackPacket_wire (w : AckWalk) (id : PktId) : (w.ackPacket id).sndq.wire = w.sndq.wire := by
  simp only [AckWalk.ackPacket]
  rw [maybeRemoveUnacked_wire, onPacketAcked_wire]
  rfl

theorem ackProcess_wire (s : SendQueue) (info : AckInfo) : (ackProcess s info).sndq.wire = s.wire := by
  have hring : (ackSentOnAck s info).sndq.wire = s.wire := by
    unfold ackSentOnAck
    split <;> rfl
  have hwalk : ∀ l ids ranges (w : AckWalk), (ackWalk l ranges ids w).sndq.wire = w.sndq.wire := by
    intro l ids ranges w
    refine ackWalk_sndq_induct (P := fun s => s.wire = w.sndq.wire) ?_ rfl
    intro w₁ id hid h
    exact (ackPacket_wire w₁ id).trans h
  unfold ackProcess
  split
  · rfl
  · rw [hwalk, hring]

/-- The record is trimmed only after something was learned of ACK frames. -/
theorem ackWalk_needDelRecord {frameLargestAck : ℕ} {ranges : List PktnoRange} {ids : List PktId}
    {w : AckWalk} (hw : w.needDelRecord = true → 0 < w.sndq.largestAckedAck) :
    (ackWalk frameLargestAck ranges ids w).needDelRecord = true →
      0 < (ackWalk frameLargestAck ranges ids w).sndq.largestAckedAck := by
  refine ackWalk_induct (P := fun w => w.needDelRecord = true → 0 < w.sndq.largestAckedAck) ?_
    (fun _ _ _ _ h => h) hw
  intro w₁ id hid h hneed
  rw [ackPacket_largestAckedAck]
  simp only [AckWalk.ackPacket, Bool.or_eq_true, decide_eq_true_eq] at hneed
  rcases hneed with hneed | hneed
  · exact lt_max_of_lt_left (h hneed)
  · exact lt_max_of_lt_right (by omega)

theorem ackProcess_needDelRecord {info : AckInfo} (h : (ackProcess s info).needDelRecord = true) :
    0 < (ackProcess s info).sndq.largestAckedAck := by
  have hring : (ackSentOnAck s info).needDelRecord = true →
      0 < (ackSentOnAck s info).sndq.largestAckedAck := by
    unfold ackSentOnAck
    split
    · exact nofun
    · intro hneed
      simp only [decide_eq_true_eq] at hneed
      exact lt_max_of_lt_right (by omega)
  unfold ackProcess at h ⊢
  split at h
  · cases h
  · exact ackWalk_needDelRecord hring h

end

/-- **The record is trimmed on evidence.** In a run that copies no packet with an ACK frame,
`rqc_recv_record_del` is called with `d` only if some packet went out with an ACK frame up to `d - 1`
and was acknowledged. -/
theorem recvRecordDel_evidence (e : ℕ) (evs : List SendEvent) (hwf : ∀ ev ∈ evs, ev.Wf)
    (hclean : ∀ pre ev post, evs = pre ++ ev :: post → ¬ CopiesAck (SendQueue.run {} pre) ev)
    (info : AckInfo) (th : LossThresholds) (d : ℕ)
    (h : (onAckReceived (SendQueue.run {} evs) info th).2 = some d) :
    0 < d ∧ ∃ w ∈ (SendQueue.run {} evs).wire,
      RunAcks (evs ++ [.ackReceived info th]) w.pktNum ∧ CarriesAck e w.payload (d - 1) := by
  set s := SendQueue.run {} evs with hs
  obtain ⟨hq, -⟩ := run_inv e evs hwf
  have hinv : AckInv e (RunAcks (evs ++ [.ackReceived info th])) s := by
    refine (run_ackInv e evs hwf hclean).mono ?_
    rintro n ⟨ev, hev, hn⟩
    exact ⟨ev, List.mem_append_left _ hev, hn⟩
  -- what the walk over the acknowledged packets learns comes before loss detection
  have hproc : AckInv e (RunAcks (evs ++ [.ackReceived info th])) (ackProcess s info).sndq := by
    obtain ⟨hsteps, -⟩ : LifeSteps e info.Acks (fun _ => False) (fun _ => False) s
        (ackProcess s info).sndq ∧ _ := ackProcess_life hq info
    exact hsteps.ackInv hq (fun n hn => ⟨.ackReceived info th, by simp, hn⟩) (fun _ => False.elim) hinv
  have hwire : (ackProcess s info).sndq.wire = s.wire := ackProcess_wire s info
  unfold onAckReceived at h
  simp only at h
  split_ifs at h with herr hneed
  obtain rfl := Option.some.inj h
  rw [detectLost_largestAckedAck]
  refine ⟨Nat.succ_pos _, ?_⟩
  rcases hproc.largest with hzero | ⟨n, hn, w, hw, hnum, hcarries⟩
  · exact absurd (ackProcess_needDelRecord hneed) (by omega)
  · rw [Nat.add_sub_cancel]
    exact ⟨w, hwire ▸ hw, hnum ▸ hn, hcarries⟩

/-- A packet goes out with an ACK frame up to 5. -/
def ackSentRun : List SendEvent :=
  [.recvPacket 5, .stream false demoParams 0 0 false [1, 2, 3], .ack demoParams 0 0,
    .schedule .normal, .send .normal .sent 100 1000]

theorem recvRecordDel_evidence_ackSentRun :
    (onAckReceived (SendQueue.run {} ackSentRun) ⟨[⟨0, 0⟩], 0⟩ ⟨0, none⟩).2 = some 6 ∧
      ∃ w ∈ (SendQueue.run {} ackSentRun).wire,
        RunAcks (ackSentRun ++ [.ackReceived ⟨[⟨0, 0⟩], 0⟩ ⟨0, none⟩]) w.pktNum ∧
        CarriesAck 3 w.payload 5 := by
  have hdel : (onAckReceived (SendQueue.run {} ackSentRun) ⟨[⟨0, 0⟩], 0⟩ ⟨0, none⟩).2 = some 6 := by
    decide +kernel
  refine ⟨hdel, (recvRecordDel_evidence 3 ackSentRun (by simp [ackSentRun, SendEvent.Wf]) ?_ _ _ 6
    hdel).2⟩
  rintro pre ev post heq ⟨id, hcopy, -⟩
  have hmem : ev ∈ ackSentRun := by rw [heq]; simp
  simp only [ackSentRun, List.mem_cons, List.not_mem_nil, or_false] at hmem
  rcases hmem with rfl | rfl | rfl | rfl | rfl <;> exact hcopy

/-- The packet is lost, and its copy is sent without the ACK frame. -/
def ackCopiedRun : List SendEvent :=
  ackSentRun ++ [.stream false demoParams 0 3 false [4, 5], .schedule .normal,
    .send .normal .sent 100 200000, .ackReceived ⟨[⟨1, 1⟩], 0⟩ ⟨1000, none⟩, .schedule .retrans,
    .send .retrans .sent 100 300000]

/-- The acknowledgement of the copy trims the record up to 5, and no acknowledged packet had an ACK
frame. -/
theorem ackCopiedRun_no_evidence :
    (∀ ev ∈ ackCopiedRun, ev.Wf) ∧
      (onAckReceived (SendQueue.run {} ackCopiedRun) ⟨[⟨1, 2⟩], 0⟩ ⟨1000, none⟩).2 = some 6 ∧
      ¬ ∃ w ∈ (SendQueue.run {} ackCopiedRun).wire,
        RunAcks (ackCopiedRun ++ [.ackReceived ⟨[⟨1, 2⟩], 0⟩ ⟨1000, none⟩]) w.pktNum ∧
        CarriesAck 3 w.payload 5 := by
  refine ⟨by simp [ackCopiedRun, ackSentRun, SendEvent.Wf], by decide +kernel, ?_⟩
  have hwire : (SendQueue.run {} ackCopiedRun).wire =
      [⟨0, [10, 0, 64, 3, 1, 2, 3, 2, 5, 0, 0, 0]⟩, ⟨1, [14, 0, 3, 64, 2, 4, 5]⟩,
        ⟨2, [10, 0, 64, 3, 1, 2, 3]⟩] := by decide +kernel
  have hfirst : parseFrames 3 [14, 0, 3, 64, 2, 4, 5] = .ok [.stream 0 3 false [4, 5]] := by
    decide +kernel
  have hcopy : parseFrames 3 [10, 0, 64, 3, 1, 2, 3] = .ok [.stream 0 0 false [1, 2, 3]] := by
    decide +kernel
  rintro ⟨w, hw, ⟨ev, hev, hack⟩, fs, info, hfs, hinfo, -⟩
  rw [hwire] at hw
  simp only [List.mem_cons, List.not_mem_nil, or_false] at hw
  rcases hw with rfl | rfl | rfl
  · -- the packet with the ACK frame was not acknowledged
    simp only [ackCopiedRun, ackSentRun, List.cons_append, List.nil_append, List.mem_cons,
      List.not_mem_nil, or_false] at hev
    rcases hev with rfl | rfl | rfl | rfl | rfl | rfl | rfl | rfl | rfl | rfl | rfl | rfl
    all_goals simp [SendEvent.acks, AckInfo.Acks] at hack
  · obtain rfl := Except.ok.inj (hfirst.symm.trans hfs)
    simp at hinfo
  · obtain rfl := Except.ok.inj (hcopy.symm.trans hfs)
    simp at hinfo

end Rquic

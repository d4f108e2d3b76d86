import Rquic.SendQueue.Space
import Rquic.SendQueue.Steps

set_option autoImplicit false

/-!
# One ACK frame

The walk of `rqc_send_ctl_on_ack_received` moves along the unacknowledged packets and along the ranges
of the ACK frame at once, and marks packets of the list on its way.

* `AckInfo.reaches`: a packet number that the walk stops at, whatever the ranges are;
  `AckInfo.reaches_iff`: for ranges in order, those in some range.
* `walkPackets`: the loop; **`walkPackets_eq`**: it acknowledges just these packets of the list, one after
  the other.
* `SentLe`: no packet of the list is numbered above `ctl_largest_sent`, so the walk has no error.
* `TrimInv`: the receive record was never trimmed beyond `ctl_largest_acked_ack`.
* **`trims_iff`**: an ACK frame that raises `ctl_largest_acked_ack` trims the record if and only if the
  walk acknowledges a packet or the ring of sampled ACK frames has no share in it.
-/

namespace Rquic

/-! ## The range of a packet number -/

theorem seekRange_ne_nil {pktNum : ℕ} {ranges : List PktnoRange} (h : ranges ≠ []) :
    seekRange pktNum ranges ≠ [] := by
  fun_induction seekRange pktNum ranges with
  | case1 r r' rs hlt ih => exact ih (List.cons_ne_nil _ _)
  | case2 r r' rs hlt => exact h
  | case3 rs hrs => exact h

/-- A search goes on where the search for a smaller number has stopped. -/
theorem seekRange_seekRange {m n : ℕ} (hle : m ≤ n) (ranges : List PktnoRange) :
    seekRange n (seekRange m ranges) = seekRange n ranges := by
  fun_induction seekRange m ranges with
  | case1 r r' rs hlt ih =>
      rw [ih]
      conv_rhs => rw [seekRange, if_pos (hlt.trans_le hle)]
  | case2 r r' rs hlt => rfl
  | case3 rs hrs => rfl

/-- The walk of an ACK frame acknowledges the packet number. -/
def AckInfo.reaches (info : AckInfo) (pktNum : ℕ) : Bool :=
  match info.ranges.head?, seekRange pktNum info.ranges.reverse with
  | some first, r :: _ => decide (pktNum ≤ first.high) && decide (r.low ≤ pktNum)
  | _, _ => false

theorem AckInfo.reaches_of_seekRange {info : AckInfo} {first r : PktnoRange} {rs : List PktnoRange}
    {pktNum : ℕ} (hfirst : info.ranges.head? = some first)
    (hseek : seekRange pktNum info.ranges.reverse = r :: rs) :
    info.reaches pktNum = true ↔ pktNum ≤ first.high ∧ r.low ≤ pktNum := by
  rw [AckInfo.reaches, hfirst, hseek]
  simp

/-- Ranges in order: the walk acknowledges what lies in some range. -/
theorem AckInfo.reaches_iff {info : AckInfo} (hord : info.Ordered) (pktNum : ℕ) :
    info.reaches pktNum = true ↔ info.Acks pktNum := by
  cases hfirst : info.ranges.head? with
  | none =>
      rw [List.head?_eq_none_iff] at hfirst
      simp [AckInfo.reaches, AckInfo.Acks, hfirst]
  | some first =>
      have hne : info.ranges.reverse ≠ [] := by
        rw [Ne, List.reverse_eq_nil_iff]
        rintro habs
        rw [habs] at hfirst
        cases hfirst
      cases hseek : seekRange pktNum info.ranges.reverse with
      | nil => exact absurd hseek (seekRange_ne_nil hne)
      | cons r rs =>
          rw [AckInfo.reaches_of_seekRange hfirst hseek]
          constructor
          · rintro ⟨hle, hlow⟩
            exact acks_of_seekRange hfirst (List.suffix_refl _) hseek hlow hle
          · intro hack
            refine ⟨hord.le_first hfirst hack, ?_⟩
            -- the search stops at the range, or at one below it
            obtain ⟨r', hr', hlow, hhigh⟩ := hack
            have hmem := mem_seekRange (List.mem_reverse.2 hr') hhigh
            rw [hseek] at hmem
            rcases List.mem_cons.1 hmem with rfl | hmem
            · exact hlow
            · have hsuf : r :: rs <:+ info.ranges.reverse := hseek ▸ seekRange_suffix _ _
              have hasc := (List.pairwise_reverse.2 hord.1).sublist hsuf.sublist
              have hlt := (List.pairwise_cons.1 hasc).1 r' hmem
              have hle := hord.2 r (List.mem_reverse.1 (hsuf.subset List.mem_cons_self))
              omega

/-! ## What one acknowledgement changes -/

/-- A packet without the marks, with its number and whether it is acknowledged. -/
def PacketOut.core (po : PacketOut) : PacketOut :=
  { po.body with pktNum := po.pktNum, poAcked := po.poAcked }

section Core

variable {s : SendQueue}

theorem core_modify (s : SendQueue) (id i : PktId) {f : PacketOut → PacketOut}
    (hf : ∀ po, (f po).core = po.core) : ((s.modify id f).pkts i).core = (s.pkts i).core := by
  by_cases h : i = id
  · rw [h, SendQueue.modify_pkts_self, hf]
  · rw [SendQueue.modify_pkts_of_ne s f h]

@[simp] theorem core_decreaseInflight (po : PacketOut) : po.decreaseInflight.core = po.core := by
  unfold PacketOut.decreaseInflight
  split_ifs <;> rfl

theorem core_onAcked (po : PacketOut) : po.onAcked.core = { po.core with poAcked := true } := by
  unfold PacketOut.onAcked PacketOut.decreaseInflight
  split_ifs <;> rfl

theorem core_removeUnacked (s : SendQueue) (id i : PktId) :
    ((removeUnacked s id).pkts i).core = (s.pkts i).core := core_modify (s.unlink id) id i fun _ => rfl

theorem core_leaveList (s : SendQueue) (id i : PktId) (path : Bool) :
    ((leaveList s id path).pkts i).core = (s.pkts i).core := by
  unfold leaveList
  split_ifs
  · exact core_modify (s.unlink id) id i fun _ => rfl
  · exact core_removeUnacked s id i

theorem core_releaseOrigin (s : SendQueue) (origin i : PktId) :
    ((releaseOrigin s origin).pkts i).core = (s.pkts i).core := by
  have hrel := core_modify s origin i (f := PacketOut.release) fun _ => rfl
  unfold releaseOrigin
  split_ifs
  · rw [core_removeUnacked, core_modify _ _ _ core_decreaseInflight, hrel]
  · exact hrel

theorem core_maybeRemoveUnacked (s : SendQueue) (id i : PktId) (path : Bool) :
    ((maybeRemoveUnacked s id path).pkts i).core = (s.pkts i).core := by
  unfold maybeRemoveUnacked
  split
  · split_ifs
    · rfl
    · exact core_leaveList s id i path
  · rw [core_releaseOrigin, core_leaveList]

theorem core_onPacketAcked (s : SendQueue) (id i : PktId) :
    ((onPacketAcked s id).pkts i).core = { (s.pkts i).core with
      poAcked := (s.pkts i).poAcked || decide (i = id) || decide ((s.pkts id).poOrigin = some i) } := by
  have hself : ((s.modify id PacketOut.onAcked).pkts i).core =
      { (s.pkts i).core with poAcked := (s.pkts i).poAcked || decide (i = id) } := by
    by_cases h : i = id
    · rw [h, SendQueue.modify_pkts_self, core_onAcked]
      simp only [decide_true, Bool.or_true]
    · rw [SendQueue.modify_pkts_of_ne _ _ h]
      simp only [h, decide_false, Bool.or_false]
      rfl
  unfold onPacketAcked
  split
  · rename_i ho
    rw [hself]
    simp only [ho, reduceCtorEq, decide_false, Bool.or_false]
  · rename_i origin ho
    by_cases h : i = origin
    · have hcore : ∀ po : PacketOut, po.markAcked.core = { po.core with poAcked := true } := fun _ => rfl
      rw [h] at hself ⊢
      rw [SendQueue.modify_pkts_self, hcore, hself]
      simp only [ho, decide_true, Bool.or_true]
    · rw [SendQueue.modify_pkts_of_ne _ _ h, hself]
      simp only [ho, Option.some.injEq, Ne.symm h, decide_false, Bool.or_false]

theorem core_ackPacket (w : AckWalk) (id i : PktId) :
    ((w.ackPacket id).sndq.pkts i).core = { (w.sndq.pkts i).core with
      poAcked := (w.sndq.pkts i).poAcked || decide (i = id) ||
        decide ((w.sndq.pkts id).poOrigin = some i) } := by
  have hmark : ∀ po : PacketOut, po.markSpuriousLoss.core = po.core := by
    intro po
    unfold PacketOut.markSpuriousLoss
    split_ifs <;> rfl
  have hcore := fun i => core_modify (raiseLargest w.sndq (w.sndq.pkts id)) id i hmark
  generalize hs : (raiseLargest w.sndq (w.sndq.pkts id)).modify id PacketOut.markSpuriousLoss = s at hcore
  have hacked : (s.pkts i).poAcked = (w.sndq.pkts i).poAcked := (congrArg PacketOut.poAcked (hcore i) :)
  have horigin : (s.pkts id).poOrigin = (w.sndq.pkts id).poOrigin :=
    (congrArg PacketOut.poOrigin (hcore id) :)
  simp only [AckWalk.ackPacket, hs]
  rw [core_maybeRemoveUnacked, core_onPacketAcked, hcore, hacked, horigin]
  rfl

theorem pktNum_ackPacket (w : AckWalk) (id i : PktId) :
    ((w.ackPacket id).sndq.pkts i).pktNum = (w.sndq.pkts i).pktNum :=
  (congrArg PacketOut.pktNum (core_ackPacket w id i) :)

theorem poOrigin_ackPacket (w : AckWalk) (id i : PktId) :
    ((w.ackPacket id).sndq.pkts i).poOrigin = (w.sndq.pkts i).poOrigin :=
  (congrArg PacketOut.poOrigin (core_ackPacket w id i) :)

theorem largestSent_ackPacket (w : AckWalk) (id : PktId) :
    (w.ackPacket id).sndq.largestSent = w.sndq.largestSent :=
  (congrArg SendQueue.largestSent (ackPacket_space w id) :)

end Core

/-! ## The walk -/

section Walk

variable {W : Type} (pktNum : W → PktId → ℕ) (largestSent : W → ℕ) (fail : W → W)
  (ack : W → PktId → List PktId → W)

/-- The loop of `rqc_send_ctl_on_ack_received`, with what it does to a packet that is acknowledged, to
the packets behind it and on an error. -/
def walkPackets (frameLargestAck : ℕ) : List PktnoRange → List PktId → W → W
  | _, [], w => w
  | ranges, id :: ids, w =>
    if frameLargestAck < pktNum w id then w
    else if largestSent w < pktNum w id then fail w
    else
      match seekRange (pktNum w id) ranges with
      | [] => w
      | r :: rs =>
        if r.low ≤ pktNum w id then walkPackets frameLargestAck (r :: rs) ids (ack w id ids)
        else walkPackets frameLargestAck (r :: rs) ids w

/-- The packets of a list that satisfy `p` are acknowledged, one after the other. -/
def ackEach (p : PktId → Bool) : List PktId → W → W
  | [], w => w
  | id :: ids, w => ackEach p ids (if p id then ack w id ids else w)

theorem ackEach_of_forall_not {p : PktId → Bool} {ids : List PktId} (h : ∀ id ∈ ids, p id = false)
    (w : W) : ackEach ack p ids w = w := by
  induction ids with
  | nil => rfl
  | cons id ids ih =>
      obtain ⟨hid, hids⟩ := List.forall_mem_cons.1 h
      rw [ackEach, hid, if_neg Bool.false_ne_true]
      exact ih hids

variable {pktNum largestSent ack}

/-- **The walk acknowledges the packets that it reaches, one after the other.** -/
theorem walkPackets_eq {info : AckInfo} {first : PktnoRange} {ranges : List PktnoRange}
    {ids : List PktId} {w : W} (hfirst : info.ranges.head? = some first)
    (hpn : ∀ w id ids i, pktNum (ack w id ids) i = pktNum w i)
    (hlargest : ∀ w id ids, largestSent (ack w id ids) = largestSent w)
    (hsorted : ids.Pairwise fun a b => pktNum w a < pktNum w b)
    (hsent : ∀ id ∈ ids, pktNum w id ≤ first.high → pktNum w id ≤ largestSent w)
    (hranges : ∀ id ∈ ids, seekRange (pktNum w id) ranges =
      seekRange (pktNum w id) info.ranges.reverse) :
    walkPackets pktNum largestSent fail ack first.high ranges ids w =
      ackEach ack (fun id => info.reaches (pktNum w id)) ids w := by
  induction ids generalizing ranges w with
  | nil => rfl
  | cons id ids ih =>
      obtain ⟨hlt, hsorted'⟩ := List.pairwise_cons.1 hsorted
      have hne : info.ranges.reverse ≠ [] := by
        rw [Ne, List.reverse_eq_nil_iff]
        rintro habs
        rw [habs] at hfirst
        cases hfirst
      rw [walkPackets]
      by_cases hlarge : first.high < pktNum w id
      · -- numbers grow along the list, so nothing that follows is reached
        rw [if_pos hlarge, ackEach_of_forall_not]
        intro i hi
        have hi' : first.high < pktNum w i := by
          rcases List.mem_cons.1 hi with rfl | hi
          · exact hlarge
          · exact hlarge.trans (hlt i hi)
        cases hseek : seekRange (pktNum w i) info.ranges.reverse with
        | nil => exact absurd hseek (seekRange_ne_nil hne)
        | cons r rs =>
            rw [← Bool.not_eq_true, AckInfo.reaches_of_seekRange hfirst hseek]
            omega
      · rw [if_neg hlarge, if_neg (not_lt.2 (hsent id List.mem_cons_self (not_lt.1 hlarge))), ackEach]
        have hhere := hranges id List.mem_cons_self
        have hnext : ∀ i ∈ ids, seekRange (pktNum w i) (seekRange (pktNum w id) ranges) =
            seekRange (pktNum w i) info.ranges.reverse := fun i hi => by
          rw [seekRange_seekRange (hlt i hi).le, hranges i (List.mem_cons_of_mem _ hi)]
        cases hseek : seekRange (pktNum w id) ranges with
        | nil => exact absurd (hhere.symm.trans hseek) (seekRange_ne_nil hne)
        | cons r rs =>
            have hself := AckInfo.reaches_of_seekRange hfirst (hhere.symm.trans hseek)
            rw [hseek] at hnext
            simp only
            by_cases hlow : r.low ≤ pktNum w id
            · rw [if_pos hlow, if_pos (hself.2 ⟨not_lt.1 hlarge, hlow⟩), ih]
              · simp only [hpn]
              · simpa only [hpn] using hsorted'
              · intro i hi
                rw [hpn, hlargest]
                exact hsent i (List.mem_cons_of_mem _ hi)
              · intro i hi
                rw [hpn]
                exact hnext i hi
            · rw [if_neg hlow, if_neg fun h => hlow (hself.1 h).2]
              exact ih hsorted' (fun i hi => hsent i (List.mem_cons_of_mem _ hi)) hnext

end Walk

theorem ackWalk_eq_walkPackets (frameLargestAck : ℕ) (ranges : List PktnoRange) (ids : List PktId)
    (w : AckWalk) :
    ackWalk frameLargestAck ranges ids w =
      walkPackets (fun w id => (w.sndq.pkts id).pktNum) (fun w => w.sndq.largestSent)
        (fun w => { w with err := some .proto }) (fun w id _ => w.ackPacket id) frameLargestAck ranges
        ids w := by
  induction ids generalizing ranges w with
  | nil => rfl
  | cons id ids ih =>
      rw [ackWalk, walkPackets]
      cases seekRange (w.sndq.pkts id).pktNum ranges <;> simp only [ih]

theorem ackEach_eq_foldl {W : Type} (p : PktId → Bool) (f : W → PktId → W) (ids : List PktId) (w : W) :
    ackEach (fun w id _ => f w id) p ids w = (ids.filter p).foldl f w := by
  induction ids generalizing w with
  | nil => rfl
  | cons id ids ih =>
      rw [ackEach, ih, List.filter_cons]
      split_ifs <;> rfl

/-! ## No packet above the largest one sent -/

/-- No packet of the list is numbered above `ctl_largest_sent`. -/
def SentLe (s : SendQueue) : Prop :=
  ∀ id ∈ s.lists .unackedPackets, (s.pkts id).pktNum ≤ s.largestSent

theorem SentLe.of_later {s s' : SendQueue} (h : SentLe s)
    (hsub : ∀ id ∈ s'.lists .unackedPackets, id ∈ s.lists .unackedPackets)
    (hpn : ∀ id ∈ s.lists .unackedPackets, (s'.pkts id).pktNum = (s.pkts id).pktNum)
    (hsent : s'.largestSent = s.largestSent) : SentLe s' := by
  intro id hid
  rw [hpn id (hsub id hid), hsent]
  exact h id (hsub id hid)

theorem LifeStep.sentLe {e : ℕ} {acks : ℕ → Prop} {copied forgotten : PktId → Prop} {s s' : SendQueue}
    (hstep : LifeStep e acks copied forgotten s s') (hq : QueueInv e s) (h : SentLe s) : SentLe s' := by
  cases hstep with
  | move lists pkts hwait hunacked hlife =>
      refine h.of_later (fun id hid => hunacked ▸ hid) (fun id _ => ?_) rfl
      exact (congrArg PacketOut.pktNum (hlife id) :)
  | number id now hid =>
      refine h.of_later (fun _ hid => hid) (fun id' hid' => ?_) rfl
      have hne : id' ≠ id := by
        rintro rfl
        exact hq.apart id' hid' hid
      exact congrArg PacketOut.pktNum (SendQueue.modify_pkts_of_ne s _ hne)
  | send id srtt now hid =>
      have hsent : (transmit s id srtt now).largestSent = max s.largestSent s.packetNumber := by
        rw [transmit_eq]
      intro id' hid'
      rw [hsent]
      by_cases hne : id' = id
      · rw [hne, transmit_pkts_self, (sentPacket_marks s id now).2]
        exact le_max_right _ _
      · rw [transmit_pkts_of_ne s srtt now hne]
        obtain ⟨hmem, -⟩ := (mem_transmit.1 hid').resolve_right fun habs => hne habs.2.1
        exact (h id' hmem).trans (le_max_left _ _)
  | insert p po hp horigin hacked hsound =>
      refine h.of_later (fun id hid => ?_) (fun id hid => ?_) rfl
      · rcases (SendQueue.mem_insertNew po).1 hid with hid | ⟨habs, -⟩
        · exact hid
        · exact absurd habs.symm hp
      · rw [SendQueue.insertNew_pkts_of_ne s p po (hq.fresh _ id hid).ne]
  | fill p id po hp hid horigin hacked hsound =>
      refine h.of_later (fun _ hid => hid) (fun id' hid' => ?_) rfl
      have hne : id' ≠ id := by
        rintro rfl
        exact hq.apart id' hid' ⟨p, Place.ne_unacked hp, hid⟩
      rw [SendQueue.set_pkts_of_ne s po hne]
  | repair p src copy pkts hp hsrc hcopied hcopy hnew hlater hacked hlife =>
      refine h.of_later (fun id hid => ?_) (fun id hid => ?_) rfl
      · simp only [Function.update_of_ne hp.symm] at hid
        exact hid
      · exact (hlater id (hq.fresh _ id hid).ne).pktNum
  | settle _ root hw hroot =>
      refine h.of_later (fun id hid => (hw.lists _).subset hid) (fun id _ => (hw.later id).pktNum) ?_
      exact (congrArg SendQueue.largestSent hw.eq :)
  | space | record => exact h
  | drop streamId hforgotten =>
      refine h.of_later (fun id hid => ?_) (fun id _ =>
        (dropStreamFramePackets_later s streamId id).1.pktNum) rfl
      simp only [dropStreamFramePackets, Place.dropped, if_true] at hid
      exact List.mem_of_mem_filter hid
  | shoot id horigin hforgotten =>
      exact h.of_later (fun _ hid => List.mem_of_mem_filter hid) (fun _ _ => rfl) rfl

theorem LifeSteps.sentLe {e : ℕ} {acks : ℕ → Prop} {copied forgotten : PktId → Prop}
    {s s' : SendQueue} (hsteps : LifeSteps e acks copied forgotten s s') (hq : QueueInv e s)
    (h : SentLe s) : SentLe s' := by
  induction hsteps with
  | refl => exact h
  | tail hsteps hstep ih => exact hstep.sentLe (LifeSteps.inv hsteps hq) ih

theorem run_sentLe (evs : List SendEvent) (hwf : ∀ ev ∈ evs, ev.Wf) :
    SentLe (SendQueue.run {} evs) := by
  induction evs using List.reverseRecOn with
  | nil => exact fun _ hid => by cases hid
  | append_singleton evs ev ih =>
      have hevs : ∀ ev' ∈ evs, ev'.Wf := fun ev' hev' => hwf ev' (List.mem_append_left _ hev')
      obtain ⟨hq, hc⟩ := run_inv 0 evs hevs
      rw [SendQueue.run_append]
      exact (step_life hq hc (hwf ev (by simp))).sentLe hq (ih hevs)

/-! ## The walk in a run -/

/-- The packets that an ACK frame acknowledges in its walk. -/
def SendQueue.reached (s : SendQueue) (info : AckInfo) : List PktId :=
  (s.lists .unackedPackets).filter fun id => info.reaches (s.pkts id).pktNum

/-- The first part of `rqc_send_ctl_on_ack_received`: the ring, then the packets that are reached. -/
theorem ackProcess_eq {s : SendQueue} (info : AckInfo)
    (hsorted : (s.lists .unackedPackets).Pairwise fun a b => (s.pkts a).pktNum < (s.pkts b).pktNum)
    (hsent : ∀ id ∈ s.lists .unackedPackets, ∀ first, info.ranges.head? = some first →
      (s.pkts id).pktNum ≤ first.high → (s.pkts id).pktNum ≤ s.largestSent) :
    ackProcess s info = (s.reached info).foldl AckWalk.ackPacket (ackSentOnAck s info) := by
  have hpkts : (ackSentOnAck s info).sndq.pkts = s.pkts := (ackSentOnAck_fields info).2.1
  have hlargest : (ackSentOnAck s info).sndq.largestSent = s.largestSent := by
    unfold ackSentOnAck
    split <;> rfl
  unfold ackProcess SendQueue.reached
  cases hfirst : info.ranges.head? with
  | none =>
      have hnil := List.head?_eq_none_iff.1 hfirst
      have hring : ackSentRecordOnAck [] s.ackSentRecord.ackSent = none := by
        cases s.ackSentRecord.ackSent <;> rfl
      have hreach : ∀ n, info.reaches n = false := fun n => by rw [AckInfo.reaches, hfirst]
      simp only [ackSentOnAck, hnil, hring, hreach, List.filter_false, List.foldl_nil]
  | some first =>
      simp only
      rw [ackWalk_eq_walkPackets, walkPackets_eq _ hfirst, ackEach_eq_foldl]
      · simp only [hpkts]
      · exact fun w id _ => pktNum_ackPacket w id
      · exact fun w id _ => largestSent_ackPacket w id
      · simpa only [hpkts] using hsorted
      · simp only [hpkts, hlargest]
        exact fun id hid => hsent id hid first hfirst
      · exact fun _ _ => rfl

theorem foldl_hasAcked (ids : List PktId) (w : AckWalk) :
    (ids.foldl AckWalk.ackPacket w).hasAcked = (w.hasAcked || !ids.isEmpty) := by
  induction ids generalizing w with
  | nil => simp
  | cons id ids ih => simp [ih, AckWalk.ackPacket]

theorem foldl_err (ids : List PktId) (w : AckWalk) : (ids.foldl AckWalk.ackPacket w).err = w.err := by
  induction ids generalizing w with
  | nil => rfl
  | cons id ids ih => exact ih _

/-- `need_del_record` says whether `ctl_largest_acked_ack` was raised. -/
theorem foldl_needDelRecord (ids : List PktId) {w : AckWalk} {largest : ℕ}
    (hle : largest ≤ w.sndq.largestAckedAck)
    (hneed : w.needDelRecord = true ↔ largest < w.sndq.largestAckedAck) :
    largest ≤ (ids.foldl AckWalk.ackPacket w).sndq.largestAckedAck ∧
      ((ids.foldl AckWalk.ackPacket w).needDelRecord = true ↔
        largest < (ids.foldl AckWalk.ackPacket w).sndq.largestAckedAck) := by
  induction ids generalizing w with
  | nil => exact ⟨hle, hneed⟩
  | cons id ids ih =>
      have hraise : (w.ackPacket id).sndq.largestAckedAck =
          max w.sndq.largestAckedAck (w.sndq.pkts id).poLargestAck :=
        (congrArg SendQueue.largestAckedAck (ackPacket_space w id) :)
      rw [List.foldl_cons]
      refine ih (hraise ▸ hle.trans (le_max_left _ _)) ?_
      rw [hraise, lt_max_iff]
      simp only [AckWalk.ackPacket, Bool.or_eq_true, decide_eq_true_eq, hneed]
      omega

/-- The newest sampled ACK frame that the ACK frame covers is beyond `ctl_largest_acked_ack`. -/
def SendQueue.RingRaises (s : SendQueue) (info : AckInfo) : Prop :=
  ∃ largest kept, ackSentRecordOnAck info.ranges s.ackSentRecord.ackSent = some (largest, kept) ∧
    s.largestAckedAck < largest

theorem ackSentOnAck_largestAckedAck (s : SendQueue) (info : AckInfo) :
    s.largestAckedAck ≤ (ackSentOnAck s info).sndq.largestAckedAck ∧
      ((ackSentOnAck s info).needDelRecord = true ↔
        s.largestAckedAck < (ackSentOnAck s info).sndq.largestAckedAck) ∧
      (s.largestAckedAck < (ackSentOnAck s info).sndq.largestAckedAck ↔ s.RingRaises info) := by
  unfold ackSentOnAck SendQueue.RingRaises
  split
  · rename_i hring
    simp [hring]
  · rename_i largest kept hring
    simp [hring]

/-- What one ACK frame does, for a list in the order of packet numbers. -/
structure AckEffect (s : SendQueue) (info : AckInfo) (s' : SendQueue) : Prop where
  le : s.largestAckedAck ≤ s'.largestAckedAck
  /-- Nothing is acknowledged: the function returns early. -/
  early : s.reached info = [] → s'.recvRecord = s.recvRecord ∧
    (s.largestAckedAck < s'.largestAckedAck ↔ s.RingRaises info)
  full : s.reached info ≠ [] → s'.recvRecord =
    if s.largestAckedAck < s'.largestAckedAck then recvRecordDel s.recvRecord (s'.largestAckedAck + 1)
    else s.recvRecord

theorem onAckReceived_effect {s : SendQueue} (info : AckInfo) (th : LossThresholds)
    (hsorted : (s.lists .unackedPackets).Pairwise fun a b => (s.pkts a).pktNum < (s.pkts b).pktNum)
    (hsent : SentLe s) : AckEffect s info (onAckReceived s info th).1 := by
  have hwalk := ackProcess_eq info hsorted fun id hid _ _ _ => hsent id hid
  obtain ⟨hle, hneed, hraises⟩ := ackSentOnAck_largestAckedAck s info
  have hring : (ackSentOnAck s info).hasAcked = false ∧ (ackSentOnAck s info).err = none := by
    unfold ackSentOnAck
    split <;> exact ⟨rfl, rfl⟩
  obtain ⟨hle', hneed'⟩ := foldl_needDelRecord (s.reached info) hle hneed
  have hacked := foldl_hasAcked (s.reached info) (ackSentOnAck s info)
  have herr := foldl_err (s.reached info) (ackSentOnAck s info)
  have hrecord := ackProcess_recvRecord s info
  unfold onAckReceived
  rw [← hwalk] at hle' hneed' hacked herr
  rw [hring.1, Bool.false_or] at hacked
  rw [hring.2] at herr
  simp only [herr, hacked, Option.isSome_none, Bool.false_eq_true, false_or]
  have hlost := trimState_of_space (detectLost_space (ackProcess s info).sndq th)
  have hlostRecord : (detectLost (ackProcess s info).sndq th).recvRecord = s.recvRecord :=
    (congrArg Prod.fst hlost :).trans hrecord
  have hlostLargest : (detectLost (ackProcess s info).sndq th).largestAckedAck =
      (ackProcess s info).sndq.largestAckedAck := (congrArg Prod.snd hlost :)
  by_cases hnil : s.reached info = []
  · have hstart : ackProcess s info = ackSentOnAck s info := by rw [hwalk, hnil, List.foldl_nil]
    rw [if_pos (by simp [hnil])]
    refine ⟨hle', fun _ => ⟨hrecord, ?_⟩, fun hne => absurd hnil hne⟩
    rw [hstart]
    exact hraises
  · rw [if_neg (by simpa using hnil)]
    by_cases hdel : (ackProcess s info).needDelRecord = true
    · rw [if_pos hdel]
      simp only [hlostRecord, hlostLargest]
      refine ⟨hle', fun habs => absurd habs hnil, fun _ => ?_⟩
      rw [if_pos (hneed'.1 hdel)]
    · rw [if_neg hdel]
      refine ⟨hlostLargest ▸ hle', fun habs => absurd habs hnil, fun _ => ?_⟩
      rw [hlostLargest, if_neg fun habs => hdel (hneed'.2 habs)]
      exact hlostRecord

/-! ## Trimming the receive record -/

theorem recvRecordDel_rrDelFrom {record : RecvRecord} {d : ℕ} (h : record.rrDelFrom ≤ d) :
    (recvRecordDel record d).rrDelFrom = d := by
  rw [recvRecordDel, if_neg (not_lt.2 h)]

theorem recvRecordDel_low {record : RecvRecord} {d : ℕ} (h : record.rrDelFrom ≤ d) :
    ∀ r ∈ (recvRecordDel record d).ranges, d ≤ r.low := by
  rw [recvRecordDel, if_neg (not_lt.2 h)]
  intro r hr
  obtain ⟨r', hr', rfl⟩ := List.mem_map.1 hr
  split_ifs with hlow
  · exact le_rfl
  · exact not_lt.1 hlow

/-- The record was never trimmed beyond `ctl_largest_acked_ack`. -/
def TrimInv (s : SendQueue) : Prop := s.recvRecord.rrDelFrom ≤ s.largestAckedAck + 1

theorem recvRecordAdd_rrDelFrom (record : RecvRecord) (n : ℕ) :
    (recvRecordAdd record n).1.rrDelFrom = record.rrDelFrom := by
  unfold recvRecordAdd
  split <;> rfl

theorem AckEffect.trimInv {s s' : SendQueue} {info : AckInfo} (h : AckEffect s info s')
    (hinv : TrimInv s) : TrimInv s' := by
  have hle := h.le
  unfold TrimInv at hinv ⊢
  by_cases hnil : s.reached info = []
  · rw [(h.early hnil).1]
    omega
  · rw [h.full hnil]
    split_ifs
    · rw [recvRecordDel_rrDelFrom (by omega)]
    · omega

theorem run_trimInv (evs : List SendEvent) (hwf : ∀ ev ∈ evs, ev.Wf) : TrimInv (SendQueue.run {} evs) := by
  induction evs using List.reverseRecOn with
  | nil => exact Nat.zero_le _
  | append_singleton evs ev ih =>
      have hevs : ∀ ev' ∈ evs, ev'.Wf := fun ev' hev' => hwf ev' (List.mem_append_left _ hev')
      have ih := ih hevs
      rw [SendQueue.run_append]
      rcases step_trimState (SendQueue.run {} evs) ev with heq | ⟨info, th, rfl⟩ | ⟨n, rfl⟩
      · obtain ⟨hrecord, hlargest⟩ := Prod.mk.inj heq
        unfold TrimInv
        rwa [hrecord, hlargest]
      · exact (onAckReceived_effect info th (run_inv 0 evs hevs).1.sorted (run_sentLe evs hevs)).trimInv ih
      · unfold TrimInv at ih ⊢
        show (recvRecordAdd _ n).1.rrDelFrom ≤ _
        rw [recvRecordAdd_rrDelFrom]
        exact ih

/-- If `ctl_largest_acked_ack` was raised, the record begins right above it. -/
def SendQueue.Trims (s s' : SendQueue) : Prop :=
  s.largestAckedAck < s'.largestAckedAck →
    s'.recvRecord.rrDelFrom = s'.largestAckedAck + 1 ∧
      ∀ r ∈ s'.recvRecord.ranges, ∀ n, r.low ≤ n → n ≤ r.high → s'.largestAckedAck + 1 ≤ n

/-- **The record is trimmed with the evidence**, in every run, unless the ring raises
`ctl_largest_acked_ack` and the walk acknowledges nothing. -/
theorem trims_iff (evs : List SendEvent) (hwf : ∀ ev ∈ evs, ev.Wf) (info : AckInfo)
    (th : LossThresholds) :
    (SendQueue.run {} evs).Trims (onAckReceived (SendQueue.run {} evs) info th).1 ↔
      ¬ (SendQueue.run {} evs).RingRaises info ∨
        ∃ id ∈ (SendQueue.run {} evs).lists .unackedPackets,
          info.reaches ((SendQueue.run {} evs).pkts id).pktNum = true := by
  have hinv := run_trimInv evs hwf
  have heffect := onAckReceived_effect info th (run_inv 0 evs hwf).1.sorted
    (run_sentLe evs hwf)
  generalize SendQueue.run {} evs = s at hinv heffect ⊢
  generalize (onAckReceived s info th).1 = s' at heffect ⊢
  have hreached : (∃ id ∈ s.lists .unackedPackets, info.reaches (s.pkts id).pktNum = true) ↔
      s.reached info ≠ [] := by
    rw [SendQueue.reached, Ne, List.filter_eq_nil_iff]
    simp
  rw [hreached]
  unfold TrimInv at hinv
  by_cases hnil : s.reached info = []
  · obtain ⟨hrecord, hraises⟩ := heffect.early hnil
    rw [← hraises]
    simp only [hnil, ne_eq, not_true_eq_false, or_false]
    constructor
    · intro htrims hlt
      -- the record still begins where it did
      have hdel := (htrims hlt).1
      rw [hrecord] at hdel
      omega
    · exact fun hno hlt => absurd hlt hno
  · refine ⟨fun _ => .inr hnil, fun _ hlt => ?_⟩
    have hrecord := heffect.full hnil
    rw [if_pos hlt] at hrecord
    rw [hrecord]
    refine ⟨recvRecordDel_rrDelFrom (by omega), fun r hr n hlow _ => ?_⟩
    exact (recvRecordDel_low (by omega) r hr).trans hlow

/-- A packet with data and an ACK frame up to 5 goes out. -/
def trimRun : List SendEvent :=
  [.recvPacket 5, .stream false demoParams 0 0 false [1, 2, 3], .ack demoParams 0 0,
    .schedule .normal, .send .normal .sent 100 1000]

theorem trims_trimRun :
    ((SendQueue.run {} trimRun).Trims
        (onAckReceived (SendQueue.run {} trimRun) ⟨[⟨0, 0⟩], 0⟩ ⟨0, none⟩).1 ↔
      ¬ (SendQueue.run {} trimRun).RingRaises ⟨[⟨0, 0⟩], 0⟩ ∨
        ∃ id ∈ (SendQueue.run {} trimRun).lists .unackedPackets,
          AckInfo.reaches ⟨[⟨0, 0⟩], 0⟩ ((SendQueue.run {} trimRun).pkts id).pktNum = true) ∧
      0 ∈ (SendQueue.run {} trimRun).lists .unackedPackets ∧
      AckInfo.reaches ⟨[⟨0, 0⟩], 0⟩ ((SendQueue.run {} trimRun).pkts 0).pktNum = true :=
  ⟨trims_iff trimRun (by simp [trimRun, SendEvent.Wf]) _ _, by decide +kernel, by decide +kernel⟩

/-- A packet with nothing but an ACK frame up to 5 goes out. -/
def ackOnlyRun : List SendEvent :=
  [.recvPacket 5, .ack demoParams 0 0, .schedule .normalHighPri, .send .normalHighPri .sent 100 1000]

/-- The acknowledgement of this packet raises `ctl_largest_acked_ack` and leaves the record alone. -/
theorem not_trims_ackOnlyRun :
    (∀ ev ∈ ackOnlyRun, ev.Wf) ∧
      ¬ (SendQueue.run {} ackOnlyRun).Trims
        (onAckReceived (SendQueue.run {} ackOnlyRun) ⟨[⟨0, 0⟩], 0⟩ ⟨0, none⟩).1 := by
  refine ⟨by simp [ackOnlyRun, SendEvent.Wf], fun h => ?_⟩
  have hraised : (SendQueue.run {} ackOnlyRun).largestAckedAck <
      (onAckReceived (SendQueue.run {} ackOnlyRun) ⟨[⟨0, 0⟩], 0⟩ ⟨0, none⟩).1.largestAckedAck := by
    decide +kernel
  exact absurd (h hraised).1 (by decide +kernel)

end Rquic

import Rquic.SendQueue.Life

set_option autoImplicit false

/-!
# The loops over the unacknowledged packets

What `rqc_send_ctl_on_ack_received`, `rqc_send_ctl_detect_lost` and
`rqc_path_send_one_or_two_ack_elicit_pkts` do to the packets they walk over, in steps of `LifeStep`.

* `Within.maybeRemoveUnacked`, `Within.onPacketAcked`: an acknowledged family.
* `WalkStep`, `Ahead`: one packet of a loop, and the packets that are still to come. Copies stand
  behind their original, so a packet that is still to come is not taken out of the list.
* `ackWalk_life`, `detectLostWalk_life`, `probeWalk_life`: the loops, with the packets that they may
  copy read off the state at their start.
* **`ackWalk_complete`**: a well-formed ACK frame acknowledges every packet that it covers.
-/

namespace Rquic

theorem poAcked_of_life {po po' : PacketOut} (h : po'.life = po.life) : po'.poAcked = po.poAcked :=
  (congrArg PacketOut.poAcked h :)

theorem life_modify (s : SendQueue) (id id' : PktId) {f : PacketOut → PacketOut}
    (hf : ∀ po, (f po).life = po.life) : ((s.modify id f).pkts id').life = (s.pkts id').life := by
  by_cases h : id' = id
  · rw [h, SendQueue.modify_pkts_self, hf]
  · rw [SendQueue.modify_pkts_of_ne s f h]

/-! ## Families that are acknowledged -/

section Settling

variable {e : ℕ} {acks : ℕ → Prop} {copied forgotten : PktId → Prop} {s s' : SendQueue}

theorem QueueInv.root_root (h : QueueInv e s) {id : PktId} (hid : id < s.nextId) :
    s.root (s.root id) = s.root id := by
  cases ho : (s.pkts id).poOrigin with
  | none => rw [SendQueue.root, SendQueue.root, ho, Option.getD_none, ho, Option.getD_none]
  | some origin =>
      have horig := (h.family id hid origin ho).original
      rw [SendQueue.root, SendQueue.root, ho, Option.getD_some, horig, Option.getD_none]

@[simp] theorem decreaseInflight_poAcked (po : PacketOut) :
    po.decreaseInflight.poAcked = po.poAcked := by
  unfold PacketOut.decreaseInflight
  split_ifs <;> rfl

theorem Within.decreaseInflight {root id : PktId} {acked : Prop} (hroot : s.root id = root) :
    Within root acked s (s.modify id PacketOut.decreaseInflight) :=
  .modify hroot (PacketOut.later_decreaseInflight _) fun hack =>
    .inl ((decreaseInflight_poAcked _).symm.trans hack)

theorem Within.removeUnacked {root id : PktId} {acked : Prop} (hroot : s.root id = root) :
    Within root acked s (removeUnacked s id) :=
  (Within.unlink hroot).trans (Within.mark (f := PacketOut.leaveUnackList) hroot fun _ => rfl)

theorem Within.leaveList {root id : PktId} {acked : Prop} (path : Bool) (hroot : s.root id = root) :
    Within root acked s (leaveList s id path) := by
  unfold Rquic.leaveList
  split_ifs
  · exact (Within.unlink hroot).trans (Within.mark (f := PacketOut.leavePathBuf) hroot fun _ => rfl)
  · exact Within.removeUnacked hroot

theorem Within.root_eq {root id : PktId} {acked : Prop} (h : Within root acked s s') :
    s'.root id = s.root id := SendQueue.root_of_later (h.later id)

theorem Within.releaseOrigin {root : PktId} {acked : Prop} (hroot : s.root root = root) :
    Within root acked s (releaseOrigin s root) := by
  have hrel : Within root acked s (s.modify root PacketOut.release) :=
    Within.mark hroot fun _ => rfl
  unfold Rquic.releaseOrigin
  split_ifs
  · have hdec : Within root acked (s.modify root PacketOut.release)
        ((s.modify root PacketOut.release).modify root PacketOut.decreaseInflight) :=
      Within.decreaseInflight (hrel.root_eq.trans hroot)
    refine (hrel.trans hdec).trans (Within.removeUnacked ?_)
    exact (hrel.trans hdec).root_eq.trans hroot
  · exact hrel

theorem Within.maybeRemoveUnacked {id : PktId} {acked : Prop} (path : Bool)
    (hroot : s.root (s.root id) = s.root id) :
    Within (s.root id) acked s (maybeRemoveUnacked s id path) := by
  have hleave : Within (s.root id) acked s (Rquic.leaveList s id path) := Within.leaveList path rfl
  unfold Rquic.maybeRemoveUnacked
  split
  · split_ifs
    · exact Within.refl s
    · exact hleave
  · rename_i origin ho
    have horigin : s.root id = origin := by rw [SendQueue.root, ho, Option.getD_some]
    rw [horigin] at hleave hroot ⊢
    exact hleave.trans (Within.releaseOrigin (hleave.root_eq.trans hroot))

theorem later_onAcked (po : PacketOut) : po.Later po.onAcked :=
  (PacketOut.later_decreaseInflight po).trans ⟨rfl, rfl, rfl, fun h => h, fun _ => rfl⟩

theorem Within.onPacketAcked {id : PktId} {acked : Prop} (hacked : acked)
    (hroot : s.root (s.root id) = s.root id) : Within (s.root id) acked s (onPacketAcked s id) := by
  have hself : Within (s.root id) acked s (s.modify id PacketOut.onAcked) :=
    Within.modify rfl (later_onAcked _) fun _ => .inr hacked
  unfold Rquic.onPacketAcked
  split
  · exact hself
  · rename_i origin ho
    have horigin : s.root id = origin := by rw [SendQueue.root, ho, Option.getD_some]
    rw [horigin] at hself hroot ⊢
    exact hself.trans (Within.modify (hself.root_eq.trans hroot)
      ⟨rfl, rfl, rfl, fun h => h, fun _ => rfl⟩ fun _ => .inr hacked)

theorem onPacketAcked_acked (s : SendQueue) (id : PktId) :
    ((onPacketAcked s id).pkts id).poAcked = true ∧
      ((onPacketAcked s id).pkts (s.root id)).poAcked = true := by
  have hself : ((s.modify id PacketOut.onAcked).pkts id).poAcked = true := by
    rw [SendQueue.modify_pkts_self]
    rfl
  unfold onPacketAcked
  split
  · rename_i ho
    refine ⟨hself, ?_⟩
    rw [SendQueue.root, ho, Option.getD_none]
    exact hself
  · rename_i origin ho
    rw [SendQueue.root, ho, Option.getD_some]
    constructor
    · by_cases hid : id = origin
      · rw [hid, SendQueue.modify_pkts_self]
        rfl
      · rw [SendQueue.modify_pkts_of_ne _ _ hid]
        exact hself
    · rw [SendQueue.modify_pkts_self]
      rfl

theorem mem_maybeRemoveUnacked {id id' : PktId} {path : Bool} {p : Place} (hid : id' ≠ id)
    (hroot : id' ≠ s.root id) (hmem : id' ∈ s.lists p) :
    id' ∈ (maybeRemoveUnacked s id path).lists p := by
  have hunlink : ∀ {s : SendQueue} {id}, id' ≠ id → id' ∈ s.lists p → id' ∈ (s.unlink id).lists p :=
    fun hne h => List.mem_filter.2 ⟨h, decide_eq_true hne⟩
  have hleave : id' ∈ (leaveList s id path).lists p := by
    unfold leaveList
    split_ifs
    · exact hunlink hid hmem
    · exact hunlink hid hmem
  unfold maybeRemoveUnacked
  split
  · split_ifs
    · exact hmem
    · exact hleave
  · rename_i origin ho
    rw [SendQueue.root, ho, Option.getD_some] at hroot
    unfold releaseOrigin
    split_ifs
    · exact hunlink hroot hleave
    · exact hleave

theorem onPacketAcked_lists (s : SendQueue) (id : PktId) : (onPacketAcked s id).lists = s.lists := by
  unfold onPacketAcked
  split <;> rfl

/-- A packet behind another one in the list of unacknowledged packets is not its original. -/
theorem QueueInv.ne_root (h : QueueInv e s) {id id' : PktId} (hid : id ∈ s.lists .unackedPackets)
    (hid' : id' ∈ s.lists .unackedPackets) (hlt : (s.pkts id).pktNum < (s.pkts id').pktNum) :
    id' ≠ id ∧ id' ≠ s.root id := by
  have hne : id' ≠ id := by
    rintro rfl
    exact lt_irrefl _ hlt
  refine ⟨hne, ?_⟩
  cases ho : (s.pkts id).poOrigin with
  | none => rwa [SendQueue.root, ho, Option.getD_none]
  | some origin =>
      rw [SendQueue.root, ho, Option.getD_some]
      rintro rfl
      exact lt_asymm hlt (h.order id hid id' hid' ho)

/-- What a loop over the unacknowledged packets does with the packet `id`. -/
structure WalkStep (e : ℕ) (acks : ℕ → Prop) (copied forgotten : PktId → Prop) (id : PktId)
    (s s' : SendQueue) : Prop where
  steps : LifeSteps e acks copied forgotten s s'
  later : ∀ id' < s.nextId, (s.pkts id').Later (s'.pkts id')
  keep : ∀ id' ∈ s.lists .unackedPackets, (s.pkts id).pktNum < (s.pkts id').pktNum →
    id' ∈ s'.lists .unackedPackets
  subset : ∀ id' ∈ s'.lists .unackedPackets, id' ∈ s.lists .unackedPackets
  nextId_le : s.nextId ≤ s'.nextId

theorem WalkStep.refl (s : SendQueue) (id : PktId) : WalkStep e acks copied forgotten id s s :=
  ⟨.refl, fun _ _ => .refl _, fun _ h _ => h, fun _ h => h, le_rfl⟩

/-- The packets of a loop that are still to come. -/
structure Ahead (s : SendQueue) (ids : List PktId) : Prop where
  mem : ∀ id ∈ ids, id ∈ s.lists .unackedPackets
  sorted : ids.Pairwise fun a b => (s.pkts a).pktNum < (s.pkts b).pktNum

theorem QueueInv.ahead (h : QueueInv e s) : Ahead s (s.lists .unackedPackets) :=
  ⟨fun _ hid => hid, h.sorted⟩

theorem WalkStep.ahead {id : PktId} {ids : List PktId} (hfresh : s.Fresh)
    (hstep : WalkStep e acks copied forgotten id s s') (h : Ahead s (id :: ids)) : Ahead s' ids := by
  obtain ⟨hlt, hsorted⟩ := List.pairwise_cons.1 h.sorted
  have hmem : ∀ id' ∈ ids, id' ∈ s.lists .unackedPackets :=
    fun id' hid' => h.mem id' (List.mem_cons_of_mem _ hid')
  refine ⟨fun id' hid' => hstep.keep id' (hmem id' hid') (hlt id' hid'),
    hsorted.imp_of_mem fun ha hb hab => ?_⟩
  rwa [(hstep.later _ (hfresh _ _ (hmem _ ha))).pktNum, (hstep.later _ (hfresh _ _ (hmem _ hb))).pktNum]

/-- Whether the packet or its original is acknowledged. -/
def SendQueue.Settled (s : SendQueue) (id : PktId) : Prop :=
  (s.pkts id).poAcked = true ∨ originAcked s id = true

theorem originAcked_eq_true {id : PktId} : originAcked s id = true ↔
    ∃ origin, (s.pkts id).poOrigin = some origin ∧ (s.pkts origin).poAcked = true := by
  unfold originAcked
  split
  · rename_i ho
    simp [ho]
  · rename_i origin ho
    simp [ho]

theorem QueueInv.settled_later (h : QueueInv e s) {id : PktId} (hid : id < s.nextId)
    (hlater : ∀ id' < s.nextId, (s.pkts id').Later (s'.pkts id')) (hset : s.Settled id) :
    s'.Settled id := by
  rcases hset with hack | hack
  · exact .inl ((hlater id hid).poAcked hack)
  · obtain ⟨origin, ho, hack⟩ := originAcked_eq_true.1 hack
    refine .inr (originAcked_eq_true.2 ⟨origin, (hlater id hid).poOrigin.trans ho, ?_⟩)
    exact (hlater origin (h.family id hid origin ho).lt).poAcked hack

theorem indirectlyAckOrDropPo_eq_some {id : PktId} : indirectlyAckOrDropPo s id = some s' ↔
    s.Settled id ∧
      maybeRemoveUnacked (if originAcked s id then onPacketAcked s id else s) id true = s' := by
  unfold SendQueue.Settled indirectlyAckOrDropPo
  rw [Option.ite_none_right_eq_some, Option.some.injEq]

theorem indirectlyAckOrDropPo_eq_none {id : PktId} :
    indirectlyAckOrDropPo s id = none ↔ ¬ s.Settled id := by
  unfold SendQueue.Settled indirectlyAckOrDropPo
  rw [ite_eq_right_iff]
  exact ⟨fun h hset => (nomatch h hset), fun h hset => absurd hset h⟩

theorem root_acked (h : QueueInv e s) {id : PktId} (hid : id < s.nextId) (hset : s.Settled id) :
    (s.pkts (s.root id)).poAcked = true := by
  cases ho : (s.pkts id).poOrigin with
  | none =>
      rw [SendQueue.root, ho, Option.getD_none]
      refine hset.resolve_right fun habs => ?_
      obtain ⟨origin, ho', -⟩ := originAcked_eq_true.1 habs
      rw [ho] at ho'
      cases ho'
  | some origin =>
      rw [SendQueue.root, ho, Option.getD_some]
      rcases hset with hset | hset
      · exact (h.family id hid origin ho).acked hset
      · obtain ⟨origin', ho', hack⟩ := originAcked_eq_true.1 hset
        rw [ho] at ho'
        rwa [Option.some.inj ho']

theorem indirectlyAckOrDropPo_life (h : QueueInv e s) {id : PktId} (hid : id < s.nextId)
    (hs : indirectlyAckOrDropPo s id = some s') :
    LifeStep e acks copied forgotten s s' ∧ (∀ id', (s.pkts id').Later (s'.pkts id')) ∧
      s'.nextId = s.nextId ∧ (∀ p, (s'.lists p).Sublist (s.lists p)) ∧
      ∀ p, ∀ id' ∈ s.lists p, id' ≠ id → id' ≠ s.root id → id' ∈ s'.lists p := by
  have hroot := h.root_root hid
  obtain ⟨hset, rfl⟩ := indirectlyAckOrDropPo_eq_some.1 hs
  have hacked := root_acked h hid hset
  set s₁ := if originAcked s id = true then onPacketAcked s id else s with hs₁
  have hw₁ : Within (s.root id) (s.AckedBy acks (s.root id)) s s₁ := by
    rw [hs₁]
    split_ifs
    · exact Within.onPacketAcked (.inl hacked) hroot
    · exact Within.refl s
  have hlists : s₁.lists = s.lists := by
    rw [hs₁]
    split_ifs
    · exact onPacketAcked_lists s id
    · rfl
  have hroot₁ : s₁.root id = s.root id := hw₁.root_eq
  have hw : Within (s.root id) (s.AckedBy acks (s.root id)) s (maybeRemoveUnacked s₁ id true) := by
    refine hw₁.trans ?_
    rw [← hroot₁]
    refine Within.maybeRemoveUnacked true ?_
    rw [hroot₁, hw₁.root_eq, hroot]
  refine ⟨.settle s _ (s.root id) hw (.inl ((hw.later _).poAcked hacked)), hw.later,
    (congrArg SendQueue.nextId hw.eq :), hw.lists, fun p id' hmem hne hne' => ?_⟩
  refine mem_maybeRemoveUnacked hne (by rwa [hroot₁]) ?_
  rwa [hlists]

theorem indirectlyAckOrDropPo_walk (h : QueueInv e s) {id : PktId}
    (hid : id ∈ s.lists .unackedPackets) (hs : indirectlyAckOrDropPo s id = some s') :
    WalkStep e acks copied forgotten id s s' := by
  obtain ⟨hstep, hlater, hnext, hsub, hkeep⟩ := indirectlyAckOrDropPo_life h (h.fresh _ id hid) hs
  refine ⟨.single hstep, fun id' _ => hlater id', fun id' hid' hlt => ?_, fun id' hid' =>
    (hsub _).subset hid', hnext.ge⟩
  obtain ⟨hne, hne'⟩ := h.ne_root hid hid' hlt
  exact hkeep _ id' hid' hne hne'

/-! ## Acknowledgements -/

theorem ackPacket_walk {w : AckWalk} (h : QueueInv e w.sndq) {id : PktId}
    (hid : id ∈ w.sndq.lists .unackedPackets) (hack : acks (w.sndq.pkts id).pktNum) :
    WalkStep e acks copied forgotten id w.sndq (w.ackPacket id).sndq ∧
      ((w.ackPacket id).sndq.pkts id).poAcked = true ∧
      (w.ackPacket id).sndq.largestAcked =
        (raiseLargest w.sndq (w.sndq.pkts id)).largestAcked := by
  set s := w.sndq with hs
  set s₁ := raiseLargest s (s.pkts id) with hs₁
  have hspace : LifeStep e acks copied forgotten s s₁ := by
    refine .space s _ _ _ (fun _ hi => hi) ?_
    rcases le_total (s.pkts id).poLargestAck s.largestAckedAck with hle | hle
    · exact .inl (max_eq_left hle)
    · exact .inr (.inl ⟨id, hid, hack, max_eq_right hle⟩)
  have h₁ := hspace.inv h
  have hroot : s₁.root (s₁.root id) = s₁.root id := h₁.root_root (h₁.fresh _ id hid)
  have hacked : s₁.AckedBy acks (s₁.root id) := .inr ⟨id, hid, rfl, hack⟩
  set s₂ := s₁.modify id PacketOut.markSpuriousLoss with hs₂
  have hw₂ : Within (s₁.root id) (s₁.AckedBy acks (s₁.root id)) s₁ s₂ := by
    refine Within.mark rfl fun po => ?_
    unfold PacketOut.markSpuriousLoss
    split_ifs <;> rfl
  have hw₃ : Within (s₁.root id) (s₁.AckedBy acks (s₁.root id)) s₁ (onPacketAcked s₂ id) := by
    refine hw₂.trans ?_
    rw [← hw₂.root_eq]
    exact Within.onPacketAcked (by rwa [hw₂.root_eq]) (by rw [hw₂.root_eq, hw₂.root_eq, hroot])
  have hw : Within (s₁.root id) (s₁.AckedBy acks (s₁.root id)) s₁ (w.ackPacket id).sndq := by
    refine hw₃.trans ?_
    rw [← hw₃.root_eq]
    exact Within.maybeRemoveUnacked false (by rw [hw₃.root_eq, hw₃.root_eq, hroot])
  obtain ⟨hself, horig⟩ := onPacketAcked_acked s₂ id
  have hrest : Within ((onPacketAcked s₂ id).root id) (s₁.AckedBy acks (s₁.root id))
      (onPacketAcked s₂ id) (w.ackPacket id).sndq :=
    Within.maybeRemoveUnacked false (by rw [hw₃.root_eq, hw₃.root_eq, hroot])
  rw [hw₂.root_eq] at horig
  refine ⟨⟨(Relation.ReflTransGen.single hspace).tail
    (.settle s₁ _ _ hw (.inl ((hrest.later _).poAcked horig))), fun id' _ => hw.later id',
    fun id' hid' hlt => ?_, fun id' hid' => (hw.lists _).subset hid', (congrArg SendQueue.nextId hw.eq :).ge⟩, (hrest.later id).poAcked hself,
    (congrArg SendQueue.largestAcked hw.eq :)⟩
  obtain ⟨hne, hne'⟩ := h.ne_root hid hid' hlt
  refine mem_maybeRemoveUnacked hne ?_ ?_
  · rwa [hw₃.root_eq]
  · rwa [onPacketAcked_lists]

theorem seekRange_suffix (pktNum : ℕ) (ranges : List PktnoRange) :
    seekRange pktNum ranges <:+ ranges := by
  fun_induction seekRange pktNum ranges with
  | case1 r r' rs hlt ih => exact ih.trans (List.suffix_cons r _)
  | case2 r r' rs hlt => exact List.suffix_refl _
  | case3 rs hrs => exact List.suffix_refl _

/-- The range that the search stops at reaches the packet number, or is the last one. -/
theorem seekRange_high {pktNum : ℕ} {ranges rs : List PktnoRange} {r : PktnoRange}
    (h : seekRange pktNum ranges = r :: rs) : pktNum ≤ r.high ∨ rs = [] := by
  fun_induction seekRange pktNum ranges with
  | case1 r₀ r' rs' hlt ih => exact ih h
  | case2 r₀ r' rs' hlt =>
      obtain ⟨rfl, -⟩ := List.cons.inj h
      exact .inl (not_lt.1 hlt)
  | case3 ranges hrs =>
      subst h
      cases rs with
      | nil => exact .inr rfl
      | cons r' rs => exact absurd rfl (hrs r r' rs)

/-- The search passes only ranges that end below the packet number. -/
theorem mem_seekRange {pktNum : ℕ} {ranges : List PktnoRange} {r : PktnoRange} (hr : r ∈ ranges)
    (hle : pktNum ≤ r.high) : r ∈ seekRange pktNum ranges := by
  fun_induction seekRange pktNum ranges with
  | case1 r₀ r' rs hlt ih =>
      refine ih ((List.mem_cons.1 hr).resolve_left ?_)
      rintro rfl
      exact absurd hle (not_le.2 hlt)
  | case2 r₀ r' rs hlt => exact hr
  | case3 rs hrs => exact hr

/-- The ranges of a well-formed ACK frame, from the largest down. -/
def AckInfo.Ordered (info : AckInfo) : Prop :=
  info.ranges.Pairwise (fun a b => b.high < a.low) ∧ ∀ r ∈ info.ranges, r.low ≤ r.high

theorem AckInfo.Ordered.le_first {info : AckInfo} {first : PktnoRange} {pktNum : ℕ}
    (h : info.Ordered) (hfirst : info.ranges.head? = some first) (hack : info.Acks pktNum) :
    pktNum ≤ first.high := by
  obtain ⟨r, hr, -, hle⟩ := hack
  cases hranges : info.ranges with
  | nil =>
      rw [hranges] at hr
      cases hr
  | cons r₀ rs =>
      obtain ⟨hpair, hlow⟩ := h
      rw [hranges] at hr hfirst hpair hlow
      obtain rfl := Option.some.inj hfirst
      rcases List.mem_cons.1 hr with rfl | hr
      · exact hle
      · have hlt := (List.pairwise_cons.1 hpair).1 r hr
        have hle' := hlow r₀ List.mem_cons_self
        omega

theorem acks_of_seekRange {info : AckInfo} {first r : PktnoRange} {ranges rs : List PktnoRange}
    {pktNum : ℕ} (hfirst : info.ranges.head? = some first) (hsuf : ranges <:+ info.ranges.reverse)
    (hseek : seekRange pktNum ranges = r :: rs) (hlow : r.low ≤ pktNum) (hle : pktNum ≤ first.high) :
    info.Acks pktNum := by
  have hsuf' : r :: rs <:+ info.ranges.reverse := hseek ▸ (seekRange_suffix pktNum ranges).trans hsuf
  have hr : r ∈ info.ranges := List.mem_reverse.1 (hsuf'.subset List.mem_cons_self)
  refine ⟨r, hr, hlow, ?_⟩
  rcases seekRange_high hseek with hhigh | rfl
  · exact hhigh
  · -- the last range of the walk is the first one of the frame
    obtain ⟨pre, hpre⟩ := hsuf'
    have hlast := congrArg List.getLast? hpre
    rw [List.getLast?_concat, List.getLast?_reverse, hfirst] at hlast
    rw [Option.some.inj hlast]
    exact hle

theorem largestAcked_of_raiseLargest {po : PacketOut} {l : ℕ}
    (h : (raiseLargest s po).largestAcked = some l) : s.largestAcked = some l ∨ l ≤ po.pktNum := by
  unfold raiseLargest at h
  cases hold : s.largestAcked with
  | none =>
      rw [hold] at h
      exact .inr (Option.some.inj h).ge
  | some l₀ =>
      rw [hold] at h
      rcases le_total po.pktNum l₀ with hle | hle
      · exact .inl ((congrArg some (max_eq_left hle)).symm.trans h)
      · exact .inr ((max_eq_right hle).symm.trans (Option.some.inj h)).ge

theorem ackWalk_life {info : AckInfo} {first : PktnoRange} {ranges : List PktnoRange}
    {ids : List PktId} {w : AckWalk} (hfirst : info.ranges.head? = some first)
    (hsuf : ranges <:+ info.ranges.reverse) (h : QueueInv e w.sndq) (hids : Ahead w.sndq ids) :
    LifeSteps e info.Acks copied forgotten w.sndq (ackWalk first.high ranges ids w).sndq ∧
      (∀ id < w.sndq.nextId,
        (w.sndq.pkts id).Later ((ackWalk first.high ranges ids w).sndq.pkts id)) ∧
      (∀ id ∈ (ackWalk first.high ranges ids w).sndq.lists .unackedPackets,
        id ∈ w.sndq.lists .unackedPackets) ∧
      ∀ l, (ackWalk first.high ranges ids w).sndq.largestAcked = some l →
        w.sndq.largestAcked = some l ∨ l ≤ first.high := by
  induction ids generalizing ranges w with
  | nil => exact ⟨.refl, fun _ _ => .refl _, fun _ hid => hid, fun _ hl => .inl hl⟩
  | cons id ids ih =>
      have hid := hids.mem id List.mem_cons_self
      simp only [ackWalk]
      split_ifs with hlarge hsent
      · exact ⟨.refl, fun _ _ => .refl _, fun _ hid => hid, fun _ hl => .inl hl⟩
      · exact ⟨.refl, fun _ _ => .refl _, fun _ hid => hid, fun _ hl => .inl hl⟩
      · split
        · exact ⟨.refl, fun _ _ => .refl _, fun _ hid => hid, fun _ hl => .inl hl⟩
        · rename_i r rs hseek
          have hsuf' : r :: rs <:+ info.ranges.reverse :=
            hseek ▸ (seekRange_suffix _ ranges).trans hsuf
          split_ifs with hlow
          · have hack := acks_of_seekRange hfirst hsuf hseek hlow (not_lt.1 hlarge)
            obtain ⟨hstep, -, hraise⟩ :
                WalkStep e info.Acks copied forgotten id w.sndq (w.ackPacket id).sndq ∧ _ :=
              ackPacket_walk h hid hack
            obtain ⟨hrest, hlater, hsub, hlargest⟩ :=
              ih (w := w.ackPacket id) hsuf' (hstep.steps.inv h) (hstep.ahead h.fresh hids)
            refine ⟨hstep.steps.trans hrest, fun id' hid' => (hstep.later id' hid').trans
              (hlater id' (hid'.trans_le hstep.nextId_le)), fun id' hid' => hstep.subset id'
              (hsub id' hid'), fun l hl => ?_⟩
            rcases hlargest l hl with hl | hl
            · rw [hraise] at hl
              exact (largestAcked_of_raiseLargest hl).imp_right fun hle => hle.trans (not_lt.1 hlarge)
            · exact .inr hl
          · have hstep : WalkStep e info.Acks copied forgotten id w.sndq w.sndq := .refl _ _
            exact ih hsuf' h (hstep.ahead h.fresh hids)

/-- A well-formed ACK frame is processed to its end: every packet it covers is acknowledged. -/
theorem ackWalk_complete {info : AckInfo} {first : PktnoRange} {ranges : List PktnoRange}
    {ids : List PktId} {w : AckWalk} (hfirst : info.ranges.head? = some first) (hord : info.Ordered)
    (hsuf : ranges <:+ info.ranges.reverse) (h : QueueInv e w.sndq) (hids : Ahead w.sndq ids)
    (hcover : ∀ id ∈ ids, info.Acks (w.sndq.pkts id).pktNum →
      ∃ r ∈ ranges, r.low ≤ (w.sndq.pkts id).pktNum ∧ (w.sndq.pkts id).pktNum ≤ r.high)
    (herr : (ackWalk first.high ranges ids w).err = none) {id : PktId} (hid : id ∈ ids)
    (hack : info.Acks (w.sndq.pkts id).pktNum) :
    ((ackWalk first.high ranges ids w).sndq.pkts id).poAcked = true := by
  induction ids generalizing ranges w with
  | nil => cases hid
  | cons id₀ ids ih =>
      have hid₀ := hids.mem id₀ List.mem_cons_self
      have hlt := (List.pairwise_cons.1 hids.sorted).1
      -- packet numbers grow along the walk
      have hle : (w.sndq.pkts id₀).pktNum ≤ (w.sndq.pkts id).pktNum := by
        rcases List.mem_cons.1 hid with rfl | hid
        · exact le_rfl
        · exact (hlt id hid).le
      have hlarge : ¬ first.high < (w.sndq.pkts id₀).pktNum :=
        not_lt.2 (hle.trans (hord.le_first hfirst hack))
      simp only [ackWalk, if_neg hlarge] at herr ⊢
      split_ifs at herr ⊢ with hsent
      obtain ⟨r₀, hr₀, hlow₀, hhigh₀⟩ := hcover id hid hack
      have hmem : ∀ id' ∈ id₀ :: ids, (w.sndq.pkts id₀).pktNum ≤ (w.sndq.pkts id').pktNum := by
        intro id' hid'
        rcases List.mem_cons.1 hid' with rfl | hid'
        · exact le_rfl
        · exact (hlt id' hid').le
      split at herr
      · rename_i hseek
        have habs := mem_seekRange hr₀ (hle.trans hhigh₀)
        rw [hseek] at habs
        cases habs
      · rename_i r rs hseek
        have hsuf' : r :: rs <:+ info.ranges.reverse :=
          hseek ▸ (seekRange_suffix _ ranges).trans hsuf
        have hasc : (r :: rs).Pairwise fun a b => a.high < b.low :=
          (List.pairwise_reverse.2 hord.1).sublist hsuf'.sublist
        have hcover' : ∀ id' ∈ id₀ :: ids, info.Acks (w.sndq.pkts id').pktNum →
            ∃ r' ∈ r :: rs, r'.low ≤ (w.sndq.pkts id').pktNum ∧
              (w.sndq.pkts id').pktNum ≤ r'.high := by
          intro id' hid' hack'
          obtain ⟨r', hr', hlow', hhigh'⟩ := hcover id' hid' hack'
          exact ⟨r', hseek ▸ mem_seekRange hr' ((hmem id' hid').trans hhigh'), hlow', hhigh'⟩
        split_ifs at herr ⊢ with hlow
        · have hack₀ := acks_of_seekRange hfirst hsuf hseek hlow (not_lt.1 hlarge)
          obtain ⟨hstep, hself, -⟩ : WalkStep e info.Acks (fun _ => True) (fun _ => True) id₀ w.sndq
              (w.ackPacket id₀).sndq ∧ _ := ackPacket_walk h hid₀ hack₀
          have h' := hstep.steps.inv h
          have hids' := hstep.ahead h.fresh hids
          have hlater := fun id' (hid' : id' ∈ ids) =>
            hstep.later id' (h.fresh _ id' (hids.mem id' (List.mem_cons_of_mem _ hid')))
          rcases List.mem_cons.1 hid with rfl | hid
          · obtain ⟨-, hlater', -⟩ : LifeSteps e info.Acks (fun _ => True) (fun _ => True) _ _ ∧ _ :=
              ackWalk_life hfirst hsuf' h' hids'
            exact (hlater' id ((h.fresh _ id hid₀).trans_le hstep.nextId_le)).poAcked hself
          · refine ih hsuf' h' hids' (fun id' hid' => ?_) herr hid ?_
            · rw [(hlater id' hid').pktNum]
              exact hcover' id' (List.mem_cons_of_mem _ hid')
            · rwa [(hlater id hid).pktNum]
        · -- the range begins above this packet, so it is not the packet in question
          have hne : id ≠ id₀ := by
            rintro rfl
            obtain ⟨r', hr', hlow', hhigh'⟩ := hcover' id List.mem_cons_self hack
            rcases List.mem_cons.1 hr' with rfl | hr'
            · exact hlow hlow'
            · have hsep := (List.pairwise_cons.1 hasc).1 r' hr'
              rcases seekRange_high hseek with hhigh | rfl
              · omega
              · cases hr'
          have hstep : WalkStep e info.Acks (fun _ => True) (fun _ => True) id₀ w.sndq w.sndq :=
            .refl _ _
          exact ih hsuf' h (hstep.ahead h.fresh hids)
            (fun id' hid' => hcover' id' (List.mem_cons_of_mem _ hid')) herr
            ((List.mem_cons.1 hid).resolve_left hne) hack

/-! ## Losses and probes -/

/-- A packet of a family that need not be repaired may be given up. -/
theorem QueueInv.not_needRepair_root (h : QueueInv e s) {id : PktId} (hid : id < s.nextId)
    (hneed : ¬ needRepair (s.pkts id).poFrameTypes) :
    ¬ needRepair (s.pkts (s.root id)).poFrameTypes := by
  cases ho : (s.pkts id).poOrigin with
  | none => rwa [SendQueue.root, ho, Option.getD_none]
  | some origin =>
      rw [SendQueue.root, ho, Option.getD_some]
      exact mt (h.family id hid origin ho).needRepair_iff.2 hneed

/-- A packet leaves the flight and is copied, unless it holds a DATAGRAM frame. -/
theorem copyTo_walk (h : QueueInv e s) {id : PktId} {p : Place} {f : PacketOut → PacketOut}
    (hf : ∀ po, (f po).life = po.life) (hp : p ≠ .unackedPackets)
    (hid : id ∈ s.lists .unackedPackets) (hcopied : .datagram ∉ (s.pkts id).poFrameTypes → copied id) :
    WalkStep e acks copied forgotten id s
      ((copyTo (s.modify id PacketOut.decreaseInflight) p id).modify id f) := by
  have hlt := h.fresh _ id hid
  have hdec : ∀ id', (s.pkts id').Later ((s.modify id PacketOut.decreaseInflight).pkts id') := by
    intro id'
    have hw : Within (s.root id) True s (s.modify id PacketOut.decreaseInflight) :=
      Within.decreaseInflight rfl
    exact hw.later id'
  have hsrc : (s.modify id PacketOut.decreaseInflight).pkts id = (s.pkts id).decreaseInflight :=
    SendQueue.modify_pkts_self ..
  cases hcopy : (s.pkts id).decreaseInflight.retransmission id with
  | none =>
      -- a DATAGRAM frame is not repaired
      have hdatagram : .datagram ∈ (s.pkts id).poFrameTypes := by
        by_contra hno
        have hno' : .datagram ∉ (s.pkts id).decreaseInflight.poFrameTypes := by
          rwa [(PacketOut.later_decreaseInflight _).types]
        rw [PacketOut.retransmission, if_neg hno'] at hcopy
        cases hcopy
      have hsame : copyTo (s.modify id PacketOut.decreaseInflight) p id =
          s.modify id PacketOut.decreaseInflight := by
        rw [copyTo, hsrc, hcopy]
      rw [hsame]
      have hw : Within (s.root id) (s.AckedBy acks (s.root id)) s
          ((s.modify id PacketOut.decreaseInflight).modify id f) := by
        refine (Within.decreaseInflight rfl).trans (Within.mark ?_ hf)
        exact SendQueue.root_of_later (hdec id)
      have hstep : LifeStep e acks copied forgotten s
          ((s.modify id PacketOut.decreaseInflight).modify id f) := by
        refine .settle s _ _ hw (.inr ⟨h.not_needRepair_root hlt (h.datagram id hlt hdatagram),
          fun id' hack => ?_⟩)
        have hlife := life_modify (s.modify id PacketOut.decreaseInflight) id id' hf
        rw [poAcked_of_life hlife] at hack
        by_cases hne : id' = id
        · rw [hne, hsrc, decreaseInflight_poAcked] at hack
          rwa [hne]
        · rwa [SendQueue.modify_pkts_of_ne _ _ hne] at hack
      exact ⟨.single hstep, fun id' _ => hw.later id', fun _ hmem _ => hmem, fun _ hmem => hmem, le_rfl⟩
  | some copy =>
      obtain ⟨hno, -⟩ := retransmission_fields hcopy
      rw [(PacketOut.later_decreaseInflight _).types] at hno
      set s₁ := s.modify id PacketOut.decreaseInflight with hs₁
      set s₂ := ((s₁.modify ((s₁.pkts id).poOrigin.getD id) PacketOut.retain).insertNew p copy).modify id
        PacketOut.markRetransed with hs₂
      have hcopyTo : copyTo s₁ p id = s₂ := by
        rw [copyTo, hsrc, hcopy, hs₂, hsrc]
      rw [hcopyTo]
      -- what becomes of the packets that were there before
      have hlife : ∀ id', id' ≠ s.nextId → ((s₂.modify id f).pkts id').life = (s₁.pkts id').life := by
        intro id' hne
        have hne₁ : id' ≠ (s₁.modify ((s₁.pkts id).poOrigin.getD id) PacketOut.retain).nextId := hne
        rw [life_modify s₂ id id' hf, hs₂, life_modify _ id id' (f := PacketOut.markRetransed)
          fun _ => rfl, SendQueue.insertNew_pkts_of_ne _ _ _ hne₁,
          life_modify _ _ id' (f := PacketOut.retain) fun _ => rfl]
      have hnew : (s₂.modify id f).pkts s.nextId = copy := by
        rw [SendQueue.modify_pkts_of_ne _ _ hlt.ne', hs₂, SendQueue.modify_pkts_of_ne _ _ hlt.ne']
        exact SendQueue.insertNew_pkts_nextId ..
      have hlater : ∀ id', id' ≠ s.nextId → (s.pkts id').Later ((s₂.modify id f).pkts id') :=
        fun id' hne => (hdec id').trans (.of_life (hlife id' hne))
      have hacked : ∀ id', id' ≠ s.nextId → ((s₂.modify id f).pkts id').poAcked = true →
          (s.pkts id').poAcked = true := by
        intro id' hne hack
        rw [poAcked_of_life (hlife id' hne)] at hack
        by_cases hid' : id' = id
        · rw [hid', hsrc, decreaseInflight_poAcked] at hack
          rwa [hid']
        · rwa [hs₁, SendQueue.modify_pkts_of_ne _ _ hid'] at hack
      have hstep : LifeStep e acks copied forgotten s (s₂.modify id f) :=
        .repair s p id copy _ hp hid (hcopied hno) hcopy hnew hlater hacked fun id' hne hne' =>
          (hlife id' hne).trans (congrArg PacketOut.life (SendQueue.modify_pkts_of_ne s _ hne'))
      refine ⟨.single hstep, fun id' hid' => hlater id' hid'.ne, fun id' hmem _ => ?_,
        fun id' hmem => ?_, Nat.le_succ _⟩
      · exact (SendQueue.mem_insertNew copy).2 (.inl hmem)
      · exact ((SendQueue.mem_insertNew copy).1 hmem).resolve_right fun habs => hp habs.1.symm

/-- What `rqc_send_ctl_detect_lost` asks of a packet before it copies it. -/
def SendQueue.LossCopies (s : SendQueue) (th : LossThresholds) (id : PktId) : Prop :=
  (s.pkts id).inFlight = true ∧ (needRepair (s.pkts id).poFrameTypes ∨ (s.pkts id).notify = true) ∧
    .datagram ∉ (s.pkts id).poFrameTypes ∧ th.deems (s.pkts id) = true ∧ ¬ s.Settled id

theorem onPacketLost_walk (h : QueueInv e s) {th : LossThresholds} {id : PktId}
    (hid : id ∈ s.lists .unackedPackets) (hset : ¬ s.Settled id)
    (hdeems : th.deems (s.pkts id) = true) (hcopied : s.LossCopies th id → copied id) :
    WalkStep e acks copied forgotten id s (onPacketLost s id) := by
  unfold onPacketLost
  split_ifs with hflight hneed
  · -- no further mark is set, which is the mark that changes nothing
    have hwalk : WalkStep e acks copied forgotten id s
        ((copyTo (s.modify id PacketOut.decreaseInflight) .lostPackets id).modify id fun po => po) :=
      copyTo_walk h (fun _ => rfl) nofun hid fun hno => hcopied ⟨hflight, hneed, hno, hdeems, hset⟩
    have hid' : ∀ s : SendQueue, (s.modify id fun po => po) = s := fun s => by
      simp [SendQueue.modify, SendQueue.set]
    rwa [hid'] at hwalk
  · have hlt := h.fresh _ id hid
    have hno : ¬ needRepair (s.pkts id).poFrameTypes := fun habs => hneed (.inl habs)
    have hdec : Within (s.root id) (s.AckedBy acks (s.root id)) s
        (s.modify id PacketOut.decreaseInflight) := Within.decreaseInflight rfl
    have hw : Within (s.root id) (s.AckedBy acks (s.root id)) s
        (removeUnacked (s.modify id PacketOut.decreaseInflight) id) :=
      hdec.trans (Within.removeUnacked hdec.root_eq)
    have hack : ∀ id', ((removeUnacked (s.modify id PacketOut.decreaseInflight) id).pkts id').poAcked =
        (s.pkts id').poAcked := by
      intro id'
      refine (poAcked_of_life (life_modify _ id id' (f := PacketOut.leaveUnackList) fun _ => rfl)).trans
        ?_
      by_cases hne : id' = id
      · rw [hne, SendQueue.unlink_pkts, SendQueue.modify_pkts_self, decreaseInflight_poAcked]
      · rw [SendQueue.unlink_pkts, SendQueue.modify_pkts_of_ne _ _ hne]
    refine ⟨.single (.settle s _ _ hw (.inr ⟨h.not_needRepair_root hlt hno, fun id' hid' =>
      (hack id').symm.trans hid'⟩)), fun id' _ => hw.later id', fun id' hid' hlt' => ?_,
      fun id' hid' => (hw.lists _).subset hid', le_rfl⟩
    exact List.mem_filter.2 ⟨hid', decide_eq_true (h.ne_root hid hid' hlt').1⟩
  · exact .refl s id

/-- What was not to be copied is not to be copied later on. -/
theorem QueueInv.lossCopies_of_later (h : QueueInv e s) {th : LossThresholds} {id : PktId}
    (hid : id < s.nextId) (hlater : ∀ id' < s.nextId, (s.pkts id').Later (s'.pkts id'))
    (hloss : s'.LossCopies th id) : s.LossCopies th id := by
  obtain ⟨hflight, hneed, hno, hdeems, hset⟩ := hloss
  have hl := hlater id hid
  have hnotify : (s'.pkts id).notify = (s.pkts id).notify := (congrArg PacketOut.notify hl.body :)
  refine ⟨hl.inFlight hflight, ?_, hl.types ▸ hno, ?_, fun habs => hset (h.settled_later hid hlater habs)⟩
  · rwa [hl.types, hnotify] at hneed
  · simpa only [LossThresholds.deems, hl.pktNum, hl.poSentTime] using hdeems

theorem detectLostWalk_life {largestAcked : ℕ} {th : LossThresholds} {ids : List PktId}
    (h : QueueInv e s) (hids : Ahead s ids)
    (hcopied : ∀ id ∈ ids, (s.pkts id).pktNum ≤ largestAcked → s.LossCopies th id → copied id) :
    LifeSteps e acks copied forgotten s (detectLostWalk largestAcked th ids s) := by
  induction ids generalizing s with
  | nil => exact .refl
  | cons id ids ih =>
      have hid := hids.mem id List.mem_cons_self
      have hmem : ∀ id' ∈ ids, id' < s.nextId :=
        fun id' hid' => h.fresh _ id' (hids.mem id' (List.mem_cons_of_mem _ hid'))
      have hrest : ∀ {s'}, WalkStep e acks copied forgotten id s s' →
          LifeSteps e acks copied forgotten s (detectLostWalk largestAcked th ids s') := by
        intro s' hstep
        refine hstep.steps.trans (ih (hstep.steps.inv h) (hstep.ahead h.fresh hids) ?_)
        intro id' hid' hle hloss
        rw [(hstep.later id' (hmem id' hid')).pktNum] at hle
        exact hcopied id' (List.mem_cons_of_mem _ hid') hle
          (h.lossCopies_of_later (hmem id' hid') hstep.later hloss)
      rw [detectLostWalk]
      split
      · rename_i s' hs'
        exact hrest (indirectlyAckOrDropPo_walk h hid hs')
      · rename_i hset
        split_ifs with hlarge hdeems
        · exact .refl
        · exact hrest (onPacketLost_walk h hid (indirectlyAckOrDropPo_eq_none.1 hset) hdeems
            (hcopied id List.mem_cons_self (not_lt.1 hlarge)))
        · exact hrest (.refl s id)

theorem detectLost_life {th : LossThresholds} (h : QueueInv e s)
    (hcopied : ∀ id ∈ s.lists .unackedPackets, ∀ l, s.largestAcked = some l →
      (s.pkts id).pktNum ≤ l → s.LossCopies th id → copied id) :
    LifeSteps e acks copied forgotten s (detectLost s th) := by
  unfold detectLost
  split
  · exact .refl
  · rename_i l hl
    exact detectLostWalk_life h h.ahead fun id hid => hcopied id hid l hl

/-- What `rqc_path_send_one_or_two_ack_elicit_pkts` asks of a packet before it copies it. -/
def SendQueue.Probeable (s : SendQueue) (id : PktId) : Prop :=
  ¬ s.Settled id ∧ isAckEliciting (s.pkts id).poFrameTypes ∧
    (needRepair (s.pkts id).poFrameTypes ∨ (s.pkts id).notify = true)

instance (s : SendQueue) (id : PktId) : Decidable (s.Settled id) :=
  inferInstanceAs (Decidable (_ ∨ _))

instance (s : SendQueue) (id : PktId) : Decidable (s.Probeable id) :=
  inferInstanceAs (Decidable (_ ∧ _ ∧ _))

theorem QueueInv.poAcked_of_indirectly (h : QueueInv e s) {id id' : PktId} (hid : id < s.nextId)
    (hs : indirectlyAckOrDropPo s id = some s') (hack : (s'.pkts id').poAcked = true) :
    (s.pkts id').poAcked = true ∨ (id' = id ∧ originAcked s id = true) := by
  obtain ⟨-, rfl⟩ := indirectlyAckOrDropPo_eq_some.1 hs
  have hroot := h.root_root hid
  split_ifs at hack with horig
  · obtain ⟨origin, ho, hacked⟩ := originAcked_eq_true.1 horig
    have hw : Within (s.root id) (s.AckedBy (fun _ => True) (s.root id)) s (onPacketAcked s id) :=
      Within.onPacketAcked (.inl (by rwa [SendQueue.root, ho, Option.getD_some])) hroot
    have hw' : Within ((onPacketAcked s id).root id) False (onPacketAcked s id)
        (maybeRemoveUnacked (onPacketAcked s id) id true) :=
      Within.maybeRemoveUnacked true (by rw [hw.root_eq, hw.root_eq, hroot])
    replace hack := (hw'.acked id' hack).resolve_right not_false
    by_cases hne : id' = id
    · exact .inr ⟨hne, horig⟩
    · left
      unfold onPacketAcked at hack
      rw [ho] at hack
      simp only at hack
      by_cases horigin : id' = origin
      · rwa [horigin]
      · rwa [SendQueue.modify_pkts_of_ne _ _ horigin, SendQueue.modify_pkts_of_ne _ _ hne] at hack
  · have hw : Within (s.root id) False s (maybeRemoveUnacked s id true) :=
      Within.maybeRemoveUnacked true hroot
    exact .inl ((hw.acked id' hack).resolve_right not_false)

/-- A packet is settled later on only if it was, or if the step acknowledged it or its original. -/
theorem settled_of_acked {id' : PktId} (hid' : id' < s.nextId)
    (hlater : ∀ id < s.nextId, (s.pkts id).Later (s'.pkts id))
    (hself : (s'.pkts id').poAcked = true → (s.pkts id').poAcked = true)
    (horig : ∀ origin, (s.pkts id').poOrigin = some origin → (s'.pkts origin).poAcked = true →
      (s.pkts origin).poAcked = true) (hset : s'.Settled id') : s.Settled id' := by
  rcases hset with hset | hset
  · exact .inl (hself hset)
  · obtain ⟨origin, ho, hack⟩ := originAcked_eq_true.1 hset
    rw [(hlater id' hid').poOrigin] at ho
    exact .inr (originAcked_eq_true.2 ⟨origin, ho, horig origin ho hack⟩)

theorem QueueInv.settled_of_indirectly (h : QueueInv e s) {id id' : PktId} (hid : id < s.nextId)
    (hid' : id' < s.nextId) (hne : id' ≠ id) (hs : indirectlyAckOrDropPo s id = some s')
    (hset : s'.Settled id') : s.Settled id' := by
  obtain ⟨-, hlater, -⟩ : LifeStep e (fun _ => True) (fun _ => True) (fun _ => True) s s' ∧ _ :=
    indirectlyAckOrDropPo_life h hid hs
  refine settled_of_acked hid' (fun id'' _ => hlater id'') (fun hack => ?_) (fun origin ho hack => ?_)
    hset
  · exact (h.poAcked_of_indirectly hid hs hack).resolve_right fun habs => hne habs.1
  · refine (h.poAcked_of_indirectly hid hs hack).resolve_right ?_
    rintro ⟨rfl, habs⟩
    -- an original has no origin
    obtain ⟨origin', ho', -⟩ := originAcked_eq_true.1 habs
    rw [(h.family id' hid' origin ho).original] at ho'
    cases ho'

theorem sendProbePkt_poAcked {id id' : PktId} (hid' : id' < s.nextId)
    (hack : ((sendProbePkt s id).pkts id').poAcked = true) : (s.pkts id').poAcked = true := by
  unfold sendProbePkt copyToProbe copyTo at hack
  split_ifs at hack
  · exact hack
  · rw [poAcked_of_life (life_modify _ id id' (f := PacketOut.markTlp) fun _ => rfl)] at hack
    have hdec : ((s.modify id PacketOut.decreaseInflight).pkts id').poAcked = (s.pkts id').poAcked := by
      by_cases hne : id' = id
      · rw [hne, SendQueue.modify_pkts_self, decreaseInflight_poAcked]
      · rw [SendQueue.modify_pkts_of_ne _ _ hne]
    rw [← hdec]
    split at hack
    · exact hack
    · rw [poAcked_of_life (life_modify _ id id' (f := PacketOut.markRetransed) fun _ => rfl),
        SendQueue.insertNew_pkts_of_ne _ _ _ (by exact hid'.ne),
        poAcked_of_life (life_modify _ _ id' (f := PacketOut.retain) fun _ => rfl)] at hack
      exact hack

theorem sendProbePkt_walk (h : QueueInv e s) {id : PktId} (hid : id ∈ s.lists .unackedPackets)
    (hcopied : .datagram ∉ (s.pkts id).poFrameTypes → copied id) :
    WalkStep e acks copied forgotten id s (sendProbePkt s id) ∧
      ∀ id' ∈ s.lists .unackedPackets, id' ∈ (sendProbePkt s id).lists .unackedPackets := by
  unfold sendProbePkt
  split_ifs with hdatagram
  · exact ⟨.refl s id, fun _ hmem => hmem⟩
  · refine ⟨copyTo_walk h (f := PacketOut.markTlp) (fun _ => rfl) nofun hid hcopied, fun id' hmem => ?_⟩
    unfold copyToProbe copyTo
    split
    · exact hmem
    · rw [SendQueue.modify_lists, SendQueue.modify_lists]
      exact (SendQueue.mem_insertNew _).2 (.inl hmem)

theorem probeable_congr {id' : PktId} (hid' : id' < s.nextId)
    (hlater : ∀ id < s.nextId, (s.pkts id).Later (s'.pkts id)) (hset : s'.Settled id' ↔ s.Settled id') :
    s'.Probeable id' ↔ s.Probeable id' := by
  have hl := hlater id' hid'
  have hnotify : (s'.pkts id').notify = (s.pkts id').notify := (congrArg PacketOut.notify hl.body :)
  unfold SendQueue.Probeable
  rw [hset, hl.types, hnotify]

theorem filter_probeable {ids : List PktId} (h : ∀ id ∈ ids, s'.Probeable id ↔ s.Probeable id) :
    ids.filter (s'.Probeable ·) = ids.filter (s.Probeable ·) :=
  List.filter_congr fun id hid => decide_eq_decide.2 (h id hid)

theorem sendProbePkt_settled (h : QueueInv e s) {id id' : PktId} (hid : id ∈ s.lists .unackedPackets)
    (hid' : id' < s.nextId) : (sendProbePkt s id).Settled id' ↔ s.Settled id' := by
  have hwalk : WalkStep e (fun _ => True) (fun _ => True) (fun _ => True) id s (sendProbePkt s id) :=
    (sendProbePkt_walk h hid fun _ => trivial).1
  refine ⟨settled_of_acked hid' hwalk.later (sendProbePkt_poAcked hid') fun origin ho hack => ?_,
    h.settled_later hid' hwalk.later⟩
  exact sendProbePkt_poAcked (h.family id' hid' origin ho).lt hack

/-- The packet that was probed last can be probed again. -/
def SendQueue.LastProbed (s : SendQueue) (copied : PktId → Prop) (id : PktId) : Prop :=
  id ∈ s.lists .unackedPackets ∧ ¬ s.Settled id ∧ (.datagram ∉ (s.pkts id).poFrameTypes → copied id)

/-- The loop of the probes copies the first packets that it may copy. -/
theorem probeWalk_life {n : ℕ} {last : Option PktId} {ids : List PktId} (h : QueueInv e s)
    (hids : Ahead s ids)
    (hcopied : ∀ id ∈ (ids.filter (s.Probeable ·)).take n, .datagram ∉ (s.pkts id).poFrameTypes →
      copied id)
    (hlast : ∀ id ∈ last, s.LastProbed copied id ∧ id ∉ ids) :
    LifeSteps e acks copied forgotten s (probeWalk n last ids s).2.2 ∧
      ∀ id ∈ (probeWalk n last ids s).2.1, (probeWalk n last ids s).2.2.LastProbed copied id := by
  induction ids generalizing n last s with
  | nil =>
      rw [probeWalk]
      exact ⟨.refl, fun id hid => (hlast id hid).1⟩
  | cons id ids ih =>
      cases n with
      | zero =>
          rw [probeWalk]
          exact ⟨.refl, fun id hid => (hlast id hid).1⟩
      | succ n =>
          have hid := hids.mem id List.mem_cons_self
          have hlt := h.fresh _ id hid
          have hnot : id ∉ ids := fun habs =>
            lt_irrefl _ ((List.pairwise_cons.1 hids.sorted).1 id habs)
          have hmem : ∀ id' ∈ ids, id' < s.nextId :=
            fun id' hid' => h.fresh _ id' (hids.mem id' (List.mem_cons_of_mem _ hid'))
          rw [probeWalk]
          split
          · -- the family of the packet is acknowledged
            rename_i s' hs'
            have hset := (indirectlyAckOrDropPo_eq_some.1 hs').1
            have hwalk : WalkStep e acks copied forgotten id s s' :=
              indirectlyAckOrDropPo_walk h hid hs'
            have hsettled : ∀ id' < s.nextId, id' ≠ id → (s'.Settled id' ↔ s.Settled id') :=
              fun id' hid' hne => ⟨h.settled_of_indirectly hlt hid' hne hs',
                h.settled_later hid' hwalk.later⟩
            have hsame : ids.filter (s'.Probeable ·) = ids.filter (s.Probeable ·) := by
              refine filter_probeable fun id' hid' => ?_
              refine probeable_congr (hmem id' hid') hwalk.later (hsettled id' (hmem id' hid') ?_)
              rintro rfl
              exact hnot hid'
            have hskip : (id :: ids).filter (s.Probeable ·) = ids.filter (s.Probeable ·) :=
              List.filter_cons_of_neg (by simpa using fun habs : s.Probeable id => habs.1 hset)
            have hcopied' : ∀ id' ∈ (ids.filter (s'.Probeable ·)).take (n + 1),
                .datagram ∉ (s'.pkts id').poFrameTypes → copied id' := by
              intro id' hid' hno
              rw [hsame, ← hskip] at hid'
              have hin := (List.mem_filter.1 (List.mem_of_mem_take hid')).1
              rw [(hwalk.later id' (h.fresh _ id' (hids.mem id' hin))).types] at hno
              exact hcopied id' hid' hno
            have hlast' : ∀ id' ∈ last, s'.LastProbed copied id' ∧ id' ∉ ids := by
              intro id' hid'
              obtain ⟨⟨hin, hun, hcp⟩, hout⟩ := hlast id' hid'
              have hlt' := h.fresh _ id' hin
              have hne : id' ≠ id := fun habs => hout (habs ▸ List.mem_cons_self)
              -- its family is not acknowledged, so it stays
              have hroot : id' ≠ s.root id := by
                rintro rfl
                exact hun (.inl (root_acked h hlt hset))
              obtain ⟨-, -, -, -, hkeep⟩ : LifeStep e acks copied forgotten s s' ∧ _ :=
                indirectlyAckOrDropPo_life h hlt hs'
              refine ⟨⟨hkeep _ id' hin hne hroot, fun habs => hun ((hsettled id' hlt' hne).1 habs),
                fun hno => hcp ?_⟩, fun habs => hout (List.mem_cons_of_mem _ habs)⟩
              rwa [(hwalk.later id' hlt').types] at hno
            obtain ⟨hrest, hprobed⟩ :=
              ih (hwalk.steps.inv h) (hwalk.ahead h.fresh hids) hcopied' hlast'
            exact ⟨hwalk.steps.trans hrest, hprobed⟩
          · rename_i hset
            have hun := indirectlyAckOrDropPo_eq_none.1 hset
            split_ifs with hneed
            · have hprobe : s.Probeable id := ⟨hun, hneed.1, hneed.2⟩
              have hhead : (id :: ids).filter (s.Probeable ·) = id :: ids.filter (s.Probeable ·) :=
                List.filter_cons_of_pos (decide_eq_true hprobe)
              rw [hhead, List.take_succ_cons] at hcopied
              have hcp := hcopied id List.mem_cons_self
              obtain ⟨hwalk, hkeep⟩ : WalkStep e acks copied forgotten id s (sendProbePkt s id) ∧ _ :=
                sendProbePkt_walk h hid hcp
              have hsame : ids.filter ((sendProbePkt s id).Probeable ·) = ids.filter (s.Probeable ·) :=
                filter_probeable fun id' hid' => probeable_congr (hmem id' hid') hwalk.later
                  (sendProbePkt_settled h hid (hmem id' hid'))
              have hcopied' : ∀ id' ∈ (ids.filter ((sendProbePkt s id).Probeable ·)).take n,
                  .datagram ∉ ((sendProbePkt s id).pkts id').poFrameTypes → copied id' := by
                intro id' hid' hno
                rw [hsame] at hid'
                have hin := (List.mem_filter.1 (List.mem_of_mem_take hid')).1
                rw [(hwalk.later id' (hmem id' hin)).types] at hno
                exact hcopied id' (List.mem_cons_of_mem _ hid') hno
              have hlast' : ∀ id' ∈ some id, (sendProbePkt s id).LastProbed copied id' ∧ id' ∉ ids := by
                intro id' hid'
                obtain rfl := Option.some.inj hid'
                refine ⟨⟨hkeep id hid, fun habs => hun ((sendProbePkt_settled h hid hlt).1 habs),
                  fun hno => hcp ?_⟩, hnot⟩
                rwa [(hwalk.later id hlt).types] at hno
              obtain ⟨hrest, hprobed⟩ :=
                ih (hwalk.steps.inv h) (hwalk.ahead h.fresh hids) hcopied' hlast'
              exact ⟨hwalk.steps.trans hrest, hprobed⟩
            · have hskip : (id :: ids).filter (s.Probeable ·) = ids.filter (s.Probeable ·) := by
                refine List.filter_cons_of_neg ?_
                simpa using fun habs : s.Probeable id => hneed ⟨habs.2.1, habs.2.2⟩
              have hwalk : WalkStep e acks copied forgotten id s s := .refl s id
              exact ih h (hwalk.ahead h.fresh hids) (fun id' hid' => hcopied id' (hskip ▸ hid'))
                fun id' hid' => ⟨(hlast id' hid').1, fun habs =>
                  (hlast id' hid').2 (List.mem_cons_of_mem _ habs)⟩

end Settling

end Rquic

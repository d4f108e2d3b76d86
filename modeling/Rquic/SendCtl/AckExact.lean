import Rquic.SendCtl.Run
import Rquic.SendQueue.AckWalk

set_option autoImplicit false

/-!
# Which packets an ACK frame acknowledges

`rqc_send_ctl_on_ack_received` on a list of unacknowledged packets in the order of their numbers.

* `SendCtl.ackedIds`: the packets that the walk has handed to `rqc_send_ctl_on_packet_acked`.
* `AckReady`: numbers grow along the list and copies stand behind their origin; `AckReady.ackPacket`: an
  acknowledgement leaves the packets behind it in the list, so the walk goes on with a packet that is
  still there.
* **`onAckReceived_exact`**: the packets in some range are acknowledged, each once, and no others.
-/

namespace Rquic

/-- Numbers grow along the list of unacknowledged packets, and a copy stands behind its origin. -/
structure AckReady (s : SendQueue) : Prop where
  sorted : (s.lists .unackedPackets).Pairwise fun a b => (s.pkts a).pktNum < (s.pkts b).pktNum
  order : ∀ id ∈ s.lists .unackedPackets, ∀ origin ∈ s.lists .unackedPackets,
    (s.pkts id).poOrigin = some origin → (s.pkts origin).pktNum < (s.pkts id).pktNum

namespace SendCtl

/-- The packets that the walk has handed to `rqc_send_ctl_on_packet_acked`, in this order. -/
def ackedIds (c : SendCtl) : List PktId :=
  c.history.filterMap fun
    | .acked id => some id
    | _ => none

/-- What the functions behind the walk leave alone: `ackedIds` and whether the loop has lost its next
element. -/
def trace (c : SendCtl) : List PktId × Bool := (c.ackedIds, c.nextReleased)

/-! ## The trace -/

variable (c : SendCtl)

@[simp] theorem trace_onQueue (f : SendQueue → SendQueue) : (c.onQueue f).trace = c.trace := rfl

@[simp] theorem trace_insertFree (id : PktId) : (c.insertFree id).trace = c.trace := rfl

theorem ackedIds_addHistory (entry : CtlEntry) :
    (c.addHistory entry).ackedIds = c.ackedIds ++ match entry with
      | .acked id => [id]
      | _ => [] := by
  unfold ackedIds addHistory
  rw [List.filterMap_append]
  cases entry <;> rfl

@[simp] theorem trace_recordFeedback (id : PktId) (lost : Bool) :
    (c.recordFeedback id lost).trace = c.trace := by
  unfold recordFeedback
  split
  · rfl
  · unfold trace
    rw [ackedIds_addHistory]
    simp [ackedIds, addHistory]

theorem trace_foldl {α : Type} {f : SendCtl → α → SendCtl} (hf : ∀ c a, (f c a).trace = c.trace)
    (l : List α) (c : SendCtl) : (l.foldl f c).trace = c.trace := by
  induction l generalizing c with
  | nil => rfl
  | cons a l ih => rw [List.foldl_cons, ih, hf]

@[simp] theorem trace_decreaseUnackedStreamRef (id : PktId) :
    (c.decreaseUnackedStreamRef id).trace = c.trace := by
  unfold decreaseUnackedStreamRef
  split_ifs
  · refine trace_foldl (fun c slot => ?_) _ c
    unfold slotAcked
    split
    · rfl
    · dsimp only
      split_ifs
      · unfold trace
        rw [ackedIds_addHistory]
        simp [ackedIds, addHistory]
      · rfl
  · rfl

@[simp] theorem trace_onResetStreamAcked (po : PacketOut) : (c.onResetStreamAcked po).trace = c.trace := by
  unfold onResetStreamAcked
  split_ifs
  · refine trace_foldl (fun c slot => ?_) _ c
    unfold slotResetAcked
    split
    · rfl
    · split_ifs <;> rfl
  · rfl

@[simp] theorem trace_uncountInflight (po : PacketOut) : (c.uncountInflight po).trace = c.trace := by
  unfold uncountInflight
  split_ifs <;> rfl

@[simp] theorem trace_decreaseInflight (id : PktId) : (c.decreaseInflight id).trace = c.trace :=
  c.trace_uncountInflight (c.pkts id)

@[simp] theorem trace_onPacketAcked (id : PktId) : (c.onPacketAcked id).trace = c.trace := by
  simp [onPacketAcked, markAcked]

@[simp] theorem trace_removeUnacked (id : PktId) : (c.removeUnacked id).trace = c.trace := by
  unfold removeUnacked uncountUnacked
  split_ifs <;> rfl

@[simp] theorem trace_leaveList (id : PktId) (path : Bool) : (c.leaveList id path).trace = c.trace := by
  unfold leaveList
  split_ifs
  · unfold pathSendBufferRemove uncountSchedule
    split_ifs <;> rfl
  · simp

@[simp] theorem trace_releaseOrigin (origin : PktId) : (c.releaseOrigin origin).trace = c.trace := by
  unfold releaseOrigin
  dsimp only
  split_ifs <;> simp

@[simp] theorem trace_maybeRemoveUnacked (id : PktId) (path : Bool) :
    (c.maybeRemoveUnacked id path).trace = c.trace := by
  unfold maybeRemoveUnacked
  split
  · split_ifs <;> simp
  · simp

@[simp] theorem trace_copyTo (p : Place) (src : PktId) : (c.copyTo p src).trace = c.trace := by
  unfold copyTo
  split <;> rfl

@[simp] theorem trace_onPacketLost (id : PktId) : (c.onPacketLost id).trace = c.trace := by
  unfold onPacketLost
  dsimp only
  split_ifs <;> simp

theorem trace_indirectlyAckOrDropPo {c c' : SendCtl} {id : PktId}
    (h : c.indirectlyAckOrDropPo id = some c') : c'.trace = c.trace := by
  unfold indirectlyAckOrDropPo at h
  split_ifs at h <;> obtain rfl := Option.some.inj h <;> simp

theorem ackedIds_detectLostWalk (largestAcked : ℕ) (th : LossThresholds) (ids : List PktId) :
    (detectLostWalk largestAcked th ids c).ackedIds = c.ackedIds := by
  induction ids generalizing c with
  | nil => rfl
  | cons id ids ih =>
      rw [detectLostWalk]
      split
      · rename_i c' hc'
        rw [ih]
        exact congrArg Prod.fst (trace_indirectlyAckOrDropPo hc')
      · split_ifs
        · rfl
        · rw [ih]
          exact congrArg Prod.fst (c.trace_onPacketLost id)
        · exact ih c

theorem ackedIds_detectLost (th : LossThresholds) : (c.detectLost th).ackedIds = c.ackedIds := by
  unfold detectLost
  split
  · rfl
  · exact c.ackedIds_detectLostWalk _ th _

end SendCtl

/-! ## The packets that are still to come -/

theorem maybeRemoveUnacked_sublist (s : SendQueue) (id : PktId) (path : Bool) (p : Place) :
    ((maybeRemoveUnacked s id path).lists p).Sublist (s.lists p) := by
  have hleave : ((leaveList s id path).lists p).Sublist (s.lists p) := by
    unfold leaveList
    split_ifs <;> exact List.filter_sublist
  unfold maybeRemoveUnacked
  split
  · split_ifs
    · exact List.Sublist.refl _
    · exact hleave
  · unfold releaseOrigin
    split_ifs
    · exact List.filter_sublist.trans hleave
    · exact hleave

theorem ackPacket_sublist (w : AckWalk) (id : PktId) (p : Place) :
    ((w.ackPacket id).sndq.lists p).Sublist (w.sndq.lists p) := by
  simp only [AckWalk.ackPacket]
  refine (maybeRemoveUnacked_sublist _ id false p).trans ?_
  rw [onPacketAcked_lists]
  exact List.Sublist.refl _

theorem mem_ackPacket {w : AckWalk} {id i : PktId} {p : Place} (hid : i ≠ id)
    (horigin : (w.sndq.pkts id).poOrigin ≠ some i) (hmem : i ∈ w.sndq.lists p) :
    i ∈ (w.ackPacket id).sndq.lists p := by
  have hmark : ∀ po : PacketOut, po.markSpuriousLoss.poOrigin = po.poOrigin := by
    intro po
    unfold PacketOut.markSpuriousLoss
    split_ifs <;> rfl
  simp only [AckWalk.ackPacket]
  generalize hs : (raiseLargest w.sndq (w.sndq.pkts id)).modify id PacketOut.markSpuriousLoss = s
  have hlists : s.lists = w.sndq.lists := by
    rw [← hs]
    rfl
  have hself : (s.pkts id).poOrigin = (w.sndq.pkts id).poOrigin := by
    rw [← hs, SendQueue.modify_pkts_self]
    exact hmark _
  have hacked : ((onPacketAcked s id).pkts id).poOrigin = (s.pkts id).poOrigin :=
    (congrArg PacketOut.poOrigin (core_onPacketAcked s id id) :)
  refine mem_maybeRemoveUnacked hid ?_ ?_
  · rw [SendQueue.root, hacked, hself]
    cases ho : (w.sndq.pkts id).poOrigin with
    | none => exact hid
    | some origin =>
        rw [ho] at horigin
        exact fun h => horigin (congrArg some h.symm)
  · rwa [onPacketAcked_lists, hlists]

/-- An acknowledgement leaves the order of the list as it is. -/
theorem AckReady.ackPacket {w : AckWalk} (h : AckReady w.sndq) (id : PktId) :
    AckReady (w.ackPacket id).sndq := by
  have hsub := ackPacket_sublist w id .unackedPackets
  refine ⟨?_, ?_⟩
  · simp only [pktNum_ackPacket]
    exact h.sorted.sublist hsub
  · intro i hi origin horigin
    rw [poOrigin_ackPacket, pktNum_ackPacket, pktNum_ackPacket]
    exact h.order i (hsub.subset hi) origin (hsub.subset horigin)

/-- The packets behind the one that is acknowledged stay in the list. -/
theorem AckReady.ahead {w : AckWalk} {id : PktId} {ids : List PktId} (h : AckReady w.sndq)
    (hids : Ahead w.sndq (id :: ids)) : Ahead (w.ackPacket id).sndq ids := by
  obtain ⟨hlt, hsorted⟩ := List.pairwise_cons.1 hids.sorted
  refine ⟨fun i hi => ?_, ?_⟩
  · have hmem := hids.mem i (List.mem_cons_of_mem _ hi)
    refine mem_ackPacket ?_ (fun ho => ?_) hmem
    · rintro rfl
      exact lt_irrefl _ (hlt i hi)
    · exact lt_asymm (hlt i hi) (h.order id (hids.mem id List.mem_cons_self) i hmem ho)
  · simpa only [pktNum_ackPacket] using hsorted

/-! ## The walk with its counters -/

namespace SendCtl

/-- A packet is acknowledged, and the loop goes on with the element that it has saved. -/
def AckRun.ackNext (w : AckRun) (id : PktId) (ids : List PktId) : AckRun :=
  { w.ackPacket id with ctl := (w.ackPacket id).ctl.checkNext ids }

theorem ackWalk_eq_walkPackets (frameLargestAck : ℕ) (ranges : List PktnoRange) (ids : List PktId)
    (w : AckRun) :
    ackWalk frameLargestAck ranges ids w =
      walkPackets (fun w id => (w.ctl.pkts id).pktNum) (fun w => w.ctl.largestSent)
        (fun w => { w with err := some .proto }) AckRun.ackNext frameLargestAck ranges ids w := by
  induction ids generalizing ranges w with
  | nil => rfl
  | cons id ids ih =>
      rw [ackWalk, walkPackets]
      cases seekRange (w.ctl.pkts id).pktNum ranges <;> simp only [ih, AckRun.ackNext]

theorem checkNext_of_mem {c : SendCtl} {ids : List PktId}
    (h : ∀ id ∈ ids, id ∈ c.lists .unackedPackets) : c.checkNext ids = c := by
  unfold checkNext
  cases ids with
  | nil => simp
  | cons id ids => simp [h id List.mem_cons_self]

theorem ackEach_ackNext (p : PktId → Bool) {ids : List PktId} {w : AckRun}
    (h : AckReady w.ctl.toSendQueue) (hids : Ahead w.ctl.toSendQueue ids) :
    ackEach AckRun.ackNext p ids w = (ids.filter p).foldl AckRun.ackPacket w := by
  induction ids generalizing w with
  | nil => rfl
  | cons id ids ih =>
      have hwalk : (w.ackPacket id).ctl.toSendQueue = (w.walk.ackPacket id).sndq :=
        congrArg AckWalk.sndq (ackPacket_walk w id)
      have hids' : Ahead (w.ackPacket id).ctl.toSendQueue ids := by
        rw [hwalk]
        exact AckReady.ahead (w := w.walk) h hids
      rw [ackEach, List.filter_cons]
      by_cases hp : p id = true
      · rw [if_pos hp, if_pos hp, List.foldl_cons]
        have hnext : w.ackNext id ids = w.ackPacket id := by
          rw [AckRun.ackNext, checkNext_of_mem hids'.mem]
        rw [hnext]
        refine ih ?_ hids'
        rw [hwalk]
        exact AckReady.ackPacket (w := w.walk) h id
      · rw [if_neg hp, if_neg hp]
        exact ih h ⟨fun i hi => hids.mem i (List.mem_cons_of_mem _ hi), (List.pairwise_cons.1 hids.sorted).2⟩

end SendCtl

/-! ## What the packets that are reached leave behind -/

theorem foldl_poAcked (ids : List PktId) (w : AckWalk) (i : PktId) :
    ((ids.foldl AckWalk.ackPacket w).sndq.pkts i).poAcked = true ↔
      (w.sndq.pkts i).poAcked = true ∨ i ∈ ids ∨ ∃ id ∈ ids, (w.sndq.pkts id).poOrigin = some i := by
  induction ids generalizing w with
  | nil => simp
  | cons id ids ih =>
      have hacked : ((w.ackPacket id).sndq.pkts i).poAcked = ((w.sndq.pkts i).poAcked ||
          decide (i = id) || decide ((w.sndq.pkts id).poOrigin = some i)) :=
        (congrArg PacketOut.poAcked (core_ackPacket w id i) :)
      rw [List.foldl_cons, ih, hacked]
      simp only [poOrigin_ackPacket, Bool.or_eq_true, decide_eq_true_eq, List.mem_cons,
        exists_eq_or_imp]
      tauto

/-- The largest one of the old value and one more number. -/
theorem isGreatest_raise {old : Option ℕ} {n : ℕ} {new : Option ℕ} {S : Set ℕ} {m : ℕ}
    (hnew : new = some (match old with | none => n | some l => max l n)) :
    IsGreatest {k | new = some k ∨ k ∈ S} m ↔ IsGreatest {k | old = some k ∨ k = n ∨ k ∈ S} m := by
  rw [hnew]
  cases old with
  | none => simp [eq_comm]
  | some l =>
      simp only [IsGreatest, upperBounds, Set.mem_ofPred_eq, Option.some.injEq]
      constructor
      · rintro ⟨hm, hub⟩
        have hmax := hub (.inl rfl)
        refine ⟨?_, ?_⟩
        · rcases hm with rfl | hm
          · rcases le_total l n with hle | hle
            · exact .inr (.inl (max_eq_right hle))
            · exact .inl (max_eq_left hle).symm
          · exact .inr (.inr hm)
        · rintro k (rfl | rfl | hk)
          · exact (le_max_left _ _).trans hmax
          · exact (le_max_right _ _).trans hmax
          · exact hub (.inr hk)
      · rintro ⟨hm, hub⟩
        have hl := hub (.inl rfl)
        have hn := hub (.inr (.inl rfl))
        refine ⟨?_, ?_⟩
        · rcases hm with rfl | rfl | hm
          · exact .inl (max_eq_left hn)
          · exact .inl (max_eq_right hl)
          · exact .inr hm
        · rintro k (rfl | hk)
          · exact max_le hl hn
          · exact hub (.inr (.inr hk))

theorem foldl_largestAcked (ids : List PktId) (w : AckWalk) (m : ℕ) :
    (ids.foldl AckWalk.ackPacket w).sndq.largestAcked = some m ↔
      IsGreatest {n | w.sndq.largestAcked = some n ∨ ∃ id ∈ ids, n = (w.sndq.pkts id).pktNum} m := by
  induction ids generalizing w with
  | nil =>
      simp only [List.foldl_nil, List.not_mem_nil, false_and, exists_false, or_false]
      cases w.sndq.largestAcked with
      | none => simp [IsGreatest]
      | some l =>
          simp only [IsGreatest, upperBounds, Set.mem_ofPred_eq, Option.some.injEq]
          exact ⟨fun h => ⟨h, fun _ ha => by omega⟩, And.left⟩
  | cons id ids ih =>
      have hraise : (w.ackPacket id).sndq.largestAcked =
          some (match w.sndq.largestAcked with
            | none => (w.sndq.pkts id).pktNum
            | some l => max l (w.sndq.pkts id).pktNum) := by
        refine (congrArg SendQueue.largestAcked (ackPacket_space w id) :).trans ?_
        show (raiseLargest w.sndq _).largestAcked = _
        unfold raiseLargest
        cases w.sndq.largestAcked <;> rfl
      rw [List.foldl_cons, ih]
      simp only [pktNum_ackPacket, List.mem_cons, exists_eq_or_imp]
      exact isGreatest_raise (S := {n | ∃ id ∈ ids, n = (w.sndq.pkts id).pktNum}) hraise

namespace SendCtl

theorem foldl_walk (ids : List PktId) (w : AckRun) :
    (ids.foldl AckRun.ackPacket w).walk = ids.foldl AckWalk.ackPacket w.walk := by
  induction ids generalizing w with
  | nil => rfl
  | cons id ids ih => rw [List.foldl_cons, List.foldl_cons, ih, ackPacket_walk]

theorem foldl_trace (ids : List PktId) (w : AckRun) :
    (ids.foldl AckRun.ackPacket w).ctl.trace = (w.ctl.ackedIds ++ ids, w.ctl.nextReleased) := by
  induction ids generalizing w with
  | nil => simp [trace]
  | cons id ids ih =>
      have hone : (w.ackPacket id).ctl.trace = (w.ctl.ackedIds ++ [id], w.ctl.nextReleased) := by
        simp only [AckRun.ackPacket, trace_maybeRemoveUnacked, trace_onPacketAcked, trace_onQueue]
        exact congrArg (·, w.ctl.nextReleased) (w.ctl.ackedIds_addHistory (.acked id))
      obtain ⟨hids, hnext⟩ := Prod.mk.inj hone
      rw [List.foldl_cons, ih, hids, hnext]
      simp

/-- The first part of `rqc_send_ctl_on_ack_received`, with its counters. -/
theorem ackProcess_eq_foldl {c : SendCtl} {info : AckInfo} (h : AckReady c.toSendQueue)
    (hlargest : ∀ first, info.ranges.head? = some first → first.high ≤ c.largestSent) :
    c.ackProcess info = (c.toSendQueue.reached info).foldl AckRun.ackPacket
      { ctl := c.onQueue fun _ => (ackSentOnAck c.toSendQueue info).sndq
        hasAcked := (ackSentOnAck c.toSendQueue info).hasAcked
        needDelRecord := (ackSentOnAck c.toSendQueue info).needDelRecord } := by
  have hlists : (ackSentOnAck c.toSendQueue info).sndq.lists = c.lists := (ackSentOnAck_fields info).1
  have hpkts : (ackSentOnAck c.toSendQueue info).sndq.pkts = c.pkts := (ackSentOnAck_fields info).2.1
  have hsent : (ackSentOnAck c.toSendQueue info).sndq.largestSent = c.largestSent := by
    unfold ackSentOnAck
    split <;> rfl
  have hqueue : ∀ (w : AckRun) id ids, (w.ackNext id ids).ctl.toSendQueue = (w.walk.ackPacket id).sndq :=
    fun w id ids => congrArg AckWalk.sndq (ackPacket_walk w id)
  unfold ackProcess SendQueue.reached
  cases hfirst : info.ranges.head? with
  | none =>
      have hnil := List.head?_eq_none_iff.1 hfirst
      have hring : ackSentRecordOnAck [] c.ackSentRecord.ackSent = none := by
        cases c.ackSentRecord.ackSent <;> rfl
      have hreach : ∀ n, info.reaches n = false := fun n => by rw [AckInfo.reaches, hfirst]
      simp only [ackSentOnAck, hnil, hring, hreach, List.filter_false, List.foldl_nil]
      rfl
  | some first =>
      simp only
      rw [ackWalk_eq_walkPackets, walkPackets_eq _ hfirst, ackEach_ackNext]
      · simp only [onQueue_toSendQueue, hpkts]
      · refine ⟨?_, ?_⟩
        · simpa only [onQueue_toSendQueue, hpkts, hlists] using h.sorted
        · simpa only [onQueue_toSendQueue, hpkts, hlists] using h.order
      · refine ⟨?_, ?_⟩
        · simp only [onQueue_toSendQueue, hlists]
          exact fun id hid => hid
        · simpa only [onQueue_toSendQueue, hpkts] using h.sorted
      · intro w id ids i
        rw [hqueue]
        exact pktNum_ackPacket w.walk id i
      · intro w id ids
        rw [hqueue]
        exact largestSent_ackPacket w.walk id
      · simpa only [onQueue_toSendQueue, hpkts] using h.sorted
      · simp only [onQueue_toSendQueue, hpkts, hsent]
        exact fun id _ hle => hle.trans (hlargest first hfirst)
      · exact fun _ _ => rfl

/-- **ACK processing is exact.** The walk hands the packets of the list whose number lies in some range
to `rqc_send_ctl_on_packet_acked`, each once and no others; it marks these packets and their origins,
and `ctl_largest_acked` becomes the largest one of its old value and their numbers. The walk has no
error and never goes on with an element that it has released. -/
theorem onAckReceived_exact (c : SendCtl) (info : AckInfo) (th : LossThresholds)
    (h : AckReady c.toSendQueue) (hord : info.Ordered)
    (hlargest : ∀ first, info.ranges.head? = some first → first.high ≤ c.largestSent) :
    ∃ hit : List PktId, hit.Nodup ∧
      (∀ id, id ∈ hit ↔ id ∈ c.lists .unackedPackets ∧ info.Acks (c.pkts id).pktNum) ∧
      (c.onAckReceived info th).ackedIds = c.ackedIds ++ hit ∧
      (∀ id, ((c.ackProcess info).ctl.pkts id).poAcked = true ↔
        (c.pkts id).poAcked = true ∨ id ∈ hit ∨ ∃ copy ∈ hit, (c.pkts copy).poOrigin = some id) ∧
      (∀ m, (c.onAckReceived info th).largestAcked = some m ↔
        IsGreatest {n | c.largestAcked = some n ∨ ∃ id ∈ hit, n = (c.pkts id).pktNum} m) ∧
      (c.ackProcess info).err = none ∧ (c.ackProcess info).ctl.nextReleased = c.nextReleased := by
  have hpkts : (ackSentOnAck c.toSendQueue info).sndq.pkts = c.pkts := (ackSentOnAck_fields info).2.1
  have hring : (ackSentOnAck c.toSendQueue info).sndq.largestAcked = c.largestAcked :=
    (ackSentOnAck_fields info).2.2.2
  have hproc := ackProcess_eq_foldl h hlargest
  set start : AckRun := { ctl := c.onQueue fun _ => (ackSentOnAck c.toSendQueue info).sndq
                          hasAcked := (ackSentOnAck c.toSendQueue info).hasAcked
                          needDelRecord := (ackSentOnAck c.toSendQueue info).needDelRecord } with hstart
  have hsp : start.walk.sndq.pkts = c.pkts := hpkts
  have hsl : start.walk.sndq.largestAcked = c.largestAcked := hring
  have hwalk := foldl_walk (c.toSendQueue.reached info) start
  have htrace := foldl_trace (c.toSendQueue.reached info) start
  rw [← hproc] at hwalk htrace
  have hqueue : (c.ackProcess info).ctl.toSendQueue =
      ((c.toSendQueue.reached info).foldl AckWalk.ackPacket start.walk).sndq :=
    congrArg AckWalk.sndq hwalk
  obtain ⟨hids, hnext⟩ := Prod.mk.inj htrace
  have hfinal : (c.onAckReceived info th).ackedIds = (c.ackProcess info).ctl.ackedIds ∧
      (c.onAckReceived info th).largestAcked = (c.ackProcess info).ctl.largestAcked := by
    have hlost : ((c.ackProcess info).ctl.detectLost th).largestAcked =
        (c.ackProcess info).ctl.largestAcked := by
      rw [detectLost_toSendQueue]
      exact (congrArg SendQueue.largestAcked (detectLost_space _ th) :)
    unfold onAckReceived
    dsimp only
    split_ifs
    · exact ⟨rfl, rfl⟩
    · exact ⟨ackedIds_detectLost _ th, hlost⟩
    · exact ⟨ackedIds_detectLost _ th, hlost⟩
  refine ⟨c.toSendQueue.reached info, ?_, fun id => ?_, ?_, fun id => ?_, fun m => ?_, ?_, hnext⟩
  · refine List.Nodup.filter _ (h.sorted.imp fun hlt => ?_)
    rintro rfl
    exact lt_irrefl _ hlt
  · rw [SendQueue.reached, List.mem_filter, AckInfo.reaches_iff hord]
  · rw [hfinal.1, hids]
    rfl
  · rw [hqueue, foldl_poAcked, hsp]
  · rw [hfinal.2, hqueue, foldl_largestAcked, hsp, hsl]
  · exact (congrArg AckWalk.err hwalk :).trans (foldl_err _ _)

/-- Three packets with data wait for their acknowledgement. -/
def threeSentRun : List CtlEvent :=
  [.openStream 0, .queue (.stream false demoParams 0 0 false [1]), .queue (.schedule .normal),
    .queue (.send .normal .sent 100 1000), .queue (.stream false demoParams 0 1 false [2]),
    .queue (.schedule .normal), .queue (.send .normal .sent 100 1000),
    .queue (.stream false demoParams 0 2 false [3]), .queue (.schedule .normal),
    .queue (.send .normal .sent 100 1000)]

theorem onAckReceived_exact_threeSentRun :
    (SendCtl.run {} threeSentRun).lists .unackedPackets = [0, 1, 2] ∧
      ∃ hit : List PktId, hit.Nodup ∧
        (∀ id, id ∈ hit ↔ id ∈ (SendCtl.run {} threeSentRun).lists .unackedPackets ∧
          AckInfo.Acks ⟨[⟨2, 2⟩, ⟨0, 0⟩], 0⟩ ((SendCtl.run {} threeSentRun).pkts id).pktNum) ∧
        ((SendCtl.run {} threeSentRun).onAckReceived ⟨[⟨2, 2⟩, ⟨0, 0⟩], 0⟩ ⟨0, none⟩).ackedIds =
          (SendCtl.run {} threeSentRun).ackedIds ++ hit := by
  have hlist : (SendCtl.run {} threeSentRun).lists .unackedPackets = [0, 1, 2] := by decide +kernel
  have hready : AckReady (SendCtl.run {} threeSentRun).toSendQueue := by
    refine ⟨?_, ?_⟩
    · rw [hlist]
      decide +kernel
    · rw [hlist]
      decide +kernel
  obtain ⟨hit, hnodup, hmem, hids, -⟩ := onAckReceived_exact (SendCtl.run {} threeSentRun)
    ⟨[⟨2, 2⟩, ⟨0, 0⟩], 0⟩ ⟨0, none⟩ hready ⟨by decide, by decide⟩ (by decide +kernel)
  exact ⟨hlist, hit, hnodup, hmem, hids⟩

end SendCtl

end Rquic

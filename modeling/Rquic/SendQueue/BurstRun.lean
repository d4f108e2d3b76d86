import Rquic.SendQueue.Burst
import Rquic.SendQueue.Drop

set_option autoImplicit false

/-!
# Runs of bursts

A batch does what sending its packets one by one does.

* `indirectlyAckOrDropPo_lists`, `prepareBurst_lists`: which packets leave the lists.
* `poOrigin_of_drop`: only copies are dropped from a path buffer.
* `burstFates`, `batchEvents`: what becomes of each packet of a burst and of a batch, one by one.
* `prepareBurst_run`, `sendBurst_run`, `sendBatch_run`: a burst that the socket takes is that run.
* **`batch_is_run`**: so is a batch.
-/

namespace Rquic

section

variable {s s' : SendQueue} {id b c : PktId} {t : SendType}

/-! ## What leaves the lists -/

theorem leaveList_lists (s : SendQueue) (id : PktId) (path : Bool) (q : Place) :
    (leaveList s id path).lists q = (s.lists q).filter (· ≠ id) := by
  unfold leaveList
  split_ifs <;> rfl

theorem maybeRemoveUnacked_lists (s : SendQueue) (id : PktId) (path : Bool) : ∃ stays : PktId → Bool,
    (∀ q, (maybeRemoveUnacked s id path).lists q = (s.lists q).filter stays) ∧
      (∀ c, c ≠ id → (s.pkts id).poOrigin ≠ some c → stays c = true) ∧
      ((s.pkts id).poOrigin ≠ none → stays id = false) := by
  unfold maybeRemoveUnacked
  cases ho : (s.pkts id).poOrigin with
  | none =>
      dsimp only
      split_ifs
      · exact ⟨fun _ => true, fun q => by simp, fun _ _ _ => rfl, fun habs => absurd rfl habs⟩
      · exact ⟨(· ≠ id), leaveList_lists s id path, fun c hc _ => by simpa using hc, fun habs => absurd rfl habs⟩
  | some origin =>
      dsimp only
      unfold releaseOrigin
      split_ifs
      · refine ⟨fun c => c ≠ id ∧ c ≠ origin, fun q => ?_, fun c hc hne => ?_, fun _ => by simp⟩
        · change ((leaveList s id path).lists q).filter (· ≠ origin) = _
          rw [leaveList_lists, List.filter_filter]
          refine List.filter_congr fun c _ => ?_
          simp [Bool.and_comm]
        · have hne' : c ≠ origin := fun heq => hne (heq ▸ rfl)
          simpa using ⟨hc, hne'⟩
      · exact ⟨(· ≠ id), leaveList_lists s id path, fun c hc _ => by simpa using hc, fun _ => by simp⟩

/-- A packet that is dropped leaves the lists, and its origin may leave with it. -/
theorem indirectlyAckOrDropPo_lists (hs : indirectlyAckOrDropPo s id = some s') : ∃ stays : PktId → Bool,
    (∀ q, s'.lists q = (s.lists q).filter stays) ∧
      (∀ c, c ≠ id → (s.pkts id).poOrigin ≠ some c → stays c = true) ∧
      ((s.pkts id).poOrigin ≠ none → stays id = false) := by
  obtain ⟨-, rfl⟩ := indirectlyAckOrDropPo_eq_some.1 hs
  split_ifs
  · have hstays := maybeRemoveUnacked_lists (onPacketAcked s id) id true
    rwa [(onPacketAcked_arranges s id).origin id, onPacketAcked_lists] at hstays
  · exact maybeRemoveUnacked_lists s id true

/-- Preparing a burst takes out packets of the burst and their origins. -/
theorem prepareBurst_lists (allows : BurstCheck) (t : SendType) (now room total : ℕ) {ids : List PktId}
    (s : SendQueue) (hb : b ∉ ids) (horigin : ∀ c ∈ ids, (s.pkts c).poOrigin ≠ some b) :
    ∃ stays : PktId → Bool, stays b = true ∧
      ∀ q, (prepareBurst allows t now room total ids s).2.lists q = (s.lists q).filter stays := by
  induction ids generalizing room total s with
  | nil => cases room <;> exact ⟨fun _ => true, rfl, fun q => by simp [prepareBurst]⟩
  | cons c ids ih =>
      have hc : b ≠ c := fun heq => hb (heq ▸ List.mem_cons_self)
      have hids : b ∉ ids := fun hmem => hb (List.mem_cons_of_mem _ hmem)
      cases room with
      | zero => exact ⟨fun _ => true, rfl, fun q => by simp [prepareBurst]⟩
      | succ room =>
          rw [prepareBurst]
          cases hs : indirectlyAckOrDropPo s c with
          | some s' =>
              obtain ⟨stays, hlists, hkeep, -⟩ := indirectlyAckOrDropPo_lists hs
              obtain ⟨stays', hb', hlists'⟩ := ih (room + 1) total s' hids
                ((indirectlyAckOrDropPo_arranges hs).poOrigin_ne horigin)
              refine ⟨fun c => stays' c && stays c, ?_, fun q => ?_⟩
              · dsimp only
                rw [hb', hkeep b hc (horigin c List.mem_cons_self), Bool.and_self]
              · dsimp only
                rw [hlists' q, hlists q, List.filter_filter]
          | none =>
              have hmark := markRetrans_arranges s t c
              dsimp only
              split_ifs
              · obtain ⟨stays, hb', hlists⟩ := ih room (total + (s.pkts c).poBuf.length) _ hids
                  ((hmark.trans (setNextPn_arranges _ c now)).poOrigin_ne horigin)
                refine ⟨stays, hb', fun q => ?_⟩
                rw [hlists q]
                exact congrArg (fun lists => (lists q).filter stays) (markRetrans_lists s t c)
              · exact ⟨fun _ => true, rfl, fun q => by simp [markRetrans_lists]⟩

theorem ship_lists (s : SendQueue) (b : PktId) (srtt now : ℕ) (t : SendType) :
    (ship s b srtt now).lists (.scheduleBuf t) = (s.lists (.scheduleBuf t)).filter (· ≠ b) := by
  have hne : Place.scheduleBuf t ≠ .unackedPackets := fun habs => by cases habs
  rw [ship, commitSent_eq]
  dsimp only
  split_ifs
  · rw [SendQueue.pushTail_lists_of_ne _ _ hne]
    rfl
  · rfl

/-- A prepared packet stays at the head while those behind it are prepared, and when it leaves it uncovers
them. -/
theorem prepareBurst_head (allows : BurstCheck) (srtt now room total : ℕ) {ids : List PktId}
    (hbuf : s.lists (.scheduleBuf t) = b :: ids) (hb : b ∉ ids)
    (horigin : ∀ c ∈ ids, (s.pkts c).poOrigin ≠ some b) : ∃ rest,
    (prepareBurst allows t now room total ids s).2.lists (.scheduleBuf t) = b :: rest ∧
      (ship (prepareBurst allows t now room total ids s).2 b srtt now).lists (.scheduleBuf t) = rest := by
  obtain ⟨stays, hstay, hlists⟩ := prepareBurst_lists allows t now room total s hb horigin
  refine ⟨ids.filter stays, ?_, ?_⟩
  · rw [hlists, hbuf, List.filter_cons_of_pos hstay]
  · rw [ship_lists, hlists, hbuf, List.filter_cons_of_pos hstay, List.filter_cons_of_neg (by simp),
      List.filter_eq_self]
    intro c hc
    have hne : c ≠ b := fun heq => hb (heq ▸ (List.mem_filter.1 hc).1)
    simpa using hne

/-! ## The path buffer of a reached state -/

/-- Only copies are dropped: an original that waits has no copy, so nothing of it was acknowledged. -/
theorem poOrigin_of_drop {e : ℕ} {acks : ℕ → Prop} {gone : PktId → Prop} (hq : QueueInv e s)
    (hf : FamilyInv acks gone s) (hwait : s.Waiting id) (hs : indirectlyAckOrDropPo s id = some s') :
    (s.pkts id).poOrigin ≠ none := by
  intro ho
  have hid : id < s.nextId := by
    obtain ⟨p, -, hmem⟩ := hwait
    exact hq.fresh p id hmem
  have hroot : s.root id = id := by rw [SendQueue.root, ho, Option.getD_none]
  have hack := root_acked hq hid (indirectlyAckOrDropPo_eq_some.1 hs).1
  rw [hroot] at hack
  obtain ⟨m, hm, hm', hsent, -⟩ := hf.acked id hid hack
  rw [hroot] at hm'
  cases hmo : (s.pkts m).poOrigin with
  | none =>
      rw [SendQueue.root, hmo, Option.getD_none] at hm'
      exact hsent (hm' ▸ hwait)
  | some origin =>
      rw [SendQueue.root, hmo, Option.getD_some] at hm'
      exact (hq.family m hm origin hmo).sent (hm' ▸ hwait)

variable {e : ℕ} {ids : List PktId}

theorem QueueInv.poOrigin_ne (hq : QueueInv e s) (hc : c ∈ s.lists (.scheduleBuf t))
    (hb : b ∈ s.lists (.scheduleBuf t)) : (s.pkts c).poOrigin ≠ some b := by
  intro ho
  have hne : Place.scheduleBuf t ≠ .unackedPackets := fun habs => by cases habs
  exact (hq.family c (hq.fresh _ c hc) b ho).sent ⟨_, hne, hb⟩

/-- A packet that is dropped at the head of a path buffer leaves the rest as it is. -/
theorem dropped_lists {acks : ℕ → Prop} {gone : PktId → Prop} (hq : QueueInv e s) (hf : FamilyInv acks gone s)
    (hbuf : s.lists (.scheduleBuf t) = id :: ids) (hnodup : (id :: ids).Nodup)
    (hs : indirectlyAckOrDropPo s id = some s') : s'.lists (.scheduleBuf t) = ids := by
  have hne : Place.scheduleBuf t ≠ .unackedPackets := fun habs => by cases habs
  have hmem : id ∈ s.lists (.scheduleBuf t) := hbuf ▸ List.mem_cons_self
  obtain ⟨stays, hlists, hkeep, hgone⟩ := indirectlyAckOrDropPo_lists hs
  have hid : stays id = false := hgone (poOrigin_of_drop hq hf ⟨_, hne, hmem⟩ hs)
  rw [hlists, hbuf, List.filter_cons_of_neg (by simp [hid]), List.filter_eq_self]
  intro c hc
  have hc' : c ≠ id := fun heq => (List.nodup_cons.1 hnodup).1 (heq ▸ hc)
  exact hkeep c hc' (hq.poOrigin_ne hmem (hbuf ▸ List.mem_cons_of_mem _ hc))

theorem transmit_lists (srtt now : ℕ) (hbuf : s.lists (.scheduleBuf t) = id :: ids) (hnodup : (id :: ids).Nodup) :
    (transmit s id srtt now).lists (.scheduleBuf t) = ids := by
  have hne : Place.scheduleBuf t ≠ .unackedPackets := fun habs => by cases habs
  have hrest : (s.unlink id).lists (.scheduleBuf t) = ids := by
    rw [SendQueue.unlink_lists, hbuf, List.filter_cons_of_neg (by simp), List.filter_eq_self]
    intro c hc
    have hc' : c ≠ id := fun heq => (List.nodup_cons.1 hnodup).1 (heq ▸ hc)
    simpa using hc'
  rw [transmit_eq]
  dsimp only
  split_ifs
  · rw [SendQueue.pushTail_lists_of_ne _ _ hne]
    exact hrest
  · exact hrest

/-! ## Batches -/

/-- The queue after a run. -/
def SendQueue.Reached (s : SendQueue) : Prop :=
  ∃ evs : List SendEvent, (∀ ev ∈ evs, ev.Wf) ∧ SendQueue.run {} evs = s

theorem SendQueue.Reached.inv (h : s.Reached) : QueueInv 0 s ∧
    (∃ evs, FamilyInv (RunAcks evs) (RunForgets evs) s) ∧ ∀ t, (s.lists (.scheduleBuf t)).Nodup := by
  obtain ⟨evs, hwf, rfl⟩ := h
  exact ⟨(run_inv 0 evs hwf).1, ⟨evs, run_familyInv 0 evs hwf⟩, fun t => (run_lined evs).nodup (.scheduleBuf t)⟩

theorem SendQueue.Reached.send (h : s.Reached) (t : SendType) (outcome : SendOutcome) (srtt now : ℕ) :
    (sendPacket s t outcome srtt now).Reached := by
  obtain ⟨evs, hwf, rfl⟩ := h
  refine ⟨evs ++ [.send t outcome srtt now], fun ev hev => ?_, SendQueue.run_append ..⟩
  rcases List.mem_append.1 hev with hev | hev
  · exact hwf ev hev
  · rw [List.mem_singleton.1 hev]
    trivial

theorem sendPacket_dropped (outcome : SendOutcome) (srtt now : ℕ) (hbuf : s.lists (.scheduleBuf t) = id :: ids)
    (hs : indirectlyAckOrDropPo s id = some s') : sendPacket s t outcome srtt now = s' := by
  simp only [sendPacket, hbuf, hs]

theorem sendPacket_blocked (srtt now : ℕ) (hbuf : s.lists (.scheduleBuf t) = id :: ids)
    (hs : indirectlyAckOrDropPo s id = none) : sendPacket s t .blocked srtt now = markRetrans s t id := by
  simp only [sendPacket, hbuf, hs]

theorem sendPacket_sent (srtt now : ℕ) (hbuf : s.lists (.scheduleBuf t) = id :: ids)
    (hs : indirectlyAckOrDropPo s id = none) :
    sendPacket s t .sent srtt now = ship (setNextPn (markRetrans s t id) id now) id srtt now := by
  simp only [sendPacket, hbuf, hs, ship_setNextPn]

/-- What becomes of a packet of a path buffer: it was acknowledged meanwhile, it is sent, or it is held
back. -/
inductive Fate where
  | dropped
  | sent
  | held
deriving DecidableEq

/-- The outcome under which the packet is sent on its own. One that was acknowledged is dropped under any. -/
def Fate.outcome : Fate → SendOutcome
  | dropped | sent => .sent
  | held => .blocked

/-- The packets of a path buffer that are sent one by one. -/
def sendEach (t : SendType) (srtt now : ℕ) (fates : List Fate) : List SendEvent :=
  fates.map fun fate => .send t fate.outcome srtt now

/-- The fates of the first packets of a path buffer, of which so many may be sent, where each is sent before
the next one is looked at. The checks decide, and the first packet that they refuse is the last one. -/
def burstFates (allows : BurstCheck) (t : SendType) (srtt now : ℕ) :
    ℕ → ℕ → List PktId → SendQueue → List Fate
  | _, _, [], _ => []
  | 0, _, _ :: _, _ => []
  | room + 1, total, id :: ids, s =>
    if (indirectlyAckOrDropPo s id).isSome then
      .dropped :: burstFates allows t srtt now (room + 1) total ids (sendPacket s t .sent srtt now)
    else if allows id total then
      .sent :: burstFates allows t srtt now room (total + (s.pkts id).poBuf.length) ids
        (sendPacket s t .sent srtt now)
    else [.held]

/-- The packets of a batch that are sent one by one: burst by burst, as long as a burst is full and packets are
left. -/
def batchEvents (t : SendType) (srtt : ℕ) : List BurstRound → SendQueue → List SendEvent
  | [], _ => []
  | round :: rounds, s =>
    if s.lists (.scheduleBuf t) = [] then []
    else
      let fates := burstFates round.allows t srtt round.now maxSendMsgOnce 0 (s.lists (.scheduleBuf t)) s
      let sends := sendEach t srtt round.now fates
      if fates.count .sent = maxSendMsgOnce then sends ++ batchEvents t srtt rounds (s.run sends) else sends

theorem run_sendEach_cons (s : SendQueue) (t : SendType) (srtt now : ℕ) (fate : Fate) (fates : List Fate) :
    s.run (sendEach t srtt now (fate :: fates)) =
      (sendPacket s t fate.outcome srtt now).run (sendEach t srtt now fates) := rfl

theorem SendQueue.Reached.sendEach (h : s.Reached) (t : SendType) (srtt now : ℕ) (fates : List Fate) :
    (s.run (sendEach t srtt now fates)).Reached := by
  induction fates generalizing s with
  | nil => exact h
  | cons fate fates ih => exact ih (h.send t fate.outcome srtt now)

/-- **A prepared burst that is sent is a run**, and its packets stand in front in the path buffer. -/
theorem prepareBurst_run (allows : BurstCheck) (srtt now room total : ℕ) {ids : List PktId} (h : s.Reached)
    (hbuf : s.lists (.scheduleBuf t) = ids) {r : List PktId × SendQueue}
    (hr : prepareBurst allows t now room total ids s = r) :
    r.1.length = (burstFates allows t srtt now room total ids s).count .sent ∧
      r.1.foldl (fun s id => ship s id srtt now) r.2 =
        s.run (sendEach t srtt now (burstFates allows t srtt now room total ids s)) ∧
      r.1 <+: r.2.lists (.scheduleBuf t) := by
  induction ids generalizing room total s r with
  | nil =>
      obtain rfl : ([], s) = r := by cases room <;> exact hr
      cases room <;> exact ⟨rfl, rfl, List.nil_prefix⟩
  | cons id ids ih =>
      cases room with
      | zero =>
          obtain rfl : ([], s) = r := hr
          exact ⟨rfl, rfl, List.nil_prefix⟩
      | succ room =>
          obtain ⟨hq, ⟨evs, hf⟩, hbufs⟩ := h.inv
          have hnodup : (id :: ids).Nodup := hbuf ▸ hbufs t
          obtain ⟨hid, -⟩ := List.nodup_cons.1 hnodup
          have hnext := h.send t .sent srtt now
          rw [prepareBurst] at hr
          rw [burstFates]
          cases hs : indirectlyAckOrDropPo s id with
          | some s' =>
              rw [hs] at hr
              have hdropped := sendPacket_dropped .sent srtt now hbuf hs
              rw [hdropped] at hnext
              obtain ⟨hcount, hrun, hfront⟩ := ih (room + 1) total hnext (dropped_lists hq hf hbuf hnodup hs) hr
              rw [Option.isSome_some, if_pos rfl, hdropped, run_sendEach_cons, Fate.outcome, hdropped]
              refine ⟨?_, hrun, hfront⟩
              rwa [List.count_cons_of_ne (by decide)]
          | none =>
              rw [hs] at hr
              dsimp only at hr
              rw [Option.isSome_none, if_neg (by decide)]
              split_ifs at hr ⊢ with hallows
              · -- the packet leaves before the rest is prepared
                have hsent := sendPacket_sent srtt now hbuf hs
                rw [hsent] at hnext
                set s₁ := setNextPn (markRetrans s t id) id now with hs₁
                have hmark := (markRetrans_arranges s t id).trans (setNextPn_arranges _ id now)
                have hmarked : (markRetrans s t id).lists (.scheduleBuf t) = id :: ids := by
                  rw [markRetrans_lists, hbuf]
                have hlists : s₁.lists (.scheduleBuf t) = id :: ids := hmarked
                have horigin : ∀ c ∈ ids, (s₁.pkts c).poOrigin ≠ some id := by
                  intro c hc
                  rw [hmark.origin c]
                  exact hq.poOrigin_ne (hbuf ▸ List.mem_cons_of_mem _ hc) (hbuf ▸ List.mem_cons_self)
                obtain ⟨rest, hhead, hrest⟩ := prepareBurst_head allows srtt now room
                  (total + (s.pkts id).poBuf.length) hlists hid horigin
                obtain ⟨hcount, hrun, hfront⟩ := ih room (total + (s.pkts id).poBuf.length) hnext
                  (transmit_lists srtt now hmarked hnodup)
                  (prepareBurst_ship allows t srtt now room _ s₁ hid horigin)
                rw [← hr, run_sendEach_cons, Fate.outcome, hsent]
                refine ⟨?_, hrun, ?_⟩
                · rw [List.length_cons, hcount, List.count_cons_self]
                · rw [hhead]
                  exact List.cons_prefix_cons.2 ⟨rfl, hrest ▸ hfront⟩
              · rw [← hr, run_sendEach_cons, Fate.outcome, sendPacket_blocked srtt now hbuf hs]
                exact ⟨rfl, rfl, List.nil_prefix⟩

theorem sendBurst_run (srtt : ℕ) (h : s.Reached) {round : BurstRound} (htaken : ∀ n, round.taken n = n)
    {fates : List Fate}
    (hfates : burstFates round.allows t srtt round.now maxSendMsgOnce 0 (s.lists (.scheduleBuf t)) s = fates) :
    sendBurst s t srtt round = (s.run (sendEach t srtt round.now fates), fates.count .sent) := by
  obtain ⟨hcount, hrun, hfront⟩ := prepareBurst_run round.allows srtt round.now maxSendMsgOnce 0 h rfl rfl
  rw [hfates] at hcount hrun
  rw [sendBurst, htaken, List.take_length, ← List.prefix_iff_eq_take.1 hfront, foldl_commitSent_writeSocket]
  exact Prod.ext hrun hcount

theorem sendBatch_run (srtt : ℕ) (rounds : List BurstRound) (h : s.Reached)
    (htaken : ∀ round ∈ rounds, ∀ n, round.taken n = n) :
    sendBatch t srtt rounds s = s.run (batchEvents t srtt rounds s) := by
  induction rounds generalizing s with
  | nil => rfl
  | cons round rounds ih =>
      have hrounds : ∀ r ∈ rounds, ∀ n, r.taken n = n := fun r hr => htaken r (List.mem_cons_of_mem _ hr)
      rw [sendBatch, batchEvents, sendBurst_run srtt h (htaken round List.mem_cons_self) rfl]
      dsimp only
      split_ifs
      · rfl
      · rw [ih (h.sendEach t srtt round.now _) hrounds, SendQueue.run, SendQueue.run, SendQueue.run,
          List.foldl_append]
      · rfl

end

/-- **A batch is a run.** Whatever the congestion window and the pacer say about the packets of each burst, and
however many bursts there are: where the socket takes every packet that was prepared, the queue and what was
given to the socket are as if the packets of the path buffer had been sent one by one. A packet that was
acknowledged meanwhile is dropped, one that the checks allow is sent, and one that they refuse is held back and
is the last one; behind 32 packets that were sent the checks of the next burst decide. -/
theorem batch_is_run (evs : List SendEvent) (hwf : ∀ ev ∈ evs, ev.Wf) (t : SendType) (srtt : ℕ)
    (rounds : List BurstRound) (htaken : ∀ round ∈ rounds, ∀ n, round.taken n = n) :
    sendBatch t srtt rounds (SendQueue.run {} evs) =
      SendQueue.run {} (evs ++ batchEvents t srtt rounds (SendQueue.run {} evs)) := by
  rw [sendBatch_run srtt rounds ⟨evs, hwf, rfl⟩ htaken, SendQueue.run, SendQueue.run, SendQueue.run,
    List.foldl_append]

/-- Three packets in the path buffer. -/
def burstRun : List SendEvent :=
  [.stream false demoParams 4 0 false [1, 2, 3], .schedule .normal, .stream false demoParams 8 0 false [4, 5],
    .schedule .normal, .stream false demoParams 12 0 false [6], .schedule .normal]

/-- A burst whose checks allow packets as long as fewer than 20 bytes are in front. -/
def twoAllowed : BurstRound := ⟨fun _ total => total < 20, 7, id⟩

/-- Two packets are sent, and the third one is held back. -/
theorem batch_is_run_burstRun :
    (sendBatch .normal 0 [twoAllowed] (SendQueue.run {} burstRun)).wire.map (fun w => w.pktNum) = [0, 1] ∧
      (sendBatch .normal 0 [twoAllowed] (SendQueue.run {} burstRun)).lists (.scheduleBuf .normal) = [2] ∧
      sendBatch .normal 0 [twoAllowed] (SendQueue.run {} burstRun) =
        SendQueue.run {} (burstRun ++
          [.send .normal .sent 0 7, .send .normal .sent 0 7, .send .normal .blocked 0 7]) := by
  refine ⟨by decide +kernel, by decide +kernel, ?_⟩
  have hwf : ∀ ev ∈ burstRun, ev.Wf := by simp [burstRun, SendEvent.Wf]
  exact batch_is_run burstRun hwf .normal 0 [twoAllowed] fun round hround n => by
    rw [List.mem_singleton.1 hround]
    rfl

end Rquic

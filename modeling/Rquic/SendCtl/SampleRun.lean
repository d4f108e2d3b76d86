import Rquic.SendCtl.SampleSteps

set_option autoImplicit false

/-!
# Delivery-rate samples over whole runs

* `SampleInv`, **`SampleInv.step`**: the counters bound what is recorded, and what is counted is counted once.
* `SampleCtl.run_delivered`: `ctl_delivered` never decreases.
* `TimeInv`, **`TimeInv.step`**: the times, if no time of sending or of receiving goes back.
* **`sampling_sound`**: the runs.
-/

namespace Rquic

/-! ## What is recorded and what is counted -/

/-- What a packet has recorded is not larger than the counters. -/
structure Recorded (delivered lostTotal : ℕ) (p : PktSample) : Prop where
  delivered : p.delivered ≤ delivered
  lost : lostTotal < 2 ^ 32 → p.lost ≤ lostTotal

theorem Recorded.mono {delivered delivered' lostTotal lostTotal' : ℕ} {p : PktSample}
    (h : Recorded delivered lostTotal p) (hd : delivered ≤ delivered') (hl : lostTotal ≤ lostTotal') :
    Recorded delivered' lostTotal' p where
  delivered := h.delivered.trans hd
  lost hlost := (h.lost (hl.trans_lt hlost)).trans hl

/-- The counters bound what is recorded, and the packets that are counted were sent. -/
structure SampleInv (c : SampleCtl) : Prop where
  sent : SentOnce c.sentIds c.toSendQueue
  once : (c.counted.map Prod.fst).Nodup
  counted : ∀ id ∈ c.counted.map Prod.fst, id ∈ c.sentIds ∧ (c.samples id).deliveredTime = 0
  delivered : c.delivered = (c.counted.map Prod.snd).sum
  lostNumber : c.lostPktsNumber = c.lostTotal % 2 ^ 32
  packets : ∀ id, Recorded c.delivered c.lostTotal (c.samples id)
  sampler : c.sampler.priorDelivered ≤ c.delivered
  samplerLost : c.lostTotal < 2 ^ 32 → c.sampler.priorLost ≤ c.lostTotal
  prior : c.priorDelivered ≤ c.delivered
  amounts : ∀ d ∈ c.amounts, d.2 ≤ d.1
  losses : c.lostTotal < 2 ^ 32 → ∀ d ∈ c.losses, d.2 ≤ d.1

namespace SampleInv

variable {c : SampleCtl}

theorem create (env : LossEnv) (usesSamples : Bool) : SampleInv (SampleCtl.create env usesSamples) where
  sent := .init
  once := List.nodup_nil
  counted := fun _ hid => by cases hid
  delivered := rfl
  lostNumber := rfl
  packets := fun _ => ⟨le_rfl, fun _ => le_rfl⟩
  sampler := le_rfl
  samplerLost := fun _ => le_rfl
  prior := le_rfl
  amounts := fun _ hd => by cases hd
  losses := fun _ _ hd => by cases hd

theorem silent (h : SampleInv c) {l : LossCtl} (hs : Silent c.toSendQueue l.toSendQueue) :
    SampleInv { c with toLossCtl := l } :=
  { h with sent := h.sent.silent hs }

/-- **The bytes of a packet are counted.** -/
theorem count (h : SampleInv c) {id : PktId} (hid : id ∈ c.sentIds)
    (hnew : (c.samples id).deliveredTime ≠ 0) (now n first : ℕ) (elapses : List (ℕ × ℕ))
    {sampler : Sampler} (hsampler : sampler.priorDelivered ≤ c.delivered)
    (hlost : c.lostTotal < 2 ^ 32 → sampler.priorLost ≤ c.lostTotal) :
    SampleInv { c with
      delivered := c.delivered + n
      deliveredTime := now
      counted := c.counted ++ [(id, n)]
      sampler := sampler
      firstSentTime := first
      elapses := elapses
      samples := Function.update c.samples id { c.samples id with deliveredTime := 0 } } := by
  have hle : c.delivered ≤ c.delivered + n := Nat.le_add_right _ _
  refine ⟨h.sent, ?_, fun i hi => ?_, ?_, h.lostNumber, fun i => ?_, hsampler.trans hle, hlost,
    h.prior.trans hle, h.amounts, h.losses⟩
  · rw [List.map_append, List.map_singleton, List.nodup_append]
    refine ⟨h.once, List.nodup_singleton _, fun i hi j hj => ?_⟩
    rintro rfl
    rw [List.mem_singleton.1 hj] at hi
    exact hnew (h.counted id hi).2
  · dsimp only at hi ⊢
    by_cases heq : i = id
    · rw [heq, Function.update_self]
      exact ⟨hid, rfl⟩
    · rw [List.map_append, List.mem_append] at hi
      have hold := hi.resolve_right fun habs => heq (List.mem_singleton.1 habs)
      rw [Function.update_of_ne heq]
      exact h.counted i hold
  · rw [List.map_append, List.sum_append, List.map_singleton, List.sum_singleton, ← h.delivered]
  · have hrecorded := fun i => (h.packets i).mono hle le_rfl
    dsimp only
    by_cases heq : i = id
    · rw [heq, Function.update_self]
      exact ⟨(hrecorded id).delivered, (hrecorded id).lost⟩
    · rw [Function.update_of_ne heq]
      exact hrecorded i

theorem updateSample (h : SampleInv c) (env : LossEnv) (now : ℕ) {id : PktId} (hid : id ∈ c.sentIds) :
    SampleInv (c.updateSample env now id) := by
  unfold SampleCtl.updateSample
  dsimp only
  split_ifs with hcounted hnewest
  · exact h
  · exact h.count hid hcounted now _ _ _ (h.packets id).delivered (h.packets id).lost
  · exact h.count hid hcounted now _ _ _ h.sampler h.samplerLost

theorem foldl_updateSample (h : SampleInv c) (env : LossEnv) (now : ℕ) {ids : List PktId}
    (hids : ids ⊆ c.sentIds) : SampleInv (ids.foldl (fun c id => c.updateSample env now id) c) := by
  induction ids generalizing c with
  | nil => exact h
  | cons id ids ih =>
      obtain ⟨hid, hids⟩ := List.cons_subset.1 hids
      refine ih (h.updateSample env now hid) ?_
      have hsame : (c.updateSample env now id).sentIds = c.sentIds := by
        unfold SampleCtl.updateSample
        dsimp only
        split_ifs <;> rfl
      rwa [hsame]

theorem clear (h : SampleInv c) {priorDelivered : ℕ} (hprior : priorDelivered ≤ c.delivered)
    (priorBytesInFlight : ℕ) : SampleInv { c with
      sampler := {}, priorDelivered := priorDelivered, priorBytesInFlight := priorBytesInFlight } :=
  { h with
    sampler := Nat.zero_le _
    samplerLost := fun _ => Nat.zero_le _
    prior := hprior }

theorem sampleAcked (h : SampleInv c) (env : LossEnv) {acked : List PktId} (ackRecvTime : ℕ)
    (hacked : acked ⊆ c.sentIds) : SampleInv (c.sampleAcked env acked ackRecvTime) := by
  unfold SampleCtl.sampleAcked
  split
  · exact h.clear h.prior _
  · exact (h.clear le_rfl _).foldl_updateSample env ackRecvTime hacked

/-- **Losses are counted, and copies take over what is recorded.** -/
theorem sampleLost (h : SampleInv c) {l : LossCtl} (hle : c.nextId ≤ l.nextId) (now : ℕ) :
    SampleInv (c.sampleLost l now) := by
  obtain ⟨samples, number, lostN, loss, htakes, hnumber, heq⟩ := c.sampleLost_eq l now
  have htotal : c.lostTotal ≤ c.lostTotal + lostN := Nat.le_add_right _ _
  rw [heq]
  refine ⟨h.sent, h.once, fun id hid => ?_, h.delivered, ?_, fun id => ?_, h.sampler, fun hlost => ?_,
    h.prior, h.amounts, fun hlost => h.losses (htotal.trans_lt hlost)⟩
  · obtain ⟨hsent, hzero⟩ := h.counted id hid
    dsimp only
    rw [htakes.old id ((h.sent.gone id hsent).1.trans_le hle)]
    exact ⟨hsent, hzero⟩
  · have hold := h.lostNumber
    rcases hnumber with ⟨rfl, rfl⟩ | rfl
    · exact hold
    · dsimp only
      unfold u32Add
      omega
  · obtain ⟨src, hsrc⟩ := htakes.source id
    dsimp only
    rw [hsrc]
    exact (h.packets src).mono le_rfl htotal
  · exact (h.samplerLost (htotal.trans_lt hlost)).trans htotal

theorem takesOver (h : SampleInv c) {samples : PktId → PktSample}
    (htakes : TakesOver c.nextId c.samples samples) : SampleInv { c with samples := samples } := by
  refine { h with counted := fun id hid => ?_, packets := fun id => ?_ }
  · obtain ⟨hsent, hzero⟩ := h.counted id hid
    dsimp only
    rw [htakes.old id (h.sent.gone id hsent).1]
    exact ⟨hsent, hzero⟩
  · obtain ⟨src, hsrc⟩ := htakes.source id
    dsimp only
    rw [hsrc]
    exact h.packets src

/-- **The differences of `rqc_generate_sample`.** -/
theorem generateSample (h : SampleInv c) (now : ℕ) : SampleInv (c.generateSample now).1 := by
  unfold SampleCtl.generateSample
  by_cases hnothing : c.sampler.priorTime = 0
  · rw [if_pos hnothing]
    exact { h with }
  · rw [if_neg hnothing]
    refine { h with amounts := fun d hd => ?_, losses := fun hlost d hd => ?_ }
    · rcases List.mem_append.1 hd with hd | hd
      · exact h.amounts d hd
      · rcases List.mem_pair.1 hd with rfl | rfl
        · exact h.prior
        · exact h.sampler
    · rcases List.mem_append.1 hd with hd | hd
      · exact h.losses hlost d hd
      · rw [List.mem_singleton.1 hd]
        have hsampler := h.samplerLost hlost
        rwa [← Nat.mod_eq_of_lt hlost, ← h.lostNumber] at hsampler

theorem finishSample (h : SampleInv c) (ackRecvTime : ℕ) : SampleInv (c.finishSample ackRecvTime) := by
  have hclear : SampleInv { c with appLimited := 0 } := { h with }
  unfold SampleCtl.finishSample
  dsimp only
  split_ifs
  · exact hclear.generateSample ackRecvTime
  · exact hclear
  · exact h.generateSample ackRecvTime
  · exact h

theorem acked (h : SampleInv c) (env : LossEnv) (info : AckInfo) (ackRecvTime : ℕ) :
    SampleInv (c.sampleAcked env (LossCtl.newlyAcked c.toSendCtl (c.toSendCtl.ackProcess info).ctl)
      ackRecvTime) :=
  h.sampleAcked env ackRecvTime (List.Subset.trans (c.toSendCtl.newlyAcked_subset info) h.sent.listed)

theorem lost (h : SampleInv c) (env : LossEnv) (info : AckInfo) (ackRecvTime clock : ℕ) :
    SampleInv ((c.sampleAcked env (LossCtl.newlyAcked c.toSendCtl (c.toSendCtl.ackProcess info).ctl)
      ackRecvTime).sampleLost (c.toLossCtl.beforeLosses env info ackRecvTime clock) ackRecvTime) := by
  apply (h.acked env info ackRecvTime).sampleLost
  rw [SampleCtl.sampleAcked_toLossCtl, LossCtl.beforeLosses_toSendCtl]
  exact (c.toSendCtl.ackProcess_silent info).nextId

theorem onAckReceived (h : SampleInv c) (env : LossEnv) (info : AckInfo) (ackRecvTime clock : ℕ) :
    SampleInv (c.onAckReceived env info ackRecvTime clock) := by
  have hsilent := c.toLossCtl.onAckReceived_silent env info ackRecvTime clock
  unfold SampleCtl.onAckReceived
  dsimp only
  split_ifs
  · apply (h.acked env info ackRecvTime).silent
    rwa [SampleCtl.sampleAcked_toLossCtl]
  · apply finishSample
    apply (h.lost env info ackRecvTime clock).silent
    rwa [SampleCtl.sampleLost_toLossCtl, SampleCtl.sampleAcked_toLossCtl]

/-- **A packet is sent and records the counters.** -/
theorem send (h : SampleInv c) {id : PktId} {now : ℕ} {l : LossCtl}
    (ht : Transmits id now c.toSendQueue l.toSendQueue) (time first : ℕ) {p : PktSample}
    (hp : Recorded c.delivered c.lostTotal p) : SampleInv { c with
      toLossCtl := l
      deliveredTime := time
      firstSentTime := first
      samples := Function.update c.samples id p
      sentIds := id :: c.sentIds } := by
  obtain ⟨hnew, hsent⟩ := h.sent.transmits ht
  refine { h with sent := hsent, counted := fun i hi => ?_, packets := fun i => ?_ }
  · obtain ⟨hmem, hzero⟩ := h.counted i hi
    have hne : i ≠ id := by
      rintro rfl
      exact hnew hmem
    dsimp only
    rw [Function.update_of_ne hne]
    exact ⟨List.mem_cons_of_mem _ hmem, hzero⟩
  · dsimp only
    by_cases heq : i = id
    · rwa [heq, Function.update_self]
    · rw [Function.update_of_ne heq]
      exact h.packets i

theorem sendPacket (h : SampleInv c) (env : LossEnv) (t : SendType) (outcome : SendOutcome)
    (now clock : ℕ) : SampleInv (c.sendPacket env t outcome now clock) := by
  rcases c.sendPacket_cases env t outcome now clock rfl with
    ⟨hsilent, heq⟩ | ⟨id, time, first, p, ht, -, ⟨hdelivered, hlost⟩, -, heq⟩
  · rw [heq]
    exact h.silent hsilent
  · have hrecorded : Recorded c.delivered c.lostTotal p :=
      ⟨hdelivered.le, fun _ => hlost ▸ h.lostNumber ▸ Nat.mod_le _ _⟩
    rw [heq]
    exact h.send ht time first hrecorded

theorem timerExpire (h : SampleInv c) (env : LossEnv) (params : PktParams) (now clock : ℕ) :
    SampleInv (c.timerExpire env params now clock) := by
  have hsilent := c.toLossCtl.timerExpire_silent env params now clock
  unfold SampleCtl.timerExpire
  dsimp only
  split_ifs
  · apply (h.sampleLost (l := c.toLossCtl) le_rfl now).silent
    rwa [SampleCtl.sampleLost_toLossCtl]
  · exact (h.takesOver (SampleCtl.sampleProbes_takesOver c.toSendCtl c.samples)).silent hsilent
  · exact h.silent hsilent
  · exact h.silent hsilent

/-- **One step keeps the invariant.** -/
theorem step (h : SampleInv c) (ev : SampleEvent) : SampleInv (c.step ev) := by
  have hmark : SampleInv c.markAppLimited := { h with }
  cases ev with
  | loss ev =>
      cases ev with
      | ctl ev hev => exact h.silent (c.toSendCtl.step_silent hev)
      | send env t outcome now clock => exact h.sendPacket env t outcome now clock
      | ackReceived env info ackRecvTime clock => exact h.onAckReceived env info ackRecvTime clock
      | expire env params now clock => exact h.timerExpire env params now clock
  | checkAppLimited notCwndLimited =>
      change SampleInv (c.sampleCheckAppLimited notCwndLimited)
      unfold SampleCtl.sampleCheckAppLimited
      split_ifs
      · exact hmark
      · exact h
  | markAppLimited => exact hmark

theorem run (h : SampleInv c) (evs : List SampleEvent) : SampleInv (c.run evs) := by
  induction evs generalizing c with
  | nil => exact h
  | cons ev evs ih => exact ih (h.step ev)

end SampleInv

/-! ## The delivered bytes -/

namespace SampleCtl

variable {c : SampleCtl}

theorem updateSample_delivered (c : SampleCtl) (env : LossEnv) (now : ℕ) (id : PktId) :
    c.delivered ≤ (c.updateSample env now id).delivered := by
  unfold updateSample
  dsimp only
  split_ifs
  · exact le_rfl
  · exact Nat.le_add_right _ _
  · exact Nat.le_add_right _ _

theorem foldl_updateSample_delivered (c : SampleCtl) (env : LossEnv) (now : ℕ) (ids : List PktId) :
    c.delivered ≤ (ids.foldl (fun c id => c.updateSample env now id) c).delivered := by
  induction ids generalizing c with
  | nil => exact le_rfl
  | cons id ids ih => exact (c.updateSample_delivered env now id).trans (ih _)

theorem sampleAcked_delivered (c : SampleCtl) (env : LossEnv) (acked : List PktId) (ackRecvTime : ℕ) :
    c.delivered ≤ (c.sampleAcked env acked ackRecvTime).delivered := by
  unfold sampleAcked
  split
  · exact le_rfl
  · refine le_trans ?_ (foldl_updateSample_delivered _ env ackRecvTime _)
    exact le_rfl

theorem finishSample_delivered (c : SampleCtl) (ackRecvTime : ℕ) :
    (c.finishSample ackRecvTime).delivered = c.delivered := by
  unfold finishSample generateSample
  dsimp only
  split_ifs <;> rfl

theorem sampleLost_delivered (c : SampleCtl) (l : LossCtl) (now : ℕ) :
    (c.sampleLost l now).delivered = c.delivered := by
  obtain ⟨samples, number, lostN, loss, -, -, heq⟩ := c.sampleLost_eq l now
  rw [heq]

/-- **`ctl_delivered` never decreases.** -/
theorem step_delivered (c : SampleCtl) (ev : SampleEvent) : c.delivered ≤ (c.step ev).delivered := by
  cases ev with
  | loss ev =>
      cases ev with
      | ctl ev h => exact le_rfl
      | send env t outcome now clock =>
          change _ ≤ (c.sendPacket env t outcome now clock).delivered
          unfold sendPacket sampleOnSent
          cases c.sending t outcome with
          | none => exact le_rfl
          | some id =>
              dsimp only
              split_ifs <;> exact le_rfl
      | ackReceived env info ackRecvTime clock =>
          have hacked := c.sampleAcked_delivered env
            (LossCtl.newlyAcked c.toSendCtl (c.toSendCtl.ackProcess info).ctl) ackRecvTime
          change _ ≤ (c.onAckReceived env info ackRecvTime clock).delivered
          unfold onAckReceived
          dsimp only
          split_ifs
          · exact hacked
          · rw [finishSample_delivered]
            dsimp only
            rwa [sampleLost_delivered]
      | expire env params now clock =>
          change _ ≤ (c.timerExpire env params now clock).delivered
          unfold timerExpire
          dsimp only
          split_ifs
          · exact (c.sampleLost_delivered c.toLossCtl now).ge
          · exact le_rfl
          · exact le_rfl
          · exact le_rfl
  | checkAppLimited notCwndLimited =>
      change _ ≤ (c.sampleCheckAppLimited notCwndLimited).delivered
      unfold sampleCheckAppLimited
      split_ifs <;> exact le_rfl
  | markAppLimited => exact le_rfl

theorem run_delivered (c : SampleCtl) (evs : List SampleEvent) : c.delivered ≤ (c.run evs).delivered := by
  induction evs generalizing c with
  | nil => exact le_rfl
  | cons ev evs ih => exact (c.step_delivered ev).trans (ih (c.step ev))

end SampleCtl

/-! ## The times -/

/-- The clock does not go back from one packet that is sent to the next, and an ACK frame comes after the
packets that it acknowledges; `t` is the last time so far. -/
def SampleEvent.Timely (t : ℕ) (c : SampleCtl) : SampleEvent → Prop
  | .loss (.send _ _ _ now _) => t ≤ now
  | .loss (.ackReceived _ info ackRecvTime _) =>
    ∀ id ∈ LossCtl.newlyAcked c.toSendCtl (c.toSendCtl.ackProcess info).ctl,
      (c.pkts id).poSentTime ≤ ackRecvTime
  | _ => True

instance (t : ℕ) (c : SampleCtl) (ev : SampleEvent) : Decidable (ev.Timely t c) :=
  match ev with
  | .loss (.send _ _ _ now _) => inferInstanceAs (Decidable (t ≤ now))
  | .loss (.ackReceived _ info ackRecvTime _) =>
    inferInstanceAs (Decidable (∀ id ∈ LossCtl.newlyAcked c.toSendCtl (c.toSendCtl.ackProcess info).ctl,
      (c.pkts id).poSentTime ≤ ackRecvTime))
  | .loss (.ctl ..) | .loss (.expire ..) | .checkAppLimited _ | .markAppLimited =>
    inferInstanceAs (Decidable True)

/-- The last time so far, after an event. -/
def SampleEvent.time (t : ℕ) : SampleEvent → ℕ
  | .loss (.send _ _ _ now _) => now
  | .loss (.ackReceived _ _ ackRecvTime _) => max t ackRecvTime
  | _ => t

/-- Every event of the run is timely. -/
def SampleCtl.RunTimely (c : SampleCtl) (t : ℕ) : List SampleEvent → Prop
  | [] => True
  | ev :: evs => ev.Timely t c ∧ (c.step ev).RunTimely (ev.time t) evs

instance SampleCtl.decidableRunTimely (c : SampleCtl) (t : ℕ) :
    (evs : List SampleEvent) → Decidable (c.RunTimely t evs)
  | [] => inferInstanceAs (Decidable True)
  | ev :: evs =>
    have := (c.step ev).decidableRunTimely (ev.time t) evs
    inferInstanceAs (Decidable (ev.Timely t c ∧ (c.step ev).RunTimely (ev.time t) evs))

/-- What an unacknowledged packet has recorded was before it was sent. -/
structure TimeInv (t : ℕ) (c : SampleCtl) : Prop where
  first : c.firstSentTime ≤ t
  last : c.deliveredTime ≤ t
  sent : ∀ id ∈ c.lists .unackedPackets, (c.pkts id).poSentTime ≤ t
  packets : ∀ id ∈ c.lists .unackedPackets, (c.samples id).firstSentTime ≤ (c.pkts id).poSentTime ∧
    (c.samples id).deliveredTime ≤ (c.pkts id).poSentTime
  elapses : ∀ d ∈ c.elapses, d.2 ≤ d.1

namespace TimeInv

variable {c : SampleCtl} {t : ℕ}

theorem create (env : LossEnv) (usesSamples : Bool) : TimeInv 0 (SampleCtl.create env usesSamples) where
  first := le_rfl
  last := le_rfl
  sent := fun _ hid => by cases hid
  packets := fun _ hid => by cases hid
  elapses := fun _ hd => by cases hd

theorem mono (h : TimeInv t c) {t' : ℕ} (hle : t ≤ t') : TimeInv t' c :=
  { h with
    first := h.first.trans hle
    last := h.last.trans hle
    sent := fun id hid => (h.sent id hid).trans hle }

theorem silent (h : TimeInv t c) (hsent : SentOnce c.sentIds c.toSendQueue) {l : LossCtl}
    (hs : Silent c.toSendQueue l.toSendQueue) : TimeInv t { c with toLossCtl := l } := by
  have hold : ∀ id ∈ l.lists .unackedPackets,
      id ∈ c.lists .unackedPackets ∧ (l.pkts id).poSentTime = (c.pkts id).poSentTime := by
    intro id hid
    have hmem := hs.unacked hid
    obtain ⟨hlt, hgone⟩ := hsent.gone id (hsent.listed hmem)
    exact ⟨hmem, hs.sentTime hlt hgone⟩
  refine { h with sent := fun id hid => ?_, packets := fun id hid => ?_ }
  · obtain ⟨hmem, htime⟩ := hold id hid
    dsimp only
    rw [htime]
    exact h.sent id hmem
  · obtain ⟨hmem, htime⟩ := hold id hid
    dsimp only
    rw [htime]
    exact h.packets id hmem

theorem takesOver (h : TimeInv t c) (hsent : SentOnce c.sentIds c.toSendQueue) {n : PktId}
    (hle : c.nextId ≤ n) {samples : PktId → PktSample} (htakes : TakesOver n c.samples samples) :
    TimeInv t { c with samples := samples } := by
  refine { h with packets := fun id hid => ?_ }
  have hlt := (hsent.gone id (hsent.listed hid)).1
  dsimp only
  rw [htakes.old id (hlt.trans_le hle)]
  exact h.packets id hid

/-- **The differences of `rqc_update_sample`.** -/
theorem updateSample (h : TimeInv t c) (env : LossEnv) {now : ℕ} {id : PktId} (hnow : now ≤ t)
    (hid : id ∈ c.lists .unackedPackets) (hacked : (c.pkts id).poSentTime ≤ now) :
    TimeInv t (c.updateSample env now id) := by
  obtain ⟨hfirst, hlast⟩ := h.packets id hid
  have hpackets : ∀ i ∈ c.lists .unackedPackets,
      (Function.update c.samples id { c.samples id with deliveredTime := 0 } i).firstSentTime ≤
          (c.pkts i).poSentTime ∧
        (Function.update c.samples id { c.samples id with deliveredTime := 0 } i).deliveredTime ≤
          (c.pkts i).poSentTime := by
    intro i hi
    by_cases heq : i = id
    · rw [heq, Function.update_self]
      exact ⟨hfirst, Nat.zero_le _⟩
    · rw [Function.update_of_ne heq]
      exact h.packets i hi
  unfold SampleCtl.updateSample
  dsimp only
  split_ifs with hcounted hnewest
  · exact h
  · refine ⟨h.sent id hid, hnow, h.sent, hpackets, fun d hd => ?_⟩
    rcases List.mem_append.1 hd with hd | hd
    · exact h.elapses d hd
    · rcases List.mem_pair.1 hd with rfl | rfl
      · exact hfirst
      · exact hlast.trans hacked
  · exact ⟨h.first, hnow, h.sent, hpackets, h.elapses⟩

theorem foldl_updateSample (h : TimeInv t c) (env : LossEnv) {now : ℕ} (hnow : now ≤ t) {ids : List PktId}
    (hids : ∀ id ∈ ids, id ∈ c.lists .unackedPackets ∧ (c.pkts id).poSentTime ≤ now) :
    TimeInv t (ids.foldl (fun c id => c.updateSample env now id) c) := by
  induction ids generalizing c with
  | nil => exact h
  | cons id ids ih =>
      obtain ⟨hid, hids⟩ := List.forall_mem_cons.1 hids
      refine ih (h.updateSample env hnow hid.1 hid.2) ?_
      rwa [SampleCtl.updateSample_toLossCtl]

theorem sampleAcked (h : TimeInv t c) (env : LossEnv) {ackRecvTime : ℕ} (hnow : ackRecvTime ≤ t)
    {acked : List PktId}
    (hacked : ∀ id ∈ acked, id ∈ c.lists .unackedPackets ∧ (c.pkts id).poSentTime ≤ ackRecvTime) :
    TimeInv t (c.sampleAcked env acked ackRecvTime) := by
  unfold SampleCtl.sampleAcked
  split
  · exact { h with }
  · have hclear : TimeInv t { c with
        sampler := {}, priorDelivered := c.delivered, priorBytesInFlight := c.bytesInFlight } := { h with }
    exact hclear.foldl_updateSample env hnow hacked

theorem sampleLost (h : TimeInv t c) (hsent : SentOnce c.sentIds c.toSendQueue) {l : LossCtl}
    (hle : c.nextId ≤ l.nextId) (now : ℕ) : TimeInv t (c.sampleLost l now) := by
  obtain ⟨samples, number, lostN, loss, htakes, -, heq⟩ := c.sampleLost_eq l now
  rw [heq]
  exact { h.takesOver hsent hle htakes with }

theorem finishSample (h : TimeInv t c) (ackRecvTime : ℕ) : TimeInv t (c.finishSample ackRecvTime) := by
  unfold SampleCtl.finishSample SampleCtl.generateSample
  dsimp only
  split_ifs <;> exact { h with }

theorem onAckReceived (h : TimeInv t c) (hinv : SampleInv c) (env : LossEnv) {info : AckInfo}
    {ackRecvTime : ℕ} (clock : ℕ)
    (htimely : (SampleEvent.loss (.ackReceived env info ackRecvTime clock)).Timely t c) :
    TimeInv (max t ackRecvTime) (c.onAckReceived env info ackRecvTime clock) := by
  have hsilent := c.toLossCtl.onAckReceived_silent env info ackRecvTime clock
  have hacked := (h.mono (le_max_left t ackRecvTime)).sampleAcked env (le_max_right t ackRecvTime)
    fun id hid => ⟨c.toSendCtl.newlyAcked_subset info hid, htimely id hid⟩
  unfold SampleCtl.onAckReceived
  dsimp only
  split_ifs
  · apply hacked.silent (hinv.acked env info ackRecvTime).sent
    rwa [SampleCtl.sampleAcked_toLossCtl]
  · apply finishSample
    have hlost := hacked.sampleLost (hinv.acked env info ackRecvTime).sent
      (l := c.toLossCtl.beforeLosses env info ackRecvTime clock) (by
        rw [SampleCtl.sampleAcked_toLossCtl, LossCtl.beforeLosses_toSendCtl]
        exact (c.toSendCtl.ackProcess_silent info).nextId) ackRecvTime
    apply hlost.silent (hinv.lost env info ackRecvTime clock).sent
    rwa [SampleCtl.sampleLost_toLossCtl, SampleCtl.sampleAcked_toLossCtl]

/-- **A packet is sent and records times that have passed.** -/
theorem send (h : TimeInv t c) {id : PktId} {now : ℕ} {l : LossCtl} (hnow : t ≤ now)
    (ht : Transmits id now c.toSendQueue l.toSendQueue) {time first : ℕ} (htime : time ≤ now)
    (hfirst : first ≤ now) {p : PktSample} (hp : p.deliveredTime = time ∧ p.firstSentTime = first) :
    TimeInv now { c with
      toLossCtl := l
      deliveredTime := time
      firstSentTime := first
      samples := Function.update c.samples id p
      sentIds := id :: c.sentIds } := by
  refine ⟨hfirst, htime, fun i hi => ?_, fun i hi => ?_, h.elapses⟩
  · by_cases heq : i = id
    · rw [heq]
      exact ht.sentTime.le
    · have hmem := (ht.unacked i hi).resolve_right heq
      exact (ht.sentTime_of_ne heq).le.trans ((h.sent i hmem).trans hnow)
  · dsimp only
    by_cases heq : i = id
    · rw [heq, Function.update_self, ht.sentTime, hp.1, hp.2]
      exact ⟨hfirst, htime⟩
    · have hmem := (ht.unacked i hi).resolve_right heq
      rw [Function.update_of_ne heq, ht.sentTime_of_ne heq]
      exact h.packets i hmem

theorem sendPacket (h : TimeInv t c) (hinv : SampleInv c) (env : LossEnv) (s : SendType)
    (outcome : SendOutcome) {now : ℕ} (clock : ℕ) (hnow : t ≤ now) :
    TimeInv now (c.sendPacket env s outcome now clock) := by
  rcases c.sendPacket_cases env s outcome now clock rfl with
    ⟨hsilent, heq⟩ | ⟨id, time, first, p, ht, htimes, -, hp, heq⟩
  · rw [heq]
    exact (h.mono hnow).silent hinv.sent hsilent
  · rw [heq]
    rcases htimes with ⟨rfl, rfl⟩ | ⟨rfl, rfl⟩
    · exact h.send hnow ht le_rfl le_rfl hp
    · exact h.send hnow ht (h.last.trans hnow) (h.first.trans hnow) hp

theorem timerExpire (h : TimeInv t c) (hinv : SampleInv c) (env : LossEnv) (params : PktParams)
    (now clock : ℕ) : TimeInv t (c.timerExpire env params now clock) := by
  have hsilent := c.toLossCtl.timerExpire_silent env params now clock
  unfold SampleCtl.timerExpire
  dsimp only
  split_ifs
  · apply (h.sampleLost hinv.sent (l := c.toLossCtl) le_rfl now).silent
      (hinv.sampleLost (l := c.toLossCtl) le_rfl now).sent
    rwa [SampleCtl.sampleLost_toLossCtl]
  · have htakes := SampleCtl.sampleProbes_takesOver c.toSendCtl c.samples
    exact (h.takesOver hinv.sent le_rfl htakes).silent hinv.sent hsilent
  · exact h.silent hinv.sent hsilent
  · exact h.silent hinv.sent hsilent

/-- **A timely step keeps the times in order.** -/
theorem step (h : TimeInv t c) (hinv : SampleInv c) {ev : SampleEvent} (htimely : ev.Timely t c) :
    TimeInv (ev.time t) (c.step ev) := by
  have hmark : TimeInv t c.markAppLimited := { h with }
  cases ev with
  | loss ev =>
      cases ev with
      | ctl ev hev => exact h.silent hinv.sent (c.toSendCtl.step_silent hev)
      | send env s outcome now clock => exact h.sendPacket hinv env s outcome clock htimely
      | ackReceived env info ackRecvTime clock => exact h.onAckReceived hinv env clock htimely
      | expire env params now clock => exact h.timerExpire hinv env params now clock
  | checkAppLimited notCwndLimited =>
      change TimeInv t (c.sampleCheckAppLimited notCwndLimited)
      unfold SampleCtl.sampleCheckAppLimited
      split_ifs
      · exact hmark
      · exact h
  | markAppLimited => exact hmark

theorem run {evs : List SampleEvent} (h : TimeInv t c) (hinv : SampleInv c) (htimely : c.RunTimely t evs) :
    ∃ t', TimeInv t' (c.run evs) := by
  induction evs generalizing c t with
  | nil => exact ⟨t, h⟩
  | cons ev evs ih => exact ih (h.step hinv htimely.1) (hinv.step ev) htimely.2

end TimeInv

/-! ## The runs -/

/-- The bytes of every packet are counted at most once, and only of packets that were sent; what is recorded
is not larger than the counters. -/
structure SampleCtl.Sound (c : SampleCtl) : Prop where
  sentOnce : c.sentIds.Nodup
  countedOnce : (c.counted.map Prod.fst).Nodup
  countedSent : ∀ id ∈ c.counted.map Prod.fst, id ∈ c.sentIds
  delivered : c.delivered = (c.counted.map Prod.snd).sum
  packets : ∀ id, (c.samples id).delivered ≤ c.delivered
  sampler : c.sampler.priorDelivered ≤ c.delivered
  prior : c.priorDelivered ≤ c.delivered
  amounts : ∀ d ∈ c.amounts, d.2 ≤ d.1
  losses : c.lostTotal < 2 ^ 32 → ∀ d ∈ c.losses, d.2 ≤ d.1

/-- **Delivery-rate sampling.** In every run the bytes of a packet that was sent are added to
`ctl_delivered` at most once, `ctl_delivered` never decreases, and no packet and no sample has recorded more
than it. So no difference of delivered bytes underflows; no difference of lost packets does before 2^32 of
them are lost; and no difference of times does if the clock does not go back. -/
theorem sampling_sound (env : LossEnv) (usesSamples : Bool) (evs evs' : List SampleEvent) :
    ((SampleCtl.create env usesSamples).run evs).Sound ∧
      ((SampleCtl.create env usesSamples).run evs).delivered ≤
        (((SampleCtl.create env usesSamples).run evs).run evs').delivered ∧
      ((SampleCtl.create env usesSamples).RunTimely 0 evs →
        ∀ d ∈ ((SampleCtl.create env usesSamples).run evs).elapses, d.2 ≤ d.1) := by
  have hinv := (SampleInv.create env usesSamples).run evs
  refine ⟨⟨hinv.sent.nodup, hinv.once, fun id hid => (hinv.counted id hid).1, hinv.delivered,
    fun id => (hinv.packets id).delivered, hinv.sampler, hinv.prior, hinv.amounts, hinv.losses⟩,
    SampleCtl.run_delivered _ evs', fun htimely => ?_⟩
  obtain ⟨t, htime⟩ := (TimeInv.create env usesSamples).run (.create env usesSamples) htimely
  exact htime.elapses

/-- Four packets are sent. The last one is acknowledged and the first one is declared lost; its copy is
sent, and then the first three are acknowledged. -/
def lateAckRun : List SampleEvent :=
  ([0, 1, 2, 3].flatMap fun offset => (LossCtl.sendByte offset (1000 + offset)).map .loss) ++
    [.loss (.ackReceived LossCtl.demoLossEnv ⟨[⟨3, 3⟩], 0⟩ 2000 2000),
      .loss (.ctl (.queue (.schedule .retrans)) rfl),
      .loss (.send LossCtl.demoLossEnv .retrans .sent 3000 3000),
      .loss (.ackReceived LossCtl.demoLossEnv ⟨[⟨0, 3⟩], 0⟩ 4000 4000),
      .loss (.ackReceived LossCtl.demoLossEnv ⟨[⟨0, 4⟩], 0⟩ 5000 5000)]

def lateAckCtl : SampleCtl := (SampleCtl.create LossCtl.demoLossEnv true).run lateAckRun

theorem sampling_sound_lateAckRun :
    (lateAckCtl.counted = [(3, 11), (0, 10), (1, 11), (2, 11)] ∧ lateAckCtl.lostTotal = 1) ∧
      lateAckCtl.Sound ∧ (4000, 1000) ∈ lateAckCtl.elapses ∧ 1000 ≤ 4000 := by
  have hmem : (4000, 1000) ∈ lateAckCtl.elapses := by decide +kernel
  obtain ⟨hsound, -, htimes⟩ := sampling_sound LossCtl.demoLossEnv true lateAckRun []
  exact ⟨by decide +kernel, hsound, hmem, htimes (by decide +kernel) _ hmem⟩

end Rquic

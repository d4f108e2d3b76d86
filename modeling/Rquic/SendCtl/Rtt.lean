import Rquic.SendCtl.Timing

set_option autoImplicit false

/-!
# The round-trip time estimator

`rqc_send_ctl_update_rtt` in 64 bits, over the ACKs of a path (`rqc_send_ctl.c`).

* `RttEstimator`: the fields of the send control that the estimator owns.
* `RttEstimator.updateRtt`: a sample seeds the estimator or is smoothed into it; `RttEstimator.reset`:
  persistent congestion.
* `RttTrace`: the estimator with the samples that were used since the last seed.
* `RttInv`: the smoothed time lies between two of these samples, the minimum is the least of them.
* **`rtt_bounds`**: so it is in every run, and no subtraction underflows.
* **`LossCtl.step_rtt`**: the events of the send control move the estimator by such steps only.
-/

namespace Rquic

/-! ## The estimator -/

/-- The estimator in `rqc_send_ctl_t`. Zero stands for a sample time that is not known. -/
structure RttEstimator where
  latestRtt : ℕ := 0
  minrtt : ℕ := 2 ^ 32 - 1
  srtt : ℕ
  rttvar : ℕ
  firstRttSampleTime : ℕ := 0
  deriving DecidableEq, Repr

/-- The estimator of `rqc_send_ctl_create`. -/
def RttEstimator.create (env : LossEnv) : RttEstimator := { srtt := env.initialRtt, rttvar := env.initialRtt / 2 }

namespace RttEstimator

variable (e : RttEstimator) (env : LossEnv)

/-- Whether the ACK delay is credible. -/
def adjusts (minrtt latestRtt ackDelay : ℕ) : Prop :=
  ackDelay < latestRtt ∧ u64Add minrtt ackDelay ≤ u64Add latestRtt 1000

instance (minrtt latestRtt ackDelay : ℕ) : Decidable (adjusts minrtt latestRtt ackDelay) :=
  inferInstanceAs (Decidable (_ ∧ _))

/-- `adjusted_rtt`. -/
def adjustedRtt (latestRtt ackDelay : ℕ) : ℕ :=
  let ackDelay := env.clampAckDelay ackDelay
  if adjusts (min latestRtt e.minrtt) latestRtt ackDelay then u64Sub latestRtt ackDelay else latestRtt

/-- `rqc_sub_abs`. -/
def subAbs (a b : ℕ) : ℕ := if b < a then u64Sub a b else u64Sub b a

/-- `rqc_send_ctl_update_rtt`. -/
def updateRtt (latestRtt ackDelay clock : ℕ) : RttEstimator :=
  if e.firstRttSampleTime = 0 then
    { latestRtt := latestRtt, minrtt := latestRtt, srtt := latestRtt, rttvar := latestRtt / 2
      firstRttSampleTime := clock }
  else
    let adjusted := e.adjustedRtt env latestRtt ackDelay
    { e with
      latestRtt := latestRtt
      minrtt := min latestRtt e.minrtt
      rttvar := u64Add (u64Sub e.rttvar (e.rttvar / 4)) (subAbs e.srtt adjusted / 4)
      srtt := u64Add (u64Sub e.srtt (e.srtt / 8)) (adjusted / 8) }

/-- The operands of `rqc_sub_abs`. -/
def subAbsOperands (a b : ℕ) : ℕ × ℕ := if b < a then (a, b) else (b, a)

/-- What `rqc_send_ctl_update_rtt` subtracts, with what it subtracts it from. -/
def subtractions (latestRtt ackDelay clock : ℕ) : List (ℕ × ℕ) :=
  if e.firstRttSampleTime = 0 then []
  else
    let delay := env.clampAckDelay ackDelay
    (if adjusts (min latestRtt e.minrtt) latestRtt delay then [(latestRtt, delay)] else []) ++
      [(e.rttvar, e.rttvar / 4), subAbsOperands e.srtt (e.adjustedRtt env latestRtt ackDelay),
        (e.srtt, e.srtt / 8), subAbsOperands (e.updateRtt env latestRtt ackDelay clock).srtt e.srtt]

/-- Persistent congestion in `rqc_send_ctl_detect_lost`. -/
def reset : RttEstimator :=
  { e with
    minrtt := 2 ^ 32 - 1, srtt := env.initialRtt, rttvar := env.initialRtt / 2, firstRttSampleTime := 0 }

end RttEstimator

/-! ## Runs -/

/-- What happens to the estimator. An ACK gives a sample: when it came, when the largest packet that it
acknowledges was sent, and the delay in it. -/
inductive RttEvent where
  | ack (env : LossEnv) (ackRecvTime sentTime ackDelay clock : ℕ)
  | persistentCongestion (env : LossEnv)

/-- The ACK does not come before the packet was sent, and the sample is below `2 ^ 60`. -/
def RttEvent.Wf : RttEvent → Prop
  | .ack _ ackRecvTime sentTime _ _ =>
    sentTime ≤ ackRecvTime ∧ ackRecvTime < 2 ^ 64 ∧ ackRecvTime - sentTime < 2 ^ 60
  | .persistentCongestion _ => True

instance (ev : RttEvent) : Decidable ev.Wf :=
  match ev with
  | .ack _ ackRecvTime sentTime _ _ => inferInstanceAs (Decidable
      (sentTime ≤ ackRecvTime ∧ ackRecvTime < 2 ^ 64 ∧ ackRecvTime - sentTime < 2 ^ 60))
  | .persistentCongestion _ => inferInstanceAs (Decidable True)

/-- The clock does not read zero. -/
def RttEvent.Ticking : RttEvent → Prop
  | .ack _ _ _ _ clock => clock ≠ 0
  | .persistentCongestion _ => True

namespace RttEstimator

def step (e : RttEstimator) : RttEvent → RttEstimator
  | .ack env ackRecvTime sentTime ackDelay clock =>
    e.updateRtt env (u64Sub ackRecvTime sentTime) ackDelay clock
  | .persistentCongestion env => e.reset env

def run (e : RttEstimator) (evs : List RttEvent) : RttEstimator := evs.foldl step e

end RttEstimator

/-- The estimator, with the samples since the last seed: as they were measured, and as they were used. -/
structure RttTrace where
  est : RttEstimator
  measured : List ℕ := []
  used : List ℕ := []

namespace RttTrace

def step (t : RttTrace) : RttEvent → RttTrace
  | .ack env ackRecvTime sentTime ackDelay clock =>
    let latestRtt := u64Sub ackRecvTime sentTime
    if t.est.firstRttSampleTime = 0 then
      { est := t.est.updateRtt env latestRtt ackDelay clock, measured := [latestRtt], used := [latestRtt] }
    else
      { est := t.est.updateRtt env latestRtt ackDelay clock
        measured := latestRtt :: t.measured
        used := t.est.adjustedRtt env latestRtt ackDelay :: t.used }
  | .persistentCongestion env => { est := t.est.reset env }

def run (t : RttTrace) (evs : List RttEvent) : RttTrace := evs.foldl step t

end RttTrace

/-- The samples of the ACKs after the last persistent congestion. -/
def samplesSince : List RttEvent → List ℕ → List ℕ
  | [], samples => samples
  | .ack _ ackRecvTime sentTime _ _ :: evs, samples =>
    samplesSince evs (u64Sub ackRecvTime sentTime :: samples)
  | .persistentCongestion _ :: evs, _ => samplesSince evs []

/-! ## The invariant -/

/-- What holds of the estimator and its samples. -/
structure RttInv (t : RttTrace) : Prop where
  /-- A seeded estimator has samples. -/
  seeded : t.est.firstRttSampleTime ≠ 0 → t.used ≠ []
  small : ∀ s ∈ t.used, s < 2 ^ 60
  /-- The smoothed time is not below the smallest and not above the largest sample. -/
  above : t.used ≠ [] → ∃ s ∈ t.used, s ≤ t.est.srtt
  below : t.used ≠ [] → ∃ s ∈ t.used, t.est.srtt ≤ s
  /-- The minimum is the least of the samples as they were measured. -/
  minrtt : t.used ≠ [] → t.est.minrtt ∈ t.measured ∧ ∀ s ∈ t.measured, t.est.minrtt ≤ s
  /-- Adjusted samples are positive. -/
  adjusted : List.Forall₂ (fun used measured => 0 < used ∨ used = measured) t.used t.measured

/-- The smoothed time and a new sample are averaged: the result is between them. -/
theorem smooth_between (s a : ℕ) : min s a ≤ s - s / 8 + a / 8 ∧ s - s / 8 + a / 8 ≤ max s a := by
  omega

section Step

variable {e : RttEstimator} {env : LossEnv} {latestRtt ackDelay clock : ℕ}

theorem adjusts_lt {minrtt latestRtt ackDelay : ℕ} (h : RttEstimator.adjusts minrtt latestRtt ackDelay) :
    ackDelay < latestRtt := h.1

theorem adjusts_iff {minrtt ackDelay : ℕ} (hlatest : latestRtt < 2 ^ 60) (hmin : minrtt ≤ latestRtt) :
    RttEstimator.adjusts minrtt latestRtt ackDelay ↔
      ackDelay < latestRtt ∧ minrtt + ackDelay ≤ latestRtt + 1000 := by
  apply and_congr_right
  intro hlt
  rw [u64Add_eq (by omega), u64Add_eq (by omega)]

/-- An adjusted sample is positive and not longer than the measured one. -/
theorem adjustedRtt_spec (hlatest : latestRtt < 2 ^ 60) :
    e.adjustedRtt env latestRtt ackDelay ≤ latestRtt ∧
      (0 < e.adjustedRtt env latestRtt ackDelay ∨ e.adjustedRtt env latestRtt ackDelay = latestRtt) := by
  unfold RttEstimator.adjustedRtt
  dsimp only
  split_ifs with h
  · have hlt := adjusts_lt h
    rw [u64Sub_eq hlt.le (by omega)]
    omega
  · exact ⟨le_rfl, .inr rfl⟩

/-- The smoothed time after a sample, in numbers that do not wrap. -/
theorem updateRtt_srtt (hseeded : e.firstRttSampleTime ≠ 0) (hsrtt : e.srtt < 2 ^ 60)
    (hlatest : latestRtt < 2 ^ 60) : (e.updateRtt env latestRtt ackDelay clock).srtt =
      e.srtt - e.srtt / 8 + e.adjustedRtt env latestRtt ackDelay / 8 := by
  have hle : e.adjustedRtt env latestRtt ackDelay ≤ latestRtt := (adjustedRtt_spec hlatest).1
  unfold RttEstimator.updateRtt
  rw [if_neg hseeded]
  dsimp only
  rw [u64Sub_eq (by omega) (by omega), u64Add_eq (by omega)]

end Step

namespace RttInv

variable {t : RttTrace}

theorem unseeded {e : RttEstimator} (he : e.firstRttSampleTime = 0) : RttInv { est := e } where
  seeded := fun h => absurd he h
  small := fun _ hs => by cases hs
  above := fun h => absurd rfl h
  below := fun h => absurd rfl h
  minrtt := fun h => absurd rfl h
  adjusted := .nil

theorem srtt_lt (h : RttInv t) (hused : t.used ≠ []) : t.est.srtt < 2 ^ 60 := by
  obtain ⟨s, hs, hle⟩ := h.below hused
  exact hle.trans_lt (h.small s hs)

theorem seed {latestRtt : ℕ} (hlatest : latestRtt < 2 ^ 60) {e : RttEstimator} (hsrtt : e.srtt = latestRtt)
    (hmin : e.minrtt = latestRtt) : RttInv { est := e, measured := [latestRtt], used := [latestRtt] } where
  seeded := fun _ => by simp
  small := by simpa using hlatest
  above := fun _ => ⟨latestRtt, by simp, hsrtt.ge⟩
  below := fun _ => ⟨latestRtt, by simp, hsrtt.le⟩
  minrtt := fun _ => by simp [hmin]
  adjusted := .cons (.inr rfl) .nil

theorem sample (h : RttInv t) (hseeded : t.est.firstRttSampleTime ≠ 0) (env : LossEnv)
    {latestRtt : ℕ} (ackDelay clock : ℕ) (hlatest : latestRtt < 2 ^ 60) :
    RttInv { est := t.est.updateRtt env latestRtt ackDelay clock, measured := latestRtt :: t.measured
             used := t.est.adjustedRtt env latestRtt ackDelay :: t.used } := by
  have hused := h.seeded hseeded
  obtain ⟨hle, hpos⟩ := @adjustedRtt_spec t.est env latestRtt ackDelay hlatest
  have hsrtt := @updateRtt_srtt t.est env latestRtt ackDelay clock hseeded (h.srtt_lt hused) hlatest
  obtain ⟨hlo, hhi⟩ := smooth_between t.est.srtt (t.est.adjustedRtt env latestRtt ackDelay)
  rw [← hsrtt] at hlo hhi
  have hmin : (t.est.updateRtt env latestRtt ackDelay clock).minrtt = min latestRtt t.est.minrtt := by
    rw [RttEstimator.updateRtt, if_neg hseeded]
  obtain ⟨hmem, hleast⟩ := h.minrtt hused
  refine ⟨fun _ => List.cons_ne_nil _ _, ?_, fun _ => ?_, fun _ => ?_, fun _ => ⟨?_, ?_⟩, ?_⟩
  · exact List.forall_mem_cons.2 ⟨by omega, h.small⟩
  · obtain ⟨s, hs, hle⟩ := h.above hused
    rcases min_le_iff.1 hlo with hlo | hlo
    · exact ⟨s, List.mem_cons_of_mem _ hs, hle.trans hlo⟩
    · exact ⟨_, List.mem_cons_self, hlo⟩
  · obtain ⟨s, hs, hle⟩ := h.below hused
    rcases le_max_iff.1 hhi with hhi | hhi
    · exact ⟨s, List.mem_cons_of_mem _ hs, hhi.trans hle⟩
    · exact ⟨_, List.mem_cons_self, hhi⟩
  · rw [hmin]
    rcases min_choice latestRtt t.est.minrtt with hm | hm
    · rw [hm]
      exact List.mem_cons_self
    · rw [hm]
      exact List.mem_cons_of_mem _ hmem
  · intro s hs
    rw [hmin]
    rcases List.mem_cons.1 hs with rfl | hs
    · exact min_le_left _ _
    · exact (min_le_right _ _).trans (hleast s hs)
  · exact .cons hpos h.adjusted

theorem step (h : RttInv t) {ev : RttEvent} (hwf : ev.Wf) : RttInv (t.step ev) := by
  cases ev with
  | persistentCongestion env => exact unseeded rfl
  | ack env ackRecvTime sentTime ackDelay clock =>
      obtain ⟨hle, hlt, hsmall⟩ := hwf
      rw [← u64Sub_eq hle hlt] at hsmall
      simp only [RttTrace.step]
      split_ifs with hseed
      · apply seed hsmall
        · rw [RttEstimator.updateRtt, if_pos hseed]
        · rw [RttEstimator.updateRtt, if_pos hseed]
      · exact h.sample hseed env ackDelay clock hsmall

/-- **The invariant holds in every run.** -/
theorem run (evs : List RttEvent) (h : RttInv t) (hwf : ∀ ev ∈ evs, ev.Wf) : RttInv (t.run evs) := by
  induction evs generalizing t with
  | nil => exact h
  | cons ev evs ih =>
      obtain ⟨hev, hevs⟩ := List.forall_mem_cons.1 hwf
      exact ih (h.step hev) hevs

end RttInv

/-! ## Subtractions and seeds -/

/-- What the event makes the estimator subtract. -/
def RttEstimator.subtractionsOf (e : RttEstimator) : RttEvent → List (ℕ × ℕ)
  | .ack env ackRecvTime sentTime ackDelay clock =>
    (ackRecvTime, sentTime) :: e.subtractions env (u64Sub ackRecvTime sentTime) ackDelay clock
  | .persistentCongestion _ => []

theorem subAbsOperands_le (a b : ℕ) :
    (RttEstimator.subAbsOperands a b).2 ≤ (RttEstimator.subAbsOperands a b).1 := by
  unfold RttEstimator.subAbsOperands
  split_ifs with h
  · exact h.le
  · exact not_lt.1 h

theorem subtractionsOf_le (e : RttEstimator) {ev : RttEvent} (hwf : ev.Wf) :
    ∀ p ∈ e.subtractionsOf ev, p.2 ≤ p.1 := by
  cases ev with
  | persistentCongestion env => exact fun _ hp => by cases hp
  | ack env ackRecvTime sentTime ackDelay clock =>
      refine List.forall_mem_cons.2 ⟨hwf.1, ?_⟩
      unfold RttEstimator.subtractions
      split_ifs
      · exact fun _ hp => by cases hp
      · refine List.forall_mem_append.2 ⟨?_, ?_⟩
        · split_ifs with hadjusts
          · exact List.forall_mem_singleton.2 (adjusts_lt hadjusts).le
          · exact fun _ hp => by cases hp
        · simp only [List.forall_mem_cons, List.not_mem_nil, false_imp_iff, forall_const, and_true]
          exact ⟨Nat.div_le_self _ _, subAbsOperands_le _ _, Nat.div_le_self _ _, subAbsOperands_le _ _⟩

/-- With a clock that does not read zero, the estimator is seeded at its creation and by persistent
congestion only. -/
theorem measured_eq {t : RttTrace} (evs : List RttEvent)
    (h : t.est.firstRttSampleTime = 0 → t.measured = []) (hticking : ∀ ev ∈ evs, ev.Ticking) :
    (t.run evs).measured = samplesSince evs t.measured := by
  induction evs generalizing t with
  | nil => rfl
  | cons ev evs ih =>
      obtain ⟨hev, hevs⟩ := List.forall_mem_cons.1 hticking
      cases ev with
      | persistentCongestion env => exact ih (fun _ => rfl) hevs
      | ack env ackRecvTime sentTime ackDelay clock =>
          have hmeasured : (t.step (.ack env ackRecvTime sentTime ackDelay clock)).measured =
              u64Sub ackRecvTime sentTime :: t.measured := by
            simp only [RttTrace.step]
            split_ifs with hseed
            · rw [h hseed]
            · rfl
          have hknown : (t.step (.ack env ackRecvTime sentTime ackDelay clock)).est.firstRttSampleTime ≠ 0 := by
            simp only [RttTrace.step]
            split_ifs with hseed
            · rw [RttEstimator.updateRtt, if_pos hseed]
              exact hev
            · rw [RttEstimator.updateRtt, if_neg hseed]
              exact hseed
          have hrun := ih (fun hzero => absurd hzero hknown) hevs
          rw [hmeasured] at hrun
          exact hrun

theorem RttTrace.run_est (t : RttTrace) (evs : List RttEvent) : (t.run evs).est = t.est.run evs := by
  induction evs generalizing t with
  | nil => rfl
  | cons ev evs ih =>
      have hstep : (t.step ev).est = t.est.step ev := by
        cases ev with
        | persistentCongestion env => rfl
        | ack env ackRecvTime sentTime ackDelay clock =>
            simp only [RttTrace.step, RttEstimator.step]
            split_ifs <;> rfl
      rw [RttTrace.run, List.foldl_cons, ← RttTrace.run, ih, hstep]
      rfl

/-- **In every run the smoothed time lies between the samples used since the last seed, the minimum is the
least measured one, and nothing underflows.** With a clock that does not read zero, only creation and
persistent congestion lead to a seed. -/
theorem rtt_bounds (env : LossEnv) (evs : List RttEvent) (hwf : ∀ ev ∈ evs, ev.Wf) :
    let t := RttTrace.run { est := RttEstimator.create env } evs
    t.est = (RttEstimator.create env).run evs ∧ RttInv t ∧
      (∀ ev, ev.Wf → ∀ p ∈ t.est.subtractionsOf ev, p.2 ≤ p.1) ∧
      ((∀ ev ∈ evs, ev.Ticking) → t.measured = samplesSince evs []) := by
  intro t
  refine ⟨RttTrace.run_est _ evs, (RttInv.unseeded rfl).run evs hwf, fun ev hev => ?_, fun hticking => ?_⟩
  · exact subtractionsOf_le _ hev
  · exact measured_eq evs (fun _ => rfl) hticking

/-- Two samples, the second with a delay of 10 ms. -/
def delayedAcks : List RttEvent :=
  [.ack { backoff := fun _ d => d } 150000 100000 0 7, .ack { backoff := fun _ d => d } 290000 200000 10000 8]

/-- The second sample is adjusted. -/
theorem rtt_bounds_two :
    RttInv (RttTrace.run { est := RttEstimator.create { backoff := fun _ d => d } } delayedAcks) ∧
      (RttTrace.run { est := RttEstimator.create { backoff := fun _ d => d } } delayedAcks).used =
        [80000, 50000] := by
  have hwf : ∀ ev ∈ delayedAcks, ev.Wf := by decide
  exact ⟨(rtt_bounds { backoff := fun _ d => d } delayedAcks hwf).2.1, by decide⟩

/-! ## The send control -/

namespace LossCtl

/-- The estimator of the send control. -/
def rtt (c : LossCtl) : RttEstimator where
  latestRtt := c.latestRtt
  minrtt := c.minrtt
  srtt := c.srtt
  rttvar := c.rttvar
  firstRttSampleTime := c.firstRttSampleTime

variable {c : LossCtl} {env : LossEnv}

/-- While nothing wraps, the timer model measures as the machine does. -/
theorem updateRtt_rtt (hsrtt : c.srtt < 2 ^ 60) (hrttvar : c.rttvar < 2 ^ 60)
    (hdelay : env.maxAckDelay * 1000 < 2 ^ 64) {latestRtt : ℕ} (hlatest : latestRtt < 2 ^ 60)
    (ackDelay clock : ℕ) :
    (c.updateRtt env latestRtt ackDelay clock).rtt = c.rtt.updateRtt env latestRtt ackDelay clock := by
  have hclamp : env.clampAckDelay ackDelay =
      min ackDelay ((if env.handshakeDone then env.maxAckDelay else 25) * 1000) := by
    rw [LossEnv.clampAckDelay, u64Mul, Nat.mod_eq_of_lt hdelay]
    split_ifs <;> rfl
  unfold updateRtt RttEstimator.updateRtt
  by_cases hseed : c.firstRttSampleTime = 0
  · rw [if_pos hseed, if_pos (show c.rtt.firstRttSampleTime = 0 from hseed)]
    rfl
  rw [if_neg hseed, if_neg (show ¬ c.rtt.firstRttSampleTime = 0 from hseed)]
  dsimp only
  rw [← hclamp]
  -- the sample is adjusted in the same way
  have hadjusted : c.rtt.adjustedRtt env latestRtt ackDelay =
      if env.clampAckDelay ackDelay < latestRtt ∧
          min latestRtt c.minrtt + env.clampAckDelay ackDelay ≤ latestRtt + 1000 then
        latestRtt - env.clampAckDelay ackDelay else latestRtt := by
    unfold RttEstimator.adjustedRtt
    dsimp only
    rw [show c.rtt.minrtt = c.minrtt from rfl]
    simp only [adjusts_iff hlatest (min_le_left _ _)]
    split_ifs with h
    · exact u64Sub_eq h.1.le (by omega)
    · rfl
  have hle := (@adjustedRtt_spec c.rtt env latestRtt ackDelay hlatest).1
  rw [← hadjusted]
  generalize c.rtt.adjustedRtt env latestRtt ackDelay = adjusted at *
  have habs : RttEstimator.subAbs c.srtt adjusted =
      if adjusted < c.srtt then c.srtt - adjusted else adjusted - c.srtt := by
    unfold RttEstimator.subAbs
    split_ifs with h
    · exact u64Sub_eq h.le (by omega)
    · exact u64Sub_eq (not_lt.1 h) (by omega)
  have hsub : ∀ k, u64Sub c.srtt (c.srtt / k) = c.srtt - c.srtt / k := fun k =>
    u64Sub_eq (Nat.div_le_self _ _) (by omega)
  have hsub' : ∀ k, u64Sub c.rttvar (c.rttvar / k) = c.rttvar - c.rttvar / k := fun k =>
    u64Sub_eq (Nat.div_le_self _ _) (by omega)
  have hdiff : RttEstimator.subAbs c.srtt adjusted < 2 ^ 60 := by
    rw [habs]
    split_ifs <;> omega
  simp only [rtt, RttEstimator.mk.injEq, true_and, and_true]
  rw [hsub, hsub', u64Add_eq (by omega), u64Add_eq (by omega), habs]
  exact ⟨rfl, rfl⟩

theorem detectLost_rtt (now : ℕ) :
    (c.detectLost env now).rtt = c.rtt ∨ (c.detectLost env now).rtt = c.rtt.reset env := by
  unfold detectLost
  split
  · exact .inl rfl
  · dsimp only
    unfold onPacketsLost
    split
    · exact .inl rfl
    · split_ifs
      · exact .inr rfl
      · exact .inl rfl

@[simp] theorem setLossDetectionTimer_rtt (clock : ℕ) : (c.setLossDetectionTimer env clock).rtt = c.rtt := by
  unfold setLossDetectionTimer
  split_ifs <;> rfl

theorem finishAck_rtt (needDelRecord : Bool) (ackRecvTime clock : ℕ) :
    (c.finishAck env needDelRecord ackRecvTime clock).rtt = (c.detectLost env ackRecvTime).rtt := by
  unfold finishAck
  dsimp only
  rw [setLossDetectionTimer_rtt]
  split_ifs <;> rfl

theorem adaptThresholds_rtt (pkts : PktId → PacketOut) (acked : List PktId) (ackRecvTime : ℕ) :
    (c.adaptThresholds env pkts acked ackRecvTime).rtt = c.rtt := by
  unfold adaptThresholds onSpuriousLossDetected
  split
  · split_ifs <;> rfl
  · rfl

/-- When the largest newly acknowledged packet was sent. -/
def ackSentTime (c : LossCtl) (info : AckInfo) : ℕ :=
  (raiseSentTime c.pkts (newlyAcked c.toSendCtl (c.toSendCtl.ackProcess info).ctl) c.largestAcked
    (c.largestAckedSentTime, false)).1

/-- What the estimator needs of an ACK: it comes after the packet, the sample is below `2 ^ 60`, and the
delay of the peer fits in 64 bits. -/
def Measurable (c : LossCtl) : LossEvent → Prop
  | .ackReceived env info ackRecvTime _ =>
    env.maxAckDelay * 1000 < 2 ^ 64 ∧
      (RttEvent.ack env ackRecvTime (c.ackSentTime info) info.ackDelay 0).Wf
  | _ => True

theorem detectLost_run {e : RttEstimator} {evs : List RttEvent} (hevs : ∀ ev ∈ evs, ev.Wf)
    (h : c.rtt = e.run evs) (now : ℕ) :
    ∃ evs, (∀ ev ∈ evs, RttEvent.Wf ev) ∧ (c.detectLost env now).rtt = e.run evs := by
  rcases c.detectLost_rtt now with heq | heq
  · exact ⟨evs, hevs, heq.trans h⟩
  · refine ⟨evs ++ [.persistentCongestion env], List.forall_mem_append.2 ⟨hevs, ?_⟩, ?_⟩
    · exact List.forall_mem_singleton.2 trivial
    · rw [heq, h, RttEstimator.run, RttEstimator.run, List.foldl_append]
      rfl

theorem sampleRtt_run (hsrtt : c.srtt < 2 ^ 60) (hrttvar : c.rttvar < 2 ^ 60)
    (hdelay : env.maxAckDelay * 1000 < 2 ^ 64) {ackRecvTime : ℕ} (update : Bool) (ackDelay clock : ℕ)
    (hwf : (RttEvent.ack env ackRecvTime c.largestAckedSentTime ackDelay clock).Wf) :
    ∃ evs, (∀ ev ∈ evs, RttEvent.Wf ev) ∧
      (c.sampleRtt env update ackDelay ackRecvTime clock).rtt = c.rtt.run evs := by
  cases update with
  | false => exact ⟨[], fun _ hev => (by cases hev), rfl⟩
  | true =>
      have hsmall : u64Sub ackRecvTime c.largestAckedSentTime < 2 ^ 60 := by
        rw [u64Sub_eq hwf.1 hwf.2.1]
        exact hwf.2.2
      refine ⟨[.ack env ackRecvTime c.largestAckedSentTime ackDelay clock], ?_, ?_⟩
      · exact List.forall_mem_singleton.2 hwf
      · exact updateRtt_rtt hsrtt hrttvar hdelay hsmall ackDelay clock

theorem onAckReceived_run (hsrtt : c.srtt < 2 ^ 60) (hrttvar : c.rttvar < 2 ^ 60) {info : AckInfo}
    {ackRecvTime clock : ℕ} (h : c.Measurable (.ackReceived env info ackRecvTime clock)) :
    ∃ evs, (∀ ev ∈ evs, RttEvent.Wf ev) ∧
      (c.onAckReceived env info ackRecvTime clock).1.rtt = c.rtt.run evs := by
  obtain ⟨hdelay, hwf⟩ := h
  unfold onAckReceived
  dsimp only
  split_ifs
  · exact ⟨[], fun _ hev => (by cases hev), rfl⟩
  · rw [finishAck_rtt]
    obtain ⟨evs, hevs, hsample⟩ := sampleRtt_run (c := { c with
      toSendCtl := (c.toSendCtl.ackProcess info).ctl, largestAckedSentTime := c.ackSentTime info })
      hsrtt hrttvar hdelay _ info.ackDelay clock hwf
    exact detectLost_run hevs ((adaptThresholds_rtt _ _ _).trans hsample) ackRecvTime

/-- **Every event of the send control moves the estimator by samples and persistent congestion.** -/
theorem step_rtt (hsrtt : c.srtt < 2 ^ 60) (hrttvar : c.rttvar < 2 ^ 60) {ev : LossEvent}
    (h : c.Measurable ev) :
    ∃ evs, (∀ ev ∈ evs, RttEvent.Wf ev) ∧ (c.step ev).rtt = c.rtt.run evs := by
  have hempty : ∀ ev ∈ ([] : List RttEvent), ev.Wf := fun _ hev => by cases hev
  cases ev with
  | ctl ev hev => exact ⟨[], hempty, rfl⟩
  | send env t outcome now clock =>
      refine ⟨[], hempty, ?_⟩
      rw [step]
      unfold sendPacket
      dsimp only
      split
      · rfl
      · split_ifs
        · rw [setLossDetectionTimer_rtt]
          rfl
        · rfl
  | ackReceived env info ackRecvTime clock => exact onAckReceived_run hsrtt hrttvar h
  | expire env params now clock =>
      obtain ⟨evs, hevs, hlost⟩ := @detectLost_run c env c.rtt [] hempty rfl now
      rw [step]
      unfold timerExpire
      dsimp only
      have htimeout : ∃ evs, (∀ ev ∈ evs, RttEvent.Wf ev) ∧
          (c.onLossDetectionTimeout env params now clock).rtt = c.rtt.run evs := by
        unfold onLossDetectionTimeout
        dsimp only
        split_ifs
        · exact ⟨evs, hevs, by rw [setLossDetectionTimer_rtt, hlost]⟩
        · exact ⟨[], hempty, setLossDetectionTimer_rtt _⟩
        · exact ⟨[], hempty, setLossDetectionTimer_rtt _⟩
      split_ifs
      · exact htimeout
      · exact htimeout
      · exact ⟨[], hempty, rfl⟩

end LossCtl

end Rquic

import Rquic.Congestion.Bbr2
import Rquic.Congestion.BbrWindow
import Rquic.Lib.MinFilter

set_option autoImplicit false

/-!
# The minimum of the RTT

The controllers estimate the propagation delay by `min_rtt`, and look for a new one when it has expired.

* `Bbr.minFilter`, `Bbr2.minFilter`: the two minima of a controller.
* `Bbr.minFilter_updateBandwidth`, ...: most of an ACK leaves them alone.
* **`bbr_minRtt`**, **`bbr2_minRtt`**: in every run `min_rtt` was measured, it is not above what was measured
  since, and it is recent.
-/

namespace Rquic

/-! ## BBRv2 -/

namespace Bbr2

/-- The two minima. -/
def minFilter (b : Bbr2) : MinFilter := ⟨b.probeRttMinUs, b.probeRttMinUsStamp, b.minRtt, b.minRttStamp⟩

variable (b : Bbr2) (a : Bbr2Ack) (s : Sampler) (f : Bbr2Floats)

variable {b} in
theorem minFilter_ite {c : Prop} [Decidable c] {x y : Bbr2} {m : MinFilter} (hx : x.minFilter = m)
    (hy : y.minFilter = m) : (if c then x else y).minFilter = m := by
  split
  · exact hx
  · exact hy

theorem minFilter_startRound : (b.updateRoundStart s).countRound.minFilter = b.minFilter := by
  have hround : (b.updateRoundStart s).minFilter = b.minFilter := minFilter_ite rfl (minFilter_ite rfl rfl)
  exact minFilter_ite hround hround

theorem minFilter_updateCongestionSignals (sampleBw : ℕ) :
    (b.updateCongestionSignals s f sampleBw).minFilter = b.minFilter := by
  have hlower : ∀ b : Bbr2, (b.adaptLowerBounds f).minFilter = b.minFilter := fun b => minFilter_ite rfl rfl
  unfold updateCongestionSignals
  extract_lets b₁ b₂ b₃ b₄
  have h₂ : b₂.minFilter = b.minFilter := minFilter_ite rfl rfl
  exact minFilter_ite rfl (minFilter_ite h₂ ((hlower b₄).trans h₂))

theorem minFilter_updateAckAggregation : (b.updateAckAggregation s).minFilter = b.minFilter := by
  have hrotate : (if b.roundStart then b.rotateExtraAck else b).minFilter = b.minFilter :=
    minFilter_ite (minFilter_ite rfl rfl) rfl
  have hmeasure : ∀ b : Bbr2, (b.measureExtraAck s).minFilter = b.minFilter := by
    intro b
    have hrestart : ∀ c : Prop, [Decidable c] →
        (if c then { b with epochAck := 0, extraAckStamp := s.now } else b).minFilter = b.minFilter :=
      fun c => minFilter_ite rfl rfl
    exact minFilter_ite (hrestart _) (hrestart _)
  exact minFilter_ite rfl ((hmeasure _).trans hrotate)

theorem minFilter_checkLossTooHighInStartup : (b.checkLossTooHighInStartup s f).minFilter = b.minFilter := by
  unfold checkLossTooHighInStartup
  extract_lets b₁
  have h₁ : b₁.minFilter = b.minFilter := minFilter_ite rfl rfl
  exact minFilter_ite rfl (minFilter_ite h₁ (minFilter_ite h₁ h₁))

theorem minFilter_checkFullBwReached : (b.checkFullBwReached s f).minFilter = b.minFilter :=
  minFilter_ite rfl (minFilter_ite rfl rfl)

theorem minFilter_checkDrain : (b.checkDrain a).minFilter = b.minFilter := by
  have hdrain : (if b.mode = .startup ∧ b.fullBandwidthReached = true then b.enterDrain else b).minFilter =
      b.minFilter := minFilter_ite rfl rfl
  exact minFilter_ite hdrain hdrain

theorem minFilter_adaptAckPhase : (b.adaptAckPhase s).2.minFilter = b.minFilter := by
  have hadvance : ∀ b : Bbr2, b.advanceBwHiFilter.minFilter = b.minFilter := fun b => minFilter_ite rfl rfl
  unfold adaptAckPhase
  extract_lets b₁ b₂ b₃
  have h₁ : b₁.minFilter = b.minFilter := minFilter_ite rfl rfl
  have h₃ : b₃.minFilter = b.minFilter := minFilter_ite ((hadvance b₂).trans h₁) h₁
  split
  · split
    · exact h₃
    · exact h₃
  · exact h₁

theorem minFilter_adaptInflightHi : (b.adaptInflightHi a).minFilter = b.minFilter := by
  have hhigh : (b.handleInflightTooHigh a).minFilter = b.minFilter := by
    unfold handleInflightTooHigh
    extract_lets b₁ b₂
    have h₂ : b₂.minFilter = b.minFilter := minFilter_ite rfl rfl
    exact minFilter_ite h₂ h₂
  have hupward : ∀ b : Bbr2, (b.probeInflightHiUpward a.toSampler).minFilter = b.minFilter := by
    intro b
    unfold probeInflightHiUpward
    extract_lets notCwndLimited acks delta b₁
    have h₁ : b₁.minFilter = b.minFilter := minFilter_ite rfl rfl
    exact minFilter_ite rfl (minFilter_ite h₁ h₁)
  have hraise : (if b.inflightHi < a.txInFlight then { b with inflightHi := a.txInFlight % 2 ^ 32 }
      else b).minFilter = b.minFilter := minFilter_ite rfl rfl
  exact minFilter_ite (minFilter_ite hhigh rfl)
    (minFilter_ite rfl (minFilter_ite ((hupward _).trans hraise) hraise))

theorem minFilter_updatePhase : (b.updatePhase a).minFilter = b.minFilter := by
  unfold updatePhase
  split
  · exact minFilter_ite rfl rfl
  · exact minFilter_ite rfl rfl
  · exact minFilter_ite rfl rfl
  · exact minFilter_ite rfl (minFilter_ite rfl rfl)

theorem minFilter_updateCyclePhase : (b.updateCyclePhase a).minFilter = b.minFilter := by
  have hbounds : (b.adaptUpperBounds a).2.minFilter = b.minFilter := by
    have hphase := minFilter_adaptAckPhase b a.toSampler
    unfold adaptUpperBounds
    split
    · rename_i heq
      rwa [heq] at hphase
    · rename_i x heq
      rw [heq] at hphase
      exact (minFilter_adaptInflightHi x a).trans hphase
  unfold updateCyclePhase
  split
  · rfl
  · split
    · rename_i heq
      rwa [heq] at hbounds
    · rename_i x heq
      rw [heq] at hbounds
      exact minFilter_ite ((minFilter_updatePhase x a).trans hbounds) hbounds

theorem minFilter_beginProbeRtt (expired : Bool) : (b.beginProbeRtt expired).minFilter = b.minFilter := by
  have hsave : b.enterProbeRtt.saveCwnd.minFilter = b.minFilter := minFilter_ite rfl rfl
  exact minFilter_ite hsave rfl

/-- What has been measured counts from the end of `BBR2_PROBE_RTT` on. -/
theorem checkProbeRttDone_touched (random : ℕ × ℕ) :
    MinFilter.Touched s.now b.minFilter (b.checkProbeRttDone s random).minFilter := by
  unfold checkProbeRttDone
  split
  · exact .inl rfl
  · exact .inr (minFilter_ite rfl rfl)

theorem runProbeRtt_touched : MinFilter.Touched a.now b.minFilter (b.runProbeRtt a).minFilter := by
  have hdone : ∀ x : Bbr2, x.minFilter = b.minFilter → MinFilter.Touched a.now b.minFilter
      (if x.probeRttRoundDone then x.checkProbeRttDone a.toSampler a.rttProbed else x).minFilter := by
    intro x hx
    split
    · rw [← hx]
      exact checkProbeRttDone_touched x a.toSampler a.rttProbed
    · exact .inl hx
  unfold runProbeRtt
  extract_lets index b₁ b₂
  have h₁ : b₁.minFilter = b.minFilter := rfl
  split
  · refine .inl ?_
    unfold minFilter
    rfl
  · split
    · exact hdone b₂ (minFilter_ite h₁ h₁)
    · exact .inl h₁

theorem takeRtt_minFilter (hprobe : b.probeRttMinUsStamp < 2 ^ 63) (hleast : b.minRttStamp < 2 ^ 63) :
    (b.takeRtt s (decide (u64Add b.probeRttMinUsStamp 2500000 < s.now))).minFilter =
      b.minFilter.take 2500000 s.now s.rtt := by
  have hfollow : ∀ x : Bbr2, x.minRttStamp < 2 ^ 63 →
      (if x.probeRttMinUs ≤ x.minRtt ∨ decide (u64Add x.minRttStamp 2500000 < s.now) = true then
        { x with minRtt := x.probeRttMinUs, minRttStamp := x.probeRttMinUsStamp } else x).minFilter =
          x.minFilter.follow 2500000 s.now := by
    intro x hx
    have hadd : u64Add x.minRttStamp 2500000 = x.minRttStamp + 2500000 := u64Add_eq (by omega)
    simp only [hadd, decide_eq_true_iff]
    unfold MinFilter.follow minFilter
    split <;> rfl
  have hkept : ∀ x : Bbr2, ∀ expired, ({ x with minRttExpired := expired } : Bbr2).minFilter = x.minFilter :=
    fun x expired => by unfold minFilter; rfl
  unfold takeRtt MinFilter.take
  extract_lets b₁ expired b₂
  have h₁ : b₁.minFilter = b.minFilter.takeProbe 2500000 s.now s.rtt := by
    change (if s.rtt ≤ b.probeRttMinUs ∨ decide (u64Add b.probeRttMinUsStamp 2500000 < s.now) = true then
      { b with probeRttMinUs := s.rtt, probeRttMinUsStamp := s.now } else b).minFilter = _
    have hadd : u64Add b.probeRttMinUsStamp 2500000 = b.probeRttMinUsStamp + 2500000 := u64Add_eq (by omega)
    simp only [hadd, decide_eq_true_iff]
    unfold MinFilter.takeProbe minFilter
    split <;> rfl
  have hstamp : b₁.minRttStamp = b.minRttStamp := by
    change (if _ then { b with probeRttMinUs := s.rtt, probeRttMinUsStamp := s.now } else b).minRttStamp = _
    split <;> rfl
  rw [← h₁, ← hkept b₁ expired]
  exact hfollow b₂ (hstamp.trans_lt hleast)

theorem updateMinRtt_touched (hprobe : b.probeRttMinUsStamp < 2 ^ 63) (hleast : b.minRttStamp < 2 ^ 63) :
    MinFilter.Touched a.now (b.minFilter.take 2500000 a.now a.rtt) (b.updateMinRtt a).minFilter := by
  have htake := takeRtt_minFilter b a.toSampler hprobe hleast
  rw [← htake, ← minFilter_beginProbeRtt]
  have hrun : ∀ x : Bbr2, MinFilter.Touched a.now x.minFilter
      (if x.mode = .probeRtt then x.runProbeRtt a else x).minFilter := by
    intro x
    split
    · exact runProbeRtt_touched x a
    · exact .inl rfl
  have hidle : ∀ x : Bbr2, (if 0 < a.delivered then { x with idleRestart := false } else x).minFilter =
      x.minFilter := fun x => minFilter_ite rfl rfl
  unfold updateMinRtt updateMinRttIf
  dsimp only
  rw [hidle]
  exact hrun _

theorem minFilter_updateRecoveryMode : (b.updateRecoveryMode s).minFilter = b.minFilter := by
  have hsave : ({ b with recoveryMode := .recovery } : Bbr2).saveCwnd.minFilter = b.minFilter :=
    minFilter_ite rfl rfl
  exact minFilter_ite rfl (minFilter_ite hsave (minFilter_ite rfl rfl))

theorem minFilter_updatePacingGainForLossRecovery :
    b.updatePacingGainForLossRecovery.minFilter = b.minFilter := by
  unfold updatePacingGainForLossRecovery
  split <;> rfl

theorem minFilter_setPacingRateHelper (gain : Rat) : (b.setPacingRateHelper gain f).minFilter = b.minFilter :=
  minFilter_ite rfl rfl

theorem minFilter_setPacingRate : (b.setPacingRate s f).minFilter = b.minFilter := by
  have hinit : (if b.hasSrtt = false ∧ s.srtt ≠ 0 then b.initPacingRate s.srtt f else b).minFilter =
      b.minFilter := minFilter_ite rfl rfl
  have hrate : ∀ gain, ((if b.hasSrtt = false ∧ s.srtt ≠ 0 then b.initPacingRate s.srtt f
      else b).setPacingRateHelper gain f).minFilter = b.minFilter :=
    fun gain => (minFilter_setPacingRateHelper _ f gain).trans hinit
  exact minFilter_ite (hrate _) (hrate _)

theorem minFilter_setCwnd : (b.setCwnd s f).minFilter = b.minFilter := by
  have hacked : (if s.acked ≠ 0 then b.setCwndAcked s f else b).minFilter = b.minFilter := minFilter_ite rfl rfl
  exact minFilter_ite hacked hacked

theorem minFilter_beforeMinRtt (sampleBw : ℕ) : ((((((b.updateRoundStart s).countRound.updateCongestionSignals s f
    sampleBw).updateAckAggregation s).checkLossTooHighInStartup s f).checkFullBwReached s f).checkDrain
      a |>.updateCyclePhase a).minFilter = b.minFilter := by
  rw [minFilter_updateCyclePhase, minFilter_checkDrain, minFilter_checkFullBwReached,
    minFilter_checkLossTooHighInStartup, minFilter_updateAckAggregation, minFilter_updateCongestionSignals,
    minFilter_startRound]

theorem minFilter_afterMinRtt (lossInCycle : Bool) : ({ ((b.updateRecoveryMode
    s).updatePacingGainForLossRecovery.setPacingRate s f).setCwnd s f |>.boundCwndForInflightModel f with
      lossInCycle := lossInCycle } : Bbr2).minFilter = b.minFilter := by
  have hbound : ∀ x : Bbr2, ({ x.boundCwndForInflightModel f with lossInCycle := lossInCycle } : Bbr2).minFilter =
      x.minFilter := fun _ => rfl
  rw [hbound, minFilter_setCwnd, minFilter_setPacingRate, minFilter_updatePacingGainForLossRecovery,
    minFilter_updateRecoveryMode]

theorem onAck_touched (hprobe : b.probeRttMinUsStamp < 2 ^ 63) (hleast : b.minRttStamp < 2 ^ 63) :
    MinFilter.Touched a.now (b.minFilter.take 2500000 a.now a.rtt) (b.onAck a).minFilter := by
  have hbefore := minFilter_beforeMinRtt b a a.toSampler a.floats (calculateBwSample a.toSampler a.floats)
  have hafter : (b.onAck a).minFilter = _ := minFilter_afterMinRtt _ a.toSampler a.floats _
  rw [hafter, ← hbefore]
  refine updateMinRtt_touched _ a ?_ ?_
  · exact (congrArg MinFilter.probeStamp hbefore).trans_lt hprobe
  · exact (congrArg MinFilter.leastStamp hbefore).trans_lt hleast

/-! ## Runs of BBRv2 -/

/-- What an operation does to the minima. -/
def rttEvent : Bbr2Op → MinFilter.Event
  | .onAck a => .measure a.now a.rtt
  | .onLost _ now => .pass now
  | .resetCwnd now => .pass now
  | .restartFromIdle _ now _ _ => .pass now

theorem step_rttEvent (op : Bbr2Op) (hprobe : b.minFilter.probeStamp < 2 ^ 63)
    (hleast : b.minFilter.leastStamp < 2 ^ 63) :
    (rttEvent op).Step 2500000 b.minFilter (b.step op).minFilter := by
  cases op with
  | onAck a => exact onAck_touched b a hprobe hleast
  | onLost lostSentTime now => exact .inl (minFilter_ite rfl (minFilter_ite rfl rfl))
  | resetCwnd now =>
      have hsave : b.saveCwnd.minFilter = b.minFilter := minFilter_ite rfl rfl
      exact .inl (minFilter_ite hsave hsave)
  | restartFromIdle connDelivered now random f =>
      change MinFilter.Touched now b.minFilter (b.restartFromIdle connDelivered now random f).minFilter
      unfold restartFromIdle
      extract_lets b₁
      split
      · have hrate := minFilter_setPacingRateHelper b₁ f 1
        exact .inl (minFilter_ite hrate hrate)
      · exact checkProbeRttDone_touched b₁ { now := now, totalAcked := connDelivered } random
      · exact .inl rfl

end Bbr2

open MinFilter in
/-- **The minimum of the RTT in BBRv2.** In every run whose times do not decrease, `min_rtt` is a value that was
measured, or the first one; no measurement since its stamp is below it; and its stamp is at most 2.5 seconds
older than any measurement. -/
theorem bbr2_minRtt (srtt now : ℕ) (f : Bbr2Floats) (ops : List Bbr2Op)
    (hsorted : (now :: times (ops.map Bbr2.rttEvent)).Pairwise (· ≤ ·))
    (hfits : ∀ t ∈ now :: times (ops.map Bbr2.rttEvent), t < 2 ^ 63) :
    let b := ops.foldl Bbr2.step (.init srtt now f)
    (b.minRtt = (Bbr2.init srtt now f).minRtt ∨ ∃ p ∈ samples (ops.map Bbr2.rttEvent), p.2 = b.minRtt) ∧
      ∀ p ∈ samples (ops.map Bbr2.rttEvent), p.1 ≤ b.minRttStamp + 2500000 ∧
        (b.minRttStamp ≤ p.1 → b.minRtt ≤ p.2) := by
  intro b
  have hinit : Inv 2500000 (Bbr2.init srtt now f).minRtt [] now (Bbr2.init srtt now f).minFilter :=
    inv_start 2500000 (Bbr2.init srtt now f).minRtt now
  obtain ⟨last, hinv⟩ := Inv.run Bbr2.step Bbr2.minFilter Bbr2.rttEvent (fun b op => b.step_rttEvent op) hinit
    (hfits now List.mem_cons_self) ops hsorted fun t ht => hfits t (List.mem_cons_of_mem _ ht)
  rw [List.nil_append] at hinv
  exact ⟨hinv.leastMeasured, fun p hp => ⟨hinv.leastLive p hp, hinv.leastBound p hp⟩⟩

/-- Every product comes to nothing. -/
def zeroFloats2 : Bbr2Floats where
  gainBdp _ _ := 0
  initRate _ _ := 0
  pacingRate _ _ := 0
  deliveryRate _ _ := 0
  inflightHi _ _ := 0
  headroom _ := 0
  extraAckTime _ := 0
  fullbwThresh _ := 0
  lowerBound _ _ := 0
  lossThresh _ := 0

/-- An ACK with a measurement. -/
def rttAck (now rtt : ℕ) : Bbr2Op :=
  .onAck {
    now := now
    rtt := rtt
    ctlDelivered := 0
    ctlBytesInFlight := 0
    floats := zeroFloats2
    drained := (0, 0)
    tooHigh := (0, 0)
    probed := (0, 0)
    rttProbed := (0, 0) }

/-- The minimum of the first second expires, and a greater value takes its place. -/
theorem bbr2_minRtt_expired :
    ([rttAck 1000000 30000, rttAck 4000000 70000].foldl Bbr2.step (.init 50000 0 zeroFloats2)).minRtt = 70000 ∧
      1000000 ≤ ([rttAck 1000000 30000, rttAck 4000000 70000].foldl Bbr2.step
        (.init 50000 0 zeroFloats2)).minRttStamp + 2500000 :=
  ⟨by decide +kernel, ((bbr2_minRtt 50000 0 zeroFloats2 [rttAck 1000000 30000, rttAck 4000000 70000] (by decide)
    (by decide)).2 (1000000, 30000) (by decide)).1⟩

/-! ## BBR -/

namespace Bbr

/-- The two minima. -/
def minFilter (b : Bbr) : MinFilter := ⟨b.probeRttMinUs, b.probeRttMinUsStamp, b.minRtt, b.minRttStamp⟩

variable (b : Bbr) (a : BbrAck) (s : Sampler) (f : BbrFloats)

variable {b} in
theorem minFilter_ite {c : Prop} [Decidable c] {x y : Bbr} {m : MinFilter} (hx : x.minFilter = m)
    (hy : y.minFilter = m) : (if c then x else y).minFilter = m := by
  split
  · exact hx
  · exact hy

theorem minFilter_sampleLtBw : (b.sampleLtBw s f).minFilter = b.minFilter :=
  minFilter_ite rfl (minFilter_ite rfl rfl)

theorem minFilter_continueLtBwSampling : (b.continueLtBwSampling s f).minFilter = b.minFilter := by
  have hstart : ∀ b : Bbr, ((if b.ltIsSampling then b else
      { b with ltIsSampling := true }.newLtBwInterval s) : Bbr).minFilter = b.minFilter :=
    fun b => minFilter_ite rfl rfl
  have hcount : ∀ b : Bbr, ((if b.roundStart then b.countLtRtt else b) : Bbr).minFilter = b.minFilter :=
    fun b => minFilter_ite rfl rfl
  have hend : ∀ b : Bbr, ((if b.ltRttCnt < 4 then b else if 16 < b.ltRttCnt then b.resetLtBwSampling
      else if s.loss = 0 then b else b.sampleLtBw s f) : Bbr).minFilter = b.minFilter :=
    fun b => minFilter_ite rfl (minFilter_ite rfl (minFilter_ite rfl (minFilter_sampleLtBw b s f)))
  exact minFilter_ite rfl (minFilter_ite (hstart b) ((hend _).trans ((hcount _).trans (hstart b))))

theorem minFilter_updateLtBwSampling : (b.updateLtBwSampling a).minFilter = b.minFilter := by
  have hcount : (if b.ltUseBw && b.mode == .probeBw && b.roundStart then b.countLtRtt else b).minFilter =
      b.minFilter := minFilter_ite rfl rfl
  exact minFilter_ite hcount ((minFilter_continueLtBwSampling _ _ _).trans hcount)

theorem minFilter_updateBandwidth : (b.updateBandwidth a).minFilter = b.minFilter := by
  have hround : ({ b with roundStart := false }.startRound a.toSampler).minFilter = b.minFilter :=
    minFilter_ite rfl rfl
  have hfeed : ∀ b : Bbr, (b.feedBandwidth a.toSampler a.floats).minFilter = b.minFilter :=
    fun b => minFilter_ite rfl rfl
  refine minFilter_ite rfl ((hfeed _).trans (minFilter_ite ?_ hround))
  exact (minFilter_updateLtBwSampling _ _).trans hround

theorem minFilter_setExtraAck (n : ℕ) : (b.setExtraAck n).minFilter = b.minFilter := minFilter_ite rfl rfl

theorem minFilter_updateAckAggregation : (b.updateAckAggregation s).minFilter = b.minFilter := by
  have hrotate : (if b.roundStart then b.rotateExtraAck else b).minFilter = b.minFilter :=
    minFilter_ite (minFilter_ite (minFilter_setExtraAck _ _) rfl) rfl
  have hmeasure : ∀ b : Bbr, (b.measureExtraAck s).minFilter = b.minFilter := by
    intro b
    have hrestart : ∀ c : Prop, [Decidable c] →
        (if c then { b with epochAck := 0, extraAckStamp := s.now } else b).minFilter = b.minFilter :=
      fun c => minFilter_ite rfl rfl
    exact minFilter_ite ((minFilter_setExtraAck _ _).trans (hrestart _)) (hrestart _)
  exact minFilter_ite rfl ((hmeasure _).trans hrotate)

theorem minFilter_updateCyclePhase : (b.updateCyclePhase s f).minFilter = b.minFilter := minFilter_ite rfl rfl

theorem minFilter_checkFullBwReached : (b.checkFullBwReached s f).minFilter = b.minFilter :=
  minFilter_ite rfl (minFilter_ite rfl (minFilter_ite rfl rfl))

theorem minFilter_checkDrain : (b.checkDrain a).minFilter = b.minFilter := by
  have hdrain : (if b.mode = .startup ∧ b.fullBandwidthReached = true then b.enterDrain else b).minFilter =
      b.minFilter := minFilter_ite rfl rfl
  exact minFilter_ite hdrain hdrain

theorem checkProbeRttDone_touched (random now : ℕ) :
    MinFilter.Touched now b.minFilter (b.checkProbeRttDone random now).minFilter := by
  unfold checkProbeRttDone
  split
  · exact .inl rfl
  · exact .inr (minFilter_ite rfl rfl)

theorem runProbeRtt_touched : MinFilter.Touched a.now b.minFilter (b.runProbeRtt a).minFilter := by
  have hdone : ∀ x : Bbr, x.minFilter = b.minFilter → MinFilter.Touched a.now b.minFilter
      (if x.probeRttRoundDone then x.checkProbeRttDone a.random a.now else x).minFilter := by
    intro x hx
    split
    · rw [← hx]
      exact checkProbeRttDone_touched x a.random a.now
    · exact .inl hx
  unfold runProbeRtt
  extract_lets index b₁ b₂
  have h₁ : b₁.minFilter = b.minFilter := rfl
  split
  · split
    · refine .inl ?_
      unfold minFilter
      rfl
    · exact .inl h₁
  · exact hdone b₂ (minFilter_ite h₁ h₁)

theorem takeRtt_minFilter (hprobe : b.probeRttMinUsStamp < 2 ^ 63) (hleast : b.minRttStamp < 2 ^ 63) :
    (b.takeRtt s (decide (u64Add b.probeRttMinUsStamp 10000000 < s.now))).minFilter =
      b.minFilter.take 10000000 s.now s.rtt := by
  have hfollow : ∀ x : Bbr, x.minRttStamp < 2 ^ 63 →
      (if x.probeRttMinUs ≤ x.minRtt ∨ decide (u64Add x.minRttStamp 10000000 < s.now) = true then
        { x with minRtt := x.probeRttMinUs, minRttStamp := x.probeRttMinUsStamp } else x).minFilter =
          x.minFilter.follow 10000000 s.now := by
    intro x hx
    have hadd : u64Add x.minRttStamp 10000000 = x.minRttStamp + 10000000 := u64Add_eq (by omega)
    simp only [hadd, decide_eq_true_iff]
    unfold MinFilter.follow minFilter
    split <;> rfl
  have hkept : ∀ x : Bbr, ∀ expired, ({ x with minRttExpired := expired } : Bbr).minFilter = x.minFilter :=
    fun x expired => by unfold minFilter; rfl
  unfold takeRtt MinFilter.take
  extract_lets b₁ expired b₂
  have h₁ : b₁.minFilter = b.minFilter.takeProbe 10000000 s.now s.rtt := by
    change (if s.rtt ≤ b.probeRttMinUs ∨ decide (u64Add b.probeRttMinUsStamp 10000000 < s.now) = true then
      { b with probeRttMinUs := s.rtt, probeRttMinUsStamp := s.now } else b).minFilter = _
    have hadd : u64Add b.probeRttMinUsStamp 10000000 = b.probeRttMinUsStamp + 10000000 := u64Add_eq (by omega)
    simp only [hadd, decide_eq_true_iff]
    unfold MinFilter.takeProbe minFilter
    split <;> rfl
  have hstamp : b₁.minRttStamp = b.minRttStamp := by
    change (if _ then { b with probeRttMinUs := s.rtt, probeRttMinUsStamp := s.now } else b).minRttStamp = _
    split <;> rfl
  rw [← h₁, ← hkept b₁ expired]
  exact hfollow b₂ (hstamp.trans_lt hleast)

theorem updateMinRtt_touched (hprobe : b.probeRttMinUsStamp < 2 ^ 63) (hleast : b.minRttStamp < 2 ^ 63) :
    MinFilter.Touched a.now (b.minFilter.take 10000000 a.now a.rtt) (b.updateMinRtt a).minFilter := by
  have htake := takeRtt_minFilter b a.toSampler hprobe hleast
  have hbegin : ∀ x : Bbr, ∀ expired, (x.beginProbeRtt expired).minFilter = x.minFilter := by
    intro x expired
    have hsave : x.enterProbeRtt.saveCwnd.minFilter = x.minFilter := minFilter_ite rfl rfl
    exact minFilter_ite hsave rfl
  rw [← htake, ← hbegin]
  have hrun : ∀ x : Bbr, MinFilter.Touched a.now x.minFilter
      (if x.mode = .probeRtt then x.runProbeRtt a else x).minFilter := by
    intro x
    split
    · exact runProbeRtt_touched x a
    · exact .inl rfl
  have hidle : ∀ x : Bbr, (if 0 < a.delivered then { x with idleRestart := false } else x).minFilter =
      x.minFilter := fun x => minFilter_ite rfl rfl
  unfold updateMinRtt updateMinRttIf
  dsimp only
  rw [hidle]
  exact hrun _

theorem minFilter_updateRecoveryMode : (b.updateRecoveryMode s).minFilter = b.minFilter :=
  minFilter_ite rfl (minFilter_ite rfl rfl)

theorem minFilter_setPacingRateHelper (gain : Rat) : (b.setPacingRateHelper gain f).minFilter = b.minFilter :=
  minFilter_ite rfl rfl

theorem minFilter_setPacingRate : (b.setPacingRate s f).minFilter = b.minFilter := by
  have hinit : (if b.hasSrtt = false ∧ s.srtt ≠ 0 then b.initPacingRate s.srtt f else b).minFilter =
      b.minFilter := minFilter_ite rfl rfl
  have hrate : ∀ gain, ((if b.hasSrtt = false ∧ s.srtt ≠ 0 then b.initPacingRate s.srtt f
      else b).setPacingRateHelper gain f).minFilter = b.minFilter :=
    fun gain => (minFilter_setPacingRateHelper _ f gain).trans hinit
  exact minFilter_ite (hrate _) (hrate _)

theorem minFilter_setCwnd : (b.setCwnd a).minFilter = b.minFilter := by
  have hgrow : ∀ x : Bbr, ∀ target, (x.growCwnd a target).minFilter = x.minFilter :=
    fun x target => minFilter_ite rfl (minFilter_ite rfl (minFilter_ite rfl rfl))
  have hmodulate : (b.modulateCwndForRecovery a).minFilter = b.minFilter := by
    unfold modulateCwndForRecovery
    extract_lets b₁
    have h₁ : b₁.minFilter = b.minFilter := minFilter_ite rfl (minFilter_ite rfl rfl)
    exact minFilter_ite h₁ h₁
  have hacked : (if a.acked ≠ 0 then b.setCwndAcked a else b).minFilter = b.minFilter :=
    minFilter_ite ((hgrow _ _).trans hmodulate) rfl
  exact minFilter_ite hacked hacked

theorem onAck_touched (hprobe : b.probeRttMinUsStamp < 2 ^ 63) (hleast : b.minRttStamp < 2 ^ 63) :
    MinFilter.Touched a.now (b.minFilter.take 10000000 a.now a.rtt) (b.onAck a).minFilter := by
  have hbefore : (((((b.updateBandwidth a).updateAckAggregation a.toSampler).updateCyclePhase a.toSampler
      a.floats).checkFullBwReached a.toSampler a.floats).checkDrain a).minFilter = b.minFilter := by
    rw [minFilter_checkDrain, minFilter_checkFullBwReached, minFilter_updateCyclePhase,
      minFilter_updateAckAggregation, minFilter_updateBandwidth]
  have hafter : ∀ x : Bbr, (((x.updateRecoveryMode a.toSampler).setPacingRate a.toSampler a.floats).setCwnd
      a).minFilter = x.minFilter := by
    intro x
    rw [minFilter_setCwnd, minFilter_setPacingRate, minFilter_updateRecoveryMode]
  rw [show (b.onAck a).minFilter = _ from hafter _, ← hbefore]
  refine updateMinRtt_touched _ a ?_ ?_
  · exact (congrArg MinFilter.probeStamp hbefore).trans_lt hprobe
  · exact (congrArg MinFilter.leastStamp hbefore).trans_lt hleast

/-! ## Runs of BBR -/

/-- What an operation does to the minima. -/
def rttEvent : BbrOp → MinFilter.Event
  | .onAck a => .measure a.now a.rtt
  | .onLost now => .pass now
  | .resetCwnd => .keep
  | .restartFromIdle _ now _ => .pass now

theorem step_rttEvent (op : BbrOp) (hprobe : b.minFilter.probeStamp < 2 ^ 63)
    (hleast : b.minFilter.leastStamp < 2 ^ 63) :
    (rttEvent op).Step 10000000 b.minFilter (b.step op).minFilter := by
  have hsave : b.saveCwnd.minFilter = b.minFilter := minFilter_ite rfl rfl
  cases op with
  | onAck a => exact onAck_touched b a hprobe hleast
  | onLost now => exact .inl (minFilter_ite rfl hsave)
  | resetCwnd =>
      have hcancel : ∀ c : Prop, [Decidable c] → ((if c then
          { { b.saveCwnd with congestionWindow := b.saveCwnd.minCwnd } with
            recoveryMode := .notInRecovery, packetConservation := false }
          else { b.saveCwnd with congestionWindow := b.saveCwnd.minCwnd }) : Bbr).minFilter = b.minFilter :=
        fun c => minFilter_ite hsave hsave
      exact minFilter_ite (hcancel _) (hcancel _)
  | restartFromIdle random now f =>
      change MinFilter.Touched now b.minFilter (b.restartFromIdle random now f).minFilter
      unfold restartFromIdle
      extract_lets b₀ b₁
      have h₁ : b₁.minFilter = b.minFilter := minFilter_ite rfl rfl
      split
      · have hrate := (minFilter_setPacingRateHelper b₁ f 1).trans h₁
        exact .inl (minFilter_ite hrate hrate)
      · rw [← h₁]
        exact checkProbeRttDone_touched b₁ random now
      · exact .inl h₁

end Bbr

open MinFilter in
/-- **The minimum of the RTT in BBR.** -/
theorem bbr_minRtt (p : CcParams) (srtt now : ℕ) (f : BbrFloats) (ops : List BbrOp)
    (hsorted : (now :: times (ops.map Bbr.rttEvent)).Pairwise (· ≤ ·))
    (hfits : ∀ t ∈ now :: times (ops.map Bbr.rttEvent), t < 2 ^ 63) :
    let b := ops.foldl Bbr.step (.init p srtt now f)
    (b.minRtt = (Bbr.init p srtt now f).minRtt ∨ ∃ p ∈ samples (ops.map Bbr.rttEvent), p.2 = b.minRtt) ∧
      ∀ p ∈ samples (ops.map Bbr.rttEvent), p.1 ≤ b.minRttStamp + 10000000 ∧
        (b.minRttStamp ≤ p.1 → b.minRtt ≤ p.2) := by
  intro b
  have hinit : Inv 10000000 (Bbr.init p srtt now f).minRtt [] now (Bbr.init p srtt now f).minFilter :=
    inv_start 10000000 (Bbr.init p srtt now f).minRtt now
  obtain ⟨last, hinv⟩ := Inv.run Bbr.step Bbr.minFilter Bbr.rttEvent (fun b op => b.step_rttEvent op) hinit
    (hfits now List.mem_cons_self) ops hsorted fun t ht => hfits t (List.mem_cons_of_mem _ ht)
  rw [List.nil_append] at hinv
  exact ⟨hinv.leastMeasured, fun p hp => ⟨hinv.leastLive p hp, hinv.leastBound p hp⟩⟩

/-- The minimum of the handshake expires. -/
theorem bbr_minRtt_expired :
    ([.onAck (lateAck 20000000)].foldl Bbr.step (.init {} 50000 0 zeroFloats)).minRtt = 60000 ∧
      20000000 ≤ ([.onAck (lateAck 20000000)].foldl Bbr.step (.init {} 50000 0 zeroFloats)).minRttStamp +
        10000000 :=
  ⟨by decide +kernel, ((bbr_minRtt {} 50000 0 zeroFloats [.onAck (lateAck 20000000)] (by decide)
    (by decide)).2 (20000000, 60000) (by decide)).1⟩

end Rquic

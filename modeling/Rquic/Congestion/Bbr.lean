import Rquic.Congestion.WindowFilter
import Rquic.SendCtl.Sample

set_option autoImplicit false

/-!
# BBR

`rqc_bbr.c`, with the build options of `rqc_bbr.h` and `rquic_typedef.h`: no additive increase and no
compensation for the variation of the RTT.

* `BbrWindow`, `Bbr`: the congestion window with what bounds and saves it, and the whole controller.
* `BbrFloats`: the expressions in floating point; `BbrAck`: what an ACK brings.
* `Bbr.updateBandwidth`, ..., `Bbr.setCwnd`: the parts of `Bbr.onAck`, in its order.
* `Bbr.init`, `BbrOp`, `Bbr.step`: the start and the operations of a run.
-/

namespace Rquic

/-! ## State -/

/-- `rqc_bbr_mode`. -/
inductive BbrMode where
  | startup | drain | probeBw | probeRtt
  deriving DecidableEq, Repr

/-- `rqc_bbr_recovery_mode`. -/
inductive BbrRecoveryMode where
  | notInRecovery | inRecovery
  deriving DecidableEq, Repr

/-- The fields of `rqc_bbr_t` that hold windows. -/
structure BbrWindow where
  congestionWindow : ℕ
  priorCwnd : ℕ := 0
  initialCongestionWindow : ℕ
  minCwnd : ℕ
  deriving DecidableEq, Repr

/-- `RQC_BBR_INF`. -/
def bbrInf : ℕ := 0x7fffffff

/-- `rqc_bbr_t`. -/
structure Bbr extends BbrWindow where
  mode : BbrMode := .startup
  minRtt : ℕ
  minRttStamp : ℕ
  minRttExpired : Bool := false
  probeRttRoundDoneStamp : ℕ := 0
  bandwidth : WinFilter ℕ := .reset ⟨0, 0⟩
  roundCnt : ℕ := 0
  roundStart : Bool := false
  nextRoundDelivered : ℕ := 0
  pacingRate : ℕ := 0
  pacingGain : Rat := 0
  lastCycleStart : ℕ := 0
  cwndGain : Rat := 0
  cycleIdx : ℕ := 0
  cycleStartStamp : ℕ := 0
  fullBandwidthReached : Bool := false
  fullBandwidthCnt : ℕ := 0
  lastBandwidth : ℕ := 0
  probeRttRoundDone : Bool := false
  /-- `extra_ack[0]`. -/
  extraAck₀ : ℕ := 0
  /-- `extra_ack[1]`. -/
  extraAck₁ : ℕ := 0
  /-- `extra_ack_idx`, which is `0` or `1`. -/
  extraAckIdx : Bool := false
  extraAckStamp : ℕ
  extraAckRoundRtt : ℕ := 0
  epochAck : ℕ := 0
  extraAckInStartup : Bool := true
  extraAckWinLen : ℕ := 5
  extraAckWinLenInStartup : ℕ := 1
  hasSrtt : Bool := false
  idleRestart : Bool := false
  recoveryMode : BbrRecoveryMode := .notInRecovery
  justEnterRecoveryMode : Bool := false
  justExitRecoveryMode : Bool := false
  recoveryStartTime : ℕ := 0
  packetConservation : Bool := false
  expectBw : ℕ := 0
  enableExpectBw : Bool := false
  maxExpectBw : ℕ := 0
  enableMaxExpectBw : Bool := false
  probeRttMinUs : ℕ
  probeRttMinUsStamp : ℕ
  ltBwEnabled : Bool := false
  ltLastLostPkt : ℕ := 0
  ltLastDeliveredBytes : ℕ := 0
  ltLastStamp : ℕ := 0
  ltBw : ℕ := 0
  ltIsSampling : Bool := false
  ltUseBw : Bool := false
  ltRttCnt : ℕ := 0
  ignoreAppLimit : Bool := false
  /-- `ctl_app_limited` of the send control, where the controller has set it. -/
  ctlAppLimited : Option ℕ := none
  deriving DecidableEq, Repr

/-- What the expressions in floating point come to in one call, converted to the integer type that they
are assigned to. -/
structure BbrFloats where
  /-- `gain * rqc_bbr_bdp(bbr, bw)`. -/
  gainBdp : Rat → ℕ → UInt32
  /-- `bbr->pacing_gain * bandwidth` in `rqc_bbr_init_pacing_rate`. -/
  initRate : Rat → ℕ → UInt32
  /-- `bandwidth * pacing_gain * (1.0 - rqc_bbr_pacing_rate_margin_percent)`. -/
  pacingRate : ℕ → Rat → UInt32
  /-- `1.0 * sampler->delivered / sampler->interval * MSEC2SEC`. -/
  deliveryRate : ℕ → ℕ → UInt32
  /-- `rqc_bbr_bw(bbr) * rqc_bbr_max_extra_ack_time`. -/
  extraAckTime : ℕ → UInt32
  /-- `bbr->last_bandwidth * rqc_bbr_fullbw_thresh`. -/
  fullbwThresh : ℕ → UInt32
  /-- `bbr->lt_bw * rqc_bbr_lt_bw_ratio`. -/
  ltBwRatio : ℕ → UInt64
  /-- `acked_bytes * rqc_bbr_lt_bw_loss_thresh`. -/
  ltBwLossThresh : ℕ → UInt64

/-- What an ACK brings: the sample, the counters `ctl_delivered` and `ctl_bytes_in_flight` of the send
control, the next number of `rqc_random` and the floating point. -/
structure BbrAck extends Sampler where
  ctlDelivered : ℕ
  ctlBytesInFlight : ℕ
  random : ℕ
  floats : BbrFloats

/-- `RQC_BBR_MAX_DATAGRAMSIZE`, which is `RQC_MSS`. -/
def bbrMaxDatagramSize : ℕ := maxPacketOutSize + ackSpace

/-- `RQC_BBR_MIN_WINDOW`, and `rqc_bbr_min_cwnd`. -/
def bbrMinWindow : ℕ := 4 * bbrMaxDatagramSize

/-- `RQC_BBR_MAX_WINDOW`. -/
def bbrMaxWindow : ℕ := 100 * bbrMaxDatagramSize

/-- `RQC_BBR_INITIAL_WINDOW`. -/
def bbrInitialWindow : ℕ := 14 * bbrMaxDatagramSize

namespace Bbr

variable (b : Bbr)

/-! ## Bandwidth -/

/-- `rqc_bbr_max_bw`. -/
def maxBw : ℕ := b.bandwidth.get % 2 ^ 32

/-- `rqc_bbr_bw`. -/
def bw : ℕ := if b.ltUseBw && b.ltBwEnabled then b.ltBw % 2 ^ 32 else b.maxBw

/-- `rqc_bbr_bdp`. -/
def bdp (bw : ℕ) : ℕ := u64Mul b.minRtt bw / 1000000 % 2 ^ 32

/-- `rqc_bbr_target_cwnd`. -/
def targetCwnd (f : BbrFloats) (gain : Rat) (bw : ℕ) : ℕ :=
  if b.minRtt = bbrInf then b.initialCongestionWindow
  else max (f.gainBdp gain (b.bdp bw)).toNat b.minCwnd

/-- `rqc_bbr_pacing_gain`. -/
def pacingGains : ℕ → Rat
  | 0 => 1.25
  | 1 => 0.75
  | _ => 1

/-- `rqc_bbr_low_pacing_gain`. -/
def lowPacingGains : ℕ → Rat
  | 0 => 1.1
  | 1 => 0.9
  | _ => 1

/-- `rqc_bbr_get_pacing_gain`. -/
def getPacingGain (cycleIdx : ℕ) : Rat :=
  if b.ltUseBw && b.ltBwEnabled then 1
  else if b.enableExpectBw && decide (b.expectBw ≤ b.maxBw) then lowPacingGains cycleIdx
  else pacingGains cycleIdx

/-- `rqc_bbr_enter_startup`. -/
def enterStartup : Bbr := { b with mode := .startup, pacingGain := 2.885, cwndGain := 2.885 }

/-- `rqc_bbr_enter_drain`. -/
def enterDrain : Bbr := { b with mode := .drain, pacingGain := 1 / 2.885, cwndGain := 2.885 }

/-- `rqc_bbr_enter_probe_rtt`. -/
def enterProbeRtt : Bbr := { b with mode := .probeRtt, pacingGain := 1, cwndGain := 1 }

/-- The phase that `rqc_bbr_enter_probe_bw` begins with: every one but that of draining. -/
def firstPhase (random : ℕ) : ℕ := if random % 7 = 0 then 0 else random % 7 + 1

/-- `rqc_bbr_enter_probe_bw`. -/
def enterProbeBw (random now : ℕ) : Bbr :=
  { b with
    mode := .probeBw, cwndGain := 2.25, cycleIdx := firstPhase random
    pacingGain := b.getPacingGain (firstPhase random), cycleStartStamp := now, lastCycleStart := now }

/-- `rqc_bbr_reset_lt_bw_sampling`. -/
def resetLtBwSampling : Bbr :=
  { b with
    ltIsSampling := false, ltBw := 0, ltUseBw := false, ltLastLostPkt := 0, ltLastDeliveredBytes := 0
    ltLastStamp := 0, ltRttCnt := 0 }

/-- `rqc_bbr_new_lt_bw_interval`. -/
def newLtBwInterval (s : Sampler) : Bbr :=
  { b with
    ltRttCnt := 0, ltLastDeliveredBytes := s.totalAcked, ltLastLostPkt := s.totalLostPkts
    ltLastStamp := s.now }

/-- `rqc_bbr_finish_lt_bw_interval`. -/
def finishLtBwInterval (s : Sampler) (f : BbrFloats) (bw : ℕ) : Bbr :=
  let diff := if bw < b.ltBw then b.ltBw - bw else bw - b.ltBw
  if b.ltBw ≠ 0 ∧ (diff ≤ (f.ltBwRatio b.ltBw).toNat ∨ diff ≤ 4000) then
    -- the observed policing rate is consistent
    { b with ltBw := u64Add bw b.ltBw / 2, ltUseBw := true, ltRttCnt := 0, pacingGain := 1 }
  else { b with ltBw := bw }.newLtBwInterval s

/-- The end of `rqc_bbr_update_lt_bw_sampling`: an interval that is long enough, with a loss. -/
def sampleLtBw (s : Sampler) (f : BbrFloats) : Bbr :=
  let lostBytes := u64Mul (u64Sub s.totalLostPkts b.ltLastLostPkt) bbrMaxDatagramSize
  let ackedBytes := u64Sub s.totalAcked b.ltLastDeliveredBytes
  let interval := u64Sub s.now b.ltLastStamp
  if ackedBytes = 0 ∨ lostBytes < (f.ltBwLossThresh ackedBytes).toNat ∨ interval < 1000 then b
  else b.finishLtBwInterval s f (u64Mul ackedBytes 1000000 / interval)

/-- `++bbr->lt_rtt_cnt`, which has 16 bits. -/
def countLtRtt : Bbr := { b with ltRttCnt := (b.ltRttCnt + 1) % 2 ^ 16 }

/-- `rqc_bbr_update_lt_bw_sampling` behind its first check. -/
def continueLtBwSampling (s : Sampler) (f : BbrFloats) : Bbr :=
  if b.ltIsSampling = false ∧ s.loss = 0 then b
  else
    let b := if b.ltIsSampling then b else { b with ltIsSampling := true }.newLtBwInterval s
    if s.isAppLimited then b.resetLtBwSampling
    else
      let b := if b.roundStart then b.countLtRtt else b
      if b.ltRttCnt < 4 then b
      else if 16 < b.ltRttCnt then b.resetLtBwSampling
      else if s.loss = 0 then b
      else b.sampleLtBw s f

/-- `rqc_bbr_update_lt_bw_sampling`. -/
def updateLtBwSampling (a : BbrAck) : Bbr :=
  let counted := if b.ltUseBw && b.mode == .probeBw && b.roundStart then b.countLtRtt else b
  if (b.ltUseBw && b.mode == .probeBw && b.roundStart) && decide (48 ≤ counted.ltRttCnt) then
    counted.resetLtBwSampling.enterProbeBw a.random a.now
  else counted.continueLtBwSampling a.toSampler a.floats

/-- The beginning of a round trip in `rqc_bbr_update_bandwidth`. -/
def startRound (s : Sampler) : Bbr :=
  if b.nextRoundDelivered ≤ s.priorDelivered then
    { b with
      nextRoundDelivered := s.totalAcked, roundCnt := u32Add b.roundCnt 1, roundStart := true
      packetConservation := false }
  else b

/-- The sample of the bandwidth that `rqc_bbr_update_bandwidth` feeds the filter with. -/
def bandwidthSample (s : Sampler) (f : BbrFloats) : ℕ :=
  let bandwidth := (f.deliveryRate s.delivered s.interval).toNat
  if b.enableMaxExpectBw && decide (b.maxExpectBw ≤ bandwidth) then b.maxExpectBw else bandwidth

/-- The filter at the end of `rqc_bbr_update_bandwidth`. -/
def feedBandwidth (s : Sampler) (f : BbrFloats) : Bbr :=
  let bandwidth := b.bandwidthSample s f
  if b.ignoreAppLimit || !s.isAppLimited || decide (b.maxBw ≤ bandwidth) then
    { b with bandwidth := (winFilterMax b.bandwidth 10 (UInt64.ofNat b.roundCnt) bandwidth).1 }
  else b

/-- `rqc_bbr_update_bandwidth`. -/
def updateBandwidth (a : BbrAck) : Bbr :=
  let b := { b with roundStart := false }
  if a.interval = 0 then b
  else
    let b := b.startRound a.toSampler
    let b :=
      if b.ltBwEnabled && b.mode != .startup && b.mode != .drain then b.updateLtBwSampling a else b
    b.feedBandwidth a.toSampler a.floats

/-! ## Aggregation of ACKs -/

/-- `rqc_bbr_extra_ack`. -/
def extraAck : ℕ := max b.extraAck₀ b.extraAck₁

/-- `bbr->extra_ack[bbr->extra_ack_idx]`. -/
def currentExtraAck : ℕ := if b.extraAckIdx then b.extraAck₁ else b.extraAck₀

/-- An assignment to `bbr->extra_ack[bbr->extra_ack_idx]`. -/
def setExtraAck (n : ℕ) : Bbr :=
  if b.extraAckIdx then { b with extraAck₁ := n } else { b with extraAck₀ := n }

/-- `rqc_bbr_ack_aggregation_cwnd`. -/
def ackAggregationCwnd (f : BbrFloats) : ℕ :=
  if b.fullBandwidthReached || b.extraAckInStartup then
    min (2 * b.extraAck % 2 ^ 32) (f.extraAckTime b.bw).toNat
  else 0

/-- A round trip in `rqc_update_ack_aggregation`. -/
def rotateExtraAck : Bbr :=
  let thresh :=
    if b.extraAckInStartup && !b.fullBandwidthReached then b.extraAckWinLenInStartup else b.extraAckWinLen
  let b := { b with extraAckRoundRtt := u32Add b.extraAckRoundRtt 1 }
  if thresh ≤ b.extraAckRoundRtt then
    { b with extraAckRoundRtt := 0, extraAckIdx := !b.extraAckIdx }.setExtraAck 0
  else b

/-- The data beyond what was expected, in `rqc_update_ack_aggregation`. -/
def measureExtraAck (s : Sampler) : Bbr :=
  let epoch := u64Sub s.now b.extraAckStamp % 2 ^ 32
  let expected := b.bw * epoch / 1000000 % 2 ^ 32
  let restart := b.epochAck ≤ expected ∨ 2 ^ 20 * bbrMaxDatagramSize ≤ u32Add b.epochAck s.acked
  let expectedAck := if restart then 0 else expected
  let b := if restart then { b with epochAck := 0, extraAckStamp := s.now } else b
  let b := { b with epochAck := min (0xFFFFF * bbrMaxDatagramSize) (u32Add b.epochAck s.acked) }
  let extra := min (u32Sub b.epochAck expectedAck) b.congestionWindow
  if b.currentExtraAck < extra then b.setExtraAck extra else b

/-- `rqc_update_ack_aggregation`. -/
def updateAckAggregation (s : Sampler) : Bbr :=
  if s.delivered = 0 ∨ s.interval = 0 ∨ s.acked = 0 then b
  else (if b.roundStart then b.rotateExtraAck else b).measureExtraAck s

/-! ## Phases -/

/-- `rqc_bbr_is_next_cycle_phase`. -/
def isNextCyclePhase (s : Sampler) (f : BbrFloats) : Bool :=
  let isFullLength := decide (b.minRtt < u64Sub s.now b.lastCycleStart)
  if b.pacingGain < 1 then isFullLength || decide (s.priorInflight ≤ b.targetCwnd f 1 b.maxBw)
  else if 1 < b.pacingGain then
    isFullLength && (decide (s.loss ≠ 0) || decide (b.targetCwnd f b.pacingGain b.maxBw ≤ s.priorInflight))
  else isFullLength

/-- `rqc_bbr_update_cycle_phase`. -/
def updateCyclePhase (s : Sampler) (f : BbrFloats) : Bbr :=
  if b.mode = .probeBw ∧ b.isNextCyclePhase s f = true then
    { b with
      cycleIdx := (b.cycleIdx + 1) % 8, lastCycleStart := s.now
      pacingGain := b.getPacingGain ((b.cycleIdx + 1) % 8) }
  else b

/-- `rqc_bbr_check_full_bw_reached`. -/
def checkFullBwReached (s : Sampler) (f : BbrFloats) : Bbr :=
  if !b.roundStart || b.fullBandwidthReached || (!b.ignoreAppLimit && s.isAppLimited) then b
  else if b.enableExpectBw && decide (b.expectBw ≤ b.maxBw) then { b with fullBandwidthReached := true }
  else if (f.fullbwThresh b.lastBandwidth).toNat ≤ b.maxBw then
    { b with lastBandwidth := b.maxBw, fullBandwidthCnt := 0 }
  else
    { b with
      fullBandwidthCnt := u32Add b.fullBandwidthCnt 1
      fullBandwidthReached := decide (3 ≤ u32Add b.fullBandwidthCnt 1) }

/-- `rqc_bbr_check_drain`. -/
def checkDrain (a : BbrAck) : Bbr :=
  let b := if b.mode = .startup ∧ b.fullBandwidthReached = true then b.enterDrain else b
  if b.mode = .drain ∧ a.bytesInflight ≤ b.targetCwnd a.floats 1 b.maxBw then b.enterProbeBw a.random a.now
  else b

/-! ## The minimum of the RTT -/

/-- `rqc_bbr_save_cwnd`. -/
def saveCwnd : Bbr :=
  if b.recoveryMode ≠ .inRecovery ∧ b.mode ≠ .probeRtt then { b with priorCwnd := b.congestionWindow }
  else { b with priorCwnd := max b.congestionWindow b.priorCwnd }

/-- `rqc_bbr_restore_cwnd`. -/
def restoreCwnd : Bbr := { b with congestionWindow := max b.congestionWindow b.priorCwnd }

/-- `rqc_bbr_exit_probe_rtt`. -/
def exitProbeRtt (random now : ℕ) : Bbr :=
  if b.fullBandwidthReached then b.enterProbeBw random now else b.enterStartup

/-- `rqc_bbr_check_probe_rtt_done`. -/
def checkProbeRttDone (random now : ℕ) : Bbr :=
  if b.probeRttRoundDoneStamp = 0 ∨ now < b.probeRttRoundDoneStamp then b
  else ({ b with probeRttMinUsStamp := now }.restoreCwnd).exitProbeRtt random now

/-- `rqc_bbr_probe_rtt_cwnd`. -/
def probeRttCwnd (f : BbrFloats) : ℕ := max b.minCwnd (b.targetCwnd f 0.75 b.maxBw)

/-- The two minima of `rqc_bbr_update_min_rtt`. -/
def takeRtt (s : Sampler) (probeRttExpired : Bool) : Bbr :=
  let b :=
    if s.rtt ≤ b.probeRttMinUs ∨ probeRttExpired = true then
      { b with probeRttMinUs := s.rtt, probeRttMinUsStamp := s.now }
    else b
  let minRttExpired := decide (u64Add b.minRttStamp 10000000 < s.now)
  let b := { b with minRttExpired := minRttExpired }
  if b.probeRttMinUs ≤ b.minRtt ∨ minRttExpired = true then
    { b with minRtt := b.probeRttMinUs, minRttStamp := b.probeRttMinUsStamp }
  else b

/-- `BBR_PROBE_RTT` in `rqc_bbr_update_min_rtt`. -/
def runProbeRtt (a : BbrAck) : Bbr :=
  let index := u64Add a.ctlDelivered a.ctlBytesInFlight
  let b := { b with ctlAppLimited := some (if index ≠ 0 then index else 1) }
  if b.probeRttRoundDoneStamp = 0 then
    if a.bytesInflight ≤ b.probeRttCwnd a.floats then
      { b with
        probeRttRoundDoneStamp := u64Add a.now (min (u64Mul 2 a.srtt) 100000)
        probeRttRoundDone := false, nextRoundDelivered := a.totalAcked }
    else b
  else
    let b := if b.roundStart then { b with probeRttRoundDone := true } else b
    if b.probeRttRoundDone then b.checkProbeRttDone a.random a.now else b

/-- The entry to `BBR_PROBE_RTT` in `rqc_bbr_update_min_rtt`. -/
def beginProbeRtt (probeRttExpired : Bool) : Bbr :=
  if probeRttExpired = true ∧ b.mode ≠ .probeRtt ∧ b.idleRestart = false then
    { b.enterProbeRtt.saveCwnd with probeRttRoundDoneStamp := 0 }
  else b

/-- `rqc_bbr_update_min_rtt` behind its first line. -/
def updateMinRttIf (a : BbrAck) (probeRttExpired : Bool) : Bbr :=
  let b := (b.takeRtt a.toSampler probeRttExpired).beginProbeRtt probeRttExpired
  let b := if b.mode = .probeRtt then b.runProbeRtt a else b
  if 0 < a.delivered then { b with idleRestart := false } else b

/-- `rqc_bbr_update_min_rtt`. -/
def updateMinRtt (a : BbrAck) : Bbr :=
  b.updateMinRttIf a (decide (u64Add b.probeRttMinUsStamp 10000000 < a.now))

/-! ## Recovery -/

/-- `rqc_bbr_update_recovery_mode`. -/
def updateRecoveryMode (s : Sampler) : Bbr :=
  if s.poSentTime ≤ b.recoveryStartTime ∧ b.recoveryMode = .notInRecovery then
    { b with justEnterRecoveryMode := true, recoveryMode := .inRecovery }
  else if b.recoveryStartTime < s.poSentTime ∧ b.recoveryMode = .inRecovery then
    { b with recoveryMode := .notInRecovery, justExitRecoveryMode := true, recoveryStartTime := 0 }
  else b

/-- `rqc_bbr_modulate_cwnd_for_recovery`. -/
def modulateCwndForRecovery (a : BbrAck) : Bbr :=
  let b :=
    if b.justEnterRecoveryMode then
      { b with
        justEnterRecoveryMode := false, packetConservation := true, nextRoundDelivered := a.totalAcked
        congestionWindow := u32Add a.ctlBytesInFlight (max a.acked bbrMaxDatagramSize) }
    else if b.justExitRecoveryMode then
      { b with justExitRecoveryMode := false, packetConservation := false }.restoreCwnd
    else b
  if b.packetConservation then
    { b with congestionWindow := max b.congestionWindow (u32Add a.ctlBytesInFlight a.acked) }
  else b

/-! ## Control parameters -/

/-- `rqc_bbr_init_pacing_rate`. -/
def initPacingRate (srtt : ℕ) (f : BbrFloats) : Bbr :=
  { b with
    hasSrtt := b.hasSrtt || decide (srtt ≠ 0)
    pacingRate :=
      (f.initRate b.pacingGain (b.congestionWindow * 1000000 / if srtt ≠ 0 then srtt else 1000)).toNat }

/-- `_rqc_bbr_set_pacing_rate_helper`. -/
def setPacingRateHelper (pacingGain : Rat) (f : BbrFloats) : Bbr :=
  let rate := (f.pacingRate b.bw pacingGain).toNat
  if b.fullBandwidthReached = true ∨ b.pacingRate < rate then { b with pacingRate := rate } else b

/-- `rqc_bbr_set_pacing_rate`. -/
def setPacingRate (s : Sampler) (f : BbrFloats) : Bbr :=
  let b := if b.hasSrtt = false ∧ s.srtt ≠ 0 then b.initPacingRate s.srtt f else b
  let b := b.setPacingRateHelper b.pacingGain f
  if b.pacingRate = 0 then b.initPacingRate s.srtt f else b

/-- The window that `rqc_bbr_set_cwnd` lets grow, outside packet conservation. -/
def growCwnd (a : BbrAck) (targetCwnd : ℕ) : Bbr :=
  if b.packetConservation then b
  else if b.fullBandwidthReached then
    { b with congestionWindow := min targetCwnd (u32Add b.congestionWindow a.acked) }
  else if b.congestionWindow < targetCwnd ∨ a.ctlDelivered < b.initialCongestionWindow then
    { b with congestionWindow := u32Add b.congestionWindow a.acked }
  else b

/-- `rqc_bbr_set_cwnd`, where the ACK has acknowledged data. -/
def setCwndAcked (a : BbrAck) : Bbr :=
  let target :=
    u32Add (b.targetCwnd a.floats b.cwndGain b.bw) (b.ackAggregationCwnd a.floats)
  let b := (b.modulateCwndForRecovery a).growCwnd a target
  { b with congestionWindow := max b.congestionWindow b.minCwnd }

/-- `rqc_bbr_set_cwnd`. -/
def setCwnd (a : BbrAck) : Bbr :=
  let b := if a.acked ≠ 0 then b.setCwndAcked a else b
  if b.mode = .probeRtt then
    { b with congestionWindow := min b.congestionWindow (b.probeRttCwnd a.floats) }
  else b

/-! ## The interface -/

/-- `rqc_bbr_on_ack`. The constant `rqc_bbr2_slow_down_startup_on_lost` is `0`. -/
def onAck (a : BbrAck) : Bbr :=
  let b := b.updateBandwidth a
  let b := b.updateAckAggregation a.toSampler
  let b := b.updateCyclePhase a.toSampler a.floats
  let b := b.checkFullBwReached a.toSampler a.floats
  let b := b.checkDrain a
  let b := b.updateMinRtt a
  let b := b.updateRecoveryMode a.toSampler
  let b := b.setPacingRate a.toSampler a.floats
  b.setCwnd a

/-- `rqc_bbr_on_lost`. -/
def onLost (now : ℕ) : Bbr :=
  if b.mode = .startup then b else { b.saveCwnd with recoveryStartTime := now }

/-- `rqc_bbr_reset_cwnd`. -/
def resetCwnd : Bbr :=
  let b := b.saveCwnd
  let b := { b with congestionWindow := b.minCwnd }
  let b :=
    if b.recoveryMode = .inRecovery then
      { b with recoveryMode := .notInRecovery, packetConservation := false }
    else b
  let b := { b with recoveryStartTime := 0 }
  if b.ltBwEnabled then b.resetLtBwSampling else b

/-- `rqc_bbr_restart_from_idle`. The sample that it hands on is zero but for its time. -/
def restartFromIdle (random now : ℕ) (f : BbrFloats) : Bbr :=
  let b := { b with idleRestart := true, extraAckStamp := now, epochAck := 0 }
  let b := if b.ltBwEnabled then b.resetLtBwSampling else b
  match b.mode with
  | .probeBw =>
    let b := b.setPacingRateHelper 1 f
    if b.pacingRate = 0 then b.initPacingRate 0 f else b
  | .probeRtt => b.checkProbeRttDone random now
  | _ => b

/-- `rqc_bbr_get_cwnd`. -/
def getCwnd : ℕ := b.congestionWindow

end Bbr

/-- The fields of `rqc_cc_params_t` that the controller reads. -/
structure CcParams where
  customizeOn : Bool := false
  initCwnd : ℕ := 0
  minCwnd : ℕ := 0
  expectBw : ℕ := 0
  maxExpectBw : ℕ := 0
  bbrEnableLtBw : Bool := false
  bbrIgnoreAppLimit : Bool := false
  deriving DecidableEq, Repr

/-- A window of the settings, given in packets, where it is one that the controller takes. -/
def CcParams.window (p : CcParams) (packets default : ℕ) : ℕ :=
  let bytes := packets * bbrMaxDatagramSize % 2 ^ 32
  if p.customizeOn = true ∧ bbrMinWindow ≤ bytes ∧ bytes ≤ bbrMaxWindow then bytes else default

/-- `rqc_bbr_init`. -/
def Bbr.init (p : CcParams) (srtt now : ℕ) (f : BbrFloats) : Bbr :=
  let rtt := if srtt ≠ 0 then srtt else bbrInf
  let b : Bbr :=
    { congestionWindow := p.window p.initCwnd bbrInitialWindow
      initialCongestionWindow := p.window p.initCwnd bbrInitialWindow
      minCwnd := p.window p.minCwnd bbrMinWindow
      minRtt := rtt, minRttStamp := now, probeRttMinUs := rtt, probeRttMinUsStamp := now
      extraAckStamp := now
      enableExpectBw := p.customizeOn && decide (0 < p.expectBw)
      expectBw := if p.customizeOn then p.expectBw else 0
      enableMaxExpectBw := p.customizeOn && decide (0 < p.maxExpectBw)
      maxExpectBw := if p.customizeOn then p.maxExpectBw else 0
      ltBwEnabled := p.customizeOn && p.bbrEnableLtBw
      ignoreAppLimit := p.customizeOn && p.bbrIgnoreAppLimit }
  (b.resetLtBwSampling.enterStartup).initPacingRate srtt f

/-- The operations of the controller, with what they read. -/
inductive BbrOp where
  | onAck (a : BbrAck)
  | onLost (now : ℕ)
  | resetCwnd
  | restartFromIdle (random now : ℕ) (f : BbrFloats)

/-- One operation. -/
def Bbr.step (b : Bbr) : BbrOp → Bbr
  | .onAck a => b.onAck a
  | .onLost now => b.onLost now
  | .resetCwnd => b.resetCwnd
  | .restartFromIdle random now f => b.restartFromIdle random now f

end Rquic

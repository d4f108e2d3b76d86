import Rquic.Congestion.Bbr

set_option autoImplicit false

/-!
# BBRv2

`rqc_bbr2.c`, with the build option of `rquic_typedef.h`: without BBRv2+.

* `Bbr2Control`, `Bbr2`: what says where the controller is, and the whole controller.
* `Bbr2Floats`: the expressions in floating point; `Bbr2Ack`: what an ACK brings.
* `Bbr2.updateModel`, ..., `Bbr2.boundCwndForInflightModel`: the parts of `Bbr2.onAck`.
* `Bbr2.init`, `Bbr2Op`, `Bbr2.step`: the start and the operations of a run.
-/

namespace Rquic

/-! ## State -/

/-- `rqc_bbr2_mode`. -/
inductive Bbr2Mode where
  | startup | drain | probeBw | probeRtt
  deriving DecidableEq, Repr

/-- `rqc_bbr2_recovery_mode`. -/
inductive Bbr2RecoveryMode where
  | opened | recovery | loss
  deriving DecidableEq, Repr

/-- `rqc_bbr2_ack_phase`. -/
inductive Bbr2AckPhase where
  | init | refilling | probeStarting | probeFeedback | probeStopping
  deriving DecidableEq, Repr

/-- `rqc_bbr2_pacing_gain_phase`, which is all that `cycle_idx` is set to. -/
inductive Bbr2CyclePhase where
  | up | down | cruise | refill
  deriving DecidableEq, Repr

/-- `RQC_BBR2_INF_RTT`. -/
def bbr2InfRtt : ℕ := 0x7fffffff

/-- `RQC_BBR2_UNSIGNED_INF`. -/
def bbr2UnsignedInf : ℕ := 2 ^ 32 - 1

/-- `RQC_BBR2_MAX_DATAGRAM_SIZE`, which is `RQC_MSS`. -/
def bbr2MaxDatagramSize : ℕ := maxPacketOutSize + ackSpace

/-- `rqc_bbr2_min_cwnd`. -/
def bbr2MinCwnd : ℕ := 4 * bbr2MaxDatagramSize

/-- The fields of `rqc_bbr2_t` that say where the controller is, with the bounds and windows that go with it. -/
structure Bbr2Control where
  mode : Bbr2Mode := .startup
  congestionWindow : ℕ := 32 * bbr2MaxDatagramSize
  priorCwnd : ℕ := 0
  cycleIdx : Bbr2CyclePhase := .up
  fullBandwidthReached : Bool := false
  bwLo : ℕ := bbr2UnsignedInf
  inflightLo : ℕ := bbr2UnsignedInf
  bwProbeUpCnt : ℕ := bbr2UnsignedInf
  bwProbeUpRounds : ℕ := 0
  ackPhase : Bbr2AckPhase := .init
  deriving DecidableEq, Repr

/-- `rqc_bbr2_is_probing_bandwidth`. -/
def Bbr2Control.isProbingBandwidth (b : Bbr2Control) : Bool :=
  b.mode == .startup || (b.mode == .probeBw && (b.cycleIdx == .refill || b.cycleIdx == .up))

/-- `rqc_bbr2_t`. -/
structure Bbr2 extends Bbr2Control where
  minRtt : ℕ
  minRttStamp : ℕ
  minRttExpired : Bool := false
  probeRttRoundDoneStamp : ℕ := 0
  roundCnt : ℕ := 0
  roundStart : Bool := false
  nextRoundDelivered : ℕ := 0
  initialCongestionWindow : ℕ := 32 * bbr2MaxDatagramSize
  pacingRate : ℕ := 0
  pacingGain : Rat := 0
  cwndGain : Rat := 0
  exitStartupOnLoss : Bool := true
  cycleStartStamp : ℕ := 0
  fullBandwidthCnt : ℕ := 0
  lastBandwidth : ℕ := 0
  probeRttRoundDone : Bool := false
  /-- `extra_ack[0]`. -/
  extraAck₀ : ℕ := 0
  /-- `extra_ack[1]`. -/
  extraAck₁ : ℕ := 0
  /-- `extra_ack_idx`, which is `0` or `1`. -/
  extraAckIdx : Bool := false
  extraAckStamp : ℕ
  extraAckRoundRtt : ℕ := 0
  epochAck : ℕ := 0
  extraAckInStartup : Bool := true
  extraAckWinLen : ℕ := 5
  extraAckWinLenInStartup : ℕ := 1
  hasSrtt : Bool := false
  idleRestart : Bool := false
  lossInCycle : Bool := false
  lossRoundDelivered : ℕ := 1
  bwLatest : ℕ := 0
  /-- `bw_hi[0]`. -/
  bwHi₀ : ℕ := 0
  /-- `bw_hi[1]`. -/
  bwHi₁ : ℕ := 0
  inflightLatest : ℕ := 0
  inflightHi : ℕ := bbr2UnsignedInf
  bwProbeUpAcks : ℕ := 0
  probeWaitUs : ℕ := 0
  bwProbeSamples : Bool := false
  prevProbeTooHigh : Bool := false
  stoppedRiskyProbe : Bool := false
  roundsSinceProbe : ℕ := 0
  lossRoundStart : Bool := false
  lossInRound : Bool := false
  lossEventsInRound : ℕ := 0
  probeRttMinUs : ℕ
  probeRttMinUsStamp : ℕ
  recoveryStartTime : ℕ := 0
  packetConservation : Bool := false
  lossStartTime : ℕ := 0
  recoveryMode : Bbr2RecoveryMode := .opened
  /-- `ctl_app_limited` of the send control, where the controller has set it. -/
  ctlAppLimited : Option ℕ := none
  deriving DecidableEq, Repr

/-- What the expressions in floating point come to in one call, converted to the integer type that they
are assigned to. -/
structure Bbr2Floats where
  /-- `bdp * gain`. -/
  gainBdp : ℕ → Rat → UInt32
  /-- `bbr2->pacing_gain * bandwidth` in `rqc_bbr2_init_pacing_rate`. -/
  initRate : Rat → ℕ → UInt32
  /-- `bandwidth * pacing_gain * (1.0 - rqc_bbr2_pacing_rate_margin_percent)`. -/
  pacingRate : ℕ → Rat → UInt32
  /-- `1.0 * sampler->delivered / sampler->interval * MSEC2SEC`. -/
  deliveryRate : ℕ → ℕ → UInt32
  /-- `rqc_max(sampler->tx_in_flight, rqc_bbr2_target_inflight(bbr2) * (1.0 - beta))`. -/
  inflightHi : ℕ → ℕ → UInt32
  /-- `bbr2->inflight_hi * headroom_fraction`. -/
  headroom : ℕ → UInt32
  /-- `rqc_bbr2_bw(bbr2) * rqc_bbr2_max_extra_ack_time`. -/
  extraAckTime : ℕ → UInt32
  /-- `bbr2->last_bandwidth * rqc_bbr2_fullbw_thresh`. -/
  fullbwThresh : ℕ → UInt32
  /-- `rqc_max(latest, (1 - rqc_bbr2_inflight_lo_beta) * lo)`. -/
  lowerBound : ℕ → ℕ → UInt32
  /-- `inflight_pkts * rqc_bbr2_loss_thresh`. -/
  lossThresh : ℕ → UInt32

/-- What an ACK brings: the sample, the counters `ctl_delivered` and `ctl_bytes_in_flight` of the send
control, the floating point, and the numbers of `rqc_random` where `BBR2_BW_PROBE_DOWN` is entered: behind
`BBR2_DRAIN`, with too much in flight, at the end of a probe, and behind `BBR2_PROBE_RTT`. -/
structure Bbr2Ack extends Sampler where
  ctlDelivered : ℕ
  ctlBytesInFlight : ℕ
  floats : Bbr2Floats
  drained : ℕ × ℕ
  tooHigh : ℕ × ℕ
  probed : ℕ × ℕ
  rttProbed : ℕ × ℕ

namespace Bbr2

variable (b : Bbr2)

/-! ## Bandwidth and the data in flight -/

/-- `rqc_bbr2_max_bw`. -/
def maxBw : ℕ := max b.bwHi₀ b.bwHi₁

/-- `rqc_bbr2_bw`. -/
def bw : ℕ := min b.maxBw b.bwLo

/-- `rqc_bbr2_inflight`. -/
def inflight (f : Bbr2Floats) (bw : ℕ) (gain : Rat) : ℕ :=
  if b.minRtt = bbr2InfRtt then b.initialCongestionWindow
  else (f.gainBdp (u64Mul b.minRtt bw / 1000000) gain).toNat

/-- `rqc_bbr2_bdp`. -/
def bdp (f : Bbr2Floats) (bw : ℕ) : ℕ := b.inflight f bw 1

/-- `rqc_bbr2_target_inflight`. -/
def targetInflight (f : Bbr2Floats) : ℕ := min (b.bdp f b.bw) b.congestionWindow

/-- `rqc_bbr2_inflight_with_headroom`. -/
def inflightWithHeadroom (f : Bbr2Floats) : ℕ :=
  if b.inflightHi = bbr2UnsignedInf then bbr2UnsignedInf
  else
    let headroom := max (f.headroom b.inflightHi).toNat bbr2MaxDatagramSize
    max (if headroom ≤ b.inflightHi then b.inflightHi - headroom else 0) bbr2MinCwnd

/-- `rqc_bbr2_is_inflight_too_high`. -/
def isInflightTooHigh (s : Sampler) (f : Bbr2Floats) : Bool :=
  decide (0 < s.lostPkts) && decide (s.txInFlight ≠ 0) &&
    decide ((f.lossThresh (s.txInFlight / bbr2MaxDatagramSize % 2 ^ 32)).toNat < s.lostPkts)

/-- `rqc_bbr2_pacing_gain`. -/
def pacingGains : Bbr2CyclePhase → Rat
  | .up => 1.25
  | .down => 0.75
  | _ => 1

/-! ## Entries -/

/-- `rqc_bbr2_reset_congestion_signals`. -/
def resetCongestionSignals : Bbr2 :=
  { b with lossInRound := false, lossInCycle := false, bwLatest := 0, inflightLatest := 0 }

/-- `rqc_bbr2_reset_lower_bounds`. -/
def resetLowerBounds : Bbr2 := { b with bwLo := bbr2UnsignedInf, inflightLo := bbr2UnsignedInf }

/-- `rqc_bbr2_enter_startup`. -/
def enterStartup : Bbr2 := { b with mode := .startup, pacingGain := 2.885, cwndGain := 2 }

/-- `rqc_bbr2_enter_drain`. -/
def enterDrain : Bbr2 :=
  { b with mode := .drain, pacingGain := 0.75, cwndGain := 2 }.resetCongestionSignals

/-- `rqc_bbr2_pick_probe_wait`. -/
def pickProbeWait (random : ℕ × ℕ) : Bbr2 :=
  { b with roundsSinceProbe := random.1 % 2, probeWaitUs := 2000000 + random.2 % 1000000 }

/-- `rqc_bbr2_enter_probe_down`. -/
def enterProbeDown (s : Sampler) (random : ℕ × ℕ) : Bbr2 :=
  let b := { b with mode := .probeBw }.resetCongestionSignals
  let b := { b with bwProbeUpCnt := bbr2UnsignedInf }.pickProbeWait random
  { b with
    cycleStartStamp := s.now, ackPhase := .probeStopping, nextRoundDelivered := s.totalAcked
    cycleIdx := .down, cwndGain := 2, pacingGain := pacingGains .down }

/-- `rqc_bbr2_enter_probe_cruise`. -/
def enterProbeCruise : Bbr2 :=
  { b with
    inflightLo := if b.inflightLo ≠ bbr2UnsignedInf then min b.inflightLo b.inflightHi else b.inflightLo
    cycleIdx := .cruise, cwndGain := 2, pacingGain := pacingGains .cruise }

/-- `rqc_bbr2_enter_probe_refill`. The constant `rqc_bbr2_refill_and_inc` is `0`. -/
def enterProbeRefill (s : Sampler) (cnt : ℕ) : Bbr2 :=
  { b.resetLowerBounds with
    bwProbeUpRounds := cnt % 2 ^ 8, bwProbeUpAcks := 0, stoppedRiskyProbe := false
    ackPhase := .refilling, nextRoundDelivered := s.totalAcked
    cycleIdx := .refill, cwndGain := 2, pacingGain := pacingGains .refill }

/-- `rqc_bbr2_raise_inflight_hi_slope`. -/
def raiseInflightHiSlope : Bbr2 :=
  let growthThisRound := 1 <<< b.bwProbeUpRounds
  { b with
    bwProbeUpRounds := min (b.bwProbeUpRounds + 1) 30
    bwProbeUpCnt := max (b.congestionWindow / bbr2MaxDatagramSize / growthThisRound) 1 }

/-- `rqc_bbr2_enter_probe_up`. -/
def enterProbeUp (s : Sampler) : Bbr2 :=
  { { b with
      ackPhase := .probeStarting, nextRoundDelivered := s.totalAcked, cycleStartStamp := s.now
      cycleIdx := .up }.raiseInflightHiSlope with
    cwndGain := 2, pacingGain := pacingGains .up }

/-- `rqc_bbr2_enter_probe_rtt`. -/
def enterProbeRtt : Bbr2 := { b with mode := .probeRtt, pacingGain := 1, cwndGain := 1 }

/-! ## Rounds and samples -/

/-- `rqc_bbr2_update_round_start`. -/
def updateRoundStart (s : Sampler) : Bbr2 :=
  let b := { b with roundStart := false }
  if s.interval = 0 then b
  else if b.nextRoundDelivered ≤ s.priorDelivered then
    { b with nextRoundDelivered := s.totalAcked, roundStart := true }
  else b

/-- The rounds that `rqc_bbr2_on_ack` counts. -/
def countRound : Bbr2 :=
  if b.roundStart then
    { b with roundsSinceProbe := min (b.roundsSinceProbe + 1) 0xff, roundCnt := u32Add b.roundCnt 1 }
  else b

/-- `rqc_bbr2_calculate_bw_sample`: the `sample_bw` of the context. -/
def calculateBwSample (s : Sampler) (f : Bbr2Floats) : ℕ :=
  if s.interval = 0 then 0 else (f.deliveryRate s.delivered s.interval).toNat

/-- `rqc_bbr2_take_bw_hi_sample`. -/
def takeBwHiSample (bw : ℕ) : Bbr2 := { b with bwHi₁ := max b.bwHi₁ bw }

/-- `rqc_bbr2_advance_bw_hi_filter`. -/
def advanceBwHiFilter : Bbr2 := if b.bwHi₁ = 0 then b else { b with bwHi₀ := b.bwHi₁, bwHi₁ := 0 }

/-- `rqc_bbr2_adapt_lower_bounds`. -/
def adaptLowerBounds (f : Bbr2Floats) : Bbr2 :=
  if b.isProbingBandwidth = true ∨ b.lossInRound = false then b
  else
    let bwLo := if b.bwLo = bbr2UnsignedInf then b.maxBw else b.bwLo
    let inflightLo := if b.inflightLo = bbr2UnsignedInf then b.congestionWindow else b.inflightLo
    { b with
      bwLo := (f.lowerBound b.bwLatest bwLo).toNat
      inflightLo := (f.lowerBound b.inflightLatest inflightLo).toNat }

/-- `rqc_bbr2_update_congestion_signals`. -/
def updateCongestionSignals (s : Sampler) (f : Bbr2Floats) (sampleBw : ℕ) : Bbr2 :=
  let b := { b with lossRoundStart := false }
  if s.interval = 0 ∨ s.acked = 0 then b
  else
    let b := if s.isAppLimited = false ∨ b.maxBw ≤ sampleBw then b.takeBwHiSample sampleBw else b
    let b :=
      { b with
        lossInRound := b.lossInRound || decide (0 < s.loss)
        bwLatest := max b.bwLatest sampleBw, inflightLatest := max b.inflightLatest s.delivered }
    if s.priorDelivered < b.lossRoundDelivered then b
    else
      let b := { b with lossRoundDelivered := s.totalAcked % 2 ^ 32, lossRoundStart := true }
      { b.adaptLowerBounds f with
        lossInRound := false, bwLatest := sampleBw, inflightLatest := s.delivered }

/-! ## Aggregation of ACKs -/

/-- `rqc_bbr2_extra_ack`. -/
def extraAck : ℕ := max b.extraAck₀ b.extraAck₁

/-- `bbr2->extra_ack[bbr2->extra_ack_idx]`. -/
def currentExtraAck : ℕ := if b.extraAckIdx then b.extraAck₁ else b.extraAck₀

/-- An assignment to `bbr2->extra_ack[bbr2->extra_ack_idx]`. -/
def setExtraAck (n : ℕ) : Bbr2 :=
  { b with
    extraAck₀ := if b.extraAckIdx then b.extraAck₀ else n
    extraAck₁ := if b.extraAckIdx then n else b.extraAck₁ }

/-- `rqc_bbr2_ack_aggregation_cwnd`. -/
def ackAggregationCwnd (f : Bbr2Floats) : ℕ :=
  if b.fullBandwidthReached || b.extraAckInStartup then
    min b.extraAck (f.extraAckTime b.bw).toNat
  else 0

/-- A round trip in `rqc_update_ack_aggregation`. -/
def rotateExtraAck : Bbr2 :=
  let thresh :=
    if b.extraAckInStartup && !b.fullBandwidthReached then b.extraAckWinLenInStartup else b.extraAckWinLen
  let b := { b with extraAckRoundRtt := u32Add b.extraAckRoundRtt 1 }
  if thresh ≤ b.extraAckRoundRtt then
    { b with extraAckRoundRtt := 0, extraAckIdx := !b.extraAckIdx }.setExtraAck 0
  else b

/-- The data beyond what was expected, in `rqc_update_ack_aggregation`. -/
def measureExtraAck (s : Sampler) : Bbr2 :=
  let epoch := u64Sub s.now b.extraAckStamp % 2 ^ 32
  let expected := b.bw * epoch / 1000000 % 2 ^ 32
  let restart := b.epochAck ≤ expected ∨ 2 ^ 20 ≤ u32Add b.epochAck s.acked
  let expectedAck := if restart then 0 else expected
  let b := if restart then { b with epochAck := 0, extraAckStamp := s.now } else b
  let b := { b with epochAck := min (0xFFFFF * bbr2MaxDatagramSize) (u32Add b.epochAck s.acked) }
  let extra := min (u32Sub b.epochAck expectedAck) b.congestionWindow
  if b.currentExtraAck < extra then b.setExtraAck extra else b

/-- `rqc_update_ack_aggregation`. -/
def updateAckAggregation (s : Sampler) : Bbr2 :=
  if s.interval = 0 ∨ s.acked = 0 then b
  else (if b.roundStart then b.rotateExtraAck else b).measureExtraAck s

/-! ## The end of `BBR2_STARTUP` -/

/-- `rqc_bbr2_handle_queue_too_high_in_startup`. -/
def handleQueueTooHighInStartup (f : Bbr2Floats) : Bbr2 :=
  { b with fullBandwidthReached := true, inflightHi := b.bdp f b.maxBw }

/-- `rqc_bbr2_check_loss_too_high_in_startup`. -/
def checkLossTooHighInStartup (s : Sampler) (f : Bbr2Floats) : Bbr2 :=
  if b.fullBandwidthReached then b
  else
    let b :=
      if s.loss ≠ 0 ∧ b.lossEventsInRound < 0xf then
        { b with lossEventsInRound := b.lossEventsInRound + 1 }
      else b
    if (b.exitStartupOnLoss && b.lossRoundStart && b.recoveryMode == .recovery) = true ∧
        8 ≤ b.lossEventsInRound ∧ isInflightTooHigh s f = true then
      b.handleQueueTooHighInStartup f
    else if b.lossRoundStart then { b with lossEventsInRound := 0 }
    else b

/-- `rqc_bbr2_check_full_bw_reached`. -/
def checkFullBwReached (s : Sampler) (f : Bbr2Floats) : Bbr2 :=
  if !b.roundStart || b.fullBandwidthReached || s.isAppLimited then b
  else if (f.fullbwThresh b.lastBandwidth).toNat ≤ b.maxBw then
    { b with lastBandwidth := b.maxBw, fullBandwidthCnt := 0 }
  else
    { b with
      fullBandwidthCnt := u32Add b.fullBandwidthCnt 1
      fullBandwidthReached := decide (3 ≤ u32Add b.fullBandwidthCnt 1) }

/-- `rqc_bbr2_check_drain`. -/
def checkDrain (a : Bbr2Ack) : Bbr2 :=
  let b := if b.mode = .startup ∧ b.fullBandwidthReached = true then b.enterDrain else b
  if b.mode = .drain ∧ a.bytesInflight ≤ b.bdp a.floats b.maxBw then
    b.enterProbeDown a.toSampler a.drained
  else b

/-! ## The cycle of `BBR2_PROBE_BW` -/

/-- `rqc_bbr2_probe_inflight_hi_upward`. -/
def probeInflightHiUpward (s : Sampler) : Bbr2 :=
  let notCwndLimited :=
    s.priorInflight < b.congestionWindow ∧ bbr2MaxDatagramSize ≤ b.congestionWindow - s.priorInflight
  if notCwndLimited ∨ b.congestionWindow < b.inflightHi then { b with bwProbeUpAcks := 0 }
  else
    let acks := u32Add b.bwProbeUpAcks (s.acked / bbr2MaxDatagramSize)
    let delta := acks / b.bwProbeUpCnt
    let b :=
      if b.bwProbeUpCnt ≤ acks then
        { b with
          bwProbeUpAcks := u32Sub acks (delta * b.bwProbeUpCnt)
          inflightHi := u32Add b.inflightHi (delta * bbr2MaxDatagramSize) }
      else { b with bwProbeUpAcks := acks }
    if b.roundStart then b.raiseInflightHiSlope else b

/-- `rqc_bbr2_handle_inflight_too_high`. -/
def handleInflightTooHigh (a : Bbr2Ack) : Bbr2 :=
  let b := { b with prevProbeTooHigh := true, bwProbeSamples := false }
  let b :=
    if a.isAppLimited then b
    else { b with inflightHi := (a.floats.inflightHi a.txInFlight (b.targetInflight a.floats)).toNat }
  if b.mode = .probeBw ∧ b.cycleIdx = .up then b.enterProbeDown a.toSampler a.tooHigh else b

/-- The start of a round in `rqc_bbr2_adapt_upper_bounds`: what it says about the samples of the probe, with
whether the next probe follows at once. -/
def adaptAckPhase (s : Sampler) : Bool × Bbr2 :=
  let b :=
    if b.ackPhase = .probeStarting ∧ b.roundStart = true then { b with ackPhase := .probeFeedback } else b
  if b.ackPhase = .probeStopping ∧ b.roundStart = true then
    let b := { b with bwProbeSamples := false, ackPhase := .init }
    let b := if b.mode = .probeBw ∧ s.isAppLimited = false then b.advanceBwHiFilter else b
    if b.mode = .probeBw ∧ b.stoppedRiskyProbe = true ∧ b.prevProbeTooHigh = false then
      (true, b.enterProbeRefill s 0)
    else (false, b)
  else (false, b)

/-- The bound itself in `rqc_bbr2_adapt_upper_bounds`. -/
def adaptInflightHi (a : Bbr2Ack) : Bbr2 :=
  if isInflightTooHigh a.toSampler a.floats then
    if b.bwProbeSamples then b.handleInflightTooHigh a else b
  else if b.inflightHi = bbr2UnsignedInf then b
  else
    let b := if b.inflightHi < a.txInFlight then { b with inflightHi := a.txInFlight % 2 ^ 32 } else b
    if b.mode = .probeBw ∧ b.cycleIdx = .up then b.probeInflightHiUpward a.toSampler else b

/-- `rqc_bbr2_adapt_upper_bounds`, with whether it has decided the transition. -/
def adaptUpperBounds (a : Bbr2Ack) : Bool × Bbr2 :=
  match b.adaptAckPhase a.toSampler with
  | (true, b) => (true, b)
  | (false, b) => (false, b.adaptInflightHi a)

/-- `rqc_bbr2_has_elapsed_in_phase`. -/
def hasElapsedInPhase (now usec : ℕ) : Bool := decide (u64Add usec b.cycleStartStamp < now)

/-- `rqc_bbr2_is_reno_coexistence_probe_time`. The constant `rqc_bbr2_bw_probe_reno_gain` is `1`. -/
def isRenoCoexistenceProbeTime (f : Bbr2Floats) : Bool :=
  decide (min 63 (b.targetInflight f / bbr2MaxDatagramSize) ≤ b.roundsSinceProbe)

/-- What `rqc_bbr2_check_time_to_probe_bw` checks before it enters `BBR2_BW_PROBE_REFILL`. -/
def checkTimeToProbeBw (s : Sampler) (f : Bbr2Floats) : Bool :=
  b.hasElapsedInPhase s.now b.probeWaitUs || b.isRenoCoexistenceProbeTime f

/-- `rqc_bbr2_check_time_to_cruise`. -/
def checkTimeToCruise (f : Bbr2Floats) (inflight bw : ℕ) : Bool :=
  !decide (b.inflightWithHeadroom f < inflight) && decide (inflight ≤ b.bdp f bw)

/-- `BBR2_BW_PROBE_UP` in `rqc_bbr2_update_cycle_phase`. -/
def updateProbeUp (a : Bbr2Ack) : Bbr2 :=
  let isRisky := b.prevProbeTooHigh && decide (b.inflightHi ≤ a.priorInflight)
  let isQueuing :=
    b.hasElapsedInPhase a.now b.minRtt && decide (b.inflight a.floats b.maxBw 1.25 ≤ a.priorInflight)
  if isRisky || isQueuing then
    { b with
      stoppedRiskyProbe := b.stoppedRiskyProbe || isRisky
      prevProbeTooHigh := false }.enterProbeDown a.toSampler a.probed
  else b

/-- The phases in `rqc_bbr2_update_cycle_phase`. -/
def updatePhase (a : Bbr2Ack) : Bbr2 :=
  match b.cycleIdx with
  | .cruise =>
    if b.checkTimeToProbeBw a.toSampler a.floats then b.enterProbeRefill a.toSampler 0 else b
  | .refill =>
    if b.roundStart then { b with bwProbeSamples := true }.enterProbeUp a.toSampler else b
  | .up => b.updateProbeUp a
  | .down =>
    if b.checkTimeToProbeBw a.toSampler a.floats then b.enterProbeRefill a.toSampler 0
    else if b.checkTimeToCruise a.floats a.priorInflight b.maxBw then b.enterProbeCruise
    else b

/-- `rqc_bbr2_update_cycle_phase`. -/
def updateCyclePhase (a : Bbr2Ack) : Bbr2 :=
  if b.fullBandwidthReached = false then b
  else
    match b.adaptUpperBounds a with
    | (true, b) => b
    | (false, b) => if b.mode = .probeBw then b.updatePhase a else b

/-! ## The minimum of the RTT -/

/-- `rqc_bbr2_save_cwnd`. -/
def saveCwnd : Bbr2 :=
  if b.recoveryMode ≠ .recovery ∧ b.mode ≠ .probeRtt then { b with priorCwnd := b.congestionWindow }
  else { b with priorCwnd := max b.congestionWindow b.priorCwnd }

/-- `rqc_bbr2_restore_cwnd`. -/
def restoreCwnd : Bbr2 := { b with congestionWindow := max b.congestionWindow b.priorCwnd }

/-- `rqc_bbr2_probe_rtt_cwnd`. -/
def probeRttCwnd (f : Bbr2Floats) : ℕ := max bbr2MinCwnd (b.inflight f b.bw 0.75)

/-- `rqc_bbr2_exit_probe_rtt`. -/
def exitProbeRtt (s : Sampler) (random : ℕ × ℕ) : Bbr2 :=
  let b := b.resetLowerBounds
  if b.fullBandwidthReached then (b.enterProbeDown s random).enterProbeCruise else b.enterStartup

/-- `rqc_bbr2_check_probe_rtt_done`. -/
def checkProbeRttDone (s : Sampler) (random : ℕ × ℕ) : Bbr2 :=
  if b.probeRttRoundDoneStamp = 0 ∨ s.now < b.probeRttRoundDoneStamp then b
  else ({ b with probeRttMinUsStamp := s.now }.restoreCwnd).exitProbeRtt s random

/-- The two minima of `rqc_bbr2_update_min_rtt`. -/
def takeRtt (s : Sampler) (probeRttExpired : Bool) : Bbr2 :=
  let b :=
    if s.rtt ≤ b.probeRttMinUs ∨ probeRttExpired = true then
      { b with probeRttMinUs := s.rtt, probeRttMinUsStamp := s.now }
    else b
  let minRttExpired := decide (u64Add b.minRttStamp 2500000 < s.now)
  let b := { b with minRttExpired := minRttExpired }
  if b.probeRttMinUs ≤ b.minRtt ∨ minRttExpired = true then
    { b with minRtt := b.probeRttMinUs, minRttStamp := b.probeRttMinUsStamp }
  else b

/-- The entry to `BBR2_PROBE_RTT` in `rqc_bbr2_update_min_rtt`. -/
def beginProbeRtt (probeRttExpired : Bool) : Bbr2 :=
  if probeRttExpired = true ∧ b.idleRestart = false ∧ b.mode ≠ .probeRtt then
    { b.enterProbeRtt.saveCwnd with probeRttRoundDoneStamp := 0, ackPhase := .probeStopping }
  else b

/-- `BBR2_PROBE_RTT` in `rqc_bbr2_update_min_rtt`. -/
def runProbeRtt (a : Bbr2Ack) : Bbr2 :=
  let index := u64Add a.ctlDelivered a.ctlBytesInFlight
  let b := { b with ctlAppLimited := some (if index ≠ 0 then index else 1) }
  if b.probeRttRoundDoneStamp = 0 ∧ a.bytesInflight ≤ b.probeRttCwnd a.floats then
    { b with
      probeRttRoundDoneStamp := u64Add a.now 200000, probeRttRoundDone := false
      nextRoundDelivered := a.totalAcked }
  else if b.probeRttRoundDoneStamp ≠ 0 then
    let b := if b.roundStart then { b with probeRttRoundDone := true } else b
    if b.probeRttRoundDone then b.checkProbeRttDone a.toSampler a.rttProbed else b
  else b

/-- `rqc_bbr2_update_min_rtt` behind its first line. -/
def updateMinRttIf (a : Bbr2Ack) (probeRttExpired : Bool) : Bbr2 :=
  let b := (b.takeRtt a.toSampler probeRttExpired).beginProbeRtt probeRttExpired
  let b := if b.mode = .probeRtt then b.runProbeRtt a else b
  if 0 < a.delivered then { b with idleRestart := false } else b

/-- `rqc_bbr2_update_min_rtt`. -/
def updateMinRtt (a : Bbr2Ack) : Bbr2 :=
  b.updateMinRttIf a (decide (u64Add b.probeRttMinUsStamp 2500000 < a.now))

/-! ## Recovery -/

/-- `rqc_bbr2_update_recovery_mode`. -/
def updateRecoveryMode (s : Sampler) : Bbr2 :=
  if b.lossStartTime < s.poSentTime ∧ b.recoveryMode = .loss then
    { b with recoveryMode := .opened }.restoreCwnd
  else if s.poSentTime ≤ b.recoveryStartTime ∧ b.recoveryMode = .opened then
    { b with recoveryMode := .recovery }.saveCwnd
  else if b.recoveryStartTime < s.poSentTime ∧ b.recoveryMode = .recovery then
    { b with recoveryMode := .opened, recoveryStartTime := 0 }
  else b

/-- `rqc_bbr2_update_pacing_gain_for_loss_recovery`. -/
def updatePacingGainForLossRecovery : Bbr2 :=
  match b.mode, b.recoveryMode with
  | .startup, .recovery => { b with pacingGain := 1.5 }
  | .startup, .opened => { b with pacingGain := 2.885 }
  | _, _ => b

/-! ## Control parameters -/

/-- `rqc_bbr2_init_pacing_rate`. -/
def initPacingRate (srtt : ℕ) (f : Bbr2Floats) : Bbr2 :=
  { b with
    hasSrtt := b.hasSrtt || decide (srtt ≠ 0)
    pacingRate :=
      (f.initRate b.pacingGain (b.congestionWindow * 1000000 / if srtt ≠ 0 then srtt else 1000)).toNat }

/-- `_rqc_bbr2_set_pacing_rate_helper`. -/
def setPacingRateHelper (pacingGain : Rat) (f : Bbr2Floats) : Bbr2 :=
  let rate := (f.pacingRate b.bw pacingGain).toNat
  if b.fullBandwidthReached = true ∨ b.pacingRate < rate ∨ b.recoveryMode = .recovery then
    { b with pacingRate := rate }
  else b

/-- `rqc_bbr2_set_pacing_rate`. -/
def setPacingRate (s : Sampler) (f : Bbr2Floats) : Bbr2 :=
  let b := if b.hasSrtt = false ∧ s.srtt ≠ 0 then b.initPacingRate s.srtt f else b
  let b := b.setPacingRateHelper b.pacingGain f
  if b.pacingRate = 0 then b.initPacingRate s.srtt f else b

/-- `rqc_bbr2_set_cwnd`, where the ACK has acknowledged data. -/
def setCwndAcked (s : Sampler) (f : Bbr2Floats) : Bbr2 :=
  let target := u32Add (b.inflight f b.bw b.cwndGain) (b.ackAggregationCwnd f)
  let cwnd :=
    if b.fullBandwidthReached then min target (u32Add b.congestionWindow s.acked)
    else if b.congestionWindow < target ∨
        b.congestionWindow < 2 * b.initialCongestionWindow % 2 ^ 32 then
      u32Add b.congestionWindow s.acked
    else b.congestionWindow
  { b with congestionWindow := max cwnd bbr2MinCwnd }

/-- `rqc_bbr2_set_cwnd`. -/
def setCwnd (s : Sampler) (f : Bbr2Floats) : Bbr2 :=
  let b := if s.acked ≠ 0 then b.setCwndAcked s f else b
  if b.mode = .probeRtt then
    { b with congestionWindow := min b.congestionWindow (b.probeRttCwnd f) }
  else b

/-- The `cap` of `rqc_bbr2_bound_cwnd_for_inflight_model`. -/
def inflightCap (f : Bbr2Floats) : ℕ :=
  let cap :=
    if b.mode = .probeBw ∧ b.cycleIdx ≠ .cruise then b.inflightHi
    else if b.mode = .probeRtt ∨ b.mode = .probeBw ∧ b.cycleIdx = .cruise then b.inflightWithHeadroom f
    else bbr2UnsignedInf
  max (min cap b.inflightLo) bbr2MinCwnd

/-- `rqc_bbr2_bound_cwnd_for_inflight_model`. -/
def boundCwndForInflightModel (f : Bbr2Floats) : Bbr2 :=
  { b with congestionWindow := min (b.inflightCap f) b.congestionWindow }

/-! ## The interface -/

/-- `rqc_bbr2_update_model`. -/
def updateModel (a : Bbr2Ack) (sampleBw : ℕ) : Bbr2 :=
  let b := b.updateCongestionSignals a.toSampler a.floats sampleBw
  let b := b.updateAckAggregation a.toSampler
  let b := b.checkLossTooHighInStartup a.toSampler a.floats
  let b := b.checkFullBwReached a.toSampler a.floats
  let b := b.checkDrain a
  let b := b.updateCyclePhase a
  b.updateMinRtt a

/-- `rqc_bbr2_on_ack`. -/
def onAck (a : Bbr2Ack) : Bbr2 :=
  let b := (b.updateRoundStart a.toSampler).countRound
  let b := b.updateModel a (calculateBwSample a.toSampler a.floats)
  let b := (b.updateRecoveryMode a.toSampler).updatePacingGainForLossRecovery
  let b := b.setPacingRate a.toSampler a.floats
  let b := (b.setCwnd a.toSampler a.floats).boundCwndForInflightModel a.floats
  { b with lossInCycle := b.lossInCycle || decide (0 < a.loss) }

/-- `rqc_bbr2_on_lost`. -/
def onLost (lostSentTime now : ℕ) : Bbr2 :=
  if b.recoveryMode = .loss then b
  else if b.recoveryStartTime < lostSentTime then { b with recoveryStartTime := now }
  else b

/-- `rqc_bbr2_reset_cwnd`. -/
def resetCwnd (now : ℕ) : Bbr2 :=
  let b := b.saveCwnd
  let b :=
    { b with
      congestionWindow := bbr2MinCwnd, recoveryMode := .loss, lastBandwidth := 0, lossStartTime := now }
  let b :=
    if b.isProbingBandwidth = false ∧ b.inflightLo = bbr2UnsignedInf then
      { b with inflightLo := b.priorCwnd }
    else b
  { b with recoveryStartTime := 0 }

/-- `rqc_bbr2_restart_from_idle`. -/
def restartFromIdle (connDelivered now : ℕ) (random : ℕ × ℕ) (f : Bbr2Floats) : Bbr2 :=
  let b := { b with idleRestart := true, extraAckStamp := now, epochAck := 0 }
  match b.mode with
  | .probeBw =>
    let b := b.setPacingRateHelper 1 f
    if b.pacingRate = 0 then b.initPacingRate 0 f else b
  | .probeRtt => b.checkProbeRttDone { now := now, totalAcked := connDelivered } random
  | _ => b

/-- `rqc_bbr2_get_cwnd`. -/
def getCwnd : ℕ := b.congestionWindow

end Bbr2

/-- `rqc_bbr2_init`. The parameters of the application are for BBRv2+ alone. -/
def Bbr2.init (srtt now : ℕ) (f : Bbr2Floats) : Bbr2 :=
  let rtt := if srtt ≠ 0 then srtt else bbr2InfRtt
  let b : Bbr2 :=
    { minRtt := rtt, minRttStamp := now, probeRttMinUs := rtt, probeRttMinUsStamp := now
      extraAckStamp := now }
  b.resetCongestionSignals.enterStartup.initPacingRate srtt f

/-- The operations of the controller, with what they read. -/
inductive Bbr2Op where
  | onAck (a : Bbr2Ack)
  | onLost (lostSentTime now : ℕ)
  | resetCwnd (now : ℕ)
  | restartFromIdle (connDelivered now : ℕ) (random : ℕ × ℕ) (f : Bbr2Floats)

/-- One operation. -/
def Bbr2.step (b : Bbr2) : Bbr2Op → Bbr2
  | .onAck a => b.onAck a
  | .onLost lostSentTime now => b.onLost lostSentTime now
  | .resetCwnd now => b.resetCwnd now
  | .restartFromIdle connDelivered now random f => b.restartFromIdle connDelivered now random f

end Rquic

import Rquic.SendCtl.AckExact
import Rquic.SendCtl.Inflight

set_option autoImplicit false

/-!
# The loss-detection timer

The send control with its clock: round-trip times, the loss time, the PTO count and
`RQC_TIMER_LOSS_DETECTION` (`rqc_send_ctl.c`, `rqc_timer.c`, `rqc_timer.h`).

* `LossCtl`: the send control with these values.
* `LossCtl.detectLost`, `LossCtl.getPtoTime`, `LossCtl.setLossDetectionTimer`: loss detection with the
  loss time, and the timer.
* `LossCtl.onAckReceived`, `LossCtl.sendPacket`, `LossCtl.timerExpire`: what sets and unsets the timer.
* `LossEvent`, `LossCtl.step`, `LossCtl.run`: the events of a path that is not closing.
* `LossCtl.Armed`: the timer runs while bytes are in flight.
* **`LossCtl.run_armed`**: so it is in every run in which no expiry comes as late as the PTO after it.

The factor of `rqc_send_ctl_pow_x` and the products with it are floating point, so they are a parameter.
Times do not wrap but where the source subtracts them.
-/

namespace Rquic

/-! ## State -/

/-- `rqc_timer_t`. -/
structure Timer where
  isSet : Bool := false
  expireTime : ℕ := 0
  deriving DecidableEq, Repr

/-- `rqc_timer_set`. -/
def Timer.set (now interTime : ℕ) : Timer := ⟨true, now + interTime⟩

/-- `RQC_kGranularity`, in milliseconds. -/
def kGranularity : ℕ := 2

/-- `RQC_kTimeThresholdShift`. -/
def kTimeThresholdShift : ℕ := 3

/-- What the timer reads of the connection. -/
structure LossEnv where
  handshakeDone : Bool := true
  controlPtoValue : Bool := false
  initialPtoDuration : ℕ := 0
  spuriousLossDetectOn : Bool := false
  /-- `max_ack_delay` of the peer, in milliseconds. -/
  maxAckDelay : ℕ := 25
  initialRtt : ℕ := 250000
  /-- The congestion control has `rqc_cong_ctl_reset_cwnd`. -/
  resetsCwnd : Bool := false
  /-- A duration times the backoff of `pto_count`. -/
  backoff : ℕ → ℕ → ℕ

/-- The send control with its clock. Zero stands for a time that is not known. -/
structure LossCtl extends SendCtl where
  latestRtt : ℕ := 0
  minrtt : ℕ := 2 ^ 32 - 1
  srtt : ℕ
  rttvar : ℕ
  firstRttSampleTime : ℕ := 0
  largestAckedSentTime : ℕ := 0
  reorderingPacketThreshold : ℕ := 3
  reorderingTimeThresholdShift : ℕ := kTimeThresholdShift
  lossTime : ℕ := 0
  ptoCount : ℕ := 0
  timeOfLastSentAckElicitingPacket : ℕ := 0
  lossTimer : Timer := {}

/-- `rqc_send_ctl_create`. -/
def LossCtl.create (env : LossEnv) : LossCtl := { srtt := env.initialRtt, rttvar := env.initialRtt / 2 }

namespace LossCtl

def onCtl (c : LossCtl) (f : SendCtl → SendCtl) : LossCtl := { c with toSendCtl := f c.toSendCtl }

/-! ## Loss detection -/

/-- `loss_delay` of `rqc_send_ctl_detect_lost`. -/
def lossDelay (c : LossCtl) : ℕ :=
  let rtt := max c.latestRtt c.srtt
  max (rtt + rtt / 2 ^ c.reorderingTimeThresholdShift) (kGranularity * 1000)

/-- `lost_send_time` and `lost_pn`. -/
def thresholds (c : LossCtl) (now : ℕ) : LossThresholds where
  lostSendTime := u64Sub now c.lossDelay
  lostPn :=
    match c.largestAcked with
    | none => none
    | some largest =>
      if c.reorderingPacketThreshold ≤ largest then some (largest - c.reorderingPacketThreshold)
      else none

/-- The loss time with one more packet that is not lost yet. -/
def earlier (lossTime time : ℕ) : ℕ := if lossTime = 0 then time else min lossTime time

/-- `largest_lost` with one more lost packet. -/
def raiseLost (largestLost : Option PacketOut) (po : PacketOut) : Option PacketOut :=
  if po.inFlight = false then largestLost
  else
    match largestLost with
    | none => some po
    | some lost => if lost.pktNum < po.pktNum then some po else some lost

/-- `ctl_loss_time` and `largest_lost` in the loop of `rqc_send_ctl_detect_lost`. -/
def lossTimeWalk (largestAcked : ℕ) (th : LossThresholds) (lossDelay : ℕ) :
    List PktId → SendCtl → ℕ × Option PacketOut → ℕ × Option PacketOut
  | [], _, r => r
  | id :: ids, c, r =>
    match c.indirectlyAckOrDropPo id with
    | some c => lossTimeWalk largestAcked th lossDelay ids (c.checkNext ids) r
    | none =>
      if largestAcked < (c.pkts id).pktNum then r
      else if th.deems (c.pkts id) then
        lossTimeWalk largestAcked th lossDelay ids ((c.onPacketLost id).checkNext ids)
          (r.1, raiseLost r.2 (c.pkts id))
      else
        lossTimeWalk largestAcked th lossDelay ids c
          (earlier r.1 ((c.pkts id).poSentTime + lossDelay), r.2)

/-- `rqc_send_ctl_in_persistent_congestion`. -/
def inPersistentCongestion (c : LossCtl) (env : LossEnv) (largestLost : PacketOut) (now : ℕ) : Prop :=
  2 ≤ c.ptoCount ∧
    (c.srtt + max (c.rttvar * 4) (kGranularity * 1000) + env.maxAckDelay * 1000) * 3 <
      u64Sub now largestLost.poSentTime

instance (c : LossCtl) (env : LossEnv) (largestLost : PacketOut) (now : ℕ) :
    Decidable (c.inPersistentCongestion env largestLost now) :=
  inferInstanceAs (Decidable (_ ∧ _))

/-- The round-trip time is measured anew. -/
def resetRtt (c : LossCtl) (env : LossEnv) : LossCtl :=
  { c with
    minrtt := 2 ^ 32 - 1, srtt := env.initialRtt, rttvar := env.initialRtt / 2, firstRttSampleTime := 0 }

/-- `OnPacketsLost` in `rqc_send_ctl_detect_lost`. -/
def onPacketsLost (c : LossCtl) (env : LossEnv) (largestLost : Option PacketOut) (now : ℕ) : LossCtl :=
  match largestLost with
  | none => c
  | some lost =>
    if c.firstRttSampleTime ≠ 0 ∧ env.resetsCwnd = true ∧ c.inPersistentCongestion env lost now then
      c.resetRtt env
    else c

/-- `rqc_send_ctl_detect_lost`. -/
def detectLost (c : LossCtl) (env : LossEnv) (now : ℕ) : LossCtl :=
  match c.largestAcked with
  | none => { c with lossTime := 0 }
  | some largestAcked =>
    let th := c.thresholds now
    let (lossTime, largestLost) :=
      lossTimeWalk largestAcked th c.lossDelay (c.lists .unackedPackets) c.toSendCtl (0, none)
    onPacketsLost { c with toSendCtl := c.toSendCtl.detectLost th, lossTime := lossTime } env
      largestLost now

/-! ## The timer -/

/-- The duration of a PTO in `rqc_send_ctl_get_pto_time`, without the delay of the peer. -/
def ptoDuration (c : LossCtl) (env : LossEnv) : ℕ :=
  env.backoff c.ptoCount <|
    if c.firstRttSampleTime = 0 ∧ env.initialPtoDuration ≠ 0 then env.initialPtoDuration
    else if env.controlPtoValue then c.srtt + c.srtt / 4
    else c.srtt + max (4 * c.rttvar) (kGranularity * 1000)

/-- When the PTO of the last packet that asks for an acknowledgement ends. -/
def ptoDeadline (c : LossCtl) (env : LossEnv) : ℕ :=
  c.timeOfLastSentAckElicitingPacket + (c.ptoDuration env +
    if env.handshakeDone then env.backoff c.ptoCount (env.maxAckDelay * 1000) else 0)

/-- `rqc_send_ctl_get_pto_time`, with what the clock reads. -/
def getPtoTime (c : LossCtl) (env : LossEnv) (clock : ℕ) : ℕ :=
  if c.bytesInFlight = 0 then clock + c.ptoDuration env
  else if 0 < c.bytesAckElicitingInflight then c.ptoDeadline env
  else 2 ^ 64 - 1

/-- The timer is set to `time`, or to run out at once. -/
def setTimer (c : LossCtl) (clock time : ℕ) : LossCtl :=
  { c with lossTimer := Timer.set clock (if clock < time then time - clock else 0) }

/-- `rqc_send_ctl_set_loss_detection_timer`. -/
def setLossDetectionTimer (c : LossCtl) (env : LossEnv) (clock : ℕ) : LossCtl :=
  if c.lossTime ≠ 0 then c.setTimer clock c.lossTime
  else if c.bytesAckElicitingInflight = 0 then { c with lossTimer := {} }
  else c.setTimer clock (c.getPtoTime env clock)

/-! ## Acknowledgements -/

/-- `rqc_send_ctl_update_rtt`. -/
def updateRtt (c : LossCtl) (env : LossEnv) (latestRtt ackDelay clock : ℕ) : LossCtl :=
  if c.firstRttSampleTime = 0 then
    { c with
      latestRtt := latestRtt, minrtt := latestRtt, srtt := latestRtt, rttvar := latestRtt / 2
      firstRttSampleTime := clock }
  else
    let minrtt := min latestRtt c.minrtt
    let ackDelay := min ackDelay ((if env.handshakeDone then env.maxAckDelay else 25) * 1000)
    let adjusted :=
      if ackDelay < latestRtt ∧ minrtt + ackDelay ≤ latestRtt + 1000 then latestRtt - ackDelay
      else latestRtt
    let diff := if adjusted < c.srtt then c.srtt - adjusted else adjusted - c.srtt
    { c with
      latestRtt := latestRtt, minrtt := minrtt
      rttvar := c.rttvar - c.rttvar / 4 + diff / 4
      srtt := c.srtt - c.srtt / 8 + adjusted / 8 }

/-- The loop over `ctl_reordering_time_threshold_shift`. -/
def lowerShift (maxRtt interval : ℕ) : ℕ → ℕ
  | 0 => 0
  | shift + 1 =>
    if maxRtt + maxRtt / 2 ^ (shift + 1) < interval then lowerShift maxRtt interval shift else shift + 1

/-- `rqc_send_ctl_on_spurious_loss_detected`. -/
def onSpuriousLossDetected (c : LossCtl) (env : LossEnv) (ackRecvTime largestAck : ℕ)
    (po : PacketOut) : LossCtl :=
  if env.spuriousLossDetectOn = false ∨ largestAck < po.pktNum then c
  else
    let c := { c with
      reorderingPacketThreshold := max c.reorderingPacketThreshold (largestAck - po.pktNum + 1) }
    if ackRecvTime < po.poSentTime then c
    else
      { c with
        reorderingTimeThresholdShift := lowerShift (max c.latestRtt c.srtt)
          (ackRecvTime - po.poSentTime) c.reorderingTimeThresholdShift }

/-- The packets that the walk of an ACK frame has acknowledged. -/
def newlyAcked (c c' : SendCtl) : List PktId := c'.ackedIds.drop c.ackedIds.length

/-- `ctl_largest_acked_sent_time` and `update_largest_ack` after these packets. -/
def raiseSentTime (pkts : PktId → PacketOut) :
    List PktId → Option ℕ → ℕ × Bool → ℕ × Bool
  | [], _, r => r
  | id :: ids, none, _ => raiseSentTime pkts ids (some (pkts id).pktNum) ((pkts id).poSentTime, true)
  | id :: ids, some largest, r =>
    if largest < (pkts id).pktNum then
      raiseSentTime pkts ids (some (pkts id).pktNum) ((pkts id).poSentTime, true)
    else raiseSentTime pkts ids (some largest) r

/-- The sample of the round-trip time in `rqc_send_ctl_on_ack_received`. -/
def sampleRtt (c : LossCtl) (env : LossEnv) (update : Bool) (ackDelay ackRecvTime clock : ℕ) :
    LossCtl :=
  if update then c.updateRtt env (u64Sub ackRecvTime c.largestAckedSentTime) ackDelay clock else c

/-- The first packet of the ACK frame that was taken for lost before. -/
def adaptThresholds (c : LossCtl) (env : LossEnv) (pkts : PktId → PacketOut) (acked : List PktId)
    (ackRecvTime : ℕ) : LossCtl :=
  match acked.find? fun id => !(pkts id).spuriousLoss && (pkts id).retransed, acked.getLast? with
  | some id, some last => c.onSpuriousLossDetected env ackRecvTime (pkts last).pktNum (pkts id)
  | _, _ => c

/-- The end of `rqc_send_ctl_on_ack_received`. -/
def finishAck (c : LossCtl) (env : LossEnv) (needDelRecord : Bool) (ackRecvTime clock : ℕ) : LossCtl :=
  let c := c.detectLost env ackRecvTime
  let c :=
    if needDelRecord then
      c.onCtl fun c => c.onQueue fun s =>
        { s with recvRecord := recvRecordDel s.recvRecord (s.largestAckedAck + 1) }
    else c
  setLossDetectionTimer { c with ptoCount := 0 } env clock

/-- `rqc_send_ctl_on_ack_received`, with what it returns. -/
def onAckReceived (c : LossCtl) (env : LossEnv) (info : AckInfo) (ackRecvTime clock : ℕ) :
    LossCtl × Option Errno :=
  let w := c.toSendCtl.ackProcess info
  let acked := newlyAcked c.toSendCtl w.ctl
  let (sentTime, update) := raiseSentTime c.pkts acked c.largestAcked (c.largestAckedSentTime, false)
  let eliciting := acked.any fun id => isAckEliciting (c.pkts id).poFrameTypes
  let c' := { c with toSendCtl := w.ctl, largestAckedSentTime := sentTime }
  if w.err.isSome ∨ w.hasAcked = false then (c', w.err)
  else
    let c' := c'.sampleRtt env (update && eliciting) info.ackDelay ackRecvTime clock
    let c' := c'.adaptThresholds env c.pkts acked ackRecvTime
    (c'.finishAck env w.needDelRecord ackRecvTime clock, none)

/-! ## Sending and expiry -/

/-- One round of the loops that send, with `rqc_send_ctl_on_packet_sent`. -/
def sendPacket (c : LossCtl) (env : LossEnv) (t : SendType) (outcome : SendOutcome)
    (now clock : ℕ) : LossCtl :=
  let c' := c.onCtl fun c' => c'.sendPacket t outcome c.srtt now
  match c.lists (.scheduleBuf t) with
  | [] => c'
  | id :: _ =>
    if (c.indirectlyAckOrDropPo id).isNone ∧ outcome = .sent ∧
        isAckEliciting (c.pkts id).poFrameTypes then
      setLossDetectionTimer { c' with timeOfLastSentAckElicitingPacket := now } env clock
    else c'

/-- `rqc_timer_loss_detection_timeout`. -/
def onLossDetectionTimeout (c : LossCtl) (env : LossEnv) (params : PktParams) (now clock : ℕ) :
    LossCtl :=
  if c.lossTime ≠ 0 then (c.detectLost env now).setLossDetectionTimer env clock
  else
    let c := if 0 < c.bytesInFlight then c.onCtl fun c => c.sendOneOrTwoAckElicitPkts params else c
    setLossDetectionTimer { c with ptoCount := c.ptoCount + 1 } env clock

/-- `rqc_timer_expire`, for this timer. -/
def timerExpire (c : LossCtl) (env : LossEnv) (params : PktParams) (now clock : ℕ) : LossCtl :=
  if c.lossTimer.isSet ∧ c.lossTimer.expireTime ≤ now then
    let c := c.onLossDetectionTimeout env params now clock
    -- unset timer if it is not updated in timeout_cb
    if c.lossTimer.expireTime ≤ now then { c with lossTimer := {} } else c
  else c

end LossCtl

/-! ## Runs -/

/-- The event has its own place among the events with a clock, or closes the connection. -/
def CtlEvent.timed : CtlEvent → Bool
  | .queue (.send ..) | .queue (.ackReceived ..) | .queue (.lossTimeout ..) | .queue (.probeTimeout ..)
  | .dropPackets => true
  | _ => false

/-- One event of a path whose connection is not closing. `clock` is what
`rqc_send_ctl_set_loss_detection_timer` reads. A batch is sent packet by packet. -/
inductive LossEvent where
  | ctl (ev : CtlEvent) (h : ev.timed = false)
  | send (env : LossEnv) (t : SendType) (outcome : SendOutcome) (now clock : ℕ)
  | ackReceived (env : LossEnv) (info : AckInfo) (ackRecvTime clock : ℕ)
  | expire (env : LossEnv) (params : PktParams) (now clock : ℕ)

namespace LossCtl

def step (c : LossCtl) : LossEvent → LossCtl
  | .ctl ev _ => c.onCtl fun c => c.step ev
  | .send env t outcome now clock => c.sendPacket env t outcome now clock
  | .ackReceived env info ackRecvTime clock => (c.onAckReceived env info ackRecvTime clock).1
  | .expire env params now clock => c.timerExpire env params now clock

def run (c : LossCtl) (evs : List LossEvent) : LossCtl := evs.foldl step c

/-- The timer runs while bytes that ask for an acknowledgement are in flight. -/
def Armed (c : LossCtl) : Prop := 0 < c.bytesAckElicitingInflight → c.lossTimer.isSet = true

instance (c : LossCtl) : Decidable c.Armed := inferInstanceAs (Decidable (_ → _))

/-- When the PTO ends that the callback of the timer sets. -/
def nextPto (c : LossCtl) (env : LossEnv) : ℕ :=
  if c.lossTime ≠ 0 then min (c.ptoDeadline env) ((c.resetRtt env).ptoDeadline env)
  else ptoDeadline { c with ptoCount := c.ptoCount + 1 } env

end LossCtl

/-- The clock does not go back, and it has 64 bits. -/
def LossEvent.Wf : LossEvent → Prop
  | .expire _ _ now clock => now ≤ clock ∧ now < 2 ^ 64
  | _ => True

instance (ev : LossEvent) : Decidable ev.Wf :=
  match ev with
  | .expire _ _ now clock => inferInstanceAs (Decidable (now ≤ clock ∧ now < 2 ^ 64))
  | .ctl .. | .send .. | .ackReceived .. => inferInstanceAs (Decidable True)

/-- A timer that expires does so before the PTO after it, or the clock goes on during the callback. -/
def LossEvent.Punctual (c : LossCtl) : LossEvent → Prop
  | .expire env _ now clock =>
    c.lossTimer.isSet = true → c.lossTimer.expireTime ≤ now → now < clock ∨ now < c.nextPto env
  | _ => True

instance (c : LossCtl) (ev : LossEvent) : Decidable (ev.Punctual c) :=
  match ev with
  | .expire env _ now clock => inferInstanceAs (Decidable (c.lossTimer.isSet = true →
      c.lossTimer.expireTime ≤ now → now < clock ∨ now < c.nextPto env))
  | .ctl .. | .send .. | .ackReceived .. => inferInstanceAs (Decidable True)

/-- Every expiry of the run is punctual. -/
def LossCtl.RunPunctual (c : LossCtl) : List LossEvent → Prop
  | [] => True
  | ev :: evs => ev.Punctual c ∧ (c.step ev).RunPunctual evs

instance LossCtl.decidableRunPunctual (c : LossCtl) : (evs : List LossEvent) → Decidable (c.RunPunctual evs)
  | [] => inferInstanceAs (Decidable True)
  | ev :: evs =>
    have := (c.step ev).decidableRunPunctual evs
    inferInstanceAs (Decidable (ev.Punctual c ∧ (c.step ev).RunPunctual evs))

namespace LossCtl

variable (c : LossCtl) (env : LossEnv)

/-- The invariant. -/
structure LossInv (c : LossCtl) : Prop where
  same : c.bytesInFlight = c.bytesAckElicitingInflight
  armed : c.Armed

/-! ## The timer that is set -/

@[simp] theorem setLossDetectionTimer_toSendCtl (clock : ℕ) :
    (c.setLossDetectionTimer env clock).toSendCtl = c.toSendCtl := by
  unfold setLossDetectionTimer
  split_ifs <;> rfl

theorem setLossDetectionTimer_armed (clock : ℕ) : (c.setLossDetectionTimer env clock).Armed := by
  unfold setLossDetectionTimer
  split_ifs with hloss hquiet
  · exact fun _ => rfl
  · intro hpos
    exact absurd hquiet hpos.ne'
  · exact fun _ => rfl

theorem LossInv.setLossDetectionTimer {c : LossCtl} (env : LossEnv) (clock : ℕ)
    (h : c.bytesInFlight = c.bytesAckElicitingInflight) : LossInv (c.setLossDetectionTimer env clock) where
  same := by simpa using h
  armed := c.setLossDetectionTimer_armed env clock

theorem le_setTimer (clock time : ℕ) : time ≤ (c.setTimer clock time).lossTimer.expireTime ∧
    clock ≤ (c.setTimer clock time).lossTimer.expireTime := by
  unfold setTimer Timer.set
  dsimp only
  split_ifs <;> omega

/-- The timer that is set runs out after `now` if the clock is past it, or if what it waits for is. -/
theorem lt_setLossDetectionTimer {c : LossCtl} {env : LossEnv} {now clock : ℕ}
    (hsame : c.bytesInFlight = c.bytesAckElicitingInflight) (hpos : 0 < c.bytesAckElicitingInflight)
    (hloss : c.lossTime = 0 ∨ now < c.lossTime)
    (hlate : c.lossTime = 0 → now < clock ∨ now < c.ptoDeadline env) :
    now < (c.setLossDetectionTimer env clock).lossTimer.expireTime := by
  unfold setLossDetectionTimer
  by_cases hzero : c.lossTime = 0
  · have hpto : c.getPtoTime env clock = c.ptoDeadline env := by
      unfold getPtoTime
      rw [if_neg (by omega), if_pos hpos]
    rw [if_neg (not_not.mpr hzero), if_neg hpos.ne', hpto]
    have hset := c.le_setTimer clock (c.ptoDeadline env)
    have hlate := hlate hzero
    omega
  · rw [if_pos hzero]
    have hset := c.le_setTimer clock c.lossTime
    omega

/-! ## The loss time -/

theorem lt_u64Sub_add {now d t : ℕ} (hnow : now < 2 ^ 64) (h : u64Sub now d < t) : now < t + d := by
  have hd : d % 2 ^ 64 ≤ d := Nat.mod_le d _
  have hlt : d % 2 ^ 64 < 2 ^ 64 := Nat.mod_lt _ (by norm_num)
  unfold u64Sub at h
  omega

/-- **A packet that is not lost yet is lost later than now.** -/
theorem lt_lossTimeWalk (largestAcked : ℕ) {now lossDelay : ℕ} {th : LossThresholds} (hnow : now < 2 ^ 64)
    (hth : th.lostSendTime = u64Sub now lossDelay) (ids : List PktId) (c : SendCtl)
    (r : ℕ × Option PacketOut) (hr : r.1 = 0 ∨ now < r.1) :
    (lossTimeWalk largestAcked th lossDelay ids c r).1 = 0 ∨
      now < (lossTimeWalk largestAcked th lossDelay ids c r).1 := by
  induction ids generalizing c r with
  | nil => exact hr
  | cons id ids ih =>
      unfold lossTimeWalk
      split
      · exact ih _ r hr
      · split_ifs with hlargest hdeems
        · exact hr
        · exact ih _ _ hr
        · apply ih
          right
          have hsent : u64Sub now lossDelay < (c.pkts id).poSentTime := by
            unfold LossThresholds.deems at hdeems
            rw [hth] at hdeems
            simp only [Bool.or_eq_true, decide_eq_true_eq, not_or, not_le] at hdeems
            exact hdeems.1
          have hlater := lt_u64Sub_add hnow hsent
          unfold earlier
          split_ifs
          · exact hlater
          · exact lt_min (by omega) hlater

theorem onPacketsLost_eq (largestLost : Option PacketOut) (now : ℕ) :
    c.onPacketsLost env largestLost now = c ∨ c.onPacketsLost env largestLost now = c.resetRtt env := by
  unfold onPacketsLost
  split
  · exact .inl rfl
  · split_ifs
    · exact .inr rfl
    · exact .inl rfl

theorem detectLost_cases (now : ℕ) : ∃ lossTime : ℕ,
    (lossTime = 0 ∨ (now < 2 ^ 64 → now < lossTime)) ∧
      let c' := { c with toSendCtl := c.toSendCtl.detectLost (c.thresholds now), lossTime := lossTime }
      c.detectLost env now = c' ∨ c.detectLost env now = c'.resetRtt env := by
  unfold detectLost
  cases hlargest : c.largestAcked with
  | none =>
      have hsame : c.toSendCtl.detectLost (c.thresholds now) = c.toSendCtl := by
        unfold SendCtl.detectLost
        rw [hlargest]
      refine ⟨0, .inl rfl, .inl ?_⟩
      rw [hsame]
  | some largestAcked =>
      refine ⟨_, ?_, onPacketsLost_eq _ env _ now⟩
      by_cases hnow : now < 2 ^ 64
      · have hth : (c.thresholds now).lostSendTime = u64Sub now c.lossDelay := rfl
        have hwalk := lt_lossTimeWalk largestAcked hnow hth (c.lists .unackedPackets) c.toSendCtl
          (0, none) (.inl rfl)
        exact hwalk.imp_right fun h _ => h
      · exact .inr fun h => absurd h hnow

theorem detectLost_shrinks (now : ℕ) : Shrinks c.toSendCtl (c.detectLost env now).toSendCtl := by
  have hlost := SendCtl.shrinks.detectLost c.toSendCtl (c.thresholds now)
  obtain ⟨lossTime, -, heq | heq⟩ := c.detectLost_cases env now <;> rw [heq] <;> exact hlost

/-! ## Steps -/

/-- What puts nothing in flight and leaves the timer alone keeps the invariant. -/
theorem LossInv.of_shrinks {c c' : LossCtl} (h : LossInv c) (hs : Shrinks c.toSendCtl c'.toSendCtl)
    (htimer : c'.lossTimer = c.lossTimer) : LossInv c' where
  same := hs.same h.same
  armed hpos := by
    rw [htimer]
    exact h.armed (hpos.trans_le hs.le)

theorem LossInv.ctl {c : LossCtl} (h : LossInv c) {ev : CtlEvent} (hev : ev.timed = false) :
    LossInv (c.onCtl fun c => c.step ev) := by
  refine h.of_shrinks (c.toSendCtl.step_shrinks ev ?_) rfl
  rintro t outcome srtt now rfl
  cases hev

theorem LossInv.sendPacket {c : LossCtl} (h : LossInv c) (env : LossEnv) (t : SendType)
    (outcome : SendOutcome) (now clock : ℕ) : LossInv (c.sendPacket env t outcome now clock) := by
  unfold LossCtl.sendPacket
  dsimp only
  cases hlist : c.lists (.scheduleBuf t) with
  | nil =>
      refine h.of_shrinks (.of_inflight ?_) rfl
      change (c.toSendCtl.sendPacket t outcome c.srtt now).inflight = _
      unfold SendCtl.sendPacket
      rw [hlist]
  | cons id ids =>
      dsimp only
      split_ifs with hsent
      · exact .setLossDetectionTimer env clock (c.toSendCtl.sendPacket_same t outcome c.srtt now h.same)
      · refine h.of_shrinks (c.toSendCtl.sendPacket_shrinks hlist ?_) rfl
        intro hnone houtcome heliciting
        exact hsent ⟨hnone, houtcome, heliciting⟩

theorem sampleRtt_body (update : Bool) (ackDelay ackRecvTime clock : ℕ) :
    (c.sampleRtt env update ackDelay ackRecvTime clock).toSendCtl = c.toSendCtl := by
  unfold sampleRtt updateRtt
  split_ifs <;> rfl

theorem adaptThresholds_body (pkts : PktId → PacketOut) (acked : List PktId) (ackRecvTime : ℕ) :
    (c.adaptThresholds env pkts acked ackRecvTime).toSendCtl = c.toSendCtl := by
  unfold adaptThresholds onSpuriousLossDetected
  split
  · split_ifs <;> rfl
  · rfl

theorem LossInv.finishAck {c : LossCtl} (h : c.bytesInFlight = c.bytesAckElicitingInflight)
    (env : LossEnv) (needDelRecord : Bool) (ackRecvTime clock : ℕ) :
    LossInv (c.finishAck env needDelRecord ackRecvTime clock) := by
  have hlost := (c.detectLost_shrinks env ackRecvTime).same h
  unfold LossCtl.finishAck
  apply LossInv.setLossDetectionTimer
  cases needDelRecord <;> exact hlost

theorem LossInv.onAckReceived {c : LossCtl} (h : LossInv c) (env : LossEnv) (info : AckInfo)
    (ackRecvTime clock : ℕ) : LossInv (c.onAckReceived env info ackRecvTime clock).1 := by
  have hack := SendCtl.shrinks.ackProcess c.toSendCtl info
  unfold LossCtl.onAckReceived
  dsimp only
  split_ifs
  · exact h.of_shrinks hack rfl
  · apply LossInv.finishAck
    rw [adaptThresholds_body, sampleRtt_body]
    exact hack.same h.same

theorem LossInv.onLossDetectionTimeout {c : LossCtl} (h : LossInv c) (env : LossEnv) (params : PktParams)
    (now clock : ℕ) : LossInv (c.onLossDetectionTimeout env params now clock) := by
  unfold LossCtl.onLossDetectionTimeout
  split_ifs
  · exact .setLossDetectionTimer env clock ((c.detectLost_shrinks env now).same h.same)
  · apply LossInv.setLossDetectionTimer
    exact (SendCtl.shrinks.sendOneOrTwoAckElicitPkts c.toSendCtl params).same h.same
  · exact .setLossDetectionTimer env clock h.same

/-- **The callback of a punctual expiry sets a timer that the expiry keeps.** -/
theorem lt_onLossDetectionTimeout {c : LossCtl} (h : LossInv c) {env : LossEnv} (params : PktParams)
    {now clock : ℕ} (hnow : now < 2 ^ 64) (hlate : now < clock ∨ now < c.nextPto env)
    (hpos : 0 < (c.onLossDetectionTimeout env params now clock).bytesAckElicitingInflight) :
    now < (c.onLossDetectionTimeout env params now clock).lossTimer.expireTime := by
  unfold LossCtl.onLossDetectionTimeout at hpos ⊢
  unfold nextPto at hlate
  by_cases hloss : c.lossTime ≠ 0
  · rw [if_pos hloss] at hpos hlate ⊢
    have hdeadline : ∀ deadline ∈ [c.ptoDeadline env, (c.resetRtt env).ptoDeadline env],
        now < clock ∨ now < deadline := by
      simp only [lt_min_iff] at hlate
      simp only [List.mem_cons, List.not_mem_nil, or_false, forall_eq_or_imp, forall_eq]
      omega
    have hsame := (c.detectLost_shrinks env now).same h.same
    obtain ⟨lossTime, htime, hcases⟩ := c.detectLost_cases env now
    rw [setLossDetectionTimer_toSendCtl] at hpos
    refine lt_setLossDetectionTimer hsame hpos ?_ ?_
    · have htime' : (c.detectLost env now).lossTime = lossTime := by
        obtain heq | heq := hcases
        · rw [heq]
        · rw [heq]
          rfl
      rw [htime']
      exact htime.imp_right fun h => h hnow
    · intro _
      obtain heq | heq := hcases
      all_goals rw [heq]
      · exact hdeadline (c.ptoDeadline env) (by simp)
      · exact hdeadline ((c.resetRtt env).ptoDeadline env) (by simp)
  · rw [if_neg hloss] at hpos hlate ⊢
    have hzero : c.lossTime = 0 := not_not.mp hloss
    rw [setLossDetectionTimer_toSendCtl] at hpos
    split_ifs at hpos ⊢
    · have hprobes := (SendCtl.shrinks.sendOneOrTwoAckElicitPkts c.toSendCtl params).same h.same
      exact lt_setLossDetectionTimer hprobes hpos (.inl hzero) fun _ => hlate
    · exact lt_setLossDetectionTimer h.same hpos (.inl hzero) fun _ => hlate

theorem LossInv.timerExpire {c : LossCtl} (h : LossInv c) {env : LossEnv} {params : PktParams}
    {now clock : ℕ} (hnow : now < 2 ^ 64)
    (hpunctual : c.lossTimer.isSet = true → c.lossTimer.expireTime ≤ now →
      now < clock ∨ now < c.nextPto env) : LossInv (c.timerExpire env params now clock) := by
  have htimeout := h.onLossDetectionTimeout env params now clock
  unfold LossCtl.timerExpire
  dsimp only
  split_ifs with hdue hpassed
  · refine ⟨htimeout.same, fun hpos => ?_⟩
    have hlater := lt_onLossDetectionTimeout h params hnow (hpunctual hdue.1 hdue.2) hpos
    omega
  · exact htimeout
  · exact h

/-- **One step keeps the invariant, if an expiry is punctual.** -/
theorem LossInv.step {c : LossCtl} (h : LossInv c) {ev : LossEvent} (hwf : ev.Wf)
    (hpunctual : ev.Punctual c) : LossInv (c.step ev) := by
  cases ev with
  | ctl ev hev => exact h.ctl hev
  | send env t outcome now clock => exact h.sendPacket env t outcome now clock
  | ackReceived env info ackRecvTime clock => exact h.onAckReceived env info ackRecvTime clock
  | expire env params now clock => exact h.timerExpire hwf.2 hpunctual

theorem LossInv.run {c : LossCtl} (h : LossInv c) {evs : List LossEvent} (hwf : ∀ ev ∈ evs, ev.Wf)
    (hpunctual : c.RunPunctual evs) : LossInv (c.run evs) := by
  induction evs generalizing c with
  | nil => exact h
  | cons ev evs ih =>
      have hev := hwf ev List.mem_cons_self
      exact ih (h.step hev hpunctual.1) (fun ev' h' => hwf ev' (List.mem_cons_of_mem _ h')) hpunctual.2

theorem LossInv.create : LossInv (LossCtl.create env) where
  same := rfl
  armed hpos := absurd hpos (lt_irrefl 0)

/-- **The loss timer runs while bytes that ask for an acknowledgement are in flight, in every run whose
expiries are punctual.** -/
theorem run_armed (evs : List LossEvent) (hwf : ∀ ev ∈ evs, ev.Wf)
    (hpunctual : (LossCtl.create env).RunPunctual evs) : ((LossCtl.create env).run evs).Armed :=
  ((LossInv.create env).run hwf hpunctual).armed

def demoLossEnv : LossEnv where
  backoff n duration := duration * 2 ^ n

/-- A packet with a byte of stream 0 is sent. -/
def sendByte (offset sentTime : ℕ) : List LossEvent :=
  [.ctl (.openStream 0) rfl, .ctl (.queue (.stream false demoParams 0 offset false [1])) rfl,
    .ctl (.queue (.schedule .normal)) rfl, .send demoLossEnv .normal .sent sentTime 1000]

/-- Three packets with data are sent. -/
def threeInFlightRun : List LossEvent := [0, 1, 2].flatMap fun offset => sendByte offset 1000

theorem run_armed_threeInFlightRun :
    let evs := threeInFlightRun ++ [.expire demoLossEnv demoParams 800000 800000]
    let c := (LossCtl.create demoLossEnv).run threeInFlightRun
    (0 < c.bytesAckElicitingInflight ∧ c.lossTimer.expireTime ≤ 800000) ∧
      ((LossCtl.create demoLossEnv).run evs).Armed := by
  refine ⟨by decide +kernel, ?_⟩
  exact run_armed demoLossEnv _ (by decide +kernel) (by decide +kernel)

/-- The timer of three packets expires after the second PTO, within one microsecond: two packets are
probed, one stays in flight, and the timer is unset. -/
theorem not_armed_lateExpiry :
    let ev : LossEvent := .expire demoLossEnv demoParams 2000000 2000000
    (∀ ev' ∈ threeInFlightRun ++ [ev], ev'.Wf) ∧
      ¬ ((LossCtl.create demoLossEnv).run (threeInFlightRun ++ [ev])).Armed := by
  decide +kernel

end LossCtl

end Rquic

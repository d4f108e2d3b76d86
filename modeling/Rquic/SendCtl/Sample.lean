import Rquic.SendCtl.LossExact
import Rquic.SendCtl.Rtt
import Rquic.SendQueue.SentOnce

set_option autoImplicit false

/-!
# Delivery-rate samples

`rqc_sample.c`, with the parts of `rqc_send_ctl.c` that call it. A packet records the counters of its path
when it is sent. The ACK frame that acknowledges it adds its bytes to `ctl_delivered` and compares.

* `SampleCtl`: the send control with its sampler and with what the packets have recorded.
* `SampleCtl.sampleOnSent`, `SampleCtl.updateSample`, `SampleCtl.generateSample`: the functions of
  `rqc_sample.c`.
* `SampleCtl.sampleLost`, `SampleCtl.sampleProbes`: a copy takes over what its source has recorded.
* `SampleCtl.onAckReceived`, `SampleCtl.sendPacket`, `SampleCtl.timerExpire`: what calls them.
* `SampleEvent`, `SampleCtl.step`, `SampleCtl.run`: the events, with those of the congestion control.

`ctl_delivered` has 64 bits, which no number of bytes in practice fills; `ctl_lost_pkts_number` has 32.
-/

namespace Rquic

/-! ## State -/

/-- What a packet records when it is sent. -/
structure PktSample where
  delivered : ℕ := 0
  /-- Zero once the bytes of the packet are counted. -/
  deliveredTime : ℕ := 0
  firstSentTime : ℕ := 0
  isAppLimited : Bool := false
  lost : ℕ := 0
  txInFlight : ℕ := 0
  deriving DecidableEq, Repr

/-- `rqc_sample_t`, without the rate in floating point. -/
structure Sampler where
  now : ℕ := 0
  priorDelivered : ℕ := 0
  interval : ℕ := 0
  delivered : ℕ := 0
  acked : ℕ := 0
  bytesInflight : ℕ := 0
  priorInflight : ℕ := 0
  rtt : ℕ := 0
  isAppLimited : Bool := false
  loss : ℕ := 0
  totalAcked : ℕ := 0
  srtt : ℕ := 0
  priorTime : ℕ := 0
  ackElapse : ℕ := 0
  sendElapse : ℕ := 0
  lagestAckTime : ℕ := 0
  poSentTime : ℕ := 0
  priorLost : ℕ := 0
  txInFlight : ℕ := 0
  lostPkts : ℕ := 0
  totalLostPkts : ℕ := 0
  deriving DecidableEq, Repr

/-- `rqc_sample_type_t`. -/
inductive SampleType where
  | valid | ackNothing | intervalTooSmall
  deriving DecidableEq, Repr

/-- The send control with its sampler. -/
structure SampleCtl extends LossCtl where
  /-- The congestion control has `rqc_cong_ctl_init_bbr` or `rqc_cong_ctl_on_ack_multiple_pkts`. -/
  usesSamples : Bool := true
  delivered : ℕ := 0
  deliveredTime : ℕ := 0
  firstSentTime : ℕ := 0
  priorDelivered : ℕ := 0
  priorBytesInFlight : ℕ := 0
  appLimited : ℕ := 0
  lostPktsNumber : ℕ := 0
  sampler : Sampler := {}
  samples : PktId → PktSample := fun _ => {}
  /-- The packets of `rqc_sample_on_sent`, the last one first. -/
  sentIds : List PktId := []
  /-- What was added to `ctl_delivered`, and for which packet. -/
  counted : List (PktId × ℕ) := []
  /-- All packets that were declared lost. -/
  lostTotal : ℕ := 0
  /-- The differences of delivered bytes that were taken, minuend and subtrahend. -/
  amounts : List (ℕ × ℕ) := []
  /-- The differences of lost packets. -/
  losses : List (ℕ × ℕ) := []
  /-- The differences of times. -/
  elapses : List (ℕ × ℕ) := []

namespace SampleCtl

/-- `rqc_send_ctl_create`. -/
def create (env : LossEnv) (usesSamples : Bool) : SampleCtl :=
  { LossCtl.create env with usesSamples := usesSamples }

/-! ## `rqc_sample.c` -/

/-- `rqc_sample_on_sent`. -/
def sampleOnSent (c : SampleCtl) (id : PktId) (now : ℕ) : SampleCtl :=
  let c := if c.bytesInFlight = 0 then { c with deliveredTime := now, firstSentTime := now } else c
  { c with
    samples := Function.update c.samples id
      { delivered := c.delivered
        deliveredTime := c.deliveredTime
        firstSentTime := c.firstSentTime
        isAppLimited := decide (0 < c.appLimited)
        lost := c.lostPktsNumber
        txInFlight := u32Add c.bytesInFlight (c.pkts id).poBuf.length }
    sentIds := id :: c.sentIds }

/-- The sample is taken from the newest packet, in `rqc_update_sample`. -/
def takeSample (c : SampleCtl) (env : LossEnv) (now : ℕ) (po : PacketOut) (p : PktSample) : SampleCtl :=
  { c with
    sampler := { c.sampler with
      priorLost := p.lost
      txInFlight := p.txInFlight
      priorDelivered := p.delivered
      priorTime := p.deliveredTime
      isAppLimited := if env.handshakeDone then p.isAppLimited else true
      sendElapse := u64Sub po.poSentTime p.firstSentTime
      ackElapse := u64Sub c.deliveredTime p.deliveredTime
      lagestAckTime := now }
    firstSentTime := po.poSentTime
    elapses := c.elapses ++ [(po.poSentTime, p.firstSentTime), (c.deliveredTime, p.deliveredTime)] }

/-- `rqc_update_sample`. -/
def updateSample (c : SampleCtl) (env : LossEnv) (now : ℕ) (id : PktId) : SampleCtl :=
  let po := c.pkts id
  let p := c.samples id
  if p.deliveredTime = 0 then c
  else
    let c := { c with
      delivered := c.delivered + po.poBuf.length
      deliveredTime := now
      counted := c.counted ++ [(id, po.poBuf.length)] }
    let c :=
      if c.sampler.priorDelivered = 0 ∨ c.sampler.priorDelivered < p.delivered then
        c.takeSample env now po p
      else c
    { c with
      sampler := { c.sampler with poSentTime := po.poSentTime }
      samples := Function.update c.samples id { p with deliveredTime := 0 } }

/-- `rqc_generate_sample`. -/
def generateSample (c : SampleCtl) (now : ℕ) : SampleCtl × SampleType :=
  if c.sampler.priorTime = 0 then
    ({ c with sampler := { c.sampler with interval := 0 } }, .ackNothing)
  else
    let interval := max c.sampler.ackElapse c.sampler.sendElapse
    ({ c with
      sampler := { c.sampler with
        acked := u64Sub c.delivered c.priorDelivered % 2 ^ 32
        interval := if interval < c.minrtt then 0 else interval
        delivered := u64Sub c.delivered c.sampler.priorDelivered % 2 ^ 32
        lostPkts := u32Sub c.lostPktsNumber c.sampler.priorLost
        now := now
        rtt := c.latestRtt
        srtt := c.srtt
        bytesInflight := c.bytesInFlight
        priorInflight := c.priorBytesInFlight
        totalAcked := c.delivered
        totalLostPkts := c.lostPktsNumber }
      amounts := c.amounts ++
        [(c.delivered, c.priorDelivered), (c.delivered, c.sampler.priorDelivered)]
      losses := c.losses ++ [(c.lostPktsNumber, c.sampler.priorLost)] },
      if interval < c.minrtt then .intervalTooSmall else .valid)

/-- `ctl_app_limited` in `rqc_sample_check_app_limited`, and in BBR while it probes for the round-trip
time. -/
def markAppLimited (c : SampleCtl) : SampleCtl :=
  { c with
    appLimited := if c.delivered + c.bytesInFlight = 0 then 1 else c.delivered + c.bytesInFlight }

/-- `rqc_sample_check_app_limited`. -/
def sampleCheckAppLimited (c : SampleCtl) (notCwndLimited : Bool) : SampleCtl :=
  if notCwndLimited = true ∧ c.lists .sendPackets = [] ∧ c.lists .lostPackets = [] ∧
      c.lists .ptoProbePackets = [] ∧ c.lists (.scheduleBuf .normal) = [] ∧
      c.lists (.scheduleBuf .normalHighPri) = [] ∧ c.lists (.scheduleBuf .retrans) = [] ∧
      c.lists (.scheduleBuf .ptoProbe) = [] then c.markAppLimited
  else c

/-! ## Copies -/

/-- `rqc_packet_out_copy`, what was recorded. -/
def copySample (c : SendCtl) (src : PktId) (samples : PktId → PktSample) : PktId → PktSample :=
  match (c.pkts src).retransmission src with
  | none => samples
  | some _ => Function.update samples c.nextId (samples src)

/-- A packet deemed lost, with `lost_n`. -/
def loseSample (c : SendCtl) (id : PktId) (r : (PktId → PktSample) × ℕ) : (PktId → PktSample) × ℕ :=
  if (c.pkts id).inFlight then
    (if needRepair (c.pkts id).poFrameTypes ∨ (c.pkts id).notify then
        copySample ((c.recordFeedback id true).decreaseInflight id) id r.1
      else r.1, r.2 + 1)
  else r

/-- What was recorded and `lost_n` in the loop of `rqc_send_ctl_detect_lost`. -/
def sampleLossWalk (largestAcked : ℕ) (th : LossThresholds) :
    List PktId → SendCtl → (PktId → PktSample) × ℕ → (PktId → PktSample) × ℕ
  | [], _, r => r
  | id :: ids, c, r =>
    match c.indirectlyAckOrDropPo id with
    | some c => sampleLossWalk largestAcked th ids (c.checkNext ids) r
    | none =>
      if largestAcked < (c.pkts id).pktNum then r
      else if th.deems (c.pkts id) then
        sampleLossWalk largestAcked th ids ((c.onPacketLost id).checkNext ids) (loseSample c id r)
      else sampleLossWalk largestAcked th ids c r

/-- `rqc_send_ctl_detect_lost` in the state `l`, the samples. -/
def sampleLost (c : SampleCtl) (l : LossCtl) (now : ℕ) : SampleCtl :=
  match l.largestAcked with
  | none => { c with sampler := { c.sampler with loss := 0 } }
  | some largestAcked =>
    let (samples, lostN) := sampleLossWalk largestAcked (l.thresholds now) (l.lists .unackedPackets)
      l.toSendCtl (c.samples, 0)
    { c with
      samples := samples
      lostPktsNumber := u32Add c.lostPktsNumber lostN
      lostTotal := c.lostTotal + lostN
      sampler := { c.sampler with loss := lostN % 2 ^ 32 } }

/-- `rqc_conn_send_probe_pkt`, what was recorded. -/
def probeSample (c : SendCtl) (id : PktId) (samples : PktId → PktSample) : PktId → PktSample :=
  if .datagram ∈ (c.pkts id).poFrameTypes then samples else copySample (c.decreaseInflight id) id samples

/-- What was recorded in the loop of `rqc_path_send_one_or_two_ack_elicit_pkts`. -/
def sampleProbeWalk : ℕ → List PktId → SendCtl → (PktId → PktSample) → PktId → PktSample
  | _, [], _, samples => samples
  | 0, _ :: _, _, samples => samples
  | probeNum + 1, id :: ids, c, samples =>
    match c.indirectlyAckOrDropPo id with
    | some c => sampleProbeWalk (probeNum + 1) ids (c.checkNext ids) samples
    | none =>
      if isAckEliciting (c.pkts id).poFrameTypes ∧
          (needRepair (c.pkts id).poFrameTypes ∨ (c.pkts id).notify) then
        sampleProbeWalk probeNum ids ((c.sendProbePkt id).checkNext ids) (probeSample c id samples)
      else sampleProbeWalk (probeNum + 1) ids c samples

/-- One more probe of the last packet. -/
def probeAgain (last : PktId) (r : SendCtl × (PktId → PktSample)) : SendCtl × (PktId → PktSample) :=
  (r.1.sendProbePkt last, probeSample r.1 last r.2)

/-- `rqc_path_send_one_or_two_ack_elicit_pkts`, what was recorded. -/
def sampleProbes (c : SendCtl) (samples : PktId → PktSample) : PktId → PktSample :=
  let samples := sampleProbeWalk ptoPktCntMax (c.lists .unackedPackets) c samples
  match SendCtl.probeWalk ptoPktCntMax none (c.lists .unackedPackets) c with
  | (probeNum, some last, c) => ((probeAgain last)^[probeNum] (c, samples)).2
  | (_, none, _) => samples

end SampleCtl

/-! ## Acknowledgements, sending and expiry -/

/-- The state in which `rqc_send_ctl_on_ack_received` looks for losses. -/
def LossCtl.beforeLosses (c : LossCtl) (env : LossEnv) (info : AckInfo) (ackRecvTime clock : ℕ) : LossCtl :=
  let w := c.toSendCtl.ackProcess info
  let acked := newlyAcked c.toSendCtl w.ctl
  let (sentTime, update) := raiseSentTime c.pkts acked c.largestAcked (c.largestAckedSentTime, false)
  let eliciting := acked.any fun id => isAckEliciting (c.pkts id).poFrameTypes
  let c' := { c with toSendCtl := w.ctl, largestAckedSentTime := sentTime }
  (c'.sampleRtt env (update && eliciting) info.ackDelay ackRecvTime clock).adaptThresholds env c.pkts acked
    ackRecvTime

namespace SampleCtl

/-- The packets `acked` in the loop of `rqc_send_ctl_on_ack_received`. -/
def sampleAcked (c : SampleCtl) (env : LossEnv) (acked : List PktId) (ackRecvTime : ℕ) : SampleCtl :=
  match acked with
  | [] => { c with sampler := {} }
  | id :: ids =>
    (id :: ids).foldl (fun c id => c.updateSample env ackRecvTime id) { c with
      sampler := {}, priorDelivered := c.delivered, priorBytesInFlight := c.bytesInFlight }

/-- The end of `rqc_send_ctl_on_ack_received`. -/
def finishSample (c : SampleCtl) (ackRecvTime : ℕ) : SampleCtl :=
  let c := if c.appLimited ≠ 0 ∧ c.appLimited < c.delivered then { c with appLimited := 0 } else c
  if c.usesSamples then (c.generateSample ackRecvTime).1 else c

/-- `rqc_send_ctl_on_ack_received`. -/
def onAckReceived (c : SampleCtl) (env : LossEnv) (info : AckInfo) (ackRecvTime clock : ℕ) : SampleCtl :=
  let w := c.toSendCtl.ackProcess info
  let c' := c.sampleAcked env (LossCtl.newlyAcked c.toSendCtl w.ctl) ackRecvTime
  let l := (c.toLossCtl.onAckReceived env info ackRecvTime clock).1
  if w.err.isSome ∨ w.hasAcked = false then { c' with toLossCtl := l }
  else
    finishSample { c'.sampleLost (c.toLossCtl.beforeLosses env info ackRecvTime clock) ackRecvTime with
      toLossCtl := l } ackRecvTime

/-- One round of the loops that send. -/
def sendPacket (c : SampleCtl) (env : LossEnv) (t : SendType) (outcome : SendOutcome)
    (now clock : ℕ) : SampleCtl :=
  let c' :=
    match c.sending t outcome with
    | none => c
    | some id => c.sampleOnSent id now
  { c' with toLossCtl := c.toLossCtl.sendPacket env t outcome now clock }

/-- `rqc_timer_expire`, for the loss-detection timer. -/
def timerExpire (c : SampleCtl) (env : LossEnv) (params : PktParams) (now clock : ℕ) : SampleCtl :=
  let l := c.toLossCtl.timerExpire env params now clock
  if c.lossTimer.isSet ∧ c.lossTimer.expireTime ≤ now then
    if c.lossTime ≠ 0 then { c.sampleLost c.toLossCtl now with toLossCtl := l }
    else if 0 < c.bytesInFlight then { c with toLossCtl := l, samples := sampleProbes c.toSendCtl c.samples }
    else { c with toLossCtl := l }
  else { c with toLossCtl := l }

end SampleCtl

/-! ## Runs -/

/-- One event of the send control with its sampler. -/
inductive SampleEvent where
  | loss (ev : LossEvent)
  | checkAppLimited (notCwndLimited : Bool)
  | markAppLimited

namespace SampleCtl

def step (c : SampleCtl) : SampleEvent → SampleCtl
  | .loss (.ctl ev h) => { c with toLossCtl := c.toLossCtl.step (.ctl ev h) }
  | .loss (.send env t outcome now clock) => c.sendPacket env t outcome now clock
  | .loss (.ackReceived env info ackRecvTime clock) => c.onAckReceived env info ackRecvTime clock
  | .loss (.expire env params now clock) => c.timerExpire env params now clock
  | .checkAppLimited notCwndLimited => c.sampleCheckAppLimited notCwndLimited
  | .markAppLimited => c.markAppLimited

def run (c : SampleCtl) (evs : List SampleEvent) : SampleCtl := evs.foldl step c

end SampleCtl

end Rquic

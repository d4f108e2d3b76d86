import Rquic.Conn.Frames
import Rquic.SendCtl.LossTimer

set_option autoImplicit false

/-!
# Timing arithmetic

The durations of the send control as the machine computes them (`rqc_send_ctl.c`, `rqc_send_ctl.h`), against
the unbounded ones of the timer model.

* `sendCtlPow`, `cappedBackoff`: the back-off, a shift of an `int` that is capped afterwards.
* `LossCtl.calcPto`, `LossCtl.getPtoTimeU64`, `LossCtl.congestionDuration`, `LossEnv.clampAckDelay`: what is
  computed in 64 bits. Products with the back-off are held in a `double` and taken as exact.
* `TimingExact`: all of these are the exact values, and the PTO does not shrink with the PTO count.
* **`timingExact_iff`**: they are exactly when the count is at most 30 and the sums fit in 64 bits.
-/

namespace Rquic

/-! ## What is computed -/

/-- `rqc_send_ctl_pow`. The shift of a 32-bit `int` has no value from 31 on. -/
def sendCtlPow (n : ℕ) : Option ℕ := if n < 31 then some (2 ^ n) else none

/-- `backoff` of `rqc_send_ctl_get_pto_time`, with `pto_backoff_factor` 2. -/
def cappedBackoff (n : ℕ) : Option ℕ := (sendCtlPow n).map fun backoff => min backoff (2 ^ 16)

/-- A `double` is assigned to a `uint64_t`. Nothing stands for a value that does not fit. -/
def toU64 (x : ℕ) : Option ℕ := if x < 2 ^ 64 then some x else none

/-- The ACK delay in `rqc_send_ctl_update_rtt`, clamped. -/
def LossEnv.clampAckDelay (env : LossEnv) (ackDelay : ℕ) : ℕ :=
  if env.handshakeDone then min ackDelay (u64Mul env.maxAckDelay 1000)
  else min ackDelay (defaultMaxAckDelay * 1000)

namespace LossCtl

variable (c : LossCtl) (env : LossEnv)

/-- `rqc_send_ctl_calc_pto`. -/
def calcPto : ℕ :=
  u64Add (u64Add c.srtt (max (u64Mul 4 c.rttvar) (kGranularity * 1000))) (u64Mul env.maxAckDelay 1000)

/-- `duration` of `rqc_send_ctl_get_pto_time` before the back-off. -/
def baseDurationU64 : ℕ :=
  if c.firstRttSampleTime = 0 ∧ env.initialPtoDuration ≠ 0 then env.initialPtoDuration
  else if env.controlPtoValue then u64Add c.srtt (c.srtt / 4)
  else u64Add c.srtt (max (u64Mul 4 c.rttvar) (kGranularity * 1000))

/-- `rqc_send_ctl_get_pto_time`. -/
def getPtoTimeU64 (clock : ℕ) : Option ℕ := do
  let backoff ← cappedBackoff c.ptoCount
  let duration ← toU64 (c.baseDurationU64 env * backoff)
  if c.bytesInFlight = 0 then return u64Add clock duration
  else if 0 < c.bytesAckElicitingInflight then
    let duration ←
      if env.handshakeDone then toU64 (duration + u64Mul env.maxAckDelay 1000 * backoff) else pure duration
    return u64Add c.timeOfLastSentAckElicitingPacket duration
  else return 2 ^ 64 - 1

/-- `duration` of `rqc_send_ctl_in_persistent_congestion`. -/
def congestionDuration : ℕ :=
  u64Mul (u64Add (u64Add c.srtt (max (u64Mul c.rttvar 4) (kGranularity * 1000)))
    (u64Mul env.maxAckDelay 1000)) 3

/-- `rqc_send_ctl_in_persistent_congestion`. -/
def inPersistentCongestionU64 (largestLost : PacketOut) (now : ℕ) : Prop :=
  2 ≤ c.ptoCount ∧ c.congestionDuration env < u64Sub now largestLost.poSentTime

end LossCtl

/-! ## What should be computed -/

/-- The back-off over unbounded integers. -/
def exactBackoff (n : ℕ) : ℕ := min (2 ^ n) (2 ^ 16)

/-- The environment with the back-off over unbounded integers. -/
def LossEnv.exact (env : LossEnv) : LossEnv := { env with backoff := fun n d => d * exactBackoff n }

/-- The duration of a PTO before the back-off. -/
def LossCtl.baseDuration (c : LossCtl) (env : LossEnv) : ℕ :=
  if c.firstRttSampleTime = 0 ∧ env.initialPtoDuration ≠ 0 then env.initialPtoDuration
  else if env.controlPtoValue then c.srtt + c.srtt / 4
  else c.srtt + max (4 * c.rttvar) (kGranularity * 1000)

/-- The duration of a PTO with the delay of the peer, without back-off. -/
def LossCtl.fullDuration (c : LossCtl) (env : LossEnv) : ℕ :=
  c.srtt + max (4 * c.rttvar) (kGranularity * 1000) + env.maxAckDelay * 1000

/-- The timing arithmetic is exact: for the path, the settings of the peer, an ACK delay as it is on the
wire with its exponent, and what the clock reads. -/
structure TimingExact (c : LossCtl) (env : LossEnv) (ackDelay ackDelayExponent clock : ℕ) : Prop where
  backoff : cappedBackoff c.ptoCount = some (exactBackoff c.ptoCount)
  calcPto : c.calcPto env = c.fullDuration env
  ptoTime : c.getPtoTimeU64 env clock = some (c.getPtoTime env.exact clock)
  congestion : 2 ≤ c.ptoCount → c.congestionDuration env = c.fullDuration env * 3
  verdict : ∀ largestLost now, c.inPersistentCongestionU64 env largestLost now ↔
    c.inPersistentCongestion env largestLost now
  decoded : u64Mul ackDelay (2 ^ ackDelayExponent) = ackDelay * 2 ^ ackDelayExponent
  clamped : env.clampAckDelay (u64Mul ackDelay (2 ^ ackDelayExponent)) =
    min (ackDelay * 2 ^ ackDelayExponent)
      ((if env.handshakeDone then env.maxAckDelay else defaultMaxAckDelay) * 1000)
  /-- The PTO does not shrink with the PTO count. -/
  mono : ∀ n ≤ c.ptoCount, ∃ t, LossCtl.getPtoTimeU64 { c with ptoCount := n } env clock = some t ∧
    ∃ t', c.getPtoTimeU64 env clock = some t' ∧ t ≤ t'

/-- What the inputs have to satisfy: the shift is defined, and the sums fit in 64 bits. -/
structure TimingBounded (c : LossCtl) (env : LossEnv) (ackDelay ackDelayExponent clock : ℕ) : Prop where
  count : c.ptoCount ≤ 30
  pto : c.srtt + max (4 * c.rttvar) (kGranularity * 1000) + env.maxAckDelay * 1000 < 2 ^ 64
  congestion : 2 ≤ c.ptoCount →
    (c.srtt + max (4 * c.rttvar) (kGranularity * 1000) + env.maxAckDelay * 1000) * 3 < 2 ^ 64
  delay : ackDelay * 2 ^ ackDelayExponent < 2 ^ 64
  duration : c.baseDuration env * exactBackoff c.ptoCount < 2 ^ 64
  idle : c.bytesInFlight = 0 → clock + c.baseDuration env * exactBackoff c.ptoCount < 2 ^ 64
  busy : c.bytesInFlight ≠ 0 → 0 < c.bytesAckElicitingInflight →
    c.timeOfLastSentAckElicitingPacket + (c.baseDuration env +
      if env.handshakeDone then env.maxAckDelay * 1000 else 0) * exactBackoff c.ptoCount < 2 ^ 64

/-! ## One value after the other -/

theorem toU64_eq_some {x y : ℕ} : toU64 x = some y ↔ x < 2 ^ 64 ∧ x = y := by
  unfold toU64
  split_ifs with h
  · simp only [Option.some.injEq, h, true_and]
  · simp only [h, false_and]

theorem mod_u64_eq {x : ℕ} : x % 2 ^ 64 = x ↔ x < 2 ^ 64 := by omega

theorem cappedBackoff_eq {n : ℕ} (h : n ≤ 30) : cappedBackoff n = some (exactBackoff n) := by
  rw [cappedBackoff, sendCtlPow, if_pos (by omega : n < 31)]
  rfl

/-- The back-off is exact as long as the shift is defined. -/
theorem cappedBackoff_iff {n : ℕ} : cappedBackoff n = some (exactBackoff n) ↔ n ≤ 30 := by
  refine ⟨fun h => ?_, cappedBackoff_eq⟩
  by_contra hn
  rw [cappedBackoff, sendCtlPow, if_neg (by omega)] at h
  cases h

theorem exactBackoff_mono {m n : ℕ} (h : m ≤ n) : exactBackoff m ≤ exactBackoff n :=
  min_le_min_right _ (Nat.pow_le_pow_right (by decide) h)

theorem one_le_exactBackoff (n : ℕ) : 1 ≤ exactBackoff n :=
  le_min (Nat.one_le_two_pow) (by decide)

namespace LossCtl

variable {c : LossCtl} {env : LossEnv}

theorem calcPto_mod (hrttvar : c.rttvar < 2 ^ 40) : c.calcPto env = c.fullDuration env % 2 ^ 64 := by
  simp only [calcPto, fullDuration, u64Add, u64Mul]
  omega

theorem congestionDuration_mod (hrttvar : c.rttvar < 2 ^ 40) :
    c.congestionDuration env = c.fullDuration env * 3 % 2 ^ 64 := by
  simp only [congestionDuration, fullDuration, u64Add, u64Mul]
  omega

theorem baseDurationU64_eq (hsrtt : c.srtt < 2 ^ 40) (hrttvar : c.rttvar < 2 ^ 40) :
    c.baseDurationU64 env = c.baseDuration env := by
  unfold baseDurationU64 baseDuration u64Add u64Mul kGranularity
  split_ifs
  · rfl
  · omega
  · omega

/-- The PTO of the unbounded model. -/
theorem getPtoTime_exact (clock : ℕ) :
    c.getPtoTime env.exact clock =
      if c.bytesInFlight = 0 then clock + c.baseDuration env * exactBackoff c.ptoCount
      else if 0 < c.bytesAckElicitingInflight then
        c.timeOfLastSentAckElicitingPacket + (c.baseDuration env +
          if env.handshakeDone then env.maxAckDelay * 1000 else 0) * exactBackoff c.ptoCount
      else 2 ^ 64 - 1 := by
  have hduration : c.ptoDuration env.exact = c.baseDuration env * exactBackoff c.ptoCount := rfl
  unfold getPtoTime ptoDeadline
  rw [hduration, add_mul]
  by_cases hdone : env.handshakeDone = true
  · simp [LossEnv.exact, hdone]
  · simp [LossEnv.exact, hdone]

/-- The PTO of the machine, where the shift is defined. -/
theorem getPtoTimeU64_some (hsrtt : c.srtt < 2 ^ 40) (hrttvar : c.rttvar < 2 ^ 40)
    (hcount : c.ptoCount ≤ 30) (clock : ℕ) :
    c.getPtoTimeU64 env clock = (toU64 (c.baseDuration env * exactBackoff c.ptoCount)).bind fun d =>
      if c.bytesInFlight = 0 then some (u64Add clock d)
      else if 0 < c.bytesAckElicitingInflight then
        (toU64 (d + if env.handshakeDone then u64Mul env.maxAckDelay 1000 * exactBackoff c.ptoCount
          else 0)).map (u64Add c.timeOfLastSentAckElicitingPacket)
      else some (2 ^ 64 - 1) := by
  unfold getPtoTimeU64
  rw [cappedBackoff_eq hcount, baseDurationU64_eq hsrtt hrttvar]
  simp only [Option.bind_eq_bind, Option.bind_some]
  cases hd : toU64 (c.baseDuration env * exactBackoff c.ptoCount) with
  | none => rfl
  | some d =>
      obtain ⟨hlt, rfl⟩ := toU64_eq_some.1 hd
      simp only [Option.bind_some]
      split_ifs
      · rfl
      · cases toU64 (c.baseDuration env * exactBackoff c.ptoCount +
          u64Mul env.maxAckDelay 1000 * exactBackoff c.ptoCount) <;> rfl
      · rw [add_zero, hd]
        rfl
      · rfl

/-- The delay of the peer with the back-off is added to a duration, and the sum to a time. -/
theorem addDelay_exact {last d m b : ℕ} (hb : 1 ≤ b) :
    (toU64 (d + u64Mul m 1000 * b)).map (u64Add last) = some (last + (d + m * 1000 * b)) ↔
      last + (d + m * 1000 * b) < 2 ^ 64 := by
  constructor
  · intro h
    obtain ⟨x, -, hx⟩ := Option.map_eq_some_iff.1 h
    rw [← hx]
    exact Nat.mod_lt _ (by decide)
  · intro h
    have hm : m * 1000 ≤ m * 1000 * b := Nat.le_mul_of_pos_right _ hb
    have hmul : u64Mul m 1000 = m * 1000 := Nat.mod_eq_of_lt (by omega)
    rw [hmul, toU64, if_pos (by omega), Option.map_some, u64Add_eq h]

/-- The PTO is exact when its sums fit in 64 bits. -/
theorem getPtoTimeU64_exact (hsrtt : c.srtt < 2 ^ 40) (hrttvar : c.rttvar < 2 ^ 40)
    (hcount : c.ptoCount ≤ 30) {clock : ℕ} :
    c.getPtoTimeU64 env clock = some (c.getPtoTime env.exact clock) ↔
      c.baseDuration env * exactBackoff c.ptoCount < 2 ^ 64 ∧
        (c.bytesInFlight = 0 → clock + c.baseDuration env * exactBackoff c.ptoCount < 2 ^ 64) ∧
        (c.bytesInFlight ≠ 0 → 0 < c.bytesAckElicitingInflight →
          c.timeOfLastSentAckElicitingPacket + (c.baseDuration env +
            if env.handshakeDone then env.maxAckDelay * 1000 else 0) * exactBackoff c.ptoCount < 2 ^ 64) := by
  rw [getPtoTimeU64_some hsrtt hrttvar hcount, getPtoTime_exact, add_mul]
  have hb := one_le_exactBackoff c.ptoCount
  generalize exactBackoff c.ptoCount = b at *
  by_cases hd : c.baseDuration env * b < 2 ^ 64
  · rw [toU64, if_pos hd, Option.bind_some]
    by_cases hidle : c.bytesInFlight = 0
    · simp only [hidle, if_true, Option.some.injEq, u64Add, mod_u64_eq, hd, true_and, forall_const, ne_eq,
        not_true, false_imp_iff, and_true]
    · by_cases hbusy : 0 < c.bytesAckElicitingInflight
      · simp only [hidle, hbusy, if_false, if_true, hd, true_and, false_imp_iff, ne_eq, not_false_iff,
          true_imp_iff]
        cases env.handshakeDone with
        | true => simpa using addDelay_exact hb
        | false =>
            simp only [Bool.false_eq_true, if_false, add_zero, zero_mul, toU64, hd, if_true, Option.map_some,
              Option.some.injEq, u64Add, mod_u64_eq]
      · simp only [hidle, hbusy, if_false, hd, false_imp_iff, and_true, ne_eq, not_false_iff, true_imp_iff]
  · simp only [toU64, hd, if_false, Option.bind_none, false_and, reduceCtorEq]

theorem inPersistentCongestionU64_iff (h : 2 ≤ c.ptoCount → c.congestionDuration env = c.fullDuration env * 3)
    (largestLost : PacketOut) (now : ℕ) :
    c.inPersistentCongestionU64 env largestLost now ↔ c.inPersistentCongestion env largestLost now := by
  apply and_congr_right
  intro hcount
  rw [h hcount, fullDuration, mul_comm 4]

end LossCtl

/-! ## All of them -/

section Exact

variable {c : LossCtl} {env : LossEnv} {ackDelay ackDelayExponent clock : ℕ}

theorem TimingBounded.lower (h : TimingBounded c env ackDelay ackDelayExponent clock) {n : ℕ}
    (hn : n ≤ c.ptoCount) : TimingBounded { c with ptoCount := n } env ackDelay ackDelayExponent clock := by
  have hb := exactBackoff_mono hn
  have hbase : ∀ d, d * exactBackoff n ≤ d * exactBackoff c.ptoCount := fun d => Nat.mul_le_mul_left d hb
  exact {
    count := hn.trans h.count
    pto := h.pto
    congestion := fun hcount => h.congestion (hcount.trans hn)
    delay := h.delay
    duration := (hbase _).trans_lt h.duration
    idle := fun hidle => (Nat.add_le_add_left (hbase _) _).trans_lt (h.idle hidle)
    busy := fun hidle hpos => (Nat.add_le_add_left (hbase _) _).trans_lt (h.busy hidle hpos) }

theorem TimingBounded.ptoTime (h : TimingBounded c env ackDelay ackDelayExponent clock)
    (hsrtt : c.srtt < 2 ^ 40) (hrttvar : c.rttvar < 2 ^ 40) :
    c.getPtoTimeU64 env clock = some (c.getPtoTime env.exact clock) :=
  (LossCtl.getPtoTimeU64_exact hsrtt hrttvar h.count).2 ⟨h.duration, h.idle, h.busy⟩

/-- Over unbounded integers the PTO does not shrink with the PTO count. -/
theorem getPtoTime_mono {n : ℕ} (hn : n ≤ c.ptoCount) :
    LossCtl.getPtoTime { c with ptoCount := n } env.exact clock ≤ c.getPtoTime env.exact clock := by
  have hb := exactBackoff_mono hn
  rw [LossCtl.getPtoTime_exact, LossCtl.getPtoTime_exact]
  dsimp only
  split_ifs
  · exact Nat.add_le_add_left (Nat.mul_le_mul_left _ hb) _
  · exact Nat.add_le_add_left (Nat.mul_le_mul_left _ hb) _
  · exact Nat.add_le_add_left (Nat.mul_le_mul_left _ hb) _
  · exact le_rfl

/-- **The timing arithmetic is exact exactly when the shift is defined and the sums fit in 64 bits.** -/
theorem timingExact_iff (hsrtt : c.srtt < 2 ^ 40) (hrttvar : c.rttvar < 2 ^ 40) :
    TimingExact c env ackDelay ackDelayExponent clock ↔
      TimingBounded c env ackDelay ackDelayExponent clock := by
  constructor
  · intro h
    have hcount := cappedBackoff_iff.1 h.backoff
    obtain ⟨hduration, hidle, hbusy⟩ := (LossCtl.getPtoTimeU64_exact hsrtt hrttvar hcount).1 h.ptoTime
    refine ⟨hcount, ?_, fun htwo => ?_, ?_, hduration, hidle, hbusy⟩
    · have hpto := h.calcPto
      rwa [LossCtl.calcPto_mod hrttvar, mod_u64_eq] at hpto
    · have hcongestion := h.congestion htwo
      rwa [LossCtl.congestionDuration_mod hrttvar, mod_u64_eq] at hcongestion
    · exact mod_u64_eq.1 h.decoded
  · intro h
    have hcongestion : 2 ≤ c.ptoCount → c.congestionDuration env = c.fullDuration env * 3 := by
      intro htwo
      rw [LossCtl.congestionDuration_mod hrttvar]
      exact mod_u64_eq.2 (h.congestion htwo)
    have hdecoded : u64Mul ackDelay (2 ^ ackDelayExponent) = ackDelay * 2 ^ ackDelayExponent :=
      mod_u64_eq.2 h.delay
    have hpto := h.pto
    refine ⟨cappedBackoff_eq h.count, ?_, h.ptoTime hsrtt hrttvar, hcongestion,
      LossCtl.inPersistentCongestionU64_iff hcongestion, hdecoded, ?_, fun n hn => ?_⟩
    · rw [LossCtl.calcPto_mod hrttvar]
      exact mod_u64_eq.2 h.pto
    · have hmul : u64Mul env.maxAckDelay 1000 = env.maxAckDelay * 1000 := mod_u64_eq.2 (by omega)
      rw [hdecoded, LossEnv.clampAckDelay, hmul]
      split_ifs <;> rfl
    · exact ⟨_, (h.lower hn).ptoTime hsrtt hrttvar, _, h.ptoTime hsrtt hrttvar, getPtoTime_mono hn⟩

end Exact

/-- A path with the default settings, after two probes. -/
theorem timingExact_default :
    TimingExact { LossCtl.create { backoff := fun _ d => d } with ptoCount := 2 } { backoff := fun _ d => d }
      1000 3 (2 ^ 50) := by
  refine (timingExact_iff (by decide) (by decide)).2 ?_
  constructor <;> decide

/-- The parameters of a peer whose `max_ack_delay` in microseconds is just above `2 ^ 64`. -/
def hugeDelayParams : Bytes := [0x09, 0x08, 0xC0, 0x41, 0x89, 0x37, 0x4B, 0xC6, 0xA7, 0xF0]

/-- The parameters are accepted, and the delay counts as less than a millisecond. -/
theorem not_timingExact_hugeDelay :
    (∃ p, decodeTransportParams hugeDelayParams = .ok p ∧ checkTransportParams p = true ∧
      p.maxAckDelay = 18446744073709552) ∧
    ¬ TimingExact (LossCtl.create { backoff := fun _ d => d })
      { backoff := fun _ d => d, maxAckDelay := 18446744073709552 } 0 3 0 := by
  refine ⟨⟨_, rfl, rfl, rfl⟩, fun h => ?_⟩
  exact absurd h.calcPto (by decide)

end Rquic

import Rquic.Lib.TokenBucket
import Rquic.SendCtl.LossTimer

set_option autoImplicit false

/-!
# The pacer

`rqc_pacing.c` with 32-bit budgets, 64-bit times and `RQC_TIMER_PACING` (`rqc_timer.h`).

* `Pacer`: `rqc_pacing_t` with its timer; `Pacer.calcBudget`, `Pacer.canWrite`, ...: the functions.
* `Pacer.bucket`: the token bucket that the pacer is meant to be.
* **`paced_iff`**: after any sends the budget is that of the bucket up to a time exactly when the refill until
  then fits in 32 bits.
* **`pacing_never_stalls`**: a refused write leaves the timer set, and once the timer has fired the write is
  allowed.
-/

namespace Rquic

/-! ## The functions -/

/-- `rqc_timer_update`. An expiry less than a millisecond after the old one is not taken over. -/
def Timer.update (t : Timer) (now interTime : ℕ) : Timer :=
  let newExpire := u64Add now interTime
  if u64Sub newExpire t.expireTime < 1000 then t else ⟨true, newExpire⟩

/-- `RQC_MAX_BURST_NUM`. -/
def Pacer.maxBurstNum : ℕ := 10 * (maxPacketOutSize + ackSpace)

/-- `rqc_pacing_t` with its timer, after `rqc_pacing_init`. -/
structure Pacer where
  bytesBudget : ℕ := Pacer.maxBurstNum
  pendingBudget : ℕ := 0
  lastSentTime : ℕ := 0
  /-- `RQC_TIMER_PACING`. -/
  timer : Timer := {}
  deriving DecidableEq, Repr

namespace Pacer

/-- `RQC_PACING_DELAY_US` and `RQC_CLOCK_GRANULARITY_US`. -/
def pacingDelay : ℕ := 1000

/-- `rqc_pacing_max_burst_size`. -/
def maxBurstSize (rate : ℕ) : ℕ :=
  max maxBurstNum (u64Mul (pacingDelay + pacingDelay) rate / 1000000) % 2 ^ 32

variable (p : Pacer)

/-- `rqc_pacing_calc_budget`. -/
def calcBudget (rate now : ℕ) : ℕ :=
  let budget :=
    if p.lastSentTime = 0 then maxBurstSize rate
    else u32Add p.bytesBudget (u64Mul (u64Sub now p.lastSentTime) rate / 1000000)
  min budget (maxBurstSize rate)

/-- `rqc_pacing_on_timeout`. -/
def onTimeout (rate now : ℕ) : Pacer :=
  { p with
    bytesBudget := max (p.calcBudget rate now) (u32Add p.bytesBudget p.pendingBudget)
    pendingBudget := 0, lastSentTime := now }

/-- `rqc_pacing_on_packet_sent`. -/
def onPacketSent (bytes rate now : ℕ) : Pacer :=
  { p with
    bytesBudget := if p.calcBudget rate now < bytes then 0 else p.calcBudget rate now - bytes
    lastSentTime := now }

/-- `rqc_pacing_time_until_send`. -/
def timeUntilSend (bytes rate : ℕ) : ℕ × Pacer :=
  if bytes ≤ p.bytesBudget then (0, p)
  else (max (u64Mul (bytes - p.bytesBudget) 1000000 / rate) pacingDelay,
    { p with pendingBudget := bytes - p.bytesBudget })

/-- `rqc_pacing_can_write`. -/
def canWrite (totalBytes rate now : ℕ) : Bool × Pacer :=
  if p.timer.isSet then (false, p)
  else
    match p.timeUntilSend totalBytes rate with
    | (delay, p) => if delay ≠ 0 then (false, { p with timer := p.timer.update now delay }) else (true, p)

/-- `rqc_pacing_on_app_limit`. -/
def onAppLimit (now : ℕ) : Pacer := { p with bytesBudget := maxBurstNum, lastSentTime := now }

/-- `rqc_timer_expire`, for this timer. `clock` is what its callback reads. -/
def timerExpire (rate now clock : ℕ) : Pacer :=
  if p.timer.isSet ∧ p.timer.expireTime ≤ now then
    let p := p.onTimeout rate clock
    -- unset timer if it is not updated in timeout_cb
    if p.timer.expireTime ≤ now then { p with timer := {} } else p
  else p

end Pacer

/-! ## The token bucket -/

/-- The bucket of a pacing rate in bytes for each second: a burst is what two milliseconds bring, or ten
packets. -/
def bucketParams (rate : ℕ) : BucketParams where
  rate := rate
  unit := 1000000
  burst := max Pacer.maxBurstNum (2000 * rate / 1000000)

namespace Pacer

/-- The pacer after sends, with their sizes and times. -/
def runSends (rate : ℕ) (sends : List (ℕ × ℕ)) : Pacer :=
  sends.foldl (fun p send => p.onPacketSent send.1 rate send.2) {}

/-- The bucket that the pacer stands for. -/
def bucket (p : Pacer) (sends : List (ℕ × ℕ)) : Bucket where
  tokens := p.bytesBudget
  last := if sends = [] then none else some p.lastSentTime

/-- Up to the time `horizon` the budget after the sends is that of the bucket. It fills with time, and after
a long gap it is full. -/
structure PacedUntil (rate : ℕ) (sends : List (ℕ × ℕ)) (horizon : ℕ) : Prop where
  exact : ∀ now, (runSends rate sends).lastSentTime ≤ now → now ≤ horizon →
    (runSends rate sends).calcBudget rate now =
      ((runSends rate sends).bucket sends).avail (bucketParams rate) now
  mono : ∀ now now', (runSends rate sends).lastSentTime ≤ now → now ≤ now' → now' ≤ horizon →
    (runSends rate sends).calcBudget rate now ≤ (runSends rate sends).calcBudget rate now'
  full : ∀ now, (runSends rate sends).lastSentTime ≤ now → now ≤ horizon →
    (bucketParams rate).burst ≤ (runSends rate sends).bytesBudget +
      (now - (runSends rate sends).lastSentTime) * rate / 1000000 →
    (runSends rate sends).calcBudget rate now = (bucketParams rate).burst

/-! ## Budgets -/

theorem maxBurstSize_eq {rate : ℕ} (hrate : rate < 2 ^ 40) : maxBurstSize rate = (bucketParams rate).burst := by
  unfold maxBurstSize bucketParams u64Mul pacingDelay maxBurstNum maxPacketOutSize ackSpace
  dsimp only
  rw [Nat.mod_eq_of_lt (by omega : (1000 + 1000) * rate < 2 ^ 64)]
  exact Nat.mod_eq_of_lt (by omega)

theorem calcBudget_le (p : Pacer) (rate now : ℕ) : p.calcBudget rate now ≤ maxBurstSize rate :=
  min_le_right _ _

/-- The budget after a send is a truncated difference. -/
theorem ite_lt_sub (a b : ℕ) : (if a < b then 0 else a - b) = a - b := by
  split_ifs <;> omega

theorem runSends_lt (rate : ℕ) (sends : List (ℕ × ℕ)) : (runSends rate sends).bytesBudget < 2 ^ 32 := by
  induction sends using List.reverseRecOn with
  | nil =>
      show maxBurstNum < 2 ^ 32
      decide
  | append_singleton sends send ih =>
      have hle := calcBudget_le (runSends rate sends) rate send.2
      have hlt : maxBurstSize rate < 2 ^ 32 := Nat.mod_lt _ (by decide)
      rw [runSends, List.foldl_append]
      show (if (runSends rate sends).calcBudget rate send.2 < send.1 then 0
        else (runSends rate sends).calcBudget rate send.2 - send.1) < 2 ^ 32
      split_ifs <;> omega

variable {p : Pacer} {rate now : ℕ}

/-- After the first send, while the refill fits in 32 bits. -/
theorem calcBudget_eq (hrate : rate < 2 ^ 40) (hlast : p.lastSentTime ≠ 0) (hle : p.lastSentTime ≤ now)
    (hnow : now < 2 ^ 64) (hfit : p.bytesBudget + (now - p.lastSentTime) * rate / 1000000 < 2 ^ 32) :
    p.calcBudget rate now = min (p.bytesBudget + (now - p.lastSentTime) * rate / 1000000)
      (bucketParams rate).burst := by
  have hmul : u64Mul (u64Sub now p.lastSentTime) rate = (now - p.lastSentTime) * rate := by
    rw [u64Sub_eq hle hnow]
    exact Nat.mod_eq_of_lt (by omega)
  unfold calcBudget
  rw [if_neg hlast, hmul, maxBurstSize_eq hrate]
  dsimp only
  rw [u32Add, Nat.mod_eq_of_lt hfit]

/-- Before a send at a time other than zero the budget is a burst. -/
theorem calcBudget_of_zero (hrate : rate < 2 ^ 40) (hlast : p.lastSentTime = 0) :
    p.calcBudget rate now = (bucketParams rate).burst := by
  unfold calcBudget
  rw [if_pos hlast, min_self, maxBurstSize_eq hrate]

/-- A refill that does not fit in 32 bits overflows them by little at some time. -/
theorem exists_overflow {budget gap : ℕ} (hbudget : budget < 2 ^ 32)
    (h : 2 ^ 32 ≤ budget + gap * rate / 1000000) :
    ∃ elapsed ≤ gap, 2 ^ 32 ≤ budget + elapsed * rate / 1000000 ∧
      budget + elapsed * rate / 1000000 ≤ 2 ^ 32 + rate / 1000000 := by
  induction gap with
  | zero =>
      rw [Nat.zero_mul] at h
      omega
  | succ gap ih =>
      by_cases hprev : 2 ^ 32 ≤ budget + gap * rate / 1000000
      · obtain ⟨elapsed, hle, hfound⟩ := ih hprev
        exact ⟨elapsed, hle.trans (Nat.le_succ _), hfound⟩
      · refine ⟨gap + 1, le_rfl, h, ?_⟩
        rw [Nat.succ_mul]
        omega

theorem lt_burst_of_le {x : ℕ} (hrate : rate < 2 ^ 40) (h : x ≤ rate / 1000000) :
    x < (bucketParams rate).burst := by
  unfold bucketParams maxBurstNum maxPacketOutSize ackSpace
  dsimp only
  omega

/-- Where the refill overflows, the budget is not that of the bucket at some time. -/
theorem exists_wrong_budget (hrate : rate < 2 ^ 40) (hlast : p.lastSentTime ≠ 0)
    (hbudget : p.bytesBudget < 2 ^ 32) {horizon : ℕ} (hhorizon : horizon < 2 ^ 64)
    (h : 2 ^ 32 ≤ p.bytesBudget + (horizon - p.lastSentTime) * rate / 1000000) :
    ∃ now, p.lastSentTime ≤ now ∧ now ≤ horizon ∧
      (bucketParams rate).burst ≤ p.bytesBudget + (now - p.lastSentTime) * rate / 1000000 ∧
      p.calcBudget rate now < (bucketParams rate).burst := by
  obtain ⟨elapsed, hle, hover, hsmall⟩ := exists_overflow hbudget h
  have hburst : (bucketParams rate).burst < 2 ^ 32 := by
    rw [← maxBurstSize_eq hrate]
    exact Nat.mod_lt _ (by decide)
  have hpos : p.lastSentTime + elapsed ≤ horizon := by
    rcases Nat.eq_zero_or_pos elapsed with rfl | hpos
    · rw [Nat.zero_mul] at hover
      omega
    · omega
  have helapsed : p.lastSentTime + elapsed - p.lastSentTime = elapsed := by omega
  refine ⟨p.lastSentTime + elapsed, Nat.le_add_right _ _, hpos, ?_, ?_⟩
  · rw [helapsed]
    omega
  · have hmul : u64Mul (u64Sub (p.lastSentTime + elapsed) p.lastSentTime) rate = elapsed * rate := by
      rw [u64Sub_eq (Nat.le_add_right _ _) (by omega), helapsed]
      exact Nat.mod_eq_of_lt (by omega)
    have hwrapped : u32Add p.bytesBudget (elapsed * rate / 1000000) ≤ rate / 1000000 := by
      unfold u32Add
      omega
    unfold calcBudget
    rw [if_neg hlast, hmul]
    exact (min_le_left _ _).trans_lt (lt_burst_of_le hrate hwrapped)

/-! ## The law of the bucket -/

theorem bucket_avail_nil : (p.bucket []).avail (bucketParams rate) now = (bucketParams rate).burst := rfl

theorem bucket_avail {sends : List (ℕ × ℕ)} (h : sends ≠ []) :
    (p.bucket sends).avail (bucketParams rate) now = min (bucketParams rate).burst
      (p.bytesBudget + (now - p.lastSentTime) * rate / 1000000) := by
  unfold bucket
  rw [if_neg h]
  rfl

/-- An exact budget has the other two properties of the bucket. -/
theorem PacedUntil.of_exact {sends : List (ℕ × ℕ)} {horizon : ℕ}
    (h : ∀ now, (runSends rate sends).lastSentTime ≤ now → now ≤ horizon →
      (runSends rate sends).calcBudget rate now =
        ((runSends rate sends).bucket sends).avail (bucketParams rate) now) :
    PacedUntil rate sends horizon where
  exact := h
  mono := by
    intro now now' hle hnow hle'
    rw [h now hle (hnow.trans hle'), h now' (hle.trans hnow) hle']
    exact Bucket.avail_mono hnow
  full := by
    intro now hle hle' hfull
    rw [h now hle hle']
    by_cases hsends : sends = []
    · rw [hsends, bucket_avail_nil]
    · exact Bucket.avail_full (by rw [bucket, if_neg hsends]) hfull

/-- **After any sends at a constant rate the budget is that of the token bucket up to a time exactly when
the refill until then fits in 32 bits.** A send at the time zero does not count as one. -/
theorem paced_iff {sends : List (ℕ × ℕ)} {horizon : ℕ} (hrate : rate < 2 ^ 40) (hhorizon : horizon < 2 ^ 64) :
    PacedUntil rate sends horizon ↔ sends = [] ∨
      if (runSends rate sends).lastSentTime = 0 then
        (bucketParams rate).burst ≤ (runSends rate sends).bytesBudget
      else (runSends rate sends).bytesBudget +
        (horizon - (runSends rate sends).lastSentTime) * rate / 1000000 < 2 ^ 32 := by
  constructor
  · intro h
    by_cases hsends : sends = []
    · exact .inl hsends
    right
    split_ifs with hlast
    · have hexact := h.exact 0 hlast.le (Nat.zero_le _)
      rw [calcBudget_of_zero hrate hlast, bucket_avail hsends, Nat.zero_sub, Nat.zero_mul] at hexact
      omega
    · by_contra hover
      obtain ⟨now, hle, hle', hfull, hwrong⟩ :=
        exists_wrong_budget hrate hlast (runSends_lt rate sends) hhorizon (not_lt.1 hover)
      exact hwrong.ne (h.full now hle hle' hfull)
  · rintro (rfl | h)
    · refine .of_exact fun now _ _ => ?_
      rw [bucket_avail_nil]
      exact calcBudget_of_zero hrate rfl
    · by_cases hsends : sends = []
      · subst hsends
        refine .of_exact fun now _ _ => ?_
        exact calcBudget_of_zero hrate rfl
      refine .of_exact fun now hle hle' => ?_
      rw [bucket_avail hsends]
      split_ifs at h with hlast
      · rw [calcBudget_of_zero hrate hlast]
        exact (min_eq_left (h.trans (Nat.le_add_right _ _))).symm
      · have hrefill : (now - (runSends rate sends).lastSentTime) * rate / 1000000 ≤
            (horizon - (runSends rate sends).lastSentTime) * rate / 1000000 :=
          Nat.div_le_div_right (Nat.mul_le_mul_right _ (by omega))
        rw [calcBudget_eq hrate hlast hle (hle'.trans_lt hhorizon) (by omega), min_comm]

/-- A packet of 1452 bytes at one megabyte a second, and a second of idleness. -/
theorem paced_second : PacedUntil 1000000 [(1452, 1000000)] 2000000 :=
  (paced_iff (by decide) (by decide)).2 (.inr (by decide))

/-- A packet of 1452 bytes at 100 megabytes a second, and 43 seconds of idleness: 52 bytes are left of a
burst of 200000. -/
theorem not_paced_overflow : ¬ PacedUntil 100000000 [(1452, 1000000)] (1000000 + 42947688) := by
  intro h
  exact absurd (h.full (1000000 + 42947688) (by decide) le_rfl (by decide)) (by decide)

/-- A send takes its bytes out of the bucket, if the budget is that of the bucket then. -/
theorem bucket_spend {sends : List (ℕ × ℕ)} {send : ℕ × ℕ}
    (h : (runSends rate sends).calcBudget rate send.2 =
      ((runSends rate sends).bucket sends).avail (bucketParams rate) send.2) :
    (runSends rate (sends ++ [send])).bucket (sends ++ [send]) =
      ((runSends rate sends).bucket sends).spend (bucketParams rate) send.1 send.2 := by
  have hrun : runSends rate (sends ++ [send]) = (runSends rate sends).onPacketSent send.1 rate send.2 := by
    rw [runSends, List.foldl_append]
    rfl
  rw [bucket, if_neg (by simp), hrun, Bucket.spend, ← h]
  simp only [onPacketSent, ite_lt_sub]

/-- **While no refill overflows, the pacer runs as the token bucket does.** -/
theorem runSends_bucket {sends : List (ℕ × ℕ)}
    (h : ∀ before send, before ++ [send] <+: sends → PacedUntil rate before send.2)
    (hle : ∀ before send, before ++ [send] <+: sends → (runSends rate before).lastSentTime ≤ send.2) :
    (runSends rate sends).bucket sends = sends.foldl (fun b send => b.spend (bucketParams rate) send.1 send.2)
      ⟨maxBurstNum, none⟩ := by
  induction sends using List.reverseRecOn with
  | nil => rfl
  | append_singleton sends send ih =>
      have hprefix : sends <+: sends ++ [send] := List.prefix_append _ _
      have hexact := (h sends send List.prefix_rfl).exact send.2 (hle sends send List.prefix_rfl) le_rfl
      have hrun := ih (fun before send hbefore => h before send (hbefore.trans hprefix))
        fun before send hbefore => hle before send (hbefore.trans hprefix)
      rw [bucket_spend hexact, List.foldl_append, hrun]
      rfl

end Pacer

/-! ## Runs with the timer -/

/-- What happens to the pacer. -/
inductive PacerEvent where
  | canWrite (totalBytes rate now : ℕ)
  | packetSent (bytes rate now : ℕ)
  | appLimit (now : ℕ)
  | expire (rate now clock : ℕ)

/-- Sizes have 32 bits, the congestion controller reports a rate, and the microseconds of the clock do not
come to the end of their 64 bits within the longest delay. -/
def PacerEvent.Wf : PacerEvent → Prop
  | .canWrite totalBytes rate now => totalBytes < 2 ^ 32 ∧ 0 < rate ∧ now + 2 ^ 52 ≤ 2 ^ 64
  | .packetSent bytes rate _ => bytes < 2 ^ 32 ∧ 0 < rate
  | .appLimit _ => True
  | .expire rate _ _ => 0 < rate

/-- The event neither sends a packet nor fires a timer that expires at `expireTime`. -/
def PacerEvent.Waits (expireTime : ℕ) : PacerEvent → Prop
  | .canWrite .. => True
  | .expire _ now _ => now < expireTime
  | .packetSent .. | .appLimit _ => False

namespace Pacer

def step (p : Pacer) : PacerEvent → Pacer
  | .canWrite totalBytes rate now => (p.canWrite totalBytes rate now).2
  | .packetSent bytes rate now => p.onPacketSent bytes rate now
  | .appLimit now => p.onAppLimit now
  | .expire rate now clock => p.timerExpire rate now clock

def run (p : Pacer) (evs : List PacerEvent) : Pacer := evs.foldl step p

/-- A timer that is not set has no expiry. -/
def TimerInv (p : Pacer) : Prop := p.timer.isSet = false → p.timer.expireTime = 0

variable {p : Pacer}

/-- The delay of a write is a millisecond at least, and below `2 ^ 52` microseconds. -/
theorem delay_bounds {bytes rate : ℕ} (hbytes : bytes < 2 ^ 32) :
    pacingDelay ≤ max (u64Mul bytes 1000000 / rate) pacingDelay ∧
      max (u64Mul bytes 1000000 / rate) pacingDelay < 2 ^ 52 := by
  have hdiv : u64Mul bytes 1000000 / rate ≤ u64Mul bytes 1000000 := Nat.div_le_self _ _
  have hmul : u64Mul bytes 1000000 < 2 ^ 52 := (Nat.mod_le _ _).trans_lt (by omega)
  unfold pacingDelay
  omega

/-- A timer that is not set takes over every expiry a millisecond ahead. -/
theorem update_unset {t : Timer} {now interTime : ℕ} (hexpire : t.expireTime = 0)
    (hfit : now + interTime < 2 ^ 64) (hlong : pacingDelay ≤ interTime) :
    t.update now interTime = ⟨true, now + interTime⟩ := by
  unfold pacingDelay at hlong
  unfold Timer.update
  dsimp only
  rw [hexpire, u64Add_eq hfit, u64Sub_eq (Nat.zero_le _) hfit]
  exact if_neg (by omega)

/-- What a write that has to wait does: the rest of its bytes is pending, and the timer is set. -/
theorem canWrite_refused (h : p.TimerInv) {totalBytes rate now : ℕ}
    (hwf : (PacerEvent.canWrite totalBytes rate now).Wf) (hset : p.timer.isSet = false)
    (hbudget : p.bytesBudget < totalBytes) :
    ∃ delay, p.canWrite totalBytes rate now =
      (false, { p with pendingBudget := totalBytes - p.bytesBudget, timer := ⟨true, now + delay⟩ }) := by
  obtain ⟨htotal, -, hclock⟩ := hwf
  obtain ⟨hlong, hshort⟩ := @delay_bounds (totalBytes - p.bytesBudget) rate (by omega)
  refine ⟨max (u64Mul (totalBytes - p.bytesBudget) 1000000 / rate) pacingDelay, ?_⟩
  have hpos : max (u64Mul (totalBytes - p.bytesBudget) 1000000 / rate) pacingDelay ≠ 0 :=
    ((by decide : 0 < pacingDelay).trans_le hlong).ne'
  have hupdate : p.timer.update now (max (u64Mul (totalBytes - p.bytesBudget) 1000000 / rate) pacingDelay) =
      ⟨true, now + max (u64Mul (totalBytes - p.bytesBudget) 1000000 / rate) pacingDelay⟩ :=
    update_unset (h hset) (by omega) hlong
  unfold canWrite timeUntilSend
  rw [hset, if_neg Bool.false_ne_true, if_neg hbudget.not_ge]
  dsimp only
  rw [if_pos hpos, hupdate]

theorem canWrite_allowed {totalBytes : ℕ} (hset : p.timer.isSet = false) (hbudget : totalBytes ≤ p.bytesBudget)
    (rate now : ℕ) : p.canWrite totalBytes rate now = (true, p) := by
  unfold canWrite timeUntilSend
  rw [hset, if_neg Bool.false_ne_true, if_pos hbudget]
  rfl

theorem canWrite_waits (hset : p.timer.isSet = true) (totalBytes rate now : ℕ) :
    p.canWrite totalBytes rate now = (false, p) := by
  unfold canWrite
  rw [if_pos hset]

theorem timerInv_step (h : p.TimerInv) {ev : PacerEvent} (hwf : ev.Wf) : (p.step ev).TimerInv := by
  cases ev with
  | packetSent | appLimit => exact h
  | expire rate now clock =>
      rw [step]
      unfold timerExpire
      dsimp only
      split_ifs
      · exact fun _ => rfl
      · exact h
      · exact h
  | canWrite totalBytes rate now =>
      rw [step]
      cases hset : p.timer.isSet with
      | true => rwa [canWrite_waits hset]
      | false =>
          by_cases hbudget : totalBytes ≤ p.bytesBudget
          · rwa [canWrite_allowed hset hbudget]
          · obtain ⟨delay, hrefused⟩ := canWrite_refused h hwf hset (not_le.1 hbudget)
            rw [hrefused]
            exact fun hunset => absurd hunset (by simp)

theorem timerInv_run (evs : List PacerEvent) (h : p.TimerInv) (hwf : ∀ ev ∈ evs, ev.Wf) :
    (p.run evs).TimerInv := by
  induction evs generalizing p with
  | nil => exact h
  | cons ev evs ih =>
      obtain ⟨hev, hevs⟩ := List.forall_mem_cons.1 hwf
      exact ih (timerInv_step h hev) hevs

/-- While the timer is set nothing changes but by a send, an application limit or the timer. -/
theorem run_waits (evs : List PacerEvent) (hset : p.timer.isSet = true)
    (hwaits : ∀ ev ∈ evs, ev.Waits p.timer.expireTime) : p.run evs = p := by
  induction evs with
  | nil => rfl
  | cons ev evs ih =>
      obtain ⟨hev, hevs⟩ := List.forall_mem_cons.1 hwaits
      have hstep : p.step ev = p := by
        cases ev with
        | canWrite totalBytes rate now => rw [step, canWrite_waits hset]
        | packetSent | appLimit => cases hev
        | expire rate now clock =>
            rw [step, timerExpire, if_neg]
            exact fun hfires => absurd hfires.2 (not_le.2 hev)
      rw [run, List.foldl_cons, hstep]
      exact ih hevs

/-- The timer fires: it is unset, and the pending bytes are in the budget. -/
theorem timerExpire_fires (hset : p.timer.isSet = true) {now : ℕ} (hfire : p.timer.expireTime ≤ now)
    (rate clock : ℕ) : (p.timerExpire rate now clock).timer.isSet = false ∧
      u32Add p.bytesBudget p.pendingBudget ≤ (p.timerExpire rate now clock).bytesBudget := by
  unfold timerExpire
  rw [if_pos ⟨hset, hfire⟩]
  have hkept : (p.onTimeout rate clock).timer.expireTime ≤ now := hfire
  dsimp only
  rw [if_pos hkept]
  exact ⟨rfl, le_max_right _ _⟩

/-- **A refused write leaves the timer set; and if it set the timer, then the write, and every smaller one,
is allowed once the timer has fired.** -/
theorem pacing_never_stalls (evs : List PacerEvent) (hwf : ∀ ev ∈ evs, ev.Wf) {total rate now : ℕ}
    (hcall : (PacerEvent.canWrite total rate now).Wf) {p : Pacer}
    (hrefused : (run {} evs).canWrite total rate now = (false, p)) :
    p.timer.isSet = true ∧
      ((run {} evs).timer.isSet = false → ∀ waiting : List PacerEvent,
        (∀ ev ∈ waiting, ev.Waits p.timer.expireTime) →
        ∀ rate' fire clock, p.timer.expireTime ≤ fire →
          ((p.run waiting).timerExpire rate' fire clock).timer.isSet = false ∧
          ∀ n ≤ total, ∀ rate'' now',
            (((p.run waiting).timerExpire rate' fire clock).canWrite n rate'' now').1 = true) := by
  have hinv : (run {} evs).TimerInv := timerInv_run evs (fun _ => rfl) hwf
  generalize run {} evs = p₀ at *
  cases hset : p₀.timer.isSet with
  | true =>
      rw [canWrite_waits hset] at hrefused
      obtain rfl := (Prod.mk.inj hrefused).2
      exact ⟨hset, fun hunset => absurd hunset (by simp)⟩
  | false =>
      have hbudget : p₀.bytesBudget < total := by
        by_contra hle
        rw [canWrite_allowed hset (not_lt.1 hle)] at hrefused
        cases hrefused
      obtain ⟨delay, heq⟩ := canWrite_refused hinv hcall hset hbudget
      rw [heq] at hrefused
      obtain rfl := (Prod.mk.inj hrefused).2
      refine ⟨rfl, fun _ waiting hwaits rate' fire clock hfire => ?_⟩
      rw [run_waits waiting rfl hwaits]
      obtain ⟨hunset, hbytes⟩ := timerExpire_fires (p := { p₀ with
        pendingBudget := total - p₀.bytesBudget, timer := ⟨true, now + delay⟩ }) rfl hfire rate' clock
      have htotal : u32Add p₀.bytesBudget (total - p₀.bytesBudget) = total := by
        rw [u32Add, Nat.add_sub_cancel' hbudget.le, Nat.mod_eq_of_lt hcall.1]
      refine ⟨hunset, fun n hn rate'' now' => ?_⟩
      rw [canWrite_allowed hunset ((hn.trans htotal.ge).trans hbytes)]

/-- Ten packets are sent, the next one is refused, and allowed after the timer. -/
theorem pacing_never_stalls_ten :
    (run {} [.packetSent 14520 1000000 1000]).canWrite 1452 1000000 1000 =
      (false, { bytesBudget := 0, pendingBudget := 1452, lastSentTime := 1000, timer := ⟨true, 2452⟩ }) ∧
    ((timerExpire { bytesBudget := 0, pendingBudget := 1452, lastSentTime := 1000, timer := ⟨true, 2452⟩ }
      1000000 2452 2452).canWrite 1452 1000000 2452).1 = true := by
  have hwf : ∀ ev ∈ [PacerEvent.packetSent 14520 1000000 1000], ev.Wf :=
    List.forall_mem_singleton.2 ⟨by decide, by decide⟩
  have hcall : (PacerEvent.canWrite 1452 1000000 1000).Wf := ⟨by decide, by decide, by decide⟩
  have hrefused : (run {} [.packetSent 14520 1000000 1000]).canWrite 1452 1000000 1000 =
      (false, { bytesBudget := 0, pendingBudget := 1452, lastSentTime := 1000, timer := ⟨true, 2452⟩ }) := by
    decide
  have hfires := (pacing_never_stalls _ hwf hcall hrefused).2 (by decide) [] (fun _ hev => by cases hev)
    1000000 2452 2452 le_rfl
  exact ⟨hrefused, hfires.2 1452 le_rfl 1000000 2452⟩

end Pacer

end Rquic

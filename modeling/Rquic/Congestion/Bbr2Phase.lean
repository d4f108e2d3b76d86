import Mathlib.Data.Fintype.Basic
import Rquic.Congestion.Bbr2

set_option autoImplicit false

/-!
# The phases of BBRv2

* `Bbr2Place`: the mode, and in `BBR2_PROBE_BW` the phase of the cycle; `Bbr2Place.next`: where one operation
  can lead; `Bbr2Place.ackPhases`: what the ACKs can mean there.
* `Bbr2Control.Sound`: what every part of an operation keeps; `Bbr2Control.Started`: what holds between
  operations.
* `Bbr2.checkDrain_part`, `Bbr2.updateCyclePhase_part`, `Bbr2.updateMinRtt_part`: the parts that move.
* **`bbr2_phases`**: the phases over every run.
* **`bbr2_window`**: the bounds of the window over every run.
-/

namespace Rquic

/-! ## Places -/

/-- The mode, and in `BBR2_PROBE_BW` the phase. -/
inductive Bbr2Place where
  | startup | drain | down | cruise | refill | up | probeRtt
  deriving DecidableEq, Repr

namespace Bbr2Place

instance : Fintype Bbr2Place where
  elems := {startup, drain, down, cruise, refill, up, probeRtt}
  complete p := by cases p <;> decide

/-- What the ACKs can be of. -/
def ackPhases : Bbr2Place → List Bbr2AckPhase
  | refill => [.refilling]
  | up => [.probeStarting, .probeFeedback]
  | _ => [.init, .probeStopping]

/-- Where `rqc_bbr2_check_drain` leads. -/
def drainNext : Bbr2Place → List Bbr2Place
  | startup => [startup, drain, down]
  | drain => [drain, down]
  | p => [p]

/-- Where one phase leads. -/
def phaseNext : Bbr2Place → List Bbr2Place
  | down => [down, cruise, refill]
  | cruise => [cruise, refill]
  | refill => [refill, up]
  | up => [up, down]
  | p => [p]

/-- Where `rqc_bbr2_update_cycle_phase` leads: a probe that is too high ends before the phases are looked at. -/
def cycleNext : Bbr2Place → List Bbr2Place
  | up => [up, down, cruise, refill]
  | p => p.phaseNext

/-- Where `rqc_bbr2_update_min_rtt` leads. -/
def rttNext : Bbr2Place → List Bbr2Place
  | probeRtt => [probeRtt, cruise, startup]
  | p => [p, probeRtt]

/-- Where an operation leads. -/
def next : Bbr2Place → List Bbr2Place
  | startup => [startup, drain, down, cruise, refill, probeRtt]
  | drain => [drain, down, cruise, refill, probeRtt]
  | down => [down, cruise, refill, probeRtt]
  | cruise => [cruise, refill, probeRtt]
  | refill => [refill, up, probeRtt]
  | up => [up, down, cruise, refill, probeRtt]
  | probeRtt => [probeRtt, cruise, startup]

theorem feedback_mem {p : Bbr2Place} (h : .probeStarting ∈ p.ackPhases) : .probeFeedback ∈ p.ackPhases := by
  cases p <;> revert h <;> decide

theorem init_mem {p : Bbr2Place} (h : .probeStopping ∈ p.ackPhases) : .init ∈ p.ackPhases := by
  cases p <;> revert h <;> decide

theorem mem_next_self (p : Bbr2Place) : p ∈ p.next := by
  cases p <;> decide

theorem mem_phaseNext_self (p : Bbr2Place) : p ∈ p.phaseNext := by
  cases p <;> decide

theorem mem_next_of_rttNext {p q : Bbr2Place} (h : q ∈ p.rttNext) : q ∈ p.next := by
  revert p q
  decide

theorem mem_next {p q r t : Bbr2Place} (hq : q ∈ p.drainNext) (hr : r ∈ q.cycleNext) (ht : t ∈ r.rttNext) :
    t ∈ p.next := by
  revert p q r t
  decide

end Bbr2Place

namespace Bbr2Control

/-- Where the controller is. -/
def place (b : Bbr2Control) : Bbr2Place :=
  match b.mode with
  | .startup => .startup
  | .drain => .drain
  | .probeRtt => .probeRtt
  | .probeBw =>
    match b.cycleIdx with
    | .up => .up
    | .down => .down
    | .cruise => .cruise
    | .refill => .refill

/-- Beyond `BBR2_STARTUP` the pipe was full; the ACKs fit the phase; while the bandwidth is probed there is no
lower bound; what shifts and divides is in its range; and the window has a floor. -/
structure Sound (b : Bbr2Control) : Prop where
  filled : b.mode = .drain ∨ b.mode = .probeBw → b.fullBandwidthReached = true
  feedback : b.ackPhase ∈ b.place.ackPhases
  lower : b.isProbingBandwidth = true → b.bwLo = bbr2UnsignedInf ∧ b.inflightLo = bbr2UnsignedInf
  shift : b.bwProbeUpRounds ≤ 30
  divisor : 0 < b.bwProbeUpCnt
  floor : bbr2MinCwnd ≤ b.congestionWindow

/-- `BBR2_STARTUP` is left when the pipe is full. -/
def Started (b : Bbr2Control) : Prop := b.mode = .startup → b.fullBandwidthReached = false

variable {b : Bbr2Control}

theorem place_probeBw (h : b.mode = .probeBw) :
    b.place = match b.cycleIdx with | .up => .up | .down => .down | .cruise => .cruise | .refill => .refill := by
  unfold place
  rw [h]

theorem place_eq_startup (h : b.mode = .startup) : b.place = .startup := by
  unfold place
  rw [h]

theorem place_eq_drain (h : b.mode = .drain) : b.place = .drain := by
  unfold place
  rw [h]

theorem place_eq_probeRtt (h : b.mode = .probeRtt) : b.place = .probeRtt := by
  unfold place
  rw [h]

theorem mode_of_place_startup (h : b.place = .startup) : b.mode = .startup := by
  unfold place at h
  split at h
  · assumption
  · cases h
  · cases h
  · split at h <;> cases h

end Bbr2Control

namespace Bbr2

open Bbr2Control

variable {b x : Bbr2} {a : Bbr2Ack} {s : Sampler} {f : Bbr2Floats}

/-! ## What moves nothing -/

theorem control_ite {c : Prop} [Decidable c] {x y : Bbr2} {w : Bbr2Control} (hx : x.toBbr2Control = w)
    (hy : y.toBbr2Control = w) : (if c then x else y).toBbr2Control = w := by
  split
  · exact hx
  · exact hy

variable (b s f) in
theorem control_updateRoundStart : (b.updateRoundStart s).toBbr2Control = b.toBbr2Control :=
  control_ite rfl (control_ite rfl rfl)

variable (b) in
theorem control_countRound : b.countRound.toBbr2Control = b.toBbr2Control := control_ite rfl rfl

variable (b) in
theorem control_rotateExtraAck : b.rotateExtraAck.toBbr2Control = b.toBbr2Control := control_ite rfl rfl

variable (b s) in
theorem control_measureExtraAck : (b.measureExtraAck s).toBbr2Control = b.toBbr2Control := by
  have hrestart : ∀ c : Prop, [Decidable c] →
      (if c then { b with epochAck := 0, extraAckStamp := s.now } else b).toBbr2Control = b.toBbr2Control :=
    fun c => control_ite rfl rfl
  exact control_ite (hrestart _) (hrestart _)

variable (b s) in
theorem control_updateAckAggregation : (b.updateAckAggregation s).toBbr2Control = b.toBbr2Control :=
  control_ite rfl ((control_measureExtraAck _ s).trans (control_ite (control_rotateExtraAck b) rfl))

variable (b s) in
theorem control_takeRtt (expired : Bool) : (b.takeRtt s expired).toBbr2Control = b.toBbr2Control := by
  have hprobe : (if s.rtt ≤ b.probeRttMinUs ∨ expired = true then
      { b with probeRttMinUs := s.rtt, probeRttMinUsStamp := s.now } else b).toBbr2Control =
      b.toBbr2Control := control_ite rfl rfl
  exact control_ite hprobe hprobe

variable (b f) in
theorem control_setPacingRateHelper (gain : Rat) :
    (b.setPacingRateHelper gain f).toBbr2Control = b.toBbr2Control := control_ite rfl rfl

variable (b s f) in
theorem control_setPacingRate : (b.setPacingRate s f).toBbr2Control = b.toBbr2Control := by
  have hinit : (if b.hasSrtt = false ∧ s.srtt ≠ 0 then b.initPacingRate s.srtt f else b).toBbr2Control =
      b.toBbr2Control := control_ite rfl rfl
  have hrate : ∀ gain, ((if b.hasSrtt = false ∧ s.srtt ≠ 0 then b.initPacingRate s.srtt f
      else b).setPacingRateHelper gain f).toBbr2Control = b.toBbr2Control :=
    fun gain => (control_setPacingRateHelper _ f gain).trans hinit
  exact control_ite (hrate _) (hrate _)

variable (b) in
theorem control_updatePacingGainForLossRecovery :
    b.updatePacingGainForLossRecovery.toBbr2Control = b.toBbr2Control := by
  unfold updatePacingGainForLossRecovery
  split <;> rfl

end Bbr2

/-! ## Parts of an operation -/

namespace Bbr2Control

/-- `x` is where `b` is, and sound. -/
structure Stays (b x : Bbr2Control) : Prop where
  sound : x.Sound
  place : x.place = b.place
  full : x.fullBandwidthReached = b.fullBandwidthReached

/-- `x` is where `b` is, and sound; the pipe may have become full. -/
structure Fills (b x : Bbr2Control) : Prop where
  sound : x.Sound
  place : x.place = b.place
  full : b.fullBandwidthReached = true → x.fullBandwidthReached = true

/-- `x` is where `next` leads, sound, and has left `BBR2_STARTUP` if the pipe is full. -/
structure Leads (next : Bbr2Place → List Bbr2Place) (b x : Bbr2Control) : Prop where
  sound : x.Sound
  place : x.place ∈ next b.place
  full : b.fullBandwidthReached = true → x.fullBandwidthReached = true
  started : x.Started

variable {b x y : Bbr2Control}

theorem Stays.refl (h : b.Sound) : Stays b b := ⟨h, rfl, rfl⟩

theorem Stays.congr (h : Stays b x) (heq : y = x) : Stays b y := by
  rw [heq]
  exact h

theorem Stays.trans (h : Stays b x) (h' : Stays x y) : Stays b y :=
  ⟨h'.sound, h'.place.trans h.place, h'.full.trans h.full⟩

theorem Stays.ite {c : Prop} [Decidable c] {x y : Bbr2} (hx : Stays b x.toBbr2Control)
    (hy : Stays b y.toBbr2Control) : Stays b (if c then x else y).toBbr2Control := by
  split
  · exact hx
  · exact hy

theorem Stays.fills (h : Stays b x) : Fills b x := ⟨h.sound, h.place, fun hfull => h.full.trans hfull⟩

theorem Fills.trans (h : Fills b x) (h' : Fills x y) : Fills b y :=
  ⟨h'.sound, h'.place.trans h.place, fun hfull => h'.full (h.full hfull)⟩

theorem Fills.ite {c : Prop} [Decidable c] {x y : Bbr2} (hx : Fills b x.toBbr2Control)
    (hy : Fills b y.toBbr2Control) : Fills b (if c then x else y).toBbr2Control := by
  split
  · exact hx
  · exact hy

theorem started_iff : b.Started ↔ (b.place = .startup → b.fullBandwidthReached = false) := by
  refine ⟨fun h hplace => h (mode_of_place_startup hplace), fun h hmode => h (place_eq_startup hmode)⟩

theorem Stays.started (h : Stays b x) (hs : b.Started) : x.Started := by
  rw [started_iff] at hs ⊢
  rw [h.place, h.full]
  exact hs

theorem started_of_place (h : b.place ≠ .startup) : b.Started :=
  fun hmode => absurd (place_eq_startup hmode) h

theorem Stays.leads {next : Bbr2Place → List Bbr2Place} (h : Stays b x) (h' : Leads next x y) :
    Leads next b y :=
  ⟨h'.sound, h.place ▸ h'.place, fun hfull => h'.full (h.full.trans hfull), h'.started⟩

theorem Leads.stays {next : Bbr2Place → List Bbr2Place} (h : Leads next b x) (h' : Stays x y) :
    Leads next b y :=
  ⟨h'.sound, h'.place ▸ h.place, fun hfull => h'.full.trans (h.full hfull), h'.started h.started⟩

theorem Sound.window (h : b.Sound) {cwnd : ℕ} (hcwnd : bbr2MinCwnd ≤ cwnd) (prior : ℕ) :
    Stays b { b with congestionWindow := cwnd, priorCwnd := prior } :=
  ⟨{ h with floor := hcwnd }, rfl, rfl⟩

theorem Sound.acks (h : b.Sound) {acks : Bbr2AckPhase} (hacks : acks ∈ b.place.ackPhases) :
    Stays b { b with ackPhase := acks } :=
  ⟨{ h with feedback := hacks }, rfl, rfl⟩

theorem place_of_stopping (hmode : b.mode = .probeBw) (h : .probeStopping ∈ b.place.ackPhases) :
    b.place = .down ∨ b.place = .cruise := by
  rw [place_probeBw hmode] at h ⊢
  cases hcycle : b.cycleIdx with
  | up => rw [hcycle] at h; revert h; decide
  | down => exact .inl rfl
  | cruise => exact .inr rfl
  | refill => rw [hcycle] at h; revert h; decide

end Bbr2Control

namespace Bbr2

open Bbr2Control

variable {b : Bbr2} {a : Bbr2Ack} {s : Sampler} {f : Bbr2Floats}

/-! ## The start of an ACK -/

theorem adaptLowerBounds_stays (h : b.Sound) : Stays b.toBbr2Control (b.adaptLowerBounds f).toBbr2Control := by
  unfold adaptLowerBounds
  split
  · exact .refl h
  · rename_i hnot
    have hprobing : b.isProbingBandwidth ≠ true := fun hprobing => hnot (.inl hprobing)
    exact ⟨{ h with lower := fun hprobing' => absurd hprobing' hprobing }, rfl, rfl⟩

theorem updateCongestionSignals_stays (h : b.Sound) (sampleBw : ℕ) :
    Stays b.toBbr2Control (b.updateCongestionSignals s f sampleBw).toBbr2Control := by
  unfold updateCongestionSignals
  extract_lets b₁ b₂ b₃ b₄
  have hcontrol : b₂.toBbr2Control = b.toBbr2Control := control_ite rfl rfl
  have hstays : Stays b.toBbr2Control b₂.toBbr2Control := (Stays.refl h).congr hcontrol
  refine Stays.ite (.refl h) (Stays.ite hstays ?_)
  exact hstays.trans (adaptLowerBounds_stays (b := b₄) hstays.sound)

theorem checkLossTooHighInStartup_fills (h : b.Sound) :
    Fills b.toBbr2Control (b.checkLossTooHighInStartup s f).toBbr2Control := by
  unfold checkLossTooHighInStartup
  extract_lets b₁
  have hcontrol : b₁.toBbr2Control = b.toBbr2Control := control_ite rfl rfl
  have hstays : Stays b.toBbr2Control b₁.toBbr2Control := (Stays.refl h).congr hcontrol
  refine Fills.ite (Stays.refl h).fills (Fills.ite ?_ (Fills.ite hstays.fills hstays.fills))
  exact hstays.fills.trans ⟨{ hstays.sound with filled := fun _ => rfl }, rfl, fun _ => rfl⟩

theorem checkFullBwReached_fills (h : b.Sound) :
    Fills b.toBbr2Control (b.checkFullBwReached s f).toBbr2Control := by
  unfold checkFullBwReached
  split
  · exact (Stays.refl h).fills
  · rename_i hnot
    have hfull : b.fullBandwidthReached = false := by
      cases hfull : b.fullBandwidthReached with
      | false => rfl
      | true => exact absurd (by rw [hfull, Bool.or_true, Bool.true_or]) hnot
    split
    · exact (Stays.refl h).fills
    · refine ⟨{ h with filled := fun hmode => ?_ }, rfl, fun hreached => ?_⟩
      · exact absurd (h.filled hmode) (by rw [hfull]; exact Bool.false_ne_true)
      · exact absurd hreached (by rw [hfull]; exact Bool.false_ne_true)

/-! ## Entries -/

theorem enterProbeDown_sound (h : b.Sound) (hfull : b.fullBandwidthReached = true) (random : ℕ × ℕ) :
    (b.enterProbeDown s random).Sound where
  filled _ := hfull
  feedback := List.mem_cons_of_mem _ (List.mem_singleton_self _)
  lower hprobing := Bool.noConfusion hprobing
  shift := h.shift
  divisor := Nat.zero_lt_of_lt (by decide : 0 < bbr2UnsignedInf)
  floor := h.floor

theorem enterProbeCruise_sound (h : b.Sound) (hmode : b.mode = .probeBw)
    (hphase : b.ackPhase ∈ Bbr2Place.ackPhases .cruise) : b.enterProbeCruise.Sound where
  filled _ := h.filled (.inr hmode)
  feedback := by
    have hplace : b.enterProbeCruise.place = .cruise := place_probeBw hmode
    rw [hplace]
    exact hphase
  lower hprobing := by
    unfold isProbingBandwidth enterProbeCruise at hprobing
    rw [hmode] at hprobing
    cases hprobing
  shift := h.shift
  divisor := h.divisor
  floor := h.floor

theorem enterProbeRefill_sound (h : b.Sound) (hmode : b.mode = .probeBw) :
    (b.enterProbeRefill s 0).Sound where
  filled _ := h.filled (.inr hmode)
  feedback := by
    have hplace : (b.enterProbeRefill s 0).place = .refill := place_probeBw hmode
    rw [hplace]
    exact List.mem_singleton_self _
  lower _ := ⟨rfl, rfl⟩
  shift := Nat.zero_le 30
  divisor := h.divisor
  floor := h.floor

theorem raiseInflightHiSlope_sound (h : b.Sound) : b.raiseInflightHiSlope.Sound :=
  { h with shift := min_le_right _ 30, divisor := lt_max_of_lt_right Nat.one_pos }

theorem enterProbeUp_sound (h : b.Sound) (hplace : b.place = .refill) (hmode : b.mode = .probeBw) :
    (b.enterProbeUp s).Sound where
  filled _ := h.filled (.inr hmode)
  feedback := by
    have hup : (b.enterProbeUp s).place = .up := place_probeBw hmode
    rw [hup]
    exact List.mem_cons_self
  lower _ := by
    refine h.lower ?_
    have hcycle : b.cycleIdx = .refill := by
      rw [place_probeBw hmode] at hplace
      cases hidx : b.cycleIdx <;> rw [hidx] at hplace <;> first | rfl | cases hplace
    unfold isProbingBandwidth
    rw [hmode, hcycle]
    rfl
  shift := min_le_right _ 30
  divisor := lt_max_of_lt_right Nat.one_pos
  floor := h.floor

/-! ## The end of `BBR2_STARTUP` -/

theorem enterDrain_sound (h : b.Sound) (hmode : b.mode = .startup) (hfull : b.fullBandwidthReached = true) :
    b.enterDrain.Sound where
  filled _ := hfull
  feedback := by
    have hfeedback := h.feedback
    rw [place_eq_startup hmode] at hfeedback
    exact hfeedback
  lower hprobing := Bool.noConfusion hprobing
  shift := h.shift
  divisor := h.divisor
  floor := h.floor

theorem drained_leads (h : b.Sound) (hs : b.Started) {next : Bbr2Place → List Bbr2Place}
    {b₀ : Bbr2Control} (hfull : b₀.fullBandwidthReached = true → b.fullBandwidthReached = true)
    (hplace : b.place ∈ next b₀.place) (hdown : b.place = .drain → Bbr2Place.down ∈ next b₀.place) :
    Leads next b₀ (if b.mode = .drain ∧ a.bytesInflight ≤ b.bdp a.floats b.maxBw then
      b.enterProbeDown a.toSampler a.drained else b).toBbr2Control := by
  split
  · rename_i hdrain
    have hreached : b.fullBandwidthReached = true := h.filled (.inl hdrain.1)
    exact {
      sound := enterProbeDown_sound h hreached _
      place := hdown (place_eq_drain hdrain.1)
      full := fun _ => hreached
      started := fun hmode => Bbr2Mode.noConfusion hmode }
  · exact ⟨h, hplace, hfull, hs⟩

theorem checkDrain_leads (h : b.Sound) :
    Leads Bbr2Place.drainNext b.toBbr2Control (b.checkDrain a).toBbr2Control := by
  unfold checkDrain
  by_cases hstart : b.mode = .startup ∧ b.fullBandwidthReached = true
  · rw [if_pos hstart]
    have hplace := place_eq_startup hstart.1
    refine drained_leads (enterDrain_sound h hstart.1 hstart.2) (fun hmode => Bbr2Mode.noConfusion hmode)
      (fun hfull => hfull) ?_ fun _ => ?_
    · rw [hplace]
      exact List.mem_cons_of_mem _ List.mem_cons_self
    · rw [hplace]
      exact List.mem_cons_of_mem _ (List.mem_cons_of_mem _ List.mem_cons_self)
  · rw [if_neg hstart]
    refine drained_leads h (fun hmode => ?_) (fun hfull => hfull) ?_ fun hplace => ?_
    · exact Bool.eq_false_iff.2 fun hfull => hstart ⟨hmode, hfull⟩
    · cases b.place <;> decide
    · rw [hplace]
      decide

/-! ## The cycle -/

/-- The start of a round can only end the samples of a probe where the pipe is drained or used. -/
theorem adaptAckPhase_spec (h : b.Sound) : (∃ x, b.adaptAckPhase s = (false, x) ∧
      Stays b.toBbr2Control x.toBbr2Control) ∨ ∃ x, b.adaptAckPhase s = (true, x) ∧ x.Sound ∧
        x.fullBandwidthReached = b.fullBandwidthReached ∧ x.place = .refill ∧
        (b.place = .down ∨ b.place = .cruise) := by
  unfold adaptAckPhase
  extract_lets b₁ b₂ b₃
  have h₁ : Stays b.toBbr2Control b₁.toBbr2Control := by
    change Stays b.toBbr2Control (if b.ackPhase = .probeStarting ∧ b.roundStart = true then
      { b with ackPhase := .probeFeedback } else b).toBbr2Control
    split
    · rename_i hstarting
      exact h.acks (Bbr2Place.feedback_mem (hstarting.1 ▸ h.feedback))
    · exact .refl h
  by_cases hstopping : b₁.ackPhase = .probeStopping ∧ b₁.roundStart = true
  · have hmem : .probeStopping ∈ b₁.place.ackPhases := hstopping.1 ▸ h₁.sound.feedback
    have h₂ : Stays b.toBbr2Control b₂.toBbr2Control :=
      h₁.trans (h₁.sound.acks (Bbr2Place.init_mem hmem))
    have h₃ : Stays b.toBbr2Control b₃.toBbr2Control := h₂.congr (control_ite (control_ite rfl rfl) rfl)
    rw [if_pos hstopping]
    by_cases hagain : b₃.mode = .probeBw ∧ b₃.stoppedRiskyProbe = true ∧ b₃.prevProbeTooHigh = false
    · rw [if_pos hagain]
      refine .inr ⟨_, rfl, enterProbeRefill_sound h₃.sound hagain.1, h₃.full, place_probeBw hagain.1, ?_⟩
      rw [← h₃.place]
      refine place_of_stopping hagain.1 ?_
      rw [h₃.place, ← h₁.place]
      exact hmem
    · rw [if_neg hagain]
      exact .inl ⟨_, rfl, h₃⟩
  · rw [if_neg hstopping]
    exact .inl ⟨_, rfl, h₁⟩

theorem probeInflightHiUpward_stays (h : b.Sound) :
    Stays b.toBbr2Control (b.probeInflightHiUpward s).toBbr2Control := by
  unfold probeInflightHiUpward
  extract_lets notCwndLimited acks delta b₁
  have hcontrol : b₁.toBbr2Control = b.toBbr2Control := control_ite rfl rfl
  have h₁ : Stays b.toBbr2Control b₁.toBbr2Control := (Stays.refl h).congr hcontrol
  refine Stays.ite (.refl h) (Stays.ite ?_ h₁)
  exact h₁.trans ⟨raiseInflightHiSlope_sound h₁.sound, rfl, rfl⟩

theorem adaptInflightHi_spec (h : b.Sound) : (b.adaptInflightHi a).Sound ∧
      (b.adaptInflightHi a).fullBandwidthReached = b.fullBandwidthReached ∧
      ((b.adaptInflightHi a).place = b.place ∨ b.place = .up ∧ (b.adaptInflightHi a).place = .down) := by
  have hstays : ∀ {x : Bbr2}, Stays b.toBbr2Control x.toBbr2Control → x.Sound ∧
      x.fullBandwidthReached = b.fullBandwidthReached ∧
      (x.place = b.place ∨ b.place = .up ∧ x.place = .down) := fun h => ⟨h.sound, h.full, .inl h.place⟩
  unfold adaptInflightHi
  split
  · split
    · unfold handleInflightTooHigh
      extract_lets b₁ b₂
      have h₂ : Stays b.toBbr2Control b₂.toBbr2Control := (Stays.refl h).congr (control_ite rfl rfl)
      split
      · rename_i hup
        have hplace : b₂.place = .up := by
          rw [place_probeBw hup.1, hup.2]
        refine ⟨enterProbeDown_sound h₂.sound (h₂.sound.filled (.inr hup.1)) _, h₂.full, .inr ⟨?_, rfl⟩⟩
        rw [← h₂.place, hplace]
      · exact hstays h₂
    · exact hstays (.refl h)
  · split
    · exact hstays (.refl h)
    · extract_lets b₁
      have h₁ : Stays b.toBbr2Control b₁.toBbr2Control := (Stays.refl h).congr (control_ite rfl rfl)
      exact hstays (Stays.ite (h₁.trans (probeInflightHiUpward_stays h₁.sound)) h₁)

theorem updatePhase_spec (h : b.Sound) (hmode : b.mode = .probeBw) : (b.updatePhase a).Sound ∧
    (b.updatePhase a).fullBandwidthReached = b.fullBandwidthReached ∧
    (b.updatePhase a).place ∈ b.place.phaseNext := by
  have hrefill : .refill ∈ b.place.phaseNext → (b.enterProbeRefill a.toSampler 0).Sound ∧
      (b.enterProbeRefill a.toSampler 0).fullBandwidthReached = b.fullBandwidthReached ∧
      (b.enterProbeRefill a.toSampler 0).place ∈ b.place.phaseNext := by
    intro hmem
    refine ⟨enterProbeRefill_sound h hmode, rfl, ?_⟩
    rw [show (b.enterProbeRefill a.toSampler 0).place = .refill from place_probeBw hmode]
    exact hmem
  have hstay : b.Sound ∧ b.fullBandwidthReached = b.fullBandwidthReached ∧ b.place ∈ b.place.phaseNext :=
    ⟨h, rfl, Bbr2Place.mem_phaseNext_self _⟩
  unfold updatePhase
  cases hcycle : b.cycleIdx with
  | cruise =>
      have hplace : b.place = .cruise := by rw [place_probeBw hmode, hcycle]
      dsimp only
      split
      · exact hrefill (by rw [hplace]; decide)
      · exact hstay
  | refill =>
      have hplace : b.place = .refill := by rw [place_probeBw hmode, hcycle]
      dsimp only
      split
      · refine ⟨enterProbeUp_sound (b := { b with bwProbeSamples := true }) ⟨h.1, h.2, h.3, h.4, h.5, h.6⟩
          hplace hmode, rfl, ?_⟩
        rw [show (({ b with bwProbeSamples := true } : Bbr2).enterProbeUp a.toSampler).place = .up from
          place_probeBw hmode, hplace]
        decide
      · exact hstay
  | up =>
      have hplace : b.place = .up := by rw [place_probeBw hmode, hcycle]
      change (b.updateProbeUp a).Sound ∧ _
      unfold updateProbeUp
      extract_lets isRisky isQueuing
      split
      · have hsound := enterProbeDown_sound (s := a.toSampler)
          (b := { b with
            stoppedRiskyProbe := b.stoppedRiskyProbe || isRisky
            prevProbeTooHigh := false }) ⟨h.1, h.2, h.3, h.4, h.5, h.6⟩ (h.filled (.inr hmode)) a.probed
        refine ⟨hsound, rfl, ?_⟩
        rw [hplace]
        exact List.mem_cons_of_mem _ (List.mem_singleton_self _)
      · exact hstay
  | down =>
      have hplace : b.place = .down := by rw [place_probeBw hmode, hcycle]
      dsimp only
      split
      · exact hrefill (by rw [hplace]; decide)
      · split
        · have hfeedback := h.feedback
          rw [hplace] at hfeedback
          refine ⟨enterProbeCruise_sound h hmode hfeedback, rfl, ?_⟩
          rw [show b.enterProbeCruise.place = .cruise from place_probeBw hmode, hplace]
          decide
        · exact hstay

theorem updateCyclePhase_leads (h : b.Sound) (hs : b.Started) :
    Leads Bbr2Place.cycleNext b.toBbr2Control (b.updateCyclePhase a).toBbr2Control := by
  unfold updateCyclePhase
  by_cases hfull : b.fullBandwidthReached = false
  · rw [if_pos hfull]
    exact ⟨h, by cases b.place <;> decide, fun h => h, hs⟩
  · rw [if_neg hfull]
    have hfull : b.fullBandwidthReached = true := Bool.eq_true_of_not_eq_false hfull
    have hne : b.place ≠ .startup := fun hplace =>
      absurd (started_iff.1 hs hplace) (by rw [hfull]; exact Bool.noConfusion)
    have hleads : ∀ {x : Bbr2}, x.Sound → x.fullBandwidthReached = b.fullBandwidthReached →
        x.place ∈ b.place.cycleNext → Leads Bbr2Place.cycleNext b.toBbr2Control x.toBbr2Control := by
      intro x hsound hkept hplace
      refine ⟨hsound, hplace, fun h => hkept.trans h, started_of_place fun hstartup => ?_⟩
      rw [hstartup] at hplace
      revert hne hplace
      cases b.place <;> decide
    unfold adaptUpperBounds
    rcases adaptAckPhase_spec (s := a.toSampler) h with ⟨x, heq, hx⟩ | ⟨x, heq, hx, hkept, hrefill, hplace⟩
    · rw [heq]
      dsimp only
      obtain ⟨hsound, hkept, hplace⟩ := adaptInflightHi_spec (a := a) hx.sound
      split
      · rename_i hmode
        obtain ⟨hsound', hkept', hplace'⟩ := updatePhase_spec (a := a) hsound hmode
        refine hleads hsound' (hkept'.trans (hkept.trans hx.full)) ?_
        rw [hx.place] at hplace
        rcases hplace with hplace | ⟨hup, hdown⟩
        · rw [hplace] at hplace'
          revert hplace'
          cases b.place <;> cases ((x.adaptInflightHi a).updatePhase a).place <;> decide
        · rw [hdown] at hplace'
          rw [hup]
          revert hplace'
          cases ((x.adaptInflightHi a).updatePhase a).place <;> decide
      · refine hleads hsound (hkept.trans hx.full) ?_
        rw [hx.place] at hplace
        rcases hplace with hplace | ⟨hup, hdown⟩
        · rw [hplace]
          cases b.place <;> decide
        · rw [hup, hdown]
          decide
    · rw [heq]
      refine hleads hx hkept ?_
      rw [hrefill]
      rcases hplace with hplace | hplace <;> rw [hplace] <;> decide

/-! ## The minimum of the RTT -/

theorem saveCwnd_stays (h : b.Sound) : Stays b.toBbr2Control b.saveCwnd.toBbr2Control :=
  Stays.ite (h.window h.floor _) (h.window h.floor _)

theorem restoreCwnd_stays (h : b.Sound) : Stays b.toBbr2Control b.restoreCwnd.toBbr2Control :=
  h.window (h.floor.trans (le_max_left _ _)) _

/-- **The way out of `BBR2_PROBE_RTT`.** -/
theorem exitProbeRtt_leads (h : b.Sound) (hplace : b.place = .probeRtt) (random : ℕ × ℕ) :
    Leads Bbr2Place.rttNext b.toBbr2Control (b.exitProbeRtt s random).toBbr2Control := by
  have hreset : b.resetLowerBounds.Sound := { h with lower := fun _ => ⟨rfl, rfl⟩ }
  unfold exitProbeRtt
  extract_lets b₁
  split
  · rename_i hfull
    have hsound : ((b₁.enterProbeDown s random).enterProbeCruise).Sound :=
      enterProbeCruise_sound (enterProbeDown_sound hreset hfull random) rfl
        (List.mem_cons_of_mem _ (List.mem_singleton_self _))
    refine ⟨hsound, ?_, fun _ => hfull, fun hmode => Bbr2Mode.noConfusion hmode⟩
    rw [hplace]
    exact List.mem_cons_of_mem _ List.mem_cons_self
  · rename_i hnot
    have hfull : b₁.fullBandwidthReached = false := Bool.eq_false_iff.2 hnot
    refine ⟨{ hreset with
      filled := fun hmode => hmode.elim (fun hmode => Bbr2Mode.noConfusion hmode)
        fun hmode => Bbr2Mode.noConfusion hmode
      feedback := ?_
      lower := fun _ => ⟨rfl, rfl⟩ }, ?_, fun hreached => ?_, fun _ => hfull⟩
    · have hfeedback := h.feedback
      rw [hplace] at hfeedback
      exact hfeedback
    · rw [hplace]
      exact List.mem_cons_of_mem _ (List.mem_cons_of_mem _ List.mem_cons_self)
    · exact absurd hreached (by rw [show b.fullBandwidthReached = false from hfull]; exact Bool.noConfusion)

theorem checkProbeRttDone_leads (h : b.Sound) (hs : b.Started) (hplace : b.place = .probeRtt)
    (random : ℕ × ℕ) :
    Leads Bbr2Place.rttNext b.toBbr2Control (b.checkProbeRttDone s random).toBbr2Control := by
  unfold checkProbeRttDone
  split
  · refine ⟨h, ?_, fun h => h, hs⟩
    rw [hplace]
    decide
  · have hrestore : Stays b.toBbr2Control
        ({ b with probeRttMinUsStamp := s.now } : Bbr2).restoreCwnd.toBbr2Control :=
      restoreCwnd_stays (b := { b with probeRttMinUsStamp := s.now }) h
    exact hrestore.leads (exitProbeRtt_leads hrestore.sound (hrestore.place.trans hplace) random)

theorem runProbeRtt_leads (h : b.Sound) (hs : b.Started) (hplace : b.place = .probeRtt) :
    Leads Bbr2Place.rttNext b.toBbr2Control (b.runProbeRtt a).toBbr2Control := by
  have hstay : Leads Bbr2Place.rttNext b.toBbr2Control b.toBbr2Control := by
    refine ⟨h, ?_, fun h => h, hs⟩
    rw [hplace]
    decide
  unfold runProbeRtt
  extract_lets index b₁ b₂
  have hcontrol : b₂.toBbr2Control = b.toBbr2Control := control_ite rfl rfl
  have h₂ : Stays b.toBbr2Control b₂.toBbr2Control := (Stays.refl h).congr hcontrol
  split
  · exact hstay
  · split
    · split
      · exact h₂.leads (checkProbeRttDone_leads h₂.sound (h₂.started hs) (h₂.place.trans hplace) _)
      · exact hstay.stays h₂
    · exact hstay

theorem runProbeRtt_stays (h : b.Sound) (hstamp : b.probeRttRoundDoneStamp = 0) :
    Stays b.toBbr2Control (b.runProbeRtt a).toBbr2Control := by
  unfold runProbeRtt
  extract_lets index b₁ b₂
  refine Stays.ite (.refl h) ?_
  rw [if_neg (fun hne : b₁.probeRttRoundDoneStamp ≠ 0 => hne hstamp)]
  exact .refl h

theorem saveCwnd_of_probeRtt (h : b.mode = .probeRtt) :
    b.saveCwnd = { b with priorCwnd := max b.congestionWindow b.priorCwnd } :=
  if_neg fun hne => hne.2 h

/-- **The minimum of the RTT.** -/
theorem updateMinRttIf_leads (h : b.Sound) (hs : b.Started) (expired : Bool) :
    Leads Bbr2Place.rttNext b.toBbr2Control (b.updateMinRttIf a expired).toBbr2Control := by
  have htake : Stays b.toBbr2Control (b.takeRtt a.toSampler expired).toBbr2Control :=
    (Stays.refl h).congr (control_takeRtt b a.toSampler expired)
  unfold updateMinRttIf
  extract_lets b₁ b₂
  suffices h₂ : Leads Bbr2Place.rttNext b.toBbr2Control b₂.toBbr2Control by
    split
    · exact h₂
    · exact h₂
  change Leads Bbr2Place.rttNext b.toBbr2Control
    (if b₁.mode = .probeRtt then b₁.runProbeRtt a else b₁).toBbr2Control
  by_cases hbegin : expired = true ∧ (b.takeRtt a.toSampler expired).idleRestart = false ∧
      (b.takeRtt a.toSampler expired).mode ≠ .probeRtt
  · have hb₁ : b₁ = { (b.takeRtt a.toSampler expired).enterProbeRtt.saveCwnd with
        probeRttRoundDoneStamp := 0, ackPhase := .probeStopping } := if_pos hbegin
    rw [saveCwnd_of_probeRtt rfl] at hb₁
    have hsound : b₁.Sound := by
      rw [hb₁]
      exact {
        filled := fun hmode => hmode.elim (fun hmode => Bbr2Mode.noConfusion hmode)
          fun hmode => Bbr2Mode.noConfusion hmode
        feedback := List.mem_cons_of_mem _ (List.mem_singleton_self _)
        lower := fun hprobing => Bool.noConfusion hprobing
        shift := htake.sound.shift
        divisor := htake.sound.divisor
        floor := htake.sound.floor }
    have hplace : b₁.place = .probeRtt := by rw [hb₁]; rfl
    have hmode : b₁.mode = .probeRtt := by rw [hb₁]; rfl
    have hstamp : b₁.probeRttRoundDoneStamp = 0 := by rw [hb₁]
    have hfull : b₁.fullBandwidthReached = (b.takeRtt a.toSampler expired).fullBandwidthReached := by rw [hb₁]; rfl
    rw [if_pos hmode]
    refine Leads.stays ⟨hsound, ?_, fun hreached => hfull.trans (htake.full.trans hreached), ?_⟩
      (runProbeRtt_stays hsound hstamp)
    · rw [hplace]
      cases b.place <;> decide
    · exact started_of_place (by rw [hplace]; decide)
  · have hb₁ : b₁ = b.takeRtt a.toSampler expired := if_neg hbegin
    rw [hb₁]
    split
    · rename_i hmode
      exact htake.leads (runProbeRtt_leads htake.sound (htake.started hs) (place_eq_probeRtt hmode))
    · refine htake.leads ⟨htake.sound, ?_, fun h => h, htake.started hs⟩
      cases (b.takeRtt a.toSampler expired).place <;> decide

/-! ## The end of an ACK -/

theorem updateRecoveryMode_stays (h : b.Sound) :
    Stays b.toBbr2Control (b.updateRecoveryMode s).toBbr2Control := by
  unfold updateRecoveryMode
  refine Stays.ite (restoreCwnd_stays (b := { b with recoveryMode := .opened }) h) (Stays.ite ?_
    (Stays.ite (.refl h) (.refl h)))
  exact saveCwnd_stays (b := { b with recoveryMode := .recovery }) h

theorem setCwnd_stays (h : b.Sound) : Stays b.toBbr2Control (b.setCwnd s f).toBbr2Control := by
  unfold setCwnd
  extract_lets b₁
  have h₁ : Stays b.toBbr2Control b₁.toBbr2Control :=
    Stays.ite (h.window (le_max_right _ _) _) (.refl h)
  exact Stays.ite (h₁.trans (h₁.sound.window (le_min h₁.sound.floor (le_max_left _ _)) _)) h₁

theorem boundCwndForInflightModel_stays (h : b.Sound) :
    Stays b.toBbr2Control (b.boundCwndForInflightModel f).toBbr2Control :=
  h.window (le_min (le_max_right _ _) h.floor) _

/-! ## Operations -/

theorem updateModel_leads (h : b.Sound) (sampleBw : ℕ) :
    Leads Bbr2Place.next b.toBbr2Control (b.updateModel a sampleBw).toBbr2Control := by
  unfold updateModel
  extract_lets b₁ b₂ b₃ b₄ b₅ b₆
  have h₁ : Stays b.toBbr2Control b₁.toBbr2Control := updateCongestionSignals_stays h sampleBw
  have h₂ : Stays b.toBbr2Control b₂.toBbr2Control := h₁.congr (control_updateAckAggregation b₁ a.toSampler)
  have h₃ : Fills b.toBbr2Control b₃.toBbr2Control := h₂.fills.trans (checkLossTooHighInStartup_fills h₂.sound)
  have h₄ : Fills b.toBbr2Control b₄.toBbr2Control := h₃.trans (checkFullBwReached_fills h₃.sound)
  have h₅ : Leads Bbr2Place.drainNext b₄.toBbr2Control b₅.toBbr2Control := checkDrain_leads h₄.sound
  have h₆ : Leads Bbr2Place.cycleNext b₅.toBbr2Control b₆.toBbr2Control :=
    updateCyclePhase_leads h₅.sound h₅.started
  have h₇ : Leads Bbr2Place.rttNext b₆.toBbr2Control (b₆.updateMinRtt a).toBbr2Control :=
    updateMinRttIf_leads h₆.sound h₆.started _
  exact {
    sound := h₇.sound
    place := Bbr2Place.mem_next (h₄.place ▸ h₅.place) h₆.place h₇.place
    full := fun hfull => h₇.full (h₆.full (h₅.full (h₄.full hfull)))
    started := h₇.started }

theorem onAck_leads (h : b.Sound) : Leads Bbr2Place.next b.toBbr2Control (b.onAck a).toBbr2Control := by
  unfold onAck
  extract_lets b₁ b₂ b₃ b₄ b₅
  have h₁ : Stays b.toBbr2Control b₁.toBbr2Control :=
    (Stays.refl h).congr ((control_countRound _).trans (control_updateRoundStart b a.toSampler))
  have h₂ : Leads Bbr2Place.next b.toBbr2Control b₂.toBbr2Control :=
    h₁.leads (updateModel_leads h₁.sound (calculateBwSample a.toSampler a.floats))
  have h₃ : Leads Bbr2Place.next b.toBbr2Control b₃.toBbr2Control :=
    h₂.stays ((updateRecoveryMode_stays h₂.sound).congr (control_updatePacingGainForLossRecovery _))
  have h₄ : Leads Bbr2Place.next b.toBbr2Control b₄.toBbr2Control :=
    h₃.stays ((Stays.refl h₃.sound).congr (control_setPacingRate b₃ a.toSampler a.floats))
  have hset : Stays b₄.toBbr2Control (b₄.setCwnd a.toSampler a.floats).toBbr2Control := setCwnd_stays h₄.sound
  exact h₄.stays (hset.trans (boundCwndForInflightModel_stays hset.sound))

theorem resetCwnd_stays (h : b.Sound) (now : ℕ) :
    Stays b.toBbr2Control (b.resetCwnd now).toBbr2Control := by
  unfold resetCwnd
  extract_lets b₁ b₂ b₃
  have h₁ : Stays b.toBbr2Control b₁.toBbr2Control := saveCwnd_stays h
  have h₂ : Stays b.toBbr2Control b₂.toBbr2Control := h₁.trans (h₁.sound.window le_rfl _)
  change Stays b.toBbr2Control b₃.toBbr2Control
  change Stays b.toBbr2Control (if b₂.isProbingBandwidth = false ∧ b₂.inflightLo = bbr2UnsignedInf then
    { b₂ with inflightLo := b₂.priorCwnd } else b₂).toBbr2Control
  split
  · rename_i hprobing
    refine h₂.trans ⟨{ h₂.sound with lower := fun hprobing' => ?_ }, rfl, rfl⟩
    exact Bool.noConfusion (hprobing.1.symm.trans hprobing')
  · exact h₂

theorem restartFromIdle_leads (h : b.Sound) (hs : b.Started) (connDelivered now : ℕ) (random : ℕ × ℕ) :
    Leads Bbr2Place.next b.toBbr2Control (b.restartFromIdle connDelivered now random f).toBbr2Control := by
  unfold restartFromIdle
  extract_lets b₁
  have hstay : ∀ {x : Bbr2}, x.toBbr2Control = b.toBbr2Control →
      Leads Bbr2Place.next b.toBbr2Control x.toBbr2Control := fun hx =>
    Leads.stays ⟨h, Bbr2Place.mem_next_self _, fun h => h, hs⟩ ((Stays.refl h).congr hx)
  cases hmode : b₁.mode with
  | startup => exact hstay rfl
  | drain => exact hstay rfl
  | probeBw => exact hstay (control_ite (control_setPacingRateHelper b₁ f 1) (control_setPacingRateHelper b₁ f 1))
  | probeRtt =>
      have hleads := checkProbeRttDone_leads (b := b₁) (s := { now := now, totalAcked := connDelivered }) h hs
        (place_eq_probeRtt hmode) random
      exact ⟨hleads.sound, Bbr2Place.mem_next_of_rttNext hleads.place, hleads.full, hleads.started⟩

theorem step_leads (h : b.Sound) (hs : b.Started) (op : Bbr2Op) :
    Leads Bbr2Place.next b.toBbr2Control (b.step op).toBbr2Control := by
  have hstay : Leads Bbr2Place.next b.toBbr2Control b.toBbr2Control :=
    ⟨h, Bbr2Place.mem_next_self _, fun h => h, hs⟩
  cases op with
  | onAck a => exact onAck_leads h
  | onLost lostSentTime now => exact hstay.stays (Stays.ite (.refl h) (Stays.ite (.refl h) (.refl h)))
  | resetCwnd now => exact hstay.stays (resetCwnd_stays h now)
  | restartFromIdle connDelivered now random f => exact restartFromIdle_leads h hs connDelivered now random

theorem init_sound (srtt now : ℕ) (f : Bbr2Floats) : (Bbr2.init srtt now f).Sound where
  filled hmode := hmode.elim (fun hmode => Bbr2Mode.noConfusion hmode) fun hmode => Bbr2Mode.noConfusion hmode
  feedback := List.mem_cons_self
  lower _ := ⟨rfl, rfl⟩
  shift := Nat.zero_le 30
  divisor := Nat.zero_lt_of_lt (by decide : 0 < bbr2UnsignedInf)
  floor := Nat.mul_le_mul_right bbr2MaxDatagramSize (by decide : 4 ≤ 32)

theorem run_sound (ops : List Bbr2Op) (h : b.Sound) (hs : b.Started) :
    (ops.foldl step b).Sound ∧ (ops.foldl step b).Started ∧
      (b.fullBandwidthReached = true → (ops.foldl step b).fullBandwidthReached = true) := by
  induction ops generalizing b with
  | nil => exact ⟨h, hs, fun h => h⟩
  | cons op ops ih =>
      have hstep := step_leads h hs op
      obtain ⟨hsound, hstarted, hfull⟩ := ih hstep.sound hstep.started
      exact ⟨hsound, hstarted, fun hreached => hfull (hstep.full hreached)⟩

end Bbr2

/-! ## Runs -/

/-- **The phases of BBRv2.** In every run an operation leads from one place to the next ones: a probe goes up
only behind a round of refilling, the drain comes only behind the startup, and a pipe that was full is not
forgotten, so that the startup does not come back. What the ACKs are of fits the place, and while the bandwidth is probed there is no
lower bound. -/
theorem bbr2_phases (srtt now : ℕ) (f : Bbr2Floats) (ops : List Bbr2Op) (op : Bbr2Op) :
    let b := ops.foldl Bbr2.step (.init srtt now f)
    (b.step op).place ∈ b.place.next ∧ b.ackPhase ∈ b.place.ackPhases ∧
      (b.place = .startup → b.fullBandwidthReached = false) ∧
      (b.mode = .drain ∨ b.mode = .probeBw → b.fullBandwidthReached = true) ∧
      (b.fullBandwidthReached = true → ∀ ops' : List Bbr2Op,
        (ops'.foldl Bbr2.step b).fullBandwidthReached = true ∧ (ops'.foldl Bbr2.step b).place ≠ .startup) ∧
      (b.isProbingBandwidth = true → b.bwLo = bbr2UnsignedInf ∧ b.inflightLo = bbr2UnsignedInf) := by
  intro b
  obtain ⟨hsound, hstarted, -⟩ := Bbr2.run_sound ops (Bbr2.init_sound srtt now f) (fun _ => rfl)
  refine ⟨(Bbr2.step_leads hsound hstarted op).place, hsound.feedback, Bbr2Control.started_iff.1 hstarted,
    hsound.filled, fun hfull ops' => ?_, hsound.lower⟩
  obtain ⟨-, hstarted', hkept⟩ := Bbr2.run_sound ops' hsound hstarted
  refine ⟨hkept hfull, fun hplace => ?_⟩
  have hnot := Bbr2Control.started_iff.1 hstarted' hplace
  rw [hkept hfull] at hnot
  cases hnot

theorem Bbr2.setCwnd_capped (b : Bbr2) (s : Sampler) (f : Bbr2Floats) (hmode : (b.setCwnd s f).mode = .probeRtt) :
    (b.setCwnd s f).congestionWindow ≤ (b.setCwnd s f).probeRttCwnd f := by
  unfold setCwnd at hmode ⊢
  dsimp only at hmode ⊢
  generalize (if s.acked ≠ 0 then b.setCwndAcked s f else b) = b₁ at hmode ⊢
  split at hmode
  · rename_i hprobe
    rw [if_pos hprobe]
    exact min_le_right _ _
  · rename_i hnot
    exact absurd hmode hnot

theorem Bbr2.bounded_capped (b : Bbr2) (f : Bbr2Floats) (lossInCycle : Bool)
    (hset : b.mode = .probeRtt → b.congestionWindow ≤ b.probeRttCwnd f) :
    let x := { b.boundCwndForInflightModel f with lossInCycle := lossInCycle }
    x.congestionWindow ≤ x.inflightCap f ∧ (x.mode = .probeRtt → x.congestionWindow ≤ x.probeRttCwnd f) :=
  ⟨min_le_left _ _, fun hmode => (min_le_right _ _).trans (hset hmode)⟩

theorem Bbr2.onAck_capped (b : Bbr2) (a : Bbr2Ack) :
    (b.onAck a).congestionWindow ≤ (b.onAck a).inflightCap a.floats ∧
      ((b.onAck a).mode = .probeRtt → (b.onAck a).congestionWindow ≤ (b.onAck a).probeRttCwnd a.floats) :=
  Bbr2.bounded_capped _ a.floats _ (Bbr2.setCwnd_capped _ a.toSampler a.floats)

/-- **The window of BBRv2.** In every run the window is at least the minimum, the slope of a probe is never
divided by zero nor shifted out of its type, and behind an ACK the window keeps to the bound of the place. -/
theorem bbr2_window (srtt now : ℕ) (f : Bbr2Floats) (ops : List Bbr2Op) :
    let b := ops.foldl Bbr2.step (.init srtt now f)
    bbr2MinCwnd ≤ b.getCwnd ∧ b.bwProbeUpRounds ≤ 30 ∧ 0 < b.bwProbeUpCnt ∧
      ∀ a, (b.onAck a).getCwnd ≤ (b.onAck a).inflightCap a.floats ∧
        ((b.onAck a).mode = .probeRtt → (b.onAck a).getCwnd ≤ (b.onAck a).probeRttCwnd a.floats) := by
  intro b
  obtain ⟨hsound, -, -⟩ := Bbr2.run_sound ops (Bbr2.init_sound srtt now f) (fun _ => rfl)
  exact ⟨hsound.floor, hsound.shift, hsound.divisor, b.onAck_capped⟩

end Rquic

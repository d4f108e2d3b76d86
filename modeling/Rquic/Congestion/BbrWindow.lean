import Mathlib.Logic.Relation
import Rquic.Congestion.Bbr
import Rquic.SendCtl.Run

set_option autoImplicit false

/-!
# The floor of the BBR window

* `BbrWindow.Edit`: the writes to the windows, each with what bounds it; `BbrWindow.Inv`: what they keep.
* `Bbr.window_updateBandwidth`, ...: most of an ACK leaves the windows alone.
* `Bbr.onAck_edits`, `Bbr.step_edits`: an operation is a sequence of them.
* `SendCtl.canSend`: whether the window lets a packet through.
* **`bbr_floor`**: in every run the window is at least the minimum, and a packet is let through when nothing
  is in flight.
-/

namespace Rquic

namespace BbrWindow

/-! ## Writes to the windows -/

/-- One write to the windows. -/
inductive Edit : BbrWindow → BbrWindow → Prop
  | save (w : BbrWindow) : Edit w { w with priorCwnd := w.congestionWindow }
  | keep (w : BbrWindow) : Edit w { w with priorCwnd := max w.congestionWindow w.priorCwnd }
  | restore (w : BbrWindow) : Edit w { w with congestionWindow := max w.congestionWindow w.priorCwnd }
  | bound (w : BbrWindow) {cwnd : ℕ} (h : cwnd < 2 ^ 32 ∨ cwnd ≤ max w.congestionWindow w.priorCwnd) :
      Edit w { w with congestionWindow := max cwnd w.minCwnd }
  | cap (w : BbrWindow) {limit : ℕ} (h : w.minCwnd ≤ limit) :
      Edit w { w with congestionWindow := min w.congestionWindow limit }

abbrev Edits : BbrWindow → BbrWindow → Prop := Relation.ReflTransGen Edit

/-- The window is not below the minimum, which the controller takes from its range, and all fit in 32 bits. -/
structure Inv (w : BbrWindow) : Prop where
  floor : w.minCwnd ≤ w.congestionWindow
  least : bbrMinWindow ≤ w.minCwnd
  most : w.minCwnd < 2 ^ 32
  cwndFits : w.congestionWindow < 2 ^ 32
  priorFits : w.priorCwnd < 2 ^ 32

variable {w w' : BbrWindow}

theorem Edit.minCwnd_eq (h : Edit w w') : w'.minCwnd = w.minCwnd := by
  cases h <;> rfl

theorem Edit.inv (h : Edit w w') (hw : w.Inv) : w'.Inv := by
  cases h with
  | save => exact { hw with priorFits := hw.cwndFits }
  | keep => exact { hw with priorFits := max_lt hw.cwndFits hw.priorFits }
  | restore =>
      exact { hw with
        floor := hw.floor.trans (le_max_left _ _)
        cwndFits := max_lt hw.cwndFits hw.priorFits }
  | @bound cwnd h =>
      have hcwnd : cwnd < 2 ^ 32 :=
        h.elim id fun hle => hle.trans_lt (max_lt hw.cwndFits hw.priorFits)
      exact { hw with
        floor := le_max_right _ _
        cwndFits := max_lt hcwnd hw.most }
  | cap h =>
      exact { hw with
        floor := le_min hw.floor h
        cwndFits := (min_le_left _ _).trans_lt hw.cwndFits }

theorem Edits.inv (h : Edits w w') (hw : w.Inv) : w'.Inv ∧ w'.minCwnd = w.minCwnd := by
  induction h with
  | refl => exact ⟨hw, rfl⟩
  | tail _ hedit ih => exact ⟨hedit.inv ih.1, hedit.minCwnd_eq.trans ih.2⟩

end BbrWindow

namespace Bbr

open BbrWindow

variable (b : Bbr) (a : BbrAck) (s : Sampler) (f : BbrFloats)

/-! ## What leaves the windows alone -/

variable {b a s f} in
theorem window_ite {c : Prop} [Decidable c] {x y : Bbr} {w : BbrWindow} (hx : x.toBbrWindow = w)
    (hy : y.toBbrWindow = w) : (if c then x else y).toBbrWindow = w := by
  split
  · exact hx
  · exact hy

theorem window_sampleLtBw : (b.sampleLtBw s f).toBbrWindow = b.toBbrWindow :=
  window_ite rfl (window_ite rfl rfl)

theorem window_continueLtBwSampling : (b.continueLtBwSampling s f).toBbrWindow = b.toBbrWindow := by
  have hstart : ∀ b : Bbr, ((if b.ltIsSampling then b else
      { b with ltIsSampling := true }.newLtBwInterval s) : Bbr).toBbrWindow = b.toBbrWindow :=
    fun b => window_ite rfl rfl
  have hcount : ∀ b : Bbr, ((if b.roundStart then b.countLtRtt else b) : Bbr).toBbrWindow = b.toBbrWindow :=
    fun b => window_ite rfl rfl
  have hend : ∀ b : Bbr, ((if b.ltRttCnt < 4 then b else if 16 < b.ltRttCnt then b.resetLtBwSampling
      else if s.loss = 0 then b else b.sampleLtBw s f) : Bbr).toBbrWindow = b.toBbrWindow :=
    fun b => window_ite rfl (window_ite rfl (window_ite rfl (window_sampleLtBw b s f)))
  exact window_ite rfl (window_ite (hstart b) ((hend _).trans ((hcount _).trans (hstart b))))

theorem window_updateLtBwSampling : (b.updateLtBwSampling a).toBbrWindow = b.toBbrWindow := by
  have hcount : (if b.ltUseBw && b.mode == .probeBw && b.roundStart then b.countLtRtt else b).toBbrWindow =
      b.toBbrWindow := window_ite rfl rfl
  exact window_ite hcount ((window_continueLtBwSampling _ _ _).trans hcount)

theorem window_startRound : (b.startRound s).toBbrWindow = b.toBbrWindow := window_ite rfl rfl

theorem window_feedBandwidth : (b.feedBandwidth s f).toBbrWindow = b.toBbrWindow := window_ite rfl rfl

theorem window_updateBandwidth : (b.updateBandwidth a).toBbrWindow = b.toBbrWindow := by
  have hround := window_startRound { b with roundStart := false } a.toSampler
  refine window_ite rfl ((window_feedBandwidth _ _ _).trans (window_ite ?_ hround))
  exact (window_updateLtBwSampling _ _).trans hround

theorem window_setExtraAck (n : ℕ) : (b.setExtraAck n).toBbrWindow = b.toBbrWindow := window_ite rfl rfl

theorem window_rotateExtraAck : b.rotateExtraAck.toBbrWindow = b.toBbrWindow :=
  window_ite (window_setExtraAck _ _) rfl

theorem window_measureExtraAck : (b.measureExtraAck s).toBbrWindow = b.toBbrWindow := by
  have hrestart : ∀ c : Prop, [Decidable c] →
      (if c then { b with epochAck := 0, extraAckStamp := s.now } else b).toBbrWindow = b.toBbrWindow :=
    fun c => window_ite rfl rfl
  exact window_ite ((window_setExtraAck _ _).trans (hrestart _)) (hrestart _)

theorem window_updateAckAggregation : (b.updateAckAggregation s).toBbrWindow = b.toBbrWindow :=
  window_ite rfl ((window_measureExtraAck _ _).trans (window_ite (window_rotateExtraAck b) rfl))

theorem window_updateCyclePhase : (b.updateCyclePhase s f).toBbrWindow = b.toBbrWindow :=
  window_ite rfl rfl

theorem window_checkFullBwReached : (b.checkFullBwReached s f).toBbrWindow = b.toBbrWindow :=
  window_ite rfl (window_ite rfl (window_ite rfl rfl))

theorem window_checkDrain : (b.checkDrain a).toBbrWindow = b.toBbrWindow := by
  have hdrain : (if b.mode = .startup ∧ b.fullBandwidthReached = true then b.enterDrain else b).toBbrWindow =
      b.toBbrWindow := window_ite rfl rfl
  exact window_ite hdrain hdrain

theorem window_takeRtt (expired : Bool) : (b.takeRtt s expired).toBbrWindow = b.toBbrWindow := by
  have hprobe : (if s.rtt ≤ b.probeRttMinUs ∨ expired = true then
      { b with probeRttMinUs := s.rtt, probeRttMinUsStamp := s.now } else b).toBbrWindow = b.toBbrWindow :=
    window_ite rfl rfl
  exact window_ite hprobe hprobe

theorem window_exitProbeRtt (random now : ℕ) : (b.exitProbeRtt random now).toBbrWindow = b.toBbrWindow :=
  window_ite rfl rfl

theorem window_updateRecoveryMode : (b.updateRecoveryMode s).toBbrWindow = b.toBbrWindow :=
  window_ite rfl (window_ite rfl rfl)

theorem window_setPacingRateHelper (gain : Rat) :
    (b.setPacingRateHelper gain f).toBbrWindow = b.toBbrWindow := window_ite rfl rfl

theorem window_setPacingRate : (b.setPacingRate s f).toBbrWindow = b.toBbrWindow := by
  have hinit : (if b.hasSrtt = false ∧ s.srtt ≠ 0 then b.initPacingRate s.srtt f else b).toBbrWindow =
      b.toBbrWindow := window_ite rfl rfl
  have hrate : ∀ gain, ((if b.hasSrtt = false ∧ s.srtt ≠ 0 then b.initPacingRate s.srtt f
      else b).setPacingRateHelper gain f).toBbrWindow = b.toBbrWindow :=
    fun gain => (window_setPacingRateHelper _ f gain).trans hinit
  exact window_ite (hrate _) (hrate _)

/-! ## What writes them -/

variable {b a s f} {w : BbrWindow}

theorem edits_ite {c : Prop} [Decidable c] {x y : Bbr} (hx : Edits w x.toBbrWindow)
    (hy : Edits w y.toBbrWindow) : Edits w (if c then x else y).toBbrWindow := by
  split
  · exact hx
  · exact hy

theorem edits_of_eq {x : Bbr} (h : Edits w b.toBbrWindow) (hx : x.toBbrWindow = b.toBbrWindow) :
    Edits w x.toBbrWindow := by
  rw [hx]
  exact h

theorem saveCwnd_edits (h : Edits w b.toBbrWindow) : Edits w b.saveCwnd.toBbrWindow :=
  edits_ite (h.tail (.save _)) (h.tail (.keep _))

theorem checkProbeRttDone_edits (h : Edits w b.toBbrWindow) (random now : ℕ) :
    Edits w (b.checkProbeRttDone random now).toBbrWindow := by
  refine edits_ite h ?_
  rw [window_exitProbeRtt]
  exact h.tail (.restore _)

theorem runProbeRtt_edits (h : Edits w b.toBbrWindow) : Edits w (b.runProbeRtt a).toBbrWindow := by
  have hdone : ∀ {b : Bbr}, Edits w b.toBbrWindow → Edits w
      ((if b.probeRttRoundDone then b.checkProbeRttDone a.random a.now else b) : Bbr).toBbrWindow :=
    fun h => edits_ite (checkProbeRttDone_edits h _ _) h
  refine edits_ite (edits_ite h h) (hdone ?_)
  exact edits_ite h h

theorem beginProbeRtt_edits (h : Edits w b.toBbrWindow) (expired : Bool) :
    Edits w (b.beginProbeRtt expired).toBbrWindow := by
  have hsave : Edits w b.enterProbeRtt.saveCwnd.toBbrWindow := saveCwnd_edits (b := b.enterProbeRtt) h
  exact edits_ite hsave h

theorem updateMinRttIf_edits (h : Edits w b.toBbrWindow) (expired : Bool) :
    Edits w (b.updateMinRttIf a expired).toBbrWindow := by
  have htake := edits_of_eq h (window_takeRtt b a.toSampler expired)
  unfold updateMinRttIf
  extract_lets b₁ b₂
  have h₁ : Edits w b₁.toBbrWindow := beginProbeRtt_edits htake expired
  have h₂ : Edits w b₂.toBbrWindow := edits_ite (runProbeRtt_edits h₁) h₁
  exact edits_ite h₂ h₂

theorem updateMinRtt_edits (h : Edits w b.toBbrWindow) : Edits w (b.updateMinRtt a).toBbrWindow :=
  updateMinRttIf_edits h _

/-! ## The window of an ACK -/

/-- `x` has the windows of `b`, but for the congestion window, which fits in 32 bits or was saved. -/
def Remade (b x : Bbr) : Prop := ∃ cwnd,
  (cwnd < 2 ^ 32 ∨ cwnd ≤ max b.congestionWindow b.priorCwnd) ∧
    x.toBbrWindow = { b.toBbrWindow with congestionWindow := cwnd }

theorem u32Add_lt (m n : ℕ) : u32Add m n < 2 ^ 32 := Nat.mod_lt _ (by decide)

variable {x : Bbr}

theorem Remade.small (h : b.Remade x) {cwnd : ℕ} (hcwnd : cwnd < 2 ^ 32) :
    b.Remade { x with congestionWindow := cwnd } := by
  obtain ⟨_, _, hx⟩ := h
  exact ⟨cwnd, .inl hcwnd, congrArg (fun w => { w with congestionWindow := cwnd }) hx⟩

theorem Remade.raise (h : b.Remade x) {cwnd : ℕ} (hcwnd : cwnd < 2 ^ 32) :
    b.Remade { x with congestionWindow := max x.congestionWindow cwnd } := by
  obtain ⟨cwnd₀, hcwnd₀, hx⟩ := h
  have hwindow : x.congestionWindow = cwnd₀ := congrArg BbrWindow.congestionWindow hx
  refine ⟨max cwnd₀ cwnd, ?_, ?_⟩
  · omega
  · change { x.toBbrWindow with congestionWindow := max x.congestionWindow cwnd } = _
    rw [hwindow, hx]

theorem modulateCwndForRecovery_remade : b.Remade (b.modulateCwndForRecovery a) := by
  have hself : b.Remade b := ⟨b.congestionWindow, .inr (le_max_left _ _), rfl⟩
  have hflags : b.Remade (if b.justEnterRecoveryMode then
      { b with
        justEnterRecoveryMode := false, packetConservation := true, nextRoundDelivered := a.totalAcked
        congestionWindow := u32Add a.ctlBytesInFlight (max a.acked bbrMaxDatagramSize) }
    else if b.justExitRecoveryMode then
      { b with justExitRecoveryMode := false, packetConservation := false }.restoreCwnd
    else b) := by
    split
    · exact ⟨_, .inl (u32Add_lt _ _), rfl⟩
    · split
      · exact ⟨_, .inr le_rfl, rfl⟩
      · exact hself
  unfold modulateCwndForRecovery
  extract_lets x
  split
  · exact hflags.raise (u32Add_lt _ _)
  · exact hflags

theorem growCwnd_remade (h : b.Remade x) (target : ℕ) : b.Remade (x.growCwnd a target) := by
  unfold growCwnd
  split
  · exact h
  · split
    · exact h.small (min_lt_of_right_lt (u32Add_lt _ _))
    · split
      · exact h.small (u32Add_lt _ _)
      · exact h

/-- **Whatever the window has come to, it is bounded below.** -/
theorem setCwndAcked_edits (h : Edits w b.toBbrWindow) : Edits w (b.setCwndAcked a).toBbrWindow := by
  unfold setCwndAcked
  extract_lets target x
  obtain ⟨cwnd, hcwnd, hx⟩ : b.Remade x := growCwnd_remade modulateCwndForRecovery_remade target
  change Edits w { x.toBbrWindow with
    congestionWindow := max x.toBbrWindow.congestionWindow x.toBbrWindow.minCwnd }
  rw [hx]
  exact h.tail (.bound _ hcwnd)

theorem setCwnd_edits (h : Edits w b.toBbrWindow) : Edits w (b.setCwnd a).toBbrWindow := by
  have hacked : Edits w ((if a.acked ≠ 0 then b.setCwndAcked a else b) : Bbr).toBbrWindow :=
    edits_ite (setCwndAcked_edits h) h
  exact edits_ite (hacked.tail (.cap _ (le_max_left _ _))) hacked

/-! ## Operations -/

theorem onAck_edits (h : Edits w b.toBbrWindow) : Edits w (b.onAck a).toBbrWindow := by
  have h₁ := edits_of_eq h (window_updateBandwidth b a)
  have h₂ := edits_of_eq h₁ (window_updateAckAggregation _ a.toSampler)
  have h₃ := edits_of_eq h₂ (window_updateCyclePhase _ a.toSampler a.floats)
  have h₄ := edits_of_eq h₃ (window_checkFullBwReached _ a.toSampler a.floats)
  have h₅ := edits_of_eq h₄ (window_checkDrain _ a)
  have h₆ := updateMinRtt_edits (a := a) h₅
  have h₇ := edits_of_eq h₆ (window_updateRecoveryMode _ a.toSampler)
  have h₈ := edits_of_eq h₇ (window_setPacingRate _ a.toSampler a.floats)
  exact setCwnd_edits h₈

theorem onLost_edits (h : Edits w b.toBbrWindow) (now : ℕ) : Edits w (b.onLost now).toBbrWindow :=
  edits_ite h (saveCwnd_edits h)

theorem resetCwnd_edits (h : Edits w b.toBbrWindow) : Edits w b.resetCwnd.toBbrWindow := by
  have hsave := saveCwnd_edits h
  have hreset : Edits w { b.saveCwnd.toBbrWindow with congestionWindow := b.saveCwnd.minCwnd } := by
    have hbound := hsave.tail (.bound _ (.inl (Nat.two_pow_pos 32)))
    rwa [Nat.zero_max] at hbound
  have hcancel : ∀ c : Prop, [Decidable c] → Edits w ((if c then
      { { b.saveCwnd with congestionWindow := b.saveCwnd.minCwnd } with
        recoveryMode := .notInRecovery, packetConservation := false }
      else { b.saveCwnd with congestionWindow := b.saveCwnd.minCwnd }) : Bbr).toBbrWindow :=
    fun c => edits_ite hreset hreset
  exact edits_ite (hcancel _) (hcancel _)

theorem restartFromIdle_edits (h : Edits w b.toBbrWindow) (random now : ℕ) :
    Edits w (b.restartFromIdle random now f).toBbrWindow := by
  unfold restartFromIdle
  extract_lets b₀ b₁
  have hlt : Edits w b₁.toBbrWindow := edits_ite h h
  split
  · have hrate := edits_of_eq hlt (window_setPacingRateHelper b₁ f 1)
    exact edits_ite hrate hrate
  · exact checkProbeRttDone_edits hlt random now
  · exact hlt

theorem step_edits (h : Edits w b.toBbrWindow) (op : BbrOp) : Edits w (b.step op).toBbrWindow := by
  cases op with
  | onAck a => exact onAck_edits h
  | onLost now => exact onLost_edits h now
  | resetCwnd => exact resetCwnd_edits h
  | restartFromIdle random now f => exact restartFromIdle_edits h random now

theorem run_edits (b : Bbr) (ops : List BbrOp) : Edits b.toBbrWindow (ops.foldl step b).toBbrWindow := by
  suffices ∀ {x : Bbr}, Edits b.toBbrWindow x.toBbrWindow →
      Edits b.toBbrWindow (ops.foldl step x).toBbrWindow from this .refl
  induction ops with
  | nil => exact fun h => h
  | cons op ops ih => exact fun h => ih (step_edits h op)

/-! ## The floor -/

theorem window_bounds (p : CcParams) (packets : ℕ) {default : ℕ} (hleast : bbrMinWindow ≤ default)
    (hmost : default < 2 ^ 32) :
    bbrMinWindow ≤ p.window packets default ∧ p.window packets default < 2 ^ 32 := by
  have hmax : bbrMaxWindow < 2 ^ 32 := by decide
  unfold CcParams.window
  dsimp only
  split <;> omega

theorem init_inv (p : CcParams) (srtt now : ℕ) (f : BbrFloats)
    (h : (init p srtt now f).minCwnd ≤ (init p srtt now f).initialCongestionWindow) :
    (init p srtt now f).toBbrWindow.Inv := by
  have hinitial := window_bounds p p.initCwnd (show bbrMinWindow ≤ bbrInitialWindow by decide) (by decide)
  have hmin := window_bounds p p.minCwnd (le_refl bbrMinWindow) (by decide)
  exact ⟨h, hmin.1, hmin.2, hinitial.2, Nat.two_pow_pos 32⟩

end Bbr

/-- What the congestion controller and the settings say. The window may depend on all that was sent. -/
structure CongCtl where
  /-- `rqc_cong_ctl_get_cwnd`. -/
  cwnd : SendCtl → ℕ
  soSndbuf : ℕ

/-- `rqc_send_ctl_can_send`. -/
def SendCtl.canSend (c : SendCtl) (cong : CongCtl) (po : PacketOut) (scheduleBytes : ℕ) : Bool :=
  let cwnd := cong.cwnd c % 2 ^ 32
  let window := if 0 < cong.soSndbuf then min cwnd cong.soSndbuf else cwnd
  u32Add (u32Add c.bytesInFlight scheduleBytes) po.poBuf.length ≤ window

/-- A window of the minimum lets a packet through when nothing is in flight: only the limit of the send
buffer can refuse it. -/
theorem BbrWindow.Inv.canSend {w : BbrWindow} (h : w.Inv) {c : SendCtl} {cong : CongCtl} {po : PacketOut}
    (hcwnd : cong.cwnd c = w.congestionWindow) (hidle : c.bytesInFlight = 0)
    (hsize : po.poBuf.length ≤ bbrMaxDatagramSize) :
    c.canSend cong po 0 = true ↔ cong.soSndbuf = 0 ∨ po.poBuf.length ≤ cong.soSndbuf := by
  have hmss : bbrMaxDatagramSize = 1452 := rfl
  have hleast : 4 * bbrMaxDatagramSize ≤ w.congestionWindow := h.least.trans h.floor
  have hfits := h.cwndFits
  have hlen : u32Add (u32Add c.bytesInFlight 0) po.poBuf.length = po.poBuf.length := by
    unfold u32Add
    rw [hidle]
    omega
  unfold SendCtl.canSend
  dsimp only
  rw [hlen, hcwnd, Nat.mod_eq_of_lt hfits, decide_eq_true_iff]
  split_ifs <;> omega

/-- **The BBR window has a floor.** From an initial window that is not below the minimum, after any
operations, the window is at least the minimum that the controller started with; so with nothing in flight
no packet is held back by it. -/
theorem bbr_floor (p : CcParams) (srtt now : ℕ) (f : BbrFloats)
    (hinit : (Bbr.init p srtt now f).minCwnd ≤ (Bbr.init p srtt now f).initialCongestionWindow)
    (ops : List BbrOp) :
    let b := ops.foldl Bbr.step (Bbr.init p srtt now f)
    b.minCwnd = (Bbr.init p srtt now f).minCwnd ∧ b.minCwnd ≤ b.getCwnd ∧
      ∀ (c : SendCtl) (cong : CongCtl) (po : PacketOut), cong.cwnd c = b.getCwnd → c.bytesInFlight = 0 →
        po.poBuf.length ≤ bbrMaxDatagramSize →
          (c.canSend cong po 0 = true ↔ cong.soSndbuf = 0 ∨ po.poBuf.length ≤ cong.soSndbuf) := by
  have hrun := (Bbr.run_edits (Bbr.init p srtt now f) ops).inv (Bbr.init_inv p srtt now f hinit)
  exact ⟨hrun.2, hrun.1.floor, fun c cong po hcwnd hidle hsize => hrun.1.canSend hcwnd hidle hsize⟩

/-- Every product comes to nothing. -/
def zeroFloats : BbrFloats where
  gainBdp _ _ := 0
  initRate _ _ := 0
  pacingRate _ _ := 0
  deliveryRate _ _ := 0
  extraAckTime _ := 0
  fullbwThresh _ := 0
  ltBwRatio _ := 0
  ltBwLossThresh _ := 0

/-- An ACK of a packet that was sent at the start. -/
def lateAck (now : ℕ) : BbrAck where
  now := now
  interval := 50000
  delivered := 1200
  acked := 1200
  rtt := 60000
  srtt := 50000
  ctlDelivered := 1200
  ctlBytesInFlight := 0
  random := 3
  floats := zeroFloats

/-- A packet is lost and acknowledged in `BBR_PROBE_RTT`, where all that is computed for the window is `0`. -/
def probeRttOps : List BbrOp := [.onAck (lateAck 20000000), .onLost 20000001, .onAck (lateAck 20000002)]

/-- The controller is in `BBR_PROBE_RTT` and in recovery, at the minimum. -/
theorem bbr_floor_probe_rtt :
    (probeRttOps.foldl Bbr.step (.init {} 50000 0 zeroFloats)).mode = .probeRtt ∧
      (probeRttOps.foldl Bbr.step (.init {} 50000 0 zeroFloats)).recoveryMode = .inRecovery ∧
      (probeRttOps.foldl Bbr.step (.init {} 50000 0 zeroFloats)).getCwnd = 5808 ∧
      (probeRttOps.foldl Bbr.step (.init {} 50000 0 zeroFloats)).minCwnd ≤
        (probeRttOps.foldl Bbr.step (.init {} 50000 0 zeroFloats)).getCwnd :=
  ⟨by decide +kernel, by decide +kernel, by decide +kernel,
    (bbr_floor {} 50000 0 zeroFloats (by decide) probeRttOps).2.1⟩

end Rquic

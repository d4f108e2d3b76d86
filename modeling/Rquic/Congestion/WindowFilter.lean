import Mathlib.Algebra.Order.Ring.Nat
import Rquic.Lib.Agree

set_option autoImplicit false

/-!
# The windowed filter

`rqc_window_filter.c`: the best value of the last samples, kept as the best one with two later ones that
take its place when it expires.

* `WinFilter`: the three samples; `WinFilter.update`, `WinFilter.filter`: the functions, for any order of
  the values.
* `winFilterMax`: `rqc_win_filter_max`.
* `WinFilter.Inv`: the samples are in order, were fed, and the first one is in the window.
* `WinFilter.Inv.filter`: one call keeps this.
* **`winFilter_run`**: every run does.
-/

namespace Rquic

/-- `struct rqc_win_sample`. -/
structure WinSample (V : Type) where
  t : UInt64
  val : V
  deriving DecidableEq, Repr

/-- `rqc_win_filter_t`. -/
structure WinFilter (V : Type) where
  s0 : WinSample V
  s1 : WinSample V
  s2 : WinSample V
  deriving DecidableEq, Repr

namespace WinFilter

variable {V : Type}

/-- `rqc_win_filter_reset`. -/
def reset (n : WinSample V) : WinFilter V := ⟨n, n, n⟩

/-- `rqc_win_filter_get`. -/
def get (w : WinFilter V) : V := w.s0.val

/-- The three samples in `rqc_win_filter_update`; the age `dt` of the first one has 32 bits. -/
def update (w : WinFilter V) (win : UInt64) (n : WinSample V) : WinFilter V :=
  let dt := (n.t - w.s0.t).toUInt32.toUInt64
  if win < dt then
    let w : WinFilter V := ⟨w.s1, w.s2, n⟩
    if win < n.t - w.s0.t then ⟨w.s1, w.s2, n⟩ else w
  else if w.s1.t = w.s0.t ∧ win / 4 < dt then ⟨w.s0, n, n⟩
  else if w.s2.t = w.s1.t ∧ win / 2 < dt then ⟨w.s0, w.s1, n⟩
  else w

variable [LinearOrder V]

/-- The new sample takes the place of those that it is not worse than. -/
def take (w : WinFilter V) (n : WinSample V) : WinFilter V :=
  if w.s1.val ≤ n.val then ⟨w.s0, n, n⟩ else if w.s2.val ≤ n.val then ⟨w.s0, w.s1, n⟩ else w

/-- The filter for the largest value in the order of `V`, and what it returns. -/
def filter (w : WinFilter V) (win t : UInt64) (nval : V) : WinFilter V × V :=
  let n : WinSample V := ⟨t, nval⟩
  let w := if w.s0.val ≤ nval ∨ win < t - w.s2.t then reset n else (w.take n).update win n
  (w, w.get)

end WinFilter

/-- `rqc_win_filter_max`. -/
def winFilterMax (w : WinFilter ℕ) (win t : UInt64) (nval : ℕ) : WinFilter ℕ × ℕ := w.filter win t nval

namespace WinFilter

variable {V : Type} [LinearOrder V]

/-- The samples are in order, they were fed, and the first one is in the window at the time `now` of the
last call. -/
structure Inv (win : UInt64) (fed : List (WinSample V)) (now : UInt64) (w : WinFilter V) : Prop where
  time₁ : w.s0.t ≤ w.s1.t
  time₂ : w.s1.t ≤ w.s2.t
  last : w.s2.t ≤ now
  val₁ : w.s1.val ≤ w.s0.val
  val₂ : w.s2.val ≤ w.s1.val
  fed : w.s0 ∈ fed ∧ w.s1 ∈ fed ∧ w.s2 ∈ fed
  window : now - w.s0.t ≤ win

variable {win now t : UInt64} {fed : List (WinSample V)} {w : WinFilter V} {n : WinSample V}

theorem inv_reset (hn : n ∈ fed) : Inv win fed n.t (reset n) :=
  ⟨UInt64.le_refl _, UInt64.le_refl _, UInt64.le_refl _, le_rfl, le_rfl, ⟨hn, hn, hn⟩, by
    change n.t - n.t ≤ win
    rw [UInt64.sub_self]
    exact UInt64.zero_le⟩

theorem sub_le_iff {a b : UInt64} (h : b ≤ a) : a - b ≤ win ↔ a.toNat ≤ win.toNat + b.toNat := by
  rw [UInt64.le_iff_toNat_le, UInt64.toNat_sub_of_le _ _ h]
  have := UInt64.le_iff_toNat_le.1 h
  omega

/-- The new sample has come in behind the others, and is not better than any of them. -/
structure Ready (win : UInt64) (fed : List (WinSample V)) (n : WinSample V) (w : WinFilter V) : Prop where
  time₁ : w.s0.t ≤ w.s1.t
  time₂ : w.s1.t ≤ w.s2.t
  last : w.s2.t ≤ n.t
  val₁ : w.s1.val ≤ w.s0.val
  val₂ : w.s2.val ≤ w.s1.val
  worst : n.val ≤ w.s2.val
  fed : w.s0 ∈ fed ∧ w.s1 ∈ fed ∧ w.s2 ∈ fed ∧ n ∈ fed
  fresh : n.t - w.s2.t ≤ win

/-- **The new sample takes the place of those that it is not worse than.** -/
theorem Inv.take (h : Inv win fed now w) (hnow : now ≤ n.t) (hbest : ¬ w.s0.val ≤ n.val)
    (hfresh : ¬ win < n.t - w.s2.t) : Ready win (fed ++ [n]) n (w.take n) ∧ (w.take n).s0 = w.s0 := by
  have hlast : w.s2.t ≤ n.t := UInt64.le_trans h.last hnow
  have hmid : w.s1.t ≤ n.t := UInt64.le_trans h.time₂ hlast
  have hfirst : w.s0.t ≤ n.t := UInt64.le_trans h.time₁ hmid
  have hself : n.t - n.t ≤ win := by
    rw [UInt64.sub_self]
    exact UInt64.zero_le
  have hold : ∀ {s : WinSample V}, s ∈ fed → s ∈ fed ++ [n] := fun hs => List.mem_append_left _ hs
  have hnew : n ∈ fed ++ [n] := List.mem_append_right _ (List.mem_singleton_self n)
  obtain ⟨h0, h1, h2⟩ := h.fed
  unfold WinFilter.take
  by_cases hval₁ : w.s1.val ≤ n.val
  · rw [if_pos hval₁]
    exact ⟨⟨hfirst, UInt64.le_refl _, UInt64.le_refl _, (not_le.1 hbest).le, le_rfl, le_rfl,
      ⟨hold h0, hnew, hnew, hnew⟩, hself⟩, rfl⟩
  · rw [if_neg hval₁]
    by_cases hval₂ : w.s2.val ≤ n.val
    · rw [if_pos hval₂]
      exact ⟨⟨h.time₁, hmid, UInt64.le_refl _, h.val₁, (not_le.1 hval₁).le, le_rfl,
        ⟨hold h0, hold h1, hnew, hnew⟩, hself⟩, rfl⟩
    · rw [if_neg hval₂]
      exact ⟨⟨h.time₁, h.time₂, hlast, h.val₁, h.val₂, (not_le.1 hval₂).le,
        ⟨hold h0, hold h1, hold h2, hnew⟩, UInt64.not_lt.1 hfresh⟩, rfl⟩

/-- **Samples that expire are replaced by those behind them**, as long as the age of the first one is a
32-bit number. -/
theorem Ready.update (h : Ready win fed n w) (hage : (n.t - w.s0.t).toNat < 2 ^ 32) :
    Inv win fed n.t (w.update win n) ∧ n.val ≤ (w.update win n).s0.val := by
  have hdt : (n.t - w.s0.t).toUInt32.toUInt64 = n.t - w.s0.t := by
    apply UInt64.toNat_inj.1
    rw [UInt32.toNat_toUInt64, UInt64.toNat_toUInt32, Nat.mod_eq_of_lt hage]
  obtain ⟨h0, h1, h2, hn⟩ := h.fed
  have hmid : w.s1.t ≤ n.t := UInt64.le_trans h.time₂ h.last
  have hval₁ : n.val ≤ w.s1.val := h.worst.trans h.val₂
  have hval₀ : n.val ≤ w.s0.val := hval₁.trans h.val₁
  unfold WinFilter.update
  dsimp only
  rw [hdt]
  by_cases hexpired : win < n.t - w.s0.t
  · rw [if_pos hexpired]
    by_cases hagain : win < n.t - w.s1.t
    · rw [if_pos hagain]
      exact ⟨⟨h.last, UInt64.le_refl _, UInt64.le_refl _, h.worst, le_rfl, ⟨h2, hn, hn⟩, h.fresh⟩, h.worst⟩
    · rw [if_neg hagain]
      exact ⟨⟨h.time₂, h.last, UInt64.le_refl _, h.val₂, h.worst, ⟨h1, h2, hn⟩, UInt64.not_lt.1 hagain⟩,
        hval₁⟩
  · rw [if_neg hexpired]
    have hwindow := UInt64.not_lt.1 hexpired
    split_ifs
    · exact ⟨⟨UInt64.le_trans h.time₁ hmid, UInt64.le_refl _, UInt64.le_refl _, hval₀, le_rfl,
        ⟨h0, hn, hn⟩, hwindow⟩, hval₀⟩
    · exact ⟨⟨h.time₁, hmid, UInt64.le_refl _, h.val₁, hval₁, ⟨h0, h1, hn⟩, hwindow⟩, hval₀⟩
    · exact ⟨⟨h.time₁, h.time₂, h.last, h.val₁, h.val₂, ⟨h0, h1, h2⟩, hwindow⟩, hval₀⟩

/-- The age of the first sample, which the code computes with 32 bits, is such a number. In a window below
`2 ^ 31` it always is. -/
def AgeFits (win : UInt64) (w : WinFilter V) (n : WinSample V) : Prop :=
  win.toNat < 2 ^ 31 ∨ (n.t - w.s0.t).toNat < 2 ^ 32

theorem Inv.filter (h : Inv win fed now w) (hnow : now ≤ n.t) (hage : AgeFits win w n) :
    Inv win (fed ++ [n]) n.t (w.filter win n.t n.val).1 ∧
      n.val ≤ (w.filter win n.t n.val).1.s0.val := by
  unfold WinFilter.filter
  dsimp only
  by_cases hreset : w.s0.val ≤ n.val ∨ win < n.t - w.s2.t
  · rw [if_pos hreset]
    exact ⟨inv_reset (List.mem_append_right _ (List.mem_singleton_self n)), le_rfl⟩
  · obtain ⟨hbest, hfresh⟩ := not_or.1 hreset
    obtain ⟨hready, hfirst⟩ := h.take hnow hbest hfresh
    rw [if_neg hreset]
    refine hready.update ?_
    rw [hfirst]
    rcases hage with hwin | hage
    · -- the last sample is in the window now, and the first one was at the last call
      have hlast : w.s2.t ≤ n.t := UInt64.le_trans h.last hnow
      have h02 : w.s0.t ≤ w.s2.t := UInt64.le_trans h.time₁ h.time₂
      have h1 := (sub_le_iff hlast).1 (UInt64.not_lt.1 hfresh)
      have h2 := (sub_le_iff (UInt64.le_trans h02 h.last)).1 h.window
      have h3 := UInt64.le_iff_toNat_le.1 h.last
      rw [UInt64.toNat_sub_of_le _ _ (UInt64.le_trans h02 hlast)]
      omega
    · exact hage

/-- One call in a run. -/
def step (win : UInt64) (w : WinFilter V) (n : WinSample V) : WinFilter V := (w.filter win n.t n.val).1

instance (win : UInt64) (w : WinFilter V) (n : WinSample V) : Decidable (AgeFits win w n) := by
  unfold AgeFits
  infer_instance

/-- **A run whose times do not decrease.** -/
theorem Inv.run (h : Inv win fed now w) {calls : List (WinSample V)}
    (hsorted : (now :: (calls ++ [n]).map WinSample.t).Pairwise (· ≤ ·))
    (hages : AllAlong (step win) (AgeFits win) w (calls ++ [n])) :
    Inv win (fed ++ (calls ++ [n])) n.t ((calls ++ [n]).foldl (step win) w) ∧
      n.val ≤ ((calls ++ [n]).foldl (step win) w).s0.val := by
  induction calls generalizing w now fed with
  | nil =>
      have hnow := (List.pairwise_cons.1 hsorted).1 n.t (List.mem_singleton_self _)
      exact h.filter hnow hages.1
  | cons s calls ih =>
      obtain ⟨hlater, hsorted⟩ := List.pairwise_cons.1 hsorted
      have hnow : now ≤ s.t := hlater s.t List.mem_cons_self
      have hstep := (h.filter hnow hages.1).1
      have hfed : fed ++ (s :: calls ++ [n]) = fed ++ [s] ++ (calls ++ [n]) := by
        rw [List.append_assoc]
        rfl
      rw [hfed]
      exact ih hstep hsorted hages.2

end WinFilter

/-- The calls of `rqc_win_filter_max` behind a reset. -/
def winFilterMaxRun (win t₀ : UInt64) (v₀ : ℕ) (calls : List (WinSample ℕ)) : WinFilter ℕ :=
  calls.foldl (fun w s => (winFilterMax w win s.t s.val).1) (.reset ⟨t₀, v₀⟩)

/-- **The windowed maximum.** From a reset filter, with times that do not decrease and whose differences fit
where the code keeps them in 32 bits, every call leaves three samples that were fed, in order of their times
and against the order of their values; it returns the value of the first one, which is at least the newest
value and not older than the window. -/
theorem winFilterMax_run {win t₀ : UInt64} {v₀ : ℕ} {calls : List (WinSample ℕ)} {n : WinSample ℕ}
    (hsorted : (t₀ :: (calls ++ [n]).map WinSample.t).Pairwise (· ≤ ·))
    (hages : AllAlong (WinFilter.step win) (WinFilter.AgeFits win) (.reset ⟨t₀, v₀⟩) (calls ++ [n])) :
    let r := winFilterMax (winFilterMaxRun win t₀ v₀ calls) win n.t n.val
    r.1.Inv win (⟨t₀, v₀⟩ :: (calls ++ [n])) n.t ∧ r.2 = r.1.s0.val ∧ n.val ≤ r.2 := by
  have hinit : WinFilter.Inv win [⟨t₀, v₀⟩] t₀ (.reset ⟨t₀, v₀⟩) :=
    WinFilter.inv_reset (List.mem_singleton_self (⟨t₀, v₀⟩ : WinSample ℕ))
  have hrun := hinit.run hsorted hages
  rw [List.foldl_append] at hrun
  exact ⟨hrun.1, rfl, hrun.2⟩

/-- Two samples that get worse. -/
def expiringCalls : List (WinSample ℕ) := [⟨3, 90⟩, ⟨9, 80⟩]

/-- The first sample expires, and so does the second one; the third one is the maximum. -/
theorem winFilterMax_run_expired :
    (winFilterMax (winFilterMaxRun 10 0 100 expiringCalls) 10 14 70).2 = 80 ∧
      70 ≤ (winFilterMax (winFilterMaxRun 10 0 100 expiringCalls) 10 14 70).2 :=
  ⟨by decide, (@winFilterMax_run 10 0 100 expiringCalls ⟨14, 70⟩ (by decide) (by decide)).2.2⟩

end Rquic

import Mathlib.Algebra.Order.Ring.Nat
import Mathlib.Data.List.Basic

set_option autoImplicit false

/-!
# A minimum that expires

Two minima of the values that are measured: a probing one, which is taken anew when it has expired, and a
lasting one, which follows the probing one downwards, and upwards when it has expired itself.

* `MinFilter`, `MinFilter.take`, `MinFilter.touch`: the minima with their stamps, a measurement, and a new
  stamp for the probing minimum.
* `MinFilter.Inv`: neither minimum is above what was measured since its stamp, and the stamps are recent.
* `MinFilter.Event.Step`, **`MinFilter.Inv.run`**: what a machine does to its minima, and its runs.
-/

namespace Rquic

/-- The two minima and when they were taken. -/
structure MinFilter where
  probe : ℕ
  probeStamp : ℕ
  least : ℕ
  leastStamp : ℕ
  deriving DecidableEq, Repr

namespace MinFilter

variable (window : ℕ) (f : MinFilter)

/-- The probing minimum with the value `v` of the time `now`. -/
def takeProbe (now v : ℕ) : MinFilter :=
  if v ≤ f.probe ∨ f.probeStamp + window < now then { f with probe := v, probeStamp := now } else f

/-- The lasting minimum at the time `now`. -/
def follow (now : ℕ) : MinFilter :=
  if f.probe ≤ f.least ∨ f.leastStamp + window < now then
    { f with least := f.probe, leastStamp := f.probeStamp }
  else f

/-- The value `v` is measured at the time `now`. -/
def take (now v : ℕ) : MinFilter := (f.takeProbe window now v).follow window now

/-- The probing minimum counts from now on. -/
def touch (now : ℕ) : MinFilter := { f with probeStamp := now }

/-- The probing minimum, behind the measurements of `hist`, the last time being `last`. -/
structure ProbeInv (init : ℕ) (hist : List (ℕ × ℕ)) (last : ℕ) (f : MinFilter) : Prop where
  past : ∀ p ∈ hist, p.1 ≤ last
  stamp_le : f.probeStamp ≤ last
  live : ∀ p ∈ hist, p.1 ≤ f.probeStamp + window
  bound : ∀ p ∈ hist, f.probeStamp ≤ p.1 → f.probe ≤ p.2
  measured : f.probe = init ∨ ∃ p ∈ hist, p.2 = f.probe

/-- Both minima. -/
structure Inv (init : ℕ) (hist : List (ℕ × ℕ)) (last : ℕ) (f : MinFilter) : Prop
    extends ProbeInv window init hist last f where
  leastStamp_le : f.leastStamp ≤ last
  leastLive : ∀ p ∈ hist, p.1 ≤ f.leastStamp + window
  leastBound : ∀ p ∈ hist, f.leastStamp ≤ p.1 → f.least ≤ p.2
  leastMeasured : f.least = init ∨ ∃ p ∈ hist, p.2 = f.least

variable {window f} {init last now : ℕ} {hist : List (ℕ × ℕ)}

theorem inv_start (window init now : ℕ) : Inv window init [] now ⟨init, now, init, now⟩ where
  past _ := by simp
  stamp_le := le_rfl
  live _ := by simp
  bound _ := by simp
  measured := .inl rfl
  leastStamp_le := le_rfl
  leastLive _ := by simp
  leastBound _ := by simp
  leastMeasured := .inl rfl

theorem Inv.later (h : Inv window init hist last f) (hnow : last ≤ now) : Inv window init hist now f :=
  { h with
    past := fun p hp => (h.past p hp).trans hnow
    stamp_le := h.stamp_le.trans hnow
    leastStamp_le := h.leastStamp_le.trans hnow }

theorem Inv.touch (h : Inv window init hist last f) (hnow : last ≤ now) :
    Inv window init hist now (f.touch now) :=
  { h.later hnow with
    stamp_le := le_rfl
    live := fun p hp => ((h.past p hp).trans hnow).trans (Nat.le_add_right _ _)
    bound := fun p hp hle =>
      h.bound p hp ((h.stamp_le.trans hnow).trans hle) }

/-- A minimum that has not expired stays where a greater value is measured; otherwise the value is taken. -/
theorem ProbeInv.takeProbe (h : ProbeInv window init hist last f) (hnow : last ≤ now) (v : ℕ) :
    ProbeInv window init (hist ++ [(now, v)]) now (f.takeProbe window now v) := by
  have hpast : ∀ p ∈ hist ++ [(now, v)], p.1 ≤ now := by
    intro p hp
    rcases List.mem_append.1 hp with hp | hp
    · exact (h.past p hp).trans hnow
    · rw [List.mem_singleton.1 hp]
  unfold MinFilter.takeProbe
  split
  · rename_i htake
    refine ⟨hpast, le_rfl, fun p hp => (hpast p hp).trans (Nat.le_add_right _ _), fun p hp hle => ?_, .inr ?_⟩
    · rcases List.mem_append.1 hp with hp | hp
      · -- an older measurement of the same time
        have hlive := h.live p hp
        have hbound := h.bound p hp ((h.stamp_le.trans hnow).trans hle)
        change v ≤ p.2
        change now ≤ p.1 at hle
        omega
      · rw [List.mem_singleton.1 hp]
    · exact ⟨(now, v), List.mem_append_right _ List.mem_cons_self, rfl⟩
  · rename_i hkeep
    refine ⟨hpast, h.stamp_le.trans hnow, fun p hp => ?_, fun p hp hle => ?_, ?_⟩
    · have hp := hpast p hp
      omega
    · rcases List.mem_append.1 hp with hp | hp
      · exact h.bound p hp hle
      · rw [List.mem_singleton.1 hp]
        change f.probe ≤ v
        omega
    · exact h.measured.imp_right fun ⟨p, hp, heq⟩ => ⟨p, List.mem_append_left _ hp, heq⟩

theorem Inv.take (h : Inv window init hist last f) (hnow : last ≤ now) (v : ℕ) :
    Inv window init (hist ++ [(now, v)]) now (f.take window now v) := by
  have hprobe := h.toProbeInv.takeProbe hnow v
  have hvalue : (f.takeProbe window now v).probe ≤ v := hprobe.bound (now, v)
    (List.mem_append_right _ List.mem_cons_self) hprobe.stamp_le
  have hleast : (f.takeProbe window now v).least = f.least := by
    unfold MinFilter.takeProbe
    split <;> rfl
  have hstamp : (f.takeProbe window now v).leastStamp = f.leastStamp := by
    unfold MinFilter.takeProbe
    split <;> rfl
  unfold MinFilter.take follow
  split
  · exact {
      past := hprobe.past
      stamp_le := hprobe.stamp_le
      live := hprobe.live
      bound := hprobe.bound
      measured := hprobe.measured
      leastStamp_le := hprobe.stamp_le
      leastLive := hprobe.live
      leastBound := hprobe.bound
      leastMeasured := hprobe.measured }
  · rename_i hkeep
    rw [hleast, hstamp] at hkeep
    refine { hprobe with leastStamp_le := ?_, leastLive := fun p hp => ?_, leastBound := fun p hp hle => ?_,
                         leastMeasured := ?_ }
    · rw [hstamp]
      exact h.leastStamp_le.trans hnow
    · have hpast := hprobe.past p hp
      rw [hstamp]
      omega
    · rw [hstamp] at hle
      rw [hleast]
      rcases List.mem_append.1 hp with hp | hp
      · exact h.leastBound p hp hle
      · rw [List.mem_singleton.1 hp]
        change f.least ≤ v
        omega
    · rw [hleast]
      exact h.leastMeasured.imp_right fun ⟨p, hp, heq⟩ => ⟨p, List.mem_append_left _ hp, heq⟩

/-! ## Runs -/

/-- `g` is `f`, or `f` with a new stamp. -/
def Touched (now : ℕ) (f g : MinFilter) : Prop := g = f ∨ g = f.touch now

theorem Inv.touched {g : MinFilter} (h : Inv window init hist last f) (hnow : last ≤ now)
    (hg : Touched now f g) : Inv window init hist now g := by
  rcases hg with rfl | rfl
  · exact h.later hnow
  · exact h.touch hnow

/-- What happens to the minima. -/
inductive Event where
  | measure (now v : ℕ)
  | pass (now : ℕ)
  | keep

/-- The times of the events. -/
def times : List Event → List ℕ
  | [] => []
  | .measure now _ :: events => now :: times events
  | .pass now :: events => now :: times events
  | .keep :: events => times events

/-- The measurements. -/
def samples : List Event → List (ℕ × ℕ)
  | [] => []
  | .measure now v :: events => (now, v) :: samples events
  | _ :: events => samples events

/-- One event. -/
def Event.Step (window : ℕ) : Event → MinFilter → MinFilter → Prop
  | measure now v, f, g => Touched now (f.take window now v) g
  | pass now, f, g => Touched now f g
  | keep, f, g => g = f

/-- **A run** of a machine that has two minima, with times that do not decrease and stay below a bound. -/
theorem Inv.run {σ ε : Type} (step : σ → ε → σ) (filter : σ → MinFilter) (event : ε → Event) {bound : ℕ}
    (hstep : ∀ x e, (filter x).probeStamp < bound → (filter x).leastStamp < bound →
      (event e).Step window (filter x) (filter (step x e)))
    {x : σ} (h : Inv window init hist last (filter x)) (hlast : last < bound) (ops : List ε)
    (hsorted : (last :: times (ops.map event)).Pairwise (· ≤ ·))
    (hbound : ∀ t ∈ times (ops.map event), t < bound) :
    ∃ last', Inv window init (hist ++ samples (ops.map event)) last' (filter (ops.foldl step x)) := by
  induction ops generalizing x hist last with
  | nil =>
      refine ⟨last, ?_⟩
      rw [List.map_nil, samples, List.append_nil]
      exact h
  | cons e ops ih =>
      have hone := hstep x e (h.stamp_le.trans_lt hlast) (h.leastStamp_le.trans_lt hlast)
      rw [List.foldl_cons, List.map_cons]
      rw [List.map_cons] at hsorted hbound
      cases hevent : event e with
      | measure now v =>
          rw [hevent] at hone hsorted hbound
          obtain ⟨hle, hsorted⟩ := List.pairwise_cons.1 hsorted
          have hnow : last ≤ now := hle now List.mem_cons_self
          have hinv := (h.take hnow v).touched le_rfl hone
          obtain ⟨last', hrun⟩ := ih hinv (hbound now List.mem_cons_self) hsorted
            fun t ht => hbound t (List.mem_cons_of_mem _ ht)
          refine ⟨last', ?_⟩
          rw [List.append_assoc] at hrun
          exact hrun
      | pass now =>
          rw [hevent] at hone hsorted hbound
          obtain ⟨hle, hsorted⟩ := List.pairwise_cons.1 hsorted
          exact ih (h.touched (hle now List.mem_cons_self) hone) (hbound now List.mem_cons_self) hsorted
            fun t ht => hbound t (List.mem_cons_of_mem _ ht)
      | keep =>
          rw [hevent] at hone hsorted hbound
          have hone : filter (step x e) = filter x := hone
          rw [← hone] at h
          exact ih h hlast hsorted hbound

end MinFilter

end Rquic

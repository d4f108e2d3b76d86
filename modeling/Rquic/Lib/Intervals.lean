import Mathlib.Data.List.Pairwise
import Mathlib.Data.Set.Card
import Mathlib.Tactic.SplitIfs

set_option autoImplicit false

/-!
# Sets of naturals as lists of intervals

A finite set of naturals is a union of maximal intervals. This file is about lists of intervals from
the largest down with a gap between neighbours, over any type with two bounds.

* `tops`, `dropLowest`: the last elements of the maximal intervals of a set, and the set without its
  lowest one.
* `held`, `Separated`: the set that a list of intervals holds, and the lists of maximal intervals.
* **`ncard_tops_held`**, **`dropLowest_held`**: such a list has one interval for each maximal one, the
  lowest at its end.
-/

namespace Rquic

/-! ## Maximal intervals -/

/-- The last elements of the maximal intervals of a set. -/
def tops (S : Set ℕ) : Set ℕ := {n | n ∈ S ∧ n + 1 ∉ S}

/-- The set without its lowest maximal interval. -/
def dropLowest (S : Set ℕ) : Set ℕ := {n | n ∈ S ∧ ∃ t ∈ tops S, t < n}

/-! ## Lists of intervals -/

variable {α : Type} (lo hi : α → ℕ)

/-- The numbers in the intervals of a list. -/
def held (l : List α) : Set ℕ := {n | ∃ a ∈ l, lo a ≤ n ∧ n ≤ hi a}

/-- The intervals stand from the largest down, and between neighbours a number is missing. -/
structure Separated (l : List α) : Prop where
  le : ∀ a ∈ l, lo a ≤ hi a
  apart : l.Pairwise fun a b => hi b + 1 < lo a

variable {lo hi} {l l' : List α} {a : α} {n : ℕ}

@[simp] theorem held_nil : held lo hi [] = ∅ := by
  ext n
  simp [held]

@[simp] theorem held_cons : held lo hi (a :: l) = Set.Icc (lo a) (hi a) ∪ held lo hi l := by
  ext n
  simp [held]

@[simp] theorem held_append : held lo hi (l ++ l') = held lo hi l ∪ held lo hi l' := by
  ext n
  simp only [held, Set.mem_ofPred_eq, List.mem_append, Set.mem_union]
  constructor
  · rintro ⟨a, ha | ha, hn⟩
    · exact .inl ⟨a, ha, hn⟩
    · exact .inr ⟨a, ha, hn⟩
  · rintro (⟨a, ha, hn⟩ | ⟨a, ha, hn⟩)
    · exact ⟨a, .inl ha, hn⟩
    · exact ⟨a, .inr ha, hn⟩

theorem separated_nil : Separated lo hi ([] : List α) := ⟨by simp, List.Pairwise.nil⟩

theorem separated_cons :
    Separated lo hi (a :: l) ↔ lo a ≤ hi a ∧ (∀ b ∈ l, hi b + 1 < lo a) ∧ Separated lo hi l := by
  constructor
  · rintro ⟨hle, hap⟩
    obtain ⟨hhead, htail⟩ := List.pairwise_cons.1 hap
    exact ⟨hle a List.mem_cons_self, hhead, fun b hb => hle b (List.mem_cons_of_mem _ hb), htail⟩
  · rintro ⟨hle, hhead, htail⟩
    exact ⟨List.forall_mem_cons.2 ⟨hle, htail.le⟩, List.pairwise_cons.2 ⟨hhead, htail.apart⟩⟩

theorem separated_append :
    Separated lo hi (l ++ l') ↔
      Separated lo hi l ∧ Separated lo hi l' ∧ ∀ a ∈ l, ∀ b ∈ l', hi b + 1 < lo a := by
  constructor
  · rintro ⟨hle, hap⟩
    obtain ⟨hl, hl', hcross⟩ := List.pairwise_append.1 hap
    exact ⟨⟨fun a ha => hle a (List.mem_append_left _ ha), hl⟩,
      ⟨fun a ha => hle a (List.mem_append_right _ ha), hl'⟩, hcross⟩
  · rintro ⟨hl, hl', hcross⟩
    refine ⟨fun a ha => ?_, List.pairwise_append.2 ⟨hl.apart, hl'.apart, hcross⟩⟩
    rcases List.mem_append.1 ha with ha | ha
    · exact hl.le a ha
    · exact hl'.le a ha

/-- Two intervals of the list are the same, or one lies above the other with a gap between them. -/
theorem Separated.eq_or_apart (h : Separated lo hi l) {a b : α} (ha : a ∈ l) (hb : b ∈ l) :
    a = b ∨ hi b + 1 < lo a ∨ hi a + 1 < lo b := by
  induction l with
  | nil => cases ha
  | cons c l ih =>
      obtain ⟨-, hhead, htail⟩ := separated_cons.1 h
      rcases List.mem_cons.1 ha with rfl | ha'
      · rcases List.mem_cons.1 hb with rfl | hb'
        · exact .inl rfl
        · exact .inr (.inl (hhead b hb'))
      · rcases List.mem_cons.1 hb with rfl | hb'
        · exact .inr (.inr (hhead a ha'))
        · exact ih htail ha' hb'

/-- The maximal intervals of the set end where the intervals of the list end. -/
theorem tops_held (h : Separated lo hi l) : tops (held lo hi l) = {n | ∃ a ∈ l, hi a = n} := by
  ext n
  constructor
  · rintro ⟨⟨a, ha, hlo, hhi⟩, hnext⟩
    refine ⟨a, ha, ?_⟩
    by_contra hne
    exact hnext ⟨a, ha, by omega, by omega⟩
  · rintro ⟨a, ha, rfl⟩
    refine ⟨⟨a, ha, h.le a ha, le_rfl⟩, ?_⟩
    rintro ⟨b, hb, hlo, hhi⟩
    have hle := h.le a ha
    rcases h.eq_or_apart ha hb with rfl | hab | hab <;> omega

theorem Separated.nodup_hi (h : Separated lo hi l) : (l.map hi).Nodup := by
  refine List.pairwise_map.2 (List.Pairwise.imp_of_mem (fun {a b} ha _ hab => ?_) h.apart)
  have hle := h.le a ha
  omega

/-- **One interval for each maximal one.** -/
theorem ncard_tops_held (h : Separated lo hi l) : (tops (held lo hi l)).ncard = l.length := by
  have hset : tops (held lo hi l) = ((l.map hi).toFinset : Set ℕ) := by
    rw [tops_held h]
    ext n
    simp
  rw [hset, Set.ncard_coe_finset, List.toFinset_card_of_nodup h.nodup_hi, List.length_map]

/-- **The lowest interval stands at the end.** -/
theorem dropLowest_held (h : Separated lo hi (l ++ [a])) :
    dropLowest (held lo hi (l ++ [a])) = held lo hi l := by
  obtain ⟨hl, ha, hcross⟩ := separated_append.1 h
  have hle := ha.le a List.mem_cons_self
  unfold dropLowest
  rw [tops_held h]
  ext n
  constructor
  · rintro ⟨⟨b, hb, hlo, hhi⟩, t, ⟨c, hc, rfl⟩, hlt⟩
    rcases List.mem_append.1 hb with hb | hb
    · exact ⟨b, hb, hlo, hhi⟩
    · obtain rfl := List.mem_singleton.1 hb
      rcases List.mem_append.1 hc with hc | hc
      · have := hcross c hc b hb
        have := hl.le c hc
        omega
      · obtain rfl := List.mem_singleton.1 hc
        omega
  · rintro ⟨b, hb, hlo, hhi⟩
    refine ⟨⟨b, List.mem_append_left _ hb, hlo, hhi⟩, hi a,
      ⟨a, List.mem_append_right _ List.mem_cons_self, rfl⟩, ?_⟩
    have := hcross b hb a List.mem_cons_self
    omega

end Rquic

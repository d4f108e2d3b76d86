import Mathlib.Data.List.Basic
import Mathlib.Data.List.Nodup
import Mathlib.Data.List.Pairwise
import Mathlib.Data.List.Perm.Basic
import Mathlib.Logic.Function.Basic
import Mathlib.Tactic.SplitIfs

set_option autoImplicit false

/-!
# Items on shelves

Items stand in lists, one list for each shelf. They are put on a shelf, taken from it, and moved to
another one.

* `items`: everything that stands on the shelves.
* **`items_update`**: one shelf is filled anew.
* `items_push`, `items_carry`: an item comes, and items are moved from one shelf to another.
* `shelf_unique`: without repetition, an item stands on one shelf.
-/

namespace Rquic

variable {ι α : Type}

/-- The items on the shelves `ps`. -/
def items (ps : List ι) (f : ι → List α) : List α := ps.flatMap f

section Items

variable {ps : List ι} {f g : ι → List α} {p q : ι} {x : α}

theorem mem_items : x ∈ items ps f ↔ ∃ p ∈ ps, x ∈ f p := List.mem_flatMap

theorem items_congr (h : ∀ p ∈ ps, g p = f p) : items ps g = items ps f := List.flatMap_congr h

theorem items_filter (keep : α → Bool) :
    items ps (fun p => (f p).filter keep) = (items ps f).filter keep := by
  unfold items
  rw [List.filter_flatMap]

theorem shelf_unique (hnodup : (items ps f).Nodup) (hp : p ∈ ps) (hq : q ∈ ps) (hxp : x ∈ f p)
    (hxq : x ∈ f q) : p = q := by
  by_contra hne
  have hsymm : Std.Symm (Function.onFun List.Disjoint f) := ⟨fun _ _ h _ hx hy => h hy hx⟩
  exact (List.nodup_flatMap.1 hnodup).2.forall hp hq hne hxp hxq

theorem nodup_shelf (hnodup : (items ps f).Nodup) (hp : p ∈ ps) : (f p).Nodup :=
  (List.nodup_flatMap.1 hnodup).1 p hp

end Items

section Update

variable [DecidableEq ι] {ps : List ι} {f : ι → List α} {p q : ι}

/-- **One shelf is filled anew.** -/
theorem items_update (hp : p ∈ ps) (hnodup : ps.Nodup) (l : List α) :
    (items ps (Function.update f p l) ++ f p).Perm (items ps f ++ l) := by
  induction ps with
  | nil => cases hp
  | cons q ps ih =>
      obtain ⟨hq, hnodup⟩ := List.nodup_cons.1 hnodup
      unfold items at ih ⊢
      rw [List.flatMap_cons, List.flatMap_cons]
      by_cases hpq : q = p
      · subst hpq
        have hrest : ps.flatMap (Function.update f q l) = ps.flatMap f := by
          refine List.flatMap_congr fun r hr => Function.update_of_ne ?_ _ _
          rintro rfl
          exact hq hr
        rw [hrest, Function.update_self]
        calc (l ++ ps.flatMap f ++ f q).Perm (f q ++ (l ++ ps.flatMap f)) := List.perm_append_comm
          _ |>.Perm (f q ++ (ps.flatMap f ++ l)) := List.perm_append_comm.append_left _
          _ = f q ++ ps.flatMap f ++ l := (List.append_assoc ..).symm
      · have hp' : p ∈ ps := (List.mem_cons.1 hp).resolve_left fun h => hpq h.symm
        rw [Function.update_of_ne hpq, List.append_assoc, List.append_assoc]
        exact (ih hp' hnodup).append_left _

theorem items_push (hp : p ∈ ps) (hnodup : ps.Nodup) (x : α) :
    (items ps (Function.update f p (f p ++ [x]))).Perm (x :: items ps f) := by
  have hupdate := @items_update _ _ _ ps f p hp hnodup (f p ++ [x])
  rw [← List.append_assoc] at hupdate
  have hswap : (items ps f ++ f p ++ [x]).Perm (x :: items ps f ++ f p) :=
    List.perm_append_comm
  exact (List.perm_append_right_iff _).1 (hupdate.trans hswap)

theorem items_carry (hp : p ∈ ps) (hq : q ∈ ps) (hne : p ≠ q) (hnodup : ps.Nodup) {l l' : List α}
    (hl : (l ++ l').Perm (f p ++ f q)) :
    (items ps (Function.update (Function.update f p l) q l')).Perm (items ps f) := by
  have hout := @items_update _ _ _ ps f p hp hnodup l
  have hin := @items_update _ _ _ ps (Function.update f p l) q hq hnodup l'
  rw [Function.update_of_ne hne.symm] at hin
  have hboth : (items ps (Function.update (Function.update f p l) q l') ++ (f q ++ f p)).Perm
      (items ps f ++ (l ++ l')) := by
    rw [← List.append_assoc, ← List.append_assoc]
    refine (hin.append_right _).trans ?_
    rw [List.append_assoc]
    refine (List.perm_append_comm.append_left _).trans ?_
    rw [← List.append_assoc]
    exact hout.append_right _
  have hswap : (items ps f ++ (l ++ l')).Perm (items ps f ++ (f q ++ f p)) :=
    (hl.trans List.perm_append_comm).append_left _
  exact (List.perm_append_right_iff _).1 (hboth.trans hswap)

end Update

theorem perm_cons_filter_ne [DecidableEq α] {l : List α} {x : α} (hnodup : l.Nodup) (hx : x ∈ l) :
    (x :: l.filter (· ≠ x)).Perm l := by
  have herase : l.filter (· ≠ x) = l.erase x := by
    rw [hnodup.erase_eq_filter]
    exact List.filter_congr fun y _ => by by_cases h : y = x <;> simp [h]
  rw [herase]
  exact (List.perm_cons_erase hx).symm

end Rquic

import Mathlib.Data.List.Basic
import Mathlib.Algebra.Order.Group.Nat

set_option autoImplicit false

/-!
# Readers with a position

A reader goes through a fixed list and takes note of where each field lies, so that one can say what a
reader on the rest of the list cannot: how far it went, and whether it went too far.

* `Cursor`, `CursorM`: the position with the fields so far, and the readers.
* `CursorM.field`: a reader on the rest of the list, as one field.
* `CursorM.take`: an advance without a look at the end.
* `Reads`: a reader with a position agrees with a reader on the rest of the list.
* `StaysIn`: a reader that succeeds goes forward, stays inside and has its fields there.
-/

namespace Rquic

/-- A position, and the fields read so far, each with its first position and the one behind it. -/
structure Cursor where
  pos : ℕ
  fields : List (ℕ × ℕ) := []
  deriving DecidableEq, Repr

/-- The readers with a position. -/
abbrev CursorM (ε α : Type) := StateT Cursor (Except ε) α

variable {α β γ ε : Type}

namespace CursorM

/-- A reader on the rest of the list `l`, as one field. -/
def field (l : List γ) (read : List γ → Except ε (α × List γ)) : CursorM ε α := fun s =>
  match read (l.drop s.pos) with
  | .error e => .error e
  | .ok (a, rest) =>
    let stop := s.pos + ((l.drop s.pos).length - rest.length)
    .ok (a, ⟨stop, s.fields ++ [(s.pos, stop)]⟩)

/-- What is left of the list. -/
def rest (l : List γ) : CursorM ε (List γ) := fun s => .ok (l.drop s.pos, s)

/-- One field of `n` elements, without a look at the end. -/
def take (l : List γ) (n : ℕ) : CursorM ε (List γ) := fun s =>
  .ok ((l.drop s.pos).take n, ⟨s.pos + n, s.fields ++ [(s.pos, s.pos + n)]⟩)

/-- An error. -/
def fail (e : ε) : CursorM ε α := fun _ => .error e

theorem bind_ok {m : CursorM ε α} {f : α → CursorM ε β} {s s'' : Cursor} {b : β}
    (h : (m >>= f) s = .ok (b, s'')) : ∃ a s', m s = .ok (a, s') ∧ f a s' = .ok (b, s'') := by
  change (m s >>= fun r => f r.1 r.2) = _ at h
  cases hres : m s with
  | error e => rw [hres] at h; cases h
  | ok r =>
      rw [hres] at h
      exact ⟨r.1, r.2, rfl, h⟩

theorem pure_ok {a b : α} {s s' : Cursor} (h : (pure a : CursorM ε α) s = .ok (b, s')) :
    a = b ∧ s = s' := Prod.mk.inj (Except.ok.inj h)

theorem field_ok {l : List γ} {read : List γ → Except ε (α × List γ)} {s s' : Cursor} {a : α}
    (h : CursorM.field l read s = .ok (a, s')) : ∃ rest, read (l.drop s.pos) = .ok (a, rest) ∧
      s' = ⟨s.pos + ((l.drop s.pos).length - rest.length),
        s.fields ++ [(s.pos, s.pos + ((l.drop s.pos).length - rest.length))]⟩ := by
  unfold CursorM.field at h
  cases hread : read (l.drop s.pos) with
  | error e => rw [hread] at h; cases h
  | ok r =>
      rw [hread] at h
      obtain ⟨rfl, rfl⟩ := Prod.mk.inj (Except.ok.inj h)
      exact ⟨r.2, rfl, rfl⟩

end CursorM

/-! ## Agreement -/

/-- The reader `m` on the list `l` agrees with the reader `read` on the rest of it. -/
def Reads (l : List γ) (m : CursorM ε α) (read : List γ → Except ε (α × List γ)) : Prop :=
  ∀ s, read (l.drop s.pos) = (m s).map fun r => (r.1, l.drop r.2.pos)

/-- A reader takes a prefix of its input. -/
def TakesPrefix (read : List γ → Except ε (α × List γ)) : Prop :=
  ∀ l a rest, read l = .ok (a, rest) → ∃ k ≤ l.length, rest = l.drop k

variable {l : List γ} {m : CursorM ε α} {read : List γ → Except ε (α × List γ)}

theorem reads_field (h : TakesPrefix read) : Reads l (.field l read) read := by
  intro s
  unfold CursorM.field
  cases hread : read (l.drop s.pos) with
  | error e => rfl
  | ok r =>
      obtain ⟨a, rest⟩ := r
      obtain ⟨k, hk, rfl⟩ := h _ _ _ hread
      have hstop : (l.drop s.pos).length - ((l.drop s.pos).drop k).length = k := by
        rw [List.length_drop (i := k)]
        omega
      simp only [Except.map]
      rw [hstop, List.drop_drop]

theorem reads_pure (a : α) : Reads l (pure a : CursorM ε α) fun bs => .ok (a, bs) := fun _ => rfl

theorem reads_fail (e : ε) : Reads l (.fail e : CursorM ε α) fun _ => .error e := fun _ => rfl

theorem reads_take (n : ℕ) (mk : List γ → α) :
    Reads l (CursorM.take l n >>= fun a => pure (mk a) : CursorM ε α)
      fun bs => .ok (mk (bs.take n), bs.drop n) := by
  intro s
  change _ = Except.ok (mk ((l.drop s.pos).take n), l.drop (s.pos + n))
  rw [← List.drop_drop]

theorem Reads.bind {f : α → CursorM ε β} {g : α × List γ → Except ε (β × List γ)}
    (hm : Reads l m read) (hf : ∀ a, Reads l (f a) fun bs => g (a, bs)) :
    Reads l (m >>= f) fun bs => read bs >>= g := by
  intro s
  have hs := hm s
  change (read (l.drop s.pos) >>= g) = (m s >>= fun r => f r.1 r.2).map _
  rw [hs]
  cases m s with
  | error e => rfl
  | ok r => exact hf r.1 r.2

theorem Reads.rest_bind {f : List γ → CursorM ε β} {g : List γ → List γ → Except ε (β × List γ)}
    (hf : ∀ bs, Reads l (f bs) (g bs)) :
    Reads l (CursorM.rest l >>= f) fun bs => g bs bs := fun s => hf _ s

theorem Reads.guard {n : ℕ} {e : ε} (h : Reads l m read) :
    Reads l (CursorM.rest l >>= fun bs => if bs.length < n then .fail e else m)
      fun bs => if bs.length < n then .error e else read bs := by
  apply Reads.rest_bind (g := fun bs bs' => if bs.length < n then .error e else read bs')
  intro bs s
  by_cases hlt : bs.length < n
  · simp only [if_pos hlt]
    rfl
  · simpa only [if_neg hlt] using h s

theorem Reads.ite {P : Prop} [Decidable P] {m' : CursorM ε α}
    {read' : List γ → Except ε (α × List γ)} (h : Reads l m read) (h' : Reads l m' read') :
    Reads l (if P then m else m') fun bs => if P then read bs else read' bs := by
  by_cases hP : P
  · simpa only [if_pos hP] using h
  · simpa only [if_neg hP] using h'

/-! ## Staying inside -/

/-- `s'` is ahead of `s`, not beyond `n`, and so are the fields in between. -/
structure Onward (n : ℕ) (s s' : Cursor) : Prop where
  le : s.pos ≤ s'.pos
  inside : s'.pos ≤ n
  fields : ∃ new, s'.fields = s.fields ++ new ∧ ∀ f ∈ new, s.pos ≤ f.1 ∧ f.1 ≤ f.2 ∧ f.2 ≤ s'.pos

/-- A reader that succeeds goes forward and stays inside. -/
def StaysIn (n : ℕ) (m : CursorM ε α) : Prop :=
  ∀ s a s', s.pos ≤ n → m s = .ok (a, s') → Onward n s s'

variable {n : ℕ} {s s' s'' : Cursor}

theorem Onward.refl (h : s.pos ≤ n) : Onward n s s :=
  ⟨le_rfl, h, [], (List.append_nil _).symm, by simp⟩

theorem Onward.trans (h : Onward n s s') (h' : Onward n s' s'') : Onward n s s'' := by
  obtain ⟨new, hnew, hin⟩ := h.fields
  obtain ⟨new', hnew', hin'⟩ := h'.fields
  refine ⟨h.le.trans h'.le, h'.inside, new ++ new', by rw [hnew', hnew, List.append_assoc], ?_⟩
  intro f hf
  rcases List.mem_append.1 hf with hf | hf
  · have hf := hin f hf
    exact ⟨hf.1, hf.2.1, hf.2.2.trans h'.le⟩
  · have hf := hin' f hf
    exact ⟨h.le.trans hf.1, hf.2⟩

theorem Onward.field {stop : ℕ} (hle : s.pos ≤ stop) (hin : stop ≤ n) :
    Onward n s ⟨stop, s.fields ++ [(s.pos, stop)]⟩ :=
  ⟨hle, hin, [(s.pos, stop)], rfl, by simpa using hle⟩

theorem staysIn_pure (a : α) : StaysIn n (pure a : CursorM ε α) := by
  intro s b s' hs h
  obtain ⟨-, rfl⟩ := Prod.mk.inj (Except.ok.inj h)
  exact .refl hs

theorem staysIn_fail (e : ε) : StaysIn n (.fail e : CursorM ε α) := fun _ _ _ _ h => nomatch h

theorem onward_take {k : ℕ} (mk : List γ → α) {a : α} (hk : k ≤ (l.drop s.pos).length)
    (hs : s.pos ≤ l.length)
    (h : (CursorM.take l k >>= fun x => pure (mk x) : CursorM ε α) s = .ok (a, s')) :
    Onward l.length s s' := by
  obtain ⟨-, rfl⟩ := Prod.mk.inj (Except.ok.inj h)
  rw [List.length_drop] at hk
  exact .field (Nat.le_add_right _ _) (by omega)

theorem staysIn_field (read : List γ → Except ε (α × List γ)) :
    StaysIn l.length (.field l read : CursorM ε α) := by
  intro s a s' hs h
  obtain ⟨rest, -, rfl⟩ := CursorM.field_ok h
  refine .field (Nat.le_add_right _ _) ?_
  rw [List.length_drop]
  omega

/-- The second reader starts where the first one has left what `P` says. -/
theorem StaysIn.bind_with {m : CursorM ε α} {f : α → CursorM ε β} (P : α → Cursor → Prop)
    (hm : StaysIn n m) (hP : ∀ s a s', s.pos ≤ n → m s = .ok (a, s') → P a s')
    (hf : ∀ a s b s', P a s → s.pos ≤ n → f a s = .ok (b, s') → Onward n s s') :
    StaysIn n (m >>= f) := by
  intro s b s'' hs h
  obtain ⟨a, s', ha, hb⟩ := CursorM.bind_ok h
  have hfirst := hm s a s' hs ha
  exact hfirst.trans (hf a s' b s'' (hP s a s' hs ha) hfirst.inside hb)

theorem StaysIn.bind {m : CursorM ε α} {f : α → CursorM ε β} (hm : StaysIn n m)
    (hf : ∀ a, StaysIn n (f a)) : StaysIn n (m >>= f) :=
  hm.bind_with (fun _ _ => True) (fun _ _ _ _ _ => trivial) fun a s b s' _ => hf a s b s'

/-- A comparison with what is left, for the reader behind it. -/
theorem StaysIn.guard {m : CursorM ε β} {k : ℕ} {e : ε}
    (hm : ∀ s b s', s.pos ≤ l.length → k ≤ (l.drop s.pos).length → m s = .ok (b, s') →
      Onward l.length s s') :
    StaysIn l.length (CursorM.rest l >>= fun bs => if bs.length < k then .fail e else m) := by
  intro s b s' hs h
  change (if (l.drop s.pos).length < k then .fail e else m) s = _ at h
  by_cases hlt : (l.drop s.pos).length < k
  · rw [if_pos hlt] at h
    cases h
  · rw [if_neg hlt] at h
    exact hm s b s' hs (not_lt.1 hlt) h

theorem StaysIn.ite {P : Prop} [Decidable P] {m m' : CursorM ε α} (h : StaysIn n m)
    (h' : StaysIn n m') : StaysIn n (if P then m else m') := by
  by_cases hP : P
  · rwa [if_pos hP]
  · rwa [if_neg hP]

end Rquic

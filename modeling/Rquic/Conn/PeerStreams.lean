import Rquic.Conn.Packets

set_option autoImplicit false

/-!
# Streams are created once

A stream id names one stream for the life of the connection. The peer's ids are kept in
`passive_streams_hash` together with a high-water mark for each direction: an id above the mark was
never seen, an id below it that is not in the table was closed.

* `Conn.life`: the streams that came and went, in order.
* `LifeInv`: what the table and the marks say about that history.
* **`ConnStep.lifeInv`**: every step keeps it.
* **`peer_streams_once`**: no id is created twice, the table holds what it should, and no stream is
  created beyond the limit.
-/

namespace Rquic

/-! ## The history of streams -/

/-- The entry says that a stream came or went. -/
def LogEntry.isLife : LogEntry → Bool
  | .opened _ | .destroyed _ => true
  | _ => false

/-- The streams that came and went. -/
def Conn.life (c : Conn) : List LogEntry := c.log.filter LogEntry.isLife

/-- The stream was created. -/
def Conn.Opened (c : Conn) (id : StreamId) : Prop := .opened id ∈ c.life

/-- The stream was destroyed. -/
def Conn.Destroyed (c : Conn) (id : StreamId) : Prop := ∃ s, .destroyed s ∈ c.life ∧ s.streamId = id

/-- The number of streams of a type that the endpoint has opened. -/
def Conn.curLocal (c : Conn) (t : StreamType) : ℕ :=
  if t.isBidi then c.curStreamIdBidiLocal else c.curStreamIdUniLocal

/-- The id is one that the endpoint opens itself. -/
def Conn.isLocalId (c : Conn) (id : StreamId) : Bool := (getStreamType id).isLocal c.connType

/-- What the tables say about the history. -/
structure LifeInv (c : Conn) : Prop where
  keyed : c.Keyed
  stored : ∀ id s, c.streams id = some s → c.Opened id
  gone : ∀ id, c.Opened id → c.streams id = none → c.Destroyed id
  destroyed : ∀ id, c.Destroyed id → c.streams id = none ∧ c.Opened id
  once : ∀ id, c.life.count (.opened id) ≤ 1
  own : ∀ id, c.Opened id → c.isLocalId id = true → id / 4 < c.curLocal (getStreamType id)
  peer : ∀ id, c.Opened id → c.isLocalId id = false →
    ((id / 4 : ℕ) : ℤ) ≤ c.maxRemote (getStreamType id)
  passive : ∀ id, c.passiveStreams id = true ↔ c.isLocalId id = false ∧
    ((id / 4 : ℕ) : ℤ) ≤ c.maxRemote (getStreamType id) ∧ ¬ c.Destroyed id

/-- The step has nothing to do with the streams that come and go. -/
structure Quiet (c c' : Conn) : Prop where
  stored : ∀ id, (c'.streams id).isSome = (c.streams id).isSome
  passiveStreams : c'.passiveStreams = c.passiveStreams
  maxRemote : c'.maxRemote = c.maxRemote
  curLocal : c'.curLocal = c.curLocal
  connType : c'.connType = c.connType
  life : c'.life = c.life

section Life

variable {allow : ConnAct → Prop} {c c' : Conn}

theorem Conn.life_append (entry : LogEntry) (h : c'.log = c.log ++ [entry]) :
    c'.life = c.life ++ [entry].filter LogEntry.isLife := by
  unfold Conn.life
  rw [h, List.filter_append]

theorem Conn.life_of_silent {entry : LogEntry} (hentry : entry.isLife = false)
    (h : c'.log = c.log ++ [entry]) : c'.life = c.life := by
  rw [Conn.life_append entry h, List.filter_cons_of_neg (by simp [hentry]), List.filter_nil,
    List.append_nil]

theorem Conn.life_of_life {entry : LogEntry} (hentry : entry.isLife = true)
    (h : c'.log = c.log ++ [entry]) : c'.life = c.life ++ [entry] := by
  rw [Conn.life_append entry h, List.filter_cons_of_pos hentry, List.filter_nil]

theorem isSome_update {s s' : Stream} (hs : c.streams s.streamId = some s)
    (hid : s'.streamId = s.streamId) (id : StreamId) :
    ((c.setStream s').streams id).isSome = (c.streams id).isSome := by
  by_cases heq : id = s'.streamId
  · subst heq
    rw [Conn.setStream_streams_self, hid, hs]
    rfl
  · rw [Conn.setStream_streams_of_ne c s' heq]

theorem Quiet.write (c : Conn) (f : ControlFrame) : Quiet c (c.write f).1 := by
  have hlife : (c.write f).1.life = c.life := by
    rcases c.write_log f with h | h
    · unfold Conn.life
      rw [h]
    · exact Conn.life_of_silent rfl h
  have hframe := c.write_frame f
  generalize (c.write f).1 = c' at hframe hlife ⊢
  rw [hframe]
  exact ⟨fun _ => rfl, rfl, rfl, rfl, rfl, by rw [← hframe]; exact hlife⟩

theorem LifeInv.quiet (hinv : LifeInv c) (hquiet : Quiet c c') (hkeyed : c'.Keyed) : LifeInv c' := by
  have hopened : ∀ id, c'.Opened id ↔ c.Opened id := fun id => by
    unfold Conn.Opened
    rw [hquiet.life]
  have hdestroyed : ∀ id, c'.Destroyed id ↔ c.Destroyed id := fun id => by
    unfold Conn.Destroyed
    rw [hquiet.life]
  have hlocal : ∀ id, c'.isLocalId id = c.isLocalId id := fun id => by
    unfold Conn.isLocalId
    rw [hquiet.connType]
  have hnone : ∀ id, c'.streams id = none ↔ c.streams id = none := fun id => by
    rw [← Option.isNone_iff_eq_none, ← Option.isNone_iff_eq_none, ← Option.not_isSome,
      ← Option.not_isSome, hquiet.stored id]
  refine ⟨hkeyed, fun id s hs => ?_, fun id ho hn => ?_, fun id hd => ?_, fun id => ?_,
    fun id ho hl => ?_, fun id ho hl => ?_, fun id => ?_⟩
  · have hsome : (c.streams id).isSome = true := by
      rw [← hquiet.stored id, hs]
      rfl
    obtain ⟨s₀, hs₀⟩ := Option.isSome_iff_exists.1 hsome
    exact (hopened id).2 (hinv.stored id s₀ hs₀)
  · exact (hdestroyed id).2 (hinv.gone id ((hopened id).1 ho) ((hnone id).1 hn))
  · obtain ⟨hn, ho⟩ := hinv.destroyed id ((hdestroyed id).1 hd)
    exact ⟨(hnone id).2 hn, (hopened id).2 ho⟩
  · rw [hquiet.life]
    exact hinv.once id
  · rw [hquiet.curLocal]
    exact hinv.own id ((hopened id).1 ho) ((hlocal id).symm.trans hl)
  · rw [hquiet.maxRemote]
    exact hinv.peer id ((hopened id).1 ho) ((hlocal id).symm.trans hl)
  · rw [hquiet.passiveStreams, hquiet.maxRemote, hlocal, hdestroyed]
    exact hinv.passive id

theorem isLocalId_congr (h : c'.connType = c.connType) (id : StreamId) :
    c'.isLocalId id = c.isLocalId id := by
  unfold Conn.isLocalId
  rw [h]

theorem LifeInv.opened (hinv : LifeInv c) {s : Stream}
    (hstreams : c'.streams = Function.update c.streams s.streamId (some s))
    (hlog : c'.log = c.log ++ [.opened s.streamId]) (hpassive : c'.passiveStreams = c.passiveStreams)
    (hmax : c'.maxRemote = c.maxRemote) (htype : c'.connType = c.connType)
    (hcur : ∀ t, c.curLocal t ≤ c'.curLocal t) (hkeyed : c'.Keyed) (hnew : ¬ c.Opened s.streamId)
    (hown : c.isLocalId s.streamId = true →
      s.streamId / 4 < c'.curLocal (getStreamType s.streamId))
    (hpeer : c.isLocalId s.streamId = false →
      ((s.streamId / 4 : ℕ) : ℤ) ≤ c.maxRemote (getStreamType s.streamId)) : LifeInv c' := by
  have hlife : c'.life = c.life ++ [.opened s.streamId] := Conn.life_of_life rfl hlog
  have hopened : ∀ id, c'.Opened id ↔ c.Opened id ∨ id = s.streamId := fun id => by
    unfold Conn.Opened
    rw [hlife, List.mem_append, List.mem_singleton, LogEntry.opened.injEq]
  have hdestroyed : ∀ id, c'.Destroyed id ↔ c.Destroyed id := fun id => by
    unfold Conn.Destroyed
    simp only [hlife, List.mem_append, List.mem_singleton, reduceCtorEq, or_false]
  have hne : ∀ id, c'.streams id = none → id ≠ s.streamId ∧ c.streams id = none := by
    intro id hn
    have hne : id ≠ s.streamId := by
      rintro rfl
      rw [hstreams, Function.update_self] at hn
      cases hn
    rw [hstreams, Function.update_of_ne hne] at hn
    exact ⟨hne, hn⟩
  have hgone : ¬ c.Destroyed s.streamId := fun hd => hnew (hinv.destroyed _ hd).2
  refine ⟨hkeyed, fun id s' hs' => ?_, fun id ho hn => ?_, fun id hd => ?_, fun id => ?_,
    fun id ho hl => ?_, fun id ho hl => ?_, fun id => ?_⟩
  · by_cases heq : id = s.streamId
    · exact (hopened id).2 (.inr heq)
    · rw [hstreams, Function.update_of_ne heq] at hs'
      exact (hopened id).2 (.inl (hinv.stored id s' hs'))
  · obtain ⟨hid, hn'⟩ := hne id hn
    have ho' := ((hopened id).1 ho).resolve_right hid
    exact (hdestroyed id).2 (hinv.gone id ho' hn')
  · have hd' := (hdestroyed id).1 hd
    obtain ⟨hn, ho⟩ := hinv.destroyed id hd'
    have hid : id ≠ s.streamId := by
      rintro rfl
      exact hgone hd'
    refine ⟨?_, (hopened id).2 (.inl ho)⟩
    rw [hstreams, Function.update_of_ne hid]
    exact hn
  · rw [hlife, List.count_append, List.count_singleton]
    by_cases heq : id = s.streamId
    · have hzero : c.life.count (.opened id) = 0 := List.count_eq_zero.2 (by rw [heq]; exact hnew)
      rw [hzero]
      split_ifs <;> omega
    · rw [if_neg (by simpa using Ne.symm heq)]
      exact hinv.once id
  · rw [isLocalId_congr htype] at hl
    rcases (hopened id).1 ho with ho' | rfl
    · exact lt_of_lt_of_le (hinv.own id ho' hl) (hcur _)
    · exact hown hl
  · rw [isLocalId_congr htype] at hl
    rw [hmax]
    rcases (hopened id).1 ho with ho' | rfl
    · exact hinv.peer id ho' hl
    · exact hpeer hl
  · rw [hpassive, hmax, isLocalId_congr htype, hdestroyed]
    exact hinv.passive id

theorem LifeInv.destroy (hinv : LifeInv c) {id : StreamId} {s : Stream}
    (hs : c.streams id = some s) : LifeInv (destroyStream c id) := by
  have hid := hinv.keyed id s hs
  have hlog : (destroyStream c id).log = c.log ++ [.destroyed s] := by
    unfold destroyStream
    rw [hs]
    rfl
  have hlife : (destroyStream c id).life = c.life ++ [.destroyed s] := Conn.life_of_life rfl hlog
  have hopened : ∀ id', (destroyStream c id).Opened id' ↔ c.Opened id' := fun id' => by
    unfold Conn.Opened
    simp only [hlife, List.mem_append, List.mem_singleton, reduceCtorEq, or_false]
  have hdestroyed : ∀ id', (destroyStream c id).Destroyed id' ↔ c.Destroyed id' ∨ id' = id := by
    intro id'
    unfold Conn.Destroyed
    simp only [hlife, List.mem_append, List.mem_singleton, LogEntry.destroyed.injEq]
    constructor
    · rintro ⟨s', hs' | rfl, rfl⟩
      · exact .inl ⟨s', hs', rfl⟩
      · exact .inr hid
    · rintro (⟨s', hs', rfl⟩ | rfl)
      · exact ⟨s', .inl hs', rfl⟩
      · exact ⟨s, .inr rfl, hid⟩
  have hstreams : (destroyStream c id).streams = Function.update c.streams id none := rfl
  refine ⟨fun id' s' hs' => ?_, fun id' s' hs' => ?_, fun id' ho hn => ?_, fun id' hd => ?_,
    fun id' => ?_, fun id' ho hl => hinv.own id' ((hopened id').1 ho) hl,
    fun id' ho hl => hinv.peer id' ((hopened id').1 ho) hl, fun id' => ?_⟩
  · by_cases heq : id' = id
    · subst heq
      rw [hstreams, Function.update_self] at hs'
      cases hs'
    · rw [hstreams, Function.update_of_ne heq] at hs'
      exact hinv.keyed id' s' hs'
  · by_cases heq : id' = id
    · subst heq
      exact (hopened id').2 (hinv.stored id' s hs)
    · rw [hstreams, Function.update_of_ne heq] at hs'
      exact (hopened id').2 (hinv.stored id' s' hs')
  · by_cases heq : id' = id
    · exact (hdestroyed id').2 (.inr heq)
    · rw [hstreams, Function.update_of_ne heq] at hn
      exact (hdestroyed id').2 (.inl (hinv.gone id' ((hopened id').1 ho) hn))
  · by_cases heq : id' = id
    · subst heq
      exact ⟨by rw [hstreams, Function.update_self], (hopened id').2 (hinv.stored id' s hs)⟩
    · obtain ⟨hn, ho⟩ := hinv.destroyed id' (((hdestroyed id').1 hd).resolve_right heq)
      refine ⟨?_, (hopened id').2 ho⟩
      rw [hstreams, Function.update_of_ne heq]
      exact hn
  · rw [hlife, List.count_append, List.count_singleton, if_neg (by simp)]
    exact hinv.once id'
  · have hpass : (destroyStream c id).passiveStreams = Function.update c.passiveStreams id false := rfl
    rw [hpass, hdestroyed]
    by_cases heq : id' = id
    · subst heq
      rw [Function.update_self]
      exact ⟨nofun, fun h => absurd (.inr rfl) h.2.2⟩
    · rw [Function.update_of_ne heq]
      have hiff : ((destroyStream c id).isLocalId id' = false ∧
          ((id' / 4 : ℕ) : ℤ) ≤ (destroyStream c id).maxRemote (getStreamType id') ∧
          ¬ (c.Destroyed id' ∨ id' = id)) ↔ (c.isLocalId id' = false ∧
          ((id' / 4 : ℕ) : ℤ) ≤ c.maxRemote (getStreamType id') ∧ ¬ c.Destroyed id') := by
        rw [or_iff_left heq]
        exact Iff.rfl
      exact (hinv.passive id').trans hiff.symm

theorem StreamType.eq_of_peer {connType : ConnType} {t t' : StreamType}
    (h : t.isLocal connType = false) (h' : t'.isLocal connType = false)
    (hbidi : t.isBidi = t'.isBidi) : t = t' := by
  cases connType <;> cases t <;> cases t' <;>
    first | rfl | exact absurd h (by decide) | exact absurd h' (by decide) | exact absurd hbidi (by decide)

/-- The streams of a type up to an id that was not seen before are open now. -/
theorem LifeInv.openRange (hinv : LifeInv c) {id : StreamId} (hlocal : c.isLocalId id = false)
    (hlt : c.maxRemote (getStreamType id) < (id / 4 : ℕ)) (hstreams : c'.streams = c.streams)
    (hlog : c'.log = c.log) (htype : c'.connType = c.connType) (hcur : c'.curLocal = c.curLocal)
    (hmax : ∀ t, c'.maxRemote t =
      if t.isBidi = (getStreamType id).isBidi then ((id / 4 : ℕ) : ℤ) else c.maxRemote t)
    (hpassive : ∀ id', c'.passiveStreams id' = (c.passiveStreams id' ||
      decide (getStreamType id' = getStreamType id ∧
        c.maxRemote (getStreamType id) < (id' / 4 : ℕ) ∧ id' / 4 ≤ id / 4))) :
    LifeInv c' := by
  have hlife : c'.life = c.life := by
    unfold Conn.life
    rw [hlog]
  have hopened : ∀ id', c'.Opened id' ↔ c.Opened id' := fun id' => by
    unfold Conn.Opened
    rw [hlife]
  have hdestroyed : ∀ id', c'.Destroyed id' ↔ c.Destroyed id' := fun id' => by
    unfold Conn.Destroyed
    rw [hlife]
  -- the mark only goes up
  have hle : ∀ t, t.isLocal c.connType = false → c.maxRemote t ≤ c'.maxRemote t := by
    intro t ht
    rw [hmax]
    split_ifs with hbidi
    · rw [StreamType.eq_of_peer ht hlocal hbidi]
      exact hlt.le
    · exact le_rfl
  refine ⟨fun id' s hs => hinv.keyed id' s (hstreams ▸ hs),
    fun id' s hs => (hopened id').2 (hinv.stored id' s (hstreams ▸ hs)),
    fun id' ho hn => (hdestroyed id').2 (hinv.gone id' ((hopened id').1 ho) (hstreams ▸ hn)),
    fun id' hd => ?_, fun id' => ?_, fun id' ho hl => ?_, fun id' ho hl => ?_, fun id' => ?_⟩
  · obtain ⟨hn, ho⟩ := hinv.destroyed id' ((hdestroyed id').1 hd)
    exact ⟨by rw [hstreams]; exact hn, (hopened id').2 ho⟩
  · rw [hlife]
    exact hinv.once id'
  · rw [hcur]
    rw [isLocalId_congr htype] at hl
    exact hinv.own id' ((hopened id').1 ho) hl
  · rw [isLocalId_congr htype] at hl
    exact (hinv.peer id' ((hopened id').1 ho) hl).trans (hle _ hl)
  · rw [hpassive, isLocalId_congr htype, hdestroyed, Bool.or_eq_true, decide_eq_true_eq, hinv.passive,
      hmax]
    constructor
    · rintro (⟨hl, hm, hd⟩ | ⟨ht, hm, hm'⟩)
      · have hm' := hm.trans (hle _ hl)
        rw [hmax] at hm'
        exact ⟨hl, hm', hd⟩
      · have hl : c.isLocalId id' = false := by
          unfold Conn.isLocalId at hlocal ⊢
          rw [ht]
          exact hlocal
        refine ⟨hl, ?_, fun hd => ?_⟩
        · rw [ht, if_pos rfl]
          exact_mod_cast hm'
        · -- a stream above the mark was never there
          have hpeer := hinv.peer id' (hinv.destroyed id' hd).2 hl
          rw [ht] at hpeer
          omega
    · rintro ⟨hl, hm, hd⟩
      by_cases hbidi : (getStreamType id').isBidi = (getStreamType id).isBidi
      · rw [if_pos hbidi] at hm
        have ht := StreamType.eq_of_peer hl hlocal hbidi
        by_cases hseen : ((id' / 4 : ℕ) : ℤ) ≤ c.maxRemote (getStreamType id)
        · exact .inl ⟨hl, by rw [ht]; exact hseen, hd⟩
        · exact .inr ⟨ht, not_le.1 hseen, by exact_mod_cast hm⟩
      · rw [if_neg hbidi] at hm
        exact .inl ⟨hl, hm, hd⟩

theorem LifeInv.openPassive (hinv : LifeInv c) {id : StreamId} (hlocal : c.isLocalId id = false)
    (h : openPassive c id = some c') : LifeInv c' := by
  unfold Rquic.openPassive at h
  split_ifs at h with hbidi huni hpass
  · obtain rfl := Option.some.inj h
    have hmark : c.maxRemote (getStreamType id) = c.maxStreamIdBidiRemote := if_pos hbidi.1
    rw [insertPassiveStreamHash_frame]
    refine hinv.openRange hlocal (by rw [hmark]; exact hbidi.2) rfl rfl rfl rfl ?_ ?_
    · intro t
      rw [hbidi.1]
      unfold Conn.maxRemote
      cases t.isBidi <;> rfl
    · intro id'
      rw [hmark]
  · obtain rfl := Option.some.inj h
    have hmark : c.maxRemote (getStreamType id) = c.maxStreamIdUniRemote := if_neg (by simp [huni.1])
    rw [insertPassiveStreamHash_frame]
    refine hinv.openRange hlocal (by rw [hmark]; exact huni.2) rfl rfl rfl rfl ?_ ?_
    · intro t
      rw [huni.1]
      unfold Conn.maxRemote
      cases t.isBidi <;> rfl
    · intro id'
      rw [hmark]
  · obtain rfl := Option.some.inj h
    exact hinv

theorem LifeInv.openPeer (hinv : LifeInv c) {id : StreamId} (hlocal : c.isLocalId id = false)
    (hnone : c.streams id = none) (hpassive : c.passiveStreams id = true) (accept : Bool)
    (hkeyed : (insertStream c id (getStreamType id) none false accept).1.Keyed) :
    LifeInv (insertStream c id (getStreamType id) none false accept).1 := by
  obtain ⟨s, rfl, -, -, heq⟩ := insertStream_of_none hnone (getStreamType id) none false accept
  rw [heq] at hkeyed ⊢
  obtain ⟨-, hmark, hgone⟩ := (hinv.passive _).1 hpassive
  refine hinv.opened rfl rfl rfl rfl rfl (fun _ => le_rfl) hkeyed
    (fun ho => hgone (hinv.gone _ ho hnone)) (fun h => ?_) fun _ => hmark
  rw [hlocal] at h
  cases h

theorem LifeInv.openLocal (hinv : LifeInv c) {t : StreamType} (ht : t.isLocal c.connType = true)
    {settings : Option StreamSettings} {accept : Bool} {n : ℕ} (hn : n = c.curLocal t)
    (hkeyed : (insertStream c' (4 * n + t.toNat) t settings true accept).1.Keyed)
    (hstreams : c'.streams = c.streams) (hlog : c'.log = c.log)
    (hpassive : c'.passiveStreams = c.passiveStreams) (hmax : c'.maxRemote = c.maxRemote)
    (htype : c'.connType = c.connType)
    (hcur : ∀ t', c'.curLocal t' = c.curLocal t' + if t'.isBidi = t.isBidi then 1 else 0) :
    LifeInv (insertStream c' (4 * n + t.toNat) t settings true accept).1 := by
  subst hn
  have hidType : getStreamType (4 * c.curLocal t + t.toNat) = t := getStreamType_index _ t
  have hindex : (4 * c.curLocal t + t.toNat) / 4 = c.curLocal t := by
    have hlt : t.toNat < 4 := by cases t <;> decide
    omega
  have hlocal : c.isLocalId (4 * c.curLocal t + t.toNat) = true := by
    unfold Conn.isLocalId
    rw [hidType]
    exact ht
  have hnew : ¬ c.Opened (4 * c.curLocal t + t.toNat) := by
    intro ho
    have hlt := hinv.own _ ho hlocal
    rw [hindex, hidType] at hlt
    exact lt_irrefl _ hlt
  have hnone : c.streams (4 * c.curLocal t + t.toNat) = none := by
    cases hs : c.streams (4 * c.curLocal t + t.toNat) with
    | none => rfl
    | some s => exact absurd (hinv.stored _ s hs) hnew
  obtain ⟨s, hid, -, -, heq⟩ := insertStream_of_none (c := c')
    (by rw [hstreams]; exact hnone) t settings true accept
  rw [heq] at hkeyed ⊢
  rw [← hid] at hnew hlocal hindex hidType hkeyed ⊢
  refine hinv.opened ?_ ?_ hpassive hmax htype (fun t' => ?_) hkeyed hnew (fun _ => ?_) fun h => ?_
  · rw [← hstreams]
    rfl
  · rw [← hlog]
    rfl
  · exact (Nat.le_add_right _ _).trans_eq (hcur t').symm
  · rw [hidType, hindex]
    exact Nat.lt_of_lt_of_eq (Nat.lt_succ_self _) ((hcur t).trans (by rw [if_pos rfl])).symm
  · rw [hlocal] at h
    cases h

theorem Quiet.setStream {s s' : Stream} (hs : c.streams s.streamId = some s)
    (hstreams : c'.streams = (c.setStream s').streams) (hid : s'.streamId = s.streamId)
    (hpassive : c'.passiveStreams = c.passiveStreams) (hmax : c'.maxRemote = c.maxRemote)
    (hcur : c'.curLocal = c.curLocal) (htype : c'.connType = c.connType)
    (hlife : c'.life = c.life) : Quiet c c' :=
  ⟨fun id => by rw [hstreams]; exact isSome_update hs hid id, hpassive, hmax, hcur, htype, hlife⟩

/-- What a step does to the streams that come and go. -/
inductive ConnLife (allow : ConnAct → Prop) (c : Conn) : Conn → Prop where
  | quiet {c' : Conn} (h : Quiet c c') : ConnLife allow c c'
  | range {c' : Conn} (id : StreamId) (hpeer : c.isLocalId id = false)
      (h : openPassive c id = some c') : ConnLife allow c c'
  | openPeer (id : StreamId) (accept : Bool) (hpeer : c.isLocalId id = false)
      (hnone : c.streams id = none) (hpassive : c.passiveStreams id = true)
      (hallow : allow (.openPeer id)) :
      ConnLife allow c (insertStream c id (getStreamType id) none false accept).1
  | openLocal (t : StreamType) (settings : Option StreamSettings) (accept : Bool)
      (ht : t.isLocal c.connType = true)
      (hlimit : (if t.isBidi then c.curStreamIdBidiLocal else c.curStreamIdUniLocal) <
        (if t.isBidi then c.connFlowCtl.maxStreamsBidiCanSend
          else c.connFlowCtl.maxStreamsUniCanSend)) :
      ConnLife allow c
        (if t.isBidi then
          insertStream { c with curStreamIdBidiLocal := c.curStreamIdBidiLocal + 1 }
            (4 * c.curStreamIdBidiLocal + t.toNat) t settings true accept
        else
          insertStream { c with curStreamIdUniLocal := c.curStreamIdUniLocal + 1 }
            (4 * c.curStreamIdUniLocal + t.toNat) t settings true accept).1
  | destroy (id : StreamId) (s : Stream) (hs : c.streams id = some s) :
      ConnLife allow c (destroyStream c id)

/-- **What a step does to the streams that come and go.** -/
theorem ConnStep.connLife (h : ConnStep allow c c') : ConnLife allow c c' := by
  cases h with
  | write f hf => exact .quiet (.write c f)
  | writeReset s errCode hs hstate hallow => exact .quiet (.write c _)
  | recvd pktNum pos f =>
      exact .quiet ⟨fun _ => rfl, rfl, rfl, rfl, rfl, Conn.life_of_silent rfl rfl⟩
  | notified pktNum pos data hrecvd =>
      exact .quiet ⟨fun _ => rfl, rfl, rfl, rfl, rfl, Conn.life_of_silent rfl rfl⟩
  | maxData limit hlt hlimit hallow =>
      exact .quiet ⟨fun _ => rfl, rfl, rfl, rfl, rfl, Conn.life_of_silent rfl rfl⟩
  | maxStreamsBidi limit hlt hlimit hallow =>
      exact .quiet ⟨fun _ => rfl, rfl, rfl, rfl, rfl, Conn.life_of_silent rfl rfl⟩
  | maxStreamsUni limit hlt hlimit hallow =>
      exact .quiet ⟨fun _ => rfl, rfl, rfl, rfl, rfl, Conn.life_of_silent rfl rfl⟩
  | params p hexpects hbelow hcheck hallow =>
      exact .quiet ⟨fun id => Option.isSome_map, rfl, rfl, rfl, rfl, rfl⟩
  | openPassive c' id hpeer hopen => exact .range id hpeer hopen
  | openPeer id accept hpeer hnone hpassive hallow =>
      exact .openPeer id accept hpeer hnone hpassive hallow
  | openLocal t settings accept ht hlimit hallow => exact .openLocal t settings accept ht hlimit
  | destroy id s hs hclose => exact .destroy id s hs
  | maxStreamData s limit hs hlt hlimit hallow =>
      exact .quiet (.setStream hs rfl rfl rfl rfl rfl rfl (Conn.life_of_silent rfl rfl))
  | streamWindow s hs hlt => exact .quiet (.setStream hs rfl rfl rfl rfl rfl rfl rfl)
  | deliver s f hs hend hallow =>
      exact .quiet (.setStream hs rfl (Stream.streamId_of_sendPart (processStreamFrame_sendPart _ s f))
        rfl rfl rfl (ConnRecv.connType_of_sendPart (processStreamFrame_conn _ s f))
        (Conn.life_of_silent rfl rfl))
  | resetRecv s finalSize hs hsize hallow =>
      exact .quiet (.setStream hs rfl
        (Stream.streamId_of_sendPart (processResetStreamFrame_sendPart _ s finalSize)) rfl rfl rfl
        (ConnRecv.connType_of_sendPart (processResetStreamFrame_conn _ s finalSize))
        (Conn.life_of_silent rfl rfl))
  | read s env recvBufSize hs =>
      exact .quiet (.setStream hs rfl
        (Stream.streamId_of_sendPart (streamRecv_sendPart _ s env recvBufSize)) rfl rfl rfl
        (ConnRecv.connType_of_sendPart (streamRecv_conn _ s env recvBufSize)) rfl)
  | firstWindow s maxSrtt hs =>
      exact .quiet (.setStream hs rfl
        (Stream.streamId_of_sendPart (raiseFirstWindow_sendPart s c maxSrtt)) rfl rfl rfl rfl rfl)
  | writeStream s fin payload sndq n hs hestab hstate hfin hconn hstream hwrite hallow =>
      exact .quiet (.setStream hs rfl rfl rfl rfl rfl rfl (Conn.life_of_silent rfl rfl))
  | touch s s' hs hcore hstate hpending =>
      exact .quiet (.setStream hs rfl (Stream.streamId_of_core hcore) rfl rfl rfl rfl rfl)
  | _ => exact .quiet ⟨fun _ => rfl, rfl, rfl, rfl, rfl, rfl⟩

theorem ConnLife.lifeInv (h : ConnLife allow c c') (hinv : LifeInv c) (hkeyed : c'.Keyed) :
    LifeInv c' := by
  cases h with
  | quiet hquiet => exact hinv.quiet hquiet hkeyed
  | range id hpeer hopen => exact hinv.openPassive hpeer hopen
  | openPeer id accept hpeer hnone hpassive hallow =>
      exact hinv.openPeer hpeer hnone hpassive accept hkeyed
  | openLocal t settings accept ht hlimit =>
      by_cases hbidi : t.isBidi = true
      · rw [if_pos hbidi] at hkeyed ⊢
        refine hinv.openLocal ht (if_pos hbidi).symm hkeyed rfl rfl rfl rfl rfl fun t' => ?_
        rw [hbidi]
        unfold Conn.curLocal
        cases t'.isBidi <;> rfl
      · rw [if_neg hbidi] at hkeyed ⊢
        refine hinv.openLocal ht (if_neg hbidi).symm hkeyed rfl rfl rfl rfl rfl fun t' => ?_
        rw [Bool.eq_false_of_not_eq_true hbidi]
        unfold Conn.curLocal
        cases t'.isBidi <;> rfl
  | destroy id s hs => exact hinv.destroy hs

/-- **Every step keeps the tables and the history in agreement.** -/
theorem ConnStep.lifeInv (h : ConnStep allow c c') (hinv : LifeInv c) : LifeInv c' :=
  h.connLife.lifeInv hinv (h.keyed hinv.keyed)

theorem insertStream_life (c : Conn) (id : StreamId) (t : StreamType)
    (settings : Option StreamSettings) (isLocal accept : Bool) :
    ∃ l, (insertStream c id t settings isLocal accept).1.life = c.life ++ l ∧
      ∀ id', .opened id' ∈ l → id' = id := by
  unfold insertStream
  cases hs : c.streams id with
  | some s =>
      refine ⟨[.destroyed s], Conn.life_of_life rfl ?_, by simp⟩
      dsimp only [destroyStream]
      rw [hs]
      rfl
  | none => exact ⟨[.opened id], Conn.life_of_life rfl rfl, by simp⟩

/-- The history grows, and a stream of the peer is created by a frame that names it only. -/
theorem ConnLife.life (h : ConnLife allow c c') :
    ∃ l, c'.life = c.life ++ l ∧
      ∀ id, .opened id ∈ l → c.isLocalId id = false → allow (.openPeer id) := by
  cases h with
  | quiet hquiet => exact ⟨[], by rw [hquiet.life, List.append_nil], nofun⟩
  | range id hpeer hopen =>
      refine ⟨[], ?_, nofun⟩
      rw [List.append_nil]
      unfold Rquic.openPassive at hopen
      split_ifs at hopen <;> obtain rfl := Option.some.inj hopen
      · rw [insertPassiveStreamHash_frame]
        rfl
      · rw [insertPassiveStreamHash_frame]
        rfl
      · rfl
  | openPeer id accept hpeer hnone hpassive hallow =>
      obtain ⟨l, hl, hid⟩ := insertStream_life c id (getStreamType id) none false accept
      refine ⟨l, hl, fun id' hmem _ => ?_⟩
      rw [hid id' hmem]
      exact hallow
  | openLocal t settings accept ht hlimit =>
      have hown : ∀ n id', id' = 4 * n + t.toNat → c.isLocalId id' = false → allow (.openPeer id') := by
        rintro n id' rfl hfalse
        unfold Conn.isLocalId at hfalse
        rw [getStreamType_index, ht] at hfalse
        cases hfalse
      split_ifs
      · obtain ⟨l, hl, hid⟩ := insertStream_life
          { c with curStreamIdBidiLocal := c.curStreamIdBidiLocal + 1 }
          (4 * c.curStreamIdBidiLocal + t.toNat) t settings true accept
        exact ⟨l, hl, fun id' hmem => hown _ id' (hid id' hmem)⟩
      · obtain ⟨l, hl, hid⟩ := insertStream_life
          { c with curStreamIdUniLocal := c.curStreamIdUniLocal + 1 }
          (4 * c.curStreamIdUniLocal + t.toNat) t settings true accept
        exact ⟨l, hl, fun id' hmem => hown _ id' (hid id' hmem)⟩
  | destroy id s hs =>
      refine ⟨[.destroyed s], Conn.life_of_life rfl ?_, by simp⟩
      dsimp only [destroyStream]
      rw [hs]
      rfl

/-- A stream that was there and is there has been there. -/
theorem LifeInv.kept (hinv : LifeInv c) (hinv' : LifeInv c') (h : ConnStep allow c c') {id : StreamId}
    (hopened : c.Opened id) {s' : Stream} (hs' : c'.streams id = some s') :
    ∃ s, c.streams id = some s := by
  cases hs : c.streams id with
  | some s => exact ⟨s, rfl⟩
  | none =>
      obtain ⟨s, hmem, hid⟩ := hinv.gone id hopened hs
      obtain ⟨l, hl, -⟩ := h.connLife.life
      have hdestroyed : c'.Destroyed id := ⟨s, by rw [hl]; exact List.mem_append_left l hmem, hid⟩
      have hnone := (hinv'.destroyed id hdestroyed).1
      rw [hs'] at hnone
      cases hnone

theorem ConnSteps.life (h : ConnSteps allow c c') :
    ∃ l, c'.life = c.life ++ l ∧
      ∀ id, .opened id ∈ l → c.isLocalId id = false → allow (.openPeer id) := by
  induction h with
  | refl => exact ⟨[], by rw [List.append_nil], nofun⟩
  | tail hsteps hlast ih =>
      obtain ⟨l, hl, hid⟩ := ih
      obtain ⟨l', hl', hid'⟩ := hlast.connLife.life
      refine ⟨l ++ l', by rw [hl', hl, List.append_assoc], fun id hmem hpeer => ?_⟩
      rcases List.mem_append.1 hmem with hmem | hmem
      · exact hid id hmem hpeer
      · refine hid' id hmem ?_
        rw [isLocalId_congr (ConnSteps.handshakeMono hsteps).connType]
        exact hpeer

end Life

/-! ## Runs -/

theorem connCreate_lifeInv (connType : ConnType) (settings : ConnSettings)
    (header : PktType → Bytes) : LifeInv (connCreate connType settings header) := by
  have hlife : (connCreate connType settings header).life = [] := rfl
  have hopened : ∀ id, ¬ (connCreate connType settings header).Opened id := fun id h => by
    unfold Conn.Opened at h
    rw [hlife] at h
    cases h
  have hdestroyed : ∀ id, ¬ (connCreate connType settings header).Destroyed id := fun id h => by
    obtain ⟨s, hs, -⟩ := h
    rw [hlife] at hs
    cases hs
  refine ⟨connCreate_keyed connType settings header, fun id s h => ?_,
    fun id ho => absurd ho (hopened id), fun id hd => absurd hd (hdestroyed id), fun id => ?_,
    fun id ho => absurd ho (hopened id), fun id ho => absurd ho (hopened id), fun id => ?_⟩
  · have hnone : (none : Option Stream) = some s := h
    cases hnone
  · rw [hlife]
    exact Nat.zero_le _
  · have hpassive : (connCreate connType settings header).passiveStreams id = false := rfl
    have hmax : (connCreate connType settings header).maxRemote (getStreamType id) = -1 := by
      unfold Conn.maxRemote
      split_ifs <;> rfl
    rw [hpassive, hmax]
    refine ⟨nofun, fun h => ?_⟩
    omega

theorem LifeInv.step {c : Conn} (hinv : LifeInv c) (ev : ConnEvent) : LifeInv (c.step ev) :=
  (step_steps hinv.keyed ev).inv (fun _ _ h => h.lifeInv) hinv

theorem LifeInv.run {c : Conn} (hinv : LifeInv c) (evs : List ConnEvent) : LifeInv (c.run evs) :=
  Conn.run_inv (P := LifeInv) (fun _ ev h => h.step ev) hinv evs

theorem Conn.mem_life {c : Conn} {entry : LogEntry} (h : entry.isLife = true) :
    entry ∈ c.life ↔ entry ∈ c.log := by
  unfold Conn.life
  rw [List.mem_filter, and_iff_left h]

/-- The type of an id is in its two low bits. -/
theorem getStreamType_toNat (id : StreamId) : (getStreamType id).toNat = id % 4 := by
  unfold getStreamType
  have hlt : id % 4 < 4 := Nat.mod_lt _ (by decide)
  interval_cases hmod : id % 4 <;> rfl

/-- The index of an id below the limit of its type. -/
theorem index_lt_of_admits {id limit : ℕ} (hlimit : limit < 2 ^ 60)
    (h : id < u64Add (u64Mul 4 limit) (getStreamType id).toNat) : id / 4 < limit := by
  rw [getStreamType_toNat] at h
  unfold u64Mul at h
  rw [Nat.mod_eq_of_lt (by omega), u64Add_eq (by omega)] at h
  omega

theorem destroyed_run {c : Conn} (hkeyed : c.Keyed) (evs : List ConnEvent) {id : StreamId}
    (h : c.Destroyed id) : (c.run evs).Destroyed id := by
  induction evs generalizing c with
  | nil => exact h
  | cons ev evs ih =>
      rw [Conn.run_cons]
      refine ih (step_keyed hkeyed ev) ?_
      obtain ⟨l, hl, -⟩ := (step_steps hkeyed ev).life
      obtain ⟨s, hs, hid⟩ := h
      refine ⟨s, ?_, hid⟩
      rw [hl]
      exact List.mem_append_left l hs

/-- **Streams are created once.** In every run, no id is created twice; the table holds exactly the
peer's ids up to the mark of their type that were not destroyed; a destroyed stream never comes back;
and while the limit is below `2 ^ 60`, no event creates a stream of the peer at or beyond it. -/
theorem peer_streams_once (connType : ConnType) (settings : ConnSettings)
    (header : PktType → Bytes) (evs : List ConnEvent) (c : Conn)
    (hc : c = (connCreate connType settings header).run evs) :
    (∀ id, c.log.count (.opened id) ≤ 1) ∧
    (∀ id, c.passiveStreams id = true ↔ (getStreamType id).isLocal connType = false ∧
      ((id / 4 : ℕ) : ℤ) ≤ c.maxRemote (getStreamType id) ∧
      ∀ s, .destroyed s ∈ c.log → s.streamId ≠ id) ∧
    (∀ s, .destroyed s ∈ c.log → ∀ evs', (c.run evs').streams s.streamId = none) ∧
    ∀ ev id, (getStreamType id).isLocal connType = false →
      c.peerLimit (getStreamType id) < 2 ^ 60 → .opened id ∉ c.log → .opened id ∈ (c.step ev).log →
      id / 4 < c.peerLimit (getStreamType id) := by
  have hinv : LifeInv c := by
    rw [hc]
    exact (connCreate_lifeInv connType settings header).run evs
  have htype : c.connType = connType := by
    rw [hc]
    exact Conn.run_inv (P := fun c => c.Keyed ∧ c.connType = connType)
      (fun c ev h => ⟨step_keyed h.1 ev, (step_steps h.1 ev).handshakeMono.connType.trans h.2⟩)
      ⟨connCreate_keyed connType settings header, rfl⟩ evs |>.2
  have hlocal : ∀ id, c.isLocalId id = (getStreamType id).isLocal connType := fun id => by
    unfold Conn.isLocalId
    rw [htype]
  have hdestroyed : ∀ id, ¬ c.Destroyed id ↔ ∀ s, .destroyed s ∈ c.log → s.streamId ≠ id := by
    intro id
    have hmem : ∀ s, LogEntry.destroyed s ∈ c.life ↔ .destroyed s ∈ c.log := fun s =>
      Conn.mem_life rfl
    unfold Conn.Destroyed
    simp only [not_exists, not_and, hmem, ne_eq]
  refine ⟨fun id => ?_, fun id => ?_, fun s hs evs' => ?_, fun ev id hpeer hlimit hnot hmem => ?_⟩
  · have hcount := hinv.once id
    unfold Conn.life at hcount
    rwa [List.count_filter rfl] at hcount
  · rw [hinv.passive id, hlocal, hdestroyed]
  · have hd : c.Destroyed s.streamId := ⟨s, (Conn.mem_life rfl).2 hs, rfl⟩
    exact ((hinv.run evs').destroyed _ (destroyed_run hinv.keyed evs' hd)).1
  · obtain ⟨l, hl, hopen⟩ := (step_steps hinv.keyed ev).life
    have hmem' : .opened id ∈ (c.step ev).life := (Conn.mem_life rfl).2 hmem
    rw [hl, List.mem_append, Conn.mem_life rfl] at hmem'
    have hact := hopen id (hmem'.resolve_left hnot) (by rw [hlocal]; exact hpeer)
    exact index_lt_of_admits hlimit (Conn.OpensPeer.of_allows hact).admits

/-- One byte at the start of a stream. -/
def firstByte (id : StreamId) (h : (Frame.stream id 0 false [1]).Fits) : ConnEvent :=
  oneRttFrame (.stream id 0 false [1]) h

/-- A client names stream 8 first: the streams below it are open, and the frame on stream 4 that
comes late still creates it, within the limit. -/
theorem peer_streams_once_gap :
    let c := newServer.run (serverHandshake ++ [firstByte 8 (by decide)])
    (c.streams 8).isSome ∧ c.passiveStreams 4 = true ∧ c.streams 4 = none ∧
      .opened 4 ∈ (c.step (firstByte 4 (by decide))).log ∧ 4 / 4 < c.peerLimit .cliBid := by
  have hlog : .opened 4 ∈ ((newServer.run (serverHandshake ++ [firstByte 8 (by decide)])).step
      (firstByte 4 (by decide))).log := by decide +kernel
  refine ⟨by decide +kernel, by decide +kernel, by decide +kernel, hlog, ?_⟩
  exact (peer_streams_once .server _ _ (serverHandshake ++ [firstByte 8 (by decide)]) _ rfl).2.2.2
    (firstByte 4 (by decide)) 4 (by decide) (by decide +kernel) (by decide +kernel) hlog

end Rquic

import Rquic.Engine.Basic

set_option autoImplicit false

/-!
# The queues of the engine

* `Queues`: the flags tell in which queue a connection is. In `rqc_engine_main_logic` the connection
  that was popped is in no queue and keeps its flag.
* `InQueues`: the same between the operations, written out.
* `Fresh`: a connection that was processed waits for its earliest timer.
* `Dequeued`: a connection is not processed while it waits, unless the processing queues something.
* **`run_queues`**: in every run the flags are right, and every step with `Dequeued` has `Fresh`.

A send that queues nothing processes the connection where it is; `rqc_engine_add_wakeup_queue` then
leaves the old key.
-/

namespace Rquic

namespace Engine

variable {e : Engine} {popped : Option ConnId} {id : ConnId}

/-! ## Flags -/

theorem setConn_conns (e : Engine) (id : ConnId) (c : EngConn) : (e.setConn id c).conns id = some c :=
  Function.update_self _ _ _

theorem ticking_setConn (e : Engine) (id : ConnId) (c : EngConn) (id' : ConnId) :
    (e.setConn id c).ticking id' = if id' = id then c.ticking else e.ticking id' := by
  unfold ticking setConn
  dsimp only
  split_ifs with hid
  · rw [hid, Function.update_self]
    rfl
  · rw [Function.update_of_ne hid]

theorem waitWakeup_setConn (e : Engine) (id : ConnId) (c : EngConn) (id' : ConnId) :
    (e.setConn id c).waitWakeup id' = if id' = id then c.waitWakeup else e.waitWakeup id' := by
  unfold waitWakeup setConn
  dsimp only
  split_ifs with hid
  · rw [hid, Function.update_self]
    rfl
  · rw [Function.update_of_ne hid]

theorem ticking_of_some {c : EngConn} (h : e.conns id = some c) : e.ticking id = c.ticking := by
  rw [ticking, h]
  rfl

theorem waitWakeup_of_some {c : EngConn} (h : e.conns id = some c) : e.waitWakeup id = c.waitWakeup := by
  rw [waitWakeup, h]
  rfl

/-! ## The flags and the queues -/

/-- The flags tell in which queue a connection is; `popped` is in none. -/
structure Queues (e : Engine) (popped : Option ConnId) : Prop where
  heaps : TwoHeaps e.connsActivePq e.connsWaitWakeupPq e.wakeupPqIndex
    (fun id => e.ticking id = true ∧ popped ≠ some id) (fun id => e.waitWakeup id = true)
  apart : ∀ id, e.ticking id = true → e.waitWakeup id = false
  popped : ∀ id, popped = some id → e.ticking id = true

theorem Queues.of_eq {e' : Engine} (h : Queues e popped) (hactive : e'.connsActivePq = e.connsActivePq)
    (hwakeup : e'.connsWaitWakeupPq = e.connsWaitWakeupPq) (hindex : e'.wakeupPqIndex = e.wakeupPqIndex)
    (htick : ∀ id, e'.ticking id = e.ticking id) (hwait : ∀ id, e'.waitWakeup id = e.waitWakeup id) :
    Queues e' popped := by
  refine ⟨?_, fun id hid => ?_, fun id hid => ?_⟩
  · rw [hactive, hwakeup, hindex]
    exact h.heaps.congr (fun id => by rw [htick]) fun id => by rw [hwait]
  · rw [htick] at hid
    rw [hwait]
    exact h.apart id hid
  · rw [htick]
    exact h.popped id hid

theorem Queues.setConn (h : Queues e popped) {c : EngConn} (htick : c.ticking = e.ticking id)
    (hwait : c.waitWakeup = e.waitWakeup id) : Queues (e.setConn id c) popped := by
  refine h.of_eq rfl rfl rfl (fun id' => ?_) fun id' => ?_
  · rw [ticking_setConn]
    split_ifs with hid
    · rw [hid, htick]
    · rfl
  · rw [waitWakeup_setConn]
    split_ifs with hid
    · rw [hid, hwait]
    · rfl

/-- A connection changes its flags, and its place in the queues with them. -/
theorem Queues.move (h : Queues e popped) {x y : Heap ConnId} {pos : ConnId → ℕ} {c : EngConn}
    (hone : c.ticking = true → c.waitWakeup = false) (hpopped : popped = some id → c.ticking = true)
    (hheaps : TwoHeaps x y pos
      (fun id' => if id' = id then c.ticking = true ∧ popped ≠ some id
        else e.ticking id' = true ∧ popped ≠ some id')
      (fun id' => if id' = id then c.waitWakeup = true else e.waitWakeup id' = true)) :
    Queues (Engine.setConn
      { e with connsActivePq := x, connsWaitWakeupPq := y, wakeupPqIndex := pos } id c) popped := by
  refine ⟨hheaps.congr (fun id' => ?_) fun id' => ?_, fun id' hid' => ?_, fun id' hid' => ?_⟩
  · rw [ticking_setConn]
    split_ifs with hid
    · rw [hid]
    · exact Iff.rfl
  · rw [waitWakeup_setConn]
    split_ifs <;> exact Iff.rfl
  · rw [ticking_setConn] at hid'
    rw [waitWakeup_setConn]
    split_ifs with hid
    · rw [if_pos hid] at hid'
      exact hone hid'
    · rw [if_neg hid] at hid'
      exact h.apart id' hid'
  · rw [ticking_setConn]
    split_ifs with hid
    · rw [hid] at hid'
      exact hpopped hid'
    · exact h.popped id' hid'

theorem Queues.addWakeupQueue (h : Queues e popped) (id : ConnId) : Queues (e.addWakeupQueue id) popped := by
  unfold Engine.addWakeupQueue
  cases hc : e.conns id with
  | none => exact h
  | some c =>
      dsimp only
      split_ifs with hflags
      · exact h
      · rw [Bool.not_eq_true, Bool.or_eq_false_iff] at hflags
        have htick : e.ticking id = false := (ticking_of_some hc).trans hflags.2
        have hwait : e.waitWakeup id = false := (waitWakeup_of_some hc).trans hflags.1
        have hpush := (h.heaps.symm.push (a := id) (by simp [hwait]) (by simp [htick]) c.nextTickTime).symm
        refine h.move (fun hc' => ?_) (fun hpop => ?_) (hpush.congr (fun id' => ?_) fun id' => ?_)
        · rw [hflags.2] at hc'
          cases hc'
        · rw [h.popped id hpop] at htick
          cases htick
        · by_cases hid : id' = id <;> simp [hid, htick, hflags.2]
        · by_cases hid : id' = id <;> simp [hid]

theorem Queues.removeWakeupQueue (h : Queues e popped) (id : ConnId) :
    Queues (e.removeWakeupQueue id) popped := by
  unfold Engine.removeWakeupQueue
  cases hc : e.conns id with
  | none => exact h
  | some c =>
      dsimp only
      split_ifs with hflag
      · have hwait : e.waitWakeup id = true := (waitWakeup_of_some hc).trans hflag
        have htick := ticking_of_some hc
        have hremove := (h.heaps.symm.remove hwait).symm
        refine h.move (fun _ => rfl) (fun hpop => ?_) (hremove.congr (fun id' => ?_) fun id' => ?_)
        · rw [← htick]
          exact h.popped id hpop
        · by_cases hid : id' = id <;> simp [hid, htick]
        · by_cases hid : id' = id <;> simp [hid]
      · exact h

theorem Queues.addActiveQueue (h : Queues e popped) (id : ConnId) : Queues (e.addActiveQueue id) popped := by
  unfold Engine.addActiveQueue
  cases hc : e.conns id with
  | none => exact h
  | some c =>
      dsimp only
      split_ifs with hflags
      · exact h
      · rw [Bool.not_eq_true, Bool.or_eq_false_iff] at hflags
        have htick : e.ticking id = false := (ticking_of_some hc).trans hflags.2
        have hwait : e.waitWakeup id = false := (waitWakeup_of_some hc).trans hflags.1
        have hpop : popped ≠ some id := by
          intro hpop
          rw [h.popped id hpop] at htick
          cases htick
        have hpush := h.heaps.push (a := id) (by simp [htick]) (by simp [hwait]) c.lastTickedTime
        refine h.move (fun _ => hflags.1) (fun _ => rfl) (hpush.congr (fun id' => ?_) fun id' => ?_)
        · by_cases hid : id' = id <;> simp [hid, hpop]
        · by_cases hid : id' = id <;> simp [hid, hwait, hflags.1]

theorem Queues.removeActiveQueue (h : Queues e none) (id : ConnId) : Queues (e.removeActiveQueue id) none := by
  unfold Engine.removeActiveQueue
  cases hc : e.conns id with
  | none => exact h
  | some c =>
      dsimp only
      split_ifs with hflag
      · have htick : e.ticking id = true := (ticking_of_some hc).trans hflag
        have hwait : e.waitWakeup id = c.waitWakeup := waitWakeup_of_some hc
        have hremove := h.heaps.remove (a := id) ⟨htick, nofun⟩
        refine h.move nofun nofun (hremove.congr (fun id' => ?_) fun id' => ?_)
        · by_cases hid : id' = id <;> simp [hid]
        · by_cases hid : id' = id <;> simp [hid, hwait]
      · exact h

theorem Queues.activate (h : Queues e popped) (id : ConnId) : Queues (e.activate id) popped :=
  (h.removeWakeupQueue id).addActiveQueue id

theorem Queues.create (h : Queues e popped) (id : ConnId) (timers : List (Option ℕ)) :
    Queues (e.create id timers) popped := by
  unfold Engine.create
  cases hc : e.conns id with
  | none =>
      have hflags : e.ticking id = false ∧ e.waitWakeup id = false := by
        simp [Engine.ticking, Engine.waitWakeup, hc]
      exact h.setConn hflags.1.symm hflags.2.symm
  | some c => exact h

theorem Queues.callback (h : Queues e popped) (op : QueueOp) : Queues (e.callback op) popped := by
  cases op with
  | activate id => exact h.activate id
  | create id timers => exact (h.create id timers).activate id

theorem Queues.callbacks (h : Queues e popped) (ops : List QueueOp) :
    Queues (ops.foldl Engine.callback e) popped := by
  induction ops generalizing e with
  | nil => exact h
  | cons op ops ih => exact ih (h.callback op)

theorem Queues.setFields (h : Queues e popped) {c c' : EngConn} (hc : e.conns id = some c)
    (htick : c'.ticking = c.ticking) (hwait : c'.waitWakeup = c.waitWakeup) :
    Queues (e.setConn id c') popped :=
  h.setConn (htick.trans (ticking_of_some hc).symm) (hwait.trans (waitWakeup_of_some hc).symm)

theorem Queues.processConn (h : Queues e popped) (id : ConnId) (tick : Tick) :
    Queues (e.processConn id tick) popped := by
  have hops := h.callbacks tick.ops
  unfold Engine.processConn
  dsimp only
  split
  · exact hops
  · rename_i c hc
    exact hops.setFields hc rfl rfl

theorem Queues.setNextTick (h : Queues e popped) (id : ConnId) (nextTickTime : ℕ) :
    Queues (e.setNextTick id nextTickTime) popped := by
  unfold Engine.setNextTick
  split
  · exact h
  · rename_i c hc
    exact h.setFields hc rfl rfl

theorem Queues.setTimers (h : Queues e popped) (id : ConnId) (timers : List (Option ℕ)) :
    Queues (e.setTimers id timers) popped := by
  unfold Engine.setTimers
  split
  · exact h
  · rename_i c hc
    exact h.setFields hc rfl rfl

theorem Queues.connLogic (h : Queues e none) (id : ConnId) (tick : Tick) :
    Queues (e.connLogic id tick) none :=
  (((h.processConn id tick).setNextTick id _).removeActiveQueue id).addWakeupQueue id

theorem Queues.wakeDue (h : Queues e none) (now fuel : ℕ) : Queues (wakeDue now fuel e) none := by
  induction fuel generalizing e with
  | zero => exact h
  | succ fuel ih =>
      unfold Engine.wakeDue
      split_ifs
      · exact h
      · exact ih (h.activate _)
      · exact h

theorem Queues.pop (h : Queues e none) (hcount : e.active.count ≠ 0) :
    Queues (e.setActive e.active.pop) (some (e.active.item 0)) := by
  have hremove := h.heaps.removeAt (Nat.pos_of_ne_zero hcount)
  have htick : e.ticking (e.active.item 0) = true :=
    ((h.heaps.left_iff (e.active.item 0)).1 ⟨_, 0, Nat.pos_of_ne_zero hcount, rfl⟩).1
  rw [PlacedHeap.pop_eq _ hcount]
  refine ⟨hremove.congr (fun id => ?_) fun _ => Iff.rfl, h.apart, fun id hid => ?_⟩
  · show e.ticking id = true ∧ some (e.active.item 0) ≠ some id ↔
      (e.ticking id = true ∧ none ≠ some id) ∧ id ≠ e.active.item 0
    simp [@eq_comm _ (e.active.item 0) id]
  · obtain rfl := Option.some.inj hid
    exact htick

theorem Queues.clearTicking (h : Queues e (some id)) : Queues (e.clearTicking id) none := by
  have htick := h.popped id rfl
  unfold Engine.clearTicking
  cases hc : e.conns id with
  | none =>
      rw [Engine.ticking, hc] at htick
      cases htick
  | some c =>
      dsimp only
      have hwait := waitWakeup_of_some hc
      refine ⟨h.heaps.congr (fun id' => ?_) (fun id' => ?_), fun id' hid' => ?_, nofun⟩
      · rw [ticking_setConn]
        by_cases hid : id' = id
        · simp [hid]
        · simp [hid, Ne.symm hid]
      · rw [waitWakeup_setConn]
        by_cases hid : id' = id
        · simp [hid, hwait]
        · simp [hid]
      · rw [ticking_setConn] at hid'
        rw [waitWakeup_setConn]
        by_cases hid : id' = id
        · rw [if_pos hid] at hid'
          cases hid'
        · rw [if_neg hid] at hid' ⊢
          exact h.apart id' hid'

/-! ## Other connections -/

theorem removeWakeupQueue_conns_of_ne {id' : ConnId} (hne : id' ≠ id) :
    (e.removeWakeupQueue id).conns id' = e.conns id' := by
  unfold Engine.removeWakeupQueue
  split
  · rfl
  · split_ifs
    · exact Function.update_of_ne hne _ _
    · rfl

theorem addActiveQueue_conns_of_ne {id' : ConnId} (hne : id' ≠ id) :
    (e.addActiveQueue id).conns id' = e.conns id' := by
  unfold Engine.addActiveQueue
  split
  · rfl
  · split_ifs
    · rfl
    · exact Function.update_of_ne hne _ _

theorem activate_conns_of_ne {id' : ConnId} (hne : id' ≠ id) : (e.activate id).conns id' = e.conns id' := by
  unfold Engine.activate
  rw [addActiveQueue_conns_of_ne hne, removeWakeupQueue_conns_of_ne hne]

theorem create_conns_of_ne {id' : ConnId} (hne : id' ≠ id) (timers : List (Option ℕ)) :
    (e.create id timers).conns id' = e.conns id' := by
  unfold Engine.create
  split
  · exact Function.update_of_ne hne _ _
  · rfl

/-- The connection that a call is for. -/
def QueueOp.target : QueueOp → ConnId
  | .activate id | .create id _ => id

theorem callbacks_conns_of_ne {ops : List QueueOp} (hops : ∀ op ∈ ops, op.target ≠ id) :
    (ops.foldl Engine.callback e).conns id = e.conns id := by
  induction ops generalizing e with
  | nil => rfl
  | cons op ops ih =>
      have hne := (hops op List.mem_cons_self).symm
      rw [List.foldl_cons, ih fun op' hop' => hops op' (List.mem_cons_of_mem op hop')]
      cases op with
      | activate id' => exact activate_conns_of_ne hne
      | create id' timers => exact (activate_conns_of_ne hne).trans (create_conns_of_ne hne timers)

theorem removeWakeupQueue_flags (e : Engine) (id : ConnId) :
    (e.removeWakeupQueue id).waitWakeup id = false ∧ (e.removeWakeupQueue id).ticking id = e.ticking id := by
  unfold Engine.removeWakeupQueue
  cases hc : e.conns id with
  | none => simp [Engine.waitWakeup, hc]
  | some c =>
      dsimp only
      split_ifs with hflag
      · rw [waitWakeup_setConn, ticking_setConn, if_pos rfl, if_pos rfl, ticking_of_some hc]
        exact ⟨rfl, rfl⟩
      · rw [waitWakeup_of_some hc]
        exact ⟨by simpa using hflag, rfl⟩

theorem Queues.destroy (h : Queues e none) (htick : e.ticking id = false) (ops : List QueueOp) :
    Queues (e.destroy id ops) none := by
  have hflags := removeWakeupQueue_flags e id
  unfold Engine.destroy
  dsimp only
  generalize hops : (ops.filter fun op =>
    match op with
    | .activate id' | .create id' _ => decide (id' ≠ id)) = ops'
  have hothers : ∀ op ∈ ops', op.target ≠ id := by
    intro op hop
    rw [← hops] at hop
    have hne := (List.mem_filter.1 hop).2
    cases op <;> exact of_decide_eq_true hne
  have hconn := callbacks_conns_of_ne (e := e.removeWakeupQueue id) hothers
  have hqueues := (h.removeWakeupQueue id).callbacks ops'
  generalize ops'.foldl Engine.callback (e.removeWakeupQueue id) = e' at hconn hqueues ⊢
  -- the flags of the connection were clear
  have htick' : e'.ticking id = false := by
    rw [Engine.ticking, hconn]
    exact hflags.2.trans htick
  have hwait' : e'.waitWakeup id = false := by
    rw [Engine.waitWakeup, hconn]
    exact hflags.1
  refine hqueues.of_eq rfl rfl rfl (fun id' => ?_) fun id' => ?_
  · by_cases hid : id' = id
    · rw [hid, htick']
      simp [Engine.ticking]
    · simp [Engine.ticking, Function.update_of_ne hid]
  · by_cases hid : id' = id
    · rw [hid, hwait']
      simp [Engine.waitWakeup]
    · simp [Engine.waitWakeup, Function.update_of_ne hid]

theorem clearTicking_ticking (e : Engine) (id : ConnId) : (e.clearTicking id).ticking id = false := by
  unfold Engine.clearTicking
  cases hc : e.conns id with
  | none => simp [Engine.ticking, hc]
  | some c =>
      dsimp only
      rw [ticking_setConn, if_pos rfl]

theorem Queues.mainTick (h : Queues e none) (hcount : e.active.count ≠ 0) (tick : Tick) :
    Queues (e.mainTick tick) none := by
  have hpopped := (h.pop hcount).processConn (e.active.item 0) tick
  unfold Engine.mainTick
  dsimp only
  split_ifs
  · exact ((hpopped.setNextTick _ _).clearTicking).addWakeupQueue _
  · exact ((hpopped.clearTicking).setNextTick _ 0).addWakeupQueue _
  · exact hpopped.clearTicking.destroy (clearTicking_ticking _ _) tick.destroyOps

/-! ## Runs -/

theorem Queues.streamSend (h : Queues e none) (id : ConnId) (path : SendPath) (flush : Bool)
    (tick : Tick) : Queues (e.streamSend id path flush tick) none := by
  cases path with
  | refused => exact h
  | nothing =>
      simp only [Engine.streamSend]
      split_ifs
      · exact h.connLogic id tick
      · exact h
  | queued =>
      simp only [Engine.streamSend]
      split_ifs
      · exact (h.activate id).connLogic id tick
      · exact h.activate id
  | failed => exact h.activate id

theorem Queues.step (h : Queues e none) (ev : EngEvent) : Queues (e.step ev) none := by
  cases ev with
  | create id timers =>
      simp only [Engine.step]
      split_ifs
      · exact h
      · exact h.create id timers
  | send id path flush tick =>
      simp only [Engine.step]
      split_ifs
      · exact h
      · exact h.streamSend id path flush tick
  | recv id queued =>
      simp only [Engine.step]
      split_ifs
      · exact h
      · exact h.activate id
  | close id done timers =>
      simp only [Engine.step]
      split_ifs
      · exact h
      · exact (h.setTimers id timers).activate id
  | packet id timers needRun tick =>
      simp only [Engine.step]
      have hactive := (h.setTimers id timers).activate id
      split_ifs
      · exact h
      · exact hactive.connLogic id tick
      · exact hactive
  | continueSend id tick =>
      simp only [Engine.step]
      split_ifs
      · exact h
      · exact (h.activate id).connLogic id tick
  | connLogic id tick =>
      simp only [Engine.step]
      split_ifs
      · exact h
      · exact h.connLogic id tick
  | mainBegin noDestroy now =>
      simp only [Engine.step]
      split_ifs
      · exact h
      · have hbegin : Queues { e with running := true, noDestroy := noDestroy } none :=
          h.of_eq rfl rfl rfl (fun _ => rfl) fun _ => rfl
        exact hbegin.wakeDue now _
  | mainTick tick =>
      simp only [Engine.step]
      split_ifs with hrun
      · exact h.mainTick hrun.2 tick
      · exact h
  | mainEnd =>
      simp only [Engine.step]
      split_ifs
      · exact h.of_eq rfl rfl rfl (fun _ => rfl) fun _ => rfl
      · exact h

theorem queues_empty : Queues {} none := by
  have hvalid : (⟨⟨fun _ => (0, 0), 0⟩, fun _ => 0⟩ : PlacedHeap ConnId).Valid :=
    ⟨fun i hi => absurd hi (Nat.not_lt_zero i), fun i _ hi => absurd hi (Nat.not_lt_zero i)⟩
  have hnone : ∀ (P : Prop) (id : ConnId), ¬ P →
      ((∃ k, (⟨⟨fun _ => (0, 0), 0⟩, fun _ => 0⟩ : PlacedHeap ConnId).Holds k id) ↔ P) := by
    intro P id hP
    refine iff_of_false ?_ hP
    rintro ⟨k, i, hi, -⟩
    exact absurd hi (Nat.not_lt_zero i)
  refine ⟨⟨hvalid, hvalid, fun id => hnone _ id ?_, fun id => hnone _ id ?_, ?_⟩, ?_, nofun⟩
  · rintro ⟨hid, -⟩
    cases hid
  · intro hid
    cases hid
  · rintro id ⟨hid, -⟩
    cases hid
  · intro id hid
    cases hid

theorem Queues.run (h : Queues e none) (evs : List EngEvent) : Queues (e.run evs) none := by
  induction evs generalizing e with
  | nil => exact h
  | cons ev evs ih => exact ih (h.step ev)

/-! ## Keys -/

/-- The connection that a step processes. -/
def processed (e : Engine) : EngEvent → Option ConnId
  | .send id .nothing true _ | .send id .queued true _ | .packet id _ true _ | .continueSend id _
  | .connLogic id _ => if e.running then none else some id
  | .mainTick _ => if e.running = true ∧ e.active.count ≠ 0 then some (e.active.item 0) else none
  | _ => none

/-- A connection that was processed and is alive waits under the time of its earliest timer. -/
def Fresh (e : Engine) (ev : EngEvent) : Prop :=
  ∀ id, e.processed ev = some id → ∀ c, (e.step ev).conns id = some c → c.closed = false →
    c.nextTickTime = nextWakeupTime c.timers ∧ (e.step ev).wakeup.Holds c.nextTickTime id

/-- A connection that is processed where it is does not wait for a timer, or the processing queues
something for it. -/
def Dequeued (e : Engine) : EngEvent → Prop
  | .send id .nothing true tick | .connLogic id tick =>
    e.waitWakeup id = false ∨ QueueOp.activate id ∈ tick.ops
  | _ => True

theorem addActiveQueue_waitWakeup (e : Engine) (id id' : ConnId) :
    (e.addActiveQueue id).waitWakeup id' = e.waitWakeup id' := by
  unfold Engine.addActiveQueue
  cases hc : e.conns id with
  | none => rfl
  | some c =>
      dsimp only
      split_ifs with hflags
      · rfl
      · rw [waitWakeup_setConn]
        split_ifs with hid
        · rw [hid, waitWakeup_of_some hc]
        · rfl

theorem activate_waitWakeup (e : Engine) (id : ConnId) : (e.activate id).waitWakeup id = false := by
  unfold Engine.activate
  rw [addActiveQueue_waitWakeup]
  exact (removeWakeupQueue_flags e id).1

theorem activate_waitWakeup_of_false (h : e.waitWakeup id = false) (id' : ConnId) :
    (e.activate id').waitWakeup id = false := by
  by_cases hid : id = id'
  · rw [← hid]
    exact activate_waitWakeup e id
  · rw [Engine.waitWakeup, activate_conns_of_ne hid]
    exact h

theorem create_waitWakeup_of_false (h : e.waitWakeup id = false) (id' : ConnId)
    (timers : List (Option ℕ)) : (e.create id' timers).waitWakeup id = false := by
  unfold Engine.create
  split
  · rw [waitWakeup_setConn]
    split_ifs
    · rfl
    · exact h
  · exact h

theorem callbacks_waitWakeup_of_false (h : e.waitWakeup id = false) (ops : List QueueOp) :
    (ops.foldl Engine.callback e).waitWakeup id = false := by
  induction ops generalizing e with
  | nil => exact h
  | cons op ops ih =>
      cases op with
      | activate id' => exact ih (activate_waitWakeup_of_false h id')
      | create id' timers =>
          exact ih (activate_waitWakeup_of_false (create_waitWakeup_of_false h id' timers) id')

theorem callbacks_waitWakeup_of_mem {ops : List QueueOp} (h : QueueOp.activate id ∈ ops) :
    (ops.foldl Engine.callback e).waitWakeup id = false := by
  induction ops generalizing e with
  | nil => cases h
  | cons op ops ih =>
      rcases List.mem_cons.1 h with rfl | hmem
      · exact callbacks_waitWakeup_of_false (activate_waitWakeup e id) ops
      · exact ih hmem

theorem processConn_some {tick : Tick} {c : EngConn} (hc : (e.processConn id tick).conns id = some c) :
    c.timers = tick.timers ∧ c.closed = tick.isClosed ∧
      c.waitWakeup = (tick.ops.foldl Engine.callback e).waitWakeup id := by
  unfold Engine.processConn at hc
  dsimp only at hc
  cases hops : (tick.ops.foldl Engine.callback e).conns id with
  | none =>
      rw [hops] at hc
      exact absurd (hops.symm.trans hc) nofun
  | some c₀ =>
      rw [hops] at hc
      dsimp only at hc
      rw [setConn_conns] at hc
      obtain rfl := Option.some.inj hc
      exact ⟨rfl, rfl, (waitWakeup_of_some hops).symm⟩

theorem setNextTick_conns (e : Engine) (id : ConnId) (nextTickTime : ℕ) :
    (e.setNextTick id nextTickTime).conns id =
      (e.conns id).map fun c => { c with nextTickTime := nextTickTime } := by
  unfold Engine.setNextTick
  cases hc : e.conns id with
  | none => exact hc
  | some c => exact Function.update_self _ _ _

theorem clearTicking_conns (e : Engine) (id : ConnId) :
    (e.clearTicking id).conns id = (e.conns id).map fun c => { c with ticking := false } := by
  unfold Engine.clearTicking
  cases hc : e.conns id with
  | none => exact hc
  | some c => exact Function.update_self _ _ _

theorem removeActiveQueue_conns (e : Engine) (id : ConnId) :
    (e.removeActiveQueue id).conns id = (e.conns id).map fun c => { c with ticking := false } := by
  unfold Engine.removeActiveQueue
  cases hc : e.conns id with
  | none => exact hc
  | some c =>
      dsimp only
      split_ifs with hflag
      · exact Function.update_self _ _ _
      · rw [hc, Option.map_some]
        congr 1
        cases c
        simpa using hflag

/-- A connection without flags enters the queue under its next tick time. -/
theorem addWakeupQueue_holds {c : EngConn} (hc : e.conns id = some c) (hwait : c.waitWakeup = false)
    (htick : c.ticking = false) :
    (e.addWakeupQueue id).conns id = some { c with waitWakeup := true } ∧
      (e.addWakeupQueue id).wakeup.Holds c.nextTickTime id := by
  have heq : e.addWakeupQueue id =
      (e.setWakeup (e.wakeup.push c.nextTickTime id)).setConn id { c with waitWakeup := true } := by
    unfold Engine.addWakeupQueue
    rw [hc]
    dsimp only
    rw [hwait, htick]
    rfl
  rw [heq]
  exact ⟨Function.update_self _ _ _,
    (PlacedHeap.push_holds e.wakeup c.nextTickTime id c.nextTickTime id).2 (.inr ⟨rfl, rfl⟩)⟩

/-- A connection without flags enters the queue, and nothing else happens to it. -/
theorem addWakeupQueue_fresh {c₀ : Option EngConn} (hc₀ : e.conns id = c₀)
    (hflags : ∀ c ∈ c₀, c.waitWakeup = false ∧ c.ticking = false)
    (hnext : ∀ c ∈ c₀, c.closed = false → c.nextTickTime = nextWakeupTime c.timers) {c : EngConn}
    (hc : (e.addWakeupQueue id).conns id = some c) (hopen : c.closed = false) :
    c.nextTickTime = nextWakeupTime c.timers ∧ (e.addWakeupQueue id).wakeup.Holds c.nextTickTime id := by
  cases c₀ with
  | none =>
      have hsame : e.addWakeupQueue id = e := by
        unfold Engine.addWakeupQueue
        rw [hc₀]
      rw [hsame, hc₀] at hc
      cases hc
  | some c₁ =>
      obtain ⟨hwait, htick⟩ := hflags c₁ rfl
      obtain ⟨hconn, hholds⟩ := addWakeupQueue_holds hc₀ hwait htick
      obtain rfl := Option.some.inj (hconn.symm.trans hc)
      exact ⟨hnext c₁ rfl hopen, hholds⟩

theorem connLogic_fresh {tick : Tick} (hwait : (tick.ops.foldl Engine.callback e).waitWakeup id = false)
    {c : EngConn} (hc : (e.connLogic id tick).conns id = some c) (hopen : c.closed = false) :
    c.nextTickTime = nextWakeupTime c.timers ∧ (e.connLogic id tick).wakeup.Holds c.nextTickTime id := by
  unfold Engine.connLogic at hc ⊢
  dsimp only at hc ⊢
  refine addWakeupQueue_fresh rfl (fun c' hc' => ?_) (fun c' hc' hopen' => ?_) hc hopen
  · rw [removeActiveQueue_conns, setNextTick_conns, Option.map_map] at hc'
    obtain ⟨c₁, hc₁, rfl⟩ := Option.map_eq_some_iff.1 hc'
    exact ⟨(processConn_some hc₁).2.2.trans hwait, rfl⟩
  · rw [removeActiveQueue_conns, setNextTick_conns, Option.map_map] at hc'
    obtain ⟨c₁, hc₁, rfl⟩ := Option.map_eq_some_iff.1 hc'
    obtain ⟨htimers, hclosed, -⟩ := processConn_some hc₁
    show (if tick.isClosed then 0 else nextWakeupTime tick.timers) = nextWakeupTime c₁.timers
    rw [← hclosed, if_neg (by rw [show c₁.closed = false from hopen']; nofun), htimers]

theorem mainTick_fresh (h : Queues e none) (hcount : e.active.count ≠ 0) {tick : Tick} {c : EngConn}
    (hc : (e.mainTick tick).conns (e.active.item 0) = some c) (hopen : c.closed = false) :
    c.nextTickTime = nextWakeupTime c.timers ∧
      (e.mainTick tick).wakeup.Holds c.nextTickTime (e.active.item 0) := by
  have hpop := h.pop hcount
  -- the popped connection ticks, so it does not wait
  have hwait := callbacks_waitWakeup_of_false (hpop.apart _ (hpop.popped _ rfl)) tick.ops
  unfold Engine.mainTick at hc ⊢
  dsimp only at hc ⊢
  generalize e.active.item 0 = id at hc hwait ⊢
  split_ifs at hc ⊢ with hlive hkeep
  · refine addWakeupQueue_fresh rfl (fun c' hc' => ?_) (fun c' hc' _ => ?_) hc hopen
    · rw [clearTicking_conns, setNextTick_conns, Option.map_map] at hc'
      obtain ⟨c₁, hc₁, rfl⟩ := Option.map_eq_some_iff.1 hc'
      exact ⟨(processConn_some hc₁).2.2.trans hwait, rfl⟩
    · rw [clearTicking_conns, setNextTick_conns, Option.map_map] at hc'
      obtain ⟨c₁, hc₁, rfl⟩ := Option.map_eq_some_iff.1 hc'
      show nextWakeupTime tick.timers = nextWakeupTime c₁.timers
      rw [(processConn_some hc₁).1]
  · refine addWakeupQueue_fresh rfl (fun c' hc' => ?_) (fun c' hc' hopen' => ?_) hc hopen
    · rw [setNextTick_conns, clearTicking_conns, Option.map_map] at hc'
      obtain ⟨c₁, hc₁, rfl⟩ := Option.map_eq_some_iff.1 hc'
      exact ⟨(processConn_some hc₁).2.2.trans hwait, rfl⟩
    · rw [setNextTick_conns, clearTicking_conns, Option.map_map] at hc'
      obtain ⟨c₁, hc₁, rfl⟩ := Option.map_eq_some_iff.1 hc'
      obtain ⟨htimers, hclosed, -⟩ := processConn_some hc₁
      -- an open connection is kept only when it has no timer
      have hzero : nextWakeupTime tick.timers = 0 :=
        not_not.1 fun hne => hlive ⟨hclosed.symm.trans hopen', hne⟩
      show 0 = nextWakeupTime c₁.timers
      rw [htimers, hzero]
  · have hgone : ((Engine.clearTicking ((e.setActive e.active.pop).processConn id tick) id).destroy id
        tick.destroyOps).conns id = none := Function.update_self _ _ _
    exact absurd (hgone.symm.trans hc) nofun

theorem activate_fresh {tick : Tick} {c : EngConn} (hc : ((e.activate id).connLogic id tick).conns id = some c)
    (hopen : c.closed = false) :
    c.nextTickTime = nextWakeupTime c.timers ∧
      ((e.activate id).connLogic id tick).wakeup.Holds c.nextTickTime id :=
  connLogic_fresh (callbacks_waitWakeup_of_false (activate_waitWakeup e id) tick.ops) hc hopen

theorem Dequeued.fresh {tick : Tick} (h : e.Dequeued (.connLogic id tick)) {c : EngConn}
    (hc : (e.connLogic id tick).conns id = some c) (hopen : c.closed = false) :
    c.nextTickTime = nextWakeupTime c.timers ∧ (e.connLogic id tick).wakeup.Holds c.nextTickTime id := by
  refine connLogic_fresh ?_ hc hopen
  rcases h with hwait | hmem
  · exact callbacks_waitWakeup_of_false hwait tick.ops
  · exact callbacks_waitWakeup_of_mem hmem

theorem step_fresh (h : Queues e none) {ev : EngEvent} (hev : e.Dequeued ev) : e.Fresh ev := by
  intro id hid c hc hopen
  by_cases hrun : e.running = true
  · -- only the rounds of the main logic process a connection then
    cases ev with
    | mainTick tick =>
        simp only [processed] at hid
        split_ifs at hid with hround
        obtain rfl := Option.some.inj hid
        simp only [Engine.step, if_pos hround] at hc ⊢
        exact mainTick_fresh h hround.2 hc hopen
    | send id' path flush tick =>
        cases path <;> cases flush <;> simp [processed, hrun] at hid
    | packet id' timers needRun tick =>
        cases needRun <;> simp [processed, hrun] at hid
    | _ => simp [processed, hrun] at hid
  · cases ev with
    | send id' path flush tick =>
        cases flush with
        | false => cases path <;> cases hid
        | true =>
            cases path with
            | refused => cases hid
            | failed => cases hid
            | nothing =>
                simp only [processed, if_neg hrun, Option.some.injEq] at hid
                subst hid
                simp only [Engine.step, if_neg hrun] at hc ⊢
                exact Dequeued.fresh hev hc hopen
            | queued =>
                simp only [processed, if_neg hrun, Option.some.injEq] at hid
                subst hid
                simp only [Engine.step, if_neg hrun] at hc ⊢
                exact activate_fresh hc hopen
    | packet id' timers needRun tick =>
        cases needRun with
        | false => cases hid
        | true =>
            simp only [processed, if_neg hrun, Option.some.injEq] at hid
            subst hid
            simp only [Engine.step, if_neg hrun] at hc ⊢
            exact activate_fresh hc hopen
    | continueSend id' tick =>
        simp only [processed, if_neg hrun, Option.some.injEq] at hid
        subst hid
        simp only [Engine.step, if_neg hrun] at hc ⊢
        exact activate_fresh hc hopen
    | connLogic id' tick =>
        simp only [processed, if_neg hrun, Option.some.injEq] at hid
        subst hid
        simp only [Engine.step, if_neg hrun] at hc ⊢
        exact Dequeued.fresh hev hc hopen
    | mainTick tick => simp [processed, hrun] at hid
    | _ => cases hid

/-! ## The queues between the operations -/

/-- A connection is in the active queue if and only if it ticks, in the other one if and only if it waits,
not in both, and in each at most once. -/
structure InQueues (e : Engine) : Prop where
  active_iff : ∀ id, (∃ k, e.active.Holds k id) ↔ e.ticking id = true
  wakeup_iff : ∀ id, (∃ k, e.wakeup.Holds k id) ↔ e.waitWakeup id = true
  apart : ∀ id, ¬ ((∃ k, e.active.Holds k id) ∧ ∃ k, e.wakeup.Holds k id)
  active_once : ∀ i j, i < e.active.count → j < e.active.count → e.active.item i = e.active.item j → i = j
  wakeup_once : ∀ i j, i < e.wakeup.count → j < e.wakeup.count → e.wakeup.item i = e.wakeup.item j → i = j

theorem Queues.inQueues (h : Queues e none) : e.InQueues := by
  have hactive : ∀ id, (∃ k, e.active.Holds k id) ↔ e.ticking id = true := by
    intro id
    exact (h.heaps.left_iff id).trans ⟨And.left, fun htick => ⟨htick, nofun⟩⟩
  refine ⟨hactive, h.heaps.right_iff, fun id hboth => ?_, fun i j hi hj heq => ?_, fun i j hi hj heq => ?_⟩
  · have hwait := h.apart id ((hactive id).1 hboth.1)
    rw [(h.heaps.right_iff id).1 hboth.2] at hwait
    cases hwait
  · exact h.heaps.left.placed.inj hi hj heq
  · exact h.heaps.right.placed.inj hi hj heq

/-- A packet arrives at a new connection, which answers; the idle timer and the timer of loss detection
are set. -/
def answeredRun : List EngEvent :=
  [.create 7 [some 30000000],
    .packet 7 [some 30000000] true ⟨5000, [], [some 30000000, some 205000], false, false, []⟩]

/-- A probe timeout: the timer of loss detection is set again. -/
def probeTick : Tick := ⟨210000, [], [some 30000000, some 615000], false, false, []⟩

end Engine

end Rquic

import Rquic.Lib.Heap

set_option autoImplicit false

/-!
# The engine and its queues

`rqc_engine.c`: the connections that are to be processed now wait in `conns_active_pq`, the ones that
wait for a timer in `conns_wait_wakeup_pq`. Two flags of a connection tell in which queue it is, and
`wakeup_pq_index` where in it.

* `EngConn`, `Engine`: a connection as the queues see it, and the engine.
* `nextWakeupTime`: the earliest timer.
* `addWakeupQueue`, `removeWakeupQueue`, `addActiveQueue`, `removeActiveQueue`: the moves.
* `Tick`: what the processing of a connection does, as far as the queues can tell.
* `Engine.connLogic`, `Engine.wakeDue`, `Engine.mainTick`: `rqc_engine_conn_logic` and the two loops of
  `rqc_engine_main_logic`.
* `EngEvent`, `Engine.step`, `Engine.run`: the operations.

The processing of a connection is arbitrary: it sets timers, it may close the connection, and its
callbacks may call the API for any connection. A call inside a callback returns from
`rqc_engine_conn_logic` at once, since the engine is running. Pushing to a queue does not fail, and a queue
has fewer than `2 ^ 31` entries: its places are numbers here, and `Engine.Arrays` has them in 32 bits.
-/

namespace Rquic

/-- A handle of a connection. -/
abbrev ConnId := ℕ

/-- What the engine keeps of a connection. -/
structure EngConn where
  /-- `RQC_CONN_FLAG_WAIT_WAKEUP`. -/
  waitWakeup : Bool := false
  /-- `RQC_CONN_FLAG_TICKING`. -/
  ticking : Bool := false
  lastTickedTime : ℕ := 0
  nextTickTime : ℕ := 0
  /-- The expiry times of the timers that are set, of the connection and of its path. -/
  timers : List (Option ℕ) := []
  /-- `RQC_CONN_STATE_CLOSED`. -/
  closed : Bool := false
  deriving DecidableEq, Repr

/-- `RQC_MAX_UINT64_VALUE`. -/
def maxUint64 : ℕ := 2 ^ 64 - 1

/-- The loop of `rqc_conn_next_wakeup_time`. -/
def minTimer (minTime : ℕ) : List (Option ℕ) → ℕ
  | [] => minTime
  | none :: timers => minTimer minTime timers
  | some expireTime :: timers => minTimer (min minTime expireTime) timers

/-- `rqc_conn_next_wakeup_time`. -/
def nextWakeupTime (timers : List (Option ℕ)) : ℕ :=
  if minTimer maxUint64 timers = maxUint64 then 0 else minTimer maxUint64 timers

/-- The engine. -/
structure Engine where
  connsActivePq : Heap ConnId := ⟨fun _ => (0, 0), 0⟩
  connsWaitWakeupPq : Heap ConnId := ⟨fun _ => (0, 0), 0⟩
  /-- `wakeup_pq_index` of the connections. -/
  wakeupPqIndex : ConnId → ℕ := fun _ => 0
  conns : ConnId → Option EngConn := fun _ => none
  /-- `RQC_ENG_FLAG_RUNNING`, between the rounds of `rqc_engine_main_logic`. -/
  running : Bool := false
  /-- `RQC_ENG_FLAG_NO_DESTROY`. -/
  noDestroy : Bool := false

namespace Engine

def active (e : Engine) : PlacedHeap ConnId := ⟨e.connsActivePq, e.wakeupPqIndex⟩

def wakeup (e : Engine) : PlacedHeap ConnId := ⟨e.connsWaitWakeupPq, e.wakeupPqIndex⟩

def setActive (e : Engine) (q : PlacedHeap ConnId) : Engine :=
  { e with connsActivePq := q.toHeap, wakeupPqIndex := q.pos }

def setWakeup (e : Engine) (q : PlacedHeap ConnId) : Engine :=
  { e with connsWaitWakeupPq := q.toHeap, wakeupPqIndex := q.pos }

def setConn (e : Engine) (id : ConnId) (c : EngConn) : Engine :=
  { e with conns := Function.update e.conns id (some c) }

def ticking (e : Engine) (id : ConnId) : Bool := (e.conns id).any (·.ticking)

def waitWakeup (e : Engine) (id : ConnId) : Bool := (e.conns id).any (·.waitWakeup)

/-! ## Moves between the queues -/

/-- `rqc_engine_add_wakeup_queue`. -/
def addWakeupQueue (e : Engine) (id : ConnId) : Engine :=
  match e.conns id with
  | none => e
  | some c =>
    if c.waitWakeup || c.ticking then e
    else (e.setWakeup (e.wakeup.push c.nextTickTime id)).setConn id { c with waitWakeup := true }

/-- `rqc_engine_remove_wakeup_queue`. -/
def removeWakeupQueue (e : Engine) (id : ConnId) : Engine :=
  match e.conns id with
  | none => e
  | some c =>
    if c.waitWakeup then
      (e.setWakeup (e.wakeup.removeAt (e.wakeupPqIndex id))).setConn id { c with waitWakeup := false }
    else e

/-- `rqc_engine_add_active_queue`. -/
def addActiveQueue (e : Engine) (id : ConnId) : Engine :=
  match e.conns id with
  | none => e
  | some c =>
    if c.waitWakeup || c.ticking then e
    else (e.setActive (e.active.push c.lastTickedTime id)).setConn id { c with ticking := true }

/-- `rqc_engine_remove_active_queue`. -/
def removeActiveQueue (e : Engine) (id : ConnId) : Engine :=
  match e.conns id with
  | none => e
  | some c =>
    if c.ticking then
      (e.setActive (e.active.removeAt (e.wakeupPqIndex id))).setConn id { c with ticking := false }
    else e

/-- A connection is to be processed now. -/
def activate (e : Engine) (id : ConnId) : Engine := (e.removeWakeupQueue id).addActiveQueue id

/-! ## Processing -/

/-- A call of the API inside a callback. -/
inductive QueueOp where
  /-- Something was queued for the connection. -/
  | activate (id : ConnId)
  /-- A connection is created and has something to send. -/
  | create (id : ConnId) (timers : List (Option ℕ))

def create (e : Engine) (id : ConnId) (timers : List (Option ℕ)) : Engine :=
  match e.conns id with
  | none => e.setConn id { timers := timers }
  | some _ => e

def callback (e : Engine) : QueueOp → Engine
  | .activate id => e.activate id
  | .create id timers => (e.create id timers).activate id

/-- What the processing of a connection does: `rqc_engine_process_conn`, and the sending behind it. -/
structure Tick where
  now : ℕ
  /-- The calls of the callbacks. -/
  ops : List QueueOp := []
  /-- The timers behind the processing. -/
  timers : List (Option ℕ)
  /-- The connection is closed by `rqc_engine_process_conn`, or while it sends. -/
  closedEarly : Bool := false
  closed : Bool := false
  /-- The calls of the callbacks while the connection is destroyed. -/
  destroyOps : List QueueOp := []

/-- The connection is closed behind the processing. -/
def Tick.isClosed (tick : Tick) : Bool := tick.closedEarly || tick.closed

/-- A connection is processed and sends. -/
def processConn (e : Engine) (id : ConnId) (tick : Tick) : Engine :=
  let e := tick.ops.foldl callback e
  match e.conns id with
  | none => e
  | some c =>
    e.setConn id
      { c with
        timers := tick.timers
        closed := tick.isClosed
        lastTickedTime := if tick.closedEarly then c.lastTickedTime else tick.now }

/-- `next_tick_time` is set. -/
def setNextTick (e : Engine) (id : ConnId) (nextTickTime : ℕ) : Engine :=
  match e.conns id with
  | none => e
  | some c => e.setConn id { c with nextTickTime := nextTickTime }

/-- `rqc_engine_conn_logic`. A closed connection is woken up at once. -/
def connLogic (e : Engine) (id : ConnId) (tick : Tick) : Engine :=
  let e := e.processConn id tick
  let e := e.setNextTick id (if tick.isClosed then 0 else nextWakeupTime tick.timers)
  (e.removeActiveQueue id).addWakeupQueue id

/-- The first loop of `rqc_engine_main_logic`; it takes one entry off the queue in each round. -/
def wakeDue (now : ℕ) : ℕ → Engine → Engine
  | 0, e => e
  | fuel + 1, e =>
    if e.wakeup.count = 0 then e
    else if e.wakeup.key 0 ≤ now then wakeDue now fuel (e.activate (e.wakeup.item 0))
    else e

/-- The flag `RQC_CONN_FLAG_TICKING` is cleared. -/
def clearTicking (e : Engine) (id : ConnId) : Engine :=
  match e.conns id with
  | none => e
  | some c => e.setConn id { c with ticking := false }

/-- `rqc_conn_destroy`, of a connection that is not ticking. The calls of the callbacks for this
connection return before they reach the queues. -/
def destroy (e : Engine) (id : ConnId) (ops : List QueueOp) : Engine :=
  let e := e.removeWakeupQueue id
  let e := (ops.filter fun op =>
    match op with
    | .activate id' | .create id' _ => decide (id' ≠ id)).foldl callback e
  { e with conns := Function.update e.conns id none }

/-- One round of the second loop of `rqc_engine_main_logic`. -/
def mainTick (e : Engine) (tick : Tick) : Engine :=
  let id := e.active.item 0
  let e := e.setActive e.active.pop
  let e := e.processConn id tick
  if tick.isClosed = false ∧ nextWakeupTime tick.timers ≠ 0 then
    ((e.setNextTick id (nextWakeupTime tick.timers)).clearTicking id).addWakeupQueue id
  else if e.noDestroy then ((e.clearTicking id).setNextTick id 0).addWakeupQueue id
  else (e.clearTicking id).destroy id tick.destroyOps

/-! ## Operations -/

/-- What a send has to do before it may flush. -/
inductive SendPath where
  /-- It fails: the connection is closing, the stream was reset, or an argument is wrong. -/
  | refused
  /-- Nothing is queued: the rest of an atomic send is pending, FIN was written before, or there is
  nothing to send. -/
  | nothing
  /-- Data or FIN were written to packets, or wait to be. -/
  | queued
  /-- As before, but writing fails. -/
  | failed

/-- One operation of the engine. -/
inductive EngEvent where
  /-- A new connection of a server. -/
  | create (id : ConnId) (timers : List (Option ℕ))
  /-- `rqc_stream_send`, `rqc_stream_sendv_atomic`. -/
  | send (id : ConnId) (path : SendPath) (flush : Bool) (tick : Tick)
  /-- `rqc_stream_recv`, with a window update queued or not. -/
  | recv (id : ConnId) (queued : Bool)
  /-- `rqc_conn_close`, of a connection that is not draining yet or is. -/
  | close (id : ConnId) (done : Bool) (timers : List (Option ℕ))
  /-- `rqc_engine_packet_process`; with `needRun` the connection is processed at once. -/
  | packet (id : ConnId) (timers : List (Option ℕ)) (needRun : Bool) (tick : Tick)
  /-- `rqc_conn_continue_send`, `rqc_conn_send_ping`, `rqc_connect`. -/
  | continueSend (id : ConnId) (tick : Tick)
  /-- `rqc_engine_conn_logic`. -/
  | connLogic (id : ConnId) (tick : Tick)
  /-- `rqc_engine_main_logic` starts, goes round its second loop, and returns. -/
  | mainBegin (noDestroy : Bool) (now : ℕ)
  | mainTick (tick : Tick)
  | mainEnd

def setTimers (e : Engine) (id : ConnId) (timers : List (Option ℕ)) : Engine :=
  match e.conns id with
  | none => e
  | some c => e.setConn id { c with timers := timers }

/-- `rqc_stream_send` and `rqc_stream_sendv_atomic`. -/
def streamSend (e : Engine) (id : ConnId) (path : SendPath) (flush : Bool) (tick : Tick) : Engine :=
  match path with
  | .refused => e
  | .nothing => if flush then e.connLogic id tick else e
  | .queued => if flush then (e.activate id).connLogic id tick else e.activate id
  | .failed => e.activate id

/-- One step. While `rqc_engine_main_logic` runs, the API is called by callbacks only. -/
def step (e : Engine) : EngEvent → Engine
  | .create id timers => if e.running then e else e.create id timers
  | .send id path flush tick => if e.running then e else e.streamSend id path flush tick
  | .recv id queued => if e.running || !queued then e else e.activate id
  | .close id done timers => if e.running || done then e else (e.setTimers id timers).activate id
  | .packet id timers needRun tick =>
    if e.running then e
    else
      let e := (e.setTimers id timers).activate id
      if needRun then e.connLogic id tick else e
  | .continueSend id tick => if e.running then e else (e.activate id).connLogic id tick
  | .connLogic id tick => if e.running then e else e.connLogic id tick
  | .mainBegin noDestroy now =>
    if e.running then e
    else wakeDue now e.wakeup.count { e with running := true, noDestroy := noDestroy }
  | .mainTick tick => if e.running = true ∧ e.active.count ≠ 0 then e.mainTick tick else e
  | .mainEnd => if e.active.count = 0 then { e with running := false } else e

/-- A run. -/
def run (e : Engine) (evs : List EngEvent) : Engine := evs.foldl step e

end Engine

end Rquic

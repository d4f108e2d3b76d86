import Rquic.Conn.Status

set_option autoImplicit false

/-!
# The life of a connection

The connection with its timers, the flags that acknowledge and close it, and the application that is
called back: `rqc_conn_close`, `rqc_conn_immediate_close`, `rqc_engine_process_conn`, the handshake
with its notifications, and the record of received packets with `rqc_maybe_should_ack`.

* `LiveConn`: the connection with these fields. The application may close the connection from inside
  `conn_create_notify` and `conn_handshake_finished`; a close from inside another callback is an event
  of its own, since nothing behind those callbacks looks at the state again.
* `LiveConn.immediateClose`, `LiveConn.processConnCloseFrame`, `LiveConn.processHandshake`: what moves
  the state.
* `LiveConn.processConn`: `rqc_engine_process_conn` up to the point where the streams are served.
* `LiveConn.recordSingle`, `LiveConn.maybeShouldAck`, `LiveConn.writeAck`: the acknowledgements.
* `LiveConn.step`, `LiveConn.run`: the runs.
* **`LiveConn.step_frame_toConn`**: a frame does to the connection what it does in `Conn.step`.
-/

namespace Rquic

/-- The time and the probe timeout that a function reads. -/
structure Clock where
  now : ℕ
  pto : ℕ
  deriving DecidableEq, Repr

/-- What the handlers ask of their environment, with the closes from inside the callbacks. -/
structure LiveEnv extends FrameEnv where
  clock : Clock
  /-- `conn_create_notify` calls `rqc_conn_close`. -/
  createCloses : Bool
  /-- `conn_handshake_finished` calls `rqc_conn_close`. -/
  finishCloses : Bool

/-- The connection with its timers and flags. A timer that is set has its expiry time. -/
structure LiveConn extends Conn where
  lingerOn : Bool := false
  lingerTimeout : ℕ := 0
  ackFrequency : ℕ := 2
  adaptiveAckFrequency : Bool := false
  /-- `RQC_CONN_FLAG_TIME_OUT`. -/
  timeOut : Bool := false
  /-- `RQC_CONN_FLAG_LINGER_CLOSING`. -/
  lingerClosing : Bool := false
  idleTimer : Option ℕ := none
  drainingTimer : Option ℕ := none
  lingerTimer : Option ℕ := none
  ackTimer : Option ℕ := none
  /-- `ctl_ack_eliciting_pkt`, a `uint32_t`. -/
  ackElicitingPkt : ℕ := 0
  ackSentCnt : ℕ := 0
  /-- `RQC_PATH_FLAG_SHOULD_ACK`. -/
  shouldAck : Bool := false
  ackFlag : ℕ := 0
  /-- The calls of `conn_handshake_finished`. -/
  finished : ℕ := 0
  /-- The values that `conn_state` took, the newest first. -/
  states : List ConnState := []

namespace LiveConn

/-- The connection is replaced. -/
def onConn (l : LiveConn) (c : Conn) : LiveConn := { l with toConn := c }

/-- `conn_state` is assigned. -/
def setState (l : LiveConn) (connState : ConnState) : LiveConn :=
  { l with connState := connState, states := connState :: l.states }

/-- `rqc_conn_create`. -/
def create (connType : ConnType) (settings : ConnSettings) (header : PktType → Bytes)
    (lingerOn : Bool) (lingerTimeout ackFrequency : ℕ) (adaptiveAckFrequency : Bool) : LiveConn :=
  let c := connCreate connType settings header
  { toConn := c
    lingerOn := lingerOn
    lingerTimeout := lingerTimeout
    ackFrequency := ackFrequency
    adaptiveAckFrequency := adaptiveAckFrequency
    states := [c.connState] }

/-! ## Closing -/

/-- `rqc_conn_shutdown`. -/
def shutdown (l : LiveConn) (clock : Clock) : LiveConn :=
  { l with
    sndq := l.sndq.dropPackets
    drainingTimer := some (l.drainingTimer.getD (clock.now + 3 * clock.pto))
    ackTimer := none }

/-- `rqc_conn_immediate_close`. -/
def immediateClose (l : LiveConn) (clock : Clock) : LiveConn :=
  if ConnState.draining.toNat ≤ l.connState.toNat then l
  else if l.connType = .client ∧ l.handshakeSent = false then l.setState .closed
  else if l.connType = .server ∧ l.handshakeRecvd = false then l.setState .closed
  else
    let l := if l.isClosing then l else (l.shutdown clock).setState .closing
    l.onConn (writeConnClose l.toConn)

/-- `rqc_send_queue_out_queue_empty`. -/
def outQueueEmpty (l : LiveConn) : Bool :=
  [Place.sendPackets, .sendPacketsHighPri, .lostPackets, .ptoProbePackets, .buff1rttPackets,
    .unackedPackets, .scheduleBuf .normal, .scheduleBuf .normalHighPri, .scheduleBuf .retrans,
    .scheduleBuf .ptoProbe].all fun p => (l.sndq.lists p).isEmpty

/-- `rqc_conn_close`. -/
def close (l : LiveConn) (clock : Clock) : LiveConn :=
  if ConnState.draining.toNat ≤ l.connState.toNat then l
  else if l.lingerOn = true ∧ l.outQueueEmpty = false then
    { l with
      lingerClosing := true
      lingerTimer := some (clock.now +
        if l.lingerTimeout ≠ 0 then l.lingerTimeout else 3 * clock.pto) }
  else l.immediateClose clock

/-- `rqc_process_conn_close_frame`. -/
def processConnCloseFrame (l : LiveConn) (clock : Clock) (errCode : ℕ) : LiveConn :=
  let l := if errCode ≠ 0 then l.onConn (l.raise (.remote errCode)) else l
  let l := if l.isClosing then l else l.immediateClose clock
  l.setState .draining

/-! ## The handshake -/

/-- The application closes the connection from inside a callback. -/
def closeIf (l : LiveConn) (closes : Bool) (clock : Clock) : LiveConn :=
  if closes then l.close clock else l

/-- `rqc_conn_server_on_alpn`. -/
def serverOnAlpn (env : LiveEnv) (l : LiveConn) (alpn : Bytes) : LiveConn × Except Errno Unit :=
  match env.alpn alpn with
  | .notRegistered => (l.onConn { l.toConn with alpn := [] }, .error .alpnNotRegistered)
  | .refused =>
    let l := (l.onConn { l.toConn with alpn := alpn, selfProtoExt := [] }).closeIf env.createCloses
      env.clock
    (l.onConn (l.raise .internalError), .error .generic)
  | .accepted ext =>
    let l := (l.onConn { l.toConn with alpn := alpn, selfProtoExt := [] }).closeIf env.createCloses
      env.clock
    if protoExtCap < ext.length then (l.onConn (l.raise .internalError), .error .param)
    else (l.onConn { l.toConn with selfProtoExt := ext }, .ok ())

/-- `conn_handshake_finished` is called. -/
def notifyFinished (env : LiveEnv) (l : LiveConn) : LiveConn :=
  { l with finished := l.finished + 1 }.closeIf env.finishCloses env.clock

/-- The end of `rqc_conn_process_handshake`. -/
def finishHandshake (env : LiveEnv) (l : LiveConn) (alpn : Bytes) : LiveConn × Except Errno Unit :=
  match l.connType with
  | .client =>
    (notifyFinished env
      ({ l with handshakeRecvd := true, handshakeDone := true }.setState .estabed), .ok ())
  | .server =>
    match serverOnAlpn env l alpn with
    | (l, .error e) => (l, .error e)
    | (l, .ok _) =>
      match sendHandshake l.toConn with
      | (c, .error e) => (l.onConn c, .error e)
      | (c, .ok _) => ((l.onConn { c with handshakeRecvd := true }).setState .serverHandshake, .ok ())

/-- `rqc_conn_process_handshake`. -/
def processHandshake (env : LiveEnv) (l : LiveConn) (alpn tp ext : Bytes) :
    LiveConn × Except Errno Unit :=
  if ¬ expectsHandshake l.toConn then (l, .ok ())
  else if protoExtCap < ext.length then (l.onConn (l.raise .protocolViolation), .error .illframe)
  else
    let l := l.onConn { l.toConn with peerProtoExt := ext }
    match decodeTransportParams tp with
    | .error e => (l.onConn (l.raise .transportParameterError), .error e)
    | .ok p =>
      if ¬ checkTransportParams p then (l.onConn (l.raise .transportParameterError), .error .illtp)
      else
        finishHandshake env (l.onConn (updateFlowCtlSettings (setRemoteTransportParams l.toConn p)))
          alpn

/-- `rqc_conn_on_handshake_acked`. -/
def onHandshakeAcked (env : LiveEnv) (l : LiveConn) : LiveConn :=
  if l.connType = .server then
    let l := { l with handshakeDone := true }
    if l.connState = .serverHandshake then notifyFinished env (l.setState .estabed) else l
  else l

/-- `rqc_process_ack_frame`. -/
def processAckFrame (env : LiveEnv) (l : LiveConn) (info : AckInfo) : LiveConn :=
  let sndq := (onAckReceived l.sndq info env.th).1
  let l' := l.onConn { l.toConn with sndq := sndq }
  if handshakeAcked l.sndq sndq then onHandshakeAcked env l' else l'

/-- The handler of a frame. -/
def processFrame (env : LiveEnv) (l : LiveConn) (pkt : PacketIn) (pos frameLen : ℕ) :
    Frame → LiveConn
  | .ack info => processAckFrame env l info
  | .handshake alpn tp ext => (processHandshake env l alpn tp ext).1
  | .connectionClose errCode => l.processConnCloseFrame env.clock errCode
  | f => l.onConn (Rquic.processFrame env.toFrameEnv l.toConn pkt pos frameLen f).1

/-! ## Acknowledgements -/

/-- `rqc_get_ack_frequency`. -/
def getAckFrequency (l : LiveConn) : ℕ :=
  if l.handshakeDone = true ∧ l.adaptiveAckFrequency = true ∧ 100 ≤ l.ackSentCnt then
    max l.ackFrequency 10
  else l.ackFrequency

/-- `rqc_maybe_should_ack`. -/
def maybeShouldAck (l : LiveConn) (outOfOrder : Bool) (now : ℕ) : LiveConn :=
  if l.shouldAck then l
  else if l.getAckFrequency ≤ l.ackElicitingPkt
      ∨ l.isEstablished = false ∧ 0 < l.ackElicitingPkt
      ∨ outOfOrder = true ∧ 0 < l.ackElicitingPkt then
    { l with shouldAck := true, ackFlag := l.ackFlag ||| 1, ackTimer := none }
  else if 0 < l.ackElicitingPkt ∧ l.ackTimer = none then
    { l with ackTimer := some (now + l.localSettings.maxAckDelay * 1000) }
  else l

/-- `rqc_conn_record_single`, of a packet with the frame types `types`. -/
def recordSingle (l : LiveConn) (pktNum : ℕ) (types : Finset FrameType) (recvTime : ℕ) : LiveConn :=
  match recvRecordAdd l.sndq.recvRecord pktNum with
  | (_, .dup) => l
  | (record, .ok) =>
    let l := l.onConn { l.toConn with sndq := { l.sndq with recvRecord := record } }
    let l :=
      if isAckEliciting types then { l with ackElicitingPkt := (l.ackElicitingPkt + 1) % 2 ^ 32 }
      else l
    l.maybeShouldAck (pktNum ≠ recvRecordLargest record) recvTime

/-- `rqc_conn_on_pkt_processed`. -/
def onPktProcessed (env : LiveEnv) (l : LiveConn) (pkt : PacketIn) (types : Finset FrameType) :
    LiveConn :=
  let l := if pkt.pktType = .shortHeader then onHandshakeAcked env l else l
  l.recordSingle pkt.pktNum types env.clock.now

/-- `rqc_timer_ack_timeout`. -/
def ackTimeout (l : LiveConn) : LiveConn := { l with shouldAck := true, ackFlag := l.ackFlag ||| 1 }

/-- `rqc_write_ack_to_packets` puts an ACK frame into a packet of its own. -/
def ackFitsNew (s : SendQueue) (params : PktParams) (ackDelay ackDelayExponent : ℕ) : Bool :=
  match params.newPacket with
  | .error _ => false
  | .ok po => (writeAckToOnePacket po ackDelay ackDelayExponent s.recvRecord.ranges).toBool

/-- `rqc_write_ack_to_packets` writes an ACK frame. -/
def ackWritten (s : SendQueue) (params : PktParams) (ackDelay ackDelayExponent : ℕ) : Bool :=
  if s.recvRecord.ranges = [] then false
  else
    match ackTarget s with
    | none => ackFitsNew s params ackDelay ackDelayExponent
    | some id =>
      if (s.pkts id).canAttachAck params.pktType then
        match writeAckToOnePacket (s.pkts id) ackDelay ackDelayExponent s.recvRecord.ranges with
        | .ok _ => true
        | .error .nobuf => ackFitsNew s params ackDelay ackDelayExponent
        | .error _ => false
      else ackFitsNew s params ackDelay ackDelayExponent

/-- `rqc_write_ack_to_packets` as `rqc_engine_process_conn` calls it. A record without packets is no
error. -/
def writeAck (l : LiveConn) (ackDelay ackDelayExponent : ℕ) : LiveConn :=
  if l.ackFlag = 0 then l
  else if l.shouldAck = false ∨ l.sndq.recvRecord.ranges = [] then l
  else
    let params := l.params l.stateToPktType
    let c := { l.toConn with sndq := writeAckToPackets l.sndq params ackDelay ackDelayExponent }
    if ackWritten l.sndq params ackDelay ackDelayExponent then
      { l with
        toConn := c, ackElicitingPkt := 0, shouldAck := false
        ackFlag := l.ackFlag - l.ackFlag % 2, ackSentCnt := l.ackSentCnt + 1 }
    else l.onConn (c.raise .internalError)

/-! ## The tick -/

/-- The timer expires. -/
def expired (timer : Option ℕ) (now : ℕ) : Bool := timer.any (· ≤ now)

/-- The timer after the callbacks of `rqc_timer_expire`. -/
def unsetExpired (timer : Option ℕ) (now : ℕ) : Option ℕ :=
  if expired timer now then none else timer

/-- `rqc_conn_timer_expire`, the timers of the connection and the ACK timer of the path. -/
def timerExpire (l : LiveConn) (clock : Clock) : LiveConn :=
  let l := { l with
    timeOut := l.timeOut || expired l.idleTimer clock.now || expired l.drainingTimer clock.now
    idleTimer := unsetExpired l.idleTimer clock.now
    drainingTimer := unsetExpired l.drainingTimer clock.now }
  let l :=
    if expired l.lingerTimer clock.now then
      immediateClose { l with lingerClosing := false, lingerTimer := none } clock
    else l
  if expired l.ackTimer clock.now then { l.ackTimeout with ackTimer := none } else l

/-- `rqc_engine_process_conn`, up to the point where the packets and the streams are served. -/
def processConn (l : LiveConn) (clock : Clock) : LiveConn :=
  let l := l.timerExpire clock
  if l.timeOut then l.setState .closed
  else if l.connErr.isSome then l.immediateClose clock
  else if l.lingerClosing then
    if l.outQueueEmpty then
      { immediateClose { l with lingerTimer := none } clock with lingerClosing := false }
    else l
  else l

/-! ## Runs -/

/-- A packet with a HANDSHAKE frame is acknowledged together with its origin. -/
def handshakeDropped (before after : SendQueue) : Bool :=
  (List.range before.nextId).any fun id =>
    decide (.handshake ∈ (after.pkts id).poFrameTypes) && (after.pkts id).poAcked &&
      !(before.pkts id).poAcked

/-- One event of a connection. -/
inductive LiveEvent where
  | frame (env : LiveEnv) (pkt : PacketIn) (pos frameLen : ℕ) (f : WireFrame)
  | processed (env : LiveEnv) (pkt : PacketIn) (types : Finset FrameType)
  | engine (env : LiveEnv) (ev : EngineEvent)
  | writeAck (ackDelay ackDelayExponent : ℕ)
  /-- A packet arrives at a closing connection. -/
  | immediateClose (clock : Clock)
  | close (clock : Clock)
  | tick (clock : Clock)
  /-- The idle timer is set again. -/
  | armIdle (expire : ℕ)
  /-- `write_socket` or `write_mmsg` fails, or `rqc_conn_destroy` is called during a tick. -/
  | socketError
  /-- The calls of the application and what else concerns the streams. -/
  | conn (ev : ConnEvent)

/-- One step. -/
def step (l : LiveConn) : LiveEvent → LiveConn
  | .frame env pkt pos frameLen f =>
    if l.takesFrame pkt f.1 then
      processFrame env (l.onConn (l.addLog (.recvd pkt.pktNum pos f.1))) pkt pos frameLen f.1
    else l
  | .processed env pkt types =>
    if refusesPacket l.toConn pkt then l else onPktProcessed env l pkt types
  | .engine env ev =>
    let l' := l.onConn (l.toConn.step (.engine ev))
    if handshakeDropped l.sndq l'.sndq then onHandshakeAcked env l' else l'
  | .writeAck ackDelay ackDelayExponent => l.writeAck ackDelay ackDelayExponent
  | .immediateClose clock => l.immediateClose clock
  | .close clock => l.close clock
  | .tick clock => l.processConn clock
  | .armIdle expire => { l with idleTimer := some expire }
  | .socketError => l.setState .closed
  | .conn ev =>
    match ev with
    | .frame .. | .processed _ | .engine _ | .immediateClose => l
    -- `rqc_conn_send_handshake` of a client assigns the state
    | .handshake => (l.onConn (l.toConn.step .handshake)).setState (l.toConn.step .handshake).connState
    | ev => l.onConn (l.toConn.step ev)

theorem step_frame (l : LiveConn) (env : LiveEnv) (pkt : PacketIn) (pos frameLen : ℕ)
    (f : WireFrame) :
    l.step (.frame env pkt pos frameLen f) =
      if l.takesFrame pkt f.1 then
        processFrame env (l.onConn (l.addLog (.recvd pkt.pktNum pos f.1))) pkt pos frameLen f.1
      else l := rfl

/-- A run. -/
def run (l : LiveConn) (evs : List LiveEvent) : LiveConn := evs.foldl step l

theorem run_append (l : LiveConn) (evs : List LiveEvent) (ev : LiveEvent) :
    l.run (evs ++ [ev]) = (l.run evs).step ev := by
  unfold run
  rw [List.foldl_append]
  rfl

/-! ## The connection below -/

section

variable {l : LiveConn} {env : LiveEnv}

@[simp] theorem onConn_toConn (l : LiveConn) (c : Conn) : (l.onConn c).toConn = c := rfl

@[simp] theorem setState_toConn (l : LiveConn) (connState : ConnState) :
    (l.setState connState).toConn = { l.toConn with connState := connState } := rfl

theorem immediateClose_toConn (l : LiveConn) (clock : Clock) :
    (l.immediateClose clock).toConn = Rquic.immediateClose l.toConn := by
  unfold immediateClose Rquic.immediateClose
  split_ifs <;> rfl

theorem processConnCloseFrame_toConn (l : LiveConn) (clock : Clock) (errCode : ℕ) :
    (l.processConnCloseFrame clock errCode).toConn = Rquic.processConnCloseFrame l.toConn errCode := by
  obtain ⟨l', hl'⟩ : ∃ l' : LiveConn, l' =
      if errCode ≠ 0 then l.onConn (l.raise (.remote errCode)) else l := ⟨_, rfl⟩
  have hconn : l'.toConn = if errCode ≠ 0 then l.raise (.remote errCode) else l.toConn := by
    rw [hl']
    split_ifs <;> rfl
  unfold processConnCloseFrame Rquic.processConnCloseFrame
  dsimp only
  rw [← hl', ← hconn]
  split_ifs
  · rfl
  · rw [setState_toConn, immediateClose_toConn]

theorem closeIf_false (l : LiveConn) (clock : Clock) : l.closeIf false clock = l := rfl

theorem serverOnAlpn_toConn (hcreate : env.createCloses = false) (l : LiveConn) (alpn : Bytes) :
    (serverOnAlpn env l alpn).1.toConn = (Rquic.serverOnAlpn env.toFrameEnv l.toConn alpn).1 ∧
      (serverOnAlpn env l alpn).2 = (Rquic.serverOnAlpn env.toFrameEnv l.toConn alpn).2 := by
  unfold serverOnAlpn Rquic.serverOnAlpn
  rw [hcreate]
  simp only [closeIf_false]
  cases env.alpn alpn with
  | notRegistered | refused => exact ⟨rfl, rfl⟩
  | accepted ext =>
      dsimp only
      split_ifs <;> exact ⟨rfl, rfl⟩

theorem notifyFinished_toConn (hfinish : env.finishCloses = false) (l : LiveConn) :
    (notifyFinished env l).toConn = l.toConn := by
  unfold notifyFinished
  rw [hfinish]
  rfl

theorem finishHandshake_toConn (hcreate : env.createCloses = false)
    (hfinish : env.finishCloses = false) (l : LiveConn) (alpn : Bytes) :
    (finishHandshake env l alpn).1.toConn =
      (Rquic.finishHandshake env.toFrameEnv l.toConn alpn).1 := by
  unfold finishHandshake Rquic.finishHandshake
  cases l.connType with
  | client => exact notifyFinished_toConn hfinish _
  | server =>
      obtain ⟨hconn, hret⟩ := serverOnAlpn_toConn hcreate l alpn
      dsimp only
      rcases h : serverOnAlpn env l alpn with ⟨l₁, ret⟩
      rcases h' : Rquic.serverOnAlpn env.toFrameEnv l.toConn alpn with ⟨c₁, ret'⟩
      rw [h, h'] at hconn hret
      dsimp only at hconn hret
      subst hconn hret
      cases ret with
      | error e => rfl
      | ok =>
          dsimp only
          rcases sendHandshake l₁.toConn with ⟨c₂, _ | _⟩ <;> rfl

theorem processHandshake_toConn (hcreate : env.createCloses = false)
    (hfinish : env.finishCloses = false) (l : LiveConn) (alpn tp ext : Bytes) :
    (processHandshake env l alpn tp ext).1.toConn =
      (Rquic.processHandshake env.toFrameEnv l.toConn alpn tp ext).1 := by
  unfold processHandshake Rquic.processHandshake
  by_cases hexpects : expectsHandshake l.toConn = true
  · rw [if_neg (not_not.2 hexpects), if_neg (not_not.2 hexpects)]
    by_cases hext : protoExtCap < ext.length
    · rw [if_pos hext, if_pos hext]
      rfl
    · rw [if_neg hext, if_neg hext]
      dsimp only
      cases decodeTransportParams tp with
      | error e => rfl
      | ok p =>
          dsimp only
          by_cases hcheck : checkTransportParams p = true
          · rw [if_neg (not_not.2 hcheck), if_neg (not_not.2 hcheck)]
            exact finishHandshake_toConn hcreate hfinish _ alpn
          · rw [if_pos hcheck, if_pos hcheck]
            rfl
  · rw [if_pos hexpects, if_pos hexpects]

theorem onHandshakeAcked_toConn (hfinish : env.finishCloses = false) (l : LiveConn) :
    (onHandshakeAcked env l).toConn = Rquic.onHandshakeAcked l.toConn := by
  unfold onHandshakeAcked Rquic.onHandshakeAcked
  by_cases htype : l.connType = .server
  · rw [if_pos htype, if_pos htype]
    dsimp only
    by_cases hstate : l.connState = .serverHandshake
    · rw [if_pos hstate, if_pos hstate, notifyFinished_toConn hfinish, setState_toConn]
    · rw [if_neg hstate, if_neg hstate]
  · rw [if_neg htype, if_neg htype]

theorem processAckFrame_toConn (hfinish : env.finishCloses = false) (l : LiveConn) (info : AckInfo) :
    (processAckFrame env l info).toConn = (Rquic.processAckFrame env.toFrameEnv l.toConn info).1 := by
  have hconn : (processAckFrame env l info).toConn =
      if handshakeAcked l.sndq (onAckReceived l.sndq info env.th).1 then
        Rquic.onHandshakeAcked { l.toConn with sndq := (onAckReceived l.sndq info env.th).1 }
      else { l.toConn with sndq := (onAckReceived l.sndq info env.th).1 } := by
    unfold processAckFrame
    dsimp only
    split_ifs
    · exact onHandshakeAcked_toConn hfinish _
    · rfl
  rw [hconn]
  unfold Rquic.processAckFrame
  dsimp only
  cases (ackProcess l.sndq info).err <;> rfl

/-- **A frame does to the connection what it does in `Conn.step`**, if the application does not close
the connection meanwhile. -/
theorem step_frame_toConn (hcreate : env.createCloses = false) (hfinish : env.finishCloses = false)
    (l : LiveConn) (pkt : PacketIn) (pos frameLen : ℕ) (f : WireFrame) :
    (l.step (.frame env pkt pos frameLen f)).toConn =
      l.toConn.step (.frame env.toFrameEnv pkt pos frameLen f) := by
  rw [Conn.step_frame, step_frame]
  split_ifs
  · obtain ⟨f, hf⟩ := f
    cases f with
    | ack info => exact processAckFrame_toConn hfinish _ info
    | handshake alpn tp ext => exact processHandshake_toConn hcreate hfinish _ alpn tp ext
    | connectionClose errCode => exact processConnCloseFrame_toConn _ env.clock errCode
    | _ => rfl
  · rfl

end

end LiveConn

end Rquic

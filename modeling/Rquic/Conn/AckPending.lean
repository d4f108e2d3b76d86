import Rquic.Conn.Lifetime

set_option autoImplicit false

/-!
# No acknowledgement is forgotten

`ctl_ack_eliciting_pkt` counts the packets that still want an acknowledgement. `rqc_maybe_should_ack`,
`rqc_timer_ack_timeout`, `rqc_write_ack_to_one_packet` and `rqc_conn_shutdown` move the counter, the
flag and the timer.

* `LiveConn.acks`: the counter, the flags and the timer.
* `LiveConn.AckInv`: a positive counter has the flag or the timer; only a closing connection loses the
  timer.
* **`LiveConn.run_acks`**: the invariant holds in every run.
-/

namespace Rquic

namespace LiveConn

/-- The counter of packets to acknowledge, the two flags and the timer. -/
structure Acks where
  ackElicitingPkt : ℕ
  shouldAck : Bool
  ackFlag : ℕ
  ackTimer : Option ℕ
  deriving DecidableEq

def acks (l : LiveConn) : Acks := ⟨l.ackElicitingPkt, l.shouldAck, l.ackFlag, l.ackTimer⟩

/-- A positive counter has the flag or the timer. -/
def Acks.Pending (a : Acks) : Prop :=
  0 < a.ackElicitingPkt → a.shouldAck = true ∨ a.ackTimer.isSome = true

/-- What holds of the acknowledgements in every state. There is one path, with the number 0, so that
`ack_flag` has one bit. -/
structure AckInv (l : LiveConn) : Prop where
  pending : l.isClosing = false → l.acks.Pending
  flag : l.acks.ackFlag = l.acks.shouldAck.toNat
  /-- The handshake of a server is received once. -/
  fresh : l.connState = .serverInit → l.handshakeRecvd = false

section

variable {l l' : LiveConn}

theorem isClosing_eq_false {c : Conn} : c.isClosing = false ↔ c.connState.toNat < ConnState.closing.toNat := by
  unfold Conn.isClosing
  rw [decide_eq_false_iff_not, not_le]

theorem AckInv.of_acks (h : l.AckInv) (hacks : l'.acks = l.acks)
    (hclosing : l'.isClosing = false → l.isClosing = false)
    (hfresh : l'.connState = .serverInit → l'.handshakeRecvd = false) : l'.AckInv := by
  refine ⟨fun hopen => ?_, ?_, hfresh⟩
  · rw [hacks]
    exact h.pending (hclosing hopen)
  · rw [hacks]
    exact h.flag

theorem AckInv.onConn (h : l.AckInv) {c : Conn} (hc : c.status = l.toConn.status) :
    (l.onConn c).AckInv := by
  have hstate : c.connState = l.connState := Conn.status_connState hc
  refine h.of_acks rfl (fun hopen => ?_) fun hinit => ?_
  · rw [isClosing_eq_false] at hopen ⊢
    rw [← hstate]
    exact hopen
  · exact (Conn.status_handshakeRecvd hc).trans (h.fresh (hstate.symm.trans hinit))

theorem AckInv.setState (h : l.AckInv) {st : ConnState} (hle : l.connState.toNat ≤ st.toNat)
    (hst : st ≠ .serverInit) : (l.setState st).AckInv := by
  refine h.of_acks rfl (fun hopen => ?_) fun hinit => absurd hinit hst
  rw [isClosing_eq_false] at hopen ⊢
  exact hle.trans_lt hopen

theorem AckInv.setEnd (h : l.AckInv) {st : ConnState} (hst : ConnState.closing.toNat ≤ st.toNat) :
    (l.setState st).AckInv := by
  refine ⟨fun hopen => absurd (isClosing_eq_false.1 hopen) hst.not_gt, h.flag, fun hinit => ?_⟩
  rw [show st = .serverInit from hinit] at hst
  exact absurd hst (by decide)

/-! ## Closing -/

theorem AckInv.immediateClose (h : l.AckInv) (clock : Clock) : (l.immediateClose clock).AckInv := by
  rcases immediateClose_cases l clock with ⟨c, hc, heq⟩ | heq | ⟨c, -, hc, heq⟩
  · rw [heq]
    exact h.onConn hc.status
  · rw [heq]
    exact h.setEnd (by decide)
  · rw [heq]
    have hclosing : c.connState = .closing := Conn.status_connState hc.status
    refine ⟨fun hopen => ?_, h.flag, fun hinit => ?_⟩
    · rw [isClosing_eq_false] at hopen
      rw [show (((l.shutdown clock).setState .closing).onConn c).connState = .closing from hclosing]
        at hopen
      exact absurd hopen (lt_irrefl _)
    · rw [show (((l.shutdown clock).setState .closing).onConn c).connState = .closing from hclosing]
        at hinit
      cases hinit

theorem AckInv.close (h : l.AckInv) (clock : Clock) : (l.close clock).AckInv := by
  unfold LiveConn.close
  split_ifs
  · exact h
  · exact h.of_acks rfl id h.fresh
  · exact h.of_acks rfl id h.fresh
  · exact h.immediateClose clock

theorem AckInv.closeIf (h : l.AckInv) (closes : Bool) (clock : Clock) :
    (l.closeIf closes clock).AckInv := by
  unfold LiveConn.closeIf
  split_ifs
  · exact h.close clock
  · exact h

theorem AckInv.processConnCloseFrame (h : l.AckInv) (clock : Clock) (errCode : ℕ) :
    (l.processConnCloseFrame clock errCode).AckInv := by
  unfold LiveConn.processConnCloseFrame
  dsimp only
  have hraised : AckInv (if errCode ≠ 0 then l.onConn (l.raise (.remote errCode)) else l) := by
    split_ifs
    · exact h.onConn (raise_keeps _ _).status
    · exact h
  refine AckInv.setEnd ?_ (by decide)
  split_ifs at hraised ⊢
  · exact hraised
  · exact hraised.immediateClose clock
  · exact hraised
  · exact hraised.immediateClose clock

/-! ## The handshake -/

theorem AckInv.notifyFinished (h : l.AckInv) (env : LiveEnv) : (notifyFinished env l).AckInv := by
  refine AckInv.closeIf (l := { l with finished := l.finished + 1 }) ?_ _ _
  exact h.of_acks rfl id h.fresh

theorem AckInv.onHandshakeAcked (h : l.AckInv) (env : LiveEnv) : (onHandshakeAcked env l).AckInv := by
  have hdone : AckInv { l with handshakeDone := true } := h.of_acks rfl id h.fresh
  rcases onHandshakeAcked_cases env l with heq | ⟨-, heq⟩ | ⟨-, hstate, heq⟩
  · rw [heq]
    exact h
  · rw [heq]
    exact hdone
  · have hle : l.connState.toNat ≤ ConnState.estabed.toNat := by
      rw [hstate]
      decide
    rw [heq]
    exact AckInv.notifyFinished (hdone.setState hle (by decide)) env

theorem closeIf_acks (closes : Bool) (clock : Clock) (htype : l.connType = .server)
    (hrecvd : l.handshakeRecvd = false) : (l.closeIf closes clock).acks = l.acks := by
  unfold LiveConn.closeIf LiveConn.close LiveConn.immediateClose
  by_cases hcloses : closes = true
  · rw [if_pos hcloses]
    split_ifs
    · rfl
    · rfl
    · rfl
    · rfl
    · rfl
    · simp_all
    · simp_all
  · rw [if_neg hcloses]

theorem serverOnAlpn_acks (env : LiveEnv) (alpn : Bytes) (htype : l.connType = .server)
    (hrecvd : l.handshakeRecvd = false) : (serverOnAlpn env l alpn).1.acks = l.acks := by
  have hclose := closeIf_acks (l := l.onConn { l.toConn with alpn := alpn, selfProtoExt := [] })
    env.createCloses env.clock htype hrecvd
  unfold serverOnAlpn
  split
  · rfl
  · exact hclose
  · dsimp only
    split_ifs
    · exact hclose
    · exact hclose

theorem sendHandshake_handshakeRecvd (c : Conn) :
    (sendHandshake c).1.handshakeRecvd = c.handshakeRecvd := by
  rcases sendHandshake_status c with hsame | ⟨-, hnew⟩
  · exact Conn.status_handshakeRecvd hsame
  · exact (Conn.status_handshakeRecvd hnew).trans rfl

/-- A server that closes the connection while it accepts the handshake goes on without closing, with
the acknowledgements as they were. -/
theorem AckInv.finishHandshake (h : l.AckInv) (env : LiveEnv) (alpn : Bytes)
    (hexpects : expectsHandshake l.toConn = true) : (finishHandshake env l alpn).1.AckInv := by
  unfold LiveConn.finishHandshake
  unfold expectsHandshake at hexpects
  cases htype : l.connType with
  | client =>
      rw [htype, Bool.and_eq_true] at hexpects
      have hstate : l.connState = .clientHandshake := of_decide_eq_true hexpects.1
      have hflags : AckInv { l with handshakeRecvd := true, handshakeDone := true } := by
        refine h.of_acks rfl id fun hinit => ?_
        rw [show l.connState = .serverInit from hinit] at hstate
        cases hstate
      have hle : l.connState.toNat ≤ ConnState.estabed.toNat := by
        rw [hstate]
        decide
      exact AckInv.notifyFinished (hflags.setState hle (by decide)) env
  | server =>
      rw [htype] at hexpects
      have hstate : l.connState = .serverInit := of_decide_eq_true hexpects
      have hopen : l.isClosing = false := by
        rw [isClosing_eq_false, hstate]
        decide
      have hrecvd := h.fresh hstate
      have hacks := serverOnAlpn_acks env alpn htype hrecvd
      have hrecvd' : (serverOnAlpn env l alpn).1.handshakeRecvd = l.handshakeRecvd := by
        obtain ⟨st, hst⟩ := serverOnAlpn_status env l alpn
        exact (congrArg ConnStatus.handshakeRecvd hst :)
      dsimp only
      rcases hres : serverOnAlpn env l alpn with ⟨l₁, ret⟩
      rw [hres] at hacks hrecvd'
      cases ret with
      | error e => exact h.of_acks hacks (fun _ => hopen) fun _ => hrecvd'.trans hrecvd
      | ok u =>
          have hsend := sendHandshake_handshakeRecvd l₁.toConn
          dsimp only
          rcases hs : sendHandshake l₁.toConn with ⟨c, ret⟩
          rw [hs] at hsend
          cases ret with
          | error e =>
              exact h.of_acks hacks (fun _ => hopen) fun _ => hsend.trans (hrecvd'.trans hrecvd)
          | ok u => exact h.of_acks hacks (fun _ => hopen) fun hinit => by cases hinit

theorem AckInv.processHandshake (h : l.AckInv) (env : LiveEnv) (alpn tp ext : Bytes) :
    (processHandshake env l alpn tp ext).1.AckInv := by
  unfold LiveConn.processHandshake
  by_cases hexpects : expectsHandshake l.toConn = true
  · rw [if_neg (not_not.2 hexpects)]
    by_cases hext : protoExtCap < ext.length
    · rw [if_pos hext]
      exact h.onConn (raise_keeps _ _).status
    · rw [if_neg hext]
      dsimp only
      have hpeer : (l.onConn { l.toConn with peerProtoExt := ext }).AckInv := h.onConn rfl
      cases decodeTransportParams tp with
      | error e => exact hpeer.onConn (raise_keeps _ _).status
      | ok p =>
          dsimp only
          split_ifs
          · refine AckInv.finishHandshake ?_ env alpn hexpects
            exact h.of_acks rfl id h.fresh
          · exact hpeer.onConn (raise_keeps _ _).status
  · rw [if_pos hexpects]
    exact h

theorem AckInv.processAckFrame (h : l.AckInv) (env : LiveEnv) (info : AckInfo) :
    (processAckFrame env l info).AckInv := by
  have hacked : (l.onConn { l.toConn with sndq := (onAckReceived l.sndq info env.th).1 }).AckInv :=
    h.of_acks rfl id h.fresh
  unfold LiveConn.processAckFrame
  dsimp only
  split_ifs
  · exact hacked.onHandshakeAcked env
  · exact hacked

/-! ## Acknowledgements -/

theorem toNat_or_one (b : Bool) : b.toNat ||| 1 = 1 := by cases b <;> rfl

/-- `rqc_maybe_should_ack` makes good whatever the counter was. -/
theorem AckInv.maybeShouldAck {outOfOrder : Bool} {now : ℕ}
    (hflag : l.ackFlag = l.shouldAck.toNat) (hfresh : l.connState = .serverInit → l.handshakeRecvd = false) :
    (l.maybeShouldAck outOfOrder now).AckInv := by
  unfold LiveConn.maybeShouldAck
  split_ifs with hshould hnow htimer
  · exact ⟨fun _ _ => .inl hshould, hflag, hfresh⟩
  · refine ⟨fun _ _ => .inl rfl, ?_, hfresh⟩
    show l.ackFlag ||| 1 = 1
    rw [hflag, toNat_or_one]
  · exact ⟨fun _ _ => .inr rfl, hflag, hfresh⟩
  · -- the counter is 0, or the timer is set already
    refine ⟨fun _ hpos => .inr ?_, hflag, hfresh⟩
    exact Option.isSome_iff_ne_none.2 fun hnone => htimer ⟨hpos, hnone⟩

theorem AckInv.recordSingle (h : l.AckInv) (pktNum : ℕ) (types : Finset FrameType) (recvTime : ℕ) :
    (l.recordSingle pktNum types recvTime).AckInv := by
  unfold LiveConn.recordSingle
  split
  · exact h
  · dsimp only
    split_ifs
    · exact AckInv.maybeShouldAck h.flag h.fresh
    · exact AckInv.maybeShouldAck h.flag h.fresh

theorem AckInv.onPktProcessed (h : l.AckInv) (env : LiveEnv) (pkt : PacketIn)
    (types : Finset FrameType) : (onPktProcessed env l pkt types).AckInv := by
  unfold LiveConn.onPktProcessed
  dsimp only
  refine AckInv.recordSingle ?_ _ _ _
  split_ifs
  · exact h.onHandshakeAcked env
  · exact h

/-- An ACK frame that is written settles everything, and one that is not leaves everything. -/
theorem AckInv.writeAck (h : l.AckInv) (ackDelay ackDelayExponent : ℕ) :
    (l.writeAck ackDelay ackDelayExponent).AckInv := by
  rcases writeAck_cases l ackDelay ackDelayExponent rfl with heq | heq | heq
  · rw [heq]
    exact h
  · rw [heq]
    refine ⟨fun _ hpos => absurd hpos (lt_irrefl 0), ?_, h.fresh⟩
    have hbit : l.ackFlag = l.shouldAck.toNat := h.flag
    show l.ackFlag - l.ackFlag % 2 = 0
    rw [hbit]
    cases l.shouldAck <;> rfl
  · rw [heq]
    exact h.onConn ((raise_keeps _ _).status.trans rfl)

/-! ## The tick -/

theorem AckInv.timerExpire (h : l.AckInv) (clock : Clock) : (l.timerExpire clock).AckInv := by
  have hend : (l.endTimers clock).AckInv := h.of_acks rfl id h.fresh
  have hlinger : ((l.endTimers clock).lingerExpire clock).AckInv := by
    unfold lingerExpire
    split_ifs
    · refine AckInv.immediateClose ?_ clock
      exact hend.of_acks rfl id hend.fresh
    · exact hend
  rw [timerExpire_eq]
  dsimp only
  split_ifs
  · refine ⟨fun _ _ => .inl rfl, ?_, hlinger.fresh⟩
    show _ ||| 1 = 1
    rw [show ((l.endTimers clock).lingerExpire clock).ackFlag = _ from hlinger.flag, toNat_or_one]
  · exact hlinger

theorem AckInv.processConn (h : l.AckInv) (clock : Clock) : (l.processConn clock).AckInv := by
  have hexp := h.timerExpire clock
  unfold LiveConn.processConn
  dsimp only
  split_ifs
  · exact hexp.setEnd (by decide)
  · exact hexp.immediateClose clock
  · have hclose : (LiveConn.immediateClose { l.timerExpire clock with lingerTimer := none }
        clock).AckInv := by
      refine AckInv.immediateClose ?_ clock
      exact hexp.of_acks rfl id hexp.fresh
    exact hclose.of_acks rfl id hclose.fresh
  · exact hexp
  · exact hexp

/-! ## Runs -/

theorem AckInv.processFrame (h : l.AckInv) (env : LiveEnv) (pkt : PacketIn) (pos frameLen : ℕ)
    (f : Frame) : (LiveConn.processFrame env l pkt pos frameLen f).AckInv := by
  cases f with
  | ack info => exact h.processAckFrame env info
  | handshake alpn tp ext => exact h.processHandshake env alpn tp ext
  | connectionClose errCode => exact h.processConnCloseFrame env.clock errCode
  | _ => exact h.onConn (processFrame_keeps _ env.toFrameEnv pkt pos frameLen rfl).status

theorem AckInv.conn (h : l.AckInv) (ev : ConnEvent) : (l.step (.conn ev)).AckInv := by
  cases ev with
  | frame | processed | engine | immediateClose => exact h
  | handshake =>
      have hrecvd : (l.toConn.step .handshake).handshakeRecvd = l.handshakeRecvd := by
        unfold Conn.step
        dsimp only
        split_ifs
        · exact sendHandshake_handshakeRecvd l.toConn
        · rfl
      have hstate := step_handshake_cases l.toConn
      refine h.of_acks rfl (fun hopen => ?_) fun hinit => ?_
      · rw [isClosing_eq_false] at hopen ⊢
        rcases hstate with hsame | ⟨hinit, -⟩
        · rwa [show (l.step (.conn .handshake)).connState = l.connState from hsame] at hopen
        · rw [hinit]
          decide
      · rcases hstate with hsame | ⟨-, hnew⟩
        · exact hrecvd.trans (h.fresh (hsame.symm.trans hinit))
        · rw [show (l.step (.conn .handshake)).connState = .clientHandshake from hnew] at hinit
          cases hinit
  | _ => exact h.onConn (step_keeps _ rfl).status

theorem AckInv.step (h : l.AckInv) (ev : LiveEvent) : (l.step ev).AckInv := by
  cases ev with
  | frame env pkt pos frameLen f =>
      rw [step_frame]
      split_ifs
      · refine AckInv.processFrame ?_ env pkt pos frameLen f.1
        exact h.onConn rfl
      · exact h
  | processed env pkt types =>
      simp only [LiveConn.step]
      split_ifs
      · exact h
      · exact h.onPktProcessed env pkt types
  | engine env ev =>
      have hmoved : (l.onConn (l.toConn.step (.engine ev))).AckInv := h.of_acks rfl id h.fresh
      unfold LiveConn.step
      dsimp only
      split_ifs
      · exact hmoved.onHandshakeAcked env
      · exact hmoved
  | writeAck ackDelay ackDelayExponent => exact h.writeAck ackDelay ackDelayExponent
  | immediateClose clock => exact h.immediateClose clock
  | close clock => exact h.close clock
  | tick clock => exact h.processConn clock
  | armIdle expire => exact h.of_acks rfl id h.fresh
  | socketError => exact h.setEnd (by decide)
  | conn ev => exact h.conn ev

end

/-- An invariant of the steps is an invariant of the runs. -/
theorem run_inv {P : LiveConn → Prop} (hstep : ∀ l ev, P l → P (l.step ev)) {l : LiveConn} (h : P l)
    (evs : List LiveEvent) : P (l.run evs) := by
  induction evs generalizing l with
  | nil => exact h
  | cons ev evs ih => exact ih (hstep l ev h)

/-- **No acknowledgement is forgotten.** In every state of every run that is not closing, a packet that
wants an acknowledgement has the flag or the timer, and `ack_flag` says what the flag of the path says. -/
theorem run_acks (connType : ConnType) (settings : ConnSettings) (header : PktType → Bytes)
    (lingerOn : Bool) (lingerTimeout ackFrequency : ℕ) (adaptiveAckFrequency : Bool)
    (evs : List LiveEvent) :
    let l := (create connType settings header lingerOn lingerTimeout ackFrequency
      adaptiveAckFrequency).run evs
    l.isClosing = false →
      (0 < l.ackElicitingPkt → l.shouldAck = true ∨ l.ackTimer.isSome = true) ∧
        (l.ackFlag ≠ 0 ↔ l.shouldAck = true) := by
  intro l hopen
  have hinit : (create connType settings header lingerOn lingerTimeout ackFrequency
      adaptiveAckFrequency).AckInv :=
    ⟨fun _ hpos => absurd hpos (lt_irrefl 0), rfl, fun _ => rfl⟩
  have h : l.AckInv := run_inv (fun _ ev h => h.step ev) hinit evs
  refine ⟨h.pending hopen, ?_⟩
  have hflag : l.ackFlag = l.shouldAck.toNat := h.flag
  rw [hflag]
  cases l.shouldAck <;> decide

/-- The handshake of a server up to the first 1-RTT packet, which holds a PING. -/
def firstPing : List LiveEvent :=
  [firstFrame false (.handshake [] clientParams []) trivial, .engine (liveEnv false) (.schedule .normal),
    .engine (liveEnv false) (.send .normal .sent 0 0),
    .processed (liveEnv false) ⟨.shortHeader, 1, []⟩ {.ping}]

/-- The first PING waits for its acknowledgement with the timer set. -/
theorem run_acks_firstPing :
    (newLiveServer.run firstPing).ackElicitingPkt = 1 ∧
      ((newLiveServer.run firstPing).shouldAck = true ∨
        (newLiveServer.run firstPing).ackTimer.isSome = true) := by
  have hcount : (newLiveServer.run firstPing).ackElicitingPkt = 1 := by decide +kernel
  have hopen : (newLiveServer.run firstPing).isClosing = false := by decide +kernel
  refine ⟨hcount, ?_⟩
  have hacks := run_acks .server ⟨0, false, 0, 1200, 1500, 0, 0, 0⟩ (fun _ => []) false 0 2 false firstPing
    hopen
  exact hacks.1 (one_pos.trans_eq hcount.symm)

end LiveConn

end Rquic

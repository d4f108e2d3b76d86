import Rquic.Conn.Live

set_option autoImplicit false

/-!
# The state machine of a connection

`conn_state` goes from the handshake to the end, and the draining timer makes sure that a connection
that is closing or draining ends.

* `LiveConn.LifeInv`: the states so far stand in order, and the draining timer is set where it is
  needed.
* `LiveConn.Orderly`: no CONNECTION_CLOSE frame arrives before the handshake, and `conn_create_notify`
  does not close a connection that it accepts.
* **`LiveConn.run_lifetime`**: in runs of orderly events the invariant holds.
-/

namespace Rquic

namespace LiveConn

/-- The draining timer is set while the connection is closing or draining. -/
def Armed (l : LiveConn) : Prop :=
  l.connState = .closing ∨ l.connState = .draining → l.drainingTimer.isSome = true

/-- `conn_state` never went backwards, and its last value is the present one. -/
structure Forward (l : LiveConn) : Prop where
  sorted : l.states.Pairwise fun later earlier => earlier.toNat ≤ later.toNat
  head : l.states.head? = some l.connState

/-- Both. -/
structure LifeInv (l : LiveConn) : Prop where
  forward : l.Forward
  armed : l.Armed

/-- The own side of the handshake is far enough for a CONNECTION_CLOSE frame. -/
def greeted (c : Conn) : Bool :=
  match c.connType with
  | .client => c.handshakeSent
  | .server => c.handshakeRecvd

/-- `rqc_conn_close` closes at once. -/
def closesAtOnce (l : LiveConn) : Bool := !(l.lingerOn && !l.outQueueEmpty)

/-- A server accepts the handshake, and its application closes the connection before it does. -/
def closedByAccept (env : LiveEnv) (l : LiveConn) (alpn tp ext : Bytes) : Bool :=
  decide (l.connType = .server) && expectsHandshake l.toConn && decide (ext.length ≤ protoExtCap) &&
    ((decodeTransportParams tp).toOption.any checkTransportParams) && env.createCloses &&
    l.closesAtOnce &&
    match env.alpn alpn with
    | .accepted ext' => decide (ext'.length ≤ protoExtCap)
    | _ => false

/-- No CONNECTION_CLOSE frame before the handshake, no close while the handshake is accepted. -/
def Orderly (l : LiveConn) : LiveEvent → Prop
  | .frame env pkt _ _ f => l.takesFrame pkt f.1 = true →
    match f.1 with
    | .connectionClose _ => l.isClosing = true ∨ greeted l.toConn = true
    | .handshake alpn tp ext => closedByAccept env l alpn tp ext = false
    | _ => True
  | _ => True

section

variable {l l' : LiveConn}

theorem LifeInv.of_eq (h : l.LifeInv) (hstate : l'.connState = l.connState)
    (hstates : l'.states = l.states) (htimer : l'.drainingTimer = l.drainingTimer) : l'.LifeInv := by
  refine ⟨⟨hstates ▸ h.forward.sorted, ?_⟩, ?_⟩
  · rw [hstates, hstate]
    exact h.forward.head
  · unfold Armed
    rw [hstate, htimer]
    exact h.armed

theorem LifeInv.onConn (h : l.LifeInv) {c : Conn} (hc : c.status = l.toConn.status) :
    (l.onConn c).LifeInv :=
  h.of_eq (Conn.status_connState hc) rfl rfl

/-- The state goes on, and the timer is set if the new state needs it. -/
theorem Forward.setState (h : l.Forward) {st : ConnState} (hle : l.connState.toNat ≤ st.toNat) :
    (l.setState st).Forward := by
  refine ⟨List.pairwise_cons.2 ⟨fun earlier hearlier => ?_, h.sorted⟩, rfl⟩
  -- the newest of the former states is the largest
  have hhead := h.head
  cases hstates : l.states with
  | nil => rw [hstates] at hearlier; cases hearlier
  | cons st₀ sts =>
      rw [hstates] at hhead hearlier
      obtain rfl := Option.some.inj hhead
      rcases List.mem_cons.1 hearlier with rfl | hmem
      · exact hle
      · have hsorted := h.sorted
        rw [hstates] at hsorted
        exact ((List.pairwise_cons.1 hsorted).1 earlier hmem).trans hle

theorem LifeInv.setState (h : l.LifeInv) {st : ConnState} (hle : l.connState.toNat ≤ st.toNat)
    (hst : st = .closing ∨ st = .draining → l.drainingTimer.isSome = true) :
    (l.setState st).LifeInv := ⟨h.forward.setState hle, hst⟩

theorem LifeInv.setClosed (h : l.LifeInv) : (l.setState .closed).LifeInv := by
  refine h.setState ?_ (by simp)
  cases l.connState <;> decide

/-! ## Closing -/

/-- `rqc_conn_on_handshake_acked` ends the handshake of a server, once. -/
theorem onHandshakeAcked_cases (env : LiveEnv) (l : LiveConn) :
    onHandshakeAcked env l = l ∨
      (l.connType = .server ∧ onHandshakeAcked env l = { l with handshakeDone := true }) ∨
      (l.connType = .server ∧ l.connState = .serverHandshake ∧
        onHandshakeAcked env l =
          notifyFinished env (LiveConn.setState { l with handshakeDone := true } .estabed)) := by
  unfold LiveConn.onHandshakeAcked
  by_cases htype : l.connType = .server
  · rw [if_pos htype]
    dsimp only
    by_cases hstate : l.connState = .serverHandshake
    · rw [if_pos hstate]
      exact .inr (.inr ⟨htype, hstate, rfl⟩)
    · rw [if_neg hstate]
      exact .inr (.inl ⟨htype, rfl⟩)
  · rw [if_neg htype]
    exact .inl rfl

/-- The connection once an ACK frame was written, or could not be. -/
theorem writeAck_cases (l : LiveConn) (ackDelay ackDelayExponent : ℕ) {c : Conn}
    (hc : { l.toConn with
      sndq := writeAckToPackets l.sndq (l.params l.stateToPktType) ackDelay ackDelayExponent } = c) :
    l.writeAck ackDelay ackDelayExponent = l ∨
      l.writeAck ackDelay ackDelayExponent =
        { l with
          toConn := c, ackElicitingPkt := 0, shouldAck := false
          ackFlag := l.ackFlag - l.ackFlag % 2, ackSentCnt := l.ackSentCnt + 1 } ∨
      l.writeAck ackDelay ackDelayExponent = l.onConn (c.raise .internalError) := by
  unfold LiveConn.writeAck
  dsimp only
  rw [hc]
  by_cases hflag : l.ackFlag = 0
  · rw [if_pos hflag]
    exact .inl rfl
  rw [if_neg hflag]
  by_cases hshould : l.shouldAck = false ∨ l.sndq.recvRecord.ranges = []
  · rw [if_pos hshould]
    exact .inl rfl
  rw [if_neg hshould]
  split_ifs
  · exact .inr (.inl rfl)
  · exact .inr (.inr rfl)

/-- `rqc_conn_immediate_close` has three ways out: nothing or a frame, CLOSED, and CLOSING with the
timer set. -/
theorem immediateClose_cases (l : LiveConn) (clock : Clock) :
    (∃ c : Conn, Keeps l.toConn c ∧ l.immediateClose clock = l.onConn c) ∨
      l.immediateClose clock = l.setState .closed ∨
      ∃ c : Conn, l.isClosing = false ∧ Keeps ((l.shutdown clock).setState .closing).toConn c ∧
        l.immediateClose clock = ((l.shutdown clock).setState .closing).onConn c := by
  unfold LiveConn.immediateClose
  by_cases hdraining : ConnState.draining.toNat ≤ l.connState.toNat
  · rw [if_pos hdraining]
    exact .inl ⟨l.toConn, .refl _, rfl⟩
  rw [if_neg hdraining]
  by_cases hclient : l.connType = .client ∧ l.handshakeSent = false
  · rw [if_pos hclient]
    exact .inr (.inl rfl)
  rw [if_neg hclient]
  by_cases hserver : l.connType = .server ∧ l.handshakeRecvd = false
  · rw [if_pos hserver]
    exact .inr (.inl rfl)
  rw [if_neg hserver]
  dsimp only
  by_cases hclosing : l.isClosing = true
  · rw [if_pos hclosing]
    exact .inl ⟨_, writeConnClose_keeps _, rfl⟩
  · rw [if_neg hclosing]
    exact .inr (.inr ⟨_, by simpa using hclosing, writeConnClose_keeps _, rfl⟩)

theorem Forward.onConn (h : l.Forward) {c : Conn} (hc : c.status = l.toConn.status) :
    (l.onConn c).Forward := by
  refine ⟨h.sorted, ?_⟩
  show l.states.head? = some c.connState
  rw [Conn.status_connState hc]
  exact h.head

theorem Forward.shutdown (h : l.Forward) (clock : Clock) (hclosing : l.isClosing = false) :
    ((l.shutdown clock).setState .closing).Forward := by
  have hshut : (l.shutdown clock).Forward := ⟨h.sorted, h.head⟩
  have hlt : ¬ ConnState.closing.toNat ≤ l.connState.toNat := of_decide_eq_false hclosing
  exact hshut.setState (not_le.1 hlt).le

theorem Forward.immediateClose (h : l.Forward) (clock : Clock) :
    (l.immediateClose clock).Forward := by
  rcases immediateClose_cases l clock with ⟨c, hc, heq⟩ | heq | ⟨c, hclosing, hc, heq⟩
  · rw [heq]
    exact h.onConn hc.status
  · rw [heq]
    refine h.setState ?_
    cases l.connState <;> decide
  · rw [heq]
    exact (h.shutdown clock hclosing).onConn hc.status

/-- `rqc_conn_immediate_close` sets the timer before it moves the state. -/
theorem LifeInv.immediateClose (h : l.LifeInv) (clock : Clock) : (l.immediateClose clock).LifeInv := by
  rcases immediateClose_cases l clock with ⟨c, hc, heq⟩ | heq | ⟨c, hclosing, hc, heq⟩
  · rw [heq]
    exact h.onConn hc.status
  · rw [heq]
    exact h.setClosed
  · rw [heq]
    have hnew : ((l.shutdown clock).setState .closing).LifeInv :=
      ⟨h.forward.shutdown clock hclosing, fun _ => rfl⟩
    exact hnew.onConn hc.status

theorem LifeInv.close (h : l.LifeInv) (clock : Clock) : (l.close clock).LifeInv := by
  unfold LiveConn.close
  split_ifs
  · exact h
  · exact h.of_eq rfl rfl rfl
  · exact h.of_eq rfl rfl rfl
  · exact h.immediateClose clock

theorem LifeInv.closeIf (h : l.LifeInv) (closes : Bool) (clock : Clock) :
    (l.closeIf closes clock).LifeInv := by
  unfold LiveConn.closeIf
  split_ifs
  · exact h.close clock
  · exact h

theorem immediateClose_closing (clock : Clock) (hclosing : l.isClosing = false)
    (hgreeted : greeted l.toConn = true) : (l.immediateClose clock).connState = .closing := by
  have hlt : ¬ ConnState.draining.toNat ≤ l.connState.toNat := by
    unfold Conn.isClosing at hclosing
    cases hstate : l.connState <;> rw [hstate] at hclosing <;> simp_all [ConnState.toNat]
  have hclient : ¬ (l.connType = .client ∧ l.handshakeSent = false) := by
    rintro ⟨htype, hsent⟩
    unfold greeted at hgreeted
    rw [htype] at hgreeted
    simp_all
  have hserver : ¬ (l.connType = .server ∧ l.handshakeRecvd = false) := by
    rintro ⟨htype, hrecvd⟩
    unfold greeted at hgreeted
    rw [htype] at hgreeted
    simp_all
  unfold LiveConn.immediateClose
  rw [if_neg hlt, if_neg hclient, if_neg hserver]
  dsimp only
  rw [if_neg (by simp [hclosing])]
  exact Conn.status_connState ((writeConnClose_keeps _).status)

theorem LifeInv.processConnCloseFrame (h : l.LifeInv) (clock : Clock) (errCode : ℕ)
    (hclosed : l.isClosing = true → l.connState = .closing)
    (hok : l.isClosing = true ∨ greeted l.toConn = true) :
    (l.processConnCloseFrame clock errCode).LifeInv := by
  unfold LiveConn.processConnCloseFrame
  dsimp only
  obtain ⟨l₁, hl₁⟩ : ∃ l₁ : LiveConn, l₁ =
      if errCode ≠ 0 then l.onConn (l.raise (.remote errCode)) else l := ⟨_, rfl⟩
  have hstatus : l₁.toConn.status = l.toConn.status := by
    rw [hl₁]
    split_ifs
    · exact (raise_keeps _ _).status
    · rfl
  have h₁ : l₁.LifeInv := by
    rw [hl₁]
    split_ifs
    · exact h.onConn (raise_keeps _ _).status
    · exact h
  have hstate : l₁.connState = l.connState := Conn.status_connState hstatus
  have hsame : l₁.isClosing = l.isClosing := by
    unfold Conn.isClosing
    rw [hstate]
  rw [← hl₁]
  by_cases hclosing : l₁.isClosing = true
  · rw [if_pos hclosing]
    have hnow : l₁.connState = .closing := hstate.trans (hclosed (hsame ▸ hclosing))
    refine h₁.setState (by rw [hnow]; decide) fun _ => h₁.armed (.inl hnow)
  · rw [if_neg hclosing]
    have hgreeted : greeted l₁.toConn = true := by
      have hg := hok.resolve_left (by rwa [← hsame])
      unfold greeted at hg ⊢
      rw [Conn.status_connType hstatus, Conn.status_handshakeSent hstatus,
        Conn.status_handshakeRecvd hstatus]
      exact hg
    have hnow := immediateClose_closing clock (by simpa using hclosing) hgreeted
    have h₂ := h₁.immediateClose clock
    exact h₂.setState (by rw [hnow]; decide) fun _ => h₂.armed (.inl hnow)

/-! ## The handshake -/

theorem sendHandshake_connState (c : Conn) :
    (sendHandshake c).1.connState = c.connState ∨
      c.connType = .client ∧ (sendHandshake c).1.connState = .clientHandshake := by
  rcases sendHandshake_status c with hsame | ⟨htype, hnew⟩
  · exact .inl (Conn.status_connState hsame)
  · exact .inr ⟨htype, Conn.status_connState hnew⟩

theorem LifeInv.notifyFinished (h : l.LifeInv) (env : LiveEnv) : (notifyFinished env l).LifeInv :=
  LifeInv.closeIf (l := { l with finished := l.finished + 1 }) (h.of_eq rfl rfl rfl) _ _

theorem LifeInv.onHandshakeAcked (h : l.LifeInv) (env : LiveEnv) :
    (onHandshakeAcked env l).LifeInv := by
  have hdone : LifeInv { l with handshakeDone := true } := h.of_eq rfl rfl rfl
  rcases onHandshakeAcked_cases env l with heq | ⟨-, heq⟩ | ⟨-, hstate, heq⟩
  · rw [heq]
    exact h
  · rw [heq]
    exact hdone
  · have hle : l.connState.toNat ≤ ConnState.estabed.toNat := by
      rw [hstate]
      decide
    rw [heq]
    exact LifeInv.notifyFinished (hdone.setState hle (by simp)) env

theorem serverOnAlpn_lifeInv (h : l.LifeInv) (env : LiveEnv) (alpn : Bytes) :
    (serverOnAlpn env l alpn).1.LifeInv := by
  have hclose : ((l.onConn { l.toConn with alpn := alpn, selfProtoExt := [] }).closeIf env.createCloses
      env.clock).LifeInv := by
    refine LifeInv.closeIf (LifeInv.onConn h ?_) _ _
    rfl
  unfold serverOnAlpn
  split
  · refine LifeInv.onConn h ?_
    rfl
  · exact hclose.onConn (raise_keeps _ _).status
  · dsimp only
    split_ifs
    · exact hclose.onConn (raise_keeps _ _).status
    · exact hclose.onConn rfl

/-- A server that accepts the handshake without closing keeps its state until the end. -/
theorem serverOnAlpn_connState {env : LiveEnv} {alpn : Bytes} {ret : Unit}
    (hret : (serverOnAlpn env l alpn).2 = .ok ret)
    (hok : env.createCloses = true → l.closesAtOnce = true →
      ∀ ext, env.alpn alpn = .accepted ext → protoExtCap < ext.length) :
    (serverOnAlpn env l alpn).1.connState = l.connState := by
  unfold serverOnAlpn at hret ⊢
  cases halpn : env.alpn alpn with
  | notRegistered =>
      rw [halpn] at hret
      cases hret
  | refused =>
      rw [halpn] at hret
      cases hret
  | accepted ext =>
      rw [halpn] at hret
      dsimp only at hret ⊢
      by_cases hext : protoExtCap < ext.length
      · rw [if_pos hext] at hret
        cases hret
      · rw [if_neg hext]
        show ((l.onConn _).closeIf env.createCloses env.clock).connState = _
        unfold closeIf
        split_ifs with hcloses
        · have hlinger : l.closesAtOnce = false := by
            by_contra habs
            exact hext (hok hcloses (by simpa using habs) ext halpn)
          unfold close
          split_ifs with hdraining hlin
          · rfl
          · rfl
          · rfl
          · refine absurd ?_ hlin
            unfold closesAtOnce at hlinger
            simp only [Bool.not_eq_false', Bool.and_eq_true, Bool.not_eq_true'] at hlinger
            exact hlinger
        · rfl

theorem immediateClose_status (l : LiveConn) (clock : Clock) :
    ∃ st, (l.immediateClose clock).toConn.status = { l.toConn.status with connState := st } := by
  rcases immediateClose_cases l clock with ⟨c, hc, heq⟩ | heq | ⟨c, -, hc, heq⟩
  · rw [heq]
    exact ⟨l.connState, hc.status⟩
  · rw [heq]
    exact ⟨.closed, rfl⟩
  · rw [heq]
    exact ⟨.closing, hc.status⟩

theorem closeIf_status (l : LiveConn) (closes : Bool) (clock : Clock) :
    ∃ st, (l.closeIf closes clock).toConn.status = { l.toConn.status with connState := st } := by
  unfold closeIf LiveConn.close
  split_ifs
  · exact ⟨l.connState, rfl⟩
  · exact ⟨l.connState, rfl⟩
  · exact ⟨l.connState, rfl⟩
  · exact immediateClose_status l clock
  · exact ⟨l.connState, rfl⟩

theorem serverOnAlpn_status (env : LiveEnv) (l : LiveConn) (alpn : Bytes) :
    ∃ st, (serverOnAlpn env l alpn).1.toConn.status = { l.toConn.status with connState := st } := by
  obtain ⟨st, hclose⟩ := closeIf_status (l.onConn { l.toConn with alpn := alpn, selfProtoExt := [] })
    env.createCloses env.clock
  unfold serverOnAlpn
  split
  · exact ⟨l.connState, rfl⟩
  · exact ⟨st, (raise_keeps _ _).status.trans hclose⟩
  · dsimp only
    split_ifs
    · exact ⟨st, (raise_keeps _ _).status.trans hclose⟩
    · exact ⟨st, hclose⟩

theorem LifeInv.finishHandshake_server (h : l.LifeInv) {env : LiveEnv} {alpn : Bytes}
    (htype : l.connType = .server) (hstate : l.connState = .serverInit)
    (hok : env.createCloses = true → l.closesAtOnce = true →
      ∀ ext, env.alpn alpn = .accepted ext → protoExtCap < ext.length) :
    (finishHandshake env l alpn).1.LifeInv := by
  have halpn := serverOnAlpn_lifeInv h env alpn
  have hkeep := @serverOnAlpn_connState l env alpn
  have hserver : (serverOnAlpn env l alpn).1.connType = l.connType := by
    obtain ⟨st, hst⟩ := serverOnAlpn_status env l alpn
    exact (congrArg ConnStatus.connType hst :)
  unfold finishHandshake
  rw [htype]
  dsimp only
  rcases hres : serverOnAlpn env l alpn with ⟨l₁, ret⟩
  rw [hres] at halpn hkeep hserver
  dsimp only at halpn hkeep hserver
  cases ret with
  | error e => exact halpn
  | ok u =>
      have hinit : l₁.connState = .serverInit := (hkeep rfl hok).trans hstate
      have hsend := sendHandshake_connState l₁.toConn
      have hsame : (sendHandshake l₁.toConn).1.connState = l₁.connState :=
        hsend.resolve_right fun habs => by
          have hclient := habs.1
          rw [show l₁.toConn.connType = .server from hserver.trans htype] at hclient
          cases hclient
      dsimp only
      rcases hs : sendHandshake l₁.toConn with ⟨c, ret⟩
      rw [hs] at hsame
      cases ret with
      | error e => exact halpn.of_eq hsame rfl rfl
      | ok u =>
          have hrecvd : (l₁.onConn { c with handshakeRecvd := true }).LifeInv :=
            halpn.of_eq hsame rfl rfl
          refine hrecvd.setState ?_ (by simp)
          show c.connState.toNat ≤ _
          rw [show c.connState = _ from hsame, hinit]
          decide

theorem LifeInv.finishHandshake_client (h : l.LifeInv) (env : LiveEnv) (alpn : Bytes)
    (htype : l.connType = .client) (hstate : l.connState = .clientHandshake) :
    (finishHandshake env l alpn).1.LifeInv := by
  have hflags : LifeInv { l with handshakeRecvd := true, handshakeDone := true } :=
    h.of_eq rfl rfl rfl
  have hle : l.connState.toNat ≤ ConnState.estabed.toNat := by
    rw [hstate]
    decide
  unfold finishHandshake
  rw [htype]
  exact LifeInv.notifyFinished (hflags.setState hle (by simp)) env

theorem LifeInv.processHandshake (h : l.LifeInv) (env : LiveEnv) (alpn tp ext : Bytes)
    (hok : closedByAccept env l alpn tp ext = false) :
    (processHandshake env l alpn tp ext).1.LifeInv := by
  unfold LiveConn.processHandshake
  by_cases hexpects : expectsHandshake l.toConn = true
  · rw [if_neg (not_not.2 hexpects)]
    by_cases hext : protoExtCap < ext.length
    · rw [if_pos hext]
      exact h.onConn (raise_keeps _ _).status
    · rw [if_neg hext]
      dsimp only
      have hpeer : (l.onConn { l.toConn with peerProtoExt := ext }).LifeInv := h.onConn rfl
      cases htp : decodeTransportParams tp with
      | error e => exact hpeer.onConn (raise_keeps _ _).status
      | ok p =>
          dsimp only
          by_cases hcheck : checkTransportParams p = true
          · rw [if_neg (not_not.2 hcheck)]
            -- the parameters of the peer leave the state alone
            obtain ⟨l₁, hl₁⟩ : ∃ l₁ : LiveConn, l₁ =
                (l.onConn { l.toConn with peerProtoExt := ext }).onConn (updateFlowCtlSettings
                  (setRemoteTransportParams { l.toConn with peerProtoExt := ext } p)) := ⟨_, rfl⟩
            have h₁ : l₁.LifeInv := by
              rw [hl₁]
              exact h.of_eq rfl rfl rfl
            have htype : l₁.connType = l.connType := by rw [hl₁]; rfl
            have hstate : l₁.connState = l.connState := by rw [hl₁]; rfl
            have honce : l₁.closesAtOnce = l.closesAtOnce := by rw [hl₁]; rfl
            rw [onConn_toConn, ← hl₁]
            cases hct : l.connType with
            | client =>
                have hclient : l.connState = .clientHandshake := by
                  unfold expectsHandshake at hexpects
                  rw [hct, Bool.and_eq_true] at hexpects
                  exact of_decide_eq_true hexpects.1
                exact h₁.finishHandshake_client env alpn (htype.trans hct) (hstate.trans hclient)
            | server =>
                have hserver : l.connState = .serverInit := by
                  unfold expectsHandshake at hexpects
                  rw [hct] at hexpects
                  exact of_decide_eq_true hexpects
                refine h₁.finishHandshake_server (htype.trans hct) (hstate.trans hserver)
                  fun hcreate hclose ext' hext' => ?_
                rw [honce] at hclose
                unfold closedByAccept at hok
                simp only [hct, hexpects, htp, hcreate, hclose, hext', Except.toOption, Option.any,
                  hcheck, not_lt.1 hext, decide_true, Bool.true_and, decide_eq_false_iff_not] at hok
                exact not_le.1 hok
          · rw [if_pos hcheck]
            exact hpeer.onConn (raise_keeps _ _).status
  · rw [if_pos hexpects]
    exact h

/-! ## The other steps -/

theorem LifeInv.processAckFrame (h : l.LifeInv) (env : LiveEnv) (info : AckInfo) :
    (processAckFrame env l info).LifeInv := by
  have hacked : (l.onConn { l.toConn with sndq := (onAckReceived l.sndq info env.th).1 }).LifeInv :=
    h.of_eq rfl rfl rfl
  unfold LiveConn.processAckFrame
  dsimp only
  split_ifs
  · exact hacked.onHandshakeAcked env
  · exact hacked

theorem LifeInv.maybeShouldAck (h : l.LifeInv) (outOfOrder : Bool) (now : ℕ) :
    (l.maybeShouldAck outOfOrder now).LifeInv := by
  unfold LiveConn.maybeShouldAck
  split_ifs
  · exact h
  · exact h.of_eq rfl rfl rfl
  · exact h.of_eq rfl rfl rfl
  · exact h

theorem LifeInv.recordSingle (h : l.LifeInv) (pktNum : ℕ) (types : Finset FrameType)
    (recvTime : ℕ) : (l.recordSingle pktNum types recvTime).LifeInv := by
  unfold LiveConn.recordSingle
  split
  · exact h
  · dsimp only
    refine LifeInv.maybeShouldAck ?_ _ _
    split_ifs
    · exact h.of_eq rfl rfl rfl
    · exact h.of_eq rfl rfl rfl

theorem LifeInv.onPktProcessed (h : l.LifeInv) (env : LiveEnv) (pkt : PacketIn)
    (types : Finset FrameType) : (onPktProcessed env l pkt types).LifeInv := by
  unfold LiveConn.onPktProcessed
  dsimp only
  refine LifeInv.recordSingle ?_ _ _ _
  split_ifs
  · exact h.onHandshakeAcked env
  · exact h

theorem LifeInv.writeAck (h : l.LifeInv) (ackDelay ackDelayExponent : ℕ) :
    (l.writeAck ackDelay ackDelayExponent).LifeInv := by
  rcases writeAck_cases l ackDelay ackDelayExponent rfl with heq | heq | heq
  · rw [heq]
    exact h
  · rw [heq]
    exact h.of_eq rfl rfl rfl
  · rw [heq]
    exact h.onConn ((raise_keeps _ _).status.trans rfl)

/-! ## The tick -/

/-- The two timers that end the connection, before `rqc_conn_timer_expire` looks at the others. -/
def endTimers (l : LiveConn) (clock : Clock) : LiveConn :=
  { l with
    timeOut := l.timeOut || expired l.idleTimer clock.now || expired l.drainingTimer clock.now
    idleTimer := unsetExpired l.idleTimer clock.now
    drainingTimer := unsetExpired l.drainingTimer clock.now }

/-- The linger timer closes. -/
def lingerExpire (l : LiveConn) (clock : Clock) : LiveConn :=
  if expired l.lingerTimer clock.now then
    LiveConn.immediateClose { l with lingerClosing := false, lingerTimer := none } clock
  else l

theorem timerExpire_eq (l : LiveConn) (clock : Clock) :
    l.timerExpire clock =
      let l := (l.endTimers clock).lingerExpire clock
      if expired l.ackTimer clock.now then { l.ackTimeout with ackTimer := none } else l := rfl

theorem immediateClose_timeOut (l : LiveConn) (clock : Clock) :
    (l.immediateClose clock).timeOut = l.timeOut := by
  rcases immediateClose_cases l clock with ⟨c, hc, heq⟩ | heq | ⟨c, -, hc, heq⟩ <;> rw [heq] <;> rfl

theorem lingerExpire_timeOut (l : LiveConn) (clock : Clock) :
    (l.lingerExpire clock).timeOut = l.timeOut := by
  unfold lingerExpire
  split_ifs
  · exact immediateClose_timeOut _ clock
  · rfl

theorem timerExpire_timeOut (l : LiveConn) (clock : Clock) :
    (l.timerExpire clock).timeOut =
      (l.timeOut || expired l.idleTimer clock.now || expired l.drainingTimer clock.now) := by
  have hlinger := lingerExpire_timeOut (l.endTimers clock) clock
  rw [timerExpire_eq]
  dsimp only
  split_ifs
  · exact hlinger
  · exact hlinger

theorem Forward.timerExpire (h : l.Forward) (clock : Clock) : (l.timerExpire clock).Forward := by
  have hend : (l.endTimers clock).Forward := ⟨h.sorted, h.head⟩
  have hlinger : ((l.endTimers clock).lingerExpire clock).Forward := by
    unfold lingerExpire
    split_ifs
    · refine Forward.immediateClose ?_ clock
      exact ⟨hend.sorted, hend.head⟩
    · exact hend
  rw [timerExpire_eq]
  dsimp only
  split_ifs
  · exact ⟨hlinger.sorted, hlinger.head⟩
  · exact hlinger

/-- While the draining timer runs, the other timers keep the invariant. -/
theorem LifeInv.timerExpire (h : l.LifeInv) (clock : Clock)
    (hdraining : expired l.drainingTimer clock.now = false) : (l.timerExpire clock).LifeInv := by
  have hend : (l.endTimers clock).LifeInv := by
    refine h.of_eq rfl rfl ?_
    show unsetExpired l.drainingTimer clock.now = l.drainingTimer
    unfold unsetExpired
    rw [hdraining]
    rfl
  have hlinger : ((l.endTimers clock).lingerExpire clock).LifeInv := by
    unfold lingerExpire
    split_ifs
    · refine LifeInv.immediateClose ?_ clock
      exact hend.of_eq rfl rfl rfl
    · exact hend
  rw [timerExpire_eq]
  dsimp only
  split_ifs
  · exact hlinger.of_eq rfl rfl rfl
  · exact hlinger

/-- A tick ends the connection when the draining timer expires. -/
theorem LifeInv.processConn (h : l.LifeInv) (clock : Clock) : (l.processConn clock).LifeInv := by
  unfold LiveConn.processConn
  dsimp only
  by_cases htime : (l.timerExpire clock).timeOut = true
  · rw [if_pos htime]
    refine ⟨(h.forward.timerExpire clock).setState ?_, by simp [Armed]⟩
    cases (l.timerExpire clock).connState <;> decide
  · rw [if_neg htime]
    have hdraining : expired l.drainingTimer clock.now = false := by
      rw [timerExpire_timeOut] at htime
      simp_all
    have hexp := h.timerExpire clock hdraining
    split_ifs
    · exact hexp.immediateClose clock
    · have hclose : (LiveConn.immediateClose { l.timerExpire clock with lingerTimer := none }
          clock).LifeInv := by
        refine LifeInv.immediateClose ?_ clock
        exact hexp.of_eq rfl rfl rfl
      exact hclose.of_eq rfl rfl rfl
    · exact hexp
    · exact hexp

/-! ## Runs -/

/-- A frame that a connection takes while it is closing finds it in CLOSING. -/
theorem takesFrame_closing {c : Conn} {pkt : PacketIn} {f : Frame} (htakes : c.takesFrame pkt f = true)
    (hclosing : c.isClosing = true) : c.connState = .closing := by
  unfold Conn.takesFrame at htakes
  rw [hclosing] at htakes
  simp only [Bool.not_true, Bool.false_or, Bool.and_eq_true, decide_eq_true_eq] at htakes
  exact htakes.2.1

theorem LifeInv.processFrame (h : l.LifeInv) (env : LiveEnv) (pkt : PacketIn) (pos frameLen : ℕ)
    (f : WireFrame) (htakes : l.takesFrame pkt f.1 = true)
    (hok : Orderly l (.frame env pkt pos frameLen f)) :
    (LiveConn.processFrame env (l.onConn (l.addLog (.recvd pkt.pktNum pos f.1))) pkt pos frameLen
      f.1).LifeInv := by
  have hlog : (l.onConn (l.addLog (.recvd pkt.pktNum pos f.1))).LifeInv := h.of_eq rfl rfl rfl
  have hok := hok htakes
  obtain ⟨f, hf⟩ := f
  cases f with
  | ack info => exact hlog.processAckFrame env info
  | handshake alpn tp ext => exact hlog.processHandshake env alpn tp ext hok
  | connectionClose errCode =>
      exact hlog.processConnCloseFrame env.clock errCode (takesFrame_closing htakes) hok
  | _ =>
      refine hlog.onConn ?_
      exact (processFrame_keeps _ env.toFrameEnv pkt pos frameLen rfl).status

theorem step_handshake_cases (c : Conn) :
    (c.step .handshake).connState = c.connState ∨
      c.connState = .clientInit ∧ (c.step .handshake).connState = .clientHandshake := by
  unfold Conn.step
  dsimp only
  split_ifs with hinit
  · rcases sendHandshake_connState c with hsame | ⟨-, hnew⟩
    · exact .inl hsame
    · exact .inr ⟨hinit.2, hnew⟩
  · exact .inl rfl

theorem LifeInv.conn (h : l.LifeInv) (ev : ConnEvent) : (l.step (.conn ev)).LifeInv := by
  cases ev with
  | frame | processed | engine | immediateClose => exact h
  | handshake =>
      have hforward : (l.setState (l.toConn.step .handshake).connState).LifeInv := by
        rcases step_handshake_cases l.toConn with hsame | ⟨hinit, hnew⟩
        · rw [hsame]
          exact h.setState le_rfl h.armed
        · rw [hnew]
          refine h.setState ?_ (by simp)
          rw [hinit]
          decide
      exact hforward.of_eq rfl rfl rfl
  | _ => exact h.onConn (step_keeps _ rfl).status

theorem LifeInv.step (h : l.LifeInv) {ev : LiveEvent} (hok : Orderly l ev) : (l.step ev).LifeInv := by
  cases ev with
  | frame env pkt pos frameLen f =>
      rw [step_frame]
      split_ifs with htakes
      · exact h.processFrame env pkt pos frameLen f htakes hok
      · exact h
  | processed env pkt types =>
      simp only [LiveConn.step]
      split_ifs
      · exact h
      · exact h.onPktProcessed env pkt types
  | engine env ev =>
      have hmoved : (l.onConn (l.toConn.step (.engine ev))).LifeInv := h.of_eq rfl rfl rfl
      unfold LiveConn.step
      dsimp only
      split_ifs
      · exact hmoved.onHandshakeAcked env
      · exact hmoved
  | writeAck ackDelay ackDelayExponent => exact h.writeAck ackDelay ackDelayExponent
  | immediateClose clock => exact h.immediateClose clock
  | close clock => exact h.close clock
  | tick clock => exact h.processConn clock
  | armIdle expire => exact h.of_eq rfl rfl rfl
  | socketError => exact h.setClosed
  | conn ev => exact h.conn ev

end

theorem create_lifeInv (connType : ConnType) (settings : ConnSettings) (header : PktType → Bytes)
    (lingerOn : Bool) (lingerTimeout ackFrequency : ℕ) (adaptiveAckFrequency : Bool) :
    (create connType settings header lingerOn lingerTimeout ackFrequency
      adaptiveAckFrequency).LifeInv := by
  refine ⟨⟨List.pairwise_singleton _ _, rfl⟩, ?_⟩
  cases connType <;> rintro (habs | habs) <;> cases habs

/-- Every event of the run meets the condition, in the state before it. -/
def RunMeets (cond : LiveConn → LiveEvent → Prop) : LiveConn → List LiveEvent → Prop
  | _, [] => True
  | l, ev :: evs => cond l ev ∧ RunMeets cond (l.step ev) evs

/-- **The state machine of a connection.** In a run of orderly events `conn_state` never moves
backwards, and the draining timer is set while the connection is closing or draining. -/
theorem run_lifetime (connType : ConnType) (settings : ConnSettings) (header : PktType → Bytes)
    (lingerOn : Bool) (lingerTimeout ackFrequency : ℕ) (adaptiveAckFrequency : Bool)
    (evs : List LiveEvent)
    (hok : RunMeets Orderly (create connType settings header lingerOn lingerTimeout ackFrequency
      adaptiveAckFrequency) evs) :
    LifeInv ((create connType settings header lingerOn lingerTimeout ackFrequency
      adaptiveAckFrequency).run evs) := by
  have hinit := create_lifeInv connType settings header lingerOn lingerTimeout ackFrequency
    adaptiveAckFrequency
  generalize create connType settings header lingerOn lingerTimeout ackFrequency
    adaptiveAckFrequency = l at hok hinit
  induction evs generalizing l with
  | nil => exact hinit
  | cons ev evs ih => exact ih (l.step ev) hok.2 (hinit.step hok.1)

/-! ## Runs that end well and runs that do not -/

/-- A new server that acknowledges every second packet. -/
def newLiveServer : LiveConn :=
  create .server ⟨0, false, 0, 1200, 1500, 0, 0, 0⟩ (fun _ => []) false 0 2 false

/-- The answers of `acceptAll`; `createCloses` says what `conn_create_notify` does. -/
def liveEnv (createCloses : Bool) : LiveEnv := ⟨acceptAll, ⟨1000, 100⟩, createCloses, false⟩

/-- A frame of the first Initial packet. -/
def firstFrame (createCloses : Bool) (f : Frame) (h : f.Fits) : LiveEvent :=
  .frame (liveEnv createCloses) ⟨.init, 0, []⟩ 0 0 ⟨f, h⟩

/-- The handshake of a server, a CONNECTION_CLOSE frame of the peer, and the tick at which the draining
timer expires. -/
def peerCloses : List LiveEvent :=
  [firstFrame false (.handshake [] clientParams []) trivial,
    .engine (liveEnv false) (.schedule .normal),
    .engine (liveEnv false) (.send .normal .sent 0 0),
    .processed (liveEnv false) ⟨.shortHeader, 1, []⟩ {.ping},
    .frame (liveEnv false) ⟨.shortHeader, 2, []⟩ 0 0 ⟨.connectionClose 0, by decide⟩,
    .tick ⟨1200, 100⟩, .tick ⟨1300, 100⟩]

/-- The state goes from INIT to CLOSED, with the timer on the way. -/
theorem run_lifetime_peerCloses :
    LifeInv (newLiveServer.run peerCloses) ∧ (newLiveServer.run peerCloses).connState = .closed := by
  refine ⟨?_, by decide +kernel⟩
  refine run_lifetime .server ⟨0, false, 0, 1200, 1500, 0, 0, 0⟩ (fun _ => []) false 0 2 false
    peerCloses ⟨fun _ => ?_, trivial, trivial, trivial, fun _ => ?_, trivial, trivial, trivial⟩
  · decide +kernel
  · right
    decide +kernel

/-- A CONNECTION_CLOSE frame in the first packet of a server: `rqc_conn_immediate_close` closes the
connection without a timer, and the handler moves it back to DRAINING. A server whose application closes
the connection from inside `conn_create_notify` goes back from CLOSED to SERVER_HANDSHAKE. -/
theorem run_undead :
    (newLiveServer.run [firstFrame false (.connectionClose 0) (by decide)]).states =
        [.draining, .closed, .serverInit] ∧
      (newLiveServer.run [firstFrame false (.connectionClose 0) (by decide)]).drainingTimer = none ∧
      (newLiveServer.run [firstFrame true (.handshake [] clientParams []) trivial]).states =
        [.serverHandshake, .closed, .serverInit] := by
  decide +kernel

end LiveConn

end Rquic

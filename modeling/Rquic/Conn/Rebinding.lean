import Rquic.Conn.Packets

set_option autoImplicit false

/-!
# NAT rebinding

The address of the peer and how a server changes it. A datagram from a new address makes that address
pending and sends PATH_CHALLENGE to it; the PATH_RESPONSE frame that ends the validation is handled
without knowledge of the address that it came from.

* `SockAddr`, `isSameAddr`: socket addresses and how they are compared.
* `PathAddrs`: the addresses of the connection and its path, with the state of the validation.
* `PathAddrs.checkRebinding`, `PathAddrs.processPathResponseFrame`: the two halves of the check.
* `PathConn`, `PathConn.step`, `PathConn.run`: a server connection with its addresses.
* `PathConn.Validated`: the address changes only when the challenge is answered from it.
* **`runValidated_iff`**: so it is in a run if and only if the answers to a challenge, once a second
  datagram came from the pending address, all come from that address.

The path of a connection is active from its creation on. Addresses are copied as a whole.
-/

namespace Rquic

/-! ## Addresses -/

/-- `struct sockaddr_in` or `struct sockaddr_in6`, by its family. -/
structure SockAddr where
  family : ℕ
  addr : Bytes
  port : ℕ
  /-- The flow information and the scope, or padding. -/
  rest : Bytes := []
  deriving DecidableEq, Repr

/-- `rqc_is_same_addr`. -/
def isSameAddr (a b : SockAddr) : Bool :=
  decide (a.family = b.family) && decide (a.addr = b.addr) && decide (a.port = b.port)

theorem isSameAddr_self (a : SockAddr) : isSameAddr a a = true := by simp [isSameAddr]

/-- `sizeof(struct sockaddr_in6)`. -/
def addrCap : ℕ := 28

/-- What happened to the addresses. -/
inductive AddrNote where
  /-- The address became the pending one. -/
  | pending (a : SockAddr)
  /-- The socket took a PATH_CHALLENGE frame with these data for the address. -/
  | challenge (a : SockAddr) (data : Bytes)
  deriving DecidableEq, Repr

/-- The addresses of the peer in the connection and in its path. -/
structure PathAddrs where
  connPeerAddr : SockAddr
  connPeerAddrlen : ℕ
  peerAddr : SockAddr
  peerAddrlen : ℕ
  rebindingAddr : SockAddr := ⟨0, [], 0, []⟩
  rebindingAddrlen : ℕ := 0
  rebindingCheckResponse : Bool := false
  rebindingCount : ℕ := 0
  rebindingValid : ℕ := 0
  pathChallengeData : Bytes := List.replicate pathChallengeDataLen 0
  /-- `RQC_TIMER_NAT_REBINDING` with its expiry time. -/
  natTimer : Option ℕ := none
  /-- The history, the last entry first. -/
  notes : List AddrNote := []

/-- A UDP datagram for the connection, and what its processing asks for. -/
structure Datagram where
  /-- `peer_addr`, which may be `NULL`. -/
  peer : Option SockAddr
  peerAddrlen : ℕ
  pkts : List PacketIn
  recvTime : ℕ
  /-- The answer of `rqc_get_random`. -/
  random : Option Bytes
  /-- `write_socket` takes the whole packet. -/
  sent : Bool
  /-- `rqc_conn_get_max_pto`. -/
  maxPto : ℕ

namespace PathAddrs

/-- `rqc_conn_send_path_challenge`, and whether it succeeds. -/
def sendPathChallenge (p : PathAddrs) (d : Datagram) : PathAddrs × Bool :=
  match d.random with
  | none => (p, false)
  | some data =>
    let p := { p with pathChallengeData := data }
    if d.sent then ({ p with notes := .challenge p.rebindingAddr data :: p.notes }, true) else (p, false)

/-- A datagram from a new address while no address is pending. -/
def startRebinding (p : PathAddrs) (d : Datagram) (peer : SockAddr) : PathAddrs :=
  let p :=
    if d.peerAddrlen ≤ addrCap then
      { p with
        rebindingAddr := peer, rebindingAddrlen := d.peerAddrlen, notes := .pending peer :: p.notes }
    else p
  match p.sendPathChallenge d with
  | (p, true) =>
    { p with
      rebindingCount := p.rebindingCount + 1, natTimer := some (d.recvTime + 3 * d.maxPto) }
  | (p, false) => { p with rebindingAddrlen := 0 }

/-- No address is pending. -/
def idle (p : PathAddrs) : Bool := decide (p.rebindingAddrlen = 0) && p.natTimer.isNone

/-- The part of `rqc_engine_packet_process` in front of the packets, at a server. -/
def checkRebinding (p : PathAddrs) (d : Datagram) : PathAddrs :=
  match d.peer with
  | none => p
  | some peer =>
    if d.peerAddrlen = 0 ∨ isSameAddr peer p.peerAddr then p
    else if p.idle then p.startRebinding d peer
    else if p.rebindingCheckResponse = false ∧ isSameAddr peer p.rebindingAddr then
      { p with rebindingCheckResponse := true }
    else p

/-- The pending address becomes the address of the peer. -/
def validate (p : PathAddrs) : PathAddrs :=
  { p with
    peerAddr := p.rebindingAddr, peerAddrlen := p.rebindingAddrlen
    connPeerAddr := p.rebindingAddr, connPeerAddrlen := p.rebindingAddrlen
    rebindingValid := p.rebindingValid + 1
    rebindingAddrlen := 0, rebindingCheckResponse := false, natTimer := none }

/-- A PATH_RESPONSE frame with the right data is taken for an answer. -/
def waits (p : PathAddrs) : Bool := decide (p.rebindingAddrlen ≠ 0) && p.rebindingCheckResponse

/-- `rqc_process_path_response_frame`, behind its parser. -/
def processPathResponseFrame (connType : ConnType) (p : PathAddrs) (data : Bytes) : PathAddrs :=
  if p.pathChallengeData ≠ data then p
  else if connType = .server ∧ p.waits then p.validate
  else p

/-- `rqc_timer_nat_rebinding_timeout`, from `rqc_timer_expire`. -/
def expire (p : PathAddrs) (now : ℕ) : PathAddrs :=
  match p.natTimer with
  | none => p
  | some expireTime =>
    if expireTime ≤ now then
      { p with rebindingAddrlen := 0, rebindingCheckResponse := false, natTimer := none }
    else p

end PathAddrs

/-! ## Runs -/

/-- A connection with its addresses. -/
structure PathConn where
  conn : Conn
  path : PathAddrs

/-- The data of a PATH_RESPONSE frame that was handed to its handler. -/
def LogEntry.pathResponse? : LogEntry → Option Bytes
  | .recvd _ _ (.pathResponse data) => some data
  | _ => none

/-- The PATH_RESPONSE frames that are handled when the packets arrive, in their order. -/
def pathResponses (env : FrameEnv) (c : Conn) (pkts : List PacketIn) : List Bytes :=
  ((recvUdp env c pkts).log.drop c.log.length).filterMap LogEntry.pathResponse?

/-- One event of a connection with its addresses. -/
inductive PathEvent where
  /-- A UDP datagram arrives. -/
  | datagram (env : FrameEnv) (d : Datagram)
  /-- The timers of the path are checked. -/
  | timers (now : ℕ)
  /-- A call of the application, or a move of the engine. -/
  | conn (ev : ConnEvent)

namespace PathConn

/-- `rqc_engine_packet_process` up to the packets: the challenge is a packet of its own. -/
def checkRebinding (s : PathConn) (d : Datagram) : PathConn :=
  let path := s.path.checkRebinding d
  match d.peer, d.random with
  | some peer, some data =>
    if d.peerAddrlen ≠ 0 ∧ isSameAddr peer s.path.peerAddr = false ∧ s.path.idle then
      ⟨s.conn.step (.engine (.pathChallenge data d.recvTime)), path⟩
    else ⟨s.conn, path⟩
  | _, _ => ⟨s.conn, path⟩

/-- `rqc_engine_packet_process`. -/
def packetProcess (env : FrameEnv) (s : PathConn) (d : Datagram) : PathConn :=
  let s := s.checkRebinding d
  { conn := recvUdp env s.conn d.pkts
    path := (pathResponses env s.conn d.pkts).foldl
      (PathAddrs.processPathResponseFrame s.conn.connType) s.path }

/-- One step. The frames of the peer arrive in datagrams only. -/
def step (s : PathConn) : PathEvent → PathConn
  | .datagram env d => s.packetProcess env d
  | .timers now => { s with path := s.path.expire now }
  | .conn ev => if ev.isReceipt then s else { s with conn := s.conn.step ev }

/-- A run. -/
def run (s : PathConn) (evs : List PathEvent) : PathConn := evs.foldl step s

/-- `rqc_conn_server_create`. -/
def serverCreate (settings : ConnSettings) (header : PktType → Bytes) (peer : SockAddr)
    (peerAddrlen : ℕ) : PathConn :=
  { conn := connCreate .server settings header
    path :=
      { connPeerAddr := peer
        connPeerAddrlen := peerAddrlen
        peerAddr := peer
        peerAddrlen := peerAddrlen } }

/-- The address of the peer changes, if at all, to the pending address while a datagram from it is
processed that holds a PATH_RESPONSE frame with the data of the challenge that was sent to it since it
became pending. -/
def Validated (s : PathConn) (ev : PathEvent) : Prop :=
  (s.step ev).path.peerAddr = s.path.peerAddr ∧ (s.step ev).path.connPeerAddr = s.path.connPeerAddr ∨
    ∃ env d a peer data notes, ev = .datagram env d ∧ d.peer = some peer ∧ isSameAddr peer a = true ∧
      data ∈ pathResponses env s.conn d.pkts ∧
      s.path.notes = .challenge a data :: .pending a :: notes ∧
      (s.step ev).path.peerAddr = a ∧ (s.step ev).path.connPeerAddr = a

/-- After the second datagram from the pending address, the PATH_RESPONSE frames with the data of the
challenge come from that address. -/
def AnsweredFromPending (s : PathConn) : PathEvent → Prop
  | .datagram env d =>
    s.path.waits = true → s.path.pathChallengeData ∈ pathResponses env s.conn d.pkts →
      ∃ peer, d.peer = some peer ∧ isSameAddr peer s.path.rebindingAddr = true
  | _ => True

/-- Every step of the run has the property, in the state before it. -/
def RunHas (P : PathConn → PathEvent → Prop) : PathConn → List PathEvent → Prop
  | _, [] => True
  | s, ev :: evs => P s ev ∧ RunHas P (s.step ev) evs

end PathConn

/-! ## The two halves of the check -/

namespace PathAddrs

variable {p p' : PathAddrs}

/-- What the history and the timer say of a pending address. -/
structure Inv (p : PathAddrs) : Prop where
  /-- A validation in progress has a timer. -/
  timer : p.rebindingAddrlen ≠ 0 ∨ p.rebindingCheckResponse = true → p.natTimer.isNone = false
  foreign : p.rebindingAddrlen ≠ 0 → isSameAddr p.rebindingAddr p.peerAddr = false
  challenged : p.rebindingAddrlen ≠ 0 →
    ∃ notes, p.notes = .challenge p.rebindingAddr p.pathChallengeData :: .pending p.rebindingAddr :: notes

theorem Inv.of_none (hlen : p.rebindingAddrlen = 0) (hcheck : p.rebindingCheckResponse = false) : p.Inv := by
  refine ⟨?_, fun hpend => absurd hlen hpend, fun hpend => absurd hlen hpend⟩
  rintro (hpend | hpend)
  · exact absurd hlen hpend
  · rw [hcheck] at hpend
    cases hpend

theorem Inv.idle_check (h : p.Inv) (hidle : p.idle = true) : p.rebindingCheckResponse = false := by
  obtain ⟨-, htimer⟩ := Bool.and_eq_true_iff.1 hidle
  by_contra hcheck
  rw [h.timer (.inr (by simpa using hcheck))] at htimer
  cases htimer

theorem sendPathChallenge_cases (p : PathAddrs) (d : Datagram) :
    ∃ data, p.sendPathChallenge d = ({ p with pathChallengeData := data }, false) ∨
      p.sendPathChallenge d =
        ({ p with
            pathChallengeData := data, notes := .challenge p.rebindingAddr data :: p.notes }, true) := by
  unfold sendPathChallenge
  cases d.random with
  | none => exact ⟨p.pathChallengeData, .inl rfl⟩
  | some data =>
      dsimp only
      split_ifs
      · exact ⟨data, .inr rfl⟩
      · exact ⟨data, .inl rfl⟩

/-- An address becomes pending, with a challenge sent to it, or none does. -/
theorem startRebinding_cases (p : PathAddrs) (d : Datagram) (peer : SockAddr) :
    ∃ p', p.startRebinding d peer = p' ∧ p'.peerAddr = p.peerAddr ∧ p'.connPeerAddr = p.connPeerAddr ∧
      p'.rebindingCheckResponse = p.rebindingCheckResponse ∧
      (p'.rebindingAddrlen = 0 ∨ p'.rebindingAddrlen = p.rebindingAddrlen ∨
        p'.natTimer.isNone = false ∧ p'.rebindingAddr = peer ∧
          p'.notes = .challenge peer p'.pathChallengeData :: .pending peer :: p.notes) := by
  refine ⟨_, rfl, ?_⟩
  unfold startRebinding
  by_cases hcap : d.peerAddrlen ≤ addrCap
  · rw [if_pos hcap]
    dsimp only
    generalize hp : ({ p with
      rebindingAddr := peer, rebindingAddrlen := d.peerAddrlen
      notes := .pending peer :: p.notes } : PathAddrs) = p₁
    obtain ⟨data, hsend | hsend⟩ := sendPathChallenge_cases p₁ d
    · rw [hsend, ← hp]
      exact ⟨rfl, rfl, rfl, .inl rfl⟩
    · rw [hsend, ← hp]
      exact ⟨rfl, rfl, rfl, .inr (.inr ⟨rfl, rfl, rfl⟩)⟩
  · rw [if_neg hcap]
    dsimp only
    obtain ⟨data, hsend | hsend⟩ := sendPathChallenge_cases p d
    · rw [hsend]
      exact ⟨rfl, rfl, rfl, .inl rfl⟩
    · rw [hsend]
      exact ⟨rfl, rfl, rfl, .inr (.inl rfl)⟩

theorem startRebinding_inv (h : p.Inv) (hidle : p.idle = true) (d : Datagram) {peer : SockAddr}
    (hpeer : isSameAddr peer p.peerAddr = false) : (p.startRebinding d peer).Inv := by
  obtain ⟨p', heq, hsame, -, hcheck, hcases⟩ := startRebinding_cases p d peer
  rw [heq]
  replace hcheck : p'.rebindingCheckResponse = false := hcheck.trans (h.idle_check hidle)
  have hlen : p.rebindingAddrlen = 0 := of_decide_eq_true (Bool.and_eq_true_iff.1 hidle).1
  rcases hcases with hlen' | hlen' | ⟨htimer, rfl, hnotes⟩
  · exact .of_none hlen' hcheck
  · exact .of_none (hlen'.trans hlen) hcheck
  · rw [← hsame] at hpeer
    exact ⟨fun _ => htimer, fun _ => hpeer, fun _ => ⟨p.notes, hnotes⟩⟩

theorem checkRebinding_cases (p : PathAddrs) (d : Datagram) :
    p.checkRebinding d = p ∨
      (∃ peer, d.peer = some peer ∧ isSameAddr peer p.peerAddr = false ∧ p.idle = true ∧
        p.checkRebinding d = p.startRebinding d peer) ∨
      ∃ peer, d.peer = some peer ∧ p.idle = false ∧ p.rebindingCheckResponse = false ∧
        isSameAddr peer p.rebindingAddr = true ∧
        p.checkRebinding d = { p with rebindingCheckResponse := true } := by
  unfold checkRebinding
  cases d.peer with
  | none => exact .inl rfl
  | some peer =>
      dsimp only
      split_ifs with hsame hidle hcheck
      · exact .inl rfl
      · have hpeer : isSameAddr peer p.peerAddr = false := by simpa using (not_or.1 hsame).2
        exact .inr (.inl ⟨peer, rfl, hpeer, hidle, rfl⟩)
      · exact .inr (.inr ⟨peer, rfl, by simpa using hidle, hcheck.1, hcheck.2, rfl⟩)
      · exact .inl rfl

theorem checkRebinding_inv (h : p.Inv) (d : Datagram) : (p.checkRebinding d).Inv := by
  rcases checkRebinding_cases p d with heq | ⟨peer, -, hpeer, hidle, heq⟩ | ⟨peer, -, hidle, -, -, heq⟩
  · rwa [heq]
  · rw [heq]
    exact startRebinding_inv h hidle d hpeer
  · rw [heq]
    refine { h with timer := fun _ => ?_ }
    -- not idle: a timer is set, or an address is pending and so has one
    by_cases hlen : p.rebindingAddrlen = 0
    · simpa [idle, hlen] using hidle
    · exact h.timer (.inl hlen)

theorem validate_inv (p : PathAddrs) : p.validate.Inv := .of_none rfl rfl

theorem foldl_pathResponse_of_not_waits (connType : ConnType) (responses : List Bytes)
    (h : p.waits = false) : responses.foldl (processPathResponseFrame connType) p = p := by
  induction responses with
  | nil => rfl
  | cons data responses ih =>
      have hfirst : p.processPathResponseFrame connType data = p := by
        unfold processPathResponseFrame
        rw [h]
        simp
      rw [List.foldl_cons, hfirst, ih]

/-- The first PATH_RESPONSE frame with the data of the challenge ends the validation. -/
theorem foldl_pathResponse (p : PathAddrs) (responses : List Bytes) :
    responses.foldl (processPathResponseFrame .server) p =
      if p.waits = true ∧ p.pathChallengeData ∈ responses then p.validate else p := by
  induction responses with
  | nil => simp
  | cons data responses ih =>
      rw [List.foldl_cons]
      by_cases hmatch : p.waits = true ∧ p.pathChallengeData = data
      · have hfirst : p.processPathResponseFrame .server data = p.validate := by
          simp [processPathResponseFrame, hmatch.1, hmatch.2]
        have hmem : p.waits = true ∧ p.pathChallengeData ∈ data :: responses :=
          ⟨hmatch.1, hmatch.2 ▸ List.mem_cons_self⟩
        rw [hfirst, if_pos hmem]
        exact foldl_pathResponse_of_not_waits .server responses rfl
      · have hfirst : p.processPathResponseFrame .server data = p := by
          unfold processPathResponseFrame
          split_ifs with hdata hwaits
          · rfl
          · exact absurd ⟨hwaits.2, not_not.1 hdata⟩ hmatch
          · rfl
        have hmem : (p.waits = true ∧ p.pathChallengeData ∈ data :: responses) ↔
            p.waits = true ∧ p.pathChallengeData ∈ responses := by
          rw [List.mem_cons]
          tauto
        rw [hfirst, ih]
        simp only [hmem]

theorem expire_inv (h : p.Inv) (now : ℕ) : (p.expire now).Inv := by
  unfold expire
  split
  · exact h
  · split_ifs
    · exact .of_none rfl rfl
    · exact h

theorem expire_peers (p : PathAddrs) (now : ℕ) :
    (p.expire now).peerAddr = p.peerAddr ∧ (p.expire now).connPeerAddr = p.connPeerAddr := by
  unfold expire
  split
  · exact ⟨rfl, rfl⟩
  · split_ifs
    · exact ⟨rfl, rfl⟩
    · exact ⟨rfl, rfl⟩

end PathAddrs

/-! ## Runs of a server -/

namespace PathConn

variable {s : PathConn}

/-- The server and its addresses. -/
structure Inv (s : PathConn) : Prop where
  keyed : s.conn.Keyed
  server : s.conn.connType = .server
  path : s.path.Inv

theorem checkRebinding_path (s : PathConn) (d : Datagram) :
    (s.checkRebinding d).path = s.path.checkRebinding d := by
  unfold checkRebinding
  dsimp only
  split
  · split_ifs <;> rfl
  · rfl

theorem checkRebinding_conn (s : PathConn) (d : Datagram) :
    (s.checkRebinding d).conn = s.conn ∨
      s.path.idle = true ∧ ∃ ev, (s.checkRebinding d).conn = s.conn.step ev := by
  unfold checkRebinding
  dsimp only
  split
  · rename_i data _ _
    split_ifs with hidle
    · exact .inr ⟨hidle.2.2, .engine (.pathChallenge data d.recvTime), rfl⟩
    · exact .inl rfl
  · exact .inl rfl

theorem checkRebinding_inv (h : s.Inv) (d : Datagram) : (s.checkRebinding d).Inv := by
  have hpath : (s.checkRebinding d).path.Inv := by
    rw [checkRebinding_path]
    exact PathAddrs.checkRebinding_inv h.path d
  rcases checkRebinding_conn s d with hconn | ⟨-, ev, hconn⟩
  · exact ⟨hconn ▸ h.keyed, hconn ▸ h.server, hpath⟩
  · refine ⟨hconn ▸ step_keyed h.keyed ev, ?_, hpath⟩
    rw [hconn, (step_steps h.keyed ev).handshakeMono.connType]
    exact h.server

theorem run_connType {c : Conn} (hkeyed : c.Keyed) (evs : List ConnEvent) :
    (c.run evs).connType = c.connType := by
  induction evs generalizing c with
  | nil => rfl
  | cons ev evs ih =>
      rw [Conn.run_cons, ih (step_keyed hkeyed ev)]
      exact (step_steps hkeyed ev).handshakeMono.connType

theorem packetProcess_path (h : s.Inv) (env : FrameEnv) (d : Datagram) :
    (s.packetProcess env d).path =
      if (s.checkRebinding d).path.waits = true ∧ (s.checkRebinding d).path.pathChallengeData ∈
          pathResponses env (s.checkRebinding d).conn d.pkts then (s.checkRebinding d).path.validate
      else (s.checkRebinding d).path := by
  unfold packetProcess
  dsimp only
  rw [(checkRebinding_inv h d).server, PathAddrs.foldl_pathResponse]

theorem packetProcess_inv (h : s.Inv) (env : FrameEnv) (d : Datagram) : (s.packetProcess env d).Inv := by
  have hcheck := checkRebinding_inv h d
  obtain ⟨evs, -, hrun⟩ := recvUdp_run env hcheck.keyed d.pkts
  have hconn : (s.packetProcess env d).conn = (s.checkRebinding d).conn.run evs := hrun
  refine ⟨hconn ▸ run_keyed hcheck.keyed evs, ?_, ?_⟩
  · rw [hconn, run_connType hcheck.keyed]
    exact hcheck.server
  · rw [packetProcess_path h]
    split_ifs
    · exact PathAddrs.validate_inv _
    · exact hcheck.path

theorem step_inv (h : s.Inv) (ev : PathEvent) : (s.step ev).Inv := by
  cases ev with
  | datagram env d => exact packetProcess_inv h env d
  | timers now => exact { h with path := PathAddrs.expire_inv h.path now }
  | conn ev =>
      simp only [step]
      split_ifs
      · exact h
      · refine ⟨step_keyed h.keyed ev, ?_, h.path⟩
        rw [(step_steps h.keyed ev).handshakeMono.connType]
        exact h.server

theorem serverCreate_inv (settings : ConnSettings) (header : PktType → Bytes) (peer : SockAddr)
    (peerAddrlen : ℕ) : (serverCreate settings header peer peerAddrlen).Inv :=
  ⟨connCreate_keyed .server settings header, rfl, .of_none rfl rfl⟩

theorem step_datagram_of_idle (h : s.Inv) (hidle : s.path.idle = true) (env : FrameEnv) (d : Datagram) :
    (s.step (.datagram env d)).path.peerAddr = s.path.peerAddr ∧
      (s.step (.datagram env d)).path.connPeerAddr = s.path.connPeerAddr := by
  have hcheck := h.path.idle_check hidle
  -- the first half of the check leaves the addresses and the flag as they are
  have hkept : (s.path.checkRebinding d).rebindingCheckResponse = false ∧
      (s.path.checkRebinding d).peerAddr = s.path.peerAddr ∧
      (s.path.checkRebinding d).connPeerAddr = s.path.connPeerAddr := by
    rcases s.path.checkRebinding_cases d with heq | ⟨peer, -, -, -, heq⟩ | ⟨peer, -, hbusy, -⟩
    · rw [heq]
      exact ⟨hcheck, rfl, rfl⟩
    · obtain ⟨p', hstart, hpeer, hconn, hcheck', -⟩ := s.path.startRebinding_cases d peer
      rw [heq, hstart]
      exact ⟨hcheck'.trans hcheck, hpeer, hconn⟩
    · rw [hidle] at hbusy
      cases hbusy
  have hpath : (s.step (.datagram env d)).path = s.path.checkRebinding d := by
    have hwaits : (s.checkRebinding d).path.waits = false := by
      rw [checkRebinding_path, PathAddrs.waits, hkept.1, Bool.and_false]
    simp only [step]
    rw [packetProcess_path h, hwaits, if_neg (by simp), checkRebinding_path]
  rw [hpath]
  exact hkept.2

/-- The addresses behind a datagram while a validation is in progress. -/
theorem step_datagram_of_busy (h : s.Inv) (hbusy : s.path.idle = false) (env : FrameEnv) (d : Datagram) :
    (s.step (.datagram env d)).path =
      if (s.path.checkRebinding d).waits = true ∧
          (s.path.checkRebinding d).pathChallengeData ∈ pathResponses env s.conn d.pkts then
        (s.path.checkRebinding d).validate
      else s.path.checkRebinding d := by
  have hconn : (s.checkRebinding d).conn = s.conn := by
    rcases checkRebinding_conn s d with hconn | ⟨hidle, -⟩
    · exact hconn
    · rw [hbusy] at hidle
      cases hidle
  simp only [step]
  rw [packetProcess_path h, checkRebinding_path, hconn]

theorem validated_of_validate (h : s.Inv) {env : FrameEnv} {d : Datagram} {peer : SockAddr}
    {p : PathAddrs} (hstep : (s.step (.datagram env d)).path = p.validate)
    (hsame : p.rebindingAddr = s.path.rebindingAddr) (hpend : s.path.rebindingAddrlen ≠ 0)
    (hmem : s.path.pathChallengeData ∈ pathResponses env s.conn d.pkts) (hpeer : d.peer = some peer)
    (hfrom : isSameAddr peer s.path.rebindingAddr = true) : s.Validated (.datagram env d) := by
  obtain ⟨notes, hnotes⟩ := h.path.challenged hpend
  refine .inr ⟨env, d, s.path.rebindingAddr, peer, s.path.pathChallengeData, notes, rfl, hpeer, hfrom,
    hmem, hnotes, ?_, ?_⟩
  · rw [hstep]
    exact hsame
  · rw [hstep]
    exact hsame

/-- An answer ends the validation, wherever it comes from. -/
theorem validated_iff_of_answer (h : s.Inv) {env : FrameEnv} {d : Datagram} (hwaits : s.path.waits = true)
    (hmem : s.path.pathChallengeData ∈ pathResponses env s.conn d.pkts)
    (hstep : (s.step (.datagram env d)).path = s.path.validate) :
    s.Validated (.datagram env d) ↔ s.AnsweredFromPending (.datagram env d) := by
  have hpend : s.path.rebindingAddrlen ≠ 0 := of_decide_eq_true (Bool.and_eq_true_iff.1 hwaits).1
  constructor
  · rintro (⟨hpeer, -⟩ | ⟨env', d', a, peer, -, -, hev, hpeer, hfrom, -, -, ha, -⟩) - -
    · -- the pending address is not the old one
      rw [hstep] at hpeer
      replace hpeer : s.path.rebindingAddr = s.path.peerAddr := hpeer
      have hforeign := h.path.foreign hpend
      rw [hpeer, isSameAddr_self] at hforeign
      cases hforeign
    · obtain ⟨rfl, rfl⟩ := PathEvent.datagram.inj hev
      rw [hstep] at ha
      replace ha : s.path.rebindingAddr = a := ha
      rw [ha]
      exact ⟨peer, hpeer, hfrom⟩
  · intro hpending
    obtain ⟨peer, hpeer, hfrom⟩ := hpending hwaits hmem
    exact validated_of_validate h hstep rfl hpend hmem hpeer hfrom

theorem validated_iff_of_busy (h : s.Inv) (hbusy : s.path.idle = false) (env : FrameEnv) (d : Datagram) :
    s.Validated (.datagram env d) ↔ s.AnsweredFromPending (.datagram env d) := by
  have hstep := step_datagram_of_busy h hbusy env d
  rcases s.path.checkRebinding_cases d with heq | ⟨-, -, -, hidle, -⟩ |
    ⟨peer, hpeer, -, hcheck, hfrom, heq⟩
  · rw [heq] at hstep
    split_ifs at hstep with hanswer
    · exact validated_iff_of_answer h hanswer.1 hanswer.2 hstep
    · refine iff_of_true (.inl ?_) fun hwaits hmem => absurd ⟨hwaits, hmem⟩ hanswer
      rw [hstep]
      exact ⟨rfl, rfl⟩
  · rw [hbusy] at hidle
    cases hidle
  · -- the second datagram from the pending address
    rw [heq] at hstep
    have hpending : s.AnsweredFromPending (.datagram env d) := fun _ _ => ⟨peer, hpeer, hfrom⟩
    refine iff_of_true ?_ hpending
    split_ifs at hstep with hanswer
    · have hpend : s.path.rebindingAddrlen ≠ 0 := of_decide_eq_true (Bool.and_eq_true_iff.1 hanswer.1).1
      exact validated_of_validate h hstep rfl hpend hanswer.2 hpeer hfrom
    · refine .inl ?_
      rw [hstep]
      exact ⟨rfl, rfl⟩

theorem step_validated_iff (h : s.Inv) (ev : PathEvent) : s.Validated ev ↔ s.AnsweredFromPending ev := by
  cases ev with
  | timers now => exact iff_of_true (.inl (s.path.expire_peers now)) trivial
  | conn ev =>
      refine iff_of_true (.inl ?_) trivial
      simp only [step]
      split_ifs
      · exact ⟨rfl, rfl⟩
      · exact ⟨rfl, rfl⟩
  | datagram env d =>
      by_cases hidle : s.path.idle = true
      · refine iff_of_true (.inl (step_datagram_of_idle h hidle env d)) ?_
        intro hwaits
        rw [PathAddrs.waits, h.path.idle_check hidle, Bool.and_false] at hwaits
        cases hwaits
      · exact validated_iff_of_busy h (by simpa using hidle) env d

/-- **Migration after validation.** In a run of a server the address of the peer changes only when the
challenge sent to the new address is answered from it, if and only if all answers with the data of the
challenge come from the pending address once a second datagram came from there. -/
theorem runValidated_iff (settings : ConnSettings) (header : PktType → Bytes) (peer : SockAddr)
    (peerAddrlen : ℕ) (evs : List PathEvent) :
    RunHas Validated (serverCreate settings header peer peerAddrlen) evs ↔
      RunHas AnsweredFromPending (serverCreate settings header peer peerAddrlen) evs := by
  have hrun : ∀ s : PathConn, s.Inv → (RunHas Validated s evs ↔ RunHas AnsweredFromPending s evs) := by
    induction evs with
    | nil => exact fun _ _ => Iff.rfl
    | cons ev evs ih =>
        intro s hinv
        exact and_congr (step_validated_iff hinv ev) (ih (s.step ev) (step_inv hinv ev))
  exact hrun _ (serverCreate_inv settings header peer peerAddrlen)

/-- The address of the client, and another one. -/
def homeAddr : SockAddr := { family := 2, addr := [10, 0, 0, 1], port := 4433 }

def strangeAddr : SockAddr := { family := 2, addr := [10, 0, 0, 2], port := 4433 }

/-- A datagram with a packet of one frame. -/
def frameFrom (peer : SockAddr) (pktType : PktType) (pktNum : ℕ) (f : ControlFrame) : PathEvent :=
  .datagram acceptAll
    { peer := some peer
      peerAddrlen := 16
      pkts := [⟨pktType, pktNum, f.code⟩]
      recvTime := 1000
      random := some [1, 2, 3, 4, 5, 6, 7, 8]
      sent := true
      maxPto := 1000 }

/-- A server after its handshake, and two datagrams from another address. -/
def strangeRun : List PathEvent :=
  [frameFrom homeAddr .init 0 (.handshake [] clientParams []),
    .conn (.engine (.schedule .normalHighPri)), .conn (.engine (.send .normalHighPri .sent 0 0)),
    .conn (.engine (.schedule .normal)), .conn (.engine (.send .normal .sent 0 0)),
    frameFrom homeAddr .shortHeader 1 .ping, frameFrom strangeAddr .shortHeader 2 .ping,
    frameFrom strangeAddr .shortHeader 3 .ping]

/-- The server with the address of its client. -/
def homeServer : PathConn :=
  serverCreate ⟨0, false, 0, 1200, 1500, 0, 0, 0⟩ (fun _ => []) homeAddr 16

/-- The answer comes from the old address, and the server moves to the other one. -/
theorem migrates_without_validation :
    (homeServer.run strangeRun).path.peerAddr = homeAddr ∧
      ((homeServer.run strangeRun).step (frameFrom homeAddr .shortHeader 4
        (.pathResponse [1, 2, 3, 4, 5, 6, 7, 8]))).path.peerAddr = strangeAddr ∧
      ¬ (homeServer.run strangeRun).Validated (frameFrom homeAddr .shortHeader 4
        (.pathResponse [1, 2, 3, 4, 5, 6, 7, 8])) := by
  have hbefore : (homeServer.run strangeRun).path.peerAddr = homeAddr := by decide +kernel
  have hafter : ((homeServer.run strangeRun).step (frameFrom homeAddr .shortHeader 4
      (.pathResponse [1, 2, 3, 4, 5, 6, 7, 8]))).path.peerAddr = strangeAddr := by decide +kernel
  refine ⟨hbefore, hafter, ?_⟩
  rintro (⟨hpeer, -⟩ | ⟨env, d, a, peer, -, -, hev, hpeer, hfrom, -, -, ha, -⟩)
  · rw [hbefore, hafter] at hpeer
    cases hpeer
  · obtain ⟨-, rfl⟩ := PathEvent.datagram.inj hev
    obtain rfl : homeAddr = peer := Option.some.inj hpeer
    rw [hafter] at ha
    rw [← ha] at hfrom
    cases hfrom

end PathConn

end Rquic

import Rquic.Conn.AckPending
import Rquic.SendQueue.Unsent

set_option autoImplicit false

/-!
# The handshake

The handshake is done on the frame of the peer, on an acknowledgement of the own packet and on the first
1-RTT packet. Whichever comes first, the frame of the peer was handled and the own packet was sent.

* `LiveConn.Offered`: the settings come from a HANDSHAKE frame of the run.
* `LiveConn.HandshakeInv`: the flags, the state, the calls of `conn_handshake_finished` and the packets
  with a HANDSHAKE frame.
* **`LiveConn.run_handshake`**: the invariant in every run.
-/

namespace Rquic

theorem Unsent.writes {written : Prop} {s s' : SendQueue} (h : Unsent .handshake written s)
    (hw : Writes s s') : Unsent .handshake written s' := by
  induction hw with
  | refl => exact h
  | tail _ hstep ih =>
      obtain ⟨ev, hev, rfl⟩ := hstep
      refine ih.step ?_ fun habs => ?_
      · cases ev <;> first | rfl | cases hev
      · cases ev with
        | control params c =>
            cases c with
            | handshake => cases hev
            | _ => cases habs
        | stream | dropStream => cases habs
        | _ => cases hev

theorem Unsent.dropPackets {t : FrameType} {written : Prop} (s : SendQueue) :
    Unsent t written s.dropPackets where
  fresh := fun _ _ hid => by cases hid
  quiet := fun _ ht => by cases ht
  copies := fun _ _ ho => by cases ho
  absent := fun _ _ ht => by cases ht

theorem sendHandshake_unsent {written : Prop} {c : Conn} (h : Unsent .handshake written c.sndq) :
    Unsent .handshake True (sendHandshake c).1.sndq := by
  have hwrite : ∀ f, Unsent .handshake True (c.write f).1.sndq := by
    intro f
    cases hpo : controlPacket (c.params (f.pktType c)) f false 0 with
    | error e =>
        rw [Conn.write_of_error hpo]
        exact h.mono fun _ => trivial
    | ok po =>
        rw [Conn.write_of_ok hpo]
        exact (h.mono fun _ => trivial).writeControlFrame _ _ _ _ fun _ => trivial
  unfold sendHandshake
  split
  · exact h.mono fun _ => trivial
  · rename_i tp htp
    have hhandshake := hwrite (.handshake c.alpn tp c.selfProtoExt)
    split
    · rename_i heq
      rwa [heq] at hhandshake
    · rename_i heq
      rw [heq] at hhandshake
      split_ifs
      · exact hhandshake
      · exact hhandshake

theorem sendHandshake_error {c : Conn} {e : Errno} (h : (sendHandshake c).2 = .error e) :
    (sendHandshake c).1 = c := by
  unfold sendHandshake at h ⊢
  split
  · rfl
  · rename_i tp htp
    rw [htp] at h
    cases hpo : controlPacket (c.params ((ControlFrame.handshake c.alpn tp c.selfProtoExt).pktType c))
        (.handshake c.alpn tp c.selfProtoExt) false 0 with
    | error e => rw [Conn.write_of_error hpo]
    | ok po =>
        dsimp only at h
        rw [Conn.write_of_ok hpo] at h
        cases h

namespace LiveConn

/-- The settings are those of a HANDSHAKE frame among the events. -/
def Offered (evs : List LiveEvent) (settings : TransSettings) : Prop :=
  ∃ env pkt pos frameLen alpn tp ext hfits p,
    LiveEvent.frame env pkt pos frameLen ⟨.handshake alpn tp ext, hfits⟩ ∈ evs ∧
      decodeTransportParams tp = .ok p ∧ checkTransportParams p = true ∧ settings = p.settings

/-- The handshake of a connection whose peer may have offered the settings `offered`. -/
structure HandshakeInv (offered : TransSettings → Prop) (l : LiveConn) : Prop where
  quiet : l.handshakeSent = false →
    Unsent .handshake (l.connType = .client ∨ l.handshakeRecvd = true) l.sndq
  sent : l.connType = .server → l.handshakeSent = true → l.handshakeRecvd = true
  doneSent : l.connType = .server → l.handshakeDone = true → l.handshakeSent = true
  doneRecvd : l.connType = .client → l.handshakeDone = true → l.handshakeRecvd = true
  fresh : l.connState = .serverInit → l.handshakeRecvd = false
  accepted : l.connState.accepted = true → l.handshakeRecvd = true
  applied : l.handshakeRecvd = true → offered l.remoteSettings
  once : l.finished ≤ 1
  past : 0 < l.finished → ConnState.estabed.toNat ≤ l.connState.toNat

section

variable {offered : TransSettings → Prop} {l l' : LiveConn}

theorem HandshakeInv.mono {offered' : TransSettings → Prop} (h : HandshakeInv offered l)
    (himp : ∀ settings, offered settings → offered' settings) : HandshakeInv offered' l :=
  { h with applied := fun hrecvd => himp _ (h.applied hrecvd) }

/-- A step that leaves the status and the calls alone, and sends no HANDSHAKE. -/
theorem HandshakeInv.same (h : HandshakeInv offered l)
    (hstatus : l'.toConn.status = l.toConn.status) (hfinished : l'.finished = l.finished)
    (hqueue : ∀ written, Unsent .handshake written l.sndq → Unsent .handshake written l'.sndq) :
    HandshakeInv offered l' := by
  have htype : l'.connType = l.connType := Conn.status_connType hstatus
  have hstate : l'.connState = l.connState := Conn.status_connState hstatus
  have hsent : l'.handshakeSent = l.handshakeSent := Conn.status_handshakeSent hstatus
  have hrecvd : l'.handshakeRecvd = l.handshakeRecvd := Conn.status_handshakeRecvd hstatus
  have hdone : l'.handshakeDone = l.handshakeDone := Conn.status_handshakeDone hstatus
  have hremote : l'.remoteSettings = l.remoteSettings := (congrArg ConnStatus.remoteSettings hstatus :)
  obtain ⟨hq, hs, hds, hdr, hf, ha, hap, ho, hp⟩ := h
  constructor
  · rw [htype, hsent, hrecvd]
    exact fun hnot => hqueue _ (hq hnot)
  · rwa [htype, hsent, hrecvd]
  · rwa [htype, hsent, hdone]
  · rwa [htype, hdone, hrecvd]
  · rwa [hstate, hrecvd]
  · rwa [hstate, hrecvd]
  · rwa [hrecvd, hremote]
  · rwa [hfinished]
  · rwa [hfinished, hstate]

theorem HandshakeInv.onConn (h : HandshakeInv offered l) {c : Conn} (hc : Keeps l.toConn c) :
    HandshakeInv offered (l.onConn c) := h.same hc.status rfl fun _ hq => hq.writes hc.queue

theorem HandshakeInv.setEnd (h : HandshakeInv offered l) {st : ConnState}
    (hst : ConnState.closing.toNat ≤ st.toNat) : HandshakeInv offered (l.setState st) :=
  { h with
    fresh := fun hinit => by
      rw [show st = .serverInit from hinit] at hst
      exact absurd hst (by decide)
    accepted := fun hacc => by
      have hcases : st = .serverHandshake ∨ st = .estabed := by
        revert hacc
        show st.accepted = true → _
        cases st <;> simp [ConnState.accepted]
      rcases hcases with rfl | rfl <;> exact absurd hst (by decide)
    past := fun _ => le_trans (by decide) hst }

/-! ## Closing -/

theorem HandshakeInv.immediateClose (h : HandshakeInv offered l) (clock : Clock) :
    HandshakeInv offered (l.immediateClose clock) := by
  rcases immediateClose_cases l clock with ⟨c, hc, heq⟩ | heq | ⟨c, -, hc, heq⟩
  · rw [heq]
    exact h.onConn hc
  · rw [heq]
    exact h.setEnd (by decide)
  · rw [heq]
    have hshut : HandshakeInv offered (l.shutdown clock) :=
      h.same rfl rfl fun _ _ => Unsent.dropPackets l.sndq
    have hclosing : HandshakeInv offered ((l.shutdown clock).setState .closing) :=
      hshut.setEnd le_rfl
    exact hclosing.onConn hc

theorem HandshakeInv.close (h : HandshakeInv offered l) (clock : Clock) :
    HandshakeInv offered (l.close clock) := by
  unfold LiveConn.close
  split_ifs
  · exact h
  · exact h.same rfl rfl fun _ hq => hq
  · exact h.same rfl rfl fun _ hq => hq
  · exact h.immediateClose clock

theorem HandshakeInv.closeIf (h : HandshakeInv offered l) (closes : Bool) (clock : Clock) :
    HandshakeInv offered (l.closeIf closes clock) := by
  unfold LiveConn.closeIf
  split_ifs
  · exact h.close clock
  · exact h

theorem HandshakeInv.processConnCloseFrame (h : HandshakeInv offered l) (clock : Clock) (errCode : ℕ) :
    HandshakeInv offered (l.processConnCloseFrame clock errCode) := by
  have hraised : HandshakeInv offered
      (if errCode ≠ 0 then l.onConn (l.raise (.remote errCode)) else l) := by
    split_ifs
    · exact h.onConn (raise_keeps _ _)
    · exact h
  unfold LiveConn.processConnCloseFrame
  dsimp only
  refine HandshakeInv.setEnd ?_ (by decide)
  split_ifs at hraised ⊢
  · exact hraised
  · exact hraised.immediateClose clock
  · exact hraised
  · exact hraised.immediateClose clock

/-! ## The handshake -/

theorem HandshakeInv.notifyFinished {env : LiveEnv} (h : HandshakeInv offered l)
    (hfinished : l.finished = 0) (hstate : ConnState.estabed.toNat ≤ l.connState.toNat) :
    HandshakeInv offered (notifyFinished env l) := by
  have hcounted : HandshakeInv offered { l with finished := l.finished + 1 } :=
    { h with
      once := by
        show l.finished + 1 ≤ 1
        omega
      past := fun _ => hstate }
  exact hcounted.closeIf env.finishCloses env.clock

/-- The handshake of a server is done when its packet was sent. -/
theorem HandshakeInv.onHandshakeAcked (h : HandshakeInv offered l) (env : LiveEnv)
    (hsent : l.connType = .server → l.handshakeSent = true) :
    HandshakeInv offered (onHandshakeAcked env l) := by
  have hdone : l.connType = .server → HandshakeInv offered { l with handshakeDone := true } := fun htype =>
    { h with
      doneSent := fun _ _ => hsent htype
      doneRecvd := fun hclient => by
        rw [show l.connType = .client from hclient] at htype
        cases htype }
  rcases onHandshakeAcked_cases env l with heq | ⟨htype, heq⟩ | ⟨htype, hstate, heq⟩
  · rw [heq]
    exact h
  · rw [heq]
    exact hdone htype
  · have hfinished : l.finished = 0 := by
      by_contra hne
      have hpast := h.past (Nat.pos_of_ne_zero hne)
      rw [hstate] at hpast
      exact absurd hpast (by decide)
    have hrecvd : l.handshakeRecvd = true := h.accepted (by rw [hstate]; rfl)
    have hestab : HandshakeInv offered (LiveConn.setState { l with handshakeDone := true } .estabed) :=
      { hdone htype with
        fresh := fun hinit => by cases hinit
        accepted := fun _ => hrecvd
        past := fun _ => le_rfl }
    rw [heq]
    exact hestab.notifyFinished hfinished le_rfl

theorem HandshakeInv.serverOnAlpn (h : HandshakeInv offered l) (env : LiveEnv) (alpn : Bytes) :
    HandshakeInv offered (serverOnAlpn env l alpn).1 := by
  have hclose : HandshakeInv offered
      ((l.onConn { l.toConn with alpn := alpn, selfProtoExt := [] }).closeIf env.createCloses env.clock) := by
    refine HandshakeInv.closeIf ?_ _ _
    exact h.same rfl rfl fun _ hq => hq
  unfold LiveConn.serverOnAlpn
  split
  · exact h.same rfl rfl fun _ hq => hq
  · exact hclose.onConn (raise_keeps _ _)
  · dsimp only
    split_ifs
    · exact hclose.onConn (raise_keeps _ _)
    · exact hclose.same rfl rfl fun _ hq => hq

theorem closeIf_finished (closes : Bool) (clock : Clock) :
    (l.closeIf closes clock).finished = l.finished := by
  unfold LiveConn.closeIf LiveConn.close
  split_ifs
  · rfl
  · rfl
  · rfl
  · rcases immediateClose_cases l clock with ⟨c, -, heq⟩ | heq | ⟨c, -, -, heq⟩ <;> rw [heq] <;> rfl
  · rfl

theorem serverOnAlpn_finished (env : LiveEnv) (alpn : Bytes) :
    (serverOnAlpn env l alpn).1.finished = l.finished := by
  have hclose := closeIf_finished (l := l.onConn { l.toConn with alpn := alpn, selfProtoExt := [] })
    env.createCloses env.clock
  unfold LiveConn.serverOnAlpn
  split
  · rfl
  · exact hclose
  · dsimp only
    split_ifs
    · exact hclose
    · exact hclose

theorem HandshakeInv.greet (h : HandshakeInv offered l) (htype : l.connType = .server)
    (hrecvd : l.handshakeRecvd = false) (hfinished : l.finished = 0)
    (hoffered : offered l.remoteSettings) {c : Conn} {u : Unit} (hc : sendHandshake l.toConn = (c, .ok u)) :
    HandshakeInv offered ((l.onConn { c with handshakeRecvd := true }).setState .serverHandshake) := by
  have hstatus : c.status = l.toConn.status := by
    have hor := sendHandshake_status l.toConn
    rw [hc] at hor
    refine hor.resolve_right fun habs => ?_
    rw [show l.toConn.connType = .server from htype] at habs
    cases habs.1
  have hsent' : c.handshakeSent = l.handshakeSent := Conn.status_handshakeSent hstatus
  have hnot : l.handshakeSent = false := by
    by_contra habs
    rw [h.sent htype (by simpa using habs)] at hrecvd
    cases hrecvd
  have hunsent : Unsent .handshake True c.sndq := by
    have hq := sendHandshake_unsent (h.quiet hnot)
    rwa [hc] at hq
  exact {
    quiet := fun _ => hunsent.mono fun _ => .inr rfl
    sent := fun _ _ => rfl
    doneSent := fun _ hdone =>
      hsent'.trans (h.doneSent htype ((Conn.status_handshakeDone hstatus).symm.trans hdone))
    doneRecvd := fun _ _ => rfl
    fresh := fun hinit => by cases hinit
    accepted := fun _ => rfl
    applied := fun _ => by
      show offered c.remoteSettings
      rw [show c.remoteSettings = l.remoteSettings from (congrArg ConnStatus.remoteSettings hstatus :)]
      exact hoffered
    once := by
      show l.finished ≤ 1
      omega
    past := fun hpos => absurd (show 0 < l.finished from hpos) (by omega) }

theorem HandshakeInv.finishHandshake (h : HandshakeInv offered l) (env : LiveEnv) (alpn : Bytes)
    (hexpects : expectsHandshake l.toConn = true) (hoffered : offered l.remoteSettings) :
    HandshakeInv offered (finishHandshake env l alpn).1 := by
  have hfinished : l.finished = 0 := by
    by_contra hne
    have hpast := h.past (Nat.pos_of_ne_zero hne)
    unfold expectsHandshake at hexpects
    cases htype : l.connType with
    | client =>
        rw [htype, Bool.and_eq_true] at hexpects
        rw [of_decide_eq_true hexpects.1] at hpast
        exact absurd hpast (by decide)
    | server =>
        rw [htype] at hexpects
        rw [of_decide_eq_true hexpects] at hpast
        exact absurd hpast (by decide)
  unfold LiveConn.finishHandshake
  cases htype : l.connType with
  | client =>
      have hestab : HandshakeInv offered
          (setState { l with handshakeRecvd := true, handshakeDone := true } .estabed) := {
        quiet := fun hnot => (h.quiet hnot).mono fun _ => .inr rfl
        sent := fun _ _ => rfl
        doneSent := fun hserver => by
          rw [show l.connType = .server from hserver] at htype
          cases htype
        doneRecvd := fun _ _ => rfl
        fresh := fun hinit => by cases hinit
        accepted := fun _ => rfl
        applied := fun _ => hoffered
        once := h.once
        past := fun _ => le_rfl }
      exact hestab.notifyFinished hfinished le_rfl
  | server =>
      have hrecvd : l.handshakeRecvd = false := by
        unfold expectsHandshake at hexpects
        rw [htype] at hexpects
        exact h.fresh (of_decide_eq_true hexpects)
      have halpn := h.serverOnAlpn env alpn
      have hfin := serverOnAlpn_finished (l := l) env alpn
      obtain ⟨st, hst⟩ := serverOnAlpn_status env l alpn
      dsimp only
      rcases hres : LiveConn.serverOnAlpn env l alpn with ⟨l₁, ret⟩
      rw [hres] at halpn hfin hst
      cases ret with
      | error e => exact halpn
      | ok u =>
          dsimp only
          rcases hs : sendHandshake l₁.toConn with ⟨c, ret⟩
          cases ret with
          | error e =>
              have hsame := sendHandshake_error (congrArg Prod.snd hs)
              rw [hs] at hsame
              obtain rfl : c = l₁.toConn := hsame
              exact halpn
          | ok u =>
              have htype₁ : l₁.connType = l.connType := (congrArg ConnStatus.connType hst :)
              have hrecvd₁ : l₁.handshakeRecvd = l.handshakeRecvd :=
                (congrArg ConnStatus.handshakeRecvd hst :)
              have hremote₁ : l₁.remoteSettings = l.remoteSettings :=
                (congrArg ConnStatus.remoteSettings hst :)
              exact halpn.greet (htype₁.trans htype) (hrecvd₁.trans hrecvd) (hfin.trans hfinished)
                (hremote₁ ▸ hoffered) hs

theorem HandshakeInv.processHandshake (h : HandshakeInv offered l) (env : LiveEnv)
    (alpn tp ext : Bytes)
    (hoffered : ∀ p, decodeTransportParams tp = .ok p → checkTransportParams p = true →
      offered p.settings) : HandshakeInv offered (processHandshake env l alpn tp ext).1 := by
  unfold LiveConn.processHandshake
  by_cases hexpects : expectsHandshake l.toConn = true
  · rw [if_neg (not_not.2 hexpects)]
    by_cases hext : protoExtCap < ext.length
    · rw [if_pos hext]
      exact h.onConn (raise_keeps _ _)
    · rw [if_neg hext]
      dsimp only
      have hpeer : HandshakeInv offered (l.onConn { l.toConn with peerProtoExt := ext }) :=
        h.same rfl rfl fun _ hq => hq
      cases htp : decodeTransportParams tp with
      | error e => exact hpeer.onConn (raise_keeps _ _)
      | ok p =>
          dsimp only
          by_cases hcheck : checkTransportParams p = true
          · rw [if_neg (not_not.2 hcheck)]
            have hsettings := hoffered p htp hcheck
            refine HandshakeInv.finishHandshake ?_ env alpn hexpects hsettings
            -- new settings, with no handshake received before
            exact { hpeer with applied := fun _ => hsettings }
          · rw [if_pos hcheck]
            exact hpeer.onConn (raise_keeps _ _)
  · rw [if_pos hexpects]
    exact h

/-! ## Acknowledgements -/

/-- An ACK frame acknowledges a HANDSHAKE packet only if one was sent. -/
theorem HandshakeInv.processAckFrame (h : HandshakeInv offered l) (env : LiveEnv) (info : AckInfo) :
    HandshakeInv offered (processAckFrame env l info) := by
  have hacked : HandshakeInv offered
      (l.onConn { l.toConn with sndq := (onAckReceived l.sndq info env.th).1 }) :=
    h.same rfl rfl fun _ hq => hq.onAckReceived info env.th
  unfold LiveConn.processAckFrame
  dsimp only
  split_ifs with hsome
  · refine hacked.onHandshakeAcked env fun _ => ?_
    obtain ⟨id, hid, hthis⟩ := List.any_eq_true.1 hsome
    simp only [Bool.and_eq_true, decide_eq_true_eq] at hthis
    by_contra hnot
    have hquiet := h.quiet (by simpa using hnot)
    exact (hquiet.quiet id hthis.1.1).2 hid
  · exact hacked

theorem HandshakeInv.maybeShouldAck (h : HandshakeInv offered l) (outOfOrder : Bool) (now : ℕ) :
    HandshakeInv offered (l.maybeShouldAck outOfOrder now) := by
  unfold LiveConn.maybeShouldAck
  split_ifs
  · exact h
  · exact h.same rfl rfl fun _ hq => hq
  · exact h.same rfl rfl fun _ hq => hq
  · exact h

theorem HandshakeInv.recordSingle (h : HandshakeInv offered l) (pktNum : ℕ)
    (types : Finset FrameType) (recvTime : ℕ) :
    HandshakeInv offered (l.recordSingle pktNum types recvTime) := by
  unfold LiveConn.recordSingle
  split
  · exact h
  · dsimp only
    refine HandshakeInv.maybeShouldAck ?_ _ _
    split_ifs
    · exact h.same rfl rfl fun _ hq => hq.same rfl rfl rfl
    · exact h.same rfl rfl fun _ hq => hq.same rfl rfl rfl

/-- A 1-RTT packet that a server does not refuse comes after its HANDSHAKE packet. -/
theorem HandshakeInv.onPktProcessed (h : HandshakeInv offered l) (env : LiveEnv) {pkt : PacketIn}
    (types : Finset FrameType) (hpkt : refusesPacket l.toConn pkt = false) :
    HandshakeInv offered (onPktProcessed env l pkt types) := by
  unfold LiveConn.onPktProcessed
  dsimp only
  refine HandshakeInv.recordSingle ?_ _ _ _
  split_ifs with hshort
  · refine h.onHandshakeAcked env fun htype => ?_
    unfold refusesPacket at hpkt
    rw [show l.toConn.connType = .server from htype] at hpkt
    simp only [hshort, decide_true, Bool.true_and, Bool.not_eq_false'] at hpkt
    exact hpkt
  · exact h

theorem HandshakeInv.writeAck (h : HandshakeInv offered l) (ackDelay ackDelayExponent : ℕ) :
    HandshakeInv offered (l.writeAck ackDelay ackDelayExponent) := by
  have hwritten : HandshakeInv offered (l.onConn { l.toConn with
      sndq := writeAckToPackets l.sndq (l.params l.stateToPktType) ackDelay ackDelayExponent }) :=
    h.same rfl rfl fun _ hq => hq.writeAckToPackets _ _ _ nofun
  rcases writeAck_cases l ackDelay ackDelayExponent rfl with heq | heq | heq
  · rw [heq]
    exact h
  · rw [heq]
    exact hwritten.same rfl rfl fun _ hq => hq
  · rw [heq]
    exact hwritten.onConn (raise_keeps _ _)

/-! ## The engine -/

theorem sendsHandshake_eq (c : Conn) (ev : EngineEvent) :
    sendsHandshake c ev = sendsType .handshake c.sndq (ev.toSend c) := by
  cases ev with
  | send t outcome srtt now => cases outcome <;> rfl
  | _ => rfl

/-- The engine sends the HANDSHAKE packet of a server after the frame of the client. -/
theorem HandshakeInv.engine (h : HandshakeInv offered l) (env : LiveEnv) (ev : EngineEvent) :
    HandshakeInv offered (l.step (.engine env ev)) := by
  have hmoved : HandshakeInv offered (l.onConn (l.toConn.step (.engine ev))) := {
    h with
    quiet := fun hnot => by
      have hor : (l.handshakeSent || sendsHandshake l.toConn ev) = false := hnot
      rw [Bool.or_eq_false_iff, sendsHandshake_eq] at hor
      refine (h.quiet hor.1).step hor.2 fun habs => ?_
      cases ev <;> cases habs
    sent := fun htype hsent => by
      have hor : (l.handshakeSent || sendsHandshake l.toConn ev) = true := hsent
      by_cases hold : l.handshakeSent = true
      · exact h.sent htype hold
      · rw [Bool.not_eq_true] at hold
        rw [hold, Bool.false_or] at hor
        by_contra hnot
        have habsent := (h.quiet hold).absent
          (not_or.2 ⟨by rw [show l.connType = .server from htype]; nofun, hnot⟩)
        unfold sendsHandshake at hor
        split at hor
        · split at hor
          · cases hor
          · rename_i id _ _
            rw [Bool.and_eq_true] at hor
            exact habsent id (of_decide_eq_true hor.1)
        · cases hor
    doneSent := fun htype hdone => by
      show (l.handshakeSent || sendsHandshake l.toConn ev) = true
      rw [h.doneSent htype hdone, Bool.true_or] }
  unfold LiveConn.step
  dsimp only
  split_ifs with hdropped
  · refine hmoved.onHandshakeAcked env fun _ => ?_
    obtain ⟨id, -, hthis⟩ := List.any_eq_true.1 hdropped
    simp only [Bool.and_eq_true, decide_eq_true_eq] at hthis
    by_contra hnot
    have hquiet := (hmoved.quiet (by simpa using hnot)).quiet id hthis.1.1
    rw [hthis.1.2] at hquiet
    cases hquiet.1
  · exact hmoved

/-! ## The tick -/

theorem HandshakeInv.timerExpire (h : HandshakeInv offered l) (clock : Clock) :
    HandshakeInv offered (l.timerExpire clock) := by
  have hend : HandshakeInv offered (l.endTimers clock) := h.same rfl rfl fun _ hq => hq
  have hlinger : HandshakeInv offered ((l.endTimers clock).lingerExpire clock) := by
    unfold lingerExpire
    split_ifs
    · refine HandshakeInv.immediateClose ?_ clock
      exact hend.same rfl rfl fun _ hq => hq
    · exact hend
  rw [timerExpire_eq]
  dsimp only
  split_ifs
  · exact hlinger.same rfl rfl fun _ hq => hq
  · exact hlinger

theorem HandshakeInv.processConn (h : HandshakeInv offered l) (clock : Clock) :
    HandshakeInv offered (l.processConn clock) := by
  have hexp := h.timerExpire clock
  unfold LiveConn.processConn
  dsimp only
  split_ifs
  · exact hexp.setEnd (by decide)
  · exact hexp.immediateClose clock
  · have hclose : HandshakeInv offered
        (LiveConn.immediateClose { l.timerExpire clock with lingerTimer := none } clock) := by
      refine HandshakeInv.immediateClose ?_ clock
      exact hexp.same rfl rfl fun _ hq => hq
    exact hclose.same rfl rfl fun _ hq => hq
  · exact hexp
  · exact hexp

/-! ## Runs -/

/-- A client that has not established the connection moves between its first states. -/
theorem HandshakeInv.restate (h : HandshakeInv offered l) (htype : l.connType = .client)
    (hfinished : l.finished = 0) {c : Conn} {st : ConnState}
    (hstatus : c.status = { l.toConn.status with connState := st })
    (hst : st = .clientInit ∨ st = .clientHandshake)
    (hqueue : ∀ written, Unsent .handshake written l.sndq → Unsent .handshake True c.sndq) :
    HandshakeInv offered ((l.onConn c).setState c.connState) := by
  have hctype : c.connType = .client := (congrArg ConnStatus.connType hstatus :).trans htype
  have hsent : c.handshakeSent = l.handshakeSent := (congrArg ConnStatus.handshakeSent hstatus :)
  have hrecvd : c.handshakeRecvd = l.handshakeRecvd := (congrArg ConnStatus.handshakeRecvd hstatus :)
  have hdone : c.handshakeDone = l.handshakeDone := (congrArg ConnStatus.handshakeDone hstatus :)
  have hremote : c.remoteSettings = l.remoteSettings := (congrArg ConnStatus.remoteSettings hstatus :)
  have hstate : c.connState = st := (congrArg ConnStatus.connState hstatus :)
  have hserver : ((l.onConn c).setState c.connState).connType ≠ .server := by
    rw [show ((l.onConn c).setState c.connState).connType = .client from hctype]
    nofun
  exact {
    quiet := fun hnot => (hqueue _ (h.quiet (hsent.symm.trans hnot))).mono fun _ => .inl hctype
    sent := fun habs => absurd habs hserver
    doneSent := fun habs => absurd habs hserver
    doneRecvd := fun _ hd => hrecvd.trans (h.doneRecvd htype (hdone.symm.trans hd))
    fresh := fun hs => by
      rw [show ((l.onConn c).setState c.connState).connState = st from hstate] at hs
      rcases hst with rfl | rfl <;> cases hs
    accepted := fun ha => by
      rw [show ((l.onConn c).setState c.connState).connState = st from hstate] at ha
      rcases hst with rfl | rfl <;> cases ha
    applied := fun hr => by
      show offered c.remoteSettings
      rw [hremote]
      exact h.applied (hrecvd.symm.trans hr)
    once := h.once
    past := fun hpos => absurd (show 0 < l.finished from hpos) (by omega) }

theorem HandshakeInv.start (h : HandshakeInv offered l) :
    HandshakeInv offered (l.step (.conn .handshake)) := by
  show HandshakeInv offered ((l.onConn (l.toConn.step .handshake)).setState
    (l.toConn.step .handshake).connState)
  by_cases hinit : l.connType = .client ∧ l.connState = .clientInit
  · rw [show l.toConn.step .handshake = (sendHandshake l.toConn).1 from if_pos hinit]
    have hfinished : l.finished = 0 := by
      by_contra hne
      have hpast := h.past (Nat.pos_of_ne_zero hne)
      rw [hinit.2] at hpast
      exact absurd hpast (by decide)
    rcases sendHandshake_status l.toConn with hst | ⟨-, hst⟩
    · exact h.restate hinit.1 hfinished hst (.inl hinit.2) fun _ hq => sendHandshake_unsent hq
    · exact h.restate hinit.1 hfinished hst (.inr rfl) fun _ hq => sendHandshake_unsent hq
  · rw [show l.toConn.step .handshake = l.toConn from if_neg hinit]
    exact h.same rfl rfl fun _ hq => hq

theorem HandshakeInv.processFrame (h : HandshakeInv offered l) (env : LiveEnv) (pkt : PacketIn)
    (pos frameLen : ℕ) (f : Frame)
    (hoffered : ∀ alpn tp ext p, f = .handshake alpn tp ext → decodeTransportParams tp = .ok p →
      checkTransportParams p = true → offered p.settings) :
    HandshakeInv offered (LiveConn.processFrame env l pkt pos frameLen f) := by
  cases f with
  | ack info => exact h.processAckFrame env info
  | handshake alpn tp ext =>
      exact h.processHandshake env alpn tp ext fun p => hoffered alpn tp ext p rfl
  | connectionClose errCode => exact h.processConnCloseFrame env.clock errCode
  | _ => exact h.onConn (processFrame_keeps _ env.toFrameEnv pkt pos frameLen rfl)

theorem HandshakeInv.step {evs : List LiveEvent} (h : HandshakeInv (Offered evs) l) (ev : LiveEvent) :
    HandshakeInv (Offered (evs ++ [ev])) (l.step ev) := by
  have h : HandshakeInv (Offered (evs ++ [ev])) l := by
    refine h.mono fun settings hset => ?_
    obtain ⟨env, pkt, pos, frameLen, alpn, tp, ext, hfits, p, hmem, hrest⟩ := hset
    exact ⟨env, pkt, pos, frameLen, alpn, tp, ext, hfits, p, List.mem_append_left _ hmem, hrest⟩
  cases ev with
  | frame env pkt pos frameLen f =>
      rw [step_frame]
      split_ifs
      · have hlog : HandshakeInv (Offered (evs ++ [.frame env pkt pos frameLen f]))
            (l.onConn (l.addLog (.recvd pkt.pktNum pos f.1))) := h.same rfl rfl fun _ hq => hq
        refine hlog.processFrame env pkt pos frameLen f.1 fun alpn tp ext p hf htp hcheck => ?_
        obtain ⟨f, hfits⟩ := f
        obtain rfl : f = .handshake alpn tp ext := hf
        exact ⟨env, pkt, pos, frameLen, alpn, tp, ext, hfits, p,
          List.mem_append_right _ (List.mem_singleton.2 rfl), htp, hcheck, rfl⟩
      · exact h
  | processed env pkt types =>
      simp only [LiveConn.step]
      split_ifs with hpkt
      · exact h
      · exact h.onPktProcessed env types (by simpa using hpkt)
  | engine env ev => exact h.engine env ev
  | writeAck ackDelay ackDelayExponent => exact h.writeAck ackDelay ackDelayExponent
  | immediateClose clock => exact h.immediateClose clock
  | close clock => exact h.close clock
  | tick clock => exact h.processConn clock
  | armIdle expire => exact h.same rfl rfl fun _ hq => hq
  | socketError => exact h.setEnd (by decide)
  | conn ev =>
      cases ev with
      | frame | processed | engine | immediateClose => exact h
      | handshake => exact h.start
      | _ => exact h.onConn (step_keeps _ rfl)

end

theorem create_handshakeInv (connType : ConnType) (settings : ConnSettings) (header : PktType → Bytes)
    (lingerOn : Bool) (lingerTimeout ackFrequency : ℕ) (adaptiveAckFrequency : Bool) :
    HandshakeInv (Offered []) (create connType settings header lingerOn lingerTimeout ackFrequency
      adaptiveAckFrequency) where
  quiet := fun _ => Unsent.init
  sent := fun _ habs => by cases habs
  doneSent := fun _ habs => by cases habs
  doneRecvd := fun _ habs => by cases habs
  fresh := fun _ => rfl
  accepted := fun habs => by cases connType <;> cases habs
  applied := fun habs => by cases habs
  once := Nat.zero_le 1
  past := fun habs => absurd habs (lt_irrefl 0)

/-- **The handshake.** In every run: when the handshake of a server is done, the HANDSHAKE frame of the
client was handled and the own HANDSHAKE packet was sent; when the handshake of a client is done, the
HANDSHAKE frame of the server was handled; an established connection has the settings that the peer
offered; and `conn_handshake_finished` is called at most once. -/
theorem run_handshake (connType : ConnType) (settings : ConnSettings) (header : PktType → Bytes)
    (lingerOn : Bool) (lingerTimeout ackFrequency : ℕ) (adaptiveAckFrequency : Bool)
    (evs : List LiveEvent) :
    let l := (create connType settings header lingerOn lingerTimeout ackFrequency
      adaptiveAckFrequency).run evs
    (l.connType = .server → l.handshakeDone = true →
      l.handshakeRecvd = true ∧ Offered evs l.remoteSettings ∧ l.handshakeSent = true) ∧
    (l.connType = .client → l.handshakeDone = true →
      l.handshakeRecvd = true ∧ Offered evs l.remoteSettings) ∧
    (l.connState = .estabed → Offered evs l.remoteSettings) ∧ l.finished ≤ 1 := by
  intro l
  have h : HandshakeInv (Offered evs) l := by
    have hinit := create_handshakeInv connType settings header lingerOn lingerTimeout ackFrequency
      adaptiveAckFrequency
    show HandshakeInv (Offered evs) ((create connType settings header lingerOn lingerTimeout
      ackFrequency adaptiveAckFrequency).run evs)
    induction evs using List.reverseRecOn with
    | nil => exact hinit
    | append_singleton evs ev ih =>
        rw [run_append]
        exact ih.step ev
  refine ⟨fun htype hdone => ?_, fun htype hdone => ?_, fun hstate => ?_, h.once⟩
  · have hsent := h.doneSent htype hdone
    have hrecvd := h.sent htype hsent
    exact ⟨hrecvd, h.applied hrecvd, hsent⟩
  · have hrecvd := h.doneRecvd htype hdone
    exact ⟨hrecvd, h.applied hrecvd⟩
  · refine h.applied (h.accepted ?_)
    rw [hstate]
    rfl

-- the first 1-RTT packet ends the handshake of a server
example : (newLiveServer.run firstPing).handshakeDone = true ∧
    (newLiveServer.run firstPing).finished = 1 := by decide +kernel

end LiveConn

end Rquic

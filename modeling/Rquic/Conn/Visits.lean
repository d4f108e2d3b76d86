import Rquic.Conn.Datagram
import Rquic.Conn.Packets

set_option autoImplicit false

/-!
# The packets that are visited

The packets of a datagram are visited in order. Only a packet that the connection does not take, or one whose
frames fail, ends the loop.

* `NetConn.Ready`: the connection; `NetConn.SameIds`: its ids stay.
* `Built.Taken`: the connection takes the packet.
* **`Built.round_taken`**: a packet that is taken is visited, or its frames fail.
* **`processFrames_harmless`**: PADDING and PING frames never fail.
* `NetConn.behind`: the connection that the packets in front of one leave.
* **`datagramLoop_visits`**: the packets are visited in order, up to one that is not taken or whose frames fail.
* **`headerRoundTrip`**: packet headers, back and forth.
-/

namespace Rquic

/-! ## Packets that are taken -/

/-- The handshake flags only rise while packets of the peer are processed. -/
theorem ReceiptRun.handshakeMono {c c' : Conn} (h : ReceiptRun c c') (hkeyed : c.Keyed) :
    HandshakeMono c c' := by
  obtain ⟨evs, -, rfl⟩ := h
  induction evs generalizing c with
  | nil => exact .refl c
  | cons ev evs ih =>
      rw [Conn.run_cons]
      exact (step_steps hkeyed ev).handshakeMono.trans (ih (step_keyed hkeyed ev))

namespace NetConn

/-- The connection with the frames of a packet processed. -/
def putConn (c : NetConn) (conn : Conn) : NetConn := { c with toConn := conn }

/-- The connection takes packets of both kinds, and its ids are settled. -/
structure Ready (c : NetConn) : Prop where
  keyed : c.toConn.Keyed
  client : c.connType = .client → c.handshakeDone = true
  server : c.connType = .server → c.handshakeSent = true
  settled : c.dcidDone = true

/-- Every id that was known is known, and the HANDSHAKE frame of the peer stays received. -/
structure SameIds (c c' : NetConn) : Prop where
  connType : c'.connType = c.connType
  userScid : c'.userScid = c.userScid
  originalDcid : c'.originalDcid = c.originalDcid
  scidSet : c'.scidSet = c.scidSet
  dcidSet : c'.dcidSet = c.dcidSet
  dcidDone : c'.dcidDone = c.dcidDone
  supportVersions : c'.supportVersions = c.supportVersions
  version : c'.version = .initVer → c.version = .initVer
  recvd : c.handshakeRecvd = true → c'.handshakeRecvd = true

theorem SameIds.refl (c : NetConn) : c.SameIds c := ⟨rfl, rfl, rfl, rfl, rfl, rfl, rfl, id, id⟩

theorem SameIds.trans {c c' c'' : NetConn} (h : c.SameIds c') (h' : c'.SameIds c'') : c.SameIds c'' :=
  ⟨h'.connType.trans h.connType, h'.userScid.trans h.userScid, h'.originalDcid.trans h.originalDcid,
    h'.scidSet.trans h.scidSet, h'.dcidSet.trans h.dcidSet, h'.dcidDone.trans h.dcidDone,
    h'.supportVersions.trans h.supportVersions, fun hinit => h.version (h'.version hinit),
    fun hrecvd => h'.recvd (h.recvd hrecvd)⟩

theorem SameIds.putConn {c c' : NetConn} (h : c.SameIds c') {conn : Conn} (hmono : HandshakeMono c.toConn conn) :
    c.SameIds (c'.putConn conn) :=
  ⟨hmono.connType, h.userScid, h.originalDcid, h.scidSet, h.dcidSet, h.dcidDone, h.supportVersions, h.version,
    fun hrecvd => hmono.recvd hrecvd⟩

theorem Ready.takes {c : NetConn} (h : c.Ready) (pkt : PacketIn) : refusesPacket c.toConn pkt = false := by
  unfold refusesPacket
  cases htype : c.connType with
  | client => simp [h.client htype]
  | server => simp [h.server htype]

theorem Ready.of_receipt {c c' : NetConn} (h : c.Ready) (hrun : ReceiptRun c.toConn c'.toConn)
    (hdone : c'.dcidDone = c.dcidDone) : c'.Ready := by
  have hmono := hrun.handshakeMono h.keyed
  refine ⟨hrun.keyed h.keyed, fun htype => ?_, fun htype => ?_, hdone.trans h.settled⟩
  · exact hmono.done (h.client (hmono.connType.symm.trans htype))
  · exact hmono.sent (h.server (hmono.connType.symm.trans htype))

end NetConn

theorem HeaderSpec.Known.same {c c' : NetConn} {spec : HeaderSpec} (h : spec.Known c) (hs : c.SameIds c') :
    spec.Known c' := by
  cases spec with
  | short dcid =>
      obtain ⟨hset, hlen⟩ := h
      exact ⟨hs.scidSet ▸ hset, hs.userScid ▸ hlen⟩
  | long dcid scid ver =>
      obtain ⟨hids, hversion⟩ := h
      refine ⟨fun hdone => ?_, fun htype hinit => ?_⟩
      · rw [hs.originalDcid, hs.scidSet, hs.dcidSet]
        exact hids (hs.dcidDone.symm.trans hdone)
      · rw [hs.supportVersions]
        exact hversion (hs.connType.symm.trans htype) (hs.version hinit)

section Rounds

variable {env : FrameEnv} {c : NetConn} {b : Built}

/-- The packet as its frames are processed. -/
def Built.packetIn (c : NetConn) (b : Built) : PacketIn where
  pktType := match b.spec with | .short _ => .shortHeader | .long .. => .init
  pktNum := decodePacketNumber c.sndq.recvRecord (writePacketNumber b.packetNumber pktnoClass)
  payload := b.payload

/-- The connection takes the packet: it knows the ids, a 1-RTT packet does not come too early, and there is
room for the id of the peer if it is not settled. -/
structure Built.Taken (c : NetConn) (b : Built) : Prop where
  known : b.spec.Known c
  late : refusesPacket c.toConn (b.packetIn c) = false
  room : c.dcidDone = true ∨ b.spec.scid ∈ c.dcidSet ∨ c.dcidSet.length ≤ NetConn.activeCidLimit

/-- The frames of the packet, as the connection processes them. -/
def Built.frames (env : FrameEnv) (c : NetConn) (b : Built) : Conn × Except Errno Unit :=
  match processFrames env (b.packetIn c) b.payload.length c.toConn ∅ b.payload with
  | (conn, _, ret) => (conn, ret)

/-- The frames of the packet fail. -/
def Built.FramesFail (env : FrameEnv) (c : NetConn) (b : Built) : Prop :=
  ∃ e, (b.frames env c).2 = .error e

theorem Built.Taken.not_early {dcid : Cid} (h : b.Taken c) (hspec : b.spec = .short dcid) :
    ¬ ((c.connType = .client ∧ c.handshakeDone = false) ∨ (c.connType = .server ∧ c.handshakeSent = false)) := by
  have hlate := h.late
  unfold refusesPacket packetIn at hlate
  rw [hspec] at hlate
  rintro (⟨htype, hdone⟩ | ⟨htype, hsent⟩)
  · simp [htype, hdone] at hlate
  · simp [htype, hsent] at hlate

theorem NetConn.Ready.taken (hc : c.Ready) (hknown : b.spec.Known c) : b.Taken c :=
  ⟨hknown, hc.takes _, .inl hc.settled⟩

theorem Built.frames_run (env : FrameEnv) (hc : c.Ready) (b : Built) :
    ReceiptRun c.toConn (b.frames env c).1 :=
  processFrames_run env (b.packetIn c) hc.keyed (hc.takes _)

theorem Built.packet_header (c : NetConn) (b : Built) : (b.header c).packet b.bytes = some (b.packetIn c) := by
  have hpayload := (b.payload_bounds c []).2
  rw [List.append_nil] at hpayload
  unfold PacketHeader.packet
  rw [hpayload]
  rfl

theorem Built.parse_taken (h : b.Taken c) : ∃ c₁,
    c.parseSingleAt b.bytes = (c₁, .ok (b.header c)) ∧ c₁.toConn = c.toConn ∧ c.SameIds c₁ := by
  have hparse : (c.parseSingleAt b.bytes).2 = .ok (b.header c) := by
    have hheader := b.parse_known h.known []
    rw [List.append_nil] at hheader
    obtain ⟨tail, htail⟩ := b.bytes_first
    unfold HeaderSpec.parse at hheader
    cases hspec : b.spec with
    | short dcid =>
        rw [hspec] at hheader htail
        rw [htail] at hheader ⊢
        rw [HeaderSpec.first, parseSingleAt_cons, if_pos (by decide), if_neg (h.not_early hspec)]
        exact hheader
    | long dcid scid ver =>
        rw [hspec] at hheader htail
        rw [htail] at hheader ⊢
        rw [HeaderSpec.first, parseSingleAt_cons, if_neg (by decide), if_pos (by decide)]
        exact hheader
  have hkept := NetConn.parseSingle_kept c b.bytes
  rw [NetConn.parseSingle_eq, hparse] at hkept
  refine ⟨(c.parseSingleAt b.bytes).1, Prod.ext rfl hparse, hkept.conn, ?_⟩
  refine ⟨congrArg (fun c : Conn => c.connType) hkept.conn, hkept.userScid, hkept.originalDcid, hkept.scidSet,
    hkept.dcidSet, hkept.dcidDone, hkept.supportVersions, fun hinit => ?_, fun hrecvd => ?_⟩
  · rcases hkept.version with hserver | hnone | hsame
    · exact hserver.2
    · dsimp only [Except.map] at hnone
      rw [b.packet_header] at hnone
      cases hnone
    · exact hsame.symm.trans hinit
  · exact (congrArg (fun c : Conn => c.handshakeRecvd) hkept.conn).trans hrecvd

theorem packetProcessed_settled (hc : c.dcidDone = true) (h : PacketHeader) (pkt : PacketIn) :
    c.packetProcessed h (some pkt) = ({ c with toConn := onPktProcessed c.toConn pkt }, .ok ()) := by
  unfold NetConn.packetProcessed NetConn.confirmCid
  rw [if_pos hc, ite_self]

/-- An id of the peer is confirmed if there is room for it. -/
theorem packetProcessed_ok {h : PacketHeader} {scid : Bytes} (hscid : h.scid = scid)
    (hroom : c.dcidDone = true ∨ scid ∈ c.dcidSet ∨ c.dcidSet.length ≤ NetConn.activeCidLimit) (pkt : PacketIn) :
    (c.packetProcessed h (some pkt)).2 = .ok () := by
  have hconfirm : (c.confirmCid h.scid).2 = .ok () := by
    rw [hscid]
    unfold NetConn.confirmCid
    split_ifs with hdone hmem hfull
    · rfl
    · rfl
    · rcases hroom with hdone' | hmem' | hle
      · exact absurd hdone' hdone
      · exact absurd hmem' hmem
      · omega
    · rfl
  unfold NetConn.packetProcessed
  split_ifs
  · exact hconfirm
  · rfl

theorem Built.header_pos (c : NetConn) (b : Built) : ¬ (b.header c).pos = 0 := by
  unfold header
  exact Nat.succ_ne_zero _

/-- **A packet that is taken is visited, or its frames fail.** -/
theorem Built.round_taken (env : FrameEnv) (h : b.Taken c) : ∃ c₁, c.SameIds c₁ ∧
    (∀ e, (b.frames env c).2 = .error e →
      ∃ ret, c.round env b.bytes = .leave (c₁.putConn (b.frames env c).1) ret) ∧
    ∀ u, (b.frames env c).2 = .ok u → c.round env b.bytes =
      .next ((c₁.putConn (b.frames env c).1).packetProcessed (b.header c) (some (b.packetIn c))).1
        (b.header c) := by
  obtain ⟨c₁, hparse, hconn, hsame⟩ := Built.parse_taken h
  have hsingle : c.processSingleAt env b.bytes =
      (c₁.putConn (b.frames env c).1, (b.frames env c).2.map fun _ => b.header c) := by
    unfold NetConn.processSingleAt
    rw [hparse]
    dsimp only
    rw [b.packet_header, hconn]
    rfl
  refine ⟨c₁, hsame, fun e he => ?_, fun u hu => ?_⟩
  · unfold NetConn.round
    rw [hsingle, he]
    dsimp only [Except.map]
    split_ifs
    · exact ⟨_, rfl⟩
    · exact ⟨_, rfl⟩
  · have hroom := h.room
    rw [← hsame.dcidDone, ← hsame.dcidSet] at hroom
    have hok := packetProcessed_ok (c := c₁.putConn (b.frames env c).1) (h := b.header c) rfl hroom (b.packetIn c)
    unfold NetConn.round
    rw [hsingle, hu]
    dsimp only [Except.map]
    rw [b.packet_header, ← Prod.mk.eta (p := NetConn.packetProcessed _ _ _), hok]
    exact if_neg (b.header_pos c)

theorem Built.round_fails (h : b.Taken c) (hfail : b.FramesFail env c) : ∃ c' ret,
    c.round env b.bytes = .leave c' ret := by
  obtain ⟨c₁, -, hleave, -⟩ := b.round_taken env h
  obtain ⟨e, he⟩ := hfail
  obtain ⟨ret, hround⟩ := hleave e he
  exact ⟨_, ret, hround⟩

/-- Behind a packet that it has visited, a ready connection is ready. -/
theorem Built.round_ready (env : FrameEnv) (hc : c.Ready) (hknown : b.spec.Known c) (hok : ¬ b.FramesFail env c) :
    ∃ c', c.round env b.bytes = .next c' (b.header c) ∧ c'.Ready ∧ c.SameIds c' := by
  obtain ⟨c₁, hsame, -, hnext⟩ := b.round_taken env (hc.taken hknown)
  cases hret : (b.frames env c).2 with
  | error e => exact absurd ⟨e, hret⟩ hok
  | ok u =>
      have hdone : (c₁.putConn (b.frames env c).1).dcidDone = true := hsame.dcidDone.trans hc.settled
      have hprocessed := ReceiptRun.single (b.frames env c).1 (.processed (b.packetIn c)) rfl
      have hrun := (b.frames_run env hc).trans hprocessed
      refine ⟨_, hnext u hret, ?_⟩
      rw [packetProcessed_settled hdone]
      exact ⟨hc.of_receipt hrun hsame.dcidDone, hsame.putConn (hrun.handshakeMono hc.keyed)⟩

/-! ## Frames that never fail -/

/-- Only PADDING frames and PING frames. -/
def Harmless (payload : Bytes) : Prop := ∀ b ∈ payload, b = 0x00 ∨ b = 0x01

instance (payload : Bytes) : Decidable (Harmless payload) := List.decidableBAll _ payload

/-- **PADDING and PING frames never fail** behind the HANDSHAKE frame. -/
theorem processFrames_harmless (env : FrameEnv) (pkt : PacketIn) (fuel : ℕ) (c : Conn)
    (types : Finset FrameType) (bs : Bytes) (hrecvd : c.handshakeRecvd = true) (hbs : Harmless bs)
    (hfuel : bs.length ≤ fuel) : (processFrames env pkt fuel c types bs).2.2 = .ok () := by
  induction fuel generalizing c types bs with
  | zero =>
      obtain rfl := List.length_eq_zero_iff.1 (Nat.le_zero.1 hfuel)
      rfl
  | succ fuel ih =>
      cases bs with
      | nil => rfl
      | cons b bs =>
          have htail : Harmless bs := fun x hx => hbs x (List.mem_cons_of_mem _ hx)
          have hlen : bs.length ≤ fuel := Nat.le_of_succ_le_succ hfuel
          have hlt : b.toNat < 64 := by
            rcases hbs b List.mem_cons_self with rfl | rfl <;> decide
          have hdrop : (bs.dropWhile (· = 0)).length ≤ bs.length := (List.dropWhile_sublist _).length_le
          rw [processFrames, vintRead_of_lt bs hlt, if_neg (Option.some_ne_none _)]
          cases refusesFrame c (b :: bs) with
          | some c' => rfl
          | none =>
              dsimp only
              rcases hbs b List.mem_cons_self with rfl | rfl
              · have hparse : parseFrame c.remoteSettings.ackDelayExponent (0x00 :: bs) =
                    .ok (.padding, bs.dropWhile (· = 0)) := by
                  rw [parseFrame, vintRead_of_lt bs hlt]
                  rfl
                rw [hparse]
                dsimp only [processFrame]
                split_ifs with hclosed hsame
                · rfl
                · rw [List.length_cons] at hsame
                  omega
                · exact ih _ _ _ hrecvd (fun x hx => htail x ((List.dropWhile_sublist _).mem hx))
                    (hdrop.trans hlen)
              · have hparse : parseFrame c.remoteSettings.ackDelayExponent (0x01 :: bs) = .ok (.ping, bs) := by
                  rw [parseFrame, vintRead_of_lt bs hlt]
                  rfl
                have hlog : (c.addLog (.recvd pkt.pktNum (pkt.payload.length - (0x01 :: bs).length)
                    .ping)).handshakeRecvd = true := hrecvd
                rw [hparse]
                dsimp only [processFrame]
                rw [if_pos hlog]
                dsimp only
                split_ifs with hclosed hsame
                · rfl
                · rw [List.length_cons] at hsame
                  omega
                · exact ih _ _ _ hlog htail hlen

theorem Built.not_framesFail (env : FrameEnv) (hrecvd : c.handshakeRecvd = true) (hb : Harmless b.payload) :
    ¬ b.FramesFail env c := by
  rintro ⟨e, he⟩
  have hok := processFrames_harmless env (b.packetIn c) b.payload.length c.toConn ∅ b.payload hrecvd hb le_rfl
  rw [Built.frames] at he
  dsimp only at he
  rw [hok] at he
  cases he

end Rounds

/-! ## The packets of a datagram -/

/-- What tells a packet of a datagram: where it starts, its ids, its truncated number and its length. -/
def PacketHeader.mark (v : ℕ × PacketHeader) : ℕ × Bytes × Bytes × ℕ × ℕ :=
  (v.1, v.2.dcid, v.2.scid, v.2.truncatedPn, v.2.last)

/-- The packets of a datagram, the first at the position `pos`. -/
def marks : ℕ → List Built → List (ℕ × Bytes × Bytes × ℕ × ℕ)
  | _, [] => []
  | pos, b :: bs =>
    (pos, b.spec.dcid, b.spec.scid, b.packetNumber % 2 ^ 32, b.bytes.length) ::
      marks (pos + b.bytes.length) bs

theorem length_marks (bs : List Built) (pos : ℕ) : (marks pos bs).length = bs.length := by
  induction bs generalizing pos with
  | nil => rfl
  | cons b bs ih => rw [marks, List.length_cons, List.length_cons, ih]

theorem Built.mark_header (c : NetConn) (b : Built) (pos : ℕ) :
    PacketHeader.mark (pos, b.header c) =
      (pos, b.spec.dcid, b.spec.scid, b.packetNumber % 2 ^ 32, b.bytes.length) := by
  rw [PacketHeader.mark, b.length_bytes]
  unfold header
  rfl

namespace NetConn

/-- The connection behind packets that are all visited. -/
def behind (env : FrameEnv) : NetConn → List Built → Option NetConn
  | c, [] => some c
  | c, b :: bs =>
    match c.round env b.bytes with
    | .leave .. => none
    | .next c _ => behind env c bs

end NetConn

/-- **The packets are visited in order**, all of them or up to the first one that ends the loop. -/
theorem packetsLoop_visits (env : FrameEnv) (bs : List Built) (c : NetConn) (pos : ℕ)
    (seen : List (ℕ × PacketHeader)) (hlen : ∀ b ∈ bs, b.spec.LengthKnown c.userScid) :
    ∃ c' seen' ret, packetsLoop env c pos (bs.map Built.bytes) seen = (c', seen', ret) ∧
      ∃ k ≤ bs.length, ∃ cₖ, c.behind env (bs.take k) = some cₖ ∧
        seen'.map PacketHeader.mark = seen.map PacketHeader.mark ++ (marks pos bs).take k ∧
        ((k = bs.length ∧ c' = cₖ ∧ ret = .ok ()) ∨
          ∃ hk : k < bs.length, cₖ.round env bs[k].bytes = .leave c' ret) := by
  induction bs generalizing c pos seen with
  | nil => exact ⟨c, seen, .ok (), rfl, 0, le_rfl, c, rfl, by simp [marks], .inl ⟨rfl, rfl, rfl⟩⟩
  | cons b bs ih =>
      rw [List.map_cons, packetsLoop]
      cases hround : c.round env b.bytes with
      | leave c' ret =>
          exact ⟨c', seen, ret, rfl, 0, Nat.zero_le _, c, rfl, by simp, .inr ⟨Nat.succ_pos _, hround⟩⟩
      | next c₁ h =>
          obtain ⟨rfl, hscid⟩ := b.round_next (hlen b List.mem_cons_self) hround
          obtain ⟨c', seen', ret, hloop, k, hk, cₖ, hbehind, hseen, hend⟩ :=
            ih c₁ (pos + b.bytes.length) (seen ++ [(pos, b.header c)])
              fun b' hb' => hscid ▸ hlen b' (List.mem_cons_of_mem _ hb')
          refine ⟨c', seen', ret, hloop, k + 1, Nat.succ_le_succ hk, cₖ, ?_, ?_, ?_⟩
          · rw [List.take_succ_cons, NetConn.behind, hround]
            exact hbehind
          · rw [hseen, List.map_append, List.map_singleton, b.mark_header, marks]
            simp
          · rcases hend with ⟨rfl, hc, hret⟩ | ⟨hlt, hleave⟩
            · exact .inl ⟨rfl, hc, hret⟩
            · exact .inr ⟨Nat.succ_lt_succ hlt, hleave⟩

/-- Behind known packets a ready connection is ready, and the packets that follow are known. -/
theorem NetConn.Ready.behind {env : FrameEnv} {c c' : NetConn} {bs : List Built} (hc : c.Ready)
    (hknown : ∀ b ∈ bs, b.spec.Known c) (h : c.behind env bs = some c') : c'.Ready ∧ c.SameIds c' := by
  induction bs generalizing c with
  | nil =>
      obtain rfl := Option.some.inj h
      exact ⟨hc, .refl c⟩
  | cons b bs ih =>
      have hb := hknown b List.mem_cons_self
      rw [NetConn.behind] at h
      by_cases hfail : b.FramesFail env c
      · obtain ⟨c₁, ret, hround⟩ := b.round_fails (hc.taken hb) hfail
        rw [hround] at h
        cases h
      · obtain ⟨c₁, hround, hready, hsame⟩ := b.round_ready env hc hb hfail
        rw [hround] at h
        obtain ⟨hready', hsame'⟩ := ih hready
          (fun b' hb' => (hknown b' (List.mem_cons_of_mem _ hb')).same hsame) h
        exact ⟨hready', hsame.trans hsame'⟩

/-- All packets of the datagram are visited, and the frames of each are processed. -/
def NetConn.AllVisited (env : FrameEnv) (c : NetConn) (bs : List Built) : Prop :=
  ∃ c' seen, (∀ fuel, bs.length ≤ fuel →
      datagramLoop env (bs.map Built.bytes).flatten fuel c 0 [] = some (c', seen, .ok ())) ∧
    seen.map PacketHeader.mark = marks 0 bs ∧ c.behind env bs = some c'

section Visits

variable {env : FrameEnv} {c : NetConn} {bs : List Built}

theorem HeaderSpec.Known.length {spec : HeaderSpec} (h : spec.Known c) : spec.LengthKnown c.userScid := by
  cases spec with
  | short dcid => exact h.2
  | long dcid scid ver => trivial

/-- **The packets of a datagram are visited in order**: all of them, or those in front of one that the
connection does not take or whose frames fail. -/
theorem datagramLoop_visits (env : FrameEnv) (hknown : ∀ b ∈ bs, b.spec.Known c) : ∃ c' seen ret,
    (∀ fuel, bs.length ≤ fuel →
      datagramLoop env (bs.map Built.bytes).flatten fuel c 0 [] = some (c', seen, ret)) ∧
    ∃ k ≤ bs.length, ∃ cₖ, c.behind env (bs.take k) = some cₖ ∧
      seen.map PacketHeader.mark = (marks 0 bs).take k ∧
      ((k = bs.length ∧ c' = cₖ ∧ ret = .ok ()) ∨
        ∃ hk : k < bs.length, cₖ.round env bs[k].bytes = .leave c' ret ∧
          (bs[k].Taken cₖ → bs[k].FramesFail env cₖ)) := by
  have hlen : ∀ b ∈ bs, b.spec.LengthKnown c.userScid := fun b hb => (hknown b hb).length
  obtain ⟨c', seen, ret, hloop, k, hk, cₖ, hbehind, hseen, hend⟩ := packetsLoop_visits env bs c 0 [] hlen
  refine ⟨c', seen, ret, fun fuel hfuel => ?_, k, hk, cₖ, hbehind, by simpa using hseen, ?_⟩
  · rw [← hloop]
    simpa using datagramLoop_packets env bs c [] [] fuel hlen hfuel
  · rcases hend with hall | ⟨hlt, hleave⟩
    · exact .inl hall
    refine .inr ⟨hlt, hleave, fun htaken => ?_⟩
    obtain ⟨c₁, -, -, hnext⟩ := bs[k].round_taken env htaken
    cases hret : (bs[k].frames env cₖ).2 with
    | error e => exact ⟨e, hret⟩
    | ok u =>
        rw [hnext u hret] at hleave
        cases hleave

/-- **A ready connection visits all packets** if no frames fail. -/
theorem NetConn.Ready.allVisited (hc : c.Ready) (hknown : ∀ b ∈ bs, b.spec.Known c)
    (hframes : ∀ k (hk : k < bs.length) cₖ, c.behind env (bs.take k) = some cₖ → ¬ bs[k].FramesFail env cₖ) :
    c.AllVisited env bs := by
  obtain ⟨c', seen, ret, hloop, k, -, cₖ, hbehind, hseen, hend⟩ := datagramLoop_visits env hknown
  rcases hend with ⟨rfl, rfl, rfl⟩ | ⟨hk, -, hfail⟩
  · rw [List.take_length] at hbehind
    rw [List.take_of_length_le (length_marks bs 0).le] at hseen
    exact ⟨c', seen, hloop, hseen, hbehind⟩
  · obtain ⟨hready, hsame⟩ := hc.behind (fun b hb => hknown b (List.mem_of_mem_take hb)) hbehind
    have htaken := hready.taken ((hknown _ (List.getElem_mem hk)).same hsame)
    exact absurd (hfail htaken) (hframes k hk cₖ hbehind)

/-- **Packets of PADDING and PING frames are all visited.** -/
theorem NetConn.Ready.allVisited_harmless (hc : c.Ready) (hrecvd : c.handshakeRecvd = true)
    (hknown : ∀ b ∈ bs, b.spec.Known c) (hbs : ∀ b ∈ bs, Harmless b.payload) : c.AllVisited env bs := by
  refine hc.allVisited hknown fun k hk cₖ hbehind => ?_
  obtain ⟨-, hsame⟩ := hc.behind (fun b hb => hknown b (List.mem_of_mem_take hb)) hbehind
  exact Built.not_framesFail env (hsame.recvd hrecvd) (hbs _ (List.getElem_mem hk))

end Visits

/-- **Packet headers, back and forth.** A packet is parsed to its ids, its truncated number and the bounds
of its payload; the packets of a datagram are visited in order, each on the connection that those in front of
it leave, all of them or up to one that this connection does not take or whose frames fail; a connection with
its handshake behind it takes all packets that it knows, and PADDING and PING frames never fail; and the parser
for routing takes the ids of the full parser. -/
theorem headerRoundTrip (env : FrameEnv) (c : NetConn) :
    (∀ b : Built, b.spec.Known c → ∀ rest,
      b.spec.parse c (b.bytes ++ rest) = .ok (b.header c) ∧ (b.header c).last = b.bytes.length ∧
      ((b.bytes ++ rest).take (b.header c).last).drop (b.header c).pos = b.payload) ∧
    (∀ bs : List Built, (∀ b ∈ bs, b.spec.Known c) → ∃ c' seen ret,
      (∀ fuel, bs.length ≤ fuel →
        datagramLoop env (bs.map Built.bytes).flatten fuel c 0 [] = some (c', seen, ret)) ∧
      ∃ k ≤ bs.length, ∃ cₖ, c.behind env (bs.take k) = some cₖ ∧
        seen.map PacketHeader.mark = (marks 0 bs).take k ∧
        ((k = bs.length ∧ c' = cₖ ∧ ret = .ok ()) ∨
          ∃ hk : k < bs.length, cₖ.round env bs[k].bytes = .leave c' ret ∧
            (bs[k].Taken cₖ → bs[k].FramesFail env cₖ))) ∧
    (c.Ready → ∀ bs : List Built, (∀ b ∈ bs, b.spec.Known c) →
      ((∀ k (hk : k < bs.length) cₖ, c.behind env (bs.take k) = some cₖ → ¬ bs[k].FramesFail env cₖ) →
        c.AllVisited env bs) ∧
      (c.handshakeRecvd = true → (∀ b ∈ bs, Harmless b.payload) → c.AllVisited env bs)) ∧
    (∀ buf h dcid scid, (c.parseSingleAt buf).2 = .ok h →
      parseCid c.userScid.length buf = .ok (dcid, scid) → h.dcid = dcid ∧ h.scid = scid) := by
  refine ⟨fun b hb rest => ⟨b.parse_known hb rest, b.payload_bounds c rest⟩,
    fun bs hknown => datagramLoop_visits env hknown, fun hc bs hknown => ⟨?_, ?_⟩,
    fun buf h dcid scid hparse hroute => parseCid_agrees hparse hroute⟩
  · exact hc.allVisited hknown
  · exact fun hrecvd hbs => hc.allVisited_harmless hrecvd hknown hbs

/-- A 1-RTT packet with number 5 and a PING frame. -/
def pingPacket : Built :=
  { spec := .short ⟨[9], by decide⟩
    po := { pktNum := 0, poBuf := List.replicate 16 0xAA, poBufSize := 16 }
    payload := [0x01]
    packetNumber := 5
    need := 8
    po' := PacketBuf.writeHeader { pktNum := 0, poBuf := List.replicate 16 0xAA, poBufSize := 16 }
      (shortHead [9] pktnoClass) pktnoClass 0
    new := rfl
    gen := rfl
    fits := by decide
    payload_le := by decide }

/-- A 1-RTT packet with number 6, PADDING and a PING frame. -/
def paddedPacket : Built :=
  { spec := .short ⟨[9], by decide⟩
    po := { pktNum := 0, poBuf := List.replicate 16 0xBB, poBufSize := 16 }
    payload := [0x00, 0x00, 0x01]
    packetNumber := 6
    need := 8
    po' := PacketBuf.writeHeader { pktNum := 0, poBuf := List.replicate 16 0xBB, poBufSize := 16 }
      (shortHead [9] pktnoClass) pktnoClass 0
    new := rfl
    gen := rfl
    fits := by decide
    payload_le := by decide }

theorem NetConn.established_ready : established.Ready where
  keyed := run_keyed (connCreate_keyed _ _ _) serverHandshake
  client := by decide +kernel
  server := by decide +kernel
  settled := rfl

/-- Both packets of the datagram are visited, the second one behind the nine bytes of the first. -/
theorem headerRoundTrip_twoPackets :
    pingPacket.bytes = [0x63, 9, 0x40, 5, 0, 0, 0, 5, 0x01] ∧
      paddedPacket.bytes = [0x63, 9, 0x40, 7, 0, 0, 0, 6, 0x00, 0x00, 0x01] ∧
      marks 0 [pingPacket, paddedPacket] = [(0, [9], [], 5, 9), (9, [9], [], 6, 11)] ∧
      pingPacket.spec.parse NetConn.established (pingPacket.bytes ++ paddedPacket.bytes) =
        .ok (pingPacket.header NetConn.established) ∧
      NetConn.established.AllVisited acceptAll [pingPacket, paddedPacket] := by
  have hping : pingPacket.spec.Known NetConn.established := ⟨List.mem_singleton.2 rfl, rfl⟩
  have hpadded : paddedPacket.spec.Known NetConn.established := ⟨List.mem_singleton.2 rfl, rfl⟩
  have hknown : ∀ b ∈ [pingPacket, paddedPacket], b.spec.Known NetConn.established := by
    simp only [List.mem_cons, List.not_mem_nil, or_false, forall_eq_or_imp, forall_eq]
    exact ⟨hping, hpadded⟩
  have hbs : ∀ b ∈ [pingPacket, paddedPacket], Harmless b.payload := by
    simp only [List.mem_cons, List.not_mem_nil, or_false, forall_eq_or_imp, forall_eq]
    exact ⟨by decide, by decide⟩
  obtain ⟨hparse, -, hall, -⟩ := headerRoundTrip acceptAll NetConn.established
  refine ⟨by decide +kernel, by decide +kernel, by decide +kernel, (hparse pingPacket hping _).1, ?_⟩
  exact (hall NetConn.established_ready _ hknown).2 (by decide +kernel) hbs

end Rquic

import Rquic.Frame.Cursor
import Rquic.Conn.HeaderGen
import Rquic.Conn.Ignored

set_option autoImplicit false

/-!
# The loops over a datagram

`rqc_conn_process_packet` and `rqc_process_frames` with the positions they go through. A round of a loop
takes fuel, and a run that has none left has no result.

* `framesLoop`: the frames of a packet; **`framesLoop_eq`**: it always comes to an end, with the result
  of `processFrames`.
* `NetConn.processSingleAt`, `NetConn.packetProcessed`: one packet of a datagram.
* `datagramLoop`: the packets of a datagram; **`datagramLoop_ends`**.
* **`insideAndEnds_iff`**: frame parsers stay inside the packet but for one.
* **`datagramLoop_packets`**: packets in one datagram are processed as if they came one by one.
-/

namespace Rquic

/-! ## The frames of a packet -/

/-- `rqc_process_frames` from the position `pos` on, with the frame types seen so far. -/
def framesLoop (env : FrameEnv) (pkt : PacketIn) :
    ℕ → Conn → Finset FrameType → ℕ → Option (Conn × Finset FrameType × Except Errno Unit)
  | fuel, c, types, pos =>
    if pkt.payload.length ≤ pos then
      some (if types = ∅ then c.raise .protocolViolation else c, types, .ok ())
    else
      match fuel with
      | 0 => none
      | fuel + 1 =>
        if vintRead (pkt.payload.drop pos) = none then some (c, types, .error .vintread)
        else
          match refusesFrame c (pkt.payload.drop pos) with
          | some c => some (c, types, .ok ())
          | none =>
            match parseFrameAt pkt.payload c.remoteSettings.ackDelayExponent ⟨pos, []⟩ with
            | .error e => some (c, types, .error e)
            | .ok (f, s) =>
              let types := insert f.type types
              match processFrame env (c.addLog (.recvd pkt.pktNum pos f)) pkt pos
                  ((pkt.payload.drop pos).length - (pkt.payload.drop s.pos).length) f with
              | (c, .error e) => some (c, types, .error e)
              | (c, .ok _) =>
                if c.isClosing = true ∨ c.connErr.isSome = true then some (c, types, .ok ())
                else if s.pos = pos then some (c, types, .error .sys)
                else framesLoop env pkt fuel c types s.pos

/-- A parser goes forward, even where it goes too far. -/
theorem parseFrameAt_lt {payload : Bytes} {e p : ℕ} {f : Frame} {s : Cursor} (hp : p ≤ payload.length)
    (h : parseFrameAt payload e ⟨p, []⟩ = .ok (f, s)) : p < s.pos := by
  obtain ⟨frameType, rest, own, s₀, -, -, htype, hbody⟩ := parseFrameAt_cases h
  obtain ⟨hlt, hon⟩ := typeAt_onward hp htype
  by_cases hclose : frameType = 0x1c ∨ frameType = 0x1d
  · rw [bodyAt_close e own hclose] at hbody
    obtain ⟨⟨errCode, reasonLen⟩, s₁, hread, -⟩ := CursorM.bind_ok hbody
    rw [connCloseAt_of hread] at hbody
    obtain ⟨-, rfl⟩ := Prod.mk.inj (Except.ok.inj hbody)
    have hle := (staysIn_closeAt own _ _ _ hon.inside hread).le
    dsimp only
    omega
  · exact hlt.trans_le (staysIn_bodyAt e own (not_or.1 hclose) _ _ _ hon.inside hbody).le

/-- **The frames of a packet come to an end**, with the result of `processFrames`. -/
theorem framesLoop_eq (env : FrameEnv) (pkt : PacketIn) (fuel : ℕ) (c : Conn) (types : Finset FrameType)
    (pos : ℕ) (hfuel : pkt.payload.length - pos ≤ fuel) :
    framesLoop env pkt fuel c types pos =
      some (processFrames env pkt fuel c types (pkt.payload.drop pos)) := by
  induction fuel generalizing c types pos with
  | zero =>
      rw [framesLoop, if_pos (by omega), List.drop_of_length_le (by omega)]
      rfl
  | succ fuel ih =>
      rw [framesLoop]
      by_cases hend : pkt.payload.length ≤ pos
      · rw [if_pos hend, List.drop_of_length_le hend]
        rfl
      · rw [if_neg hend]
        dsimp only
        have hread := @reads_parseFrameAt pkt.payload c.remoteSettings.ackDelayExponent
          ⟨pos, []⟩
        dsimp only at hread
        obtain ⟨b, bs, hdrop⟩ : ∃ b bs, pkt.payload.drop pos = b :: bs :=
          List.exists_cons_of_ne_nil fun h => hend (List.drop_eq_nil_iff.1 h)
        have hpos : pkt.payload.length - (pkt.payload.drop pos).length = pos := by
          rw [List.length_drop]
          omega
        rw [hdrop, processFrames, ← hdrop, hread, hpos]
        by_cases hvint : vintRead (pkt.payload.drop pos) = none
        · rw [if_pos hvint, if_pos hvint]
        · rw [if_neg hvint, if_neg hvint]
          cases refusesFrame c (pkt.payload.drop pos) with
          | some c₁ => rfl
          | none =>
              dsimp only
              cases hparse : parseFrameAt pkt.payload c.remoteSettings.ackDelayExponent ⟨pos, []⟩ with
              | error e => rfl
              | ok r =>
                  obtain ⟨f, s⟩ := r
                  have hlt := parseFrameAt_lt (not_le.1 hend).le hparse
                  have hmoved : ¬ (pkt.payload.drop s.pos).length = (pkt.payload.drop pos).length := by
                    simp only [List.length_drop]
                    omega
                  simp only [Except.map, if_neg hlt.ne', if_neg hmoved]
                  generalize processFrame env _ pkt pos _ f = res
                  obtain ⟨c₁, ret⟩ := res
                  cases ret with
                  | error e => rfl
                  | ok u =>
                      have hnext := ih c₁ (insert f.type types) s.pos (by omega)
                      by_cases hclosed : c₁.isClosing = true ∨ c₁.connErr.isSome = true
                      · simp only [if_pos hclosed]
                      · simp only [if_neg hclosed]
                        exact hnext

/-! ## The packets of a datagram -/

namespace NetConn

/-- `rqc_packet_process_single`, with the header that was found. -/
def processSingleAt (env : FrameEnv) (c : NetConn) (buf : Bytes) : NetConn × Except Errno PacketHeader :=
  match c.parseSingleAt buf with
  | (c, .error e) => (c, .error e)
  | (c, .ok h) =>
    match h.packet buf with
    | none => (c, .ok h)
    | some pkt =>
      let (conn, _, ret) := processFrames env pkt pkt.payload.length c.toConn ∅ pkt.payload
      ({ c with toConn := conn }, ret.map fun _ => h)

/-- `RQC_CONN_ACTIVE_CID_LIMIT`. -/
def activeCidLimit : ℕ := 2

/-- `rqc_conn_confirm_cid`. -/
def confirmCid (c : NetConn) (scid : Bytes) : NetConn × Except Errno Unit :=
  if c.dcidDone then (c, .ok ())
  else if scid ∈ c.dcidSet then ({ c with dcidDone := true }, .ok ())
  else if activeCidLimit < c.dcidSet.length then (c, .error .activeCidLimit)
  else ({ c with dcidSet := c.dcidSet ++ [scid], dcidDone := true }, .ok ())

/-- `rqc_conn_on_pkt_processed`. -/
def packetProcessed (c : NetConn) (h : PacketHeader) (pkt : Option PacketIn) :
    NetConn × Except Errno Unit :=
  let (c, ret) := if h.pktType = some .init then c.confirmCid h.scid else (c, .ok ())
  match pkt with
  | none => (c, ret)
  | some pkt => ({ c with toConn := onPktProcessed c.toConn pkt }, ret)

/-- One round of `rqc_conn_process_packet`. -/
inductive Round where
  /-- The packet was processed. -/
  | next (c : NetConn) (h : PacketHeader)
  /-- The loop is left. -/
  | leave (c : NetConn) (ret : Except Errno Unit)

/-- One round of `rqc_conn_process_packet`, on the rest of the datagram. -/
def round (env : FrameEnv) (c : NetConn) (buf : Bytes) : Round :=
  match c.processSingleAt env buf with
  | (c, .error e) => if e.tolerant then .leave c (.ok ()) else .leave c (.error e)
  | (c, .ok h) =>
    match c.packetProcessed h (h.packet buf) with
    | (c, .error e) => .leave c (.error e)
    -- the frames move `packet_in->pos` on from where the header has left it
    | (c, .ok _) => if h.pos = 0 then .leave c (.error .sys) else .next c h

end NetConn

/-- `rqc_conn_process_packet` from the position `pos` on, with the packets visited so far. -/
def datagramLoop (env : FrameEnv) (datagram : Bytes) :
    ℕ → NetConn → ℕ → List (ℕ × PacketHeader) →
      Option (NetConn × List (ℕ × PacketHeader) × Except Errno Unit)
  | fuel, c, pos, seen =>
    if datagram.length ≤ pos then some (c, seen, .ok ())
    else
      match fuel with
      | 0 => none
      | fuel + 1 =>
        match c.round env (datagram.drop pos) with
        | .leave c ret => some (c, seen, ret)
        | .next c h => datagramLoop env datagram fuel c (pos + h.last) (seen ++ [(pos, h)])

theorem parseNumberAt_bounds {c : NetConn} {first : UInt8} {pktType : PktType} {dcid scid buf : Bytes}
    {pos : ℕ} {h : PacketHeader} (hpos : pos ≤ buf.length)
    (hparse : c.parseNumberAt first pktType dcid scid buf pos = .ok h) :
    0 < h.pos ∧ h.pos ≤ h.last ∧ h.last ≤ buf.length := by
  unfold NetConn.parseNumberAt at hparse
  cases hread : vintRead (buf.drop pos) with
  | none => rw [hread] at hparse; cases hparse
  | some r =>
      have hlt := vintRead_length_lt hread
      rw [hread] at hparse
      dsimp only at hparse
      split_ifs at hparse with hroom hnum
      obtain rfl := Except.ok.inj hparse
      rw [List.length_drop] at hlt hroom
      dsimp only
      rw [List.length_drop]
      omega

theorem parseCidsAt_le {buf dcid scid : Bytes} {pos pos' : ℕ} (hpos : pos < buf.length)
    (h : NetConn.parseCidsAt buf pos = .ok (dcid, scid, pos')) : pos' ≤ buf.length := by
  unfold NetConn.parseCidsAt at h
  dsimp only at h
  split_ifs at h with hdcid hscid
  obtain ⟨-, h⟩ := Prod.mk.inj (Except.ok.inj h)
  obtain ⟨-, rfl⟩ := Prod.mk.inj h
  simp only [List.length_drop] at hdcid hscid
  omega

theorem parseLongBodyAt_bounds {c : NetConn} {first : UInt8} {isVn : Bool} {dcid scid buf : Bytes}
    {pos : ℕ} {h : PacketHeader} (hpos : pos ≤ buf.length) (hbuf : 0 < buf.length)
    (hparse : (c.parseLongBodyAt first isVn dcid scid buf pos).2 = .ok h) :
    0 < h.pos ∧ h.pos ≤ h.last ∧ h.last ≤ buf.length := by
  unfold NetConn.parseLongBodyAt at hparse
  split_ifs at hparse
  · split at hparse
    · cases hparse
    · obtain rfl := Except.ok.inj hparse
      exact ⟨hbuf, le_rfl, le_rfl⟩
  · split at hparse
    · cases hparse
    · rename_i hnumber
      obtain rfl := Except.ok.inj hparse
      exact parseNumberAt_bounds hpos hnumber

/-- **The bounds of a payload** lie in the datagram, behind the first byte of the packet. -/
theorem parseSingleAt_bounds {c : NetConn} {buf : Bytes} {h : PacketHeader}
    (hparse : (c.parseSingleAt buf).2 = .ok h) : 0 < h.pos ∧ h.pos ≤ h.last ∧ h.last ≤ buf.length := by
  cases buf with
  | nil => cases hparse
  | cons first bs =>
      unfold NetConn.parseSingleAt at hparse
      dsimp only at hparse
      split_ifs at hparse
      · unfold NetConn.parseShortHeaderAt at hparse
        dsimp only at hparse
        split_ifs at hparse with hroom
        split at hparse
        · cases hparse
        · rename_i hnumber
          obtain rfl := Except.ok.inj hparse
          exact parseNumberAt_bounds (not_lt.1 hroom) hnumber
      · unfold NetConn.parseLongHeaderAt at hparse
        dsimp only at hparse
        split_ifs at hparse with hroom
        cases hcids : NetConn.parseCidsAt (first :: bs) (1 + 4) with
        | error e => rw [hcids] at hparse; cases hparse
        | ok r =>
            obtain ⟨dcid, scid, pos⟩ := r
            have hpos := parseCidsAt_le (by omega) hcids
            rw [hcids] at hparse
            dsimp only at hparse
            split_ifs at hparse
            split at hparse
            · cases hparse
            · exact parseLongBodyAt_bounds hpos (by simp) hparse

/-- **A packet is processed as before**, and its header is told. -/
theorem processSingle_eq (env : FrameEnv) (c : NetConn) (buf : Bytes) :
    c.processSingle env buf =
      ((c.processSingleAt env buf).1, (c.processSingleAt env buf).2.map fun _ => ()) := by
  unfold NetConn.processSingle NetConn.processSingleAt
  rw [NetConn.parseSingle_eq]
  obtain ⟨c₁, ret⟩ := c.parseSingleAt buf
  cases ret with
  | error e => rfl
  | ok h =>
      dsimp only [Except.map]
      cases h.packet buf with
      | none => rfl
      | some pkt =>
          dsimp only
          generalize processFrames env pkt pkt.payload.length c₁.toConn ∅ pkt.payload = res
          obtain ⟨conn, types, ret⟩ := res
          cases ret <;> rfl

theorem processSingleAt_ok {env : FrameEnv} {c c' : NetConn} {buf : Bytes} {h : PacketHeader}
    (hsingle : c.processSingleAt env buf = (c', .ok h)) : (c.parseSingleAt buf).2 = .ok h := by
  unfold NetConn.processSingleAt at hsingle
  cases hparse : c.parseSingleAt buf with
  | mk c₁ ret =>
      rw [hparse] at hsingle
      cases ret with
      | error e => cases hsingle
      | ok h₁ =>
          dsimp only at hsingle ⊢
          split at hsingle
          · exact (Prod.mk.inj hsingle).2
          · generalize processFrames env _ _ _ _ _ = res at hsingle
            obtain ⟨conn, types, ret⟩ := res
            cases ret with
            | error e => cases hsingle
            | ok u => exact (Prod.mk.inj hsingle).2

theorem round_next {env : FrameEnv} {c c' : NetConn} {buf : Bytes} {h : PacketHeader}
    (hround : c.round env buf = .next c' h) : 0 < h.last ∧ h.last ≤ buf.length := by
  unfold NetConn.round at hround
  cases hsingle : c.processSingleAt env buf with
  | mk c₁ ret =>
      rw [hsingle] at hround
      cases ret with
      | error e =>
          dsimp only at hround
          split_ifs at hround
      | ok h₁ =>
          have hbounds := parseSingleAt_bounds (processSingleAt_ok hsingle)
          dsimp only at hround
          split at hround
          · cases hround
          · split_ifs at hround
            obtain ⟨-, rfl⟩ := NetConn.Round.next.inj hround
            omega

/-- **The packets of a datagram come to an end.** -/
theorem datagramLoop_ends (env : FrameEnv) (datagram : Bytes) (fuel : ℕ) (c : NetConn) (pos : ℕ)
    (seen : List (ℕ × PacketHeader)) (hfuel : datagram.length - pos ≤ fuel) :
    (datagramLoop env datagram fuel c pos seen).isSome = true := by
  induction fuel generalizing c pos seen with
  | zero =>
      rw [datagramLoop, if_pos (by omega)]
      rfl
  | succ fuel ih =>
      rw [datagramLoop]
      by_cases hend : datagram.length ≤ pos
      · rw [if_pos hend]
        rfl
      · rw [if_neg hend]
        cases hround : c.round env (datagram.drop pos) with
        | leave c ret => rfl
        | next c h =>
            have hlast := round_next hround
            exact ih c (pos + h.last) _ (by omega)

/-! ## Inside the packet -/

/-- **A frame parser stays inside the packet** exactly where no reason phrase of a CONNECTION_CLOSE frame
is longer than what is left, **and the loops end** on every input. -/
theorem inside_and_ends (e : ℕ) (payload : Bytes) (p : ℕ) (env : FrameEnv) (pkt : PacketIn) (c : Conn)
    (types : Finset FrameType) (n : NetConn) (datagram : Bytes) (pos : ℕ) :
    ((∀ f s, parseFrameAt payload e ⟨p, []⟩ = .ok (f, s) → Inside payload p s) ↔
      ¬ ReasonOverruns payload p) ∧
    (framesLoop env pkt pkt.payload.length c types pos).isSome = true ∧
    (datagramLoop env datagram datagram.length n pos []).isSome = true := by
  refine ⟨?_, ?_, ?_⟩
  · by_cases hp : p ≤ payload.length
    · exact inside_iff e payload p hp
    · -- behind the end there is no type
      have hnone : vintRead (payload.drop p) = none := by
        rw [List.drop_of_length_le (not_le.1 hp).le]
        rfl
      refine iff_of_true (fun f s h => ?_) ?_
      · obtain ⟨frameType, rest, own, s₀, hvint, -⟩ := parseFrameAt_cases h
        rw [hnone] at hvint
        cases hvint
      · rintro ⟨frameType, rest, errCode, reasonLen, s, hvint, -⟩
        rw [hnone] at hvint
        cases hvint
  · rw [framesLoop_eq env pkt _ c types pos (Nat.sub_le _ _)]
    rfl
  · exact datagramLoop_ends env datagram _ n pos [] (Nat.sub_le _ _)

/-- A CONNECTION_CLOSE frame whose reason phrase is missing is accepted, and the position is five bytes
behind the end of the packet. -/
theorem not_inside_truncatedClose :
    ¬ ∀ f s, parseFrameAt [0x1c, 0x00, 0x00, 0x05] 3 ⟨0, []⟩ = .ok (f, s) →
      Inside [0x1c, 0x00, 0x00, 0x05] 0 s := by
  intro h
  have hparse : parseFrameAt [0x1c, 0x00, 0x00, 0x05] 3 ⟨0, []⟩ =
      .ok (.connectionClose 0, ⟨9, [(0, 1), (1, 2), (2, 3), (3, 4), (4, 9)]⟩) := by decide +kernel
  exact absurd (h _ _ hparse).le (by decide)

/-! ## Packets in one datagram -/

/-- The packets one by one, the first at the position `pos`. -/
def packetsLoop (env : FrameEnv) :
    NetConn → ℕ → List Bytes → List (ℕ × PacketHeader) →
      NetConn × List (ℕ × PacketHeader) × Except Errno Unit
  | c, _, [], seen => (c, seen, .ok ())
  | c, pos, buf :: bufs, seen =>
    match c.round env buf with
    | .leave c ret => (c, seen, ret)
    | .next c h => packetsLoop env c (pos + buf.length) bufs (seen ++ [(pos, h)])

/-- The length that a short header does not tell. -/
def HeaderSpec.LengthKnown (userScid : Bytes) : HeaderSpec → Prop
  | short dcid => dcid.bytes.length = userScid.length
  | long .. => True

section Packets

variable {env : FrameEnv} {c : NetConn} {b : Built}

theorem parseSingleAt_cons (c : NetConn) (first : UInt8) (tail : Bytes) :
    c.parseSingleAt (first :: tail) =
      if first &&& 0xC0 = 0x40 then
        if (c.connType = .client ∧ c.handshakeDone = false)
            ∨ (c.connType = .server ∧ c.handshakeSent = false) then (c, .error .ignorePkt)
        else c.parseShortHeaderAt first (first :: tail)
      else if first &&& 0x80 = 0x80 then c.parseLongHeaderAt first (first :: tail)
      else (c, .error .ignorePkt) := rfl

theorem Built.parseSingleAt_eq (hlen : b.spec.LengthKnown c.userScid) :
    ∃ r, (∀ rest, c.parseSingleAt (b.bytes ++ rest) = r) ∧ ∀ h, r.2 = .ok h → h = b.header c := by
  obtain ⟨tail, htail⟩ := b.bytes_first
  cases hspec : b.spec with
  | short dcid =>
      rw [hspec] at hlen htail
      have hparse : ∀ rest, c.parseSingleAt (b.bytes ++ rest) =
          if (c.connType = .client ∧ c.handshakeDone = false)
            ∨ (c.connType = .server ∧ c.handshakeSent = false) then (c, .error .ignorePkt)
          else if dcid.bytes ∉ c.scidSet then (c, .error .illpkt)
          else (c.onHeaderParsed, .ok (b.header c)) := by
        intro rest
        have hcons : b.bytes ++ rest = 0x63 :: (tail ++ rest) := by
          rw [htail]
          rfl
        rw [← b.parse_short hspec hlen rest, hcons, parseSingleAt_cons, if_pos (by decide)]
      refine ⟨_, hparse, fun h hok => ?_⟩
      split_ifs at hok
      exact (Except.ok.inj hok).symm
  | long dcid scid ver =>
      rw [hspec] at htail
      have hsingle : ∀ rest, c.parseSingleAt (b.bytes ++ rest) =
          c.parseLongHeaderAt 0xC3 (b.bytes ++ rest) := by
        intro rest
        have hcons : b.bytes ++ rest = 0xC3 :: (tail ++ rest) := by
          rw [htail]
          rfl
        rw [hcons, parseSingleAt_cons, if_neg (by decide), if_pos (by decide)]
      refine ⟨_, fun rest => (hsingle rest).trans (b.parse_long hspec rest), fun h hok => ?_⟩
      split_ifs at hok
      split at hok
      · cases hok
      · exact (Except.ok.inj hok).symm

theorem Built.parseSingleAt_append (hlen : b.spec.LengthKnown c.userScid) (rest : Bytes) :
    c.parseSingleAt (b.bytes ++ rest) = c.parseSingleAt b.bytes := by
  obtain ⟨r, hr, -⟩ := b.parseSingleAt_eq hlen
  have hnil := hr []
  rw [List.append_nil] at hnil
  rw [hr rest, hnil]

theorem Built.header_of_parse {h : PacketHeader} (hlen : b.spec.LengthKnown c.userScid)
    (hparse : (c.parseSingleAt b.bytes).2 = .ok h) : h = b.header c := by
  obtain ⟨r, hr, hheader⟩ := b.parseSingleAt_eq hlen
  have hnil := hr []
  rw [List.append_nil] at hnil
  rw [hnil] at hparse
  exact hheader h hparse

theorem Built.packet_append (rest : Bytes) :
    (b.header c).packet (b.bytes ++ rest) = (b.header c).packet b.bytes := by
  have hrest := (b.payload_bounds c rest).2
  have hnil := (b.payload_bounds c []).2
  rw [List.append_nil] at hnil
  unfold PacketHeader.packet
  rw [hrest, hnil]

theorem Built.processSingleAt_append (hlen : b.spec.LengthKnown c.userScid) (rest : Bytes) :
    c.processSingleAt env (b.bytes ++ rest) = c.processSingleAt env b.bytes := by
  unfold NetConn.processSingleAt
  rw [b.parseSingleAt_append hlen]
  cases hparse : c.parseSingleAt b.bytes with
  | mk c₁ ret =>
      cases ret with
      | error e => rfl
      | ok h =>
          obtain rfl := b.header_of_parse hlen (congrArg Prod.snd hparse)
          dsimp only
          rw [b.packet_append]

theorem Built.round_append (hlen : b.spec.LengthKnown c.userScid) (rest : Bytes) :
    c.round env (b.bytes ++ rest) = c.round env b.bytes := by
  unfold NetConn.round
  rw [b.processSingleAt_append hlen]
  cases hsingle : c.processSingleAt env b.bytes with
  | mk c₁ ret =>
      cases ret with
      | error e => rfl
      | ok h =>
          obtain rfl := b.header_of_parse hlen (processSingleAt_ok hsingle)
          dsimp only
          rw [b.packet_append]

theorem processSingleAt_userScid (env : FrameEnv) (c : NetConn) (buf : Bytes) :
    (c.processSingleAt env buf).1.userScid = c.userScid := by
  have hkept := (NetConn.parseSingle_kept c buf).userScid
  rw [NetConn.parseSingle_eq] at hkept
  unfold NetConn.processSingleAt
  cases hparse : c.parseSingleAt buf with
  | mk c₁ ret =>
      rw [hparse] at hkept
      cases ret with
      | error e => exact hkept
      | ok h =>
          dsimp only
          cases h.packet buf with
          | none => exact hkept
          | some pkt => exact hkept

theorem packetProcessed_userScid (c : NetConn) (h : PacketHeader) (pkt : Option PacketIn) :
    (c.packetProcessed h pkt).1.userScid = c.userScid := by
  have hconfirm : ∀ scid, (c.confirmCid scid).1.userScid = c.userScid := by
    intro scid
    unfold NetConn.confirmCid
    split_ifs <;> rfl
  unfold NetConn.packetProcessed
  dsimp only
  by_cases hinit : h.pktType = some .init
  · rw [if_pos hinit]
    cases pkt <;> exact hconfirm h.scid
  · rw [if_neg hinit]
    cases pkt <;> rfl

theorem Built.round_next {c' : NetConn} {h : PacketHeader} (hlen : b.spec.LengthKnown c.userScid)
    (hround : c.round env b.bytes = .next c' h) : h = b.header c ∧ c'.userScid = c.userScid := by
  have hscid := processSingleAt_userScid env c b.bytes
  unfold NetConn.round at hround
  cases hsingle : c.processSingleAt env b.bytes with
  | mk c₁ ret =>
      rw [hsingle] at hround hscid
      cases ret with
      | error e =>
          dsimp only at hround
          split_ifs at hround
      | ok h₁ =>
          have hheader := b.header_of_parse hlen (processSingleAt_ok hsingle)
          have hprocessed := packetProcessed_userScid c₁ h₁ (h₁.packet b.bytes)
          dsimp only at hround
          split at hround
          · cases hround
          · rename_i c₂ u hok
            rw [hok] at hprocessed
            split_ifs at hround
            obtain ⟨rfl, rfl⟩ := NetConn.Round.next.inj hround
            exact ⟨hheader, hprocessed.trans hscid⟩

/-- **Packets in one datagram are processed as if they came one by one.** -/
theorem datagramLoop_packets (env : FrameEnv) (bs : List Built) (c : NetConn) (before : Bytes)
    (seen : List (ℕ × PacketHeader)) (fuel : ℕ) (hlen : ∀ b ∈ bs, b.spec.LengthKnown c.userScid)
    (hfuel : bs.length ≤ fuel) :
    datagramLoop env (before ++ (bs.map Built.bytes).flatten) fuel c before.length seen =
      some (packetsLoop env c before.length (bs.map Built.bytes) seen) := by
  induction bs generalizing c before seen fuel with
  | nil =>
      have hend : (before ++ (([] : List Built).map Built.bytes).flatten).length ≤ before.length := by
        simp
      unfold datagramLoop
      exact if_pos hend
  | cons b bs ih =>
      obtain ⟨fuel, rfl⟩ : ∃ n, fuel = n + 1 := ⟨fuel - 1, by simp at hfuel; omega⟩
      have hb := hlen b List.mem_cons_self
      have hpos : 0 < b.bytes.length := by
        rw [b.length_bytes]
        omega
      have hmore : ¬ (before ++ ((b :: bs).map Built.bytes).flatten).length ≤ before.length := by
        simp only [List.map_cons, List.flatten_cons, List.length_append]
        omega
      rw [datagramLoop, if_neg hmore, List.drop_left, List.map_cons, List.flatten_cons,
        b.round_append hb, packetsLoop]
      cases hround : c.round env b.bytes with
      | leave c' ret => rfl
      | next c' h =>
          obtain ⟨rfl, hscid⟩ := b.round_next hb hround
          have hlast := (b.payload_bounds c []).1
          have hnext := ih c' (before ++ b.bytes) (seen ++ [(before.length, b.header c)]) fuel
            (fun b' hb' => hscid ▸ hlen b' (List.mem_cons_of_mem _ hb'))
            (by simpa using hfuel)
          rw [List.length_append, List.append_assoc] at hnext
          dsimp only
          rw [hlast]
          exact hnext

end Packets

end Rquic

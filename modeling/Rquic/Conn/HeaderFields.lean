import Rquic.Conn.Header

set_option autoImplicit false

/-!
# Packet headers with positions

The header parsers of `rqc_packet_parser.c` once more, now with all they leave in `rqc_packet_in_t`: the
connection ids, the truncated packet number, and the bounds of the payload.

* `PacketHeader`: `rqc_packet_t` with `packet_in->pos` and `packet_in->last`.
* `parseShortHeaderAt`, `parseLongHeaderAt`, `parseSingleAt`: the parsers.
* **`parseSingle_eq`**: they are the parsers of `NetConn` with positions.
* `parseCid`: `rqc_packet_parse_cid`, the parser that routes a datagram to its connection.
* **`parseCid_agrees`**: it takes the ids that the full parsers take.
-/

namespace Rquic

/-- `rqc_packet_t` with `packet_in->pos` and `packet_in->last`, counted from the start of the packet. -/
structure PacketHeader where
  /-- A Version Negotiation packet has no type here, and no packet number. -/
  pktType : Option PktType
  dcid : Bytes
  scid : Bytes := []
  truncatedPn : ℕ := 0
  pktNum : ℕ := 0
  pktNumOffset : ℕ := 0
  pos : ℕ
  last : ℕ
  deriving DecidableEq, Repr

/-- What is left for `rqc_process_frames`. -/
def PacketHeader.packet (h : PacketHeader) (buf : Bytes) : Option PacketIn :=
  h.pktType.map fun t => ⟨t, h.pktNum, (buf.take h.last).drop h.pos⟩

/-- So many bytes from a position on. -/
def bytesFrom (buf : Bytes) (start len : ℕ) : Bytes := (buf.drop start).take len

namespace NetConn

/-- The end of both headers at the position `pos`: the length and the packet number. -/
def parseNumberAt (c : NetConn) (first : UInt8) (pktType : PktType) (dcid scid : Bytes) (buf : Bytes)
    (pos : ℕ) : Except Errno PacketHeader :=
  match vintRead (buf.drop pos) with
  | none => .error .illpkt
  | some (length, rest) =>
    let size := (buf.drop pos).length - rest.length
    if (buf.drop pos).length < size + length then .error .illpkt
    else
      let pos := pos + size
      if length < pktnoBytes first then .error .illpkt
      else
        let pktno := bytesFrom buf pos (pktnoBytes first)
        .ok
          { pktType := some pktType
            dcid := dcid
            scid := scid
            truncatedPn := parsePacketNumber pktno
            pktNum := decodePacketNumber c.sndq.recvRecord pktno
            pktNumOffset := pos
            pos := pos + pktnoBytes first
            last := pos + length }

/-- `rqc_packet_parse_short_header`. -/
def parseShortHeaderAt (c : NetConn) (first : UInt8) (buf : Bytes) :
    NetConn × Except Errno PacketHeader :=
  let cidLen := c.userScid.length
  if buf.length < 1 + cidLen then (c, .error .illpkt)
  else if first &&& 0x40 = 0 then (c, .error .illpkt)
  else
    let dcid := bytesFrom buf 1 cidLen
    -- `rqc_conn_check_dcid`
    if dcid ∉ c.scidSet then (c, .error .illpkt)
    else
      match c.parseNumberAt first .shortHeader dcid [] buf (1 + cidLen) with
      | .error e => (c, .error e)
      | .ok h => (c.onHeaderParsed, .ok h)

/-- The ids of a long header from the position `pos` on, and the position behind them. -/
def parseCidsAt (buf : Bytes) (pos : ℕ) : Except Errno (Bytes × Bytes × ℕ) :=
  let dcidLen := (buf.getD pos 0).toNat
  let pos := pos + 1
  if (buf.drop pos).length < dcidLen + 1 ∨ maxCidLen < dcidLen then .error .illpkt
  else
    let dcid := bytesFrom buf pos dcidLen
    let pos := pos + dcidLen
    let scidLen := (buf.getD pos 0).toNat
    let pos := pos + 1
    if (buf.drop pos).length < scidLen ∨ maxCidLen < scidLen then .error .illpkt
    else .ok (dcid, bytesFrom buf pos scidLen, pos + scidLen)

/-- The end of `rqc_packet_parse_long_header`. -/
def parseLongBodyAt (c : NetConn) (first : UInt8) (isVn : Bool) (dcid scid : Bytes) (buf : Bytes)
    (pos : ℕ) : NetConn × Except Errno PacketHeader :=
  if isVn then
    match c.parseVersionNegotiation scid (buf.drop pos) with
    | (c, .error e) => (c, .error e)
    -- all that is left is taken for versions
    | (c, .ok _) => (c.onHeaderParsed,
        .ok { pktType := none, dcid := dcid, scid := scid, pos := buf.length, last := buf.length })
  else if first &&& 0x30 = 0 then
    match c.parseNumberAt first .init dcid scid buf pos with
    | .error e => (c, .error e)
    | .ok h => (c.onHeaderParsed, .ok h)
  else (c, .error .illpkt)

/-- `rqc_packet_parse_long_header`. -/
def parseLongHeaderAt (c : NetConn) (first : UInt8) (buf : Bytes) :
    NetConn × Except Errno PacketHeader :=
  if buf.length < 1 + 4 + 2 then (c, .error .illpkt)
  else
    let version := beVal (bytesFrom buf 1 4)
    if version = 0 ∧ c.connType = .server then (c, .error .illpkt)
    else if version ≠ 0 ∧ first &&& 0x40 = 0 then (c, .error .illpkt)
    else
      match parseCidsAt buf (1 + 4) with
      | .error e => (c, .error e)
      | .ok (dcid, scid, pos) =>
        if c.foreignCids dcid scid then (c, .error .illpkt)
        else
          match c.versionCheck version with
          | (c, false) =>
            (if c.connType = .server then { c with versionNegotiation := true } else c,
              .error .version)
          | (c, true) => c.parseLongBodyAt first (version = 0) dcid scid buf pos

/-- `rqc_packet_parse_single`. -/
def parseSingleAt (c : NetConn) (buf : Bytes) : NetConn × Except Errno PacketHeader :=
  match buf with
  | [] => (c, .error .illpkt)
  | first :: _ =>
    if first &&& 0xC0 = 0x40 then
      if (c.connType = .client ∧ c.handshakeDone = false)
          ∨ (c.connType = .server ∧ c.handshakeSent = false) then (c, .error .ignorePkt)
      else c.parseShortHeaderAt first buf
    else if first &&& 0x80 = 0x80 then c.parseLongHeaderAt first buf
    else (c, .error .ignorePkt)

/-! ## Agreement -/

section Agreement

variable (c : NetConn) (first : UInt8) (buf : Bytes)

theorem parseNumber_eq (pktType : PktType) (dcid scid : Bytes) (pos : ℕ) :
    (c.parseNumber first pktType (buf.drop pos)).map some =
      (c.parseNumberAt first pktType dcid scid buf pos).map fun h => h.packet buf := by
  unfold parseNumber parseNumberAt
  cases hread : vintRead (buf.drop pos) with
  | none => rfl
  | some r =>
      obtain ⟨length, rest⟩ := r
      obtain ⟨k, -, hk, rfl⟩ := vintRead_rest hread
      generalize 2 ^ k = n at hk ⊢
      have hrest : ((buf.drop pos).drop n).length = (buf.drop pos).length - n := List.length_drop
      have hsize : (buf.drop pos).length - ((buf.drop pos).drop n).length = n := by omega
      have hleft : ((buf.drop pos).drop n).length < length ↔ (buf.drop pos).length < n + length := by
        omega
      simp only [hsize, hleft]
      split_ifs
      · rfl
      · rfl
      · simp only [Except.map, bytesFrom, List.drop_drop, PacketHeader.packet, Option.map_some]
        rw [List.drop_take, List.drop_take, List.drop_drop, Nat.add_sub_add_left]

theorem parseShortHeader_eq (bs : Bytes) :
    ((c.parseShortHeader first bs).1, (c.parseShortHeader first bs).2.map some) =
      ((c.parseShortHeaderAt first (first :: bs)).1,
        (c.parseShortHeaderAt first (first :: bs)).2.map fun h => h.packet (first :: bs)) := by
  unfold parseShortHeader parseShortHeaderAt
  have hlen : bs.length < c.userScid.length ↔ (first :: bs).length < 1 + c.userScid.length := by
    rw [List.length_cons]
    omega
  have hcid : bytesFrom (first :: bs) 1 c.userScid.length = bs.take c.userScid.length := rfl
  have hdrop : bs.drop c.userScid.length = (first :: bs).drop (1 + c.userScid.length) := by
    rw [Nat.add_comm, List.drop_succ_cons]
  simp only [hlen, hcid]
  split_ifs
  · rfl
  · rfl
  · have hnumber := parseNumber_eq c first (first :: bs) .shortHeader (bs.take c.userScid.length) []
      (1 + c.userScid.length)
    rw [hdrop]
    generalize c.parseNumber first .shortHeader _ = r at hnumber ⊢
    generalize c.parseNumberAt first .shortHeader _ _ _ _ = r' at hnumber ⊢
    cases r <;> cases r' <;> first | exact congrArg _ hnumber | cases hnumber
  · rfl

theorem parseCids_eq (pos : ℕ) (hpos : pos < buf.length) :
    parseCids (buf.drop pos) = (parseCidsAt buf pos).map fun r => (r.1, r.2.1, buf.drop r.2.2) := by
  have hhead : ∀ p < buf.length, buf.drop p = buf.getD p 0 :: buf.drop (p + 1) := by
    intro p hp
    rw [List.getD_eq_getElem?_getD, List.getElem?_eq_getElem hp, Option.getD_some,
      List.getElem_cons_drop]
  rw [hhead pos hpos, parseCids, parseCidsAt]
  simp only
  by_cases hdcid : (buf.drop (pos + 1)).length < (buf.getD pos 0).toNat + 1 ∨
      maxCidLen < (buf.getD pos 0).toNat
  · rw [if_pos hdcid, if_pos hdcid]
    rfl
  · rw [if_neg hdcid, if_neg hdcid]
    have hscid : pos + 1 + (buf.getD pos 0).toNat < buf.length := by
      have hleft := (not_or.1 hdcid).1
      rw [List.length_drop] at hleft
      omega
    rw [List.drop_drop, hhead _ hscid]
    simp only
    split_ifs
    · rfl
    · simp only [Except.map, bytesFrom, List.drop_drop]

theorem parseLongBody_eq (isVn : Bool) (dcid scid : Bytes) (pos : ℕ) :
    c.parseLongBody first isVn scid (buf.drop pos) =
      ((c.parseLongBodyAt first isVn dcid scid buf pos).1,
        (c.parseLongBodyAt first isVn dcid scid buf pos).2.map fun h => h.packet buf) := by
  unfold parseLongBody parseLongBodyAt
  split_ifs
  · generalize c.parseVersionNegotiation scid (buf.drop pos) = r
    obtain ⟨c₁, ret⟩ := r
    cases ret <;> rfl
  · have hnumber := parseNumber_eq c first buf .init dcid scid pos
    generalize c.parseNumber first .init _ = r at hnumber ⊢
    generalize c.parseNumberAt first .init _ _ _ _ = r' at hnumber ⊢
    cases r <;> cases r' <;> first | exact congrArg _ hnumber | cases hnumber
  · rfl

theorem parseLongHeader_eq (bs : Bytes) :
    c.parseLongHeader first bs =
      ((c.parseLongHeaderAt first (first :: bs)).1,
        (c.parseLongHeaderAt first (first :: bs)).2.map fun h => h.packet (first :: bs)) := by
  unfold parseLongHeader parseLongHeaderAt
  have hlen : bs.length < 4 + 2 ↔ (first :: bs).length < 1 + 4 + 2 := by
    rw [List.length_cons]
    omega
  have hversion : bytesFrom (first :: bs) 1 4 = bs.take 4 := rfl
  simp only [hlen, hversion]
  by_cases hshort : (first :: bs).length < 1 + 4 + 2
  · rw [if_pos hshort, if_pos hshort]
    rfl
  · rw [if_neg hshort, if_neg hshort]
    have hcids := parseCids_eq (first :: bs) (1 + 4) (by omega)
    have hdrop : (first :: bs).drop (1 + 4) = bs.drop 4 := rfl
    rw [hdrop] at hcids
    rw [hcids]
    split_ifs
    · rfl
    · rfl
    · cases parseCidsAt (first :: bs) (1 + 4) with
      | error e => rfl
      | ok r =>
          obtain ⟨dcid, scid, pos⟩ := r
          simp only [Except.map]
          split_ifs
          · rfl
          · cases hcheck : c.versionCheck (beVal (bs.take 4)) with
            | mk c₁ ok =>
                cases ok with
                | false => rfl
                | true => exact parseLongBody_eq c₁ first (first :: bs) _ dcid scid pos

end Agreement

/-- **The parsers with positions are the parsers of the model.** -/
theorem parseSingle_eq (c : NetConn) (buf : Bytes) :
    c.parseSingle buf =
      ((c.parseSingleAt buf).1, (c.parseSingleAt buf).2.map fun h => h.packet buf) := by
  cases buf with
  | nil => rfl
  | cons first bs =>
      unfold parseSingle parseSingleAt
      dsimp only
      split_ifs
      · rfl
      · have hshort := parseShortHeader_eq c first bs
        generalize c.parseShortHeader first bs = r at hshort ⊢
        obtain ⟨c₁, ret⟩ := r
        cases ret <;> exact hshort
      · exact parseLongHeader_eq c first bs
      · rfl

end NetConn

/-! ## Routing -/

/-- `rqc_packet_parse_cid`: the destination and the source id. A short header has no source id. -/
def parseCid (cidLen : ℕ) (buf : Bytes) : Except Errno (Bytes × Bytes) :=
  match buf with
  | [] => .error .param
  | first :: _ =>
    if first &&& 0x40 = 0 ∧ first &&& 0x80 = 0 then .error .illpkt
    else if first &&& 0xC0 = 0x40 then
      if buf.length < 1 + cidLen then .error .illpkt else .ok (bytesFrom buf 1 cidLen, [])
    else if buf.length < 1 + 4 + 2 then .error .illpkt
    else
      let pos := 1 + 4
      let dcidLen := (buf.getD pos 0).toNat
      if maxCidLen < dcidLen then .error .illpkt
      else
        let pos := pos + 1
        if (buf.drop pos).length < dcidLen + 1 then .error .illpkt
        else
          let dcid := bytesFrom buf pos dcidLen
          let pos := pos + dcidLen
          let scidLen := (buf.getD pos 0).toNat
          if maxCidLen < scidLen then .error .illpkt
          else
            let pos := pos + 1
            if (buf.drop pos).length < scidLen then .error .illpkt
            else .ok (dcid, bytesFrom buf pos scidLen)

section Routing

variable {c : NetConn} {first : UInt8} {buf : Bytes} {h : PacketHeader}

theorem parseNumberAt_cids {pktType : PktType} {dcid scid : Bytes} {pos : ℕ}
    (hparse : c.parseNumberAt first pktType dcid scid buf pos = .ok h) :
    h.dcid = dcid ∧ h.scid = scid := by
  unfold NetConn.parseNumberAt at hparse
  split at hparse
  · cases hparse
  · dsimp only at hparse
    split_ifs at hparse
    obtain rfl := Except.ok.inj hparse
    exact ⟨rfl, rfl⟩

theorem parseLongBodyAt_cids {isVn : Bool} {dcid scid : Bytes} {pos : ℕ}
    (hparse : (c.parseLongBodyAt first isVn dcid scid buf pos).2 = .ok h) :
    h.dcid = dcid ∧ h.scid = scid := by
  unfold NetConn.parseLongBodyAt at hparse
  split_ifs at hparse
  · split at hparse
    · cases hparse
    · obtain rfl := Except.ok.inj hparse
      exact ⟨rfl, rfl⟩
  · split at hparse
    · cases hparse
    · rename_i hnumber
      obtain rfl := Except.ok.inj hparse
      exact parseNumberAt_cids hnumber

theorem parseShortHeaderAt_cids (hparse : (c.parseShortHeaderAt first buf).2 = .ok h) :
    h.dcid = bytesFrom buf 1 c.userScid.length ∧ h.scid = [] := by
  unfold NetConn.parseShortHeaderAt at hparse
  dsimp only at hparse
  split_ifs at hparse
  split at hparse
  · cases hparse
  · rename_i hnumber
    obtain rfl := Except.ok.inj hparse
    exact parseNumberAt_cids hnumber

theorem parseLongHeaderAt_cids (hparse : (c.parseLongHeaderAt first buf).2 = .ok h) :
    ∃ pos, NetConn.parseCidsAt buf (1 + 4) = .ok (h.dcid, h.scid, pos) := by
  unfold NetConn.parseLongHeaderAt at hparse
  dsimp only at hparse
  split_ifs at hparse
  cases hcids : NetConn.parseCidsAt buf (1 + 4) with
  | error e => rw [hcids] at hparse; cases hparse
  | ok r =>
      obtain ⟨dcid, scid, pos⟩ := r
      rw [hcids] at hparse
      dsimp only at hparse
      split_ifs at hparse
      split at hparse
      · cases hparse
      · obtain ⟨rfl, rfl⟩ := parseLongBodyAt_cids hparse
        exact ⟨pos, rfl⟩

/-- **The parser for routing takes the ids of the full parser.** -/
theorem parseCid_agrees (hparse : (c.parseSingleAt buf).2 = .ok h) {dcid scid : Bytes}
    (hroute : parseCid c.userScid.length buf = .ok (dcid, scid)) : h.dcid = dcid ∧ h.scid = scid := by
  cases buf with
  | nil => cases hroute
  | cons first bs =>
      unfold NetConn.parseSingleAt at hparse
      unfold parseCid at hroute
      dsimp only at hparse hroute
      by_cases hform : first &&& 0xC0 = 0x40
      · simp only [if_pos hform] at hparse hroute
        split_ifs at hparse hroute
        obtain ⟨rfl, rfl⟩ := Prod.mk.inj (Except.ok.inj hroute)
        exact parseShortHeaderAt_cids hparse
      · simp only [if_neg hform] at hparse hroute
        split_ifs at hparse
        obtain ⟨pos, hcids⟩ := parseLongHeaderAt_cids hparse
        unfold NetConn.parseCidsAt at hcids
        dsimp only at hcids
        split_ifs at hcids hroute
        obtain ⟨hdcid, hcids⟩ := Prod.mk.inj (Except.ok.inj hcids)
        obtain ⟨hscid, -⟩ := Prod.mk.inj hcids
        obtain ⟨rfl, rfl⟩ := Prod.mk.inj (Except.ok.inj hroute)
        exact ⟨hdcid.symm, hscid.symm⟩

end Routing

end Rquic

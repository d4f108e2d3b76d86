import Rquic.Conn.Room
import Rquic.PacketNumber

set_option autoImplicit false

/-!
# Packet headers

`rqc_packet_parser.c` and `rqc_packet_process_single`: the headers of the packets in a UDP datagram.

* `NetConn`: the connection with its connection ids and what it knows of versions.
* `parseShortHeader`, `parseLongHeader`, `parseSingle`: the header parsers.
* `NetConn.processSingle`: header and frames of one packet.
* `HeaderKept`: what a header changes is the bookkeeping of versions.

The ids of a connection are inserted as `RQC_CID_USED`, so that the lookup of a destination id does not
change their state. The packet number is `0` above an empty record, as without a path.
-/

namespace Rquic

/-! ## Versions -/

/-- `rqc_proto_version_t`. -/
inductive ProtoVersion where
  | initVer | v1 | draft29 | negotiation
  deriving DecidableEq, Repr

namespace ProtoVersion

/-- The numeric value of the enumeration. -/
def toNat : ProtoVersion → ℕ
  | .initVer => 0
  | .v1 => 1
  | .draft29 => 2
  | .negotiation => 3

/-- `rqc_proto_version_value`. -/
def value : ProtoVersion → ℕ
  | .initVer => 0xFFFFFFFF
  | .v1 => 0x00000001
  | .draft29 => 0xFF00001D
  | .negotiation => 0x00000000

/-- The version with this value, in the loops from `RQC_IDRAFT_INIT_VER + 1` on. -/
def ofValue (v : ℕ) : Option ProtoVersion := [v1, draft29].find? fun p => p.value = v

end ProtoVersion

/-- Connection ids are compared byte by byte. -/
instance : LawfulBEq Bytes := inferInstance

/-- The connection with what the header parsers use. -/
structure NetConn extends Conn where
  version : ProtoVersion
  /-- `RQC_CONN_FLAG_VERSION_NEGOTIATION`. -/
  versionNegotiation : Bool := false
  /-- `discard_vn_flag`. -/
  discardVn : Bool := false
  /-- `support_version_list` of the engine. -/
  supportVersions : List ℕ
  userScid : Bytes
  originalDcid : Bytes
  scidSet : List Bytes
  dcidSet : List Bytes
  /-- `rqc_conn_is_dcid_done`. -/
  dcidDone : Bool := false

namespace NetConn

/-- `rqc_conn_version_check`. -/
def versionCheck (c : NetConn) (version : ℕ) : NetConn × Bool :=
  if c.connType = .server ∧ c.version = .initVer then
    if version ∉ c.supportVersions then (c, false)
    else
      match ProtoVersion.ofValue version with
      | none => (c, false)
      | some v => ({ c with version := v }, true)
  else (c, true)

/-! ## Headers -/

/-- `RQC_PACKET_HEADER_PKTNO_BYTES`. -/
def pktnoBytes (first : UInt8) : ℕ := (first &&& 0x03).toNat + 1

/-- The end of both headers: the length, the packet number and the payload. -/
def parseNumber (c : NetConn) (first : UInt8) (pktType : PktType) (bs : Bytes) : Except Errno PacketIn :=
  match vintRead bs with
  | none => .error .illpkt
  | some (length, bs) =>
    if bs.length < length then .error .illpkt
    else if length < pktnoBytes first then .error .illpkt
    else .ok
      { pktType := pktType
        pktNum := decodePacketNumber c.sndq.recvRecord (bs.take (pktnoBytes first))
        payload := (bs.take length).drop (pktnoBytes first) }

/-- A client that has seen a packet ignores Version Negotiation from then on. -/
def onHeaderParsed (c : NetConn) : NetConn :=
  if c.connType = .client then { c with discardVn := true } else c

/-- `rqc_packet_parse_short_header`, behind the first byte. -/
def parseShortHeader (c : NetConn) (first : UInt8) (bs : Bytes) : NetConn × Except Errno PacketIn :=
  let cidLen := c.userScid.length
  if bs.length < cidLen then (c, .error .illpkt)
  else if first &&& 0x40 = 0 then (c, .error .illpkt)
  -- `rqc_conn_check_dcid`
  else if bs.take cidLen ∉ c.scidSet then (c, .error .illpkt)
  else
    match c.parseNumber first .shortHeader (bs.drop cidLen) with
    | .error e => (c, .error e)
    | .ok pkt => (c.onHeaderParsed, .ok pkt)

/-- The versions of a Version Negotiation packet, without zeros and repeats; at most 256 are kept. -/
def versionList : ℕ → List ℕ → Bytes → List ℕ
  | fuel + 1, versions, b₀ :: b₁ :: b₂ :: b₃ :: bs =>
    let version := beVal [b₀, b₁, b₂, b₃]
    versionList fuel
      (if version ≠ 0 ∧ version ∉ versions ∧ versions.length < 256 then versions ++ [version]
        else versions) bs
  | _, versions, _ => versions

/-- `rqc_packet_parse_version_negotiation`. -/
def parseVersionNegotiation (c : NetConn) (scid bs : Bytes) : NetConn × Except Errno Unit :=
  if scid ≠ c.originalDcid then (c, .error .illpkt)
  else if bs.length < 4 then (c, .error .illpkt)
  else if c.connState ≠ .clientHandshake then (c, .error .state)
  else if c.connType ≠ .client then (c, .error .proto)
  else if c.discardVn then (c, .ok ())
  else
    let versions := versionList bs.length [] bs
    if c.version.toNat ∈ versions then (c, .ok ())
    else
      match versions.find? (· ∈ c.supportVersions) with
      | none => (c, .error .sys)
      | some chosen =>
        ({ c with version := (ProtoVersion.ofValue chosen).getD c.version, discardVn := true }, .ok ())

/-- The destination and the source id of a long header, and what follows them. -/
def parseCids (bs : Bytes) : Except Errno (Bytes × Bytes × Bytes) :=
  match bs with
  | [] => .error .illpkt
  | dcidLen :: bs =>
    if bs.length < dcidLen.toNat + 1 ∨ maxCidLen < dcidLen.toNat then .error .illpkt
    else
      match bs.drop dcidLen.toNat with
      | [] => .error .illpkt
      | scidLen :: rest =>
        if rest.length < scidLen.toNat ∨ maxCidLen < scidLen.toNat then .error .illpkt
        else .ok (bs.take dcidLen.toNat, rest.take scidLen.toNat, rest.drop scidLen.toNat)

/-- The packet is not for this connection. -/
def foreignCids (c : NetConn) (dcid scid : Bytes) : Bool :=
  c.dcidDone && ((decide (dcid ≠ c.originalDcid) && decide (dcid ∉ c.scidSet)) ||
    decide (scid ∉ c.dcidSet))

/-- The end of `rqc_packet_parse_long_header`: the types of packets. A Version Negotiation packet has no
packet number. -/
def parseLongBody (c : NetConn) (first : UInt8) (isVn : Bool) (scid bs : Bytes) :
    NetConn × Except Errno (Option PacketIn) :=
  if isVn then
    match c.parseVersionNegotiation scid bs with
    | (c, .error e) => (c, .error e)
    | (c, .ok _) => (c.onHeaderParsed, .ok none)
  else if first &&& 0x30 = 0 then
    match c.parseNumber first .init bs with
    | .error e => (c, .error e)
    | .ok pkt => (c.onHeaderParsed, .ok (some pkt))
  else (c, .error .illpkt)

/-- `rqc_packet_parse_long_header`, behind the first byte. -/
def parseLongHeader (c : NetConn) (first : UInt8) (bs : Bytes) :
    NetConn × Except Errno (Option PacketIn) :=
  if bs.length < 4 + 2 then (c, .error .illpkt)
  else
    let version := beVal (bs.take 4)
    if version = 0 ∧ c.connType = .server then (c, .error .illpkt)
    else if version ≠ 0 ∧ first &&& 0x40 = 0 then (c, .error .illpkt)
    else
      match parseCids (bs.drop 4) with
      | .error e => (c, .error e)
      | .ok (dcid, scid, bs) =>
        if c.foreignCids dcid scid then (c, .error .illpkt)
        else
          match c.versionCheck version with
          | (c, false) =>
            (if c.connType = .server then { c with versionNegotiation := true } else c,
              .error .version)
          | (c, true) => c.parseLongBody first (version = 0) scid bs

/-- `rqc_packet_parse_single`. -/
def parseSingle (c : NetConn) : Bytes → NetConn × Except Errno (Option PacketIn)
  | [] => (c, .error .illpkt)
  | first :: bs =>
    if first &&& 0xC0 = 0x40 then
      if (c.connType = .client ∧ c.handshakeDone = false)
          ∨ (c.connType = .server ∧ c.handshakeSent = false) then (c, .error .ignorePkt)
      else
        match c.parseShortHeader first bs with
        | (c, .error e) => (c, .error e)
        | (c, .ok pkt) => (c, .ok (some pkt))
    else if first &&& 0x80 = 0x80 then c.parseLongHeader first bs
    else (c, .error .ignorePkt)

/-- `rqc_packet_process_single`, on the rest of a UDP datagram. -/
def processSingle (env : FrameEnv) (c : NetConn) (buf : Bytes) : NetConn × Except Errno Unit :=
  match c.parseSingle buf with
  | (c, .error e) => (c, .error e)
  | (c, .ok none) => (c, .ok ())
  | (c, .ok (some pkt)) =>
    let (conn, _, ret) := processFrames env pkt pkt.payload.length c.toConn ∅ pkt.payload
    ({ c with toConn := conn }, ret)

/-! ## What a header changes -/

/-- A header leaves the connection alone. A server that has no version yet takes note of the one it
sees, and a client of the fact that it has seen a packet; Version Negotiation is for a client. -/
structure HeaderKept (c c' : NetConn) (ret : Except Errno (Option PacketIn)) : Prop where
  conn : c'.toConn = c.toConn
  supportVersions : c'.supportVersions = c.supportVersions
  userScid : c'.userScid = c.userScid
  originalDcid : c'.originalDcid = c.originalDcid
  scidSet : c'.scidSet = c.scidSet
  dcidSet : c'.dcidSet = c.dcidSet
  dcidDone : c'.dcidDone = c.dcidDone
  version : c.connType = .server ∧ c.version = .initVer ∨ ret = .ok none ∨ c'.version = c.version
  versionNegotiation :
    c.connType = .server ∧ c.version = .initVer ∨ c'.versionNegotiation = c.versionNegotiation
  discardVn : c.connType = .client ∨ c'.discardVn = c.discardVn

section HeaderKept

variable {c c' c'' : NetConn} {ret ret' : Except Errno (Option PacketIn)}

theorem HeaderKept.refl (c : NetConn) (ret : Except Errno (Option PacketIn)) : HeaderKept c c ret :=
  ⟨rfl, rfl, rfl, rfl, rfl, rfl, rfl, .inr (.inr rfl), .inr rfl, .inr rfl⟩

theorem onHeaderParsed_kept (h : HeaderKept c c' ret) : HeaderKept c c'.onHeaderParsed ret := by
  unfold onHeaderParsed
  split_ifs with hclient
  · rw [h.conn] at hclient
    exact { h with discardVn := .inl hclient }
  · exact h

theorem parseShortHeader_kept (c : NetConn) (first : UInt8) (bs : Bytes) :
    HeaderKept c (c.parseShortHeader first bs).1 ((c.parseShortHeader first bs).2.map some) := by
  unfold parseShortHeader
  dsimp only
  split_ifs
  · exact .refl c _
  · exact .refl c _
  · split
    · exact .refl c _
    · exact onHeaderParsed_kept (.refl c _)
  · exact .refl c _

theorem parseVersionNegotiation_kept (c : NetConn) (scid bs : Bytes) :
    HeaderKept c (c.parseVersionNegotiation scid bs).1
      ((c.parseVersionNegotiation scid bs).2.map fun _ => none) := by
  unfold parseVersionNegotiation
  dsimp only
  split_ifs with hscid hlen hstate htype
  · exact .refl c _
  · exact .refl c _
  · exact .refl c _
  · exact .refl c _
  · exact .refl c _
  · exact .refl c _
  · have hclient : c.connType = .client := not_not.1 htype
    split
    · exact .refl c _
    · exact ⟨rfl, rfl, rfl, rfl, rfl, rfl, rfl, .inr (.inl rfl), .inr rfl, .inl hclient⟩

theorem parseLongBody_kept (c : NetConn) (first : UInt8) (isVn : Bool) (scid bs : Bytes) :
    HeaderKept c (c.parseLongBody first isVn scid bs).1 (c.parseLongBody first isVn scid bs).2 := by
  unfold parseLongBody
  split_ifs
  · have hvn := parseVersionNegotiation_kept c scid bs
    generalize c.parseVersionNegotiation scid bs = r at hvn ⊢
    obtain ⟨c₁, ret⟩ := r
    cases ret with
    | error e => exact hvn
    | ok u => exact onHeaderParsed_kept hvn
  · split
    · exact .refl c _
    · exact onHeaderParsed_kept (.refl c _)
  · exact .refl c _

theorem versionCheck_cases (c : NetConn) (version : ℕ) :
    c.versionCheck version = (c, true) ∨
      (c.connType = .server ∧ c.version = .initVer) ∧
        (c.versionCheck version = (c, false) ∨
          ∃ v, c.versionCheck version = ({ c with version := v }, true)) := by
  unfold versionCheck
  by_cases hserver : c.connType = .server ∧ c.version = .initVer
  · rw [if_pos hserver]
    refine .inr ⟨hserver, ?_⟩
    by_cases hlist : version ∉ c.supportVersions
    · rw [if_pos hlist]
      exact .inl rfl
    · rw [if_neg hlist]
      cases ProtoVersion.ofValue version with
      | none => exact .inl rfl
      | some v => exact .inr ⟨v, rfl⟩
  · rw [if_neg hserver]
    exact .inl rfl

theorem parseLongHeader_kept (c : NetConn) (first : UInt8) (bs : Bytes) :
    HeaderKept c (c.parseLongHeader first bs).1 (c.parseLongHeader first bs).2 := by
  unfold parseLongHeader
  dsimp only
  split_ifs
  · exact .refl c _
  · exact .refl c _
  · exact .refl c _
  · cases parseCids (bs.drop 4) with
    | error e => exact .refl c _
    | ok r =>
        obtain ⟨dcid, scid, rest⟩ := r
        dsimp only
        split_ifs
        · exact .refl c _
        · rcases versionCheck_cases c (beVal (bs.take 4)) with h | ⟨hserver, h | ⟨v, h⟩⟩
          · rw [h]
            exact parseLongBody_kept c first _ scid rest
          · rw [h]
            dsimp only
            rw [if_pos hserver.1]
            exact { HeaderKept.refl c (.error .version) with versionNegotiation := .inl hserver }
          · rw [h]
            have hbody := parseLongBody_kept { c with version := v } first
              (decide (beVal (bs.take 4) = 0)) scid rest
            exact { hbody with version := .inl hserver, versionNegotiation := .inl hserver }

theorem parseSingle_kept (c : NetConn) (buf : Bytes) :
    HeaderKept c (c.parseSingle buf).1 (c.parseSingle buf).2 := by
  unfold parseSingle
  split
  · exact .refl c _
  · rename_i first bs
    split_ifs
    · exact .refl c _
    · have hshort := parseShortHeader_kept c first bs
      generalize c.parseShortHeader first bs = r at hshort ⊢
      obtain ⟨c₁, ret⟩ := r
      cases ret <;> exact hshort
    · exact parseLongHeader_kept c first bs
    · exact .refl c _

end HeaderKept

end NetConn

end Rquic

import Rquic.PacketContent
import Rquic.Conn.HeaderFields

set_option autoImplicit false

/-!
# Packet headers, back and forth

The header generators of `rqc_packet_parser.c`, on the buffer of a packet. The generators leave two bytes
for the length of the packet, which `rqc_update_packet_length` fills in when the packet is sent.

* `PacketBuf`: the buffer with the positions in it.
* `genShortPacketHeader`, `genLongPacketHeader`: the generators.
* `PacketBuf.fill`, `PacketBuf.finish`: the payload, the packet number and the length.
* `Built`: a packet that was generated, filled and finished.
* **`Built.bytes_eq`**: its bytes.
* **`Built.roundTrip`**: its header comes back from the parsers, whatever follows the packet.
-/

namespace Rquic

/-- `rqc_cid_t`. -/
structure Cid where
  bytes : Bytes
  le : bytes.length ≤ maxCidLen

/-- `RQC_PKTLEN_BYTES`. -/
def pktlenBytes : ℕ := 2

/-- The fields of `rqc_packet_out_t` that the header functions use. The buffer has its full capacity;
what was not written holds anything. -/
structure PacketBuf where
  pktNum : ℕ
  poBuf : Bytes
  poBufSize : ℕ
  poUsedSize : ℕ := 0
  poPpktno : ℕ := 0
  poPayload : ℕ := 0

namespace PacketBuf

/-- `rqc_get_po_remained_size`. -/
def remainedSize (po : PacketBuf) : ℕ :=
  if po.poBufSize ≤ po.poUsedSize then 0 else po.poBufSize - po.poUsedSize

/-- The end of both generators: the packet number behind the two bytes of the length. -/
def writeHeader (po : PacketBuf) (head : Bytes) (pktnoClass packetNumber : ℕ) : PacketBuf :=
  let dst := head.length + pktlenBytes
  { po with
    poBuf := overwrite (overwrite po.poBuf 0 head) dst (writePacketNumber packetNumber pktnoClass)
    poPpktno := dst
    poPayload := dst + pktnoClassBytes pktnoClass }

/-- What the callers of a generator do with the returned size. -/
def advance (po : PacketBuf) (need : ℕ) : PacketBuf := { po with poUsedSize := po.poUsedSize + need }

/-- The payload is written behind the header. -/
def fill (po : PacketBuf) (payload : Bytes) : PacketBuf :=
  { po with
    poBuf := overwrite po.poBuf po.poUsedSize payload
    poUsedSize := po.poUsedSize + payload.length }

/-- `rqc_write_packet_number` at the position of the packet number. -/
def writeNumber (po : PacketBuf) (packetNumber : ℕ) : PacketBuf :=
  { po with
    pktNum := packetNumber
    poBuf := overwrite po.poBuf po.poPpktno (writePacketNumber packetNumber Rquic.pktnoClass) }

/-- `rqc_update_packet_length`. -/
def updatePacketLength (po : PacketBuf) : PacketBuf :=
  { po with
    poBuf := overwrite po.poBuf (po.poPpktno - pktlenBytes)
      (vintWrite (po.poUsedSize - po.poPpktno) 1 pktlenBytes) }

/-- The bytes that are sent. -/
def bytes (po : PacketBuf) : Bytes := po.poBuf.take po.poUsedSize

end PacketBuf

/-! ## The generators -/

/-- What a short header has in front of the length. -/
def shortHead (dcid : Bytes) (pktnoClass : ℕ) : Bytes :=
  UInt8.ofNat (0x40 ||| 0x01 <<< 5 ||| pktnoClass) :: dcid

/-- What the header of an Initial packet has in front of the length. -/
def longHead (dcid scid : Bytes) (ver : ProtoVersion) (pktnoClass : ℕ) : Bytes :=
  UInt8.ofNat (0xC0 ||| pktnoClass) ::
    (beBytes 4 ver.value ++ UInt8.ofNat dcid.length :: (dcid ++ UInt8.ofNat scid.length :: scid))

/-- `rqc_gen_short_packet_header`: the size of the header, and the packet. -/
def genShortPacketHeader (po : PacketBuf) (dcid : Bytes) (pktnoClass packetNumber : ℕ) :
    Except Errno (ℕ × PacketBuf) :=
  let need := 1 + dcid.length + pktlenBytes + pktnoClassBytes pktnoClass
  if po.remainedSize < need then .error .nobuf
  else .ok (need, po.writeHeader (shortHead dcid pktnoClass) pktnoClass packetNumber)

/-- `rqc_gen_long_packet_header` of an Initial packet. -/
def genLongPacketHeader (po : PacketBuf) (dcid scid : Bytes) (ver : ProtoVersion) (pktnoClass : ℕ) :
    Except Errno (ℕ × PacketBuf) :=
  let need := 1 + 4 + 2 + dcid.length + scid.length + pktlenBytes + pktnoClassBytes pktnoClass
  -- `rqc_check_proto_version_valid`
  if ver = .initVer ∨ ver = .negotiation then .error .proto
  else if po.remainedSize < need then .error .nobuf
  else if scid.length < 3 then .error .illpkt
  else .ok (need, po.writeHeader (longHead dcid scid ver pktnoClass) pktnoClass po.pktNum)

/-! ## A packet -/

/-- The header that a packet is to have. -/
inductive HeaderSpec where
  | short (dcid : Cid)
  | long (dcid scid : Cid) (ver : ProtoVersion)

/-- The generator of the header, with four bytes for the packet number. -/
def HeaderSpec.gen (spec : HeaderSpec) (po : PacketBuf) : Except Errno (ℕ × PacketBuf) :=
  match spec with
  | short dcid => genShortPacketHeader po dcid.bytes pktnoClass po.pktNum
  | long dcid scid ver => genLongPacketHeader po dcid.bytes scid.bytes ver pktnoClass

/-- What is in front of the length. -/
def HeaderSpec.head : HeaderSpec → Bytes
  | short dcid => shortHead dcid.bytes pktnoClass
  | long dcid scid ver => longHead dcid.bytes scid.bytes ver pktnoClass

/-- A packet: a new buffer, its header, its payload, and the number under which it is sent. -/
structure Built where
  spec : HeaderSpec
  po : PacketBuf
  payload : Bytes
  packetNumber : ℕ
  need : ℕ
  po' : PacketBuf
  new : po.poUsedSize = 0
  gen : spec.gen po = .ok (need, po')
  fits : need + payload.length ≤ po.poBuf.length
  payload_le : payload.length ≤ 16379

namespace Built

/-- The packet as it is sent. -/
def packet (b : Built) : PacketBuf :=
  (((b.po'.advance b.need).fill b.payload).writeNumber b.packetNumber).updatePacketLength

def bytes (b : Built) : Bytes := b.packet.bytes

/-- The length of what follows the length field. -/
def length (b : Built) : ℕ := 4 + b.payload.length

theorem gen_ok (b : Built) : b.need = b.spec.head.length + 6 ∧
    b.po' = b.po.writeHeader b.spec.head pktnoClass b.po.pktNum := by
  obtain ⟨spec, po, payload, packetNumber, need, po', hnew, hgen, hfits, hle⟩ := b
  cases spec with
  | short dcid =>
      unfold HeaderSpec.gen genShortPacketHeader at hgen
      dsimp only at hgen ⊢
      split_ifs at hgen
      obtain ⟨rfl, rfl⟩ := Prod.mk.inj (Except.ok.inj hgen)
      refine ⟨?_, rfl⟩
      simp only [HeaderSpec.head, shortHead, List.length_cons, pktlenBytes, pktnoClassBytes, pktnoClass]
      omega
  | long dcid scid ver =>
      unfold HeaderSpec.gen genLongPacketHeader at hgen
      dsimp only at hgen ⊢
      split_ifs at hgen
      obtain ⟨rfl, rfl⟩ := Prod.mk.inj (Except.ok.inj hgen)
      refine ⟨?_, rfl⟩
      simp only [HeaderSpec.head, longHead, List.length_cons, List.length_append, length_beBytes,
        pktlenBytes, pktnoClassBytes, pktnoClass]
      omega

/-- A buffer that holds so many bytes at least, cut into pieces. -/
theorem exists_pieces {buf : Bytes} {a d : ℕ} (h : a + 6 + d ≤ buf.length) :
    ∃ x y z w rest, buf = x ++ (y ++ (z ++ (w ++ rest))) ∧ x.length = a ∧ y.length = 2 ∧
      z.length = 4 ∧ w.length = d := by
  refine ⟨buf.take a, (buf.drop a).take 2, (buf.drop (a + 2)).take 4, (buf.drop (a + 6)).take d,
    buf.drop (a + 6 + d), ?_, ?_, ?_, ?_, ?_⟩
  · have hd : buf.drop (a + 6 + d) = (buf.drop (a + 6)).drop d := List.drop_drop.symm
    have h4 : buf.drop (a + 6) = (buf.drop (a + 2)).drop 4 := by rw [List.drop_drop]
    have h2 : buf.drop (a + 2) = (buf.drop a).drop 2 := List.drop_drop.symm
    rw [hd, List.take_append_drop, h4, List.take_append_drop, h2, List.take_append_drop,
      List.take_append_drop]
  all_goals
    simp only [List.length_take, List.length_drop]
    omega

theorem overwrite_at {x y y' z : Bytes} {n : ℕ} (hn : n = x.length) (h : y'.length = y.length) :
    overwrite (x ++ (y ++ z)) n y' = x ++ (y' ++ z) := by
  rw [hn, overwrite_append z h]

/-- **The bytes of a packet.** -/
theorem bytes_eq (b : Built) : b.bytes = b.spec.head ++ (vintWrite b.length 1 pktlenBytes ++
    (writePacketNumber b.packetNumber pktnoClass ++ b.payload)) := by
  obtain ⟨hneed, hpo⟩ := b.gen_ok
  have hfits := b.fits
  rw [hneed] at hfits
  obtain ⟨x, y, z, w, rest, hbuf, hx, hy, hz, hw⟩ := exists_pieces hfits
  have hnum : ∀ n, (writePacketNumber n pktnoClass).length = 4 := length_writePacketNumber
  have hvint : ∀ n, (vintWrite n 1 pktlenBytes).length = 2 := fun n => length_vintWrite n 1 pktlenBytes
  generalize b.spec.head = head at *
  -- the header
  have hhead : b.po'.poBuf = (head ++ y) ++ (writePacketNumber b.po.pktNum pktnoClass ++ (w ++ rest)) := by
    rw [hpo, PacketBuf.writeHeader]
    dsimp only
    rw [hbuf, ← List.nil_append (x ++ _), overwrite_at (by simp) hx.symm, List.nil_append,
      ← List.append_assoc head y, overwrite_at (by simp [hy, pktlenBytes]) (by rw [hnum, hz])]
  have hfill : (((b.po'.advance b.need).fill b.payload).writeNumber b.packetNumber).poBuf =
      (head ++ y) ++ (writePacketNumber b.packetNumber pktnoClass ++ (b.payload ++ rest)) := by
    have hused : b.po'.poUsedSize = 0 := by
      rw [hpo]
      exact b.new
    have hppktno : b.po'.poPpktno = head.length + 2 := by
      rw [hpo]
      rfl
    unfold PacketBuf.writeNumber PacketBuf.fill PacketBuf.advance
    dsimp only
    rw [hhead, hused, hppktno, hneed, ← List.append_assoc (head ++ y) (writePacketNumber _ _),
      overwrite_at (by simp [hy, hnum]) hw.symm, List.append_assoc (head ++ y),
      overwrite_at (by simp [hy]) (by rw [hnum, hnum])]
  have hppktno : ((b.po'.advance b.need).fill b.payload).poPpktno = head.length + 2 := by
    rw [hpo]
    rfl
  have hused : ((b.po'.advance b.need).fill b.payload).poUsedSize = head.length + 6 + b.payload.length := by
    rw [hpo, ← hneed]
    have hnew : b.po.poUsedSize = 0 := b.new
    change b.po.poUsedSize + b.need + b.payload.length = b.need + b.payload.length
    rw [hnew, Nat.zero_add]
  unfold bytes packet PacketBuf.bytes PacketBuf.updatePacketLength
  generalize ((b.po'.advance b.need).fill b.payload) = po at *
  have hlen : (po.writeNumber b.packetNumber).poUsedSize - (po.writeNumber b.packetNumber).poPpktno =
      b.length := by
    change po.poUsedSize - po.poPpktno = 4 + b.payload.length
    omega
  have hpos : (po.writeNumber b.packetNumber).poPpktno - pktlenBytes = head.length := by
    change po.poPpktno - 2 = head.length
    omega
  dsimp only
  rw [hlen, hpos, hfill, List.append_assoc head, overwrite_at rfl (by rw [hvint, hy])]
  change List.take po.poUsedSize _ = _
  rw [hused]
  simp only [← List.append_assoc]
  rw [List.take_left' (by simp [hnum, hvint]; omega)]

end Built

/-! ## The parsers on a packet -/

section Pieces

variable (x y z : Bytes)

theorem drop_at {n : ℕ} (hn : n = x.length) : (x ++ y).drop n = y := by rw [hn, List.drop_left]

theorem bytesFrom_at {n k : ℕ} (hn : n = x.length) (hk : k = y.length) :
    bytesFrom (x ++ (y ++ z)) n k = y := by
  rw [bytesFrom, drop_at x _ hn, hk, List.take_left]

theorem getD_at (b : UInt8) {n : ℕ} (hn : n = x.length) : (x ++ b :: y).getD n 0 = b := by
  rw [hn]
  simp

end Pieces

section Parse

variable (c : NetConn) (first : UInt8) (pktType : PktType) (dcid scid head payload rest : Bytes)

/-- What follows the ids of a packet. -/
def numberCode (packetNumber : ℕ) (payload : Bytes) : Bytes :=
  vintWrite (4 + payload.length) 1 pktlenBytes ++ (writePacketNumber packetNumber pktnoClass ++ payload)

/-- **The length and the packet number are read back.** -/
theorem parseNumberAt_code (packetNumber : ℕ) (hfirst : NetConn.pktnoBytes first = 4)
    (hle : payload.length ≤ 16379) :
    c.parseNumberAt first pktType dcid scid (head ++ (numberCode packetNumber payload ++ rest)) head.length =
      .ok
        { pktType := some pktType
          dcid := dcid
          scid := scid
          truncatedPn := packetNumber % 2 ^ 32
          pktNum := decodePacketNumber c.sndq.recvRecord (writePacketNumber packetNumber pktnoClass)
          pktNumOffset := head.length + 2
          pos := head.length + 6
          last := head.length + 6 + payload.length } := by
  have hnum : (writePacketNumber packetNumber pktnoClass).length = 4 := length_writePacketNumber _
  have hfield : (vintWrite (4 + payload.length) 1 pktlenBytes).length = 2 := length_vintWrite _ _ _
  have hread : vintRead (numberCode packetNumber payload ++ rest) =
      some (4 + payload.length, writePacketNumber packetNumber pktnoClass ++ (payload ++ rest)) := by
    have husable : 4 + payload.length < 2 ^ vintUsableBits 1 := by
      change _ < 2 ^ 14
      omega
    rw [numberCode, List.append_assoc, List.append_assoc]
    exact vintRead_vintWrite (by decide) husable _
  have hcode : (numberCode packetNumber payload ++ rest).length =
      2 + (4 + (payload.length + rest.length)) := by
    rw [numberCode]
    simp only [List.length_append, hnum, hfield]
    omega
  have hleft : (writePacketNumber packetNumber pktnoClass ++ (payload ++ rest)).length =
      4 + (payload.length + rest.length) := by
    simp only [List.length_append, hnum]
  have hpktno : bytesFrom (head ++ (numberCode packetNumber payload ++ rest)) (head.length + 2) 4 =
      writePacketNumber packetNumber pktnoClass := by
    rw [numberCode, List.append_assoc, List.append_assoc, ← List.append_assoc head]
    exact bytesFrom_at _ _ _ (by rw [List.length_append, hfield]) hnum.symm
  unfold NetConn.parseNumberAt
  rw [drop_at head _ rfl, hread]
  dsimp only
  rw [hcode, hleft, Nat.add_sub_cancel, hfirst, if_neg (by omega), if_neg (by omega), hpktno,
    parsePacketNumber_write]
  simp only [Except.ok.injEq, PacketHeader.mk.injEq, true_and, Nat.add_assoc]
  omega

theorem parseCidsAt_code (dcid scid : Cid) :
    NetConn.parseCidsAt (head ++ UInt8.ofNat dcid.bytes.length ::
        (dcid.bytes ++ UInt8.ofNat scid.bytes.length :: (scid.bytes ++ rest))) head.length =
      .ok (dcid.bytes, scid.bytes, head.length + 2 + dcid.bytes.length + scid.bytes.length) := by
  have hbyte : ∀ id : Cid, (UInt8.ofNat id.bytes.length).toNat = id.bytes.length := by
    intro id
    have hle := id.le
    unfold maxCidLen at hle
    rw [UInt8.toNat_ofNat', Nat.mod_eq_of_lt (by omega)]
  have hdcid := dcid.le
  have hscid := scid.le
  generalize hd : UInt8.ofNat dcid.bytes.length = d
  generalize hs : UInt8.ofNat scid.bytes.length = s
  generalize hbuf : head ++ d :: (dcid.bytes ++ s :: (scid.bytes ++ rest)) = buf
  have hlen : buf.length = head.length + (dcid.bytes.length + (scid.bytes.length + rest.length + 1) + 1) := by
    rw [← hbuf]
    simp only [List.length_append, List.length_cons]
  have hdlen : buf.getD head.length 0 = d := by
    rw [← hbuf]
    exact getD_at _ _ _ rfl
  have hdbytes : bytesFrom buf (head.length + 1) dcid.bytes.length = dcid.bytes := by
    rw [← hbuf, List.append_cons]
    exact bytesFrom_at _ _ _ (by simp) rfl
  have hslen : buf.getD (head.length + 1 + dcid.bytes.length) 0 = s := by
    rw [← hbuf, List.append_cons, ← List.append_assoc]
    exact getD_at _ _ _ (by simp [Nat.add_assoc, Nat.add_comm 1])
  have hsbytes : bytesFrom buf (head.length + 1 + dcid.bytes.length + 1) scid.bytes.length = scid.bytes := by
    rw [← hbuf, List.append_cons, ← List.append_assoc, List.append_cons]
    exact bytesFrom_at _ _ _ (by simp [Nat.add_assoc, Nat.add_comm 1]) rfl
  unfold NetConn.parseCidsAt
  dsimp only
  rw [hdlen, ← hd, hbyte, hslen, ← hs, hbyte, hdbytes, hsbytes, List.length_drop, List.length_drop, hlen,
    if_neg (by omega), if_neg (by omega)]
  simp only [Except.ok.injEq, Prod.mk.injEq, true_and]
  omega

end Parse

/-! ## The round trip -/

/-- The ids are known to the connection, and so is the version to a server that has none yet. A short header
does not say how long its id is. -/
def HeaderSpec.Known (c : NetConn) : HeaderSpec → Prop
  | short dcid => dcid.bytes ∈ c.scidSet ∧ dcid.bytes.length = c.userScid.length
  | long dcid scid ver =>
    (c.dcidDone = true →
      (dcid.bytes = c.originalDcid ∨ dcid.bytes ∈ c.scidSet) ∧ scid.bytes ∈ c.dcidSet) ∧
    (c.connType = .server → c.version = .initVer → ver.value ∈ c.supportVersions)

/-- The parser of the header, on the rest of a datagram. -/
def HeaderSpec.parse (c : NetConn) (spec : HeaderSpec) (buf : Bytes) : Except Errno PacketHeader :=
  match spec with
  | short _ => (c.parseShortHeaderAt (buf.getD 0 0) buf).2
  | long .. => (c.parseLongHeaderAt (buf.getD 0 0) buf).2

/-- The ids of a header. A short one has no source id. -/
def HeaderSpec.dcid : HeaderSpec → Bytes
  | short dcid => dcid.bytes
  | long dcid .. => dcid.bytes

def HeaderSpec.scid : HeaderSpec → Bytes
  | short _ => []
  | long _ scid _ => scid.bytes

/-- What the parser is to find. -/
def Built.header (c : NetConn) (b : Built) : PacketHeader :=
  { pktType := some (match b.spec with | .short _ => .shortHeader | .long .. => .init)
    dcid := b.spec.dcid
    scid := b.spec.scid
    truncatedPn := b.packetNumber % 2 ^ 32
    pktNum := decodePacketNumber c.sndq.recvRecord (writePacketNumber b.packetNumber pktnoClass)
    pktNumOffset := b.spec.head.length + 2
    pos := b.spec.head.length + 6
    last := b.spec.head.length + 6 + b.payload.length }

theorem Built.bytes_code (b : Built) :
    b.bytes = b.spec.head ++ numberCode b.packetNumber b.payload := b.bytes_eq

theorem Built.length_bytes (b : Built) :
    b.bytes.length = b.spec.head.length + 6 + b.payload.length := by
  rw [b.bytes_code, numberCode]
  simp only [List.length_append, length_vintWrite, length_writePacketNumber, pktlenBytes]
  omega

theorem Built.payload_bounds (c : NetConn) (b : Built) (rest : Bytes) :
    (b.header c).last = b.bytes.length ∧
      ((b.bytes ++ rest).take (b.header c).last).drop (b.header c).pos = b.payload := by
  have hlast : (b.header c).last = b.bytes.length := b.length_bytes.symm
  refine ⟨hlast, ?_⟩
  rw [hlast, List.take_left, b.bytes_code, numberCode, ← List.append_assoc, ← List.append_assoc]
  apply drop_at
  simp [header, pktlenBytes, length_writePacketNumber]

theorem Built.long_valid {b : Built} {dcid scid : Cid} {ver : ProtoVersion}
    (h : b.spec = .long dcid scid ver) : ver ≠ .initVer ∧ ver ≠ .negotiation := by
  have hgen := b.gen
  rw [h] at hgen
  unfold HeaderSpec.gen genLongPacketHeader at hgen
  dsimp only at hgen
  split_ifs at hgen with hver
  exact not_or.1 hver

/-- **A short header is read back**, whatever follows the packet. -/
theorem Built.parse_short {c : NetConn} {b : Built} {dcid : Cid} (hspec : b.spec = .short dcid)
    (hlen : dcid.bytes.length = c.userScid.length) (rest : Bytes) :
    c.parseShortHeaderAt 0x63 (b.bytes ++ rest) =
      if dcid.bytes ∉ c.scidSet then (c, .error .illpkt) else (c.onHeaderParsed, .ok (b.header c)) := by
  have hhead : b.spec.head = 0x63 :: dcid.bytes := by
    rw [hspec]
    rfl
  have hbuf : b.bytes ++ rest = (0x63 :: dcid.bytes) ++ (numberCode b.packetNumber b.payload ++ rest) := by
    rw [b.bytes_code, hhead, List.append_assoc]
  have hnumber := parseNumberAt_code c 0x63 .shortHeader dcid.bytes [] (0x63 :: dcid.bytes) b.payload rest
    b.packetNumber (by decide) b.payload_le
  have hcid : bytesFrom (b.bytes ++ rest) 1 dcid.bytes.length = dcid.bytes := by
    rw [hbuf]
    exact bytesFrom_at [0x63] dcid.bytes _ rfl rfl
  have hroom : ¬ (b.bytes ++ rest).length < 1 + dcid.bytes.length := by
    rw [hbuf, List.length_append, List.length_cons]
    omega
  have hheader : c.parseNumberAt 0x63 .shortHeader dcid.bytes [] (b.bytes ++ rest)
      (1 + dcid.bytes.length) = .ok (b.header c) := by
    rw [hbuf, Nat.add_comm 1, ← List.length_cons, hnumber]
    unfold header HeaderSpec.dcid HeaderSpec.scid
    rw [hhead, hspec]
  unfold NetConn.parseShortHeaderAt
  dsimp only
  rw [← hlen, if_neg hroom, if_neg (by decide), hcid, hheader]

/-- A version that may be written is known to its value. -/
theorem ProtoVersion.valid {ver : ProtoVersion} (h : ver ≠ .initVer ∧ ver ≠ .negotiation) :
    ofValue ver.value = some ver ∧ ver.value ≠ 0 ∧ ver.value < 256 ^ 4 := by
  cases ver with
  | initVer => exact absurd rfl h.1
  | negotiation => exact absurd rfl h.2
  | v1 => decide
  | draft29 => decide

theorem versionCheck_known {c : NetConn} {ver : ProtoVersion} (hvalid : ver ≠ .initVer ∧ ver ≠ .negotiation)
    (hversion : c.connType = .server → c.version = .initVer → ver.value ∈ c.supportVersions) :
    ∃ c', c.versionCheck ver.value = (c', true) := by
  unfold NetConn.versionCheck
  by_cases hserver : c.connType = .server ∧ c.version = .initVer
  · rw [if_pos hserver, if_neg (not_not.2 (hversion hserver.1 hserver.2)), (ProtoVersion.valid hvalid).1]
    exact ⟨_, rfl⟩
  · rw [if_neg hserver]
    exact ⟨c, rfl⟩

theorem versionCheck_sndq (c : NetConn) (version : ℕ) : (c.versionCheck version).1.sndq = c.sndq := by
  rcases NetConn.versionCheck_cases c version with h | ⟨-, h | ⟨v, h⟩⟩ <;> rw [h]

theorem foreignCids_known {c : NetConn} {dcid scid : Bytes} (hids : c.dcidDone = true →
      (dcid = c.originalDcid ∨ dcid ∈ c.scidSet) ∧ scid ∈ c.dcidSet) :
    c.foreignCids dcid scid = false := by
  unfold NetConn.foreignCids
  cases hdone : c.dcidDone with
  | false => rfl
  | true =>
      obtain ⟨hdcid, hscid⟩ := hids hdone
      rcases hdcid with h | h <;> simp [h, hscid]

/-- **A long header is read back**, whatever follows the packet. -/
theorem Built.parse_long {c : NetConn} {b : Built} {dcid scid : Cid} {ver : ProtoVersion}
    (hspec : b.spec = .long dcid scid ver) (rest : Bytes) :
    c.parseLongHeaderAt 0xC3 (b.bytes ++ rest) =
      if c.foreignCids dcid.bytes scid.bytes then (c, .error .illpkt)
      else
        match c.versionCheck ver.value with
        | (c, false) =>
          (if c.connType = .server then { c with versionNegotiation := true } else c, .error .version)
        | (c', true) => (c'.onHeaderParsed, .ok (b.header c)) := by
  have hvalid := b.long_valid hspec
  obtain ⟨-, hzero, hlt⟩ := ProtoVersion.valid hvalid
  have hhead : b.spec.head = longHead dcid.bytes scid.bytes ver pktnoClass := by
    rw [hspec]
    rfl
  have hbuf : b.bytes ++ rest = 0xC3 :: (beBytes 4 ver.value ++ UInt8.ofNat dcid.bytes.length ::
      (dcid.bytes ++ UInt8.ofNat scid.bytes.length :: (scid.bytes ++
        (numberCode b.packetNumber b.payload ++ rest)))) := by
    rw [b.bytes_code, hhead]
    simp [longHead, pktnoClass]
  have hlonghead : (longHead dcid.bytes scid.bytes ver pktnoClass).length =
      7 + dcid.bytes.length + scid.bytes.length := by
    simp only [longHead, List.length_cons, List.length_append, length_beBytes]
    omega
  have hcids : NetConn.parseCidsAt (b.bytes ++ rest) (1 + 4) =
      .ok (dcid.bytes, scid.bytes, 7 + dcid.bytes.length + scid.bytes.length) := by
    rw [hbuf]
    exact parseCidsAt_code (0xC3 :: beBytes 4 ver.value) _ dcid scid
  have hnumber : ∀ c' : NetConn, c'.sndq = c.sndq →
      c'.parseNumberAt 0xC3 .init dcid.bytes scid.bytes (b.bytes ++ rest)
        (7 + dcid.bytes.length + scid.bytes.length) = .ok (b.header c) := by
    intro c' hsndq
    rw [b.bytes_code, hhead, List.append_assoc, ← hlonghead,
      parseNumberAt_code _ _ _ _ _ _ _ _ _ (by decide) b.payload_le, hsndq]
    unfold header HeaderSpec.dcid HeaderSpec.scid
    rw [hhead, hspec]
  have hval : beVal (bytesFrom (b.bytes ++ rest) 1 4) = ver.value := by
    have hfield : bytesFrom (b.bytes ++ rest) 1 4 = beBytes 4 ver.value := by
      rw [hbuf]
      exact bytesFrom_at [0xC3] _ _ rfl (length_beBytes _ _).symm
    rw [hfield, beVal_beBytes, Nat.mod_eq_of_lt hlt]
  have hroom : ¬ (b.bytes ++ rest).length < 1 + 4 + 2 := by
    rw [List.length_append, b.length_bytes, hhead, hlonghead]
    omega
  unfold NetConn.parseLongHeaderAt
  dsimp only
  rw [if_neg hroom, hval, if_neg (fun h => hzero h.1), if_neg (fun h => absurd h.2 (by decide)), hcids]
  dsimp only
  have hsndq := versionCheck_sndq c ver.value
  generalize c.versionCheck ver.value = r at hsndq
  obtain ⟨c', ok⟩ := r
  cases ok with
  | false => rfl
  | true =>
      unfold NetConn.parseLongBodyAt
      dsimp only
      rw [hnumber c' hsndq, decide_eq_false hzero]
      rfl

/-- The first byte of a packet. -/
def HeaderSpec.first : HeaderSpec → UInt8
  | short _ => 0x63
  | long .. => 0xC3

theorem Built.bytes_first (b : Built) : ∃ tail, b.bytes = b.spec.first :: tail := by
  rw [b.bytes_code]
  cases b.spec with
  | short dcid => exact ⟨_, rfl⟩
  | long dcid scid ver => exact ⟨_, rfl⟩

/-- **The header of a packet comes back** from the parser of its kind, whatever follows the packet. -/
theorem Built.parse_known {c : NetConn} {b : Built} (hknown : b.spec.Known c) (rest : Bytes) :
    b.spec.parse c (b.bytes ++ rest) = .ok (b.header c) := by
  obtain ⟨tail, htail⟩ := b.bytes_first
  have hfirst : (b.bytes ++ rest).getD 0 0 = b.spec.first := by
    rw [htail]
    rfl
  unfold HeaderSpec.parse
  rw [hfirst]
  cases hspec : b.spec with
  | short dcid =>
      rw [hspec] at hknown
      obtain ⟨hset, hlen⟩ := hknown
      dsimp only [HeaderSpec.first]
      rw [b.parse_short hspec hlen, if_neg (not_not.2 hset)]
  | long dcid scid ver =>
      rw [hspec] at hknown
      obtain ⟨hids, hversion⟩ := hknown
      obtain ⟨c', hcheck⟩ := versionCheck_known (b.long_valid hspec) hversion
      dsimp only [HeaderSpec.first]
      rw [b.parse_long hspec, foreignCids_known hids, hcheck]
      rfl

end Rquic

import Rquic.Conn.Emit

set_option autoImplicit false

/-!
# Room for STREAM frames

The size of a packet is a setting that nothing checks, but a connection is established only when its own
HANDSHAKE frame fitted a packet, and that frame is larger than any STREAM frame header.

* `shortPacketHeaderSize`, `longPacketHeaderSize`, `HeaderOk`: the headers that the packet writer makes.
* `encodeTransportParams_length`: the parameters take at least 30 bytes.
* `RoomInv`: once the own handshake was written, packets are large enough.
* **`RoomInv.hasRoom`**: an established connection has room for STREAM frames.
-/

namespace Rquic

/-! ## Headers -/

/-- `RQC_MAX_CID_LEN`. -/
def maxCidLen : ℕ := 20

/-- `rqc_short_packet_header_size`, with the packet-number class that the writer uses. -/
def shortPacketHeaderSize (dcidLen : ℕ) : ℕ := 1 + dcidLen + 2 + 4

/-- `rqc_long_packet_header_size`. -/
def longPacketHeaderSize (dcidLen scidLen : ℕ) : ℕ := 1 + 4 + 2 + dcidLen + scidLen + 2 + 4

/-- The headers that `rqc_write_packet_header` writes have the sizes of the source; a source connection
id below three bytes is refused. -/
def HeaderOk (header : PktType → Bytes) : Prop :=
  ∃ dcidLen scidLen, dcidLen ≤ maxCidLen ∧ 3 ≤ scidLen ∧
    (header .shortHeader).length = shortPacketHeaderSize dcidLen ∧
    (header .init).length = longPacketHeaderSize dcidLen scidLen

theorem HeaderOk.short_le {header : PktType → Bytes} (h : HeaderOk header) :
    (header .shortHeader).length ≤ 27 := by
  obtain ⟨dcidLen, scidLen, hd, -, hshort, -⟩ := h
  rw [hshort]
  unfold shortPacketHeaderSize
  unfold maxCidLen at hd
  omega

theorem HeaderOk.le_init {header : PktType → Bytes} (h : HeaderOk header) :
    16 ≤ (header .init).length := by
  obtain ⟨dcidLen, scidLen, -, hs, -, hinit⟩ := h
  rw [hinit]
  unfold longPacketHeaderSize
  omega

/-! ## The size of the parameters -/

theorem vintBytes_length_of_le {v : ℕ} (h : 64 ≤ v) : 2 ≤ (vintBytes v).length := by
  rw [vintBytes, length_vintWrite, vintLen, vintGet2bit]
  split_ifs <;> omega

theorem vintBytes_length_of_le' {v : ℕ} (h : 16384 ≤ v) : 4 ≤ (vintBytes v).length := by
  rw [vintBytes, length_vintWrite, vintLen, vintGet2bit]
  split_ifs <;> omega

theorem putVarintParam_length (id v : ℕ) : 2 + (vintBytes v).length ≤ (putVarintParam id v).length := by
  unfold putVarintParam
  have hid := length_vintBytes_pos id
  have hlen := length_vintBytes_pos (vintBytes v).length
  simp only [List.length_append]
  omega

/-- The local settings of a connection leave no parameter of flow control out. -/
theorem encodeTransportParams_length (settings : ConnSettings) {outCap : ℕ} {tp : Bytes}
    (h : encodeTransportParams (initTransSettings settings.corrected).params outCap = .ok tp) :
    30 ≤ tp.length := by
  unfold encodeTransportParams at h
  simp only at h
  split_ifs at h
  obtain rfl := Except.ok.inj h
  set p := (initTransSettings settings.corrected).params with hp
  have hwindow : 1436 ≤ settings.corrected.initRecvWindow := by
    unfold ConnSettings.corrected
    dsimp only
    split_ifs
    · exact le_max_right _ _
    · decide
  have hlocal : 1436 ≤ p.initialMaxStreamDataBidiLocal := by
    show 1436 ≤ if _ then settings.corrected.initRecvWindow else maxRecvWindow
    split_ifs
    · exact hwindow
    · decide
  have hdata : 16384 ≤ p.initialMaxData := by
    show 16384 ≤ if settings.corrected.recvRateBytesPerSec ≠ 0 then
      min maxRecvWindow (max minRecvWindow
        (u64Mul settings.corrected.recvRateBytesPerSec fcInitRtt / 1000000))
      else 1024 * p.initialMaxStreamDataBidiLocal + 1024 * maxRecvWindow
    split_ifs
    · refine le_min (by decide) (le_trans ?_ (le_max_left _ _))
      decide
    · exact le_trans (by decide) (Nat.le_add_left (1024 * maxRecvWindow) _)
  have hremote : p.initialMaxStreamDataBidiRemote = maxRecvWindow := rfl
  have huni : p.initialMaxStreamDataUni = maxRecvWindow := rfl
  have hsbidi : p.initialMaxStreamsBidi = 1024 := rfl
  have hsuni : p.initialMaxStreamsUni = 1024 := rfl
  have h₂ := putVarintParam_length 0x02 p.initialMaxData
  have h₃ := putVarintParam_length 0x03 p.initialMaxStreamDataBidiLocal
  have h₄ := putVarintParam_length 0x04 p.initialMaxStreamDataBidiRemote
  have h₅ := putVarintParam_length 0x05 p.initialMaxStreamDataUni
  have h₆ := putVarintParam_length 0x06 p.initialMaxStreamsBidi
  have h₇ := putVarintParam_length 0x07 p.initialMaxStreamsUni
  have hv₂ := vintBytes_length_of_le' hdata
  have hv₃ := vintBytes_length_of_le (le_trans (by decide) hlocal)
  have hv₄ := vintBytes_length_of_le' (show 16384 ≤ maxRecvWindow by decide)
  have hv₆ := vintBytes_length_of_le (show 64 ≤ 1024 by decide)
  rw [hremote] at h₄
  rw [huni] at h₅
  rw [hsbidi] at h₆
  rw [hsuni] at h₇
  unfold TransportParams.entries
  rw [if_pos (show p.initialMaxData ≠ 0 by omega),
    if_pos (show p.initialMaxStreamDataBidiLocal ≠ 0 by omega),
    if_pos (show p.initialMaxStreamDataBidiRemote ≠ 0 by rw [hremote]; decide),
    if_pos (show p.initialMaxStreamDataUni ≠ 0 by rw [huni]; decide),
    if_pos (show p.initialMaxStreamsBidi ≠ 0 by rw [hsbidi]; decide),
    if_pos (show p.initialMaxStreamsUni ≠ 0 by rw [hsuni]; decide)]
  simp only [List.map_append, List.map_cons, List.map_nil, List.flatten_append, List.flatten_cons,
    List.flatten_nil, List.append_nil, List.length_append, hremote, huni, hsbidi, hsuni]
  omega

/-! ## The invariant -/

/-- The size of a packet that the own HANDSHAKE frame fits. -/
def handshakePacketSize : ℕ := 50

/-- Once the own handshake was written, packets are large enough. -/
structure RoomInv (settings : ConnSettings) (c : Conn) : Prop where
  settings : c.localSettings = initTransSettings settings.corrected
  header : HeaderOk c.header
  room : c.connState = .clientHandshake ∨ c.handshakeRecvd = true →
    handshakePacketSize ≤ c.pktOutSize.1
  recvd : c.connState.accepted = true → c.handshakeRecvd = true

section Room

variable {allow : ConnAct → Prop} {settings : ConnSettings} {c c' : Conn}

/-- **There is room for STREAM frames** once the handshake is received. -/
theorem RoomInv.hasRoom (h : RoomInv settings c) (hrecvd : c.handshakeRecvd = true) : c.HasRoom := by
  have hroom := h.room (.inr hrecvd)
  have hshort := h.header.short_le
  unfold Conn.HasRoom streamFrameRoom
  unfold handshakePacketSize at hroom
  omega

theorem RoomInv.of_estab (h : RoomInv settings c) (hestab : c.isEstablished = true) :
    c.handshakeRecvd = true := by
  refine h.recvd ?_
  rw [of_decide_eq_true hestab]
  rfl

theorem RoomInv.fits (h : RoomInv settings c) (hfits : c.HandshakeFits) :
    handshakePacketSize ≤ c.pktOutSize.1 := by
  obtain ⟨tp, htp, hle⟩ := hfits
  rw [h.settings] at htp
  have hlen := encodeTransportParams_length settings htp
  have hinit := h.header.le_init
  unfold handshakePacketSize
  omega

theorem RoomInv.same (h : RoomInv settings c) (hsettings : c'.localSettings = c.localSettings)
    (hheader : c'.header = c.header) (hsize : c'.pktOutSize = c.pktOutSize)
    (hstate : c'.connState = c.connState) (hrecvd : c'.handshakeRecvd = c.handshakeRecvd) :
    RoomInv settings c' := by
  refine ⟨hsettings.trans h.settings, ?_, ?_, ?_⟩
  · rw [hheader]
    exact h.header
  · rw [hstate, hrecvd, hsize]
    exact h.room
  · rw [hstate, hrecvd]
    exact h.recvd

theorem RoomInv.write (h : RoomInv settings c) (f : ControlFrame) : RoomInv settings (c.write f).1 := by
  rw [Conn.write_frame]
  exact h.same rfl rfl rfl rfl rfl

theorem RoomInv.openPassive (h : RoomInv settings c) {id : StreamId} (hopen : openPassive c id = some c') :
    RoomInv settings c' := by
  unfold Rquic.openPassive at hopen
  split_ifs at hopen <;> obtain rfl := Option.some.inj hopen
  · rw [insertPassiveStreamHash_frame]
    exact h.same rfl rfl rfl rfl rfl
  · rw [insertPassiveStreamHash_frame]
    exact h.same rfl rfl rfl rfl rfl
  · exact h

theorem RoomInv.insertStream (h : RoomInv settings c) (id : StreamId) (t : StreamType)
    (stream : Option StreamSettings) (isLocal accept : Bool) :
    RoomInv settings (insertStream c id t stream isLocal accept).1 := by
  unfold Rquic.insertStream
  split <;> exact h.same rfl rfl rfl rfl rfl

theorem RoomInv.params (h : RoomInv settings c) (p : TransportParams) :
    RoomInv settings (updateFlowCtlSettings (setRemoteTransportParams c p)) := by
  refine ⟨h.settings, h.header, fun hnext => ?_, h.recvd⟩
  have hroom := h.room hnext
  show handshakePacketSize ≤ Subtype.val (if _ then _ else _)
  split_ifs with hudp
  · have hle := hudp.2
    unfold handshakePacketSize at hroom ⊢
    refine le_min hroom ?_
    unfold ackSpace
    omega
  · exact hroom

theorem RoomInv.step (hinv : RoomInv settings c) (h : ConnStep allow c c')
    (hheader : ∀ header, allow (.header header) → HeaderOk header) : RoomInv settings c' := by
  cases h with
  | write f hf => exact hinv.write f
  | writeReset s errCode hs hstate hallow => exact hinv.write _
  | status connState connErr handshakeSent handshakeRecvd handshakeDone dataBlocked connCloseCount
      header alpn selfProtoExt peerProtoExt herr hsent hrecvd hdone happlied hstate hinit hclosing hfits
      hheaders =>
      refine ⟨hinv.settings, ?_, fun hnext => ?_, fun haccepted => ?_⟩
      · rcases hheaders with rfl | hallow
        · exact hinv.header
        · exact hheader header hallow
      · rcases hfits hnext with hold | hnew
        · exact hinv.room hold
        · exact hinv.fits hnew
      · rcases hstate haccepted with hold | hnew
        · exact hrecvd (hinv.recvd hold)
        · exact hnew
  | shut => exact ⟨hinv.settings, hinv.header, fun h => hinv.room (.inr (h.resolve_left nofun)), nofun⟩
  | params p hexpects hbelow hcheck hallow => exact hinv.params p
  | openPassive c' id hpeer hopen => exact hinv.openPassive hopen
  | openPeer id accept hpeer hnone hpassive hallow => exact hinv.insertStream id _ none false accept
  | openLocal t stream accept ht hlimit hallow =>
      split_ifs
      · refine RoomInv.insertStream ?_ _ t stream true accept
        exact hinv.same rfl rfl rfl rfl rfl
      · refine RoomInv.insertStream ?_ _ t stream true accept
        exact hinv.same rfl rfl rfl rfl rfl
  | _ => exact hinv.same rfl rfl rfl rfl rfl

theorem connCreate_roomInv (connType : ConnType) (settings : ConnSettings) {header : PktType → Bytes}
    (hheader : HeaderOk header) : RoomInv settings (connCreate connType settings header) := by
  refine ⟨rfl, hheader, fun h => ?_, fun h => ?_⟩
  · rcases h with h | h
    · cases connType <;> cases h
    · cases h
  · cases connType <;> cases h

/-- The event brings no header that the writer does not make. -/
def ConnEvent.HeadersOk : ConnEvent → Prop
  | .header h => HeaderOk h
  | _ => True

theorem Conn.allows_header {ev : ConnEvent} {header : PktType → Bytes} (hok : ev.HeadersOk)
    (h : c.allows ev (.header header)) : HeaderOk header := by
  cases ev with
  | header header' =>
      have heq : ConnAct.header header = ConnAct.header header' := h
      rw [ConnAct.header.inj heq]
      exact hok
  | frame env pkt pos frameLen f =>
      rcases f with ⟨f, hfits⟩
      obtain ⟨-, hf⟩ := h
      cases f <;> simp [Frame.allows] at hf
  | close id =>
      rcases h with h | ⟨h, -⟩
      · cases h
      · cases h
  | create dir settings accept => cases h
  | send => cases h.1
  | sendv => cases h.1
  | drain => cases h.1
  | _ => exact h.elim

end Room

end Rquic

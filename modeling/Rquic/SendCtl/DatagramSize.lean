import Rquic.SendCtl.Run
import Rquic.ParamCodec
import Rquic.Conn.Room
import Rquic.Conn.HeaderGen

set_option autoImplicit false

/-!
# Sizes of datagrams

The limit that `rqc_datagram_get_mss` computes, the packet that `rqc_datagram_submit` writes, and what the
receiver makes of it.

* `DatagramEnv.room`, `DatagramEnv.Fits`: the room of one packet, and the messages whose frame fits.
* `checkedSub`: an unsigned subtraction that must not wrap; `DatagramEnv.mssChecked`: the limit with it.
* `mss_isGreatest`, `mss_of_none`, `mssChecked_eq`: the limit is exact, and no subtraction wraps.
* `tooLarge_iff`: a message is refused as too large exactly when it does not fit.
* `datagramSubmit_ok`: the packet of an accepted message.
* **`datagram_sizing`**: limit, packet and receiver together.
-/

namespace Rquic

/-! ## Subtractions -/

/-- An unsigned subtraction, nothing where it would wrap. -/
def checkedSub (a b : ℕ) : Option ℕ := if a < b then none else some (a - b)

theorem checkedSub_of_le {a b : ℕ} (h : b ≤ a) : checkedSub a b = some (a - b) := if_neg (by omega)

/-- The loop of `rqc_datagram_get_mss`, nothing where `len` would be decremented below `0`. -/
def fitDatagramChecked (frameLimit : ℕ) : ℕ → Option ℕ
  | 0 => if frameLimit < 0 + 1 + (vintBytes 0).length then none else some 0
  | len + 1 =>
    if frameLimit < len + 1 + 1 + (vintBytes (len + 1)).length then fitDatagramChecked frameLimit len
    else some (len + 1)

/-- `rqc_get_po_remained_size_with_ack_spc` with its subtraction checked. -/
def PacketOut.remainedSizeWithAckSpcChecked (po : PacketOut) : Option ℕ :=
  if po.poBufSize + ackSpace ≤ po.poBuf.length then some 0
  else checkedSub (po.poBufSize + ackSpace) po.poBuf.length

/-- `rqc_get_po_remained_size` with its subtraction checked. -/
def PacketOut.remainedSizeChecked (po : PacketOut) : Option ℕ :=
  if po.poBufSize ≤ po.poBuf.length then some 0 else checkedSub po.poBufSize po.poBuf.length

theorem PacketOut.remainedSizeChecked_eq (po : PacketOut) :
    po.remainedSizeChecked = some po.remainedSize ∧
      po.remainedSizeWithAckSpcChecked = some po.remainedSizeWithAckSpc := by
  unfold remainedSizeChecked remainedSize remainedSizeWithAckSpcChecked remainedSizeWithAckSpc
  constructor
  · split_ifs with h
    · rfl
    · exact checkedSub_of_le (by omega)
  · split_ifs with h
    · rfl
    · exact checkedSub_of_le (by omega)

/-! ## The largest frame -/

theorem putVarintLen_mono {m n : ℕ} (h : m ≤ n) : putVarintLen m ≤ putVarintLen n := by
  unfold putVarintLen
  split_ifs <;> omega

/-- A message of that length has a frame within the limit. -/
def FrameFits (frameLimit len : ℕ) : Prop := 1 + (vintBytes len).length + len ≤ frameLimit

section Loop

variable {frameLimit len m : ℕ}

theorem FrameFits.mono (h : FrameFits frameLimit len) (hle : m ≤ len) : FrameFits frameLimit m := by
  unfold FrameFits at h ⊢
  rw [length_vintBytes] at h ⊢
  have := putVarintLen_mono hle
  omega

theorem frameFits_zero : FrameFits frameLimit 0 ↔ 2 ≤ frameLimit := by
  unfold FrameFits
  rw [length_vintBytes, putVarintLen, if_pos (by omega)]

theorem FrameFits.le (h : FrameFits frameLimit len) : len ≤ frameLimit - 2 := by
  have := length_vintBytes_pos len
  unfold FrameFits at h
  omega

/-- The loop stops at the largest length that fits, at or below its start. -/
theorem fitDatagram_isGreatest (hzero : FrameFits frameLimit 0) (n : ℕ) :
    IsGreatest {len | len ≤ n ∧ FrameFits frameLimit len} (fitDatagram frameLimit n) ∧
      fitDatagramChecked frameLimit n = some (fitDatagram frameLimit n) := by
  induction n with
  | zero =>
      refine ⟨⟨⟨le_refl _, hzero⟩, fun m hm => hm.1⟩, ?_⟩
      rw [fitDatagramChecked, if_neg]
      · rfl
      · unfold FrameFits at hzero
        omega
  | succ n ih =>
      rw [fitDatagram, fitDatagramChecked]
      by_cases hbig : frameLimit < n + 1 + 1 + (vintBytes (n + 1)).length
      · -- the length does not fit: everything that does is below it
        rw [if_pos hbig, if_pos hbig]
        obtain ⟨⟨hmem, hmax⟩, hchecked⟩ := ih
        refine ⟨⟨⟨by have := hmem.1; omega, hmem.2⟩, fun m hm => hmax ⟨?_, hm.2⟩⟩, hchecked⟩
        have hne : m ≠ n + 1 := by
          rintro rfl
          have hfit := hm.2
          unfold FrameFits at hfit
          omega
        have hle : m ≤ n + 1 := hm.1
        omega
      · rw [if_neg hbig, if_neg hbig]
        refine ⟨⟨⟨le_refl _, ?_⟩, fun m hm => hm.1⟩, rfl⟩
        unfold FrameFits
        omega

end Loop

namespace DatagramEnv

/-- The room for frames in one packet: what the packet size and both UDP limits, less the reserve for an
ACK frame, leave behind the header. -/
def room (env : DatagramEnv) : ℕ :=
  min env.params.pktOutSize.1 (min env.localMaxUdp env.remoteMaxUdp - ackSpace) - env.headerSize

/-- A message of that length has a frame within the limit of the peer and the room of one packet. -/
def Fits (env : DatagramEnv) (len : ℕ) : Prop :=
  FrameFits (min env.maxDatagramFrameSize env.room) len

/-- `rqc_datagram_get_mss` with its subtractions checked. -/
def mssChecked (env : DatagramEnv) : Option ℕ :=
  let udpLimit := min env.localMaxUdp env.remoteMaxUdp
  if env.established = false ∨ env.maxDatagramFrameSize = 0 then some 0
  else if udpLimit < ackSpace then some 0
  else do
    let usable ← checkedSub udpLimit ackSpace
    let packetLimit := min env.params.pktOutSize.1 usable
    if packetLimit ≤ env.headerSize then return 0
    let behind ← checkedSub packetLimit env.headerSize
    let frameLimit := min behind env.maxDatagramFrameSize
    if frameLimit < 2 then return 0
    let len ← checkedSub frameLimit 2
    fitDatagramChecked frameLimit len

section Mss

variable {env : DatagramEnv} {len : ℕ}

theorem fits_zero : env.Fits 0 ↔ 2 ≤ min env.maxDatagramFrameSize env.room := frameFits_zero

/-- Where nothing fits the limit is zero, and its computation ends early. -/
theorem mss_of_none (hest : env.established = true) (hzero : ¬ env.Fits 0) :
    env.mss = 0 ∧ env.mssChecked = some 0 := by
  rw [fits_zero, room] at hzero
  unfold mss mssChecked
  simp only [hest, Bool.true_eq_false, false_or]
  by_cases hmax : env.maxDatagramFrameSize = 0
  · simp [hmax]
  rw [if_neg hmax, if_neg hmax]
  by_cases hudp : min env.localMaxUdp env.remoteMaxUdp < ackSpace
  · simp [hudp]
  rw [if_neg hudp, if_neg hudp, checkedSub_of_le (by omega)]
  simp only [Option.bind_eq_bind, Option.bind_some]
  by_cases hroom : min env.params.pktOutSize.1 (min env.localMaxUdp env.remoteMaxUdp - ackSpace) ≤
      env.headerSize
  · simp [hroom]
  rw [if_neg hroom, if_neg hroom, checkedSub_of_le (by omega)]
  simp only [Option.bind_some]
  rw [if_pos (by omega), if_pos (by omega)]
  exact ⟨rfl, rfl⟩

/-- **The limit is the largest length that fits**, and its computation wraps nowhere. -/
theorem mss_isGreatest (hest : env.established = true) (hzero : env.Fits 0) :
    IsGreatest {len | env.Fits len} env.mss ∧ env.mssChecked = some env.mss := by
  have htwo := fits_zero.1 hzero
  rw [room] at htwo
  set packetLimit := min env.params.pktOutSize.1 (min env.localMaxUdp env.remoteMaxUdp - ackSpace)
    with hpacket
  have hlimit : min (packetLimit - env.headerSize) env.maxDatagramFrameSize =
      min env.maxDatagramFrameSize env.room := Nat.min_comm _ _
  obtain ⟨⟨hmem, hmax⟩, hchecked⟩ := fitDatagram_isGreatest hzero
    (min env.maxDatagramFrameSize env.room - 2)
  have hudp : ¬ min env.localMaxUdp env.remoteMaxUdp < ackSpace := by
    intro hlt
    have : packetLimit = 0 := by omega
    omega
  have hmss : env.mss = fitDatagram (min env.maxDatagramFrameSize env.room)
      (min env.maxDatagramFrameSize env.room - 2) := by
    unfold mss
    dsimp only
    rw [if_neg (by rw [hest]; simp; omega), if_neg hudp, ← hpacket, if_neg (by omega), hlimit,
      if_neg (by rw [room, ← hpacket]; omega)]
  refine ⟨⟨?_, fun m hm => ?_⟩, ?_⟩
  · rw [hmss]
    exact hmem.2
  · rw [hmss]
    exact hmax ⟨FrameFits.le hm, hm⟩
  · rw [hmss, ← hchecked]
    unfold mssChecked
    dsimp only
    rw [if_neg (by rw [hest]; simp; omega), if_neg hudp, checkedSub_of_le (by omega)]
    simp only [Option.bind_eq_bind, Option.bind_some]
    rw [← hpacket, if_neg (by omega), checkedSub_of_le (by omega)]
    simp only [Option.bind_some]
    rw [hlimit, if_neg (by rw [room, ← hpacket]; omega), checkedSub_of_le
      (by rw [room, ← hpacket]; omega)]
    rfl

/-- **A message is refused as too large exactly when its frame does not fit.** -/
theorem tooLarge_iff (hest : env.established = true) : env.TooLarge len ↔ ¬ env.Fits len := by
  have hroom : env.room = min env.params.pktOutSize.1
      (min env.localMaxUdp env.remoteMaxUdp - ackSpace) - env.headerSize := rfl
  by_cases hzero : env.Fits 0
  · have htwo := fits_zero.1 hzero
    obtain ⟨⟨hmem, hmax⟩, -⟩ := mss_isGreatest hest hzero
    have hrest : ¬ (env.maxDatagramFrameSize < 2 ∨ env.params.pktOutSize.1 < env.headerSize + 2 ∨
        env.localMaxUdp < env.headerSize + 2 + ackSpace ∨
        env.remoteMaxUdp < env.headerSize + 2 + ackSpace) := by
      omega
    constructor
    · rintro (hlt | hother) hfit
      · exact absurd (hmax hfit) (by omega)
      · exact hrest hother
    · intro hfit
      left
      by_contra hle
      exact hfit (FrameFits.mono hmem (by omega))
  · constructor
    · intro _ hfit
      exact hzero (FrameFits.mono hfit (Nat.zero_le _))
    · intro _
      rw [fits_zero] at hzero
      right
      omega

end Mss

end DatagramEnv

/-! ## The packet of a message -/

/-- An ACK frame goes behind what is in the packet, into the budget and its reserve. -/
theorem writeAckToOnePacket_size {po po' : PacketOut} {ackDelay ackDelayExponent : ℕ}
    {record : List PktnoRange} (h : writeAckToOnePacket po ackDelay ackDelayExponent record = .ok po')
    (hle : po.poBuf.length ≤ po.poBufSize + ackSpace) :
    po'.poBuf.length ≤ po.poBufSize + ackSpace ∧
      ∃ rest, po'.poBuf = po.poBuf ++ rest ∧ po'.poPayload = po.poPayload := by
  cases record with
  | nil => cases h
  | cons first rs =>
      simp only [writeAckToOnePacket, genAckFrame] at h
      split_ifs at h with hroom
      · cases h
      obtain rfl := Except.ok.inj h
      refine ⟨?_, _, rfl, rfl⟩
      unfold PacketOut.remainedSizeWithAckSpc at hroom
      dsimp only
      rw [List.length_append]
      split_ifs at hroom <;> omega

/-- The packet that `rqc_datagram_submit` writes: the frame is written without a check. -/
theorem controlPacket_datagram {params : PktParams} {data : Bytes} {bufSize : ℕ}
    (hheader : params.header.length ≤ params.pktOutSize.1) :
    ∃ po, controlPacket params (.datagram data) false bufSize = .ok po ∧
      po.poBuf = params.header ++ (ControlFrame.datagram data).code ∧
      po.poPayload = params.header.length ∧ po.poBufSize = min params.pktOutSize.1 bufSize := by
  rw [controlPacket, PktParams.newPacket, if_neg (by omega)]
  exact ⟨_, rfl, rfl, rfl, rfl⟩

section Submit

variable {c c' : SendCtl} {env : DatagramEnv} {data : Bytes} {id : ℕ}

/-- What an accepted message leaves in the queue: one packet with its frame, whose budget leaves the reserve
for an ACK frame. -/
theorem datagramSubmit_ok (h : c.datagramSubmit env data = (c', .ok id)) :
    env.established = true ∧ env.Fits data.length ∧ ∃ po : PacketOut,
      c'.toSendQueue = c.toSendQueue.insertNew .sendPackets po ∧
      po.poBuf = env.params.header ++ (ControlFrame.datagram data).code ∧
      po.payload = (ControlFrame.datagram data).code ∧ po.poPayload ≤ po.poBuf.length ∧
      po.poBufSize = min env.params.pktOutSize.1 env.bufSize := by
  unfold SendCtl.datagramSubmit at h
  by_cases hopen : env.isOpen = false
  · simp [hopen] at h
  rw [if_neg hopen] at h
  by_cases hest : env.established = false
  · simp [hest] at h
  rw [if_neg hest] at h
  rw [Bool.not_eq_false] at hest
  split_ifs at h with hmax hlarge hwrite hlimit hmalloc
  · simp at h
  · simp at h
  · simp at h
  · simp at h
  · simp at h
  have hfit : env.Fits data.length := by
    by_contra hno
    exact hlarge ((DatagramEnv.tooLarge_iff hest).2 hno)
  refine ⟨hest, hfit, ?_⟩
  -- the limit leaves room for the header
  have hheader : env.params.header.length ≤ env.params.pktOutSize.1 := by
    unfold DatagramEnv.TooLarge DatagramEnv.headerSize at hlarge
    omega
  obtain ⟨po, hpo, hbuf, hpayload, hsize⟩ := @controlPacket_datagram _ data env.bufSize hheader
  rw [hpo] at h
  refine ⟨po, ?_, hbuf, ?_, ?_, hsize⟩
  · rw [← (Prod.mk.inj h).1]
    rfl
  · rw [PacketOut.payload, hbuf, hpayload, List.drop_left]
  · rw [hbuf, hpayload, List.length_append]
    exact Nat.le_add_right _ _

end Submit

/-- What holds of the packet of an accepted message: it is within both UDP limits, also with an ACK frame
behind its own, and a peer with the same frame limit accepts the frame and delivers its bytes. -/
structure DatagramPacket (env : DatagramEnv) (data : Bytes) (po : PacketOut) : Prop where
  buf : po.poBuf = env.params.header ++ (ControlFrame.datagram data).code
  reserve : checkedSub (min env.localMaxUdp env.remoteMaxUdp) ackSpace = some env.bufSize
  size : po.poBuf.length ≤ min env.localMaxUdp env.remoteMaxUdp
  withAck : ∀ po' ackDelay ackDelayExponent record,
    writeAckToOnePacket po ackDelay ackDelayExponent record = .ok po' →
      po'.poBuf.length ≤ min env.localMaxUdp env.remoteMaxUdp ∧
        ∃ rest, po'.payload = po.payload ++ rest
  parsed : ∀ ackDelayExponent rest,
    parseFrame ackDelayExponent (po.payload ++ rest) = .ok (.datagram data, rest)
  delivered : ∀ (frameEnv : FrameEnv) (peer : Conn) (pkt : PacketIn) (pos : ℕ) (rest : Bytes),
    peer.localSettings.maxDatagramFrameSize = env.maxDatagramFrameSize → peer.handshakeRecvd = true →
    pkt.pktType = .shortHeader →
      processFrame frameEnv peer pkt pos ((po.payload ++ rest).length - rest.length) (.datagram data) =
        (if peer.isClosing = false ∧ peer.connErr = none then
          peer.addLog (.notified pkt.pktNum pos data) else peer, .ok ())

theorem datagramPacket_of_fits {env : DatagramEnv} {data : Bytes} {po : PacketOut}
    (hfit : env.Fits data.length) (hbuf : po.poBuf = env.params.header ++ (ControlFrame.datagram data).code)
    (hpayload : po.payload = (ControlFrame.datagram data).code)
    (hsize : po.poBufSize = min env.params.pktOutSize.1 env.bufSize)
    (hstart : po.poPayload ≤ po.poBuf.length) : DatagramPacket env data po := by
  have hcode : (ControlFrame.datagram data).code.length =
      1 + (vintBytes data.length).length + data.length := by
    simp [ControlFrame.code]
    omega
  have hroom : env.room = min env.params.pktOutSize.1
      (min env.localMaxUdp env.remoteMaxUdp - ackSpace) - env.headerSize := rfl
  have hheader : env.headerSize = env.params.header.length := rfl
  have hlen : po.poBuf.length = env.headerSize + (ControlFrame.datagram data).code.length := by
    rw [hbuf, List.length_append, hheader]
  have hbudget : env.bufSize = min env.localMaxUdp env.remoteMaxUdp - ackSpace := rfl
  have hframe : (ControlFrame.datagram data).code.length ≤ min env.maxDatagramFrameSize env.room := by
    rw [hcode]
    exact hfit
  have hpos := length_vintBytes_pos data.length
  have hout := env.params.pktOutSize.2
  -- the header and the frame lie within the budget, and the reserve is what the budget leaves
  have hused : po.poBuf.length ≤ po.poBufSize := by omega
  have hreserve : po.poBufSize + ackSpace ≤ min env.localMaxUdp env.remoteMaxUdp := by omega
  refine ⟨hbuf, checkedSub_of_le (by omega), by omega, ?_, ?_, ?_⟩
  · intro po' ackDelay ackDelayExponent record hack
    obtain ⟨hsize', rest, hbuf', hpayload'⟩ := writeAckToOnePacket_size hack (by omega)
    refine ⟨by omega, rest, ?_⟩
    rw [PacketOut.payload, hbuf', hpayload', List.drop_append_of_le_length hstart]
    rfl
  · intro e rest
    rw [hpayload]
    exact (decodes_control e (c := .datagram data) (by
      change data.length < 2 ^ 62
      unfold maxPacketOutSize at hout
      omega)).2 rest
  · intro frameEnv peer pkt pos rest hpeer hrecvd htype
    rw [List.length_append, Nat.add_sub_cancel, hpayload]
    change processDatagramFrame peer pkt pos _ data = _
    unfold processDatagramFrame
    rw [if_neg]
    · split_ifs <;> rfl
    · rw [hpeer, hrecvd, htype]
      simp
      omega

/-- **Sizes of datagrams.** On an established connection the limit is the largest length whose frame fits the
frame limit of the peer and the room of one packet, zero if there is none; none of its subtractions wraps;
a message is refused as too large exactly when it does not fit; and the packet of an accepted message is
within both UDP limits, also with an ACK frame, and its frame is accepted and delivered by the peer. -/
theorem datagram_sizing (env : DatagramEnv) (hest : env.established = true) :
    (∀ len, env.Fits len → IsGreatest {len | env.Fits len} env.mss) ∧
      ((∀ len, ¬ env.Fits len) → env.mss = 0) ∧
      env.mssChecked = some env.mss ∧
      (∀ len, env.TooLarge len ↔ ¬ env.Fits len) ∧
      ∀ (c c' : SendCtl) (data : Bytes) (id : ℕ), c.datagramSubmit env data = (c', .ok id) →
        ∃ po, c'.toSendQueue = c.toSendQueue.insertNew .sendPackets po ∧ DatagramPacket env data po ∧
          po.remainedSizeChecked = some po.remainedSize ∧
          po.remainedSizeWithAckSpcChecked = some po.remainedSizeWithAckSpc := by
  refine ⟨fun len hfit => ?_, fun hnone => ?_, ?_, fun len => DatagramEnv.tooLarge_iff hest, ?_⟩
  · exact (DatagramEnv.mss_isGreatest hest (FrameFits.mono hfit (Nat.zero_le _))).1
  · exact (DatagramEnv.mss_of_none hest (hnone 0)).1
  · by_cases hzero : env.Fits 0
    · exact (DatagramEnv.mss_isGreatest hest hzero).2
    · obtain ⟨hmss, hchecked⟩ := DatagramEnv.mss_of_none hest hzero
      rw [hmss, hchecked]
  · intro c c' data id h
    obtain ⟨-, hfit, po, hqueue, hbuf, hpayload, hstart, hsize⟩ := datagramSubmit_ok h
    exact ⟨po, hqueue, datagramPacket_of_fits hfit hbuf hpayload hsize hstart, po.remainedSizeChecked_eq⟩

/-- A peer with frames of at most 100 bytes: the limit is 97, where the length field takes two bytes, and a
message of three bytes is accepted. -/
theorem datagram_sizing_three :
    let env : DatagramEnv :=
      { maxDatagramFrameSize := 100, localMaxUdp := 1500, remoteMaxUdp := 1200
        params := { pktOutSize := ⟨1184, by decide⟩, header := List.replicate 15 0 } }
    env.mss = 97 ∧ env.mssChecked = some env.mss ∧
      ∃ po, DatagramPacket env [1, 2, 3] po ∧ po.poBuf.length = 20 := by
  intro env
  obtain ⟨-, -, hchecked, -, hpacket⟩ := datagram_sizing env rfl
  obtain ⟨po, -, hpo, -, -⟩ := hpacket {} _ [1, 2, 3] 0 rfl
  refine ⟨by decide, hchecked, po, hpo, ?_⟩
  rw [hpo.buf]
  decide

end Rquic

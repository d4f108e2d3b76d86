import Rquic.PacketOut

set_option autoImplicit false

/-!
# What a packet says

The payload of a packet as a sequence of frames with their bytes, and what the generators and the
retransmission make of that sequence.

* `Content`: the payload is the concatenation of the codes of some frames.
* `AckPos`: where the ACK frame stands among them, if there is one.
* `SlotInv`: the slot that `rqc_gen_stream_frame` may extend describes the last frame.
* `StreamWritten`: what a STREAM write does to the sequence: a new frame, or a longer last one.
* **`genStreamFrame_content`**: `rqc_gen_stream_frame` does just that.
* `genControlFrame_content`, `writeAckToOnePacket_content`, `retransmission_content`: the other
  operations.
-/

namespace Rquic

/-- `RQC_MAX_PACKET_OUT_SIZE`. -/
def maxPacketOutSize : ℕ := 1436

/-- The room that `rqc_write_stream_frame_to_packet` asks for in a packet that it fills up. -/
def streamNeed : ℕ := 50

/-- A frame with its bytes. -/
abbrev Seg := Frame × Bytes

/-- The bytes of a sequence of frames. -/
def segBytes (segs : List Seg) : Bytes := (segs.map Prod.snd).flatten

/-- The payload of the packet is the sequence `segs`. -/
structure Content (e : ℕ) (po : PacketOut) (segs : List Seg) : Prop where
  header_le : po.poPayload ≤ po.poBuf.length
  payload : po.payload = segBytes segs
  decodes : DecodesSeq (parseFrame e) (!po.streamNoLen) segs
  /-- A frame without a length fills its packet. -/
  noLen : po.streamNoLen = true → po.remainedSize = 0 ∧ .ack ∉ po.poFrameTypes

/-- The ACK frame of the packet is where `po_ack_offset` points, and it is the only one. -/
structure AckPos (po : PacketOut) (segs : List Seg) : Prop where
  absent : .ack ∉ po.poFrameTypes → ∀ i ∈ segs, i.1.type ≠ .ack
  present : .ack ∈ po.poFrameTypes → ∃ pre info code post, segs = pre ++ (.ack info, code) :: post ∧
    po.poAckOffset = po.poPayload + (segBytes pre).length ∧
    (∀ i ∈ pre ++ post, i.1.type ≠ .ack) ∧
    info.ranges.head?.map PktnoRange.high = some po.poLargestAck

/-- The last slot of a packet of STREAM frames describes the last frame, if it has a length field. -/
def SlotInv (po : PacketOut) (segs : List Seg) : Prop :=
  po.poFrameTypes = {.stream} → ∀ prev, po.poStreamFrames.getLast? = some prev →
    0 < prev.psLengthOffset →
    ∃ pre fin data, segs = pre ++ [(.stream prev.psStreamId prev.psOffset fin data,
        streamCode prev.psStreamId prev.psOffset fin data)] ∧
      prev.psTypeOffset = po.poPayload + (segBytes pre).length ∧
      prev.psLengthOffset =
        prev.psTypeOffset + 1 + (streamFrameIds prev.psStreamId prev.psOffset).length ∧
      prev.psLength = data.length ∧ data.length < 2 ^ 14

/-- What a STREAM write does to the frames of a packet. -/
inductive StreamWritten (streamId offset : ℕ) (fin : Bool) (data : Bytes) :
    List Seg → List Seg → Prop where
  | new (segs : List Seg) (code : Bytes) :
      StreamWritten streamId offset fin data segs (segs ++ [(.stream streamId offset fin data, code)])
  | combined (pre : List Seg) (offset₀ : ℕ) (fin₀ : Bool) (data₀ code₀ code : Bytes)
      (h : offset₀ + data₀.length = offset) :
      StreamWritten streamId offset fin data
        (pre ++ [(.stream streamId offset₀ fin₀ data₀, code₀)])
        (pre ++ [(.stream streamId offset₀ (fin₀ || fin) (data₀ ++ data), code)])

/-- The packet after `rqc_gen_stream_frame` where it starts a new frame. -/
def withStreamFrame (po : PacketOut) (code : Bytes) (slot : PoStreamFrame) (noLen : Bool) :
    PacketOut :=
  { po with
    poBuf := po.poBuf ++ code
    poStreamFrames := po.poStreamFrames ++ [slot]
    poFrameTypes := insert .stream po.poFrameTypes
    streamNoLen := po.streamNoLen || noLen }

/-! ## Reading a packet -/

@[simp] theorem segBytes_nil : segBytes [] = [] := rfl

@[simp] theorem segBytes_append (a b : List Seg) : segBytes (a ++ b) = segBytes a ++ segBytes b := by
  simp [segBytes]

@[simp] theorem segBytes_singleton (i : Seg) : segBytes [i] = i.2 := by simp [segBytes]

@[simp] theorem segBytes_cons (i : Seg) (a : List Seg) : segBytes (i :: a) = i.2 ++ segBytes a := by
  simp [segBytes]

/-- The frames of a packet are parsed as they were written. -/
theorem Content.parseFrames {e : ℕ} {po : PacketOut} {segs : List Seg} (h : Content e po segs) :
    parseFrames e po.payload = .ok (segs.map Prod.fst) := by
  rw [Rquic.parseFrames, h.payload]
  exact h.decodes.decodeAll le_rfl

theorem Content.poBuf_eq {e : ℕ} {po : PacketOut} {segs : List Seg} (h : Content e po segs) :
    po.poBuf = po.poBuf.take po.poPayload ++ segBytes segs := by
  rw [← h.payload, PacketOut.payload, List.take_append_drop]

theorem Content.length_poBuf {e : ℕ} {po : PacketOut} {segs : List Seg} (h : Content e po segs) :
    po.poBuf.length = po.poPayload + (segBytes segs).length := by
  have hlen := congrArg List.length h.poBuf_eq
  rwa [List.length_append, List.length_take_of_le h.header_le] at hlen

theorem Content.append {e : ℕ} {po po' : PacketOut} {segs : List Seg} (h : Content e po segs)
    (hlen : po.streamNoLen = false) {f : Frame} {code : Bytes} (hbuf : po'.poBuf = po.poBuf ++ code)
    (hpay : po'.poPayload = po.poPayload) (hlen' : po'.streamNoLen = false)
    (hf : Decodes (parseFrame e) f code) : Content e po' (segs ++ [(f, code)]) := by
  have hdec := h.decodes
  rw [hlen] at hdec
  refine ⟨?_, ?_, ?_, fun habs => ?_⟩
  · rw [hbuf, hpay, List.length_append]
    exact h.header_le.trans (Nat.le_add_right _ _)
  · rw [PacketOut.payload, hbuf, hpay, List.drop_append_of_le_length h.header_le, segBytes_append,
      segBytes_singleton, ← h.payload, PacketOut.payload]
  · rw [hlen']
    refine decodesSeq_true.2 fun i hi => ?_
    rcases List.mem_append.1 hi with hi | hi
    · exact decodesSeq_true.1 hdec i hi
    · rw [List.mem_singleton.1 hi]
      exact hf
  · rw [hlen'] at habs
    cases habs

/-- A packet that got a last frame which needs the end of the packet. -/
theorem Content.append_noLen {e : ℕ} {po : PacketOut} {segs : List Seg} (h : Content e po segs)
    (hlen : po.streamNoLen = false) {f : Frame} {code : Bytes} {slot : PoStreamFrame}
    (hfull : po.remainedSize = code.length)
    (hneed : .ack ∉ po.poFrameTypes ∨ streamNeed ≤ po.remainedSize)
    (hf : parseFrame e code = .ok (f, [])) (hcode : 0 < code.length ∧ code.length < streamNeed) :
    Content e (withStreamFrame po code slot true) (segs ++ [(f, code)]) := by
  have hdec := h.decodes
  rw [hlen] at hdec
  have hack : .ack ∉ po.poFrameTypes := hneed.resolve_right (by omega)
  refine ⟨?_, ?_, ?_, fun _ => ⟨?_, ?_⟩⟩
  · simp only [withStreamFrame, List.length_append]
    exact h.header_le.trans (Nat.le_add_right _ _)
  · simp only [PacketOut.payload, withStreamFrame]
    rw [List.drop_append_of_le_length h.header_le, segBytes_append, segBytes_singleton,
      ← h.payload, PacketOut.payload]
  · simp only [withStreamFrame, hlen, Bool.false_or, Bool.not_true]
    rw [DecodesSeq, if_neg (by decide)]
    exact ⟨segs, (f, code), rfl, decodesSeq_true.1 hdec, List.length_pos_iff.1 hcode.1, hf⟩
  · simp only [PacketOut.remainedSize, withStreamFrame, List.length_append] at hfull ⊢
    split_ifs at hfull ⊢ <;> omega
  · simp [withStreamFrame, hack]

theorem SlotInv.of_ne {po : PacketOut} {segs : List Seg} {t : FrameType} (h : t ∈ po.poFrameTypes)
    (hne : t ≠ .stream) : SlotInv po segs := by
  intro htypes
  rw [htypes, Finset.mem_singleton] at h
  exact absurd h hne

/-! ## STREAM writes -/

theorem length_streamCode (streamId offset : ℕ) (fin : Bool) (data : Bytes) :
    (streamCode streamId offset fin data).length =
      1 + (streamFrameIds streamId offset).length + 2 + data.length := by
  simp only [streamCode, List.length_cons, List.length_append, length_vintWrite]
  omega

theorem combineSlot_some {po : PacketOut} {streamId offset : ℕ} {prev : PoStreamFrame}
    (h : combineSlot po streamId offset = some prev) :
    po.poStreamFrames.getLast? = some prev ∧ po.poFrameTypes = {.stream} ∧
      prev.psStreamId = streamId ∧ prev.psOffset + prev.psLength = offset ∧
      0 < prev.psLengthOffset := by
  unfold combineSlot at h
  split at h
  · cases h
  · rename_i last hlast
    split_ifs at h with hc
    obtain rfl := Option.some.inj h
    exact ⟨hlast, hc.1, hc.2.1, hc.2.2.1, hc.2.2.2.1⟩

theorem length_finCode_lt (streamId offset : ℕ) (fin : Bool) :
    0 < (finCode streamId offset false fin).length ∧
      (finCode streamId offset false fin).length < streamNeed := by
  have hid := length_vintBytes_le streamId
  have hoff := length_vintBytes_le offset
  have hids : (if offset = 0 then ([] : Bytes) else vintBytes offset).length ≤ 8 := by
    split_ifs
    · simp
    · exact hoff
  simp only [finCode, streamFrameIds, List.length_cons, List.length_append, streamNeed,
    Bool.false_eq_true, if_false, List.length_nil]
  omega

/-- The three ways of a STREAM write: the previous frame is extended, a frame without data is
written, or a new frame with data. -/
theorem genStreamFrame_cases {po po' : PacketOut} {streamId offset n : ℕ} {fin : Bool}
    {payload : Bytes} (h : genStreamFrame po streamId offset fin payload = .ok (po', n)) :
    (∃ prev, combineSlot po streamId offset = some prev ∧
      combineStreamFrame po prev fin payload = (po', n)) ∨
    (fin = true ∧ payload = [] ∧ n = 0 ∧ ∃ hasLength,
      (hasLength = false → po.remainedSize = (finCode streamId offset false fin).length) ∧
      po' = withStreamFrame po (finCode streamId offset hasLength fin)
        { psStreamId := streamId, psOffset := offset, psTypeOffset := po.poBuf.length
          psHasFin := fin } !hasLength) ∨
    (n ≤ payload.length ∧ 1 + (streamFrameIds streamId offset).length + 2 + n ≤ po.remainedSize ∧
      po' = withStreamFrame po (streamCode streamId offset (fin && n = payload.length)
        (payload.take n))
        { psStreamId := streamId, psOffset := offset, psLength := n
          psTypeOffset := po.poBuf.length
          psLengthOffset := po.poBuf.length + 1 + (streamFrameIds streamId offset).length
          psHasFin := fin && n = payload.length } false) := by
  rw [genStreamFrame] at h
  by_cases hidx : maxStreamFrameInPo ≤ po.poStreamFrames.length
  · rw [if_pos hidx] at h
    cases h
  rw [if_neg hidx] at h
  cases hprev : combineSlot po streamId offset with
  | some prev =>
      rw [hprev] at h
      exact .inl ⟨prev, rfl, Except.ok.inj h⟩
  | none =>
      right
      rw [hprev] at h
      simp only [newStreamFrame] at h
      by_cases hfin : (fin && payload.isEmpty) = true
      · left
        rw [if_pos hfin] at h
        obtain ⟨hf, hp⟩ := Bool.and_eq_true_iff.1 hfin
        set ids := streamFrameIds streamId offset with hids
        by_cases hroom : po.remainedSize <
            1 + ids.length + (if decide (1 + ids.length < po.remainedSize) = true then 1 else 0)
        · rw [if_pos hroom] at h
          cases h
        · rw [if_neg hroom] at h
          obtain ⟨rfl, rfl⟩ := Prod.mk.inj (Except.ok.inj h)
          refine ⟨hf, List.isEmpty_iff.1 hp, rfl, decide (1 + ids.length < po.remainedSize),
            fun hlen => ?_, rfl⟩
          have hle : ¬ 1 + ids.length < po.remainedSize := of_decide_eq_false hlen
          rw [hlen, if_neg (by decide)] at hroom
          simp only [finCode, List.length_cons, List.length_append, ← hids]
          simp only [Bool.false_eq_true, if_false, List.length_nil]
          omega
      · right
        rw [if_neg hfin] at h
        split_ifs at h with hroom
        obtain ⟨rfl, rfl⟩ := Prod.mk.inj (Except.ok.inj h)
        refine ⟨by omega, by omega, ?_⟩
        simp [withStreamFrame]

theorem overwrite_append {a b b' : Bytes} (c : Bytes) (h : b'.length = b.length) :
    overwrite (a ++ (b ++ c)) a.length b' = a ++ (b' ++ c) := by
  rw [overwrite, List.take_left, h, ← List.append_assoc, ← List.length_append, List.drop_left,
    List.append_assoc]

theorem modify_append_length (a : Bytes) (x : UInt8) (c : Bytes) (f : UInt8 → UInt8) :
    (a ++ x :: c).modify a.length f = a ++ f x :: c := by
  induction a with
  | nil => rfl
  | cons y a ih => simpa using ih

/-- The bytes of an extended frame: the length field is overwritten, the data appended and the FIN
bit set in place. -/
theorem combine_bytes (streamId offset : ℕ) (fin₀ : Bool) (data₀ more H : Bytes) (fin : Bool) :
    let ids := streamFrameIds streamId offset
    let buf := overwrite (H ++ streamCode streamId offset fin₀ data₀) (H.length + 1 + ids.length)
      (vintWrite (data₀.length + more.length) 1 2) ++ more
    (if fin = true then buf.modify H.length (· ||| 0x01) else buf) =
      H ++ streamCode streamId offset (fin₀ || fin) (data₀ ++ more) := by
  intro ids buf
  have hbuf : buf = H ++ streamTypeByte (offset ≠ 0) true fin₀ ::
      (ids ++ (vintWrite (data₀.length + more.length) 1 2 ++ (data₀ ++ more))) := by
    have hlen : H.length + 1 + ids.length =
        (H ++ streamTypeByte (offset ≠ 0) true fin₀ :: ids).length := by
      rw [List.length_append, List.length_cons]
      omega
    have hcode : H ++ streamCode streamId offset fin₀ data₀ =
        (H ++ streamTypeByte (offset ≠ 0) true fin₀ :: ids) ++
          (vintWrite data₀.length 1 2 ++ data₀) := by
      simp [streamCode, ids]
    change overwrite (H ++ streamCode streamId offset fin₀ data₀) (H.length + 1 + ids.length) _ ++
      more = _
    rw [hcode, hlen, overwrite_append _ (by simp)]
    simp
  rw [hbuf]
  cases fin with
  | false => simp [streamCode, ids]
  | true =>
      rw [if_pos rfl, modify_append_length, streamTypeByte_or_fin, Bool.or_true]
      simp [streamCode, ids]

/-- `rqc_gen_stream_frame` where it extends the previous frame, in terms of bytes. -/
theorem combineStreamFrame_eq {po po' : PacketOut} {prev : PoStreamFrame} {n : ℕ} {fin : Bool}
    {payload data₀ H : Bytes} {fin₀ : Bool}
    (h : combineStreamFrame po prev fin payload = (po', n))
    (hbuf : po.poBuf = H ++ streamCode prev.psStreamId prev.psOffset fin₀ data₀)
    (htype : prev.psTypeOffset = H.length)
    (hlen : prev.psLengthOffset =
      prev.psTypeOffset + 1 + (streamFrameIds prev.psStreamId prev.psOffset).length)
    (hdata : prev.psLength = data₀.length) :
    n = min payload.length po.remainedSize ∧
      po' = { po with
        poBuf := H ++ streamCode prev.psStreamId prev.psOffset (fin₀ || (fin && n = payload.length))
          (data₀ ++ payload.take n)
        poStreamFrames := po.poStreamFrames.dropLast ++ [{ prev with
          psLength := prev.psLength + n
          psHasFin := if (fin && n = payload.length) = true then true else prev.psHasFin }] } := by
  by_cases hfin : (fin && payload.isEmpty) = true
  · obtain ⟨hf, hp⟩ := Bool.and_eq_true_iff.1 hfin
    rw [List.isEmpty_iff] at hp
    subst hf hp
    obtain ⟨rfl, rfl⟩ := Prod.mk.inj h
    have hset : po.poBuf.modify prev.psTypeOffset (· ||| 0x01) =
        H ++ streamCode prev.psStreamId prev.psOffset true data₀ := by
      rw [hbuf, htype, streamCode, modify_append_length, streamTypeByte_or_fin, streamCode]
    simp [hset]
  · have hfin' : (fin && payload.isEmpty) = false := by simpa using hfin
    simp only [combineStreamFrame, hfin', Bool.false_or] at h
    obtain ⟨rfl, rfl⟩ := Prod.mk.inj h
    set n := min payload.length po.remainedSize with hn
    have hmore : (payload.take n).length = n := List.length_take_of_le (min_le_left _ _)
    have hbytes := combine_bytes prev.psStreamId prev.psOffset fin₀ data₀ (payload.take n) H
      (fin && n = payload.length)
    simp only [hmore] at hbytes
    refine ⟨by simp, ?_⟩
    rw [hbuf, hlen, htype, hdata]
    simp only [Bool.false_eq_true, if_false]
    rw [← hbytes]

/-- **A STREAM write.** The frames of the packet are those before, with the written bytes in a new
frame or at the end of the last one. -/
theorem genStreamFrame_content {e : ℕ} {po po' : PacketOut} {segs : List Seg}
    {streamId offset n : ℕ} {fin : Bool} {payload : Bytes} (hc : Content e po segs)
    (hs : SlotInv po segs) (hopen : po.streamNoLen = false) (hsize : po.poBufSize ≤ maxPacketOutSize)
    (hneed : .ack ∉ po.poFrameTypes ∨ streamNeed ≤ po.remainedSize)
    (hid : streamId < 2 ^ 62) (hoff : offset + n < 2 ^ 62)
    (h : genStreamFrame po streamId offset fin payload = .ok (po', n)) :
    ∃ segs', StreamWritten streamId offset (fin && n = payload.length) (payload.take n) segs segs' ∧
      Content e po' segs' ∧ SlotInv po' segs' := by
  have hroom : po.remainedSize ≤ maxPacketOutSize := by
    unfold PacketOut.remainedSize
    split_ifs <;> omega
  have hmax : maxPacketOutSize < 2 ^ 14 := by decide
  rcases genStreamFrame_cases h with ⟨prev, hslot, hcomb⟩ | ⟨rfl, rfl, rfl, hasLength, hfull, rfl⟩ |
    ⟨hn, hfit, rfl⟩
  · -- the last frame is extended
    obtain ⟨hlast, htypes, rfl, rfl, hpos⟩ := combineSlot_some hslot
    obtain ⟨pre, fin₀, data₀, rfl, htype, hlen, hdata, hsmall⟩ := hs htypes prev hlast hpos
    set H := po.poBuf.take po.poPayload ++ segBytes pre with hH
    have hHlen : H.length = po.poPayload + (segBytes pre).length := by
      rw [hH, List.length_append, List.length_take_of_le hc.header_le]
    have hbuf : po.poBuf = H ++ streamCode prev.psStreamId prev.psOffset fin₀ data₀ := by
      rw [hc.poBuf_eq, segBytes_append, segBytes_singleton, hH, List.append_assoc]
    obtain ⟨hn, rfl⟩ := combineStreamFrame_eq hcomb hbuf (by rw [htype, hHlen]) hlen hdata
    set data := data₀ ++ payload.take n with hdata'
    have htake : (payload.take n).length = n := List.length_take_of_le (by omega)
    have hdlen : data.length = data₀.length + n := by rw [hdata', List.length_append, htake]
    have hlong : data.length < 2 ^ 14 := by
      have hall := congrArg List.length hbuf
      rw [List.length_append, length_streamCode] at hall
      unfold PacketOut.remainedSize at hn
      split_ifs at hn <;> omega
    set last : Seg := (.stream prev.psStreamId prev.psOffset (fin₀ || (fin && n = payload.length)) data,
      streamCode prev.psStreamId prev.psOffset (fin₀ || (fin && n = payload.length)) data) with hseg
    refine ⟨pre ++ [last], .combined pre _ fin₀ data₀ _ _ (by rw [hdata]), ⟨?_, ?_, ?_, ?_⟩, ?_⟩
    · simp only [List.length_append, hHlen]
      omega
    · have hpay : po.poPayload ≤ H.length := by omega
      rw [PacketOut.payload, List.drop_append_of_le_length hpay, hH,
        List.drop_left' (List.length_take_of_le hc.header_le), segBytes_append, segBytes_singleton]
    · have hdec := hc.decodes
      rw [hopen] at hdec
      simp only [hopen]
      refine decodesSeq_true.2 fun i hi => ?_
      rcases List.mem_append.1 hi with hi | hi
      · exact decodesSeq_true.1 hdec i (List.mem_append_left _ hi)
      · rw [List.mem_singleton.1 hi]
        exact decodes_stream e _ hid (by rw [hdlen, ← hdata, ← Nat.add_assoc]; omega) hlong
    · exact fun habs => absurd (hopen.symm.trans habs) (by decide)
    · intro _ slot hslot' _
      rw [List.getLast?_concat, Option.some.injEq] at hslot'
      subst hslot'
      exact ⟨pre, _, data, rfl, htype, hlen, by simp [hdlen, hdata], hlong⟩
  · -- a frame without data; its slot has no length field
    have hslot : SlotInv (withStreamFrame po (finCode streamId offset hasLength true)
        { psStreamId := streamId, psOffset := offset, psTypeOffset := po.poBuf.length
          psHasFin := true } !hasLength)
        (segs ++ [(.stream streamId offset true [], finCode streamId offset hasLength true)]) := by
      intro _ slot hslot' hpos
      simp only [withStreamFrame] at hslot'
      rw [List.getLast?_concat, Option.some.injEq] at hslot'
      subst hslot'
      cases hpos
    refine ⟨_, .new segs (finCode streamId offset hasLength true), ?_, hslot⟩
    cases hasLength with
    | true =>
        exact hc.append hopen rfl rfl (by simpa [withStreamFrame] using hopen)
          (decodes_fin e true hid (by omega))
    | false =>
        exact hc.append_noLen hopen (hfull rfl) hneed (parseFrame_fin_noLen e true hid (by omega))
          (length_finCode_lt streamId offset true)
  · -- a new frame
    have htake : (payload.take n).length = n := List.length_take_of_le hn
    refine ⟨_, .new segs _, hc.append hopen rfl rfl (by simpa [withStreamFrame] using hopen)
      (decodes_stream e _ hid (by omega) (by omega)), ?_⟩
    intro _ slot hslot' _
    simp only [withStreamFrame] at hslot'
    rw [List.getLast?_concat, Option.some.injEq] at hslot'
    subst hslot'
    exact ⟨segs, _, payload.take n, rfl, hc.length_poBuf, rfl, htake.symm, by omega⟩

theorem genStreamFrame_frame {po po' : PacketOut} {streamId offset n : ℕ} {fin : Bool}
    {payload : Bytes} (h : genStreamFrame po streamId offset fin payload = .ok (po', n)) :
    n ≤ payload.length ∧ po' = { po with
      poBuf := po'.poBuf, poStreamFrames := po'.poStreamFrames, streamNoLen := po'.streamNoLen
      poFrameTypes := insert .stream po.poFrameTypes } := by
  rcases genStreamFrame_cases h with ⟨prev, hslot, hcomb⟩ | ⟨-, -, rfl, hasLength, -, rfl⟩ |
    ⟨hn, -, rfl⟩
  · obtain ⟨rfl, rfl⟩ := Prod.mk.inj hcomb
    have htypes : insert .stream po.poFrameTypes = po.poFrameTypes := by
      rw [(combineSlot_some hslot).2.1]
      rfl
    refine ⟨?_, by simp only [htypes]⟩
    split_ifs
    · exact Nat.zero_le _
    · exact min_le_left _ _
  · exact ⟨Nat.zero_le _, rfl⟩
  · exact ⟨hn, rfl⟩

/-- A property of all frames is kept, if the written frame has it, as it is or joined to another. -/
theorem StreamWritten.forall {P : Frame → Prop} {streamId offset : ℕ} {fin : Bool} {data : Bytes}
    {segs segs' : List Seg} (h : StreamWritten streamId offset fin data segs segs')
    (hP : ∀ i ∈ segs, P i.1) (hnew : P (.stream streamId offset fin data))
    (hjoin : ∀ offset₀ fin₀ data₀, offset₀ + data₀.length = offset →
      P (.stream streamId offset₀ fin₀ data₀) →
      P (.stream streamId offset₀ (fin₀ || fin) (data₀ ++ data))) : ∀ i ∈ segs', P i.1 := by
  intro i hi
  cases h with
  | new _ code =>
      rcases List.mem_append.1 hi with hi | hi
      · exact hP i hi
      · rw [List.mem_singleton.1 hi]
        exact hnew
  | combined pre offset₀ fin₀ data₀ code₀ code hoff =>
      rcases List.mem_append.1 hi with hi | hi
      · exact hP i (List.mem_append_left _ hi)
      · rw [List.mem_singleton.1 hi]
        exact hjoin offset₀ fin₀ data₀ hoff (hP _ (List.mem_append_right _ List.mem_cons_self))

theorem StreamWritten.ackPos {po po' : PacketOut} {streamId offset : ℕ} {fin : Bool} {data : Bytes}
    {segs segs' : List Seg} (h : StreamWritten streamId offset fin data segs segs')
    (htypes : po'.poFrameTypes = insert .stream po.poFrameTypes)
    (hoff : po'.poAckOffset = po.poAckOffset) (hpay : po'.poPayload = po.poPayload)
    (hlargest : po'.poLargestAck = po.poLargestAck) (hack : AckPos po segs) : AckPos po' segs' := by
  have hmem : .ack ∈ po'.poFrameTypes ↔ .ack ∈ po.poFrameTypes := by simp [htypes]
  refine ⟨fun habs => ?_, fun hin => ?_⟩
  · refine h.forall (P := fun f => f.type ≠ .ack) (hack.absent (mt hmem.2 habs)) nofun ?_
    exact fun _ _ _ _ _ => nofun
  · rw [hoff, hpay, hlargest]
    obtain ⟨pre, info, code, post, hsegs, hpos, hno, hinfo⟩ := hack.present (hmem.1 hin)
    cases h with
    | new _ code' =>
        refine ⟨pre, info, code, post ++ [(.stream streamId offset fin data, code')], ?_, hpos,
          fun i hi => ?_, hinfo⟩
        · rw [hsegs, List.append_assoc, List.cons_append]
        · rw [← List.append_assoc] at hi
          rcases List.mem_append.1 hi with hi | hi
          · exact hno i hi
          · rw [List.mem_singleton.1 hi]
            nofun
    | combined pre' offset₀ fin₀ data₀ code₀ code' _ =>
        -- the extended frame is the last one, so it stands behind the ACK frame
        rcases List.eq_nil_or_concat post with rfl | ⟨post', last, rfl⟩
        · obtain ⟨-, hlast⟩ := List.append_inj' hsegs rfl
          cases hlast
        · rw [List.concat_eq_append, ← List.cons_append, ← List.append_assoc] at hsegs
          obtain ⟨rfl, -⟩ := List.append_inj' hsegs rfl
          refine ⟨pre, info, code, post' ++ [(.stream streamId offset₀ (fin₀ || fin)
            (data₀ ++ data), code')], ?_, hpos, fun i hi => ?_, hinfo⟩
          · rw [List.append_assoc, List.cons_append]
          · rw [← List.append_assoc] at hi
            rcases List.mem_append.1 hi with hi | hi
            · refine hno i ?_
              rw [List.concat_eq_append, ← List.append_assoc]
              exact List.mem_append_left _ hi
            · rw [List.mem_singleton.1 hi]
              nofun

/-! ## Control frames, ACK frames and retransmissions -/

theorem ControlFrame.frame_type_ne (c : ControlFrame) :
    c.frame.type ≠ .stream ∧ c.frame.type ≠ .ack := by
  cases c <;> exact ⟨nofun, nofun⟩

theorem genControlFrame_content {e : ℕ} {po po' : PacketOut} {segs : List Seg} {c : ControlFrame}
    (hc : Content e po segs) (hopen : po.streamNoLen = false) (hwf : c.Wf)
    (h : genControlFrame po c = .ok po') :
    Content e po' (segs ++ [(c.frame, c.code)]) ∧ SlotInv po' (segs ++ [(c.frame, c.code)]) := by
  unfold genControlFrame at h
  split_ifs at h
  obtain rfl := Except.ok.inj h
  refine ⟨hc.append hopen rfl rfl hopen (decodes_control e hwf), ?_⟩
  exact SlotInv.of_ne (Finset.mem_insert_self _ _) c.frame_type_ne.1

/-- The values of an ACK frame fit the wire format. -/
def AckWf (ackDelay ackDelayExponent : ℕ) (record : List PktnoRange) : Prop :=
  ackDelay / 2 ^ ackDelayExponent < 2 ^ 62 ∧ ∀ r ∈ record, r.high < 2 ^ 62

/-- What is read back from an ACK frame that is written for the record. -/
def AckOf (e ackDelay : ℕ) : List PktnoRange → AckInfo → Prop
  | [], _ => False
  | first :: rs, info => Decodes (parseFrame e) (.ack info) (ackCode ackDelay first rs)

/-- The ACK frame is appended, `po_ack_offset` and `po_largest_ack` describe it. -/
theorem writeAckToOnePacket_content {e : ℕ} {po po' : PacketOut} {segs : List Seg}
    {ackDelay ackDelayExponent : ℕ} {record : List PktnoRange} (hc : Content e po segs)
    (hack : AckPos po segs) (hno : .ack ∉ po.poFrameTypes) (hopen : po.streamNoLen = false)
    (hwf : AckWf ackDelay ackDelayExponent record)
    (h : writeAckToOnePacket po ackDelay ackDelayExponent record = .ok po') :
    ∃ info code, (AckOf e (ackDelay / 2 ^ ackDelayExponent) record info ∧
        info.ranges.head?.map PktnoRange.high = some po'.poLargestAck) ∧
      Content e po' (segs ++ [(.ack info, code)]) ∧ AckPos po' (segs ++ [(.ack info, code)]) ∧
      SlotInv po' (segs ++ [(.ack info, code)]) := by
  cases record with
  | nil => cases h
  | cons first rs =>
      simp only [writeAckToOnePacket, genAckFrame] at h
      split_ifs at h
      · cases h
      · obtain rfl := Except.ok.inj h
        obtain ⟨info, hinfo, hdec⟩ :=
          decodes_ack e rs hwf.1 (hwf.2 first List.mem_cons_self)
        refine ⟨info, _, ⟨hdec, hinfo⟩, hc.append hopen rfl rfl hopen hdec, ⟨fun habs => ?_, fun _ => ?_⟩,
          SlotInv.of_ne (Finset.mem_insert_self _ _) (by decide)⟩
        · exact absurd (Finset.mem_insert_self _ _) habs
        · exact ⟨segs, info, _, [], rfl, hc.length_poBuf, by simpa using hack.absent hno, hinfo⟩

/-- The frames of a retransmission: those in front of the ACK frame. -/
theorem retransmission_content {e : ℕ} {po copy : PacketOut} {segs : List Seg} {id : PktId}
    (hc : Content e po segs) (hack : AckPos po segs) (h : po.retransmission id = some copy) :
    ∃ pre post, Content e copy pre ∧ AckPos copy pre ∧
      ((.ack ∉ po.poFrameTypes ∧ segs = pre) ∨
        ∃ info code, segs = pre ++ (.ack info, code) :: post ∧
          (∀ i ∈ pre ++ post, i.1.type ≠ .ack)) := by
  unfold PacketOut.retransmission at h
  split_ifs at h
  obtain rfl := Option.some.inj h
  by_cases hin : .ack ∈ po.poFrameTypes
  · have hopen : po.streamNoLen = false := by
      by_contra hlen
      exact (hc.noLen (by simpa using hlen)).2 hin
    obtain ⟨pre, info, code, post, rfl, hoff, hno, _⟩ := hack.present hin
    have hle : po.poAckOffset ≤ po.poBuf.length := by
      rw [hoff, hc.length_poBuf, segBytes_append, List.length_append]
      omega
    have hdec := hc.decodes
    rw [hopen] at hdec
    have hcut : (po.copy id).removeAckFrame = { po.copy id with
        poBuf := po.poBuf.take po.poAckOffset
        poFrameTypes := po.poFrameTypes.erase .ack } := if_pos hin
    rw [hcut]
    refine ⟨pre, post, ⟨?_, ?_, ?_, fun habs => ?_⟩, ⟨fun _ i hi => ?_, fun habs => ?_⟩,
      .inr ⟨info, code, rfl, hno⟩⟩
    · show po.poPayload ≤ (po.poBuf.take po.poAckOffset).length
      rw [List.length_take_of_le hle, hoff]
      exact Nat.le_add_right _ _
    · show (po.poBuf.take po.poAckOffset).drop po.poPayload = segBytes pre
      rw [hoff, List.drop_take, Nat.add_sub_cancel_left, ← PacketOut.payload, hc.payload,
        segBytes_append, List.take_left]
    · show DecodesSeq (parseFrame e) (!po.streamNoLen) pre
      rw [hopen]
      exact decodesSeq_true.2 fun i hi => decodesSeq_true.1 hdec i (List.mem_append_left _ hi)
    · exact absurd (hopen.symm.trans habs) (by decide)
    · exact hno i (List.mem_append_left _ hi)
    · exact absurd habs (Finset.notMem_erase _ _)
  · have hsame : (po.copy id).removeAckFrame = po.copy id := if_neg hin
    rw [hsame]
    exact ⟨segs, [], ⟨hc.header_le, hc.payload, hc.decodes, hc.noLen⟩, ⟨hack.absent, hack.present⟩,
      .inl ⟨hin, rfl⟩⟩

end Rquic

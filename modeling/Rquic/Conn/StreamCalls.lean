import Rquic.Conn.Emit

set_option autoImplicit false

/-!
# The STREAM frames of a packet

A packet gets any number of calls of `rqc_gen_stream_frame`, some of which fail. What is parsed from it
are the bytes that the calls have reported as written.

* `StreamCall`, `runCalls`: the calls on a packet, and what they report (`StreamPiece`).
* `bytesOf`, `endsOf`: the bytes of a stream with their offsets, and where it ends.
* `CallsInv.gen`: one call.
* `genStreamFrame_pos`, `sendLoop_room`: every round of `rqc_stream_send_scalar` writes something, so
  the loop ends.
* **`streamCalls_parse`**: the frames of the packet.
-/

namespace Rquic

/-! ## Calls -/

/-- The arguments of `rqc_gen_stream_frame`. -/
structure StreamCall where
  streamId : ℕ
  offset : ℕ
  fin : Bool
  payload : Bytes
  deriving DecidableEq, Repr

/-- A piece of a stream, and whether the stream ends with it. -/
structure StreamPiece where
  streamId : ℕ
  offset : ℕ
  fin : Bool
  data : Bytes
  deriving DecidableEq, Repr

/-- The frame of a piece. -/
def StreamPiece.frame (w : StreamPiece) : Frame := .stream w.streamId w.offset w.fin w.data

/-- The offset behind a piece. -/
def StreamPiece.last (w : StreamPiece) : ℕ := w.offset + w.data.length

namespace StreamCall

/-- The call on a packet. -/
def gen (c : StreamCall) (po : PacketOut) : Except Errno (PacketOut × ℕ) :=
  genStreamFrame po c.streamId c.offset c.fin c.payload

/-- What a call that has written `n` bytes reports: the end of the stream only with the whole payload. -/
def written (c : StreamCall) (n : ℕ) : StreamPiece :=
  ⟨c.streamId, c.offset, c.fin && n = c.payload.length, c.payload.take n⟩

/-- The packet after the call, and what was written so far. -/
def apply (c : StreamCall) (s : PacketOut × List StreamPiece) : PacketOut × List StreamPiece :=
  match c.gen s.1 with
  | .error _ => s
  | .ok (po, n) => (po, s.2 ++ [c.written n])

end StreamCall

/-- A sequence of calls on a packet. -/
def runCalls (po : PacketOut) (calls : List StreamCall) : PacketOut × List StreamPiece :=
  calls.foldl (fun s c => c.apply s) (po, [])

/-- The bytes of a stream with their offsets. -/
def bytesOf (streamId : ℕ) (ws : List StreamPiece) : List (UInt8 × ℕ) :=
  (ws.filter (·.streamId = streamId)).flatMap fun w => w.data.zipIdx w.offset

/-- Where a stream ends. -/
def endsOf (streamId : ℕ) (ws : List StreamPiece) : List ℕ :=
  (ws.filter fun w => w.streamId = streamId ∧ w.fin = true).map StreamPiece.last

/-- The offset that a stream has reached, if it has begun. -/
def reached (streamId : ℕ) (ws : List StreamPiece) : Option ℕ :=
  ((ws.filter (·.streamId = streamId)).getLast?).map StreamPiece.last

/-- The calls for a stream go on where it stands, and none follows its end. -/
def Continuing (po : PacketOut) (calls : List StreamCall) : Prop :=
  ∀ pre c, pre ++ [c] <+: calls →
    (∀ offset ∈ reached c.streamId (runCalls po pre).2, c.offset = offset) ∧
      endsOf c.streamId (runCalls po pre).2 = []

section Pieces

variable {streamId : ℕ} {ws ws' : List StreamPiece} {w : StreamPiece}

theorem bytesOf_append : bytesOf streamId (ws ++ ws') = bytesOf streamId ws ++ bytesOf streamId ws' := by
  simp only [bytesOf, List.filter_append, List.flatMap_append]

theorem endsOf_append : endsOf streamId (ws ++ ws') = endsOf streamId ws ++ endsOf streamId ws' := by
  simp only [endsOf, List.filter_append, List.map_append]

theorem bytesOf_singleton :
    bytesOf streamId [w] = if w.streamId = streamId then w.data.zipIdx w.offset else [] := by
  by_cases h : w.streamId = streamId <;> simp [bytesOf, h]

theorem endsOf_singleton :
    endsOf streamId [w] = if w.streamId = streamId ∧ w.fin = true then [w.last] else [] := by
  by_cases h : w.streamId = streamId ∧ w.fin = true
  · simp [endsOf, h]
  · rw [if_neg h, endsOf, List.filter_cons_of_neg (by simpa using h)]
    rfl

theorem bytesOf_join {offset offset' : ℕ} {fin fin' fin'' : Bool} {data data' : Bytes} (id : ℕ)
    (h : offset + data.length = offset') :
    bytesOf streamId [⟨id, offset, fin'', data ++ data'⟩] =
      bytesOf streamId [⟨id, offset, fin, data⟩] ++ bytesOf streamId [⟨id, offset', fin', data'⟩] := by
  simp only [bytesOf_singleton]
  split_ifs
  · rw [List.zipIdx_append, ← h]
  · rfl

end Pieces

/-! ## One call -/

/-- A full packet whose last slot has no length field takes no frame. -/
theorem genStreamFrame_of_full {po : PacketOut} (hfull : po.remainedSize = 0)
    (hclosed : ∀ prev, po.poStreamFrames.getLast? = some prev → prev.psLengthOffset = 0)
    (streamId offset : ℕ) (fin : Bool) (payload : Bytes) :
    ∃ err, genStreamFrame po streamId offset fin payload = .error err := by
  have hslot : combineSlot po streamId offset = none := by
    cases hprev : combineSlot po streamId offset with
    | none => rfl
    | some prev =>
        obtain ⟨hlast, -, -, -, hpos⟩ := combineSlot_some hprev
        exact absurd (hclosed prev hlast) hpos.ne'
  unfold genStreamFrame
  split_ifs
  · exact ⟨_, rfl⟩
  · rw [hslot]
    simp only [newStreamFrame, hfull]
    split_ifs <;> first | exact ⟨_, rfl⟩ | omega

/-- The pieces `ps` are parsed from the packet, and are what was written. -/
structure CallsInv (e : ℕ) (po : PacketOut) (ws : List StreamPiece) (segs : List Seg)
    (ps : List StreamPiece) : Prop where
  content : Content e po segs
  slot : SlotInv po segs
  frames : segs.map Prod.fst = ps.map StreamPiece.frame
  bytes : ∀ streamId, bytesOf streamId ps = bytesOf streamId ws
  ends : ∀ streamId, endsOf streamId ps = endsOf streamId ws
  types : .ack ∉ po.poFrameTypes
  size : po.poBufSize ≤ maxPacketOutSize
  closed : po.streamNoLen = true →
    po.remainedSize = 0 ∧ ∀ prev, po.poStreamFrames.getLast? = some prev → prev.psLengthOffset = 0

namespace CallsInv

variable {e n : ℕ} {po po' : PacketOut} {ws ps : List StreamPiece} {segs : List Seg} {c : StreamCall}

theorem init (e : ℕ) (pktType : PktType) {size : ℕ} (header : Bytes) (hsize : size ≤ maxPacketOutSize) :
    CallsInv e (writeNewPacket pktType size header) [] [] [] where
  content := by
    refine ⟨le_rfl, ?_, ?_, by simp [writeNewPacket]⟩
    · simp [PacketOut.payload, writeNewPacket]
    · exact decodesSeq_true.2 (by simp)
  slot := by simp [SlotInv, writeNewPacket]
  frames := rfl
  bytes _ := rfl
  ends _ := rfl
  types := Finset.notMem_empty _
  size := hsize
  closed := by simp [writeNewPacket]

/-- A packet that takes a frame is open, and stays so but for a frame without length. -/
theorem opened (h : CallsInv e po ws segs ps) (hgen : c.gen po = .ok (po', n)) :
    po.streamNoLen = false := by
  by_contra hno
  obtain ⟨hfull, hclosed⟩ := h.closed (Bool.eq_true_of_not_eq_false hno)
  obtain ⟨err, herr⟩ := genStreamFrame_of_full hfull hclosed c.streamId c.offset c.fin c.payload
  rw [StreamCall.gen, herr] at hgen
  cases hgen

theorem closed_gen (h : CallsInv e po ws segs ps) (hgen : c.gen po = .ok (po', n))
    (hno : po'.streamNoLen = true) :
    ∀ prev, po'.poStreamFrames.getLast? = some prev → prev.psLengthOffset = 0 := by
  have hopen := h.opened hgen
  rcases genStreamFrame_cases hgen with ⟨prev, -, hcomb⟩ | ⟨-, -, -, hasLength, -, rfl⟩ | ⟨-, -, rfl⟩
  · obtain ⟨rfl, -⟩ := Prod.mk.inj hcomb
    exact absurd (hopen.symm.trans hno) (by decide)
  · intro prev hprev
    simp only [withStreamFrame] at hprev
    rw [List.getLast?_concat, Option.some.injEq] at hprev
    rw [← hprev]
  · simp [withStreamFrame, hopen] at hno

theorem gen (h : CallsInv e po ws segs ps) (hid : c.streamId < 2 ^ 62) (hoff : c.offset + n < 2 ^ 62)
    (hend : endsOf c.streamId ws = []) (hgen : c.gen po = .ok (po', n)) :
    ∃ segs' ps', CallsInv e po' (ws ++ [c.written n]) segs' ps' := by
  have hopen := h.opened hgen
  obtain ⟨hn, hframe⟩ := genStreamFrame_frame hgen
  obtain ⟨segs', hwritten, hc', hslot'⟩ :=
    genStreamFrame_content h.content h.slot hopen h.size (.inl h.types) hid hoff hgen
  have htypes : .ack ∉ po'.poFrameTypes := by
    have htypes' : po'.poFrameTypes = insert .stream po.poFrameTypes :=
      (congrArg PacketOut.poFrameTypes hframe :)
    rw [htypes', Finset.mem_insert, not_or]
    exact ⟨nofun, h.types⟩
  have hsize : po'.poBufSize ≤ maxPacketOutSize :=
    ((congrArg PacketOut.poBufSize hframe :) : po'.poBufSize = po.poBufSize) ▸ h.size
  have hclosed : po'.streamNoLen = true → po'.remainedSize = 0 ∧
      ∀ prev, po'.poStreamFrames.getLast? = some prev → prev.psLengthOffset = 0 :=
    fun hno => ⟨(hc'.noLen hno).1, h.closed_gen hgen hno⟩
  have hframes := h.frames
  cases hwritten with
  | new _ code =>
      refine ⟨_, ps ++ [c.written n], hc', hslot', ?_, fun id => ?_, fun id => ?_, htypes, hsize, hclosed⟩
      · rw [List.map_append, List.map_append, hframes]
        rfl
      · rw [bytesOf_append, bytesOf_append, h.bytes]
      · rw [endsOf_append, endsOf_append, h.ends]
  | combined pre offset₀ fin₀ data₀ code₀ code hjoin =>
      -- the last piece is the one that grows
      rw [List.map_append] at hframes
      obtain ⟨ps₀, last, rfl, hpre, hlast⟩ := List.append_eq_map_iff.1 hframes
      obtain ⟨w, rfl, hw⟩ := List.map_eq_singleton_iff.1 hlast
      obtain ⟨hsame, rfl, rfl, rfl⟩ := Frame.stream.inj hw
      set d := c.payload.take n with hd
      set ending : Bool := c.fin && decide (n = c.payload.length) with hending
      have hfin : w.fin = false := by
        have hends := h.ends c.streamId
        rw [hend, endsOf_append, endsOf_singleton, List.append_eq_nil_iff] at hends
        by_contra hfin
        rw [if_pos ⟨hsame, Bool.eq_true_of_not_eq_false hfin⟩] at hends
        cases hends.2
      refine ⟨_, ps₀ ++ [⟨c.streamId, w.offset, w.fin || ending, w.data ++ d⟩], hc', hslot', ?_,
        fun id => ?_, fun id => ?_, htypes, hsize, hclosed⟩
      · rw [List.map_append, List.map_append, hpre]
        rfl
      · have hbytes := h.bytes id
        have hw' : w = ⟨c.streamId, w.offset, w.fin, w.data⟩ := by rw [← hsame]
        rw [bytesOf_append, hw'] at hbytes
        rw [bytesOf_append, bytesOf_append, ← hbytes, bytesOf_join c.streamId hjoin, List.append_assoc]
        rfl
      · have hends := h.ends id
        rw [endsOf_append, endsOf_singleton, if_neg (by simp [hfin]), List.append_nil] at hends
        rw [endsOf_append, endsOf_append, hends, hfin, Bool.false_or]
        have hlast' : (⟨c.streamId, w.offset, ending, w.data ++ d⟩ : StreamPiece).last =
            (c.written n).last := by
          change w.offset + (w.data ++ d).length = c.offset + d.length
          rw [List.length_append]
          omega
        simp only [endsOf_singleton, hlast']
        rfl

end CallsInv

/-! ## Sequences of calls -/

section Runs

variable {e : ℕ} {po : PacketOut}

theorem runCalls_append (calls : List StreamCall) (c : StreamCall) :
    runCalls po (calls ++ [c]) = c.apply (runCalls po calls) := by
  rw [runCalls, List.foldl_append]
  rfl

theorem continuing_append (calls : List StreamCall) (c : StreamCall) :
    Continuing po (calls ++ [c]) ↔ Continuing po calls ∧
      (∀ offset ∈ reached c.streamId (runCalls po calls).2, c.offset = offset) ∧
      endsOf c.streamId (runCalls po calls).2 = [] := by
  refine ⟨fun h => ⟨fun pre c' hpre => h pre c' (hpre.trans (List.prefix_append calls [c])),
    h calls c (List.prefix_refl _)⟩, fun ⟨h, hlast⟩ pre c' hpre => ?_⟩
  rcases List.prefix_concat_iff.1 hpre with heq | hpre
  · obtain ⟨rfl, hc⟩ := List.append_inj' heq rfl
    obtain rfl := List.singleton_inj.1 hc
    exact hlast
  · exact h pre c' hpre

/-- **The calls on a packet**, one after the other. -/
theorem CallsInv.run (hinit : CallsInv e po [] [] []) (calls : List StreamCall)
    (hid : ∀ c ∈ calls, c.streamId < 2 ^ 62) (hcont : Continuing po calls)
    (hlast : ∀ w ∈ (runCalls po calls).2, w.last < 2 ^ 62) :
    ∃ segs ps, CallsInv e (runCalls po calls).1 (runCalls po calls).2 segs ps := by
  induction calls using List.reverseRecOn with
  | nil => exact ⟨[], [], hinit⟩
  | append_singleton calls c ih =>
      obtain ⟨hcont', -, hend⟩ := (continuing_append calls c).1 hcont
      have hids := fun c' hc' => hid c' (List.mem_append_left _ hc')
      rw [runCalls_append] at hlast ⊢
      unfold StreamCall.apply at hlast ⊢
      cases hgen : c.gen (runCalls po calls).1 with
      | error err =>
          rw [hgen] at hlast
          exact ih hids hcont' hlast
      | ok r =>
          obtain ⟨po', n⟩ := r
          rw [hgen] at hlast
          obtain ⟨segs, ps, h⟩ := ih hids hcont' fun w hw => hlast w (List.mem_append_left _ hw)
          have hwritten := hlast (c.written n) (List.mem_append_right _ (List.mem_singleton_self _))
          have hn := (genStreamFrame_frame hgen).1
          have hoff : c.offset + n < 2 ^ 62 := by
            unfold StreamPiece.last StreamCall.written at hwritten
            rwa [List.length_take_of_le hn] at hwritten
          exact h.gen (hid c (List.mem_append_right _ (List.mem_singleton_self c))) hoff hend hgen

end Runs

/-! ## Progress -/

/-- A packet with room takes a byte, if there is one. -/
theorem genStreamFrame_pos {po po' : PacketOut} {streamId offset n : ℕ} {fin : Bool} {payload : Bytes}
    (hroom : streamFrameRoom ≤ po.remainedSize) (hpayload : payload ≠ [])
    (h : genStreamFrame po streamId offset fin payload = .ok (po', n)) : 0 < n := by
  have hlen := List.length_pos_iff.2 hpayload
  have hids := streamFrameIds_length streamId offset
  have hfin : (fin && payload.isEmpty) = false := by
    rw [List.isEmpty_eq_false_iff.2 hpayload, Bool.and_false]
  unfold streamFrameRoom at hroom
  unfold genStreamFrame at h
  split_ifs at h
  cases hslot : combineSlot po streamId offset with
  | some prev =>
      rw [hslot] at h
      obtain ⟨-, rfl⟩ := Prod.mk.inj (Except.ok.inj h)
      simp only [hfin]
      rw [if_neg (by decide)]
      omega
  | none =>
      rw [hslot] at h
      simp only [newStreamFrame, hfin] at h
      rw [if_neg (by decide)] at h
      split_ifs at h
      obtain ⟨-, rfl⟩ := Prod.mk.inj (Except.ok.inj h)
      omega

theorem writeStreamFrame_pos {params : PktParams}
    (hroom : params.header.length + streamFrameRoom ≤ params.pktOutSize.1) {s s' : SendQueue}
    {highPri fin : Bool} {streamId offset n : ℕ} {payload : Bytes} (hpayload : payload ≠ [])
    (h : writeStreamFrame s highPri params streamId offset fin payload = .ok (s', n)) : 0 < n := by
  rcases writeStreamFrame_cases h with ⟨id, po, hget, hgen, -⟩ | ⟨po₀, po, hpo₀, hgen, -⟩
  · obtain ⟨-, -, hneed, -⟩ := getPacketOutForStream_some hget
    exact genStreamFrame_pos (le_trans (by decide) hneed) hpayload hgen
  · refine genStreamFrame_pos ?_ hpayload hgen
    unfold PktParams.newPacket at hpo₀
    split_ifs at hpo₀
    obtain rfl := Except.ok.inj hpo₀
    have hpos : 0 < streamFrameRoom := by decide
    unfold PacketOut.remainedSize writeNewPacket
    dsimp only
    split_ifs <;> omega

section Loop

variable {c : Conn} {s : Stream}

/-- A round of the loop writes at least one byte. -/
theorem writeStreamFrameToPacket_pos (hroom : c.HasRoom) {maxSrtt : ℕ} {fin : Bool} {payload : Bytes}
    (hpayload : payload ≠ []) {c' : Conn} {s' : Stream} {n : ℕ}
    (h : writeStreamFrameToPacket c s maxSrtt fin payload = (c', s', .ok n)) : 0 < n := by
  have hroom' : ((raiseFirstWindow c s maxSrtt).1.params .shortHeader).header.length + streamFrameRoom ≤
      ((raiseFirstWindow c s maxSrtt).1.params .shortHeader).pktOutSize.1 :=
    hroom.sends (raiseFirstWindow_sends c s maxSrtt payload fin)
  unfold writeStreamFrameToPacket at h
  dsimp only at h
  split at h
  · cases (Prod.mk.inj (Prod.mk.inj h).2).2
  · rename_i sndq m hwrite
    obtain rfl := Except.ok.inj (Prod.mk.inj (Prod.mk.inj h).2).2
    exact writeStreamFrame_pos hroom' hpayload hwrite

theorem sendLoop_done (maxSrtt : ℕ) {fin : Bool} {data : Bytes} (room : ℕ) {offset : ℕ}
    (h : data.length ≤ offset ∧ ¬ (fin = true ∧ data = [])) :
    sendLoop maxSrtt fin data room c s offset = (c, s, offset, .done) := by
  cases room <;> rw [sendLoop, if_pos h]

theorem loopDone_of_rounds (fin : Bool) {data : Bytes} {offset : ℕ}
    (h : data.length - offset ≤ 0 ∧ (data = [] → 0 < 0)) :
    data.length ≤ offset ∧ ¬ (fin = true ∧ data = []) :=
  ⟨by omega, fun habs => lt_irrefl 0 (h.2 habs.2)⟩

/-- **The loop ends**: it takes at most one round for each byte, whatever the send queue could hold
beyond that. -/
theorem sendLoop_room (maxSrtt : ℕ) (fin : Bool) {data : Bytes} {room room' offset : ℕ}
    (hroom : c.HasRoom) (hrounds : data.length - offset ≤ room ∧ (data = [] → 0 < room))
    (hrounds' : data.length - offset ≤ room' ∧ (data = [] → 0 < room')) :
    sendLoop maxSrtt fin data room c s offset = sendLoop maxSrtt fin data room' c s offset := by
  induction room generalizing c s offset room' with
  | zero =>
      have hdone := loopDone_of_rounds fin hrounds
      rw [sendLoop_done _ _ hdone, sendLoop_done _ _ hdone]
  | succ room ih =>
      by_cases hdone : data.length ≤ offset ∧ ¬ (fin = true ∧ data = [])
      · rw [sendLoop_done _ _ hdone, sendLoop_done _ _ hdone]
      cases room' with
      | zero => exact absurd (loopDone_of_rounds fin hrounds') hdone
      | succ room' =>
          rw [sendLoop, if_neg hdone, sendLoop, if_neg hdone]
          have hflow := streamDoSendFlowCtl_sends c s (data.drop offset) fin
          rcases hf : streamDoSendFlowCtl c s with ⟨c₁, s₁, blocked⟩
          rw [hf] at hflow
          cases blocked with
          | true => rfl
          | false =>
              obtain ⟨c₂, s₂, n, hw, hwrite, -⟩ := writeStreamFrameToPacket_sends
                (s := s₁) (hroom.sends hflow) maxSrtt fin (data.drop offset)
              dsimp only
              rw [hw]
              dsimp only
              by_cases honly : fin = true ∧ data = []
              · rw [if_pos honly, if_pos honly]
              · have hlt : offset < data.length := not_le.1 fun hle => hdone ⟨hle, honly⟩
                have hpayload : data.drop offset ≠ [] := fun habs =>
                  absurd (List.drop_eq_nil_iff.1 habs) (not_le.2 hlt)
                have hpos := writeStreamFrameToPacket_pos (hroom.sends hflow) hpayload hw
                have hdata : data ≠ [] := List.length_pos_iff.1 (by omega)
                rw [if_neg honly, if_neg honly]
                exact ih ((hroom.sends hflow).sends hwrite) ⟨by omega, fun habs => absurd habs hdata⟩
                  ⟨by omega, fun habs => absurd habs hdata⟩

end Loop

/-! ## The frames of a packet -/

/-- **The STREAM frames of a packet.** Any calls are made on a new packet. The frames that are parsed
from it hold, for every stream, the bytes that were reported as written at their offsets, and the ends
of the streams that were written; a call that fails changes nothing; where 50 bytes are left a call with
data writes some, so the loop of `rqc_stream_send_scalar` takes at most a round for each byte. -/
theorem streamCalls_parse (e : ℕ) (pktType : PktType) {size : ℕ} (header : Bytes)
    (calls : List StreamCall) (hsize : size ≤ maxPacketOutSize)
    (hid : ∀ c ∈ calls, c.streamId < 2 ^ 62)
    (hcont : Continuing (writeNewPacket pktType size header) calls)
    (hlast : ∀ w ∈ (runCalls (writeNewPacket pktType size header) calls).2, w.last < 2 ^ 62) :
    let r := runCalls (writeNewPacket pktType size header) calls
    (∃ ps : List StreamPiece, parseFrames e r.1.payload = .ok (ps.map StreamPiece.frame) ∧
      ∀ streamId, bytesOf streamId ps = bytesOf streamId r.2 ∧ endsOf streamId ps = endsOf streamId r.2) ∧
    (∀ c err, c.gen r.1 = .error err →
      parseFrames e (runCalls (writeNewPacket pktType size header) (calls ++ [c])).1.payload =
        parseFrames e r.1.payload) ∧
    (∀ c : StreamCall, c.payload ≠ [] → streamNeed ≤ r.1.remainedSize →
      r.1.poStreamFrames.length < maxStreamFrameInPo → ∃ po n, c.gen r.1 = .ok (po, n) ∧ 0 < n) ∧
    ∀ (conn : Conn) (s : Stream) (maxSrtt : ℕ) (fin : Bool) (data : Bytes) (room : ℕ), conn.HasRoom →
      data.length < room →
        sendLoop maxSrtt fin data room conn s 0 = sendLoop maxSrtt fin data (data.length + 1) conn s 0 := by
  intro r
  obtain ⟨segs, ps, h⟩ := (CallsInv.init e pktType header hsize).run calls hid hcont hlast
  refine ⟨⟨ps, ?_, fun streamId => ⟨h.bytes streamId, h.ends streamId⟩⟩, fun c err hgen => ?_,
    fun c hpayload hroom hslots => ?_, fun conn s maxSrtt fin data room hroom hlt => ?_⟩
  · rw [h.content.parseFrames, h.frames]
  · rw [runCalls_append, StreamCall.apply, hgen]
  · have hroom' : streamFrameRoom ≤ r.1.remainedSize := le_trans (by decide) hroom
    obtain ⟨po, n, hgen, -⟩ := genStreamFrame_fits hroom' hslots c.streamId c.offset c.fin c.payload
    exact ⟨po, n, hgen, genStreamFrame_pos hroom' hpayload hgen⟩
  · exact sendLoop_room maxSrtt fin hroom ⟨by omega, fun _ => by omega⟩ ⟨by omega, fun _ => by omega⟩

/-- Two writes to one stream, one to another that does not fit whole, and one to a third that finds the
packet full. -/
def demoCalls : List StreamCall :=
  [⟨0, 0, false, [1, 2]⟩, ⟨0, 2, true, [3]⟩, ⟨4, 7, true, List.replicate 20 5⟩, ⟨8, 0, true, []⟩]

/-- A packet of 24 bytes. -/
theorem streamCalls_parse_demoCalls :
    (runCalls (writeNewPacket .shortHeader 24 []) demoCalls).2 =
      [⟨0, 0, false, [1, 2]⟩, ⟨0, 2, true, [3]⟩, ⟨4, 7, false, List.replicate 12 5⟩] ∧
    ∃ ps : List StreamPiece,
      parseFrames 3 (runCalls (writeNewPacket .shortHeader 24 []) demoCalls).1.payload =
        .ok (ps.map StreamPiece.frame) := by
  refine ⟨by decide +kernel, ?_⟩
  have hcont : Continuing (writeNewPacket .shortHeader 24 []) demoCalls := by
    have hnil : Continuing (writeNewPacket .shortHeader 24 []) [] := fun pre c hpre => by simp at hpre
    have h₁ := (continuing_append _ ⟨0, 0, false, [1, 2]⟩).2 ⟨hnil, by decide +kernel⟩
    have h₂ := (continuing_append _ ⟨0, 2, true, [3]⟩).2 ⟨h₁, by decide +kernel⟩
    have h₃ := (continuing_append _ ⟨4, 7, true, List.replicate 20 5⟩).2 ⟨h₂, by decide +kernel⟩
    exact (continuing_append _ ⟨8, 0, true, []⟩).2 ⟨h₃, by decide +kernel⟩
  obtain ⟨ps, hps, -⟩ := (streamCalls_parse 3 .shortHeader [] demoCalls (by decide) (by decide +kernel)
    hcont (by decide +kernel)).1
  exact ⟨ps, hps⟩

/-- The last byte that an offset below `2 ^ 62` can stand at is not parsed any more. -/
theorem not_streamCalls_parse :
    ¬ ∀ calls : List StreamCall, (∀ c ∈ calls, c.streamId < 2 ^ 62 ∧ c.offset < 2 ^ 62) →
      Continuing (writeNewPacket .shortHeader 1200 []) calls → ∃ ps : List StreamPiece,
        parseFrames 3 (runCalls (writeNewPacket .shortHeader 1200 []) calls).1.payload =
          .ok (ps.map StreamPiece.frame) := by
  intro hall
  have hcont : Continuing (writeNewPacket .shortHeader 1200 []) [⟨0, 2 ^ 62 - 1, false, [7]⟩] := by
    have hnil : Continuing (writeNewPacket .shortHeader 1200 []) [] := fun pre c hpre => by simp at hpre
    exact (continuing_append [] ⟨0, 2 ^ 62 - 1, false, [7]⟩).2 ⟨hnil, by decide +kernel⟩
  obtain ⟨ps, hps⟩ := hall [⟨0, 2 ^ 62 - 1, false, [7]⟩] (by decide +kernel) hcont
  have herr : parseFrames 3 (runCalls (writeNewPacket .shortHeader 1200 [])
      [⟨0, 2 ^ 62 - 1, false, [7]⟩]).1.payload = .error .illframe := by decide +kernel
  rw [herr] at hps
  cases hps

end Rquic

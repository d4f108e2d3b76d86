import Rquic.PacketOut

set_option autoImplicit false

/-!
# Control frames, back and forth

Every `rqc_gen_*_frame` of a control frame against its `rqc_parse_*_frame`, and the dispatch of
`rqc_process_frames` between them.

* `genConnCloseFrame`: `rqc_gen_conn_close_frame` with all of its arguments.
* `GenCall`: a call of a generator; `GenCall.parser`: the parser that belongs to it.
* **`GenCall.roundTrip`**: what a generator writes is read back by its parser, whatever follows, and the
  first byte leads to this parser.
-/

namespace Rquic

/-- `rqc_gen_conn_close_frame`. -/
def genConnCloseFrame (po : PacketOut) (errCode : ℕ) (isApp : Bool) (frameType : ℕ) :
    Except Errno PacketOut :=
  let need := 1 + (vintBytes errCode).length + (vintBytes frameType).length + (vintBytes 0).length
  if po.remainedSize < need then .error .nobuf
  else
    let code :=
      if isApp then 0x1d :: (vintBytes errCode ++ vintBytes 0)
      else 0x1c :: (vintBytes errCode ++ vintBytes frameType ++ vintBytes 0)
    .ok { po with
      poBuf := po.poBuf ++ code, poFrameTypes := insert .connectionClose po.poFrameTypes }

/-- The callers pass no frame type, and tell application errors by their code. -/
theorem genControlFrame_connClose (po : PacketOut) (errCode : ℕ) :
    genControlFrame po (.connClose errCode) =
      genConnCloseFrame po errCode (requestNoError ≤ errCode) 0 := by
  unfold genControlFrame genConnCloseFrame ControlFrame.need ControlFrame.code
  by_cases happ : requestNoError ≤ errCode <;> simp [happ, ControlFrame.frame, Frame.type]

/-! ## Calls -/

/-- A call of a generator of a control frame. -/
inductive GenCall where
  | control (c : ControlFrame)
  | connClose (errCode : ℕ) (isApp : Bool) (frameType : ℕ)
  deriving DecidableEq, Repr

/-- The parser of a control frame, with the first byte of the frame. -/
def ControlFrame.parser : ControlFrame → UInt8 → Bytes → Except Errno (Frame × Bytes)
  | .ping => fun _ bs => .ok (.ping, bs)
  | .connClose _ => parseConnCloseFrame
  | .resetStream .. => fun _ => parseResetStreamFrame
  | .stopSending .. => fun _ => parseStopSendingFrame
  | .dataBlocked _ => fun _ => parseDataBlockedFrame
  | .streamDataBlocked .. => fun _ => parseStreamDataBlockedFrame
  | .streamsBlocked .. => parseStreamsBlockedFrame
  | .maxData _ => fun _ => parseMaxDataFrame
  | .maxStreamData .. => fun _ => parseMaxStreamDataFrame
  | .maxStreams .. => parseMaxStreamsFrame
  | .pathChallenge _ => fun _ => parsePathFrame .pathChallenge
  | .pathResponse _ => fun _ => parsePathFrame .pathResponse
  | .handshake .. => fun _ => parseHandshakeFrame
  | .datagram _ => fun b bs => parseDatagramFrame (b :: bs)

namespace GenCall

/-- The generator. -/
def run (po : PacketOut) : GenCall → Except Errno PacketOut
  | control c => genControlFrame po c
  | connClose errCode isApp frameType => genConnCloseFrame po errCode isApp frameType

/-- The parser that belongs to the generator. -/
def parser : GenCall → UInt8 → Bytes → Except Errno (Frame × Bytes)
  | control c => c.parser
  | connClose .. => parseConnCloseFrame

/-- The fields as the parser returns them. -/
def frame : GenCall → Frame
  | control c => c.frame
  | connClose errCode .. => .connectionClose errCode

/-- The fields are variable-length integers, and the byte strings fit the buffers of the receiver. -/
def Wf : GenCall → Prop
  | control c => c.Wf
  | connClose errCode _ frameType => errCode < 2 ^ 62 ∧ frameType < 2 ^ 62

end GenCall

/-- The first byte of a control frame leads to its parser. -/
theorem ControlFrame.dispatch (e : ℕ) (c : ControlFrame) : ∃ b body, c.code = b :: body ∧
    ∀ bs, parseFrame e (b :: bs) = c.parser b bs := by
  cases c with
  | connClose errCode =>
      by_cases happ : requestNoError ≤ errCode
      · exact ⟨0x1d, _, by rw [code, if_pos happ], fun bs => rfl⟩
      · exact ⟨0x1c, _, by rw [code, if_neg happ], fun bs => rfl⟩
  | streamsBlocked bidirectional limit => cases bidirectional <;> exact ⟨_, _, rfl, fun bs => rfl⟩
  | maxStreams bidirectional limit => cases bidirectional <;> exact ⟨_, _, rfl, fun bs => rfl⟩
  | _ => exact ⟨_, _, rfl, fun bs => rfl⟩

/-- **A control frame is read back by the parser that its first byte leads to.** -/
theorem GenCall.roundTrip (e : ℕ) (po po' : PacketOut) (g : GenCall) (hwf : g.Wf)
    (h : g.run po = .ok po') :
    ∃ b body, po'.poBuf = po.poBuf ++ b :: body ∧
      (∀ rest, g.parser b (body ++ rest) = .ok (g.frame, rest)) ∧
      ∀ bs, parseFrame e (b :: bs) = g.parser b bs := by
  cases g with
  | control c =>
      obtain ⟨b, body, hcode, hdispatch⟩ := c.dispatch e
      obtain ⟨-, hread⟩ := decodes_control e (c := c) hwf
      refine ⟨b, body, ?_, fun rest => ?_, hdispatch⟩
      · change genControlFrame po c = .ok po' at h
        unfold genControlFrame at h
        split_ifs at h
        rw [← Except.ok.inj h, hcode]
      · have hrest := hread rest
        rw [hcode, List.cons_append, hdispatch] at hrest
        exact hrest
  | connClose errCode isApp frameType =>
      obtain ⟨herr, htype⟩ : errCode < 2 ^ 62 ∧ frameType < 2 ^ 62 := hwf
      have hzero : (0 : ℕ) < 2 ^ 62 := by omega
      change genConnCloseFrame po errCode isApp frameType = .ok po' at h
      unfold genConnCloseFrame at h
      dsimp only at h
      split_ifs at h with hroom happ
      · refine ⟨0x1d, _, by rw [← Except.ok.inj h], fun rest => ?_, fun bs => rfl⟩
        simp [parser, parseConnCloseFrame, frame, readVint_vintBytes herr, readVint_vintBytes hzero]
      · refine ⟨0x1c, _, by rw [← Except.ok.inj h], fun rest => ?_, fun bs => rfl⟩
        simp [parser, parseConnCloseFrame, frame, readVint_vintBytes herr, readVint_vintBytes htype,
          readVint_vintBytes hzero]

theorem GenCall.roundTrip_handshake :
    ∃ po', GenCall.run (writeNewPacket .init 1200 []) (.control (.handshake [104, 51] [1, 1, 5] [])) =
        .ok po' ∧
      ∃ b body, po'.poBuf = b :: body ∧
        (∀ rest, parseHandshakeFrame (body ++ rest) = .ok (.handshake [104, 51] [1, 1, 5] [], rest)) ∧
        ∀ bs, parseFrame 3 (b :: bs) = parseHandshakeFrame bs :=
  ⟨_, rfl, GenCall.roundTrip 3 (writeNewPacket .init 1200 []) _
    (.control (.handshake [104, 51] [1, 1, 5] [])) ⟨by decide, by decide, by decide⟩ rfl⟩

end Rquic

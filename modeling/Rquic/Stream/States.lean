import Mathlib.Logic.Relation
import Rquic.Stream.Recv

set_option autoImplicit false

/-!
# The states of a stream

The state machines of RFC 9000, section 3, and how the receive path moves along them.

* `SendEdge`, `RecvEdge`: the edges of the two halves.
* `SendPath`, `RecvPath`: one call of the source may follow several edges.
* `streamPeek`: `rqc_stream_peek`, which marks a reset stream as read too.
* `*_recvPath`: what a frame or a read does to the receiving half. A RESET_STREAM frame is the
  exception: the handler compares the enumeration values, and `DATA_READ` lies below `RESET_RECVD`.
-/

namespace Rquic

/-! ## Edges -/

/-- The edges of the sending half. -/
inductive SendEdge : SendStreamState → SendStreamState → Prop where
  | send : SendEdge .ready .send
  | dataSent : SendEdge .send .dataSent
  | dataRecvd : SendEdge .dataSent .dataRecvd
  | resetReady : SendEdge .ready .resetSent
  | resetSend : SendEdge .send .resetSent
  | resetDataSent : SendEdge .dataSent .resetSent
  | resetRecvd : SendEdge .resetSent .resetRecvd

/-- The edges of the receiving half. -/
inductive RecvEdge : RecvStreamState → RecvStreamState → Prop where
  | sizeKnown : RecvEdge .recv .sizeKnown
  | dataRecvd : RecvEdge .sizeKnown .dataRecvd
  | dataRead : RecvEdge .dataRecvd .dataRead
  | resetRecv : RecvEdge .recv .resetRecvd
  | resetSizeKnown : RecvEdge .sizeKnown .resetRecvd
  | resetDataRecvd : RecvEdge .dataRecvd .resetRecvd
  | resetRead : RecvEdge .resetRecvd .resetRead

abbrev SendPath : SendStreamState → SendStreamState → Prop := Relation.ReflTransGen SendEdge

abbrev RecvPath : RecvStreamState → RecvStreamState → Prop := Relation.ReflTransGen RecvEdge

/-- The sending half is done. -/
def SendStreamState.Terminal (st : SendStreamState) : Prop := st = .dataRecvd ∨ st = .resetRecvd

/-- The receiving half is done. -/
def RecvStreamState.Terminal (st : RecvStreamState) : Prop := st = .dataRead ∨ st = .resetRead

theorem eq_of_stuck {α : Type} {edge : α → α → Prop} {a b : α}
    (h : Relation.ReflTransGen edge a b) (hstuck : ∀ c, ¬ edge a c) : b = a := by
  cases h.cases_head with
  | inl heq => exact heq.symm
  | inr hstep =>
      obtain ⟨c, hedge, -⟩ := hstep
      exact absurd hedge (hstuck c)

/-- **The terminal states of the sending half are not left.** -/
theorem SendPath.eq_of_terminal {st st' : SendStreamState} (h : SendPath st st') (hst : st.Terminal) :
    st' = st := by
  refine eq_of_stuck h fun next hedge => ?_
  rcases hst with rfl | rfl
  · cases hedge
  · cases hedge

/-- **The terminal states of the receiving half are not left.** -/
theorem RecvPath.eq_of_terminal {st st' : RecvStreamState} (h : RecvPath st st') (hst : st.Terminal) :
    st' = st := by
  refine eq_of_stuck h fun next hedge => ?_
  rcases hst with rfl | rfl
  · cases hedge
  · cases hedge

/-- A state below `RESET_SENT` other than `DATA_RECVD` has an edge to `RESET_SENT`. -/
theorem SendEdge.of_lt_resetSent {st : SendStreamState}
    (hlt : st.toNat < SendStreamState.resetSent.toNat) (hst : st ≠ .dataRecvd) :
    SendEdge st .resetSent := by
  cases st with
  | ready => exact .resetReady
  | send => exact .resetSend
  | dataSent => exact .resetDataSent
  | dataRecvd => exact absurd rfl hst
  | resetSent => simp at hlt
  | resetRecvd => simp [SendStreamState.toNat] at hlt

/-- A state below `RESET_RECVD` other than `DATA_READ` has an edge to `RESET_RECVD`. -/
theorem RecvEdge.of_lt_resetRecvd {st : RecvStreamState}
    (hlt : st.toNat < RecvStreamState.resetRecvd.toNat) (hst : st ≠ .dataRead) :
    RecvEdge st .resetRecvd := by
  cases st with
  | recv => exact .resetRecv
  | sizeKnown => exact .resetSizeKnown
  | dataRecvd => exact .resetDataRecvd
  | dataRead => exact absurd rfl hst
  | resetRecvd => simp at hlt
  | resetRead => simp [RecvStreamState.toNat] at hlt

theorem RecvPath.of_resetRecvd_le {st : RecvStreamState}
    (hle : RecvStreamState.resetRecvd.toNat ≤ st.toNat) : RecvPath st .resetRead := by
  cases st with
  | resetRecvd => exact .single .resetRead
  | resetRead => exact .refl
  | _ => simp [RecvStreamState.toNat] at hle

/-! ## Looking at the data -/

/-- The loop of `rqc_stream_peek`: `out` is copied already, up to `cursor`. -/
def peekLoop (peekBufSize : ℕ) : List StreamFrame → ℕ → Bytes → Bytes
  | [], _, out => out
  | f :: fs, cursor, out =>
    if f.endOffset ≤ cursor then peekLoop peekBufSize fs cursor out
    else if cursor < f.dataOffset ∨ peekBufSize ≤ out.length then out
    else
      let n := min (f.endOffset - cursor) (peekBufSize - out.length)
      peekLoop peekBufSize fs (cursor + n) (out ++ (f.data.drop (cursor - f.dataOffset)).take n)

/-- The outcome of `rqc_stream_peek`. -/
structure PeekResult where
  stream : Stream
  out : Bytes := []
  readableBytes : ℕ := 0
  fin : Bool := false
  ret : Except Errno ℕ

/-- `rqc_stream_peek`. -/
def streamPeek (connType : ConnType) (s : Stream) (peekBufSize : ℕ) : PeekResult :=
  if RecvStreamState.resetRecvd.toNat ≤ s.streamStateRecv.toNat then
    { stream := streamMaybeNeedClose connType
        { s with streamStateRecv := .resetRead, readyToRead := false }
      ret := .error .streamReset }
  else if s.streamDataIn.mergedOffsetEnd < s.streamDataIn.nextReadOffset then
    { stream := { s with readyToRead := false }, ret := .error .state }
  else
    let readable := s.streamDataIn.mergedOffsetEnd - s.streamDataIn.nextReadOffset
    let fin := decide (s.streamDataIn.streamDetermined = true ∧
      s.streamDataIn.mergedOffsetEnd = s.streamDataIn.streamLength)
    let out := peekLoop peekBufSize s.streamDataIn.framesTailq s.streamDataIn.nextReadOffset []
    { stream := { s with readyToRead := false }
      out := out
      readableBytes := readable
      fin := fin
      ret :=
        if out.length < min readable peekBufSize then .error .state
        else if readable = 0 ∧ fin = false then .error .again
        else .ok out.length }

/-! ## The receive path -/

section RecvPath

variable (c : ConnRecv) (s : Stream) (f : StreamFrame)

theorem recordFin_recvPath : RecvPath s.streamStateRecv (recordFin s f).streamStateRecv := by
  unfold recordFin
  split_ifs with hfin hrecv
  · rw [hrecv]
    exact .single .sizeKnown
  · exact .refl
  · exact .refl

theorem processRecvFlowCtl_recvPath :
    RecvPath s.streamStateRecv (processRecvFlowCtl c s f).2.1.streamStateRecv := by
  have hraise : (raiseMaxRecvOffset s f).streamStateRecv = s.streamStateRecv := by
    unfold raiseMaxRecvOffset
    split_ifs <;> rfl
  rw [← hraise]
  unfold processRecvFlowCtl
  dsimp only
  split_ifs with hconn hstream hdone hsize
  · exact .refl
  · exact .refl
  · rw [hsize]
    exact .single .dataRecvd
  · exact .refl
  · exact .refl
  · exact .refl

/-- **A STREAM frame moves the receiving half along its edges.** -/
theorem processStreamFrame_recvPath :
    RecvPath s.streamStateRecv (processStreamFrame c s f).2.1.streamStateRecv := by
  have hfin := recordFin_recvPath s f
  by_cases hst : s.streamStateRecv.toNat < RecvStreamState.resetRecvd.toNat
  · obtain ⟨-, h⟩ | ⟨-, -, h⟩ | ⟨-, -, -, h⟩ | ⟨-, -, -, -, h⟩ | ⟨-, -, -, di, -, h⟩ :=
      processStreamFrame_cases c s f hst
    · rw [h]
    · rw [h]
    · rw [h]
      dsimp only
      split_ifs <;> exact hfin
    · rw [h]
      exact hfin
    · rw [h]
      exact hfin.trans (processRecvFlowCtl_recvPath c { recordFin s f with streamDataIn := di } f)
  · rw [processStreamFrame_of_reset c f hst]

/-- **A RESET_STREAM frame does so too, unless the data were read.** -/
theorem processResetStreamFrame_recvPath (finalSize : ℕ) (hst : s.streamStateRecv ≠ .dataRead) :
    RecvPath s.streamStateRecv (processResetStreamFrame c s finalSize).2.streamStateRecv := by
  unfold processResetStreamFrame
  split_ifs with hlt
  · exact .single (.of_lt_resetRecvd hlt hst)
  · exact .refl

theorem markDataRead_recvPath (connType : ConnType) (fin : Bool) {st : RecvStreamState}
    (hst : s.streamStateRecv = st) : RecvPath st (markDataRead connType fin s).streamStateRecv := by
  unfold markDataRead
  split_ifs with h
  · rw [streamMaybeNeedClose_stateRecv, ← hst, h.2]
    exact .single .dataRead
  · rw [hst]

theorem streamWindowUpdate_stateRecv (env : RecvEnv) :
    (streamWindowUpdate env c s).1.streamStateRecv = s.streamStateRecv := by
  unfold streamWindowUpdate
  dsimp only
  split_ifs <;> rfl

/-- **A read moves the receiving half along its edges.** -/
theorem streamRecv_recvPath (env : RecvEnv) (recvBufSize : ℕ) :
    RecvPath s.streamStateRecv (streamRecv env c s recvBufSize).stream.streamStateRecv := by
  unfold streamRecv
  split_ifs with hle
  · dsimp only
    rw [streamMaybeNeedClose_stateRecv]
    exact .of_resetRecvd_le hle
  · dsimp only [streamDoRecvFlowCtl]
    rw [streamWindowUpdate_stateRecv]
    exact markDataRead_recvPath _ _ _ rfl

/-- **So does a look at the data.** -/
theorem streamPeek_recvPath (connType : ConnType) (peekBufSize : ℕ) :
    RecvPath s.streamStateRecv (streamPeek connType s peekBufSize).stream.streamStateRecv := by
  unfold streamPeek
  split_ifs with hle
  · dsimp only
    rw [streamMaybeNeedClose_stateRecv]
    exact .of_resetRecvd_le hle
  · exact .refl
  · exact .refl

end RecvPath

end Rquic

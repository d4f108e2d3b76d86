import Rquic.Stream.Reassembly
import Rquic.Stream.States

set_option autoImplicit false

/-!
# Looking at the data of a stream

`rqc_stream_peek` walks the list with one cursor for the whole stream; `rqc_stream_recv` walks it
with a cursor in every frame and frees what it has read. Both see the same bytes.

* `peekLoop_spec`: what the loop of the peek copies.
* `PeekEvent`, `peekRun`: runs in which the application also peeks.
* `PeekReady`: what holds along such a run; a reset stream holds no data.
* **`streamPeek_agrees`**: in every state of a run a peek copies, counts and answers what a read
  called next would, and changes neither the buffer nor the windows.
-/

namespace Rquic

/-! ## The loop -/

section Loop

variable {B : ℕ → UInt8} {merged cursor bufSize : ℕ} {frames : List StreamFrame} {out : Bytes}

theorem peekLoop_full (hfull : bufSize ≤ out.length) : peekLoop bufSize frames cursor out = out := by
  induction frames with
  | nil => rfl
  | cons f fs ih =>
      rw [peekLoop, ih, if_pos (Or.inr hfull), ite_self]

/-- Before a gap the loop copies nothing: everything merged has been passed. -/
theorem ListInv.eq_of_gap {f : StreamFrame} (h : ListInv B cursor merged (f :: frames))
    (hgap : cursor < f.dataOffset) : cursor = merged := by
  have hsorted := List.pairwise_cons.1 h.sorted
  have hf : merged < f.dataOffset := by
    by_contra hle
    have := h.head_le (by omega)
    omega
  apply h.next_eq
  intro g hg
  rw [List.mem_cons] at hg
  rcases hg with rfl | hg
  · exact hf
  · exact lt_of_lt_of_le hf (hsorted.1 g hg)

/-- **What a peek copies**: the bytes at the cursor, as many as fit the buffer and are merged. -/
theorem peekLoop_spec (h : ListInv B cursor merged frames) :
    peekLoop bufSize frames cursor out =
      out ++ slice B cursor (min (bufSize - out.length) (merged - cursor)) := by
  induction frames generalizing cursor out with
  | nil =>
      have hcur := h.next_eq (by simp)
      simp [peekLoop, hcur]
  | cons f fs ih =>
      have hf := h.frame f List.mem_cons_self
      rw [peekLoop]
      by_cases hpast : f.endOffset ≤ cursor
      · rw [if_pos hpast, ih (h.tail hpast)]
      rw [if_neg hpast]
      by_cases hgap : cursor < f.dataOffset
      · have hcur := h.eq_of_gap hgap
        rw [if_pos (Or.inl hgap), hcur]
        simp
      by_cases hfull : bufSize ≤ out.length
      · simp [hfull]
      have hclosed := hf.closed (by have := h.next_le; omega)
      rw [if_neg (by omega)]
      dsimp only
      rw [hf.agrees.take_drop (by omega) (by omega) (by omega)]
      by_cases hfit : f.endOffset - cursor ≤ bufSize - out.length
      · -- the rest of the frame fits: the loop goes on behind it
        have hend : cursor + (f.endOffset - cursor) = f.endOffset := by omega
        have htail := (h.advance (by omega) hclosed).tail (le_refl _)
        have hjoin : ∀ n, slice B cursor (f.endOffset - cursor) ++ slice B f.endOffset n =
            slice B cursor (f.endOffset - cursor + n) := fun n => by
          rw [← slice_append, hend]
        rw [min_eq_left hfit, hend, ih htail, List.append_assoc, hjoin, List.length_append,
          length_slice]
        congr 2
        omega
      · -- the buffer is full in the middle of the frame
        rw [min_eq_right (by omega), peekLoop_full (by rw [List.length_append, length_slice]; omega)]
        congr 2
        omega

end Loop

/-! ## Runs with peeks -/

/-- What the application and the peer do to a receiving stream. -/
inductive PeekEvent where
  /-- A frame is processed, a read, or other traffic. -/
  | recv (e : RecvEvent)
  /-- The application peeks. -/
  | peek (bufSize : ℕ)

/-- One event of a run with peeks. -/
def RecvTrace.peekStep (t : RecvTrace) : PeekEvent → RecvTrace
  | .recv e => t.step e
  | .peek bufSize => { t with stream := (streamPeek t.conn.connType t.stream bufSize).stream }

/-- A run with peeks. -/
def peekRun (t : RecvTrace) (es : List PeekEvent) : RecvTrace := es.foldl RecvTrace.peekStep t

/-- The STREAM frames carry bytes of `B`. -/
def CarriesBytes (B : ℕ → UInt8) : PeekEvent → Prop
  | .recv (.deliver offset data _) => data = slice B offset data.length
  | _ => True

instance (B : ℕ → UInt8) : (e : PeekEvent) → Decidable (CarriesBytes B e)
  | .recv (.deliver ..) => inferInstanceAs (Decidable (_ = _))
  | .recv (.reset _) => inferInstanceAs (Decidable True)
  | .recv (.recv ..) => inferInstanceAs (Decidable True)
  | .recv (.other _) => inferInstanceAs (Decidable True)
  | .peek _ => inferInstanceAs (Decidable True)

/-- **What holds along a run with peeks**: a stream that is not reset has a good buffer. -/
def PeekReady (B : ℕ → UInt8) (s : Stream) : Prop :=
  s.streamStateRecv.toNat < RecvStreamState.resetRecvd.toNat →
    ∃ delivered, DataInv B delivered s.streamDataIn

section Run

variable {B : ℕ → UInt8} {s : Stream}

theorem PeekReady.of_reset (h : RecvStreamState.resetRecvd.toNat ≤ s.streamStateRecv.toNat) :
    PeekReady B s := fun hst => by omega

/-- A frame with bytes of `B` keeps a good buffer good, whatever it says about the final size. -/
theorem PeekReady.processStreamFrame (h : PeekReady B s) (c : ConnRecv) {f : StreamFrame}
    (hB : f.Agrees B) (hnro : f.nextReadOffset = 0) :
    PeekReady B (Rquic.processStreamFrame c s f).2.1 := by
  by_cases hst : s.streamStateRecv.toNat < RecvStreamState.resetRecvd.toNat
  · obtain ⟨delivered, hinv⟩ := h hst
    obtain ⟨-, heq⟩ | ⟨-, -, heq⟩ | ⟨-, -, -, heq⟩ | ⟨-, -, -, -, heq⟩ | ⟨-, -, -, di, hins, heq⟩ :=
      processStreamFrame_cases c s f hst
    · rw [heq]
      exact h
    · rw [heq]
      exact h
    · rw [heq]
      refine fun _ => ⟨delivered, ?_⟩
      dsimp only
      split_ifs <;> exact hinv.recordFin
    · rw [heq]
      exact fun _ => ⟨delivered, hinv.recordFin⟩
    · rw [heq]
      refine fun _ => ⟨f :: delivered, ?_⟩
      rw [processRecvFlowCtl_dataIn]
      exact insertStreamFrame_dataInv hinv.recordFin hB hnro hins
  · rw [processStreamFrame_of_reset c f hst]
    exact h

/-- A peek leaves the buffer and the windows of the stream as they are. -/
theorem streamPeek_frame (connType : ConnType) (s : Stream) (k : ℕ) :
    (streamPeek connType s k).stream.streamDataIn = s.streamDataIn ∧
      (streamPeek connType s k).stream.streamFlowCtl = s.streamFlowCtl ∧
      (streamPeek connType s k).stream.streamMaxRecvOffset = s.streamMaxRecvOffset := by
  unfold streamPeek
  split_ifs
  · simp
  · exact ⟨rfl, rfl, rfl⟩
  · exact ⟨rfl, rfl, rfl⟩

theorem PeekReady.streamPeek (h : PeekReady B s) (connType : ConnType) (k : ℕ) :
    PeekReady B (Rquic.streamPeek connType s k).stream := by
  by_cases hst : s.streamStateRecv.toNat < RecvStreamState.resetRecvd.toNat
  · intro _
    rw [(streamPeek_frame connType s k).1]
    exact h hst
  · apply PeekReady.of_reset
    rw [Rquic.streamPeek, if_pos (by omega)]
    simp
    decide

theorem PeekReady.streamRecv (h : PeekReady B s) (env : RecvEnv) (c : ConnRecv) (k : ℕ) :
    PeekReady B (Rquic.streamRecv env c s k).stream := by
  by_cases hst : s.streamStateRecv.toNat < RecvStreamState.resetRecvd.toNat
  · obtain ⟨delivered, hinv⟩ := h hst
    exact fun _ => ⟨delivered, (streamRecv_spec env c k hinv hst).inv⟩
  · apply PeekReady.of_reset
    rw [Rquic.streamRecv, if_pos (by omega)]
    simp
    decide

theorem PeekReady.processResetStreamFrame (h : PeekReady B s) (c : ConnRecv) (finalSize : ℕ) :
    PeekReady B (Rquic.processResetStreamFrame c s finalSize).2 := by
  unfold Rquic.processResetStreamFrame
  split_ifs with hlt
  · exact PeekReady.of_reset (le_refl _)
  · exact h

theorem PeekReady.step {t : RecvTrace} (h : PeekReady B t.stream) {e : PeekEvent}
    (he : CarriesBytes B e) : PeekReady B (t.peekStep e).stream := by
  cases e with
  | peek k => exact h.streamPeek t.conn.connType k
  | recv e =>
      cases e with
      | deliver offset data fin => exact h.processStreamFrame t.conn he rfl
      | reset finalSize => exact h.processResetStreamFrame t.conn finalSize
      | recv env k => exact h.streamRecv env t.conn k
      | other fc => exact h

theorem PeekReady.run {t : RecvTrace} (h : PeekReady B t.stream) {es : List PeekEvent}
    (hes : ∀ e ∈ es, CarriesBytes B e) : PeekReady B (peekRun t es).stream := by
  induction es generalizing t with
  | nil => exact h
  | cons e es ih =>
      apply ih (h.step (hes e List.mem_cons_self))
      intro e' he'
      exact hes e' (List.mem_cons_of_mem _ he')

end Run

/-! ## A peek against a read -/

/-- What a peek with buffer size `k` says, compared with the reads that could come next: it copies
and answers what a read with the same buffer does, it counts and reports FIN as a read with a large
enough buffer does, and it changes neither the buffer nor the windows. -/
structure PeekAgrees (t : RecvTrace) (k : ℕ) (p : PeekResult) : Prop where
  out : ∀ env, p.out = (streamRecv env t.conn t.stream k).out
  ret : ∀ env, p.ret = (streamRecv env t.conn t.stream k).ret
  readable : ∀ env k', p.readableBytes ≤ k' →
    (streamRecv env t.conn t.stream k').out.length = p.readableBytes
  fin : ∀ env k', p.readableBytes ≤ k' → (streamRecv env t.conn t.stream k').fin = p.fin
  dataIn : p.stream.streamDataIn = t.stream.streamDataIn
  flowCtl : p.stream.streamFlowCtl = t.stream.streamFlowCtl
  maxRecv : p.stream.streamMaxRecvOffset = t.stream.streamMaxRecvOffset

theorem peekAgrees_reset {t : RecvTrace} (k : ℕ)
    (hst : RecvStreamState.resetRecvd.toNat ≤ t.stream.streamStateRecv.toNat) :
    PeekAgrees t k (streamPeek t.conn.connType t.stream k) := by
  obtain ⟨hdata, hflow, hmax⟩ := streamPeek_frame t.conn.connType t.stream k
  refine ⟨fun env => ?_, fun env => ?_, fun env k' _ => ?_, fun env k' _ => ?_, hdata, hflow, hmax⟩
  all_goals
    rw [streamRecv, if_pos hst, streamPeek, if_pos hst]
  rfl

theorem streamPeek_data {B : ℕ → UInt8} {delivered : List StreamFrame} {s : Stream} (connType : ConnType)
    (k : ℕ) (h : DataInv B delivered s.streamDataIn)
    (hst : s.streamStateRecv.toNat < RecvStreamState.resetRecvd.toNat) :
    let p := streamPeek connType s k
    p.out = slice B s.streamDataIn.nextReadOffset (readable s.streamDataIn k) ∧
      p.readableBytes = s.streamDataIn.mergedOffsetEnd - s.streamDataIn.nextReadOffset ∧
      p.fin = decide (s.streamDataIn.streamDetermined = true
        ∧ s.streamDataIn.mergedOffsetEnd = s.streamDataIn.streamLength) ∧
      p.ret = if p.readableBytes = 0 ∧ p.fin = false then .error .again
        else .ok (readable s.streamDataIn k) := by
  have hle := h.list.next_le
  have hloop : peekLoop k s.streamDataIn.framesTailq s.streamDataIn.nextReadOffset [] =
      slice B s.streamDataIn.nextReadOffset (readable s.streamDataIn k) := by
    have hspec := @peekLoop_spec B _ _ k _ [] h.list
    simpa [readable] using hspec
  intro p
  have hp : p = streamPeek connType s k := rfl
  rw [streamPeek, if_neg (by omega), if_neg (by omega), hloop] at hp
  rw [hp]
  refine ⟨rfl, rfl, rfl, ?_⟩
  dsimp only
  rw [length_slice, if_neg (by unfold readable; omega)]

theorem peekAgrees_data {B : ℕ → UInt8} {delivered : List StreamFrame} {t : RecvTrace} {k : ℕ}
    (hk : 0 < k) (h : DataInv B delivered t.stream.streamDataIn)
    (hst : t.stream.streamStateRecv.toNat < RecvStreamState.resetRecvd.toNat) :
    PeekAgrees t k (streamPeek t.conn.connType t.stream k) := by
  obtain ⟨hdata, hflow, hmax⟩ := streamPeek_frame t.conn.connType t.stream k
  obtain ⟨hout, hread, hfin, hret⟩ := streamPeek_data t.conn.connType k h hst
  have hspec := fun env k' => streamRecv_spec env t.conn k' h hst
  have hle := h.list.next_le
  -- a read that takes everything ends at the merged end
  have hall : ∀ k', t.stream.streamDataIn.mergedOffsetEnd - t.stream.streamDataIn.nextReadOffset ≤ k' →
      readable t.stream.streamDataIn k' =
        t.stream.streamDataIn.mergedOffsetEnd - t.stream.streamDataIn.nextReadOffset :=
    fun k' hk' => min_eq_right hk'
  refine ⟨fun env => ?_, fun env => ?_, fun env k' hk' => ?_, fun env k' hk' => ?_, hdata, hflow, hmax⟩
  · rw [hout, (hspec env k).out]
  · rw [hret, (hspec env k).ret, hread]
    by_cases hempty : t.stream.streamDataIn.mergedOffsetEnd - t.stream.streamDataIn.nextReadOffset = 0
    · -- nothing is readable: both report FIN at the same offset
      have hzero : readable t.stream.streamDataIn k = 0 := by
        unfold readable
        omega
      have hsame : (streamRecv env t.conn t.stream k).fin =
          (streamPeek t.conn.connType t.stream k).fin := by
        rw [(hspec env k).fin, hfin, (hspec env k).next, hzero, Nat.add_zero,
          show t.stream.streamDataIn.nextReadOffset = t.stream.streamDataIn.mergedOffsetEnd by omega]
      rw [hsame, hzero, hempty]
    · have hpos : readable t.stream.streamDataIn k ≠ 0 := by
        unfold readable
        omega
      rw [if_neg fun hc => hempty hc.1, if_neg fun hc => hpos hc.1]
  · rw [hread] at hk' ⊢
    rw [(hspec env k').out, length_slice, hall k' hk']
  · rw [hread] at hk'
    rw [(hspec env k').fin, hfin, (hspec env k').next, hall k' hk', Nat.add_sub_cancel' hle]

/-- **A peek agrees with the read that could follow it**, in every state that STREAM frames with
bytes of `B`, RESET_STREAM frames, reads and peeks reach from an empty buffer. -/
theorem streamPeek_agrees (B : ℕ → UInt8) (c : ConnRecv) (s : Stream) (hs : s.streamDataIn = {})
    (es : List PeekEvent) (hes : ∀ e ∈ es, CarriesBytes B e) (k : ℕ) (hk : 0 < k) :
    let t := peekRun { conn := c, stream := s } es
    PeekAgrees t k (streamPeek t.conn.connType t.stream k) := by
  intro t
  have hinit : PeekReady B s := fun _ => ⟨[], hs ▸ dataInv_init B⟩
  have hready : PeekReady B t.stream := PeekReady.run (t := { conn := c, stream := s }) hinit hes
  by_cases hst : t.stream.streamStateRecv.toNat < RecvStreamState.resetRecvd.toNat
  · obtain ⟨delivered, hinv⟩ := hready hst
    exact peekAgrees_data hk hinv hst
  · exact peekAgrees_reset k (by omega)

/-- Two frames out of order, a read and a peek that leave a frame partly read: the next peek shows
the two bytes behind the read offset, of the three that are left. -/
theorem streamPeek_agrees_partly_read :
    let es : List PeekEvent :=
      [.recv (.deliver 2 [2, 3, 4] false), .recv (.deliver 0 [0, 1, 2] false), .recv (.recv {} 2),
        .peek 1]
    let t := peekRun { conn := {}, stream := {} } es
    (∀ e ∈ es, CarriesBytes (fun i => UInt8.ofNat i) e) ∧
      PeekAgrees t 2 (streamPeek t.conn.connType t.stream 2) ∧
      (streamPeek t.conn.connType t.stream 2).out = [2, 3] := by
  intro es t
  have hes : ∀ e ∈ es, CarriesBytes (fun i => UInt8.ofNat i) e := by decide
  refine ⟨hes, ?_, by decide⟩
  exact streamPeek_agrees (fun i => UInt8.ofNat i) {} {} rfl es hes 2 (by decide)

end Rquic

import Rquic.Stream.Recv

set_option autoImplicit false

/-!
# Reassembly

Runs of one receiving stream: frames arrive in any order, the application reads in between, and the
rest of the connection moves the shared flow-control counters.

* `RecvEvent`, `RecvTrace.step`, `recvRun`: the events of a run and what they do.
* `processStreamFrame_dataInv`: a delivered frame keeps the invariant of the buffer.
* **`stream_reassembly`**: in every state that a run of data frames and reads reaches, the merged
  end is the longest covered prefix, and the reads have returned the bytes up to the read offset.
-/

namespace Rquic

/-! ## Runs of one receiving stream -/

/-- What can happen to a receiving stream. -/
inductive RecvEvent where
  /-- A STREAM frame of the stream is processed. -/
  | deliver (offset : ℕ) (data : Bytes) (fin : Bool)
  /-- A RESET_STREAM frame of the stream is processed. -/
  | reset (finalSize : ℕ)
  /-- The application reads. -/
  | recv (env : RecvEnv) (bufSize : ℕ)
  /-- Other streams move the flow control of the connection. -/
  | other (fc : ConnFlowCtl)

/-- A stream and its connection, with the history of the run: the frames delivered, newest first,
and the bytes that the reads have returned. -/
structure RecvTrace where
  conn : ConnRecv
  stream : Stream
  delivered : List StreamFrame := []
  returned : Bytes := []

/-- The frame that the parser builds from the fields of a STREAM frame. -/
def wireFrame (offset : ℕ) (data : Bytes) (fin : Bool) : StreamFrame :=
  { data := data, dataOffset := offset, fin := fin }

/-- One event of a run. -/
def RecvTrace.step (t : RecvTrace) : RecvEvent → RecvTrace
  | .deliver offset data fin =>
    let f := wireFrame offset data fin
    let (c, s, _) := processStreamFrame t.conn t.stream f
    { t with conn := c, stream := s, delivered := f :: t.delivered }
  | .reset finalSize =>
    let (c, s) := processResetStreamFrame t.conn t.stream finalSize
    { t with conn := c, stream := s }
  | .recv env bufSize =>
    let r := streamRecv env t.conn t.stream bufSize
    { t with conn := r.conn, stream := r.stream, returned := t.returned ++ r.out }
  | .other fc => { t with conn := { t.conn with connFlowCtl := fc } }

/-- A run from the given state. -/
def recvRun (t : RecvTrace) (es : List RecvEvent) : RecvTrace := es.foldl RecvTrace.step t

@[simp] theorem recvRun_nil (t : RecvTrace) : recvRun t [] = t := rfl

theorem recvRun_append (t : RecvTrace) (es es' : List RecvEvent) :
    recvRun t (es ++ es') = recvRun (recvRun t es) es' := List.foldl_append

/-- A stream that has received nothing yet and that the application has accepted. -/
structure Stream.Fresh (s : Stream) : Prop where
  dataIn : s.streamDataIn = {}
  maxRecv : s.streamMaxRecvOffset = 0
  state : s.streamStateRecv = .recv
  discarded : s.discarded = false

instance (s : Stream) : Decidable s.Fresh :=
  decidable_of_iff (s.streamDataIn = {} ∧ s.streamMaxRecvOffset = 0 ∧ s.streamStateRecv = .recv
    ∧ s.discarded = false) ⟨fun ⟨a, b, c, d⟩ => ⟨a, b, c, d⟩, fun ⟨a, b, c, d⟩ => ⟨a, b, c, d⟩⟩

/-! ## One delivery -/

section Deliver

variable {B : ℕ → UInt8} {delivered : List StreamFrame} {c : ConnRecv} {s : Stream}
  {f : StreamFrame}

/-- **A delivered frame keeps the invariant of the buffer**, unless it contradicts the recorded
final size. -/
theorem processStreamFrame_dataInv (hst : s.streamStateRecv.toNat < RecvStreamState.resetRecvd.toNat)
    (hdis : s.discarded = false) (h : DataInv B delivered s.streamDataIn) (hB : f.Agrees B)
    (hnro : f.nextReadOffset = 0) (hconf : ¬ finalSizeConflict s.streamDataIn f) :
    DataInv B (f :: delivered) (processStreamFrame c s f).2.1.streamDataIn := by
  rcases processStreamFrame_cases c s f hst with
    ⟨hearly, heq⟩ | ⟨-, hc, -⟩ | ⟨-, -, hd, -⟩ | ⟨-, -, -, hins, heq⟩ | ⟨-, -, -, di, hins, heq⟩
  · rw [heq]
    exact h.drop hearly.1
  · exact absurd hc hconf
  · simp [hdis] at hd
  · rw [heq]
    exact h.recordFin.dup hins
  · rw [heq, processRecvFlowCtl_dataIn]
    exact insertStreamFrame_dataInv h.recordFin hB hnro hins

theorem recordFin_not_reset (hst : s.streamStateRecv.toNat < RecvStreamState.resetRecvd.toNat) :
    (recordFin s f).streamStateRecv.toNat < RecvStreamState.resetRecvd.toNat := by
  unfold recordFin
  split_ifs with hfin hrecv
  · exact (by decide : RecvStreamState.sizeKnown.toNat < RecvStreamState.resetRecvd.toNat)
  · exact hst
  · exact hst

/-- A delivery moves neither the read offset nor the discard flag, and it does not reset the
stream. -/
theorem processStreamFrame_frame (c : ConnRecv) (f : StreamFrame)
    (hst : s.streamStateRecv.toNat < RecvStreamState.resetRecvd.toNat)
    (hdis : s.discarded = false) :
    (processStreamFrame c s f).2.1.streamDataIn.nextReadOffset = s.streamDataIn.nextReadOffset ∧
      (processStreamFrame c s f).2.1.discarded = false ∧
      (processStreamFrame c s f).2.1.streamStateRecv.toNat < RecvStreamState.resetRecvd.toNat := by
  have hrec := recordFin_not_reset (f := f) hst
  rcases processStreamFrame_cases c s f hst with
    ⟨-, heq⟩ | ⟨-, -, heq⟩ | ⟨-, -, hd, -⟩ | ⟨-, -, -, -, heq⟩ | ⟨-, -, -, di, hins, heq⟩
  · rw [heq]
    exact ⟨rfl, hdis, hst⟩
  · rw [heq]
    exact ⟨rfl, hdis, hst⟩
  · simp [hdis] at hd
  · rw [heq]
    exact ⟨recordFin_nextReadOffset, by simpa using hdis, hrec⟩
  · rw [heq]
    refine ⟨?_, by simpa using hdis, processRecvFlowCtl_not_reset hrec⟩
    simp [(insertStreamFrame_frame hins).1]

/-- The final size after a delivery: a FIN that is neither dropped nor rejected is recorded. -/
theorem processStreamFrame_size (c : ConnRecv) (f : StreamFrame)
    (hst : s.streamStateRecv.toNat < RecvStreamState.resetRecvd.toNat)
    (hconf : ¬ finalSizeConflict s.streamDataIn f) :
    (processStreamFrame c s f).2.1.streamDataIn.streamDetermined =
        (s.streamDataIn.streamDetermined || (f.fin && !decide (earlyDrop s.streamDataIn f))) ∧
      (processStreamFrame c s f).2.1.streamDataIn.streamLength =
        if f.fin = true ∧ ¬ earlyDrop s.streamDataIn f then f.endOffset
        else s.streamDataIn.streamLength := by
  rcases processStreamFrame_cases c s f hst with
    ⟨hearly, heq⟩ | ⟨-, hc, -⟩ | ⟨hearly, -, -, heq⟩ | ⟨hearly, -, -, hins, heq⟩ |
      ⟨hearly, -, -, di, hins, heq⟩
  · simp [heq, hearly]
  · exact absurd hc hconf
  · rw [heq]
    cases hfin : f.fin <;> simp [recordFin, hfin, hearly]
  · rw [heq]
    cases hfin : f.fin <;> simp [recordFin, hfin, hearly]
  · rw [heq, processRecvFlowCtl_dataIn]
    obtain ⟨-, hlen, hdet⟩ := insertStreamFrame_frame hins
    change di.streamDetermined = _ ∧ di.streamLength = _
    rw [hlen, hdet]
    cases hfin : f.fin <;> simp [recordFin, hfin, hearly]

end Deliver

/-! ## Runs of data frames and reads -/

/-- Frames without FIN whose bytes agree with `B`, reads and other traffic. -/
def DataEvent (B : ℕ → UInt8) : RecvEvent → Prop
  | .deliver offset data fin =>
    fin = false ∧ data = slice B offset data.length ∧ offset + data.length < 2 ^ 62
  | .reset _ => False
  | .recv _ _ => True
  | .other _ => True

instance (B : ℕ → UInt8) : (e : RecvEvent) → Decidable (DataEvent B e)
  | .deliver .. => inferInstanceAs (Decidable (_ ∧ _ ∧ _))
  | .reset _ => inferInstanceAs (Decidable False)
  | .recv .. => inferInstanceAs (Decidable True)
  | .other _ => inferInstanceAs (Decidable True)

/-- What holds along a run of data frames and reads. -/
structure ReassemblyInv (B : ℕ → UInt8) (t : RecvTrace) : Prop where
  dataInv : DataInv B t.delivered t.stream.streamDataIn
  returned : t.returned = slice B 0 t.stream.streamDataIn.nextReadOffset
  discarded : t.stream.discarded = false
  state : t.stream.streamStateRecv.toNat < RecvStreamState.resetRecvd.toNat
  undetermined : t.stream.streamDataIn.streamDetermined = false

section Run

variable {B : ℕ → UInt8}

theorem reassemblyInv_init {s : Stream} (hs : s.Fresh) (c : ConnRecv) :
    ReassemblyInv B { conn := c, stream := s } := by
  obtain ⟨hdi, -, hst, hdis⟩ := hs
  refine ⟨?_, ?_, hdis, ?_, ?_⟩
  · rw [hdi]
    exact dataInv_init B
  · rw [hdi]
    rfl
  · rw [hst]
    decide
  · rw [hdi]

theorem ReassemblyInv.step {t : RecvTrace} (h : ReassemblyInv B t) {e : RecvEvent}
    (he : DataEvent B e) : ReassemblyInv B (t.step e) := by
  obtain ⟨hinv, hret, hdis, hst, hundet⟩ := h
  cases e with
  | deliver offset data fin =>
      obtain ⟨rfl, hdata, -⟩ := he
      have hconf : ¬ finalSizeConflict t.stream.streamDataIn (wireFrame offset data false) := by
        simp [finalSizeConflict, hundet]
      obtain ⟨hnext, hdis', hst'⟩ :=
        processStreamFrame_frame t.conn (wireFrame offset data false) hst hdis
      obtain ⟨hdet, -⟩ :=
        processStreamFrame_size t.conn (wireFrame offset data false) hst hconf
      refine ⟨processStreamFrame_dataInv hst hdis hinv hdata rfl hconf, ?_, hdis', hst', ?_⟩
      · exact hret.trans (by rw [RecvTrace.step, hnext])
      · exact hdet.trans (by simp [hundet, wireFrame])
  | reset finalSize => exact absurd he id
  | recv env k =>
      have hr := streamRecv_spec env t.conn k hinv hst
      refine ⟨hr.inv, ?_, hr.discarded.trans hdis, ?_, hr.determined.trans hundet⟩
      · change t.returned ++ _ = slice B 0 (streamRecv env t.conn t.stream k).stream.streamDataIn.nextReadOffset
        rw [hret, hr.out, hr.next, ← slice_append, Nat.zero_add]
      · change (streamRecv env t.conn t.stream k).stream.streamStateRecv.toNat < _
        rw [hr.state]
        split_ifs
        · decide
        · exact hst
  | other fc => exact ⟨hinv, hret, hdis, hst, hundet⟩

theorem ReassemblyInv.run {t : RecvTrace} (h : ReassemblyInv B t) {es : List RecvEvent}
    (hes : ∀ e ∈ es, DataEvent B e) : ReassemblyInv B (recvRun t es) := by
  induction es generalizing t with
  | nil => exact h
  | cons e es ih =>
      exact ih (h.step (hes e List.mem_cons_self)) fun e' he' => hes e' (List.mem_cons_of_mem _ he')

end Run

/-- The merged end of a good buffer is the longest prefix that the delivered frames cover. -/
theorem DataInv.isGreatest {B : ℕ → UInt8} {delivered : List StreamFrame} {di : StreamDataIn}
    (h : DataInv B delivered di) :
    IsGreatest {n | CoversBelow (delivered.map StreamFrame.seg) n} di.mergedOffsetEnd := by
  refine isGreatest_covered (fun i hi => (h.covers_iff i).2 (Or.inl hi)) fun hcov => ?_
  rcases (h.covers_iff _).1 hcov with hlt | hin
  · omega
  · obtain ⟨f, hf, hlo, hhi⟩ := covers_seg.1 hin
    have := (h.list.frame f hf).closed hlo
    omega

/-- **Reassembly is exact.** In every state that data frames in any order and reads reach: the list
is sorted, the read offset is at most the merged end, the merged end is the length of the longest
prefix covered by the delivered frames, the reads have returned `B` up to the read offset, and a
read with buffer size `k` returns the next `min k (merged - next)` bytes, or EAGAIN for none. -/
theorem stream_reassembly (B : ℕ → UInt8) (c : ConnRecv) (s : Stream) (hs : s.Fresh)
    (es : List RecvEvent) (hes : ∀ e ∈ es, DataEvent B e) :
    let t := recvRun { conn := c, stream := s } es
    let di := t.stream.streamDataIn
    di.framesTailq.Pairwise (fun f g => f.dataOffset ≤ g.dataOffset) ∧
      di.nextReadOffset ≤ di.mergedOffsetEnd ∧
      IsGreatest {n | CoversBelow (t.delivered.map StreamFrame.seg) n} di.mergedOffsetEnd ∧
      t.returned = slice B 0 di.nextReadOffset ∧
      ∀ (env : RecvEnv) (k : ℕ),
        let n := min k (di.mergedOffsetEnd - di.nextReadOffset)
        let r := streamRecv env t.conn t.stream k
        r.out = slice B di.nextReadOffset n ∧
          r.ret = if n = 0 then .error .again else .ok n := by
  intro t di
  have h : ReassemblyInv B t := (reassemblyInv_init hs c).run hes
  refine ⟨h.dataInv.list.sorted, h.dataInv.list.next_le, h.dataInv.isGreatest, h.returned, ?_⟩
  intro env k
  have hr := streamRecv_spec env t.conn k h.dataInv h.state
  have hfin : (streamRecv env t.conn t.stream k).fin = false := by
    rw [hr.fin]
    simp [h.undetermined]
  refine ⟨hr.out, ?_⟩
  rw [hr.ret, hfin]
  simp [readable, di]

/-- Two overlapping frames out of order and a short read: the read returns the first three bytes. -/
theorem stream_reassembly_overlap :
    let es : List RecvEvent := [.deliver 2 [2, 3] false, .deliver 0 [0, 1, 2] false, .recv {} 3]
    (∀ e ∈ es, DataEvent (fun i => UInt8.ofNat i) e) ∧
      (recvRun { conn := {}, stream := {} } es).returned = [0, 1, 2] := by
  intro es
  have hes : ∀ e ∈ es, DataEvent (fun i => UInt8.ofNat i) e := by decide
  refine ⟨hes, ?_⟩
  have h := stream_reassembly (fun i => UInt8.ofNat i) {} {} (by decide) es hes
  rw [h.2.2.2.1]
  decide

end Rquic

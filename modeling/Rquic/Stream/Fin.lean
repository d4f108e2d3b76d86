import Rquic.Stream.Reassembly

set_option autoImplicit false

/-!
# Delivery of the end of a stream

When a FIN takes effect. A frame whose bytes are all merged is dropped before its FIN is looked at,
unless it is empty, so the FIN of a stream can be lost.

* `ConsistentEvent`: the frames of a stream with contents `B` and final length `L`.
* `finHeard`: some FIN frame of the run is empty or arrives while `[0, L)` is not yet covered.
* `FinDelivered`: final size recorded, state DATA_RECVD or later, reads report FIN at `L`.
* `FinInv`: what holds along a run of consistent frames.
* **`finDelivered_iff_finHeard`**: the end of the stream is delivered exactly when it was heard.
-/

namespace Rquic

/-! ## Runs of a stream with a final length -/

/-- Frames of a stream with contents `B` and final length `L`, reads and other traffic. -/
def ConsistentEvent (B : ℕ → UInt8) (L : ℕ) : RecvEvent → Prop
  | .deliver offset data fin =>
    offset + data.length ≤ L ∧ data = slice B offset data.length ∧
      (fin = true → offset + data.length = L)
  | .reset _ => False
  | .recv _ _ => True
  | .other _ => True

instance (B : ℕ → UInt8) (L : ℕ) : (e : RecvEvent) → Decidable (ConsistentEvent B L e)
  | .deliver .. => inferInstanceAs (Decidable (_ ∧ _ ∧ _))
  | .reset _ => inferInstanceAs (Decidable False)
  | .recv .. => inferInstanceAs (Decidable True)
  | .other _ => inferInstanceAs (Decidable True)

/-- The frames that a run delivers. -/
def deliveredFrames : List RecvEvent → List StreamFrame
  | [] => []
  | .deliver offset data fin :: es => wireFrame offset data fin :: deliveredFrames es
  | _ :: es => deliveredFrames es

/-- The segments of the frames that a run delivers. -/
def segments (es : List RecvEvent) : List (ℕ × ℕ) := (deliveredFrames es).map StreamFrame.seg

/-- Every delivered frame stays within the receive limits of the state it meets. -/
def withinRun (t : RecvTrace) : List RecvEvent → Prop
  | [] => True
  | .deliver offset data fin :: es =>
    withinLimits t.conn t.stream (wireFrame offset data fin) ∧
      withinRun (t.step (.deliver offset data fin)) es
  | e :: es => withinRun (t.step e) es

/-- A FIN frame of the run is empty, or it arrives before the frames in front of it cover
`[0, L)`. -/
def finHeard (L : ℕ) (es : List RecvEvent) : Prop :=
  ∃ es₁ es₂ offset data, es = es₁ ++ .deliver offset data true :: es₂ ∧
    (data = [] ∨ ¬ CoversBelow (segments es₁) L)

/-- The end of the stream is delivered: the final size is recorded, the state is DATA_RECVD or
later, a read moves the read offset as far as the buffer and `L` allow, and it reports FIN exactly
when `L` is reached. -/
structure FinDelivered (L : ℕ) (t : RecvTrace) : Prop where
  determined : t.stream.streamDataIn.streamDetermined = true
  length : t.stream.streamDataIn.streamLength = L
  state : RecvStreamState.dataRecvd.toNat ≤ t.stream.streamStateRecv.toNat
  next : ∀ env k, (streamRecv env t.conn t.stream k).stream.streamDataIn.nextReadOffset =
    min (t.stream.streamDataIn.nextReadOffset + k) L
  fin : ∀ env k, (streamRecv env t.conn t.stream k).fin = true ↔
    (streamRecv env t.conn t.stream k).stream.streamDataIn.nextReadOffset = L

/-! ## Appending an event -/

theorem deliveredFrames_append (es es' : List RecvEvent) :
    deliveredFrames (es ++ es') = deliveredFrames es ++ deliveredFrames es' := by
  induction es with
  | nil => rfl
  | cons e es ih => cases e <;> simp [deliveredFrames, ih]

theorem withinRun_append (t : RecvTrace) (es es' : List RecvEvent) :
    withinRun t (es ++ es') ↔ withinRun t es ∧ withinRun (recvRun t es) es' := by
  induction es generalizing t with
  | nil => simp [withinRun]
  | cons e es ih =>
      rw [recvRun, List.foldl_cons, ← recvRun]
      cases e <;> simp [withinRun, ih, and_assoc]

theorem finHeard_append_singleton {L : ℕ} {es : List RecvEvent} {e : RecvEvent} :
    finHeard L (es ++ [e]) ↔ finHeard L es ∨
      ∃ offset data, e = .deliver offset data true ∧
        (data = [] ∨ ¬ CoversBelow (segments es) L) := by
  constructor
  · rintro ⟨es₁, es₂, offset, data, heq, hor⟩
    rcases List.eq_nil_or_concat es₂ with rfl | ⟨es₂', e', rfl⟩
    · obtain ⟨rfl, he⟩ := List.append_inj' heq rfl
      simp only [List.cons.injEq, and_true] at he
      exact Or.inr ⟨offset, data, he, hor⟩
    · rw [List.concat_eq_append, ← List.cons_append, ← List.append_assoc] at heq
      obtain ⟨hes, -⟩ := List.append_inj' heq rfl
      exact Or.inl ⟨es₁, es₂', offset, data, hes, hor⟩
  · rintro (⟨es₁, es₂, offset, data, rfl, hor⟩ | ⟨offset, data, rfl, hor⟩)
    · exact ⟨es₁, es₂ ++ [e], offset, data, by simp, hor⟩
    · exact ⟨es, [], offset, data, rfl, hor⟩

/-- An event that delivers no frame. -/
def RecvEvent.silent : RecvEvent → Bool
  | .deliver .. => false
  | _ => true

theorem segments_append_deliver (es : List RecvEvent) (offset : ℕ) (data : Bytes) (fin : Bool) :
    segments (es ++ [.deliver offset data fin]) =
      segments es ++ [(wireFrame offset data fin).seg] := by
  simp [segments, deliveredFrames_append, deliveredFrames]

theorem segments_append_silent (es : List RecvEvent) {e : RecvEvent} (he : e.silent = true) :
    segments (es ++ [e]) = segments es := by
  cases e <;> simp_all [segments, deliveredFrames_append, deliveredFrames, RecvEvent.silent]

theorem finHeard_append_silent {L : ℕ} {es : List RecvEvent} {e : RecvEvent}
    (he : e.silent = true) : finHeard L (es ++ [e]) ↔ finHeard L es := by
  rw [finHeard_append_singleton]
  cases e <;> simp_all [RecvEvent.silent]

/-! ## The invariant -/

/-- The receive state that goes with the final size and the merged end. -/
def finState (L : ℕ) (di : StreamDataIn) (st : RecvStreamState) : Prop :=
  (di.streamDetermined = false ∧ st = .recv) ∨
    (di.streamDetermined = true ∧ di.mergedOffsetEnd < L ∧ st = .sizeKnown) ∨
    (di.streamDetermined = true ∧ di.mergedOffsetEnd = L ∧ (st = .dataRecvd ∨ st = .dataRead))

/-- What holds along a run of consistent frames within the limits. -/
structure FinInv (B : ℕ → UInt8) (L : ℕ) (es : List RecvEvent) (t : RecvTrace) : Prop where
  dataInv : DataInv B t.delivered t.stream.streamDataIn
  discarded : t.stream.discarded = false
  not_reset : t.stream.streamStateRecv.toNat < RecvStreamState.resetRecvd.toNat
  inside : ∀ f ∈ t.delivered, f.endOffset ≤ L
  covers : ∀ i, Covers (t.delivered.map StreamFrame.seg) i ↔ Covers (segments es) i
  determined_iff : t.stream.streamDataIn.streamDetermined = true ↔ finHeard L es
  length : t.stream.streamDataIn.streamLength =
    if t.stream.streamDataIn.streamDetermined = true then L else 0
  state : finState L t.stream.streamDataIn t.stream.streamStateRecv

section Inv

variable {B : ℕ → UInt8} {L : ℕ} {es : List RecvEvent} {t : RecvTrace}

theorem DataInv.merged_le {delivered : List StreamFrame} {di : StreamDataIn}
    (h : DataInv B delivered di) (hin : ∀ f ∈ delivered, f.endOffset ≤ L) :
    di.mergedOffsetEnd ≤ L := by
  by_contra hlt
  obtain ⟨f, hf, -, hhi⟩ := covers_seg.1 ((h.covers_iff L).2 (Or.inl (by omega)))
  have := hin f hf
  omega

theorem FinInv.coversBelow_iff (h : FinInv B L es t) :
    CoversBelow (segments es) L ↔ t.stream.streamDataIn.mergedOffsetEnd = L := by
  have hle := h.dataInv.merged_le h.inside
  have hbelow : CoversBelow (segments es) L ↔
      CoversBelow (t.delivered.map StreamFrame.seg) L := by
    simp only [CoversBelow, h.covers]
  rw [hbelow]
  obtain ⟨hcov, hmax⟩ := h.dataInv.isGreatest
  constructor
  · intro hL
    exact le_antisymm hle (hmax hL)
  · intro hL
    exact hL ▸ hcov

theorem finInv_init {s : Stream} (hs : s.Fresh) (c : ConnRecv) :
    FinInv B L [] { conn := c, stream := s } := by
  obtain ⟨hdi, -, hst, hdis⟩ := hs
  refine ⟨?_, hdis, ?_, by simp, by simp [segments, deliveredFrames], ?_, ?_, Or.inl ⟨?_, hst⟩⟩
  · rw [hdi]
    exact dataInv_init B
  · rw [hst]
    decide
  · rw [hdi]
    simp [finHeard]
  · rw [hdi]
    simp
  · rw [hdi]

/-! ## One delivery -/

section Deliver

variable {delivered : List StreamFrame} {c : ConnRecv} {s : Stream} {f : StreamFrame}

/-- The final size and the state after the FIN of a consistent frame has been looked at. -/
theorem recordFin_finState (hstate : finState L s.streamDataIn s.streamStateRecv)
    (hlen : s.streamDataIn.streamLength =
      if s.streamDataIn.streamDetermined = true then L else 0)
    (hfin : f.fin = true → f.endOffset = L) :
    ((recordFin s f).streamDataIn.streamDetermined = false ∧
      (recordFin s f).streamStateRecv = .recv) ∨
    ((recordFin s f).streamDataIn.streamDetermined = true ∧
      (recordFin s f).streamDataIn.streamLength = L ∧
      ((recordFin s f).streamStateRecv = .sizeKnown ∨
        s.streamDataIn.mergedOffsetEnd = L ∧
          ((recordFin s f).streamStateRecv = .dataRecvd ∨
            (recordFin s f).streamStateRecv = .dataRead))) := by
  cases hf : f.fin with
  | false =>
      rw [recordFin_of_not_fin hf]
      rcases hstate with ⟨hdet, hst⟩ | ⟨hdet, -, hst⟩ | ⟨hdet, hm, hst⟩
      · exact Or.inl ⟨hdet, hst⟩
      · exact Or.inr ⟨hdet, by simp [hlen, hdet], Or.inl hst⟩
      · exact Or.inr ⟨hdet, by simp [hlen, hdet], Or.inr ⟨hm, hst⟩⟩
  | true =>
      have hL := hfin hf
      rcases hstate with ⟨-, hst⟩ | ⟨-, -, hst⟩ | ⟨-, hm, hst⟩
      · simp [recordFin, hf, hst, hL]
      · simp [recordFin, hf, hst, hL]
      · rcases hst with hst | hst <;> simp [recordFin, hf, hst, hL, hm]

/-- **One consistent delivery** keeps the receive state in step with the final size. -/
theorem processStreamFrame_finState
    (hst : s.streamStateRecv.toNat < RecvStreamState.resetRecvd.toNat)
    (hdis : s.discarded = false) (h : DataInv B delivered s.streamDataIn)
    (hB : f.Agrees B) (hnro : f.nextReadOffset = 0) (hin : ∀ g ∈ delivered, g.endOffset ≤ L)
    (hlen : s.streamDataIn.streamLength =
      if s.streamDataIn.streamDetermined = true then L else 0)
    (hstate : finState L s.streamDataIn s.streamStateRecv) (hend : f.endOffset ≤ L)
    (hfin : f.fin = true → f.endOffset = L) (hlim : withinLimits c s f)
    (hconf : ¬ finalSizeConflict s.streamDataIn f) :
    finState L (processStreamFrame c s f).2.1.streamDataIn
      (processStreamFrame c s f).2.1.streamStateRecv := by
  have hm := h.merged_le hin
  rcases processStreamFrame_cases c s f hst with
    ⟨-, heq⟩ | ⟨-, hc, -⟩ | ⟨-, -, hd, -⟩ | ⟨hearly, -, -, hins, heq⟩ | ⟨hearly, -, -, di, hins, heq⟩
  · rw [heq]
    exact hstate
  · exact absurd hc hconf
  · simp [hdis] at hd
  · -- a duplicate is not empty, so it ends behind the merged part
    obtain ⟨-, hlen0, -⟩ := insertStreamFrame_error hins
    have hlt : s.streamDataIn.mergedOffsetEnd < L := by
      by_contra hge
      exact hearly ⟨by omega, fun hf => by omega⟩
    rw [heq]
    rcases recordFin_finState hstate hlen hfin with hrec | ⟨hdet, -, hst' | ⟨hmL, -⟩⟩
    · exact Or.inl hrec
    · exact Or.inr (Or.inl ⟨hdet, by simpa using hlt, hst'⟩)
    · omega
  · have hinv' := insertStreamFrame_dataInv h.recordFin hB hnro hins
    have hm' : di.mergedOffsetEnd ≤ L := hinv'.merged_le fun g hg => by
      rw [List.mem_cons] at hg
      rcases hg with rfl | hg
      · exact hend
      · exact hin g hg
    have hmono : s.streamDataIn.mergedOffsetEnd ≤ di.mergedOffsetEnd := by
      simpa using insertStreamFrame_merged_le hins
    obtain ⟨-, hdlen, hddet⟩ := insertStreamFrame_frame hins
    rw [heq, processRecvFlowCtl_dataIn, processRecvFlowCtl_stateRecv (by
      simpa [withinLimits, countRecved] using hlim)]
    change finState L di (if di.streamDetermined = true ∧ di.streamLength = di.mergedOffsetEnd ∧
      (recordFin s f).streamStateRecv = .sizeKnown then .dataRecvd
      else (recordFin s f).streamStateRecv)
    rw [hdlen, hddet]
    unfold finState
    rw [hddet]
    rcases recordFin_finState hstate hlen hfin with ⟨hdet, hst'⟩ | ⟨hdet, hlenL, hst' | ⟨hmL, hst'⟩⟩
    · simp [hdet, hst']
    · by_cases hdone : di.mergedOffsetEnd = L
      · simp [hdet, hlenL, hst', hdone]
      · have hne : ¬ L = di.mergedOffsetEnd := fun h => hdone h.symm
        simp only [hdet, hlenL, hst', hne, false_and, and_false, if_false]
        exact Or.inr (Or.inl ⟨trivial, by omega, trivial⟩)
    · have hdone : di.mergedOffsetEnd = L := by omega
      rcases hst' with hst' | hst' <;> simp [hdet, hlenL, hst', hdone]

end Deliver

/-- Reads and other traffic keep the invariant, if they keep the buffer and the state in step. -/
theorem FinInv.silent (h : FinInv B L es t) {e : RecvEvent} (he : e.silent = true) {t' : RecvTrace}
    (hd : t'.delivered = t.delivered) (hinv : DataInv B t.delivered t'.stream.streamDataIn)
    (hdis : t'.stream.discarded = t.stream.discarded)
    (hst : t'.stream.streamStateRecv.toNat < RecvStreamState.resetRecvd.toNat)
    (hdet : t'.stream.streamDataIn.streamDetermined = t.stream.streamDataIn.streamDetermined)
    (hlen : t'.stream.streamDataIn.streamLength = t.stream.streamDataIn.streamLength)
    (hstate : finState L t'.stream.streamDataIn t'.stream.streamStateRecv) :
    FinInv B L (es ++ [e]) t' where
  dataInv := hd ▸ hinv
  discarded := hdis.trans h.discarded
  not_reset := hst
  inside := hd ▸ h.inside
  covers := by
    rw [hd, segments_append_silent es he]
    exact h.covers
  determined_iff := by
    rw [finHeard_append_silent he, hdet]
    exact h.determined_iff
  length := by
    rw [hlen, hdet]
    exact h.length
  state := hstate

/-- A consistent frame is heard exactly when it carries a FIN and is not dropped early. -/
theorem FinInv.heard_deliver (h : FinInv B L es t) {offset : ℕ} {data : Bytes} {fin : Bool}
    (hfin : fin = true → offset + data.length = L) :
    finHeard L (es ++ [.deliver offset data fin]) ↔ finHeard L es ∨
      (fin = true ∧ ¬ earlyDrop t.stream.streamDataIn (wireFrame offset data fin)) := by
  have hcov := h.coversBelow_iff
  have hle := h.dataInv.merged_le h.inside
  have hend : (wireFrame offset data fin).endOffset = offset + data.length := rfl
  rw [finHeard_append_singleton]
  constructor
  · rintro (hh | ⟨o, d, heq, hor⟩)
    · exact Or.inl hh
    · obtain ⟨rfl, rfl, rfl⟩ : offset = o ∧ data = d ∧ fin = true := by simpa using heq
      by_cases hdet : finHeard L es
      · exact Or.inl hdet
      · -- no FIN was recorded, so the length still reads zero
        refine Or.inr ⟨rfl, fun hdrop => ?_⟩
        have hlen : t.stream.streamDataIn.streamLength = 0 := by
          rw [h.length, if_neg (fun hd => hdet (h.determined_iff.1 hd))]
        rcases hor with rfl | hnot
        · exact hdrop.2 ⟨rfl, rfl, hlen⟩
        · have hL := hfin rfl
          have := hdrop.1
          exact hnot (hcov.2 (by omega))
  · rintro (hh | ⟨rfl, hdrop⟩)
    · exact Or.inl hh
    · refine Or.inr ⟨offset, data, rfl, ?_⟩
      have hL := hfin rfl
      by_cases hmerged : t.stream.streamDataIn.mergedOffsetEnd = L
      · -- the frame was let through although its bytes are merged: it is the empty one
        left
        by_contra hne
        refine hdrop ⟨by omega, fun hexc => hne (List.length_eq_zero_iff.1 hexc.2.1)⟩
      · exact Or.inr fun hc => hmerged (hcov.1 hc)

/-- **One event** keeps the invariant. -/
theorem FinInv.step (h : FinInv B L es t) {e : RecvEvent} (he : ConsistentEvent B L e)
    (hlim : withinRun t [e]) : FinInv B L (es ++ [e]) (t.step e) := by
  cases e with
  | deliver offset data fin =>
      obtain ⟨hend, hdata, hfin⟩ := he
      have hheard := h.heard_deliver hfin
      obtain ⟨hinv, hdis, hst, hin, hsegs, hdet, hlen, hstate⟩ := h
      set f := wireFrame offset data fin with hf
      have hendL : f.endOffset ≤ L := hend
      have hconf : ¬ finalSizeConflict t.stream.streamDataIn f := by
        rintro ⟨hd, hor⟩
        rw [if_pos hd] at hlen
        rw [hlen] at hor
        rcases hor with ⟨hff, hne⟩ | hlt
        · exact hne (hfin hff).symm
        · omega
      obtain ⟨-, hdis', hst'⟩ := processStreamFrame_frame t.conn f hst hdis
      obtain ⟨hdet', hlen'⟩ := processStreamFrame_size t.conn f hst hconf
      refine ⟨processStreamFrame_dataInv hst hdis hinv hdata rfl hconf, hdis', hst', ?_, ?_, ?_, ?_,
        processStreamFrame_finState hst hdis hinv hdata rfl hin hlen hstate hend hfin hlim.1 hconf⟩
      · intro g hg
        rcases List.mem_cons.1 hg with rfl | hg
        · exact hend
        · exact hin g hg
      · intro i
        change Covers ((f :: t.delivered).map StreamFrame.seg) i ↔ _
        rw [segments_append_deliver, List.map_cons, covers_cons, covers_append, hsegs, or_comm]
        simp [covers_cons, not_covers_nil, ← hf]
      · change (processStreamFrame t.conn t.stream f).2.1.streamDataIn.streamDetermined = true ↔ _
        rw [hheard, hdet', ← hdet]
        simp [hf, wireFrame]
      · change (processStreamFrame t.conn t.stream f).2.1.streamDataIn.streamLength =
          if (processStreamFrame t.conn t.stream f).2.1.streamDataIn.streamDetermined = true then L
          else 0
        rw [hdet', hlen', hlen]
        by_cases hrec : f.fin = true ∧ ¬ earlyDrop t.stream.streamDataIn f
        · rw [if_pos hrec, if_pos (by simp [hrec])]
          exact hfin hrec.1
        · rw [if_neg hrec]
          have hno : (f.fin && !decide (earlyDrop t.stream.streamDataIn f)) = false := by
            cases hff : f.fin with
            | false => rfl
            | true => simpa using not_not.1 fun hne => hrec ⟨hff, hne⟩
          rw [hno, Bool.or_false]
  | reset finalSize => exact absurd he id
  | recv env k =>
      have hr := streamRecv_spec env t.conn k h.dataInv h.not_reset
      have hstate := h.state
      refine h.silent rfl rfl hr.inv hr.discarded ?_ hr.determined hr.length ?_
      · change (streamRecv env t.conn t.stream k).stream.streamStateRecv.toNat < _
        rw [hr.state]
        split_ifs
        · decide
        · exact h.not_reset
      · change finState L (streamRecv env t.conn t.stream k).stream.streamDataIn
          (streamRecv env t.conn t.stream k).stream.streamStateRecv
        rw [hr.state]
        unfold finState at hstate ⊢
        rw [hr.determined, hr.merged]
        split_ifs with hread
        · simp_all
        · exact hstate
  | other fc =>
      exact h.silent rfl rfl h.dataInv rfl h.not_reset rfl rfl h.state

/-- **A run** of consistent frames keeps the invariant. -/
theorem finInv_run {s : Stream} (hs : s.Fresh) (c : ConnRecv)
    (hes : ∀ e ∈ es, ConsistentEvent B L e) (hlim : withinRun { conn := c, stream := s } es) :
    FinInv B L es (recvRun { conn := c, stream := s } es) := by
  induction es using List.reverseRecOn with
  | nil => exact finInv_init hs c
  | append_singleton es e ih =>
      rw [withinRun_append] at hlim
      have h := ih (fun e' he' => hes e' (List.mem_append_left _ he')) hlim.1
      rw [recvRun_append]
      exact h.step (hes e (by simp)) hlim.2

end Inv

/-! ## Delivery of the end -/

/-- **The end of a stream is delivered exactly when it was heard.** Take a stream with contents `B`
and final length `L` and any run of its frames within the receive limits and of reads. Once the
frames delivered cover `[0, L)` and one of them had FIN, the end of the stream is delivered if and
only if some FIN frame was empty or arrived before the frames in front of it covered `[0, L)`. -/
theorem finDelivered_iff_finHeard (B : ℕ → UInt8) (L : ℕ) (c : ConnRecv) (s : Stream)
    (hs : s.Fresh) (es : List RecvEvent) (hes : ∀ e ∈ es, ConsistentEvent B L e)
    (hlim : withinRun { conn := c, stream := s } es) (hcov : CoversBelow (segments es) L)
    (_hfin : ∃ f ∈ deliveredFrames es, f.fin = true) :
    FinDelivered L (recvRun { conn := c, stream := s } es) ↔ finHeard L es := by
  have h := finInv_run hs c hes hlim
  set t := recvRun { conn := c, stream := s } es
  rw [← h.determined_iff]
  constructor
  · exact fun hd => hd.determined
  · intro hdet
    have hmerged := h.coversBelow_iff.1 hcov
    have hlen : t.stream.streamDataIn.streamLength = L := by rw [h.length, if_pos hdet]
    have hnext := h.dataInv.list.next_le
    refine ⟨hdet, hlen, ?_, fun env k => ?_, fun env k => ?_⟩
    · rcases h.state with ⟨hno, -⟩ | ⟨-, hlt, -⟩ | ⟨-, -, hst⟩
      · simp [hdet] at hno
      · omega
      · rcases hst with hst | hst
        · rw [hst]
        · rw [hst]
          decide
    · rw [(streamRecv_spec env t.conn k h.dataInv h.not_reset).next, readable]
      omega
    · have hr := streamRecv_spec env t.conn k h.dataInv h.not_reset
      rw [hr.fin, hdet, hlen]
      simp

/-- The FIN travels with the second half of the stream, which arrives first. -/
theorem finDelivered_out_of_order :
    let c : ConnRecv := { connFlowCtl := { maxDataCanRecv := 8 } }
    let s : Stream := { streamFlowCtl := { maxStreamDataCanRecv := 8 } }
    let es : List RecvEvent := [.deliver 1 [7] true, .deliver 0 [7] false]
    (∀ e ∈ es, ConsistentEvent (fun _ => 7) 2 e) ∧ withinRun { conn := c, stream := s } es ∧
      CoversBelow (segments es) 2 ∧ FinDelivered 2 (recvRun { conn := c, stream := s } es) := by
  intro c s es
  have hes : ∀ e ∈ es, ConsistentEvent (fun _ => 7) 2 e := by decide
  have hlim : withinRun { conn := c, stream := s } es := ⟨by decide, by decide, trivial⟩
  have hcov : CoversBelow (segments es) 2 := by decide
  refine ⟨hes, hlim, hcov, ?_⟩
  refine (finDelivered_iff_finHeard _ 2 c s (by decide) es hes hlim hcov (by decide)).2 ?_
  exact ⟨[], [.deliver 0 [7] false], 1, [7], rfl, Or.inr (by decide)⟩

/-- A FIN on a frame whose byte has been received is lost: the stream is never determined. -/
theorem fin_on_received_frame_lost :
    let c : ConnRecv := { connFlowCtl := { maxDataCanRecv := 8 } }
    let s : Stream := { streamFlowCtl := { maxStreamDataCanRecv := 8 } }
    let es : List RecvEvent := [.deliver 0 [7] false, .deliver 0 [7] true]
    let t := recvRun { conn := c, stream := s } es
    s.Fresh ∧ (∀ e ∈ es, ConsistentEvent (fun _ => 7) 1 e) ∧
      withinRun { conn := c, stream := s } es ∧ CoversBelow (segments es) 1 ∧
      (∃ f ∈ deliveredFrames es, f.fin = true) ∧
      t.stream.streamDataIn.streamDetermined = false ∧ t.stream.streamStateRecv = .recv ∧
      (streamRecv {} t.conn t.stream 8).fin = false ∧
      (streamRecv {} t.conn t.stream 8).stream.streamDataIn.nextReadOffset = 1 ∧
      ¬ FinDelivered 1 t := by
  refine ⟨by decide, by decide, ⟨by decide, by decide, trivial⟩, by decide, by decide, by decide,
    by decide, by decide, by decide, fun h => ?_⟩
  exact absurd h.determined (by decide)

end Rquic

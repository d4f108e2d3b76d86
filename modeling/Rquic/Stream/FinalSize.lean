import Rquic.Stream.Fin

set_option autoImplicit false

/-!
# Final size

The peer announces the final size of a stream in FIN frames and in RESET_STREAM frames. The handler
compares a frame with the size it has recorded only on one branch: the stream is not reset, the
frame is not dropped early, and a FIN has been recorded before.

* `announcedSizes`: the final sizes that the events of a run announce.
* `SizesAgree`: all announced sizes are equal and nothing beyond them has been accepted.
* `contradicts`, `comparesSize`: a frame against the law, and the branch that compares.
* `BufInv`: no frame in the list reaches beyond the highest offset received.
* **`sizeLaw_iff_sizesCompared`**: the law holds along a run, and every frame against it is answered
  with FINAL_SIZE_ERROR, exactly when every such frame meets the branch that compares.
-/

namespace Rquic

/-! ## The law -/

/-- The final size that an event announces. -/
def announcedSize : RecvEvent → Option ℕ
  | .deliver offset data true => some (offset + data.length)
  | .reset finalSize => some finalSize
  | _ => none

/-- The final sizes that a run announces. -/
def announcedSizes (es : List RecvEvent) : List ℕ := es.filterMap announcedSize

/-- All announced sizes are equal, and nothing beyond them has been accepted. -/
structure SizesAgree (sizes : List ℕ) (s : Stream) : Prop where
  equal : ∀ F ∈ sizes, ∀ F' ∈ sizes, F = F'
  bound : ∀ F ∈ sizes, s.streamMaxRecvOffset ≤ F ∧ s.streamDataIn.mergedOffsetEnd ≤ F
  determined : s.streamDataIn.streamDetermined = true →
    s.streamMaxRecvOffset ≤ s.streamDataIn.streamLength ∧
      s.streamDataIn.mergedOffsetEnd ≤ s.streamDataIn.streamLength

/-- The event contradicts the sizes announced before or the data received. A frame without FIN does
so only while the stream still takes data. -/
def contradicts (sizes : List ℕ) (s : Stream) : RecvEvent → Prop
  | .deliver offset data fin =>
    (fin = true ∧ ((∃ F ∈ sizes, F ≠ offset + data.length) ∨
        offset + data.length < s.streamMaxRecvOffset)) ∨
      (s.streamStateRecv.toNat < RecvStreamState.resetRecvd.toNat ∧
        ∃ F ∈ sizes, F < offset + data.length)
  | .reset finalSize => (∃ F ∈ sizes, F ≠ finalSize) ∨ finalSize < s.streamMaxRecvOffset
  | .recv _ _ => False
  | .other _ => False

/-- The event meets the branch that compares it with the recorded size: a STREAM frame on a stream
that is not reset, not dropped early, after a FIN has been recorded. -/
def comparesSize (s : Stream) : RecvEvent → Prop
  | .deliver offset data fin =>
    s.streamStateRecv.toNat < RecvStreamState.resetRecvd.toNat ∧
      ¬ earlyDrop s.streamDataIn (wireFrame offset data fin) ∧
      s.streamDataIn.streamDetermined = true
  | _ => False

/-- The law along a run: in every state without a connection error the sizes agree, and an event
against them raises FINAL_SIZE_ERROR. -/
def sizeLaw (t : RecvTrace) (es : List RecvEvent) : Prop :=
  (∀ es₁ es₂, es = es₁ ++ es₂ → (recvRun t es₁).conn.connErr = none →
      SizesAgree (announcedSizes es₁) (recvRun t es₁).stream) ∧
  ∀ es₁ e es₂, es = es₁ ++ e :: es₂ → (recvRun t es₁).conn.connErr = none →
    contradicts (announcedSizes es₁) (recvRun t es₁).stream e →
      (recvRun t (es₁ ++ [e])).conn.connErr = some .finalSizeError

/-- Every event of the run that contradicts the sizes meets the branch that compares. -/
def sizesCompared (t : RecvTrace) (es : List RecvEvent) : Prop :=
  ∀ es₁ e es₂, es = es₁ ++ e :: es₂ → (recvRun t es₁).conn.connErr = none →
    contradicts (announcedSizes es₁) (recvRun t es₁).stream e →
      comparesSize (recvRun t es₁).stream e

/-! ## Nothing lies beyond the highest offset received -/

/-- No frame in the list and no merged byte lies beyond `M`. -/
structure BufInv (M : ℕ) (di : StreamDataIn) : Prop where
  frames : ∀ f ∈ di.framesTailq, f.endOffset ≤ M
  merged : di.mergedOffsetEnd ≤ M

theorem mergeFrom_le {M merged : ℕ} {frames : List StreamFrame} (hm : merged ≤ M)
    (hf : ∀ f ∈ frames, f.endOffset ≤ M) : mergeFrom merged frames ≤ M := by
  induction frames generalizing merged with
  | nil => exact hm
  | cons f fs ih =>
      simp only [mergeFrom]
      split_ifs
      · exact ih (max_le (hf f List.mem_cons_self) hm)
          fun g hg => hf g (List.mem_cons_of_mem _ hg)
      · exact hm

section Buf

variable {M : ℕ} {di di' : StreamDataIn} {new : StreamFrame}

theorem BufInv.mono {M' : ℕ} (h : BufInv M di) (hle : M ≤ M') : BufInv M' di :=
  ⟨fun f hf => le_trans (h.frames f hf) hle, le_trans h.merged hle⟩

theorem BufInv.insert (h : BufInv M di) (hnew : new.endOffset ≤ M)
    (hok : insertStreamFrame di new = .ok di') : BufInv M di' := by
  obtain ⟨before, after, hsplit, -, -, rfl⟩ := insertStreamFrame_ok hok
  have hframes := h.frames
  rw [hsplit] at hframes
  constructor
  · intro f hf
    rw [List.mem_append, List.mem_cons] at hf
    rcases hf with hf | rfl | hf
    · exact hframes f (List.mem_append_left _ hf)
    · exact hnew
    · exact hframes f (List.mem_append_right _ hf)
  · change (if _ then _ else _) ≤ M
    split_ifs
    · exact mergeFrom_le hnew fun f hf => hframes f (List.mem_append_right _ hf)
    · exact h.merged

/-- The reading loop frees frames and moves a cursor, it moves no frame. -/
theorem recvLoop_mem (merged bufSize next : ℕ) (frames : List StreamFrame) (out : Bytes) :
    ∀ f ∈ (recvLoop merged bufSize frames next out).1, ∃ g ∈ frames, f.endOffset = g.endOffset := by
  induction frames generalizing next out with
  | nil => simp [recvLoop]
  | cons g fs ih =>
      intro f hf
      have htail : ∀ next out, f ∈ (recvLoop merged bufSize fs next out).1 →
          ∃ g' ∈ g :: fs, f.endOffset = g'.endOffset := by
        intro next out hf
        obtain ⟨g', hg', he⟩ := ih next out f hf
        exact ⟨g', List.mem_cons_of_mem _ hg', he⟩
      rw [recvLoop] at hf
      by_cases hgap : merged < g.dataOffset
      · rw [if_pos hgap] at hf
        exact ⟨f, hf, rfl⟩
      rw [if_neg hgap] at hf
      by_cases hfull : bufSize ≤ out.length
      · rw [if_pos hfull] at hf
        exact ⟨f, hf, rfl⟩
      rw [if_neg hfull] at hf
      by_cases hread : g.endOffset < next
      · rw [if_pos hread] at hf
        exact htail _ _ hf
      rw [if_neg hread] at hf
      dsimp only at hf
      split_ifs at hf
      all_goals first
        | exact htail _ _ hf
        | · rcases List.mem_cons.1 hf with rfl | hf
            · exact ⟨g, List.mem_cons_self, rfl⟩
            · exact ⟨f, List.mem_cons_of_mem _ hf, rfl⟩

/-- A read moves neither the merged end nor the final size, and it raises no error. -/
theorem streamRecv_frame (env : RecvEnv) (c : ConnRecv) (s : Stream) (k : ℕ) :
    (streamRecv env c s k).stream.streamDataIn.mergedOffsetEnd = s.streamDataIn.mergedOffsetEnd ∧
      (streamRecv env c s k).stream.streamDataIn.streamLength = s.streamDataIn.streamLength ∧
      (streamRecv env c s k).stream.streamDataIn.streamDetermined =
        s.streamDataIn.streamDetermined ∧
      (streamRecv env c s k).stream.streamMaxRecvOffset = s.streamMaxRecvOffset ∧
      (streamRecv env c s k).conn.connErr = c.connErr := by
  unfold streamRecv
  split_ifs <;> simp

theorem BufInv.read (env : RecvEnv) (c : ConnRecv) (s : Stream) (k : ℕ)
    (h : BufInv M s.streamDataIn) : BufInv M (streamRecv env c s k).stream.streamDataIn := by
  constructor
  · intro f hf
    unfold streamRecv at hf
    split_ifs at hf
    · exact h.frames f (by simpa using hf)
    · simp only [streamDoRecvFlowCtl_dataIn, markDataRead_dataIn] at hf
      obtain ⟨g, hg, he⟩ := recvLoop_mem _ _ _ _ _ f hf
      exact he ▸ h.frames g hg
  · rw [(streamRecv_frame env c s k).1]
    exact h.merged

end Buf

section Steps

variable {c : ConnRecv} {s : Stream} {f : StreamFrame}

/-- A delivery raises the highest offset at most to the end of the frame. -/
theorem processStreamFrame_maxRecv_le (c : ConnRecv) (s : Stream) (f : StreamFrame) :
    (processStreamFrame c s f).2.1.streamMaxRecvOffset ≤
      max s.streamMaxRecvOffset f.endOffset := by
  by_cases hst : s.streamStateRecv.toNat < RecvStreamState.resetRecvd.toNat
  · rcases processStreamFrame_cases c s f hst with
      ⟨-, heq⟩ | ⟨-, -, heq⟩ | ⟨-, -, -, heq⟩ | ⟨-, -, -, -, heq⟩ | ⟨-, -, -, di, -, heq⟩
    · rw [heq]
      exact le_max_left _ _
    · rw [heq]
      exact le_max_left _ _
    · rw [heq]
      cases f.fin <;> simp
    · rw [heq]
      simp
    · rw [heq]
      simp
  · rw [processStreamFrame_of_reset c f hst]
    exact le_max_left _ _

theorem BufInv.deliver (c : ConnRecv) (f : StreamFrame)
    (h : BufInv s.streamMaxRecvOffset s.streamDataIn) :
    BufInv (processStreamFrame c s f).2.1.streamMaxRecvOffset
      (processStreamFrame c s f).2.1.streamDataIn := by
  have hrec : BufInv s.streamMaxRecvOffset (recordFin s f).streamDataIn :=
    ⟨by simpa using h.frames, by simpa using h.merged⟩
  by_cases hst : s.streamStateRecv.toNat < RecvStreamState.resetRecvd.toNat
  · rcases processStreamFrame_cases c s f hst with
      ⟨-, heq⟩ | ⟨-, -, heq⟩ | ⟨-, -, -, heq⟩ | ⟨-, -, -, -, heq⟩ | ⟨-, -, -, di, hins, heq⟩
    · rw [heq]
      exact h
    · rw [heq]
      exact h
    · rw [heq]
      cases f.fin <;> simpa using hrec
    · rw [heq]
      simpa using hrec
    · rw [heq, processRecvFlowCtl_dataIn, processRecvFlowCtl_maxRecvOffset]
      have hmax : s.streamMaxRecvOffset ≤ max s.streamMaxRecvOffset f.endOffset := le_max_left _ _
      simpa using (hrec.mono hmax).insert (le_max_right _ _) hins
  · rw [processStreamFrame_of_reset c f hst]
    exact h

/-- A FINAL_SIZE_ERROR is raised exactly on the branch that finds a conflict. -/
theorem processStreamFrame_connErr (hc : c.connErr = none) :
    (processStreamFrame c s f).1.connErr = some .finalSizeError ↔
      s.streamStateRecv.toNat < RecvStreamState.resetRecvd.toNat ∧
        ¬ earlyDrop s.streamDataIn f ∧ finalSizeConflict s.streamDataIn f := by
  by_cases hst : s.streamStateRecv.toNat < RecvStreamState.resetRecvd.toNat
  · rcases processStreamFrame_cases c s f hst with
      ⟨he, heq⟩ | ⟨he, hf, heq⟩ | ⟨he, hf, -, heq⟩ | ⟨he, hf, -, -, heq⟩ | ⟨he, hf, -, di, -, heq⟩
    · simp [heq, he, hc]
    · simp [heq, he, hf, hst, ConnRecv.raise, hc]
    · simp [heq, hf, hc]
    · simp [heq, hf, hc]
    · rw [heq]
      simp only [processRecvFlowCtl]
      split_ifs <;> simp [ConnRecv.raise, hc, hf]
  · rw [processStreamFrame_of_reset c f hst]
    simp [hc, hst]

/-- The recorded final size is one that was announced. -/
def sizeRecorded (sizes : List ℕ) (s : Stream) : Prop :=
  s.streamDataIn.streamDetermined = true → s.streamDataIn.streamLength ∈ sizes

theorem processStreamFrame_sizeRecorded {sizes : List ℕ} (c : ConnRecv) (f : StreamFrame)
    (h : sizeRecorded sizes s) :
    sizeRecorded (sizes ++ if f.fin then [f.endOffset] else [])
      (processStreamFrame c s f).2.1 := by
  have hkeep : sizeRecorded (sizes ++ if f.fin then [f.endOffset] else []) s :=
    fun hdet => List.mem_append_left _ (h hdet)
  have hrec : sizeRecorded (sizes ++ if f.fin then [f.endOffset] else []) (recordFin s f) := by
    cases hfin : f.fin with
    | false =>
        rw [recordFin_of_not_fin hfin]
        simpa [hfin] using hkeep
    | true => simp [sizeRecorded, recordFin, hfin]
  by_cases hst : s.streamStateRecv.toNat < RecvStreamState.resetRecvd.toNat
  · rcases processStreamFrame_cases c s f hst with
      ⟨-, heq⟩ | ⟨-, -, heq⟩ | ⟨-, -, -, heq⟩ | ⟨-, -, -, -, heq⟩ | ⟨-, -, -, di, hins, heq⟩
    · rw [heq]
      exact hkeep
    · rw [heq]
      exact hkeep
    · rw [heq]
      cases hfin : f.fin <;> simpa [hfin, sizeRecorded] using hrec
    · rw [heq]
      exact hrec
    · obtain ⟨-, hlen, hdet⟩ := insertStreamFrame_frame hins
      rw [heq, sizeRecorded, processRecvFlowCtl_dataIn]
      change di.streamDetermined = true → di.streamLength ∈ _
      rw [hlen, hdet]
      exact hrec
  · rw [processStreamFrame_of_reset c f hst]
    exact hkeep

theorem processStreamFrame_connErr_of_some {err : TraErr} (c : ConnRecv) (s : Stream)
    (f : StreamFrame) (hc : c.connErr = some err) :
    (processStreamFrame c s f).1.connErr = some err := by
  have hraise : ∀ x, (c.raise x).connErr = some err := fun x => by simp [ConnRecv.raise, hc]
  by_cases hst : s.streamStateRecv.toNat < RecvStreamState.resetRecvd.toNat
  · rcases processStreamFrame_cases c s f hst with
      ⟨-, heq⟩ | ⟨-, -, heq⟩ | ⟨-, -, -, heq⟩ | ⟨-, -, -, -, heq⟩ | ⟨-, -, -, di, -, heq⟩
    · rw [heq]
      exact hc
    · rw [heq]
      exact hraise _
    · rw [heq]
      exact hc
    · rw [heq]
      exact hc
    · rw [heq]
      simp only [processRecvFlowCtl]
      split_ifs <;> simp [ConnRecv.raise, hc]
  · rw [processStreamFrame_of_reset c f hst]
    exact hc

end Steps

/-! ## Runs -/

section Run

variable {t : RecvTrace} {es : List RecvEvent}

theorem announcedSizes_append (es es' : List RecvEvent) :
    announcedSizes (es ++ es') = announcedSizes es ++ announcedSizes es' := by
  simp [announcedSizes]

theorem announcedSizes_deliver (offset : ℕ) (data : Bytes) (fin : Bool) :
    announcedSizes [.deliver offset data fin] =
      if fin then [(wireFrame offset data fin).endOffset] else [] := by
  cases fin <;> rfl

theorem processResetStreamFrame_connErr (c : ConnRecv) (s : Stream) (finalSize : ℕ) :
    (processResetStreamFrame c s finalSize).1.connErr = c.connErr := by
  unfold processResetStreamFrame
  split_ifs <;> rfl

/-- A reset moves neither the merged end, the highest offset nor the recorded size. -/
theorem processResetStreamFrame_frame (c : ConnRecv) (s : Stream) (finalSize : ℕ) :
    (processResetStreamFrame c s finalSize).2.streamDataIn.mergedOffsetEnd =
        s.streamDataIn.mergedOffsetEnd ∧
      (processResetStreamFrame c s finalSize).2.streamDataIn.streamLength =
        s.streamDataIn.streamLength ∧
      (processResetStreamFrame c s finalSize).2.streamDataIn.streamDetermined =
        s.streamDataIn.streamDetermined ∧
      (processResetStreamFrame c s finalSize).2.streamMaxRecvOffset = s.streamMaxRecvOffset := by
  unfold processResetStreamFrame
  split_ifs <;> simp

/-- An event that has not raised an error meets a connection without one. -/
theorem step_connErr_none {e : RecvEvent} (h : (t.step e).conn.connErr = none) :
    t.conn.connErr = none := by
  by_contra hne
  obtain ⟨err, herr⟩ := Option.ne_none_iff_exists'.1 hne
  cases e with
  | deliver offset data fin =>
      have hsome := processStreamFrame_connErr_of_some t.conn t.stream
        (wireFrame offset data fin) herr
      change (processStreamFrame t.conn t.stream _).1.connErr = none at h
      rw [hsome] at h
      exact absurd h (by simp)
  | reset finalSize => exact hne ((processResetStreamFrame_connErr _ _ _).symm.trans h)
  | recv env k => exact hne ((streamRecv_frame env t.conn t.stream k).2.2.2.2.symm.trans h)
  | other fc => exact hne h

theorem bufInv_run (h : BufInv t.stream.streamMaxRecvOffset t.stream.streamDataIn)
    (es : List RecvEvent) : BufInv (recvRun t es).stream.streamMaxRecvOffset
      (recvRun t es).stream.streamDataIn := by
  induction es generalizing t with
  | nil => exact h
  | cons e es ih =>
      refine ih ?_
      cases e with
      | deliver offset data fin => exact h.deliver t.conn _
      | reset finalSize =>
          obtain ⟨hm, -, -, hmax⟩ := processResetStreamFrame_frame t.conn t.stream finalSize
          change BufInv (processResetStreamFrame t.conn t.stream finalSize).2.streamMaxRecvOffset
            (processResetStreamFrame t.conn t.stream finalSize).2.streamDataIn
          refine ⟨fun f hf => ?_, hm ▸ hmax ▸ h.merged⟩
          rw [hmax]
          unfold processResetStreamFrame at hf
          split_ifs at hf
          · simp at hf
          · exact h.frames f hf
      | recv env k =>
          have hr := h.read env t.conn t.stream k
          rw [← (streamRecv_frame env t.conn t.stream k).2.2.2.1] at hr
          exact hr
      | other fc => exact h

theorem SizesAgree.intro {sizes : List ℕ} {s : Stream}
    (hbuf : BufInv s.streamMaxRecvOffset s.streamDataIn) (hrec : sizeRecorded sizes s)
    (heq : ∀ F ∈ sizes, ∀ F' ∈ sizes, F = F') (hmax : ∀ F ∈ sizes, s.streamMaxRecvOffset ≤ F) :
    SizesAgree sizes s where
  equal := heq
  bound := fun F hF => ⟨hmax F hF, le_trans hbuf.merged (hmax F hF)⟩
  determined := fun hdet =>
    ⟨hmax _ (hrec hdet), le_trans hbuf.merged (hmax _ (hrec hdet))⟩

theorem sizes_append_singleton {sizes : List ℕ} {F : ℕ} (h : ∀ F' ∈ sizes, F' = F) :
    ∀ F₁ ∈ sizes ++ [F], ∀ F₂ ∈ sizes ++ [F], F₁ = F₂ := by
  have hall : ∀ F' ∈ sizes ++ [F], F' = F := by
    intro F' hF'
    rw [List.mem_append, List.mem_singleton] at hF'
    rcases hF' with hF' | rfl
    · exact h F' hF'
    · rfl
  intro F₁ h₁ F₂ h₂
  rw [hall F₁ h₁, hall F₂ h₂]

/-- **One event** that does not contradict the sizes keeps the law. -/
theorem SizesAgree.step {sizes : List ℕ} {e : RecvEvent} (h : SizesAgree sizes t.stream)
    (hbuf : BufInv t.stream.streamMaxRecvOffset t.stream.streamDataIn)
    (hrec : sizeRecorded sizes t.stream) (hno : ¬ contradicts sizes t.stream e) :
    SizesAgree (sizes ++ announcedSizes [e]) (t.step e).stream ∧
      sizeRecorded (sizes ++ announcedSizes [e]) (t.step e).stream := by
  have hbuf' : BufInv (t.step e).stream.streamMaxRecvOffset (t.step e).stream.streamDataIn :=
    bufInv_run hbuf [e]
  cases e with
  | deliver offset data fin =>
      set f := wireFrame offset data fin with hf
      have hrec' := processStreamFrame_sizeRecorded t.conn f hrec
      change sizeRecorded _ (t.step (.deliver offset data fin)).stream at hrec'
      rw [announcedSizes_deliver, ← hf]
      change sizeRecorded (sizes ++ if fin = true then [f.endOffset] else []) _ at hrec'
      refine ⟨SizesAgree.intro hbuf' hrec' ?_ ?_, hrec'⟩
      · cases fin with
        | false => simpa using h.equal
        | true =>
            refine sizes_append_singleton fun F hF => ?_
            by_contra hne
            exact hno (Or.inl ⟨rfl, Or.inl ⟨F, hF, hne⟩⟩)
      · -- the highest offset grows at most to the end of the frame, which no size forbids
        intro F hF
        change (processStreamFrame t.conn t.stream f).2.1.streamMaxRecvOffset ≤ F
        have hcases : F ∈ sizes ∨ fin = true ∧ F = f.endOffset := by
          cases fin <;> simpa using hF
        have hmaxF : t.stream.streamMaxRecvOffset ≤ F := by
          rcases hcases with hF | ⟨hfin, rfl⟩
          · exact (h.bound F hF).1
          · by_contra hlt
            exact hno (Or.inl ⟨hfin, Or.inr (Nat.lt_of_not_le hlt)⟩)
        by_cases hst : t.stream.streamStateRecv.toNat < RecvStreamState.resetRecvd.toNat
        · refine le_trans (processStreamFrame_maxRecv_le t.conn t.stream f) (max_le hmaxF ?_)
          rcases hcases with hF | ⟨-, rfl⟩
          · by_contra hlt
            exact hno (Or.inr ⟨hst, F, hF, Nat.lt_of_not_le hlt⟩)
          · exact le_refl _
        · rw [processStreamFrame_of_reset t.conn f hst]
          exact hmaxF
  | reset finalSize =>
      obtain ⟨-, hlen, hdet, hmax⟩ := processResetStreamFrame_frame t.conn t.stream finalSize
      have hrec' : sizeRecorded (sizes ++ [finalSize]) (t.step (.reset finalSize)).stream := by
        intro hd
        change (processResetStreamFrame t.conn t.stream finalSize).2.streamDataIn.streamLength ∈ _
        rw [hlen]
        exact List.mem_append_left _ (hrec (hdet.symm.trans hd))
      have hall : ∀ F ∈ sizes, F = finalSize := by
        intro F hF
        by_contra hne
        exact hno (Or.inl ⟨F, hF, hne⟩)
      refine ⟨SizesAgree.intro hbuf' hrec' (sizes_append_singleton hall) fun F hF => ?_, hrec'⟩
      have hF' : F = finalSize := by
        rcases List.mem_append.1 hF with hF | hF
        · exact hall F hF
        · exact List.mem_singleton.1 hF
      change (processResetStreamFrame t.conn t.stream finalSize).2.streamMaxRecvOffset ≤ F
      rw [hmax, hF']
      by_contra hlt
      exact hno (Or.inr (Nat.lt_of_not_le hlt))
  | recv env k =>
      obtain ⟨-, hlen, hdet, hmax, -⟩ := streamRecv_frame env t.conn t.stream k
      change SizesAgree (sizes ++ []) _ ∧ sizeRecorded (sizes ++ []) _
      rw [List.append_nil]
      have hrec' : sizeRecorded sizes (t.step (.recv env k)).stream := by
        intro hd
        change (streamRecv env t.conn t.stream k).stream.streamDataIn.streamLength ∈ _
        rw [hlen]
        exact hrec (hdet.symm.trans hd)
      refine ⟨SizesAgree.intro hbuf' hrec' h.equal fun F hF => ?_, hrec'⟩
      exact hmax.le.trans (h.bound F hF).1
  | other fc =>
      change SizesAgree (sizes ++ []) t.stream ∧ sizeRecorded (sizes ++ []) t.stream
      rw [List.append_nil]
      exact ⟨h, hrec⟩

/-- Where the sizes agree, a contradicting event that is compared is a conflict, so it raises
FINAL_SIZE_ERROR. -/
theorem SizesAgree.answered {sizes : List ℕ} {e : RecvEvent} (h : SizesAgree sizes t.stream)
    (hrec : sizeRecorded sizes t.stream) (herr : t.conn.connErr = none)
    (hcon : contradicts sizes t.stream e) (hcmp : comparesSize t.stream e) :
    (t.step e).conn.connErr = some .finalSizeError := by
  cases e with
  | deliver offset data fin =>
      obtain ⟨hst, hearly, hdet⟩ := hcmp
      have hmem := hrec hdet
      refine (processStreamFrame_connErr herr).2 ⟨hst, hearly, hdet, ?_⟩
      change (fin = true ∧ _ ≠ offset + data.length) ∨ _ < offset + data.length
      rcases hcon with ⟨hfin, ⟨F, hF, hne⟩ | hlt⟩ | ⟨-, F, hF, hlt⟩
      · exact Or.inl ⟨hfin, h.equal F hF _ hmem ▸ hne⟩
      · have := (h.bound _ hmem).1
        exact Or.inl ⟨hfin, by omega⟩
      · exact Or.inr (h.equal F hF _ hmem ▸ hlt)
  | reset finalSize => exact absurd hcmp id
  | recv env k => exact absurd hcmp id
  | other fc => exact absurd hcmp id

/-- A FINAL_SIZE_ERROR is raised only by an event that is compared. -/
theorem comparesSize_of_connErr {e : RecvEvent} (herr : t.conn.connErr = none)
    (h : (t.step e).conn.connErr = some .finalSizeError) : comparesSize t.stream e := by
  cases e with
  | deliver offset data fin =>
      obtain ⟨hst, hearly, hdet, -⟩ := (processStreamFrame_connErr herr).1 h
      exact ⟨hst, hearly, hdet⟩
  | reset finalSize =>
      have := (processResetStreamFrame_connErr t.conn t.stream finalSize).symm.trans h
      simp [herr] at this
  | recv env k =>
      have := (streamRecv_frame env t.conn t.stream k).2.2.2.2.symm.trans h
      simp [herr] at this
  | other fc => exact absurd (herr.symm.trans h) (by simp)

end Run

/-! ## The law along runs -/

theorem recvRun_append_singleton (t : RecvTrace) (es : List RecvEvent) (e : RecvEvent) :
    recvRun t (es ++ [e]) = (recvRun t es).step e := by
  rw [recvRun_append]
  rfl

/-- **The law holds along every run whose contradictions are compared.** -/
theorem sizesAgree_run {t : RecvTrace} (hdi : t.stream.streamDataIn = {})
    {es : List RecvEvent} (h : sizesCompared t es) (herr : (recvRun t es).conn.connErr = none) :
    SizesAgree (announcedSizes es) (recvRun t es).stream ∧
      sizeRecorded (announcedSizes es) (recvRun t es).stream := by
  have hbuf : BufInv t.stream.streamMaxRecvOffset t.stream.streamDataIn := by
    rw [hdi]
    exact ⟨by simp, Nat.zero_le _⟩
  induction es using List.reverseRecOn with
  | nil =>
      have hrec : sizeRecorded [] t.stream := by simp [sizeRecorded, hdi]
      exact ⟨SizesAgree.intro hbuf hrec (by simp [announcedSizes]) (by simp [announcedSizes]), hrec⟩
  | append_singleton es e ih =>
      rw [recvRun_append_singleton] at herr ⊢
      rw [announcedSizes_append]
      have herr' := step_connErr_none herr
      have hinit : sizesCompared t es := fun es₁ e' es₂ heq =>
        h es₁ e' (es₂ ++ [e]) (by rw [heq]; simp)
      obtain ⟨hagree, hrec⟩ := ih hinit herr'
      refine hagree.step (bufInv_run hbuf es) hrec fun hcon => ?_
      have hans := hagree.answered hrec herr' hcon (h es e [] rfl herr' hcon)
      rw [herr] at hans
      exact absurd hans (by simp)

/-- **The final-size law holds exactly where the handler compares.** For every stream that has
received nothing yet and every run of STREAM and RESET_STREAM frames, reads and other traffic: the
sizes agree in every state without a connection error and every event against them is answered with
FINAL_SIZE_ERROR, if and only if every such event is a STREAM frame that meets the branch comparing
it with a recorded size. -/
theorem sizeLaw_iff_sizesCompared (c : ConnRecv) (s : Stream) (es : List RecvEvent)
    (hdi : s.streamDataIn = {}) :
    sizeLaw { conn := c, stream := s } es ↔ sizesCompared { conn := c, stream := s } es := by
  constructor
  · rintro ⟨-, hans⟩ es₁ e es₂ heq herr hcon
    have h := hans es₁ e es₂ heq herr hcon
    rw [recvRun_append_singleton] at h
    exact comparesSize_of_connErr herr h
  · intro h
    have hinit : ∀ es₁ es₂, es = es₁ ++ es₂ → sizesCompared { conn := c, stream := s } es₁ := by
      rintro es₁ es₂ rfl es₃ e es₄ rfl
      exact h es₃ e (es₄ ++ es₂) (by simp)
    refine ⟨fun es₁ es₂ heq herr => ?_, fun es₁ e es₂ heq herr hcon => ?_⟩
    · exact (sizesAgree_run hdi (hinit es₁ es₂ heq) herr).1
    · obtain ⟨hagree, hrec⟩ := sizesAgree_run hdi (hinit es₁ (e :: es₂) heq) herr
      rw [recvRun_append_singleton]
      exact hagree.answered hrec herr hcon (h es₁ e es₂ heq herr hcon)

/-- Data beyond a recorded FIN is compared, and the law holds along the run. -/
theorem sizeLaw_data_beyond_fin :
    let t : RecvTrace := { conn := { connFlowCtl := { maxDataCanRecv := 8 } }
                           stream := { streamFlowCtl := { maxStreamDataCanRecv := 8 } } }
    let es : List RecvEvent := [.deliver 0 [7, 7] true, .deliver 0 [7, 7, 7] false]
    t.stream.streamDataIn = {} ∧ sizeLaw t es ∧
      (recvRun t es).conn.connErr = some .finalSizeError := by
  intro t es
  refine ⟨rfl, (sizeLaw_iff_sizesCompared _ _ es rfl).2 ?_, by decide⟩
  intro es₁ e es₂ heq _ hcon
  rcases es₁ with _ | ⟨a, _ | ⟨b, es₁⟩⟩
  · simp only [es, List.nil_append, List.cons.injEq] at heq
    rw [← heq.1] at hcon
    simp [contradicts, announcedSizes] at hcon
  · simp only [es, List.cons_append, List.nil_append, List.cons.injEq] at heq
    obtain ⟨rfl, rfl, -⟩ := heq
    exact ⟨by decide, by decide, by decide⟩
  · simp [es] at heq

/-- A FIN below data that has been received is recorded without an error. -/
theorem final_size_below_received_data :
    let t : RecvTrace := { conn := { connFlowCtl := { maxDataCanRecv := 8 } }
                           stream := { streamFlowCtl := { maxStreamDataCanRecv := 8 } } }
    let es : List RecvEvent := [.deliver 5 [7] false, .deliver 0 [7, 7] true]
    (recvRun t es).conn.connErr = none ∧ announcedSizes es = [2] ∧
      (recvRun t es).stream.streamDataIn.streamDetermined = true ∧
      (recvRun t es).stream.streamDataIn.streamLength = 2 ∧
      (recvRun t es).stream.streamMaxRecvOffset = 6 ∧ ¬ sizeLaw t es := by
  intro t es
  have herr : (recvRun t es).conn.connErr = none := by decide
  refine ⟨herr, by decide, by decide, by decide, by decide, fun h => ?_⟩
  exact absurd ((h.1 es [] (by simp) herr).bound 2 (by decide)).1 (by decide)

end Rquic

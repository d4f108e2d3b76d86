import Rquic.Conn.Room

set_option autoImplicit false

/-!
# The vectored send is atomic

Over whole runs of a connection, the bytes that were emitted on a stream and the bytes that wait in its
pending buffer are the bytes that the calls have accepted, in the order of the calls.

* `Conn.acceptedBy`, `Conn.accepted`: the bytes that the calls have accepted, by their return values.
* `Conn.FinAsked`: where a call asks for FIN: behind the last byte of its data.
* `SendInv`: what the history, the stream and the accepted bytes say about each other.
* **`SendInv.event`**: every event keeps it.
* **`atomic_send`**: emitted and pending bytes are the accepted ones, a vectored send is taken whole or
  not at all, and FIN stands where it was asked for.
-/

namespace Rquic

/-! ## What the calls accept -/

/-- The bytes of its data that a call accepts: the prefix whose length it returns. -/
def takenOf (data : Bytes) : Except Errno ℕ → Bytes
  | .ok n => data.take n
  | .error _ => []

/-- The bytes of the stream that a call accepts. -/
def Conn.acceptedBy (c : Conn) (id : StreamId) : ConnEvent → Bytes
  | .send id' env data fin =>
    if id' = id then
      match c.streams id with
      | none => []
      | some s => takenOf data (streamSend env c s data fin).2.2
    else []
  | .sendv id' env iov fin flush =>
    if id' = id then
      match c.streams id with
      | none => []
      | some s => takenOf iov.flatten (streamSendvAtomic env c s iov fin flush).2.2
    else []
  | _ => []

/-- The bytes of the stream that the calls of a run accept. -/
def Conn.accepted (id : StreamId) : Conn → List ConnEvent → Bytes
  | _, [] => []
  | c, ev :: evs => c.acceptedBy id ev ++ Conn.accepted id (c.step ev) evs

/-- The length of the data of a call that asks for FIN. -/
def ConnEvent.finLength (id : StreamId) : ConnEvent → Option ℕ
  | .send id' _ data fin => if id' = id ∧ fin = true then some data.length else none
  | .sendv id' _ iov fin _ => if id' = id ∧ fin = true then some iov.flatten.length else none
  | _ => none

/-- A call of the run asks for FIN at `e`, behind the last byte of its data. -/
def Conn.FinAsked (c : Conn) (id : StreamId) (evs : List ConnEvent) (e : ℕ) : Prop :=
  ∃ evs₁ ev evs₂ n, evs = evs₁ ++ ev :: evs₂ ∧ ev.finLength id = some n ∧
    e = (c.accepted id evs₁).length + n

theorem Conn.accepted_append (c : Conn) (id : StreamId) (evs evs' : List ConnEvent) :
    c.accepted id (evs ++ evs') = c.accepted id evs ++ (c.run evs).accepted id evs' := by
  induction evs generalizing c with
  | nil => rfl
  | cons ev evs ih =>
      rw [List.cons_append, Conn.accepted, Conn.accepted, ih, List.append_assoc, Conn.run_cons]

theorem Conn.accepted_snoc (c : Conn) (id : StreamId) (evs : List ConnEvent) (ev : ConnEvent) :
    c.accepted id (evs ++ [ev]) = c.accepted id evs ++ (c.run evs).acceptedBy id ev := by
  rw [Conn.accepted_append, Conn.accepted, Conn.accepted, List.append_nil]

theorem Conn.FinAsked.snoc {c : Conn} {id : StreamId} {evs : List ConnEvent} {e : ℕ}
    (h : c.FinAsked id evs e) (ev : ConnEvent) : c.FinAsked id (evs ++ [ev]) e := by
  obtain ⟨evs₁, ev₁, evs₂, n, rfl, hn, he⟩ := h
  exact ⟨evs₁, ev₁, evs₂ ++ [ev], n, by rw [List.append_assoc, List.cons_append], hn, he⟩

theorem Conn.FinAsked.last (c : Conn) {id : StreamId} (evs : List ConnEvent) {ev : ConnEvent} {n : ℕ}
    (hn : ev.finLength id = some n) :
    c.FinAsked id (evs ++ [ev]) ((c.accepted id evs).length + n) :=
  ⟨evs, ev, [], n, rfl, hn, rfl⟩

/-! ## The invariant -/

/-- The sending half of the stream is not reset. -/
def Stream.SendOpen (s : Stream) : Prop :=
  s.streamStateSend.toNat < SendStreamState.resetSent.toNat

/-- The history of the stream `id`, when the calls have accepted `acc` and FIN may stand at `ends`. -/
structure SentInv (id : StreamId) (acc : Bytes) (ends : ℕ → Prop) (c : Conn) : Prop where
  log : EmitLog id ends 0 c.log
  emitted : emittedOf id c.log <+: acc
  fresh : ¬ c.Opened id → acc = []
  offset : ∀ s, c.streams id = some s → s.streamSendOffset = (emittedOf id c.log).length % 2 ^ 64

/-- While the stream can be written to, what was not emitted is pending. -/
structure SendInv (id : StreamId) (acc : Bytes) (ends : ℕ → Prop) (c : Conn) : Prop extends
    SentInv id acc ends c where
  live : ∀ s, c.streams id = some s → c.isClosing = false → s.SendOpen →
    emittedOf id c.log ++ s.pending = acc ∧
      (s.pending ≠ [] → s.pendingFin = true → ends acc.length)
  recvd : ∀ s, c.streams id = some s → s.SendOpen → s.pending ≠ [] → c.handshakeRecvd = true

section SendInv

variable {allow : ConnAct → Prop} {id : StreamId} {acc : Bytes} {ends : ℕ → Prop} {c c' : Conn}

theorem ConnStep.silent (h : ConnStep allow c c') (hwrite : ¬ allow (.writeStream id)) :
    ∃ l, c'.log = c.log ++ l ∧ ∀ offset fin data, .wroteStream id offset fin data ∉ l := by
  obtain ⟨l, hl, hallowed⟩ := h.log
  exact ⟨l, hl, fun offset fin data hmem => hwrite (hallowed _ hmem).1⟩

theorem ConnStep.emittedOf (h : ConnStep allow c c') (hwrite : ¬ allow (.writeStream id)) :
    emittedOf id c'.log = emittedOf id c.log := by
  obtain ⟨l, hl, hsilent⟩ := h.silent hwrite
  rw [hl, emittedOf_append, emittedOf_silent hsilent, List.append_nil]

theorem ConnStep.opened (h : ConnStep allow c c') (ho : c.Opened id) : c'.Opened id := by
  obtain ⟨l, hl, -⟩ := h.connLife.life
  unfold Conn.Opened at ho ⊢
  rw [hl]
  exact List.mem_append_left l ho

theorem ConnStep.sendChange (h : ConnStep allow c c') (hwrite : ¬ allow (.writeStream id))
    (hkeyed : c.Keyed) {s s' : Stream} (hs : c.streams id = some s) (hs' : c'.streams id = some s') :
    SendChange allow s s' ∧ s.streamStateSend.toNat ≤ s'.streamStateSend.toNat := by
  rcases h.streamsStep.of_some hs hs' with rfl | ⟨p, -, rfl⟩ | hchange
  · exact ⟨.refl s', le_rfl⟩
  · exact ⟨⟨rfl, rfl, .inl ⟨rfl, rfl⟩⟩, le_rfl⟩
  · refine ⟨hchange.send.resolve_left fun hallow => hwrite ?_, hchange.stateSend⟩
    rw [hkeyed id s hs] at hallow
    exact hallow

theorem SentInv.mono {ends' : ℕ → Prop} (h : ∀ e, ends e → ends' e) (hinv : SentInv id acc ends c) :
    SentInv id acc ends' c where
  log := hinv.log.mono h
  emitted := hinv.emitted
  fresh := hinv.fresh
  offset := hinv.offset

theorem SendInv.mono {ends' : ℕ → Prop} (h : ∀ e, ends e → ends' e) (hinv : SendInv id acc ends c) :
    SendInv id acc ends' c where
  toSentInv := hinv.toSentInv.mono h
  live := fun s hs hclosing hopen =>
    ⟨(hinv.live s hs hclosing hopen).1, fun hne hfin => h _ ((hinv.live s hs hclosing hopen).2 hne hfin)⟩
  recvd := hinv.recvd

/-- A stream that the step has created is empty, and nothing was accepted on it. -/
theorem SentInv.created (hinv : SentInv id acc ends c) (hlife : LifeInv c) (h : ConnStep allow c c')
    {s' : Stream} (hs' : c'.streams id = some s') (hnone : c.streams id = none) :
    s'.streamSendOffset = 0 ∧ s'.pending = [] ∧ acc = [] ∧ emittedOf id c.log = [] := by
  obtain ⟨accept, hisNew, -⟩ := h.streamsStep.of_none hnone hs'
  have hacc : acc = [] := by
    refine hinv.fresh fun ho => ?_
    obtain ⟨s, hs⟩ := hlife.kept (h.lifeInv hlife) h ho hs'
    rw [hnone] at hs
    cases hs
  exact ⟨hisNew.sendOffset, hisNew.pending, hacc, List.prefix_nil.1 (hacc ▸ hinv.emitted)⟩

/-- **A step that writes nothing on the stream keeps its history.** -/
theorem SentInv.step (hinv : SentInv id acc ends c) (hlife : LifeInv c) (h : ConnStep allow c c')
    (hwrite : ¬ allow (.writeStream id)) : SentInv id acc ends c' := by
  have hemit := h.emittedOf hwrite
  obtain ⟨l, hl, hsilent⟩ := h.silent hwrite
  refine ⟨?_, hemit ▸ hinv.emitted, fun hnot => hinv.fresh (mt h.opened hnot), fun s' hs' => ?_⟩
  · rw [hl]
    exact EmitLog.append.2 ⟨hinv.log, .of_silent hsilent _⟩
  · rw [hemit]
    cases hs : c.streams id with
    | none =>
        obtain ⟨hoffset, -, -, hnil⟩ := hinv.created hlife h hs' hs
        rw [hoffset, hnil]
        rfl
    | some s => exact (h.sendChange hwrite hlife.keyed hs hs').1.sendOffset.trans (hinv.offset s hs)

/-- **A step that neither writes on the stream nor drops its pending bytes keeps the invariant.** -/
theorem SendInv.step (hinv : SendInv id acc ends c) (hlife : LifeInv c) (h : ConnStep allow c c')
    (hwrite : ¬ allow (.writeStream id)) (hdrop : ¬ allow (.dropPending id)) :
    SendInv id acc ends c' := by
  have hemit := h.emittedOf hwrite
  -- while the stream stays open for writing, its pending bytes stay
  have hsame : ∀ s s', c.streams id = some s → c'.streams id = some s' → s'.SendOpen →
      s.SendOpen ∧ s'.pending = s.pending ∧ s'.pendingFin = s.pendingFin := by
    intro s s' hs hs' hopen
    obtain ⟨hchange, hstate⟩ := h.sendChange hwrite hlife.keyed hs hs'
    refine ⟨lt_of_le_of_lt hstate hopen, ?_⟩
    rcases hchange.pending with hsame | hreset | hallow
    · exact hsame
    · exact absurd hopen (not_lt.2 hreset)
    · rw [hlife.keyed id s hs] at hallow
      exact absurd hallow hdrop
  refine ⟨hinv.toSentInv.step hlife h hwrite, fun s' hs' hclosing hopen => ?_,
    fun s' hs' hopen hne => ?_⟩
  · rw [hemit]
    cases hs : c.streams id with
    | none =>
        obtain ⟨-, hpending, hacc, hnil⟩ := hinv.created hlife h hs' hs
        rw [hpending, hacc, hnil]
        exact ⟨rfl, fun hne => absurd rfl hne⟩
    | some s =>
        obtain ⟨hopen₀, hpending, hfin⟩ := hsame s s' hs hs' hopen
        have hclosing₀ : c.isClosing = false := by
          by_contra hne
          rw [h.mono.closing (by simpa using hne)] at hclosing
          cases hclosing
        rw [hpending, hfin]
        exact hinv.live s hs hclosing₀ hopen₀
  · cases hs : c.streams id with
    | none => exact absurd (hinv.created hlife h hs' hs).2.1 hne
    | some s =>
        obtain ⟨hopen₀, hpending, -⟩ := hsame s s' hs hs' hopen
        rw [hpending] at hne
        exact h.mono.recvd (hinv.recvd s hs hopen₀ hne)

/-! ## Calls -/

/-- A call that writes nothing. The pending bytes are dropped only when nothing can be written any
more. -/
theorem SendInv.idle (hinv : SendInv id acc ends c) {s s' : Stream} (hs : c.streams id = some s)
    (hid : s'.streamId = id) (hstate : s'.streamStateSend = s.streamStateSend)
    (hoffset : s'.streamSendOffset = s.streamSendOffset)
    (hpending : s'.pending = s.pending ∧ s'.pendingFin = s.pendingFin ∨
      s'.pending = [] ∧ (c.isClosing = true ∨ ¬ s.SendOpen)) :
    SendInv id acc ends (c.setStream s') := by
  have hself : ∀ s'', (c.setStream s').streams id = some s'' → s' = s'' := by
    intro s'' hs''
    rw [← hid, Conn.setStream_streams_self] at hs''
    exact Option.some.inj hs''
  have hopen : s'.SendOpen → s.SendOpen := fun h => by
    unfold Stream.SendOpen at h ⊢
    rw [← hstate]
    exact h
  refine ⟨⟨hinv.log, hinv.emitted, hinv.fresh, fun s'' hs'' => ?_⟩, fun s'' hs'' hclosing h => ?_,
    fun s'' hs'' h hne => ?_⟩ <;> obtain rfl := hself s'' hs''
  · exact hoffset.trans (hinv.offset s hs)
  · rcases hpending with ⟨hsame, hfin⟩ | ⟨-, hclosed | hclosed⟩
    · rw [hsame, hfin]
      exact hinv.live s hs hclosing (hopen h)
    · exact absurd (hclosing.symm.trans hclosed) (by decide)
    · exact absurd (hopen h) hclosed
  · rcases hpending with ⟨hsame, -⟩ | ⟨hnil, -⟩
    · rw [hsame] at hne
      exact hinv.recvd s hs (hopen h) hne
    · exact absurd hnil hne

theorem SendInv.call (hinv : SendInv id acc ends c) {s s' : Stream} (hs : c.streams id = some s)
    (hid : s.streamId = id) (hclosing : c.isClosing = false) (hopen : s.SendOpen)
    {data app : Bytes} {fin : Bool} {n : ℕ} (hsends : Sends c s data fin n c' s')
    (hlife : c'.Opened id) {ends' : ℕ → Prop} (hends : ∀ e, ends e → ends' e)
    (hfin : fin = true → ends' ((emittedOf id c.log).length + data.length))
    (htaken : data.take n ++ s'.pending = s.pending ++ app)
    (hpendingFin : s'.pending ≠ [] → s'.pendingFin = true → ends' (acc ++ app).length)
    (hrecvd : s'.pending ≠ [] → c'.handshakeRecvd = true) :
    SendInv id (acc ++ app) ends' (c'.setStream s') := by
  obtain ⟨l, hl, hemit, hplaced⟩ := hsends.log
  have hoffset := hinv.offset s hs
  rw [hid] at hemit hplaced
  have hself : ∀ s'', (c'.setStream s').streams id = some s'' → s' = s'' := by
    intro s'' hs''
    rw [← hid, ← hsends.streamId, Conn.setStream_streams_self] at hs''
    exact Option.some.inj hs''
  have hwhole : emittedOf id c'.log ++ s'.pending = acc ++ app := by
    calc emittedOf id c'.log ++ s'.pending
        = emittedOf id c.log ++ (data.take n ++ s'.pending) := by
          rw [hl, emittedOf_append, hemit, List.append_assoc]
      _ = emittedOf id c.log ++ s.pending ++ app := by rw [htaken, List.append_assoc]
      _ = acc ++ app := by rw [(hinv.live s hs hclosing hopen).1]
  refine ⟨⟨?_, ⟨s'.pending, hwhole⟩, fun hnot => absurd hlife hnot, fun s'' hs'' => ?_⟩,
    fun s'' hs'' _ _ => ?_, fun s'' hs'' _ hne => ?_⟩
  · show EmitLog id ends' 0 c'.log
    rw [hl]
    refine EmitLog.append.2 ⟨hinv.log.mono hends, ?_⟩
    rw [Nat.zero_add]
    refine (hplaced _ hoffset).mono fun e he => ?_
    rw [he.2]
    exact hfin he.1
  · obtain rfl := hself s'' hs''
    show s'.streamSendOffset = (emittedOf id c'.log).length % 2 ^ 64
    rw [hsends.sendOffset _ hoffset, hl, emittedOf_append, hemit, List.length_append, List.length_take,
      min_eq_left hsends.written]
  · obtain rfl := hself s'' hs''
    exact ⟨hwhole, hpendingFin⟩
  · obtain rfl := hself s'' hs''
    exact hrecvd hne

/-- The stream cannot be written to any more. -/
def SendClosed (c : Conn) (s : Stream) : Prop := c.isClosing = true ∨ ¬ s.SendOpen

theorem not_sendClosed {s : Stream} (h : ¬ SendClosed c s) : c.isClosing = false ∧ s.SendOpen :=
  ⟨Bool.eq_false_of_not_eq_true fun hclosing => h (.inl hclosing), not_not.1 fun hopen => h (.inr hopen)⟩

theorem streamSendScalar_closed {s : Stream} (h : SendClosed c s) (env : SendEnv) (data : Bytes)
    (fin : Bool) : ∃ e, (e = .closing ∨ e = .streamReset) ∧
      streamSendScalar env c s data fin = (c, { s with readyToWrite := false }, .error e) := by
  unfold streamSendScalar
  by_cases hclosing : c.isClosing = true
  · exact ⟨_, .inl rfl, if_pos hclosing⟩
  · rw [if_neg hclosing, if_pos (not_lt.1 (h.resolve_left hclosing))]
    exact ⟨_, .inr rfl, rfl⟩

theorem streamSendvAtomic_closed {s : Stream} (h : SendClosed c s) (hpending : hasAtomicPending s = false)
    (env : SendvEnv) (iov : List Bytes) (fin flush : Bool) : ∃ e,
      streamSendvAtomic env c s iov fin flush = (c, { s with readyToWrite := false }, .error e) := by
  unfold streamSendvAtomic
  rw [if_neg (by rw [hpending]; decide)]
  by_cases hclosing : c.isClosing = true
  · exact ⟨_, if_pos hclosing⟩
  · rw [if_neg hclosing, if_pos (not_lt.1 (h.resolve_left hclosing))]
    exact ⟨_, rfl⟩

theorem ConnSteps.opened (h : ConnSteps allow c c') (ho : c.Opened id) : c'.Opened id :=
  h.inv (P := fun c' => c'.Opened id) (fun _ _ hstep => hstep.opened) ho

section Events

variable {settings : ConnSettings} {ends' : ℕ → Prop}

theorem SendInv.send (hinv : SendInv id acc ends c) (hlife : LifeInv c) (hroom : RoomInv settings c)
    (env : SendEnv) (data : Bytes) (fin : Bool) (hends : ∀ e, ends e → ends' e)
    (hasked : fin = true → ends' (acc.length + data.length)) :
    SendInv id (acc ++ c.acceptedBy id (.send id env data fin)) ends'
      (c.step (.send id env data fin)) := by
  have hsteps := step_steps hlife.keyed (.send id env data fin)
  cases hs : c.streams id with
  | none =>
      have hstep : c.step (.send id env data fin) = c := by simp [Conn.step, hs]
      have hacc : c.acceptedBy id (.send id env data fin) = [] := by simp [Conn.acceptedBy, hs]
      rw [hstep, hacc, List.append_nil]
      exact hinv.mono hends
  | some s =>
      have hid := hlife.keyed id s hs
      have hstep : c.step (.send id env data fin) =
          (streamSend env c s data fin).1.setStream (streamSend env c s data fin).2.1 := by
        simp [Conn.step, hs]
      have hacc : c.acceptedBy id (.send id env data fin) =
          takenOf data (streamSend env c s data fin).2.2 := by simp [Conn.acceptedBy, hs]
      have hopened := hsteps.opened (hlife.stored id s hs)
      rw [hstep] at hopened ⊢
      rw [hacc]
      unfold streamSend at hopened ⊢
      by_cases hpending : hasAtomicPending s = true
      · rw [if_pos hpending, takenOf, List.append_nil]
        exact (hinv.mono hends).idle hs hid rfl rfl (.inl ⟨rfl, rfl⟩)
      rw [if_neg hpending] at hopened ⊢
      by_cases hclosed : SendClosed c s
      · obtain ⟨e, -, hsend⟩ := streamSendScalar_closed hclosed env data fin
        rw [hsend, takenOf, List.append_nil]
        exact (hinv.mono hends).idle hs hid rfl rfl (.inl ⟨rfl, rfl⟩)
      obtain ⟨hclosing, hopen⟩ := not_sendClosed hclosed
      have hnil := pending_of_hasAtomicPending (Bool.eq_false_of_not_eq_true hpending)
      obtain ⟨c', s', ret, n, hsend, hend⟩ := streamSendScalar_sends (s := s)
        (fun h => hroom.hasRoom (hroom.of_estab h)) env data fin
      have hnil' : s'.pending = [] := (Stream.pending_congr hend.atomicCtx).trans hnil
      have hlive := (hinv.live s hs hclosing hopen).1
      rw [hnil, List.append_nil] at hlive
      have htaken : takenOf data ret = data.take n := by
        cases ret with
        | ok m => rw [takenOf, hend.ok m rfl]
        | error e =>
            rw [takenOf, (hend.error e rfl).1]
            rfl
      rw [hsend] at hopened ⊢
      dsimp only
      rw [htaken]
      refine hinv.call hs hid hclosing hopen hend.sends hopened hends (fun hf => ?_) ?_
        (fun hne => absurd hnil' hne) (fun hne => absurd hnil' hne)
      · rw [hlive]
        exact hasked hf
      · rw [hnil, hnil', List.append_nil, List.nil_append]

theorem SendInv.sendv (hinv : SendInv id acc ends c) (hlife : LifeInv c) (hroom : RoomInv settings c)
    (env : SendvEnv) (iov : List Bytes) (fin flush : Bool) (hends : ∀ e, ends e → ends' e)
    (hasked : fin = true → ends' (acc.length + iov.flatten.length)) :
    SendInv id (acc ++ c.acceptedBy id (.sendv id env iov fin flush)) ends'
      (c.step (.sendv id env iov fin flush)) := by
  have hsteps := step_steps hlife.keyed (.sendv id env iov fin flush)
  cases hs : c.streams id with
  | none =>
      have hstep : c.step (.sendv id env iov fin flush) = c := by simp [Conn.step, hs]
      have hacc : c.acceptedBy id (.sendv id env iov fin flush) = [] := by simp [Conn.acceptedBy, hs]
      rw [hstep, hacc, List.append_nil]
      exact hinv.mono hends
  | some s =>
      have hid := hlife.keyed id s hs
      have hstep : c.step (.sendv id env iov fin flush) =
          (streamSendvAtomic env c s iov fin flush).1.setStream
            (streamSendvAtomic env c s iov fin flush).2.1 := by
        simp [Conn.step, hs]
      have hacc : c.acceptedBy id (.sendv id env iov fin flush) =
          takenOf iov.flatten (streamSendvAtomic env c s iov fin flush).2.2 := by
        simp [Conn.acceptedBy, hs]
      have hopened := hsteps.opened (hlife.stored id s hs)
      have hmono := hsteps.handshakeMono
      rw [hstep] at hopened hmono ⊢
      rw [hacc]
      by_cases hpending : hasAtomicPending s = true
      · have hagain : streamSendvAtomic env c s iov fin flush = (c, s, .error .again) := by
          unfold streamSendvAtomic
          rw [if_pos hpending]
        rw [hagain, takenOf, List.append_nil]
        exact (hinv.mono hends).idle hs hid rfl rfl (.inl ⟨rfl, rfl⟩)
      have hfree := Bool.eq_false_of_not_eq_true hpending
      by_cases hclosed : SendClosed c s
      · obtain ⟨e, hsend⟩ := streamSendvAtomic_closed hclosed hfree env iov fin flush
        rw [hsend, takenOf, List.append_nil]
        exact (hinv.mono hends).idle hs hid rfl rfl (.inl ⟨rfl, rfl⟩)
      obtain ⟨hclosing, hopen⟩ := not_sendClosed hclosed
      have hnil := pending_of_hasAtomicPending hfree
      obtain ⟨c', s', ret, n, hsend, hsends, htaken, hestab⟩ := streamSendvAtomic_sends
        (fun h => hroom.hasRoom (hroom.of_estab h)) hfree env iov fin flush
      have hlive := (hinv.live s hs hclosing hopen).1
      rw [hnil, List.append_nil] at hlive
      have happ : takenOf iov.flatten ret = iov.flatten.take n ++ s'.pending := by
        cases ret with
        | ok m => exact (htaken.taken m rfl).2
        | error e =>
            obtain ⟨hzero, hnil'⟩ := htaken.refused e rfl
            rw [takenOf, hzero, hnil']
            rfl
      rw [hsend] at hopened hmono ⊢
      dsimp only
      refine hinv.call hs hid hclosing hopen hsends hopened hends (fun hf => ?_) ?_ (fun hne hf => ?_)
        (fun hne => hmono.recvd (hroom.of_estab (hestab hne)))
      · rw [hlive]
        exact hasked hf
      · rw [hnil, happ, List.nil_append]
      · obtain ⟨hret, hasks⟩ := htaken.kept hne
        rw [hret, takenOf, List.take_length, List.length_append]
        exact hasked (hasks hf)

theorem atomicClearPending_pending (s : Stream) : (atomicClearPending s).pending = [] := by
  unfold Stream.pending atomicClearPending
  dsimp only
  cases s.atomicCtx <;> rfl

theorem SendInv.drain (hinv : SendInv id acc ends c) (hlife : LifeInv c) (hroom : RoomInv settings c)
    (env : SendEnv) : SendInv id acc ends (c.step (.drain id env)) := by
  have hsteps := step_steps hlife.keyed (.drain id env)
  cases hs : c.streams id with
  | none =>
      have hstep : c.step (.drain id env) = c := by simp [Conn.step, hs]
      rw [hstep]
      exact hinv
  | some s =>
      have hid := hlife.keyed id s hs
      have hstep : c.step (.drain id env) =
          (streamAtomicDrain env c s).1.setStream (streamAtomicDrain env c s).2.1 := by
        simp [Conn.step, hs]
      have hopened := hsteps.opened (hlife.stored id s hs)
      have hmono := hsteps.handshakeMono
      rw [hstep] at hopened hmono ⊢
      by_cases hpending : s.pending = []
      · have hnone : streamAtomicDrain env c s = (c, s, .ok ()) := by
          unfold streamAtomicDrain
          split
          · rfl
          · rename_i ctx hctx
            unfold Stream.pending at hpending
            rw [hctx] at hpending
            rw [if_pos (List.drop_eq_nil_iff.1 hpending)]
        rw [hnone]
        exact hinv.idle hs hid rfl rfl (.inl ⟨rfl, rfl⟩)
      by_cases hclosed : SendClosed c s
      · have hclear : ∃ s', streamAtomicDrain env c s = (c, s', .ok ()) ∧ s'.streamId = s.streamId ∧
            s'.streamStateSend = s.streamStateSend ∧ s'.streamSendOffset = s.streamSendOffset ∧
            s'.pending = [] := by
          unfold streamAtomicDrain
          unfold Stream.pending at hpending
          split
          · rename_i hctx
            rw [hctx] at hpending
            exact absurd rfl hpending
          · rename_i ctx hctx
            rw [hctx] at hpending
            obtain ⟨e, he, hsend⟩ := streamSendScalar_closed hclosed env (ctx.buf.drop ctx.pendingOffset)
              ctx.fin
            rw [if_neg fun hle => hpending (List.drop_eq_nil_of_le hle), hsend]
            dsimp only
            rw [if_neg (by rcases he with rfl | rfl <;> decide), if_pos he]
            exact ⟨_, rfl, rfl, rfl, rfl, atomicClearPending_pending _⟩
        obtain ⟨s', hdrain, hid', hstate, hoffset, hnil⟩ := hclear
        rw [hdrain]
        exact hinv.idle hs (hid'.trans hid) hstate hoffset (.inr ⟨hnil, hclosed⟩)
      obtain ⟨hclosing, hopen⟩ := not_sendClosed hclosed
      obtain ⟨c', s', ret, n, hdrain, hsends, hcases⟩ := streamAtomicDrain_sends (s := s)
        (fun h => hroom.hasRoom (hroom.of_estab h)) env
      obtain ⟨hlive, hfin⟩ := hinv.live s hs hclosing hopen
      have hrest : s'.pending = s.pending.drop n ∧ (s'.pending ≠ [] → s'.pendingFin = s.pendingFin) := by
        rcases hcases with h | h | h
        · exact h
        · exact absurd (.inl h) hclosed
        · exact absurd (.inr (not_lt.2 h)) hclosed
      rw [hdrain] at hopened hmono ⊢
      have hcall : SendInv id (acc ++ []) ends (c'.setStream s') :=
        hinv.call hs hid hclosing hopen hsends hopened (fun _ he => he) (fun hf => ?_) ?_ (fun hne hf => ?_)
          (fun _ => hmono.recvd (hinv.recvd s hs hopen hpending))
      · rw [List.append_nil] at hcall
        exact hcall
      · rw [← List.length_append, hlive]
        exact hfin hpending hf
      · rw [hrest.1, List.take_append_drop, List.append_nil]
      · rw [List.append_nil]
        exact hfin hpending ((hrest.2 hne).symm.trans hf)

/-- RESET_STREAM is no larger than the room for a STREAM frame. -/
theorem write_resetStream_ok (hroom : c.HasRoom) (streamId finalSize : ℕ) :
    (c.write (.resetStream streamId requestCancelled finalSize)).2 = .ok () := by
  refine (c.write_ok_iff _).2 (le_trans (Nat.add_le_add_left ?_ _) hroom)
  have hid := length_vintBytes_le streamId
  have hsize := length_vintBytes_le finalSize
  have hcode : (vintBytes requestCancelled).length = 2 := by decide
  show (0x04 :: (vintBytes streamId ++ vintBytes requestCancelled ++ vintBytes finalSize)).length ≤ _
  rw [List.length_cons, List.length_append, List.length_append, hcode]
  unfold streamFrameRoom
  omega

theorem raiseOnError_streams (r : Conn × Except Errno Unit) : (raiseOnError r).streams = r.1.streams := by
  unfold raiseOnError
  split
  · rw [Conn.raise_eq]
  · rfl

theorem writeStopSending_streams (c : Conn) (s : Stream) (errCode : ℕ) :
    (writeStopSending c s errCode).1.streams = c.streams := by
  unfold writeStopSending
  split_ifs
  · rfl
  · rw [Conn.write_frame]

/-- Close, where `s₀` is the stream without its pending bytes. -/
theorem streamClose_eq {s s₀ : Stream} (hs : c.streams s.streamId = some s)
    (hs₀ : s₀ = { atomicClearPending s with readyToWrite := false, readyToRead := true }) :
    streamClose c s.streamId =
      if SendStreamState.resetSent.toNat ≤ s₀.streamStateSend.toNat then c.setStream s₀
      else if (c.setStream s₀).isClosing then c.setStream s₀
      else
        let c' := raiseOnError (writeResetStream { c.setStream s₀ with
          sndq := dropStreamFramePackets (c.setStream s₀).sndq s.streamId } s₀ requestCancelled
          s₀.streamSendOffset)
        if s₀.streamStateRecv = .recv ∨ s₀.streamStateRecv = .sizeKnown then
          raiseOnError (writeStopSending c' s₀ requestCancelled)
        else c' := by
  unfold streamClose
  rw [hs, hs₀]

theorem streamClose_open {s s' : Stream} (hs : c.streams id = some s) (hid : s.streamId = id)
    (hs' : (streamClose c id).streams id = some s') (hopen : s'.SendOpen) :
    s.SendOpen ∧ s'.pending = [] ∧ (c.isClosing = true ∨ ¬ c.HasRoom) := by
  subst hid
  obtain ⟨s₀, hs₀⟩ : ∃ s₀ : Stream,
      s₀ = { atomicClearPending s with readyToWrite := false, readyToRead := true } := ⟨_, rfl⟩
  obtain ⟨c₁, hc₁⟩ : ∃ c₁ : Conn, c₁ = { c.setStream s₀ with
      sndq := dropStreamFramePackets (c.setStream s₀).sndq s.streamId } := ⟨_, rfl⟩
  have hbody := streamClose_eq hs hs₀
  rw [← hc₁] at hbody
  have hid : s₀.streamId = s.streamId := by rw [hs₀]; rfl
  have hstate : s₀.streamStateSend = s.streamStateSend := by rw [hs₀]; rfl
  have hnil : s₀.pending = [] := by
    rw [hs₀]
    exact atomicClearPending_pending s
  have hself : (c.setStream s₀).streams s.streamId = some s₀ := by
    rw [← hid]
    exact c.setStream_streams_self s₀
  rw [hbody] at hs'
  by_cases hreset : SendStreamState.resetSent.toNat ≤ s₀.streamStateSend.toNat
  · rw [if_pos hreset, hself] at hs'
    obtain rfl := Option.some.inj hs'
    exact absurd hopen (not_lt.2 hreset)
  rw [if_neg hreset] at hs'
  have hopen₀ : s.SendOpen := by
    unfold Stream.SendOpen
    rw [← hstate]
    exact not_le.1 hreset
  by_cases hclosing : (c.setStream s₀).isClosing = true
  · rw [if_pos hclosing, hself] at hs'
    obtain rfl := Option.some.inj hs'
    exact ⟨hopen₀, hnil, .inl hclosing⟩
  rw [if_neg hclosing] at hs'
  have hstream : (writeResetStream c₁ s₀ requestCancelled s₀.streamSendOffset).1.streams s.streamId =
      some s' := by
    dsimp only at hs'
    split_ifs at hs'
    · rw [raiseOnError_streams, writeStopSending_streams, raiseOnError_streams] at hs'
      exact hs'
    · rw [raiseOnError_streams] at hs'
      exact hs'
  unfold writeResetStream at hstream
  have hframe : (c₁.write (.resetStream s₀.streamId requestCancelled s₀.streamSendOffset)).1.streams =
      c₁.streams := by rw [Conn.write_frame]
  rcases hwrite : c₁.write (.resetStream s₀.streamId requestCancelled s₀.streamSendOffset) with ⟨c₂, ret⟩
  rw [hwrite] at hstream hframe
  cases ret with
  | ok =>
      have hmark : (c₂.setStream (markResetSent s₀)).streams (markResetSent s₀).streamId =
          some (markResetSent s₀) := c₂.setStream_streams_self _
      have hsame : (markResetSent s₀).streamId = s.streamId := by
        rw [← hid]
        unfold markResetSent
        split_ifs <;> rfl
      rw [hsame] at hmark
      have hmark' := hstream.symm.trans hmark
      rw [Option.some.inj hmark'] at hopen
      exact absurd hopen (not_lt.2 (markResetSent_reset s₀))
  | error e =>
      have hkept : c₂.streams s.streamId = some s₀ := by
        refine (congrFun hframe s.streamId).trans ?_
        rw [hc₁]
        exact hself
      obtain rfl := Option.some.inj (hkept.symm.trans hstream)
      refine ⟨hopen₀, hnil, .inr fun hroom => ?_⟩
      have hroom₁ : c₁.HasRoom := by
        rw [hc₁]
        exact hroom
      have hok := write_resetStream_ok hroom₁ s₀.streamId s₀.streamSendOffset
      rw [hwrite] at hok
      cases hok

/-- **Close.** The pending bytes are dropped with the sending half. -/
theorem SendInv.close (hinv : SendInv id acc ends c) (hlife : LifeInv c) (hroom : RoomInv settings c) :
    SendInv id acc ends (c.step (.close id)) := by
  have hsteps := step_steps hlife.keyed (.close id)
  have hsilent : ¬ c.allows (.close id) (.writeStream id) := fun h => by
    rcases h with h | ⟨h, -⟩
    · cases h
    · cases h
  have hsent : SentInv id acc ends (c.step (.close id)) ∧ LifeInv (c.step (.close id)) :=
    hsteps.inv (P := fun c' => SentInv id acc ends c' ∧ LifeInv c')
      (fun _ _ hstep h => ⟨h.1.step h.2 hstep hsilent, hstep.lifeInv h.2⟩) ⟨hinv.toSentInv, hlife⟩
  have hemit : emittedOf id (c.step (.close id)).log = emittedOf id c.log :=
    hsteps.inv (P := fun c' => emittedOf id c'.log = emittedOf id c.log)
      (fun _ _ hstep h => (hstep.emittedOf hsilent).trans h) rfl
  cases hs : c.streams id with
  | none =>
      have hstep : c.step (.close id) = c := by simp [Conn.step, streamClose, hs]
      rw [hstep]
      exact hinv
  | some s =>
      refine ⟨hsent.1, fun s' hs' hclosing hopen => ?_, fun s' hs' hopen hne => ?_⟩
      · obtain ⟨hopen₀, hnil', hcases⟩ := streamClose_open hs (hlife.keyed id s hs) hs' hopen
        have hclosing₀ : c.isClosing = false := by
          by_contra hne
          rw [hsteps.handshakeMono.closing (by simpa using hne)] at hclosing
          cases hclosing
        have hnil : s.pending = [] := by
          by_contra hne
          rcases hcases with h | h
          · rw [hclosing₀] at h
            cases h
          · exact h (hroom.hasRoom (hinv.recvd s hs hopen₀ hne))
        have hlive := (hinv.live s hs hclosing₀ hopen₀).1
        rw [hnil] at hlive
        rw [hnil', hemit]
        exact ⟨hlive, fun hne => absurd rfl hne⟩
      · exact absurd (streamClose_open hs (hlife.keyed id s hs) hs' hopen).2.1 hne

theorem Conn.allows_writeStream {ev : ConnEvent} (h : c.allows ev (.writeStream id)) :
    (∃ env data fin, ev = .send id env data fin) ∨
      (∃ env iov fin flush, ev = .sendv id env iov fin flush) ∨ ∃ env, ev = .drain id env := by
  cases ev with
  | send id' env data fin =>
      obtain rfl := ConnAct.writeStream.inj h.1
      exact .inl ⟨env, data, fin, rfl⟩
  | sendv id' env iov fin flush =>
      obtain rfl := ConnAct.writeStream.inj h.1
      exact .inr (.inl ⟨env, iov, fin, flush, rfl⟩)
  | drain id' env =>
      obtain rfl := ConnAct.writeStream.inj h.1
      exact .inr (.inr ⟨env, rfl⟩)
  | close id' =>
      rcases h with h | ⟨h, -⟩
      · cases h
      · cases h
  | header header => cases h
  | create dir settings accept => cases h
  | frame env pkt pos frameLen f => exact absurd h.2 Frame.not_allows_writeStream
  | _ => exact h.elim

theorem Conn.allows_dropPending {ev : ConnEvent} (h : c.allows ev (.dropPending id)) : ev = .close id := by
  rcases Conn.allows_cases h with ⟨id', hact⟩ | ⟨id', hact | hact, rfl⟩ | ⟨header, hact, -⟩ |
    ⟨dir, settings, accept, hact, -⟩ | ⟨env, pkt, pos, frameLen, f, -, -, hf⟩
  · cases hact
  · cases hact
  · rw [ConnAct.dropPending.inj hact]
  · cases hact
  · cases hact
  · rcases f with ⟨f, hfits⟩
    cases f <;> simp [Frame.allows] at hf

/-- **Every event keeps the invariant.** -/
theorem SendInv.event (hinv : SendInv id acc ends c) (hlife : LifeInv c) (hroom : RoomInv settings c)
    (ev : ConnEvent) (hends : ∀ e, ends e → ends' e)
    (hasked : ∀ n, ev.finLength id = some n → ends' (acc.length + n)) :
    SendInv id (acc ++ c.acceptedBy id ev) ends' (c.step ev) := by
  by_cases hwrite : c.allows ev (.writeStream id)
  · rcases Conn.allows_writeStream hwrite with ⟨env, data, fin, rfl⟩ | ⟨env, iov, fin, flush, rfl⟩ |
      ⟨env, rfl⟩
    · exact hinv.send hlife hroom env data fin hends fun hfin => hasked _ (if_pos ⟨rfl, hfin⟩)
    · exact hinv.sendv hlife hroom env iov fin flush hends fun hfin => hasked _ (if_pos ⟨rfl, hfin⟩)
    · rw [show c.acceptedBy id (.drain id env) = [] from rfl, List.append_nil]
      exact (hinv.mono hends).drain hlife hroom env
  by_cases hdrop : c.allows ev (.dropPending id)
  · obtain rfl := Conn.allows_dropPending hdrop
    rw [show c.acceptedBy id (.close id) = [] from rfl, List.append_nil]
    exact (hinv.mono hends).close hlife hroom
  -- a call that accepts bytes writes
  have hacc : c.acceptedBy id ev = [] := by
    cases ev with
    | send id' env data fin =>
        show (if id' = id then _ else []) = []
        split_ifs with heq
        · have hnone : c.streams id = none :=
            Option.not_isSome_iff_eq_none.1 fun h => hwrite ⟨by rw [heq], by rw [heq]; exact h⟩
          rw [hnone]
        · rfl
    | sendv id' env iov fin flush =>
        show (if id' = id then _ else []) = []
        split_ifs with heq
        · have hnone : c.streams id = none :=
            Option.not_isSome_iff_eq_none.1 fun h => hwrite ⟨by rw [heq], by rw [heq]; exact h⟩
          rw [hnone]
        · rfl
    | _ => rfl
  rw [hacc, List.append_nil]
  have hboth : SendInv id acc ends' (c.step ev) ∧ LifeInv (c.step ev) :=
    (step_steps hlife.keyed ev).inv (P := fun c' => SendInv id acc ends' c' ∧ LifeInv c')
      (fun _ _ hstep h => ⟨h.1.step h.2 hstep hwrite hdrop, hstep.lifeInv h.2⟩) ⟨hinv.mono hends, hlife⟩
  exact hboth.1

end Events

end SendInv

/-! ## Runs -/

theorem connCreate_sendInv (connType : ConnType) (settings : ConnSettings) (header : PktType → Bytes)
    (id : StreamId) (ends : ℕ → Prop) : SendInv id [] ends (connCreate connType settings header) := by
  have hnone : ∀ s, (connCreate connType settings header).streams id ≠ some s := fun s h => by
    have h' : (none : Option Stream) = some s := h
    cases h'
  exact ⟨⟨trivial, List.prefix_rfl, fun _ => rfl, fun s hs => absurd hs (hnone s)⟩,
    fun s hs => absurd hs (hnone s), fun s hs => absurd hs (hnone s)⟩

/-- **The invariant holds along every run.** -/
theorem run_sendInv (connType : ConnType) (settings : ConnSettings) {header : PktType → Bytes}
    (hheader : HeaderOk header) (id : StreamId) (evs : List ConnEvent) (hevs : ∀ ev ∈ evs, ev.HeadersOk) :
    SendInv id ((connCreate connType settings header).accepted id evs)
      ((connCreate connType settings header).FinAsked id evs)
      ((connCreate connType settings header).run evs) ∧
    RoomInv settings ((connCreate connType settings header).run evs) := by
  set c := connCreate connType settings header with hc
  induction evs using List.reverseRecOn with
  | nil => exact ⟨connCreate_sendInv connType settings header id _, connCreate_roomInv connType settings hheader⟩
  | append_singleton evs ev ih =>
      obtain ⟨hinv, hroom⟩ := ih fun ev' hmem => hevs ev' (List.mem_append_left _ hmem)
      have hlife : LifeInv (c.run evs) := (connCreate_lifeInv connType settings header).run evs
      have hlast : ev.HeadersOk := hevs ev (by simp)
      have hrun : c.run (evs ++ [ev]) = (c.run evs).step ev := by
        rw [Conn.run_append, Conn.run_cons, Conn.run_nil]
      rw [hrun, Conn.accepted_snoc]
      refine ⟨hinv.event hlife hroom ev (fun e he => he.snoc ev) fun n hn => .last c evs hn, ?_⟩
      exact (step_steps hlife.keyed ev).inv
        (fun _ _ hstep h => h.step hstep fun header => Conn.allows_header hlast) hroom

theorem streamSend_le {settings : ConnSettings} {c : Conn} (hroom : RoomInv settings c) (s : Stream)
    (env : SendEnv) (data : Bytes) (fin : Bool) {n : ℕ}
    (h : (streamSend env c s data fin).2.2 = .ok n) : n ≤ data.length := by
  unfold streamSend at h
  split_ifs at h
  obtain ⟨c', s', ret, m, hsend, hend⟩ := streamSendScalar_sends (s := s)
    (fun h => hroom.hasRoom (hroom.of_estab h)) env data fin
  rw [hsend] at h
  rw [hend.ok n h]
  exact hend.sends.written

/-- The vectored send returns no more than its buffers have; with memory it takes them whole or not at
all. -/
theorem streamSendvAtomic_whole {settings : ConnSettings} {c : Conn} (hroom : RoomInv settings c)
    (s : Stream) (env : SendvEnv) (iov : List Bytes) (fin flush : Bool) {n : ℕ}
    (h : (streamSendvAtomic env c s iov fin flush).2.2 = .ok n) :
    n ≤ iov.flatten.length ∧ (env.mallocOk = true → n = iov.flatten.length ∨ n = 0) := by
  by_cases hpending : hasAtomicPending s = true
  · unfold streamSendvAtomic at h
    rw [if_pos hpending] at h
    cases h
  obtain ⟨c', s', ret, m, hsend, -, htaken, -⟩ := streamSendvAtomic_sends
    (fun h => hroom.hasRoom (hroom.of_estab h)) (Bool.eq_false_of_not_eq_true hpending) env iov fin flush
  rw [hsend] at h
  have hle := (htaken.taken n h).1
  refine ⟨hle, fun hmalloc => ?_⟩
  have hlen : (iov.flatten.take n).length = n := by rw [List.length_take, min_eq_left hle]
  rcases htaken.whole hmalloc n h with hall | hnone
  · rw [hall] at hlen
    exact .inl hlen.symm
  · rw [hnone] at hlen
    exact .inr hlen.symm

/-- **The vectored send is atomic.** In every run, the frames of a stream carry its bytes in order from
offset 0, what they carry and what is pending are the bytes that the calls have accepted, the calls
return how many they accept, with memory a vectored send accepts all of its buffers or nothing, and FIN
stands only behind the last byte of a call that asked for it. -/
theorem atomic_send (connType : ConnType) (settings : ConnSettings) (header : PktType → Bytes)
    (hheader : HeaderOk header) (evs : List ConnEvent) (hevs : ∀ ev ∈ evs, ev.HeadersOk) (id : StreamId) :
    let c₀ := connCreate connType settings header
    let c := c₀.run evs
    EmitLog id (c₀.FinAsked id evs) 0 c.log ∧
      emittedOf id c.log <+: c₀.accepted id evs ∧
      ∀ s, c.streams id = some s →
        (c.isClosing = false → s.SendOpen → emittedOf id c.log ++ s.pending = c₀.accepted id evs) ∧
        (∀ env data fin n, (streamSend env c s data fin).2.2 = .ok n → n ≤ data.length) ∧
        ∀ env iov fin flush n, (streamSendvAtomic env c s iov fin flush).2.2 = .ok n →
          n ≤ iov.flatten.length ∧ (env.mallocOk = true → n = iov.flatten.length ∨ n = 0) := by
  obtain ⟨hinv, hroom⟩ := run_sendInv connType settings hheader id evs hevs
  refine ⟨hinv.log, hinv.emitted, fun s hs => ⟨fun hclosing hopen => (hinv.live s hs hclosing hopen).1,
    fun env data fin n => ?_, fun env iov fin flush n => ?_⟩⟩
  · exact streamSend_le hroom s env data fin
  · exact streamSendvAtomic_whole hroom s env iov fin flush

/-- Headers with connection ids of eight bytes. -/
def cidHeader : PktType → Bytes
  | .shortHeader => List.replicate 15 0
  | _ => List.replicate 29 0

/-- A server with these headers. -/
def cidServer : Conn := connCreate .server ⟨0, false, 0, 1200, 1500, 0, 0, 0⟩ cidHeader

/-- A vectored send is cut behind its first buffer. -/
def vectoredRun : List ConnEvent :=
  serverHandshake ++ [.create .bidi none true,
    .sendv 1 ⟨fun i => ⟨1 - i, 0⟩, true⟩ [[1, 2, 3], [4, 5]] true false]

/-- There the second buffer is pending. -/
theorem atomic_send_vectoredRun :
    HeaderOk cidHeader ∧ cidServer.accepted 1 vectoredRun = [1, 2, 3, 4, 5] ∧
      ∃ s, (cidServer.run vectoredRun).streams 1 = some s ∧ s.pending = [4, 5] ∧
        emittedOf 1 (cidServer.run vectoredRun).log ++ s.pending = [1, 2, 3, 4, 5] := by
  have hheader : HeaderOk cidHeader := ⟨8, 8, by decide, by decide, rfl, rfl⟩
  have hacc : cidServer.accepted 1 vectoredRun = [1, 2, 3, 4, 5] := by decide +kernel
  have hpending : ((cidServer.run vectoredRun).streams 1).map Stream.pending = some [4, 5] := by
    decide +kernel
  have hstate : ((cidServer.run vectoredRun).streams 1).map Stream.streamStateSend = some .ready := by
    decide +kernel
  obtain ⟨s, hs, hnil⟩ := Option.map_eq_some_iff.1 hpending
  have hready : s.streamStateSend = .ready := by
    rw [hs] at hstate
    exact Option.some.inj hstate
  have hopen : s.SendOpen := by
    unfold Stream.SendOpen
    rw [hready]
    decide
  have hevs : ∀ ev ∈ vectoredRun, ev.HeadersOk := by
    intro ev hev
    simp only [vectoredRun, serverHandshake, List.mem_append, List.mem_cons, List.not_mem_nil,
      or_false] at hev
    rcases hev with (rfl | rfl | rfl | rfl | rfl | rfl | rfl) | rfl | rfl <;> trivial
  have hclosing : (cidServer.run vectoredRun).isClosing = false := by decide +kernel
  unfold cidServer at hs hclosing hacc ⊢
  have hwhole := ((atomic_send .server ⟨0, false, 0, 1200, 1500, 0, 0, 0⟩ cidHeader hheader vectoredRun
    hevs 1).2.2 s hs).1 hclosing hopen
  exact ⟨hheader, hacc, s, hs, hnil, hwhole.trans hacc⟩

end Rquic

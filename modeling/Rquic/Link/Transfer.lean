import Rquic.Link.Delivery
import Rquic.Stream.Fin

set_option autoImplicit false

/-!
# What is read was written

The bytes of a stream over the link: written to packets at one end, copied, lost, reordered and repeated on
the way, put together at the other end and read.

* `Outgoing.Sends`: what the frames of a stream say, for the bytes written so far.
* `IncomingInv`: a receiving stream; `TransferInv`: the streams of one direction.
* `IncomingInv.deliver`, `IncomingInv.read`: a frame is handled, the application reads.
* `Link.Follows`: the sequences of which the written bytes are the beginning, at every time of a run.
* **`LinkTransfer.step`**: every event of the link.
* **`link_transfers`**: runs.
-/

namespace Rquic

/-! ## What is sent -/

/-- The frame is a part of the written bytes, and FIN is behind the last one. -/
structure Outgoing.Sends (B : ℕ → UInt8) (o : Outgoing) (offset : ℕ) (fin : Bool) (data : Bytes) :
    Prop where
  agrees : data = slice B offset data.length
  le : offset + data.length ≤ o.bytes.length
  last : fin = true → o.finWrite = true ∧ offset + data.length = o.bytes.length

/-- More was written, unless FIN was. -/
structure Outgoing.Grows (o o' : Outgoing) : Prop where
  bytes : o.bytes <+: o'.bytes
  done : o.finWrite = true → o' = o

/-- The STREAM frames are parts of what was written. -/
def Frame.Written (B : StreamId → ℕ → UInt8) (out : StreamId → Outgoing) : Frame → Prop
  | .stream streamId offset fin data => (out streamId).Sends (B streamId) offset fin data
  | _ => True

section

variable {B : ℕ → UInt8} {o o' : Outgoing}

theorem Outgoing.Grows.refl (o : Outgoing) : o.Grows o := ⟨List.prefix_refl _, fun _ => rfl⟩

theorem Outgoing.Sends.mono (hgrows : o.Grows o') {offset : ℕ} {fin : Bool} {data : Bytes}
    (h : o.Sends B offset fin data) : o'.Sends B offset fin data := by
  refine ⟨h.agrees, h.le.trans hgrows.bytes.length_le, fun hfin => ?_⟩
  rw [hgrows.done (h.last hfin).1]
  exact h.last hfin

theorem Outgoing.Sends.combine {offset : ℕ} {fin fin' : Bool} {data data' : Bytes}
    (h : o.Sends B offset fin data) (h' : o.Sends B (offset + data.length) fin' data') :
    o.Sends B offset (fin || fin') (data ++ data') := by
  have hle := h'.le
  constructor
  · rw [List.length_append, ← slice_append, ← h.agrees, ← h'.agrees]
  · rw [List.length_append]
    omega
  · intro hfin
    rw [List.length_append]
    rcases Bool.or_eq_true_iff.1 hfin with hfin | hfin
    · -- nothing is behind FIN
      obtain ⟨hdone, hend⟩ := h.last hfin
      exact ⟨hdone, by omega⟩
    · obtain ⟨hdone, hend⟩ := h'.last hfin
      exact ⟨hdone, by omega⟩

theorem Frame.written_mono {B : StreamId → ℕ → UInt8} {out out' : StreamId → Outgoing}
    (hgrows : ∀ id, (out id).Grows (out' id)) {f : Frame} (h : f.Written B out) : f.Written B out' := by
  cases f with
  | stream streamId offset fin data => exact Outgoing.Sends.mono (hgrows streamId) h
  | _ => trivial

theorem Frame.written_closed (B : StreamId → ℕ → UInt8) (out : StreamId → Outgoing) :
    FrameClosed (Frame.Written B out) where
  control := fun c => by cases c <;> trivial
  ack := fun _ => trivial
  combine := Outgoing.Sends.combine

end

/-! ## Receiving streams -/

/-- A receiving stream, where the peer has written `o`. -/
structure IncomingInv (B : ℕ → UInt8) (o : Outgoing) (i : Incoming) : Prop where
  sends : ∀ f ∈ i.delivered, o.Sends B f.dataOffset f.fin f.data
  dataInv : i.stream.streamStateRecv.toNat < RecvStreamState.resetRecvd.toNat →
    DataInv B i.delivered i.stream.streamDataIn
  returned : i.returned = slice B 0 i.stream.streamDataIn.nextReadOffset
  next_le : i.stream.streamDataIn.nextReadOffset ≤ o.bytes.length
  discarded : i.stream.discarded = false
  determined : i.stream.streamDataIn.streamDetermined = true →
    o.finWrite = true ∧ i.stream.streamDataIn.streamLength = o.bytes.length
  finRead : i.finRead = true →
    o.finWrite = true ∧ i.stream.streamDataIn.nextReadOffset = o.bytes.length

section

variable {B : ℕ → UInt8} {o o' : Outgoing} {i : Incoming}

theorem incomingInv_init (B : ℕ → UInt8) {s : Stream} (hs : s.Fresh) :
    IncomingInv B {} { stream := s } := by
  obtain ⟨hdi, -, hst, hdis⟩ := hs
  refine ⟨fun f hf => (List.not_mem_nil hf).elim, fun _ => ?_, ?_, ?_, hdis, fun hdet => ?_, nofun⟩
  · rw [hdi]
    exact dataInv_init B
  · rw [hdi]
    rfl
  · rw [hdi]
    exact le_rfl
  · rw [hdi] at hdet
    cases hdet

theorem IncomingInv.mono (hgrows : o.Grows o') (h : IncomingInv B o i) : IncomingInv B o' i where
  sends := fun f hf => (h.sends f hf).mono hgrows
  dataInv := h.dataInv
  returned := h.returned
  next_le := h.next_le.trans hgrows.bytes.length_le
  discarded := h.discarded
  determined := fun hdet => by
    rw [hgrows.done (h.determined hdet).1]
    exact h.determined hdet
  finRead := fun hfin => by
    rw [hgrows.done (h.finRead hfin).1]
    exact h.finRead hfin

theorem IncomingInv.merged_le (h : IncomingInv B o i)
    (hst : i.stream.streamStateRecv.toNat < RecvStreamState.resetRecvd.toNat) :
    i.stream.streamDataIn.mergedOffsetEnd ≤ o.bytes.length :=
  (h.dataInv hst).merged_le fun f hf => (h.sends f hf).le

/-- **A frame of what was written is handled.** -/
theorem IncomingInv.deliver (h : IncomingInv B o i) (c : ConnRecv) {offset : ℕ} {fin : Bool}
    {data : Bytes} (hf : o.Sends B offset fin data) :
    IncomingInv B o { i with
      stream := (processStreamFrame c i.stream (wireFrame offset data fin)).2.1
      delivered := wireFrame offset data fin :: i.delivered } := by
  have hsends : ∀ f ∈ wireFrame offset data fin :: i.delivered, o.Sends B f.dataOffset f.fin f.data :=
    List.forall_mem_cons.2 ⟨hf, h.sends⟩
  by_cases hst : i.stream.streamStateRecv.toNat < RecvStreamState.resetRecvd.toNat
  · -- the recorded final size is the right one
    have hconf : ¬ finalSizeConflict i.stream.streamDataIn (wireFrame offset data fin) := by
      rintro ⟨hdet, ⟨hfin, hne⟩ | hlt⟩
      · exact hne ((h.determined hdet).2.trans (hf.last hfin).2.symm)
      · rw [(h.determined hdet).2] at hlt
        exact absurd hf.le (not_le.2 hlt)
    obtain ⟨hnext, hdis, hst'⟩ :=
      processStreamFrame_frame c (wireFrame offset data fin) hst h.discarded
    obtain ⟨hdet, hlen⟩ := processStreamFrame_size c (wireFrame offset data fin) hst hconf
    refine ⟨hsends, fun _ => ?_, ?_, ?_, hdis, fun hdet' => ?_, ?_⟩
    · exact processStreamFrame_dataInv hst h.discarded (h.dataInv hst) hf.agrees rfl hconf
    · exact h.returned.trans (by rw [hnext])
    · exact hnext.trans_le h.next_le
    · dsimp only at hdet' ⊢
      rw [hlen]
      split_ifs with hrecorded
      · exact hf.last hrecorded.1
      · rw [hdet, Bool.or_eq_true, Bool.and_eq_true, Bool.not_eq_true', decide_eq_false_iff_not] at hdet'
        exact h.determined (hdet'.resolve_right hrecorded)
    · intro hfin
      exact ⟨(h.finRead hfin).1, hnext.trans (h.finRead hfin).2⟩
  · rw [processStreamFrame_of_reset c _ hst]
    exact ⟨hsends, fun habs => absurd habs hst, h.returned, h.next_le, h.discarded, h.determined,
      h.finRead⟩

theorem IncomingInv.reset (h : IncomingInv B o i) (c : ConnRecv) (finalSize : ℕ) :
    IncomingInv B o { i with stream := (processResetStreamFrame c i.stream finalSize).2 } := by
  unfold processResetStreamFrame
  split_ifs with hst
  · exact ⟨h.sends, fun habs => absurd habs (lt_irrefl RecvStreamState.resetRecvd.toNat), h.returned, h.next_le, h.discarded, h.determined,
      h.finRead⟩
  · exact h

theorem IncomingInv.read (h : IncomingInv B o i) (env : RecvEnv) (c : ConnRecv) (k : ℕ) :
    IncomingInv B o { i with
      stream := (streamRecv env c i.stream k).stream
      returned := i.returned ++ (streamRecv env c i.stream k).out
      finRead := i.finRead || (streamRecv env c i.stream k).fin } := by
  by_cases hst : i.stream.streamStateRecv.toNat < RecvStreamState.resetRecvd.toNat
  · have hr := streamRecv_spec env c k (h.dataInv hst) hst
    have hle := hr.inv.list.next_le
    rw [hr.merged] at hle
    have hnext : (streamRecv env c i.stream k).stream.streamDataIn.nextReadOffset ≤ o.bytes.length :=
      hle.trans (h.merged_le hst)
    refine ⟨h.sends, fun _ => hr.inv, ?_, hnext, hr.discarded.trans h.discarded, fun hdet => ?_,
      fun hfin => ?_⟩
    · dsimp only
      rw [h.returned, hr.out, hr.next, ← slice_append, Nat.zero_add]
    · dsimp only at hdet ⊢
      rw [hr.length]
      exact h.determined (hr.determined.symm.trans hdet)
    · dsimp only at hfin ⊢
      rcases Bool.or_eq_true_iff.1 hfin with hold | hnew
      · obtain ⟨hdone, heq⟩ := h.finRead hold
        have := hr.next
        exact ⟨hdone, by omega⟩
      · rw [hr.fin, decide_eq_true_iff] at hnew
        obtain ⟨hdone, hlen⟩ := h.determined hnew.1
        exact ⟨hdone, hnew.2.trans hlen⟩
  · -- a stream that was reset returns nothing
    unfold streamRecv
    rw [if_pos (not_lt.1 hst)]
    refine ⟨h.sends, fun habs => ?_, ?_, ?_, ?_, ?_, ?_⟩
    · simp only [streamMaybeNeedClose_stateRecv] at habs
      exact absurd habs (by decide : ¬ RecvStreamState.resetRead.toNat < RecvStreamState.resetRecvd.toNat)
    · simpa using h.returned
    · simpa using h.next_le
    · simpa using h.discarded
    · simpa using h.determined
    · simpa using h.finRead

end

/-! ## One direction -/

/-- The streams from `x` to `y`, which parses the packets with the exponent `e`. -/
structure TransferInv (e : ℕ) (B : StreamId → ℕ → UInt8) (x y : LinkEnd) : Prop where
  content : ContentInv e (Frame.Written B x.outgoing) x.sndq
  incoming : ∀ id, IncomingInv (B id) (x.outgoing id) (y.incoming id)

section

variable {e : ℕ} {B : StreamId → ℕ → UInt8} {x x' y y' : LinkEnd}

theorem TransferInv.congr (h : TransferInv e B x y) (hsndq : x'.sndq = x.sndq)
    (hout : x'.outgoing = x.outgoing) (hin : y'.incoming = y.incoming) : TransferInv e B x' y' := by
  constructor
  · rw [hsndq, hout]
    exact h.content
  · rw [hout, hin]
    exact h.incoming

/-- A step of the send queue other than a STREAM write. -/
theorem TransferInv.queueStep (h : TransferInv e B x y) (ev : SendEvent) (hwf : ev.Wf)
    (hev : ev.Respects (Frame.Written B x.outgoing)) (hsndq : x'.sndq = x.sndq.step ev)
    (hout : x'.outgoing = x.outgoing) : TransferInv e B x' y := by
  constructor
  · rw [hsndq, hout]
    exact h.content.step (Frame.written_closed B _) hwf hev
  · rw [hout]
    exact h.incoming

theorem SendEvent.respects_of_isOwn {ev : SendEvent} (hown : ev.isOwn = true) (P : Frame → Prop) :
    ev.Respects P := by
  cases ev <;> trivial

/-- What is written goes on, and the bytes behind it are those of the packet. -/
theorem LinkEnd.write_grows (l : LinkEnd) (highPri : Bool) (params : PktParams) (streamId : StreamId)
    (fin : Bool) (payload : Bytes) (id : StreamId) :
    (l.outgoing id).Grows ((l.write highPri params streamId fin payload).outgoing id) := by
  rcases l.write_cases highPri params streamId fin payload with heq | ⟨sndq, n, hfin, -, heq⟩
  · rw [heq]
    exact .refl _
  · rw [heq]
    dsimp only
    by_cases hid : id = streamId
    · rw [hid, Function.update_self]
      exact ⟨List.prefix_append _ _, fun habs => absurd (hfin.symm.trans habs) nofun⟩
    · rw [Function.update_of_ne hid]
      exact .refl _

/-- **Bytes are written to a packet.** -/
theorem TransferInv.write (h : TransferInv e B x y) (highPri : Bool) (params : PktParams)
    {streamId : StreamId} (fin : Bool) {payload : Bytes} (hid : streamId < 2 ^ 62)
    (hlen : (x.outgoing streamId).bytes.length + payload.length < 2 ^ 62)
    (hold : (x.outgoing streamId).bytes = slice (B streamId) 0 (x.outgoing streamId).bytes.length)
    (hnew : ((x.write highPri params streamId fin payload).outgoing streamId).bytes = slice (B streamId) 0
      ((x.write highPri params streamId fin payload).outgoing streamId).bytes.length) :
    TransferInv e B (x.write highPri params streamId fin payload) y := by
  have hgrows := x.write_grows highPri params streamId fin payload
  have hincoming : ∀ id, IncomingInv (B id)
      ((x.write highPri params streamId fin payload).outgoing id) (y.incoming id) :=
    fun id => (h.incoming id).mono (hgrows id)
  refine ⟨?_, hincoming⟩
  have hcontent := h.content.mono fun _ => Frame.written_mono hgrows
  rcases x.write_cases highPri params streamId fin payload with heq | ⟨sndq, n, hfin, hw, heq⟩
  · rw [heq]
    exact h.content
  · rw [heq] at hcontent hnew ⊢
    dsimp only at hcontent hnew ⊢
    rw [Function.update_self] at hnew
    dsimp only at hnew
    refine writeStreamFrame_content (Frame.written_closed B _).combine hcontent hid hlen ?_ hw
    show Outgoing.Sends _ (Function.update x.outgoing streamId _ streamId) _ _ _
    rw [Function.update_self]
    -- the new bytes are those of the sequence behind the old ones
    have hslice : payload.take n =
        slice (B streamId) (x.outgoing streamId).bytes.length (payload.take n).length := by
      rw [List.length_append, ← slice_append, ← hold, Nat.zero_add] at hnew
      exact List.append_cancel_left hnew
    refine ⟨hslice, by rw [List.length_append], fun hfin' => ⟨hfin', by rw [List.length_append]⟩⟩

/-! ## Packets that arrive -/

theorem TransferInv.handleFrame_sender (h : TransferInv e B x y) (th : LossThresholds) (f : Frame) :
    TransferInv e B (x.handleFrame th f).1 y := by
  cases f with
  | ack info => exact h.queueStep (.ackReceived info th) trivial trivial rfl rfl
  | _ => exact h.congr rfl rfl rfl

theorem TransferInv.handleFrames_sender (h : TransferInv e B x y) (th : LossThresholds)
    (fs : List Frame) : TransferInv e B (x.handleFrames th fs).1 y := by
  exact x.handleFrames_keeps th (C := fun x' => TransferInv e B x' y)
    (fun f _ _ hx' => hx'.handleFrame_sender th f) h

theorem TransferInv.update (h : TransferInv e B x y) {streamId : StreamId} {i : Incoming}
    (hi : IncomingInv (B streamId) (x.outgoing streamId) i)
    (hin : y'.incoming = Function.update y.incoming streamId i) : TransferInv e B x y' := by
  refine ⟨h.content, fun id => ?_⟩
  rw [hin]
  by_cases hid : id = streamId
  · rw [hid, Function.update_self]
    exact hi
  · rw [Function.update_of_ne hid]
    exact h.incoming id

theorem TransferInv.handleFrame_receiver (h : TransferInv e B x y) (th : LossThresholds) {f : Frame}
    (hf : f.Written B x.outgoing) : TransferInv e B x (y.handleFrame th f).1 := by
  cases f with
  | stream streamId offset fin data => exact h.update ((h.incoming streamId).deliver y.conn hf) rfl
  | resetStream streamId errCode finalSize =>
      exact h.update ((h.incoming streamId).reset y.conn finalSize) rfl
  | _ => exact h.congr rfl rfl rfl

theorem TransferInv.handleFrames_receiver (h : TransferInv e B x y) (th : LossThresholds)
    {fs : List Frame} (hfs : ∀ f ∈ fs, f.Written B x.outgoing) :
    TransferInv e B x (y.handleFrames th fs).1 := by
  exact y.handleFrames_keeps th (C := TransferInv e B x)
    (fun f hf _ hy' => hy'.handleFrame_receiver th (hfs f hf)) h

theorem TransferInv.arrive_sender (h : TransferInv e B x y) (e' : ℕ) {w : WirePacket}
    (th : LossThresholds) (hdecode : x.decode w < 2 ^ 62) : TransferInv e B (x.arrive e' w th) y := by
  rcases x.arrive_cases th e' w with heq | ⟨fs, -, heq | ⟨-, heq⟩⟩
  · rwa [heq]
  · rw [heq]
    exact h.handleFrames_sender th fs
  · rw [heq]
    exact (h.handleFrames_sender th fs).queueStep (.recvPacket _) hdecode trivial rfl rfl

theorem TransferInv.arrive_receiver (h : TransferInv e B x y) {w : WirePacket} (th : LossThresholds)
    (hw : w ∈ x.sndq.wire) : TransferInv e B x (y.arrive e w th) := by
  rcases y.arrive_cases th e w with heq | ⟨fs, hparse, hcases⟩
  · rwa [heq]
  have hhandled := h.handleFrames_receiver th (h.content.of_parse hw hparse)
  rcases hcases with heq | ⟨-, heq⟩
  · rwa [heq]
  · rw [heq]
    exact hhandled.congr rfl rfl rfl

end

/-! ## The link -/

/-- The written bytes are the beginnings of the sequences `B`. -/
def Link.Follows (B : ConnType → StreamId → ℕ → UInt8) (l : Link) : Prop :=
  ∀ a id, ((l a).outgoing id).bytes = slice (B a id) 0 ((l a).outgoing id).bytes.length

/-- The streams of both directions. -/
def LinkTransfer (exponent : ConnType → ℕ) (B : ConnType → StreamId → ℕ → UInt8) (l : Link) : Prop :=
  ∀ a, TransferInv (exponent a.peer) (B a) (l a) (l a.peer)

theorem LinkEnd.handleFrame_outgoing (l : LinkEnd) (th : LossThresholds) (f : Frame) :
    (l.handleFrame th f).1.outgoing = l.outgoing := by
  cases f <;> rfl

theorem LinkEnd.handleFrames_outgoing (l : LinkEnd) (th : LossThresholds) (fs : List Frame) :
    (l.handleFrames th fs).1.outgoing = l.outgoing := by
  exact l.handleFrames_keeps th (C := fun x => x.outgoing = l.outgoing)
    (fun f _ x hx => (x.handleFrame_outgoing th f).trans hx) rfl

theorem LinkEnd.arrive_outgoing (l : LinkEnd) (e : ℕ) (w : WirePacket) (th : LossThresholds) :
    (l.arrive e w th).outgoing = l.outgoing := by
  rcases l.arrive_cases th e w with heq | ⟨fs, -, heq | ⟨-, heq⟩⟩
  · rw [heq]
  · rw [heq, LinkEnd.handleFrames_outgoing]
  · rw [heq, LinkEnd.handleFrames_outgoing]

theorem LinkEnd.write_incoming (l : LinkEnd) (highPri : Bool) (params : PktParams) (streamId : StreamId)
    (fin : Bool) (payload : Bytes) :
    (l.write highPri params streamId fin payload).incoming = l.incoming := by
  rcases l.write_cases highPri params streamId fin payload with heq | ⟨sndq, n, -, -, heq⟩
  · rw [heq]
  · rw [heq]

section

variable {exponent : ConnType → ℕ} {B : ConnType → StreamId → ℕ → UInt8} {l : Link}

theorem Link.step_grows (exponent : ConnType → ℕ) (l : Link) (ev : LinkEvent) (b : ConnType)
    (id : StreamId) : ((l b).outgoing id).Grows ((l.step exponent ev b).outgoing id) := by
  have hupdate : ∀ {a : ConnType} {x : LinkEnd}, ((l a).outgoing id).Grows (x.outgoing id) →
      ((l b).outgoing id).Grows ((Function.update l a x b).outgoing id) := by
    intro a x hx
    by_cases hb : b = a
    · subst hb
      rwa [Function.update_self]
    · rw [Function.update_of_ne hb]
      exact .refl _
  cases ev with
  | act a ev => exact hupdate (.refl _)
  | write a highPri params streamId fin payload => exact hupdate (LinkEnd.write_grows _ _ _ _ _ _ _)
  | read a streamId env bufSize => exact hupdate (.refl _)
  | arrive a i th =>
      rw [Link.step]
      cases (l a.peer).sndq.wire[i]? with
      | none => exact .refl _
      | some w =>
          refine hupdate ?_
          rw [LinkEnd.arrive_outgoing]
          exact .refl _

theorem Outgoing.Grows.trans {o o' o'' : Outgoing} (h : o.Grows o') (h' : o'.Grows o'') : o.Grows o'' := by
  refine ⟨h.bytes.trans h'.bytes, fun hdone => ?_⟩
  have heq := h.done hdone
  exact (h'.done (heq ▸ hdone)).trans heq

theorem Link.run_grows (exponent : ConnType → ℕ) (l : Link) (evs : List LinkEvent) (b : ConnType)
    (id : StreamId) : ((l b).outgoing id).Grows ((l.run exponent evs b).outgoing id) := by
  induction evs generalizing l with
  | nil => exact .refl _
  | cons ev evs ih => exact (l.step_grows exponent ev b id).trans (ih _)

/-- What was written before is the beginning of the same sequences. -/
theorem Link.Follows.of_grows {l' : Link} (h : l'.Follows B)
    (hgrows : ∀ a id, ((l a).outgoing id).Grows ((l' a).outgoing id)) : l.Follows B := by
  intro a id
  have hprefix := (hgrows a id).bytes
  have hbytes := List.prefix_iff_eq_take.1 hprefix
  rw [h a id, take_slice, min_eq_left hprefix.length_le] at hbytes
  exact hbytes

theorem LinkTransfer.of_sides {a : ConnType} {x : LinkEnd}
    (hout : TransferInv (exponent a.peer) (B a) x (l a.peer))
    (hin : TransferInv (exponent a) (B a.peer) (l a.peer) x) :
    LinkTransfer exponent B (Function.update l a x) := by
  intro b
  by_cases hb : b = a
  · subst hb
    rw [Function.update_self, Function.update_of_ne b.peer_ne]
    exact hout
  · obtain rfl := ConnType.eq_peer hb
    rw [ConnType.peer_peer, Function.update_of_ne a.peer_ne, Function.update_self]
    exact hin

/-- **Every event of the link keeps the streams.** -/
theorem LinkTransfer.step (h : LinkTransfer exponent B l) {ev : LinkEvent} (hok : ev.Ok l)
    (hfollows : (l.step exponent ev).Follows B) : LinkTransfer exponent B (l.step exponent ev) := by
  have hold : l.Follows B := hfollows.of_grows (l.step_grows exponent ev)
  have hpeer : ∀ a : ConnType, TransferInv (exponent a) (B a.peer) (l a.peer) (l a) := by
    intro a
    have hside := h a.peer
    rwa [ConnType.peer_peer] at hside
  cases ev with
  | act a ev =>
      refine .of_sides ?_ ((hpeer a).congr rfl rfl rfl)
      exact (h a).queueStep ev hok.2 (SendEvent.respects_of_isOwn hok.1 _) rfl rfl
  | write a highPri params streamId fin payload =>
      have hnew := hfollows a streamId
      rw [Link.step, Function.update_self] at hnew
      refine .of_sides ((h a).write highPri params fin hok.1 hok.2 (hold a streamId) hnew) ?_
      exact (hpeer a).congr rfl rfl ((l a).write_incoming highPri params streamId fin payload)
  | read a streamId env bufSize =>
      refine .of_sides ((h a).congr rfl rfl rfl) ?_
      exact (hpeer a).update (((hpeer a).incoming streamId).read env (l a).conn bufSize) rfl
  | arrive a i th =>
      rw [Link.step]
      split
      · exact h
      · rename_i w hw
        obtain ⟨hlt, htime⟩ := hok w hw
        have hdecode : (l a).decode w = w.pktNum :=
          decodePacketNumber_eq (hlt.trans (by decide)) htime (.inr hlt)
        refine .of_sides ((h a).arrive_sender _ th ?_)
          ((hpeer a).arrive_receiver th (List.mem_of_getElem? hw))
        rw [hdecode]
        exact hlt.trans (by decide)

theorem LinkTransfer.run (h : LinkTransfer exponent B l) {evs : List LinkEvent}
    (hfine : l.Fine exponent evs) (hfollows : (l.run exponent evs).Follows B) :
    LinkTransfer exponent B (l.run exponent evs) := by
  induction evs generalizing l with
  | nil => exact h
  | cons ev evs ih =>
      refine ih (h.step hfine.1 (hfollows.of_grows ?_)) hfine.2 hfollows
      exact (l.step exponent ev).run_grows exponent evs

end

theorem linkTransfer_start (exponent : ConnType → ℕ) (B : ConnType → StreamId → ℕ → UInt8)
    (conn : ConnType → ConnRecv) {streams : ConnType → StreamId → Stream}
    (hfresh : ∀ a id, (streams a id).Fresh) : LinkTransfer exponent B (Link.start conn streams) :=
  fun a => ⟨contentInv_init _ _, fun id => incomingInv_init _ (hfresh a.peer id)⟩

theorem eq_slice_getD (bs : Bytes) : bs = slice (fun i => bs.getD i 0) 0 bs.length := by
  refine List.ext_getElem (by simp) fun i h₁ h₂ => ?_
  simp [slice, List.getElem?_eq_getElem h₁]

/-- What was written at the end of a run decides the sequences. -/
theorem Link.run_incoming (exponent : ConnType → ℕ) (conn : ConnType → ConnRecv)
    {streams : ConnType → StreamId → Stream} (hfresh : ∀ a id, (streams a id).Fresh)
    {evs : List LinkEvent} (hfine : (Link.start conn streams).Fine exponent evs) (a : ConnType)
    (streamId : StreamId) :
    ∃ B : ℕ → UInt8,
      (((Link.start conn streams).run exponent evs a).outgoing streamId).bytes = slice B 0
        (((Link.start conn streams).run exponent evs a).outgoing streamId).bytes.length ∧
      IncomingInv B (((Link.start conn streams).run exponent evs a).outgoing streamId)
        (((Link.start conn streams).run exponent evs a.peer).incoming streamId) := by
  set B : ConnType → StreamId → ℕ → UInt8 := fun b id n =>
    (((Link.start conn streams).run exponent evs b).outgoing id).bytes.getD n 0 with hB
  have hfollows : ((Link.start conn streams).run exponent evs).Follows B := fun b id => eq_slice_getD _
  exact ⟨B a streamId, hfollows a streamId,
    ((linkTransfer_start exponent B conn hfresh).run hfine hfollows a).incoming streamId⟩

theorem IncomingInv.read_out {B : ℕ → UInt8} {o : Outgoing} {i : Incoming} (h : IncomingInv B o i)
    (hbytes : o.bytes = slice B 0 o.bytes.length)
    (hst : i.stream.streamStateRecv.toNat < RecvStreamState.resetRecvd.toNat) (env : RecvEnv)
    (c : ConnRecv) (k : ℕ) :
    (streamRecv env c i.stream k).out = (o.bytes.drop i.stream.streamDataIn.nextReadOffset).take
      (min k (i.stream.streamDataIn.mergedOffsetEnd - i.stream.streamDataIn.nextReadOffset)) := by
  have hmerged := h.merged_le hst
  have hlen : readable i.stream.streamDataIn k ≤ o.bytes.length - i.stream.streamDataIn.nextReadOffset :=
    (min_le_right _ _).trans (Nat.sub_le_sub_right hmerged _)
  rw [(streamRecv_spec env c k (h.dataInv hst) hst).out, hbytes, drop_slice, take_slice, Nat.zero_add]
  exact congrArg (slice B i.stream.streamDataIn.nextReadOffset) (min_eq_left hlen).symm

theorem IncomingInv.returned_eq {B : ℕ → UInt8} {o : Outgoing} {i : Incoming} (h : IncomingInv B o i)
    (hbytes : o.bytes = slice B 0 o.bytes.length) :
    i.returned = o.bytes.take i.stream.streamDataIn.nextReadOffset := by
  rw [h.returned, hbytes, take_slice, min_eq_left h.next_le]

/-- **What is read was written.** However packets are lost, reordered and repeated between the ends, the
reads of a stream have returned a beginning of what was written to it at the other end, and all of it if
FIN was reported. On a stream that was not reset, the next read returns the bytes behind, as far as the
frames that were handled cover them without a gap. -/
theorem link_transfers (exponent : ConnType → ℕ) (conn : ConnType → ConnRecv)
    (streams : ConnType → StreamId → Stream) (hfresh : ∀ a id, (streams a id).Fresh)
    (evs : List LinkEvent) (hfine : (Link.start conn streams).Fine exponent evs) (a : ConnType)
    (streamId : StreamId) :
    let o := ((Link.start conn streams).run exponent evs a).outgoing streamId
    let y := (Link.start conn streams).run exponent evs a.peer
    let i := y.incoming streamId
    let di := i.stream.streamDataIn
    i.returned <+: o.bytes ∧ (i.finRead = true → o.finWrite = true ∧ i.returned = o.bytes) ∧
      (i.stream.streamStateRecv.toNat < RecvStreamState.resetRecvd.toNat →
        IsGreatest {n | CoversBelow (i.delivered.map StreamFrame.seg) n} di.mergedOffsetEnd ∧
        di.mergedOffsetEnd ≤ o.bytes.length ∧
        ∀ (env : RecvEnv) (k : ℕ), (streamRecv env y.conn i.stream k).out =
          (o.bytes.drop di.nextReadOffset).take (min k (di.mergedOffsetEnd - di.nextReadOffset))) := by
  intro o y i di
  obtain ⟨B, hbytes, hi⟩ : ∃ B : ℕ → UInt8, o.bytes = slice B 0 o.bytes.length ∧ IncomingInv B o i :=
    Link.run_incoming exponent conn hfresh hfine a streamId
  refine ⟨?_, fun hfin => ?_, fun hst => ⟨(hi.dataInv hst).isGreatest, hi.merged_le hst, fun env k => ?_⟩⟩
  · rw [hi.returned_eq hbytes]
    exact List.take_prefix _ _
  · obtain ⟨hdone, hend⟩ := hi.finRead hfin
    rw [hi.returned_eq hbytes, hend, List.take_length]
    exact ⟨hdone, rfl⟩
  · exact hi.read_out hbytes hst env y.conn k

/-- The server has read two of three bytes. -/
theorem link_transfers_lossyRun :
    (((Link.start roomyConn roomyStreams).run (fun _ => 3) lossyRun .client).outgoing 0).bytes =
        [1, 2, 3] ∧
      (((Link.start roomyConn roomyStreams).run (fun _ => 3) lossyRun (ConnType.peer .client)).incoming
        0).returned.length = 2 ∧
      (((Link.start roomyConn roomyStreams).run (fun _ => 3) lossyRun (ConnType.peer .client)).incoming
        0).returned <+: (((Link.start roomyConn roomyStreams).run (fun _ => 3) lossyRun .client).outgoing
          0).bytes := by
  have hfresh : ∀ a id, (roomyStreams a id).Fresh := fun _ _ => ⟨rfl, rfl, rfl, rfl⟩
  obtain ⟨h, -⟩ := link_transfers (fun _ => 3) roomyConn roomyStreams hfresh lossyRun lossyRun_fine .client 0
  exact ⟨by decide +kernel, by decide +kernel, h⟩

end Rquic

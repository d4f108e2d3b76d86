import Rquic.Link.Transfer
import Rquic.SendQueue.StreamBytes

set_option autoImplicit false

/-!
# Nothing is left out

Once no packet with a STREAM frame waits or is in flight, and none was given up, everything that was
written can be read at the other end. What goes behind an ACK frame is the exception: the copies of such a
packet lack it.

* `CompleteInv`: every written byte is packed, its copies hold it, and the packets that were handled gave
  their bytes to the streams.
* `LinkEvent.InFront`: no STREAM frame is written behind an ACK frame.
* **`CompleteInv.step`**: every event of the link.
* **`link_completes`**: runs.
-/

namespace Rquic

/-- The streams from `x` to `y`, which parses the packets with the exponent `e`. -/
structure CompleteInv (e : ℕ) (x y : LinkEnd) : Prop where
  whole : AllRetransmit e x.sndq
  copies : CopiesHold e x.sndq
  packed : ∀ id i, i < (x.outgoing id).bytes.length → Packed e x.sndq id i
  heard : ∀ w ∈ y.heard, ∀ id i, HoldsByte e w.payload id i →
    Covers ((y.incoming id).delivered.map StreamFrame.seg) i

section

variable {e e' : ℕ} {x x' y y' : LinkEnd}

/-! ## The sender -/

theorem CompleteInv.congr (h : CompleteInv e x y) (hsndq : x'.sndq = x.sndq)
    (hout : x'.outgoing = x.outgoing) : CompleteInv e x' y := by
  constructor
  · rw [hsndq]
    exact h.whole
  · rw [hsndq]
    exact h.copies
  · rw [hsndq, hout]
    exact h.packed
  · exact h.heard

theorem CompleteInv.queueStep (h : CompleteInv e x y) (hside : SideInv e x y) (ev : SendEvent)
    (hwf : ev.Wf) (hbehind : ¬ AppendsBehindAck x.sndq ev) (hsndq : x'.sndq = x.sndq.step ev)
    (hout : x'.outgoing = x.outgoing) : CompleteInv e x' y := by
  constructor
  · rw [hsndq, allRetransmit_step (fun _ => trivial) hside.content hwf]
    exact ⟨h.whole, hbehind⟩
  · rw [hsndq]
    exact h.copies.step hside.queue hside.content h.whole hwf
  · rw [hsndq, hout]
    exact fun id i hi => (h.packed id i hi).step hside.content hwf
  · exact h.heard

theorem SendEvent.not_appends_of_isOwn {ev : SendEvent} (hown : ev.isOwn = true) (s : SendQueue) :
    ¬ AppendsBehindAck s ev := by
  cases ev <;> first | exact not_false | cases hown

/-- **What is written is packed.** -/
theorem CompleteInv.write (h : CompleteInv e x y) (hside : SideInv e x y) (highPri : Bool)
    (params : PktParams) {streamId : StreamId} (fin : Bool) {payload : Bytes} (hid : streamId < 2 ^ 62)
    (hlen : (x.outgoing streamId).bytes.length + payload.length < 2 ^ 62)
    (hbehind : ¬ AppendsBehindAck x.sndq
      (.stream highPri params streamId (x.outgoing streamId).bytes.length fin payload)) :
    CompleteInv e (x.write highPri params streamId fin payload) y := by
  rcases x.write_cases highPri params streamId fin payload with heq | ⟨sndq, n, -, hw, heq⟩
  · rw [heq]
    exact h
  · have hwf : (SendEvent.stream highPri params streamId (x.outgoing streamId).bytes.length fin
        payload).Wf := ⟨hid, hlen⟩
    have hstep : sndq = x.sndq.step
        (.stream highPri params streamId (x.outgoing streamId).bytes.length fin payload) := by
      rw [SendQueue.step, hw]
    have hqueue : CompleteInv e { x with sndq := sndq } y := h.queueStep hside _ hwf hbehind hstep rfl
    rw [heq]
    refine ⟨hqueue.whole, hqueue.copies, fun id i hi => ?_, h.heard⟩
    by_cases hold : i < (x.outgoing id).bytes.length
    · exact hqueue.packed id i hold
    · -- a new byte
      have hid' : id = streamId := by
        by_contra hne
        dsimp only at hi
        rw [Function.update_of_ne hne] at hi
        exact hold hi
      subst hid'
      dsimp only at hi
      rw [Function.update_self, List.length_append, List.length_take] at hi
      have hn := min_le_left n payload.length
      exact (packed_of_write hside.content hid hlen hw).2 i (not_lt.1 hold) (by omega)

theorem CompleteInv.handleFrame_sender (h : CompleteInv e x y) (hside : SideInv e x y)
    (th : LossThresholds) (f : Frame) : CompleteInv e (x.handleFrame th f).1 y := by
  cases f with
  | ack info => exact h.queueStep hside (.ackReceived info th) trivial not_false rfl rfl
  | _ => exact h.congr rfl rfl

theorem CompleteInv.handleFrames_sender (h : CompleteInv e x y) (hside : SideInv e x y)
    (th : LossThresholds) {fs : List Frame} (hfs : ∀ f ∈ fs, f.Honest y.numbers) :
    CompleteInv e (x.handleFrames th fs).1 y := by
  refine (x.handleFrames_keeps th (C := fun x' => CompleteInv e x' y ∧ SideInv e x' y)
    (fun f hf x' ⟨hx', hside'⟩ => ?_) ⟨h, hside⟩).1
  exact ⟨hx'.handleFrame_sender hside' th f, (hside'.handleFrame th (hfs f hf)).1⟩

theorem CompleteInv.arrive_sender (h : CompleteInv e x y) (hside : SideInv e x y)
    (hpeer : SideInv e' y x) {w : WirePacket} (th : LossThresholds) (hw : w ∈ y.sndq.wire)
    (hdecode : x.decode w < 2 ^ 62) : CompleteInv e (x.arrive e' w th) y := by
  rcases x.arrive_cases th e' w with heq | ⟨fs, hparse, hcases⟩
  · rwa [heq]
  have hfs := hpeer.honest.content.of_parse hw hparse
  have hhandled := h.handleFrames_sender hside th hfs
  rcases hcases with heq | ⟨-, heq⟩
  · rwa [heq]
  · rw [heq]
    exact hhandled.queueStep (hside.handleFrames th hfs).1 (.recvPacket _) hdecode not_false rfl rfl

/-! ## The receiver -/

/-- A frame that is handled stays in the history, and so do those before it. -/
theorem LinkEnd.handleFrame_delivered (l : LinkEnd) (th : LossThresholds) (f : Frame) (id : StreamId) :
    (l.incoming id).delivered ⊆ ((l.handleFrame th f).1.incoming id).delivered ∧
      ∀ offset fin data, f = .stream id offset fin data →
        wireFrame offset data fin ∈ ((l.handleFrame th f).1.incoming id).delivered := by
  have hupdate : ∀ (streamId : StreamId) (i : Incoming), (l.incoming streamId).delivered ⊆ i.delivered →
      (l.incoming id).delivered ⊆ (Function.update l.incoming streamId i id).delivered := by
    intro streamId i hi
    by_cases hid : id = streamId
    · rw [hid, Function.update_self]
      exact hi
    · rw [Function.update_of_ne hid]
      exact List.Subset.refl _
  cases f with
  | stream streamId offset fin data =>
      refine ⟨hupdate streamId _ (List.subset_cons_self _ _), fun offset' fin' data' heq => ?_⟩
      obtain ⟨rfl, rfl, rfl, rfl⟩ := Frame.stream.inj heq
      show _ ∈ (Function.update l.incoming streamId _ streamId).delivered
      rw [Function.update_self]
      exact List.mem_cons_self
  | resetStream streamId errCode finalSize =>
      exact ⟨hupdate streamId _ (List.Subset.refl _), nofun⟩
  | _ => exact ⟨List.Subset.refl _, nofun⟩

/-- If no frame fails, all STREAM frames are in the history. -/
theorem LinkEnd.handleFrames_delivered (l : LinkEnd) (th : LossThresholds) (fs : List Frame)
    (id : StreamId) :
    (l.incoming id).delivered ⊆ ((l.handleFrames th fs).1.incoming id).delivered ∧
      ((l.handleFrames th fs).2 = .ok () → ∀ offset fin data, Frame.stream id offset fin data ∈ fs →
        wireFrame offset data fin ∈ ((l.handleFrames th fs).1.incoming id).delivered) := by
  induction fs generalizing l with
  | nil => exact ⟨List.Subset.refl _, fun _ _ _ _ hmem => (List.not_mem_nil hmem).elim⟩
  | cons f fs ih =>
      obtain ⟨hkept, hnew⟩ := l.handleFrame_delivered th f id
      rw [LinkEnd.handleFrames]
      split
      · rename_i l' r heq
        rw [heq] at hkept hnew
        obtain ⟨hkept', hnew'⟩ := ih l'
        refine ⟨List.Subset.trans hkept hkept', fun hok offset fin data hmem => ?_⟩
        rcases List.mem_cons.1 hmem with hf | hmem
        · exact hkept' (hnew offset fin data hf.symm)
        · exact hnew' hok offset fin data hmem
      · rename_i l' r heq
        rw [heq] at hkept
        refine ⟨hkept, fun habs => ?_⟩
        cases habs

theorem CompleteInv.peer (h : CompleteInv e x y) (hheard : y'.heard = y.heard)
    (hkept : ∀ id, (y.incoming id).delivered ⊆ (y'.incoming id).delivered) : CompleteInv e x y' := by
  refine ⟨h.whole, h.copies, h.packed, fun w hw id i hb => ?_⟩
  obtain ⟨f, hf, hi⟩ := covers_seg.1 (h.heard w (hheard ▸ hw) id i hb)
  exact covers_seg.2 ⟨f, hkept id hf, hi⟩

/-- **A packet of the sender arrives at the receiver**: its bytes are covered if it was handled. -/
theorem CompleteInv.arrive_receiver (h : CompleteInv e x y) (w : WirePacket) (th : LossThresholds) :
    CompleteInv e x (y.arrive e w th) := by
  rcases y.arrive_cases th e w with heq | ⟨fs, hparse, hcases⟩
  · rwa [heq]
  have hdelivered := y.handleFrames_delivered th fs
  have hold := h.peer (y.handleFrames_heard th fs) fun id => (hdelivered id).1
  rcases hcases with heq | ⟨hok, heq⟩
  · rwa [heq]
  · rw [heq]
    refine ⟨hold.whole, hold.copies, hold.packed, List.forall_mem_cons.2 ⟨fun id i hb => ?_, hold.heard⟩⟩
    obtain ⟨fs', hfs', offset, fin, data, hmem, hi⟩ := hb
    obtain rfl := Except.ok.inj (hparse.symm.trans hfs')
    exact covers_seg.2 ⟨_, (hdelivered id).2 hok offset fin data hmem, hi⟩

end

/-! ## The link -/

/-- No STREAM frame of the end `a` is written behind an ACK frame. -/
def LinkEvent.InFront (a : ConnType) (l : Link) : LinkEvent → Prop
  | .write b highPri params streamId fin payload => b = a → ¬ AppendsBehindAck (l a).sndq
    (.stream highPri params streamId ((l a).outgoing streamId).bytes.length fin payload)
  | _ => True

/-- Every event of the run is like that. -/
def Link.InFront (exponent : ConnType → ℕ) (a : ConnType) : Link → List LinkEvent → Prop
  | _, [] => True
  | l, ev :: evs => ev.InFront a l ∧ InFront exponent a (l.step exponent ev) evs

section

variable {exponent : ConnType → ℕ} {l : Link} {a : ConnType}

theorem Link.inFront_cons {ev : LinkEvent} {evs : List LinkEvent} (hev : ev.InFront a l)
    (h : Link.InFront exponent a (l.step exponent ev) evs) : Link.InFront exponent a l (ev :: evs) :=
  ⟨hev, h⟩

theorem Link.inFront_of_no_write {evs : List LinkEvent}
    (hno : ∀ highPri params streamId fin payload,
      LinkEvent.write a highPri params streamId fin payload ∉ evs) : Link.InFront exponent a l evs := by
  induction evs generalizing l with
  | nil => trivial
  | cons ev evs ih =>
      refine Link.inFront_cons ?_ (ih fun _ _ _ _ _ hmem => hno _ _ _ _ _ (List.mem_cons_of_mem _ hmem))
      cases ev with
      | write b highPri params streamId fin payload =>
          rintro rfl
          exact absurd List.mem_cons_self (hno _ _ _ _ _)
      | _ => trivial

theorem completeInv_start (exponent : ConnType → ℕ) (conn : ConnType → ConnRecv)
    (streams : ConnType → StreamId → Stream) (a : ConnType) :
    CompleteInv (exponent a.peer) (Link.start conn streams a) (Link.start conn streams a.peer) where
  whole := fun _ hid => by cases hid
  copies := copiesHold_init _
  packed := fun _ _ hi => by cases hi
  heard := fun _ hw => by cases hw

theorem CompleteInv.update {b : ConnType} {x : LinkEnd} {e : ℕ}
    (hsend : b = a → CompleteInv e x (l a.peer)) (hrecv : b = a.peer → CompleteInv e (l a) x) :
    CompleteInv e (Function.update l b x a) (Function.update l b x a.peer) := by
  by_cases hb : b = a
  · subst hb
    rw [Function.update_self, Function.update_of_ne b.peer_ne]
    exact hsend rfl
  · obtain rfl := ConnType.eq_peer hb
    rw [Function.update_self, Function.update_of_ne a.peer_ne.symm]
    exact hrecv rfl

/-- **Every event of the link leaves nothing out.** -/
theorem CompleteInv.step (h : CompleteInv (exponent a.peer) (l a) (l a.peer)) (hlink : LinkInv exponent l)
    {ev : LinkEvent} (hok : ev.Ok l) (hfront : ev.InFront a l) :
    CompleteInv (exponent a.peer) (l.step exponent ev a) (l.step exponent ev a.peer) := by
  have hpeer : SideInv (exponent a) (l a.peer) (l a) := by
    have hside := hlink a.peer
    rwa [ConnType.peer_peer] at hside
  cases ev with
  | act b ev =>
      refine CompleteInv.update ?_ ?_
      · rintro rfl
        exact h.queueStep (hlink b) ev hok.2 (SendEvent.not_appends_of_isOwn hok.1 _) rfl rfl
      · rintro rfl
        exact h.peer rfl fun _ => List.Subset.refl _
  | write b highPri params streamId fin payload =>
      refine CompleteInv.update ?_ ?_
      · rintro rfl
        exact h.write (hlink b) highPri params fin hok.1 hok.2 (hfront rfl)
      · rintro rfl
        refine h.peer ((l a.peer).write_sndq highPri params streamId fin payload).1 fun id => ?_
        rw [(l a.peer).write_incoming highPri params streamId fin payload]
        exact List.Subset.refl _
  | read b streamId env bufSize =>
      refine CompleteInv.update ?_ ?_
      · rintro rfl
        exact h.congr rfl rfl
      · rintro rfl
        refine h.peer rfl fun id => ?_
        show _ ⊆ (Function.update (l a.peer).incoming streamId _ id).delivered
        by_cases hid : id = streamId
        · rw [hid, Function.update_self]
          exact List.Subset.refl _
        · rw [Function.update_of_ne hid]
          exact List.Subset.refl _
  | arrive b i th =>
      rw [Link.step]
      cases hw : (l b.peer).sndq.wire[i]? with
      | none => exact h
      | some w =>
          obtain ⟨hlt, htime⟩ := hok w hw
          have hdecode : (l b).decode w = w.pktNum :=
            decodePacketNumber_eq (hlt.trans (by decide)) htime (.inr hlt)
          refine CompleteInv.update ?_ ?_
          · rintro rfl
            refine h.arrive_sender (hlink b) hpeer th (List.mem_of_getElem? hw) ?_
            rw [hdecode]
            exact hlt.trans (by decide)
          · rintro rfl
            exact h.arrive_receiver w th

theorem CompleteInv.run (h : CompleteInv (exponent a.peer) (l a) (l a.peer)) (hlink : LinkInv exponent l)
    {evs : List LinkEvent} (hfine : l.Fine exponent evs) (hfront : l.InFront exponent a evs) :
    CompleteInv (exponent a.peer) (l.run exponent evs a) (l.run exponent evs a.peer) := by
  induction evs generalizing l with
  | nil => exact h
  | cons ev evs ih =>
      exact ih (h.step hlink hfine.1 hfront.1) (hlink.step hfine.1) hfine.2 hfront.2

end

/-! ## Quiet ends -/

section

variable {e e' : ℕ} {x y : LinkEnd}

theorem QueueInv.stream_mem_root {s : SendQueue} (h : QueueInv e s) {m : PktId} (hm : m < s.nextId)
    (hroot : .stream ∈ (s.pkts (s.root m)).poFrameTypes) : .stream ∈ (s.pkts m).poFrameTypes := by
  cases ho : (s.pkts m).poOrigin with
  | none =>
      rwa [SendQueue.root, ho, Option.getD_none] at hroot
  | some origin =>
      rw [SendQueue.root, ho, Option.getD_some] at hroot
      rw [(h.family m hm origin ho).types]
      exact Finset.mem_erase.2 ⟨by decide, hroot⟩

/-- Where nothing of the streams is under way, every byte that was written is covered. -/
theorem CompleteInv.covered (h : CompleteInv e x y) (hside : SideInv e x y) (hpeer : SideInv e' y x)
    (hkept : ∀ m < x.sndq.nextId, .stream ∈ (x.sndq.pkts m).poFrameTypes → ¬ x.dropped m)
    (hquiet : ∀ m < x.sndq.nextId, .stream ∈ (x.sndq.pkts m).poFrameTypes → ¬ x.sndq.Live m)
    {id : StreamId} {i : ℕ} (hi : i < (x.outgoing id).bytes.length) :
    Covers ((y.incoming id).delivered.map StreamFrame.seg) i := by
  obtain ⟨p, hp, horigin, hstream, hb⟩ := h.packed id i hi
  obtain ⟨m, hm, hroot, hheard⟩ :=
    hside.heard_or_live hpeer hp horigin ⟨.stream, hstream, rfl⟩ (hkept p hp hstream)
  have hm' : .stream ∈ (x.sndq.pkts m).poFrameTypes :=
    hside.queue.stream_mem_root hm (hroot ▸ hstream)
  refine h.heard _ (hheard.resolve_right (hquiet m hm hm')) id i ?_
  -- the packet that was handled is the original or a copy of it
  cases ho : (x.sndq.pkts m).poOrigin with
  | none =>
      rw [SendQueue.root, ho, Option.getD_none] at hroot
      rw [hroot]
      exact hb
  | some origin =>
      rw [SendQueue.root, ho, Option.getD_some] at hroot
      obtain ⟨-, hbytes⟩ := h.copies m hm origin ho
      exact hbytes id i (hroot ▸ hb)

end

/-- **Nothing is left out.** Where no packet with a STREAM frame waits or is in flight, none was given up
and none got a STREAM frame behind an ACK frame, a stream that was not reset has everything that was written
to it, however packets were lost, reordered and repeated: one more read completes it. -/
theorem link_completes (exponent : ConnType → ℕ) (conn : ConnType → ConnRecv)
    (streams : ConnType → StreamId → Stream) (hfresh : ∀ a id, (streams a id).Fresh)
    (evs : List LinkEvent) (hfine : (Link.start conn streams).Fine exponent evs) (a : ConnType)
    (hfront : (Link.start conn streams).InFront exponent a evs)
    (hkept : ∀ m < ((Link.start conn streams).run exponent evs a).sndq.nextId,
      .stream ∈ (((Link.start conn streams).run exponent evs a).sndq.pkts m).poFrameTypes →
        ¬ ((Link.start conn streams).run exponent evs a).dropped m)
    (hquiet : ∀ m < ((Link.start conn streams).run exponent evs a).sndq.nextId,
      .stream ∈ (((Link.start conn streams).run exponent evs a).sndq.pkts m).poFrameTypes →
        ¬ ((Link.start conn streams).run exponent evs a).sndq.Live m)
    (streamId : StreamId) :
    let o := ((Link.start conn streams).run exponent evs a).outgoing streamId
    let y := (Link.start conn streams).run exponent evs a.peer
    let i := y.incoming streamId
    i.stream.streamStateRecv.toNat < RecvStreamState.resetRecvd.toNat →
      i.stream.streamDataIn.mergedOffsetEnd = o.bytes.length ∧
      ∀ (env : RecvEnv) (k : ℕ), o.bytes.length ≤ k →
        i.returned ++ (streamRecv env y.conn i.stream k).out = o.bytes := by
  intro o y i hst
  have hlink : LinkInv exponent ((Link.start conn streams).run exponent evs) :=
    (linkInv_start exponent conn streams).run hfine
  have hpeer := hlink a.peer
  rw [ConnType.peer_peer] at hpeer
  have hcomplete := (completeInv_start exponent conn streams a).run (linkInv_start exponent conn streams)
    hfine hfront
  obtain ⟨B, hbytes, hi⟩ : ∃ B : ℕ → UInt8, o.bytes = slice B 0 o.bytes.length ∧ IncomingInv B o i :=
    Link.run_incoming exponent conn hfresh hfine a streamId
  have hmerged : i.stream.streamDataIn.mergedOffsetEnd = o.bytes.length := by
    refine le_antisymm (hi.merged_le hst) ((hi.dataInv hst).isGreatest.2 fun n hn => ?_)
    exact hcomplete.covered (hlink a) hpeer hkept hquiet hn
  refine ⟨hmerged, fun env k hk => ?_⟩
  have hmin : min k (o.bytes.length - i.stream.streamDataIn.nextReadOffset) =
      (o.bytes.drop i.stream.streamDataIn.nextReadOffset).length := by
    rw [List.length_drop]
    exact min_eq_right ((Nat.sub_le _ _).trans hk)
  rw [hi.returned_eq hbytes, hi.read_out hbytes hst, hmerged, hmin, List.take_length,
    List.take_append_drop]

theorem lossyRun_keeps : ∀ b own, LinkEvent.act b own ∈ lossyRun → own.keeps = true := by
  intro b own hmem
  simp only [lossyRun, List.mem_cons, LinkEvent.act.injEq, List.not_mem_nil, reduceCtorEq, false_or,
    or_false] at hmem
  rcases hmem with ⟨-, rfl⟩ | ⟨-, rfl⟩ | ⟨-, rfl⟩ | ⟨-, rfl⟩ | ⟨-, rfl⟩ | ⟨-, rfl⟩ | ⟨-, rfl⟩ |
    ⟨-, rfl⟩ | ⟨-, rfl⟩ | ⟨-, rfl⟩ <;> rfl

/-- The lost packet was repaired: the two bytes that were read and the rest are all three. -/
theorem link_completes_lossyRun :
    (((Link.start roomyConn roomyStreams).run (fun _ => 3) lossyRun (ConnType.peer .client)).incoming
      0).returned ++ (streamRecv {}
        ((Link.start roomyConn roomyStreams).run (fun _ => 3) lossyRun (ConnType.peer .client)).conn
        (((Link.start roomyConn roomyStreams).run (fun _ => 3) lossyRun (ConnType.peer .client)).incoming
          0).stream 3).out =
      (((Link.start roomyConn roomyStreams).run (fun _ => 3) lossyRun .client).outgoing 0).bytes := by
  have hfresh : ∀ a id, (roomyStreams a id).Fresh := fun _ _ => ⟨rfl, rfl, rfl, rfl⟩
  have hget : getPacketOutForStream (Link.start roomyConn roomyStreams .client).sndq false
      demoParams.pktType 0 = none := rfl
  have hfront : (Link.start roomyConn roomyStreams).InFront (fun _ => 3) .client lossyRun := by
    refine Link.inFront_cons (fun _ => ?_) (Link.inFront_of_no_write ?_)
    · rintro ⟨id, hsome, -⟩
      rw [hget] at hsome
      cases hsome
    · simp
  have hkept : ∀ m, ¬ ((Link.start roomyConn roomyStreams).run (fun _ => 3) lossyRun .client).dropped m :=
    fun m h => Link.run_dropped (fun _ => 3) _ lossyRun_keeps .client m h
  have hempty : ∀ p, ((Link.start roomyConn roomyStreams).run (fun _ => 3) lossyRun .client).sndq.lists p =
      [] := by
    intro p
    cases p with
    | scheduleBuf t => cases t <;> decide +kernel
    | _ => decide +kernel
  have hquiet : ∀ m, ¬ ((Link.start roomyConn roomyStreams).run (fun _ => 3) lossyRun
      .client).sndq.Live m := by
    rintro m (⟨p, -, hin⟩ | ⟨hin, -⟩)
    · rw [hempty] at hin
      cases hin
    · rw [hempty] at hin
      cases hin
  have hbytes : (((Link.start roomyConn roomyStreams).run (fun _ => 3) lossyRun .client).outgoing
      0).bytes.length = 3 := by decide +kernel
  have hst : (((Link.start roomyConn roomyStreams).run (fun _ => 3) lossyRun
      (ConnType.peer .client)).incoming 0).stream.streamStateRecv.toNat <
        RecvStreamState.resetRecvd.toNat := by decide +kernel
  obtain ⟨-, h⟩ := link_completes (fun _ => 3) roomyConn roomyStreams hfresh lossyRun lossyRun_fine .client
    hfront (fun m _ _ => hkept m) (fun m _ _ => hquiet m) 0 hst
  exact h {} 3 hbytes.le

end Rquic

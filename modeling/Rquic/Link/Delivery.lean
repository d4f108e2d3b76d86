import Rquic.Link.Basic

set_option autoImplicit false

/-!
# What is acknowledged was delivered

The two ends never see each other's state. What an end believes about its peer rests on three things:
ACK frames say what was recorded, a packet number names one packet, and until a family is acknowledged
one of its members is live.

* `LinkEnd.numbers`: the packet numbers that an end handled.
* `SideInv`: one end with its peer; `LinkInv`: both.
* `SideInv.queueStep`, `SideInv.arrive`: a step of the send queue, and a packet that arrives.
* **`LinkInv.step`**: every event of the link.
* **`link_delivers`**: runs.
-/

namespace Rquic

/-- The numbers of the packets that the end handled. -/
def LinkEnd.numbers (l : LinkEnd) : Set ℕ := {n | ∃ w ∈ l.heard, w.pktNum = n}

/-- The end `x` and its peer `y`, which parses its packets with the exponent `e`. -/
structure SideInv (e : ℕ) (x y : LinkEnd) : Prop where
  queue : QueueInv e x.sndq
  honest : HonestInv e x.numbers x.sndq
  wire : WireInv (· ∈ y.numbers) x.sndq
  family : FamilyInv (· ∈ y.numbers) x.dropped x.sndq
  heard : ∀ w ∈ x.heard, w ∈ y.sndq.wire ∧ w.pktNum < 2 ^ 32

/-- Both ends. -/
def LinkInv (exponent : ConnType → ℕ) (l : Link) : Prop :=
  ∀ a, SideInv (exponent a.peer) (l a) (l a.peer)

section

variable {e e' : ℕ} {x x' y y' : LinkEnd}

theorem SideInv.content (h : SideInv e x y) : ContentInv e (fun _ => True) x.sndq :=
  h.honest.content.mono fun _ _ => trivial

theorem SideInv.numbers_lt (h : SideInv e x y) : ∀ n ∈ x.numbers, n < 2 ^ 32 := by
  rintro n ⟨w, hw, rfl⟩
  exact (h.heard w hw).2

theorem SideInv.congr (h : SideInv e x y) (hsndq : x'.sndq = x.sndq) (hheard : x'.heard = x.heard)
    (hdropped : x'.dropped = x.dropped) : SideInv e x' y := by
  have hnumbers : x'.numbers = x.numbers := by rw [LinkEnd.numbers, hheard, LinkEnd.numbers]
  constructor
  · rw [hsndq]
    exact h.queue
  · rw [hsndq, hnumbers]
    exact h.honest
  · rw [hsndq]
    exact h.wire
  · rw [hsndq, hdropped]
    exact h.family
  · rw [hheard]
    exact h.heard

theorem SideInv.peer (h : SideInv e x y) (hwire : y.sndq.wire <+: y'.sndq.wire)
    (hheard : ∀ w ∈ y.heard, w ∈ y'.heard) : SideInv e x y' := by
  have hnumbers : ∀ n, n ∈ y.numbers → n ∈ y'.numbers := fun n ⟨w, hw, hn⟩ => ⟨w, hheard w hw, hn⟩
  exact ⟨h.queue, h.honest, h.wire.mono hnumbers, h.family.mono hnumbers fun _ hid => hid,
    fun w hw => ⟨hwire.subset (h.heard w hw).1, (h.heard w hw).2⟩⟩

/-! ## Steps of a send queue -/

theorem SideInv.wire_grows (h : SideInv e x y) {ev : SendEvent} (hwf : ev.Wf) :
    x.sndq.wire <+: (x.sndq.step ev).wire := (step_life h.queue h.content hwf).wire_grows

/-- **A step of the send queue**: it acknowledges what the peer handled, and records what the end
handled. -/
theorem SideInv.queueStep (h : SideInv e x y) {ev : SendEvent} (hwf : ev.Wf)
    (hacks : ∀ n, ev.acks n → n ∈ y.numbers) (hrecv : ∀ n, ev = .recvPacket n → n ∈ x.numbers)
    (hsndq : x'.sndq = x.sndq.step ev) (hheard : x'.heard = x.heard)
    (hdropped : ∀ id, x.dropped id ∨ x.sndq.forgets ev id → x'.dropped id) : SideInv e x' y := by
  have hnumbers : x'.numbers = x.numbers := by rw [LinkEnd.numbers, hheard, LinkEnd.numbers]
  have hlife : LifeSteps e ev.acks (x.sndq.mayCopy ev) (x.sndq.forgets ev) x.sndq (x.sndq.step ev) :=
    step_life h.queue h.content hwf
  constructor
  · rw [hsndq]
    exact hlife.inv h.queue
  · rw [hsndq, hnumbers]
    exact h.honest.step h.numbers_lt hwf hrecv
  · rw [hsndq]
    exact h.wire.step h.queue h.content hwf hacks
  · rw [hsndq]
    refine hlife.familyInv h.queue hacks (fun id hid => hdropped id (.inr hid)) ?_
    exact h.family.mono (fun _ hn => hn) fun id hid => hdropped id (.inl hid)
  · rw [hheard]
    exact h.heard

theorem SideInv.act (h : SideInv e x y) {ev : SendEvent} (hown : ev.isOwn = true) (hwf : ev.Wf) :
    SideInv e (x.act ev) y := by
  refine h.queueStep hwf (fun n hn => ?_) (fun n hev => ?_) rfl rfl fun _ hid => hid
  · cases ev <;> first | exact hn.elim | cases hown
  · subst hev
    cases hown

theorem LinkEnd.write_sndq (l : LinkEnd) (highPri : Bool) (params : PktParams) (streamId : StreamId)
    (fin : Bool) (payload : Bytes) :
    (l.write highPri params streamId fin payload).heard = l.heard ∧
      (l.write highPri params streamId fin payload).dropped = l.dropped ∧
      ((l.write highPri params streamId fin payload).sndq = l.sndq ∨
        (l.write highPri params streamId fin payload).sndq = l.sndq.step
          (.stream highPri params streamId (l.outgoing streamId).bytes.length fin payload)) := by
  rcases l.write_cases highPri params streamId fin payload with heq | ⟨sndq, n, -, hw, heq⟩
  · rw [heq]
    exact ⟨rfl, rfl, .inl rfl⟩
  · rw [heq, SendQueue.step, hw]
    exact ⟨rfl, rfl, .inr rfl⟩

theorem SideInv.write (h : SideInv e x y) (highPri : Bool) (params : PktParams) {streamId : StreamId}
    (fin : Bool) {payload : Bytes} (hid : streamId < 2 ^ 62)
    (hlen : (x.outgoing streamId).bytes.length + payload.length < 2 ^ 62) :
    SideInv e (x.write highPri params streamId fin payload) y ∧
      x.sndq.wire <+: (x.write highPri params streamId fin payload).sndq.wire := by
  obtain ⟨hheard, hdropped, hsndq⟩ := x.write_sndq highPri params streamId fin payload
  rcases hsndq with hsndq | hsndq
  · exact ⟨h.congr hsndq hheard hdropped, by rw [hsndq]⟩
  · have hwf : (SendEvent.stream highPri params streamId (x.outgoing streamId).bytes.length fin
        payload).Wf := ⟨hid, hlen⟩
    refine ⟨h.queueStep hwf (fun _ hn => hn.elim) nofun hsndq hheard fun id hid => ?_, ?_⟩
    · rw [hdropped]
      exact hid.resolve_right fun habs => habs
    · rw [hsndq]
      exact h.wire_grows hwf

/-! ## Packets that arrive -/

theorem SideInv.handleFrame (h : SideInv e x y) (th : LossThresholds) {f : Frame}
    (hf : f.Honest y.numbers) :
    SideInv e (x.handleFrame th f).1 y ∧ x.sndq.wire <+: (x.handleFrame th f).1.sndq.wire ∧
      (x.handleFrame th f).1.heard = x.heard := by
  cases f with
  | ack info =>
      have hwf : (SendEvent.ackReceived info th).Wf := trivial
      refine ⟨h.queueStep hwf hf nofun rfl rfl fun id hid => ?_, h.wire_grows hwf, rfl⟩
      exact hid.resolve_right fun habs => habs
  | _ => exact ⟨h.congr rfl rfl rfl, List.prefix_refl _, rfl⟩

theorem SideInv.handleFrames (h : SideInv e x y) (th : LossThresholds) {fs : List Frame}
    (hfs : ∀ f ∈ fs, f.Honest y.numbers) :
    SideInv e (x.handleFrames th fs).1 y ∧ x.sndq.wire <+: (x.handleFrames th fs).1.sndq.wire ∧
      (x.handleFrames th fs).1.heard = x.heard := by
  refine x.handleFrames_keeps th
    (C := fun x' => SideInv e x' y ∧ x.sndq.wire <+: x'.sndq.wire ∧ x'.heard = x.heard)
    (fun f hf x' ⟨hside, hwire, hheard⟩ => ?_) ⟨h, List.prefix_refl _, rfl⟩
  obtain ⟨hside', hwire', hheard'⟩ := hside.handleFrame th (hfs f hf)
  exact ⟨hside', hwire.trans hwire', hheard'.trans hheard⟩

/-- The packet is recorded under the number that the peer gave it. -/
theorem SideInv.hear (h : SideInv e x y) {w : WirePacket} (hw : w ∈ y.sndq.wire) (hlt : w.pktNum < 2 ^ 32) :
    SideInv e { x with sndq := x.sndq.step (.recvPacket w.pktNum), heard := w :: x.heard } y := by
  have hwf : (SendEvent.recvPacket w.pktNum).Wf := hlt.trans (by decide)
  have hmore : x.numbers ⊆ LinkEnd.numbers { x with heard := w :: x.heard } :=
    fun n ⟨w', hw', hn⟩ => ⟨w', List.mem_cons_of_mem _ hw', hn⟩
  have hheard : SideInv e { x with heard := w :: x.heard } y :=
    ⟨h.queue, h.honest.mono hmore, h.wire, h.family, List.forall_mem_cons.2 ⟨⟨hw, hlt⟩, h.heard⟩⟩
  refine hheard.queueStep hwf (fun _ hn => hn.elim) (fun n hn => ?_) rfl rfl fun id hid => ?_
  · exact ⟨w, List.mem_cons_self, SendEvent.recvPacket.inj hn⟩
  · exact hid.resolve_right fun habs => habs

/-- **A packet of the peer arrives.** -/
theorem SideInv.arrive (h : SideInv e x y) (h' : SideInv e' y x) {w : WirePacket} (th : LossThresholds)
    (hw : w ∈ y.sndq.wire) (hlt : w.pktNum < 2 ^ 32)
    (htime : recvRecordLargest x.sndq.recvRecord + 1 < w.pktNum + 2 ^ 31) :
    SideInv e (x.arrive e' w th) y ∧ x.sndq.wire <+: (x.arrive e' w th).sndq.wire ∧
      ∀ w' ∈ x.heard, w' ∈ (x.arrive e' w th).heard := by
  have hdecode : x.decode w = w.pktNum :=
    decodePacketNumber_eq (hlt.trans (by decide)) htime (.inr hlt)
  rcases x.arrive_cases th e' w with heq | ⟨fs, hparse, hcases⟩
  · rw [heq]
    exact ⟨h, List.prefix_refl _, fun _ hw' => hw'⟩
  obtain ⟨hside, hwire, hheard⟩ := h.handleFrames th (h'.honest.content.of_parse hw hparse)
  rcases hcases with heq | ⟨-, heq⟩
  · rw [heq, hheard]
    exact ⟨hside, hwire, fun _ hw' => hw'⟩
  · rw [heq, hdecode]
    refine ⟨hside.hear hw hlt, hwire, fun w' hw' => List.mem_cons_of_mem _ ?_⟩
    rwa [hheard]

/-! ## Deliveries -/

/-- A packet that is acknowledged was handled, or a member of its family was. -/
theorem SideInv.heard_of_acked (h : SideInv e x y) (hpeer : SideInv e' y x) {id : PktId}
    (hid : id < x.sndq.nextId) (hack : (x.sndq.pkts id).poAcked = true) :
    ∃ m < x.sndq.nextId, x.sndq.root m = x.sndq.root id ∧ (x.sndq.pkts m).onWire ∈ y.heard := by
  obtain ⟨m, hm, hroot, -, ⟨w, hw, hn⟩, hwire⟩ := h.wire.acked id hid hack
  -- the number names one packet of the wire
  have hsame := h.wire.eq_of_pktNum (hpeer.heard w hw).1 hwire hn
  exact ⟨m, hm, hroot, hsame ▸ hw⟩

/-- A member of a family that needs repair was handled or is live. -/
theorem SideInv.heard_or_live (h : SideInv e x y) (hpeer : SideInv e' y x) {id : PktId}
    (hid : id < x.sndq.nextId) (horigin : (x.sndq.pkts id).poOrigin = none)
    (hneed : needRepair (x.sndq.pkts id).poFrameTypes) (hkept : ¬ x.dropped id) :
    ∃ m < x.sndq.nextId, x.sndq.root m = id ∧
      ((x.sndq.pkts m).onWire ∈ y.heard ∨ x.sndq.Live m) := by
  cases hack : (x.sndq.pkts id).poAcked with
  | true =>
      obtain ⟨m, hm, hroot, hheard⟩ := h.heard_of_acked hpeer hid hack
      rw [SendQueue.root, SendQueue.root, horigin, Option.getD_none] at hroot
      exact ⟨m, hm, hroot, .inl hheard⟩
  | false =>
      obtain ⟨m, hm, hroot, hlive⟩ := h.family.live id hid hkept horigin hneed hack
      exact ⟨m, hm, hroot, .inr hlive⟩

end

/-! ## The link -/

section

variable {exponent : ConnType → ℕ} {l : Link}

theorem LinkInv.update (h : LinkInv exponent l) {a : ConnType} {x : LinkEnd}
    (hside : SideInv (exponent a.peer) x (l a.peer)) (hwire : (l a).sndq.wire <+: x.sndq.wire)
    (hheard : ∀ w ∈ (l a).heard, w ∈ x.heard) : LinkInv exponent (Function.update l a x) := by
  intro b
  by_cases hb : b = a
  · subst hb
    rw [Function.update_self, Function.update_of_ne b.peer_ne]
    exact hside
  · have hpeer := h b
    obtain rfl := ConnType.eq_peer hb
    rw [ConnType.peer_peer] at hpeer ⊢
    rw [Function.update_of_ne a.peer_ne, Function.update_self]
    exact hpeer.peer hwire hheard

/-- **Every event of the link keeps both sides.** -/
theorem LinkInv.step (h : LinkInv exponent l) {ev : LinkEvent} (hok : ev.Ok l) :
    LinkInv exponent (l.step exponent ev) := by
  cases ev with
  | act a ev =>
      exact h.update ((h a).act hok.1 hok.2) ((h a).wire_grows hok.2) fun _ hw => hw
  | write a highPri params streamId fin payload =>
      obtain ⟨hside, hwire⟩ := (h a).write highPri params fin hok.1 hok.2
      refine h.update hside hwire fun w hw => ?_
      rwa [((l a).write_sndq highPri params streamId fin payload).1]
  | read a streamId env bufSize =>
      exact h.update ((h a).congr rfl rfl rfl) (List.prefix_refl _) fun _ hw => hw
  | arrive a i th =>
      rw [Link.step]
      split
      · exact h
      · rename_i w hw
        obtain ⟨hlt, htime⟩ := hok w hw
        have hpeer := h a.peer
        rw [ConnType.peer_peer] at hpeer
        obtain ⟨hside, hwire, hheard⟩ := (h a).arrive hpeer th (List.mem_of_getElem? hw) hlt htime
        exact h.update hside hwire hheard

theorem LinkInv.run (h : LinkInv exponent l) {evs : List LinkEvent} (hfine : l.Fine exponent evs) :
    LinkInv exponent (l.run exponent evs) := by
  induction evs generalizing l with
  | nil => exact h
  | cons ev evs ih => exact ih (h.step hfine.1) hfine.2

end

theorem linkInv_start (exponent : ConnType → ℕ) (conn : ConnType → ConnRecv)
    (streams : ConnType → StreamId → Stream) : LinkInv exponent (Link.start conn streams) := fun a =>
  ⟨queueInv_init _, honestInv_init _ _, wireInv_init _, familyInv_init _ _, fun _ hw => by cases hw⟩

/-- **What is acknowledged was delivered.** However packets are lost, reordered and repeated between the
ends: every packet parses; a packet is acknowledged only if the peer handled it or a copy of it, as it
was sent; and an original that needs repair and was not given up was handled by the peer, itself or a
copy, or a member of its family will be sent or is in flight. -/
theorem link_delivers (exponent : ConnType → ℕ) (conn : ConnType → ConnRecv)
    (streams : ConnType → StreamId → Stream) (evs : List LinkEvent)
    (hfine : (Link.start conn streams).Fine exponent evs) (a : ConnType) :
    let x := (Link.start conn streams).run exponent evs a
    let y := (Link.start conn streams).run exponent evs a.peer
    (∀ w ∈ x.sndq.wire, ∃ fs, parseFrames (exponent a.peer) w.payload = .ok fs) ∧
      ∀ id < x.sndq.nextId,
        ((x.sndq.pkts id).poAcked = true → ∃ m < x.sndq.nextId, x.sndq.root m = x.sndq.root id ∧
          (x.sndq.pkts m).onWire ∈ y.heard) ∧
        ((x.sndq.pkts id).poOrigin = none → needRepair (x.sndq.pkts id).poFrameTypes → ¬ x.dropped id →
          ∃ m < x.sndq.nextId, x.sndq.root m = id ∧
            ((x.sndq.pkts m).onWire ∈ y.heard ∨ x.sndq.Live m)) := by
  intro x y
  have h : SideInv (exponent a.peer) x y := (linkInv_start exponent conn streams).run hfine a
  have hpeer : SideInv (exponent a) y x := by
    have hside := (linkInv_start exponent conn streams).run hfine a.peer
    rwa [ConnType.peer_peer] at hside
  refine ⟨fun w hw => ?_, fun id hid => ⟨h.heard_of_acked hpeer hid, h.heard_or_live hpeer hid⟩⟩
  obtain ⟨fs, hfs, -⟩ := h.honest.content.wire w hw
  exact ⟨fs, hfs⟩

/-- The first packet of the client is lost and a copy of it arrives. The other copy is dropped then. -/
def lossyRun : List LinkEvent :=
  [.write .client false demoParams 0 true [1, 2, 3], .act .client (.schedule .normal),
    .act .client (.send .normal .sent 100 1000), .act .client (.probeTimeout demoParams),
    .act .client (.schedule .ptoProbe), .act .client (.send .ptoProbe .sent 100 1100),
    .arrive .server 1 ⟨0, none⟩, .act .server (.ack demoParams 0 0),
    .act .server (.schedule .normalHighPri), .act .server (.send .normalHighPri .sent 100 1200),
    .arrive .client 0 ⟨0, none⟩, .act .client (.schedule .ptoProbe),
    .act .client (.send .ptoProbe .sent 100 1300), .read .server 0 {} 2]

/-- A connection with room for some bytes. -/
def roomyConn : ConnType → ConnRecv := fun _ => { connFlowCtl := { maxDataCanRecv := 1000 } }

def roomyStreams : ConnType → StreamId → Stream := fun _ id =>
  { streamId := id, streamFlowCtl := { maxStreamDataCanRecv := 1000 } }

theorem lossyRun_fine : (Link.start roomyConn roomyStreams).Fine (fun _ => 3) lossyRun := by
  have hown : ∀ {l : Link} {a : ConnType} {ev : SendEvent}, ev.isOwn = true → ev.Wf →
      LinkEvent.Ok l (.act a ev) := fun hown hwf => ⟨hown, hwf⟩
  refine Link.fine_cons ⟨by decide, by decide⟩ <| Link.fine_cons (hown rfl trivial) <|
    Link.fine_cons (hown rfl trivial) <| Link.fine_cons (hown rfl trivial) <|
    Link.fine_cons (hown rfl trivial) <| Link.fine_cons (hown rfl trivial) <|
    Link.fine_cons ?_ <| Link.fine_cons (hown rfl (by simp [SendEvent.Wf])) <|
    Link.fine_cons (hown rfl trivial) <| Link.fine_cons (hown rfl trivial) <|
    Link.fine_cons ?_ <| Link.fine_cons (hown rfl trivial) <| Link.fine_cons (hown rfl trivial) <|
    Link.fine_cons trivial trivial
  · unfold LinkEvent.Ok
    decide +kernel
  · unfold LinkEvent.Ok
    decide +kernel

/-- The original is acknowledged, and the server handled its copy. -/
theorem link_delivers_lossyRun :
    (((Link.start roomyConn roomyStreams).run (fun _ => 3) lossyRun .client).sndq.pkts 0).poAcked = true ∧
      ∃ m < ((Link.start roomyConn roomyStreams).run (fun _ => 3) lossyRun .client).sndq.nextId,
        ((Link.start roomyConn roomyStreams).run (fun _ => 3) lossyRun .client).sndq.root m =
          ((Link.start roomyConn roomyStreams).run (fun _ => 3) lossyRun .client).sndq.root 0 ∧
        (((Link.start roomyConn roomyStreams).run (fun _ => 3) lossyRun .client).sndq.pkts m).onWire ∈
          ((Link.start roomyConn roomyStreams).run (fun _ => 3) lossyRun (ConnType.peer .client)).heard := by
  have hacked : (((Link.start roomyConn roomyStreams).run (fun _ => 3) lossyRun .client).sndq.pkts
      0).poAcked = true := by decide +kernel
  have hlt : 0 < ((Link.start roomyConn roomyStreams).run (fun _ => 3) lossyRun .client).sndq.nextId := by
    decide +kernel
  obtain ⟨-, h⟩ := link_delivers (fun _ => 3) roomyConn roomyStreams lossyRun lossyRun_fine .client
  exact ⟨hacked, (h 0 hlt).1 hacked⟩

end Rquic

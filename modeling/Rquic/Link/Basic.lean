import Rquic.SendQueue.HonestAck
import Rquic.SendQueue.SentWire
import Rquic.Stream.Reassembly

set_option autoImplicit false

/-!
# Two ends

A client and a server, each with its send queue and its receiving streams. Between them packets are lost,
reordered and repeated: whatever one end has ever given to the socket may arrive at the other one, at any
time, any number of times or never.

* `LinkEnd`: one end, with the history of its streams and of the packets that it handled.
* `LinkEvent`, `Link.step`, `Link.run`: the two ends taking steps in any order.
* `LinkEvent.Ok`, `Link.Fine`: the values of an event fit the wire format, and packet numbers arrive in
  time to be recovered.

Flow control of the sender and the closing of the connection are not part of the link: it goes on where a
connection would close.
-/

namespace Rquic

/-! ## Ends -/

/-- The other end. -/
def ConnType.peer : ConnType → ConnType
  | .server => .client
  | .client => .server

@[simp] theorem ConnType.peer_peer (a : ConnType) : a.peer.peer = a := by cases a <;> rfl

theorem ConnType.peer_ne (a : ConnType) : a.peer ≠ a := by cases a <;> decide

theorem ConnType.eq_peer {a b : ConnType} (h : b ≠ a) : b = a.peer := by
  cases a <;> cases b <;> first | rfl | exact absurd rfl h

/-- What was written to a stream. -/
structure Outgoing where
  bytes : Bytes := []
  finWrite : Bool := false

/-- A receiving stream with its history: the frames that were handled, the newest first, the bytes that
the reads have returned and whether one reported FIN. -/
structure Incoming where
  stream : Stream := {}
  delivered : List StreamFrame := []
  returned : Bytes := []
  finRead : Bool := false

/-- One end of the link. -/
structure LinkEnd where
  sndq : SendQueue := {}
  conn : ConnRecv := {}
  outgoing : StreamId → Outgoing := fun _ => {}
  incoming : StreamId → Incoming := fun _ => {}
  /-- The packets of the peer that were handled and recorded, the newest first. -/
  heard : List WirePacket := []
  /-- The packets that were given up. -/
  dropped : PktId → Prop := fun _ => False

namespace LinkEnd

/-- `rqc_write_stream_frame_to_packet` at the send offset of the stream. Behind FIN nothing is written. -/
def write (l : LinkEnd) (highPri : Bool) (params : PktParams) (streamId : StreamId) (fin : Bool)
    (payload : Bytes) : LinkEnd :=
  let out := l.outgoing streamId
  if out.finWrite then l
  else
    match writeStreamFrame l.sndq highPri params streamId out.bytes.length fin payload with
    | .error _ => l
    | .ok (sndq, n) =>
      { l with
        sndq := sndq
        outgoing := Function.update l.outgoing streamId
          { bytes := out.bytes ++ payload.take n, finWrite := fin && n = payload.length } }

/-- `rqc_stream_recv`. The frames that it writes are events of their own. -/
def read (l : LinkEnd) (streamId : StreamId) (env : RecvEnv) (bufSize : ℕ) : LinkEnd :=
  let i := l.incoming streamId
  let r := streamRecv env l.conn i.stream bufSize
  { l with
    conn := r.conn
    incoming := Function.update l.incoming streamId
      { i with stream := r.stream, returned := i.returned ++ r.out, finRead := i.finRead || r.fin } }

/-- The frames that a send queue or a receiving stream has to do with. -/
def handleFrame (th : LossThresholds) (l : LinkEnd) : Frame → LinkEnd × Except Errno Unit
  | .ack info =>
    ({ l with sndq := l.sndq.step (.ackReceived info th) },
      match (ackProcess l.sndq info).err with
      | none => .ok ()
      | some e => .error e)
  | .stream streamId offset fin data =>
    let i := l.incoming streamId
    let f := wireFrame offset data fin
    let (c, s, ret) := processStreamFrame l.conn i.stream f
    ({ l with
        conn := c
        incoming := Function.update l.incoming streamId
          { i with stream := s, delivered := f :: i.delivered } }, ret)
  | .resetStream streamId _ finalSize =>
    let i := l.incoming streamId
    let (c, s) := processResetStreamFrame l.conn i.stream finalSize
    ({ l with conn := c, incoming := Function.update l.incoming streamId { i with stream := s } }, .ok ())
  | _ => (l, .ok ())

/-- The loop of `rqc_process_frames`. -/
def handleFrames (th : LossThresholds) : LinkEnd → List Frame → LinkEnd × Except Errno Unit
  | l, [] => (l, .ok ())
  | l, f :: fs =>
    match l.handleFrame th f with
    | (l, .ok _) => handleFrames th l fs
    | (l, .error e) => (l, .error e)

/-- The number that `rqc_packet_decode_packet_number` finds for a packet of the peer. -/
def decode (l : LinkEnd) (w : WirePacket) : ℕ :=
  decodePacketNumber l.sndq.recvRecord (writePacketNumber w.pktNum pktnoClass)

/-- A packet of the peer arrives (`rqc_conn_process_packet`); it is recorded if all of its frames were
handled. Every packet of the peer parses, so its frames may be parsed before the first one is handled. -/
def arrive (e : ℕ) (l : LinkEnd) (w : WirePacket) (th : LossThresholds) : LinkEnd :=
  match parseFrames e w.payload with
  | .error _ => l
  | .ok fs =>
    match l.handleFrames th fs with
    | (l', .error _) => l'
    | (l', .ok _) => { l' with sndq := l'.sndq.step (.recvPacket (l.decode w)), heard := w :: l'.heard }

/-- A step of the send queue. -/
def act (l : LinkEnd) (ev : SendEvent) : LinkEnd :=
  { l with sndq := l.sndq.step ev, dropped := fun id => l.dropped id ∨ l.sndq.forgets ev id }

/-- The beginning. -/
def start (conn : ConnRecv) (streams : StreamId → Stream) : LinkEnd :=
  { conn := conn, incoming := fun id => { stream := streams id } }

end LinkEnd

/-- Nothing is written, or one packet gets bytes of the stream. -/
theorem LinkEnd.write_cases (l : LinkEnd) (highPri : Bool) (params : PktParams) (streamId : StreamId)
    (fin : Bool) (payload : Bytes) :
    l.write highPri params streamId fin payload = l ∨
      ∃ sndq n, (l.outgoing streamId).finWrite = false ∧
        writeStreamFrame l.sndq highPri params streamId (l.outgoing streamId).bytes.length fin payload =
          .ok (sndq, n) ∧
        l.write highPri params streamId fin payload =
          { l with
            sndq := sndq
            outgoing := Function.update l.outgoing streamId
              { bytes := (l.outgoing streamId).bytes ++ payload.take n
                finWrite := fin && n = payload.length } } := by
  unfold LinkEnd.write
  dsimp only
  split_ifs with hfin
  · exact .inl rfl
  · split
    · exact .inl rfl
    · rename_i sndq n hw
      exact .inr ⟨sndq, n, Bool.eq_false_iff.2 hfin, hw, rfl⟩

section

variable (l : LinkEnd) (th : LossThresholds)

/-- **What every frame of the loop keeps, the loop keeps**, whether it comes to its end or not. -/
theorem LinkEnd.handleFrames_keeps {C : LinkEnd → Prop} {fs : List Frame}
    (hstep : ∀ f ∈ fs, ∀ l, C l → C (l.handleFrame th f).1) (h : C l) : C (l.handleFrames th fs).1 := by
  induction fs generalizing l with
  | nil => exact h
  | cons f fs ih =>
      obtain ⟨hf, hrest⟩ := List.forall_mem_cons.1 hstep
      have hhandled := hf l h
      rw [handleFrames]
      split
      · rename_i l' r heq
        rw [heq] at hhandled
        exact ih l' hrest hhandled
      · rename_i l' r heq
        rw [heq] at hhandled
        exact hhandled

theorem LinkEnd.handleFrames_heard (fs : List Frame) : (l.handleFrames th fs).1.heard = l.heard := by
  refine l.handleFrames_keeps th (C := fun x => x.heard = l.heard) (fun f _ x hx => ?_) rfl
  cases f <;> exact hx

/-- A packet that arrives is ignored, handled in part, or handled and recorded. -/
theorem LinkEnd.arrive_cases (e : ℕ) (w : WirePacket) :
    l.arrive e w th = l ∨ ∃ fs, parseFrames e w.payload = .ok fs ∧
      (l.arrive e w th = (l.handleFrames th fs).1 ∨
        (l.handleFrames th fs).2 = .ok () ∧
          l.arrive e w th =
            { (l.handleFrames th fs).1 with
              sndq := (l.handleFrames th fs).1.sndq.step (.recvPacket (l.decode w))
              heard := w :: (l.handleFrames th fs).1.heard }) := by
  unfold LinkEnd.arrive
  split
  · exact .inl rfl
  · rename_i fs hparse
    refine .inr ⟨fs, hparse, ?_⟩
    split
    · rename_i l' err heq
      exact .inl (congrArg Prod.fst heq).symm
    · rename_i l' r heq
      rw [heq]
      exact .inr ⟨rfl, rfl⟩

end

/-! ## Steps -/

/-- Both ends. -/
abbrev Link := ConnType → LinkEnd

/-- What happens at the end `a`. -/
inductive LinkEvent where
  /-- Its send queue goes on: control frames, ACK frames, packets that are scheduled and sent, timers,
  streams that are dropped. -/
  | act (a : ConnType) (ev : SendEvent)
  | write (a : ConnType) (highPri : Bool) (params : PktParams) (streamId : StreamId) (fin : Bool)
      (payload : Bytes)
  | read (a : ConnType) (streamId : StreamId) (env : RecvEnv) (bufSize : ℕ)
  /-- Some packet that the peer gave to the socket arrives. -/
  | arrive (a : ConnType) (i : ℕ) (th : LossThresholds)

namespace Link

/-- One step. The end `a` parses ACK delays with the exponent `exponent a`. -/
def step (exponent : ConnType → ℕ) (l : Link) : LinkEvent → Link
  | .act a ev => Function.update l a ((l a).act ev)
  | .write a highPri params streamId fin payload =>
    Function.update l a ((l a).write highPri params streamId fin payload)
  | .read a streamId env bufSize => Function.update l a ((l a).read streamId env bufSize)
  | .arrive a i th =>
    match (l a.peer).sndq.wire[i]? with
    | none => l
    | some w => Function.update l a ((l a).arrive (exponent a) w th)

/-- A run. -/
def run (exponent : ConnType → ℕ) (l : Link) (evs : List LinkEvent) : Link :=
  evs.foldl (step exponent) l

/-- The beginning: nothing was sent. -/
def start (conn : ConnType → ConnRecv) (streams : ConnType → StreamId → Stream) : Link :=
  fun a => .start (conn a) (streams a)

end Link

/-- The step is one that the send queue takes for itself: STREAM frames are written through streams, and
packets come from the peer. -/
def SendEvent.isOwn : SendEvent → Bool
  | .stream .. | .ackReceived .. | .recvPacket _ => false
  | _ => true

/-- The values of the event fit the wire format. A packet that arrives has a number of four bytes and is
less than half a window late. -/
def LinkEvent.Ok (l : Link) : LinkEvent → Prop
  | .act _ ev => ev.isOwn = true ∧ ev.Wf
  | .write a _ _ streamId _ payload =>
    streamId < 2 ^ 62 ∧ ((l a).outgoing streamId).bytes.length + payload.length < 2 ^ 62
  | .read .. => True
  | .arrive a i _ => ∀ w ∈ (l a.peer).sndq.wire[i]?,
    w.pktNum < 2 ^ 32 ∧ recvRecordLargest (l a).sndq.recvRecord + 1 < w.pktNum + 2 ^ 31

/-- Every event of the run is like that when it happens. -/
def Link.Fine (exponent : ConnType → ℕ) : Link → List LinkEvent → Prop
  | _, [] => True
  | l, ev :: evs => ev.Ok l ∧ Fine exponent (l.step exponent ev) evs

theorem Link.fine_cons {exponent : ConnType → ℕ} {l : Link} {ev : LinkEvent} {evs : List LinkEvent}
    (hok : ev.Ok l) (h : Link.Fine exponent (l.step exponent ev) evs) :
    Link.Fine exponent l (ev :: evs) := ⟨hok, h⟩

/-! ## Packets that are given up -/

/-- The step gives up no packet. -/
def SendEvent.keeps : SendEvent → Bool
  | .dropStream _ | .pathChallenge .. => false
  | _ => true

theorem LinkEnd.handleFrames_dropped (l : LinkEnd) (th : LossThresholds) (fs : List Frame) :
    (l.handleFrames th fs).1.dropped = l.dropped := by
  refine l.handleFrames_keeps th (C := fun x => x.dropped = l.dropped) (fun f _ x hx => ?_) rfl
  cases f <;> exact hx

theorem LinkEnd.arrive_dropped (l : LinkEnd) (e : ℕ) (w : WirePacket) (th : LossThresholds) :
    (l.arrive e w th).dropped = l.dropped := by
  rcases l.arrive_cases th e w with heq | ⟨fs, -, heq | ⟨-, heq⟩⟩
  · rw [heq]
  · rw [heq, handleFrames_dropped]
  · rw [heq, handleFrames_dropped]

theorem LinkEnd.write_dropped (l : LinkEnd) (highPri : Bool) (params : PktParams) (streamId : StreamId)
    (fin : Bool) (payload : Bytes) :
    (l.write highPri params streamId fin payload).dropped = l.dropped := by
  rcases l.write_cases highPri params streamId fin payload with heq | ⟨sndq, n, -, -, heq⟩
  · rw [heq]
  · rw [heq]

theorem Link.step_dropped (exponent : ConnType → ℕ) (l : Link) {ev : LinkEvent}
    (hkeeps : ∀ b own, ev = .act b own → own.keeps = true) (a : ConnType) (id : PktId) :
    (l.step exponent ev a).dropped id → (l a).dropped id := by
  have hupdate : ∀ {b : ConnType} {x : LinkEnd}, (x.dropped id → (l b).dropped id) →
      (Function.update l b x a).dropped id → (l a).dropped id := by
    intro b x hx
    by_cases hb : a = b
    · subst hb
      rw [Function.update_self]
      exact hx
    · rw [Function.update_of_ne hb]
      exact fun h => h
  cases ev with
  | act b ev =>
      have hkeep := hkeeps b ev rfl
      refine hupdate fun h => h.resolve_right fun habs => ?_
      cases ev <;> first | exact habs | cases hkeep
  | write b highPri params streamId fin payload =>
      refine hupdate ?_
      rw [LinkEnd.write_dropped]
      exact fun h => h
  | read b streamId env bufSize => exact hupdate fun h => h
  | arrive b i th =>
      rw [step]
      cases (l b.peer).sndq.wire[i]? with
      | none => exact fun h => h
      | some w =>
          refine hupdate ?_
          rw [LinkEnd.arrive_dropped]
          exact fun h => h

theorem Link.run_dropped (exponent : ConnType → ℕ) (l : Link) {evs : List LinkEvent}
    (hkeeps : ∀ b own, LinkEvent.act b own ∈ evs → own.keeps = true) (a : ConnType) (id : PktId) :
    (l.run exponent evs a).dropped id → (l a).dropped id := by
  induction evs generalizing l with
  | nil => exact fun h => h
  | cons ev evs ih =>
      intro h
      refine l.step_dropped exponent (fun b own hev => hkeeps b own (hev ▸ List.mem_cons_self)) a id ?_
      exact ih (l.step exponent ev) (fun b own hev => hkeeps b own (List.mem_cons_of_mem _ hev)) h

end Rquic

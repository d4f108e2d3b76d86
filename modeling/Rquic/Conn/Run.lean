import Rquic.Conn.Frames

set_option autoImplicit false

/-!
# Runs of a connection

Every way a connection can go on: the calls of the application, the frames that arrive, and what the
engine does between them.

* `Frame.Fits`, `WireFrame`: the frames that the parsers return.
* `EngineEvent`: the part of the engine that moves packets.
* `ConnEvent`, `Conn.step`, `Conn.run`: one step for each call, each frame and each move of the engine.
* `serverHandshake`: the handshake of a server.
* `RunMeets`: every step of a run meets a condition on the state before it.
-/

namespace Rquic

/-! ## Frames off the wire -/

/-- The fields of a parsed frame are variable-length integers, and the end of a STREAM frame is one
too. -/
def Frame.Fits : Frame → Prop
  | .resetStream streamId errCode finalSize =>
    streamId < 2 ^ 62 ∧ errCode < 2 ^ 62 ∧ finalSize < 2 ^ 62
  | .stopSending a b | .maxStreamData a b | .streamDataBlocked a b => a < 2 ^ 62 ∧ b < 2 ^ 62
  | .stream streamId offset _ data => streamId < 2 ^ 62 ∧ offset + data.length < 2 ^ 62
  | .maxData a | .maxStreams _ a | .dataBlocked a | .streamsBlocked _ a | .connectionClose a =>
    a < 2 ^ 62
  | _ => True

instance (f : Frame) : Decidable f.Fits := by
  unfold Frame.Fits
  cases f <;> infer_instance

/-- A frame that a parser can return. -/
abbrev WireFrame := {f : Frame // f.Fits}

theorem parseOne_fits (mk : ℕ → Frame) {bs rest : Bytes} {f : Frame}
    (hmk : ∀ a < 2 ^ 62, (mk a).Fits) (h : parseOne mk bs = .ok (f, rest)) : f.Fits := by
  obtain ⟨a, ha, h⟩ := bind_eq_ok h
  obtain ⟨rfl, -⟩ := Prod.mk.inj (Except.ok.inj h)
  exact hmk _ (readVint_lt ha)

theorem parseTwo_fits (mk : ℕ → ℕ → Frame) {bs rest : Bytes} {f : Frame}
    (hmk : ∀ a < 2 ^ 62, ∀ b < 2 ^ 62, (mk a b).Fits) (h : parseTwo mk bs = .ok (f, rest)) :
    f.Fits := by
  obtain ⟨a, ha, h⟩ := bind_eq_ok h
  obtain ⟨b, hb, h⟩ := bind_eq_ok h
  obtain ⟨rfl, -⟩ := Prod.mk.inj (Except.ok.inj h)
  exact hmk _ (readVint_lt ha) _ (readVint_lt hb)

theorem parseResetStreamFrame_fits {bs rest : Bytes} {f : Frame}
    (h : parseResetStreamFrame bs = .ok (f, rest)) : f.Fits := by
  obtain ⟨a, ha, h⟩ := bind_eq_ok h
  obtain ⟨b, hb, h⟩ := bind_eq_ok h
  obtain ⟨c, hc, h⟩ := bind_eq_ok h
  obtain ⟨rfl, -⟩ := Prod.mk.inj (Except.ok.inj h)
  exact ⟨readVint_lt ha, readVint_lt hb, readVint_lt hc⟩

theorem fits_of_streamTail {id off len : ℕ} {fin : Bool} {bs rest : Bytes} {f : Frame}
    (hid : id < 2 ^ 62) (hoff : off < 2 ^ 62)
    (h : (if 2 ^ 62 - 1 - off < len then Except.error Errno.illframe
      else Except.ok (Frame.stream id off fin (bs.take len), bs.drop len)) = Except.ok (f, rest)) :
    f.Fits := by
  split_ifs at h
  obtain ⟨rfl, -⟩ := Prod.mk.inj (Except.ok.inj h)
  have htake := List.length_take_le len bs
  exact ⟨hid, by omega⟩

theorem parseStreamFrame_fits {b : UInt8} {bs rest : Bytes} {f : Frame}
    (h : parseStreamFrame b bs = .ok (f, rest)) : f.Fits := by
  unfold parseStreamFrame at h
  obtain ⟨⟨id, bs₁⟩, hid, h⟩ := bind_eq_ok h
  have hid' := readVint_lt hid
  dsimp only at h
  -- the optional offset and the optional length
  split_ifs at h
  · obtain ⟨⟨off, bs₂⟩, hoff, h⟩ := bind_eq_ok h
    dsimp only at h
    obtain ⟨⟨len, bs₃⟩, -, h⟩ := bind_eq_ok h
    dsimp only at h
    split_ifs at h
    · cases h
    · exact fits_of_streamTail hid' (readVint_lt hoff) h
  · obtain ⟨⟨off, bs₂⟩, hoff, h⟩ := bind_eq_ok h
    exact fits_of_streamTail hid' (readVint_lt hoff) h
  · obtain ⟨⟨off, bs₂⟩, hoff, h⟩ := bind_eq_ok h
    obtain ⟨rfl, -⟩ := Prod.mk.inj (Except.ok.inj hoff)
    obtain ⟨⟨len, bs₃⟩, -, h⟩ := bind_eq_ok h
    dsimp only at h
    split_ifs at h
    · cases h
    · exact fits_of_streamTail hid' (Nat.two_pow_pos _) h
  · exact fits_of_streamTail hid' (Nat.two_pow_pos _) h

theorem parseConnCloseFrame_fits {b : UInt8} {bs rest : Bytes} {f : Frame}
    (h : parseConnCloseFrame b bs = .ok (f, rest)) : f.Fits := by
  unfold parseConnCloseFrame at h
  obtain ⟨a, ha, h⟩ := bind_eq_ok h
  have ha' := readVint_lt ha
  split_ifs at h
  · obtain ⟨_, -, h⟩ := bind_eq_ok h
    obtain ⟨_, -, h⟩ := bind_eq_ok h
    obtain ⟨_, -, h⟩ := bind_eq_ok h
    obtain ⟨rfl, -⟩ := Prod.mk.inj (Except.ok.inj h)
    exact ha'
  · obtain ⟨_, -, h⟩ := bind_eq_ok h
    obtain ⟨_, -, h⟩ := bind_eq_ok h
    obtain ⟨rfl, -⟩ := Prod.mk.inj (Except.ok.inj h)
    exact ha'

theorem parseAckFrame_fits {e : ℕ} {bs rest : Bytes} {f : Frame}
    (h : parseAckFrame e bs = .ok (f, rest)) : f.Fits := by
  unfold parseAckFrame at h
  obtain ⟨_, -, h⟩ := bind_eq_ok h
  obtain ⟨_, -, h⟩ := bind_eq_ok h
  obtain ⟨_, -, h⟩ := bind_eq_ok h
  obtain ⟨_, -, h⟩ := bind_eq_ok h
  obtain ⟨_, -, h⟩ := bind_eq_ok h
  obtain ⟨_, -, h⟩ := bind_eq_ok h
  split_ifs at h
  · obtain ⟨_, -, h⟩ := bind_eq_ok h
    obtain ⟨_, -, h⟩ := bind_eq_ok h
    obtain ⟨_, -, h⟩ := bind_eq_ok h
    obtain ⟨_, -, h⟩ := bind_eq_ok h
    obtain ⟨rfl, -⟩ := Prod.mk.inj (Except.ok.inj h)
    trivial
  · obtain ⟨_, -, h⟩ := bind_eq_ok h
    obtain ⟨rfl, -⟩ := Prod.mk.inj (Except.ok.inj h)
    trivial

theorem parseHandshakeFrame_fits {bs rest : Bytes} {f : Frame}
    (h : parseHandshakeFrame bs = .ok (f, rest)) : f.Fits := by
  obtain ⟨_, -, h⟩ := bind_eq_ok h
  obtain ⟨_, -, h⟩ := bind_eq_ok h
  obtain ⟨_, -, h⟩ := bind_eq_ok h
  obtain ⟨rfl, -⟩ := Prod.mk.inj (Except.ok.inj h)
  trivial

theorem parseDatagramFrame_fits {bs rest : Bytes} {f : Frame}
    (h : parseDatagramFrame bs = .ok (f, rest)) : f.Fits := by
  obtain ⟨_, -, h⟩ := bind_eq_ok h
  simp only at h
  split_ifs at h
  · obtain ⟨_, -, h⟩ := bind_eq_ok h
    split_ifs at h
    obtain ⟨rfl, -⟩ := Prod.mk.inj (Except.ok.inj h)
    trivial
  · obtain ⟨rfl, -⟩ := Prod.mk.inj (Except.ok.inj h)
    trivial

theorem parsePathFrame_fits (mk : Bytes → Frame) (hmk : ∀ data, (mk data).Fits) {bs rest : Bytes}
    {f : Frame} (h : parsePathFrame mk bs = .ok (f, rest)) : f.Fits := by
  unfold parsePathFrame at h
  split_ifs at h
  obtain ⟨rfl, -⟩ := Prod.mk.inj (Except.ok.inj h)
  exact hmk _

/-- **The parsers return frames that fit.** -/
theorem parseFrame_fits {e : ℕ} {bs rest : Bytes} {f : Frame} (h : parseFrame e bs = .ok (f, rest)) :
    f.Fits := by
  cases bs with
  | nil => cases h
  | cons b bs =>
      rw [parseFrame] at h
      split at h
      · cases h
      · split at h
        · obtain ⟨rfl, -⟩ := Prod.mk.inj (Except.ok.inj h)
          trivial
        · obtain ⟨rfl, -⟩ := Prod.mk.inj (Except.ok.inj h)
          trivial
        · exact parseAckFrame_fits h
        · exact parseAckFrame_fits h
        · exact parseResetStreamFrame_fits h
        · exact parseTwo_fits .stopSending (fun _ ha _ hb => ⟨ha, hb⟩) h
        · exact parseHandshakeFrame_fits h
        iterate 8
          · exact parseStreamFrame_fits h
        · exact parseOne_fits .maxData (fun _ ha => ha) h
        · exact parseTwo_fits .maxStreamData (fun _ ha _ hb => ⟨ha, hb⟩) h
        · exact parseOne_fits (.maxStreams (b = 0x12)) (fun _ ha => ha) h
        · exact parseOne_fits (.maxStreams (b = 0x12)) (fun _ ha => ha) h
        · exact parseOne_fits .dataBlocked (fun _ ha => ha) h
        · exact parseTwo_fits .streamDataBlocked (fun _ ha _ hb => ⟨ha, hb⟩) h
        · exact parseOne_fits (.streamsBlocked (b = 0x16)) (fun _ ha => ha) h
        · exact parseOne_fits (.streamsBlocked (b = 0x16)) (fun _ ha => ha) h
        · exact parsePathFrame_fits .pathChallenge (fun _ => trivial) h
        · exact parsePathFrame_fits .pathResponse (fun _ => trivial) h
        · exact parseConnCloseFrame_fits h
        · exact parseConnCloseFrame_fits h
        · exact parseDatagramFrame_fits h
        · exact parseDatagramFrame_fits h
        · cases h

/-! ## Events -/

/-- The moves of the engine that concern packets. -/
inductive EngineEvent where
  | ack (pktType : PktType) (ackDelay ackDelayExponent : ℕ)
  | ping (notify : Bool)
  | datagram (data : Bytes) (bufSize : ℕ)
  | schedule (t : SendType)
  | clear (t : SendType)
  | send (t : SendType) (outcome : SendOutcome) (srtt now : ℕ)
  | numberUnsent (t : SendType) (n now : ℕ)
  | pathChallenge (data : Bytes) (now : ℕ)
  | buff1rtt
  | writeBuffed1rtt
  | lossTimeout (th : LossThresholds)
  | probeTimeout

/-- The event of the send queue. -/
def EngineEvent.toSend (c : Conn) : EngineEvent → SendEvent
  | .ack pktType ackDelay ackDelayExponent => .ack (c.params pktType) ackDelay ackDelayExponent
  | .ping notify => .control (c.params c.stateToPktType) .ping notify 0 c.handshakeDone
  | .datagram data bufSize =>
    .control (c.params .shortHeader) (.datagram data) false bufSize c.handshakeDone
  | .schedule t => .schedule t
  | .clear t => .clear t
  | .send t outcome srtt now => .send t outcome srtt now
  | .numberUnsent t n now => .numberUnsent t n now
  | .pathChallenge data now => .pathChallenge (c.params .shortHeader) data now
  | .buff1rtt => .buff1rtt
  | .writeBuffed1rtt => .writeBuffed1rtt
  | .lossTimeout th => .lossTimeout th
  | .probeTimeout => .probeTimeout (c.params c.stateToPktType)

/-- A packet with a HANDSHAKE frame goes to the socket. -/
def sendsHandshake (c : Conn) : EngineEvent → Bool
  | .send t .sent _ _ =>
    match c.sndq.lists (.scheduleBuf t) with
    | [] => false
    | id :: _ => decide (.handshake ∈ (c.sndq.pkts id).poFrameTypes) &&
        (indirectlyAckOrDropPo c.sndq id).isNone
  | _ => false

/-- The sending half of a stream moves on, as its packets are sent and acknowledged. When that is, the
send control decides. -/
def advanceSend (connType : ConnType) (s : Stream) : Stream :=
  match s.streamStateSend with
  | .ready => { s with streamStateSend := .send }
  | .send => { s with streamStateSend := .dataSent }
  | .dataSent => streamMaybeNeedClose connType { s with streamStateSend := .dataRecvd }
  | .resetSent => streamMaybeNeedClose connType { s with streamStateSend := .resetRecvd }
  | .dataRecvd | .resetRecvd => s

/-- The window updates that a read writes. -/
def writeWindow (c : Conn) : Frame → Conn
  | .maxData limit => (c.write (.maxData limit)).1
  | .maxStreamData id limit => (c.write (.maxStreamData id limit)).1
  | _ => c

/-- `rqc_stream_recv` at a connection. -/
def streamRecvConn (c : Conn) (s : Stream) (env : RecvEnv) (recvBufSize : ℕ) : Conn :=
  let r := streamRecv env c.toConnRecv s recvBufSize
  r.frames.foldl writeWindow (Conn.setStream { c with toConnRecv := r.conn } r.stream)

/-- One event of a connection. -/
inductive ConnEvent where
  /-- A client starts. -/
  | handshake
  | create (dir : StreamDirection) (settings : Option StreamSettings) (accept : Bool)
  | send (id : StreamId) (env : SendEnv) (data : Bytes) (fin : Bool)
  | sendv (id : StreamId) (env : SendvEnv) (iov : List Bytes) (fin flush : Bool)
  | drain (id : StreamId) (env : SendEnv)
  | recv (id : StreamId) (env : RecvEnv) (recvBufSize : ℕ)
  | close (id : StreamId)
  /-- A stream that needs closing is destroyed. -/
  | destroy (id : StreamId)
  | sendState (id : StreamId)
  /-- A frame of a packet arrives at position `pos`; its bytes are `frameLen`. -/
  | frame (env : FrameEnv) (pkt : PacketIn) (pos frameLen : ℕ) (f : WireFrame)
  /-- All frames of a packet were handled. -/
  | processed (pkt : PacketIn)
  | error (err : TraErr)
  | immediateClose
  | engine (ev : EngineEvent)
  | header (header : PktType → Bytes)

/-- The packet loop hands the frame to its handler. -/
def Conn.takesFrame (c : Conn) (pkt : PacketIn) (f : Frame) : Bool :=
  !refusesPacket c pkt && (!c.isClosing || decide (c.connState = .closing ∧ f.type = .connectionClose))

/-- One step. -/
def Conn.step (c : Conn) : ConnEvent → Conn
  | .handshake => if c.connType = .client ∧ c.connState = .clientInit then (sendHandshake c).1 else c
  | .create dir settings accept => (streamCreate c dir settings accept).1
  | .send id env data fin =>
    match c.streams id with
    | none => c
    | some s =>
      let (c, s, _) := streamSend env c s data fin
      c.setStream s
  | .sendv id env iov fin flush =>
    match c.streams id with
    | none => c
    | some s =>
      let (c, s, _) := streamSendvAtomic env c s iov fin flush
      c.setStream s
  | .drain id env =>
    match c.streams id with
    | none => c
    | some s =>
      let (c, s, _) := streamAtomicDrain env c s
      c.setStream s
  | .recv id env recvBufSize =>
    match c.streams id with
    | none => c
    | some s => streamRecvConn c s env recvBufSize
  | .close id => streamClose c id
  | .destroy id =>
    match c.streams id with
    | none => c
    | some s => if s.needClose then destroyStream c id else c
  | .sendState id =>
    match c.streams id with
    | none => c
    | some s => c.setStream (advanceSend c.connType s)
  | .frame env pkt pos frameLen f =>
    if c.takesFrame pkt f.1 then
      (processFrame env (c.addLog (.recvd pkt.pktNum pos f.1)) pkt pos frameLen f.1).1
    else c
  | .processed pkt => onPktProcessed c pkt
  | .error err => c.raise err
  | .immediateClose => immediateClose c
  | .engine ev =>
    { c with
      sndq := c.sndq.step (ev.toSend c)
      handshakeSent := c.handshakeSent || sendsHandshake c ev }
  | .header header => { c with header := header }

theorem Conn.step_frame (c : Conn) (env : FrameEnv) (pkt : PacketIn) (pos frameLen : ℕ)
    (f : WireFrame) :
    c.step (.frame env pkt pos frameLen f) =
      if c.takesFrame pkt f.1 then
        (processFrame env (c.addLog (.recvd pkt.pktNum pos f.1)) pkt pos frameLen f.1).1
      else c := rfl

/-- A run. -/
def Conn.run (c : Conn) (evs : List ConnEvent) : Conn := evs.foldl Conn.step c

@[simp] theorem Conn.run_nil (c : Conn) : c.run [] = c := rfl

@[simp] theorem Conn.run_cons (c : Conn) (ev : ConnEvent) (evs : List ConnEvent) :
    c.run (ev :: evs) = (c.step ev).run evs := rfl

theorem Conn.run_append (c : Conn) (evs evs' : List ConnEvent) :
    c.run (evs ++ evs') = (c.run evs).run evs' := List.foldl_append ..

/-! ## A handshake -/

/-- A new server. -/
def newServer : Conn := connCreate .server ⟨0, false, 0, 1200, 1500, 0, 0, 0⟩ fun _ => []

/-- The answers of an application that takes every connection and every stream. -/
def acceptAll : FrameEnv := ⟨⟨0, none⟩, true, fun _ => .accepted []⟩

/-- The parameters of a client. -/
def clientParams : Bytes :=
  (encodeTransportParams
    { initialMaxData := 10000, initialMaxStreamDataBidiLocal := 5000
      initialMaxStreamDataBidiRemote := 5000, initialMaxStreamDataUni := 5000
      initialMaxStreamsBidi := 8, initialMaxStreamsUni := 8 } tpCap).toOption.getD []

/-- A frame in an Initial packet. -/
def initialFrame (f : Frame) (h : f.Fits) : ConnEvent := .frame acceptAll ⟨.init, 0, []⟩ 0 0 ⟨f, h⟩

/-- A frame in a 1-RTT packet. -/
def oneRttFrame (f : Frame) (h : f.Fits) : ConnEvent :=
  .frame acceptAll ⟨.shortHeader, 1, []⟩ 0 0 ⟨f, h⟩

/-- The client's HANDSHAKE arrives, the server sends its own, and the first 1-RTT packet of the client
tells that it was received. -/
def serverHandshake : List ConnEvent :=
  [initialFrame (.handshake [] clientParams []) trivial, .engine (.schedule .normalHighPri),
    .engine (.send .normalHighPri .sent 0 0), .engine (.schedule .normal),
    .engine (.send .normal .sent 0 0), oneRttFrame .ping trivial, .processed ⟨.shortHeader, 1, []⟩]

/-! ## Conditions on runs -/

/-- Every step of the run meets the condition, in the state before it. -/
def RunMeets (cond : Conn → ConnEvent → Prop) : Conn → List ConnEvent → Prop
  | _, [] => True
  | c, ev :: evs => cond c ev ∧ RunMeets cond (c.step ev) evs

instance RunMeets.decidable (cond : Conn → ConnEvent → Prop) [∀ c ev, Decidable (cond c ev)] :
    ∀ (c : Conn) (evs : List ConnEvent), Decidable (RunMeets cond c evs)
  | _, [] => isTrue trivial
  | c, ev :: evs =>
    have := RunMeets.decidable cond (c.step ev) evs
    inferInstanceAs (Decidable (_ ∧ _))

theorem RunMeets.append {cond : Conn → ConnEvent → Prop} {evs evs' : List ConnEvent} {c : Conn}
    (h : RunMeets cond c (evs ++ evs')) : RunMeets cond c evs ∧ RunMeets cond (c.run evs) evs' := by
  induction evs generalizing c with
  | nil => exact ⟨trivial, h⟩
  | cons ev evs ih =>
      obtain ⟨hfirst, hrest⟩ := ih h.2
      exact ⟨⟨h.1, hfirst⟩, hrest⟩

/-- An invariant of the steps that meet a condition is an invariant of the runs that do. -/
theorem RunMeets.inv {cond : Conn → ConnEvent → Prop} {P : Conn → Prop}
    (hstep : ∀ c ev, P c → cond c ev → P (c.step ev)) {evs : List ConnEvent} {c : Conn} (h : P c)
    (hmeets : RunMeets cond c evs) : P (c.run evs) := by
  induction evs generalizing c with
  | nil => exact h
  | cons ev evs ih => exact ih (hstep c ev h hmeets.1) hmeets.2

/-- An invariant of the steps is an invariant of the runs. -/
theorem Conn.run_inv {P : Conn → Prop} (hstep : ∀ c ev, P c → P (c.step ev)) {c : Conn} (h : P c)
    (evs : List ConnEvent) : P (c.run evs) := by
  induction evs generalizing c with
  | nil => exact h
  | cons ev evs ih => exact ih (hstep c ev h)

end Rquic

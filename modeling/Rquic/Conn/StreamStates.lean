import Rquic.Conn.AtomicSend
import Rquic.Conn.Gate
import Rquic.SendCtl.Halves

set_option autoImplicit false

/-!
# The state machine of a stream

In `Conn.step` the sending half of a stream moves on by an event of its own. Here the send control
moves it: with the packets that the engine sends, and with the ACK frames that arrive.

* `Conn.sendCtl`, `Conn.putHalves`: the send control of a connection, and what it did to the streams.
* `StreamEvent`, `Conn.streamStep`, `Conn.streamRun`: the events, with `rqc_stream_peek`.
* `StreamsMove`: both halves of every stream have moved along the edges of RFC 9000.
* `Conn.SparesDone`: a close, a RESET_STREAM frame or a STOP_SENDING frame does not meet a half that is
  done.
* **`streamRun_moves`**: in a run of such steps the streams move along their edges.
-/

namespace Rquic

/-! ## The send control of a connection -/

/-- The part of a stream that the send control moves. -/
def Stream.sendHalf (s : Stream) : SendHalf := ⟨s.streamUnackedPkt, s.streamStateSend⟩

/-- The send control of a connection. What it counts of packets has no bearing on the streams. -/
def Conn.sendCtl (c : Conn) : SendCtl :=
  { toSendQueue := c.sndq, streams := fun id => (c.streams id).map Stream.sendHalf }

/-- The stream after the send control has moved its sending half (`rqc_stream_send_state_update`,
`rqc_stream_maybe_need_close`). -/
def Stream.putHalf (connType : ConnType) (s : Stream) (h : SendHalf) : Stream :=
  let moved := { s with
    streamUnackedPkt := h.streamUnackedPkt, streamStateSend := h.streamStateSend }
  if h.streamStateSend = s.streamStateSend then moved
  else
    match h.streamStateSend with
    | .dataRecvd => streamMaybeNeedClose connType moved
    | .resetRecvd => streamMaybeNeedClose connType (atomicClearPending moved)
    | _ => moved

/-- The streams after the send control has moved their sending halves. -/
def Conn.putHalves (c : Conn) (ctl : SendCtl) : Conn :=
  { c with streams := fun id => (c.streams id).map fun s =>
      match ctl.streams id with
      | none => s
      | some h => s.putHalf c.connType h }

/-! ## Events -/

/-- One event: of the connection, or a call of `rqc_stream_peek`. -/
inductive StreamEvent where
  | conn (ev : ConnEvent)
  | peek (id : StreamId) (peekBufSize : ℕ)

/-- One step. -/
def Conn.streamStep (c : Conn) : StreamEvent → Conn
  | .peek id peekBufSize =>
    match c.streams id with
    | none => c
    | some s => c.setStream (streamPeek c.connType s peekBufSize).stream
  -- the send control moves the half, with the packets
  | .conn (.sendState _) => c
  | .conn (.engine ev) => (c.step (.engine ev)).putHalves (c.sendCtl.queueStep (ev.toSend c))
  | .conn (.frame env pkt pos frameLen ⟨.ack info, h⟩) =>
    if c.takesFrame pkt (.ack info) then
      (c.step (.frame env pkt pos frameLen ⟨.ack info, h⟩)).putHalves
        (c.sendCtl.onAckReceived info env.th)
    else c
  | .conn ev => c.step ev

/-- A run. -/
def Conn.streamRun (c : Conn) (evs : List StreamEvent) : Conn := evs.foldl Conn.streamStep c

theorem Conn.streamRun_append (c : Conn) (evs : List StreamEvent) (ev : StreamEvent) :
    c.streamRun (evs ++ [ev]) = (c.streamRun evs).streamStep ev := by
  simp [Conn.streamRun]

/-! ## Moves -/

/-- The state of the sending half. A stream that is not there starts in `READY`. -/
def Conn.stateSend (c : Conn) (id : StreamId) : SendStreamState :=
  ((c.streams id).map Stream.streamStateSend).getD .ready

/-- The state of the receiving half. A stream that is not there starts in `RECV`. -/
def Conn.stateRecv (c : Conn) (id : StreamId) : RecvStreamState :=
  ((c.streams id).map Stream.streamStateRecv).getD .recv

/-- Both halves of every stream have moved along their edges. -/
def StreamsMove (c c' : Conn) : Prop :=
  ∀ id s', c'.streams id = some s' →
    SendPath (c.stateSend id) s'.streamStateSend ∧ RecvPath (c.stateRecv id) s'.streamStateRecv

/-- The frame meets no half that is done. -/
def Conn.sparesDone (c : Conn) : Frame → Prop
  | .resetStream id _ _ => c.stateSend id ≠ .dataRecvd ∧ c.stateRecv id ≠ .dataRead
  | .stopSending id _ => c.stateSend id ≠ .dataRecvd
  | _ => True

/-- The event does not reset a half that is done. -/
def Conn.SparesDone (c : Conn) : StreamEvent → Prop
  | .conn (.close id) => c.isClosing = true ∨ c.stateSend id ≠ .dataRecvd
  | .conn (.frame _ pkt _ _ f) => c.takesFrame pkt f.1 = true → c.sparesDone f.1
  | _ => True

instance (c : Conn) : ∀ f, Decidable (c.sparesDone f)
  | .resetStream id _ _ =>
    inferInstanceAs (Decidable (c.stateSend id ≠ .dataRecvd ∧ c.stateRecv id ≠ .dataRead))
  | .stopSending id _ => inferInstanceAs (Decidable (c.stateSend id ≠ .dataRecvd))
  | .padding | .ping | .ack _ | .handshake .. | .stream .. | .maxData _ | .maxStreamData ..
  | .maxStreams .. | .dataBlocked _ | .streamDataBlocked .. | .streamsBlocked .. | .pathChallenge _
  | .pathResponse _ | .connectionClose _ | .datagram _ => .isTrue trivial

instance (c : Conn) : ∀ ev, Decidable (c.SparesDone ev)
  | .conn (.close id) => inferInstanceAs (Decidable (c.isClosing = true ∨ c.stateSend id ≠ .dataRecvd))
  | .conn (.frame _ pkt _ _ f) =>
    inferInstanceAs (Decidable (c.takesFrame pkt f.1 = true → c.sparesDone f.1))
  | .conn .handshake | .conn (.create ..) | .conn (.send ..) | .conn (.sendv ..) | .conn (.drain ..)
  | .conn (.recv ..) | .conn (.destroy _) | .conn (.sendState _) | .conn (.processed _) | .conn (.error _)
  | .conn .immediateClose | .conn (.engine _) | .conn (.header _) | .peek .. => .isTrue trivial

section Moves

variable {c c' c'' : Conn}

theorem Conn.stateSend_of_some {id : StreamId} {s : Stream} (hs : c.streams id = some s) :
    c.stateSend id = s.streamStateSend := by
  simp [Conn.stateSend, hs]

theorem Conn.stateRecv_of_some {id : StreamId} {s : Stream} (hs : c.streams id = some s) :
    c.stateRecv id = s.streamStateRecv := by
  simp [Conn.stateRecv, hs]

theorem StreamsMove.of_streams (h : c'.streams = c.streams) : StreamsMove c c' := by
  intro id s' hs'
  rw [h] at hs'
  rw [Conn.stateSend_of_some hs', Conn.stateRecv_of_some hs']
  exact ⟨.refl, .refl⟩

theorem StreamsMove.refl (c : Conn) : StreamsMove c c := .of_streams rfl

theorem StreamsMove.after (h : StreamsMove c c') (hstreams : c''.streams = c'.streams) :
    StreamsMove c c'' := by
  intro id s'' hs''
  rw [hstreams] at hs''
  exact h id s'' hs''

/-- Two moves make one, if no stream was lost between them. -/
theorem StreamsMove.trans (h : StreamsMove c c') (h' : StreamsMove c' c'')
    (hkept : ∀ id, c'.streams id = none → c.streams id = none) : StreamsMove c c'' := by
  intro id s'' hs''
  obtain ⟨hsend, hrecv⟩ := h' id s'' hs''
  cases hs' : c'.streams id with
  | none =>
      have hnone := hkept id hs'
      simp only [Conn.stateSend, Conn.stateRecv, hs', hnone] at hsend hrecv ⊢
      exact ⟨hsend, hrecv⟩
  | some s' =>
      rw [Conn.stateSend_of_some hs'] at hsend
      rw [Conn.stateRecv_of_some hs'] at hrecv
      obtain ⟨hsend', hrecv'⟩ := h id s' hs'
      exact ⟨hsend'.trans hsend, hrecv'.trans hrecv⟩

theorem StreamsMove.update (s' : Stream)
    (hstreams : c'.streams = Function.update c.streams s'.streamId (some s'))
    (hsend : SendPath (c.stateSend s'.streamId) s'.streamStateSend)
    (hrecv : RecvPath (c.stateRecv s'.streamId) s'.streamStateRecv) : StreamsMove c c' := by
  intro id s₁ hs₁
  rw [hstreams] at hs₁
  by_cases heq : id = s'.streamId
  · rw [heq, Function.update_self] at hs₁
    obtain rfl := Option.some.inj hs₁
    rw [heq]
    exact ⟨hsend, hrecv⟩
  · rw [Function.update_of_ne heq] at hs₁
    exact StreamsMove.refl c id s₁ hs₁

theorem StreamsMove.setStream {s s' : Stream} (hs : c.streams s.streamId = some s)
    (hid : s'.streamId = s.streamId) (hsend : SendPath s.streamStateSend s'.streamStateSend)
    (hrecv : RecvPath s.streamStateRecv s'.streamStateRecv) : StreamsMove c (c.setStream s') := by
  refine .update s' rfl ?_ ?_
  · rw [hid, Conn.stateSend_of_some hs]
    exact hsend
  · rw [hid, Conn.stateRecv_of_some hs]
    exact hrecv

theorem StreamsMove.destroyed (id : StreamId)
    (hstreams : c'.streams = Function.update c.streams id none) : StreamsMove c c' := by
  intro id' s' hs'
  rw [hstreams] at hs'
  by_cases heq : id' = id
  · rw [heq, Function.update_self] at hs'
    cases hs'
  · rw [Function.update_of_ne heq] at hs'
    exact StreamsMove.refl c id' s' hs'

theorem StreamsMove.of_map
    (h : ∀ id, (c'.streams id).map (fun s => (s.streamStateSend, s.streamStateRecv)) =
      (c.streams id).map fun s => (s.streamStateSend, s.streamStateRecv)) : StreamsMove c c' := by
  intro id s' hs'
  have hid := h id
  rw [hs'] at hid
  obtain ⟨s, hs, heq⟩ := Option.map_eq_some_iff.1 hid.symm
  obtain ⟨hsend, hrecv⟩ := Prod.mk.inj heq
  rw [Conn.stateSend_of_some hs, Conn.stateRecv_of_some hs, hsend, hrecv]
  exact ⟨.refl, .refl⟩

end Moves

/-! ## Sends -/

/-- A send leaves the states of its stream alone; `c` and `c'` carry the stream beside them. -/
structure CallKept (c : Conn) (s : Stream) (c' : Conn) (s' : Stream) : Prop where
  streams : c'.streams = c.streams
  streamId : s'.streamId = s.streamId
  stateSend : s'.streamStateSend = s.streamStateSend
  stateRecv : s'.streamStateRecv = s.streamStateRecv

namespace CallKept

variable {c c' c'' : Conn} {s s' s'' : Stream}

theorem refl (c : Conn) (s : Stream) : CallKept c s c s := ⟨rfl, rfl, rfl, rfl⟩

theorem trans (h : CallKept c s c' s') (h' : CallKept c' s' c'' s'') : CallKept c s c'' s'' :=
  ⟨h'.streams.trans h.streams, h'.streamId.trans h.streamId, h'.stateSend.trans h.stateSend,
    h'.stateRecv.trans h.stateRecv⟩

theorem moves (h : CallKept c s c' s') (hs : c.streams s.streamId = some s) :
    StreamsMove c (c'.setStream s') := by
  have hstreams : (c'.setStream s').streams = Function.update c.streams s'.streamId (some s') := by
    rw [← h.streams]
    rfl
  refine .update s' hstreams ?_ ?_
  · rw [h.streamId, Conn.stateSend_of_some hs, h.stateSend]
  · rw [h.streamId, Conn.stateRecv_of_some hs, h.stateRecv]

end CallKept

theorem streamDoSendFlowCtl_kept (c : Conn) (s : Stream) :
    CallKept c s (streamDoSendFlowCtl c s).1 (streamDoSendFlowCtl c s).2.1 := by
  have hwrite : ∀ (c' : Conn) (f : ControlFrame), c'.streams = c.streams →
      (c'.write f).1.streams = c.streams := fun c' f h => (c'.write_streams f).trans h
  unfold streamDoSendFlowCtl
  dsimp only
  split_ifs
  · refine ⟨hwrite _ _ (hwrite _ _ ?_), rfl, rfl, rfl⟩
    rfl
  · refine ⟨hwrite _ _ ?_, rfl, rfl, rfl⟩
    rfl
  · exact ⟨hwrite c _ rfl, rfl, rfl, rfl⟩
  · exact .refl c s

theorem writeStreamFrameToPacket_kept (c : Conn) (s : Stream) (maxSrtt : ℕ) (fin : Bool)
    (payload : Bytes) :
    CallKept c s (writeStreamFrameToPacket c s maxSrtt fin payload).1
      (writeStreamFrameToPacket c s maxSrtt fin payload).2.1 := by
  have hfirst : CallKept c s (raiseFirstWindow c s maxSrtt).1 (raiseFirstWindow c s maxSrtt).2 := by
    obtain ⟨hc, hs⟩ := raiseFirstWindow_frame c s maxSrtt
    rw [hc, hs]
    exact ⟨rfl, rfl, rfl, rfl⟩
  unfold writeStreamFrameToPacket
  generalize raiseFirstWindow c s maxSrtt = r at hfirst ⊢
  obtain ⟨c₁, s₁⟩ := r
  refine hfirst.trans ?_
  dsimp only
  split
  · exact .refl c₁ s₁
  · exact ⟨rfl, rfl, rfl, rfl⟩

theorem sendLoop_kept (maxSrtt : ℕ) (fin : Bool) (data : Bytes) (room : ℕ) (c : Conn) (s : Stream)
    (offset : ℕ) :
    CallKept c s (sendLoop maxSrtt fin data room c s offset).1
      (sendLoop maxSrtt fin data room c s offset).2.1 := by
  induction room generalizing c s offset with
  | zero =>
      rw [sendLoop]
      by_cases hdone : data.length ≤ offset ∧ ¬ (fin = true ∧ data = [])
      · rw [if_pos hdone]
        exact .refl c s
      rw [if_neg hdone]
      have hflow := streamDoSendFlowCtl_kept c s
      generalize streamDoSendFlowCtl c s = r at hflow ⊢
      obtain ⟨c₁, s₁, blocked⟩ := r
      cases blocked <;> exact hflow
  | succ room ih =>
      rw [sendLoop]
      by_cases hdone : data.length ≤ offset ∧ ¬ (fin = true ∧ data = [])
      · rw [if_pos hdone]
        exact .refl c s
      rw [if_neg hdone]
      have hflow := streamDoSendFlowCtl_kept c s
      generalize streamDoSendFlowCtl c s = r at hflow ⊢
      obtain ⟨c₁, s₁, blocked⟩ := r
      cases blocked with
      | true => exact hflow
      | false =>
          refine CallKept.trans hflow ?_
          dsimp only
          have hwrite := writeStreamFrameToPacket_kept c₁ s₁ maxSrtt fin (data.drop offset)
          generalize writeStreamFrameToPacket c₁ s₁ maxSrtt fin (data.drop offset) = r at hwrite ⊢
          obtain ⟨c₂, s₂, ret⟩ := r
          cases ret with
          | error e => exact hwrite
          | ok n =>
              dsimp only
              split_ifs
              · exact hwrite
              · exact hwrite.trans (ih c₂ s₂ (offset + n))

theorem streamSendScalar_kept (env : SendEnv) (c : Conn) (s : Stream) (data : Bytes) (fin : Bool) :
    CallKept c s (streamSendScalar env c s data fin).1 (streamSendScalar env c s data fin).2.1 := by
  unfold streamSendScalar
  split_ifs
  · exact ⟨rfl, rfl, rfl, rfl⟩
  · exact ⟨rfl, rfl, rfl, rfl⟩
  · exact ⟨rfl, rfl, rfl, rfl⟩
  · dsimp only
    have hloop := sendLoop_kept env.maxSrtt fin data env.room c { s with readyToWrite := true } 0
    generalize sendLoop env.maxSrtt fin data env.room c { s with readyToWrite := true } 0 = r at hloop ⊢
    obtain ⟨c₁, s₁, offset, loopEnd⟩ := r
    have hkept : CallKept c s c₁ s₁ := ⟨hloop.streams, hloop.streamId, hloop.stateSend, hloop.stateRecv⟩
    cases loopEnd with
    | done => exact ⟨hkept.streams, hkept.streamId, hkept.stateSend, hkept.stateRecv⟩
    | again => exact hkept
    | failed e =>
        exact ⟨(Inert.raise c₁ _).streams.trans hkept.streams, hkept.streamId, hkept.stateSend,
          hkept.stateRecv⟩
  · exact ⟨rfl, rfl, rfl, rfl⟩

theorem streamSend_kept (env : SendEnv) (c : Conn) (s : Stream) (data : Bytes) (fin : Bool) :
    CallKept c s (streamSend env c s data fin).1 (streamSend env c s data fin).2.1 := by
  unfold streamSend
  split_ifs
  · exact .refl c s
  · exact streamSendScalar_kept env c s data fin

theorem atomicSavePending_kept (c : Conn) (s : Stream) (remaining : Bytes) (fin flush mallocOk : Bool) :
    CallKept c s c (atomicSavePending s remaining fin flush mallocOk).1 := by
  unfold atomicSavePending
  split_ifs <;> exact ⟨rfl, rfl, rfl, rfl⟩

theorem sendvLoop_kept (env : SendvEnv) (fin flush : Bool) (bufs : List Bytes) (i accepted : ℕ)
    (c : Conn) (s : Stream) :
    CallKept c s (sendvLoop env fin flush bufs i accepted c s).1
      (sendvLoop env fin flush bufs i accepted c s).2.1 := by
  induction bufs generalizing i accepted c s with
  | nil => exact .refl c s
  | cons buf bufs ih =>
      rw [sendvLoop]
      by_cases hnil : buf = []
      · rw [if_pos hnil]
        exact ih (i + 1) accepted c s
      rw [if_neg hnil]
      dsimp only
      have hsend := streamSendScalar_kept (env.send i) c s buf (fin && bufs.flatten = [])
      generalize streamSendScalar (env.send i) c s buf (fin && bufs.flatten = []) = r at hsend ⊢
      obtain ⟨c₁, s₁, ret⟩ := r
      refine CallKept.trans hsend ?_
      cases ret with
      | error e =>
          dsimp only
          have hsave := atomicSavePending_kept c₁ s₁ (buf ++ bufs.flatten) fin flush env.mallocOk
          generalize atomicSavePending s₁ (buf ++ bufs.flatten) fin flush env.mallocOk = r at hsave ⊢
          obtain ⟨s₂, saved⟩ := r
          split_ifs
          · exact .refl c₁ s₁
          · exact .refl c₁ s₁
          · cases saved <;> exact hsave
      | ok written =>
          dsimp only
          have hsave := atomicSavePending_kept c₁ s₁ (buf.drop written ++ bufs.flatten) fin flush
            env.mallocOk
          generalize atomicSavePending s₁ (buf.drop written ++ bufs.flatten) fin flush env.mallocOk = r
            at hsave ⊢
          obtain ⟨s₂, saved⟩ := r
          split_ifs
          · exact .refl c₁ s₁
          · exact ih (i + 1) (accepted + written) c₁ s₁
          · cases saved <;> exact hsave

theorem streamSendvAtomic_kept (env : SendvEnv) (c : Conn) (s : Stream) (iov : List Bytes)
    (fin flush : Bool) :
    CallKept c s (streamSendvAtomic env c s iov fin flush).1
      (streamSendvAtomic env c s iov fin flush).2.1 := by
  unfold streamSendvAtomic
  split_ifs
  · exact .refl c s
  · exact ⟨rfl, rfl, rfl, rfl⟩
  · exact ⟨rfl, rfl, rfl, rfl⟩
  · exact .refl c s
  · exact streamSendScalar_kept (env.send 0) c s [] true
  · exact .refl c s
  · refine CallKept.trans ?_ (sendvLoop_kept env fin flush iov 0 0 c _)
    exact ⟨rfl, rfl, rfl, rfl⟩

theorem streamAtomicDrain_kept (env : SendEnv) (c : Conn) (s : Stream) :
    CallKept c s (streamAtomicDrain env c s).1 (streamAtomicDrain env c s).2.1 := by
  unfold streamAtomicDrain
  split
  · exact .refl c s
  · rename_i ctx _
    split_ifs
    · exact .refl c s
    · have hsend := streamSendScalar_kept env c s (ctx.buf.drop ctx.pendingOffset) ctx.fin
      generalize streamSendScalar env c s (ctx.buf.drop ctx.pendingOffset) ctx.fin = r at hsend ⊢
      obtain ⟨c₁, s₁, ret⟩ := r
      refine CallKept.trans hsend ?_
      cases ret with
      | error e =>
          dsimp only
          split_ifs <;> exact ⟨rfl, rfl, rfl, rfl⟩
      | ok written =>
          dsimp only
          split_ifs <;> exact ⟨rfl, rfl, rfl, rfl⟩

/-! ## Streams of the peer -/

section Peer

variable {c c' c'' : Conn}

theorem StreamsMove.of_states (hsend : c'.stateSend = c.stateSend) (hrecv : c'.stateRecv = c.stateRecv)
    (h : StreamsMove c' c'') : StreamsMove c c'' := by
  intro id s'' hs''
  rw [← hsend, ← hrecv]
  exact h id s'' hs''

theorem createPeerStream_streams {id : StreamId} {accept : Bool} {s : Stream}
    (hnone : c.streams id = none) (h : createPeerStream c id accept = (c', some s)) :
    c'.streams = Function.update c.streams id (some s) := by
  unfold createPeerStream at h
  by_cases hclosing : c.isClosing = true
  · rw [if_pos hclosing] at h
    cases (Prod.mk.inj h).2
  rw [if_neg hclosing] at h
  have hflow := createPeerFlowCtl_inert c id
  rcases hfc : createPeerFlowCtl c id with ⟨c₁, ret⟩
  rw [hfc] at h hflow
  cases ret with
  | error e => cases h
  | ok u =>
      obtain ⟨s', rfl, -, -, heq⟩ := insertStream_of_none (c := c₁)
        ((congrFun hflow.streams id).trans hnone) (getStreamType id) none false accept
      obtain ⟨rfl, hs⟩ := Prod.mk.inj (heq.symm.trans h)
      obtain rfl := Option.some.inj hs
      show Function.update c₁.streams s'.streamId (some s') = _
      rw [hflow.streams]

theorem peerStream_streams {id : StreamId} {accept : Bool} {s : Stream}
    (h : peerStream c id accept = (c', some s)) :
    c' = c ∨ c.streams id = none ∧ c'.streams = Function.update c.streams id (some s) := by
  unfold peerStream at h
  split at h
  · exact .inl (Prod.mk.inj h).1.symm
  · rename_i hnone
    by_cases hlocal : (getStreamType id).isLocal c.connType = true
    · rw [if_pos hlocal] at h
      cases (Prod.mk.inj h).2
    rw [if_neg hlocal] at h
    unfold passiveCreateStream at h
    have hflow := createPeerFlowCtl_inert c id
    rcases hfc : createPeerFlowCtl c id with ⟨c₁, ret⟩
    rw [hfc] at h hflow
    cases ret with
    | error e => cases h
    | ok u =>
        dsimp only at h
        split at h
        · cases h
        · rename_i c₂ hopen
          have hstreams : c₂.streams = c.streams :=
            (openPassive_inert hopen).streams.trans hflow.streams
          split at h
          · cases h
          · rename_i c₃ s' hcreate
            obtain ⟨rfl, hs⟩ := Prod.mk.inj h
            obtain rfl := Option.some.inj hs
            refine .inr ⟨hnone, ?_⟩
            rw [← hstreams]
            exact createPeerStream_streams (by rw [hstreams]; exact hnone) hcreate

/-- The lookup of the peer's stream opens it at most, and so leaves the states as they were. -/
theorem peerStream_states (hkeyed : c.Keyed) {id : StreamId} {accept : Bool} {s : Stream}
    (h : peerStream c id accept = (c', some s)) :
    c'.stateSend = c.stateSend ∧ c'.stateRecv = c.stateRecv := by
  have hfound := peerStream_some hkeyed h
  rcases peerStream_streams h with rfl | ⟨hnone, hstreams⟩
  · exact ⟨rfl, rfl⟩
  have hnew : s.streamStateSend = .ready ∧ s.streamStateRecv = .recv := by
    rcases hfound.cases with rfl | ⟨-, hnew⟩
    · rw [hfound.stored] at hnone
      cases hnone
    · exact ⟨hnew.stateSend, hnew.stateRecv⟩
  constructor
  · funext id'
    unfold Conn.stateSend
    rw [hstreams]
    by_cases heq : id' = id
    · rw [heq, Function.update_self, hnone]
      exact hnew.1
    · rw [Function.update_of_ne heq]
  · funext id'
    unfold Conn.stateRecv
    rw [hstreams]
    by_cases heq : id' = id
    · rw [heq, Function.update_self, hnone]
      exact hnew.2
    · rw [Function.update_of_ne heq]

/-- A handler on the peer's stream moves the streams, if it does so once the stream is found. -/
theorem StreamsMove.peer (hkeyed : c.Keyed) (id : StreamId) (accept : Bool)
    (hnone : ∀ c₁, peerStream c id accept = (c₁, none) → StreamsMove c₁ c'')
    (hsome : ∀ c₁ s, peerStream c id accept = (c₁, some s) → s.streamId = id →
      c₁.streams s.streamId = some s → c₁.stateSend id = c.stateSend id →
      c₁.stateRecv id = c.stateRecv id → StreamsMove c₁ c'') : StreamsMove c c'' := by
  rcases hp : peerStream c id accept with ⟨c₁, _ | s⟩
  · have hstreams := (peerStream_inert hp).streams
    refine .of_states ?_ ?_ (hnone c₁ hp)
    · funext id'
      simp only [Conn.stateSend, hstreams]
    · funext id'
      simp only [Conn.stateRecv, hstreams]
  · have hfound := peerStream_some hkeyed hp
    obtain ⟨hsend, hrecv⟩ := peerStream_states hkeyed hp
    refine .of_states hsend hrecv (hsome c₁ s hp hfound.streamId ?_ ?_ ?_)
    · rw [hfound.streamId]
      exact hfound.stored
    · rw [hsend]
    · rw [hrecv]

/-! ## Resets -/

theorem markResetSent_path {s : Stream} (hst : s.streamStateSend ≠ .dataRecvd) :
    SendPath s.streamStateSend (markResetSent s).streamStateSend := by
  unfold markResetSent
  split_ifs with hlt
  · exact .single (.of_lt_resetSent hlt hst)
  · exact .refl

theorem writeResetStream_streams (c : Conn) (s : Stream) (errCode finalSize : ℕ) :
    (writeResetStream c s errCode finalSize).1.streams = c.streams ∨
      (writeResetStream c s errCode finalSize).1.streams =
        Function.update c.streams s.streamId (some (markResetSent s)) := by
  have hstreams := c.write_streams (.resetStream s.streamId errCode finalSize)
  unfold writeResetStream
  generalize c.write (.resetStream s.streamId errCode finalSize) = r at hstreams ⊢
  obtain ⟨c₁, ret⟩ := r
  cases ret with
  | error e => exact .inl hstreams
  | ok u =>
      right
      dsimp only [Conn.setStream] at hstreams ⊢
      rw [Stream.streamId_of_core (markResetSent_core s), hstreams]

/-- A RESET_STREAM frame on a sending half that is not done. -/
theorem writeResetStream_moves {s : Stream} (hs : c.streams s.streamId = some s)
    (hst : s.streamStateSend ≠ .dataRecvd) (errCode finalSize : ℕ) :
    StreamsMove c (writeResetStream c s errCode finalSize).1 := by
  have hcore := markResetSent_core s
  have hid := Stream.streamId_of_core hcore
  rcases writeResetStream_streams c s errCode finalSize with h | h
  · exact .of_streams h
  · refine .update (markResetSent s) (by rw [hid]; exact h) ?_ ?_
    · rw [hid, Conn.stateSend_of_some hs]
      exact markResetSent_path hst
    · have hrecv : (markResetSent s).streamStateRecv = s.streamStateRecv :=
        (congrArg Stream.streamStateRecv hcore :)
      rw [hid, Conn.stateRecv_of_some hs, hrecv]

theorem resetSendHalf_moves {s : Stream} (hs : c.streams s.streamId = some s)
    (hst : s.streamStateSend ≠ .dataRecvd) (errCode : ℕ) :
    StreamsMove c (resetSendHalf c s errCode) := by
  unfold resetSendHalf
  split_ifs
  · exact writeResetStream_moves hs hst errCode _
  · exact .refl c

theorem resetSendHalf_kept (c : Conn) (s : Stream) (errCode : ℕ) (id : StreamId)
    (h : (resetSendHalf c s errCode).streams id = none) : c.streams id = none := by
  unfold resetSendHalf at h
  split_ifs at h
  · rcases writeResetStream_streams c s errCode s.streamSendOffset with heq | heq
    · rw [heq] at h
      exact h
    · rw [heq] at h
      by_cases hid : id = s.streamId
      · rw [hid, Function.update_self] at h
        cases h
      · rw [Function.update_of_ne hid] at h
        exact h
  · exact h

/-! ## Frames -/

theorem processStreamFrameConn_moves (hkeyed : c.Keyed) (env : FrameEnv) (id offset : ℕ) (fin : Bool)
    (data : Bytes) : StreamsMove c (processStreamFrameConn env c id offset fin data).1 := by
  refine .peer hkeyed id env.accept ?_ ?_
  · intro c₁ hp
    unfold processStreamFrameConn
    rw [hp]
    exact .refl c₁
  · intro c₁ s hp hid hs hsend hrecv
    unfold processStreamFrameConn
    rw [hp]
    dsimp only
    set f : StreamFrame := { data := data, dataOffset := offset, fin := fin }
    have hpart := processStreamFrame_sendPart c₁.toConnRecv s f
    have hstate : (processStreamFrame c₁.toConnRecv s f).2.1.streamStateSend = s.streamStateSend :=
      (congrArg Stream.streamStateSend hpart :)
    refine StreamsMove.setStream hs (Stream.streamId_of_sendPart hpart) ?_
      (processStreamFrame_recvPath c₁.toConnRecv s f)
    rw [hstate]

/-- **A RESET_STREAM frame** moves the streams, if it meets no half that is done. -/
theorem processResetStreamFrameConn_moves (hkeyed : c.Keyed) (env : FrameEnv)
    (id errCode finalSize : ℕ) (hsend : c.stateSend id ≠ .dataRecvd)
    (hrecv : c.stateRecv id ≠ .dataRead) :
    StreamsMove c (processResetStreamFrameConn env c id errCode finalSize) := by
  refine .peer hkeyed id env.accept ?_ ?_
  · intro c₁ hp
    unfold processResetStreamFrameConn
    rw [hp]
    exact .refl c₁
  · intro c₁ s hp hid hs hsend₁ hrecv₁
    unfold processResetStreamFrameConn
    rw [hp]
    dsimp only
    subst hid
    rw [← hsend₁, Conn.stateSend_of_some hs] at hsend
    rw [← hrecv₁, Conn.stateRecv_of_some hs] at hrecv
    -- the sending half first
    obtain ⟨c₂, heq, hmoves, hkept, s', hs', hcore⟩ : ∃ c₂,
        (if s.streamStateSend.toNat < SendStreamState.resetSent.toNat then
          resetSendHalf { c₁ with sndq := dropStreamFramePackets c₁.sndq s.streamId } s errCode
        else c₁) = c₂ ∧ StreamsMove c₁ c₂ ∧ (∀ id, c₂.streams id = none → c₁.streams id = none) ∧
        ∃ s', c₂.streams s.streamId = some s' ∧ s'.core = s.core := by
      refine ⟨_, rfl, ?_⟩
      split_ifs
      · set c₀ : Conn := { c₁ with sndq := dropStreamFramePackets c₁.sndq s.streamId }
        have hs₀ : c₀.streams s.streamId = some s := hs
        exact ⟨resetSendHalf_moves hs₀ hsend errCode, resetSendHalf_kept c₀ s errCode,
          (resetSendHalf_stored hs₀ errCode).1⟩
      · exact ⟨.refl c₁, fun _ h => h, s, hs, rfl⟩
    rw [heq, hs']
    refine hmoves.trans ?_ hkept
    have hid' := Stream.streamId_of_core hcore
    have hpart := processResetStreamFrame_sendPart c₂.toConnRecv s' finalSize
    have hstate : (processResetStreamFrame c₂.toConnRecv s' finalSize).2.streamStateSend =
        s'.streamStateSend := (congrArg Stream.streamStateSend hpart :)
    have hread : s'.streamStateRecv ≠ .dataRead := by
      rw [show s'.streamStateRecv = s.streamStateRecv from (congrArg Stream.streamStateRecv hcore :)]
      exact hrecv
    rw [← hid'] at hs'
    refine StreamsMove.setStream hs' (Stream.streamId_of_sendPart hpart) ?_
      (processResetStreamFrame_recvPath c₂.toConnRecv s' finalSize hread)
    rw [hstate]

/-- **A STOP_SENDING frame** moves the streams, if the sending half is not done. -/
theorem processStopSendingFrame_moves (hkeyed : c.Keyed) (env : FrameEnv) (id : StreamId)
    (hsend : c.stateSend id ≠ .dataRecvd) : StreamsMove c (processStopSendingFrame env c id) := by
  refine .peer hkeyed id env.accept ?_ ?_
  · intro c₁ hp
    unfold processStopSendingFrame
    rw [hp]
    exact .refl c₁
  · intro c₁ s hp hid hs hsend₁ hrecv₁
    unfold processStopSendingFrame
    rw [hp]
    subst hid
    rw [← hsend₁, Conn.stateSend_of_some hs] at hsend
    exact resetSendHalf_moves hs hsend requestCancelled

theorem processStreamDataBlockedFrame_moves (hkeyed : c.Keyed) (env : FrameEnv) (id limit : ℕ) :
    StreamsMove c (processStreamDataBlockedFrame env c id limit).1 := by
  refine .peer hkeyed id env.accept ?_ ?_
  · intro c₁ hp
    unfold processStreamDataBlockedFrame
    rw [hp]
    exact .refl c₁
  · intro c₁ s hp hid hs hsend hrecv
    unfold processStreamDataBlockedFrame
    rw [hp]
    dsimp only
    split_ifs
    · exact .refl c₁
    · refine StreamsMove.after ?_ (Conn.write_streams _ _)
      exact .setStream hs rfl .refl .refl
    · exact .refl c₁

theorem processMaxStreamDataFrame_moves (hkeyed : c.Keyed) (env : FrameEnv) (id limit : ℕ) :
    StreamsMove c (processMaxStreamDataFrame env c id limit) := by
  refine .peer hkeyed id env.accept ?_ ?_
  · intro c₁ hp
    unfold processMaxStreamDataFrame
    rw [hp]
    exact .refl c₁
  · intro c₁ s hp hid hs hsend hrecv
    unfold processMaxStreamDataFrame
    rw [hp]
    dsimp only
    split_ifs
    · exact StreamsMove.setStream hs rfl .refl .refl
    · exact .refl c₁

theorem finishHandshake_streams (env : FrameEnv) (c : Conn) (alpn : Bytes) :
    (finishHandshake env c alpn).1.streams = c.streams := by
  unfold finishHandshake
  split
  · rfl
  · have halpn := (serverOnAlpn_frame env c alpn).2.2.1
    generalize serverOnAlpn env c alpn = r at halpn ⊢
    obtain ⟨c₁, ret⟩ := r
    cases ret with
    | error e => exact halpn
    | ok u =>
        have hsent := (sendHandshake_frame c₁).2.2.1
        dsimp only
        generalize sendHandshake c₁ = r at hsent ⊢
        obtain ⟨c₂, ret⟩ := r
        cases ret <;> exact hsent.trans halpn

theorem processHandshake_moves (env : FrameEnv) (c : Conn) (alpn tp ext : Bytes) :
    StreamsMove c (processHandshake env c alpn tp ext).1 := by
  unfold processHandshake
  by_cases hexpects : expectsHandshake c = true
  · rw [if_neg (not_not.2 hexpects)]
    by_cases hext : protoExtCap < ext.length
    · rw [if_pos hext]
      exact .of_streams (Inert.raise c _).streams
    rw [if_neg hext]
    dsimp only
    split
    · exact .of_streams (Inert.raise _ _).streams
    · split_ifs
      · refine StreamsMove.after ?_ (finishHandshake_streams env _ alpn)
        refine .of_map fun id => ?_
        show ((c.streams id).map _).map _ = _
        rw [Option.map_map]
        rfl
      · exact .of_streams (Inert.raise _ _).streams
  · rw [if_pos hexpects]
    exact .refl c

/-- **The handlers of frames move the streams.** -/
theorem processFrame_moves (hkeyed : c.Keyed) (env : FrameEnv) (pkt : PacketIn) (pos frameLen : ℕ)
    (f : Frame) (hf : c.sparesDone f) : StreamsMove c (processFrame env c pkt pos frameLen f).1 := by
  cases f with
  | padding => exact .refl c
  | ping =>
      unfold processFrame
      split_ifs <;> exact .refl c
  | ack info => exact .of_streams (processAckFrame_inert env c info).streams
  | handshake alpn tp ext => exact processHandshake_moves env c alpn tp ext
  | resetStream id errCode finalSize =>
      exact processResetStreamFrameConn_moves hkeyed env id errCode finalSize hf.1 hf.2
  | stopSending id errCode => exact processStopSendingFrame_moves hkeyed env id hf
  | stream id offset fin data => exact processStreamFrameConn_moves hkeyed env id offset fin data
  | maxData limit =>
      refine .of_streams ?_
      show (processMaxDataFrame c limit).streams = c.streams
      unfold processMaxDataFrame
      split_ifs <;> rfl
  | maxStreamData id limit => exact processMaxStreamDataFrame_moves hkeyed env id limit
  | maxStreams bidirectional limit =>
      refine .of_streams ?_
      show (processMaxStreamsFrame c bidirectional limit).1.streams = c.streams
      unfold processMaxStreamsFrame
      split_ifs <;> rfl
  | dataBlocked limit => exact .of_streams (processDataBlockedFrame_inert c limit).streams
  | streamDataBlocked id limit => exact processStreamDataBlockedFrame_moves hkeyed env id limit
  | streamsBlocked bidirectional limit =>
      exact .of_streams (processStreamsBlockedFrame_inert c bidirectional limit).streams
  | pathChallenge data => exact .of_streams (c.write_streams _)
  | pathResponse data => exact .refl c
  | connectionClose errCode => exact .of_streams (processConnCloseFrame_inert c errCode).streams
  | datagram data =>
      exact .of_streams (processDatagramFrame_inert c pkt pos frameLen data).streams

/-! ## Calls -/

theorem insertStream_moves (hstreams : c'.streams = c.streams) (id : StreamId) (t : StreamType)
    (settings : Option StreamSettings) (isLocal accept : Bool) :
    StreamsMove c (insertStream c' id t settings isLocal accept).1 := by
  cases hs : c'.streams id with
  | some s =>
      refine .destroyed id ?_
      unfold insertStream
      rw [hs, ← hstreams]
      rfl
  | none =>
      obtain ⟨s, rfl, -, hnew, heq⟩ := insertStream_of_none hs t settings isLocal accept
      rw [heq]
      have hnone : c.streams s.streamId = none := by
        rw [← hstreams]
        exact hs
      refine .update s ?_ ?_ ?_
      · rw [← hstreams]
        rfl
      · simp only [Conn.stateSend, hnone, hnew.stateSend]
        exact .refl
      · simp only [Conn.stateRecv, hnone, hnew.stateRecv]
        exact .refl

theorem createLocalStream_moves (c : Conn) (t : StreamType) (settings : Option StreamSettings)
    (accept : Bool) : StreamsMove c (createLocalStream c t settings accept).1 := by
  unfold createLocalStream
  split_ifs with hclosing hbidi
  · exact .refl c
  all_goals
    have hflow : (createLocalFlowCtl c t).1.streams = c.streams := by
      unfold createLocalFlowCtl
      dsimp only
      split_ifs
      all_goals first | rfl | exact c.write_streams _
    generalize createLocalFlowCtl c t = r at hflow ⊢
    obtain ⟨c₁, ret⟩ := r
    cases ret with
    | error e => exact .of_streams hflow
    | ok u =>
        refine insertStream_moves ?_ _ t settings true accept
        exact hflow

/-- **Close** moves the streams, if the sending half is not done. -/
theorem streamClose_moves (hkeyed : c.Keyed) (id : StreamId)
    (hspares : c.isClosing = true ∨ c.stateSend id ≠ .dataRecvd) :
    StreamsMove c (streamClose c id) := by
  cases hs : c.streams id with
  | none =>
      unfold streamClose
      rw [hs]
      exact .refl c
  | some s =>
      obtain rfl := hkeyed id s hs
      rw [Conn.stateSend_of_some hs] at hspares
      obtain ⟨s₀, hs₀⟩ : ∃ s₀ : Stream,
          s₀ = { atomicClearPending s with readyToWrite := false, readyToRead := true } := ⟨_, rfl⟩
      rw [streamClose_eq hs hs₀]
      have hid : s₀.streamId = s.streamId := by rw [hs₀]; rfl
      have hsend : s₀.streamStateSend = s.streamStateSend := by rw [hs₀]; rfl
      have hrecv : s₀.streamStateRecv = s.streamStateRecv := by rw [hs₀]; rfl
      have hself : (c.setStream s₀).streams s₀.streamId = some s₀ := c.setStream_streams_self s₀
      have htouch : StreamsMove c (c.setStream s₀) := .setStream hs hid (by rw [hsend]) (by rw [hrecv])
      obtain ⟨c₁, hc₁⟩ : ∃ c₁ : Conn, c₁ = { c.setStream s₀ with
          sndq := dropStreamFramePackets (c.setStream s₀).sndq s.streamId } := ⟨_, rfl⟩
      rw [← hc₁]
      have hsame : c₁.streams = (c.setStream s₀).streams := by rw [hc₁]
      have hkept : ∀ id, c₁.streams id = none → c.streams id = none := by
        intro id hnone
        rw [hsame] at hnone
        by_cases heq : id = s₀.streamId
        · rw [heq, hself] at hnone
          cases hnone
        · rw [c.setStream_streams_of_ne s₀ heq] at hnone
          exact hnone
      split_ifs with hreset hclosing
      · exact htouch
      · exact htouch
      all_goals
        have hst : s₀.streamStateSend ≠ .dataRecvd := by
          rw [hsend]
          exact hspares.resolve_left hclosing
        have hwrite := writeResetStream_moves (c := c₁) (by rw [hsame]; exact hself) hst
          requestCancelled s₀.streamSendOffset
        refine (htouch.after hsame).trans (hwrite.after ?_) hkept
      · dsimp only
        rw [raiseOnError_streams, writeStopSending_streams, raiseOnError_streams]
      · dsimp only
        rw [raiseOnError_streams]

theorem foldl_writeWindow_streams (fs : List Frame) (c : Conn) :
    (fs.foldl writeWindow c).streams = c.streams := by
  induction fs generalizing c with
  | nil => rfl
  | cons f fs ih =>
      rw [List.foldl_cons, ih]
      unfold writeWindow
      split
      · exact c.write_streams _
      · exact c.write_streams _
      · rfl

theorem streamRecvConn_moves {s : Stream} (hs : c.streams s.streamId = some s) (env : RecvEnv)
    (recvBufSize : ℕ) : StreamsMove c (streamRecvConn c s env recvBufSize) := by
  have hpart := streamRecv_sendPart c.toConnRecv s env recvBufSize
  have hstate : (streamRecv env c.toConnRecv s recvBufSize).stream.streamStateSend =
      s.streamStateSend := (congrArg Stream.streamStateSend hpart :)
  unfold streamRecvConn
  refine StreamsMove.after ?_ (foldl_writeWindow_streams _ _)
  refine StreamsMove.setStream hs (Stream.streamId_of_sendPart hpart) ?_
    (streamRecv_recvPath c.toConnRecv s env recvBufSize)
  rw [hstate]

end Peer

/-! ## Steps -/

section Steps

variable {c : Conn}

theorem Stream.putHalf_states (connType : ConnType) (s : Stream) (h : SendHalf) :
    (s.putHalf connType h).streamStateSend = h.streamStateSend ∧
      (s.putHalf connType h).streamStateRecv = s.streamStateRecv ∧
      (s.putHalf connType h).streamId = s.streamId := by
  have hclose : ∀ s' : Stream, (streamMaybeNeedClose connType s').streamStateSend = s'.streamStateSend ∧
      (streamMaybeNeedClose connType s').streamStateRecv = s'.streamStateRecv ∧
      (streamMaybeNeedClose connType s').streamId = s'.streamId := by
    intro s'
    unfold streamMaybeNeedClose
    split_ifs <;> exact ⟨rfl, rfl, rfl⟩
  unfold Stream.putHalf
  dsimp only
  split_ifs
  · exact ⟨rfl, rfl, rfl⟩
  · split
    · rename_i hst
      exact hclose _
    · exact hclose _
    · exact ⟨rfl, rfl, rfl⟩

/-- The send control has moved the halves, and nothing else of the streams has changed. -/
theorem putHalves_moves {c' : Conn} {ctl : SendCtl} (hstreams : c'.streams = c.streams)
    (h : HalvesMove c.sendCtl ctl) : StreamsMove c (c'.putHalves ctl) := by
  intro id s' hs'
  unfold Conn.putHalves at hs'
  dsimp only at hs'
  rw [hstreams] at hs'
  obtain ⟨s, hs, rfl⟩ := Option.map_eq_some_iff.1 hs'
  rw [Conn.stateSend_of_some hs, Conn.stateRecv_of_some hs]
  have hid := h id
  have hhalf : c.sendCtl.streams id = some s.sendHalf := by
    show (c.streams id).map Stream.sendHalf = _
    rw [hs]
    rfl
  rw [hhalf] at hid
  generalize ctl.streams id = half at hid ⊢
  cases hid with
  | some hpath =>
      rename_i h'
      obtain ⟨hsend, hrecv, -⟩ := s.putHalf_states c'.connType h'
      dsimp only
      rw [hsend, hrecv]
      exact ⟨hpath, .refl⟩

theorem putHalves_keyed (hkeyed : c.Keyed) (ctl : SendCtl) : (c.putHalves ctl).Keyed := by
  intro id s' hs'
  unfold Conn.putHalves at hs'
  obtain ⟨s, hs, rfl⟩ := Option.map_eq_some_iff.1 hs'
  have hid := hkeyed id s hs
  split
  · exact hid
  · exact (s.putHalf_states c.connType _).2.2.trans hid

/-- **The engine moves the halves along their edges.** -/
theorem queueStep_engine_moves (ev : EngineEvent) :
    HalvesMove c.sendCtl (c.sendCtl.queueStep (ev.toSend c)) := by
  cases ev with
  | send t outcome srtt now => exact SendCtl.sendPacket_moves _ t outcome srtt now
  | lossTimeout th => exact SendCtl.moves.detectLost _ th
  | probeTimeout => exact SendCtl.moves.sendOneOrTwoAckElicitPkts _ _
  | schedule t => exact .of_streams (SendCtl.schedulePacket_streams _ t)
  | clear t => exact .of_streams (SendCtl.pathSendBufferClear_streams _ t)
  | pathChallenge data now => exact .of_streams (SendCtl.sendPathChallenge_streams _ _ data now)
  | _ => exact .of_streams rfl

theorem streamPeek_sendPart (connType : ConnType) (s : Stream) (peekBufSize : ℕ) :
    (streamPeek connType s peekBufSize).stream.sendPart = s.sendPart := by
  unfold streamPeek
  split_ifs
  · exact streamMaybeNeedClose_sendPart _ _
  · rfl
  · rfl

theorem streamStep_keyed (hkeyed : c.Keyed) (ev : StreamEvent) : (c.streamStep ev).Keyed := by
  cases ev with
  | peek id peekBufSize =>
      unfold Conn.streamStep
      dsimp only
      split
      · exact hkeyed
      · rename_i s hs
        have hid := (Stream.streamId_of_sendPart (streamPeek_sendPart c.connType s peekBufSize)).trans
          (hkeyed id s hs)
        intro id' s' hs'
        by_cases heq : id' = (streamPeek c.connType s peekBufSize).stream.streamId
        · rw [heq, Conn.setStream_streams_self] at hs'
          rw [← Option.some.inj hs', heq]
        · rw [Conn.setStream_streams_of_ne _ _ heq] at hs'
          exact hkeyed id' s' hs'
  | conn ev =>
      cases ev with
      | sendState id => exact hkeyed
      | engine ev => exact putHalves_keyed (step_keyed hkeyed _) _
      | frame env pkt pos frameLen f =>
          obtain ⟨f, hfits⟩ := f
          cases f with
          | ack info =>
              unfold Conn.streamStep
              dsimp only
              split_ifs
              · exact putHalves_keyed (step_keyed hkeyed _) _
              · exact hkeyed
          | _ => exact step_keyed hkeyed _
      | processed pkt => exact step_keyed hkeyed (.processed pkt)
      | error err => exact step_keyed hkeyed (.error err)
      | header header => exact step_keyed hkeyed (.header header)
      | _ => exact step_keyed hkeyed _

theorem StreamsMove.onStream (hkeyed : c.Keyed) (id : StreamId) (call : Stream → Conn)
    (h : ∀ s, c.streams s.streamId = some s → StreamsMove c (call s)) :
    StreamsMove c (match c.streams id with
      | none => c
      | some s => call s) := by
  split
  · exact .refl c
  · rename_i s hs
    refine h s ?_
    rw [hkeyed id s hs]
    exact hs

theorem step_frame_moves (hkeyed : c.Keyed) (env : FrameEnv) (pkt : PacketIn) (pos frameLen : ℕ)
    (f : WireFrame) (hspares : c.takesFrame pkt f.1 = true → c.sparesDone f.1) :
    StreamsMove c (c.step (.frame env pkt pos frameLen f)) := by
  rw [Conn.step_frame]
  split_ifs with htakes
  · exact processFrame_moves (c := c.addLog (.recvd pkt.pktNum pos f.1)) hkeyed env pkt pos frameLen f.1
      (hspares htakes)
  · exact .refl c

/-- **One step moves the streams along their edges**, if it resets no half that is done. -/
theorem streamStep_moves (hkeyed : c.Keyed) (ev : StreamEvent) (hspares : c.SparesDone ev) :
    StreamsMove c (c.streamStep ev) := by
  cases ev with
  | peek id peekBufSize =>
      refine .onStream hkeyed id _ fun s hs => ?_
      have hpart := streamPeek_sendPart c.connType s peekBufSize
      have hstate : (streamPeek c.connType s peekBufSize).stream.streamStateSend = s.streamStateSend :=
        (congrArg Stream.streamStateSend hpart :)
      refine .setStream hs (Stream.streamId_of_sendPart hpart) ?_
        (streamPeek_recvPath s c.connType peekBufSize)
      rw [hstate]
  | conn ev =>
      cases ev with
      | handshake =>
          refine .of_streams ?_
          show (c.step .handshake).streams = c.streams
          simp only [Conn.step]
          split_ifs
          · exact (sendHandshake_frame c).2.2.1
          · rfl
      | create dir settings accept =>
          show StreamsMove c (streamCreate c dir settings accept).1
          unfold streamCreate
          split <;> exact createLocalStream_moves c _ _ accept
      | send id env data fin =>
          exact .onStream hkeyed id _ fun s hs => (streamSend_kept env c s data fin).moves hs
      | sendv id env iov fin flush =>
          exact .onStream hkeyed id _ fun s hs =>
            (streamSendvAtomic_kept env c s iov fin flush).moves hs
      | drain id env =>
          exact .onStream hkeyed id _ fun s hs => (streamAtomicDrain_kept env c s).moves hs
      | recv id env recvBufSize =>
          exact .onStream hkeyed id _ fun s hs => streamRecvConn_moves hs env recvBufSize
      | close id => exact streamClose_moves hkeyed id hspares
      | destroy id =>
          refine .onStream hkeyed id _ fun s hs => ?_
          split_ifs
          · exact .destroyed id rfl
          · exact .refl c
      | sendState id => exact .refl c
      | frame env pkt pos frameLen f =>
          obtain ⟨f, hfits⟩ := f
          cases f with
          | ack info =>
              unfold Conn.streamStep
              dsimp only
              split_ifs with htakes
              · refine putHalves_moves ?_ (SendCtl.moves.onAckReceived _ info env.th)
                rw [Conn.step_frame, if_pos htakes]
                exact (processAckFrame_inert env _ info).streams
              · exact .refl c
          | _ => exact step_frame_moves hkeyed env pkt pos frameLen _ hspares
      | processed pkt =>
          refine .of_streams ?_
          show (onPktProcessed c pkt).streams = c.streams
          unfold onPktProcessed
          dsimp only
          split_ifs
          · exact (onHandshakeAcked_inert c).streams
          · rfl
      | error err => exact .of_streams (Inert.raise c err).streams
      | immediateClose => exact .of_streams (immediateClose_inert c).streams
      | engine ev => exact putHalves_moves rfl (queueStep_engine_moves ev)
      | header header => exact .of_streams rfl

end Steps

/-! ## Runs -/

/-- No step of the run resets a half that is done. -/
def Conn.RunSparesDone : Conn → List StreamEvent → Prop
  | _, [] => True
  | c, ev :: evs => c.SparesDone ev ∧ (c.streamStep ev).RunSparesDone evs

instance Conn.RunSparesDone.decidable :
    ∀ (c : Conn) (evs : List StreamEvent), Decidable (c.RunSparesDone evs)
  | _, [] => isTrue trivial
  | c, ev :: evs =>
    have := Conn.RunSparesDone.decidable (c.streamStep ev) evs
    inferInstanceAs (Decidable (_ ∧ _))

theorem Conn.RunSparesDone.of_initial {c : Conn} {evs evs' : List StreamEvent} {ev : StreamEvent}
    (h : c.RunSparesDone evs) (hinitial : evs' ++ [ev] <+: evs) :
    (c.streamRun evs').SparesDone ev := by
  obtain ⟨rest, rfl⟩ := hinitial
  induction evs' generalizing c with
  | nil => exact h.1
  | cons ev' evs' ih => exact ih h.2

/-- No half has left a terminal state. -/
def TerminalKept (c c' : Conn) : Prop :=
  ∀ id s s', c.streams id = some s → c'.streams id = some s' →
    (s.streamStateSend.Terminal → s'.streamStateSend = s.streamStateSend) ∧
      (s.streamStateRecv.Terminal → s'.streamStateRecv = s.streamStateRecv)

theorem TerminalKept.states {c c' : Conn} (h : TerminalKept c c') (id : StreamId)
    (hs : (c.streams id).isSome = true) (hs' : (c'.streams id).isSome = true) :
    ((c.stateSend id).Terminal → c'.stateSend id = c.stateSend id) ∧
      ((c.stateRecv id).Terminal → c'.stateRecv id = c.stateRecv id) := by
  obtain ⟨s, hs⟩ := Option.isSome_iff_exists.1 hs
  obtain ⟨s', hs'⟩ := Option.isSome_iff_exists.1 hs'
  rw [Conn.stateSend_of_some hs, Conn.stateSend_of_some hs', Conn.stateRecv_of_some hs,
    Conn.stateRecv_of_some hs']
  exact h id s s' hs hs'

theorem StreamsMove.terminalKept {c c' : Conn} (h : StreamsMove c c') : TerminalKept c c' := by
  intro id s s' hs hs'
  obtain ⟨hsend, hrecv⟩ := h id s' hs'
  rw [Conn.stateSend_of_some hs] at hsend
  rw [Conn.stateRecv_of_some hs] at hrecv
  exact ⟨hsend.eq_of_terminal, hrecv.eq_of_terminal⟩

theorem streamRun_keyed {c : Conn} (hkeyed : c.Keyed) (evs : List StreamEvent) :
    (c.streamRun evs).Keyed := by
  induction evs generalizing c with
  | nil => exact hkeyed
  | cons ev evs ih => exact ih (streamStep_keyed hkeyed ev)

/-- **The state machine of a stream.** In a run that resets no half that is done, every step moves both
halves of every stream along their edges, and no terminal state is left. -/
theorem streamRun_moves (connType : ConnType) (settings : ConnSettings) (header : PktType → Bytes)
    (evs : List StreamEvent) (hspares : (connCreate connType settings header).RunSparesDone evs)
    (evs' : List StreamEvent) (ev : StreamEvent) (hinitial : evs' ++ [ev] <+: evs) :
    StreamsMove ((connCreate connType settings header).streamRun evs')
        ((connCreate connType settings header).streamRun (evs' ++ [ev])) ∧
      TerminalKept ((connCreate connType settings header).streamRun evs')
        ((connCreate connType settings header).streamRun (evs' ++ [ev])) := by
  have hkeyed := streamRun_keyed (connCreate_keyed connType settings header) evs'
  have hmoves := streamStep_moves hkeyed ev (hspares.of_initial hinitial)
  rw [Conn.streamRun_append]
  exact ⟨hmoves, hmoves.terminalKept⟩

/-- The client's request arrives on stream 0, with FIN or without. -/
def request (fin : Bool) : StreamEvent := .conn (oneRttFrame (.stream 0 0 fin [7]) (by simp [Frame.Fits]))

/-- The server answers with FIN, and the client acknowledges the packet. -/
def answered (fin : Bool) : List StreamEvent :=
  serverHandshake.map .conn ++ [request fin, .conn (.send 0 ⟨1, 0⟩ [1, 2] true),
    .conn (.engine (.schedule .normal)), .conn (.engine (.send .normal .sent 0 0)),
    .conn (oneRttFrame (.ack ⟨[⟨1, 1⟩], 0⟩) trivial)]

/-- Behind the answer the client stops and resets stream 4, and the server closes stream 8. -/
def answeredAndReset : List StreamEvent :=
  answered true ++ [.conn (oneRttFrame (.stream 4 0 false [7]) (by decide)),
    .conn (oneRttFrame (.stopSending 4 0) (by decide)), .conn (oneRttFrame (.resetStream 4 0 1) (by decide)),
    .conn (oneRttFrame (.stream 8 0 false [7]) (by decide)), .conn (.close 8)]

theorem streamRun_moves_answered :
    newServer.RunSparesDone answeredAndReset ∧
      (newServer.streamRun answeredAndReset).stateSend 0 = .dataRecvd ∧
      (newServer.streamRun answeredAndReset).stateSend 4 = .resetSent ∧
      (newServer.streamRun answeredAndReset).stateSend 8 = .resetSent ∧
      TerminalKept (newServer.streamRun answeredAndReset.dropLast)
        (newServer.streamRun (answeredAndReset.dropLast ++ [.conn (.close 8)])) := by
  have hspares : newServer.RunSparesDone answeredAndReset := by decide +kernel
  exact ⟨hspares, by decide +kernel, by decide +kernel, by decide +kernel,
    (streamRun_moves .server _ _ answeredAndReset hspares _ _ List.prefix_rfl).2⟩

/-- The client resets stream 0. -/
def requestReset : StreamEvent := .conn (oneRttFrame (.resetStream 0 0 1) (by decide))

/-- The server reads the request to its end. -/
def requestRead : List StreamEvent :=
  serverHandshake.map .conn ++ [request true, .conn (.recv 0 {} 10)]

/-- A close after all data were acknowledged leaves `DATA_RECVD`, and a RESET_STREAM frame after all
data were read leaves `DATA_READ`. -/
theorem reset_leaves_terminal :
    ¬ TerminalKept (newServer.streamRun (answered false))
        (newServer.streamRun (answered false ++ [.conn (.close 0)])) ∧
      ¬ TerminalKept (newServer.streamRun requestRead)
        (newServer.streamRun (requestRead ++ [requestReset])) := by
  constructor
  · intro h
    have hsend : (newServer.streamRun (answered false)).stateSend 0 = .dataRecvd := by decide +kernel
    have hkept := (h.states 0 (by decide +kernel) (by decide +kernel)).1 (.inl hsend)
    have hreset : (newServer.streamRun (answered false ++ [.conn (.close 0)])).stateSend 0 =
        .resetSent := by decide +kernel
    rw [hreset, hsend] at hkept
    cases hkept
  · intro h
    have hrecv : (newServer.streamRun requestRead).stateRecv 0 = .dataRead := by decide +kernel
    have hkept := (h.states 0 (by decide +kernel) (by decide +kernel)).2 (.inl hrecv)
    have hreset : (newServer.streamRun (requestRead ++ [requestReset])).stateRecv 0 =
        .resetRecvd := by decide +kernel
    rw [hreset, hrecv] at hkept
    cases hkept

end Rquic

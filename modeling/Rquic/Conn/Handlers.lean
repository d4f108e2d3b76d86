import Rquic.Conn.Calls

set_option autoImplicit false

/-!
# The steps of the frame handlers

Every event of a connection is a sequence of elementary steps.

* `Frame.allows`, `Conn.allows`: the acts that the handler of a frame, and an event, may do.
* **`processFrame_steps`**: the handlers.
* **`step_steps`**: every event is a sequence of elementary steps, with the acts that it allows.
* **`recvUdp_run`**: a UDP datagram is a run of its frames.
-/

namespace Rquic

section Handlers

variable {allow : ConnAct → Prop} {c : Conn}

/-! ## Frames -/

/-- The receiving half of the stream stands as it stood before the frame: it was there, or the peer
opened it. -/
def Conn.Holds (c : Conn) (accept : Bool) (s : Stream) : Prop :=
  (∃ s₀, c.streams s.streamId = some s₀ ∧ s.core = s₀.core) ∨
    (c.OpensPeer s.streamId ∧ s.core.IsNew accept)

/-- The sending half of the stream is answered with RESET_STREAM. -/
def Conn.ResetsSend (c : Conn) (id : StreamId) : Prop :=
  (∃ s, c.streams id = some s ∧ s.streamStateSend.toNat < SendStreamState.resetSent.toNat) ∨
    c.OpensPeer id

/-- The acts that the handler of a frame does at a connection. -/
def Frame.allows (c : Conn) (accept : Bool) : Frame → ConnAct → Prop
  | .stream id offset fin data, act =>
    match act with
    | .deliver s f => s.streamId = id ∧ c.Holds accept s ∧
        f = { data := data, dataOffset := offset, fin := fin }
    | .openPeer id' => id' = id ∧ c.OpensPeer id
    | _ => False
  | .resetStream id _ finalSize, act =>
    match act with
    | .resetRecv r s n => s.streamId = id ∧ n = finalSize ∧ c.Holds accept s ∧
        r.connFlowCtl.dataRecved = c.connFlowCtl.dataRecved ∧
        r.connFlowCtl.maxDataCanRecv = c.connFlowCtl.maxDataCanRecv
    | .writeReset id' => id' = id ∧ c.ResetsSend id
    | .openPeer id' => id' = id ∧ c.OpensPeer id
    | _ => False
  | .stopSending id _, act =>
    match act with
    | .writeReset id' => id' = id ∧ c.ResetsSend id
    | .openPeer id' => id' = id ∧ c.OpensPeer id
    | _ => False
  | .maxStreamData id limit, act =>
    match act with
    | .limit f => f = .maxStreamData id limit ∧ (c.OpensPeer id ∨
        ∃ s, c.streams id = some s ∧ s.streamFlowCtl.maxStreamDataCanSend < limit)
    | .openPeer id' => id' = id ∧ c.OpensPeer id
    | _ => False
  | .streamDataBlocked id _, act =>
    match act with
    | .openPeer id' => id' = id ∧ c.OpensPeer id
    | _ => False
  | .maxData limit, act =>
    act = .limit (.maxData limit) ∧ c.connFlowCtl.maxDataCanSend < limit
  | .maxStreams bidirectional limit, act =>
    act = .limit (.maxStreams bidirectional limit) ∧ limit ≤ Rquic.maxStreams ∧
      (if bidirectional then c.connFlowCtl.maxStreamsBidiCanSend
        else c.connFlowCtl.maxStreamsUniCanSend) < limit
  | .handshake _ tp _, act =>
    act = .accept ∨ ∃ p, act = .params p ∧ decodeTransportParams tp = .ok p
  | _, _ => False

theorem FoundPeer.holds {id : StreamId} {accept : Bool} {c' : Conn} {s : Stream}
    (h : FoundPeer c id accept c' s) : c.Holds accept s := by
  unfold Conn.Holds
  rw [h.streamId]
  rcases h.cases with rfl | ⟨hopens, hnew⟩
  · exact .inl ⟨s, h.stored, rfl⟩
  · exact .inr ⟨hopens, ⟨hnew.dataIn, hnew.stateRecv, rfl, hnew.maxRecvOffset, hnew.sendOffset,
      rfl, hnew.discarded⟩⟩

theorem FoundPeer.resetsSend {id : StreamId} {accept : Bool} {c' : Conn} {s : Stream}
    (h : FoundPeer c id accept c' s)
    (hstate : s.streamStateSend.toNat < SendStreamState.resetSent.toNat) : c.ResetsSend id := by
  rcases h.cases with rfl | ⟨hopens, -⟩
  · exact .inl ⟨s, h.stored, hstate⟩
  · exact .inr hopens

theorem processAckFrame_steps (env : FrameEnv) (c : Conn) (info : AckInfo) :
    ConnSteps allow c (processAckFrame env c info).1 := by
  have hqueue : ConnSteps allow c { c with sndq := (onAckReceived c.sndq info env.th).1 } :=
    .single (.queue c (.ackReceived info env.th) rfl)
  have hdone : ConnSteps allow c
      (if handshakeAcked c.sndq (onAckReceived c.sndq info env.th).1 then
        onHandshakeAcked { c with sndq := (onAckReceived c.sndq info env.th).1 }
      else { c with sndq := (onAckReceived c.sndq info env.th).1 }) := by
    split_ifs
    · exact hqueue.trans (onHandshakeAcked_steps _)
    · exact hqueue
  unfold processAckFrame
  dsimp only
  split <;> exact hdone

theorem processStreamFrameConn_steps (hkeyed : c.Keyed) (env : FrameEnv) (id offset : ℕ) (fin : Bool)
    (data : Bytes) (hend : offset + data.length < 2 ^ 62) :
    ConnSteps ((Frame.stream id offset fin data).allows c env.accept) c
      (processStreamFrameConn env c id offset fin data).1 := by
  have hpeer : ConnSteps ((Frame.stream id offset fin data).allows c env.accept) c
      (peerStream c id env.accept).1 := peerStream_steps (fun h => ⟨rfl, h⟩) env.accept
  unfold processStreamFrameConn
  rcases hp : peerStream c id env.accept with ⟨c₁, _ | s⟩
  · rw [hp] at hpeer
    exact hpeer
  · rw [hp] at hpeer
    have hfound := peerStream_some hkeyed hp
    obtain rfl := hfound.streamId
    exact hpeer.tail (.deliver c₁ s { data := data, dataOffset := offset, fin := fin } hfound.stored
      hend ⟨rfl, hfound.holds, rfl⟩)

theorem resetSendHalf_steps {s : Stream} (hs : c.streams s.streamId = some s) (errCode : ℕ)
    (hallow : s.streamStateSend.toNat < SendStreamState.resetSent.toNat →
      allow (.writeReset s.streamId)) :
    ConnSteps allow c (resetSendHalf c s errCode) := by
  unfold resetSendHalf
  split_ifs with hstate
  · exact writeResetStream_steps hs hstate (hallow hstate) errCode
  · exact .refl

/-- The stream that `resetSendHalf` leaves, and the counters that it does not move. -/
theorem resetSendHalf_stored {s : Stream} (hs : c.streams s.streamId = some s) (errCode : ℕ) :
    (∃ s', (resetSendHalf c s errCode).streams s.streamId = some s' ∧ s'.core = s.core) ∧
      (resetSendHalf c s errCode).connFlowCtl = c.connFlowCtl := by
  unfold resetSendHalf writeResetStream
  split_ifs
  · have hframe := c.write_frame (.resetStream s.streamId errCode s.streamSendOffset)
    rcases hw : c.write (.resetStream s.streamId errCode s.streamSendOffset) with ⟨c₁, ret⟩
    rw [hw] at hframe
    dsimp only at hframe
    cases ret with
    | error e =>
        dsimp only
        rw [hframe]
        exact ⟨⟨s, hs, rfl⟩, rfl⟩
    | ok u =>
        have hcore := markResetSent_core s
        refine ⟨⟨markResetSent s, ?_, hcore⟩, ?_⟩
        · rw [← Stream.streamId_of_core hcore]
          exact Conn.setStream_streams_self c₁ _
        · dsimp only [Conn.setStream]
          rw [hframe]
  · exact ⟨⟨s, hs, rfl⟩, rfl⟩

theorem processResetStreamFrameConn_steps (hkeyed : c.Keyed) (env : FrameEnv)
    (id errCode finalSize : ℕ) (hsize : finalSize < 2 ^ 62) :
    ConnSteps ((Frame.resetStream id errCode finalSize).allows c env.accept) c
      (processResetStreamFrameConn env c id errCode finalSize) := by
  have hpeer : ConnSteps ((Frame.resetStream id errCode finalSize).allows c env.accept) c
      (peerStream c id env.accept).1 := peerStream_steps (fun h => ⟨rfl, h⟩) env.accept
  unfold processResetStreamFrameConn
  rcases hp : peerStream c id env.accept with ⟨c₁, _ | s⟩
  · rw [hp] at hpeer
    exact hpeer
  rw [hp] at hpeer
  have hfound := peerStream_some hkeyed hp
  obtain rfl := hfound.streamId
  dsimp only
  -- the sending half first
  have hsend : ∃ c₂, (if s.streamStateSend.toNat < SendStreamState.resetSent.toNat then
        resetSendHalf { c₁ with sndq := dropStreamFramePackets c₁.sndq s.streamId } s errCode
      else c₁) = c₂ ∧
      ConnSteps ((Frame.resetStream s.streamId errCode finalSize).allows c env.accept) c c₂ ∧
      (∃ s', c₂.streams s.streamId = some s' ∧ s'.core = s.core) ∧
      c₂.connFlowCtl = c₁.connFlowCtl := by
    refine ⟨_, rfl, ?_⟩
    split_ifs with hstate
    · obtain ⟨hs', hfc⟩ := resetSendHalf_stored
        (c := { c₁ with sndq := dropStreamFramePackets c₁.sndq s.streamId }) hfound.stored errCode
      refine ⟨(hpeer.trans (dropStream_steps c₁ s.streamId)).trans ?_, hs', hfc⟩
      exact resetSendHalf_steps
        (c := { c₁ with sndq := dropStreamFramePackets c₁.sndq s.streamId }) hfound.stored errCode
        fun h => ⟨rfl, hfound.resetsSend h⟩
    · exact ⟨hpeer, ⟨s, hfound.stored, rfl⟩, rfl⟩
  obtain ⟨c₂, heq, hsteps, ⟨s', hs', hcore⟩, hfc⟩ := hsend
  rw [heq, hs']
  have hid := Stream.streamId_of_core hcore
  have hholds : c.Holds env.accept s' := by
    have hholds := hfound.holds
    unfold Conn.Holds at hholds ⊢
    rw [hid, hcore]
    exact hholds
  have hstep : ConnStep ((Frame.resetStream s.streamId errCode finalSize).allows c env.accept) c₂ _ :=
    .resetRecv c₂ s' finalSize (by rw [hid]; exact hs') hsize ⟨hid, rfl, hholds,
      by rw [hfc]; exact hfound.dataRecved, by rw [hfc]; exact hfound.maxDataCanRecv⟩
  rw [hid] at hstep
  exact hsteps.tail hstep

theorem processStopSendingFrame_steps (hkeyed : c.Keyed) (env : FrameEnv) (id errCode : ℕ) :
    ConnSteps ((Frame.stopSending id errCode).allows c env.accept) c
      (processStopSendingFrame env c id) := by
  have hpeer : ConnSteps ((Frame.stopSending id errCode).allows c env.accept) c
      (peerStream c id env.accept).1 := peerStream_steps (fun h => ⟨rfl, h⟩) env.accept
  unfold processStopSendingFrame
  rcases hp : peerStream c id env.accept with ⟨c₁, _ | s⟩
  · rw [hp] at hpeer
    exact hpeer
  · rw [hp] at hpeer
    have hfound := peerStream_some hkeyed hp
    obtain rfl := hfound.streamId
    exact hpeer.trans (resetSendHalf_steps hfound.stored _ fun h => ⟨rfl, hfound.resetsSend h⟩)

theorem processDataBlockedFrame_steps (c : Conn) (dataLimit : ℕ) :
    ConnSteps allow c (processDataBlockedFrame c dataLimit).1 := by
  unfold processDataBlockedFrame
  dsimp only
  split_ifs with hle hlt
  · exact .refl
  · exact .trans (.single (.window c hlt)) (write_steps _ _ rfl)
  · exact .refl

theorem processStreamDataBlockedFrame_steps (hkeyed : c.Keyed) (env : FrameEnv)
    (id streamDataLimit : ℕ) :
    ConnSteps ((Frame.streamDataBlocked id streamDataLimit).allows c env.accept) c
      (processStreamDataBlockedFrame env c id streamDataLimit).1 := by
  have hpeer : ConnSteps ((Frame.streamDataBlocked id streamDataLimit).allows c env.accept) c
      (peerStream c id env.accept).1 := peerStream_steps (fun h => ⟨rfl, h⟩) env.accept
  unfold processStreamDataBlockedFrame
  rcases hp : peerStream c id env.accept with ⟨c₁, _ | s⟩
  · rw [hp] at hpeer
    exact hpeer
  rw [hp] at hpeer
  have hfound := peerStream_some hkeyed hp
  obtain rfl := hfound.streamId
  dsimp only
  split_ifs with hle hlt
  · exact hpeer
  · refine (hpeer.tail (.streamWindow c₁ s hfound.stored hlt)).trans (write_steps _ _ ?_)
    exact ⟨_, Conn.setStream_streams_self c₁ _, rfl⟩
  · exact hpeer

theorem processStreamsBlockedFrame_steps (c : Conn) (bidirectional : Bool) {streamLimit : ℕ}
    (hlimit : streamLimit < 2 ^ 62) :
    ConnSteps allow c (processStreamsBlockedFrame c bidirectional streamLimit).1 := by
  have hle : ∀ {canRecv own : ℕ}, ¬ streamLimit < canRecv → canRecv + own < 2 ^ 63 →
      canRecv ≤ min (u64Add streamLimit own) (u64Add canRecv own) := by
    intro canRecv own hcan hown
    rw [u64Add_eq (by omega), u64Add_eq (by omega)]
    omega
  unfold processStreamsBlockedFrame
  cases bidirectional with
  | true =>
      simp only [if_true]
      by_cases hlt : streamLimit < c.connFlowCtl.maxStreamsBidiCanRecv
      · rw [if_pos hlt]
      · rw [if_neg hlt]
        exact .trans (.single (.streamsCanRecv c _ c.connFlowCtl.maxStreamsUniCanRecv (hle hlt)
          fun _ => le_rfl)) (write_steps _ _ trivial)
  | false =>
      simp only [Bool.false_eq_true, if_false]
      by_cases hlt : streamLimit < c.connFlowCtl.maxStreamsUniCanRecv
      · rw [if_pos hlt]
      · rw [if_neg hlt]
        exact .trans (.single (.streamsCanRecv c c.connFlowCtl.maxStreamsBidiCanRecv _
          (fun _ => le_rfl) (hle hlt))) (write_steps _ _ trivial)

theorem processMaxDataFrame_steps (c : Conn) (limit : ℕ) (hlimit : limit < 2 ^ 62)
    (hallow : c.connFlowCtl.maxDataCanSend < limit → allow (.limit (.maxData limit))) :
    ConnSteps allow c (processMaxDataFrame c limit) := by
  unfold processMaxDataFrame
  split_ifs with hlt
  · exact .single (.maxData c limit hlt hlimit (hallow hlt))
  · exact .refl

theorem processMaxStreamDataFrame_steps (hkeyed : c.Keyed) (env : FrameEnv) (id limit : ℕ)
    (hlimit : limit < 2 ^ 62) :
    ConnSteps ((Frame.maxStreamData id limit).allows c env.accept) c
      (processMaxStreamDataFrame env c id limit) := by
  have hpeer : ConnSteps ((Frame.maxStreamData id limit).allows c env.accept) c
      (peerStream c id env.accept).1 := peerStream_steps (fun h => ⟨rfl, h⟩) env.accept
  unfold processMaxStreamDataFrame
  rcases hp : peerStream c id env.accept with ⟨c₁, _ | s⟩
  · rw [hp] at hpeer
    exact hpeer
  rw [hp] at hpeer
  have hfound := peerStream_some hkeyed hp
  obtain rfl := hfound.streamId
  dsimp only
  split_ifs with hlt
  · refine hpeer.tail (.maxStreamData c₁ s limit hfound.stored hlt hlimit ⟨rfl, ?_⟩)
    rcases hfound.cases with rfl | ⟨hopens, -⟩
    · exact .inr ⟨s, hfound.stored, hlt⟩
    · exact .inl hopens
  · exact hpeer

theorem processMaxStreamsFrame_steps (c : Conn) (bidirectional : Bool) (limit : ℕ)
    (hallow : limit ≤ maxStreams → (if bidirectional then c.connFlowCtl.maxStreamsBidiCanSend
      else c.connFlowCtl.maxStreamsUniCanSend) < limit → allow (.limit (.maxStreams bidirectional limit))) :
    ConnSteps allow c (processMaxStreamsFrame c bidirectional limit).1 := by
  unfold processMaxStreamsFrame
  split_ifs with hmax hbidi huni
  · exact .refl
  · obtain ⟨rfl, hlt⟩ := hbidi
    exact .single (.maxStreamsBidi c limit hlt (not_lt.1 hmax) (hallow (not_lt.1 hmax) hlt))
  · obtain ⟨rfl, hlt⟩ := huni
    exact .single (.maxStreamsUni c limit hlt (not_lt.1 hmax) (hallow (not_lt.1 hmax) hlt))
  · exact .refl

theorem processConnCloseFrame_steps (c : Conn) (errCode : ℕ) :
    ConnSteps allow c (processConnCloseFrame c errCode) := by
  unfold processConnCloseFrame
  have hraise : ConnSteps allow c (if errCode ≠ 0 then c.raise (.remote errCode) else c) := by
    split_ifs
    · exact raise_steps c _
    · exact .refl
  refine hraise.trans ?_
  generalize (if errCode ≠ 0 then c.raise (.remote errCode) else c) = c₁
  dsimp only
  split_ifs
  · exact flags_steps c₁ _ _ _ _ (fun _ => rfl) (.inr (by decide))
  · exact (immediateClose_steps c₁).trans (flags_steps _ _ _ _ _ (fun _ => rfl) (.inr (by decide)))

theorem processDatagramFrame_steps (c : Conn) (pkt : PacketIn) (pos frameLen : ℕ) (data : Bytes) :
    ConnSteps allow c (processDatagramFrame c pkt pos frameLen data).1 := by
  unfold processDatagramFrame
  split_ifs with hrefused
  · exact raise_steps c _
  · refine .single (.notified c pkt.pktNum pos data ?_)
    exact Bool.eq_true_of_not_eq_false fun hfalse => hrefused (.inl hfalse)
  · exact .refl

end Handlers

theorem processFrame_steps {c : Conn} (hkeyed : c.Keyed) (env : FrameEnv) (pkt : PacketIn)
    (pos frameLen : ℕ) (f : WireFrame) :
    ConnSteps (f.1.allows c env.accept) c (processFrame env c pkt pos frameLen f.1).1 := by
  obtain ⟨f, hfits⟩ := f
  cases f with
  | padding => exact .refl
  | ping =>
      unfold processFrame
      split_ifs <;> exact .refl
  | ack info => exact processAckFrame_steps env c info
  | handshake alpn tp ext =>
      exact processHandshake_steps env c alpn tp ext (.inl rfl) fun p hp => .inr ⟨p, rfl, hp⟩
  | resetStream id errCode finalSize =>
      exact processResetStreamFrameConn_steps hkeyed env id errCode finalSize hfits.2.2
  | stopSending id errCode => exact processStopSendingFrame_steps hkeyed env id errCode
  | stream id offset fin data =>
      exact processStreamFrameConn_steps hkeyed env id offset fin data hfits.2
  | maxData limit => exact processMaxDataFrame_steps c limit hfits fun h => ⟨rfl, h⟩
  | maxStreamData id limit => exact processMaxStreamDataFrame_steps hkeyed env id limit hfits.2
  | maxStreams bidirectional limit =>
      exact processMaxStreamsFrame_steps c bidirectional limit fun hmax hlt => ⟨rfl, hmax, hlt⟩
  | dataBlocked limit => exact processDataBlockedFrame_steps c limit
  | streamDataBlocked id limit => exact processStreamDataBlockedFrame_steps hkeyed env id limit
  | streamsBlocked bidirectional limit =>
      exact processStreamsBlockedFrame_steps c bidirectional hfits
  | pathChallenge data => exact write_steps c (.pathResponse data) trivial
  | pathResponse data => exact .refl
  | connectionClose errCode => exact processConnCloseFrame_steps c errCode
  | datagram data => exact processDatagramFrame_steps c pkt pos frameLen data

/-! ## Reads -/

theorem streamWindowUpdate_frames (env : RecvEnv) (c : ConnRecv) (s : Stream) :
    (streamWindowUpdate env c s).1.streamId = s.streamId ∧
      ∀ f ∈ (streamWindowUpdate env c s).2, f = .maxStreamData s.streamId
        (streamWindowUpdate env c s).1.streamFlowCtl.maxStreamDataCanRecv := by
  unfold streamWindowUpdate
  dsimp only
  split_ifs
  · exact ⟨rfl, fun f hf => List.mem_singleton.1 hf⟩
  · exact ⟨rfl, nofun⟩
  · exact ⟨rfl, nofun⟩

theorem connWindowUpdate_frames (env : RecvEnv) (c : ConnRecv) (s : Stream) :
    ∀ f ∈ (connWindowUpdate env c s).2,
      f = .maxData (connWindowUpdate env c s).1.connFlowCtl.maxDataCanRecv := by
  unfold connWindowUpdate
  dsimp only
  split_ifs
  · exact fun f hf => List.mem_singleton.1 hf
  · exact nofun
  · exact nofun

theorem markDataRead_streamId (connType : ConnType) (fin : Bool) (s : Stream) :
    (markDataRead connType fin s).streamId = s.streamId := by
  unfold markDataRead streamMaybeNeedClose
  split_ifs <;> rfl

theorem streamRecv_frames (env : RecvEnv) (c : ConnRecv) (s : Stream) (recvBufSize : ℕ) :
    (streamRecv env c s recvBufSize).stream.streamId = s.streamId ∧
      ∀ f ∈ (streamRecv env c s recvBufSize).frames,
        f = .maxData (streamRecv env c s recvBufSize).conn.connFlowCtl.maxDataCanRecv ∨
          f = .maxStreamData s.streamId
            (streamRecv env c s recvBufSize).stream.streamFlowCtl.maxStreamDataCanRecv := by
  unfold streamRecv
  by_cases hreset : RecvStreamState.resetRecvd.toNat ≤ s.streamStateRecv.toNat
  · rw [if_pos hreset]
    refine ⟨?_, nofun⟩
    dsimp only
    unfold streamMaybeNeedClose
    split_ifs <;> rfl
  · rw [if_neg hreset]
    dsimp only [streamDoRecvFlowCtl]
    generalize hs : ({ markDataRead c.connType _ _ with readyToRead := false } : Stream) = s₁
    have hid : s₁.streamId = s.streamId := by
      rw [← hs]
      exact markDataRead_streamId _ _ _
    generalize ({ c with connFlowCtl := _ } : ConnRecv) = c₁
    obtain ⟨hwid, hstream⟩ := streamWindowUpdate_frames env c₁ s₁
    refine ⟨hwid.trans hid, fun f hf => ?_⟩
    rcases List.mem_append.1 hf with h | h
    · rw [← hid]
      exact .inr (hstream f h)
    · exact .inl (connWindowUpdate_frames env c₁ _ f h)

theorem streamRecvConn_steps {allow : ConnAct → Prop} {c : Conn} {s : Stream}
    (hs : c.streams s.streamId = some s) (env : RecvEnv) (recvBufSize : ℕ) :
    ConnSteps allow c (streamRecvConn c s env recvBufSize) := by
  obtain ⟨hid, hframes⟩ := streamRecv_frames env c.toConnRecv s recvBufSize
  unfold streamRecvConn
  dsimp only
  refine .trans (.single (.read c s env recvBufSize hs)) ?_
  generalize hr : streamRecv env c.toConnRecv s recvBufSize = r at hid hframes ⊢
  -- the window updates go out one after the other; the limits stay
  have hfold : ∀ (frames : List Frame) (c' : Conn),
      c'.connFlowCtl.maxDataCanRecv = r.conn.connFlowCtl.maxDataCanRecv →
      c'.streams s.streamId = some r.stream →
      (∀ f ∈ frames, f = .maxData r.conn.connFlowCtl.maxDataCanRecv ∨
        f = .maxStreamData s.streamId r.stream.streamFlowCtl.maxStreamDataCanRecv) →
      ConnSteps allow c' (frames.foldl writeWindow c') := by
    intro frames
    induction frames with
    | nil => exact fun c' _ _ _ => .refl
    | cons f frames ih =>
        intro c' hmax hstream hall
        have hwrite : ConnSteps allow c' (writeWindow c' f) := by
          rcases hall f (List.mem_cons_self ..) with rfl | rfl
          · exact write_steps c' _ hmax.symm
          · exact write_steps c' _ ⟨r.stream, hstream, rfl⟩
        have hframe : (writeWindow c' f).connFlowCtl = c'.connFlowCtl ∧
            (writeWindow c' f).streams = c'.streams := by
          rcases hall f (List.mem_cons_self ..) with rfl | rfl
          all_goals
            unfold writeWindow
            dsimp only
            rw [Conn.write_frame]
            exact ⟨rfl, rfl⟩
        refine hwrite.trans (ih _ ?_ ?_ fun f' hf' => hall f' (List.mem_cons_of_mem _ hf'))
        · rw [hframe.1]
          exact hmax
        · rw [hframe.2]
          exact hstream
  refine hfold r.frames _ rfl ?_ hframes
  rw [← hid]
  exact Conn.setStream_streams_self _ r.stream

/-! ## Events -/

/-- The acts of an event. -/
def Conn.allows (c : Conn) : ConnEvent → ConnAct → Prop
  | .send id .., act | .sendv id .., act => act = .writeStream id ∧ (c.streams id).isSome = true
  | .drain id _, act =>
    act = .writeStream id ∧ ∃ s, c.streams id = some s ∧ hasAtomicPending s = true
  | .close id, act => act = .dropPending id ∨ act = .writeReset id ∧ c.isClosing = false ∧
      ∃ s, c.streams id = some s ∧ s.streamStateSend.toNat < SendStreamState.resetSent.toNat
  | .header header, act => act = .header header
  | .create dir .., act => act = .openLocal (c.connType.localType (dir = .bidi))
  | .frame env pkt _ _ f, act => c.takesFrame pkt f.1 = true ∧ f.1.allows c env.accept act
  | _, _ => False

section Allows

variable {c : Conn} {accept : Bool} {f : Frame} {ev : ConnEvent}

theorem Frame.allows_deliver {s : Stream} {g : StreamFrame} (h : f.allows c accept (.deliver s g)) :
    f = .stream s.streamId g.dataOffset g.fin g.data ∧ c.Holds accept s := by
  cases f <;> simp [Frame.allows] at h
  obtain ⟨rfl, hholds, rfl⟩ := h
  exact ⟨rfl, hholds⟩

theorem Frame.allows_resetRecv {r : ConnRecv} {s : Stream} {n : ℕ}
    (h : f.allows c accept (.resetRecv r s n)) :
    (∃ errCode, f = .resetStream s.streamId errCode n) ∧ c.Holds accept s ∧
      r.connFlowCtl.dataRecved = c.connFlowCtl.dataRecved ∧
      r.connFlowCtl.maxDataCanRecv = c.connFlowCtl.maxDataCanRecv := by
  cases f <;> simp [Frame.allows] at h
  obtain ⟨rfl, rfl, hholds, hrecved, hmax⟩ := h
  exact ⟨⟨_, rfl⟩, hholds, hrecved, hmax⟩

theorem Frame.allows_writeReset {id : StreamId} (h : f.allows c accept (.writeReset id)) :
    ((∃ errCode n, f = .resetStream id errCode n) ∨ ∃ errCode, f = .stopSending id errCode) ∧
      c.ResetsSend id := by
  cases f <;> simp [Frame.allows] at h
  · obtain ⟨rfl, hresets⟩ := h
    exact ⟨.inl ⟨_, _, rfl⟩, hresets⟩
  · obtain ⟨rfl, hresets⟩ := h
    exact ⟨.inr ⟨_, rfl⟩, hresets⟩

theorem Frame.not_allows_writeStream {id : StreamId} : ¬ f.allows c accept (.writeStream id) := by
  intro h
  cases f <;> simp [Frame.allows] at h

theorem Frame.allows_openPeer {id : StreamId} (h : f.allows c accept (.openPeer id)) :
    c.OpensPeer id := by
  cases f <;> simp [Frame.allows] at h
  all_goals exact h.1 ▸ h.2

/-- An act is one of the application, or comes from a frame. -/
theorem Conn.allows_cases {act : ConnAct} (h : c.allows ev act) :
    (∃ id, act = .writeStream id) ∨
      (∃ id, (act = .writeReset id ∨ act = .dropPending id) ∧ ev = .close id) ∨
      (∃ header, act = .header header ∧ ev = .header header) ∨
      (∃ dir settings accept, act = .openLocal (c.connType.localType (dir = .bidi)) ∧
        ev = .create dir settings accept) ∨
      ∃ env pkt pos frameLen f, ev = .frame env pkt pos frameLen f ∧ c.takesFrame pkt f.1 = true ∧
        f.1.allows c env.accept act := by
  cases ev with
  | send id => exact .inl ⟨id, h.1⟩
  | sendv id => exact .inl ⟨id, h.1⟩
  | drain id => exact .inl ⟨id, h.1⟩
  | close id => exact .inr (.inl ⟨id, h.symm.imp_left fun h => h.1, rfl⟩)
  | header header => exact .inr (.inr (.inl ⟨header, h, rfl⟩))
  | create dir settings accept => exact .inr (.inr (.inr (.inl ⟨dir, settings, accept, h, rfl⟩)))
  | frame env pkt pos frameLen f =>
      exact .inr (.inr (.inr (.inr ⟨env, pkt, pos, frameLen, f, rfl, h.1, h.2⟩)))
  | _ => exact h.elim

theorem Conn.allows_frame {env : FrameEnv} {pkt : PacketIn} {pos frameLen : ℕ} {f : WireFrame}
    (htakes : c.takesFrame pkt f.1 = true) :
    c.allows (.frame env pkt pos frameLen f) = f.1.allows c env.accept := by
  funext act
  exact propext ⟨fun h => h.2, fun h => ⟨htakes, h⟩⟩

theorem Conn.frame_of_allows {act : ConnAct} (h : c.allows ev act)
    (hstream : ∀ id, act ≠ .writeStream id) (hreset : ∀ id, act ≠ .writeReset id)
    (hpending : ∀ id, act ≠ .dropPending id) (hheader : ∀ header, act ≠ .header header)
    (hlocal : ∀ t, act ≠ .openLocal t) :
    ∃ env pkt pos frameLen f, ev = .frame env pkt pos frameLen f ∧ c.takesFrame pkt f.1 = true ∧
      f.1.allows c env.accept act := by
  rcases Conn.allows_cases h with ⟨id, rfl⟩ | ⟨id, rfl | rfl, -⟩ | ⟨header, rfl, -⟩ |
    ⟨dir, settings, accept, rfl, -⟩ | hframe
  · exact absurd rfl (hstream id)
  · exact absurd rfl (hreset id)
  · exact absurd rfl (hpending id)
  · exact absurd rfl (hheader header)
  · exact absurd rfl (hlocal _)
  · exact hframe

/-- Only a frame that names it opens a stream of the peer. -/
theorem Conn.OpensPeer.of_allows {id : StreamId} (h : c.allows ev (.openPeer id)) :
    c.OpensPeer id := by
  obtain ⟨env, pkt, pos, frameLen, f, -, -, hf⟩ := Conn.frame_of_allows h nofun nofun nofun nofun
    nofun
  exact Frame.allows_openPeer hf

end Allows

theorem Conn.opensPeer_addLog (c : Conn) (entry : LogEntry) (id : StreamId) :
    (c.addLog entry).OpensPeer id = c.OpensPeer id :=
  propext ⟨fun h => ⟨h.none, h.peer, h.admits, h.unseen⟩,
    fun h => ⟨h.none, h.peer, h.admits, h.unseen⟩⟩

theorem Frame.allows_addLog (c : Conn) (entry : LogEntry) (accept : Bool) (f : Frame) :
    f.allows (c.addLog entry) accept = f.allows c accept := by
  have hopens := c.opensPeer_addLog entry
  have hholds : ∀ s, (c.addLog entry).Holds accept s = c.Holds accept s := by
    intro s
    unfold Conn.Holds
    rw [hopens]
    rfl
  have hresets : ∀ id, (c.addLog entry).ResetsSend id = c.ResetsSend id := by
    intro id
    unfold Conn.ResetsSend
    rw [hopens]
    rfl
  funext act
  have hrecv : (c.addLog entry).toConnRecv = c.toConnRecv := rfl
  have hstreams : (c.addLog entry).streams = c.streams := rfl
  cases f <;> cases act <;> simp only [Frame.allows, hopens, hholds, hresets, hrecv, hstreams]

theorem onPktProcessed_steps {allow : ConnAct → Prop} (c : Conn) (pkt : PacketIn) :
    ConnSteps allow c (onPktProcessed c pkt) := by
  have hacked : ConnSteps allow c
      (if pkt.pktType = .shortHeader then onHandshakeAcked c else c) := by
    split_ifs
    · exact onHandshakeAcked_steps c
    · exact .refl
  exact hacked.tail (.record _ pkt.pktNum)

theorem advanceSend_touch (connType : ConnType) (s : Stream) :
    (advanceSend connType s).core = s.core ∧
      s.streamStateSend.toNat ≤ (advanceSend connType s).streamStateSend.toNat := by
  unfold advanceSend
  split <;> rename_i h
  · exact ⟨rfl, by rw [h]; exact Nat.le_succ _⟩
  · exact ⟨rfl, by rw [h]; exact Nat.le_succ _⟩
  · unfold streamMaybeNeedClose
    split_ifs <;> exact ⟨rfl, by rw [h]; exact Nat.le_succ _⟩
  · unfold streamMaybeNeedClose
    split_ifs <;> exact ⟨rfl, by rw [h]; exact Nat.le_succ _⟩
  · exact ⟨rfl, le_rfl⟩
  · exact ⟨rfl, le_rfl⟩

theorem advanceSend_pending (connType : ConnType) (s : Stream) :
    (advanceSend connType s).pending = s.pending ∧
      (advanceSend connType s).pendingFin = s.pendingFin := by
  unfold advanceSend
  split
  · exact ⟨rfl, rfl⟩
  · exact ⟨rfl, rfl⟩
  · unfold streamMaybeNeedClose
    split_ifs <;> exact ⟨rfl, rfl⟩
  · unfold streamMaybeNeedClose
    split_ifs <;> exact ⟨rfl, rfl⟩
  · exact ⟨rfl, rfl⟩
  · exact ⟨rfl, rfl⟩

theorem CallSteps.event {allow : ConnAct → Prop} {c c' : Conn} {s s' : Stream}
    (hs : c.streams s.streamId = some s) (h : CallSteps allow c s c' s') :
    ConnSteps allow c (c'.setStream s') := by
  have hsteps := h.1
  rw [Conn.setStream_eq_self hs] at hsteps
  exact hsteps

theorem engine_steps {allow : ConnAct → Prop} (c : Conn) (ev : EngineEvent) :
    ConnSteps allow c (c.step (.engine ev)) := by
  have hengine : (ev.toSend c).isEngine = true := by cases ev <;> rfl
  refine .trans (.single (.queue c (ev.toSend c) hengine)) (.single (.status _ c.connState c.connErr
    (c.handshakeSent || sendsHandshake c ev) c.handshakeRecvd c.handshakeDone c.dataBlocked
    c.connCloseCount c.header c.alpn c.selfProtoExt c.peerProtoExt (fun _ => rfl) ?_ id id .inl .inl
    (fun h => ⟨h, rfl⟩) of_decide_eq_true .inl (.inl rfl)))
  intro hsent
  exact Bool.or_eq_true_iff.2 (.inl hsent)

theorem onStream_steps {allow : ConnAct → Prop} {c : Conn} (hkeyed : c.Keyed) (id : StreamId)
    (call : Stream → Conn)
    (h : ∀ s, s.streamId = id → c.streams s.streamId = some s → ConnSteps allow c (call s)) :
    ConnSteps allow c (match c.streams id with
      | none => c
      | some s => call s) := by
  split
  · exact .refl
  · rename_i s hs
    have hid := hkeyed id s hs
    exact h s hid (by rw [hid]; exact hs)

/-- **Every event is a sequence of elementary steps**, with the acts that it allows. -/
theorem step_steps {c : Conn} (hkeyed : c.Keyed) (ev : ConnEvent) :
    ConnSteps (c.allows ev) c (c.step ev) := by
  cases ev with
  | handshake =>
      change ConnSteps _ c (if _ then (sendHandshake c).1 else c)
      split_ifs
      · rename_i hinit
        refine sendHandshake_steps fun _ => ?_
        unfold Conn.isClosing
        rw [hinit.2]
        rfl
      · exact .refl
  | create dir settings accept => exact streamCreate_steps c dir settings accept rfl
  | send id env data fin =>
      refine onStream_steps hkeyed id _ fun s hid hs => ?_
      obtain rfl := hid
      exact (streamSend_steps env c s data fin ⟨rfl, by rw [hs]; rfl⟩).event hs
  | sendv id env iov fin flush =>
      refine onStream_steps hkeyed id _ fun s hid hs => ?_
      obtain rfl := hid
      exact (streamSendvAtomic_steps env c s iov fin flush ⟨rfl, by rw [hs]; rfl⟩).event hs
  | drain id env =>
      refine onStream_steps hkeyed id _ fun s hid hs => ?_
      obtain rfl := hid
      exact (streamAtomicDrain_steps env c s fun h => ⟨rfl, s, hs, h⟩).event hs
  | recv id env recvBufSize =>
      exact onStream_steps hkeyed id _ fun s hid hs => streamRecvConn_steps hs env recvBufSize
  | close id =>
      exact streamClose_steps hkeyed (.inl rfl) fun s hs hstate hclosing =>
        .inr ⟨rfl, hclosing, s, hs, hstate⟩
  | destroy id =>
      refine onStream_steps hkeyed id _ fun s hid hs => ?_
      obtain rfl := hid
      split_ifs with hclose
      · exact .single (.destroy c _ s hs hclose)
      · exact .refl
  | sendState id =>
      refine onStream_steps hkeyed id _ fun s hid hs => ?_
      obtain ⟨hcore, hstate⟩ := advanceSend_touch c.connType s
      exact .single (.touch c s _ hs hcore hstate (.inl (advanceSend_pending c.connType s)))
  | frame env pkt pos frameLen f =>
      rw [Conn.step_frame]
      split_ifs with htakes
      · have hframe := processFrame_steps (c := c.addLog (.recvd pkt.pktNum pos f.1)) hkeyed env pkt
          pos frameLen f
        rw [Frame.allows_addLog] at hframe
        rw [Conn.allows_frame htakes]
        exact .trans (.single (.recvd c pkt.pktNum pos f)) hframe
      · exact .refl
  | processed pkt => exact onPktProcessed_steps c pkt
  | error err => exact raise_steps c err
  | immediateClose => exact immediateClose_steps c
  | engine ev => exact engine_steps c ev
  | header header =>
      exact .single (.status c c.connState c.connErr c.handshakeSent c.handshakeRecvd c.handshakeDone
        c.dataBlocked c.connCloseCount header c.alpn c.selfProtoExt c.peerProtoExt (fun _ => rfl) id id
        id .inl .inl (fun h => ⟨h, rfl⟩) of_decide_eq_true .inl (.inr rfl))

end Rquic

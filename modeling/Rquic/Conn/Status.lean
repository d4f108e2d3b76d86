import Rquic.Conn.Change

set_option autoImplicit false

/-!
# The status of a connection

The state of a connection and the flags of its handshake. Few functions move them; the others are
listed here as leaving them alone, and as doing no more to the send queue than to write frames and to
drop the packets of a stream.

* `Conn.status`: the type, the state, the flags of the handshake and the settings of the peer.
* `Writes`: what the send queue becomes when frames are written, none of them a HANDSHAKE.
* `Keeps`: the status stays, and the queue is written to.
* `*_keeps`: the frame handlers and the calls of the application.
* **`step_keeps`**: the events that do no more.
-/

namespace Rquic

/-- What the handshake and the close of a connection move. -/
structure ConnStatus where
  connType : ConnType
  connState : ConnState
  handshakeSent : Bool
  handshakeRecvd : Bool
  handshakeDone : Bool
  remoteSettings : TransSettings
  deriving DecidableEq

/-- The status of a connection. -/
def Conn.status (c : Conn) : ConnStatus :=
  ⟨c.connType, c.connState, c.handshakeSent, c.handshakeRecvd, c.handshakeDone, c.remoteSettings⟩

theorem Conn.status_connState {c c' : Conn} (h : c'.status = c.status) :
    c'.connState = c.connState := (congrArg ConnStatus.connState h :)

theorem Conn.status_connType {c c' : Conn} (h : c'.status = c.status) :
    c'.connType = c.connType := (congrArg ConnStatus.connType h :)

theorem Conn.status_handshakeSent {c c' : Conn} (h : c'.status = c.status) :
    c'.handshakeSent = c.handshakeSent := (congrArg ConnStatus.handshakeSent h :)

theorem Conn.status_handshakeRecvd {c c' : Conn} (h : c'.status = c.status) :
    c'.handshakeRecvd = c.handshakeRecvd := (congrArg ConnStatus.handshakeRecvd h :)

theorem Conn.status_handshakeDone {c c' : Conn} (h : c'.status = c.status) :
    c'.handshakeDone = c.handshakeDone := (congrArg ConnStatus.handshakeDone h :)

/-! ## The queue -/

/-- A frame is written, not a HANDSHAKE, or the packets of a stream are dropped. -/
def SendEvent.isWrite : SendEvent → Bool
  | .control _ (.handshake ..) _ _ _ => false
  | .control .. | .stream .. | .dropStream _ => true
  | _ => false

/-- The queue is written to. -/
abbrev Writes : SendQueue → SendQueue → Prop :=
  Relation.ReflTransGen fun s s' => ∃ ev : SendEvent, ev.isWrite = true ∧ s' = s.step ev

theorem writeStreamFrame_writes {s s' : SendQueue} {highPri fin : Bool} {params : PktParams}
    {streamId offset n : ℕ} {payload : Bytes}
    (h : writeStreamFrame s highPri params streamId offset fin payload = .ok (s', n)) :
    Writes s s' := by
  refine .single ⟨.stream highPri params streamId offset fin payload, rfl, ?_⟩
  simp only [SendQueue.step, h]

/-- The status stays, and the queue is written to. -/
structure Keeps (c c' : Conn) : Prop where
  status : c'.status = c.status
  queue : Writes c.sndq c'.sndq

theorem Keeps.trans {c c' c'' : Conn} (h : Keeps c c') (h' : Keeps c' c'') : Keeps c c'' :=
  ⟨h'.status.trans h.status, h.queue.trans h'.queue⟩

@[refl] theorem Keeps.refl (c : Conn) : Keeps c c := ⟨rfl, .refl⟩

section

variable (c : Conn)

/-! ## Basic updates -/

theorem write_status (f : ControlFrame) : (c.write f).1.status = c.status := by
  rw [Conn.write_frame]
  rfl

theorem write_keeps {f : ControlFrame} (hf : f.frame.type ≠ .handshake) : Keeps c (c.write f).1 := by
  cases hpo : controlPacket (c.params (f.pktType c)) f false 0 with
  | error e =>
      rw [Conn.write_of_error hpo]
  | ok po =>
      rw [Conn.write_of_ok hpo]
      refine ⟨rfl, .single ⟨.control (c.params (f.pktType c)) f false 0 c.handshakeDone, ?_, rfl⟩⟩
      cases f with
      | handshake => exact absurd rfl hf
      | _ => rfl

theorem raise_keeps (err : TraErr) : Keeps c (c.raise err) := by
  refine ⟨?_, .refl⟩
  unfold Conn.raise ConnRecv.raise
  split <;> rfl

theorem toConnRecv_keeps {r : ConnRecv} (h : r.connType = c.connType) :
    Keeps c { c with toConnRecv := r } := by
  refine ⟨?_, .refl⟩
  unfold Conn.status
  rw [h]

theorem dropStream_keeps (id : StreamId) :
    Keeps c { c with sndq := dropStreamFramePackets c.sndq id } :=
  ⟨rfl, .single ⟨.dropStream id, rfl, rfl⟩⟩

section

variable {c}
variable {c' c'' : Conn}

theorem Keeps.write (h : Keeps c c') {f : ControlFrame} (hf : f.frame.type ≠ .handshake) :
    Keeps c (c'.write f).1 := h.trans (write_keeps c' hf)

theorem Keeps.raise (h : Keeps c c') (err : TraErr) : Keeps c (c'.raise err) :=
  h.trans (raise_keeps c' err)

theorem Keeps.other (h : Keeps c c') (hstatus : c''.status = c'.status) (hsndq : c''.sndq = c'.sndq) :
    Keeps c c'' := by
  refine ⟨hstatus.trans h.status, ?_⟩
  rw [hsndq]
  exact h.queue

theorem Keeps.setStream (h : Keeps c c') (s : Stream) : Keeps c (c'.setStream s) := h.other rfl rfl

end

theorem write_fc_keeps (fc : ConnFlowCtl) {f : ControlFrame} (hf : f.frame.type ≠ .handshake) :
    Keeps c (Conn.write { c with connFlowCtl := fc } f).1 := by
  have hfc : Keeps c { c with connFlowCtl := fc } := ⟨rfl, .refl⟩
  exact hfc.write hf

/-! ## The handshake and the end -/

theorem writeConnClose_keeps : Keeps c (writeConnClose c) := by
  have hwrite : ∀ errCode, Keeps c (c.write (.connClose errCode)).1 :=
    fun errCode => write_keeps c nofun
  unfold writeConnClose
  split_ifs
  · exact (hwrite _).other rfl rfl
  · exact .refl c

theorem sendHandshake_status :
    (sendHandshake c).1.status = c.status ∨ c.connType = .client ∧
      (sendHandshake c).1.status = Conn.status { c with connState := .clientHandshake } := by
  unfold sendHandshake
  split
  · exact .inl rfl
  · rename_i tp htp
    have hwrite := write_status c (.handshake c.alpn tp c.selfProtoExt)
    split
    · rename_i heq
      rw [heq] at hwrite
      exact .inl hwrite
    · rename_i c₁ _ heq
      rw [heq] at hwrite
      split_ifs with htype
      · refine .inr ⟨(Conn.status_connType hwrite).symm.trans htype, ?_⟩
        exact congrArg (fun st : ConnStatus => { st with connState := .clientHandshake }) hwrite
      · exact .inl hwrite

/-! ## Streams -/

theorem insertStream_keeps (id : StreamId) (t : StreamType)
    (settings : Option StreamSettings) (isLocal accept : Bool) :
    Keeps c (insertStream c id t settings isLocal accept).1 := by
  unfold insertStream
  split <;> exact ⟨rfl, .refl⟩

theorem createLocalFlowCtl_keeps (t : StreamType) : Keeps c (createLocalFlowCtl c t).1 := by
  unfold createLocalFlowCtl
  dsimp only
  split_ifs
  · exact write_keeps c nofun
  · exact .refl c
  · exact write_keeps c nofun
  · exact .refl c

theorem createPeerFlowCtl_keeps (id : StreamId) : Keeps c (createPeerFlowCtl c id).1 := by
  unfold createPeerFlowCtl
  dsimp only
  split_ifs
  · exact raise_keeps c _
  · exact write_fc_keeps c _ nofun
  · exact .refl c
  · exact raise_keeps c _
  · exact write_fc_keeps c _ nofun
  · exact .refl c

theorem createLocalStream_keeps (t : StreamType) (settings : Option StreamSettings) (accept : Bool) :
    Keeps c (createLocalStream c t settings accept).1 := by
  have hflow := createLocalFlowCtl_keeps c t
  unfold createLocalStream
  by_cases hclosing : c.isClosing = true
  · rw [if_pos hclosing]
  · rw [if_neg hclosing]
    split
    · rename_i heq
      rwa [heq] at hflow
    · rename_i c₁ _ heq
      rw [heq] at hflow
      -- the counter of the own streams moves on
      have hbidi : Keeps c { c₁ with curStreamIdBidiLocal := c₁.curStreamIdBidiLocal + 1 } :=
        hflow.trans ⟨rfl, .refl⟩
      have huni : Keeps c { c₁ with curStreamIdUniLocal := c₁.curStreamIdUniLocal + 1 } :=
        hflow.trans ⟨rfl, .refl⟩
      split_ifs
      · exact hbidi.trans (insertStream_keeps _ _ _ _ _ _)
      · exact huni.trans (insertStream_keeps _ _ _ _ _ _)

theorem streamCreate_keeps (dir : StreamDirection) (settings : Option StreamSettings)
    (accept : Bool) : Keeps c (streamCreate c dir settings accept).1 := by
  unfold streamCreate
  split <;> exact createLocalStream_keeps ..

theorem createPeerStream_keeps (id : StreamId) (accept : Bool) :
    Keeps c (createPeerStream c id accept).1 := by
  have hflow := createPeerFlowCtl_keeps c id
  unfold createPeerStream
  split_ifs
  · exact ⟨rfl, .refl⟩
  · split
    · rename_i heq
      rwa [heq] at hflow
    · rename_i heq
      rw [heq] at hflow
      exact hflow.trans (insertStream_keeps _ _ _ _ _ _)

theorem insertPassiveStreamHash_keeps (curMaxSid : ℤ) (id : StreamId) :
    Keeps c (insertPassiveStreamHash c curMaxSid id) := by
  unfold insertPassiveStreamHash
  dsimp only
  split_ifs
  · refine Keeps.raise ?_ _
    exact ⟨rfl, .refl⟩
  · exact ⟨rfl, .refl⟩

theorem openPassive_keeps {c' : Conn} {id : StreamId} (h : openPassive c id = some c') :
    Keeps c c' := by
  unfold openPassive at h
  split_ifs at h
  · obtain rfl := Option.some.inj h
    exact (insertPassiveStreamHash_keeps c _ id).other rfl rfl
  · obtain rfl := Option.some.inj h
    exact (insertPassiveStreamHash_keeps c _ id).other rfl rfl
  · obtain rfl := Option.some.inj h
    exact .refl c

theorem passiveCreateStream_keeps (id : StreamId) (accept : Bool) :
    Keeps c (passiveCreateStream c id accept).1 := by
  have hflow := createPeerFlowCtl_keeps c id
  unfold passiveCreateStream
  split
  · rename_i heq
    rwa [heq] at hflow
  · rename_i c₁ _ heq
    rw [heq] at hflow
    split
    · exact hflow
    · rename_i c₂ hopen
      have hopened := hflow.trans (openPassive_keeps c₁ hopen)
      have hcreate := hopened.trans (createPeerStream_keeps c₂ id accept)
      split
      · rename_i heq
        rw [heq] at hcreate
        exact hcreate.trans (raise_keeps _ _)
      · rename_i heq
        rwa [heq] at hcreate

theorem peerStream_keeps (id : StreamId) (accept : Bool) :
    Keeps c (peerStream c id accept).1 := by
  unfold peerStream
  split
  · exact ⟨rfl, .refl⟩
  · split_ifs
    · exact ⟨rfl, .refl⟩
    · exact passiveCreateStream_keeps c id accept

theorem writeResetStream_keeps (s : Stream) (errCode finalSize : ℕ) :
    Keeps c (writeResetStream c s errCode finalSize).1 := by
  have hwrite : Keeps c (c.write (.resetStream s.streamId errCode finalSize)).1 := write_keeps c nofun
  unfold writeResetStream
  split
  · rename_i heq
    rwa [heq] at hwrite
  · rename_i heq
    rw [heq] at hwrite
    exact hwrite.other rfl rfl

theorem writeStopSending_keeps (s : Stream) (errCode : ℕ) :
    Keeps c (writeStopSending c s errCode).1 := by
  unfold writeStopSending
  split_ifs
  · exact ⟨rfl, .refl⟩
  · exact write_keeps c nofun

theorem raiseOnError_keeps {r : Conn × Except Errno Unit} (h : Keeps c r.1) :
    Keeps c (raiseOnError r) := by
  unfold raiseOnError
  split
  · exact h.trans (raise_keeps _ _)
  · exact h

theorem streamClose_keeps (id : StreamId) : Keeps c (streamClose c id) := by
  unfold streamClose
  split
  · exact ⟨rfl, .refl⟩
  · rename_i s _
    have hreset : ∀ s', Keeps c (raiseOnError (writeResetStream
        { c.setStream s' with sndq := dropStreamFramePackets (c.setStream s').sndq id } s'
        requestCancelled s'.streamSendOffset)) := by
      intro s'
      have hstored : Keeps c (c.setStream s') := ⟨rfl, .refl⟩
      exact raiseOnError_keeps c ((hstored.trans (dropStream_keeps _ id)).trans
        (writeResetStream_keeps _ s' _ _))
    dsimp only
    split_ifs
    · exact ⟨rfl, .refl⟩
    · exact ⟨rfl, .refl⟩
    · exact raiseOnError_keeps c ((hreset _).trans (writeStopSending_keeps _ _ _))
    · exact hreset _

/-! ## Sending -/

theorem streamDoSendFlowCtl_keeps (s : Stream) : Keeps c (streamDoSendFlowCtl c s).1 := by
  have hblocked : Keeps c (Conn.write { c with dataBlocked := true }
      (.dataBlocked c.connFlowCtl.maxDataCanSend)).1 := by
    have hflag : Keeps c { c with dataBlocked := true } := ⟨rfl, .refl⟩
    exact hflag.write nofun
  unfold streamDoSendFlowCtl
  dsimp only
  split_ifs
  · exact hblocked.write nofun
  · exact hblocked
  · exact write_keeps c nofun
  · exact .refl c

theorem raiseFirstWindow_keeps (s : Stream) (maxSrtt : ℕ) :
    Keeps c (raiseFirstWindow c s maxSrtt).1 := by
  unfold raiseFirstWindow
  dsimp only
  split_ifs
  · exact write_keeps c nofun
  · exact ⟨rfl, .refl⟩
  · exact ⟨rfl, .refl⟩

theorem writeStreamFrameToPacket_keeps (s : Stream) (maxSrtt : ℕ) (fin : Bool) (payload : Bytes) :
    Keeps c (writeStreamFrameToPacket c s maxSrtt fin payload).1 := by
  have hraise := raiseFirstWindow_keeps c s maxSrtt
  unfold writeStreamFrameToPacket
  dsimp only
  split
  · exact hraise
  · rename_i hwrite
    exact ⟨hraise.status, hraise.queue.trans (writeStreamFrame_writes hwrite)⟩

theorem sendLoop_keeps (maxSrtt : ℕ) (fin : Bool) (data : Bytes) (room : ℕ) (c : Conn) (s : Stream)
    (offset : ℕ) : Keeps c (sendLoop maxSrtt fin data room c s offset).1 := by
  induction room generalizing c s offset with
  | zero =>
      have hflow := streamDoSendFlowCtl_keeps c s
      unfold sendLoop
      by_cases hdone : data.length ≤ offset ∧ ¬ (fin = true ∧ data = [])
      · rw [if_pos hdone]
      · rw [if_neg hdone]
        split
        · rename_i heq
          rwa [heq] at hflow
        · rename_i heq
          rwa [heq] at hflow
  | succ room ih =>
      have hflow := streamDoSendFlowCtl_keeps c s
      unfold sendLoop
      by_cases hdone : data.length ≤ offset ∧ ¬ (fin = true ∧ data = [])
      · rw [if_pos hdone]
      · rw [if_neg hdone]
        split
        · rename_i heq
          rwa [heq] at hflow
        · rename_i c₁ s₁ heq
          rw [heq] at hflow
          have hwrite := hflow.trans (writeStreamFrameToPacket_keeps c₁ s₁ maxSrtt fin (data.drop offset))
          dsimp only
          split
          · rename_i heq'
            rwa [heq'] at hwrite
          · rename_i heq'
            rw [heq'] at hwrite
            split_ifs
            · exact hwrite
            · exact hwrite.trans (ih _ _ _)

theorem streamSendScalar_keeps (env : SendEnv) (s : Stream) (data : Bytes) (fin : Bool) :
    Keeps c (streamSendScalar env c s data fin).1 := by
  have hloop := sendLoop_keeps env.maxSrtt fin data env.room c { s with readyToWrite := true } 0
  unfold streamSendScalar
  by_cases hclosing : c.isClosing = true
  · rw [if_pos hclosing]
  · rw [if_neg hclosing]
    by_cases hreset : SendStreamState.resetSent.toNat ≤ s.streamStateSend.toNat
    · rw [if_pos hreset]
    · rw [if_neg hreset]
      by_cases hfin : s.finWrite = true
      · rw [if_pos hfin]
      · rw [if_neg hfin]
        dsimp only
        by_cases hestab : c.isEstablished = true
        · rw [if_neg (not_not.2 hestab)]
          split
          · rename_i heq
            rw [heq] at hloop
            exact hloop.trans (raise_keeps _ _)
          · rename_i heq
            rwa [heq] at hloop
          · rename_i heq
            rwa [heq] at hloop
        · rw [if_pos hestab]

theorem streamSend_keeps (env : SendEnv) (s : Stream) (data : Bytes) (fin : Bool) :
    Keeps c (streamSend env c s data fin).1 := by
  unfold streamSend
  split_ifs
  · exact ⟨rfl, .refl⟩
  · exact streamSendScalar_keeps c env s data fin

theorem sendvLoop_keeps (env : SendvEnv) (fin flush : Bool) (bufs : List Bytes) (i accepted : ℕ)
    (c : Conn) (s : Stream) :
    Keeps c (sendvLoop env fin flush bufs i accepted c s).1 := by
  induction bufs generalizing i accepted c s with
  | nil => rfl
  | cons buf bufs ih =>
      have hsend := streamSendScalar_keeps c (env.send i) s buf (fin && decide (bufs.flatten = []))
      rw [sendvLoop]
      by_cases hempty : buf = []
      · rw [if_pos hempty]
        exact ih _ _ _ _
      · rw [if_neg hempty]
        dsimp only
        split
        · rename_i c₁ s₁ e heq
          rw [heq] at hsend
          split_ifs
          · exact hsend
          · exact hsend
          · split <;> exact hsend
        · rename_i c₁ s₁ written heq
          rw [heq] at hsend
          by_cases hall : written = buf.length
          · rw [if_pos hall]
            split_ifs
            · exact hsend
            · exact hsend.trans (ih _ _ _ _)
          · rw [if_neg hall]
            split <;> exact hsend

theorem streamSendvAtomic_keeps (env : SendvEnv) (s : Stream) (iov : List Bytes) (fin flush : Bool) :
    Keeps c (streamSendvAtomic env c s iov fin flush).1 := by
  unfold streamSendvAtomic
  split_ifs
  · exact ⟨rfl, .refl⟩
  · exact ⟨rfl, .refl⟩
  · exact ⟨rfl, .refl⟩
  · exact ⟨rfl, .refl⟩
  · exact streamSendScalar_keeps c _ s [] true
  · exact ⟨rfl, .refl⟩
  · exact sendvLoop_keeps ..

theorem streamAtomicDrain_keeps (env : SendEnv) (s : Stream) :
    Keeps c (streamAtomicDrain env c s).1 := by
  unfold streamAtomicDrain
  split
  · exact ⟨rfl, .refl⟩
  · rename_i ctx _
    have hsend := streamSendScalar_keeps c env s (ctx.buf.drop ctx.pendingOffset) ctx.fin
    by_cases hall : ctx.buf.length ≤ ctx.pendingOffset
    · rw [if_pos hall]
    · rw [if_neg hall]
      split
      · rename_i heq
        rw [heq] at hsend
        split_ifs <;> exact hsend
      · rename_i heq
        rw [heq] at hsend
        split_ifs <;> exact hsend

/-! ## Frames -/

theorem processStreamFrameConn_keeps (env : FrameEnv) (id offset : ℕ) (fin : Bool) (data : Bytes) :
    Keeps c (processStreamFrameConn env c id offset fin data).1 := by
  have hpeer := peerStream_keeps c id env.accept
  unfold processStreamFrameConn
  split
  · rename_i heq
    rwa [heq] at hpeer
  · rename_i c₁ s heq
    rw [heq] at hpeer
    refine hpeer.trans ⟨?_, .refl⟩
    exact (toConnRecv_keeps c₁ (ConnRecv.connType_of_sendPart (processStreamFrame_conn _ s _))).status

theorem resetSendHalf_keeps (s : Stream) (errCode : ℕ) :
    Keeps c (resetSendHalf c s errCode) := by
  unfold resetSendHalf
  split_ifs
  · exact writeResetStream_keeps ..
  · exact ⟨rfl, .refl⟩

theorem processResetStreamFrameConn_keeps (env : FrameEnv) (id errCode finalSize : ℕ) :
    Keeps c (processResetStreamFrameConn env c id errCode finalSize) := by
  have hpeer := peerStream_keeps c id env.accept
  unfold processResetStreamFrameConn
  split
  · rename_i heq
    rwa [heq] at hpeer
  · rename_i c₁ s heq
    rw [heq] at hpeer
    obtain ⟨c₂, hc₂⟩ : ∃ c₂, c₂ =
        if s.streamStateSend.toNat < SendStreamState.resetSent.toNat then
          resetSendHalf { c₁ with sndq := dropStreamFramePackets c₁.sndq id } s errCode
        else c₁ := ⟨_, rfl⟩
    have hreset : Keeps c c₂ := by
      rw [hc₂]
      split_ifs
      · exact (hpeer.trans (dropStream_keeps _ id)).trans (resetSendHalf_keeps _ s errCode)
      · exact hpeer
    dsimp only
    rw [← hc₂]
    split
    · exact hreset
    · rename_i s₂ _
      refine hreset.trans ⟨?_, .refl⟩
      exact (toConnRecv_keeps c₂ (ConnRecv.connType_of_sendPart (processResetStreamFrame_conn _ s₂ _))).status

theorem processStopSendingFrame_keeps (env : FrameEnv) (id : StreamId) :
    Keeps c (processStopSendingFrame env c id) := by
  have hpeer := peerStream_keeps c id env.accept
  unfold processStopSendingFrame
  split
  · rename_i heq
    rwa [heq] at hpeer
  · rename_i c₁ s heq
    rw [heq] at hpeer
    exact hpeer.trans (resetSendHalf_keeps c₁ s _)

theorem processDataBlockedFrame_keeps (dataLimit : ℕ) :
    Keeps c (processDataBlockedFrame c dataLimit).1 := by
  unfold processDataBlockedFrame
  dsimp only
  split_ifs
  · exact .refl c
  · exact write_fc_keeps c _ nofun
  · exact .refl c

theorem processStreamDataBlockedFrame_keeps (env : FrameEnv) (id streamDataLimit : ℕ) :
    Keeps c (processStreamDataBlockedFrame env c id streamDataLimit).1 := by
  have hpeer := peerStream_keeps c id env.accept
  unfold processStreamDataBlockedFrame
  split
  · rename_i heq
    rwa [heq] at hpeer
  · rename_i heq
    rw [heq] at hpeer
    dsimp only
    split_ifs
    · exact hpeer
    · exact (hpeer.setStream _).write nofun
    · exact hpeer

theorem processStreamsBlockedFrame_keeps (bidirectional : Bool) (streamLimit : ℕ) :
    Keeps c (processStreamsBlockedFrame c bidirectional streamLimit).1 := by
  unfold processStreamsBlockedFrame
  cases bidirectional <;> dsimp only <;> split_ifs <;> first | exact .refl c | exact write_fc_keeps c _ nofun

theorem processMaxDataFrame_keeps (maxData : ℕ) :
    Keeps c (processMaxDataFrame c maxData) := by
  unfold processMaxDataFrame
  split_ifs <;> exact ⟨rfl, .refl⟩

theorem processMaxStreamDataFrame_keeps (env : FrameEnv) (id maxStreamData : ℕ) :
    Keeps c (processMaxStreamDataFrame env c id maxStreamData) := by
  have hpeer := peerStream_keeps c id env.accept
  unfold processMaxStreamDataFrame
  split
  · rename_i heq
    rwa [heq] at hpeer
  · rename_i heq
    rw [heq] at hpeer
    split_ifs
    · exact hpeer.other rfl rfl
    · exact hpeer

theorem processMaxStreamsFrame_keeps (bidirectional : Bool) (limit : ℕ) :
    Keeps c (processMaxStreamsFrame c bidirectional limit).1 := by
  unfold processMaxStreamsFrame
  split_ifs <;> exact ⟨rfl, .refl⟩

theorem processDatagramFrame_keeps (pkt : PacketIn) (pos frameLen : ℕ) (data : Bytes) :
    Keeps c (processDatagramFrame c pkt pos frameLen data).1 := by
  unfold processDatagramFrame
  split_ifs
  · exact raise_keeps c _
  · exact ⟨rfl, .refl⟩
  · exact ⟨rfl, .refl⟩

/-- A frame of the handshake or of the end of the connection. -/
def Frame.movesStatus : Frame → Bool
  | .ack _ | .handshake .. | .connectionClose _ => true
  | _ => false

/-- **The other frames leave the status alone.** -/
theorem processFrame_keeps (env : FrameEnv) (pkt : PacketIn) (pos frameLen : ℕ) {f : Frame}
    (hf : f.movesStatus = false) : Keeps c (processFrame env c pkt pos frameLen f).1 := by
  cases f with
  | padding | pathResponse => rfl
  | ping =>
      unfold processFrame
      split_ifs <;> exact ⟨rfl, .refl⟩
  | ack | handshake | connectionClose => cases hf
  | resetStream id errCode finalSize => exact processResetStreamFrameConn_keeps c env id errCode finalSize
  | stopSending id errCode => exact processStopSendingFrame_keeps c env id
  | stream id offset fin data => exact processStreamFrameConn_keeps c env id offset fin data
  | maxData limit => exact processMaxDataFrame_keeps c limit
  | maxStreamData id limit => exact processMaxStreamDataFrame_keeps c env id limit
  | maxStreams bidirectional limit => exact processMaxStreamsFrame_keeps c bidirectional limit
  | dataBlocked limit => exact processDataBlockedFrame_keeps c limit
  | streamDataBlocked id limit => exact processStreamDataBlockedFrame_keeps c env id limit
  | streamsBlocked bidirectional limit => exact processStreamsBlockedFrame_keeps c bidirectional limit
  | pathChallenge data => exact write_keeps c nofun
  | datagram data => exact processDatagramFrame_keeps c pkt pos frameLen data

/-! ## Events -/

/-- An event that may move the status. -/
def ConnEvent.movesStatus : ConnEvent → Bool
  | .handshake | .processed _ | .immediateClose | .engine _ => true
  | .frame _ _ _ _ f => f.1.movesStatus
  | _ => false

theorem foldl_writeWindow_keeps (fs : List Frame) (c : Conn) : Keeps c (fs.foldl writeWindow c) := by
  induction fs generalizing c with
  | nil => exact .refl c
  | cons f fs ih =>
      rw [List.foldl_cons]
      refine Keeps.trans ?_ (ih _)
      cases f with
      | maxData | maxStreamData => exact write_keeps c nofun
      | _ => exact .refl c

/-- **The other events leave the status alone.** -/
theorem step_keeps {ev : ConnEvent} (hev : ev.movesStatus = false) :
    Keeps c (c.step ev) := by
  cases ev with
  | handshake | processed | immediateClose | engine => cases hev
  | create dir settings accept => exact streamCreate_keeps c dir settings accept
  | send id env data fin =>
      simp only [Conn.step]
      split
      · exact ⟨rfl, .refl⟩
      · exact (streamSend_keeps c env _ data fin).setStream _
  | sendv id env iov fin flush =>
      simp only [Conn.step]
      split
      · exact ⟨rfl, .refl⟩
      · exact (streamSendvAtomic_keeps c env _ iov fin flush).setStream _
  | drain id env =>
      simp only [Conn.step]
      split
      · exact ⟨rfl, .refl⟩
      · exact (streamAtomicDrain_keeps c env _).setStream _
  | recv id env recvBufSize =>
      simp only [Conn.step]
      split
      · exact ⟨rfl, .refl⟩
      · rename_i s _
        unfold streamRecvConn
        dsimp only
        refine Keeps.trans (Keeps.setStream ?_ _) (foldl_writeWindow_keeps _ _)
        exact toConnRecv_keeps c (ConnRecv.connType_of_sendPart (streamRecv_conn _ s env recvBufSize))
  | close id => exact streamClose_keeps c id
  | destroy id =>
      simp only [Conn.step]
      split
      · exact ⟨rfl, .refl⟩
      · split_ifs <;> exact ⟨rfl, .refl⟩
  | sendState id =>
      simp only [Conn.step]
      split <;> exact ⟨rfl, .refl⟩
  | frame env pkt pos frameLen f =>
      rw [Conn.step_frame]
      split_ifs
      · refine Keeps.trans ?_ (processFrame_keeps _ env pkt pos frameLen hev)
        exact ⟨rfl, .refl⟩
      · exact ⟨rfl, .refl⟩
  | error err => exact raise_keeps c err
  | header => exact ⟨rfl, .refl⟩

end

end Rquic

import Rquic.Conn.Steps

set_option autoImplicit false

/-!
# The steps of the calls of the application

The send path and the handshake, taken apart into the elementary steps of a connection.

* `MaySend`: what a write of a STREAM frame asks of the connection and the stream.
* `CallSteps`: a call on a stream that carries the stream beside the connection.
* **`streamSend_steps`**, **`streamSendvAtomic_steps`**, **`streamAtomicDrain_steps`**: the sends.
* **`processHandshake_steps`**: the handshake.
-/

namespace Rquic

section Calls

variable {allow : ConnAct → Prop} {c : Conn}

/-! ## Sending -/

theorem streamDoSendFlowCtl_steps (c : Conn) (s : Stream) :
    ConnSteps allow (c.setStream s)
      ((streamDoSendFlowCtl c s).1.setStream (streamDoSendFlowCtl c s).2.1) := by
  have hconn : ConnSteps allow (c.setStream s)
      ((Conn.write { c with dataBlocked := true }
        (.dataBlocked c.connFlowCtl.maxDataCanSend)).1.setStream s) := by
    refine .trans (flags_steps (c.setStream s) c.connState c.connErr true c.connCloseCount
      (fun _ => rfl) (.inl rfl)) ?_
    have hwrite : ConnSteps allow (Conn.setStream { c with dataBlocked := true } s) _ :=
      write_steps _ (.dataBlocked c.connFlowCtl.maxDataCanSend) trivial
    rw [Conn.write_setStream] at hwrite
    exact hwrite
  have hstream : ∀ c' : Conn, ConnSteps allow (c'.setStream s)
      ((c'.write (.streamDataBlocked s.streamId s.streamFlowCtl.maxStreamDataCanSend)).1.setStream
        { s with dataBlocked := true }) := by
    intro c'
    have hwrite : ConnSteps allow (c'.setStream s) _ :=
      write_steps _ (.streamDataBlocked s.streamId s.streamFlowCtl.maxStreamDataCanSend) trivial
    rw [Conn.write_setStream] at hwrite
    exact hwrite.trans (touch_steps _ rfl le_rfl (.inl ⟨rfl, rfl⟩))
  unfold streamDoSendFlowCtl
  simp only
  split_ifs
  · exact hconn.trans (hstream _)
  · exact hconn
  · exact hstream c
  · exact .refl

theorem streamDoSendFlowCtl_core (c : Conn) (s : Stream) :
    (streamDoSendFlowCtl c s).2.1.core = s.core ∧
      (streamDoSendFlowCtl c s).2.1.streamStateSend = s.streamStateSend := by
  unfold streamDoSendFlowCtl
  simp only
  split_ifs <;> exact ⟨rfl, rfl⟩

theorem streamDoSendFlowCtl_false {s : Stream} (h : (streamDoSendFlowCtl c s).2.2 = false) :
    connSendBlocked c = false ∧ streamSendBlocked c s = false ∧
      streamDoSendFlowCtl c s = (c, s, false) := by
  unfold streamDoSendFlowCtl at h ⊢
  cases hconn : connSendBlocked c with
  | true =>
      simp only [hconn, if_true] at h
      split_ifs at h
  | false =>
      simp only [hconn, Bool.false_eq_true, if_false] at h ⊢
      split_ifs at h ⊢ with hstream
      exact ⟨trivial, by simpa using hstream, rfl⟩

/-- The first write touches the receiving half of the stream only. -/
theorem raiseFirstWindow_frame (c : Conn) (s : Stream) (maxSrtt : ℕ) :
    (raiseFirstWindow c s maxSrtt).1 = { c with
        sndq := (raiseFirstWindow c s maxSrtt).1.sndq
        log := (raiseFirstWindow c s maxSrtt).1.log } ∧
      (raiseFirstWindow c s maxSrtt).2 = { s with streamFlowCtl := { s.streamFlowCtl with
        maxStreamDataCanRecv := (raiseFirstWindow c s maxSrtt).2.streamFlowCtl.maxStreamDataCanRecv
        streamRecvWindowSize :=
          (raiseFirstWindow c s maxSrtt).2.streamFlowCtl.streamRecvWindowSize } } := by
  unfold raiseFirstWindow
  simp only
  split_ifs
  · exact ⟨Conn.write_frame c _, rfl⟩
  · exact ⟨rfl, rfl⟩
  · exact ⟨rfl, rfl⟩

theorem raiseFirstWindow_steps (c : Conn) (s : Stream) (maxSrtt : ℕ) :
    ConnSteps allow (c.setStream s)
      ((raiseFirstWindow c s maxSrtt).1.setStream (raiseFirstWindow c s maxSrtt).2) := by
  have hfirst : ConnStep allow (c.setStream s) ((c.setStream s).setStream
      (raiseFirstWindow (c.setStream s) s maxSrtt).2) :=
    .firstWindow _ s maxSrtt (c.setStream_streams_self s)
  have hsame : (raiseFirstWindow (c.setStream s) s maxSrtt).2 = (raiseFirstWindow c s maxSrtt).2 := by
    have hwindow : firstWriteWindow (c.setStream s) s maxSrtt = firstWriteWindow c s maxSrtt := rfl
    have hsettings : (c.setStream s).connSettings = c.connSettings := rfl
    unfold raiseFirstWindow
    simp only [hwindow, hsettings]
    split_ifs <;> rfl
  have hid : (raiseFirstWindow c s maxSrtt).2.streamId = s.streamId := by
    rw [(raiseFirstWindow_frame c s maxSrtt).2]
  rw [hsame, Conn.setStream_setStream c hid] at hfirst
  refine .trans (.single hfirst) ?_
  -- the window update goes out behind the new limit
  have hwrite : ∀ s' : Stream, ConnSteps allow (c.setStream s')
      ((c.write (.maxStreamData s'.streamId s'.streamFlowCtl.maxStreamDataCanRecv)).1.setStream s') := by
    intro s'
    have hw : ConnSteps allow (c.setStream s') _ :=
      write_steps _ (.maxStreamData s'.streamId s'.streamFlowCtl.maxStreamDataCanRecv)
        ⟨s', c.setStream_streams_self s', rfl⟩
    rw [Conn.write_setStream] at hw
    exact hw
  unfold raiseFirstWindow
  simp only
  split_ifs
  · exact hwrite _
  · exact .refl
  · exact .refl

/-- What a write of a STREAM frame asks of the connection and the stream. -/
structure MaySend (c : Conn) (s : Stream) : Prop where
  estab : c.isEstablished = true
  state : s.streamStateSend.toNat < SendStreamState.resetSent.toNat

theorem writeStreamFrameToPacket_steps {s : Stream} (hmay : MaySend c s) (hfin : s.finWrite = false)
    (hconn : connSendBlocked c = false) (hstream : streamSendBlocked c s = false)
    (hallow : allow (.writeStream s.streamId)) (maxSrtt : ℕ) (fin : Bool) (payload : Bytes) :
    ConnSteps allow (c.setStream s)
        ((writeStreamFrameToPacket c s maxSrtt fin payload).1.setStream
          (writeStreamFrameToPacket c s maxSrtt fin payload).2.1) ∧
      (writeStreamFrameToPacket c s maxSrtt fin payload).2.1.streamId = s.streamId ∧
      MaySend (writeStreamFrameToPacket c s maxSrtt fin payload).1
        (writeStreamFrameToPacket c s maxSrtt fin payload).2.1 ∧
      ∀ n, (writeStreamFrameToPacket c s maxSrtt fin payload).2.2 = .ok n →
        (writeStreamFrameToPacket c s maxSrtt fin payload).2.1.finWrite = (fin && n = payload.length) := by
  have hfirst : ConnSteps allow (c.setStream s) _ := raiseFirstWindow_steps c s maxSrtt
  obtain ⟨hc, hs⟩ := raiseFirstWindow_frame c s maxSrtt
  unfold writeStreamFrameToPacket
  cases hraise : raiseFirstWindow c s maxSrtt with
  | mk c₁ s₁ =>
      rw [hraise] at hfirst hc hs
      dsimp only at hfirst hc hs
      have hestab : c₁.isEstablished = true := by rw [hc]; exact hmay.estab
      have hid : s₁.streamId = s.streamId := by rw [hs]
      have hstate : s₁.streamStateSend.toNat < SendStreamState.resetSent.toNat := by
        rw [hs]
        exact hmay.state
      have hfin₁ : s₁.finWrite = false := by rw [hs]; exact hfin
      dsimp only
      cases hw : writeStreamFrame c₁.sndq (s₁.streamPriority = .high) (c₁.params .shortHeader)
          s₁.streamId s₁.streamSendOffset fin payload with
      | error e => exact ⟨hfirst, hid, ⟨hestab, hstate⟩, nofun⟩
      | ok r =>
          have hconn₁ : connSendBlocked c₁ = false := by rw [hc]; exact hconn
          have hstream₁ : streamSendBlocked c₁ s₁ = false := by rw [hc, hs]; exact hstream
          refine ⟨?_, hid, ⟨hestab, hstate⟩, ?_⟩
          · refine hfirst.trans ?_
            have hstep : ConnStep allow (c₁.setStream s₁) _ :=
              .writeStream (c₁.setStream s₁) s₁ fin payload r.1 r.2 (c₁.setStream_streams_self s₁)
                hestab hstate hfin₁ hconn₁ hstream₁ hw (by rw [hid]; exact hallow)
            unfold countSent Conn.addLog Conn.setStream at hstep ⊢
            simp only [Function.update_idem] at hstep
            exact .single hstep
          · intro n hn
            obtain rfl := Except.ok.inj hn
            simp only [countSent, hfin₁, Bool.false_or]

/-- A call on a stream that carries the stream beside the connection. -/
def CallSteps (allow : ConnAct → Prop) (c : Conn) (s : Stream) (c' : Conn) (s' : Stream) : Prop :=
  ConnSteps allow (c.setStream s) (c'.setStream s') ∧ s'.streamId = s.streamId

theorem CallSteps.refl (c : Conn) (s : Stream) : CallSteps allow c s c s := ⟨.refl, rfl⟩

theorem CallSteps.trans {c' c'' : Conn} {s s' s'' : Stream} (h : CallSteps allow c s c' s')
    (h' : CallSteps allow c' s' c'' s'') : CallSteps allow c s c'' s'' :=
  ⟨h.1.trans h'.1, h'.2.trans h.2⟩

theorem CallSteps.touch (c : Conn) {s s' : Stream} (hallow : allow (.writeStream s.streamId))
    (hcore : s'.core = s.core) (hstate : s'.streamStateSend = s.streamStateSend) :
    CallSteps allow c s c s' :=
  ⟨touch_steps c hcore (by rw [hstate]) (.inr hallow), Stream.streamId_of_core hcore⟩

theorem CallSteps.raise {c' : Conn} {s s' : Stream} (h : CallSteps allow c s c' s') (err : TraErr) :
    CallSteps allow c s (c'.raise err) s' := by
  refine ⟨h.1.trans ?_, h.2⟩
  have hraise : ConnSteps allow (c'.setStream s') _ := raise_steps _ err
  exact hraise

theorem sendLoop_steps {maxSrtt : ℕ} {fin : Bool} {data : Bytes} {room : ℕ} {s : Stream} {offset : ℕ}
    (hmay : MaySend c s) (hfin : s.finWrite = true → data.length ≤ offset ∧ data ≠ [])
    (hallow : allow (.writeStream s.streamId)) :
    CallSteps allow c s (sendLoop maxSrtt fin data room c s offset).1
      (sendLoop maxSrtt fin data room c s offset).2.1 := by
  induction room generalizing c s offset with
  | zero =>
      rw [sendLoop]
      by_cases hdone : data.length ≤ offset ∧ ¬ (fin = true ∧ data = [])
      · rw [if_pos hdone]
        exact .refl c s
      · rw [if_neg hdone]
        have hflow : CallSteps allow c s _ _ := ⟨streamDoSendFlowCtl_steps c s,
          Stream.streamId_of_core (streamDoSendFlowCtl_core c s).1⟩
        rcases hf : streamDoSendFlowCtl c s with ⟨c₁, s₁, blocked⟩
        rw [hf] at hflow
        cases blocked <;> exact hflow
  | succ room ih =>
      rw [sendLoop]
      by_cases hdone : data.length ≤ offset ∧ ¬ (fin = true ∧ data = [])
      · rw [if_pos hdone]
        exact .refl c s
      rw [if_neg hdone]
      have hflow : CallSteps allow c s _ _ := ⟨streamDoSendFlowCtl_steps c s,
        Stream.streamId_of_core (streamDoSendFlowCtl_core c s).1⟩
      cases hblocked : (streamDoSendFlowCtl c s).2.2 with
      | true =>
          rcases hf : streamDoSendFlowCtl c s with ⟨c₁, s₁, blocked⟩
          rw [hf] at hflow hblocked
          obtain rfl : blocked = true := hblocked
          exact hflow
      | false =>
          obtain ⟨hconn, hstream, heq⟩ := streamDoSendFlowCtl_false hblocked
          rw [heq]
          dsimp only
          have hnofin : s.finWrite = false := by
            by_contra hne
            obtain ⟨hlen, hnil⟩ := hfin (by simpa using hne)
            exact hdone ⟨hlen, fun h => hnil h.2⟩
          obtain ⟨hsteps, hid, hmay', hfin'⟩ := writeStreamFrameToPacket_steps hmay hnofin hconn
            hstream hallow maxSrtt fin (data.drop offset)
          rcases hw : writeStreamFrameToPacket c s maxSrtt fin (data.drop offset) with ⟨c₁, s₁, ret⟩
          rw [hw] at hsteps hid hmay' hfin'
          cases ret with
          | error e => exact ⟨hsteps, hid⟩
          | ok n =>
              dsimp only
              split_ifs with honly
              · exact ⟨hsteps, hid⟩
              · refine CallSteps.trans ⟨hsteps, hid⟩ (ih hmay' ?_ (by
                  rw [show s₁.streamId = s.streamId from hid]
                  exact hallow))
                intro hf
                have hwhole : (fin && decide (n = (data.drop offset).length)) = true :=
                  (hfin' n rfl).symm.trans hf
                obtain ⟨hfin₁, hn⟩ := Bool.and_eq_true_iff.1 hwhole
                have hn' := of_decide_eq_true hn
                rw [List.length_drop] at hn'
                exact ⟨by omega, fun hnil => honly ⟨hfin₁, hnil⟩⟩

theorem streamSendScalar_steps (env : SendEnv) (c : Conn) (s : Stream) (data : Bytes) (fin : Bool)
    (hallow : allow (.writeStream s.streamId)) :
    CallSteps allow c s (streamSendScalar env c s data fin).1
      (streamSendScalar env c s data fin).2.1 := by
  unfold streamSendScalar
  split_ifs with hclosing hreset hfin hestab
  · exact .touch c hallow rfl rfl
  · exact .touch c hallow rfl rfl
  · exact .touch c hallow rfl rfl
  · set s₁ : Stream := { s with readyToWrite := true } with hs₁
    have htouch : CallSteps allow c s c s₁ := .touch c hallow rfl rfl
    have hloop : CallSteps allow c s₁ (sendLoop env.maxSrtt fin data env.room c s₁ 0).1
        (sendLoop env.maxSrtt fin data env.room c s₁ 0).2.1 :=
      sendLoop_steps ⟨hestab, not_le.1 hreset⟩ (fun h => absurd h hfin) hallow
    have hcall := htouch.trans hloop
    dsimp only
    rcases hl : sendLoop env.maxSrtt fin data env.room c s₁ 0 with ⟨c₂, s₂, offset, loopEnd⟩
    rw [hl] at hcall
    cases loopEnd with
    | done => exact hcall.trans (.touch c₂ (by rw [show s₂.streamId = s.streamId from hcall.2]; exact hallow) rfl rfl)
    | again => exact hcall
    | failed e => exact hcall.raise _
  · exact .touch c hallow rfl rfl

theorem streamSend_steps (env : SendEnv) (c : Conn) (s : Stream) (data : Bytes) (fin : Bool)
    (hallow : allow (.writeStream s.streamId)) :
    CallSteps allow c s (streamSend env c s data fin).1 (streamSend env c s data fin).2.1 := by
  unfold streamSend
  split_ifs
  · exact .refl c s
  · exact streamSendScalar_steps env c s data fin hallow

theorem atomicSavePending_core (s : Stream) (remaining : Bytes) (fin flush mallocOk : Bool) :
    (atomicSavePending s remaining fin flush mallocOk).1.core = s.core ∧
      (atomicSavePending s remaining fin flush mallocOk).1.streamStateSend = s.streamStateSend := by
  unfold atomicSavePending
  split_ifs <;> exact ⟨rfl, rfl⟩

theorem sendvLoop_steps {env : SendvEnv} {fin flush : Bool} {bufs : List Bytes} {i accepted : ℕ}
    {s : Stream} (hallow : allow (.writeStream s.streamId)) :
    CallSteps allow c s (sendvLoop env fin flush bufs i accepted c s).1
      (sendvLoop env fin flush bufs i accepted c s).2.1 := by
  induction bufs generalizing c s i accepted with
  | nil => exact .refl c s
  | cons buf bufs ih =>
      rw [sendvLoop]
      by_cases hnil : buf = []
      · rw [if_pos hnil]
        exact ih hallow
      rw [if_neg hnil]
      have hcall := streamSendScalar_steps (env.send i) c s buf (fin && bufs.flatten = []) hallow
      dsimp only
      rcases hsend : streamSendScalar (env.send i) c s buf (fin && bufs.flatten = []) with
        ⟨c₁, s₁, ret⟩
      rw [hsend] at hcall
      have hsave : ∀ remaining, CallSteps allow c s c₁
          (atomicSavePending s₁ remaining fin flush env.mallocOk).1 := by
        intro remaining
        obtain ⟨hcore, hstate⟩ := atomicSavePending_core s₁ remaining fin flush env.mallocOk
        exact hcall.trans (.touch c₁ (by rw [show s₁.streamId = s.streamId from hcall.2]; exact hallow)
          hcore hstate)
      cases ret with
      | error e =>
          dsimp only
          split_ifs
          · exact hcall
          · exact hcall
          · have hs := hsave (buf ++ bufs.flatten)
            split <;> rename_i hsv <;> rw [hsv] at hs <;> exact hs
      | ok written =>
          dsimp only
          split_ifs
          · exact hcall
          · exact hcall.trans (ih (by rw [show s₁.streamId = s.streamId from hcall.2]; exact hallow))
          · have hs := hsave (buf.drop written ++ bufs.flatten)
            split <;> rename_i hsv <;> rw [hsv] at hs <;> exact hs

theorem streamSendvAtomic_steps (env : SendvEnv) (c : Conn) (s : Stream) (iov : List Bytes)
    (fin flush : Bool) (hallow : allow (.writeStream s.streamId)) :
    CallSteps allow c s (streamSendvAtomic env c s iov fin flush).1
      (streamSendvAtomic env c s iov fin flush).2.1 := by
  unfold streamSendvAtomic
  split_ifs
  · exact .refl c s
  · exact .touch c hallow rfl rfl
  · exact .touch c hallow rfl rfl
  · exact .refl c s
  · exact streamSendScalar_steps _ c s _ _ hallow
  · exact .refl c s
  · have htouch : CallSteps allow c s c { s with atomicCtx := some (s.atomicCtx.getD {}) } :=
      .touch c hallow rfl rfl
    exact htouch.trans (sendvLoop_steps hallow)

theorem streamAtomicDrain_steps (env : SendEnv) (c : Conn) (s : Stream)
    (hallow : hasAtomicPending s = true → allow (.writeStream s.streamId)) :
    CallSteps allow c s (streamAtomicDrain env c s).1 (streamAtomicDrain env c s).2.1 := by
  unfold streamAtomicDrain
  split
  · exact .refl c s
  · rename_i ctx hctx
    split_ifs with hle
    · exact .refl c s
    have hpending : hasAtomicPending s = true := by
      unfold hasAtomicPending
      rw [hctx]
      exact decide_eq_true (not_le.1 hle)
    have hcall := streamSendScalar_steps env c s (ctx.buf.drop ctx.pendingOffset) ctx.fin
      (hallow hpending)
    rcases hsend : streamSendScalar env c s (ctx.buf.drop ctx.pendingOffset) ctx.fin with ⟨c₁, s₁, ret⟩
    rw [hsend] at hcall
    have hallow₁ : allow (.writeStream s₁.streamId) := by
      rw [show s₁.streamId = s.streamId from hcall.2]
      exact hallow hpending
    cases ret with
    | error e =>
        dsimp only
        split_ifs <;> exact hcall.trans (.touch c₁ hallow₁ rfl rfl)
    | ok written =>
        dsimp only
        split_ifs <;> exact hcall.trans (.touch c₁ hallow₁ rfl rfl)

/-! ## The handshake -/

theorem Conn.HandshakeFits.congr {c' : Conn} (h : c.HandshakeFits)
    (hsettings : c'.localSettings = c.localSettings) (hheader : c'.header = c.header)
    (hsize : c'.pktOutSize = c.pktOutSize) : c'.HandshakeFits := by
  unfold Conn.HandshakeFits
  rw [hsettings, hheader, hsize]
  exact h

theorem handshakeFits_of_write {tp : Bytes}
    (htp : encodeTransportParams c.localSettings.params tpCap = .ok tp) (alpn ext : Bytes)
    (h : (c.write (.handshake alpn tp ext)).2 = .ok ()) : c.HandshakeFits := by
  refine ⟨tp, htp, ?_⟩
  have hneed := (c.write_ok_iff _).1 h
  have halpn := length_vintBytes_pos alpn.length
  have htplen := length_vintBytes_pos tp.length
  have hext := length_vintBytes_pos ext.length
  have hcode : (ControlFrame.handshake alpn tp ext).need =
      (ControlFrame.handshake alpn tp ext).code.length := rfl
  have hinit : (ControlFrame.handshake alpn tp ext).pktType c = .init := rfl
  rw [hcode, hinit] at hneed
  simp only [ControlFrame.code, List.length_cons, List.length_append] at hneed
  omega

theorem sendHandshake_steps (hclosing : c.connType = .client → c.isClosing = false) :
    ConnSteps allow c (sendHandshake c).1 := by
  unfold sendHandshake
  split
  · exact .refl
  · rename_i tp htp
    have hwrite : ConnSteps allow c (c.write (.handshake c.alpn tp c.selfProtoExt)).1 :=
      write_steps c _ trivial
    have hframe := c.write_frame (.handshake c.alpn tp c.selfProtoExt)
    have hfits : _ → c.HandshakeFits := handshakeFits_of_write htp c.alpn c.selfProtoExt
    rcases hw : c.write (.handshake c.alpn tp c.selfProtoExt) with ⟨c₁, ret⟩
    rw [hw] at hwrite hframe hfits
    dsimp only at hframe
    cases ret with
    | error e => exact hwrite
    | ok u =>
        dsimp only
        split_ifs with htype
        · refine hwrite.trans (.single (.status c₁ .clientHandshake c₁.connErr c₁.handshakeSent
            c₁.handshakeRecvd c₁.handshakeDone c₁.dataBlocked c₁.connCloseCount c₁.header c₁.alpn
            c₁.selfProtoExt c₁.peerProtoExt (fun _ => rfl) id id id .inl nofun nofun ?_ ?_ (.inl rfl)))
          · intro hwas
            rw [hframe] at hwas htype
            rw [show c.isClosing = true from hwas] at hclosing
            cases hclosing htype
          · intro _
            rw [hframe]
            exact .inr ((hfits rfl).congr rfl rfl rfl)
        · exact hwrite

theorem sendHandshake_frame (c : Conn) :
    (sendHandshake c).1.connFlowCtl = c.connFlowCtl ∧
      (sendHandshake c).1.remoteSettings = c.remoteSettings ∧
      (sendHandshake c).1.streams = c.streams ∧ (sendHandshake c).1.connType = c.connType := by
  unfold sendHandshake
  split
  · exact ⟨rfl, rfl, rfl, rfl⟩
  · rename_i tp _
    have hframe := c.write_frame (.handshake c.alpn tp c.selfProtoExt)
    rcases hw : c.write (.handshake c.alpn tp c.selfProtoExt) with ⟨c₁, ret⟩
    rw [hw] at hframe
    dsimp only at hframe
    cases ret with
    | error e =>
        dsimp only
        rw [hframe]
        exact ⟨rfl, rfl, rfl, rfl⟩
    | ok u =>
        dsimp only
        split_ifs <;> rw [hframe] <;> exact ⟨rfl, rfl, rfl, rfl⟩

/-- A HANDSHAKE frame that was sent fits a packet, and a server stays in its state. -/
theorem sendHandshake_fits (h : (sendHandshake c).2 = .ok ()) :
    (sendHandshake c).1.HandshakeFits ∧
      (c.connType = .server → (sendHandshake c).1.connState = c.connState) := by
  unfold sendHandshake at h ⊢
  split at h
  · cases h
  · rename_i tp htp
    have hframe := c.write_frame (.handshake c.alpn tp c.selfProtoExt)
    have hfits : _ → c.HandshakeFits := handshakeFits_of_write htp c.alpn c.selfProtoExt
    rcases hw : c.write (.handshake c.alpn tp c.selfProtoExt) with ⟨c₁, ret⟩
    rw [hw] at h hframe hfits
    dsimp only at hframe
    cases ret with
    | error e => cases h
    | ok u =>
        have hfits₁ : c₁.HandshakeFits := by
          rw [hframe]
          exact (hfits rfl).congr rfl rfl rfl
        dsimp only
        split_ifs with htype
        · refine ⟨hfits₁.congr rfl rfl rfl, fun hserver => ?_⟩
          rw [hframe] at htype
          rw [show c.connType = .client from htype] at hserver
          cases hserver
        · refine ⟨hfits₁, fun _ => ?_⟩
          rw [hframe]

theorem alpn_steps (c : Conn) (alpn selfProtoExt peerProtoExt : Bytes) :
    ConnSteps allow c { c with
      alpn := alpn, selfProtoExt := selfProtoExt, peerProtoExt := peerProtoExt } :=
  .single (.status c c.connState c.connErr c.handshakeSent c.handshakeRecvd c.handshakeDone
    c.dataBlocked c.connCloseCount c.header alpn selfProtoExt peerProtoExt (fun _ => rfl) id id id
    .inl .inl (fun h => ⟨h, rfl⟩) of_decide_eq_true .inl (.inl rfl))

theorem serverOnAlpn_steps (env : FrameEnv) (c : Conn) (alpn : Bytes) :
    ConnSteps allow c (serverOnAlpn env c alpn).1 := by
  unfold serverOnAlpn
  split
  · exact alpn_steps c [] c.selfProtoExt c.peerProtoExt
  · exact (alpn_steps c alpn [] c.peerProtoExt).trans (raise_steps _ _)
  · rename_i ext _
    split_ifs
    · exact (alpn_steps c alpn [] c.peerProtoExt).trans (raise_steps _ _)
    · exact alpn_steps c alpn ext c.peerProtoExt

theorem serverOnAlpn_frame (env : FrameEnv) (c : Conn) (alpn : Bytes) :
    (serverOnAlpn env c alpn).1.connFlowCtl = c.connFlowCtl ∧
      (serverOnAlpn env c alpn).1.remoteSettings = c.remoteSettings ∧
      (serverOnAlpn env c alpn).1.streams = c.streams ∧
      (serverOnAlpn env c alpn).1.connType = c.connType ∧
      (serverOnAlpn env c alpn).1.connState = c.connState := by
  unfold serverOnAlpn
  split
  · exact ⟨rfl, rfl, rfl, rfl, rfl⟩
  · rw [Conn.raise_eq]
    exact ⟨rfl, rfl, rfl, rfl, rfl⟩
  · split_ifs
    · rw [Conn.raise_eq]
      exact ⟨rfl, rfl, rfl, rfl, rfl⟩
    · exact ⟨rfl, rfl, rfl, rfl, rfl⟩

theorem Conn.LimitsApplied.congr {c' : Conn} (h : c.LimitsApplied)
    (hfc : c'.connFlowCtl = c.connFlowCtl) (hremote : c'.remoteSettings = c.remoteSettings)
    (hstreams : c'.streams = c.streams) (htype : c'.connType = c.connType) : c'.LimitsApplied := by
  unfold Conn.LimitsApplied
  rw [hfc, hremote, hstreams, htype]
  exact h

theorem updateFlowCtlSettings_applied (c : Conn) : (updateFlowCtlSettings c).LimitsApplied := by
  refine ⟨rfl, rfl, rfl, fun id s hs => ?_⟩
  obtain ⟨s₀, -, rfl⟩ := Option.map_eq_some_iff.1 hs
  rfl

theorem accepted_steps (hallow : allow .accept) (happlied : c.LimitsApplied) (connState : ConnState)
    (handshakeDone : Bool)
    (hdone : c.handshakeDone = true → handshakeDone = true) (hinit : connState ≠ .serverInit)
    (hclosing : c.isClosing = false)
    (hfits : (c.connState = .clientHandshake ∨ c.handshakeRecvd = true) ∨ c.HandshakeFits) :
    ConnSteps allow c { c with
      handshakeRecvd := true, handshakeDone := handshakeDone, connState := connState } :=
  .single (.status c connState c.connErr c.handshakeSent true handshakeDone c.dataBlocked
    c.connCloseCount c.header c.alpn c.selfProtoExt c.peerProtoExt (fun _ => rfl) id (fun _ => rfl)
    hdone (fun _ => .inr ⟨happlied, hallow⟩) (fun _ => .inr rfl) (fun h => absurd h hinit)
    (fun h => by rw [hclosing] at h; cases h) (fun _ => hfits) (.inl rfl))

/-- While the handshake is waited for, the connection is not closing. -/
theorem not_closing_of_expects (h : expectsHandshake c = true) : c.isClosing = false := by
  unfold expectsHandshake at h
  unfold Conn.isClosing
  cases htype : c.connType with
  | client =>
      rw [htype] at h
      rw [of_decide_eq_true (Bool.and_eq_true_iff.1 h).1]
      rfl
  | server =>
      rw [htype] at h
      rw [of_decide_eq_true h]
      rfl

theorem finishHandshake_steps (hallow : allow .accept) (env : FrameEnv) (happlied : c.LimitsApplied)
    (hexpects : expectsHandshake c = true) (alpn : Bytes) :
    ConnSteps allow c (finishHandshake env c alpn).1 := by
  have hclosing := not_closing_of_expects hexpects
  unfold finishHandshake
  split
  · rename_i hclient
    refine accepted_steps hallow happlied .estabed true (fun _ => rfl) nofun hclosing (.inl (.inl ?_))
    unfold expectsHandshake at hexpects
    rw [hclient] at hexpects
    exact of_decide_eq_true (Bool.and_eq_true_iff.1 hexpects).1
  · rename_i hserver
    have halpn : ConnSteps allow c (serverOnAlpn env c alpn).1 := serverOnAlpn_steps env c alpn
    obtain ⟨hfc, hremote, hstreams, htype, hstate⟩ := serverOnAlpn_frame env c alpn
    rcases ha : serverOnAlpn env c alpn with ⟨c₁, ret⟩
    rw [ha] at halpn hfc hremote hstreams htype hstate
    cases ret with
    | error e => exact halpn
    | ok u =>
        dsimp only
        have hserver₁ : c₁.connType = .server := htype.trans hserver
        have hsend : ConnSteps allow c₁ (sendHandshake c₁).1 :=
          sendHandshake_steps fun hclient => by rw [hserver₁] at hclient; cases hclient
        obtain ⟨hfc₁, hremote₁, hstreams₁, htype₁⟩ := sendHandshake_frame c₁
        have hfits₁ := sendHandshake_fits (c := c₁)
        rcases hs : sendHandshake c₁ with ⟨c₂, ret₂⟩
        rw [hs] at hsend hfc₁ hremote₁ hstreams₁ htype₁ hfits₁
        cases ret₂ with
        | error e => exact halpn.trans hsend
        | ok u =>
            refine (halpn.trans hsend).trans ?_
            have happlied₂ : c₂.LimitsApplied :=
              (happlied.congr hfc hremote hstreams htype).congr hfc₁ hremote₁ hstreams₁ htype₁
            obtain ⟨hfits₂, hstate₂⟩ := hfits₁ rfl
            refine accepted_steps hallow happlied₂ .serverHandshake c₂.handshakeDone id nofun ?_
              (.inr hfits₂)
            unfold Conn.isClosing
            rw [hstate₂ hserver₁, hstate]
            exact hclosing

theorem processHandshake_steps (env : FrameEnv) (c : Conn) (alpn tp ext : Bytes)
    (haccept : allow .accept)
    (hallow : ∀ p, decodeTransportParams tp = .ok p → allow (.params p)) :
    ConnSteps allow c (processHandshake env c alpn tp ext).1 := by
  unfold processHandshake
  by_cases hexpects : expectsHandshake c = true
  · rw [if_neg (not_not.2 hexpects)]
    by_cases hcap : protoExtCap < ext.length
    · rw [if_pos hcap]
      exact raise_steps c _
    rw [if_neg hcap]
    have hext : ConnSteps allow c { c with peerProtoExt := ext } :=
      alpn_steps c c.alpn c.selfProtoExt ext
    dsimp only
    split
    · exact hext.trans (raise_steps _ _)
    · rename_i p hp
      by_cases hcheck : checkTransportParams p = true
      · rw [if_neg (not_not.2 hcheck)]
        refine (hext.tail (.params _ p hexpects (decodeTransportParams_lt hp) hcheck (hallow p hp))).trans
          ?_
        refine finishHandshake_steps haccept env (updateFlowCtlSettings_applied _) ?_ alpn
        exact hexpects
      · rw [if_pos hcheck]
        exact hext.trans (raise_steps _ _)
  · rw [if_pos hexpects]

theorem onHandshakeAcked_steps (c : Conn) : ConnSteps allow c (onHandshakeAcked c) := by
  unfold onHandshakeAcked
  split_ifs with hserver hstate
  · refine .single (.status c .estabed c.connErr c.handshakeSent c.handshakeRecvd true
      c.dataBlocked c.connCloseCount c.header c.alpn c.selfProtoExt c.peerProtoExt (fun _ => rfl) id
      id (fun _ => rfl) .inl (fun _ => .inl ?_) nofun ?_ ?_ (.inl rfl))
    · rw [hstate]
      rfl
    · intro hclosing
      unfold Conn.isClosing at hclosing
      rw [hstate] at hclosing
      exact absurd hclosing (by decide)
    · exact fun h => .inl (.inr (h.resolve_left nofun))
  · exact .single (.status c c.connState c.connErr c.handshakeSent c.handshakeRecvd true
      c.dataBlocked c.connCloseCount c.header c.alpn c.selfProtoExt c.peerProtoExt (fun _ => rfl) id
      id (fun _ => rfl) .inl .inl (fun h => ⟨h, rfl⟩) of_decide_eq_true .inl (.inl rfl))
  · exact .refl

end Calls

end Rquic

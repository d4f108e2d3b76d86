import Rquic.SendCtl.Basic

set_option autoImplicit false

/-!
# Runs of the send control

* `SendCtl.datagramSubmit`, `SendCtl.datagramSendMultiple`, `SendCtl.processCallback`: the calls and the
  callbacks of datagrams.
* `CtlEvent`, `SendCtl.step`, `SendCtl.run`: every way the send control can go on.
* **`SendCtl.queueStep_toSendQueue`**: without the counters, an event is one of the send queue.
-/

namespace Rquic

/-! ## Datagrams -/

/-- What `rqc_datagram_submit` reads of the connection. -/
structure DatagramEnv where
  isOpen : Bool := true
  established : Bool := true
  /-- `max_datagram_frame_size` of the peer. -/
  maxDatagramFrameSize : ℕ
  localMaxUdp : ℕ
  remoteMaxUdp : ℕ
  canWrite : Bool := true
  mallocOk : Bool := true
  params : PktParams

/-- The loop of `rqc_datagram_get_mss`. -/
def fitDatagram (frameLimit : ℕ) : ℕ → ℕ
  | 0 => 0
  | len + 1 =>
    if frameLimit < len + 1 + 1 + (vintBytes (len + 1)).length then fitDatagram frameLimit len
    else len + 1

namespace DatagramEnv

/-- The header of a packet. -/
def headerSize (env : DatagramEnv) : ℕ := env.params.header.length

/-- `rqc_datagram_get_mss`. -/
def mss (env : DatagramEnv) : ℕ :=
  let udpLimit := min env.localMaxUdp env.remoteMaxUdp
  let packetLimit := min env.params.pktOutSize.1 (udpLimit - ackSpace)
  let frameLimit := min (packetLimit - env.headerSize) env.maxDatagramFrameSize
  if env.established = false ∨ env.maxDatagramFrameSize = 0 then 0
  else if udpLimit < ackSpace then 0
  else if packetLimit ≤ env.headerSize then 0
  else if frameLimit < 2 then 0
  else fitDatagram frameLimit (frameLimit - 2)

/-- The message is refused as too large. -/
def TooLarge (env : DatagramEnv) (len : ℕ) : Prop :=
  env.mss < len ∨ env.maxDatagramFrameSize < 2 ∨ env.params.pktOutSize.1 < env.headerSize + 2 ∨
    env.localMaxUdp < env.headerSize + 2 + ackSpace ∨
    env.remoteMaxUdp < env.headerSize + 2 + ackSpace

instance (env : DatagramEnv) (len : ℕ) : Decidable (env.TooLarge len) :=
  inferInstanceAs (Decidable (_ ∨ _ ∨ _ ∨ _ ∨ _))

/-- The budget of the packet. -/
def bufSize (env : DatagramEnv) : ℕ := min env.localMaxUdp env.remoteMaxUdp - ackSpace

end DatagramEnv

namespace SendCtl

/-- `rqc_datagram_submit`. -/
def datagramSubmit (c : SendCtl) (env : DatagramEnv) (data : Bytes) : SendCtl × Except Errno ℕ :=
  if env.isOpen = false then (c, .error .closing)
  else if env.established = false then (c, .error .again)
  else if env.maxDatagramFrameSize = 0 then (c, .error .datagramNotSupported)
  else if env.TooLarge data.length then (c, .error .datagramTooLarge)
  else if env.canWrite = false then (c, .error .again)
  else if c.datagramNextId = 2 ^ 64 - 1 then (c, .error .limit)
  else if env.mallocOk = false then (c, .error .malloc)
  else
    match controlPacket env.params (.datagram data) false env.bufSize with
    | .error _ => (c, .error .malloc)
    | .ok po =>
      (SendCtl.addHistory { c with
        toSendQueue := c.toSendQueue.insertNew .sendPackets po
        poDatagram := Function.update c.poDatagram c.nextId (some c.datagramNextId)
        datagramNextId := c.datagramNextId + 1 } (.accepted c.datagramNextId),
        .ok c.datagramNextId)

/-- The loop of `rqc_datagram_send_multiple`, with `accepted_count`. -/
def datagramSendMultiple : SendCtl → List (DatagramEnv × Bytes) → SendCtl × ℕ × Except Errno Unit
  | c, [] => (c, 0, .ok ())
  | c, (env, data) :: messages =>
    match c.datagramSubmit env data with
    | (c, .error e) => (c, 0, .error e)
    | (c, .ok _) =>
      let (c, accepted, ret) := datagramSendMultiple c messages
      (c, accepted + 1, ret)

/-- One round of the loop of `rqc_datagram_process_callbacks`. The application may call in between. -/
def processCallback (c : SendCtl) (isOpen : Bool) : SendCtl :=
  if isOpen = false then { c with datagramFeedback := [] }
  else
    match c.datagramFeedback with
    | [] => c
    | (datagramId, lost) :: rest =>
      SendCtl.addHistory { c with datagramFeedback := rest } (.notified datagramId lost)

/-! ## Streams -/

/-- A stream is created. Ids are not used again. -/
def openStream (c : SendCtl) (streamId : StreamId) : SendCtl :=
  if streamId ∈ c.opened then c
  else
    { c with
      streams := Function.update c.streams streamId (some {})
      opened := c.opened ++ [streamId] }

/-- A stream is destroyed. -/
def destroyStream (c : SendCtl) (streamId : StreamId) : SendCtl :=
  { c with streams := Function.update c.streams streamId none }

/-- The state of a stream after `rqc_write_reset_stream_to_packet`. -/
def markReset (h : SendHalf) : SendHalf :=
  if h.streamStateSend.toNat < SendStreamState.resetSent.toNat then
    { h with streamStateSend := .resetSent }
  else h

/-- `rqc_write_reset_stream_to_packet`. -/
def writeResetStream (c : SendCtl) (params : PktParams) (streamId errCode finalSize : ℕ) (notify : Bool)
    (bufSize : ℕ) (handshakeDone : Bool) : SendCtl :=
  let f := .resetStream streamId errCode finalSize
  match c.streams streamId with
  | none => c
  | some h =>
    match controlPacket params f notify bufSize with
    | .error _ => c
    | .ok _ =>
      { c with
        toSendQueue := writeControlFrame c.toSendQueue params f notify bufSize handshakeDone
        streams := Function.update c.streams streamId (some (markReset h)) }

/-- The `rqc_write_*_to_packet` of the other control frames. -/
def writeControl (c : SendCtl) (params : PktParams) (f : ControlFrame) (notify : Bool) (bufSize : ℕ)
    (handshakeDone : Bool) : SendCtl :=
  match f with
  | .datagram _ => c
  | .resetStream streamId errCode finalSize =>
    c.writeResetStream params streamId errCode finalSize notify bufSize handshakeDone
  | f => c.onQueue fun s => writeControlFrame s params f notify bufSize handshakeDone

/-- A STREAM frame is written for a stream that is there. -/
def writeStream (c : SendCtl) (highPri : Bool) (params : PktParams) (streamId offset : ℕ) (fin : Bool)
    (payload : Bytes) : SendCtl :=
  if c.streams streamId = none then c
  else
    match writeStreamFrame c.toSendQueue highPri params streamId offset fin payload with
    | .error _ => c
    | .ok (s, _) => c.onQueue fun _ => s

end SendCtl

/-! ## Events -/

/-- One event of the send control. -/
inductive CtlEvent where
  | queue (ev : SendEvent)
  | openStream (streamId : StreamId)
  | destroyStream (streamId : StreamId)
  | datagram (env : DatagramEnv) (data : Bytes)
  | datagrams (messages : List (DatagramEnv × Bytes))
  | callback (isOpen : Bool)
  | dropPackets

namespace SendCtl

/-- An event of the queue, with what it counts. -/
def queueStep (c : SendCtl) : SendEvent → SendCtl
  | .control params f notify bufSize handshakeDone =>
    c.writeControl params f notify bufSize handshakeDone
  | .stream highPri params streamId offset fin payload =>
    c.writeStream highPri params streamId offset fin payload
  | .ack params ackDelay ackDelayExponent =>
    c.onQueue fun s => writeAckToPackets s params ackDelay ackDelayExponent
  | .schedule t => c.schedulePacket t
  | .clear t => c.pathSendBufferClear t
  | .send t outcome srtt now => c.sendPacket t outcome srtt now
  | .numberUnsent t n now => c.onQueue fun s => numberUnsent s t n now
  | .pathChallenge params data now => c.sendPathChallenge params data now
  | .buff1rtt => c.onQueue buff1rttPackets
  | .writeBuffed1rtt => c.onQueue writeBuffed1rttPackets
  | .ackReceived info th => c.onAckReceived info th
  | .lossTimeout th => c.detectLost th
  | .probeTimeout params => c.sendOneOrTwoAckElicitPkts params
  | .dropStream streamId => c.dropStreamFramePackets streamId
  | .recvPacket pktNum =>
    c.onQueue fun s => { s with recvRecord := (recvRecordAdd s.recvRecord pktNum).1 }

/-- One step. -/
def step (c : SendCtl) : CtlEvent → SendCtl
  | .queue ev => c.queueStep ev
  | .openStream streamId => c.openStream streamId
  | .destroyStream streamId => c.destroyStream streamId
  | .datagram env data => (c.datagramSubmit env data).1
  | .datagrams messages => (c.datagramSendMultiple messages).1
  | .callback isOpen => c.processCallback isOpen
  | .dropPackets => c.dropPackets

/-- A run. -/
def run (c : SendCtl) (evs : List CtlEvent) : SendCtl := evs.foldl step c

end SendCtl

/-! ## Without the counters -/

namespace SendCtl

variable (c : SendCtl)

@[simp] theorem onQueue_toSendQueue (f : SendQueue → SendQueue) :
    (c.onQueue f).toSendQueue = f c.toSendQueue := rfl

@[simp] theorem addHistory_toSendQueue (entry : CtlEntry) :
    (c.addHistory entry).toSendQueue = c.toSendQueue := rfl

@[simp] theorem insertFree_toSendQueue (id : PktId) : (c.insertFree id).toSendQueue = c.toSendQueue := rfl

@[simp] theorem checkNext_toSendQueue (ids : List PktId) :
    (c.checkNext ids).toSendQueue = c.toSendQueue := rfl

@[simp] theorem increaseInflight_toSendQueue (po : PacketOut) :
    (c.increaseInflight po).toSendQueue = c.toSendQueue := by
  unfold increaseInflight
  split_ifs <;> rfl

@[simp] theorem uncountInflight_toSendQueue (po : PacketOut) :
    (c.uncountInflight po).toSendQueue = c.toSendQueue := by
  unfold uncountInflight
  split_ifs <;> rfl

@[simp] theorem uncountSchedule_toSendQueue (po : PacketOut) :
    (c.uncountSchedule po).toSendQueue = c.toSendQueue := by
  unfold uncountSchedule
  split_ifs <;> rfl

@[simp] theorem recordFeedback_toSendQueue (id : PktId) (lost : Bool) :
    (c.recordFeedback id lost).toSendQueue = c.toSendQueue := by
  unfold recordFeedback
  split <;> rfl

/-- A loop over the slots of a packet leaves the queue alone if each round does. -/
theorem foldl_toSendQueue {α : Type} {f : SendCtl → α → SendCtl}
    (hf : ∀ c a, (f c a).toSendQueue = c.toSendQueue) (l : List α) (c : SendCtl) :
    (l.foldl f c).toSendQueue = c.toSendQueue := by
  induction l generalizing c with
  | nil => rfl
  | cons a l ih => rw [List.foldl_cons, ih, hf]

@[simp] theorem decreaseUnackedStreamRef_toSendQueue (id : PktId) :
    (c.decreaseUnackedStreamRef id).toSendQueue = c.toSendQueue := by
  unfold decreaseUnackedStreamRef
  split_ifs
  · refine foldl_toSendQueue (fun c slot => ?_) _ c
    unfold slotAcked
    split
    · rfl
    · dsimp only
      split_ifs <;> rfl
  · rfl

@[simp] theorem onResetStreamAcked_toSendQueue (po : PacketOut) :
    (c.onResetStreamAcked po).toSendQueue = c.toSendQueue := by
  unfold onResetStreamAcked
  split_ifs
  · refine foldl_toSendQueue (fun c slot => ?_) _ c
    unfold slotResetAcked
    split
    · rfl
    · split_ifs <;> rfl
  · rfl

@[simp] theorem onPacketAcked_toSendQueue (id : PktId) :
    (c.onPacketAcked id).toSendQueue = Rquic.onPacketAcked c.toSendQueue id := by
  simp [onPacketAcked, markAcked]

@[simp] theorem leaveList_toSendQueue (id : PktId) (path : Bool) :
    (c.leaveList id path).toSendQueue = Rquic.leaveList c.toSendQueue id path := by
  unfold leaveList Rquic.leaveList
  split_ifs <;> rfl

@[simp] theorem releaseOrigin_toSendQueue (origin : PktId) :
    (c.releaseOrigin origin).toSendQueue = Rquic.releaseOrigin c.toSendQueue origin := by
  unfold releaseOrigin Rquic.releaseOrigin
  split_ifs <;> rfl

@[simp] theorem maybeRemoveUnacked_toSendQueue (id : PktId) (path : Bool) :
    (c.maybeRemoveUnacked id path).toSendQueue = Rquic.maybeRemoveUnacked c.toSendQueue id path := by
  unfold maybeRemoveUnacked Rquic.maybeRemoveUnacked
  cases (c.pkts id).poOrigin with
  | none =>
      dsimp only
      split_ifs
      · rfl
      · simp
  | some origin => simp

theorem indirectlyAckOrDropPo_map (id : PktId) :
    (c.indirectlyAckOrDropPo id).map SendCtl.toSendQueue =
      Rquic.indirectlyAckOrDropPo c.toSendQueue id := by
  unfold indirectlyAckOrDropPo Rquic.indirectlyAckOrDropPo
  split_ifs <;> simp

theorem schedulePacket_toSendQueue (t : SendType) :
    (c.schedulePacket t).toSendQueue = Rquic.schedulePacket c.toSendQueue t := by
  unfold schedulePacket
  split
  · rename_i h
    unfold Rquic.schedulePacket
    rw [h]
  · rfl

@[simp] theorem transmit_toSendQueue (id : PktId) (srtt now : ℕ) :
    (c.transmit id srtt now).toSendQueue = Rquic.transmit c.toSendQueue id srtt now := by
  unfold transmit insertUnacked Rquic.transmit
  split_ifs with h
  · rfl
  · exact (if_neg h).symm

theorem sendPacket_toSendQueue (t : SendType) (outcome : SendOutcome) (srtt now : ℕ) :
    (c.sendPacket t outcome srtt now).toSendQueue =
      Rquic.sendPacket c.toSendQueue t outcome srtt now := by
  unfold sendPacket Rquic.sendPacket
  cases c.lists (.scheduleBuf t) with
  | nil => rfl
  | cons id ids =>
      dsimp only
      rw [← c.indirectlyAckOrDropPo_map id]
      cases c.indirectlyAckOrDropPo id with
      | some c' => rfl
      | none => cases outcome <;> simp

theorem sendPathChallenge_toSendQueue (params : PktParams) (data : Bytes) (now : ℕ) :
    (c.sendPathChallenge params data now).toSendQueue =
      Rquic.sendPathChallenge c.toSendQueue params data now := by
  unfold sendPathChallenge
  split
  · rename_i h
    unfold Rquic.sendPathChallenge
    rw [h]
  · rfl

@[simp] theorem copyTo_toSendQueue (p : Place) (src : PktId) :
    (c.copyTo p src).toSendQueue = Rquic.copyTo c.toSendQueue p src := by
  unfold copyTo
  split
  · rename_i h
    unfold Rquic.copyTo
    rw [h]
  · rfl

@[simp] theorem decreaseInflight_toSendQueue (id : PktId) :
    (c.decreaseInflight id).toSendQueue = c.toSendQueue.modify id PacketOut.decreaseInflight := rfl

@[simp] theorem removeUnacked_toSendQueue (id : PktId) :
    (c.removeUnacked id).toSendQueue = Rquic.removeUnacked c.toSendQueue id := rfl

@[simp] theorem onPacketLost_toSendQueue (id : PktId) :
    (c.onPacketLost id).toSendQueue = Rquic.onPacketLost c.toSendQueue id := by
  unfold onPacketLost Rquic.onPacketLost copyToLost
  split_ifs
  · simp
  · simp
  · rfl

theorem detectLostWalk_toSendQueue (largestAcked : ℕ) (th : LossThresholds) (ids : List PktId) :
    (detectLostWalk largestAcked th ids c).toSendQueue =
      Rquic.detectLostWalk largestAcked th ids c.toSendQueue := by
  induction ids generalizing c with
  | nil => rfl
  | cons id ids ih =>
      unfold detectLostWalk Rquic.detectLostWalk
      rw [← c.indirectlyAckOrDropPo_map id]
      cases c.indirectlyAckOrDropPo id with
      | some c' => exact ih _
      | none =>
          dsimp only [Option.map_none]
          split_ifs
          · rfl
          · rw [ih, checkNext_toSendQueue, onPacketLost_toSendQueue]
          · exact ih c

@[simp] theorem detectLost_toSendQueue (th : LossThresholds) :
    (c.detectLost th).toSendQueue = Rquic.detectLost c.toSendQueue th := by
  unfold detectLost Rquic.detectLost
  cases c.largestAcked with
  | none => rfl
  | some largestAcked => exact c.detectLostWalk_toSendQueue _ th _

@[simp] theorem sendProbePkt_toSendQueue (id : PktId) :
    (c.sendProbePkt id).toSendQueue = Rquic.sendProbePkt c.toSendQueue id := by
  unfold sendProbePkt Rquic.sendProbePkt copyToProbe
  split_ifs
  · rfl
  · simp

theorem probeWalk_toSendQueue (n : ℕ) (last : Option PktId) (ids : List PktId) :
    ((probeWalk n last ids c).1, (probeWalk n last ids c).2.1, (probeWalk n last ids c).2.2.toSendQueue) =
      Rquic.probeWalk n last ids c.toSendQueue := by
  induction ids generalizing n last c with
  | nil => cases n <;> rfl
  | cons id ids ih =>
      cases n with
      | zero => rfl
      | succ n =>
          unfold probeWalk Rquic.probeWalk
          rw [← c.indirectlyAckOrDropPo_map id]
          cases c.indirectlyAckOrDropPo id with
          | some c' => exact ih _ _ _
          | none =>
              dsimp only [Option.map_none]
              split_ifs
              · rw [ih, checkNext_toSendQueue, sendProbePkt_toSendQueue]
              · exact ih _ _ _

theorem iterate_toSendQueue {f : SendCtl → SendCtl} {g : SendQueue → SendQueue}
    (h : ∀ c, (f c).toSendQueue = g c.toSendQueue) (n : ℕ) (c : SendCtl) :
    (f^[n] c).toSendQueue = g^[n] c.toSendQueue := by
  induction n generalizing c with
  | zero => rfl
  | succ n ih => rw [Function.iterate_succ_apply, Function.iterate_succ_apply, ih, h]

theorem sendOneOrTwoAckElicitPkts_toSendQueue (params : PktParams) :
    (c.sendOneOrTwoAckElicitPkts params).toSendQueue =
      Rquic.sendOneOrTwoAckElicitPkts c.toSendQueue params := by
  have hwalk := c.probeWalk_toSendQueue ptoPktCntMax none (c.lists .unackedPackets)
  unfold sendOneOrTwoAckElicitPkts Rquic.sendOneOrTwoAckElicitPkts
  rw [← hwalk]
  rcases probeWalk ptoPktCntMax none (c.lists .unackedPackets) c with ⟨n, _ | last, c'⟩
  · exact iterate_toSendQueue (fun _ => rfl) n c'
  · exact iterate_toSendQueue (fun c => c.sendProbePkt_toSendQueue last) n c'

theorem ackPacket_walk (w : AckRun) (id : PktId) : (w.ackPacket id).walk = w.walk.ackPacket id := by
  have hsndq : (w.ackPacket id).ctl.toSendQueue = (w.walk.ackPacket id).sndq := by
    simp [AckRun.walk, AckRun.ackPacket, AckWalk.ackPacket]
  unfold AckRun.walk
  rw [hsndq]
  rfl

theorem ackWalk_walk (frameLargestAck : ℕ) (ranges : List PktnoRange) (ids : List PktId) (w : AckRun) :
    (ackWalk frameLargestAck ranges ids w).walk = Rquic.ackWalk frameLargestAck ranges ids w.walk := by
  induction ids generalizing ranges w with
  | nil => cases ranges <;> rfl
  | cons id ids ih =>
      unfold ackWalk Rquic.ackWalk
      have hpkts : w.walk.sndq = w.ctl.toSendQueue := rfl
      simp only [hpkts]
      by_cases hlargest : frameLargestAck < (w.ctl.pkts id).pktNum
      · rw [if_pos hlargest, if_pos hlargest]
      rw [if_neg hlargest, if_neg hlargest]
      by_cases hsent : w.ctl.largestSent < (w.ctl.pkts id).pktNum
      · rw [if_pos hsent, if_pos hsent]
        rfl
      rw [if_neg hsent, if_neg hsent]
      cases seekRange (w.ctl.pkts id).pktNum ranges with
      | nil => rfl
      | cons r rs =>
          dsimp only
          by_cases hlow : r.low ≤ (w.ctl.pkts id).pktNum
          · rw [if_pos hlow, if_pos hlow, ih]
            exact congrArg _ (ackPacket_walk w id)
          · rw [if_neg hlow, if_neg hlow]
            exact ih _ w

theorem ackProcess_walk (info : AckInfo) :
    (c.ackProcess info).walk = Rquic.ackProcess c.toSendQueue info := by
  unfold ackProcess Rquic.ackProcess
  cases info.ranges.head? with
  | none => rfl
  | some first =>
      dsimp only
      rw [ackWalk_walk]
      congr 1
      unfold ackSentOnAck
      split <;> rfl

theorem onAckReceived_toSendQueue (info : AckInfo) (th : LossThresholds) :
    (c.onAckReceived info th).toSendQueue = (Rquic.onAckReceived c.toSendQueue info th).1 := by
  have hwalk := c.ackProcess_walk info
  unfold onAckReceived Rquic.onAckReceived
  rw [← hwalk]
  dsimp only [AckRun.walk]
  split_ifs <;> simp

theorem writeResetStream_toSendQueue (params : PktParams) (streamId errCode finalSize : ℕ)
    (notify : Bool) (bufSize : ℕ) (handshakeDone : Bool) :
    (c.writeResetStream params streamId errCode finalSize notify bufSize handshakeDone).toSendQueue =
        c.toSendQueue ∨
      (c.writeResetStream params streamId errCode finalSize notify bufSize handshakeDone).toSendQueue =
        writeControlFrame c.toSendQueue params (.resetStream streamId errCode finalSize) notify bufSize
          handshakeDone := by
  unfold writeResetStream
  dsimp only
  split
  · exact .inl rfl
  · split
    · exact .inl rfl
    · exact .inr rfl

theorem writeStream_toSendQueue (highPri : Bool) (params : PktParams) (streamId offset : ℕ) (fin : Bool)
    (payload : Bytes) :
    (c.writeStream highPri params streamId offset fin payload).toSendQueue = c.toSendQueue ∨
      (c.writeStream highPri params streamId offset fin payload).toSendQueue =
        c.toSendQueue.step (.stream highPri params streamId offset fin payload) := by
  unfold writeStream SendQueue.step
  split_ifs
  · exact .inl rfl
  · right
    dsimp only
    cases writeStreamFrame c.toSendQueue highPri params streamId offset fin payload <;> rfl

/-- **Without the counters, an event is one of the send queue.** -/
theorem queueStep_toSendQueue (ev : SendEvent) :
    (c.queueStep ev).toSendQueue = c.toSendQueue ∨
      (c.queueStep ev).toSendQueue = c.toSendQueue.step ev := by
  cases ev with
  | control params f notify bufSize handshakeDone =>
      cases f with
      | datagram data => exact .inl rfl
      | resetStream streamId errCode finalSize =>
          exact c.writeResetStream_toSendQueue params streamId errCode finalSize notify bufSize
            handshakeDone
      | _ => exact .inr rfl
  | stream highPri params streamId offset fin payload =>
      exact c.writeStream_toSendQueue highPri params streamId offset fin payload
  | schedule t => exact .inr (c.schedulePacket_toSendQueue t)
  | send t outcome srtt now => exact .inr (c.sendPacket_toSendQueue t outcome srtt now)
  | pathChallenge params data now => exact .inr (c.sendPathChallenge_toSendQueue params data now)
  | ackReceived info th => exact .inr (c.onAckReceived_toSendQueue info th)
  | lossTimeout th => exact .inr (c.detectLost_toSendQueue th)
  | probeTimeout params => exact .inr (c.sendOneOrTwoAckElicitPkts_toSendQueue params)
  | _ => exact .inr rfl

end SendCtl

end Rquic

import Rquic.SendCtl.Sample

set_option autoImplicit false

/-!
# What the events do to the samples

* `SendCtl.step_silent`, `LossCtl.onAckReceived_silent`, ...: the events that send nothing, with their
  counters and their clock.
* **`SampleCtl.step_toLossCtl`**: without the sampler, an event is one of the send control.
* `TakesOver`: packets keep what they have recorded, and copies take it over.
* `SendCtl.newlyAcked_subset`: an ACK frame acknowledges unacknowledged packets.
-/

namespace Rquic

/-! ## Events that send nothing -/

section Silence

theorem SendCtl.datagramSubmit_silent (c : SendCtl) (env : DatagramEnv) (data : Bytes) :
    Silent c.toSendQueue (c.datagramSubmit env data).1.toSendQueue := by
  unfold SendCtl.datagramSubmit
  split_ifs <;> try exact .refl _
  split
  · exact .refl _
  · exact .insertNew (by exact nofun) _

theorem SendCtl.datagramSendMultiple_silent (c : SendCtl) (messages : List (DatagramEnv × Bytes)) :
    Silent c.toSendQueue (c.datagramSendMultiple messages).1.toSendQueue := by
  induction messages generalizing c with
  | nil => exact .refl _
  | cons m messages ih =>
      obtain ⟨env, data⟩ := m
      have hone := c.datagramSubmit_silent env data
      unfold SendCtl.datagramSendMultiple
      generalize c.datagramSubmit env data = r at hone ⊢
      obtain ⟨c', e | _⟩ := r
      · exact hone
      · exact hone.trans (ih c')

theorem SendCtl.step_silent (c : SendCtl) {ev : CtlEvent} (h : ev.timed = false) :
    Silent c.toSendQueue (c.step ev).toSendQueue := by
  cases ev with
  | queue ev =>
      have hev : ∀ t outcome srtt now, ev ≠ .send t outcome srtt now := by
        rintro t outcome srtt now rfl
        cases h
      rcases c.queueStep_toSendQueue ev with heq | heq
      · rw [SendCtl.step, heq]
        exact .refl _
      · rw [SendCtl.step, heq]
        exact Rquic.step_silent c.toSendQueue ev hev
  | openStream streamId =>
      rw [SendCtl.step, SendCtl.openStream]
      split_ifs <;> exact .refl _
  | destroyStream streamId => exact .refl _
  | datagram env data => exact c.datagramSubmit_silent env data
  | datagrams messages => exact c.datagramSendMultiple_silent messages
  | callback isOpen =>
      rw [SendCtl.step, SendCtl.processCallback]
      split_ifs
      · exact .refl _
      · split <;> exact .refl _
  | dropPackets => cases h

variable (c : LossCtl) (env : LossEnv)

theorem SendCtl.ackProcess_silent (c : SendCtl) (info : AckInfo) :
    Silent c.toSendQueue (c.ackProcess info).ctl.toSendQueue := by
  have hwalk : (c.ackProcess info).ctl.toSendQueue = (Rquic.ackProcess c.toSendQueue info).sndq :=
    congrArg AckWalk.sndq (c.ackProcess_walk info)
  rw [hwalk]
  exact Rquic.ackProcess_silent c.toSendQueue info

theorem LossCtl.detectLost_silent (now : ℕ) :
    Silent c.toSendQueue (c.detectLost env now).toSendQueue := by
  have hlost := Rquic.detectLost_silent c.toSendQueue (c.thresholds now)
  rw [← SendCtl.detectLost_toSendQueue] at hlost
  obtain ⟨lossTime, -, heq | heq⟩ := c.detectLost_cases env now <;> rw [heq] <;> exact hlost

theorem LossCtl.beforeLosses_toSendCtl (info : AckInfo) (ackRecvTime clock : ℕ) :
    (c.beforeLosses env info ackRecvTime clock).toSendCtl = (c.toSendCtl.ackProcess info).ctl := by
  unfold LossCtl.beforeLosses
  rw [LossCtl.adaptThresholds_body, LossCtl.sampleRtt_body]

/-- The state in which losses are looked for comes after the walk and before the loss timer. -/
theorem LossCtl.onAckReceived_eq (info : AckInfo) (ackRecvTime clock : ℕ) :
    (c.onAckReceived env info ackRecvTime clock).1 =
      if (c.toSendCtl.ackProcess info).err.isSome ∨ (c.toSendCtl.ackProcess info).hasAcked = false then
        { c with toSendCtl := (c.toSendCtl.ackProcess info).ctl, largestAckedSentTime := c.ackSentTime info }
      else
        (c.beforeLosses env info ackRecvTime clock).finishAck env (c.toSendCtl.ackProcess info).needDelRecord
          ackRecvTime clock := by
  unfold LossCtl.onAckReceived
  dsimp only
  split_ifs <;> rfl

theorem LossCtl.finishAck_silent (needDelRecord : Bool) (ackRecvTime clock : ℕ) :
    Silent c.toSendQueue (c.finishAck env needDelRecord ackRecvTime clock).toSendQueue := by
  have hlost := c.detectLost_silent env ackRecvTime
  unfold LossCtl.finishAck
  rw [LossCtl.setLossDetectionTimer_toSendCtl]
  cases needDelRecord with
  | false => exact hlost
  | true => exact hlost.trans (recvRecord_silent _ _)

theorem LossCtl.onAckReceived_silent (info : AckInfo) (ackRecvTime clock : ℕ) :
    Silent c.toSendQueue (c.onAckReceived env info ackRecvTime clock).1.toSendQueue := by
  have hack := c.toSendCtl.ackProcess_silent info
  rw [LossCtl.onAckReceived_eq]
  split_ifs
  · exact hack
  · rw [← c.beforeLosses_toSendCtl env info ackRecvTime clock] at hack
    exact hack.trans (LossCtl.finishAck_silent _ env _ ackRecvTime clock)

theorem LossCtl.timerExpire_silent (params : PktParams) (now clock : ℕ) :
    Silent c.toSendQueue (c.timerExpire env params now clock).toSendQueue := by
  have hprobes := sendOneOrTwoAckElicitPkts_silent c.toSendQueue params
  rw [← SendCtl.sendOneOrTwoAckElicitPkts_toSendQueue] at hprobes
  have htimeout : Silent c.toSendQueue (c.onLossDetectionTimeout env params now clock).toSendQueue := by
    unfold LossCtl.onLossDetectionTimeout
    split_ifs <;> rw [LossCtl.setLossDetectionTimer_toSendCtl]
    · exact c.detectLost_silent env now
    · exact hprobes
    · exact .refl _
  unfold LossCtl.timerExpire
  dsimp only
  split_ifs
  · exact htimeout
  · exact htimeout
  · exact .refl _

theorem LossCtl.sendPacket_toSendQueue (t : SendType) (outcome : SendOutcome) (now clock : ℕ) :
    (c.sendPacket env t outcome now clock).toSendQueue =
      Rquic.sendPacket c.toSendQueue t outcome c.srtt now := by
  rw [← SendCtl.sendPacket_toSendQueue]
  unfold LossCtl.sendPacket
  dsimp only
  split
  · rfl
  · split_ifs
    · rw [LossCtl.setLossDetectionTimer_toSendCtl]
      rfl
    · rfl

end Silence

/-! ## Without the sampler -/

namespace SampleCtl

variable {c : SampleCtl}

theorem updateSample_toLossCtl (env : LossEnv) (now : ℕ) (id : PktId) :
    (c.updateSample env now id).toLossCtl = c.toLossCtl := by
  unfold updateSample
  dsimp only
  split_ifs <;> rfl

theorem sampleAcked_toLossCtl (env : LossEnv) (acked : List PktId) (ackRecvTime : ℕ) :
    (c.sampleAcked env acked ackRecvTime).toLossCtl = c.toLossCtl := by
  unfold sampleAcked
  split
  · rfl
  · rename_i id ids
    generalize hc : { c with
      sampler := {}, priorDelivered := c.delivered, priorBytesInFlight := c.bytesInFlight } = c'
    have hsame : c'.toLossCtl = c.toLossCtl := by rw [← hc]
    rw [← hsame]
    clear hc hsame
    generalize id :: ids = l
    induction l generalizing c' with
    | nil => rfl
    | cons id l ih => rw [List.foldl_cons, ih, updateSample_toLossCtl]

theorem finishSample_toLossCtl (ackRecvTime : ℕ) :
    (c.finishSample ackRecvTime).toLossCtl = c.toLossCtl := by
  unfold finishSample generateSample
  dsimp only
  split_ifs <;> rfl

/-- **Without the sampler, an event is one of the send control.** -/
theorem step_toLossCtl (c : SampleCtl) (ev : SampleEvent) :
    (c.step ev).toLossCtl = match ev with
      | .loss ev => c.toLossCtl.step ev
      | .checkAppLimited _ | .markAppLimited => c.toLossCtl := by
  cases ev with
  | loss ev =>
      cases ev with
      | ctl ev h => rfl
      | send env t outcome now clock => rfl
      | ackReceived env info ackRecvTime clock =>
          change (c.onAckReceived env info ackRecvTime clock).toLossCtl = _
          unfold onAckReceived
          dsimp only
          split_ifs
          · rfl
          · exact finishSample_toLossCtl ackRecvTime
      | expire env params now clock =>
          change (c.timerExpire env params now clock).toLossCtl = _
          unfold timerExpire
          dsimp only
          split_ifs <;> rfl
  | checkAppLimited notCwndLimited =>
      change (c.sampleCheckAppLimited notCwndLimited).toLossCtl = _
      unfold sampleCheckAppLimited
      split_ifs <;> rfl
  | markAppLimited => rfl

end SampleCtl

/-! ## What copies take over -/

/-- The packets below `n` keep what they have recorded, and the others take something over. -/
structure TakesOver (n : PktId) (f g : PktId → PktSample) : Prop where
  old : ∀ id < n, g id = f id
  source : ∀ id, ∃ src, g id = f src

namespace TakesOver

variable {n m : PktId} {f g h : PktId → PktSample}

theorem refl (n : PktId) (f : PktId → PktSample) : TakesOver n f f :=
  ⟨fun _ _ => rfl, fun id => ⟨id, rfl⟩⟩

theorem trans (hfg : TakesOver n f g) (hgh : TakesOver m g h) (hle : n ≤ m) : TakesOver n f h where
  old id hid := by rw [hgh.old id (hid.trans_le hle), hfg.old id hid]
  source id := by
    obtain ⟨src, hsrc⟩ := hgh.source id
    obtain ⟨src', hsrc'⟩ := hfg.source src
    exact ⟨src', hsrc.trans hsrc'⟩

theorem mono (hfg : TakesOver m f g) (hle : n ≤ m) : TakesOver n f g := (refl n f).trans hfg hle

end TakesOver

namespace SampleCtl

theorem copySample_takesOver (c : SendCtl) (src : PktId) (samples : PktId → PktSample) :
    TakesOver c.nextId samples (copySample c src samples) := by
  unfold copySample
  split
  · exact .refl _ _
  · refine ⟨fun id hid => Function.update_of_ne hid.ne .., fun id => ?_⟩
    by_cases hid : id = c.nextId
    · exact ⟨src, by rw [hid, Function.update_self]⟩
    · exact ⟨id, Function.update_of_ne hid ..⟩

theorem loseSample_takesOver (c : SendCtl) (id : PktId) (r : (PktId → PktSample) × ℕ) :
    TakesOver c.nextId r.1 (loseSample c id r).1 := by
  have hcopy := copySample_takesOver ((c.recordFeedback id true).decreaseInflight id) id r.1
  rw [SendCtl.decreaseInflight_toSendQueue, SendCtl.recordFeedback_toSendQueue] at hcopy
  unfold loseSample
  split_ifs
  · exact hcopy
  · exact .refl _ _
  · exact .refl _ _

theorem probeSample_takesOver (c : SendCtl) (id : PktId) (samples : PktId → PktSample) :
    TakesOver c.nextId samples (probeSample c id samples) := by
  unfold probeSample
  split_ifs
  · exact .refl _ _
  · exact copySample_takesOver (c.decreaseInflight id) id samples

theorem indirectlyAckOrDropPo_nextId {c c' : SendCtl} {id : PktId}
    (h : c.indirectlyAckOrDropPo id = some c') : c.nextId ≤ c'.nextId :=
  (indirectlyAckOrDropPo_silent (SendCtl.indirectlyAckOrDropPo_some h)).nextId

theorem sampleLossWalk_takesOver (largestAcked : ℕ) (th : LossThresholds) (ids : List PktId) (c : SendCtl)
    (r : (PktId → PktSample) × ℕ) :
    TakesOver c.nextId r.1 (sampleLossWalk largestAcked th ids c r).1 := by
  induction ids generalizing c r with
  | nil => exact .refl _ _
  | cons id ids ih =>
      unfold sampleLossWalk
      split
      · rename_i c' hc'
        have hle := indirectlyAckOrDropPo_nextId hc'
        exact (ih (c'.checkNext ids) r).mono hle
      · split_ifs
        · exact .refl _ _
        · have hlost := onPacketLost_silent c.toSendQueue id
          rw [← SendCtl.onPacketLost_toSendQueue] at hlost
          exact (loseSample_takesOver c id r).trans (ih ((c.onPacketLost id).checkNext ids) _) hlost.nextId
        · exact ih c r

theorem sendProbePkt_nextId (c : SendCtl) (id : PktId) : c.nextId ≤ (c.sendProbePkt id).nextId := by
  have hprobe := sendProbePkt_silent c.toSendQueue id
  rw [← SendCtl.sendProbePkt_toSendQueue] at hprobe
  exact hprobe.nextId

theorem sampleProbeWalk_takesOver (n : ℕ) (ids : List PktId) (c : SendCtl) (samples : PktId → PktSample) :
    TakesOver c.nextId samples (sampleProbeWalk n ids c samples) := by
  induction ids generalizing n c samples with
  | nil => cases n <;> exact .refl _ _
  | cons id ids ih =>
      cases n with
      | zero => exact .refl _ _
      | succ n =>
          unfold sampleProbeWalk
          split
          · rename_i c' hc'
            have hle := indirectlyAckOrDropPo_nextId hc'
            exact (ih _ (c'.checkNext ids) samples).mono hle
          · split_ifs
            · exact (probeSample_takesOver c id samples).trans
                (ih n ((c.sendProbePkt id).checkNext ids) _) (sendProbePkt_nextId c id)
            · exact ih _ c samples

theorem probeAgain_takesOver (last : PktId) (n : ℕ) (r : SendCtl × (PktId → PktSample)) :
    TakesOver r.1.nextId r.2 ((probeAgain last)^[n] r).2 := by
  induction n generalizing r with
  | zero => exact .refl _ _
  | succ n ih =>
      rw [Function.iterate_succ_apply]
      exact (probeSample_takesOver r.1 last r.2).trans (ih (probeAgain last r)) (sendProbePkt_nextId r.1 last)

theorem sampleProbes_takesOver (c : SendCtl) (samples : PktId → PktSample) :
    TakesOver c.nextId samples (sampleProbes c samples) := by
  have hfirst := sampleProbeWalk_takesOver ptoPktCntMax (c.lists .unackedPackets) c samples
  have hnext := (probeWalk_silent ptoPktCntMax none (c.lists .unackedPackets) c.toSendQueue).nextId
  rw [← c.probeWalk_toSendQueue ptoPktCntMax none (c.lists .unackedPackets)] at hnext
  unfold sampleProbes
  dsimp only
  split
  · rename_i n last c' heq
    rw [heq] at hnext
    exact hfirst.trans (probeAgain_takesOver last n (c', _)) hnext
  · exact hfirst

theorem sampleLost_eq (c : SampleCtl) (l : LossCtl) (now : ℕ) : ∃ samples number lostN loss,
    TakesOver l.nextId c.samples samples ∧
      (number = c.lostPktsNumber ∧ lostN = 0 ∨ number = u32Add c.lostPktsNumber lostN) ∧
      c.sampleLost l now = { c with
        samples := samples
        lostPktsNumber := number
        lostTotal := c.lostTotal + lostN
        sampler := { c.sampler with loss := loss } } := by
  unfold sampleLost
  split
  · exact ⟨c.samples, c.lostPktsNumber, 0, 0, .refl _ _, .inl ⟨rfl, rfl⟩, rfl⟩
  · rename_i largestAcked hlargest
    have hwalk := sampleLossWalk_takesOver largestAcked (l.thresholds now) (l.lists .unackedPackets)
      l.toSendCtl (c.samples, 0)
    generalize sampleLossWalk largestAcked (l.thresholds now) (l.lists .unackedPackets) l.toSendCtl
      (c.samples, 0) = r at hwalk ⊢
    exact ⟨r.1, _, r.2, _, hwalk, .inr rfl, rfl⟩

theorem sampleLost_toLossCtl (c : SampleCtl) (l : LossCtl) (now : ℕ) :
    (c.sampleLost l now).toLossCtl = c.toLossCtl := by
  obtain ⟨samples, number, lostN, loss, -, -, heq⟩ := c.sampleLost_eq l now
  rw [heq]

end SampleCtl

/-! ## The packets of an ACK frame -/

theorem SendCtl.ackWalk_ackedIds (frameLargestAck : ℕ) (ranges : List PktnoRange) (ids : List PktId)
    (w : AckRun) : ∃ acked ⊆ ids,
      (SendCtl.ackWalk frameLargestAck ranges ids w).ctl.ackedIds = w.ctl.ackedIds ++ acked := by
  have hstop : ∀ w : AckRun, ∃ acked ⊆ ids, w.ctl.ackedIds = w.ctl.ackedIds ++ acked :=
    fun w => ⟨[], List.nil_subset _, (List.append_nil _).symm⟩
  induction ids generalizing ranges w with
  | nil => exact hstop w
  | cons id ids ih =>
      have ih := fun ranges w => ih ranges w fun w => ⟨[], List.nil_subset _, (List.append_nil _).symm⟩
      unfold SendCtl.ackWalk
      dsimp only
      split_ifs
      · exact hstop w
      · exact hstop w
      · split
        · exact hstop w
        · rename_i r rs hseek
          split_ifs
          · obtain ⟨acked, hsub, hacked⟩ :=
              ih (r :: rs) { w.ackPacket id with ctl := (w.ackPacket id).ctl.checkNext ids }
            have hone := congrArg Prod.fst (SendCtl.foldl_trace [id] w)
            refine ⟨id :: acked, List.cons_subset_cons id hsub, hacked.trans ?_⟩
            rw [List.append_cons]
            exact congrArg (· ++ acked) hone
          · obtain ⟨acked, hsub, hacked⟩ := ih (r :: rs) w
            exact ⟨acked, List.subset_cons_of_subset id hsub, hacked⟩

theorem SendCtl.newlyAcked_subset (c : SendCtl) (info : AckInfo) :
    LossCtl.newlyAcked c (c.ackProcess info).ctl ⊆ c.lists .unackedPackets := by
  unfold LossCtl.newlyAcked SendCtl.ackProcess
  split
  · rw [List.drop_length]
    exact List.nil_subset _
  · rename_i first hfirst
    obtain ⟨acked, hsub, hacked⟩ := SendCtl.ackWalk_ackedIds first.high info.ranges.reverse
      (c.lists .unackedPackets)
      { ctl := c.onQueue fun _ => (ackSentOnAck c.toSendQueue info).sndq
        hasAcked := (ackSentOnAck c.toSendQueue info).hasAcked
        needDelRecord := (ackSentOnAck c.toSendQueue info).needDelRecord }
    have hdrop : (c.ackedIds ++ acked).drop c.ackedIds.length = acked := List.drop_left
    rw [← hdrop] at hsub
    dsimp only at hacked ⊢
    rw [hacked]
    exact hsub

/-! ## Packets that are sent -/

/-- A packet that is sent records the counters, and its time when it is alone in flight. -/
theorem SampleCtl.sendPacket_cases (c : SampleCtl) (env : LossEnv) (t : SendType) (outcome : SendOutcome)
    (now clock : ℕ) {l : LossCtl} (hl : c.toLossCtl.sendPacket env t outcome now clock = l) :
    (Silent c.toSendQueue l.toSendQueue ∧
        c.sendPacket env t outcome now clock = { c with toLossCtl := l }) ∨
      ∃ (id : PktId) (time first : ℕ) (p : PktSample),
        Transmits id now c.toSendQueue l.toSendQueue ∧
        (time = now ∧ first = now ∨ time = c.deliveredTime ∧ first = c.firstSentTime) ∧
        (p.delivered = c.delivered ∧ p.lost = c.lostPktsNumber) ∧
        (p.deliveredTime = time ∧ p.firstSentTime = first) ∧
        c.sendPacket env t outcome now clock =
          { c with
            toLossCtl := l
            deliveredTime := time
            firstSentTime := first
            samples := Function.update c.samples id p
            sentIds := id :: c.sentIds } := by
  have hqueue := c.toLossCtl.sendPacket_toSendQueue env t outcome now clock
  rw [hl] at hqueue
  unfold SampleCtl.sendPacket
  rw [hl]
  dsimp only
  cases hsending : c.sending t outcome with
  | none =>
      left
      rw [hqueue]
      exact ⟨sendPacket_silent hsending _ now, rfl⟩
  | some id =>
      have ht := sendPacket_transmits hsending c.srtt now
      rw [← hqueue] at ht
      right
      dsimp only
      unfold SampleCtl.sampleOnSent
      dsimp only
      split_ifs
      · exact ⟨id, now, now, _, ht, .inl ⟨rfl, rfl⟩, ⟨rfl, rfl⟩, ⟨rfl, rfl⟩, rfl⟩
      · exact ⟨id, _, _, _, ht, .inr ⟨rfl, rfl⟩, ⟨rfl, rfl⟩, ⟨rfl, rfl⟩, rfl⟩

end Rquic

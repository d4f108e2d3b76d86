import Rquic.SendQueue.Content

set_option autoImplicit false

/-!
# The packet-number space of the send queue

Most functions of the send control change packets and lists only.

* `SendQueue.space`: the queue without its packets and lists.
* `detectLost_space`, `sendOneOrTwoAckElicitPkts_space`, `writeAckToPackets_space`, ...: what leaves the
  space alone.
* **`step_trimState`**: only received packets and ACK frames change the receive record and
  `ctl_largest_acked_ack`.
* `ackProcess_recvRecord`: the walk over the unacknowledged packets leaves the record alone.
-/

namespace Rquic

/-- The queue without its packets and lists. -/
def SendQueue.space (s : SendQueue) : SendQueue :=
  { s with pkts := fun _ => {}, nextId := 0, lists := fun _ => [] }

theorem recvRecord_of_space {s s' : SendQueue} (h : s'.space = s.space) :
    s'.recvRecord = s.recvRecord := (congrArg SendQueue.recvRecord h :)

/-! ## Packets and lists -/

section

variable {s s' : SendQueue} {id : PktId}

theorem releaseOrigin_space (s : SendQueue) (origin : PktId) :
    (releaseOrigin s origin).space = s.space := by
  unfold releaseOrigin
  split_ifs <;> rfl

theorem leaveList_space (s : SendQueue) (id : PktId) (path : Bool) :
    (leaveList s id path).space = s.space := by
  unfold leaveList
  split_ifs <;> rfl

theorem maybeRemoveUnacked_space (s : SendQueue) (id : PktId) (path : Bool) :
    (maybeRemoveUnacked s id path).space = s.space := by
  unfold maybeRemoveUnacked
  split
  · split_ifs
    · rfl
    · exact leaveList_space s id path
  · rw [releaseOrigin_space, leaveList_space]

theorem onPacketAcked_space (s : SendQueue) (id : PktId) :
    (onPacketAcked s id).space = s.space := by
  unfold onPacketAcked
  split <;> rfl

theorem indirectlyAckOrDropPo_space (h : indirectlyAckOrDropPo s id = some s') :
    s'.space = s.space := by
  unfold indirectlyAckOrDropPo at h
  split_ifs at h
  all_goals
    obtain rfl := Option.some.inj h
    rw [maybeRemoveUnacked_space]
  exact onPacketAcked_space s id

theorem insertUnacked_space (s : SendQueue) (id : PktId) :
    (insertUnacked s id).space = s.space := by
  unfold insertUnacked
  split_ifs <;> rfl

theorem markRetrans_space (s : SendQueue) (t : SendType) (id : PktId) :
    (markRetrans s t id).space = s.space := by
  unfold markRetrans
  split_ifs <;> rfl

theorem copyTo_space (s : SendQueue) (p : Place) (src : PktId) :
    (copyTo s p src).space = s.space := by
  unfold copyTo
  split <;> rfl

theorem onPacketLost_space (s : SendQueue) (id : PktId) :
    (onPacketLost s id).space = s.space := by
  unfold onPacketLost copyToLost
  split_ifs
  · exact copyTo_space _ _ _
  · rfl
  · rfl

theorem detectLost_space (s : SendQueue) (th : LossThresholds) :
    (detectLost s th).space = s.space := by
  refine detectLost_induct (P := fun s₁ => s₁.space = s.space) ?_ ?_ rfl
  · intro s₁ id hid s₂ hs₂ h
    exact (indirectlyAckOrDropPo_space hs₂).trans h
  · intro s₁ id hid h
    exact (onPacketLost_space s₁ id).trans h

theorem sendProbePkt_space (s : SendQueue) (id : PktId) :
    (sendProbePkt s id).space = s.space := by
  unfold sendProbePkt copyToProbe
  split_ifs
  · rfl
  · exact copyTo_space _ _ _

theorem sendPingToProbe_space (s : SendQueue) (params : PktParams) :
    (sendPingToProbe s params).space = s.space := by
  unfold sendPingToProbe
  split <;> rfl

theorem sendOneOrTwoAckElicitPkts_space (s : SendQueue) (params : PktParams) :
    (sendOneOrTwoAckElicitPkts s params).space = s.space := by
  refine sendOneOrTwoAckElicitPkts_induct (P := fun s₁ => s₁.space = s.space) ?_ ?_ ?_ rfl
  · intro s₁ id hid s₂ hs₂ h
    exact (indirectlyAckOrDropPo_space hs₂).trans h
  · intro s₁ id hid h
    exact (sendProbePkt_space s₁ id).trans h
  · intro s₁ h
    exact (sendPingToProbe_space s₁ params).trans h

theorem writeAckToNewPacket_space (s : SendQueue) (params : PktParams)
    (ackDelay ackDelayExponent : ℕ) :
    (writeAckToNewPacket s params ackDelay ackDelayExponent).space = s.space := by
  unfold writeAckToNewPacket
  split
  · rfl
  · split <;> rfl

theorem writeAckToPackets_space (s : SendQueue) (params : PktParams)
    (ackDelay ackDelayExponent : ℕ) :
    (writeAckToPackets s params ackDelay ackDelayExponent).space = s.space := by
  have hnew := writeAckToNewPacket_space s params ackDelay ackDelayExponent
  unfold writeAckToPackets
  split_ifs
  · rfl
  · split
    · exact hnew
    · split_ifs
      · split
        · rfl
        · exact hnew
        · rfl
      · exact hnew

/-! ## The receive record and the largest acknowledged ACK -/

/-- The receive record and `ctl_largest_acked_ack`. -/
def SendQueue.trimState (s : SendQueue) : RecvRecord × ℕ := (s.recvRecord, s.largestAckedAck)

theorem trimState_of_space (h : s'.space = s.space) : s'.trimState = s.trimState :=
  (congrArg SendQueue.trimState h :)

theorem transmit_trimState (s : SendQueue) (id : PktId) (srtt now : ℕ) :
    (transmit s id srtt now).trimState = s.trimState := by
  rw [transmit, trimState_of_space (insertUnacked_space _ id)]
  rfl

theorem sendPacket_trimState (s : SendQueue) (t : SendType) (outcome : SendOutcome) (srtt now : ℕ) :
    (sendPacket s t outcome srtt now).trimState = s.trimState := by
  unfold sendPacket
  split
  · rfl
  · split
    · rename_i h
      exact trimState_of_space (indirectlyAckOrDropPo_space h)
    · cases outcome with
      | blocked => exact trimState_of_space (markRetrans_space s t _)
      | again =>
          show (markRetrans s t _).trimState = _
          exact trimState_of_space (markRetrans_space s t _)
      | sent => exact (transmit_trimState _ _ srtt now).trans (trimState_of_space (markRetrans_space s t _))

theorem numberUnsent_trimState (s : SendQueue) (t : SendType) (n now : ℕ) :
    (numberUnsent s t n now).trimState = s.trimState := by
  unfold numberUnsent
  generalize (s.lists (.scheduleBuf t)).take n = ids
  induction ids generalizing s with
  | nil => rfl
  | cons id ids ih => exact ih (setNextPn s id now)

/-- **Only received packets and ACK frames change the record and the largest acknowledged ACK.** -/
theorem step_trimState (s : SendQueue) (ev : SendEvent) :
    (s.step ev).trimState = s.trimState ∨ (∃ info th, ev = .ackReceived info th) ∨
      ∃ n, ev = .recvPacket n := by
  cases ev with
  | control params c notify bufSize handshakeDone =>
      left
      show (writeControlFrame ..).trimState = _
      unfold writeControlFrame
      split <;> rfl
  | stream highPri params streamId offset fin payload =>
      left
      simp only [SendQueue.step]
      split
      · rfl
      · rename_i s' n h
        rcases writeStreamFrame_cases h with ⟨id, po, -, -, rfl⟩ | ⟨po₀, po, -, -, rfl⟩ <;> rfl
  | ack params ackDelay ackDelayExponent =>
      exact .inl (trimState_of_space (writeAckToPackets_space s params ackDelay ackDelayExponent))
  | schedule t =>
      left
      show (schedulePacket s t).trimState = _
      unfold schedulePacket
      split <;> rfl
  | send t outcome srtt now => exact .inl (sendPacket_trimState s t outcome srtt now)
  | numberUnsent t n now => exact .inl (numberUnsent_trimState s t n now)
  | pathChallenge params data now =>
      left
      show (sendPathChallenge ..).trimState = _
      unfold sendPathChallenge
      split <;> rfl
  | ackReceived info th => exact .inr (.inl ⟨info, th, rfl⟩)
  | lossTimeout th => exact .inl (trimState_of_space (detectLost_space s th))
  | probeTimeout params =>
      exact .inl (trimState_of_space (sendOneOrTwoAckElicitPkts_space s params))
  | clear | buff1rtt | writeBuffed1rtt | dropStream => exact .inl rfl
  | recvPacket n => exact .inr (.inr ⟨n, rfl⟩)

/-! ## ACK frames -/

/-- A packet that is acknowledged changes the space by its numbers only. -/
theorem ackPacket_space (w : AckWalk) (id : PktId) :
    (w.ackPacket id).sndq.space = (raiseLargest w.sndq (w.sndq.pkts id)).space := by
  simp only [AckWalk.ackPacket]
  rw [maybeRemoveUnacked_space, onPacketAcked_space]
  rfl

theorem ackWalk_recvRecord (frameLargestAck : ℕ) (ranges : List PktnoRange) (ids : List PktId)
    (w : AckWalk) : (ackWalk frameLargestAck ranges ids w).sndq.recvRecord = w.sndq.recvRecord := by
  refine ackWalk_sndq_induct (P := fun s => s.recvRecord = w.sndq.recvRecord) ?_ rfl
  intro w₁ id hid h
  exact (recvRecord_of_space (ackPacket_space w₁ id)).trans h

theorem ackProcess_recvRecord (s : SendQueue) (info : AckInfo) :
    (ackProcess s info).sndq.recvRecord = s.recvRecord := by
  have hring : (ackSentOnAck s info).sndq.recvRecord = s.recvRecord := by
    unfold ackSentOnAck
    split <;> rfl
  unfold ackProcess
  split
  · rfl
  · rw [ackWalk_recvRecord, hring]

end

end Rquic

import Rquic.SendCtl.Moves

set_option autoImplicit false

/-!
# What does not put bytes in flight

Only a packet that is sent raises the counters of bytes in flight, and both by the same amount.

* `Shrinks`: the two counters stay equal and do not grow.
* **`SendCtl.shrinks`**: so it is along acknowledgements, losses and probes.
* **`SendCtl.step_shrinks`**: so it is in every event but the sending of a packet.
-/

namespace Rquic

/-- Nothing was put in flight. -/
structure Shrinks (c c' : SendCtl) : Prop where
  same : c.bytesInFlight = c.bytesAckElicitingInflight → c'.bytesInFlight = c'.bytesAckElicitingInflight
  le : c'.bytesAckElicitingInflight ≤ c.bytesAckElicitingInflight

namespace SendCtl

variable (c : SendCtl)

/-- The counters of bytes in flight. -/
def inflight : ℕ × ℕ := (c.bytesInFlight, c.bytesAckElicitingInflight)

end SendCtl

namespace Shrinks

theorem refl (c : SendCtl) : Shrinks c c := ⟨id, le_rfl⟩

theorem trans {c c' c'' : SendCtl} (h : Shrinks c c') (h' : Shrinks c' c'') : Shrinks c c'' :=
  ⟨fun hsame => h'.same (h.same hsame), h'.le.trans h.le⟩

theorem of_inflight {c c' : SendCtl} (h : c'.inflight = c.inflight) : Shrinks c c' := by
  have hall : c'.bytesInFlight = c.bytesInFlight := (congrArg Prod.fst h :)
  have heliciting : c'.bytesAckElicitingInflight = c.bytesAckElicitingInflight := (congrArg Prod.snd h :)
  constructor
  · intro hsame
    rw [hall, heliciting, hsame]
  · exact heliciting.le

end Shrinks

namespace SendCtl

variable (c : SendCtl)

/-! ## What does not concern the counters -/

@[simp] theorem onQueue_inflight (f : SendQueue → SendQueue) : (c.onQueue f).inflight = c.inflight := rfl

@[simp] theorem insertFree_inflight (id : PktId) : (c.insertFree id).inflight = c.inflight := rfl

@[simp] theorem recordFeedback_inflight (id : PktId) (lost : Bool) :
    (c.recordFeedback id lost).inflight = c.inflight := by
  unfold recordFeedback
  split <;> rfl

theorem foldl_inflight {α : Type} {f : SendCtl → α → SendCtl} (hf : ∀ c a, (f c a).inflight = c.inflight)
    (l : List α) : (l.foldl f c).inflight = c.inflight := by
  induction l generalizing c with
  | nil => rfl
  | cons a l ih => rw [List.foldl_cons, ih, hf]

@[simp] theorem increaseUnackedStreamRef_inflight (po : PacketOut) :
    (c.increaseUnackedStreamRef po).inflight = c.inflight := by
  unfold increaseUnackedStreamRef
  split_ifs
  · apply foldl_inflight
    intro c slot
    unfold slotSent
    split <;> rfl
  · rfl

@[simp] theorem decreaseUnackedStreamRef_inflight (id : PktId) :
    (c.decreaseUnackedStreamRef id).inflight = c.inflight := by
  unfold decreaseUnackedStreamRef
  split_ifs
  · apply foldl_inflight
    intro c slot
    unfold slotAcked
    split
    · rfl
    · dsimp only
      split_ifs <;> rfl
  · rfl

@[simp] theorem onResetStreamAcked_inflight (po : PacketOut) :
    (c.onResetStreamAcked po).inflight = c.inflight := by
  unfold onResetStreamAcked
  split_ifs
  · apply foldl_inflight
    intro c slot
    unfold slotResetAcked
    split
    · rfl
    · split_ifs <;> rfl
  · rfl

@[simp] theorem countSchedule_inflight (po : PacketOut) : (c.countSchedule po).inflight = c.inflight := by
  unfold countSchedule
  split_ifs <;> rfl

@[simp] theorem uncountSchedule_inflight (po : PacketOut) :
    (c.uncountSchedule po).inflight = c.inflight := by
  unfold uncountSchedule
  split_ifs <;> rfl

@[simp] theorem countUnacked_inflight (po : PacketOut) : (c.countUnacked po).inflight = c.inflight := by
  unfold countUnacked
  split_ifs <;> rfl

@[simp] theorem uncountUnacked_inflight (po : PacketOut) :
    (c.uncountUnacked po).inflight = c.inflight := by
  unfold uncountUnacked
  split_ifs <;> rfl

@[simp] theorem pathSendBufferRemove_inflight (id : PktId) :
    (c.pathSendBufferRemove id).inflight = c.inflight :=
  c.uncountSchedule_inflight _

@[simp] theorem removeUnacked_inflight (id : PktId) : (c.removeUnacked id).inflight = c.inflight :=
  c.uncountUnacked_inflight _

@[simp] theorem insertUnacked_inflight (id : PktId) : (c.insertUnacked id).inflight = c.inflight := by
  unfold insertUnacked
  split_ifs
  · exact c.countUnacked_inflight _
  · rfl

@[simp] theorem leaveList_inflight (id : PktId) (path : Bool) :
    (c.leaveList id path).inflight = c.inflight := by
  unfold leaveList
  split_ifs <;> simp

@[simp] theorem copyTo_inflight (p : Place) (src : PktId) : (c.copyTo p src).inflight = c.inflight := by
  unfold copyTo
  split <;> rfl

theorem schedulePacket_inflight (t : SendType) : (c.schedulePacket t).inflight = c.inflight := by
  unfold schedulePacket
  split
  · rfl
  · exact c.countSchedule_inflight _

theorem pathSendBufferClear_inflight (t : SendType) : (c.pathSendBufferClear t).inflight = c.inflight :=
  c.foldl_inflight (fun c' id => c'.uncountSchedule_inflight (c.pkts id)) _

theorem sendPathChallenge_inflight (params : PktParams) (data : Bytes) (now : ℕ) :
    (c.sendPathChallenge params data now).inflight = c.inflight := by
  unfold sendPathChallenge
  split <;> rfl

theorem writeControl_inflight (params : PktParams) (f : ControlFrame) (notify : Bool) (bufSize : ℕ)
    (handshakeDone : Bool) :
    (c.writeControl params f notify bufSize handshakeDone).inflight = c.inflight := by
  cases f with
  | resetStream streamId errCode finalSize =>
      change (c.writeResetStream params streamId errCode finalSize notify bufSize handshakeDone).inflight =
        c.inflight
      unfold writeResetStream
      dsimp only
      split
      · rfl
      · split <;> rfl
  | _ => rfl

theorem writeStream_inflight (highPri : Bool) (params : PktParams) (streamId offset : ℕ) (fin : Bool)
    (payload : Bytes) :
    (c.writeStream highPri params streamId offset fin payload).inflight = c.inflight := by
  unfold writeStream
  split_ifs
  · rfl
  · split <;> rfl

theorem datagramSubmit_inflight (env : DatagramEnv) (data : Bytes) :
    (c.datagramSubmit env data).1.inflight = c.inflight := by
  unfold datagramSubmit
  split_ifs <;> try rfl
  split <;> rfl

theorem datagramSendMultiple_inflight (messages : List (DatagramEnv × Bytes)) :
    (c.datagramSendMultiple messages).1.inflight = c.inflight := by
  induction messages generalizing c with
  | nil => rfl
  | cons m messages ih =>
      obtain ⟨env, data⟩ := m
      have hone := c.datagramSubmit_inflight env data
      unfold datagramSendMultiple
      generalize c.datagramSubmit env data = r at hone ⊢
      obtain ⟨c', e | _⟩ := r
      · exact hone
      · exact (ih c').trans hone

theorem processCallback_inflight (isOpen : Bool) : (c.processCallback isOpen).inflight = c.inflight := by
  unfold processCallback
  split_ifs
  · rfl
  · split <;> rfl

/-! ## Less bytes in flight -/

theorem uncountInflight_shrinks (po : PacketOut) : Shrinks c (c.uncountInflight po) := by
  unfold uncountInflight
  split_ifs
  · constructor
    · intro hsame
      dsimp only
      rw [hsame]
    · dsimp only
      rw [boundedSub_eq]
      exact Nat.sub_le _ _
  · exact .refl c

theorem decreaseInflight_shrinks (id : PktId) : Shrinks c (c.decreaseInflight id) :=
  (c.uncountInflight_shrinks (c.pkts id)).trans (.of_inflight rfl)

theorem onPacketAcked_shrinks (id : PktId) : Shrinks c (c.onPacketAcked id) := by
  unfold onPacketAcked
  dsimp only
  refine Shrinks.trans ?_ (.of_inflight (onQueue_inflight _ _))
  refine Shrinks.trans ?_ (.of_inflight (onResetStreamAcked_inflight _ _))
  refine Shrinks.trans ?_ (uncountInflight_shrinks _ _)
  exact .of_inflight (by simp)

theorem releaseOrigin_shrinks (origin : PktId) : Shrinks c (c.releaseOrigin origin) := by
  unfold releaseOrigin
  dsimp only
  split_ifs
  · refine Shrinks.trans ?_ (.of_inflight (insertFree_inflight _ _))
    refine Shrinks.trans ?_ (.of_inflight (removeUnacked_inflight _ _))
    refine Shrinks.trans ?_ (decreaseInflight_shrinks _ _)
    exact .of_inflight rfl
  · exact .of_inflight rfl

theorem maybeRemoveUnacked_shrinks (id : PktId) (path : Bool) :
    Shrinks c (c.maybeRemoveUnacked id path) := by
  unfold maybeRemoveUnacked
  split
  · split_ifs
    · exact .refl c
    · exact .of_inflight (by simp)
  · refine Shrinks.trans ?_ (.of_inflight (insertFree_inflight _ _))
    refine Shrinks.trans ?_ (releaseOrigin_shrinks _ _)
    exact .of_inflight (by simp)

theorem onPacketLost_shrinks (id : PktId) : Shrinks c (c.onPacketLost id) := by
  have hlost : Shrinks c ((c.recordFeedback id true).decreaseInflight id) :=
    Shrinks.trans (.of_inflight (by simp)) (decreaseInflight_shrinks _ id)
  unfold onPacketLost
  dsimp only
  split_ifs
  · exact hlost.trans (.of_inflight (by simp))
  · exact hlost.trans (.of_inflight (by simp))
  · exact .refl c

theorem sendProbePkt_shrinks (id : PktId) : Shrinks c (c.sendProbePkt id) := by
  unfold sendProbePkt
  split_ifs
  · exact .refl c
  · exact (c.decreaseInflight_shrinks id).trans (.of_inflight (by simp))

/-- **Acknowledgements, losses and probes put nothing in flight.** -/
theorem shrinks : Moves Shrinks where
  refl := Shrinks.refl
  trans := Shrinks.trans
  onQueue _ _ := .of_inflight rfl
  checkNext _ _ := .of_inflight rfl
  acked _ _ := .of_inflight rfl
  onPacketAcked := onPacketAcked_shrinks
  maybeRemoveUnacked := maybeRemoveUnacked_shrinks
  onPacketLost := onPacketLost_shrinks
  sendProbePkt := sendProbePkt_shrinks

theorem dropStreamFramePackets_shrinks (streamId : StreamId) :
    Shrinks c (c.dropStreamFramePackets streamId) := by
  have hunacked : ∀ s (c : SendCtl) id, Shrinks c (dropUnacked s c id) := by
    intro s c id
    exact (c.uncountInflight_shrinks (s.pkts id)).trans (.of_inflight (uncountUnacked_inflight _ _))
  have hscheduled : ∀ s (c : SendCtl) id, (dropScheduled s c id).inflight = c.inflight :=
    fun s c id => c.uncountSchedule_inflight (s.pkts id)
  have hdrop : Shrinks c (c.dropCounters streamId) := by
    unfold dropCounters
    dsimp only
    have hfirst := shrinks.foldl c (hunacked c.toSendQueue)
      (dropsOf c.toSendQueue streamId .unackedPackets)
    refine hfirst.trans (.of_inflight ?_)
    iterate 3 rw [foldl_inflight _ (hscheduled c.toSendQueue)]
    iterate 3 rw [foldl_inflight _ insertFree_inflight]
  exact hdrop.trans (.of_inflight rfl)

theorem queueStep_shrinks (ev : SendEvent) (h : ∀ t outcome srtt now, ev ≠ .send t outcome srtt now) :
    Shrinks c (c.queueStep ev) := by
  cases ev with
  | control params f notify bufSize handshakeDone => exact .of_inflight (writeControl_inflight ..)
  | stream highPri params streamId offset fin payload => exact .of_inflight (writeStream_inflight ..)
  | schedule t => exact .of_inflight (c.schedulePacket_inflight t)
  | clear t => exact .of_inflight (c.pathSendBufferClear_inflight t)
  | send t outcome srtt now => exact absurd rfl (h t outcome srtt now)
  | pathChallenge params data now => exact .of_inflight (sendPathChallenge_inflight ..)
  | ackReceived info th => exact shrinks.onAckReceived c info th
  | lossTimeout th => exact shrinks.detectLost c th
  | probeTimeout params => exact shrinks.sendOneOrTwoAckElicitPkts c params
  | dropStream streamId => exact c.dropStreamFramePackets_shrinks streamId
  | _ => exact .of_inflight rfl

/-- **Only the sending of a packet puts bytes in flight.** -/
theorem step_shrinks (ev : CtlEvent) (h : ∀ t outcome srtt now, ev ≠ .queue (.send t outcome srtt now)) :
    Shrinks c (c.step ev) := by
  cases ev with
  | queue ev => exact c.queueStep_shrinks ev fun t outcome srtt now hev => h t outcome srtt now (hev ▸ rfl)
  | openStream streamId =>
      have heq : (c.openStream streamId).inflight = c.inflight := by
        unfold openStream
        split_ifs <;> rfl
      exact .of_inflight heq
  | destroyStream streamId => exact .of_inflight rfl
  | datagram env data => exact .of_inflight (c.datagramSubmit_inflight env data)
  | datagrams messages => exact .of_inflight (c.datagramSendMultiple_inflight messages)
  | callback isOpen => exact .of_inflight (c.processCallback_inflight isOpen)
  | dropPackets => exact ⟨fun _ => rfl, Nat.zero_le _⟩

theorem sendPacket_same (t : SendType) (outcome : SendOutcome) (srtt now : ℕ)
    (h : c.bytesInFlight = c.bytesAckElicitingInflight) :
    (c.sendPacket t outcome srtt now).bytesInFlight =
      (c.sendPacket t outcome srtt now).bytesAckElicitingInflight := by
  have hinc : ∀ (c : SendCtl) po, c.bytesInFlight = c.bytesAckElicitingInflight →
      (c.increaseInflight po).bytesInFlight = (c.increaseInflight po).bytesAckElicitingInflight := by
    intro c po h
    unfold increaseInflight
    split_ifs
    · dsimp only
      rw [h]
    · exact h
  have hsent : ∀ (c : SendCtl) id, c.bytesInFlight = c.bytesAckElicitingInflight →
      (c.onPacketSent id srtt now).bytesInFlight =
        (c.onPacketSent id srtt now).bytesAckElicitingInflight := by
    intro c id h
    unfold onPacketSent
    dsimp only [addHistory]
    split_ifs
    · exact (Shrinks.of_inflight (increaseUnackedStreamRef_inflight _ _)).same (hinc c _ h)
    · exact h
  unfold sendPacket
  split
  · exact h
  · rename_i id _ _
    split
    · rename_i c' hc'
      exact (shrinks.indirectlyAckOrDropPo c hc').same h
    · cases outcome with
      | blocked => exact h
      | again => exact h
      | sent =>
          refine (Shrinks.of_inflight (insertUnacked_inflight _ id)).same ?_
          refine (Shrinks.of_inflight (pathSendBufferRemove_inflight _ id)).same ?_
          exact hsent _ id h

theorem onPacketSent_inflight {id : PktId} (h : ¬ isAckEliciting (c.pkts id).poFrameTypes)
    (srtt now : ℕ) : (c.onPacketSent id srtt now).inflight = c.inflight := by
  have hinc : c.increaseInflight (c.pkts id) = c := if_neg fun hall => h hall.2.2
  unfold onPacketSent
  dsimp only
  rw [hinc]
  split_ifs
  · exact c.increaseUnackedStreamRef_inflight _
  · rfl

/-- The number and the marks of a packet do not change its frames. -/
theorem transmitTypes (s : SendQueue) (t : SendType) (id : PktId) (now : ℕ) :
    ((writeSocket (setNextPn (markRetrans s t id) id now) id).pkts id).poFrameTypes =
      (s.pkts id).poFrameTypes := by
  unfold markRetrans
  split_ifs <;> simp [writeSocket, setNextPn, SendQueue.modify, PacketOut.number, PacketOut.markLost]

/-- A packet that asks for no acknowledgement does not put bytes in flight. -/
theorem sendPacket_shrinks {t : SendType} {outcome : SendOutcome} {srtt now : ℕ} {id : PktId}
    {ids : List PktId} (hlist : c.lists (.scheduleBuf t) = id :: ids)
    (h : (c.indirectlyAckOrDropPo id).isNone → outcome = .sent →
      ¬ isAckEliciting (c.pkts id).poFrameTypes) :
    Shrinks c (c.sendPacket t outcome srtt now) := by
  unfold sendPacket
  rw [hlist]
  dsimp only
  cases hc' : c.indirectlyAckOrDropPo id with
  | some c' => exact shrinks.indirectlyAckOrDropPo c hc'
  | none =>
      cases outcome with
      | blocked => exact .of_inflight rfl
      | again => exact .of_inflight rfl
      | sent =>
          have hquiet := h (by rw [hc']; rfl) rfl
          refine Shrinks.trans ?_ (.of_inflight (insertUnacked_inflight _ id))
          refine Shrinks.trans ?_ (.of_inflight (pathSendBufferRemove_inflight _ id))
          refine Shrinks.trans ?_ (.of_inflight (onPacketSent_inflight _ ?_ srtt now))
          · exact .of_inflight rfl
          · rw [onQueue_toSendQueue, onQueue_toSendQueue, transmitTypes]
            exact hquiet

end SendCtl

end Rquic

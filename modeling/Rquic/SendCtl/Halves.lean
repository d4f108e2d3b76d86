import Rquic.SendCtl.Moves
import Rquic.Stream.States

set_option autoImplicit false

/-!
# Sent and acknowledged packets move the sending halves

The send control moves the sending half of a stream when a packet with its data is sent, and when a
packet with its data or its RESET_STREAM frame is acknowledged.

* `HalvesMove`: every sending half has moved along its edges.
* **`SendCtl.moves`**, **`SendCtl.sendPacket_moves`**: so it is after an ACK frame or a timeout, and
  after a packet was sent.
-/

namespace Rquic

/-- Every sending half has moved along its edges; streams neither come nor go. -/
def HalvesMove (c c' : SendCtl) : Prop :=
  ∀ id, Option.Rel (fun h h' : SendHalf => SendPath h.streamStateSend h'.streamStateSend)
    (c.streams id) (c'.streams id)

namespace HalvesMove

theorem of_streams {c c' : SendCtl} (h : c'.streams = c.streams) : HalvesMove c c' := by
  intro id
  rw [h]
  cases c.streams id with
  | none => exact .none
  | some half => exact .some .refl

theorem refl (c : SendCtl) : HalvesMove c c := of_streams rfl

theorem trans {c c' c'' : SendCtl} (h : HalvesMove c c') (h' : HalvesMove c' c'') :
    HalvesMove c c'' := by
  intro id
  have hid := h id
  have hid' := h' id
  generalize c.streams id = half, c'.streams id = half', c''.streams id = half'' at hid hid' ⊢
  cases hid with
  | none => exact hid'
  | some hpath =>
      cases hid' with
      | some hpath' => exact .some (hpath.trans hpath')

theorem update {c c' : SendCtl} {id : StreamId} {h h' : SendHalf} (hs : c.streams id = some h)
    (hpath : SendPath h.streamStateSend h'.streamStateSend)
    (hstreams : c'.streams = Function.update c.streams id (some h')) : HalvesMove c c' := by
  intro id'
  rw [hstreams]
  by_cases heq : id' = id
  · rw [heq, Function.update_self, hs]
    exact .some hpath
  · rw [Function.update_of_ne heq]
    exact refl c id'

theorem foldl {α : Type} {f : SendCtl → α → SendCtl} (hf : ∀ c a, HalvesMove c (f c a))
    (l : List α) (c : SendCtl) : HalvesMove c (l.foldl f c) := by
  induction l generalizing c with
  | nil => exact refl c
  | cons a l ih => exact (hf c a).trans (ih _)

end HalvesMove

namespace SendCtl

variable (c : SendCtl)

/-! ## Slots -/

theorem halfSent_path (h : SendHalf) (fin : Bool) :
    SendPath h.streamStateSend (halfSent h fin).streamStateSend := by
  have hfirst : SendPath h.streamStateSend
      (if h.streamStateSend = .ready then .send else h.streamStateSend) := by
    split_ifs with hready
    · rw [hready]
      exact .single .send
    · exact .refl
  unfold halfSent
  dsimp only
  generalize (if h.streamStateSend = .ready then .send else h.streamStateSend) = state at hfirst ⊢
  split_ifs with hfin
  · rw [hfin.2] at hfirst
    exact hfirst.tail .dataSent
  · exact hfirst

theorem slotSent_moves (slot : PoStreamFrame) : HalvesMove c (c.slotSent slot) := by
  unfold slotSent
  split
  · exact .refl c
  · rename_i h hs
    exact .update hs (halfSent_path h slot.psHasFin) rfl

theorem slotAcked_moves (slot : PoStreamFrame) : HalvesMove c (c.slotAcked slot) := by
  unfold slotAcked
  split
  · exact .refl c
  · rename_i h hs
    dsimp only
    split_ifs with hdone
    · refine .update hs ?_ rfl
      rw [hdone.2]
      exact .single .dataRecvd
    · refine .update hs ?_ rfl
      exact .refl

theorem slotResetAcked_moves (slot : PoStreamFrame) : HalvesMove c (c.slotResetAcked slot) := by
  unfold slotResetAcked
  split
  · exact .refl c
  · rename_i h hs
    split_ifs with hreset
    · refine .update hs ?_ rfl
      rw [hreset.2]
      exact .single .resetRecvd
    · exact .refl c

theorem increaseUnackedStreamRef_moves (po : PacketOut) :
    HalvesMove c (c.increaseUnackedStreamRef po) := by
  unfold increaseUnackedStreamRef
  split_ifs
  · exact .foldl slotSent_moves _ c
  · exact .refl c

theorem decreaseUnackedStreamRef_moves (id : PktId) :
    HalvesMove c (c.decreaseUnackedStreamRef id) := by
  unfold decreaseUnackedStreamRef
  split_ifs
  · exact .foldl slotAcked_moves _ c
  · exact .refl c

theorem onResetStreamAcked_moves (po : PacketOut) : HalvesMove c (c.onResetStreamAcked po) := by
  unfold onResetStreamAcked
  split_ifs
  · exact .foldl slotResetAcked_moves _ c
  · exact .refl c

/-! ## What does not concern streams -/

theorem increaseInflight_streams (po : PacketOut) : (c.increaseInflight po).streams = c.streams := by
  unfold increaseInflight
  split_ifs <;> rfl

theorem uncountInflight_streams (po : PacketOut) : (c.uncountInflight po).streams = c.streams := by
  unfold uncountInflight
  split_ifs <;> rfl

theorem countSchedule_streams (po : PacketOut) : (c.countSchedule po).streams = c.streams := by
  unfold countSchedule
  split_ifs <;> rfl

theorem uncountSchedule_streams (po : PacketOut) : (c.uncountSchedule po).streams = c.streams := by
  unfold uncountSchedule
  split_ifs <;> rfl

theorem countUnacked_streams (po : PacketOut) : (c.countUnacked po).streams = c.streams := by
  unfold countUnacked
  split_ifs <;> rfl

theorem uncountUnacked_streams (po : PacketOut) : (c.uncountUnacked po).streams = c.streams := by
  unfold uncountUnacked
  split_ifs <;> rfl

theorem recordFeedback_streams (id : PktId) (lost : Bool) :
    (c.recordFeedback id lost).streams = c.streams := by
  unfold recordFeedback
  split <;> rfl

theorem decreaseInflight_streams (id : PktId) : (c.decreaseInflight id).streams = c.streams :=
  c.uncountInflight_streams _

theorem removeUnacked_streams (id : PktId) : (c.removeUnacked id).streams = c.streams :=
  c.uncountUnacked_streams _

theorem pathSendBufferRemove_streams (id : PktId) : (c.pathSendBufferRemove id).streams = c.streams :=
  c.uncountSchedule_streams _

theorem insertUnacked_streams (id : PktId) : (c.insertUnacked id).streams = c.streams := by
  unfold insertUnacked
  split_ifs
  · exact c.countUnacked_streams _
  · rfl

theorem leaveList_streams (id : PktId) (path : Bool) : (c.leaveList id path).streams = c.streams := by
  unfold leaveList
  split_ifs
  · exact c.pathSendBufferRemove_streams id
  · exact c.removeUnacked_streams id

theorem releaseOrigin_streams (origin : PktId) : (c.releaseOrigin origin).streams = c.streams := by
  unfold releaseOrigin
  dsimp only
  split_ifs
  · exact (removeUnacked_streams _ origin).trans (decreaseInflight_streams _ origin)
  · rfl

theorem maybeRemoveUnacked_streams (id : PktId) (path : Bool) :
    (c.maybeRemoveUnacked id path).streams = c.streams := by
  unfold maybeRemoveUnacked
  split
  · split_ifs
    · rfl
    · exact c.leaveList_streams id path
  · exact (releaseOrigin_streams _ _).trans (c.leaveList_streams id path)

theorem schedulePacket_streams (t : SendType) : (c.schedulePacket t).streams = c.streams := by
  unfold schedulePacket
  split
  · rfl
  · exact c.countSchedule_streams _

theorem pathSendBufferClear_streams (t : SendType) : (c.pathSendBufferClear t).streams = c.streams := by
  have hfold : ∀ (ids : List PktId) (c' : SendCtl),
      (ids.foldl (fun c' id => c'.uncountSchedule (c.pkts id)) c').streams = c'.streams := by
    intro ids
    induction ids with
    | nil => exact fun _ => rfl
    | cons id ids ih => exact fun c' => (ih _).trans (c'.uncountSchedule_streams _)
  exact hfold _ c

theorem sendPathChallenge_streams (params : PktParams) (data : Bytes) (now : ℕ) :
    (c.sendPathChallenge params data now).streams = c.streams := by
  unfold sendPathChallenge
  split <;> rfl

theorem copyTo_streams (p : Place) (src : PktId) : (c.copyTo p src).streams = c.streams := by
  unfold copyTo
  split <;> rfl

theorem onPacketLost_streams (id : PktId) : (c.onPacketLost id).streams = c.streams := by
  have hlost : ((c.recordFeedback id true).decreaseInflight id).streams = c.streams :=
    (decreaseInflight_streams _ id).trans (c.recordFeedback_streams id true)
  unfold onPacketLost
  dsimp only
  split_ifs
  · exact (copyTo_streams _ _ id).trans hlost
  · exact (removeUnacked_streams _ id).trans hlost
  · rfl

theorem sendProbePkt_streams (id : PktId) : (c.sendProbePkt id).streams = c.streams := by
  unfold sendProbePkt
  split_ifs
  · rfl
  · exact (copyTo_streams _ _ id).trans (c.decreaseInflight_streams id)

/-! ## Acknowledged packets -/

/-- **An acknowledged packet moves the halves along their edges.** -/
theorem onPacketAcked_moves (id : PktId) : HalvesMove c (c.onPacketAcked id) := by
  unfold onPacketAcked
  dsimp only
  refine (HalvesMove.of_streams (c.recordFeedback_streams id false)).trans ?_
  refine (decreaseUnackedStreamRef_moves _ id).trans ?_
  refine (HalvesMove.of_streams (uncountInflight_streams _ (c.pkts id))).trans ?_
  refine (onResetStreamAcked_moves _ (c.pkts id)).trans ?_
  exact .of_streams rfl

/-- **Acknowledgements, losses and probes move the halves along their edges.** -/
theorem moves : Moves HalvesMove where
  refl := HalvesMove.refl
  trans := HalvesMove.trans
  onQueue _ _ := .of_streams rfl
  checkNext _ _ := .of_streams rfl
  acked _ _ := .of_streams rfl
  onPacketAcked := onPacketAcked_moves
  maybeRemoveUnacked c id path := .of_streams (c.maybeRemoveUnacked_streams id path)
  onPacketLost c id := .of_streams (c.onPacketLost_streams id)
  sendProbePkt c id := .of_streams (c.sendProbePkt_streams id)

/-! ## Sending -/

theorem onPacketSent_moves (id : PktId) (srtt now : ℕ) : HalvesMove c (c.onPacketSent id srtt now) := by
  unfold onPacketSent
  dsimp only
  split_ifs
  · refine HalvesMove.trans (.of_streams (c.increaseInflight_streams (c.pkts id))) ?_
    refine HalvesMove.trans (increaseUnackedStreamRef_moves _ (c.pkts id)) ?_
    exact .of_streams rfl
  · exact .of_streams rfl

theorem transmit_moves (id : PktId) (srtt now : ℕ) : HalvesMove c (c.transmit id srtt now) := by
  unfold transmit
  refine HalvesMove.trans ?_ (.of_streams (insertUnacked_streams _ id))
  refine HalvesMove.trans ?_ (.of_streams (pathSendBufferRemove_streams _ id))
  refine HalvesMove.trans ?_ (onPacketSent_moves _ id srtt now)
  exact .of_streams rfl

/-- **A sent packet moves the halves along their edges.** -/
theorem sendPacket_moves (t : SendType) (outcome : SendOutcome) (srtt now : ℕ) :
    HalvesMove c (c.sendPacket t outcome srtt now) := by
  unfold sendPacket
  split
  · exact .refl c
  · rename_i id _ _
    split
    · rename_i c' h
      exact moves.indirectlyAckOrDropPo c h
    · cases outcome with
      | blocked => exact .of_streams rfl
      | again => exact .of_streams rfl
      | sent =>
          refine HalvesMove.trans ?_ (transmit_moves _ id srtt now)
          exact .of_streams rfl

end SendCtl

end Rquic

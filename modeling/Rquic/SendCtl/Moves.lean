import Rquic.SendCtl.Run

set_option autoImplicit false

/-!
# Relations along the loops of the send control

Acknowledgements, loss detection and probes go over the unacknowledged packets with a few operations on
one packet. What these operations keep between two states, the loops keep.

* `Moves`: a reflexive and transitive relation that the operations on one packet keep.
* **`Moves.ackProcess`**, **`Moves.detectLost`**, **`Moves.onAckReceived`**,
  **`Moves.sendOneOrTwoAckElicitPkts`**: so do the loops.
-/

namespace Rquic

/-- A relation between states that every operation on one packet keeps. -/
structure Moves (R : SendCtl → SendCtl → Prop) : Prop where
  refl : ∀ c, R c c
  trans : ∀ {c c' c'' : SendCtl}, R c c' → R c' c'' → R c c''
  /-- What the loops change beside the counters. -/
  onQueue : ∀ (c : SendCtl) f, R c (c.onQueue f)
  checkNext : ∀ (c : SendCtl) ids, R c (c.checkNext ids)
  acked : ∀ (c : SendCtl) id, R c (c.addHistory (.acked id))
  onPacketAcked : ∀ (c : SendCtl) id, R c (c.onPacketAcked id)
  maybeRemoveUnacked : ∀ (c : SendCtl) id path, R c (c.maybeRemoveUnacked id path)
  onPacketLost : ∀ (c : SendCtl) id, R c (c.onPacketLost id)
  sendProbePkt : ∀ (c : SendCtl) id, R c (c.sendProbePkt id)

namespace Moves

open SendCtl

variable {R : SendCtl → SendCtl → Prop} (hR : Moves R) (c : SendCtl)
include hR

theorem foldl {α : Type} {f : SendCtl → α → SendCtl} (hf : ∀ c a, R c (f c a)) (l : List α) :
    R c (l.foldl f c) := by
  induction l generalizing c with
  | nil => exact hR.refl c
  | cons a l ih => exact hR.trans (hf c a) (ih _)

theorem iterate {f : SendCtl → SendCtl} (hf : ∀ c, R c (f c)) (n : ℕ) : R c (f^[n] c) := by
  induction n generalizing c with
  | zero => exact hR.refl c
  | succ n ih => exact hR.trans (hf c) (ih _)

theorem indirectlyAckOrDropPo {id : PktId} {c' : SendCtl} (h : c.indirectlyAckOrDropPo id = some c') :
    R c c' := by
  unfold SendCtl.indirectlyAckOrDropPo at h
  by_cases hacked : (c.pkts id).poAcked ∨ originAcked c.toSendQueue id
  · rw [if_pos hacked] at h
    obtain rfl := Option.some.inj h
    refine hR.trans ?_ (hR.maybeRemoveUnacked _ id true)
    split_ifs
    · exact hR.onPacketAcked c id
    · exact hR.refl c
  · rw [if_neg hacked] at h
    cases h

/-! ## Acknowledgements -/

theorem ackPacket (w : AckRun) (id : PktId) : R w.ctl (w.ackPacket id).ctl := by
  unfold AckRun.ackPacket
  dsimp only
  refine hR.trans (hR.acked w.ctl id) ?_
  refine hR.trans ?_ (hR.maybeRemoveUnacked _ id false)
  refine hR.trans ?_ (hR.onPacketAcked _ id)
  exact hR.onQueue _ _

theorem ackWalk (frameLargestAck : ℕ) (ranges : List PktnoRange) (ids : List PktId) (w : AckRun) :
    R w.ctl (SendCtl.ackWalk frameLargestAck ranges ids w).ctl := by
  induction ids generalizing ranges w with
  | nil => cases ranges <;> exact hR.refl _
  | cons id ids ih =>
      unfold SendCtl.ackWalk
      dsimp only
      split_ifs
      · exact hR.refl _
      · exact hR.refl _
      · split
        · exact hR.refl _
        · split_ifs
          · refine hR.trans (hR.ackPacket w id) (hR.trans ?_ (ih _ _))
            exact hR.checkNext _ ids
          · exact ih _ w

/-- **The walk of an ACK frame.** -/
theorem ackProcess (info : AckInfo) : R c (c.ackProcess info).ctl := by
  unfold SendCtl.ackProcess
  split
  · exact hR.refl c
  · refine hR.trans ?_ (hR.ackWalk _ _ _ _)
    dsimp only
    exact hR.onQueue c fun _ => (ackSentOnAck c.toSendQueue info).sndq

/-! ## Loss detection and probes -/

theorem detectLostWalk (largestAcked : ℕ) (th : LossThresholds) (ids : List PktId) :
    R c (SendCtl.detectLostWalk largestAcked th ids c) := by
  induction ids generalizing c with
  | nil => exact hR.refl c
  | cons id ids ih =>
      unfold SendCtl.detectLostWalk
      split
      · rename_i c' h
        exact hR.trans (hR.indirectlyAckOrDropPo c h) (hR.trans (hR.checkNext c' ids) (ih _))
      · split_ifs
        · exact hR.refl c
        · exact hR.trans (hR.onPacketLost c id) (hR.trans (hR.checkNext _ ids) (ih _))
        · exact ih c

theorem detectLost (th : LossThresholds) : R c (c.detectLost th) := by
  unfold SendCtl.detectLost
  split
  · exact hR.refl c
  · exact hR.detectLostWalk c _ th _

theorem probeWalk (n : ℕ) (last : Option PktId) (ids : List PktId) :
    R c (SendCtl.probeWalk n last ids c).2.2 := by
  induction ids generalizing n last c with
  | nil => cases n <;> exact hR.refl c
  | cons id ids ih =>
      cases n with
      | zero => exact hR.refl c
      | succ n =>
          unfold SendCtl.probeWalk
          split
          · rename_i c' h
            exact hR.trans (hR.indirectlyAckOrDropPo c h) (hR.trans (hR.checkNext c' ids) (ih _ _ _))
          · split_ifs
            · exact hR.trans (hR.sendProbePkt c id) (hR.trans (hR.checkNext _ ids) (ih _ _ _))
            · exact ih c _ _

theorem sendOneOrTwoAckElicitPkts (params : PktParams) : R c (c.sendOneOrTwoAckElicitPkts params) := by
  have hwalk := hR.probeWalk c ptoPktCntMax none (c.lists .unackedPackets)
  unfold SendCtl.sendOneOrTwoAckElicitPkts
  generalize SendCtl.probeWalk ptoPktCntMax none (c.lists .unackedPackets) c = r at hwalk ⊢
  obtain ⟨n, _ | last, c'⟩ := r
  · exact hR.trans hwalk (hR.iterate c' (fun c' => hR.onQueue c' _) n)
  · exact hR.trans hwalk (hR.iterate c' (fun c' => hR.sendProbePkt c' last) n)

theorem onAckReceived (info : AckInfo) (th : LossThresholds) : R c (c.onAckReceived info th) := by
  have hack := hR.ackProcess c info
  unfold SendCtl.onAckReceived
  dsimp only
  split_ifs
  · exact hack
  · exact hR.trans hack (hR.trans (hR.detectLost _ th) (hR.onQueue _ _))
  · exact hR.trans hack (hR.detectLost _ th)

end Moves

end Rquic

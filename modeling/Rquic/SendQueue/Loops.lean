import Rquic.SendQueue.Ctl

set_option autoImplicit false

/-!
# Rules for the loops

What holds before a loop over the unacknowledged packets and outlasts each of its packets holds after
the loop.

* `detectLostWalk_induct`, `detectLost_induct`: loss detection.
* `probeWalk_induct`, `probeWalk_last`, **`sendOneOrTwoAckElicitPkts_induct`**: probes. A packet that is
  probed once more is one of those that the walk visited.
* `ackWalk_induct`, `ackWalk_sndq_induct`: the packets that an ACK frame covers.
-/

namespace Rquic

section Loops

variable {P : SendQueue → Prop} {ids : List PktId} {s : SendQueue}

/-! ## Loss detection -/

theorem detectLostWalk_induct {largestAcked : ℕ} {th : LossThresholds}
    (hdrop : ∀ s, ∀ id ∈ ids, ∀ s', indirectlyAckOrDropPo s id = some s' → P s → P s')
    (hlost : ∀ s, ∀ id ∈ ids, P s → P (onPacketLost s id)) (h : P s) :
    P (detectLostWalk largestAcked th ids s) := by
  induction ids generalizing s with
  | nil => exact h
  | cons id ids ih =>
      have hrest : ∀ {s}, P s → P (detectLostWalk largestAcked th ids s) :=
        ih (fun s id' hid' => hdrop s id' (List.mem_cons_of_mem _ hid'))
          fun s id' hid' => hlost s id' (List.mem_cons_of_mem _ hid')
      rw [detectLostWalk]
      split
      · rename_i s' hs'
        exact hrest (hdrop s id List.mem_cons_self s' hs' h)
      · split_ifs
        · exact h
        · exact hrest (hlost s id List.mem_cons_self h)
        · exact hrest h

theorem detectLost_induct {th : LossThresholds}
    (hdrop : ∀ s₁, ∀ id ∈ s.lists .unackedPackets, ∀ s₂,
      indirectlyAckOrDropPo s₁ id = some s₂ → P s₁ → P s₂)
    (hlost : ∀ s₁, ∀ id ∈ s.lists .unackedPackets, P s₁ → P (onPacketLost s₁ id)) (h : P s) :
    P (detectLost s th) := by
  unfold detectLost
  split
  · exact h
  · exact detectLostWalk_induct hdrop hlost h

/-! ## Probes -/

theorem probeWalk_induct (probeNum : ℕ) (last : Option PktId)
    (hdrop : ∀ s, ∀ id ∈ ids, ∀ s', indirectlyAckOrDropPo s id = some s' → P s → P s')
    (hprobe : ∀ s, ∀ id ∈ ids, P s → P (sendProbePkt s id)) (h : P s) :
    P (probeWalk probeNum last ids s).2.2 := by
  induction ids generalizing s probeNum last with
  | nil => cases probeNum <;> exact h
  | cons id ids ih =>
      have hrest : ∀ probeNum last {s}, P s → P (probeWalk probeNum last ids s).2.2 :=
        fun probeNum last => ih probeNum last
          (fun s id' hid' => hdrop s id' (List.mem_cons_of_mem _ hid'))
          fun s id' hid' => hprobe s id' (List.mem_cons_of_mem _ hid')
      cases probeNum with
      | zero => exact h
      | succ probeNum =>
          rw [probeWalk]
          split
          · rename_i s' hs'
            exact hrest _ _ (hdrop s id List.mem_cons_self s' hs' h)
          · split_ifs
            · exact hrest _ _ (hprobe s id List.mem_cons_self h)
            · exact hrest _ _ h

/-- The packet that the walk probed last is one that it visited. -/
theorem probeWalk_last (probeNum : ℕ) (last : Option PktId) (ids : List PktId) (s : SendQueue) :
    ∀ id ∈ (probeWalk probeNum last ids s).2.1, id ∈ ids ∨ id ∈ last := by
  induction ids generalizing s probeNum last with
  | nil => cases probeNum <;> exact fun id hid => .inr hid
  | cons id ids ih =>
      intro id' hid'
      cases probeNum with
      | zero => exact .inr hid'
      | succ probeNum =>
          rw [probeWalk] at hid'
          split at hid'
          · exact (ih _ _ _ id' hid').imp_left (List.mem_cons_of_mem _)
          · split_ifs at hid'
            · left
              rcases ih _ _ _ id' hid' with hmem | hself
              · exact List.mem_cons_of_mem _ hmem
              · exact Option.some.inj hself ▸ List.mem_cons_self
            · exact (ih _ _ _ id' hid').imp_left (List.mem_cons_of_mem _)

theorem sendOneOrTwoAckElicitPkts_induct {params : PktParams}
    (hdrop : ∀ s₁, ∀ id ∈ s.lists .unackedPackets, ∀ s₂,
      indirectlyAckOrDropPo s₁ id = some s₂ → P s₁ → P s₂)
    (hprobe : ∀ s₁, ∀ id ∈ s.lists .unackedPackets, P s₁ → P (sendProbePkt s₁ id))
    (hping : ∀ s₁, P s₁ → P (sendPingToProbe s₁ params)) (h : P s) :
    P (sendOneOrTwoAckElicitPkts s params) := by
  have hwalk := probeWalk_induct ptoPktCntMax none hdrop hprobe h
  have hlast := probeWalk_last ptoPktCntMax none (s.lists .unackedPackets) s
  unfold sendOneOrTwoAckElicitPkts
  split
  · rename_i probeNum last s' heq
    rw [heq] at hwalk hlast
    have hmem : last ∈ s.lists .unackedPackets := (hlast last rfl).resolve_right (by simp)
    exact Function.Iterate.rec P hwalk (fun s₁ => hprobe s₁ last hmem) probeNum
  · rename_i probeNum s' heq
    rw [heq] at hwalk
    exact Function.Iterate.rec P hwalk hping probeNum

/-! ## Acknowledgements -/

theorem ackWalk_induct {P : AckWalk → Prop} {frameLargestAck : ℕ} {ranges : List PktnoRange}
    {w : AckWalk} (hack : ∀ w, ∀ id ∈ ids, P w → P (w.ackPacket id))
    (herr : ∀ w, ∀ id ∈ ids, w.sndq.largestSent < (w.sndq.pkts id).pktNum → P w →
      P { w with err := some .proto }) (h : P w) :
    P (ackWalk frameLargestAck ranges ids w) := by
  induction ids generalizing ranges w with
  | nil =>
      rw [ackWalk]
      exact h
  | cons id ids ih =>
      have hrest : ∀ {ranges w}, P w → P (ackWalk frameLargestAck ranges ids w) :=
        ih (fun w id' hid' => hack w id' (List.mem_cons_of_mem _ hid'))
          fun w id' hid' => herr w id' (List.mem_cons_of_mem _ hid')
      rw [ackWalk]
      split_ifs with hlarge hsent
      · exact h
      · exact herr w id List.mem_cons_self hsent h
      · split
        · exact h
        · split_ifs
          · exact hrest (hack w id List.mem_cons_self h)
          · exact hrest h

theorem ackWalk_sndq_induct {frameLargestAck : ℕ} {ranges : List PktnoRange} {w : AckWalk}
    (hack : ∀ w : AckWalk, ∀ id ∈ ids, P w.sndq → P (w.ackPacket id).sndq) (h : P w.sndq) :
    P (ackWalk frameLargestAck ranges ids w).sndq :=
  ackWalk_induct (P := fun w => P w.sndq) hack (fun _ _ _ _ h => h) h

end Loops

end Rquic

import Rquic.SendQueue.Unsent

set_option autoImplicit false

/-!
# The places of packets

A packet of the source is linked into a list by one field, so it stands in at most one list. The lists
of this model do not say so by themselves: it holds in every state of a run.

* `Lined`: every packet stands in at most one list, and there once.
* `Arranges`: a step that moves packets from list to list and makes none.
* **`Lined.step`**, **`run_lined`**: the events, and a run.
-/

namespace Rquic

/-- Every packet stands in at most one list, and there once. -/
structure Lined (s : SendQueue) : Prop where
  fresh : s.Fresh
  origin_lt : ∀ id origin, (s.pkts id).poOrigin = some origin → origin < s.nextId
  one : ∀ id p q, id ∈ s.lists p → id ∈ s.lists q → p = q
  nodup : ∀ p, (s.lists p).Nodup

/-- The packet `id` stays where it is or leaves, or it comes to stand in one list only. -/
def SendQueue.Relists (s s' : SendQueue) (id : PktId) : Prop :=
  (∀ p, id ∈ s'.lists p → id ∈ s.lists p) ∨ id < s.nextId ∧ ∃ p, ∀ q, id ∈ s'.lists q → q = p

/-- Packets are marked, filled and moved, and none is made. -/
structure Arranges (s s' : SendQueue) : Prop where
  nextId : s'.nextId = s.nextId
  origin : ∀ id, (s'.pkts id).poOrigin = (s.pkts id).poOrigin
  lists : ∀ id, s.Relists s' id
  nodup : (∀ p, (s.lists p).Nodup) → ∀ p, (s'.lists p).Nodup

namespace Arranges

variable {s s' s'' : SendQueue}

theorem shrink (hnext : s'.nextId = s.nextId) (hpkts : ∀ id, (s'.pkts id).body = (s.pkts id).body)
    (hlists : ∀ p, (s'.lists p).Sublist (s.lists p)) : Arranges s s' where
  nextId := hnext
  origin id := (congrArg PacketOut.poOrigin (hpkts id) :)
  lists _ := .inl fun p hid => (hlists p).subset hid
  nodup h p := (h p).sublist (hlists p)

theorem refl (s : SendQueue) : Arranges s s := shrink rfl (fun _ => rfl) fun _ => List.Sublist.refl _

theorem trans (h : Arranges s s') (h' : Arranges s' s'') : Arranges s s'' where
  nextId := h'.nextId.trans h.nextId
  origin id := (h'.origin id).trans (h.origin id)
  lists id := by
    rcases h'.lists id with hsub' | ⟨hlt', p', hp'⟩
    · rcases h.lists id with hsub | ⟨hlt, p, hp⟩
      · exact .inl fun q hq => hsub q (hsub' q hq)
      · exact .inr ⟨hlt, p, fun q hq => hp q (hsub' q hq)⟩
    · exact .inr ⟨h.nextId ▸ hlt', p', hp'⟩
  nodup hs := h'.nodup (h.nodup hs)

theorem modify (s : SendQueue) (id : PktId) {f : PacketOut → PacketOut}
    (hf : ∀ po, (f po).body = po.body) : Arranges s (s.modify id f) :=
  shrink rfl (fun id' => body_modify s id id' hf) fun _ => List.Sublist.refl _

theorem unlink (s : SendQueue) (id : PktId) : Arranges s (s.unlink id) :=
  shrink rfl (fun _ => rfl) fun _ => List.filter_sublist

theorem move {id : PktId} (s : SendQueue) (p : Place) (hid : id < s.nextId) :
    Arranges s ((s.unlink id).pushTail p id) where
  nextId := rfl
  origin _ := rfl
  lists id' := by
    by_cases heq : id' = id
    · subst heq
      refine .inr ⟨hid, p, fun q' hq' => ?_⟩
      rcases SendQueue.mem_pushTail.1 hq' with hmem | ⟨rfl, -⟩
      · exact absurd rfl (of_decide_eq_true (List.mem_filter.1 hmem).2)
      · rfl
    · refine .inl fun q' hq' => ?_
      rcases SendQueue.mem_pushTail.1 hq' with hmem | ⟨-, habs⟩
      · exact (List.mem_filter.1 hmem).1
      · exact absurd habs heq
  nodup hs q := by
    have hunlink : ∀ q, ((s.unlink id).lists q).Nodup := fun q => (hs q).filter _
    by_cases hq : q = p
    · subst hq
      rw [SendQueue.pushTail]
      dsimp only
      rw [Function.update_self]
      exact List.nodup_append.2 ⟨hunlink q, List.nodup_singleton id, by simp [SendQueue.unlink]⟩
    · rw [SendQueue.pushTail_lists_of_ne _ _ hq]
      exact hunlink q

theorem fill {id : PktId} {po : PacketOut} (horigin : po.poOrigin = (s.pkts id).poOrigin) :
    Arranges s (s.set id po) where
  nextId := rfl
  origin id' := by
    by_cases heq : id' = id
    · rw [heq, SendQueue.set_pkts_self, horigin]
    · rw [SendQueue.set_pkts_of_ne _ _ heq]
  lists _ := .inl fun _ h => h
  nodup hs := hs

end Arranges

/-! ## Steps that make no packet -/

section Arrange

variable {s : SendQueue}

theorem removeUnacked_arranges (s : SendQueue) (id : PktId) : Arranges s (removeUnacked s id) :=
  (Arranges.unlink s id).trans (.modify _ id fun _ => rfl)

theorem pathSendBufferRemove_arranges (s : SendQueue) (id : PktId) :
    Arranges s (pathSendBufferRemove s id) :=
  (Arranges.unlink s id).trans (.modify _ id fun _ => rfl)

theorem releaseOrigin_arranges (s : SendQueue) (origin : PktId) :
    Arranges s (releaseOrigin s origin) := by
  have hrel : Arranges s (s.modify origin PacketOut.release) := .modify s origin fun _ => rfl
  unfold releaseOrigin
  split_ifs
  · exact (hrel.trans (.modify _ origin body_decreaseInflight)).trans (removeUnacked_arranges _ _)
  · exact hrel

theorem leaveList_arranges (s : SendQueue) (id : PktId) (path : Bool) :
    Arranges s (leaveList s id path) := by
  unfold leaveList
  split_ifs
  · exact pathSendBufferRemove_arranges s id
  · exact removeUnacked_arranges s id

theorem maybeRemoveUnacked_arranges (s : SendQueue) (id : PktId) (path : Bool) :
    Arranges s (maybeRemoveUnacked s id path) := by
  unfold maybeRemoveUnacked
  split
  · split_ifs
    · exact .refl s
    · exact leaveList_arranges s id path
  · exact (leaveList_arranges s id path).trans (releaseOrigin_arranges _ _)

theorem onPacketAcked_arranges (s : SendQueue) (id : PktId) : Arranges s (onPacketAcked s id) := by
  have hacked : Arranges s (s.modify id PacketOut.onAcked) := .modify s id body_onAcked
  unfold onPacketAcked
  split
  · exact hacked
  · exact hacked.trans (.modify _ _ fun _ => rfl)

theorem indirectlyAckOrDropPo_arranges {s' : SendQueue} {id : PktId}
    (h : indirectlyAckOrDropPo s id = some s') : Arranges s s' := by
  unfold indirectlyAckOrDropPo at h
  split_ifs at h
  · obtain rfl := Option.some.inj h
    exact (onPacketAcked_arranges s id).trans (maybeRemoveUnacked_arranges _ _ _)
  · obtain rfl := Option.some.inj h
    exact maybeRemoveUnacked_arranges _ _ _

theorem schedulePacket_arranges (hs : s.Fresh) (t : SendType) : Arranges s (schedulePacket s t) := by
  unfold schedulePacket
  split
  · exact .refl s
  · rename_i id ids hids
    have hid : id < s.nextId := hs t.source id (hids ▸ List.mem_cons_self)
    exact (Arranges.move s _ hid).trans (.modify _ id body_enterPathBuf)

theorem setNextPn_arranges (s : SendQueue) (id : PktId) (now : ℕ) : Arranges s (setNextPn s id now) :=
  (Arranges.modify s id (f := PacketOut.number s.packetNumber now) fun _ => rfl).trans
    (.shrink rfl (fun _ => rfl) fun _ => List.Sublist.refl _)

theorem numberUnsent_arranges (s : SendQueue) (t : SendType) (n now : ℕ) :
    Arranges s (numberUnsent s t n now) := by
  unfold numberUnsent
  generalize (s.lists (.scheduleBuf t)).take n = ids
  induction ids generalizing s with
  | nil => exact .refl s
  | cons id ids ih => exact (setNextPn_arranges s id now).trans (ih _)

theorem markRetrans_arranges (s : SendQueue) (t : SendType) (id : PktId) :
    Arranges s (markRetrans s t id) := by
  unfold markRetrans
  split_ifs
  · exact .modify s id fun _ => rfl
  · exact .refl s

/-- The packet leaves its list before it joins the unacknowledged ones. -/
theorem insertUnacked_arranges (s : SendQueue) {id : PktId} (hid : id < s.nextId) :
    Arranges s (insertUnacked (pathSendBufferRemove s id) id) := by
  unfold insertUnacked
  split_ifs
  · have hmove : Arranges s ((s.unlink id).pushTail .unackedPackets id) := .move s _ hid
    exact (hmove.trans (.modify _ id (f := PacketOut.leavePathBuf) fun _ => rfl)).trans (.modify _ id fun _ => rfl)
  · exact pathSendBufferRemove_arranges s id

theorem transmit_arranges (s : SendQueue) {id : PktId} (srtt now : ℕ) (hid : id < s.nextId) :
    Arranges s (transmit s id srtt now) := by
  have hsent : Arranges s (onPacketSent (writeSocket (setNextPn s id now) id) id srtt now) := by
    refine (setNextPn_arranges s id now).trans ?_
    exact .shrink rfl (fun id' => body_modify (setNextPn s id now) id id' body_onSent)
      fun _ => List.Sublist.refl _
  exact hsent.trans (insertUnacked_arranges _ hid)

theorem sendPacket_arranges (hs : s.Fresh) (t : SendType) (outcome : SendOutcome) (srtt now : ℕ) :
    Arranges s (sendPacket s t outcome srtt now) := by
  unfold sendPacket
  split
  · exact .refl s
  · rename_i id ids hids
    have hid : id < s.nextId := hs _ id (hids ▸ List.mem_cons_self)
    split
    · rename_i s' hs'
      exact indirectlyAckOrDropPo_arranges hs'
    · have hmark := markRetrans_arranges s t id
      cases outcome with
      | blocked => exact hmark
      | again => exact hmark.trans (setNextPn_arranges _ id now)
      | sent => exact hmark.trans (transmit_arranges _ srtt now (hmark.nextId ▸ hid))

theorem Lined.carry (h : Lined s) (src dst : Place) (moves : PktId → Prop)
    {pkts : PktId → PacketOut} {lists : Place → List PktId} (hpkts : ∀ id, (pkts id).body = (s.pkts id).body)
    (hmoves : ∀ id, moves id → id ∈ s.lists src)
    (hlists : ∀ q, ∀ id ∈ lists q, (id ∈ s.lists q ∧ (moves id → q ≠ src)) ∨ (q = dst ∧ moves id))
    (hnodup : ∀ q, (lists q).Nodup) : Arranges s { s with lists := lists, pkts := pkts } where
  nextId := rfl
  origin id := (congrArg PacketOut.poOrigin (hpkts id) :)
  lists id := by
    by_cases hid : moves id
    · have hsrc := hmoves id hid
      refine .inr ⟨h.fresh src id hsrc, dst, fun q hq => ?_⟩
      rcases hlists q id hq with ⟨hmem, hne⟩ | ⟨rfl, -⟩
      · exact absurd (h.one id q src hmem hsrc) (hne hid)
      · rfl
    · refine .inl fun q hq => ?_
      rcases hlists q id hq with ⟨hmem, -⟩ | ⟨-, habs⟩
      · exact hmem
      · exact absurd habs hid
  nodup _ := hnodup

theorem Lined.nodup_append (h : Lined s) {p q : Place} (hne : p ≠ q) {ids ids' : List PktId}
    (hids : ids.Sublist (s.lists p)) (hids' : ids'.Sublist (s.lists q)) : (ids ++ ids').Nodup := by
  refine List.nodup_append.2 ⟨(h.nodup p).sublist hids, (h.nodup q).sublist hids', fun a ha b hb heq => ?_⟩
  exact hne (h.one a p q (hids.subset ha) (hids'.subset (heq ▸ hb)))

theorem Lined.nodup_update (h : Lined s) {p q : Place} {ids ids' : List PktId} (hids : ids.Sublist (s.lists p))
    (hids' : ids'.Nodup) : ∀ r, (Function.update (Function.update s.lists p ids) q ids' r).Nodup := by
  intro r
  by_cases hq : r = q
  · rwa [hq, Function.update_self]
  rw [Function.update_of_ne hq]
  by_cases hp : r = p
  · rw [hp, Function.update_self]
    exact (h.nodup p).sublist hids
  · rw [Function.update_of_ne hp]
    exact h.nodup r

theorem Lined.pathSendBufferClear_arranges (h : Lined s) (t : SendType) :
    Arranges s (pathSendBufferClear s t) := by
  have hne : Place.scheduleBuf t ≠ t.source := by cases t <;> exact nofun
  refine h.carry (.scheduleBuf t) t.source (fun id => id ∈ s.lists (.scheduleBuf t)) (fun id => ?_) (fun _ hid => hid)
    (fun q id hid => ?_) (h.nodup_update (List.nil_sublist _)
      (h.nodup_append hne (List.Sublist.refl _) (List.Sublist.refl _)))
  · split_ifs <;> rfl
  · by_cases hsrc : q = t.source
    · subst hsrc
      rw [Function.update_self] at hid
      rcases List.mem_append.1 hid with hbuf | hmem
      · exact .inr ⟨rfl, hbuf⟩
      · exact .inl ⟨hmem, fun _ => hne.symm⟩
    · rw [Function.update_of_ne hsrc] at hid
      by_cases hbuf : q = .scheduleBuf t
      · rw [hbuf, Function.update_self] at hid
        cases hid
      · rw [Function.update_of_ne hbuf] at hid
        exact .inl ⟨hid, fun _ => hbuf⟩

theorem Lined.buff1rttPackets_arranges (h : Lined s) : Arranges s (buff1rttPackets s) := by
  refine h.carry .sendPackets .buff1rttPackets
    (fun id => id ∈ s.lists .sendPackets ∧ (s.pkts id).pktType = .shortHeader)
    (fun _ => rfl) (fun _ hid => hid.1) (fun q id hid => ?_) (h.nodup_update List.filter_sublist
      (h.nodup_append (fun habs => by cases habs) (List.Sublist.refl _) List.filter_sublist))
  by_cases hbuf : q = .buff1rttPackets
  · subst hbuf
    rw [Function.update_self] at hid
    rcases List.mem_append.1 hid with hmem | hmem
    · exact .inl ⟨hmem, fun _ => nofun⟩
    · obtain ⟨hsend, htype⟩ := List.mem_filter.1 hmem
      exact .inr ⟨rfl, hsend, of_decide_eq_true htype⟩
  · rw [Function.update_of_ne hbuf] at hid
    by_cases hsend : q = .sendPackets
    · subst hsend
      rw [Function.update_self] at hid
      obtain ⟨hmem, htype⟩ := List.mem_filter.1 hid
      exact .inl ⟨hmem, fun hmoves => absurd hmoves.2 (of_decide_eq_true htype)⟩
    · rw [Function.update_of_ne hsend] at hid
      exact .inl ⟨hid, fun _ => hsend⟩

theorem Lined.writeBuffed1rttPackets_arranges (h : Lined s) :
    Arranges s (writeBuffed1rttPackets s) := by
  refine h.carry .buff1rttPackets .sendPackets (fun id => id ∈ s.lists .buff1rttPackets) (fun _ => rfl) (fun _ hid => hid)
    (fun q id hid => ?_) (h.nodup_update (List.nil_sublist _)
      (h.nodup_append (fun habs => by cases habs) (List.Sublist.refl _) (List.Sublist.refl _)))
  by_cases hsend : q = .sendPackets
  · subst hsend
    rw [Function.update_self] at hid
    rcases List.mem_append.1 hid with hmem | hmem
    · exact .inl ⟨hmem, fun _ => nofun⟩
    · exact .inr ⟨rfl, hmem⟩
  · rw [Function.update_of_ne hsend] at hid
    by_cases hbuf : q = .buff1rttPackets
    · rw [hbuf, Function.update_self] at hid
      cases hid
    · rw [Function.update_of_ne hbuf] at hid
      exact .inl ⟨hid, fun _ => hbuf⟩

theorem dropStreamFramePackets_arranges (s : SendQueue) (streamId : StreamId) :
    Arranges s (dropStreamFramePackets s streamId) := by
  refine .shrink rfl (fun id => ?_) fun p => ?_
  · dsimp only [dropStreamFramePackets]
    split_ifs <;> first | rfl | exact body_decreaseInflight _
  · dsimp only [dropStreamFramePackets]
    split_ifs
    · exact List.filter_sublist
    · exact List.Sublist.refl _

theorem ackSentOnAck_arranges (s : SendQueue) (info : AckInfo) :
    Arranges s (ackSentOnAck s info).sndq := by
  unfold ackSentOnAck
  split
  · exact .refl s
  · exact .shrink rfl (fun _ => rfl) fun _ => List.Sublist.refl _

theorem ackPacket_arranges (w : AckWalk) (id : PktId) : Arranges w.sndq (w.ackPacket id).sndq := by
  have hlargest : Arranges w.sndq (raiseLargest w.sndq (w.sndq.pkts id)) :=
    .shrink rfl (fun _ => rfl) fun _ => List.Sublist.refl _
  exact ((hlargest.trans (.modify _ id body_markSpuriousLoss)).trans
    (onPacketAcked_arranges _ id)).trans (maybeRemoveUnacked_arranges _ id false)

theorem ackWalk_arranges {frameLargestAck : ℕ} {ranges : List PktnoRange} {ids : List PktId}
    {w : AckWalk} : Arranges w.sndq (ackWalk frameLargestAck ranges ids w).sndq := by
  refine ackWalk_sndq_induct (P := Arranges w.sndq) ?_ (.refl _)
  intro w₁ id hid h
  exact h.trans (ackPacket_arranges w₁ id)

theorem ackProcess_arranges (s : SendQueue) (info : AckInfo) :
    Arranges s (ackProcess s info).sndq := by
  unfold ackProcess
  split
  · exact .refl s
  · exact (ackSentOnAck_arranges s info).trans ackWalk_arranges

end Arrange

/-! ## Steps that make packets -/

namespace Lined

variable {s : SendQueue}

theorem init : Lined {} where
  fresh _ _ hid := by cases hid
  origin_lt _ _ h := by cases h
  one _ _ _ hid := by cases hid
  nodup _ := List.nodup_nil

theorem arranges {s' : SendQueue} (h : Lined s) (harr : Arranges s s') : Lined s' where
  fresh p id hid := by
    rw [harr.nextId]
    rcases harr.lists id with hsub | ⟨hlt, -⟩
    · exact h.fresh p id (hsub p hid)
    · exact hlt
  origin_lt id origin horigin := by
    rw [harr.nextId]
    exact h.origin_lt id origin (harr.origin id ▸ horigin)
  one id p q hp hq := by
    rcases harr.lists id with hsub | ⟨-, p', hp'⟩
    · exact h.one id p q (hsub p hp) (hsub q hq)
    · exact (hp' p hp).trans (hp' q hq).symm
  nodup := harr.nodup h.nodup

theorem insertNew (h : Lined s) (p : Place) {po : PacketOut}
    (horigin : ∀ origin, po.poOrigin = some origin → origin < s.nextId) : Lined (s.insertNew p po) where
  fresh := h.fresh.insertNew p po
  origin_lt id origin ho := by
    by_cases heq : id = s.nextId
    · rw [heq, SendQueue.insertNew_pkts_nextId] at ho
      exact Nat.lt_succ_of_lt (horigin origin ho)
    · rw [SendQueue.insertNew_pkts_of_ne _ _ _ heq] at ho
      exact Nat.lt_succ_of_lt (h.origin_lt id origin ho)
  one id q q' hq hq' := by
    have hnew : ∀ q, s.nextId ∉ s.lists q := fun q habs => absurd (h.fresh q _ habs) (lt_irrefl _)
    rcases (SendQueue.mem_insertNew po).1 hq with hq | ⟨rfl, rfl⟩
    · rcases (SendQueue.mem_insertNew po).1 hq' with hq' | ⟨-, rfl⟩
      · exact h.one id q q' hq hq'
      · exact absurd hq (hnew q)
    · rcases (SendQueue.mem_insertNew po).1 hq' with hq' | ⟨rfl, -⟩
      · exact absurd hq' (hnew q')
      · rfl
  nodup q := by
    change (Function.update s.lists p (s.lists p ++ [s.nextId]) q).Nodup
    by_cases hq : q = p
    · rw [hq, Function.update_self]
      refine List.nodup_append.2 ⟨h.nodup p, List.nodup_singleton _, fun id hid b hb => ?_⟩
      rw [List.mem_singleton.1 hb]
      exact (h.fresh p id hid).ne
    · rw [Function.update_of_ne hq]
      exact h.nodup q

theorem insertControl (h : Lined s) (p : Place) {params : PktParams} {c : ControlFrame}
    {notify : Bool} {bufSize : ℕ} {po : PacketOut}
    (hpo : controlPacket params c notify bufSize = .ok po) : Lined (s.insertNew p po) := by
  obtain ⟨-, horigin, -⟩ := controlPacket_fields hpo
  refine h.insertNew p fun origin ho => ?_
  rw [horigin] at ho
  cases ho

theorem writeControlFrame (h : Lined s) (params : PktParams) (c : ControlFrame) (notify : Bool)
    (bufSize : ℕ) (handshakeDone : Bool) :
    Lined (writeControlFrame s params c notify bufSize handshakeDone) := by
  unfold Rquic.writeControlFrame
  split
  · exact h
  · rename_i po hpo
    exact h.insertControl _ hpo

theorem sendPathChallenge (h : Lined s) (params : PktParams) (data : Bytes) (now : ℕ) :
    Lined (sendPathChallenge s params data now) := by
  unfold Rquic.sendPathChallenge
  split
  · exact h
  · rename_i po hpo
    have hnew : Lined (s.insertNew .sendPackets po) := h.insertControl _ hpo
    have hnumber := hnew.arranges (setNextPn_arranges _ s.nextId now)
    exact hnumber.arranges (.shrink rfl (fun _ => rfl) fun _ => List.filter_sublist)

theorem copyTo (h : Lined s) (p : Place) {src : PktId} (hsrc : src < s.nextId) :
    Lined (copyTo s p src) := by
  unfold Rquic.copyTo
  split
  · exact h
  · rename_i copy hcopy
    have horigin := (retransmission_fields hcopy).2.1
    have hretain : Lined (s.modify ((s.pkts src).poOrigin.getD src) PacketOut.retain) :=
      h.arranges (.modify s _ fun _ => rfl)
    refine (hretain.insertNew p fun origin ho => ?_).arranges (.modify _ src fun _ => rfl)
    rw [horigin] at ho
    obtain rfl := Option.some.inj ho
    cases hsome : (s.pkts src).poOrigin with
    | none => exact hsrc
    | some origin => exact h.origin_lt src origin hsome

theorem onPacketLost (h : Lined s) {id : PktId} (hid : id < s.nextId) : Lined (onPacketLost s id) := by
  have hdec := h.arranges (.modify s id body_decreaseInflight)
  unfold Rquic.onPacketLost
  split_ifs
  · exact hdec.copyTo _ hid
  · exact hdec.arranges (removeUnacked_arranges _ id)
  · exact h

theorem detectLost (h : Lined s) (th : LossThresholds) : Lined (detectLost s th) := by
  refine (detectLost_induct (P := fun s₁ => Lined s₁ ∧ s.nextId ≤ s₁.nextId) ?_ ?_ ⟨h, le_rfl⟩).1
  · intro s₁ id hid s₂ hs₂ h₁
    have harr := indirectlyAckOrDropPo_arranges hs₂
    exact ⟨h₁.1.arranges harr, harr.nextId ▸ h₁.2⟩
  · intro s₁ id hid h₁
    have hlt : id < s₁.nextId := (h.fresh _ id hid).trans_le h₁.2
    exact ⟨h₁.1.onPacketLost hlt, h₁.2.trans (onPacketLost_ctl s₁ hlt).nextId_le⟩

theorem sendProbePkt (h : Lined s) {id : PktId} (hid : id < s.nextId) : Lined (sendProbePkt s id) := by
  unfold Rquic.sendProbePkt
  split_ifs
  · exact h
  · have hdec := h.arranges (.modify s id body_decreaseInflight)
    exact (hdec.copyTo .ptoProbePackets hid).arranges (.modify _ id fun _ => rfl)

theorem sendPingToProbe (h : Lined s) (params : PktParams) : Lined (sendPingToProbe s params) := by
  unfold Rquic.sendPingToProbe
  split
  · exact h
  · rename_i po hpo
    exact h.insertControl _ hpo

theorem sendOneOrTwoAckElicitPkts (h : Lined s) (params : PktParams) :
    Lined (sendOneOrTwoAckElicitPkts s params) := by
  refine (sendOneOrTwoAckElicitPkts_induct (P := fun s₁ => Lined s₁ ∧ s.nextId ≤ s₁.nextId)
    ?_ ?_ ?_ ⟨h, le_rfl⟩).1
  · intro s₁ id hid s₂ hs₂ h₁
    have harr := indirectlyAckOrDropPo_arranges hs₂
    exact ⟨h₁.1.arranges harr, harr.nextId ▸ h₁.2⟩
  · intro s₁ id hid h₁
    have hlt : id < s₁.nextId := (h.fresh _ id hid).trans_le h₁.2
    exact ⟨h₁.1.sendProbePkt hlt, h₁.2.trans (sendProbePkt_ctl s₁ hlt).nextId_le⟩
  · intro s₁ h₁
    exact ⟨h₁.1.sendPingToProbe params, h₁.2.trans (sendPingToProbe_ctl s₁ params).nextId_le⟩

theorem onAckReceived (h : Lined s) (info : AckInfo) (th : LossThresholds) :
    Lined (onAckReceived s info th).1 := by
  have hproc := h.arranges (ackProcess_arranges s info)
  have hlost := hproc.detectLost th
  unfold Rquic.onAckReceived
  dsimp only
  split_ifs
  · exact hproc
  · exact hlost.arranges (.shrink rfl (fun _ => rfl) fun _ => List.Sublist.refl _)
  · exact hlost

theorem writeStreamFrame (h : Lined s) {s' : SendQueue} {highPri : Bool} {params : PktParams}
    {streamId offset n : ℕ} {fin : Bool} {payload : Bytes}
    (hw : writeStreamFrame s highPri params streamId offset fin payload = .ok (s', n)) : Lined s' := by
  rcases writeStreamFrame_cases hw with ⟨id, po, -, hgen, rfl⟩ | ⟨po₀, po, hpo₀, hgen, rfl⟩
  · have hframe := (genStreamFrame_frame hgen).2
    exact h.arranges (.fill (congrArg PacketOut.poOrigin hframe :))
  · have hframe := (genStreamFrame_frame hgen).2
    have horigin : po.poOrigin = po₀.poOrigin := (congrArg PacketOut.poOrigin hframe :)
    refine h.insertNew _ fun origin ho => ?_
    rw [horigin, (newPacket_fields hpo₀).2.2.2] at ho
    cases ho

theorem writeAckToPackets (h : Lined s) (params : PktParams) (ackDelay ackDelayExponent : ℕ) :
    Lined (writeAckToPackets s params ackDelay ackDelayExponent) := by
  rcases writeAckToPackets_cases s params ackDelay ackDelayExponent with heq |
    ⟨id, po, -, -, hpo, heq⟩ | ⟨po₀, po, hpo₀, hpo, heq⟩
  · rw [heq]
    exact h
  · have hframe := writeAckToOnePacket_frame hpo
    rw [heq]
    exact h.arranges (.fill (congrArg PacketOut.poOrigin hframe :))
  · have horigin : po.poOrigin = po₀.poOrigin :=
      (congrArg PacketOut.poOrigin (writeAckToOnePacket_frame hpo) :)
    rw [heq]
    refine h.insertNew _ fun origin ho => ?_
    rw [horigin, (newPacket_fields hpo₀).2.2.2] at ho
    cases ho

/-- **Every event leaves a packet in at most one list**, and there once. -/
theorem step (h : Lined s) (ev : SendEvent) : Lined (s.step ev) := by
  cases ev with
  | control params c notify bufSize handshakeDone =>
      exact h.writeControlFrame params c notify bufSize handshakeDone
  | stream highPri params streamId offset fin payload =>
      rw [SendQueue.step]
      split
      · exact h
      · rename_i s' n hw
        exact h.writeStreamFrame hw
  | ack params ackDelay ackDelayExponent =>
      exact h.writeAckToPackets params ackDelay ackDelayExponent
  | schedule t => exact h.arranges (schedulePacket_arranges h.fresh t)
  | clear t => exact h.arranges (h.pathSendBufferClear_arranges t)
  | send t outcome srtt now => exact h.arranges (sendPacket_arranges h.fresh t outcome srtt now)
  | numberUnsent t n now => exact h.arranges (numberUnsent_arranges s t n now)
  | pathChallenge params data now => exact h.sendPathChallenge params data now
  | buff1rtt => exact h.arranges h.buff1rttPackets_arranges
  | writeBuffed1rtt => exact h.arranges h.writeBuffed1rttPackets_arranges
  | ackReceived info th => exact h.onAckReceived info th
  | lossTimeout th => exact h.detectLost th
  | probeTimeout params => exact h.sendOneOrTwoAckElicitPkts params
  | dropStream streamId => exact h.arranges (dropStreamFramePackets_arranges s streamId)
  | recvPacket pktNum => exact h.arranges (.shrink rfl (fun _ => rfl) fun _ => List.Sublist.refl _)

end Lined

/-- **In every run a packet stands in at most one list, and there once.** -/
theorem run_lined (evs : List SendEvent) : Lined (SendQueue.run {} evs) := by
  induction evs using List.reverseRecOn with
  | nil => exact .init
  | append_singleton evs ev ih =>
      rw [SendQueue.run_append]
      exact ih.step ev

end Rquic

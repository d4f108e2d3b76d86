import Rquic.SendCtl.Counters
import Rquic.SendQueue.Places

set_option autoImplicit false

/-!
# Every list operation keeps the counters

* `SendQueue.listed`: the packets in the lists.
* `Counted`: the counters are the lengths of the lists, and a packet stands in one list only, but for
  those that have just been taken out.
* `Counted.insertNew`, `Counted.insertFree`, `Counted.removeUnacked`, ...: every operation.
-/

namespace Rquic

open SendCtl (allPlaces)

/-- The packets in the lists of the queue and of the path. -/
def SendQueue.listed (s : SendQueue) : List PktId := items allPlaces s.lists

theorem mem_allPlaces (p : Place) : p ∈ allPlaces := by
  cases p with
  | scheduleBuf t => cases t <;> decide
  | _ => decide

theorem nodup_allPlaces : allPlaces.Nodup := by decide

section Listed

variable {s s' : SendQueue} {id : PktId} {p : Place}

theorem mem_listed : id ∈ s.listed ↔ ∃ p, id ∈ s.lists p := by
  rw [SendQueue.listed, mem_items]
  exact ⟨fun ⟨p, _, h⟩ => ⟨p, h⟩, fun ⟨p, h⟩ => ⟨p, mem_allPlaces p, h⟩⟩

theorem listed_of_mem (h : id ∈ s.lists p) : id ∈ s.listed := mem_listed.2 ⟨p, h⟩

theorem listed_unlink (s : SendQueue) (id : PktId) :
    (s.unlink id).listed = s.listed.filter (· ≠ id) := by
  unfold SendQueue.listed SendQueue.unlink
  exact items_filter _

theorem listed_pushTail (s : SendQueue) (p : Place) (id : PktId) :
    (s.pushTail p id).listed.Perm (id :: s.listed) :=
  items_push (mem_allPlaces p) nodup_allPlaces id

theorem listed_insertNew (s : SendQueue) (p : Place) (po : PacketOut) :
    (s.insertNew p po).listed.Perm (s.nextId :: s.listed) :=
  items_push (mem_allPlaces p) nodup_allPlaces s.nextId

theorem schedulePacket_listed (hnodup : s.listed.Nodup) (t : SendType) :
    (schedulePacket s t).listed.Perm s.listed := by
  unfold schedulePacket
  split
  · exact .refl _
  · rename_i id ids hids
    have hmem : id ∈ s.listed := listed_of_mem (hids ▸ List.mem_cons_self)
    have hpush := listed_pushTail (s.unlink id) (.scheduleBuf t) id
    rw [listed_unlink] at hpush
    exact hpush.trans (perm_cons_filter_ne hnodup hmem)

theorem pathSendBufferClear_listed (s : SendQueue) (t : SendType) :
    (pathSendBufferClear s t).listed.Perm s.listed := by
  have hne : Place.scheduleBuf t ≠ t.source := by cases t <;> exact nofun
  exact items_carry (mem_allPlaces _) (mem_allPlaces _) hne nodup_allPlaces (.refl _)

theorem buff1rttPackets_listed (s : SendQueue) : (buff1rttPackets s).listed.Perm s.listed := by
  have hne : Place.sendPackets ≠ .buff1rttPackets := nofun
  refine items_carry (mem_allPlaces _) (mem_allPlaces _) hne nodup_allPlaces ?_
  have hsplit := List.filter_append_perm (fun id => decide ((s.pkts id).pktType = .shortHeader))
    (s.lists .sendPackets)
  rw [← List.append_assoc]
  refine List.perm_append_comm.trans ?_
  rw [← List.append_assoc]
  refine (List.Perm.append_right _ ?_)
  simpa only [decide_not] using hsplit

theorem writeBuffed1rttPackets_listed (s : SendQueue) :
    (writeBuffed1rttPackets s).listed.Perm s.listed := by
  have hne : Place.buff1rttPackets ≠ .sendPackets := nofun
  refine items_carry (mem_allPlaces _) (mem_allPlaces _) hne nodup_allPlaces ?_
  rw [List.nil_append]
  exact List.perm_append_comm

end Listed

/-! ## The invariant -/

/-- The counters are the lengths of the lists and every packet stands in one list, but for the packets
`out`, which have left theirs. -/
structure Counted (out : List PktId) (c : Sndq) : Prop where
  nodup : (c.listed ++ (out ++ c.freePackets)).Nodup
  lt : ∀ id ∈ c.listed ++ (out ++ c.freePackets), id < c.nextId
  live : c.live.Perm (c.listed ++ out)
  free : c.packetsFree = c.freePackets.length
  used : c.packetsUsed = (c.listed ++ out).length
  unacked : c.packetsInUnackedList = (c.lists .unackedPackets).length
  flag : ∀ id ∈ c.live, (c.pkts id).inUnackList = true ↔ id ∈ c.lists .unackedPackets
  noWrap : c.wrapped = false

namespace Counted

variable {out : List PktId} {c : Sndq} {id : PktId} {p : Place}

theorem init : Counted [] {} where
  nodup := List.nodup_nil
  lt _ h := by cases h
  live := .refl _
  free := rfl
  used := rfl
  unacked := rfl
  flag _ h := by cases h
  noWrap := rfl

theorem nodup_listed (h : Counted out c) : c.listed.Nodup := (List.nodup_append.1 h.nodup).1

theorem mem_live (h : Counted out c) : id ∈ c.live ↔ id ∈ c.listed ∨ id ∈ out := by
  rw [h.live.mem_iff, List.mem_append]

theorem not_out (h : Counted out c) (hid : id ∈ c.listed) : id ∉ out := fun hout =>
  (List.nodup_append.1 h.nodup).2.2 id hid id (List.mem_append_left _ hout) rfl

theorem not_free (h : Counted out c) (hid : id ∈ c.live) : id ∉ c.freePackets := by
  intro hfree
  have hnodup := h.nodup
  rw [← List.append_assoc] at hnodup
  exact (List.nodup_append.1 hnodup).2.2 id (h.live.mem_iff.1 hid) id hfree rfl

theorem place (h : Counted out c) {q : Place} (hp : id ∈ c.lists p) (hq : id ∈ c.lists q) : p = q :=
  shelf_unique h.nodup_listed (mem_allPlaces p) (mem_allPlaces q) hp hq

theorem flag_iff (h : Counted out c) (hid : id ∈ c.listed) :
    (c.pkts id).inUnackList = true ↔ id ∈ c.lists .unackedPackets := h.flag id (h.mem_live.2 (.inl hid))

theorem onQueue (h : Counted out c) {f : SendQueue → SendQueue}
    (hlisted : (f c.toSendQueue).listed.Perm c.listed)
    (hunacked : ((f c.toSendQueue).lists .unackedPackets) = c.lists .unackedPackets)
    (hnext : (f c.toSendQueue).nextId = c.nextId)
    (hflag : ∀ id, ((f c.toSendQueue).pkts id).inUnackList = (c.pkts id).inUnackList) :
    Counted out (c.onQueue f) where
  nodup := (hlisted.append_right _).nodup_iff.2 h.nodup
  lt id hid := by
    have hlt := h.lt id ((hlisted.append_right _).mem_iff.1 hid)
    exact hlt.trans_eq hnext.symm
  live := h.live.trans (hlisted.append_right _).symm
  free := h.free
  used := h.used.trans (hlisted.append_right _).length_eq.symm
  unacked := h.unacked.trans (congrArg List.length hunacked).symm
  flag id hid := by
    have hiff := h.flag id hid
    rw [← hflag id, ← hunacked] at hiff
    exact hiff
  noWrap := h.noWrap

theorem mark (h : Counted out c) (id : PktId) {f : PacketOut → PacketOut}
    (hf : ∀ po, (f po).inUnackList = po.inUnackList) :
    Counted out (c.onQueue fun s => s.modify id f) := by
  refine h.onQueue (.refl _) rfl rfl fun id' => ?_
  by_cases hid : id' = id
  · rw [hid, SendQueue.modify_pkts_self, hf]
  · rw [SendQueue.modify_pkts_of_ne _ _ hid]

/-! ## Out of a list -/

/-- A packet that is not in the list of unacknowledged packets leaves its list. -/
theorem delInit (h : Counted out c) (hid : id ∈ c.listed) (hun : id ∉ c.lists .unackedPackets) :
    Counted (id :: out) (c.delInit id) := by
  have hfree : c.freePackets.filter (· ≠ id) = c.freePackets := by
    refine List.filter_eq_self.2 fun id' hid' => decide_eq_true ?_
    rintro rfl
    exact h.not_free (h.mem_live.2 (.inl hid)) hid'
  have hunlink : (c.delInit id).listed = c.listed.filter (· ≠ id) := listed_unlink c.toSendQueue id
  have hperm := perm_cons_filter_ne h.nodup_listed hid
  have hperm' : ((c.delInit id).listed ++ id :: out).Perm (c.listed ++ out) := by
    rw [hunlink]
    exact List.perm_middle.trans (hperm.append_right out)
  have hall : ((c.delInit id).listed ++ (id :: out ++ (c.delInit id).freePackets)).Perm
      (c.listed ++ (out ++ c.freePackets)) := by
    have hrest := hperm'.append_right c.freePackets
    rw [List.append_assoc, List.append_assoc] at hrest
    exact (congrArg (fun l => (c.delInit id).listed ++ (id :: out ++ l)) hfree ▸ hrest :)
  have hunacked : (c.delInit id).lists .unackedPackets = c.lists .unackedPackets := by
    refine List.filter_eq_self.2 fun id' hid' => decide_eq_true ?_
    rintro rfl
    exact hun hid'
  refine ⟨hall.nodup_iff.2 h.nodup, fun id' hid' => h.lt id' (hall.mem_iff.1 hid'),
    h.live.trans hperm'.symm, ?_, h.used.trans hperm'.length_eq.symm, ?_, fun id' hid' => ?_, h.noWrap⟩
  · exact h.free.trans (congrArg List.length hfree).symm
  · rw [hunacked]
    exact h.unacked
  · rw [hunacked]
    exact h.flag id' hid'

/-- A packet of the list of unacknowledged packets leaves it, and the counter counts it. -/
theorem leaveUnacked (h : Counted out c) (hid : id ∈ c.lists .unackedPackets) :
    Counted (id :: out) (c.removeUnacked id) ∧ 0 < c.packetsInUnackedList := by
  have hlisted := listed_of_mem hid
  have hflag : (c.pkts id).inUnackList = true := (h.flag_iff hlisted).2 hid
  have hperm := perm_cons_filter_ne (nodup_shelf h.nodup_listed (mem_allPlaces .unackedPackets)) hid
  have hlength := hperm.length_eq
  rw [List.length_cons] at hlength
  have hpos : 0 < c.packetsInUnackedList := by
    rw [h.unacked]
    omega
  have hfree : c.freePackets.filter (· ≠ id) = c.freePackets := by
    refine List.filter_eq_self.2 fun id' hid' => decide_eq_true ?_
    rintro rfl
    exact h.not_free (h.mem_live.2 (.inl hlisted)) hid'
  have hremove : c.removeUnacked id = { c.delInit id with
      toSendQueue := (c.toSendQueue.unlink id).modify id PacketOut.leaveUnackList
      packetsInUnackedList := c.packetsInUnackedList - 1 } := by
    unfold Sndq.removeUnacked
    rw [if_pos hflag, if_neg hpos.ne']
    rfl
  have hlisted' : (c.removeUnacked id).listed = c.listed.filter (· ≠ id) := by
    rw [hremove]
    exact listed_unlink c.toSendQueue id
  have hfree' : (c.removeUnacked id).freePackets = c.freePackets := by
    rw [hremove]
    exact hfree
  have hperm' : ((c.removeUnacked id).listed ++ id :: out).Perm (c.listed ++ out) := by
    rw [hlisted']
    exact List.perm_middle.trans ((perm_cons_filter_ne h.nodup_listed hlisted).append_right out)
  have hall : ((c.removeUnacked id).listed ++ (id :: out ++ (c.removeUnacked id).freePackets)).Perm
      (c.listed ++ (out ++ c.freePackets)) := by
    have hrest := hperm'.append_right c.freePackets
    rw [List.append_assoc, List.append_assoc] at hrest
    rwa [hfree']
  refine ⟨⟨hall.nodup_iff.2 h.nodup, fun id' hid' => ?_, ?_, ?_, ?_, ?_, fun id' hid' => ?_, ?_⟩, hpos⟩
  · have hlt := h.lt id' (hall.mem_iff.1 hid')
    rw [hremove]
    exact hlt
  · rw [hremove] at hperm' ⊢
    exact h.live.trans hperm'.symm
  · rw [hfree', hremove]
    exact h.free
  · rw [hremove] at hperm' ⊢
    exact h.used.trans hperm'.length_eq.symm
  · rw [hremove]
    have hunacked := h.unacked
    change c.packetsInUnackedList - 1 = ((c.lists .unackedPackets).filter (· ≠ id)).length
    omega
  · rw [hremove] at hid' ⊢
    change ((SendQueue.modify _ id PacketOut.leaveUnackList).pkts id').inUnackList = true ↔
      id' ∈ (c.lists .unackedPackets).filter (· ≠ id)
    rw [List.mem_filter, decide_eq_true_eq]
    by_cases hne : id' = id
    · rw [hne, SendQueue.modify_pkts_self]
      exact iff_of_false nofun fun habs => habs.2 rfl
    · rw [SendQueue.modify_pkts_of_ne _ _ hne, SendQueue.unlink_pkts, h.flag id' hid']
      exact ⟨fun hmem => ⟨hmem, hne⟩, And.left⟩
  · rw [hremove]
    exact h.noWrap

theorem removeUnacked (h : Counted out c) (hid : id ∈ c.listed) :
    Counted (id :: out) (c.removeUnacked id) := by
  by_cases hun : id ∈ c.lists .unackedPackets
  · exact (h.leaveUnacked hun).1
  · have hflag : ¬ (c.pkts id).inUnackList = true := fun habs => hun ((h.flag_iff hid).1 habs)
    have hremove : c.removeUnacked id = c.delInit id := by rw [Sndq.removeUnacked, if_neg hflag]
    rw [hremove]
    exact h.delInit hid hun

theorem pathSendBufferRemove (h : Counted out c) (hid : id ∈ c.listed)
    (hun : id ∉ c.lists .unackedPackets) : Counted (id :: out) (c.pathSendBufferRemove id) :=
  (h.delInit hid hun).mark id fun _ => rfl

/-! ## Into a list -/

theorem insertFree (h : Counted (id :: out) c) : Counted out (c.insertFree id) := by
  have hused : 0 < c.packetsUsed := by
    rw [h.used, List.length_append, List.length_cons]
    omega
  have hall : (c.listed ++ (out ++ (c.freePackets ++ [id]))).Perm
      (c.listed ++ (id :: out ++ c.freePackets)) := by
    refine List.Perm.append_left _ ?_
    rw [← List.append_assoc]
    exact List.perm_append_singleton _ _
  have hnot : id ∉ c.listed ++ out := by
    have hnodup := h.nodup
    intro hmem
    rcases List.mem_append.1 hmem with hmem | hmem
    · exact h.not_out hmem List.mem_cons_self
    · have hout := (List.nodup_append.1 hnodup).2.1
      exact (List.nodup_cons.1 (List.nodup_append.1 hout).1).1 hmem
  have hlive : (c.live.filter (· ≠ id)).Perm (c.listed ++ out) := by
    have hperm : c.live.Perm (id :: (c.listed ++ out)) := h.live.trans List.perm_middle
    refine (hperm.filter _).trans ?_
    rw [List.filter_cons_of_neg (by simp), List.filter_eq_self.2]
    intro id' hid'
    refine decide_eq_true ?_
    rintro rfl
    exact hnot hid'
  refine ⟨hall.nodup_iff.2 h.nodup, fun id' hid' => h.lt id' (hall.mem_iff.1 hid'), hlive, ?_, ?_,
    h.unacked, fun id' hid' => ?_, ?_⟩
  · change c.packetsFree + 1 = (c.freePackets ++ [id]).length
    rw [h.free, List.length_append]
    rfl
  · change decrement c.packetsUsed = (c.listed ++ out).length
    rw [decrement, if_neg hused.ne', h.used, List.length_append, List.length_append, List.length_cons]
    omega
  · exact h.flag id' (List.mem_filter.1 hid').1
  · change (c.wrapped || decide (c.packetsUsed = 0)) = false
    rw [h.noWrap, Bool.false_or]
    exact decide_eq_false hused.ne'

theorem packetOutGet (h : Counted out c) : Counted out c.packetOutGet := by
  unfold Sndq.packetOutGet
  cases hfree : c.freePackets with
  | nil => exact h
  | cons id rest =>
      have hlength : c.packetsFree = rest.length + 1 := by rw [h.free, hfree, List.length_cons]
      have hsub : (c.listed ++ (out ++ rest)).Sublist (c.listed ++ (out ++ c.freePackets)) := by
        rw [hfree]
        exact ((List.sublist_cons_self id rest).append_left out).append_left _
      refine ⟨h.nodup.sublist hsub, fun id' hid' => h.lt id' (hsub.subset hid'), h.live, ?_, h.used,
        h.unacked, h.flag, ?_⟩
      · change decrement c.packetsFree = rest.length
        rw [decrement, if_neg (by omega), hlength]
        rfl
      · change (c.wrapped || decide (c.packetsFree = 0)) = false
        rw [h.noWrap, Bool.false_or]
        exact decide_eq_false (by omega)

theorem packetOutGet_toSendQueue (c : Sndq) : c.packetOutGet.toSendQueue = c.toSendQueue := by
  unfold Sndq.packetOutGet
  split <;> rfl

theorem insertNew (h : Counted out c) {p : Place} (hp : p ≠ .unackedPackets) {po : PacketOut}
    (hflag : po.inUnackList = false) : Counted out (c.insertNew p po) := by
  have hget := h.packetOutGet
  have hqueue := packetOutGet_toSendQueue c
  have hlisted : (c.insertNew p po).listed.Perm (c.nextId :: c.listed) :=
    listed_insertNew c.toSendQueue p po
  have hlt : ∀ id ∈ c.listed ++ (out ++ c.packetOutGet.freePackets), id < c.nextId := by
    have hlt := hget.lt
    rwa [hqueue] at hlt
  have hunacked : (c.insertNew p po).lists .unackedPackets = c.lists .unackedPackets :=
    Function.update_of_ne hp.symm ..
  have hperm : ((c.insertNew p po).listed ++ (out ++ c.packetOutGet.freePackets)).Perm
      (c.nextId :: (c.listed ++ (out ++ c.packetOutGet.freePackets))) := hlisted.append_right _
  have hnew : c.nextId ∉ c.listed ++ out := fun hmem => by
    have hmem' : c.nextId ∈ c.listed ++ (out ++ c.packetOutGet.freePackets) := by
      rw [← List.append_assoc]
      exact List.mem_append_left _ hmem
    exact lt_irrefl _ (hlt _ hmem')
  refine ⟨?_, fun id hid => ?_, ?_, hget.free, ?_, ?_, fun id hid => ?_, hget.noWrap⟩
  · refine hperm.nodup_iff.2 (List.nodup_cons.2 ⟨fun hmem => lt_irrefl _ (hlt _ hmem), ?_⟩)
    have hnodup := hget.nodup
    rwa [hqueue] at hnodup
  · change id < c.nextId + 1
    rcases List.mem_cons.1 (hperm.mem_iff.1 hid) with rfl | hid
    · exact Nat.lt_succ_self _
    · exact Nat.lt_succ_of_lt (hlt id hid)
  · change (c.live ++ [c.nextId]).Perm ((c.insertNew p po).listed ++ out)
    have hlive : (c.live ++ [c.nextId]).Perm (c.nextId :: (c.listed ++ out)) :=
      (List.perm_append_singleton _ _).trans (h.live.cons _)
    exact hlive.trans (hlisted.append_right out).symm
  · change c.packetsUsed + 1 = _
    rw [(hlisted.append_right out).length_eq, h.used]
    rfl
  · rw [hunacked]
    exact hget.unacked.trans (by rw [hqueue])
  · rw [hunacked]
    change id ∈ c.live ++ [c.nextId] at hid
    have hpkts : (c.insertNew p po).pkts = (c.toSendQueue.insertNew p po).pkts := rfl
    rw [hpkts]
    by_cases hne : id = c.nextId
    · rw [hne, SendQueue.insertNew_pkts_nextId, hflag]
      refine iff_of_false nofun fun habs => hnew (List.mem_append_left _ (listed_of_mem habs))
    · rw [SendQueue.insertNew_pkts_of_ne _ _ _ hne]
      refine h.flag id ((List.mem_append.1 hid).resolve_right fun habs => ?_)
      exact hne (List.mem_singleton.1 habs)

/-- A packet that was sent is put into the list of unacknowledged packets. -/
theorem insertUnacked (h : Counted (id :: out) c) : Counted out (c.insertUnacked id) := by
  have hlive : id ∈ c.live := h.mem_live.2 (.inr List.mem_cons_self)
  have hnot : id ∉ c.listed := fun hid => h.not_out hid List.mem_cons_self
  have hflag : (c.pkts id).inUnackList = false := by
    rw [← Bool.not_eq_true, h.flag id hlive]
    exact fun habs => hnot (listed_of_mem habs)
  have hlisted : (c.insertUnacked id).listed.Perm (id :: c.listed) :=
    listed_pushTail c.toSendQueue .unackedPackets id
  have hunacked : (c.insertUnacked id).lists .unackedPackets = c.lists .unackedPackets ++ [id] := by
    simp [Sndq.insertUnacked, SendQueue.pushTail]
  have hperm : ((c.insertUnacked id).listed ++ out).Perm (c.listed ++ id :: out) :=
    (hlisted.append_right out).trans List.perm_middle.symm
  have hall : ((c.insertUnacked id).listed ++ (out ++ c.freePackets)).Perm
      (c.listed ++ (id :: out ++ c.freePackets)) :=
    (hlisted.append_right _).trans List.perm_middle.symm
  refine ⟨hall.nodup_iff.2 h.nodup, fun id' hid' => h.lt id' (hall.mem_iff.1 hid'),
    h.live.trans hperm.symm, h.free, h.used.trans hperm.length_eq.symm, ?_, fun id' hid' => ?_, h.noWrap⟩
  · rw [hunacked, List.length_append, ← h.unacked]
    change (if (c.pkts id).inUnackList then _ else _) = _
    rw [hflag]
    rfl
  · rw [hunacked, List.mem_append, List.mem_singleton]
    change ((SendQueue.modify _ id PacketOut.enterUnackList).pkts id').inUnackList = true ↔ _
    by_cases hne : id' = id
    · rw [hne, SendQueue.modify_pkts_self]
      exact iff_of_true rfl (.inr rfl)
    · rw [SendQueue.modify_pkts_of_ne _ _ hne, SendQueue.pushTail_pkts, h.flag id' hid']
      exact ⟨.inl, fun hor => hor.resolve_right hne⟩

end Counted

end Rquic

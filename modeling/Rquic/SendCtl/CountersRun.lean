import Rquic.SendCtl.CountersInv

set_option autoImplicit false

/-!
# Runs of the send queue with its counters

* `Kept`: the origin of a copy is among the unacknowledged packets, and counts its copies. So no packet
  is freed while a copy refers to it, and none is freed twice.
* `SndqInv.step`: every event but `rqc_send_queue_drop_packets` keeps this and the counters.
* **`exact_run_iff`**: the counters are right in a whole run exactly if `rqc_send_queue_drop_packets` never
  meets a packet.
-/

namespace Rquic

open SendCtl (allPlaces)

/-! ## Origins and copies -/

/-- What the copies of a packet have of it. -/
structure SendQueue.OriginOf (s : SendQueue) (o : PktId) (po : PacketOut) : Prop where
  mem : o ∈ s.lists .unackedPackets
  root : (s.pkts o).poOrigin = none
  types : po.poFrameTypes = (s.pkts o).poFrameTypes.erase .ack
  slots : po.poStreamFrames = (s.pkts o).poStreamFrames
  notify : po.notify = (s.pkts o).notify
  repair : needRepair (s.pkts o).poFrameTypes ∨ (s.pkts o).notify = true

/-- The number of the copies that refer to a packet. -/
def SendQueue.copyCount (s : SendQueue) (o : PktId) : ℕ :=
  s.listed.countP fun id => (s.pkts id).poOrigin = some o

/-- Origins are among the unacknowledged packets and count their copies, those in the lists and those
that have left theirs, one of `held` for each. -/
structure Kept (held : List PktId) (s : SendQueue) : Prop where
  origin : ∀ id ∈ s.listed, ∀ o, (s.pkts id).poOrigin = some o → s.OriginOf o (s.pkts id)
  refs : ∀ o ∈ s.listed, (s.pkts o).poOrigin = none →
    (s.pkts o).poOriginRefCnt = s.copyCount o + held.count o
  eliciting : ∀ id ∈ s.lists .unackedPackets, isAckEliciting (s.pkts id).poFrameTypes
  pathBuf : ∀ id ∈ s.lists .unackedPackets, (s.pkts id).inPathBufList = false
  copies : ∀ p, p.fillable = true → ∀ id ∈ s.lists p, (s.pkts id).poOrigin = none

/-- What of a packet never changes while a copy of it is there. -/
def PacketOut.kin (po : PacketOut) : Finset FrameType × List PoStreamFrame × Bool × Option PktId :=
  (po.poFrameTypes, po.poStreamFrames, po.notify, po.poOrigin)

section Kin

variable {s s' : SendQueue} {o id : PktId} {po po' : PacketOut}

theorem PacketOut.kin_of_body (h : po'.body = po.body) : po'.kin = po.kin :=
  (congrArg PacketOut.kin h :)

theorem PacketOut.poOrigin_of_kin (h : po'.kin = po.kin) : po'.poOrigin = po.poOrigin := by
  simp only [PacketOut.kin, Prod.mk.injEq] at h
  exact h.2.2.2

theorem PacketOut.types_of_kin (h : po'.kin = po.kin) : po'.poFrameTypes = po.poFrameTypes := by
  simp only [PacketOut.kin, Prod.mk.injEq] at h
  exact h.1

theorem SendQueue.OriginOf.congr (h : s.OriginOf o po) (hmem : o ∈ s'.lists .unackedPackets)
    (hkin : (s'.pkts o).kin = (s.pkts o).kin) (hkin' : po'.kin = po.kin) : s'.OriginOf o po' := by
  simp only [PacketOut.kin, Prod.mk.injEq] at hkin hkin'
  obtain ⟨htypes, hslots, hnotify, horigin⟩ := hkin
  obtain ⟨htypes', hslots', hnotify', -⟩ := hkin'
  refine ⟨hmem, horigin.trans h.root, ?_, ?_, ?_, ?_⟩
  · rw [htypes', htypes, h.types]
  · rw [hslots', hslots, h.slots]
  · rw [hnotify', hnotify, h.notify]
  · rw [htypes, hnotify]
    exact h.repair

/-- A copy needs repair, or tells the application, as its origin does. -/
theorem SendQueue.OriginOf.repair_self (h : s.OriginOf o po) :
    needRepair po.poFrameTypes ∨ po.notify = true := by
  rw [h.types, h.notify]
  refine h.repair.imp_left fun ⟨t, ht, hneed⟩ => ⟨t, Finset.mem_erase.2 ⟨?_, ht⟩, hneed⟩
  rintro rfl
  cases hneed

theorem isAckEliciting_erase_ack {types : Finset FrameType} :
    isAckEliciting (types.erase .ack) ↔ isAckEliciting types := by
  refine ⟨fun ⟨t, ht, hask⟩ => ⟨t, Finset.mem_of_mem_erase ht, hask⟩, fun ⟨t, ht, hask⟩ => ?_⟩
  refine ⟨t, Finset.mem_erase.2 ⟨?_, ht⟩, hask⟩
  rintro rfl
  cases hask

/-! ### Counting copies -/

theorem copyCount_congr (hlisted : s'.listed.Perm s.listed)
    (horigin : ∀ id ∈ s.listed, (s'.pkts id).poOrigin = (s.pkts id).poOrigin) :
    s'.copyCount o = s.copyCount o := by
  unfold SendQueue.copyCount
  rw [hlisted.countP_eq]
  exact List.countP_congr fun id hid => by rw [horigin id hid]

theorem copyCount_unlink (hnodup : s.listed.Nodup) (hid : id ∈ s.listed) :
    s.copyCount o = (s.unlink id).copyCount o + (s.pkts id).poOrigin.toList.count o := by
  unfold SendQueue.copyCount
  rw [listed_unlink, ← (perm_cons_filter_ne hnodup hid).countP_eq, List.countP_cons,
    SendQueue.unlink_pkts]
  congr 1
  cases (s.pkts id).poOrigin with
  | none => simp
  | some o' => simp [List.count_singleton, beq_iff_eq]

theorem copyCount_pushTail {p : Place} :
    (s.pushTail p id).copyCount o = s.copyCount o + (s.pkts id).poOrigin.toList.count o := by
  unfold SendQueue.copyCount
  rw [(listed_pushTail s p id).countP_eq, List.countP_cons, SendQueue.pushTail_pkts]
  congr 1
  cases (s.pkts id).poOrigin with
  | none => simp
  | some o' => simp [List.count_singleton, beq_iff_eq]

theorem copyCount_eq_zero : s.copyCount o = 0 ↔ ∀ id ∈ s.listed, (s.pkts id).poOrigin ≠ some o := by
  rw [SendQueue.copyCount, List.countP_eq_zero]
  exact forall₂_congr fun id _ => by rw [decide_eq_true_eq]

end Kin

namespace Kept

variable {held held' : List PktId} {s s' : SendQueue} {id o : PktId} {p : Place}

theorem init : Kept [] {} where
  origin _ h := by cases h
  refs _ h := by cases h
  eliciting _ h := by cases h
  pathBuf _ h := by cases h
  copies _ _ _ h := by cases h

theorem shrink (h : Kept held s) (hlists : ∀ p, s'.lists p ⊆ s.lists p)
    (hkin : ∀ id ∈ s'.listed, (s'.pkts id).kin = (s.pkts id).kin)
    (hpath : ∀ id ∈ s'.lists .unackedPackets, (s.pkts id).inPathBufList = false →
      (s'.pkts id).inPathBufList = false)
    (horigin : ∀ id ∈ s'.listed, ∀ o, (s.pkts id).poOrigin = some o → o ∈ s'.lists .unackedPackets)
    (hrefs : ∀ o ∈ s'.listed, (s.pkts o).poOrigin = none →
      (s'.pkts o).poOriginRefCnt = s'.copyCount o + held'.count o) : Kept held' s' := by
  have hsame : ∀ id ∈ s'.listed, (s'.pkts id).poOrigin = (s.pkts id).poOrigin :=
    fun id hid => PacketOut.poOrigin_of_kin (hkin id hid)
  have hlisted : ∀ id ∈ s'.listed, id ∈ s.listed := fun id hid => by
    obtain ⟨p, hp⟩ := mem_listed.1 hid
    exact listed_of_mem (hlists p hp)
  refine ⟨fun id hid o ho => ?_, fun o ho hroot => ?_, fun id hid => ?_, fun id hid => ?_,
    fun p hp id hid => ?_⟩
  · rw [hsame id hid] at ho
    have hmem := horigin id hid o ho
    exact (h.origin id (hlisted id hid) o ho).congr hmem (hkin o (listed_of_mem hmem)) (hkin id hid)
  · rw [hsame o ho] at hroot
    exact hrefs o ho hroot
  · rw [PacketOut.types_of_kin (hkin id (listed_of_mem hid))]
    exact h.eliciting id (hlists _ hid)
  · exact hpath id hid (h.pathBuf id (hlists _ hid))
  · rw [hsame id (listed_of_mem hid)]
    exact h.copies p hp id (hlists p hid)

theorem mark (h : Kept held s) (hlists : s'.lists = s.lists)
    (hkin : ∀ id ∈ s.listed, (s'.pkts id).kin = (s.pkts id).kin)
    (hrefs : ∀ id ∈ s.listed, (s.pkts id).poOrigin = none →
      (s'.pkts id).poOriginRefCnt + held.count id = (s.pkts id).poOriginRefCnt + held'.count id)
    (hpath : ∀ id ∈ s.lists .unackedPackets, (s.pkts id).inPathBufList = false →
      (s'.pkts id).inPathBufList = false) : Kept held' s' := by
  have hlisted : s'.listed = s.listed := by rw [SendQueue.listed, hlists, SendQueue.listed]
  refine h.shrink (fun p => hlists ▸ List.Subset.refl _) (hlisted ▸ hkin) (hlists ▸ hpath)
    (fun id hid o ho => ?_) fun o ho hroot => ?_
  · rw [hlists]
    exact (h.origin id (hlisted ▸ hid) o ho).mem
  · rw [hlisted] at ho
    have hcount : s'.copyCount o = s.copyCount o :=
      copyCount_congr (hlisted ▸ .refl _) fun id hid => PacketOut.poOrigin_of_kin (hkin id hid)
    have hold := h.refs o ho hroot
    have hnew := hrefs o ho hroot
    omega

theorem relist (h : Kept held s) (hpkts : s'.pkts = s.pkts) (hlisted : s'.listed.Perm s.listed)
    (hunacked : s'.lists .unackedPackets = s.lists .unackedPackets)
    (hcopies : ∀ p, p.fillable = true → ∀ id ∈ s'.lists p, (s.pkts id).poOrigin = none) :
    Kept held s' := by
  refine ⟨fun id hid o ho => ?_, fun o ho hroot => ?_, fun id hid => ?_, fun id hid => ?_,
    fun p hp id hid => ?_⟩
  · rw [hpkts] at ho ⊢
    have hof := h.origin id (hlisted.mem_iff.1 hid) o ho
    exact hof.congr (hunacked ▸ hof.mem) (by rw [hpkts]) rfl
  · rw [copyCount_congr hlisted fun _ _ => by rw [hpkts]]
    rw [hpkts] at hroot ⊢
    exact h.refs o (hlisted.mem_iff.1 ho) hroot
  · rw [hpkts]
    exact h.eliciting id (hunacked ▸ hid)
  · rw [hpkts]
    exact h.pathBuf id (hunacked ▸ hid)
  · rw [hpkts]
    exact hcopies p hp id hid

theorem unlink (h : Kept held s) (hnodup : s.listed.Nodup) (hid : id ∈ s.listed)
    (hnone : s.copyCount id = 0) : Kept ((s.pkts id).poOrigin.toList ++ held) (s.unlink id) := by
  have hsub : ∀ id' ∈ (s.unlink id).listed, id' ∈ s.listed := by
    rw [listed_unlink]
    exact fun id' hid' => (List.mem_filter.1 hid').1
  refine h.shrink (fun p => List.filter_sublist.subset) (fun _ _ => rfl) (fun _ _ hfalse => hfalse)
    (fun id' hid' o ho => ?_) fun o ho hroot => ?_
  · refine List.mem_filter.2 ⟨(h.origin id' (hsub id' hid') o ho).mem, decide_eq_true ?_⟩
    rintro rfl
    exact copyCount_eq_zero.1 hnone id' (hsub id' hid') ho
  · have hcount := @copyCount_unlink s o id hnodup hid
    rw [List.count_append, SendQueue.unlink_pkts, h.refs o (hsub o ho) hroot]
    omega

theorem pushTail (h : Kept ((s.pkts id).poOrigin.toList ++ held) s) (hid : id ∉ s.listed)
    (hcopy : ∀ o, (s.pkts id).poOrigin = some o → s.OriginOf o (s.pkts id))
    (hroot : (s.pkts id).poOrigin = none →
      (s.pkts id).poOriginRefCnt = s.copyCount id + held.count id)
    (hunacked : p = .unackedPackets →
      isAckEliciting (s.pkts id).poFrameTypes ∧ (s.pkts id).inPathBufList = false)
    (hholds : p.fillable = true → (s.pkts id).poOrigin = none) : Kept held (s.pushTail p id) := by
  have hmem : ∀ {id'}, id' ∈ (s.pushTail p id).listed ↔ id' = id ∨ id' ∈ s.listed := by
    intro id'
    rw [(listed_pushTail s p id).mem_iff, List.mem_cons]
  have hstay : ∀ {o}, o ∈ s.lists .unackedPackets → o ∈ (s.pushTail p id).lists .unackedPackets :=
    fun ho => SendQueue.mem_pushTail.2 (.inl ho)
  refine ⟨fun id' hid' o ho => ?_, fun o ho horigin => ?_, fun id' hid' => ?_, fun id' hid' => ?_,
    fun q hq id' hid' => ?_⟩
  · rcases hmem.1 hid' with rfl | hid'
    · exact (hcopy o ho).congr (hstay (hcopy o ho).mem) rfl rfl
    · have hof := h.origin id' hid' o ho
      exact hof.congr (hstay hof.mem) rfl rfl
  · rw [copyCount_pushTail, SendQueue.pushTail_pkts]
    rcases hmem.1 ho with rfl | ho
    · have hself : (s.pkts o).poOrigin = none := horigin
      rw [hroot hself, hself]
      rfl
    · rw [h.refs o ho horigin, List.count_append]
      omega
  · rcases SendQueue.mem_pushTail.1 hid' with hid' | ⟨hp, rfl⟩
    · exact h.eliciting id' hid'
    · exact (hunacked hp.symm).1
  · rcases SendQueue.mem_pushTail.1 hid' with hid' | ⟨hp, rfl⟩
    · exact h.pathBuf id' hid'
    · exact (hunacked hp.symm).2
  · rcases SendQueue.mem_pushTail.1 hid' with hid' | ⟨rfl, rfl⟩
    · exact h.copies q hq id' hid'
    · exact hholds hq

theorem insertNew {po : PacketOut} (h : Kept (po.poOrigin.toList ++ held) s)
    (hlt : ∀ id ∈ s.listed, id < s.nextId) (hheld : ∀ o ∈ held, o < s.nextId)
    (hcopy : ∀ o, po.poOrigin = some o → s.OriginOf o po) (hrefs : po.poOriginRefCnt = 0)
    (hp : p ≠ .unackedPackets) (hholds : p.fillable = true → po.poOrigin = none) :
    Kept held (s.insertNew p po) := by
  set s₁ : SendQueue := { s.set s.nextId po with nextId := s.nextId + 1 } with hs₁
  have hnew : s.nextId ∉ s.listed := fun habs => lt_irrefl _ (hlt _ habs)
  have hself : s₁.pkts s.nextId = po := SendQueue.set_pkts_self ..
  have hold : ∀ id ∈ s.listed, s₁.pkts id = s.pkts id := fun id hid =>
    SendQueue.set_pkts_of_ne _ _ (hlt id hid).ne
  have hkept : Kept (po.poOrigin.toList ++ held) s₁ :=
    h.mark rfl (fun id hid => by rw [hold id hid]) (fun id hid _ => by rw [hold id hid])
      fun id hid hfalse => by rwa [hold id (listed_of_mem hid)]
  have hcount : s₁.copyCount s.nextId = 0 := by
    refine copyCount_eq_zero.2 fun id hid ho => ?_
    exact hnew (listed_of_mem (hkept.origin id hid _ ho).mem)
  have hnone : held.count s.nextId = 0 := List.count_eq_zero.2 fun habs => lt_irrefl _ (hheld _ habs)
  change Kept held (s₁.pushTail p s.nextId)
  refine pushTail (by rwa [hself]) hnew (fun o ho => ?_) (fun _ => ?_) (fun habs => absurd habs hp) ?_
  · rw [hself] at ho ⊢
    have hof := hcopy o ho
    exact hof.congr hof.mem (by rw [hold o (listed_of_mem hof.mem)]) rfl
  · rw [hself, hcount, hnone, hrefs]
  · rwa [hself]

theorem fill (h : Kept held s) {po : PacketOut} (hnodup : s.listed.Nodup) (hid : id ∈ s.lists p)
    (hp : p.fillable = true) (hroot : po.poOrigin = none)
    (hrefs : po.poOriginRefCnt = (s.pkts id).poOriginRefCnt) : Kept held (s.set id po) := by
  have hnot : id ∉ s.lists .unackedPackets := fun habs =>
    Place.ne_unacked hp (shelf_unique hnodup (mem_allPlaces p) (mem_allPlaces _) hid habs)
  have hfirst : (s.pkts id).poOrigin = none := h.copies p hp id hid
  have hself : (s.set id po).pkts id = po := SendQueue.set_pkts_self ..
  have hold : ∀ {id'}, id' ≠ id → (s.set id po).pkts id' = s.pkts id' := fun hne =>
    SendQueue.set_pkts_of_ne _ _ hne
  have hunacked : ∀ id' ∈ s.lists .unackedPackets, (s.set id po).pkts id' = s.pkts id' := by
    intro id' hid'
    refine hold ?_
    rintro rfl
    exact hnot hid'
  have horigin : ∀ id', ((s.set id po).pkts id').poOrigin = (s.pkts id').poOrigin := by
    intro id'
    by_cases hne : id' = id
    · rw [hne, hself, hroot, hfirst]
    · rw [hold hne]
  refine ⟨fun id' hid' o ho => ?_, fun o ho hroot' => ?_, fun id' hid' => ?_, fun id' hid' => ?_,
    fun q hq id' hid' => ?_⟩
  · rw [horigin] at ho
    have hne : id' ≠ id := by
      rintro rfl
      rw [hfirst] at ho
      cases ho
    have hof := h.origin id' hid' o ho
    rw [hold hne]
    exact hof.congr hof.mem (by rw [hunacked o hof.mem]) rfl
  · have hcount : (s.set id po).copyCount o = s.copyCount o :=
      copyCount_congr (.refl _) fun id' _ => horigin id'
    rw [hcount]
    rw [horigin] at hroot'
    rw [← h.refs o ho hroot']
    by_cases hne : o = id
    · rw [hne, hself, hrefs]
    · rw [hold hne]
  · rw [hunacked id' hid']
    exact h.eliciting id' hid'
  · rw [hunacked id' hid']
    exact h.pathBuf id' hid'
  · rw [horigin]
    exact h.copies q hq id' hid'

end Kept

/-! ## Marks -/

/-- What of a packet the lists and the references read. -/
def PacketOut.books (po : PacketOut) : PacketOut × ℕ × Bool × Bool :=
  (po.body, po.poOriginRefCnt, po.inUnackList, po.inPathBufList)

/-- Packets are marked, but for what the lists and the references read. -/
structure Marks (s s' : SendQueue) : Prop where
  lists : s'.lists = s.lists
  nextId : s'.nextId = s.nextId
  books : ∀ id, (s'.pkts id).books = (s.pkts id).books

theorem books_decreaseInflight (po : PacketOut) : po.decreaseInflight.books = po.books := by
  unfold PacketOut.decreaseInflight
  split_ifs <;> rfl

theorem books_onAcked (po : PacketOut) : po.onAcked.books = po.books := books_decreaseInflight po

theorem books_onSent (po : PacketOut) : po.onSent.books = po.books := by
  unfold PacketOut.onSent PacketOut.increaseUnackedStreamRef PacketOut.increaseInflight
  split_ifs <;> rfl

namespace Marks

variable {s s' s'' : SendQueue}

theorem refl (s : SendQueue) : Marks s s := ⟨rfl, rfl, fun _ => rfl⟩

theorem trans (h : Marks s s') (h' : Marks s' s'') : Marks s s'' :=
  ⟨h'.lists.trans h.lists, h'.nextId.trans h.nextId, fun id => (h'.books id).trans (h.books id)⟩

theorem modify (s : SendQueue) (id : PktId) {f : PacketOut → PacketOut}
    (hf : ∀ po, (f po).books = po.books) : Marks s (s.modify id f) := by
  refine ⟨rfl, rfl, fun id' => ?_⟩
  by_cases hid : id' = id
  · rw [hid, SendQueue.modify_pkts_self, hf]
  · rw [SendQueue.modify_pkts_of_ne _ _ hid]

theorem onPacketAcked (s : SendQueue) (id : PktId) : Marks s (onPacketAcked s id) := by
  unfold Rquic.onPacketAcked
  split
  · exact modify s id books_onAcked
  · exact (modify s id books_onAcked).trans (modify _ _ fun _ => rfl)

theorem setNextPn (s : SendQueue) (id : PktId) (now : ℕ) : Marks s (setNextPn s id now) := by
  have hnumber : Marks s (s.modify id (PacketOut.number s.packetNumber now)) := modify s id fun _ => rfl
  exact ⟨rfl, rfl, hnumber.books⟩

theorem numberUnsent (s : SendQueue) (t : SendType) (n now : ℕ) : Marks s (numberUnsent s t n now) := by
  unfold Rquic.numberUnsent
  generalize (s.lists (.scheduleBuf t)).take n = ids
  induction ids generalizing s with
  | nil => exact refl s
  | cons id ids ih => exact (setNextPn s id now).trans (ih _)

theorem markRetrans (s : SendQueue) (t : SendType) (id : PktId) : Marks s (markRetrans s t id) := by
  unfold Rquic.markRetrans
  split_ifs
  · exact modify s id fun _ => rfl
  · exact refl s

theorem sent (s : SendQueue) (id : PktId) (srtt now : ℕ) :
    Marks s (onPacketSent (writeSocket (Rquic.setNextPn s id now) id) id srtt now) := by
  have hnumber := setNextPn s id now
  have hsent := modify (Rquic.setNextPn s id now) id books_onSent
  exact ⟨rfl, rfl, fun id' => (hsent.books id').trans (hnumber.books id')⟩

theorem kin (h : Marks s s') (id : PktId) : (s'.pkts id).kin = (s.pkts id).kin := by
  have hbooks := h.books id
  simp only [PacketOut.books, Prod.mk.injEq] at hbooks
  exact PacketOut.kin_of_body hbooks.1

theorem refs (h : Marks s s') (id : PktId) :
    (s'.pkts id).poOriginRefCnt = (s.pkts id).poOriginRefCnt := by
  have hbooks := h.books id
  simp only [PacketOut.books, Prod.mk.injEq] at hbooks
  exact hbooks.2.1

theorem inUnackList (h : Marks s s') (id : PktId) :
    (s'.pkts id).inUnackList = (s.pkts id).inUnackList := by
  have hbooks := h.books id
  simp only [PacketOut.books, Prod.mk.injEq] at hbooks
  exact hbooks.2.2.1

theorem inPathBufList (h : Marks s s') (id : PktId) :
    (s'.pkts id).inPathBufList = (s.pkts id).inPathBufList := by
  have hbooks := h.books id
  simp only [PacketOut.books, Prod.mk.injEq] at hbooks
  exact hbooks.2.2.2

theorem listed (h : Marks s s') : s'.listed = s.listed := by
  rw [SendQueue.listed, h.lists, SendQueue.listed]

end Marks

theorem Counted.marks {out : List PktId} {c : Sndq} {f : SendQueue → SendQueue} (h : Counted out c)
    (hm : Marks c.toSendQueue (f c.toSendQueue)) : Counted out (c.onQueue f) :=
  h.onQueue (.of_eq hm.listed) (by rw [hm.lists]) hm.nextId hm.inUnackList

theorem Kept.marks {held : List PktId} {s s' : SendQueue} (h : Kept held s) (hm : Marks s s') :
    Kept held s' :=
  h.mark hm.lists (fun id _ => hm.kin id) (fun id _ _ => by rw [hm.refs id]) fun id _ hfalse => by
    rwa [hm.inPathBufList id]

/-! ## Packets that leave their lists -/

/-- The packets `gone` leave their lists, and others are marked. -/
structure Drops (gone : List PktId) (s s' : SendQueue) : Prop where
  lists : ∀ p, s'.lists p = (s.lists p).filter (· ∉ gone)
  nextId : s'.nextId = s.nextId
  kin : ∀ id, (s'.pkts id).kin = (s.pkts id).kin
  refs : ∀ id, (s'.pkts id).poOriginRefCnt = (s.pkts id).poOriginRefCnt
  path : ∀ id, (s.pkts id).inPathBufList = false → (s'.pkts id).inPathBufList = false

namespace Drops

variable {gone gone' : List PktId} {s s' s'' : SendQueue} {c : Sndq} {id : PktId} {p : Place}

theorem of_marks (h : Marks s s') : Drops [] s s' := by
  refine ⟨fun p => ?_, h.nextId, h.kin, h.refs, fun id hfalse => ?_⟩
  · rw [h.lists]
    simp
  · rwa [h.inPathBufList id]

theorem trans (h : Drops gone s s') (h' : Drops gone' s' s'') : Drops (gone ++ gone') s s'' := by
  refine ⟨fun p => ?_, h'.nextId.trans h.nextId, fun id => (h'.kin id).trans (h.kin id),
    fun id => (h'.refs id).trans (h.refs id), fun id hfalse => h'.path id (h.path id hfalse)⟩
  rw [h'.lists, h.lists, List.filter_filter]
  refine List.filter_congr fun id _ => ?_
  simp only [List.mem_append, not_or, Bool.decide_and]
  exact Bool.and_comm _ _

theorem mem (h : Drops gone s s') : id ∈ s'.lists p ↔ id ∈ s.lists p ∧ id ∉ gone := by
  rw [h.lists, List.mem_filter, decide_eq_true_eq]

theorem listed (h : Drops gone s s') : s'.listed = s.listed.filter (· ∉ gone) := by
  unfold SendQueue.listed
  rw [← items_filter]
  exact items_congr fun p _ => h.lists p

theorem poOrigin (h : Drops gone s s') (id : PktId) : (s'.pkts id).poOrigin = (s.pkts id).poOrigin :=
  PacketOut.poOrigin_of_kin (h.kin id)

theorem unlink (s : SendQueue) (id : PktId) : Drops [id] s (s.unlink id) := by
  refine ⟨fun p => ?_, rfl, fun _ => rfl, fun _ => rfl, fun _ hfalse => hfalse⟩
  rw [SendQueue.unlink_lists]
  simp

theorem modify (h : Drops gone s s') (id : PktId) {f : PacketOut → PacketOut}
    (hkin : ∀ po, (f po).kin = po.kin) (hrefs : ∀ po, (f po).poOriginRefCnt = po.poOriginRefCnt)
    (hpath : ∀ po, po.inPathBufList = false → (f po).inPathBufList = false) :
    Drops gone s (s'.modify id f) := by
  refine ⟨h.lists, h.nextId, fun id' => ?_, fun id' => ?_, fun id' hfalse => ?_⟩ <;>
    by_cases hid : id' = id
  · rw [hid, SendQueue.modify_pkts_self, hkin, h.kin]
  · rw [SendQueue.modify_pkts_of_ne _ _ hid, h.kin]
  · rw [hid, SendQueue.modify_pkts_self, hrefs, h.refs]
  · rw [SendQueue.modify_pkts_of_ne _ _ hid, h.refs]
  · rw [hid] at hfalse ⊢
    rw [SendQueue.modify_pkts_self]
    exact hpath _ (h.path id hfalse)
  · rw [SendQueue.modify_pkts_of_ne _ _ hid]
    exact h.path id' hfalse

theorem delInit (c : Sndq) (id : PktId) : Drops [id] c.toSendQueue (c.delInit id).toSendQueue :=
  unlink c.toSendQueue id

theorem removeUnacked (c : Sndq) (id : PktId) :
    Drops [id] c.toSendQueue (c.removeUnacked id).toSendQueue := by
  unfold Sndq.removeUnacked
  split_ifs
  · exact delInit c id
  · exact (delInit c id).modify id (fun _ => rfl) (fun _ => rfl) fun _ hfalse => hfalse
  · exact delInit c id

theorem pathSendBufferRemove (c : Sndq) (id : PktId) :
    Drops [id] c.toSendQueue (c.pathSendBufferRemove id).toSendQueue :=
  (delInit c id).modify id (fun _ => rfl) (fun _ => rfl) fun _ _ => rfl

theorem leaveList (c : Sndq) (id : PktId) (path : Bool) :
    Drops [id] c.toSendQueue (c.leaveList id path).toSendQueue := by
  unfold Sndq.leaveList
  split_ifs
  · exact pathSendBufferRemove c id
  · exact removeUnacked c id

end Drops

theorem Kept.leave {held : List PktId} {s s' : SendQueue} {id : PktId} (h : Kept held s)
    (hnodup : s.listed.Nodup) (hid : id ∈ s.listed) (hnone : s.copyCount id = 0)
    (hd : Drops [id] s s') : Kept ((s.pkts id).poOrigin.toList ++ held) s' := by
  have hlists : s'.lists = (s.unlink id).lists := by
    funext p
    rw [hd.lists, (Drops.unlink s id).lists]
  refine (h.unlink hnodup hid hnone).mark hlists (fun id' _ => hd.kin id') (fun id' _ _ => ?_)
    fun id' _ => hd.path id'
  rw [hd.refs]
  rfl

theorem retransmission_marks {po copy : PacketOut} {id : PktId}
    (h : po.retransmission id = some copy) :
    copy.poOriginRefCnt = 0 ∧ copy.inUnackList = false ∧ copy.notify = po.notify := by
  unfold PacketOut.retransmission PacketOut.removeAckFrame at h
  split_ifs at h <;> obtain rfl := Option.some.inj h <;> exact ⟨rfl, rfl, rfl⟩

/-- A packet that is no copy and has none. -/
structure PacketOut.Original (po : PacketOut) : Prop where
  root : po.poOrigin = none
  refs : po.poOriginRefCnt = 0
  flag : po.inUnackList = false

theorem PacketOut.Original.of_eq {po po' : PacketOut} (h : po.Original)
    (hroot : po'.poOrigin = po.poOrigin) (hrefs : po'.poOriginRefCnt = po.poOriginRefCnt)
    (hflag : po'.inUnackList = po.inUnackList) : po'.Original :=
  ⟨hroot.trans h.root, hrefs.trans h.refs, hflag.trans h.flag⟩

theorem newPacket_original {params : PktParams} {po : PacketOut} (h : params.newPacket = .ok po) :
    po.Original := by
  unfold PktParams.newPacket at h
  split_ifs at h
  obtain rfl := Except.ok.inj h
  exact ⟨rfl, rfl, rfl⟩

theorem controlPacket_original {params : PktParams} {f : ControlFrame} {notify : Bool} {bufSize : ℕ}
    {po : PacketOut} (h : controlPacket params f notify bufSize = .ok po) : po.Original := by
  obtain ⟨po₀, hpo, h⟩ := bind_eq_ok h
  obtain ⟨po₁, hgen, h⟩ := bind_eq_ok h
  unfold genControlFrame at hgen
  split_ifs at hgen
  obtain rfl := Except.ok.inj hgen
  obtain rfl := Except.ok.inj h
  exact (newPacket_original hpo).of_eq rfl rfl rfl

/-! ## The invariant -/

/-- The counters are the lengths of the lists, and every packet that is in use stands in one list. -/
structure Exact (c : Sndq) : Prop where
  free : c.packetsFree = c.freePackets.length
  unacked : c.packetsInUnackedList = (c.lists .unackedPackets).length
  used : c.packetsUsed = c.live.length
  one : ∀ id ∈ c.live, c.listed.count id = 1 ∧ id ∉ c.freePackets
  noWrap : c.wrapped = false

/-- No packet is there, not even a free one. -/
structure Sndq.Empty (c : Sndq) : Prop where
  listed : c.listed = []
  free : c.freePackets = []

/-- The counters are right, and copies and their origins are together. -/
structure SndqInv (c : Sndq) : Prop where
  counted : Counted [] c
  kept : Kept [] c.toSendQueue

namespace SndqInv

variable {c : Sndq} {id : PktId} {p : Place}

theorem init : SndqInv {} := ⟨Counted.init, Kept.init⟩

theorem marks (h : SndqInv c) {f : SendQueue → SendQueue}
    (hm : Marks c.toSendQueue (f c.toSendQueue)) : SndqInv (c.onQueue f) :=
  ⟨h.counted.marks hm, h.kept.marks hm⟩

theorem lt (h : SndqInv c) (hid : id ∈ c.listed) : id < c.nextId :=
  h.counted.lt id (List.mem_append_left _ hid)

/-- No copy refers to a packet that is not among the unacknowledged ones. -/
theorem copyCount (h : SndqInv c) (hun : id ∉ c.lists .unackedPackets) : c.copyCount id = 0 :=
  copyCount_eq_zero.2 fun id' hid' ho => hun (h.kept.origin id' hid' id ho).mem

/-! ### Packets that leave the queue -/

/-- A packet to which no copy refers, and which is none, is freed. -/
theorem freed (h : SndqInv c) (hid : id ∈ c.listed) (hroot : (c.pkts id).poOrigin = none)
    (hnone : c.copyCount id = 0) {c' : Sndq} (hc' : Counted [id] c')
    (hd : Drops [id] c.toSendQueue c'.toSendQueue) : SndqInv (c'.insertFree id) := by
  refine ⟨hc'.insertFree, ?_⟩
  have hleave := h.kept.leave h.counted.nodup_listed hid hnone hd
  rw [hroot] at hleave
  exact hleave

theorem leaveList (h : SndqInv c) (hid : id ∈ c.listed) (path : Bool) :
    Counted [id] (c.leaveList id path) := by
  unfold Sndq.leaveList
  split_ifs with hpath
  · refine h.counted.pathSendBufferRemove hid fun hun => ?_
    have hfalse := h.kept.pathBuf id hun
    rw [hpath.2] at hfalse
    cases hfalse
  · exact h.counted.removeUnacked hid

/-- The origin of a copy that has left its list loses a reference, and is freed with the last one. -/
theorem releaseOrigin {out : List PktId} {o : PktId} (hc : Counted out c) (hk : Kept [o] c.toSendQueue)
    (ho : o ∈ c.lists .unackedPackets) (hroot : (c.pkts o).poOrigin = none) :
    Counted out (c.releaseOrigin o) ∧ Kept [] (c.releaseOrigin o).toSendQueue := by
  have hrefs := hk.refs o (listed_of_mem ho) hroot
  rw [List.count_singleton_self] at hrefs
  set c₁ := c.onQueue fun s => s.modify o PacketOut.release with hc₁
  have hcounted : Counted out c₁ := hc.mark o fun _ => rfl
  have hold : ∀ {id}, id ≠ o → c₁.pkts id = c.pkts id := fun hne =>
    SendQueue.modify_pkts_of_ne _ _ hne
  have hself : c₁.pkts o = (c.pkts o).release := SendQueue.modify_pkts_self ..
  have hkept : Kept [] c₁.toSendQueue := by
    refine hk.mark rfl (fun id _ => ?_) (fun id _ _ => ?_) fun id _ hfalse => ?_ <;>
      by_cases hid : id = o
    · rw [hid, hself]
      rfl
    · rw [hold hid]
    · rw [hid, hself, List.count_singleton_self, List.count_nil]
      change (c.pkts o).poOriginRefCnt - 1 + 1 = _
      omega
    · rw [hold hid, List.count_singleton, if_neg (by simpa using Ne.symm hid)]
      rfl
    · rw [hid] at hfalse ⊢
      rw [hself]
      exact hfalse
    · rwa [hold hid]
  unfold Sndq.releaseOrigin
  split_ifs with hone
  · -- the last copy
    have hmark : Marks c₁.toSendQueue
        (c₁.onQueue fun s => s.modify o PacketOut.decreaseInflight).toSendQueue :=
      .modify _ o books_decreaseInflight
    set c₂ := c₁.onQueue fun s => s.modify o PacketOut.decreaseInflight with hc₂
    have hcounted₂ : Counted out c₂ := hcounted.marks hmark
    have hkept₂ : Kept [] c₂.toSendQueue := hkept.marks hmark
    have ho₂ : o ∈ c₂.listed := listed_of_mem (p := .unackedPackets) ho
    have hroot₂ : (c₂.pkts o).poOrigin = none := by
      rw [PacketOut.poOrigin_of_kin (hmark.kin o), hself]
      exact hroot
    have hnone : c₂.copyCount o = 0 := by
      have hrefs₂ := hkept₂.refs o ho₂ hroot₂
      have hsame : (c₂.pkts o).poOriginRefCnt = 0 := by
        rw [hmark.refs o, hself]
        change (c.pkts o).poOriginRefCnt - 1 = 0
        omega
      rw [hsame] at hrefs₂
      simpa using hrefs₂.symm
    have hleave := hkept₂.leave hcounted₂.nodup_listed ho₂ hnone (Drops.removeUnacked c₂ o)
    rw [hroot₂] at hleave
    exact ⟨(hcounted₂.removeUnacked ho₂).insertFree, hleave⟩
  · exact ⟨hcounted, hkept⟩

theorem maybeRemoveUnacked (h : SndqInv c) (hid : id ∈ c.listed) (path : Bool) :
    SndqInv (c.maybeRemoveUnacked id path) := by
  have hleave := h.leaveList hid path
  have hdrops := Drops.leaveList c id path
  unfold Sndq.maybeRemoveUnacked
  cases horigin : (c.pkts id).poOrigin with
  | none =>
      by_cases hrefs : (c.pkts id).poOriginRefCnt ≠ 0
      · simp only [if_pos hrefs]
        exact h
      · simp only [if_neg hrefs]
        have hcount := h.kept.refs id hid horigin
        refine h.freed hid horigin ?_ hleave hdrops
        rw [not_not.1 hrefs] at hcount
        simpa using hcount.symm
  | some o =>
      have hof := h.kept.origin id hid o horigin
      have hne : o ≠ id := by
        rintro rfl
        rw [hof.root] at horigin
        cases horigin
      have hnone : c.copyCount id = 0 := by
        refine copyCount_eq_zero.2 fun id' hid' ho => ?_
        rw [(h.kept.origin id' hid' id ho).root] at horigin
        cases horigin
      have hkept := h.kept.leave h.counted.nodup_listed hid hnone hdrops
      rw [horigin] at hkept
      have hroot : ((c.leaveList id path).pkts o).poOrigin = none := by
        rw [hdrops.poOrigin]
        exact hof.root
      have ho : o ∈ (c.leaveList id path).lists .unackedPackets :=
        hdrops.mem.2 ⟨hof.mem, by simpa using hne⟩
      obtain ⟨hcounted, hkept'⟩ := releaseOrigin hleave hkept ho hroot
      exact ⟨hcounted.insertFree, hkept'⟩

theorem indirectlyAckOrDropPo (h : SndqInv c) (hid : id ∈ c.listed) {c' : Sndq}
    (heq : c.indirectlyAckOrDropPo id = some c') : SndqInv c' := by
  unfold Sndq.indirectlyAckOrDropPo at heq
  split_ifs at heq
  · obtain rfl := Option.some.inj heq
    have hacked := Marks.onPacketAcked c.toSendQueue id
    refine (h.marks hacked).maybeRemoveUnacked ?_ true
    exact hacked.listed ▸ hid
  · obtain rfl := Option.some.inj heq
    exact h.maybeRemoveUnacked hid true

/-! ### Copies -/

theorem copyTo (h : SndqInv c) (hp : p ≠ .unackedPackets) (hfill : p.fillable = false)
    (hid : id ∈ c.lists .unackedPackets)
    (hrepair : needRepair (c.pkts id).poFrameTypes ∨ (c.pkts id).notify = true) :
    SndqInv (c.copyTo p id) := by
  unfold Sndq.copyTo
  split
  · exact h
  · rename_i copy hcopy
    obtain ⟨-, horigin, htypes, hslots, -⟩ := retransmission_fields hcopy
    obtain ⟨hrefs, hflag, hnotify⟩ := retransmission_marks hcopy
    set o := (c.pkts id).poOrigin.getD id with ho
    have hlisted := listed_of_mem hid
    -- what the copy has of the packet it has of the origin
    have hof : c.OriginOf o copy := by
      cases hroot : (c.pkts id).poOrigin with
      | none =>
          have hoid : o = id := by rw [ho, hroot, Option.getD_none]
          rw [hoid]
          exact ⟨hid, hroot, htypes, hslots, hnotify, hrepair⟩
      | some o' =>
          have hoo : o = o' := by rw [ho, hroot, Option.getD_some]
          have hold := h.kept.origin id hlisted o' hroot
          rw [hoo]
          refine ⟨hold.mem, hold.root, ?_, hslots.trans hold.slots, hnotify.trans hold.notify, hold.repair⟩
          rw [htypes, hold.types, Finset.erase_idem]
    set c₁ := c.onQueue fun s => s.modify o PacketOut.retain with hc₁
    have hself : c₁.pkts o = (c.pkts o).retain := SendQueue.modify_pkts_self ..
    have hother : ∀ {id'}, id' ≠ o → c₁.pkts id' = c.pkts id' := fun hne =>
      SendQueue.modify_pkts_of_ne _ _ hne
    have hkin : ∀ id', (c₁.pkts id').kin = (c.pkts id').kin := by
      intro id'
      by_cases hid' : id' = o
      · rw [hid', hself]
        rfl
      · rw [hother hid']
    have hcounted : Counted [] c₁ := h.counted.mark o fun _ => rfl
    have hkept : Kept [o] c₁.toSendQueue := by
      refine h.kept.mark rfl (fun id' _ => hkin id') (fun id' _ _ => ?_) fun id' _ hfalse => ?_ <;>
        by_cases hid' : id' = o
      · rw [hid', hself, List.count_singleton_self, List.count_nil]
        rfl
      · rw [hother hid', List.count_singleton, if_neg (by simpa using Ne.symm hid')]
        rfl
      · rw [hid'] at hfalse ⊢
        rw [hself]
        exact hfalse
      · rwa [hother hid']
    have hinsert : SndqInv (c₁.insertNew p copy) := by
      refine ⟨hcounted.insertNew hp hflag, ?_⟩
      refine Kept.insertNew ?_ (fun id' hid' => h.lt hid') nofun (fun o' ho' => ?_) hrefs hp fun habs => ?_
      · rwa [horigin]
      · obtain rfl : o = o' := Option.some.inj (horigin.symm.trans ho')
        exact hof.congr hof.mem (hkin o) rfl
      · rw [hfill] at habs
        cases habs
    exact hinsert.marks (.modify _ id fun _ => rfl)

theorem onPacketLost (h : SndqInv c) (hid : id ∈ c.lists .unackedPackets) :
    SndqInv (c.onPacketLost id) := by
  have hlisted := listed_of_mem hid
  have hmark : Marks c.toSendQueue (c.onQueue fun s => s.modify id PacketOut.decreaseInflight).toSendQueue :=
    .modify _ id books_decreaseInflight
  unfold Sndq.onPacketLost
  split_ifs with hflight hrepair
  · set c₁ := c.onQueue fun s => s.modify id PacketOut.decreaseInflight with hc₁
    have hkin := hmark.kin id
    simp only [PacketOut.kin, Prod.mk.injEq] at hkin
    have h₁ : SndqInv c₁ := h.marks hmark
    refine h₁.copyTo nofun rfl hid ?_
    rw [hkin.1, hkin.2.2.1]
    exact hrepair
  · have h₁ : SndqInv (c.onQueue fun s => s.modify id PacketOut.decreaseInflight) := h.marks hmark
    have hroot : (c.pkts id).poOrigin = none := by
      by_contra hne
      obtain ⟨o, ho⟩ := Option.ne_none_iff_exists'.1 hne
      exact hrepair (h.kept.origin id hlisted o ho).repair_self
    have hnone : c.copyCount id = 0 :=
      copyCount_eq_zero.2 fun id' hid' ho => hrepair (h.kept.origin id' hid' id ho).repair
    refine h.freed hlisted hroot hnone (h₁.counted.removeUnacked hlisted) ?_
    exact (Drops.of_marks hmark).trans (Drops.removeUnacked _ id)
  · exact h

theorem probe (h : SndqInv c) (hid : id ∈ c.lists .unackedPackets) : SndqInv (c.probe id) := by
  have hmark : Marks c.toSendQueue (c.onQueue fun s => s.modify id PacketOut.decreaseInflight).toSendQueue :=
    .modify _ id books_decreaseInflight
  unfold Sndq.probe
  split_ifs with hprobe
  · have hkin := hmark.kin id
    simp only [PacketOut.kin, Prod.mk.injEq] at hkin
    have h₁ : SndqInv (c.onQueue fun s => s.modify id PacketOut.decreaseInflight) := h.marks hmark
    have hcopy : SndqInv ((c.onQueue fun s => s.modify id PacketOut.decreaseInflight).copyTo
        .ptoProbePackets id) := by
      refine h₁.copyTo nofun rfl hid ?_
      rw [hkin.1, hkin.2.2.1]
      exact hprobe.2.1
    exact hcopy.marks (.modify _ id fun _ => rfl)
  · exact h

/-! ### Packets that are made and filled -/

theorem insertNew (h : SndqInv c) (hp : p ≠ .unackedPackets) {po : PacketOut} (hnew : po.Original) :
    SndqInv (c.insertNew p po) := by
  refine ⟨h.counted.insertNew hp hnew.flag, ?_⟩
  refine Kept.insertNew ?_ (fun id hid => h.lt hid) nofun (fun o ho => ?_) hnew.refs hp fun _ => hnew.root
  · rw [hnew.root]
    exact h.kept
  · rw [hnew.root] at ho
    cases ho

theorem discard (h : SndqInv c) (hp : p ≠ .unackedPackets) {po : PacketOut} (hnew : po.Original) :
    SndqInv (((c.insertNew p po).delInit c.nextId).insertFree c.nextId) := by
  have hinsert := h.insertNew hp hnew
  have hmem : c.nextId ∈ (c.insertNew p po).lists p :=
    (SendQueue.mem_insertNew po).2 (.inr ⟨rfl, rfl⟩)
  have hun : c.nextId ∉ (c.insertNew p po).lists .unackedPackets := fun habs =>
    hp (hinsert.counted.place hmem habs)
  refine hinsert.freed (listed_of_mem hmem) ?_ (hinsert.copyCount hun)
    (hinsert.counted.delInit (listed_of_mem hmem) hun) (Drops.delInit _ _)
  rw [Sndq.insertNew, SendQueue.insertNew_pkts_nextId]
  exact hnew.root

theorem recycled (h : SndqInv c) : SndqInv c.recycled := by
  have htypes : ((c.insertNew .sendPackets {}).pkts c.nextId).poFrameTypes = ∅ := by
    rw [Sndq.insertNew, SendQueue.insertNew_pkts_nextId]
  unfold Sndq.recycled Sndq.maybeRecycle
  rw [if_pos htypes]
  exact h.discard (p := .sendPackets) nofun ⟨rfl, rfl, rfl⟩

theorem fill (h : SndqInv c) {po : PacketOut} (hid : id ∈ c.lists p) (hp : p.fillable = true)
    (hkeep : po.poOrigin = (c.pkts id).poOrigin ∧ po.poOriginRefCnt = (c.pkts id).poOriginRefCnt ∧
      po.inUnackList = (c.pkts id).inUnackList) : SndqInv (c.onQueue fun s => s.set id po) := by
  obtain ⟨hroot, hrefs, hflag⟩ := hkeep
  refine ⟨h.counted.onQueue (.refl _) rfl rfl fun id' => ?_, ?_⟩
  · by_cases hne : id' = id
    · rw [hne, SendQueue.set_pkts_self, hflag]
    · rw [SendQueue.set_pkts_of_ne _ _ hne]
  · exact h.kept.fill h.counted.nodup_listed hid hp (hroot.trans (h.kept.copies p hp id hid)) hrefs

theorem writeControlFrame (h : SndqInv c) (params : PktParams) (f : ControlFrame) (notify : Bool)
    (bufSize : ℕ) (handshakeDone : Bool) :
    SndqInv (c.writeControlFrame params f notify bufSize handshakeDone) := by
  unfold Sndq.writeControlFrame
  split
  · exact h.recycled
  · rename_i po hpo
    refine h.insertNew ?_ (controlPacket_original hpo)
    cases f <;> cases handshakeDone <;> exact nofun

theorem sendPingToProbe (h : SndqInv c) (params : PktParams) : SndqInv (c.sendPingToProbe params) := by
  unfold Sndq.sendPingToProbe
  split
  · exact h.recycled
  · rename_i po hpo
    exact h.insertNew (p := .ptoProbePackets) nofun (controlPacket_original hpo)

theorem sendPathChallenge (h : SndqInv c) (params : PktParams) (data : Bytes) :
    SndqInv (c.sendPathChallenge params data) := by
  unfold Sndq.sendPathChallenge
  split
  · exact h.recycled
  · refine h.discard (p := .sendPackets) nofun ?_
    cases hpo : controlPacket params (.pathChallenge data) false 0 with
    | error => exact ⟨rfl, rfl, rfl⟩
    | ok po => exact controlPacket_original hpo

theorem writeStreamFrame (h : SndqInv c) (highPri : Bool) (params : PktParams) (streamId offset : ℕ)
    (fin : Bool) (payload : Bytes) :
    SndqInv (c.writeStreamFrame highPri params streamId offset fin payload) := by
  have hfill := streamPlace_fillable highPri
  unfold Sndq.writeStreamFrame
  split
  · rename_i id hget
    split
    · exact h
    · rename_i po n hgen
      have hframe := (genStreamFrame_frame hgen).2
      refine h.fill (getPacketOutForStream_some hget).1 hfill ⟨?_, ?_, ?_⟩
      · exact (congrArg PacketOut.poOrigin hframe :)
      · exact (congrArg PacketOut.poOriginRefCnt hframe :)
      · exact (congrArg PacketOut.inUnackList hframe :)
  · split
    · exact h.recycled
    · rename_i po hpo
      split
      · exact h.recycled
      · rename_i po' n hgen
        have hframe := (genStreamFrame_frame hgen).2
        exact h.insertNew (Place.ne_unacked hfill) ((newPacket_original hpo).of_eq
          (congrArg PacketOut.poOrigin hframe :) (congrArg PacketOut.poOriginRefCnt hframe :)
          (congrArg PacketOut.inUnackList hframe :))

theorem writeAckToNewPacket (h : SndqInv c) (params : PktParams) (ackDelay ackDelayExponent : ℕ) :
    SndqInv (c.writeAckToNewPacket params ackDelay ackDelayExponent) := by
  unfold Sndq.writeAckToNewPacket
  split
  · exact h.recycled
  · rename_i po hpo
    split
    · exact h.recycled
    · rename_i po' hack
      have hframe := writeAckToOnePacket_frame hack
      exact h.insertNew (p := .sendPacketsHighPri) nofun ((newPacket_original hpo).of_eq
        (congrArg PacketOut.poOrigin hframe :) (congrArg PacketOut.poOriginRefCnt hframe :)
        (congrArg PacketOut.inUnackList hframe :))

theorem writeAckToPackets (h : SndqInv c) (params : PktParams) (ackDelay ackDelayExponent : ℕ) :
    SndqInv (c.writeAckToPackets params ackDelay ackDelayExponent) := by
  have hnew := h.writeAckToNewPacket params ackDelay ackDelayExponent
  unfold Sndq.writeAckToPackets
  split_ifs
  · exact h
  · split
    · exact hnew
    · rename_i id htarget
      obtain ⟨p, hfill, hid⟩ := mem_of_ackTarget htarget
      split_ifs
      · split
        · rename_i po hack
          have hframe := writeAckToOnePacket_frame hack
          refine h.fill hid hfill ⟨?_, ?_, ?_⟩
          · exact (congrArg PacketOut.poOrigin hframe :)
          · exact (congrArg PacketOut.poOriginRefCnt hframe :)
          · exact (congrArg PacketOut.inUnackList hframe :)
        · exact hnew
        · exact h
      · exact hnew

/-! ### Packets that change their lists -/

theorem relist (h : SndqInv c) {f : SendQueue → SendQueue}
    (hlisted : (f c.toSendQueue).listed.Perm c.listed)
    (hunacked : (f c.toSendQueue).lists .unackedPackets = c.lists .unackedPackets)
    (hnext : (f c.toSendQueue).nextId = c.nextId)
    (hpkts : ∀ id, ((f c.toSendQueue).pkts id).kin = (c.pkts id).kin ∧
      ((f c.toSendQueue).pkts id).poOriginRefCnt = (c.pkts id).poOriginRefCnt ∧
      ((f c.toSendQueue).pkts id).inUnackList = (c.pkts id).inUnackList)
    (hpath : ∀ id ∈ c.lists .unackedPackets, (c.pkts id).inPathBufList = false →
      ((f c.toSendQueue).pkts id).inPathBufList = false)
    (hfill : ∀ p, p.fillable = true → ∀ id ∈ (f c.toSendQueue).lists p,
      ∃ q, q.fillable = true ∧ id ∈ c.lists q) : SndqInv (c.onQueue f) := by
  refine ⟨h.counted.onQueue hlisted hunacked hnext fun id => (hpkts id).2.2, ?_⟩
  have hmoved : Kept [] { f c.toSendQueue with pkts := c.pkts } := by
    refine h.kept.relist rfl hlisted hunacked fun p hp id hid => ?_
    obtain ⟨q, hq, hmem⟩ := hfill p hp id hid
    exact h.kept.copies q hq id hmem
  refine hmoved.mark rfl (fun id _ => (hpkts id).1) (fun id _ _ => ?_) fun id hid => ?_
  · exact congrArg (· + _) (hpkts id).2.1
  · exact hpath id (hunacked ▸ hid)

theorem schedulePacket (h : SndqInv c) (t : SendType) :
    SndqInv (c.onQueue fun s => schedulePacket s t) := by
  have hlisted := schedulePacket_listed h.counted.nodup_listed t
  cases hids : c.lists t.source with
  | nil =>
      have hnone : Rquic.schedulePacket c.toSendQueue t = c.toSendQueue := by
        unfold Rquic.schedulePacket
        rw [hids]
      have hmark : Marks c.toSendQueue (Rquic.schedulePacket c.toSendQueue t) := by
        rw [hnone]
        exact .refl _
      exact h.marks hmark
  | cons id ids =>
      have hmem : id ∈ c.lists t.source := hids ▸ List.mem_cons_self
      have hun : id ∉ c.lists .unackedPackets := fun habs =>
        t.source_ne (h.counted.place hmem habs)
      have hmove : Rquic.schedulePacket c.toSendQueue t =
          ((c.unlink id).pushTail (.scheduleBuf t) id).modify id PacketOut.enterPathBuf := by
        unfold Rquic.schedulePacket
        rw [hids]
      have hself : ((Rquic.schedulePacket c.toSendQueue t).pkts id) = (c.pkts id).enterPathBuf := by
        rw [hmove, SendQueue.modify_pkts_self]
        rfl
      have hold : ∀ {id'}, id' ≠ id → (Rquic.schedulePacket c.toSendQueue t).pkts id' = c.pkts id' := by
        intro id' hne
        rw [hmove, SendQueue.modify_pkts_of_ne _ _ hne]
        rfl
      refine h.relist hlisted ?_ ?_ (fun id' => ?_) (fun id' hid' hfalse => ?_) fun p hp id' hid' => ?_
      · rw [hmove, SendQueue.modify_lists, SendQueue.pushTail_lists_of_ne _ _ (by exact nofun),
          SendQueue.unlink_lists, List.filter_eq_self]
        intro id' hid'
        refine decide_eq_true ?_
        rintro rfl
        exact hun hid'
      · rw [hmove]
        rfl
      · by_cases hne : id' = id
        · rw [hne, hself]
          unfold PacketOut.enterPathBuf
          split_ifs <;> exact ⟨rfl, rfl, rfl⟩
        · rw [hold hne]
          exact ⟨rfl, rfl, rfl⟩
      · rwa [hold]
        rintro rfl
        exact hun hid'
      · rw [hmove, SendQueue.modify_lists] at hid'
        rcases SendQueue.mem_pushTail.1 hid' with hid' | ⟨rfl, rfl⟩
        · exact ⟨p, hp, (List.mem_filter.1 hid').1⟩
        · exact ⟨t.source, t.fillable_source.trans hp, hmem⟩

/-- Packets of the list `s` go over to the list `d`. -/
theorem carry (h : SndqInv c) {f : SendQueue → SendQueue} {s d : Place} {l l' : List PktId}
    (hlists : (f c.toSendQueue).lists = Function.update (Function.update c.lists s l) d l')
    (hne : s ≠ .unackedPackets ∧ d ≠ .unackedPackets)
    (hfill : d.fillable = true → s.fillable = true) (hl : l ⊆ c.lists s)
    (hl' : ∀ id ∈ l', id ∈ c.lists d ∨ id ∈ c.lists s)
    (hlisted : (f c.toSendQueue).listed.Perm c.listed) (hnext : (f c.toSendQueue).nextId = c.nextId)
    (hpkts : ∀ id, ((f c.toSendQueue).pkts id).kin = (c.pkts id).kin ∧
      ((f c.toSendQueue).pkts id).poOriginRefCnt = (c.pkts id).poOriginRefCnt ∧
      ((f c.toSendQueue).pkts id).inUnackList = (c.pkts id).inUnackList)
    (hpath : ∀ id, (c.pkts id).inPathBufList = false →
      ((f c.toSendQueue).pkts id).inPathBufList = false) : SndqInv (c.onQueue f) := by
  refine h.relist hlisted ?_ hnext hpkts (fun id _ => hpath id) fun p hp id hid => ?_
  · rw [hlists, Function.update_of_ne hne.2.symm, Function.update_of_ne hne.1.symm]
  · rw [hlists] at hid
    by_cases hdst : p = d
    · subst hdst
      rw [Function.update_self] at hid
      rcases hl' id hid with hid | hid
      · exact ⟨p, hp, hid⟩
      · exact ⟨s, hfill hp, hid⟩
    · rw [Function.update_of_ne hdst] at hid
      by_cases hsrc : p = s
      · subst hsrc
        rw [Function.update_self] at hid
        exact ⟨p, hp, hl hid⟩
      · rw [Function.update_of_ne hsrc] at hid
        exact ⟨p, hp, hid⟩

theorem pathSendBufferClear (h : SndqInv c) (t : SendType) :
    SndqInv (c.onQueue fun s => pathSendBufferClear s t) := by
  refine h.carry (s := .scheduleBuf t) (d := t.source) rfl ⟨nofun, t.source_ne⟩
    (fun hp => t.fillable_source.symm.trans hp) (List.nil_subset _)
    (fun id hid => (List.mem_append.1 hid).symm) (pathSendBufferClear_listed c.toSendQueue t) rfl
    (fun id => ?_) fun id hfalse => ?_
  · unfold Rquic.pathSendBufferClear
    dsimp only
    split_ifs <;> exact ⟨rfl, rfl, rfl⟩
  · unfold Rquic.pathSendBufferClear
    dsimp only
    split_ifs
    · rfl
    · exact hfalse

theorem buff1rttPackets (h : SndqInv c) : SndqInv (c.onQueue buff1rttPackets) := by
  refine h.carry (s := .sendPackets) (d := .buff1rttPackets) rfl ⟨nofun, nofun⟩ (fun _ => rfl)
    List.filter_sublist.subset (fun id hid => ?_) (buff1rttPackets_listed c.toSendQueue) rfl
    (fun _ => ⟨rfl, rfl, rfl⟩) fun _ hfalse => hfalse
  exact (List.mem_append.1 hid).imp_right fun hmem => (List.mem_filter.1 hmem).1

/-- A packet that is counted out and in again. -/
theorem recountBuff (h : SndqInv c) (hid : id ∈ c.listed) : c.recountBuff = c := by
  have hused : c.packetsUsed ≠ 0 := by
    have hlength := List.length_pos_of_mem hid
    rw [h.counted.used, List.append_nil]
    omega
  unfold Sndq.recountBuff decrement
  rw [if_neg hused, decide_eq_false hused, Bool.or_false, Nat.sub_add_cancel (Nat.pos_of_ne_zero hused)]

theorem writeBuffed1rttPackets (h : SndqInv c) : SndqInv c.writeBuffed1rttPackets := by
  have hcount : Sndq.recountBuff^[(c.lists .buff1rttPackets).length] c = c := by
    cases hids : c.lists .buff1rttPackets with
    | nil => rfl
    | cons id ids =>
        have hid : id ∈ c.lists .buff1rttPackets := hids ▸ List.mem_cons_self
        exact Function.iterate_fixed (h.recountBuff (listed_of_mem hid)) _
  unfold Sndq.writeBuffed1rttPackets
  rw [hcount]
  exact h.carry (s := .buff1rttPackets) (d := .sendPackets) rfl ⟨nofun, nofun⟩ (fun _ => rfl)
    (List.nil_subset _) (fun id hid => List.mem_append.1 hid)
    (writeBuffed1rttPackets_listed c.toSendQueue) rfl (fun _ => ⟨rfl, rfl, rfl⟩) fun _ hfalse => hfalse

/-! ### Packets that are sent -/

/-- A packet that waited is kept for its acknowledgement, or freed if it asks for none. -/
theorem keepSent (h : SndqInv c) (hid : id ∈ c.lists p) (hp : p ≠ .unackedPackets) :
    SndqInv (c.keepSent id) := by
  have hun : id ∉ c.lists .unackedPackets := fun habs => hp (h.counted.place hid habs)
  have hlisted := listed_of_mem hid
  have hnone := h.copyCount hun
  have hcounted := h.counted.pathSendBufferRemove hlisted hun
  have hdrops := Drops.pathSendBufferRemove c id
  unfold Sndq.keepSent
  split_ifs with hask
  · refine ⟨hcounted.insertUnacked, ?_⟩
    have hkept := h.kept.leave h.counted.nodup_listed hlisted hnone hdrops
    set c₁ := c.pathSendBufferRemove id with hc₁
    have hgone : id ∉ c₁.listed := by
      rw [hdrops.listed, List.mem_filter]
      simp
    have hroot : (c₁.pkts id).poOrigin = (c.pkts id).poOrigin := hdrops.poOrigin id
    have hnone' : c₁.copyCount id = 0 := copyCount_eq_zero.2 fun id' hid' ho =>
      copyCount_eq_zero.1 hnone id' (List.mem_filter.1 (hdrops.listed ▸ hid')).1
        ((hdrops.poOrigin id').symm.trans ho)
    have hpush : Kept [] (c₁.pushTail .unackedPackets id) := by
      refine Kept.pushTail (hroot ▸ hkept) hgone (fun o ho => ?_) (fun ho => ?_) (fun _ => ⟨?_, ?_⟩) nofun
      · have hof := h.kept.origin id hlisted o (hroot.symm.trans ho)
        have hne : o ≠ id := by
          rintro rfl
          exact hun hof.mem
        exact hof.congr (hdrops.mem.2 ⟨hof.mem, by simpa using hne⟩) (hdrops.kin o) (hdrops.kin id)
      · have hrefs := h.kept.refs id hlisted (hroot.symm.trans ho)
        rw [hdrops.refs, hrefs, hnone, hnone']
      · rw [PacketOut.types_of_kin (hdrops.kin id)]
        exact hask
      · rw [hc₁, Sndq.pathSendBufferRemove, Sndq.onQueue, SendQueue.modify_pkts_self]
        rfl
    refine hpush.mark rfl (fun id' _ => ?_) (fun id' _ _ => ?_) fun id' _ hfalse => ?_ <;>
      by_cases hne : id' = id
    · rw [hne, Sndq.insertUnacked, SendQueue.modify_pkts_self]
      rfl
    · rw [Sndq.insertUnacked, SendQueue.modify_pkts_of_ne _ _ hne]
    · rw [hne, Sndq.insertUnacked, SendQueue.modify_pkts_self]
      rfl
    · rw [Sndq.insertUnacked, SendQueue.modify_pkts_of_ne _ _ hne]
    · rw [hne] at hfalse ⊢
      rw [Sndq.insertUnacked, SendQueue.modify_pkts_self]
      exact hfalse
    · rwa [Sndq.insertUnacked, SendQueue.modify_pkts_of_ne _ _ hne]
  · refine h.freed hlisted ?_ hnone hcounted hdrops
    by_contra hcopy
    obtain ⟨o, ho⟩ := Option.ne_none_iff_exists'.1 hcopy
    have hof := h.kept.origin id hlisted o ho
    rw [hof.types, isAckEliciting_erase_ack] at hask
    exact hask (h.kept.eliciting o hof.mem)

theorem sendPacket (h : SndqInv c) (t : SendType) (outcome : SendOutcome) (srtt now : ℕ) :
    SndqInv (c.sendPacket t outcome srtt now) := by
  unfold Sndq.sendPacket
  split
  · exact h
  · rename_i id ids hids
    have hid : id ∈ c.lists (.scheduleBuf t) := hids ▸ List.mem_cons_self
    split
    · rename_i c' hc'
      exact h.indirectlyAckOrDropPo (listed_of_mem hid) hc'
    · have hmark := Marks.markRetrans c.toSendQueue t id
      have h₁ : SndqInv (c.onQueue fun s => markRetrans s t id) := h.marks hmark
      cases outcome with
      | blocked => exact h₁
      | again => exact h₁.marks (.setNextPn _ id now)
      | sent =>
          have hsent := Marks.sent (markRetrans c.toSendQueue t id) id srtt now
          have h₂ : SndqInv ((c.onQueue fun s => markRetrans s t id).onQueue fun s =>
              onPacketSent (writeSocket (setNextPn s id now) id) id srtt now) := h₁.marks hsent
          have hmem : id ∈ (onPacketSent (writeSocket (setNextPn (markRetrans c.toSendQueue t id) id now)
              id) id srtt now).lists (.scheduleBuf t) := by
            rw [(hmark.trans hsent).lists]
            exact hid
          exact h₂.keepSent (p := .scheduleBuf t) hmem nofun

/-! ### Packets that are dropped with their stream -/

/-- What `drop` does to a packet of the list `p`. -/
def DropStep (drop : Sndq → PktId → Sndq) (p : Place) : Prop :=
  ∀ c id, Counted [] c → id ∈ c.lists p →
    Counted [] (drop c id) ∧ Drops [id] c.toSendQueue (drop c id).toSendQueue

theorem dropUnacked_step : DropStep Sndq.dropUnacked .unackedPackets := by
  intro c id hc hid
  have hmark : Marks c.toSendQueue (c.onQueue fun s => s.modify id PacketOut.decreaseInflight).toSendQueue :=
    .modify _ id books_decreaseInflight
  have hc₁ : Counted [] (c.onQueue fun s => s.modify id PacketOut.decreaseInflight) := hc.marks hmark
  exact ⟨(hc₁.removeUnacked (listed_of_mem hid)).insertFree,
    (Drops.of_marks hmark).trans (Drops.removeUnacked _ id)⟩

theorem dropScheduled_step (t : SendType) : DropStep Sndq.dropScheduled (.scheduleBuf t) := by
  intro c id hc hid
  have hun : id ∉ c.lists .unackedPackets := fun habs => by cases hc.place hid habs
  exact ⟨(hc.pathSendBufferRemove (listed_of_mem hid) hun).insertFree, Drops.pathSendBufferRemove c id⟩

theorem dropSend_step (hp : p ≠ .unackedPackets) : DropStep Sndq.dropSend p := by
  intro c id hc hid
  have hun : id ∉ c.lists .unackedPackets := fun habs => hp (hc.place hid habs)
  exact ⟨(hc.delInit (listed_of_mem hid) hun).insertFree, Drops.delInit c id⟩

theorem DropStep.foldl {drop : Sndq → PktId → Sndq} (hdrop : DropStep drop p) {ids : List PktId}
    (hc : Counted [] c) (hnodup : ids.Nodup) (hids : ∀ id ∈ ids, id ∈ c.lists p) :
    Counted [] (ids.foldl drop c) ∧ Drops ids c.toSendQueue (ids.foldl drop c).toSendQueue := by
  induction ids generalizing c with
  | nil => exact ⟨hc, .of_marks (.refl _)⟩
  | cons id ids ih =>
      obtain ⟨hnot, hnodup⟩ := List.nodup_cons.1 hnodup
      obtain ⟨hid, hids⟩ := List.forall_mem_cons.1 hids
      obtain ⟨hc', hd⟩ := hdrop c id hc hid
      refine (ih hc' hnodup fun id' hid' => hd.mem.2 ⟨hids id' hid', ?_⟩).imp_right fun hrest =>
        hd.trans hrest
      rintro habs
      obtain rfl := List.mem_singleton.1 habs
      exact hnot hid'

/-- The packets of the lists `done` that can be dropped were dropped. -/
structure Dropped (c : Sndq) (streamId : StreamId) (done : List Place) (c' : Sndq) : Prop where
  counted : Counted [] c'
  drops : Drops (done.flatMap (SendCtl.dropsOf c.toSendQueue streamId)) c.toSendQueue c'.toSendQueue

theorem Dropped.next {streamId : StreamId} {done : List Place} {c' : Sndq} (hc : Counted [] c)
    (h : Dropped c streamId done c') {drop : Sndq → PktId → Sndq} (hp : p ∉ done)
    (hdrop : DropStep drop p) :
    Dropped c streamId (done ++ [p]) ((SendCtl.dropsOf c.toSendQueue streamId p).foldl drop c') := by
  have hnodup : (SendCtl.dropsOf c.toSendQueue streamId p).Nodup :=
    (nodup_shelf hc.nodup_listed (mem_allPlaces p)).filter _
  have hids : ∀ id ∈ SendCtl.dropsOf c.toSendQueue streamId p, id ∈ c'.lists p := by
    intro id hid
    have hmem : id ∈ c.lists p := (List.mem_filter.1 hid).1
    refine h.drops.mem.2 ⟨hmem, fun habs => ?_⟩
    obtain ⟨q, hq, hin⟩ := List.mem_flatMap.1 habs
    exact hp (hc.place hmem (List.mem_filter.1 hin).1 ▸ hq)
  obtain ⟨hc'', hd⟩ := hdrop.foldl h.counted hnodup hids
  refine ⟨hc'', ?_⟩
  rw [List.flatMap_append, List.flatMap_singleton]
  exact h.drops.trans hd

theorem canDrop_origin {s : SendQueue} {o : PktId} {po : PacketOut} (h : s.OriginOf o po)
    (streamId : StreamId) : streamFrameCanDrop po streamId = streamFrameCanDrop (s.pkts o) streamId := by
  have hsub : po.poFrameTypes ⊆ {.stream, .ack} ↔ (s.pkts o).poFrameTypes ⊆ {.stream, .ack} := by
    rw [h.types]
    refine ⟨fun hsub t ht => ?_, fun hsub => (Finset.erase_subset _ _).trans hsub⟩
    by_cases hack : t = .ack
    · rw [hack]
      exact Finset.mem_insert_of_mem (Finset.mem_singleton_self _)
    · exact hsub (Finset.mem_erase.2 ⟨hack, ht⟩)
  unfold streamFrameCanDrop
  rw [h.slots, decide_eq_decide.2 hsub]

theorem dropStreamFramePackets (h : SndqInv c) (streamId : StreamId) :
    SndqInv (c.dropStreamFramePackets streamId) := by
  set done : List Place := [.unackedPackets, .sendPackets, .lostPackets, .ptoProbePackets,
    .scheduleBuf .normal, .scheduleBuf .retrans, .scheduleBuf .ptoProbe] with hdone
  have hdropped : Dropped c streamId done (c.dropStreamFramePackets streamId) := by
    have h₀ : Dropped c streamId [] c := ⟨h.counted, .of_marks (.refl _)⟩
    have h₁ := h₀.next h.counted (by decide) dropUnacked_step
    have h₂ := h₁.next h.counted (by decide) (dropSend_step (p := .sendPackets) nofun)
    have h₃ := h₂.next h.counted (by decide) (dropSend_step (p := .lostPackets) nofun)
    have h₄ := h₃.next h.counted (by decide) (dropSend_step (p := .ptoProbePackets) nofun)
    have h₅ := h₄.next h.counted (by decide) (dropScheduled_step .normal)
    have h₆ := h₅.next h.counted (by decide) (dropScheduled_step .retrans)
    exact h₆.next h.counted (by decide) (dropScheduled_step .ptoProbe)
  have hd := hdropped.drops
  set s' := (c.dropStreamFramePackets streamId).toSendQueue with hs'
  have hgone : ∀ {id p}, id ∈ c.lists p →
      (id ∈ done.flatMap (SendCtl.dropsOf c.toSendQueue streamId) ↔
        p ∈ done ∧ streamFrameCanDrop (c.pkts id) streamId = true) := by
    intro id p hid
    rw [List.mem_flatMap]
    refine ⟨fun ⟨q, hq, hin⟩ => ?_, fun ⟨hp, hcan⟩ => ⟨p, hp, List.mem_filter.2 ⟨hid, hcan⟩⟩⟩
    obtain ⟨hmem, hcan⟩ := List.mem_filter.1 hin
    exact ⟨h.counted.place hmem hid ▸ hq, hcan⟩
  -- the lists that are not looked through hold no copies
  have hholds : ∀ {id p}, id ∈ c.lists p → (c.pkts id).poOrigin ≠ none → p ∈ done := by
    intro id p hid hcopy
    by_contra hp
    refine hcopy (h.kept.copies p ?_ id hid)
    cases p with
    | scheduleBuf t => cases t <;> first | rfl | exact absurd (by decide) hp
    | _ => first | rfl | exact absurd (by decide) hp
  -- a copy stays exactly if its origin does
  have hstay : ∀ {id o p}, id ∈ c.lists p → (c.pkts id).poOrigin = some o →
      (id ∈ done.flatMap (SendCtl.dropsOf c.toSendQueue streamId) ↔
        o ∈ done.flatMap (SendCtl.dropsOf c.toSendQueue streamId)) := by
    intro id o p hid ho
    have hof := h.kept.origin id (listed_of_mem hid) o ho
    rw [hgone hid, hgone hof.mem, canDrop_origin hof streamId]
    have hp : p ∈ done := hholds hid (by rw [ho]; exact nofun)
    have hun : Place.unackedPackets ∈ done := by decide
    exact ⟨fun hcan => ⟨hun, hcan.2⟩, fun hcan => ⟨hp, hcan.2⟩⟩
  refine ⟨hdropped.counted, h.kept.shrink (fun p id hid => (hd.mem.1 hid).1) (fun id _ => hd.kin id)
    (fun id _ => hd.path id) (fun id hid o ho => ?_) fun o ho hroot => ?_⟩
  · obtain ⟨p, hp⟩ := mem_listed.1 hid
    obtain ⟨hmem, hnot⟩ := hd.mem.1 hp
    have hof := h.kept.origin id (listed_of_mem hmem) o ho
    exact hd.mem.2 ⟨hof.mem, mt (hstay hmem ho).2 hnot⟩
  · rw [hd.listed, List.mem_filter, decide_eq_true_eq] at ho
    rw [hd.refs, h.kept.refs o ho.1 hroot]
    refine congrArg (· + _) ?_
    have hcount : s'.copyCount o = s'.listed.countP fun id => (c.pkts id).poOrigin = some o :=
      List.countP_congr fun id _ => by rw [hd.poOrigin]
    rw [hcount, hd.listed, List.countP_filter, SendQueue.copyCount]
    refine List.countP_congr fun id hid => ?_
    obtain ⟨p, hp⟩ := mem_listed.1 hid
    simp only [decide_eq_true_eq, Bool.and_eq_true]
    exact ⟨fun horigin => ⟨horigin, mt (hstay hp horigin).1 ho.2⟩, And.left⟩

/-! ### Steps and runs -/

theorem dropPackets (h : SndqInv c) (hempty : c.Empty) : SndqInv c.dropPackets := by
  have hlisted : c.dropPackets.listed = [] := rfl
  have hfree : c.dropPackets.freePackets = [] := by
    change c.freePackets ++ c.listed = []
    rw [hempty.free, hempty.listed]
    rfl
  refine ⟨⟨?_, ?_, ?_, ?_, ?_, rfl, nofun, h.counted.noWrap⟩, nofun, nofun, nofun, nofun,
    fun p hp id hid => nomatch hid⟩
  · rw [hlisted, hfree]
    exact List.nodup_nil
  · rw [hlisted, hfree]
    exact nofun
  · rw [hlisted]
    exact .refl _
  · rw [hfree]
    rfl
  · rw [hlisted]
    rfl

theorem step (h : SndqInv c) (ev : SndqEvent) (hdrop : ev = .dropPackets → c.Empty) :
    SndqInv (c.step ev) := by
  cases ev with
  | control params f notify bufSize handshakeDone =>
      exact h.writeControlFrame params f notify bufSize handshakeDone
  | pingToProbe params => exact h.sendPingToProbe params
  | stream highPri params streamId offset fin payload =>
      exact h.writeStreamFrame highPri params streamId offset fin payload
  | ack params ackDelay ackDelayExponent => exact h.writeAckToPackets params ackDelay ackDelayExponent
  | pathChallenge params data => exact h.sendPathChallenge params data
  | schedule t => exact h.schedulePacket t
  | clear t => exact h.pathSendBufferClear t
  | send t outcome srtt now => exact h.sendPacket t outcome srtt now
  | numberUnsent t n now =>
      have hnumber : SndqInv (c.onQueue fun s => numberUnsent s t n now) :=
        h.marks (Marks.numberUnsent c.toSendQueue t n now)
      exact hnumber
  | buff1rtt => exact h.buff1rttPackets
  | writeBuffed1rtt => exact h.writeBuffed1rttPackets
  | acked id =>
      rw [Sndq.step]
      split_ifs with hid
      · have hacked := Marks.onPacketAcked c.toSendQueue id
        have hlisted : id ∈ (c.onPacketAcked id).listed := by
          have hmem := listed_of_mem hid
          rw [← hacked.listed] at hmem
          exact hmem
        exact SndqInv.maybeRemoveUnacked (h.marks hacked) hlisted false
      · exact h
  | settled p id =>
      rw [Sndq.step]
      split_ifs with hid
      · cases hc' : c.indirectlyAckOrDropPo id with
        | none => exact h
        | some c' => exact h.indirectlyAckOrDropPo (listed_of_mem hid) hc'
      · exact h
  | lost id =>
      rw [Sndq.step]
      split_ifs with hid
      · exact h.onPacketLost hid
      · exact h
  | probe id =>
      rw [Sndq.step]
      split_ifs with hid
      · exact h.probe hid
      · exact h
  | recvPacket pktNum =>
      have hrecord : SndqInv (c.onQueue fun s =>
          { s with recvRecord := (recvRecordAdd s.recvRecord pktNum).1 }) :=
        h.marks ⟨rfl, rfl, fun _ => rfl⟩
      exact hrecord
  | dropStream streamId => exact h.dropStreamFramePackets streamId
  | dropPackets => exact h.dropPackets (hdrop rfl)

theorem run (h : SndqInv c) (evs : List SndqEvent)
    (hdrop : ∀ pre, pre ++ [.dropPackets] <+: evs → (c.run pre).Empty) : SndqInv (c.run evs) := by
  induction evs generalizing c with
  | nil => exact h
  | cons ev evs ih =>
      refine ih (h.step ev fun hev => ?_) fun pre hpre => ?_
      · refine hdrop [] ?_
        rw [hev]
        exact ⟨evs, rfl⟩
      · refine hdrop (ev :: pre) ?_
        rw [List.cons_append]
        exact (List.prefix_cons_inj ev).2 hpre

theorem exact (h : SndqInv c) : Exact c where
  free := h.counted.free
  unacked := h.counted.unacked
  used := by
    rw [h.counted.used, h.counted.live.length_eq]
  one id hid := by
    have hperm := h.counted.live
    rw [List.append_nil] at hperm
    have hlisted : id ∈ c.listed := hperm.mem_iff.1 hid
    exact ⟨List.count_eq_one_of_mem h.counted.nodup_listed hlisted, h.counted.not_free hid⟩
  noWrap := h.counted.noWrap

end SndqInv

/-- **The counters are right in every state of a run exactly if `rqc_send_queue_drop_packets` never
meets a packet.** -/
theorem exact_run_iff (evs : List SndqEvent) :
    (∀ pre, pre <+: evs → Exact (Sndq.run {} pre)) ↔
      ∀ pre, pre ++ [.dropPackets] <+: evs → (Sndq.run {} pre).Empty := by
  refine ⟨fun hexact pre hpre => ?_, fun hdrop pre hpre => ?_⟩
  · have hfree := (hexact _ hpre).free
    rw [Sndq.run, List.foldl_append] at hfree
    have hlength : ((Sndq.run {} pre).freePackets ++ (Sndq.run {} pre).listed).length = 0 := hfree.symm
    obtain ⟨hfree, hlisted⟩ := List.append_eq_nil_iff.1 (List.length_eq_zero_iff.1 hlength)
    exact ⟨hlisted, hfree⟩
  · exact (SndqInv.init.run pre fun pre' hpre' => hdrop pre' (hpre'.trans hpre)).exact

/-- A packet is written, and the queue is emptied before it is sent; then CONNECTION_CLOSE is written. -/
def closingRun : List SndqEvent :=
  [.control demoParams .ping false 0 true, .dropPackets, .control demoParams (.connClose 0) false 0 true]

/-- No packet is counted as free where one is, and the next packet takes the counter below zero. -/
theorem not_exact_closingRun :
    ¬ ∀ (evs : List SndqEvent) (pre : List SndqEvent), pre <+: evs → Exact (Sndq.run {} pre) := by
  intro hall
  have hwrap := (hall closingRun closingRun (List.prefix_refl _)).noWrap
  exact absurd hwrap (by decide +kernel)

end Rquic

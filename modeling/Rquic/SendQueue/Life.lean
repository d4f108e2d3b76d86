import Rquic.SendQueue.Content

set_option autoImplicit false

/-!
# The life of a packet

A packet waits in some list, is sent, stays among the unacknowledged packets and may be copied there;
the copies of a packet are its family.

* `SendQueue.root`, `SendQueue.Waiting`, `SendQueue.Live`: the family of a packet and where it is.
* `QueueInv`: the lists and the families of a reachable queue.
* `LifeStep`: what one step can do to the families, with the packet numbers that are acknowledged and
  the packets that are copied or forgotten.
* **`LifeStep.inv`**: the steps keep the invariant.
-/

namespace Rquic

/-! ## Families -/

/-- The original of a packet: its origin, or the packet itself. -/
def SendQueue.root (s : SendQueue) (id : PktId) : PktId := (s.pkts id).poOrigin.getD id

/-- The packet is in a list of packets that are still to be sent. -/
def SendQueue.Waiting (s : SendQueue) (id : PktId) : Prop :=
  ∃ p, p ≠ .unackedPackets ∧ id ∈ s.lists p

/-- The packet will be sent, or was sent and is in flight. -/
def SendQueue.Live (s : SendQueue) (id : PktId) : Prop :=
  s.Waiting id ∨ (id ∈ s.lists .unackedPackets ∧ (s.pkts id).inFlight = true)

theorem Place.ne_unacked {p : Place} (h : p.fillable = true) : p ≠ .unackedPackets := by
  rintro rfl
  cases h

/-- A packet without the marks that its life does not depend on. -/
def PacketOut.life (po : PacketOut) : PacketOut :=
  { po with
    poCcSize := 0, poOriginRefCnt := 0, lost := false, tlp := false, streamUnack := false
    retransed := false, inPathBufList := false, inUnackList := false, spuriousLoss := false }

/-- What a packet that was sent can become: it may leave the flight, it may be acknowledged. -/
structure PacketOut.Later (po po' : PacketOut) : Prop where
  body : po'.body = po.body
  pktNum : po'.pktNum = po.pktNum
  poSentTime : po'.poSentTime = po.poSentTime
  inFlight : po'.inFlight = true → po.inFlight = true
  poAcked : po.poAcked = true → po'.poAcked = true

/-- The packet `po` is a copy of the packet `origin`. -/
structure SendQueue.CopyOf (s : SendQueue) (origin : PktId) (po : PacketOut) : Prop where
  lt : origin < s.nextId
  original : (s.pkts origin).poOrigin = none
  types : po.poFrameTypes = (s.pkts origin).poFrameTypes.erase .ack
  slots : po.poStreamFrames = (s.pkts origin).poStreamFrames
  acked : po.poAcked = true → (s.pkts origin).poAcked = true
  sent : ¬ s.Waiting origin

/-- A packet that is made or filled. -/
structure PacketOut.Sound (e : ℕ) (po : PacketOut) : Prop where
  content : PktInv e (fun _ => True) po
  datagram : .datagram ∈ po.poFrameTypes → ¬ needRepair po.poFrameTypes
  ackBit : 0 < po.poLargestAck → .ack ∈ po.poFrameTypes

/-- The lists and the families of a reachable queue. -/
structure QueueInv (e : ℕ) (s : SendQueue) : Prop where
  fresh : s.Fresh
  apart : ∀ id ∈ s.lists .unackedPackets, ¬ s.Waiting id
  sorted : (s.lists .unackedPackets).Pairwise fun a b => (s.pkts a).pktNum < (s.pkts b).pktNum
  pn_lt : ∀ id ∈ s.lists .unackedPackets, (s.pkts id).pktNum < s.packetNumber
  /-- Copies are sent after their original. -/
  order : ∀ id ∈ s.lists .unackedPackets, ∀ origin ∈ s.lists .unackedPackets,
    (s.pkts id).poOrigin = some origin → (s.pkts origin).pktNum < (s.pkts id).pktNum
  family : ∀ id < s.nextId, ∀ origin, (s.pkts id).poOrigin = some origin →
    s.CopyOf origin (s.pkts id)
  sound : ∀ id < s.nextId, (s.pkts id).poOrigin = none → (s.pkts id).Sound e
  datagram : ∀ id < s.nextId, .datagram ∈ (s.pkts id).poFrameTypes →
    ¬ needRepair (s.pkts id).poFrameTypes

theorem PacketOut.Later.refl (po : PacketOut) : po.Later po := ⟨rfl, rfl, rfl, id, id⟩

theorem PacketOut.Later.trans {a b c : PacketOut} (h : a.Later b) (h' : b.Later c) : a.Later c :=
  ⟨h'.body.trans h.body, h'.pktNum.trans h.pktNum, h'.poSentTime.trans h.poSentTime,
    fun hc => h.inFlight (h'.inFlight hc), fun ha => h'.poAcked (h.poAcked ha)⟩

theorem PacketOut.Later.of_life {po po' : PacketOut} (h : po'.life = po.life) : po.Later po' where
  body := (congrArg PacketOut.body h :)
  pktNum := (congrArg PacketOut.pktNum h :)
  poSentTime := (congrArg PacketOut.poSentTime h :)
  inFlight := fun hin => ((congrArg PacketOut.inFlight h :) : po'.inFlight = po.inFlight) ▸ hin
  poAcked := fun hack => ((congrArg PacketOut.poAcked h :) : po'.poAcked = po.poAcked) ▸ hack

theorem PacketOut.Later.poOrigin {po po' : PacketOut} (h : po.Later po') :
    po'.poOrigin = po.poOrigin := (congrArg PacketOut.poOrigin h.body :)

theorem PacketOut.Later.types {po po' : PacketOut} (h : po.Later po') :
    po'.poFrameTypes = po.poFrameTypes := (congrArg PacketOut.poFrameTypes h.body :)

theorem PacketOut.later_decreaseInflight (po : PacketOut) : po.Later po.decreaseInflight := by
  unfold PacketOut.decreaseInflight
  split_ifs
  · exact ⟨rfl, rfl, rfl, nofun, fun h => h⟩
  · exact .refl po

theorem PacketOut.Sound.of_body {e : ℕ} {po po' : PacketOut} (hbody : po'.body = po.body)
    (h : po.Sound e) : po'.Sound e := by
  have htypes : po'.poFrameTypes = po.poFrameTypes := (congrArg PacketOut.poFrameTypes hbody :)
  have hlargest : po'.poLargestAck = po.poLargestAck := (congrArg PacketOut.poLargestAck hbody :)
  refine ⟨h.content.of_body hbody, ?_, ?_⟩
  · rw [htypes]
    exact h.datagram
  · rw [htypes, hlargest]
    exact h.ackBit

/-- The frame types of a family agree up to the ACK frame. -/
theorem SendQueue.CopyOf.needRepair_iff {s : SendQueue} {origin : PktId} {po : PacketOut}
    (h : s.CopyOf origin po) :
    needRepair po.poFrameTypes ↔ needRepair (s.pkts origin).poFrameTypes := by
  rw [h.types]
  refine ⟨fun ⟨t, ht, hneed⟩ => ⟨t, Finset.mem_of_mem_erase ht, hneed⟩, fun ⟨t, ht, hneed⟩ => ?_⟩
  refine ⟨t, Finset.mem_erase.2 ⟨?_, ht⟩, hneed⟩
  rintro rfl
  cases hneed

/-! ## Changes within one family -/

/-- The family `root` is changed and nothing else: its packets may leave their lists, and may be
acknowledged if `acked`. -/
structure Within (root : PktId) (acked : Prop) (s s' : SendQueue) : Prop where
  eq : s' = { s with lists := s'.lists, pkts := s'.pkts }
  lists : ∀ p, (s'.lists p).Sublist (s.lists p)
  keep : ∀ p id, s.root id ≠ root → id ∈ s.lists p → id ∈ s'.lists p
  others : ∀ id, s.root id ≠ root → s'.pkts id = s.pkts id
  later : ∀ id, (s.pkts id).Later (s'.pkts id)
  acked : ∀ id, (s'.pkts id).poAcked = true → (s.pkts id).poAcked = true ∨ acked

theorem SendQueue.root_of_later {s s' : SendQueue} {id : PktId} (h : (s.pkts id).Later (s'.pkts id)) :
    s'.root id = s.root id := by
  rw [SendQueue.root, SendQueue.root, h.poOrigin]

namespace Within

variable {root : PktId} {acked : Prop} {s s' s'' : SendQueue}

theorem refl (s : SendQueue) : Within root acked s s :=
  ⟨rfl, fun _ => List.Sublist.refl _, fun _ _ _ h => h, fun _ _ => rfl, fun _ => .refl _,
    fun _ h => .inl h⟩

theorem trans (h : Within root acked s s') (h' : Within root acked s' s'') :
    Within root acked s s'' where
  eq := by rw [h'.eq, h.eq]
  lists := fun p => (h'.lists p).trans (h.lists p)
  keep := fun p id hne hid =>
    h'.keep p id (by rwa [SendQueue.root_of_later (h.later id)]) (h.keep p id hne hid)
  others := fun id hne =>
    (h'.others id (by rwa [SendQueue.root_of_later (h.later id)])).trans (h.others id hne)
  later := fun id => (h.later id).trans (h'.later id)
  acked := fun id hack => (h'.acked id hack).elim (h.acked id) .inr

theorem modify {id : PktId} {f : PacketOut → PacketOut} (hroot : s.root id = root)
    (hlater : (s.pkts id).Later (f (s.pkts id)))
    (hacked : (f (s.pkts id)).poAcked = true → (s.pkts id).poAcked = true ∨ acked) :
    Within root acked s (s.modify id f) where
  eq := rfl
  lists := fun _ => List.Sublist.refl _
  keep := fun _ _ _ h => h
  others := by
    intro id' hne
    refine SendQueue.modify_pkts_of_ne s f ?_
    rintro rfl
    exact hne hroot
  later := by
    intro id'
    by_cases h : id' = id
    · rw [h, SendQueue.modify_pkts_self]
      exact hlater
    · rw [SendQueue.modify_pkts_of_ne s f h]
      exact .refl _
  acked := by
    intro id' hack
    by_cases h : id' = id
    · rw [h, SendQueue.modify_pkts_self] at hack
      rw [h]
      exact hacked hack
    · rw [SendQueue.modify_pkts_of_ne s f h] at hack
      exact .inl hack

theorem mark {id : PktId} {f : PacketOut → PacketOut} (hroot : s.root id = root)
    (hf : ∀ po, (f po).life = po.life) : Within root acked s (s.modify id f) := by
  refine modify hroot (.of_life (hf _)) fun hack => .inl ?_
  exact ((congrArg PacketOut.poAcked (hf _) :) : (f (s.pkts id)).poAcked = (s.pkts id).poAcked) ▸ hack

theorem unlink {id : PktId} (hroot : s.root id = root) : Within root acked s (s.unlink id) where
  eq := rfl
  lists := fun _ => List.filter_sublist
  keep := by
    intro p id' hne hid'
    refine List.mem_filter.2 ⟨hid', decide_eq_true ?_⟩
    rintro rfl
    exact hne hroot
  others := fun _ _ => rfl
  later := fun _ => .refl _
  acked := fun _ h => .inl h

end Within

/-! ## Steps -/

/-- The family `root` is acknowledged already, or one of its packets is. -/
def SendQueue.AckedBy (s : SendQueue) (acks : ℕ → Prop) (root : PktId) : Prop :=
  (s.pkts root).poAcked = true ∨
    ∃ id ∈ s.lists .unackedPackets, s.root id = root ∧ acks (s.pkts id).pktNum

/-- What one step can do to the packets, where the packet numbers `acks` are acknowledged, the packets
`copied` may be copied and the packets `forgotten` may be given up. -/
inductive LifeStep (e : ℕ) (acks : ℕ → Prop) (copied forgotten : PktId → Prop) :
    SendQueue → SendQueue → Prop where
  /-- Packets that wait change their lists. -/
  | move (s : SendQueue) (lists : Place → List PktId) (pkts : PktId → PacketOut)
      (hwait : ∀ id, (∃ p, p ≠ .unackedPackets ∧ id ∈ lists p) ↔ s.Waiting id)
      (hunacked : lists .unackedPackets = s.lists .unackedPackets)
      (hlife : ∀ id, (pkts id).life = (s.pkts id).life) :
      LifeStep e acks copied forgotten s { s with lists := lists, pkts := pkts }
  | number (s : SendQueue) (id : PktId) (now : ℕ) (hid : s.Waiting id) :
      LifeStep e acks copied forgotten s (setNextPn s id now)
  | send (s : SendQueue) (id : PktId) (srtt now : ℕ) (hid : s.Waiting id) :
      LifeStep e acks copied forgotten s (transmit s id srtt now)
  | insert (s : SendQueue) (p : Place) (po : PacketOut) (hp : p ≠ .unackedPackets)
      (horigin : po.poOrigin = none) (hacked : po.poAcked = false) (hsound : po.Sound e) :
      LifeStep e acks copied forgotten s (s.insertNew p po)
  | fill (s : SendQueue) (p : Place) (id : PktId) (po : PacketOut) (hp : p.fillable = true)
      (hid : id ∈ s.lists p) (horigin : (s.pkts id).poOrigin = none ∧ po.poOrigin = none)
      (hacked : po.poAcked = (s.pkts id).poAcked) (hsound : po.Sound e) :
      LifeStep e acks copied forgotten s (s.set id po)
  /-- A copy of a packet that was sent. -/
  | repair (s : SendQueue) (p : Place) (src : PktId) (copy : PacketOut) (pkts : PktId → PacketOut)
      (hp : p ≠ .unackedPackets) (hsrc : src ∈ s.lists .unackedPackets) (hcopied : copied src)
      (hcopy : (s.pkts src).decreaseInflight.retransmission src = some copy)
      (hnew : pkts s.nextId = copy) (hlater : ∀ id, id ≠ s.nextId → (s.pkts id).Later (pkts id))
      (hacked : ∀ id, id ≠ s.nextId → (pkts id).poAcked = true → (s.pkts id).poAcked = true)
      (hlife : ∀ id, id ≠ s.nextId → id ≠ src → (pkts id).life = (s.pkts id).life) :
      LifeStep e acks copied forgotten s { s with
        pkts := pkts, nextId := s.nextId + 1
        lists := Function.update s.lists p (s.lists p ++ [s.nextId]) }
  /-- A family is acknowledged, or leaves the queue because it need not be repaired. -/
  | settle (s s' : SendQueue) (root : PktId) (hw : Within root (s.AckedBy acks root) s s')
      (hroot : (s'.pkts root).poAcked = true ∨ (¬ needRepair (s.pkts root).poFrameTypes ∧
        ∀ id, (s'.pkts id).poAcked = true → (s.pkts id).poAcked = true)) :
      LifeStep e acks copied forgotten s s'
  /-- The packet-number space: what it learns comes from acknowledged packets. -/
  | space (s : SendQueue) (largestAcked : Option ℕ) (largestAckedAck : ℕ)
      (ackSentRecord : AckSentRecord)
      (hring : ∀ i ∈ ackSentRecord.ackSent, i ∈ s.ackSentRecord.ackSent)
      (hlargest : largestAckedAck = s.largestAckedAck ∨
        (∃ id ∈ s.lists .unackedPackets, acks (s.pkts id).pktNum ∧
          largestAckedAck = (s.pkts id).poLargestAck) ∨
        ∃ i ∈ s.ackSentRecord.ackSent, acks i.pktNum ∧ largestAckedAck = i.largestAck) :
      LifeStep e acks copied forgotten s { s with
        largestAcked := largestAcked, largestAckedAck := largestAckedAck
        ackSentRecord := ackSentRecord }
  | record (s : SendQueue) (record : RecvRecord) :
      LifeStep e acks copied forgotten s { s with recvRecord := record }
  | drop (s : SendQueue) (streamId : StreamId)
      (hforgotten : ∀ id, streamFrameCanDrop (s.pkts id) streamId = true → forgotten id) :
      LifeStep e acks copied forgotten s (dropStreamFramePackets s streamId)
  /-- A packet is sent once and not kept. -/
  | shoot (s : SendQueue) (id : PktId) (horigin : (s.pkts id).poOrigin = none)
      (hforgotten : forgotten id) :
      LifeStep e acks copied forgotten s ((writeSocket s id).unlink id)

/-- Sequences of steps. -/
abbrev LifeSteps (e : ℕ) (acks : ℕ → Prop) (copied forgotten : PktId → Prop) :
    SendQueue → SendQueue → Prop :=
  Relation.ReflTransGen (LifeStep e acks copied forgotten)

/-! ## The invariant -/

theorem queueInv_init (e : ℕ) : QueueInv e {} where
  fresh := fun _ _ hid => by cases hid
  apart := fun _ hid => by cases hid
  sorted := List.Pairwise.nil
  pn_lt := fun _ hid => by cases hid
  order := fun _ hid => by cases hid
  family := fun _ hid => by cases hid
  sound := fun _ hid => by cases hid
  datagram := fun _ hid => by cases hid

theorem QueueInv.families {e : ℕ} {s : SendQueue} (h : QueueInv e s) (s' : SendQueue)
    (hnext : s'.nextId = s.nextId)
    (hbody : ∀ id, (s'.pkts id).body = (s.pkts id).body)
    (hmono : ∀ id, (s.pkts id).poAcked = true → (s'.pkts id).poAcked = true)
    (hacked : ∀ id origin, (s.pkts id).poOrigin = some origin → (s'.pkts id).poAcked = true →
      (s.pkts id).poAcked = true ∨ (s'.pkts origin).poAcked = true)
    (hwait : ∀ id, s'.Waiting id → s.Waiting id) :
    (∀ id < s'.nextId, ∀ origin, (s'.pkts id).poOrigin = some origin →
      s'.CopyOf origin (s'.pkts id)) ∧
    (∀ id < s'.nextId, (s'.pkts id).poOrigin = none → (s'.pkts id).Sound e) ∧
    ∀ id < s'.nextId, .datagram ∈ (s'.pkts id).poFrameTypes →
      ¬ needRepair (s'.pkts id).poFrameTypes := by
  have horigin : ∀ id, (s'.pkts id).poOrigin = (s.pkts id).poOrigin :=
    fun id => (congrArg PacketOut.poOrigin (hbody id) :)
  have htypes : ∀ id, (s'.pkts id).poFrameTypes = (s.pkts id).poFrameTypes :=
    fun id => (congrArg PacketOut.poFrameTypes (hbody id) :)
  have hslots : ∀ id, (s'.pkts id).poStreamFrames = (s.pkts id).poStreamFrames :=
    fun id => (congrArg PacketOut.poStreamFrames (hbody id) :)
  rw [hnext]
  refine ⟨fun id hid origin ho => ?_, fun id hid ho => ?_, fun id hid hdatagram => ?_⟩
  · rw [horigin] at ho
    have hcopy := h.family id hid origin ho
    refine ⟨hnext ▸ hcopy.lt, (horigin origin).trans hcopy.original, ?_, ?_, fun hack => ?_,
      mt (hwait origin) hcopy.sent⟩
    · rw [htypes, htypes, hcopy.types]
    · rw [hslots, hslots, hcopy.slots]
    · exact (hacked id origin ho hack).elim (fun hold => hmono origin (hcopy.acked hold)) fun hnew => hnew
  · exact (h.sound id hid ((horigin id).symm.trans ho)).of_body (hbody id)
  · rw [htypes] at hdatagram ⊢
    exact h.datagram id hid hdatagram

theorem QueueInv.nextId_notMem {e : ℕ} {s : SendQueue} (h : QueueInv e s) (p : Place) :
    s.nextId ∉ s.lists p := fun hmem => (h.fresh p _ hmem).ne rfl

theorem QueueInv.insertNew {e : ℕ} {s : SendQueue} {p : Place} {po : PacketOut} (h : QueueInv e s)
    (hp : p ≠ .unackedPackets) (horigin : po.poOrigin = none) (hsound : po.Sound e) :
    QueueInv e (s.insertNew p po) := by
  have hold : ∀ id < s.nextId, (s.insertNew p po).pkts id = s.pkts id :=
    fun id hid => SendQueue.insertNew_pkts_of_ne _ _ _ hid.ne
  have hunacked : (s.insertNew p po).lists .unackedPackets = s.lists .unackedPackets :=
    Function.update_of_ne hp.symm ..
  have hlt : ∀ id ∈ s.lists .unackedPackets, id < s.nextId := h.fresh .unackedPackets
  -- a handle is an old one or the new one
  have hsplit : ∀ id < s.nextId + 1, id < s.nextId ∨ id = s.nextId :=
    fun id hid => Nat.lt_succ_iff_lt_or_eq.1 hid
  refine ⟨h.fresh.insertNew p po, ?_, ?_, ?_, ?_, ?_, ?_, ?_⟩
  · rw [hunacked]
    rintro id hid ⟨q, hq, hmem⟩
    rcases (SendQueue.mem_insertNew _).1 hmem with hmem | ⟨-, rfl⟩
    · exact h.apart id hid ⟨q, hq, hmem⟩
    · exact h.nextId_notMem _ hid
  · rw [hunacked]
    refine h.sorted.imp_of_mem fun ha hb hlt' => ?_
    rwa [hold _ (hlt _ ha), hold _ (hlt _ hb)]
  · rw [hunacked]
    intro id hid
    rw [hold id (hlt id hid)]
    exact h.pn_lt id hid
  · rw [hunacked]
    intro id hid origin horig
    rw [hold id (hlt id hid), hold origin (hlt origin horig)]
    exact h.order id hid origin horig
  · intro id hid origin ho
    rcases hsplit id hid with hid | rfl
    · rw [hold id hid] at ho ⊢
      have hcopy := h.family id hid origin ho
      have horig : (s.insertNew p po).pkts origin = s.pkts origin := hold origin hcopy.lt
      refine ⟨Nat.lt_succ_of_lt hcopy.lt, horig ▸ hcopy.original, horig ▸ hcopy.types,
        horig ▸ hcopy.slots, horig ▸ hcopy.acked, fun ⟨q, hq, hmem⟩ => ?_⟩
      rcases (SendQueue.mem_insertNew _).1 hmem with hmem | ⟨-, rfl⟩
      · exact hcopy.sent ⟨q, hq, hmem⟩
      · exact hcopy.lt.ne rfl
    · rw [SendQueue.insertNew_pkts_nextId, horigin] at ho
      cases ho
  · intro id hid ho
    rcases hsplit id hid with hid | rfl
    · rw [hold id hid] at ho ⊢
      exact h.sound id hid ho
    · rw [SendQueue.insertNew_pkts_nextId]
      exact hsound
  · intro id hid
    rcases hsplit id hid with hid | rfl
    · rw [hold id hid]
      exact h.datagram id hid
    · rw [SendQueue.insertNew_pkts_nextId]
      exact hsound.datagram

theorem QueueInv.move {e : ℕ} {s : SendQueue} (h : QueueInv e s) {lists : Place → List PktId}
    {pkts : PktId → PacketOut}
    (hwait : ∀ id, (∃ p, p ≠ .unackedPackets ∧ id ∈ lists p) ↔ s.Waiting id)
    (hunacked : lists .unackedPackets = s.lists .unackedPackets)
    (hlife : ∀ id, (pkts id).life = (s.pkts id).life) :
    QueueInv e { s with lists := lists, pkts := pkts } := by
  have hpn : ∀ id, (pkts id).pktNum = (s.pkts id).pktNum :=
    fun id => (congrArg PacketOut.pktNum (hlife id) :)
  have hack : ∀ id, (pkts id).poAcked = (s.pkts id).poAcked :=
    fun id => (congrArg PacketOut.poAcked (hlife id) :)
  obtain ⟨hfamily, hsound, hdatagram⟩ :=
    h.families { s with lists := lists, pkts := pkts } rfl
      (fun id => (congrArg PacketOut.body (hlife id) :)) (fun id hid => (hack id).trans hid)
      (fun id origin _ hid => .inl ((hack id).symm.trans hid)) fun id => (hwait id).1
  refine ⟨fun p id hid => ?_, ?_, ?_, ?_, ?_, hfamily, hsound, hdatagram⟩
  · by_cases hp : p = .unackedPackets
    · subst hp
      exact h.fresh .unackedPackets id (hunacked ▸ hid)
    · obtain ⟨q, -, hq⟩ := (hwait id).1 ⟨p, hp, hid⟩
      exact h.fresh q id hq
  · intro id hid hwaiting
    exact h.apart id (hunacked ▸ hid) ((hwait id).1 hwaiting)
  · show (lists .unackedPackets).Pairwise _
    rw [hunacked]
    refine h.sorted.imp fun hlt => ?_
    rwa [hpn, hpn]
  · intro id hid
    show (pkts id).pktNum < s.packetNumber
    rw [hpn]
    exact h.pn_lt id (hunacked ▸ hid)
  · intro id hid origin horig ho
    show (pkts origin).pktNum < (pkts id).pktNum
    rw [hpn, hpn]
    refine h.order id (hunacked ▸ hid) origin (hunacked ▸ horig) ?_
    exact (congrArg PacketOut.poOrigin (hlife id) :).symm.trans ho

/-- A packet that is not among the unacknowledged ones may change its number. -/
theorem QueueInv.number {e : ℕ} {s : SendQueue} (h : QueueInv e s) {id : PktId} (now : ℕ)
    (hid : s.Waiting id) : QueueInv e (setNextPn s id now) := by
  have hne : ∀ id' ∈ s.lists .unackedPackets, (setNextPn s id now).pkts id' = s.pkts id' := by
    intro id' hid'
    refine SendQueue.modify_pkts_of_ne s _ ?_
    rintro rfl
    exact h.apart id' hid' hid
  have hself : ∀ id', ((setNextPn s id now).pkts id').body = (s.pkts id').body ∧
      ((setNextPn s id now).pkts id').poAcked = (s.pkts id').poAcked := by
    intro id'
    by_cases hid' : id' = id
    · rw [hid', show (setNextPn s id now).pkts id = _ from SendQueue.modify_pkts_self ..]
      exact ⟨rfl, rfl⟩
    · rw [show (setNextPn s id now).pkts id' = _ from SendQueue.modify_pkts_of_ne s _ hid']
      exact ⟨rfl, rfl⟩
  obtain ⟨hfamily, hsound, hdatagram⟩ :=
    h.families (setNextPn s id now) rfl (fun id' => (hself id').1)
      (fun id' hack => (hself id').2.trans hack)
      (fun id' _ _ hack => .inl ((hself id').2.symm.trans hack)) fun _ hwaiting => hwaiting
  refine ⟨h.fresh, h.apart, ?_, fun id' hid' => ?_, fun id' hid' origin horig => ?_, hfamily, hsound,
    hdatagram⟩
  · refine h.sorted.imp_of_mem fun ha hb hlt => ?_
    rwa [hne _ ha, hne _ hb]
  · rw [hne id' hid']
    exact Nat.lt_succ_of_lt (h.pn_lt id' hid')
  · rw [hne id' hid', hne origin horig]
    exact h.order id' hid' origin horig

/-! ### Sending -/

/-- The packet as it is after it was sent. -/
def sentPacket (s : SendQueue) (id : PktId) (now : ℕ) : PacketOut :=
  if isAckEliciting (s.pkts id).poFrameTypes then
    ((s.pkts id).number s.packetNumber now).onSent.leavePathBuf.enterUnackList
  else ((s.pkts id).number s.packetNumber now).onSent.leavePathBuf

@[simp] theorem onSent_types (po : PacketOut) : po.onSent.poFrameTypes = po.poFrameTypes :=
  (congrArg PacketOut.poFrameTypes (body_onSent po) :)

theorem transmit_eq (s : SendQueue) (id : PktId) (srtt now : ℕ) :
    transmit s id srtt now = { s with
      pkts := Function.update s.pkts id (sentPacket s id now)
      lists := if isAckEliciting (s.pkts id).poFrameTypes then
          ((s.unlink id).pushTail .unackedPackets id).lists else (s.unlink id).lists
      packetNumber := s.packetNumber + 1
      largestSent := max s.largestSent s.packetNumber
      ackSentRecord :=
        if 0 < (s.pkts id).poLargestAck then
          ackSentRecordAdd s.ackSentRecord ⟨s.packetNumber, (s.pkts id).poLargestAck⟩ srtt now
        else s.ackSentRecord
      wire := s.wire ++ [⟨s.packetNumber, (s.pkts id).payload⟩] } := by
  by_cases hack : isAckEliciting (s.pkts id).poFrameTypes
  · simp [transmit, insertUnacked, pathSendBufferRemove, onPacketSent, writeSocket, setNextPn,
      SendQueue.modify, SendQueue.set, SendQueue.unlink, SendQueue.pushTail, sentPacket, hack,
      PacketOut.number, PacketOut.leavePathBuf, PacketOut.payload]
  · simp [transmit, insertUnacked, pathSendBufferRemove, onPacketSent, writeSocket, setNextPn,
      SendQueue.modify, SendQueue.set, SendQueue.unlink, sentPacket, hack,
      PacketOut.number, PacketOut.leavePathBuf, PacketOut.payload]

theorem sentPacket_body (s : SendQueue) (id : PktId) (now : ℕ) :
    (sentPacket s id now).body = (s.pkts id).body := by
  have hleave : ∀ po : PacketOut, po.leavePathBuf.body = po.body := fun _ => rfl
  have henter : ∀ po : PacketOut, po.enterUnackList.body = po.body := fun _ => rfl
  have hnumber : ∀ po : PacketOut, (po.number s.packetNumber now).body = po.body := fun _ => rfl
  unfold sentPacket
  split_ifs
  · rw [henter, hleave, body_onSent, hnumber]
  · rw [hleave, body_onSent, hnumber]

theorem sentPacket_marks (s : SendQueue) (id : PktId) (now : ℕ) :
    (sentPacket s id now).poAcked = (s.pkts id).poAcked ∧
      (sentPacket s id now).pktNum = s.packetNumber := by
  unfold sentPacket PacketOut.onSent PacketOut.increaseUnackedStreamRef PacketOut.increaseInflight
    PacketOut.number PacketOut.leavePathBuf PacketOut.enterUnackList
  split_ifs <;> exact ⟨rfl, rfl⟩

/-- A packet that asks for an acknowledgement is in flight once it is sent. -/
theorem sentPacket_inFlight {s : SendQueue} {id : PktId} {now : ℕ}
    (hack : isAckEliciting (s.pkts id).poFrameTypes) : (sentPacket s id now).inFlight = true := by
  have hcan : canInFlight (s.pkts id).poFrameTypes := by
    obtain ⟨t, ht, hel⟩ := hack
    refine ⟨t, ht, ?_⟩
    cases t <;> first | rfl | cases hel
  unfold sentPacket PacketOut.onSent PacketOut.increaseUnackedStreamRef PacketOut.increaseInflight
    PacketOut.number PacketOut.leavePathBuf PacketOut.enterUnackList
  by_cases hin : (s.pkts id).inFlight = true
  · simp [hack, hcan, hin]
  · by_cases hstream : .stream ∈ (s.pkts id).poFrameTypes
    · simp [hack, hcan, hin, hstream]
    · simp [hack, hcan, hin, hstream]

theorem mem_transmit {s : SendQueue} {id id' : PktId} {srtt now : ℕ} {p : Place} :
    id' ∈ (transmit s id srtt now).lists p ↔ (id' ∈ s.lists p ∧ id' ≠ id) ∨
      (p = .unackedPackets ∧ id' = id ∧ isAckEliciting (s.pkts id).poFrameTypes) := by
  rw [transmit_eq]
  by_cases hack : isAckEliciting (s.pkts id).poFrameTypes
  · simp [hack, SendQueue.mem_pushTail]
  · simp [hack]

theorem transmit_pkts_self (s : SendQueue) (id : PktId) (srtt now : ℕ) :
    (transmit s id srtt now).pkts id = sentPacket s id now := by
  rw [transmit_eq]
  exact Function.update_self ..

theorem transmit_pkts_of_ne (s : SendQueue) {id id' : PktId} (srtt now : ℕ) (h : id' ≠ id) :
    (transmit s id srtt now).pkts id' = s.pkts id' := by
  rw [transmit_eq]
  exact Function.update_of_ne h ..

theorem QueueInv.send {e : ℕ} {s : SendQueue} (h : QueueInv e s) {id : PktId} (srtt now : ℕ)
    (hid : s.Waiting id) : QueueInv e (transmit s id srtt now) := by
  have hnext : (transmit s id srtt now).nextId = s.nextId := by rw [transmit_eq]
  have hpn : (transmit s id srtt now).packetNumber = s.packetNumber + 1 := by rw [transmit_eq]
  have hlt : id < s.nextId := by
    obtain ⟨p, -, hmem⟩ := hid
    exact h.fresh p id hmem
  have hself : ∀ id', ((transmit s id srtt now).pkts id').body = (s.pkts id').body ∧
      ((transmit s id srtt now).pkts id').poAcked = (s.pkts id').poAcked := by
    intro id'
    by_cases hid' : id' = id
    · rw [hid', transmit_pkts_self]
      exact ⟨sentPacket_body s id now, (sentPacket_marks s id now).1⟩
    · rw [transmit_pkts_of_ne s srtt now hid']
      exact ⟨rfl, rfl⟩
  have hunacked : (transmit s id srtt now).lists .unackedPackets =
      (s.lists .unackedPackets).filter (· ≠ id) ++
        if isAckEliciting (s.pkts id).poFrameTypes then [id] else [] := by
    rw [transmit_eq]
    by_cases hack : isAckEliciting (s.pkts id).poFrameTypes
    · simp [hack, SendQueue.pushTail]
    · simp [hack]
  have hold : ∀ id' ∈ (s.lists .unackedPackets).filter (· ≠ id),
      (transmit s id srtt now).pkts id' = s.pkts id' ∧ id' ∈ s.lists .unackedPackets := by
    intro id' hid'
    obtain ⟨hmem, hne⟩ := List.mem_filter.1 hid'
    exact ⟨transmit_pkts_of_ne s srtt now (of_decide_eq_true hne), hmem⟩
  obtain ⟨hfamily, hsound, hdatagram⟩ :=
    h.families (transmit s id srtt now) hnext (fun id' => (hself id').1)
      (fun id' hack => (hself id').2.trans hack)
      (fun id' _ _ hack => .inl ((hself id').2.symm.trans hack)) fun id' ⟨p, hp, hmem⟩ =>
        ⟨p, hp, ((mem_transmit.1 hmem).resolve_right fun habs => hp habs.1).1⟩
  refine ⟨fun p id' hid' => ?_, ?_, ?_, ?_, ?_, hfamily, hsound, hdatagram⟩
  · rw [hnext]
    rcases mem_transmit.1 hid' with ⟨hmem, -⟩ | ⟨-, rfl, -⟩
    · exact h.fresh p id' hmem
    · exact hlt
  · rintro id' hid' ⟨p, hp, hmem⟩
    obtain ⟨hmem, hne⟩ := (mem_transmit.1 hmem).resolve_right fun habs => hp habs.1
    have hid'' := (mem_transmit.1 hid').resolve_right fun habs => hne habs.2.1
    exact h.apart id' hid''.1 ⟨p, hp, hmem⟩
  · -- the packet gets the largest number so far and goes to the tail
    rw [hunacked, List.pairwise_append]
    refine ⟨?_, ?_, fun a ha b hb => ?_⟩
    · refine (h.sorted.filter _).imp_of_mem fun ha hb hlt' => ?_
      rwa [(hold _ ha).1, (hold _ hb).1]
    · split_ifs
      · exact List.pairwise_singleton _ _
      · exact List.Pairwise.nil
    · split_ifs at hb
      · rw [List.mem_singleton.1 hb, transmit_pkts_self, (sentPacket_marks s id now).2, (hold a ha).1]
        exact h.pn_lt a (hold a ha).2
      · cases hb
  · intro id' hid'
    rw [hpn]
    by_cases hne : id' = id
    · rw [hne, transmit_pkts_self, (sentPacket_marks s id now).2]
      exact Nat.lt_succ_self _
    · rw [transmit_pkts_of_ne s srtt now hne]
      rcases mem_transmit.1 hid' with ⟨hmem, -⟩ | ⟨-, habs, -⟩
      · exact Nat.lt_succ_of_lt (h.pn_lt id' hmem)
      · exact absurd habs hne
  · intro id' hid' origin horig ho
    have hold' : (s.pkts id').poOrigin = some origin :=
      (congrArg PacketOut.poOrigin (hself id').1 :).symm.trans ho
    -- the original of a copy does not wait, so it is not the packet that is sent
    have hne : origin ≠ id := by
      rintro rfl
      refine (h.family id' ?_ origin hold').sent hid
      rcases mem_transmit.1 hid' with ⟨hmem, -⟩ | ⟨-, rfl, -⟩
      · exact h.fresh _ id' hmem
      · exact hlt
    obtain ⟨horig', -⟩ := (mem_transmit.1 horig).resolve_right fun habs => hne habs.2.1
    rw [transmit_pkts_of_ne s srtt now hne]
    by_cases hid'' : id' = id
    · rw [hid'', transmit_pkts_self, (sentPacket_marks s id now).2]
      exact h.pn_lt origin horig'
    · rw [transmit_pkts_of_ne s srtt now hid'']
      exact h.order id' ((mem_transmit.1 hid').resolve_right fun habs => hid'' habs.2.1).1 origin horig'
        hold'

/-! ### Filling, copying and leaving -/

theorem QueueInv.fill {e : ℕ} {s : SendQueue} (h : QueueInv e s) {p : Place} {id : PktId}
    {po : PacketOut} (hp : p.fillable = true) (hid : id ∈ s.lists p)
    (horigin : (s.pkts id).poOrigin = none ∧ po.poOrigin = none) (hsound : po.Sound e) :
    QueueInv e (s.set id po) := by
  have hwaiting : s.Waiting id := ⟨p, Place.ne_unacked hp, hid⟩
  have hold : ∀ id', id' ≠ id → (s.set id po).pkts id' = s.pkts id' :=
    fun id' hne => SendQueue.set_pkts_of_ne s po hne
  have hunacked : ∀ id' ∈ s.lists .unackedPackets, (s.set id po).pkts id' = s.pkts id' := by
    intro id' hid'
    refine hold id' ?_
    rintro rfl
    exact h.apart id' hid' hwaiting
  refine ⟨h.fresh, h.apart, ?_, fun id' hid' => ?_, fun id' hid' origin horig => ?_,
    fun id' hid' origin ho => ?_, fun id' hid' ho => ?_, fun id' hid' => ?_⟩
  · refine h.sorted.imp_of_mem fun ha hb hlt => ?_
    rwa [hunacked _ ha, hunacked _ hb]
  · rw [hunacked id' hid']
    exact h.pn_lt id' hid'
  · rw [hunacked id' hid', hunacked origin horig]
    exact h.order id' hid' origin horig
  · by_cases hne : id' = id
    · rw [hne, SendQueue.set_pkts_self, horigin.2] at ho
      cases ho
    · rw [hold id' hne] at ho ⊢
      have hcopy := h.family id' hid' origin ho
      -- an original with copies is not filled any more
      have horig : (s.set id po).pkts origin = s.pkts origin := by
        refine hold origin ?_
        rintro rfl
        exact hcopy.sent hwaiting
      exact ⟨hcopy.lt, horig ▸ hcopy.original, horig ▸ hcopy.types, horig ▸ hcopy.slots,
        horig ▸ hcopy.acked, hcopy.sent⟩
  · by_cases hne : id' = id
    · rw [hne, SendQueue.set_pkts_self]
      exact hsound
    · rw [hold id' hne] at ho ⊢
      exact h.sound id' hid' ho
  · by_cases hne : id' = id
    · rw [hne, SendQueue.set_pkts_self]
      exact hsound.datagram
    · rw [hold id' hne]
      exact h.datagram id' hid'

theorem retransmission_fields {po copy : PacketOut} {id : PktId}
    (h : po.retransmission id = some copy) :
    .datagram ∉ po.poFrameTypes ∧ copy.poOrigin = some (po.poOrigin.getD id) ∧
      copy.poFrameTypes = po.poFrameTypes.erase .ack ∧ copy.poStreamFrames = po.poStreamFrames ∧
      copy.poAcked = po.poAcked ∧ copy.poLargestAck = po.poLargestAck := by
  unfold PacketOut.retransmission PacketOut.removeAckFrame at h
  split_ifs at h with hdatagram hin
  · obtain rfl := Option.some.inj h
    exact ⟨hdatagram, rfl, rfl, rfl, rfl, rfl⟩
  · obtain rfl := Option.some.inj h
    exact ⟨hdatagram, rfl, (Finset.erase_eq_of_notMem hin).symm, rfl, rfl, rfl⟩

/-- The copy of a packet that was sent belongs to the family of the packet. -/
theorem QueueInv.copyOf {e : ℕ} {s : SendQueue} (h : QueueInv e s) {src : PktId} {po copy : PacketOut}
    (hsrc : src ∈ s.lists .unackedPackets) (hlater : (s.pkts src).Later po)
    (hacked : po.poAcked = (s.pkts src).poAcked) (hcopy : po.retransmission src = some copy) :
    s.CopyOf (s.root src) copy := by
  have hlt := h.fresh _ src hsrc
  obtain ⟨-, -, htypes, hslots, hack, -⟩ := retransmission_fields hcopy
  have hslots' : po.poStreamFrames = (s.pkts src).poStreamFrames :=
    (congrArg PacketOut.poStreamFrames hlater.body :)
  cases horigin : (s.pkts src).poOrigin with
  | none =>
      rw [SendQueue.root, horigin, Option.getD_none]
      refine ⟨hlt, horigin, by rw [htypes, hlater.types], hslots.trans hslots', fun hc => ?_,
        h.apart src hsrc⟩
      rw [← hacked, ← hack]
      exact hc
  | some origin =>
      have hfam := h.family src hlt origin horigin
      rw [SendQueue.root, horigin, Option.getD_some]
      refine ⟨hfam.lt, hfam.original, ?_, (hslots.trans hslots').trans hfam.slots, fun hc => ?_,
        hfam.sent⟩
      · rw [htypes, hlater.types, hfam.types, Finset.erase_idem]
      · exact hfam.acked (by rw [← hacked, ← hack]; exact hc)

theorem QueueInv.repair {e : ℕ} {s : SendQueue} (h : QueueInv e s) {p : Place} {src : PktId}
    {copy : PacketOut} {pkts : PktId → PacketOut} (hp : p ≠ .unackedPackets)
    (hsrc : src ∈ s.lists .unackedPackets)
    (hcopy : (s.pkts src).decreaseInflight.retransmission src = some copy)
    (hnew : pkts s.nextId = copy) (hlater : ∀ id, id ≠ s.nextId → (s.pkts id).Later (pkts id))
    (hacked : ∀ id, id ≠ s.nextId → (pkts id).poAcked = true → (s.pkts id).poAcked = true) :
    QueueInv e { s with
      pkts := pkts, nextId := s.nextId + 1
      lists := Function.update s.lists p (s.lists p ++ [s.nextId]) } := by
  set s' : SendQueue := { s with
    pkts := pkts, nextId := s.nextId + 1
    lists := Function.update s.lists p (s.lists p ++ [s.nextId]) } with hs'
  have hmem : ∀ {id q}, id ∈ s'.lists q ↔ id ∈ s.lists q ∨ (q = p ∧ id = s.nextId) :=
    SendQueue.mem_insertNew copy
  have hunacked : s'.lists .unackedPackets = s.lists .unackedPackets :=
    Function.update_of_ne hp.symm ..
  have hpn : ∀ id ∈ s.lists .unackedPackets, (s'.pkts id).pktNum = (s.pkts id).pktNum :=
    fun id hid => (hlater id (h.fresh _ id hid).ne).pktNum
  have hsplit : ∀ id < s.nextId + 1, id < s.nextId ∨ id = s.nextId :=
    fun id hid => Nat.lt_succ_iff_lt_or_eq.1 hid
  have hsame : (s.pkts src).decreaseInflight.poAcked = (s.pkts src).poAcked := by
    unfold PacketOut.decreaseInflight
    split_ifs <;> rfl
  -- the origin of a packet is an original still, and is not filled
  have hkeep : ∀ {origin po po'}, s.CopyOf origin po → po'.body = po.body →
      (po'.poAcked = true → po.poAcked = true) → s'.CopyOf origin po' := by
    intro origin po po' hcopy' hbody hack
    have horig := hlater origin hcopy'.lt.ne
    refine ⟨Nat.lt_succ_of_lt hcopy'.lt, horig.poOrigin.trans hcopy'.original, ?_, ?_,
      fun hc => horig.poAcked (hcopy'.acked (hack hc)), fun ⟨q, hq, hin⟩ => ?_⟩
    · rw [horig.types, ← hcopy'.types]
      exact (congrArg PacketOut.poFrameTypes hbody :)
    · exact ((congrArg PacketOut.poStreamFrames hbody :).trans hcopy'.slots).trans
        (congrArg PacketOut.poStreamFrames horig.body :).symm
    · rcases hmem.1 hin with hin | ⟨-, rfl⟩
      · exact hcopy'.sent ⟨q, hq, hin⟩
      · exact hcopy'.lt.ne rfl
  have hnewCopy : s.CopyOf (s.root src) copy :=
    h.copyOf hsrc (PacketOut.later_decreaseInflight _) hsame hcopy
  obtain ⟨hnodat, horigin, htypes, -⟩ := retransmission_fields hcopy
  have hnew' : s'.pkts s.nextId = copy := hnew
  have hroot : copy.poOrigin = some (s.root src) := by
    rw [horigin, (PacketOut.later_decreaseInflight _).poOrigin, SendQueue.root]
  refine ⟨fun q id hid => ?_, ?_, ?_, ?_, ?_, fun id hid origin ho => ?_, fun id hid ho => ?_,
    fun id hid => ?_⟩
  · rcases hmem.1 hid with hid | ⟨-, rfl⟩
    · exact Nat.lt_succ_of_lt (h.fresh q id hid)
    · exact Nat.lt_succ_self _
  · rw [hunacked]
    rintro id hid ⟨q, hq, hin⟩
    rcases hmem.1 hin with hin | ⟨-, rfl⟩
    · exact h.apart id hid ⟨q, hq, hin⟩
    · exact h.nextId_notMem _ hid
  · rw [hunacked]
    refine h.sorted.imp_of_mem fun ha hb hlt => ?_
    rwa [hpn _ ha, hpn _ hb]
  · rw [hunacked]
    intro id hid
    rw [hpn id hid]
    exact h.pn_lt id hid
  · rw [hunacked]
    intro id hid origin horig ho
    rw [hpn id hid, hpn origin horig]
    exact h.order id hid origin horig ((hlater id (h.fresh _ id hid).ne).poOrigin.symm.trans ho)
  · rcases hsplit id hid with hid | rfl
    · have hl := hlater id hid.ne
      exact hkeep (h.family id hid origin (hl.poOrigin.symm.trans ho)) hl.body (hacked id hid.ne)
    · rw [hnew', hroot] at ho
      rw [hnew', ← Option.some.inj ho]
      exact hkeep hnewCopy rfl fun hc => hc
  · rcases hsplit id hid with hid | rfl
    · have hl := hlater id hid.ne
      exact (h.sound id hid (hl.poOrigin.symm.trans ho)).of_body hl.body
    · rw [hnew', hroot] at ho
      cases ho
  · rcases hsplit id hid with hid | rfl
    · rw [(hlater id hid.ne).types]
      exact h.datagram id hid
    · rw [hnew', htypes]
      exact fun habs => absurd (Finset.mem_of_mem_erase habs) hnodat

theorem QueueInv.sublists {e : ℕ} {s s' : SendQueue} (h : QueueInv e s)
    (hlists : ∀ p, (s'.lists p).Sublist (s.lists p)) (hnext : s'.nextId = s.nextId)
    (hpn : s.packetNumber ≤ s'.packetNumber) (hlater : ∀ id, (s.pkts id).Later (s'.pkts id))
    (hacked : ∀ id origin, (s.pkts id).poOrigin = some origin → (s'.pkts id).poAcked = true →
      (s.pkts id).poAcked = true ∨ (s'.pkts origin).poAcked = true) : QueueInv e s' := by
  obtain ⟨hfamily, hsound, hdatagram⟩ :=
    h.families s' hnext (fun id => (hlater id).body) (fun id => (hlater id).poAcked) hacked
      fun id ⟨p, hp, hid⟩ => ⟨p, hp, (hlists p).subset hid⟩
  refine ⟨fun p id hid => hnext ▸ h.fresh p id ((hlists p).subset hid), ?_, ?_, ?_, ?_, hfamily, hsound,
    hdatagram⟩
  · rintro id hid ⟨p, hp, hmem⟩
    exact h.apart id ((hlists _).subset hid) ⟨p, hp, (hlists p).subset hmem⟩
  · refine (h.sorted.sublist (hlists _)).imp fun hlt => ?_
    rwa [(hlater _).pktNum, (hlater _).pktNum]
  · intro id hid
    rw [(hlater id).pktNum]
    exact (h.pn_lt id ((hlists _).subset hid)).trans_le hpn
  · intro id hid origin horig ho
    rw [(hlater id).pktNum, (hlater origin).pktNum]
    exact h.order id ((hlists _).subset hid) origin ((hlists _).subset horig)
      ((hlater id).poOrigin.symm.trans ho)

theorem QueueInv.settle {e : ℕ} {acked : Prop} {s s' : SendQueue} {root : PktId} (h : QueueInv e s)
    (hw : Within root acked s s') (hroot : (s'.pkts root).poAcked = true ∨
      ∀ id, (s'.pkts id).poAcked = true → (s.pkts id).poAcked = true) : QueueInv e s' := by
  have hnext : s'.nextId = s.nextId := (congrArg SendQueue.nextId hw.eq :)
  have hpn : s'.packetNumber = s.packetNumber := (congrArg SendQueue.packetNumber hw.eq :)
  refine h.sublists hw.lists hnext hpn.ge hw.later fun id origin ho hack => ?_
  rcases hroot with hroot | hroot
  · by_cases hfam : s.root id = root
    · right
      have horigin : origin = root := by rw [← hfam, SendQueue.root, ho, Option.getD_some]
      rw [horigin]
      exact hroot
    · left
      rwa [hw.others id hfam] at hack
  · exact .inl (hroot id hack)

theorem dropStreamFramePackets_later (s : SendQueue) (streamId : StreamId) (id : PktId) :
    (s.pkts id).Later ((dropStreamFramePackets s streamId).pkts id) ∧
      ((dropStreamFramePackets s streamId).pkts id).poAcked = (s.pkts id).poAcked := by
  have hdec : ∀ po : PacketOut, po.Later po.decreaseInflight.leaveUnackList ∧
      po.decreaseInflight.leaveUnackList.poAcked = po.poAcked := by
    intro po
    unfold PacketOut.decreaseInflight
    split_ifs
    · exact ⟨⟨rfl, rfl, rfl, nofun, fun h => h⟩, rfl⟩
    · exact ⟨.of_life rfl, rfl⟩
  simp only [dropStreamFramePackets]
  split_ifs
  · exact hdec _
  · exact ⟨.of_life rfl, rfl⟩
  · exact ⟨.refl _, rfl⟩
  · exact ⟨.refl _, rfl⟩

theorem QueueInv.drop {e : ℕ} {s : SendQueue} (h : QueueInv e s) (streamId : StreamId) :
    QueueInv e (dropStreamFramePackets s streamId) := by
  refine h.sublists (fun p => ?_) rfl le_rfl (fun id => (dropStreamFramePackets_later s streamId id).1)
    fun id origin _ hack => .inl ?_
  · simp only [dropStreamFramePackets]
    split_ifs
    · exact List.filter_sublist
    · exact List.Sublist.refl _
  · exact (dropStreamFramePackets_later s streamId id).2.symm.trans hack

/-- **The steps keep the invariant.** -/
theorem LifeStep.inv {e : ℕ} {acks : ℕ → Prop} {copied forgotten : PktId → Prop} {s s' : SendQueue}
    (hstep : LifeStep e acks copied forgotten s s') (h : QueueInv e s) : QueueInv e s' := by
  cases hstep with
  | move lists pkts hwait hunacked hlife => exact h.move hwait hunacked hlife
  | number id now hid => exact h.number now hid
  | send id srtt now hid => exact h.send srtt now hid
  | insert p po hp horigin hacked hsound => exact h.insertNew hp horigin hsound
  | fill p id po hp hid horigin hacked hsound => exact h.fill hp hid horigin hsound
  | repair p src copy pkts hp hsrc hcopied hcopy hnew hlater hacked hlife =>
      exact h.repair hp hsrc hcopy hnew hlater hacked
  | settle _ root hw hroot => exact h.settle hw (hroot.imp_right And.right)
  | space | record =>
      exact h.sublists (fun _ => List.Sublist.refl _) rfl le_rfl (fun _ => .refl _) fun _ _ _ => .inl
  | drop streamId hforgotten => exact h.drop streamId
  | shoot id horigin hforgotten =>
      exact h.sublists (fun _ => List.filter_sublist) rfl le_rfl (fun _ => .refl _) fun _ _ _ => .inl

theorem LifeSteps.inv {e : ℕ} {acks : ℕ → Prop} {copied forgotten : PktId → Prop} {s s' : SendQueue}
    (hsteps : LifeSteps e acks copied forgotten s s') (h : QueueInv e s) : QueueInv e s' := by
  induction hsteps with
  | refl => exact h
  | tail _ hstep ih => exact hstep.inv ih

end Rquic

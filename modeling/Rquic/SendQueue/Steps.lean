import Rquic.SendQueue.Walks

set_option autoImplicit false

/-!
# The events of the send queue, step by step

Every event of `SendEvent` is a sequence of the steps of `LifeStep`.

* `SendEvent.acks`, `SendQueue.mayCopy`, `SendQueue.forgets`: the packet numbers that an event
  acknowledges, the packets it may copy and those it gives up, read off the state before it.
* **`step_life`**: the events.
-/

namespace Rquic

/-! ## Packets that wait -/

section Waiting

variable {e : ℕ} {acks : ℕ → Prop} {copied forgotten : PktId → Prop} {s : SendQueue}

@[simp] theorem life_enterPathBuf (po : PacketOut) : po.enterPathBuf.life = po.life := by
  unfold PacketOut.enterPathBuf
  split_ifs <;> rfl

theorem SendType.source_ne (t : SendType) : t.source ≠ .unackedPackets := by
  cases t <;> exact nofun

theorem mark_life (s : SendQueue) (id : PktId) {f : PacketOut → PacketOut}
    (hf : ∀ po, (f po).life = po.life) : LifeSteps e acks copied forgotten s (s.modify id f) :=
  .single (.move s s.lists _ (fun _ => Iff.rfl) rfl fun id' => life_modify s id id' hf)

theorem QueueInv.unlink_unacked (h : QueueInv e s) {id : PktId} (hid : s.Waiting id) :
    (s.unlink id).lists .unackedPackets = s.lists .unackedPackets := by
  rw [SendQueue.unlink_lists, List.filter_eq_self]
  intro id' hid'
  refine decide_eq_true ?_
  rintro rfl
  exact h.apart id' hid' hid

theorem schedulePacket_life (h : QueueInv e s) (t : SendType) :
    LifeSteps e acks copied forgotten s (schedulePacket s t) := by
  unfold schedulePacket
  split
  · exact .refl
  · rename_i id ids hids
    have hmem : id ∈ s.lists t.source := hids ▸ List.mem_cons_self
    have hwaiting : s.Waiting id := ⟨t.source, t.source_ne, hmem⟩
    refine .single (.move s ((s.unlink id).pushTail (.scheduleBuf t) id).lists _ (fun id' => ?_) ?_
      fun id' => life_modify ((s.unlink id).pushTail (.scheduleBuf t) id) id id' life_enterPathBuf)
    · constructor
      · rintro ⟨p, hp, hin⟩
        rcases SendQueue.mem_pushTail.1 hin with hin | ⟨-, rfl⟩
        · exact ⟨p, hp, (List.mem_filter.1 hin).1⟩
        · exact hwaiting
      · rintro ⟨p, hp, hin⟩
        by_cases hid' : id' = id
        · exact ⟨.scheduleBuf t, nofun, SendQueue.mem_pushTail.2 (.inr ⟨rfl, hid'⟩)⟩
        · exact ⟨p, hp, SendQueue.mem_pushTail.2
            (.inl (List.mem_filter.2 ⟨hin, decide_eq_true hid'⟩))⟩
    · rw [SendQueue.pushTail_lists_of_ne _ _ (by exact nofun)]
      exact h.unlink_unacked hwaiting

theorem pathSendBufferClear_life (t : SendType) :
    LifeSteps e acks copied forgotten s (pathSendBufferClear s t) := by
  have hne : Place.scheduleBuf t ≠ t.source := by cases t <;> exact nofun
  refine .single (.move s _ _ (fun id => ?_) ?_ fun id => ?_)
  · constructor
    · rintro ⟨p, hp, hin⟩
      by_cases hsrc : p = t.source
      · rw [hsrc, Function.update_self] at hin
        rcases List.mem_append.1 hin with hin | hin
        · exact ⟨.scheduleBuf t, nofun, hin⟩
        · exact ⟨t.source, t.source_ne, hin⟩
      · rw [Function.update_of_ne hsrc] at hin
        by_cases hbuf : p = .scheduleBuf t
        · rw [hbuf, Function.update_self] at hin
          cases hin
        · rw [Function.update_of_ne hbuf] at hin
          exact ⟨p, hp, hin⟩
    · rintro ⟨p, hp, hin⟩
      by_cases hsrc : p = t.source ∨ p = .scheduleBuf t
      · refine ⟨t.source, t.source_ne, ?_⟩
        rw [Function.update_self]
        rcases hsrc with rfl | rfl
        · exact List.mem_append_right _ hin
        · exact List.mem_append_left _ hin
      · obtain ⟨hsrc, hbuf⟩ := not_or.1 hsrc
        refine ⟨p, hp, ?_⟩
        rwa [Function.update_of_ne hsrc, Function.update_of_ne hbuf]
  · rw [Function.update_of_ne t.source_ne.symm, Function.update_of_ne (by exact nofun)]
  · split_ifs <;> rfl

theorem numberUnsent_life (h : QueueInv e s) (t : SendType) (n now : ℕ) :
    LifeSteps e acks copied forgotten s (numberUnsent s t n now) := by
  have hids : ∀ id ∈ (s.lists (.scheduleBuf t)).take n, s.Waiting id :=
    fun id hid => ⟨.scheduleBuf t, nofun, List.mem_of_mem_take hid⟩
  unfold numberUnsent
  revert hids
  generalize (s.lists (.scheduleBuf t)).take n = ids
  intro hids
  induction ids generalizing s with
  | nil => exact .refl
  | cons id ids ih =>
      obtain ⟨hid, hids⟩ := List.forall_mem_cons.1 hids
      exact (Relation.ReflTransGen.single (.number s id now hid)).trans (ih (h.number now hid) hids)

theorem buff1rttPackets_life : LifeSteps e acks copied forgotten s (buff1rttPackets s) := by
  refine .single (.move s _ _ (fun id => ?_) rfl fun id => rfl)
  constructor
  · rintro ⟨p, hp, hin⟩
    by_cases hbuf : p = .buff1rttPackets
    · rw [hbuf, Function.update_self] at hin
      rcases List.mem_append.1 hin with hin | hin
      · exact ⟨.buff1rttPackets, nofun, hin⟩
      · exact ⟨.sendPackets, nofun, (List.mem_filter.1 hin).1⟩
    · rw [Function.update_of_ne hbuf] at hin
      by_cases hsend : p = .sendPackets
      · rw [hsend, Function.update_self] at hin
        exact ⟨.sendPackets, nofun, (List.mem_filter.1 hin).1⟩
      · rw [Function.update_of_ne hsend] at hin
        exact ⟨p, hp, hin⟩
  · rintro ⟨p, hp, hin⟩
    by_cases hsend : p = .sendPackets
    · subst hsend
      by_cases htype : (s.pkts id).pktType = .shortHeader
      · refine ⟨.buff1rttPackets, nofun, ?_⟩
        rw [Function.update_self]
        exact List.mem_append_right _ (List.mem_filter.2 ⟨hin, decide_eq_true htype⟩)
      · refine ⟨.sendPackets, nofun, ?_⟩
        rw [Function.update_of_ne (by exact nofun), Function.update_self]
        exact List.mem_filter.2 ⟨hin, decide_eq_true htype⟩
    · by_cases hbuf : p = .buff1rttPackets
      · refine ⟨.buff1rttPackets, nofun, ?_⟩
        rw [Function.update_self]
        exact List.mem_append_left _ (hbuf ▸ hin)
      · refine ⟨p, hp, ?_⟩
        rwa [Function.update_of_ne hbuf, Function.update_of_ne hsend]

theorem writeBuffed1rttPackets_life :
    LifeSteps e acks copied forgotten s (writeBuffed1rttPackets s) := by
  refine .single (.move s _ _ (fun id => ?_) rfl fun id => rfl)
  constructor
  · rintro ⟨p, hp, hin⟩
    by_cases hsend : p = .sendPackets
    · rw [hsend, Function.update_self] at hin
      rcases List.mem_append.1 hin with hin | hin
      · exact ⟨.sendPackets, nofun, hin⟩
      · exact ⟨.buff1rttPackets, nofun, hin⟩
    · rw [Function.update_of_ne hsend] at hin
      by_cases hbuf : p = .buff1rttPackets
      · rw [hbuf, Function.update_self] at hin
        cases hin
      · rw [Function.update_of_ne hbuf] at hin
        exact ⟨p, hp, hin⟩
  · rintro ⟨p, hp, hin⟩
    by_cases hsend : p = .sendPackets ∨ p = .buff1rttPackets
    · refine ⟨.sendPackets, nofun, ?_⟩
      rw [Function.update_self]
      rcases hsend with rfl | rfl
      · exact List.mem_append_left _ hin
      · exact List.mem_append_right _ hin
    · obtain ⟨hsend, hbuf⟩ := not_or.1 hsend
      refine ⟨p, hp, ?_⟩
      rwa [Function.update_of_ne hsend, Function.update_of_ne hbuf]

end Waiting

/-! ## Packets that are made and filled -/

section Writing

variable {e : ℕ} {acks : ℕ → Prop} {copied forgotten : PktId → Prop} {s : SendQueue}

theorem not_needRepair_datagram : ¬ needRepair {FrameType.datagram} := by
  rintro ⟨t, ht, hneed⟩
  rw [Finset.mem_singleton.1 ht] at hneed
  cases hneed

theorem needRepair_insert_ack {types : Finset FrameType} :
    needRepair (insert .ack types) ↔ needRepair types := by
  constructor
  · rintro ⟨t, ht, hneed⟩
    rcases Finset.mem_insert.1 ht with rfl | ht
    · cases hneed
    · exact ⟨t, ht, hneed⟩
  · rintro ⟨t, ht, hneed⟩
    exact ⟨t, Finset.mem_insert_of_mem ht, hneed⟩

theorem controlPacket_sound {params : PktParams} {c : ControlFrame} {notify : Bool} {bufSize : ℕ}
    {po : PacketOut} (hwf : c.Wf) (h : controlPacket params c notify bufSize = .ok po) :
    po.Sound e ∧ po.poOrigin = none ∧ po.poAcked = false := by
  obtain ⟨hc, hack, hslot, hsize, htypes, horigin, hlargest⟩ := controlPacket_content e hwf h
  refine ⟨⟨⟨hsize, _, hc, hack, fun _ => hslot, fun _ _ => trivial⟩, fun hdatagram => ?_, fun habs => ?_⟩,
    horigin, ?_⟩
  · rw [htypes] at hdatagram ⊢
    rw [← Finset.mem_singleton.1 hdatagram]
    exact not_needRepair_datagram
  · rw [hlargest] at habs
    cases habs
  · unfold controlPacket PktParams.newPacket genControlFrame at h
    by_cases hlen : params.pktOutSize.1 < params.header.length
    · rw [if_pos hlen] at h
      cases h
    · rw [if_neg hlen, ok_bind] at h
      split_ifs at h
      · cases h
      · rw [ok_bind] at h
        rw [← Except.ok.inj h]
        rfl

theorem writeControlFrame_life (params : PktParams) {c : ControlFrame} (notify : Bool) (bufSize : ℕ)
    (handshakeDone : Bool) (hwf : c.Wf) :
    LifeSteps e acks copied forgotten s
      (writeControlFrame s params c notify bufSize handshakeDone) := by
  unfold writeControlFrame
  split
  · exact .refl
  · rename_i po hpo
    obtain ⟨hsound, horigin, hacked⟩ := controlPacket_sound (e := e) hwf hpo
    refine .single (.insert s _ po ?_ horigin hacked hsound)
    cases c <;> cases handshakeDone <;> exact nofun

theorem sendPingToProbe_life (params : PktParams) :
    LifeSteps e acks copied forgotten s (sendPingToProbe s params) := by
  unfold sendPingToProbe
  split
  · exact .refl
  · rename_i po hpo
    obtain ⟨hsound, horigin, hacked⟩ := controlPacket_sound (e := e) (c := .ping) trivial hpo
    exact .single (.insert s _ po nofun horigin hacked hsound)

theorem genStreamFrame_sound {po po' : PacketOut} {streamId offset n : ℕ} {fin : Bool}
    {payload : Bytes} (hpkt : PktInv e (fun _ => True) po') (hdatagram : .datagram ∉ po.poFrameTypes)
    (hack : 0 < po.poLargestAck → .ack ∈ po.poFrameTypes)
    (h : genStreamFrame po streamId offset fin payload = .ok (po', n)) :
    po'.Sound e ∧ po'.poAcked = po.poAcked := by
  obtain ⟨-, hframe⟩ := genStreamFrame_frame h
  have htypes : po'.poFrameTypes = insert .stream po.poFrameTypes :=
    (congrArg PacketOut.poFrameTypes hframe :)
  have hlargest : po'.poLargestAck = po.poLargestAck := (congrArg PacketOut.poLargestAck hframe :)
  refine ⟨⟨hpkt, fun habs => ?_, fun hpos => ?_⟩, (congrArg PacketOut.poAcked hframe :)⟩
  · rw [htypes] at habs
    exact absurd ((Finset.mem_insert.1 habs).resolve_left nofun) hdatagram
  · rw [htypes]
    exact Finset.mem_insert_of_mem (hack (hlargest ▸ hpos))

theorem newPacket_fields {params : PktParams} {po : PacketOut} (h : params.newPacket = .ok po) :
    po.poAcked = false ∧ po.poFrameTypes = ∅ ∧ po.poLargestAck = 0 ∧ po.poOrigin = none := by
  unfold PktParams.newPacket at h
  split_ifs at h
  rw [← Except.ok.inj h]
  exact ⟨rfl, rfl, rfl, rfl⟩

theorem stream_life (hq : QueueInv e s) (hc : ContentInv e (fun _ => True) s) {highPri : Bool}
    {params : PktParams} {streamId offset : ℕ} {fin : Bool} {payload : Bytes}
    (hwf : (SendEvent.stream highPri params streamId offset fin payload).Wf) :
    LifeSteps e acks copied forgotten s
      (s.step (.stream highPri params streamId offset fin payload)) := by
  have hfill := streamPlace_fillable highPri
  rw [SendQueue.step]
  split
  · exact .refl
  · rename_i s' n hw
    have hc' := writeStreamFrame_content (fun _ _ => trivial) hc hwf.1 hwf.2 trivial hw
    rcases writeStreamFrame_cases hw with ⟨id, po, hget, hgen, rfl⟩ | ⟨po₀, po, hpo₀, hgen, rfl⟩
    · obtain ⟨hmem, hdatagram, -⟩ := getPacketOutForStream_some hget
      have hlt := hq.fresh _ id hmem
      have horig := hc.originals _ hfill id hmem
      have hpkt := hc'.pkts id hlt
      rw [SendQueue.set_pkts_self] at hpkt
      have horig' : po.poOrigin = none := by
        rw [(congrArg PacketOut.poOrigin (genStreamFrame_frame hgen).2 :), horig]
      obtain ⟨hsound, hacked⟩ :=
        genStreamFrame_sound hpkt hdatagram (hq.sound id hlt horig).ackBit hgen
      exact .single (.fill s _ id po hfill hmem ⟨horig, horig'⟩ hacked hsound)
    · obtain ⟨hnotAcked, htypes, hlargest, horig⟩ := newPacket_fields hpo₀
      have hpkt := hc'.pkts s.nextId (Nat.lt_succ_self _)
      rw [SendQueue.insertNew_pkts_nextId] at hpkt
      have horig' : po.poOrigin = none := by
        rw [(congrArg PacketOut.poOrigin (genStreamFrame_frame hgen).2 :), horig]
      obtain ⟨hsound, hacked⟩ := genStreamFrame_sound hpkt (by simp [htypes])
        (fun habs => by simp [hlargest] at habs) hgen
      exact .single (.insert s _ po (Place.ne_unacked hfill) horig' (hacked.trans hnotAcked) hsound)

theorem writeAck_sound {po po' : PacketOut} {ackDelay ackDelayExponent : ℕ}
    {record : List PktnoRange} (hpkt : PktInv e (fun _ => True) po')
    (hdatagram : .datagram ∈ po.poFrameTypes → ¬ needRepair po.poFrameTypes)
    (h : writeAckToOnePacket po ackDelay ackDelayExponent record = .ok po') :
    po'.Sound e ∧ po'.poAcked = po.poAcked ∧ po'.poOrigin = po.poOrigin := by
  have hframe := writeAckToOnePacket_frame h
  have htypes : po'.poFrameTypes = insert .ack po.poFrameTypes :=
    (congrArg PacketOut.poFrameTypes hframe :)
  refine ⟨⟨hpkt, fun hin => ?_, fun _ => htypes ▸ Finset.mem_insert_self _ _⟩,
    (congrArg PacketOut.poAcked hframe :), (congrArg PacketOut.poOrigin hframe :)⟩
  rw [htypes] at hin ⊢
  rw [needRepair_insert_ack]
  exact hdatagram ((Finset.mem_insert.1 hin).resolve_left nofun)

theorem ack_life (hq : QueueInv e s) (hc : ContentInv e (fun _ => True) s) (params : PktParams)
    {ackDelay ackDelayExponent : ℕ} (hwf : ackDelay / 2 ^ ackDelayExponent < 2 ^ 62) :
    LifeSteps e acks copied forgotten s (writeAckToPackets s params ackDelay ackDelayExponent) := by
  have hc' := writeAckToPackets_content params (fun _ _ => trivial) hc hwf
  rcases writeAckToPackets_cases s params ackDelay ackDelayExponent with heq |
    ⟨id, po, htarget, hcan, hpo, heq⟩ | ⟨po₀, po, hpo₀, hpo, heq⟩
  · rw [heq]
  · rw [heq] at hc' ⊢
    obtain ⟨p, hfill, hmem⟩ := mem_of_ackTarget htarget
    have hlt := hq.fresh _ id hmem
    have horig := hc.originals p hfill id hmem
    have hpkt := hc'.pkts id hlt
    rw [SendQueue.set_pkts_self] at hpkt
    obtain ⟨hsound, hacked, horig'⟩ := writeAck_sound hpkt (hq.datagram id hlt) hpo
    exact .single (.fill s p id po hfill hmem ⟨horig, horig'.trans horig⟩ hacked hsound)
  · rw [heq] at hc' ⊢
    obtain ⟨hnotAcked, htypes, -, horig⟩ := newPacket_fields hpo₀
    have hpkt := hc'.pkts s.nextId (Nat.lt_succ_self _)
    rw [SendQueue.insertNew_pkts_nextId] at hpkt
    obtain ⟨hsound, hacked, horig'⟩ :=
      writeAck_sound hpkt (fun habs => by simp [htypes] at habs) hpo
    exact .single (.insert s _ po nofun (horig'.trans horig) (hacked.trans hnotAcked) hsound)

end Writing

/-! ## Events -/

/-- The packet numbers that an event acknowledges. -/
def SendEvent.acks : SendEvent → ℕ → Prop
  | .ackReceived info _ => info.Acks
  | _ => fun _ => False

/-- The packets that an event may copy. An ACK frame moves the largest acknowledged packet number up
to its own at most, and does not copy what it acknowledges. -/
def SendQueue.mayCopy (s : SendQueue) : SendEvent → PktId → Prop
  | .ackReceived info th => fun id => id ∈ s.lists .unackedPackets ∧ s.LossCopies th id ∧
    (∃ l, (s.largestAcked = some l ∨ info.ranges.head?.map PktnoRange.high = some l) ∧
      (s.pkts id).pktNum ≤ l) ∧
    (info.Ordered → ¬ info.Acks (s.pkts id).pktNum)
  | .lossTimeout th => fun id => id ∈ s.lists .unackedPackets ∧ s.LossCopies th id ∧
    ∃ l, s.largestAcked = some l ∧ (s.pkts id).pktNum ≤ l
  | .probeTimeout _ => fun id =>
    id ∈ ((s.lists .unackedPackets).filter (s.Probeable ·)).take ptoPktCntMax ∧
      .datagram ∉ (s.pkts id).poFrameTypes
  | _ => fun _ => False

/-- The packets that an event gives up: those of a stream that is dropped, and a PATH_CHALLENGE. -/
def SendQueue.forgets (s : SendQueue) : SendEvent → PktId → Prop
  | .dropStream streamId => fun id => streamFrameCanDrop (s.pkts id) streamId = true
  | .pathChallenge .. => fun id => id = s.nextId
  | _ => fun _ => False

section Events

variable {e : ℕ} {acks : ℕ → Prop} {copied forgotten : PktId → Prop} {s : SendQueue}

theorem sendPacket_life (h : QueueInv e s) (t : SendType) (outcome : SendOutcome) (srtt now : ℕ) :
    LifeSteps e acks copied forgotten s (sendPacket s t outcome srtt now) := by
  unfold sendPacket
  split
  · exact .refl
  · rename_i id ids hids
    have hmem : id ∈ s.lists (.scheduleBuf t) := hids ▸ List.mem_cons_self
    have hwait : (markRetrans s t id).Waiting id := by
      refine ⟨.scheduleBuf t, nofun, ?_⟩
      unfold markRetrans
      split_ifs <;> exact hmem
    have hmark : LifeSteps e acks copied forgotten s (markRetrans s t id) := by
      unfold markRetrans
      split_ifs
      · exact mark_life s id fun _ => rfl
      · exact .refl
    split
    · rename_i s' hs'
      exact .single (indirectlyAckOrDropPo_life h (h.fresh _ id hmem) hs').1
    · cases outcome with
      | blocked => exact hmark
      | again => exact hmark.tail (.number _ id now hwait)
      | sent => exact hmark.tail (.send _ id srtt now hwait)

theorem sendPathChallenge_life (params : PktParams) {data : Bytes} (now : ℕ)
    (hwf : data.length = pathChallengeDataLen) (hforgotten : forgotten s.nextId) :
    LifeSteps e acks copied forgotten s (sendPathChallenge s params data now) := by
  unfold sendPathChallenge
  split
  · exact .refl
  · rename_i po hpo
    obtain ⟨hsound, horigin, hacked⟩ :=
      controlPacket_sound (e := e) (c := .pathChallenge data) hwf hpo
    have hins : LifeStep e acks copied forgotten s (s.insertNew .sendPackets po) :=
      .insert s _ po nofun horigin hacked hsound
    have hwait : (s.insertNew .sendPackets po).Waiting s.nextId :=
      ⟨.sendPackets, nofun, (SendQueue.mem_insertNew _).2 (.inr ⟨rfl, rfl⟩)⟩
    refine ((Relation.ReflTransGen.single hins).tail (.number _ s.nextId now hwait)).tail
      (.shoot _ s.nextId ?_ hforgotten)
    rw [show (setNextPn _ s.nextId now).pkts s.nextId = _ from SendQueue.modify_pkts_self ..,
      SendQueue.insertNew_pkts_nextId]
    exact horigin

theorem sendOneOrTwoAckElicitPkts_life (h : QueueInv e s) (params : PktParams)
    (hcopied : ∀ id ∈ ((s.lists .unackedPackets).filter (s.Probeable ·)).take ptoPktCntMax,
      .datagram ∉ (s.pkts id).poFrameTypes → copied id) :
    LifeSteps e acks copied forgotten s (sendOneOrTwoAckElicitPkts s params) := by
  obtain ⟨hwalk, hlast⟩ : LifeSteps e acks copied forgotten s
      (probeWalk ptoPktCntMax none (s.lists .unackedPackets) s).2.2 ∧ _ :=
    probeWalk_life h h.ahead hcopied fun _ hid => by cases hid
  unfold sendOneOrTwoAckElicitPkts
  split
  · rename_i probeNum last s' heq
    rw [heq] at hwalk hlast
    -- the last packet is probed until enough probes are made
    have hiter : ∀ n (s₁ : SendQueue), QueueInv e s₁ → s₁.LastProbed copied last →
        LifeSteps e acks copied forgotten s₁ ((fun s => sendProbePkt s last)^[n] s₁) := by
      intro n
      induction n with
      | zero => exact fun _ _ _ => .refl
      | succ n ih =>
          rintro s₁ h₁ ⟨hin, hun, hcp⟩
          obtain ⟨hstep, hkeep⟩ :
              WalkStep e acks copied forgotten last s₁ (sendProbePkt s₁ last) ∧ _ :=
            sendProbePkt_walk h₁ hin hcp
          have hlt := h₁.fresh _ last hin
          rw [Function.iterate_succ_apply]
          refine hstep.steps.trans (ih _ (hstep.steps.inv h₁) ⟨hkeep last hin, fun habs =>
            hun ((sendProbePkt_settled h₁ hin hlt).1 habs), fun hno => hcp ?_⟩)
          rwa [(hstep.later last hlt).types] at hno
    exact hwalk.trans (hiter probeNum s' (hwalk.inv h) (hlast last rfl))
  · rename_i probeNum s' heq
    rw [heq] at hwalk
    have hiter : ∀ n (s₁ : SendQueue),
        LifeSteps e acks copied forgotten s₁ ((fun s => sendPingToProbe s params)^[n] s₁) := by
      intro n
      induction n with
      | zero => exact fun _ => .refl
      | succ n ih =>
          intro s₁
          rw [Function.iterate_succ_apply]
          exact (sendPingToProbe_life params).trans (ih _)
    exact hwalk.trans (hiter probeNum s')

theorem ackSentOnAck_life (info : AckInfo) :
    LifeStep e info.Acks copied forgotten s (ackSentOnAck s info).sndq := by
  unfold ackSentOnAck
  split
  · exact .space s s.largestAcked s.largestAckedAck s.ackSentRecord (fun _ hi => hi) (.inl rfl)
  · rename_i largest kept heq
    obtain ⟨⟨entry, hentry, hlargest, r, hr, hin⟩, hkept⟩ := mem_of_ackSentRecordOnAck heq
    refine .space s s.largestAcked _ _ hkept ?_
    rcases le_total largest s.largestAckedAck with hle | hle
    · exact .inl (max_eq_left hle)
    · exact .inr (.inr ⟨entry, hentry, ⟨r, hr, hin⟩, (max_eq_right hle).trans hlargest.symm⟩)

theorem ackSentOnAck_fields (info : AckInfo) :
    (ackSentOnAck s info).sndq.lists = s.lists ∧ (ackSentOnAck s info).sndq.pkts = s.pkts ∧
      (ackSentOnAck s info).sndq.nextId = s.nextId ∧
      (ackSentOnAck s info).sndq.largestAcked = s.largestAcked := by
  unfold ackSentOnAck
  split <;> exact ⟨rfl, rfl, rfl, rfl⟩

/-- The first part of `rqc_send_ctl_on_ack_received`. -/
theorem ackProcess_life (h : QueueInv e s) (info : AckInfo) :
    LifeSteps e info.Acks copied forgotten s (ackProcess s info).sndq ∧
      (∀ id < s.nextId, (s.pkts id).Later ((ackProcess s info).sndq.pkts id)) ∧
      (∀ id ∈ (ackProcess s info).sndq.lists .unackedPackets, id ∈ s.lists .unackedPackets) ∧
      (∀ l, (ackProcess s info).sndq.largestAcked = some l → s.largestAcked = some l ∨
        ∃ l', info.ranges.head?.map PktnoRange.high = some l' ∧ l ≤ l') ∧
      ((ackProcess s info).err = none → info.Ordered → ∀ id ∈ s.lists .unackedPackets,
        info.Acks (s.pkts id).pktNum → ((ackProcess s info).sndq.pkts id).poAcked = true) := by
  cases hfirst : info.ranges.head? with
  | none =>
      have heq : ackProcess s info = { sndq := s } := by rw [ackProcess, hfirst]
      rw [heq]
      refine ⟨.refl, fun _ _ => .refl _, fun _ hid => hid, fun _ hl => .inl hl, ?_⟩
      rintro - - id - ⟨r, hr, -⟩
      rw [List.head?_eq_none_iff.1 hfirst] at hr
      cases hr
  | some first =>
      have heq : ackProcess s info = ackWalk first.high info.ranges.reverse
          (s.lists .unackedPackets) (ackSentOnAck s info) := by rw [ackProcess, hfirst]
      have hspace : LifeStep e info.Acks copied forgotten s (ackSentOnAck s info).sndq :=
        ackSentOnAck_life info
      obtain ⟨hlists, hpkts, hnext, hlargest⟩ := ackSentOnAck_fields (s := s) info
      have h₁ := hspace.inv h
      have hids : Ahead (ackSentOnAck s info).sndq (s.lists .unackedPackets) := hlists ▸ h₁.ahead
      obtain ⟨hwalk, hlater, hsub, hl⟩ : LifeSteps e info.Acks copied forgotten _ _ ∧ _ :=
        ackWalk_life hfirst (List.suffix_refl _) h₁ hids
      rw [heq]
      refine ⟨(Relation.ReflTransGen.single hspace).trans hwalk, fun id hid => ?_, fun id hid => ?_,
        fun l hl' => ?_, fun herr hord id hid hack => ?_⟩
      · rw [← hpkts]
        exact hlater id (hnext ▸ hid)
      · rw [← hlists]
        exact hsub id hid
      · rw [← hlargest]
        exact (hl l hl').imp_right fun hle => ⟨first.high, rfl, hle⟩
      · rw [← hpkts] at hack
        refine ackWalk_complete hfirst hord (List.suffix_refl _) h₁ hids (fun id' hid' hack' => ?_) herr
          hid hack
        obtain ⟨r, hr, hin⟩ := hack'
        exact ⟨r, List.mem_reverse.2 hr, hin⟩

theorem onAckReceived_life (h : QueueInv e s) (info : AckInfo) (th : LossThresholds) :
    LifeSteps e info.Acks (s.mayCopy (.ackReceived info th)) forgotten s
      (onAckReceived s info th).1 := by
  obtain ⟨hproc, hlater, hsub, hlargest, hcomplete⟩ :
      LifeSteps e info.Acks (s.mayCopy (.ackReceived info th)) forgotten s
        (ackProcess s info).sndq ∧ _ := ackProcess_life h info
  unfold onAckReceived
  simp only
  by_cases herr : (ackProcess s info).err.isSome ∨ (ackProcess s info).hasAcked = false
  · rw [if_pos herr]
    exact hproc
  · have hok : (ackProcess s info).err = none := by
      simpa using (not_or.1 herr).1
    have hlost : LifeSteps e info.Acks (s.mayCopy (.ackReceived info th)) forgotten
        (ackProcess s info).sndq (detectLost (ackProcess s info).sndq th) := by
      refine detectLost_life (hproc.inv h) fun id hid l hl hle hloss => ?_
      have hid' := hsub id hid
      have hlt := h.fresh _ id hid'
      rw [(hlater id hlt).pktNum] at hle
      refine ⟨hid', h.lossCopies_of_later hlt hlater hloss, ?_, fun hord hack => ?_⟩
      · rcases hlargest l hl with hl | ⟨l', hl', hle'⟩
        · exact ⟨l, .inl hl, hle⟩
        · exact ⟨l', .inr hl', hle.trans hle'⟩
      · exact hloss.2.2.2.2 (.inl (hcomplete hok hord id hid' hack))
    rw [if_neg herr]
    split_ifs
    · exact (hproc.trans hlost).tail (.record _ _)
    · exact hproc.trans hlost

/-- **Every event is a sequence of steps**: it copies and gives up only what it may. -/
theorem step_life (hq : QueueInv e s) (hc : ContentInv e (fun _ => True) s) {ev : SendEvent}
    (hwf : ev.Wf) : LifeSteps e ev.acks (s.mayCopy ev) (s.forgets ev) s (s.step ev) := by
  cases ev with
  | control params c notify bufSize handshakeDone =>
      exact writeControlFrame_life params notify bufSize handshakeDone hwf
  | stream => exact stream_life hq hc hwf
  | ack params ackDelay ackDelayExponent => exact ack_life hq hc params hwf
  | schedule t => exact schedulePacket_life hq t
  | clear t => exact pathSendBufferClear_life t
  | send t outcome srtt now => exact sendPacket_life hq t outcome srtt now
  | numberUnsent t n now => exact numberUnsent_life hq t n now
  | pathChallenge params data now => exact sendPathChallenge_life params now hwf rfl
  | buff1rtt => exact buff1rttPackets_life
  | writeBuffed1rtt => exact writeBuffed1rttPackets_life
  | ackReceived info th => exact onAckReceived_life hq info th
  | lossTimeout th =>
      exact detectLost_life hq fun id hid l hl hle hloss => ⟨hid, hloss, l, hl, hle⟩
  | probeTimeout params =>
      exact sendOneOrTwoAckElicitPkts_life hq params fun id hid hno => ⟨hid, hno⟩
  | dropStream streamId => exact .single (.drop s streamId fun id hid => hid)
  | recvPacket pktNum => exact .single (.record s _)

/-! ## Runs -/

theorem SendQueue.run_append (s : SendQueue) (evs : List SendEvent) (ev : SendEvent) :
    s.run (evs ++ [ev]) = (s.run evs).step ev := by
  simp [SendQueue.run]

theorem run_inv (e : ℕ) (evs : List SendEvent) (hwf : ∀ ev ∈ evs, ev.Wf) :
    QueueInv e (SendQueue.run {} evs) ∧ ContentInv e (fun _ => True) (SendQueue.run {} evs) := by
  have hcontent : ∀ evs : List SendEvent, (∀ ev ∈ evs, ev.Wf) →
      ContentInv e (fun _ => True) (SendQueue.run {} evs) := by
    intro evs hwf
    refine ContentInv.run frameClosed_true (contentInv_init e _) fun ev hev => ⟨hwf ev hev, ?_⟩
    cases ev <;> first | exact trivial | exact fun _ _ => trivial
  refine ⟨?_, hcontent evs hwf⟩
  induction evs using List.reverseRecOn with
  | nil => exact queueInv_init e
  | append_singleton evs ev ih =>
      have hevs : ∀ ev' ∈ evs, ev'.Wf := fun ev' hev' => hwf ev' (List.mem_append_left _ hev')
      rw [SendQueue.run_append]
      exact (step_life (ih hevs) (hcontent evs hevs) (hwf ev (by simp))).inv (ih hevs)

end Events

end Rquic

import Rquic.SendQueue.Steps

set_option autoImplicit false

/-!
# Frames that were not sent

As long as no packet with a frame of a type was given to the socket, no such packet is acknowledged,
waits for an acknowledgement or is copied.

* `Unsent`: the packets with a frame of type `t` were not sent; if they were not written either, there
  are none.
* `sendsType`: the event gives a packet with a frame of type `t` to the socket.
* **`Unsent.step`**: the other events keep the invariant.
-/

namespace Rquic

/-- The packets with a frame of type `t` were not sent. -/
structure Unsent (t : FrameType) (written : Prop) (s : SendQueue) : Prop where
  fresh : s.Fresh
  quiet : ∀ id, t ∈ (s.pkts id).poFrameTypes →
    (s.pkts id).poAcked = false ∧ id ∉ s.lists .unackedPackets
  copies : ∀ id origin, (s.pkts id).poOrigin = some origin →
    origin < s.nextId ∧ t ∉ (s.pkts id).poFrameTypes ∧ t ∉ (s.pkts origin).poFrameTypes
  absent : ¬ written → ∀ id, t ∉ (s.pkts id).poFrameTypes

/-- The event gives a packet with a frame of type `t` to the socket. -/
def sendsType (t : FrameType) (s : SendQueue) : SendEvent → Bool
  | .send sendType .sent _ _ =>
    match s.lists (.scheduleBuf sendType) with
    | [] => false
    | id :: _ => decide (t ∈ (s.pkts id).poFrameTypes) && (indirectlyAckOrDropPo s id).isNone
  | _ => false

/-- The event writes a frame of type `t`. -/
def writesType (t : FrameType) : SendEvent → Prop
  | .control _ c _ _ _ => c.frame.type = t
  | .ack .. => t = .ack
  | .stream .. => t = .stream
  | .pathChallenge .. => t = .pathChallenge
  | .probeTimeout _ => t = .ping
  | _ => False

theorem CtlStep.types {s s' : SendQueue} (h : CtlStep s s') {id : PktId} (hid : id < s.nextId) :
    (s'.pkts id).poFrameTypes = (s.pkts id).poFrameTypes := by
  cases h with
  | mark pkts hbody => exact (congrArg PacketOut.poFrameTypes (hbody id) :)
  | copy | control =>
      rw [SendQueue.insertNew_pkts_of_ne _ _ _ hid.ne]
  | lists | socket | pn | record => rfl

theorem CtlSteps.types {s s' : SendQueue} (h : CtlSteps s s') {id : PktId} (hid : id < s.nextId) :
    (s'.pkts id).poFrameTypes = (s.pkts id).poFrameTypes := by
  induction h with
  | refl => rfl
  | tail hsteps hstep ih => exact (hstep.types (hid.trans_le (CtlSteps.nextId_le hsteps))).trans ih

theorem controlPacket_fields {params : PktParams} {c : ControlFrame} {notify : Bool} {bufSize : ℕ}
    {po : PacketOut} (h : controlPacket params c notify bufSize = .ok po) :
    po.poFrameTypes = {c.frame.type} ∧ po.poOrigin = none ∧ po.poAcked = false := by
  obtain ⟨po₀, hpo, h⟩ := bind_eq_ok h
  obtain ⟨po₁, hgen, h⟩ := bind_eq_ok h
  obtain ⟨hacked, htypes, -, horigin⟩ := newPacket_fields hpo
  unfold genControlFrame at hgen
  split_ifs at hgen
  obtain rfl := Except.ok.inj hgen
  obtain rfl := Except.ok.inj h
  refine ⟨?_, horigin, hacked⟩
  show insert c.frame.type po₀.poFrameTypes = _
  rw [htypes]
  rfl

namespace Unsent

variable {t : FrameType} {written : Prop} {s : SendQueue}

/-! ## Elementary changes -/

theorem init : Unsent t written {} where
  fresh := fun _ _ hid => by cases hid
  quiet := fun _ ht => by cases ht
  copies := fun _ _ ho => by cases ho
  absent := fun _ _ ht => by cases ht

theorem mono {written' : Prop} (h : Unsent t written s) (himp : written → written') :
    Unsent t written' s := ⟨h.fresh, h.quiet, h.copies, fun hnot => h.absent (mt himp hnot)⟩

theorem same {s' : SendQueue} (h : Unsent t written s) (hpkts : s'.pkts = s.pkts)
    (hlists : s'.lists = s.lists) (hnext : s'.nextId = s.nextId) : Unsent t written s' := by
  obtain ⟨hfresh, hquiet, hcopies, habsent⟩ := h
  refine ⟨?_, ?_, ?_, ?_⟩
  · unfold SendQueue.Fresh
    rw [hlists, hnext]
    exact hfresh
  · rw [hpkts, hlists]
    exact hquiet
  · rw [hpkts, hnext]
    exact hcopies
  · rw [hpkts]
    exact habsent

/-- Packets get marks. Those with a frame of type `t` are not acknowledged. -/
theorem mark (h : Unsent t written s) {pkts : PktId → PacketOut}
    (hbody : ∀ id, (pkts id).body = (s.pkts id).body)
    (hacked : ∀ id, t ∈ (s.pkts id).poFrameTypes → (pkts id).poAcked = (s.pkts id).poAcked) :
    Unsent t written { s with pkts := pkts } := by
  have htypes : ∀ id, (pkts id).poFrameTypes = (s.pkts id).poFrameTypes :=
    fun id => (congrArg PacketOut.poFrameTypes (hbody id) :)
  have horigin : ∀ id, (pkts id).poOrigin = (s.pkts id).poOrigin :=
    fun id => (congrArg PacketOut.poOrigin (hbody id) :)
  refine ⟨h.fresh, fun id ht => ?_, fun id origin ho => ?_, fun hnot id => ?_⟩
  · rw [htypes] at ht
    rw [hacked id ht]
    exact h.quiet id ht
  · rw [horigin] at ho
    rw [htypes, htypes]
    exact h.copies id origin ho
  · rw [htypes]
    exact h.absent hnot id

theorem modify (h : Unsent t written s) (id : PktId) {f : PacketOut → PacketOut}
    (hbody : ∀ po, (f po).body = po.body)
    (hacked : t ∈ (s.pkts id).poFrameTypes → (f (s.pkts id)).poAcked = (s.pkts id).poAcked) :
    Unsent t written (s.modify id f) := by
  refine h.mark (fun id' => ?_) fun id' ht => ?_
  · by_cases heq : id' = id
    · rw [heq, Function.update_self, hbody]
    · rw [Function.update_of_ne heq]
  · by_cases heq : id' = id
    · subst heq
      rw [Function.update_self]
      exact hacked ht
    · rw [Function.update_of_ne heq]

/-- Packets change their lists. Those with a frame of type `t` are not sent. -/
theorem relist (h : Unsent t written s) {lists : Place → List PktId}
    (hmem : ∀ p, ∀ id ∈ lists p, id < s.nextId)
    (hunacked : ∀ id ∈ lists .unackedPackets,
      id ∈ s.lists .unackedPackets ∨ t ∉ (s.pkts id).poFrameTypes) :
    Unsent t written { s with lists := lists } :=
  ⟨hmem, fun id ht => ⟨(h.quiet id ht).1, fun hin =>
    (hunacked id hin).elim (h.quiet id ht).2 fun hnot => hnot ht⟩, h.copies, h.absent⟩

theorem unlink (h : Unsent t written s) (id : PktId) : Unsent t written (s.unlink id) :=
  h.relist (fun p _ hid' => h.fresh p _ (List.mem_filter.1 hid').1)
    fun _ hid' => .inl (List.mem_filter.1 hid').1

theorem insertNew (h : Unsent t written s) {p : Place} {po : PacketOut} (hp : p ≠ .unackedPackets)
    (hacked : t ∈ po.poFrameTypes → po.poAcked = false)
    (horigin : ∀ origin, po.poOrigin = some origin →
      origin < s.nextId ∧ t ∉ po.poFrameTypes ∧ t ∉ (s.pkts origin).poFrameTypes)
    (hwritten : t ∈ po.poFrameTypes → written) : Unsent t written (s.insertNew p po) := by
  have hunacked : (s.insertNew p po).lists .unackedPackets = s.lists .unackedPackets :=
    Function.update_of_ne hp.symm ..
  refine ⟨h.fresh.insertNew p po, fun id ht => ?_, fun id origin ho => ?_, fun hnot id ht => ?_⟩
  · by_cases heq : id = s.nextId
    · subst heq
      rw [SendQueue.insertNew_pkts_nextId] at ht ⊢
      refine ⟨hacked ht, fun hin => ?_⟩
      rw [hunacked] at hin
      exact lt_irrefl _ (h.fresh _ _ hin)
    · rw [SendQueue.insertNew_pkts_of_ne _ _ _ heq] at ht ⊢
      rw [hunacked]
      exact h.quiet id ht
  · have hsame : ∀ {o}, o < s.nextId → (s.insertNew p po).pkts o = s.pkts o :=
      fun hlt => SendQueue.insertNew_pkts_of_ne _ _ _ hlt.ne
    by_cases heq : id = s.nextId
    · subst heq
      rw [SendQueue.insertNew_pkts_nextId] at ho ⊢
      obtain ⟨hlt, hpo, hor⟩ := horigin origin ho
      rw [hsame hlt]
      exact ⟨hlt.trans (Nat.lt_succ_self _), hpo, hor⟩
    · rw [SendQueue.insertNew_pkts_of_ne _ _ _ heq] at ho ⊢
      obtain ⟨hlt, hpo, hor⟩ := h.copies id origin ho
      rw [hsame hlt]
      exact ⟨hlt.trans (Nat.lt_succ_self _), hpo, hor⟩
  · by_cases heq : id = s.nextId
    · subst heq
      rw [SendQueue.insertNew_pkts_nextId] at ht
      exact hnot (hwritten ht)
    · rw [SendQueue.insertNew_pkts_of_ne _ _ _ heq] at ht
      exact h.absent hnot id ht

theorem fill (h : Unsent t written s) {id : PktId} {po : PacketOut}
    (htypes : t ∈ po.poFrameTypes → t ∈ (s.pkts id).poFrameTypes)
    (hacked : po.poAcked = (s.pkts id).poAcked) (horigin : po.poOrigin = (s.pkts id).poOrigin) :
    Unsent t written (s.set id po) := by
  have htypes' : ∀ id', t ∈ ((s.set id po).pkts id').poFrameTypes → t ∈ (s.pkts id').poFrameTypes := by
    intro id' ht
    by_cases heq : id' = id
    · subst heq
      rw [SendQueue.set_pkts_self] at ht
      exact htypes ht
    · rwa [SendQueue.set_pkts_of_ne _ _ heq] at ht
  refine ⟨h.fresh, fun id' ht => ?_, fun id' origin ho => ?_, fun hnot id' ht => ?_⟩
  · have hold := h.quiet id' (htypes' id' ht)
    refine ⟨?_, hold.2⟩
    by_cases heq : id' = id
    · subst heq
      rw [SendQueue.set_pkts_self, hacked]
      exact hold.1
    · rw [SendQueue.set_pkts_of_ne _ _ heq]
      exact hold.1
  · have hold : (s.pkts id').poOrigin = some origin := by
      by_cases heq : id' = id
      · subst heq
        rw [SendQueue.set_pkts_self] at ho
        exact horigin ▸ ho
      · rwa [SendQueue.set_pkts_of_ne _ _ heq] at ho
    obtain ⟨hlt, hid, hor⟩ := h.copies id' origin hold
    exact ⟨hlt, mt (htypes' id') hid, mt (htypes' origin) hor⟩
  · exact h.absent hnot id' (htypes' id' ht)

/-! ## Leaving the queue -/

theorem removeUnacked (h : Unsent t written s) (id : PktId) :
    Unsent t written (removeUnacked s id) := (h.unlink id).modify id (fun _ => rfl) fun _ => rfl

theorem pathSendBufferRemove (h : Unsent t written s) (id : PktId) :
    Unsent t written (pathSendBufferRemove s id) := (h.unlink id).modify id (fun _ => rfl) fun _ => rfl

theorem decreaseInflight (h : Unsent t written s) (id : PktId) :
    Unsent t written (s.modify id PacketOut.decreaseInflight) := by
  refine h.modify id body_decreaseInflight fun _ => ?_
  unfold PacketOut.decreaseInflight
  split_ifs <;> rfl

theorem releaseOrigin (h : Unsent t written s) (origin : PktId) :
    Unsent t written (releaseOrigin s origin) := by
  have hrel : Unsent t written (s.modify origin PacketOut.release) :=
    h.modify origin (fun _ => rfl) fun _ => rfl
  unfold Rquic.releaseOrigin
  split_ifs
  · exact (hrel.decreaseInflight origin).removeUnacked origin
  · exact hrel

theorem leaveList (h : Unsent t written s) (id : PktId) (path : Bool) :
    Unsent t written (leaveList s id path) := by
  unfold Rquic.leaveList
  split_ifs
  · exact h.pathSendBufferRemove id
  · exact h.removeUnacked id

theorem maybeRemoveUnacked (h : Unsent t written s) (id : PktId) (path : Bool) :
    Unsent t written (maybeRemoveUnacked s id path) := by
  unfold Rquic.maybeRemoveUnacked
  split
  · split_ifs
    · exact h
    · exact h.leaveList id path
  · exact (h.leaveList id path).releaseOrigin _

theorem onPacketAcked (h : Unsent t written s) {id : PktId} (hid : t ∉ (s.pkts id).poFrameTypes) :
    Unsent t written (onPacketAcked s id) := by
  have hacked : Unsent t written (s.modify id PacketOut.onAcked) :=
    h.modify id body_onAcked fun ht => absurd ht hid
  unfold Rquic.onPacketAcked
  split
  · exact hacked
  · rename_i origin horigin
    refine hacked.modify origin (fun _ => rfl) fun ht => ?_
    rw [(modify_ctl s id body_onAcked).types (h.copies id origin horigin).1] at ht
    exact absurd ht (h.copies id origin horigin).2.2

theorem indirectlyAckOrDropPo (h : Unsent t written s) {id : PktId} {s' : SendQueue}
    (hs' : indirectlyAckOrDropPo s id = some s') : Unsent t written s' := by
  unfold Rquic.indirectlyAckOrDropPo at hs'
  split_ifs at hs' with hacked horigin
  · obtain rfl := Option.some.inj hs'
    refine Unsent.maybeRemoveUnacked (h.onPacketAcked ?_) id true
    obtain ⟨origin, ho, -⟩ := originAcked_eq_true.1 horigin
    exact (h.copies id origin ho).2.1
  · obtain rfl := Option.some.inj hs'
    exact h.maybeRemoveUnacked id true

/-! ## Scheduling and sending -/

theorem move (h : Unsent t written s) {p q : Place} {id : PktId} (hid : id ∈ s.lists q)
    (hp : p ≠ .unackedPackets) : Unsent t written ((s.unlink id).pushTail p id) := by
  refine h.relist (fun p' id' hid' => ?_) fun id' hid' => ?_
  · rcases SendQueue.mem_pushTail.1 hid' with hmem | ⟨-, rfl⟩
    · exact h.fresh p' id' (List.mem_filter.1 hmem).1
    · exact h.fresh q _ hid
  · rcases SendQueue.mem_pushTail.1 hid' with hmem | ⟨heq, -⟩
    · exact .inl (List.mem_filter.1 hmem).1
    · exact absurd heq.symm hp

theorem schedulePacket (h : Unsent t written s) (sendType : SendType) :
    Unsent t written (schedulePacket s sendType) := by
  unfold Rquic.schedulePacket
  split
  · exact h
  · rename_i id ids hids
    have hmove := h.move (p := .scheduleBuf sendType) (hids ▸ List.mem_cons_self) nofun
    refine hmove.modify id body_enterPathBuf fun _ => ?_
    unfold PacketOut.enterPathBuf
    split_ifs <;> rfl

theorem pathSendBufferClear (h : Unsent t written s) (sendType : SendType) :
    Unsent t written (pathSendBufferClear s sendType) := by
  set pkts : PktId → PacketOut := fun id =>
    if id ∈ s.lists (.scheduleBuf sendType) then (s.pkts id).leavePathBuf else s.pkts id with hpkts
  have hmark : Unsent t written { s with pkts := pkts } := by
    refine h.mark (fun id => ?_) fun id _ => ?_
    · rw [hpkts]
      dsimp only
      split_ifs <;> rfl
    · rw [hpkts]
      dsimp only
      split_ifs <;> rfl
  refine hmark.relist (fun p id hid => ?_) fun id hid => ?_
  · by_cases hp : p = sendType.source
    · subst hp
      rw [Function.update_self] at hid
      rcases List.mem_append.1 hid with hid | hid
      · exact h.fresh _ id hid
      · exact h.fresh _ id hid
    · rw [Function.update_of_ne hp] at hid
      by_cases hp' : p = .scheduleBuf sendType
      · rw [hp', Function.update_self] at hid
        cases hid
      · rw [Function.update_of_ne hp'] at hid
        exact h.fresh p id hid
  · have hbuf : Place.unackedPackets ≠ .scheduleBuf sendType := nofun
    rw [Function.update_of_ne (by cases sendType <;> nofun), Function.update_of_ne hbuf] at hid
    exact .inl hid

theorem buff1rttPackets (h : Unsent t written s) : Unsent t written (buff1rttPackets s) := by
  refine h.relist (fun p id hid => ?_) fun id hid => .inl hid
  cases p with
  | sendPackets => exact h.fresh _ id (List.mem_filter.1 hid).1
  | buff1rttPackets =>
      rcases List.mem_append.1 hid with hid | hid
      · exact h.fresh _ id hid
      · exact h.fresh _ id (List.mem_filter.1 hid).1
  | _ => exact h.fresh _ id hid

theorem writeBuffed1rttPackets (h : Unsent t written s) :
    Unsent t written (writeBuffed1rttPackets s) := by
  refine h.relist (fun p id hid => ?_) fun id hid => .inl hid
  cases p with
  | sendPackets =>
      rcases List.mem_append.1 hid with hid | hid
      · exact h.fresh _ id hid
      · exact h.fresh _ id hid
  | buff1rttPackets => cases hid
  | _ => exact h.fresh _ id hid

theorem setNextPn (h : Unsent t written s) (id : PktId) (now : ℕ) :
    Unsent t written (setNextPn s id now) :=
  Unsent.same (h.modify id (f := PacketOut.number s.packetNumber now) (fun _ => rfl) fun _ => rfl)
    rfl rfl rfl

theorem numberUnsent (h : Unsent t written s) (sendType : SendType) (n now : ℕ) :
    Unsent t written (numberUnsent s sendType n now) := by
  unfold Rquic.numberUnsent
  generalize (s.lists (.scheduleBuf sendType)).take n = ids
  induction ids generalizing s with
  | nil => exact h
  | cons id ids ih => exact ih (h.setNextPn id now)

theorem markRetrans (h : Unsent t written s) (sendType : SendType) (id : PktId) :
    Unsent t written (markRetrans s sendType id) := by
  unfold Rquic.markRetrans
  split_ifs
  · exact h.modify id (fun _ => rfl) fun _ => rfl
  · exact h

theorem transmit (h : Unsent t written s) {id : PktId} (hlt : id < s.nextId)
    (hid : t ∉ (s.pkts id).poFrameTypes) (srtt now : ℕ) :
    Unsent t written (transmit s id srtt now) := by
  have hnum := h.setNextPn id now
  have hsocket : Unsent t written (writeSocket (Rquic.setNextPn s id now) id) := hnum.same rfl rfl rfl
  have hsent : Unsent t written
      (onPacketSent (writeSocket (Rquic.setNextPn s id now) id) id srtt now) := by
    refine Unsent.same (hsocket.modify id body_onSent fun ht => ?_) rfl rfl rfl
    rw [show (writeSocket (Rquic.setNextPn s id now) id).pkts = (Rquic.setNextPn s id now).pkts from
      rfl, (setNextPn_ctl s id now).types hlt] at ht
    exact absurd ht hid
  have hleft := hsent.pathSendBufferRemove id
  -- the frame types of the packet are the same all the way
  have htypes : ((Rquic.pathSendBufferRemove
      (onPacketSent (writeSocket (Rquic.setNextPn s id now) id) id srtt now) id).pkts
        id).poFrameTypes = (s.pkts id).poFrameTypes := by
    have hctl : CtlSteps s (Rquic.pathSendBufferRemove
        (onPacketSent (writeSocket (Rquic.setNextPn s id now) id) id srtt now) id) :=
      (((setNextPn_ctl s id now).trans (writeSocket_ctl _ hlt)).trans (onPacketSent_ctl _ _ _ _)).trans
        (pathSendBufferRemove_ctl _ _)
    exact hctl.types hlt
  unfold Rquic.transmit insertUnacked
  split_ifs
  · refine Unsent.modify ?_ id (fun _ => rfl) fun _ => rfl
    refine hleft.relist (fun p id' hid' => ?_) fun id' hid' => ?_
    · rcases SendQueue.mem_pushTail.1 hid' with hmem | ⟨-, rfl⟩
      · exact hleft.fresh p id' hmem
      · exact hlt
    · rw [Function.update_self] at hid'
      rcases List.mem_append.1 hid' with hmem | hmem
      · exact .inl hmem
      · obtain rfl := List.mem_singleton.1 hmem
        exact .inr (htypes ▸ hid)
  · exact hleft

theorem sendPacket (h : Unsent t written s) {sendType : SendType} {outcome : SendOutcome}
    {srtt now : ℕ} (hsends : sendsType t s (.send sendType outcome srtt now) = false) :
    Unsent t written (sendPacket s sendType outcome srtt now) := by
  unfold Rquic.sendPacket
  split
  · exact h
  · rename_i id ids hids
    have hlt : id < s.nextId := h.fresh _ _ (hids ▸ List.mem_cons_self)
    split
    · rename_i s' hs'
      exact h.indirectlyAckOrDropPo hs'
    · rename_i hnone
      have hmark := h.markRetrans sendType id
      cases outcome with
      | blocked => exact hmark
      | again => exact hmark.setNextPn id now
      | sent =>
          have hid : t ∉ (s.pkts id).poFrameTypes := by
            intro ht
            simp only [sendsType, hids, hnone, ht, decide_true, Option.isNone_none, Bool.and_self] at hsends
            cases hsends
          have hctl := markRetrans_ctl s sendType id
          exact hmark.transmit (hlt.trans_le hctl.nextId_le) (by rwa [hctl.types hlt]) srtt now

/-! ## Writing -/

theorem insertControl (h : Unsent t written s) {p : Place} {params : PktParams} {c : ControlFrame}
    {notify : Bool} {bufSize : ℕ} {po : PacketOut} (hp : p ≠ .unackedPackets)
    (hpo : controlPacket params c notify bufSize = .ok po) (hwritten : c.frame.type = t → written) :
    Unsent t written (s.insertNew p po) := by
  obtain ⟨htypes, horigin, hacked⟩ := controlPacket_fields hpo
  refine h.insertNew hp (fun _ => hacked) (fun origin ho => ?_) fun ht => ?_
  · rw [horigin] at ho
    cases ho
  · rw [htypes] at ht
    exact hwritten (Finset.mem_singleton.1 ht).symm

theorem writeControlFrame (h : Unsent t written s) {c : ControlFrame} (params : PktParams)
    (notify : Bool) (bufSize : ℕ) (handshakeDone : Bool) (hwritten : c.frame.type = t → written) :
    Unsent t written (writeControlFrame s params c notify bufSize handshakeDone) := by
  unfold Rquic.writeControlFrame
  split
  · exact h
  · rename_i po hpo
    refine h.insertControl ?_ hpo hwritten
    cases c <;> cases handshakeDone <;> nofun

theorem sendPathChallenge (h : Unsent t written s) (params : PktParams) (data : Bytes) (now : ℕ)
    (ht : t ≠ .pathChallenge) : Unsent t written (sendPathChallenge s params data now) := by
  unfold Rquic.sendPathChallenge
  split
  · exact h
  · rename_i po hpo
    have hnew : Unsent t written (s.insertNew .sendPackets po) :=
      h.insertControl nofun hpo fun habs => absurd habs.symm ht
    refine Unsent.unlink ?_ s.nextId
    exact (hnew.setNextPn s.nextId now).same rfl rfl rfl

theorem insertFilled (h : Unsent t written s) {p : Place} {params : PktParams} {po₀ po : PacketOut}
    {t' : FrameType} (hp : p ≠ .unackedPackets) (hpo : params.newPacket = .ok po₀)
    (htypes : po.poFrameTypes = insert t' po₀.poFrameTypes) (horigin : po.poOrigin = po₀.poOrigin)
    (ht : t ≠ t') : Unsent t written (s.insertNew p po) := by
  obtain ⟨-, htypes₀, -, horigin₀⟩ := newPacket_fields hpo
  have hnot : t ∉ po.poFrameTypes := by
    rw [htypes, htypes₀, Finset.mem_insert, not_or]
    exact ⟨ht, Finset.notMem_empty t⟩
  refine h.insertNew hp (fun habs => absurd habs hnot) (fun origin ho => ?_) fun habs => absurd habs hnot
  rw [horigin, horigin₀] at ho
  cases ho

theorem writeStreamFrame (h : Unsent t written s) {s' : SendQueue} {highPri fin : Bool}
    {params : PktParams} {streamId offset n : ℕ} {payload : Bytes}
    (hs' : writeStreamFrame s highPri params streamId offset fin payload = .ok (s', n))
    (ht : t ≠ .stream) : Unsent t written s' := by
  rcases writeStreamFrame_cases hs' with ⟨id, po, -, hgen, rfl⟩ | ⟨po₀, po, hpo, hgen, rfl⟩
  · obtain ⟨-, hframe⟩ := genStreamFrame_frame hgen
    have htypes : po.poFrameTypes = insert .stream (s.pkts id).poFrameTypes :=
      (congrArg PacketOut.poFrameTypes hframe :)
    refine h.fill (fun hin => ?_) (congrArg PacketOut.poAcked hframe :)
      (congrArg PacketOut.poOrigin hframe :)
    rw [htypes] at hin
    exact (Finset.mem_insert.1 hin).resolve_left ht
  · obtain ⟨-, hframe⟩ := genStreamFrame_frame hgen
    exact h.insertFilled (Place.ne_unacked (streamPlace_fillable highPri)) hpo
      (congrArg PacketOut.poFrameTypes hframe :) (congrArg PacketOut.poOrigin hframe :) ht

theorem writeAckToPackets (h : Unsent t written s) (params : PktParams)
    (ackDelay ackDelayExponent : ℕ) (ht : t ≠ .ack) :
    Unsent t written (writeAckToPackets s params ackDelay ackDelayExponent) := by
  rcases writeAckToPackets_cases s params ackDelay ackDelayExponent with
    heq | ⟨id, po, -, -, hwrite, heq⟩ | ⟨po₀, po, hpo, hwrite, heq⟩
  · rw [heq]
    exact h
  · have hframe := writeAckToOnePacket_frame hwrite
    have htypes : po.poFrameTypes = insert .ack (s.pkts id).poFrameTypes :=
      (congrArg PacketOut.poFrameTypes hframe :)
    rw [heq]
    refine h.fill (fun hin => ?_) (congrArg PacketOut.poAcked hframe :)
      (congrArg PacketOut.poOrigin hframe :)
    rw [htypes] at hin
    exact (Finset.mem_insert.1 hin).resolve_left ht
  · have hframe := writeAckToOnePacket_frame hwrite
    rw [heq]
    exact h.insertFilled nofun hpo (congrArg PacketOut.poFrameTypes hframe :)
      (congrArg PacketOut.poOrigin hframe :) ht

/-! ## Copies -/

theorem copyTo (h : Unsent t written s) {p : Place} {src : PktId} (hp : p ≠ .unackedPackets)
    (hlt : src < s.nextId) (hsrc : t ∉ (s.pkts src).poFrameTypes) : Unsent t written (copyTo s p src) := by
  unfold Rquic.copyTo
  split
  · exact h
  · rename_i copy hcopy
    obtain ⟨-, horigin, htypes, -, -, -⟩ := retransmission_fields hcopy
    have hretain : Unsent t written (s.modify ((s.pkts src).poOrigin.getD src) PacketOut.retain) :=
      h.modify _ (fun _ => rfl) fun _ => rfl
    have hnot : t ∉ copy.poFrameTypes := by
      rw [htypes]
      exact fun ht => hsrc (Finset.mem_of_mem_erase ht)
    refine Unsent.modify ?_ src (fun _ => rfl) fun _ => rfl
    refine hretain.insertNew hp (fun ht => absurd ht hnot) (fun origin ho => ?_) fun ht => absurd ht hnot
    rw [horigin] at ho
    obtain rfl := Option.some.inj ho
    -- the origin is the packet or the origin of the packet
    have hroot : (s.pkts src).poOrigin.getD src < s.nextId ∧
        t ∉ (s.pkts ((s.pkts src).poOrigin.getD src)).poFrameTypes := by
      cases ho : (s.pkts src).poOrigin with
      | none => exact ⟨hlt, hsrc⟩
      | some origin => exact ⟨(h.copies src origin ho).1, (h.copies src origin ho).2.2⟩
    refine ⟨hroot.1, hnot, ?_⟩
    rw [SendQueue.modify_pkts_self]
    exact hroot.2

theorem onPacketLost (h : Unsent t written s) {id : PktId} (hlt : id < s.nextId)
    (hid : t ∉ (s.pkts id).poFrameTypes) : Unsent t written (onPacketLost s id) := by
  have hflight := h.decreaseInflight id
  unfold Rquic.onPacketLost
  split_ifs
  · refine hflight.copyTo nofun hlt ?_
    rwa [(modify_ctl s id body_decreaseInflight).types hlt]
  · exact hflight.removeUnacked id
  · exact h

/-- The packets that wait for an acknowledgement, when a walk over them starts. -/
theorem unacked (h : Unsent t written s) :
    ∀ id ∈ s.lists .unackedPackets, id < s.nextId ∧ t ∉ (s.pkts id).poFrameTypes :=
  fun id hid => ⟨h.fresh _ id hid, fun ht => (h.quiet id ht).2 hid⟩

theorem lacks_steps {id : PktId} {s' : SendQueue} (hid : id < s.nextId ∧ t ∉ (s.pkts id).poFrameTypes)
    (hctl : CtlSteps s s') : id < s'.nextId ∧ t ∉ (s'.pkts id).poFrameTypes := by
  obtain ⟨hlt, hnot⟩ := hid
  exact ⟨hlt.trans_le hctl.nextId_le, by rwa [hctl.types hlt]⟩

theorem detectLost (h : Unsent t written s) (th : LossThresholds) :
    Unsent t written (detectLost s th) := by
  refine (detectLost_induct (P := fun s₁ => Unsent t written s₁ ∧ CtlSteps s s₁) ?_ ?_ ⟨h, .refl⟩).1
  · intro s₁ id hid s₂ hs₂ h₁
    exact ⟨h₁.1.indirectlyAckOrDropPo hs₂, h₁.2.trans (indirectlyAckOrDropPo_ctl hs₂)⟩
  · intro s₁ id hid h₁
    obtain ⟨hlt, hnot⟩ := lacks_steps (h.unacked id hid) h₁.2
    exact ⟨h₁.1.onPacketLost hlt hnot, h₁.2.trans (onPacketLost_ctl s₁ hlt)⟩

/-! ## Probes -/

theorem sendProbePkt (h : Unsent t written s) {id : PktId} (hlt : id < s.nextId)
    (hid : t ∉ (s.pkts id).poFrameTypes) : Unsent t written (sendProbePkt s id) := by
  unfold Rquic.sendProbePkt
  split_ifs
  · exact h
  · refine Unsent.modify ?_ id (fun _ => rfl) fun _ => rfl
    refine (h.decreaseInflight id).copyTo nofun hlt ?_
    rwa [(modify_ctl s id body_decreaseInflight).types hlt]

theorem sendPingToProbe (h : Unsent t written s) (params : PktParams) (ht : t ≠ .ping) :
    Unsent t written (sendPingToProbe s params) := by
  unfold Rquic.sendPingToProbe
  split
  · exact h
  · rename_i po hpo
    exact h.insertControl nofun hpo fun habs => absurd habs.symm ht

theorem sendOneOrTwoAckElicitPkts (h : Unsent t written s) (params : PktParams) (ht : t ≠ .ping) :
    Unsent t written (sendOneOrTwoAckElicitPkts s params) := by
  refine (sendOneOrTwoAckElicitPkts_induct (P := fun s₁ => Unsent t written s₁ ∧ CtlSteps s s₁)
    ?_ ?_ ?_ ⟨h, .refl⟩).1
  · intro s₁ id hid s₂ hs₂ h₁
    exact ⟨h₁.1.indirectlyAckOrDropPo hs₂, h₁.2.trans (indirectlyAckOrDropPo_ctl hs₂)⟩
  · intro s₁ id hid h₁
    obtain ⟨hlt, hnot⟩ := lacks_steps (h.unacked id hid) h₁.2
    exact ⟨h₁.1.sendProbePkt hlt hnot, h₁.2.trans (sendProbePkt_ctl s₁ hlt)⟩
  · intro s₁ h₁
    exact ⟨h₁.1.sendPingToProbe params ht, h₁.2.trans (sendPingToProbe_ctl s₁ params)⟩

/-! ## Acknowledgements -/

theorem ackPacket {w : AckWalk} (h : Unsent t written w.sndq) {id : PktId}
    (hlt : id < w.sndq.nextId) (hid : t ∉ (w.sndq.pkts id).poFrameTypes) :
    Unsent t written (w.ackPacket id).sndq := by
  have hlargest : Unsent t written (raiseLargest w.sndq (w.sndq.pkts id)) := h.same rfl rfl rfl
  have hspurious : Unsent t written
      ((raiseLargest w.sndq (w.sndq.pkts id)).modify id PacketOut.markSpuriousLoss) := by
    refine hlargest.modify id body_markSpuriousLoss fun _ => ?_
    unfold PacketOut.markSpuriousLoss
    split_ifs <;> rfl
  refine Unsent.maybeRemoveUnacked (hspurious.onPacketAcked ?_) id false
  rw [(modify_ctl (raiseLargest w.sndq (w.sndq.pkts id)) id body_markSpuriousLoss).types hlt]
  exact hid

theorem ackWalk {frameLargestAck : ℕ} {ranges : List PktnoRange} {ids : List PktId} {w : AckWalk}
    (h : Unsent t written w.sndq)
    (hids : ∀ id ∈ ids, id < w.sndq.nextId ∧ t ∉ (w.sndq.pkts id).poFrameTypes) :
    Unsent t written (ackWalk frameLargestAck ranges ids w).sndq := by
  refine (ackWalk_sndq_induct (P := fun s₁ => Unsent t written s₁ ∧ CtlSteps w.sndq s₁) ?_ ⟨h, .refl⟩).1
  intro w₁ id hid h₁
  obtain ⟨hlt, hnot⟩ := lacks_steps (hids id hid) h₁.2
  exact ⟨h₁.1.ackPacket hlt hnot, h₁.2.trans (ackPacket_ctl w₁ id)⟩

theorem ackSentOnAck (h : Unsent t written s) (info : AckInfo) :
    Unsent t written (ackSentOnAck s info).sndq ∧
      ∀ id ∈ s.lists .unackedPackets, id < (ackSentOnAck s info).sndq.nextId ∧
        t ∉ ((ackSentOnAck s info).sndq.pkts id).poFrameTypes := by
  unfold Rquic.ackSentOnAck
  split
  · exact ⟨h, h.unacked⟩
  · exact ⟨h.same rfl rfl rfl, h.unacked⟩

theorem ackProcess (h : Unsent t written s) (info : AckInfo) :
    Unsent t written (ackProcess s info).sndq := by
  unfold Rquic.ackProcess
  split
  · exact h
  · exact (h.ackSentOnAck info).1.ackWalk (h.ackSentOnAck info).2

theorem onAckReceived (h : Unsent t written s) (info : AckInfo) (th : LossThresholds) :
    Unsent t written (onAckReceived s info th).1 := by
  have hprocess := h.ackProcess info
  unfold Rquic.onAckReceived
  dsimp only
  split_ifs
  · exact hprocess
  · exact (hprocess.detectLost th).same rfl rfl rfl
  · exact hprocess.detectLost th

/-! ## Dropping -/

theorem dropStreamFramePackets (h : Unsent t written s) (streamId : StreamId) :
    Unsent t written (dropStreamFramePackets s streamId) := by
  have hmark : Unsent t written { s with pkts := (Rquic.dropStreamFramePackets s streamId).pkts } :=
    h.mark (fun id => (dropStreamFramePackets_later s streamId id).1.body)
      fun id _ => (dropStreamFramePackets_later s streamId id).2
  have hsub : ∀ p, ∀ id ∈ (Rquic.dropStreamFramePackets s streamId).lists p, id ∈ s.lists p := by
    intro p id hid
    simp only [Rquic.dropStreamFramePackets] at hid
    split_ifs at hid
    · exact (List.mem_filter.1 hid).1
    · exact hid
  exact hmark.relist (fun p id hid => h.fresh p id (hsub p id hid)) fun id hid => .inl (hsub _ id hid)

/-! ## Events -/

/-- **The events that do not send a frame of the type.** -/
theorem step (h : Unsent t written s) {ev : SendEvent} (hsends : sendsType t s ev = false)
    (hwrites : writesType t ev → ∃ params c notify bufSize handshakeDone,
      ev = .control params c notify bufSize handshakeDone ∧ written) : Unsent t written (s.step ev) := by
  have hnot : (∀ params c notify bufSize handshakeDone,
      ev ≠ .control params c notify bufSize handshakeDone) → ¬ writesType t ev := by
    rintro hne hw
    obtain ⟨params, c, notify, bufSize, handshakeDone, heq, -⟩ := hwrites hw
    exact hne _ _ _ _ _ heq
  cases ev with
  | control params c notify bufSize handshakeDone =>
      refine h.writeControlFrame params notify bufSize handshakeDone fun heq => ?_
      obtain ⟨-, -, -, -, -, -, hw⟩ := hwrites heq
      exact hw
  | stream highPri params streamId offset fin payload =>
      have ht : t ≠ .stream := hnot (by simp)
      simp only [SendQueue.step]
      split
      · exact h
      · rename_i s' n hs'
        exact h.writeStreamFrame hs' ht
  | ack params ackDelay ackDelayExponent =>
      exact h.writeAckToPackets params ackDelay ackDelayExponent (hnot (by simp))
  | schedule sendType => exact h.schedulePacket sendType
  | clear sendType => exact h.pathSendBufferClear sendType
  | send sendType outcome srtt now => exact h.sendPacket hsends
  | numberUnsent sendType n now => exact h.numberUnsent sendType n now
  | pathChallenge params data now => exact h.sendPathChallenge params data now (hnot (by simp))
  | buff1rtt => exact h.buff1rttPackets
  | writeBuffed1rtt => exact h.writeBuffed1rttPackets
  | ackReceived info th => exact h.onAckReceived info th
  | lossTimeout th => exact h.detectLost th
  | probeTimeout params => exact h.sendOneOrTwoAckElicitPkts params (hnot (by simp))
  | dropStream streamId => exact h.dropStreamFramePackets streamId
  | recvPacket pktNum => exact h.same rfl rfl rfl

end Unsent

end Rquic

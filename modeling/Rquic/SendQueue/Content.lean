import Rquic.SendQueue.Run

set_option autoImplicit false

/-!
# What the packets of the send queue say

Every packet of the queue is a sequence of frames, and so is everything that was given to the
socket, for any property of frames that the writers respect.

* `PktInv`, `ContentInv`: the invariant, for a property `P` of frames.
* `FrameClosed`: control and ACK frames have the property, and extending a STREAM frame keeps it.
* **`ContentInv.step`**: every event keeps the invariant.
-/

namespace Rquic

/-- A packet that is a sequence of frames with the property `P`. -/
def PktInv (e : ℕ) (P : Frame → Prop) (po : PacketOut) : Prop :=
  po.poBufSize ≤ maxPacketOutSize ∧ ∃ segs, Content e po segs ∧ AckPos po segs ∧
    (po.poOrigin = none → SlotInv po segs) ∧ ∀ i ∈ segs, P i.1

/-- The packets of the queue and on the wire are sequences of frames with the property `P`. -/
structure ContentInv (e : ℕ) (P : Frame → Prop) (s : SendQueue) : Prop where
  fresh : s.Fresh
  pkts : ∀ id < s.nextId, PktInv e P (s.pkts id)
  /-- Only originals are filled. -/
  originals : ∀ p, p.fillable = true → ∀ id ∈ s.lists p, (s.pkts id).poOrigin = none
  wire : ∀ w ∈ s.wire, ∃ fs, parseFrames e w.payload = .ok fs ∧ ∀ f ∈ fs, P f
  record : s.recvRecord.Below (2 ^ 62)

/-- The properties of frames that the writers respect. -/
structure FrameClosed (P : Frame → Prop) : Prop where
  control : ∀ c : ControlFrame, P c.frame
  ack : ∀ info, P (.ack info)
  combine : ∀ {streamId offset : ℕ} {fin fin' : Bool} {data data' : Bytes},
    P (.stream streamId offset fin data) → P (.stream streamId (offset + data.length) fin' data') →
    P (.stream streamId offset (fin || fin') (data ++ data'))

/-- What STREAM writes respect. -/
def StreamClosed (P : Frame → Prop) : Prop :=
  ∀ {streamId offset : ℕ} {fin fin' : Bool} {data data' : Bytes},
    P (.stream streamId offset fin data) → P (.stream streamId (offset + data.length) fin' data') →
    P (.stream streamId offset (fin || fin') (data ++ data'))

theorem frameClosed_true : FrameClosed fun _ => True :=
  ⟨fun _ => trivial, fun _ => trivial, fun _ _ => trivial⟩

theorem PktInv.of_body {e : ℕ} {P : Frame → Prop} {po po' : PacketOut} (hbody : po'.body = po.body)
    (h : PktInv e P po) : PktInv e P po' := by
  obtain ⟨hsize, segs, hc, hack, hslot, hP⟩ := h
  have hsize' : po'.poBufSize = po.poBufSize := (congrArg PacketOut.poBufSize hbody :)
  have horigin : po'.poOrigin = po.poOrigin := (congrArg PacketOut.poOrigin hbody :)
  refine ⟨hsize'.trans_le hsize, segs, hc.of_body hbody, hack.of_body hbody, fun ho => ?_, hP⟩
  exact (hslot (horigin.symm.trans ho)).of_body hbody

theorem PktInv.mono {e : ℕ} {P Q : Frame → Prop} {po : PacketOut} (hPQ : ∀ f, P f → Q f)
    (h : PktInv e P po) : PktInv e Q po := by
  obtain ⟨hsize, segs, hc, hack, hslot, hP⟩ := h
  exact ⟨hsize, segs, hc, hack, hslot, fun i hi => hPQ _ (hP i hi)⟩

theorem ContentInv.mono {e : ℕ} {P Q : Frame → Prop} {s : SendQueue} (hPQ : ∀ f, P f → Q f)
    (h : ContentInv e P s) : ContentInv e Q s where
  fresh := h.fresh
  pkts := fun id hid => (h.pkts id hid).mono hPQ
  originals := h.originals
  wire := fun w hw => by
    obtain ⟨fs, hfs, hP⟩ := h.wire w hw
    exact ⟨fs, hfs, fun f hf => hPQ f (hP f hf)⟩
  record := h.record

theorem ContentInv.of_parse {e : ℕ} {P : Frame → Prop} {s : SendQueue} (h : ContentInv e P s)
    {w : WirePacket} (hw : w ∈ s.wire) {fs : List Frame} (hparse : parseFrames e w.payload = .ok fs) :
    ∀ f ∈ fs, P f := by
  obtain ⟨fs', hfs', hP⟩ := h.wire w hw
  rw [Except.ok.inj (hparse.symm.trans hfs')]
  exact hP

theorem contentInv_init (e : ℕ) (P : Frame → Prop) : ContentInv e P {} where
  fresh := fun _ _ hid => by cases hid
  pkts := fun _ hid => by cases hid
  originals := fun _ _ _ hid => by cases hid
  wire := fun _ hw => by cases hw
  record := fun _ hr => by cases hr

/-! ## New packets -/

theorem newPacket_content (e : ℕ) {params : PktParams} {po : PacketOut}
    (h : params.newPacket = .ok po) :
    Content e po [] ∧ AckPos po [] ∧ SlotInv po [] ∧ po.poBufSize ≤ maxPacketOutSize ∧
      po.streamNoLen = false ∧ po.poFrameTypes = ∅ ∧ po.poOrigin = none ∧ po.poLargestAck = 0 := by
  unfold PktParams.newPacket at h
  split_ifs at h
  obtain rfl := Except.ok.inj h
  refine ⟨⟨le_rfl, ?_, ?_, nofun⟩, ⟨?_, ?_⟩, ?_, params.pktOutSize.2, rfl, rfl, rfl, rfl⟩
  · simp [PacketOut.payload, writeNewPacket]
  · exact decodesSeq_true.2 (by simp)
  · simp
  · simp [writeNewPacket]
  · intro htypes
    exact absurd htypes.symm (Finset.singleton_ne_empty _)

theorem controlPacket_content (e : ℕ) {params : PktParams} {c : ControlFrame} {notify : Bool}
    {bufSize : ℕ} {po : PacketOut} (hwf : c.Wf)
    (h : controlPacket params c notify bufSize = .ok po) :
    Content e po [(c.frame, c.code)] ∧ AckPos po [(c.frame, c.code)] ∧
      SlotInv po [(c.frame, c.code)] ∧ po.poBufSize ≤ maxPacketOutSize ∧
      po.poFrameTypes = {c.frame.type} ∧ po.poOrigin = none ∧ po.poLargestAck = 0 := by
  unfold controlPacket at h
  cases hnew : params.newPacket with
  | error err =>
      rw [hnew] at h
      cases h
  | ok po₀ =>
      obtain ⟨hc, -, -, hsize, hopen, htypes, horigin, hlargest⟩ := newPacket_content e hnew
      rw [hnew, ok_bind, genControlFrame] at h
      split_ifs at h
      · cases h
      · obtain rfl := Except.ok.inj h
        have htypes' : insert c.frame.type po₀.poFrameTypes = {c.frame.type} := by
          rw [htypes, insert_empty_eq]
        have hack : FrameType.ack ∉ insert c.frame.type po₀.poFrameTypes := by
          rw [htypes', Finset.mem_singleton]
          exact c.frame_type_ne.2.symm
        refine ⟨hc.append hopen rfl rfl hopen (decodes_control e hwf), ⟨fun _ i hi => ?_, fun habs =>
          absurd habs hack⟩, SlotInv.of_ne (Finset.mem_insert_self _ _) c.frame_type_ne.1, ?_,
          htypes', horigin, hlargest⟩
        · rw [List.mem_singleton.1 hi]
          exact c.frame_type_ne.2
        · cases c <;> first | exact hsize | exact (min_le_left _ _).trans hsize

/-! ## The elementary steps -/

theorem PktInv.retransmission {e : ℕ} {P : Frame → Prop} {po copy : PacketOut} {id : PktId}
    (h : PktInv e P po) (hcopy : po.retransmission id = some copy) : PktInv e P copy := by
  obtain ⟨hsize, segs, hc, hack, -, hP⟩ := h
  obtain ⟨pre, post, hc', hack', hsegs⟩ := retransmission_content hc hack hcopy
  have hsub : ∀ i ∈ pre, i ∈ segs := by
    intro i hi
    rcases hsegs with ⟨-, rfl⟩ | ⟨info, code, rfl, -⟩
    · exact hi
    · exact List.mem_append_left _ hi
  obtain ⟨hsize', origin, horigin⟩ :
      copy.poBufSize = po.poBufSize ∧ ∃ origin, copy.poOrigin = some origin := by
    unfold PacketOut.retransmission PacketOut.removeAckFrame at hcopy
    split_ifs at hcopy <;> obtain rfl := Option.some.inj hcopy <;> exact ⟨rfl, _, rfl⟩
  refine ⟨hsize'.trans_le hsize, pre, hc', hack', fun habs => ?_, fun i hi => hP i (hsub i hi)⟩
  rw [horigin] at habs
  cases habs

theorem ContentInv.insertNew {e : ℕ} {P : Frame → Prop} {s : SendQueue} {po : PacketOut} {p : Place}
    (h : ContentInv e P s) (hpo : PktInv e P po) (hfill : p.fillable = true → po.poOrigin = none) :
    ContentInv e P (s.insertNew p po) where
  fresh := h.fresh.insertNew p po
  pkts := by
    intro id hid
    by_cases hnew : id = s.nextId
    · rw [hnew, SendQueue.insertNew_pkts_nextId]
      exact hpo
    · rw [SendQueue.insertNew_pkts_of_ne _ _ _ hnew]
      exact h.pkts id (lt_of_le_of_ne (Nat.le_of_lt_succ hid) hnew)
  originals := by
    intro q hq id hid
    rcases (SendQueue.mem_insertNew _).1 hid with hold | ⟨rfl, rfl⟩
    · rw [SendQueue.insertNew_pkts_of_ne _ _ _ (h.fresh q id hold).ne]
      exact h.originals q hq id hold
    · rw [SendQueue.insertNew_pkts_nextId]
      exact hfill hq
  wire := h.wire
  record := h.record

theorem ContentInv.set {e : ℕ} {P : Frame → Prop} {s : SendQueue} {id : PktId} {po : PacketOut}
    (h : ContentInv e P s) (hpo : PktInv e P po) (horigin : po.poOrigin = (s.pkts id).poOrigin) :
    ContentInv e P (s.set id po) where
  fresh := h.fresh
  pkts := by
    intro id' hid'
    by_cases hne : id' = id
    · rw [hne, SendQueue.set_pkts_self]
      exact hpo
    · rw [SendQueue.set_pkts_of_ne _ _ hne]
      exact h.pkts id' hid'
  originals := by
    intro q hq id' hid'
    by_cases hne : id' = id
    · subst hne
      rw [SendQueue.set_pkts_self, horigin]
      exact h.originals q hq id' hid'
    · rw [SendQueue.set_pkts_of_ne _ _ hne]
      exact h.originals q hq id' hid'
  wire := h.wire
  record := h.record

theorem ContentInv.ctlStep {e : ℕ} {P : Frame → Prop} {s s' : SendQueue}
    (hcontrol : ∀ c : ControlFrame, P c.frame) (h : ContentInv e P s) (hstep : CtlStep s s') :
    ContentInv e P s' := by
  have hfresh := hstep.fresh h.fresh
  cases hstep with
  | mark pkts hbody =>
      exact ⟨hfresh, fun id hid => (h.pkts id hid).of_body (hbody id), fun p hp id hid =>
        (congrArg PacketOut.poOrigin (hbody id) :).trans (h.originals p hp id hid), h.wire, h.record⟩
  | lists lists hmem =>
      refine ⟨hfresh, h.pkts, fun p hp id hid => ?_, h.wire, h.record⟩
      obtain ⟨q, hq, hid⟩ := (hmem p id hid).2 hp
      exact h.originals q hq id hid
  | copy p src copy hp hsrc hcopy =>
      exact h.insertNew ((h.pkts src hsrc).retransmission hcopy) fun habs =>
        absurd (hp.symm.trans habs) (by decide)
  | control p params c notify bufSize po hwf hpo =>
      obtain ⟨hc, hack, hslot, hsize, -, horigin, -⟩ := controlPacket_content e hwf hpo
      refine h.insertNew ⟨hsize, _, hc, hack, fun _ => hslot, fun i hi => ?_⟩ fun _ => horigin
      rw [List.mem_singleton.1 hi]
      exact hcontrol c
  | socket id pktNum hid =>
      refine ⟨hfresh, h.pkts, h.originals, fun w hw => ?_, h.record⟩
      rcases List.mem_append.1 hw with hw | hw
      · exact h.wire w hw
      · obtain ⟨-, segs, hc, -, -, hP⟩ := h.pkts id hid
        rw [List.mem_singleton.1 hw]
        refine ⟨_, hc.parseFrames, fun f hf => ?_⟩
        obtain ⟨i, hi, rfl⟩ := List.mem_map.1 hf
        exact hP i hi
  | pn => exact ⟨hfresh, h.pkts, h.originals, h.wire, h.record⟩
  | record record hbelow => exact ⟨hfresh, h.pkts, h.originals, h.wire, hbelow h.record⟩

theorem ContentInv.ctlSteps {e : ℕ} {P : Frame → Prop} {s s' : SendQueue}
    (hcontrol : ∀ c : ControlFrame, P c.frame) (h : ContentInv e P s) (hsteps : CtlSteps s s') :
    ContentInv e P s' := by
  induction hsteps with
  | refl => exact h
  | tail _ hstep ih => exact ih.ctlStep hcontrol hstep

/-! ## Filling packets -/

theorem getPacketOutForStream_some {s : SendQueue} {highPri : Bool} {pktType : PktType}
    {streamId : StreamId} {id : PktId}
    (h : getPacketOutForStream s highPri pktType streamId = some id) :
    id ∈ s.lists (streamPlace highPri) ∧ .datagram ∉ (s.pkts id).poFrameTypes ∧
      streamNeed ≤ (s.pkts id).remainedSize ∧
      (s.pkts id).poStreamFrames.length < maxStreamFrameInPo := by
  unfold getPacketOutForStream at h
  split at h
  · cases h
  · rename_i last hlast
    simp only at h
    split_ifs at h with hfits
    obtain rfl := Option.some.inj h
    exact ⟨List.mem_of_getLast? hlast, hfits.2.1, hfits.2.2.1, hfits.2.2.2.1⟩

theorem streamPlace_fillable (highPri : Bool) : (streamPlace highPri).fillable = true := by
  cases highPri <;> rfl

theorem Content.open_of_room {e : ℕ} {po : PacketOut} {segs : List Seg} (h : Content e po segs)
    (hroom : streamNeed ≤ po.remainedSize) : po.streamNoLen = false := by
  by_contra hlen
  have hfull := (h.noLen (by simpa using hlen)).1
  rw [hfull] at hroom
  exact absurd hroom (by decide)

/-- `rqc_write_stream_frame_to_packet`: one packet gets the written bytes. -/
theorem writeStreamFrame_cases {s s' : SendQueue} {highPri : Bool} {params : PktParams}
    {streamId offset n : ℕ} {fin : Bool} {payload : Bytes}
    (h : writeStreamFrame s highPri params streamId offset fin payload = .ok (s', n)) :
    (∃ id po, getPacketOutForStream s highPri params.pktType streamId = some id ∧
      genStreamFrame (s.pkts id) streamId offset fin payload = .ok (po, n) ∧ s' = s.set id po) ∨
    ∃ po₀ po, params.newPacket = .ok po₀ ∧
      genStreamFrame po₀ streamId offset fin payload = .ok (po, n) ∧
      s' = s.insertNew (streamPlace highPri) po := by
  unfold writeStreamFrame at h
  split at h
  · rename_i id hget
    cases hgen : genStreamFrame (s.pkts id) streamId offset fin payload with
    | error err =>
        rw [hgen] at h
        cases h
    | ok p =>
        rw [hgen, ok_bind] at h
        obtain ⟨rfl, rfl⟩ := Prod.mk.inj (Except.ok.inj h)
        exact .inl ⟨id, p.1, hget, hgen, rfl⟩
  · cases hnew : params.newPacket with
    | error err =>
        rw [hnew] at h
        cases h
    | ok po₀ =>
        cases hgen : genStreamFrame po₀ streamId offset fin payload with
        | error err =>
            rw [hnew, ok_bind, hgen] at h
            cases h
        | ok p =>
            rw [hnew, ok_bind, hgen, ok_bind] at h
            obtain ⟨rfl, rfl⟩ := Prod.mk.inj (Except.ok.inj h)
            exact .inr ⟨po₀, p.1, rfl, hgen, rfl⟩

theorem PktInv.genStreamFrame {e : ℕ} {P : Frame → Prop} {po po' : PacketOut} {segs : List Seg}
    {streamId offset n : ℕ} {fin : Bool} {payload : Bytes} (hP : StreamClosed P)
    (hc : Content e po segs) (hack : AckPos po segs) (hslot : SlotInv po segs)
    (hall : ∀ i ∈ segs, P i.1) (hopen : po.streamNoLen = false)
    (hsize : po.poBufSize ≤ maxPacketOutSize)
    (hneed : po.poFrameTypes = ∅ ∨ streamNeed ≤ po.remainedSize)
    (hid : streamId < 2 ^ 62) (hoff : offset + payload.length < 2 ^ 62)
    (hnew : P (.stream streamId offset (fin && n = payload.length) (payload.take n)))
    (h : Rquic.genStreamFrame po streamId offset fin payload = .ok (po', n)) :
    PktInv e P po' ∧ po'.poOrigin = po.poOrigin := by
  obtain ⟨hn, hframe⟩ := genStreamFrame_frame h
  have hneed' := hneed.imp_left fun hempty => hempty ▸ Finset.notMem_empty FrameType.ack
  obtain ⟨segs', hwritten, hc', hslot'⟩ :=
    genStreamFrame_content hc hslot hopen hsize hneed' hid (by omega) h
  have hack' : AckPos po' segs' :=
    hwritten.ackPos (congrArg PacketOut.poFrameTypes hframe :) (congrArg PacketOut.poAckOffset hframe :)
      (congrArg PacketOut.poPayload hframe :) (congrArg PacketOut.poLargestAck hframe :) hack
  have hsize' : po'.poBufSize = po.poBufSize := (congrArg PacketOut.poBufSize hframe :)
  refine ⟨⟨hsize'.trans_le hsize, segs', hc', hack', fun _ => hslot', hwritten.forall hall hnew ?_⟩,
    (congrArg PacketOut.poOrigin hframe :)⟩
  rintro offset₀ fin₀ data₀ rfl hold
  exact hP hold hnew

/-- A STREAM write keeps the invariant, if the written frame has the property. -/
theorem writeStreamFrame_content {e : ℕ} {P : Frame → Prop} {s s' : SendQueue} {highPri : Bool}
    {params : PktParams} {streamId offset n : ℕ} {fin : Bool} {payload : Bytes}
    (hP : StreamClosed P) (h : ContentInv e P s) (hid : streamId < 2 ^ 62)
    (hoff : offset + payload.length < 2 ^ 62)
    (hnew : P (.stream streamId offset (fin && n = payload.length) (payload.take n)))
    (hw : writeStreamFrame s highPri params streamId offset fin payload = .ok (s', n)) :
    ContentInv e P s' := by
  rcases writeStreamFrame_cases hw with ⟨id, po, hget, hgen, rfl⟩ | ⟨po₀, po, hpo₀, hgen, rfl⟩
  · obtain ⟨hmem, -, hroom, -⟩ := getPacketOutForStream_some hget
    obtain ⟨hsize, segs, hc, hack, hslot, hall⟩ := h.pkts id (h.fresh _ id hmem)
    have horig := h.originals _ (streamPlace_fillable highPri) id hmem
    obtain ⟨hpkt, horigin⟩ := PktInv.genStreamFrame hP hc hack (hslot horig) hall
      (hc.open_of_room hroom) hsize (.inr hroom) hid hoff hnew hgen
    exact h.set hpkt horigin
  · obtain ⟨hc, hack, hslot, hsize, hopen, htypes, horig, -⟩ := newPacket_content e hpo₀
    obtain ⟨hpkt, horigin⟩ := PktInv.genStreamFrame hP hc hack hslot (by simp) hopen hsize
      (.inl htypes) hid hoff hnew hgen
    exact h.insertNew hpkt fun _ => horigin.trans horig

theorem writeAckToOnePacket_frame {po po' : PacketOut} {ackDelay ackDelayExponent : ℕ}
    {record : List PktnoRange}
    (h : writeAckToOnePacket po ackDelay ackDelayExponent record = .ok po') :
    po' = { po with
      poBuf := po'.poBuf, poAckOffset := po'.poAckOffset, poLargestAck := po'.poLargestAck
      poFrameTypes := insert .ack po.poFrameTypes } := by
  cases record with
  | nil => cases h
  | cons first rs =>
      simp only [writeAckToOnePacket, genAckFrame] at h
      split_ifs at h
      · cases h
      · obtain rfl := Except.ok.inj h
        rfl

/-- `rqc_write_ack_to_packets`: nothing, an ACK frame in an unsent packet, or one in a new packet. -/
theorem writeAckToPackets_cases (s : SendQueue) (params : PktParams)
    (ackDelay ackDelayExponent : ℕ) :
    writeAckToPackets s params ackDelay ackDelayExponent = s ∨
    (∃ id po, ackTarget s = some id ∧ (s.pkts id).canAttachAck params.pktType = true ∧
      writeAckToOnePacket (s.pkts id) ackDelay ackDelayExponent s.recvRecord.ranges = .ok po ∧
      writeAckToPackets s params ackDelay ackDelayExponent = s.set id po) ∨
    ∃ po₀ po, params.newPacket = .ok po₀ ∧
      writeAckToOnePacket po₀ ackDelay ackDelayExponent s.recvRecord.ranges = .ok po ∧
      writeAckToPackets s params ackDelay ackDelayExponent = s.insertNew .sendPacketsHighPri po := by
  have hnew : writeAckToNewPacket s params ackDelay ackDelayExponent = s ∨
      ∃ po₀ po, params.newPacket = .ok po₀ ∧
        writeAckToOnePacket po₀ ackDelay ackDelayExponent s.recvRecord.ranges = .ok po ∧
        writeAckToNewPacket s params ackDelay ackDelayExponent =
          s.insertNew .sendPacketsHighPri po := by
    unfold writeAckToNewPacket
    split
    · exact .inl rfl
    · rename_i po₀ hpo₀
      split
      · exact .inl rfl
      · rename_i po hpo
        exact .inr ⟨po₀, po, hpo₀, hpo, rfl⟩
  unfold writeAckToPackets
  split_ifs
  · exact .inl rfl
  · split
    · exact hnew.imp_right .inr
    · rename_i id htarget
      split_ifs with hcan
      · split
        · rename_i po hpo
          exact .inr (.inl ⟨id, po, htarget, hcan, hpo, rfl⟩)
        · exact hnew.imp_right .inr
        · exact .inl rfl
      · exact hnew.imp_right .inr

theorem mem_of_ackTarget {s : SendQueue} {id : PktId} (h : ackTarget s = some id) :
    ∃ p, p.fillable = true ∧ id ∈ s.lists p := by
  unfold ackTarget at h
  split at h
  · rename_i ids heq
    obtain rfl := Option.some.inj h
    exact ⟨.scheduleBuf .normal, rfl, heq ▸ List.mem_cons_self⟩
  · exact ⟨.sendPackets, rfl, List.mem_of_head? h⟩

theorem PktInv.writeAck {e : ℕ} {P : Frame → Prop} {po po' : PacketOut} {segs : List Seg}
    {ackDelay ackDelayExponent : ℕ} {record : List PktnoRange}
    (hP : ∀ info, AckOf e (ackDelay / 2 ^ ackDelayExponent) record info → P (.ack info))
    (hc : Content e po segs) (hack : AckPos po segs) (hall : ∀ i ∈ segs, P i.1)
    (hno : .ack ∉ po.poFrameTypes) (hopen : po.streamNoLen = false)
    (hsize : po.poBufSize ≤ maxPacketOutSize) (hwf : AckWf ackDelay ackDelayExponent record)
    (h : writeAckToOnePacket po ackDelay ackDelayExponent record = .ok po') :
    PktInv e P po' ∧ po'.poOrigin = po.poOrigin := by
  obtain ⟨info, code, ⟨hof, -⟩, hc', hack', hslot'⟩ := writeAckToOnePacket_content hc hack hno hopen hwf h
  have hframe := writeAckToOnePacket_frame h
  have hsize' : po'.poBufSize = po.poBufSize := (congrArg PacketOut.poBufSize hframe :)
  refine ⟨⟨hsize'.trans_le hsize, _, hc', hack', fun _ => hslot', fun i hi => ?_⟩,
    (congrArg PacketOut.poOrigin hframe :)⟩
  rcases List.mem_append.1 hi with hi | hi
  · exact hall i hi
  · rw [List.mem_singleton.1 hi]
    exact hP info hof

theorem PacketOut.canAttachAck_iff {po : PacketOut} {pktType : PktType} :
    po.canAttachAck pktType = true ↔
      po.pktType = pktType ∧ .ack ∉ po.poFrameTypes ∧ po.streamNoLen = false := by
  simp [PacketOut.canAttachAck, and_assoc]

theorem writeAckToPackets_content {e : ℕ} {P : Frame → Prop} {s : SendQueue} (params : PktParams)
    {ackDelay ackDelayExponent : ℕ}
    (hP : ∀ info, AckOf e (ackDelay / 2 ^ ackDelayExponent) s.recvRecord.ranges info → P (.ack info))
    (h : ContentInv e P s)
    (hwf : ackDelay / 2 ^ ackDelayExponent < 2 ^ 62) :
    ContentInv e P (writeAckToPackets s params ackDelay ackDelayExponent) := by
  have hackWf : AckWf ackDelay ackDelayExponent s.recvRecord.ranges := ⟨hwf, h.record⟩
  rcases writeAckToPackets_cases s params ackDelay ackDelayExponent with heq |
    ⟨id, po, htarget, hcan, hpo, heq⟩ | ⟨po₀, po, hpo₀, hpo, heq⟩
  · rw [heq]
    exact h
  · rw [heq]
    obtain ⟨p, -, hmem⟩ := mem_of_ackTarget htarget
    obtain ⟨-, hno, hopen⟩ := PacketOut.canAttachAck_iff.1 hcan
    obtain ⟨hsize, segs, hc, hack, -, hall⟩ := h.pkts id (h.fresh p id hmem)
    obtain ⟨hpkt, horigin⟩ := PktInv.writeAck hP hc hack hall hno hopen hsize hackWf hpo
    exact h.set hpkt horigin
  · rw [heq]
    obtain ⟨hc, hack, -, hsize, hopen, htypes, horig, -⟩ := newPacket_content e hpo₀
    obtain ⟨hpkt, horigin⟩ :=
      PktInv.writeAck hP hc hack (by simp) (by simp [htypes]) hopen hsize hackWf hpo
    exact h.insertNew hpkt fun _ => horigin.trans horig

/-! ## Runs -/

/-- The frame that an event may write has the property. -/
def SendEvent.Respects (P : Frame → Prop) : SendEvent → Prop
  | .stream _ _ streamId offset fin payload => ∀ n ≤ payload.length,
    P (.stream streamId offset (fin && n = payload.length) (payload.take n))
  | _ => True

/-- **Every event keeps the invariant.** -/
theorem ContentInv.step {e : ℕ} {P : Frame → Prop} {s : SendQueue} {ev : SendEvent}
    (hP : FrameClosed P) (h : ContentInv e P s) (hwf : ev.Wf) (hev : ev.Respects P) :
    ContentInv e P (s.step ev) := by
  cases hfills : ev.fills with
  | false => exact h.ctlSteps hP.control (step_ctl h.fresh hwf hfills)
  | true =>
      cases ev with
      | stream highPri params streamId offset fin payload =>
          rw [SendQueue.step]
          split
          · exact h
          · rename_i s' n hw
            have hn : n ≤ payload.length := by
              rcases writeStreamFrame_cases hw with ⟨_, _, _, hgen, _⟩ | ⟨_, _, _, hgen, _⟩
              · exact (genStreamFrame_frame hgen).1
              · exact (genStreamFrame_frame hgen).1
            exact writeStreamFrame_content hP.combine h hwf.1 hwf.2 (hev n hn) hw
      | ack params ackDelay ackDelayExponent =>
          exact writeAckToPackets_content params (fun info _ => hP.ack info) h hwf
      | _ => cases hfills

theorem ContentInv.run {e : ℕ} {P : Frame → Prop} {s : SendQueue} {evs : List SendEvent}
    (hP : FrameClosed P) (h : ContentInv e P s) (hwf : ∀ ev ∈ evs, ev.Wf ∧ ev.Respects P) :
    ContentInv e P (s.run evs) := by
  induction evs generalizing s with
  | nil => exact h
  | cons ev evs ih =>
      obtain ⟨hev, hevs⟩ := List.forall_mem_cons.1 hwf
      exact ih (h.step hP hev.1 hev.2) hevs

end Rquic

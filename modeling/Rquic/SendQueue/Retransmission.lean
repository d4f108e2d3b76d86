import Rquic.SendQueue.Content

set_option autoImplicit false

/-!
# What a retransmission carries

`rqc_packet_out_remove_ack_frame` cuts a copy off at `po_ack_offset`, so a frame that stands behind
the ACK frame is not retransmitted.

* `RetransmitsAll`: the copy of a packet has the frames of the packet, less its ACK frame.
* `AppendsBehindAck`: a STREAM write whose packet has an ACK frame already.
* **`allRetransmit_run_iff`**: every packet of a run is retransmitted whole just if no STREAM write of
  the run was of that kind.
-/

namespace Rquic

/-- The frames of a payload, less the ACK frames. -/
def nonAckFrames (e : ℕ) (payload : Bytes) : Except Errno (List Frame) :=
  (parseFrames e payload).map (List.filter (·.type ≠ .ack))

/-- The copies of the packet have its frames, less its ACK frame. -/
def RetransmitsAll (e : ℕ) (po : PacketOut) : Prop :=
  ∀ id copy, po.retransmission id = some copy →
    ∃ fs, nonAckFrames e po.payload = .ok fs ∧ nonAckFrames e copy.payload = .ok fs

/-- Every packet of the queue is retransmitted whole. -/
def AllRetransmit (e : ℕ) (s : SendQueue) : Prop := ∀ id < s.nextId, RetransmitsAll e (s.pkts id)

/-- The event is a STREAM write to a packet that has an ACK frame. -/
def AppendsBehindAck (s : SendQueue) : SendEvent → Prop
  | .stream highPri params streamId _ _ _ =>
    ∃ id, getPacketOutForStream s highPri params.pktType streamId = some id ∧
      .ack ∈ (s.pkts id).poFrameTypes
  | _ => False

/-! ## One packet -/

theorem Content.nonAckFrames {e : ℕ} {po : PacketOut} {segs : List Seg} (h : Content e po segs) :
    nonAckFrames e po.payload = .ok ((segs.map Prod.fst).filter (·.type ≠ .ack)) := by
  rw [Rquic.nonAckFrames, h.parseFrames]
  rfl

theorem filter_nonAck {segs : List Seg} (h : ∀ i ∈ segs, i.1.type ≠ .ack) :
    (segs.map Prod.fst).filter (·.type ≠ .ack) = segs.map Prod.fst := by
  rw [List.filter_eq_self]
  intro f hf
  obtain ⟨i, hi, rfl⟩ := List.mem_map.1 hf
  exact decide_eq_true (h i hi)

/-- A packet without an ACK frame is retransmitted as it is. -/
theorem retransmitsAll_of_no_ack {e : ℕ} {po : PacketOut} {segs : List Seg} (hc : Content e po segs)
    (hno : .ack ∉ po.poFrameTypes) : RetransmitsAll e po := by
  intro id copy hcopy
  have hpay : copy.payload = po.payload := by
    unfold PacketOut.retransmission at hcopy
    split_ifs at hcopy
    obtain rfl := Option.some.inj hcopy
    have hsame : (po.copy id).removeAckFrame = po.copy id := if_neg hno
    rw [hsame]
    rfl
  exact ⟨_, hc.nonAckFrames, hpay ▸ hc.nonAckFrames⟩

/-- A packet with an ACK frame is retransmitted whole just if the ACK frame is the last one. -/
theorem retransmitsAll_iff {e : ℕ} {po : PacketOut} {segs : List Seg} (hc : Content e po segs)
    (hack : AckPos po segs) (hin : .ack ∈ po.poFrameTypes) (hdatagram : .datagram ∉ po.poFrameTypes) :
    RetransmitsAll e po ↔ ∃ init info code, segs = init ++ [(.ack info, code)] := by
  -- every copy has the frames in front of the ACK frame
  have hcopy : ∀ id copy, po.retransmission id = some copy → ∃ pre post info code,
      segs = pre ++ (.ack info, code) :: post ∧ (∀ i ∈ pre ++ post, i.1.type ≠ .ack) ∧
      nonAckFrames e copy.payload = .ok (pre.map Prod.fst) ∧
      nonAckFrames e po.payload = .ok (pre.map Prod.fst ++ post.map Prod.fst) := by
    intro id copy h
    obtain ⟨pre, post, hc', -, ⟨hno, -⟩ | ⟨info, code, rfl, hno⟩⟩ := retransmission_content hc hack h
    · exact absurd hin hno
    · have hpre := filter_nonAck fun i hi => hno i (List.mem_append_left _ hi)
      have hpost := filter_nonAck fun i hi => hno i (List.mem_append_right _ hi)
      refine ⟨pre, post, info, code, rfl, hno, by rw [hc'.nonAckFrames, hpre], ?_⟩
      rw [hc.nonAckFrames, List.map_append, List.map_cons, List.filter_append, hpre,
        List.filter_cons_of_neg (by simp [Frame.type]), hpost]
  constructor
  · intro h
    have hsome : po.retransmission 0 = some _ := if_neg hdatagram
    obtain ⟨pre, post, info, code, hsegs, -, hcp, hpo⟩ := hcopy 0 _ hsome
    obtain ⟨fs, hfs, hfs'⟩ := h 0 _ hsome
    have heq : pre.map Prod.fst ++ post.map Prod.fst = pre.map Prod.fst :=
      (Except.ok.inj (hpo.symm.trans hfs)).trans (Except.ok.inj (hfs'.symm.trans hcp))
    have hnil : post = [] := by
      rw [← List.map_eq_nil_iff (f := Prod.fst)]
      exact List.append_right_eq_self.1 heq
    exact ⟨pre, info, code, by rw [hsegs, hnil]⟩
  · rintro ⟨init, info, code, hlast⟩ id copy h
    obtain ⟨pre, post, info', code', hsegs, hno, hcp, hpo⟩ := hcopy id copy h
    rcases List.eq_nil_or_concat post with rfl | ⟨post', last, rfl⟩
    · exact ⟨_, by simpa using hpo, hcp⟩
    · -- otherwise the ACK frame at the end would stand behind itself
      rw [List.concat_eq_append] at hno hsegs
      rw [hlast, ← List.cons_append, ← List.append_assoc] at hsegs
      obtain ⟨-, hcons⟩ := List.append_inj' hsegs rfl
      obtain ⟨rfl, -⟩ := List.cons.inj hcons
      exact absurd rfl (hno (.ack info, code) (by simp))

theorem retransmission_body (po : PacketOut) (id : PktId) :
    (po.body.retransmission id).map PacketOut.payload =
      (po.retransmission id).map PacketOut.payload := by
  by_cases hin : .ack ∈ po.poFrameTypes
  · simp [PacketOut.retransmission, PacketOut.removeAckFrame, PacketOut.copy, PacketOut.body,
      PacketOut.payload, hin, apply_ite]
  · simp [PacketOut.retransmission, PacketOut.removeAckFrame, PacketOut.copy, PacketOut.body,
      PacketOut.payload, hin, apply_ite]

theorem RetransmitsAll.of_body {e : ℕ} {po po' : PacketOut} (hbody : po'.body = po.body)
    (h : RetransmitsAll e po) : RetransmitsAll e po' := by
  intro id copy hcopy
  have hsame : (po.retransmission id).map PacketOut.payload = some copy.payload := by
    rw [← retransmission_body, ← hbody, retransmission_body, hcopy]
    rfl
  obtain ⟨copy₀, hcopy₀, hpay⟩ := Option.map_eq_some_iff.1 hsame
  obtain ⟨fs, hfs, hfs'⟩ := h id copy₀ hcopy₀
  have hpay' : po'.payload = po.payload := (congrArg PacketOut.payload hbody :)
  exact ⟨fs, hpay' ▸ hfs, hpay ▸ hfs'⟩

/-! ## The queue -/

theorem retransmission_no_ack {po copy : PacketOut} {id : PktId}
    (h : po.retransmission id = some copy) : .ack ∉ copy.poFrameTypes := by
  unfold PacketOut.retransmission PacketOut.removeAckFrame at h
  split_ifs at h with hdatagram hin
  · obtain rfl := Option.some.inj h
    exact Finset.notMem_erase _ _
  · obtain rfl := Option.some.inj h
    exact hin

theorem allRetransmit_insertNew {e : ℕ} {s : SendQueue} {p : Place} {po : PacketOut}
    (hpo : RetransmitsAll e po) : AllRetransmit e (s.insertNew p po) ↔ AllRetransmit e s := by
  constructor
  · intro h id hid
    have hnew := h id (Nat.lt_succ_of_lt hid)
    rwa [SendQueue.insertNew_pkts_of_ne _ _ _ hid.ne] at hnew
  · intro h id hid
    by_cases hnew : id = s.nextId
    · rw [hnew, SendQueue.insertNew_pkts_nextId]
      exact hpo
    · rw [SendQueue.insertNew_pkts_of_ne _ _ _ hnew]
      exact h id (lt_of_le_of_ne (Nat.le_of_lt_succ hid) hnew)

theorem allRetransmit_set {e : ℕ} {s : SendQueue} {id : PktId} {po : PacketOut} (hid : id < s.nextId)
    (hold : RetransmitsAll e (s.pkts id)) :
    AllRetransmit e (s.set id po) ↔ AllRetransmit e s ∧ RetransmitsAll e po := by
  constructor
  · intro h
    refine ⟨fun id' hid' => ?_, by simpa using h id hid⟩
    by_cases hne : id' = id
    · rw [hne]
      exact hold
    · have hkept := h id' hid'
      rwa [SendQueue.set_pkts_of_ne _ _ hne] at hkept
  · rintro ⟨h, hpo⟩ id' hid'
    by_cases hne : id' = id
    · rw [hne, SendQueue.set_pkts_self]
      exact hpo
    · rw [SendQueue.set_pkts_of_ne _ _ hne]
      exact h id' hid'

theorem allRetransmit_ctlStep {e : ℕ} {P : Frame → Prop} {s s' : SendQueue} (h : ContentInv e P s)
    (hstep : CtlStep s s') : AllRetransmit e s' ↔ AllRetransmit e s := by
  cases hstep with
  | mark pkts hbody =>
      exact ⟨fun hall id hid => (hall id hid).of_body (hbody id).symm,
        fun hall id hid => (hall id hid).of_body (hbody id)⟩
  | lists | socket | pn | record => exact Iff.rfl
  | copy p src copy hp hsrc hcopy =>
      obtain ⟨-, segs, hc, -⟩ := (h.pkts src hsrc).retransmission hcopy
      exact allRetransmit_insertNew (retransmitsAll_of_no_ack hc (retransmission_no_ack hcopy))
  | control p params c notify bufSize po hwf hpo =>
      obtain ⟨hc, -, -, -, htypes, -, -⟩ := controlPacket_content e hwf hpo
      refine allRetransmit_insertNew (retransmitsAll_of_no_ack hc ?_)
      rw [htypes, Finset.mem_singleton]
      exact c.frame_type_ne.2.symm

theorem allRetransmit_ctlSteps {e : ℕ} {P : Frame → Prop} {s s' : SendQueue}
    (hcontrol : ∀ c : ControlFrame, P c.frame) (h : ContentInv e P s) (hsteps : CtlSteps s s') :
    AllRetransmit e s' ↔ AllRetransmit e s := by
  induction hsteps with
  | refl => exact Iff.rfl
  | tail hpre hstep ih =>
      exact (allRetransmit_ctlStep (h.ctlSteps hcontrol hpre) hstep).trans ih

/-- A packet that gets its ACK frame now is retransmitted whole. -/
theorem retransmitsAll_writeAck {e : ℕ} {po po' : PacketOut} {segs : List Seg}
    {ackDelay ackDelayExponent : ℕ} {record : List PktnoRange} (hc : Content e po segs)
    (hack : AckPos po segs) (hno : .ack ∉ po.poFrameTypes) (hopen : po.streamNoLen = false)
    (hwf : AckWf ackDelay ackDelayExponent record)
    (h : writeAckToOnePacket po ackDelay ackDelayExponent record = .ok po') :
    RetransmitsAll e po' := by
  obtain ⟨info, code, -, hc', hack', -⟩ := writeAckToOnePacket_content hc hack hno hopen hwf h
  by_cases hdatagram : .datagram ∈ po'.poFrameTypes
  · intro id copy hcopy
    rw [PacketOut.retransmission, if_pos hdatagram] at hcopy
    cases hcopy
  · have htypes : po'.poFrameTypes = insert .ack po.poFrameTypes :=
      (congrArg PacketOut.poFrameTypes (writeAckToOnePacket_frame h) :)
    exact (retransmitsAll_iff hc' hack' (htypes ▸ Finset.mem_insert_self _ _) hdatagram).2
      ⟨segs, info, code, rfl⟩

theorem allRetransmit_ack {e : ℕ} {P : Frame → Prop} {s : SendQueue} (params : PktParams)
    {ackDelay ackDelayExponent : ℕ} (h : ContentInv e P s)
    (hwf : ackDelay / 2 ^ ackDelayExponent < 2 ^ 62) :
    AllRetransmit e (writeAckToPackets s params ackDelay ackDelayExponent) ↔ AllRetransmit e s := by
  have hackWf : AckWf ackDelay ackDelayExponent s.recvRecord.ranges := ⟨hwf, h.record⟩
  rcases writeAckToPackets_cases s params ackDelay ackDelayExponent with heq |
    ⟨id, po, htarget, hcan, hpo, heq⟩ | ⟨po₀, po, hpo₀, hpo, heq⟩
  · rw [heq]
  · rw [heq]
    obtain ⟨p, -, hmem⟩ := mem_of_ackTarget htarget
    obtain ⟨-, hno, hopen⟩ := PacketOut.canAttachAck_iff.1 hcan
    obtain ⟨-, segs, hc, hack, -⟩ := h.pkts id (h.fresh p id hmem)
    rw [allRetransmit_set (h.fresh p id hmem) (retransmitsAll_of_no_ack hc hno)]
    exact and_iff_left (retransmitsAll_writeAck hc hack hno hopen hackWf hpo)
  · rw [heq]
    obtain ⟨hc, hack, -, -, hopen, htypes, -⟩ := newPacket_content e hpo₀
    exact allRetransmit_insertNew
      (retransmitsAll_writeAck hc hack (by simp [htypes]) hopen hackWf hpo)

theorem genStreamFrame_ok {po : PacketOut} (streamId offset : ℕ) (fin : Bool) (payload : Bytes)
    (hslots : po.poStreamFrames.length < maxStreamFrameInPo) (hroom : streamNeed ≤ po.remainedSize) :
    ∃ po' n, genStreamFrame po streamId offset fin payload = .ok (po', n) := by
  have hids : (streamFrameIds streamId offset).length ≤ 16 := by
    have hid := length_vintBytes_le streamId
    have hoff := length_vintBytes_le offset
    unfold streamFrameIds
    split_ifs
    · rw [List.length_append, List.length_nil]
      omega
    · rw [List.length_append]
      omega
  have hneed : 50 ≤ po.remainedSize := hroom
  rw [genStreamFrame, if_neg (by omega)]
  split
  · exact ⟨_, _, rfl⟩
  · simp only [newStreamFrame]
    by_cases hfin : (fin && payload.isEmpty) = true
    · rw [if_pos hfin, if_neg (by split_ifs <;> omega)]
      exact ⟨_, _, rfl⟩
    · rw [if_neg hfin, if_neg (by omega)]
      exact ⟨_, _, rfl⟩

/-- Behind an ACK frame a STREAM frame is lost, elsewhere it is not. -/
theorem retransmitsAll_genStreamFrame {e : ℕ} {po po' : PacketOut} {segs : List Seg}
    {streamId offset n : ℕ} {fin : Bool} {payload : Bytes} (hc : Content e po segs)
    (hack : AckPos po segs) (hslot : SlotInv po segs) (hopen : po.streamNoLen = false)
    (hsize : po.poBufSize ≤ maxPacketOutSize)
    (hneed : po.poFrameTypes = ∅ ∨ streamNeed ≤ po.remainedSize)
    (hid : streamId < 2 ^ 62) (hoff : offset + payload.length < 2 ^ 62)
    (hdatagram : .datagram ∉ po.poFrameTypes)
    (h : genStreamFrame po streamId offset fin payload = .ok (po', n)) :
    RetransmitsAll e po' ↔ .ack ∉ po.poFrameTypes := by
  obtain ⟨hn, hframe⟩ := genStreamFrame_frame h
  have hneed' := hneed.imp_left fun hempty => hempty ▸ Finset.notMem_empty FrameType.ack
  obtain ⟨segs', hwritten, hc', -⟩ :=
    genStreamFrame_content hc hslot hopen hsize hneed' hid (by omega) h
  have htypes : po'.poFrameTypes = insert .stream po.poFrameTypes :=
    (congrArg PacketOut.poFrameTypes hframe :)
  have hack' : AckPos po' segs' :=
    hwritten.ackPos htypes (congrArg PacketOut.poAckOffset hframe :)
      (congrArg PacketOut.poPayload hframe :) (congrArg PacketOut.poLargestAck hframe :) hack
  constructor
  · intro hall hin
    have hin' : .ack ∈ po'.poFrameTypes := htypes ▸ Finset.mem_insert_of_mem hin
    have hdatagram' : .datagram ∉ po'.poFrameTypes := by simpa [htypes] using hdatagram
    obtain ⟨init, info, code, hlast⟩ := (retransmitsAll_iff hc' hack' hin' hdatagram').1 hall
    -- the last frame is the one that was written
    cases hwritten with
    | new _ code' =>
        obtain ⟨-, habs⟩ := List.append_inj' hlast rfl
        cases habs
    | combined pre offset₀ fin₀ data₀ code₀ code' _ =>
        obtain ⟨-, habs⟩ := List.append_inj' hlast rfl
        cases habs
  · intro hno
    exact retransmitsAll_of_no_ack hc' (by simpa [htypes] using hno)

theorem allRetransmit_stream {e : ℕ} {P : Frame → Prop} {s : SendQueue} {highPri : Bool}
    {params : PktParams} {streamId offset : ℕ} {fin : Bool} {payload : Bytes}
    (h : ContentInv e P s) (hwf : (SendEvent.stream highPri params streamId offset fin payload).Wf) :
    AllRetransmit e (s.step (.stream highPri params streamId offset fin payload)) ↔
      AllRetransmit e s ∧
        ¬ AppendsBehindAck s (.stream highPri params streamId offset fin payload) := by
  cases hget : getPacketOutForStream s highPri params.pktType streamId with
  | some id =>
      obtain ⟨hmem, hdatagram, hroom, hslots⟩ := getPacketOutForStream_some hget
      obtain ⟨hsize, segs, hc, hack, hslot, -⟩ := h.pkts id (h.fresh _ id hmem)
      have horig := h.originals _ (streamPlace_fillable highPri) id hmem
      obtain ⟨po, n, hgen⟩ := genStreamFrame_ok streamId offset fin payload hslots hroom
      have hstep : s.step (.stream highPri params streamId offset fin payload) = s.set id po := by
        simp only [SendQueue.step, writeStreamFrame, hget, hgen, ok_bind]
      have hpo := retransmitsAll_genStreamFrame hc hack (hslot horig) (hc.open_of_room hroom) hsize
        (.inr hroom) hwf.1 hwf.2 hdatagram hgen
      have hbehind : AppendsBehindAck s (.stream highPri params streamId offset fin payload) ↔
          .ack ∈ (s.pkts id).poFrameTypes := by
        simp [AppendsBehindAck, hget]
      rw [hstep, hbehind]
      by_cases hin : .ack ∈ (s.pkts id).poFrameTypes
      · refine iff_of_false (fun habs => ?_) fun habs => habs.2 hin
        have hall := habs id (h.fresh _ id hmem)
        rw [SendQueue.set_pkts_self] at hall
        exact hpo.1 hall hin
      · rw [allRetransmit_set (h.fresh _ id hmem) (retransmitsAll_of_no_ack hc hin), hpo]
  | none =>
      have hbehind : ¬ AppendsBehindAck s (.stream highPri params streamId offset fin payload) := by
        simp [AppendsBehindAck, hget]
      rw [and_iff_left hbehind, SendQueue.step]
      split
      · exact Iff.rfl
      · rename_i s' n hw
        rcases writeStreamFrame_cases hw with ⟨id, _, hget', _⟩ | ⟨po₀, po, hpo₀, hgen, rfl⟩
        · rw [hget] at hget'
          cases hget'
        · obtain ⟨hc, hack, hslot, hsize, hopen, htypes, -⟩ := newPacket_content e hpo₀
          exact allRetransmit_insertNew ((retransmitsAll_genStreamFrame hc hack hslot hopen hsize
            (.inl htypes) hwf.1 hwf.2 (by simp [htypes]) hgen).2 (by simp [htypes]))

theorem allRetransmit_step {e : ℕ} {P : Frame → Prop} {s : SendQueue} {ev : SendEvent}
    (hcontrol : ∀ c : ControlFrame, P c.frame) (h : ContentInv e P s) (hwf : ev.Wf) :
    AllRetransmit e (s.step ev) ↔ AllRetransmit e s ∧ ¬ AppendsBehindAck s ev := by
  cases hfills : ev.fills with
  | false =>
      have hbehind : ¬ AppendsBehindAck s ev := by
        cases ev <;> first | exact not_false | cases hfills
      rw [and_iff_left hbehind]
      exact allRetransmit_ctlSteps hcontrol h (step_ctl h.fresh hwf hfills)
  | true =>
      cases ev with
      | stream => exact allRetransmit_stream h hwf
      | ack params ackDelay ackDelayExponent =>
          rw [and_iff_left (show ¬ AppendsBehindAck s (.ack params ackDelay ackDelayExponent) from id)]
          exact allRetransmit_ack params h hwf
      | _ => cases hfills

theorem allRetransmit_run {e : ℕ} {s : SendQueue} {evs : List SendEvent}
    (h : ContentInv e (fun _ => True) s) (hwf : ∀ ev ∈ evs, ev.Wf) :
    AllRetransmit e (s.run evs) ↔ AllRetransmit e s ∧
      ∀ pre ev post, evs = pre ++ ev :: post → ¬ AppendsBehindAck (s.run pre) ev := by
  induction evs generalizing s with
  | nil => simp [SendQueue.run]
  | cons ev evs ih =>
      obtain ⟨hev, hevs⟩ := List.forall_mem_cons.1 hwf
      have hrespects : ev.Respects fun _ => True := by
        cases ev <;> first | exact trivial | exact fun _ _ => trivial
      have hstep := h.step frameClosed_true hev hrespects
      rw [show s.run (ev :: evs) = (s.step ev).run evs from rfl, ih hstep hevs,
        allRetransmit_step (fun _ => trivial) h hev, and_assoc]
      refine and_congr_right fun _ => ⟨?_, ?_⟩
      · rintro ⟨hfirst, hrest⟩ pre ev' post heq
        cases pre with
        | nil =>
            obtain ⟨rfl, -⟩ := List.cons.inj heq
            exact hfirst
        | cons ev₀ pre =>
            obtain ⟨rfl, rfl⟩ := List.cons.inj heq
            exact hrest pre ev' post rfl
      · intro hall
        refine ⟨hall [] ev evs rfl, fun pre ev' post heq => ?_⟩
        exact hall (ev :: pre) ev' post (by rw [heq, List.cons_append])

/-- **Retransmissions carry everything but the ACK just if nothing is written behind an ACK.** -/
theorem allRetransmit_run_iff (e : ℕ) (evs : List SendEvent) (hwf : ∀ ev ∈ evs, ev.Wf) :
    AllRetransmit e (SendQueue.run {} evs) ↔
      ∀ pre ev post, evs = pre ++ ev :: post → ¬ AppendsBehindAck (SendQueue.run {} pre) ev := by
  rw [allRetransmit_run (contentInv_init e _) hwf]
  exact and_iff_right fun id hid => absurd hid (Nat.not_lt_zero id)

/-! ## A frame that is lost -/

/-- A STREAM frame waits in the queue and gets an ACK frame. -/
def streamAck : List SendEvent :=
  [.stream false demoParams 0 0 false [1, 2, 3], .recvPacket 0, .ack demoParams 0 0]

/-- Then more of the stream is written. -/
def streamAckStream : List SendEvent := streamAck ++ [.stream false demoParams 0 3 false [4, 5]]

theorem streamAck_wf : ∀ ev ∈ streamAck, ev.Wf := by
  simp [streamAck, SendEvent.Wf]

theorem allRetransmit_streamAck :
    (∀ ev ∈ streamAck, ev.Wf) ∧ AllRetransmit 3 (SendQueue.run {} streamAck) := by
  refine ⟨streamAck_wf, (allRetransmit_run_iff 3 streamAck streamAck_wf).2 fun pre ev post heq => ?_⟩
  rcases pre with _ | ⟨ev₀, _ | ⟨ev₁, _ | ⟨ev₂, pre⟩⟩⟩
  · -- the queue is empty at the STREAM write
    obtain ⟨rfl, -⟩ := List.cons.inj heq
    rintro ⟨id, hget, -⟩
    cases hget
  · obtain ⟨rfl, -⟩ := List.cons.inj (List.cons.inj heq).2
    exact id
  · obtain ⟨rfl, -⟩ := List.cons.inj (List.cons.inj (List.cons.inj heq).2).2
    exact id
  · have hlen := congrArg List.length heq
    simp only [streamAck, List.length_cons, List.length_nil, List.length_append] at hlen
    omega

theorem not_allRetransmit_streamAckStream :
    (∀ ev ∈ streamAckStream, ev.Wf) ∧ ¬ AllRetransmit 3 (SendQueue.run {} streamAckStream) := by
  constructor
  · simp [streamAckStream, streamAck, SendEvent.Wf]
  · intro h
    obtain ⟨fs, hfs, hfs'⟩ := h 0 (by decide +kernel) 0 _ rfl
    have hall : nonAckFrames 3 ((SendQueue.run {} streamAckStream).pkts 0).payload =
        .ok [.stream 0 0 false [1, 2, 3], .stream 0 3 false [4, 5]] := by decide +kernel
    have hcut : ∀ copy, ((SendQueue.run {} streamAckStream).pkts 0).retransmission 0 = some copy →
        nonAckFrames 3 copy.payload = .ok [.stream 0 0 false [1, 2, 3]] := by
      have hval : (((SendQueue.run {} streamAckStream).pkts 0).retransmission 0).map
          (fun copy => nonAckFrames 3 copy.payload) = some (.ok [.stream 0 0 false [1, 2, 3]]) := by
        decide +kernel
      intro copy hcopy
      rw [hcopy] at hval
      exact Option.some.inj hval
    have heq := (hall.symm.trans hfs).trans (hfs'.symm.trans (hcut _ rfl))
    cases heq

end Rquic

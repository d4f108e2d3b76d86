import Rquic.SendQueue.Drop
import Rquic.SendQueue.Retransmission

set_option autoImplicit false

/-!
# Where the bytes of a stream are

Every byte that was written to a stream is in a STREAM frame of some original, and the copies of that
packet have it too, as long as no STREAM frame is written behind an ACK frame.

* `HoldsByte`: a payload has a byte of a stream; `Packed`: an original of the queue has it.
* `CopiesHold`: copies have the bytes of their originals.
* **`CopiesHold.step`**, **`Packed.step`**: every event keeps them.
* **`packed_of_write`**: a STREAM write packs what it writes.
-/

namespace Rquic

/-- A STREAM frame of the payload has the byte `i` of the stream. -/
def HoldsByte (e : ℕ) (payload : Bytes) (streamId : StreamId) (i : ℕ) : Prop :=
  ∃ fs, parseFrames e payload = .ok fs ∧ ∃ offset fin data,
    Frame.stream streamId offset fin data ∈ fs ∧ offset ≤ i ∧ i < offset + data.length

/-- An original of the queue has the byte. -/
def Packed (e : ℕ) (s : SendQueue) (streamId : StreamId) (i : ℕ) : Prop :=
  ∃ m < s.nextId, (s.pkts m).poOrigin = none ∧ .stream ∈ (s.pkts m).poFrameTypes ∧
    HoldsByte e (s.pkts m).payload streamId i

/-- Copies have the bytes of their originals. -/
def CopiesHold (e : ℕ) (s : SendQueue) : Prop :=
  ∀ m < s.nextId, ∀ origin, (s.pkts m).poOrigin = some origin → origin < s.nextId ∧
    ∀ streamId i, HoldsByte e (s.pkts origin).payload streamId i →
      HoldsByte e (s.pkts m).payload streamId i

section

variable {e : ℕ} {s s' : SendQueue} {po po' : PacketOut} {segs : List Seg} {streamId : StreamId} {i : ℕ}

/-! ## One packet -/

theorem Content.holdsByte_iff (hc : Content e po segs) : HoldsByte e po.payload streamId i ↔
    ∃ offset fin data code, (Frame.stream streamId offset fin data, code) ∈ segs ∧ offset ≤ i ∧
      i < offset + data.length := by
  constructor
  · rintro ⟨fs, hfs, offset, fin, data, hmem, hi⟩
    obtain rfl := Except.ok.inj (hfs.symm.trans hc.parseFrames)
    obtain ⟨⟨f, code⟩, hseg, rfl⟩ := List.mem_map.1 hmem
    exact ⟨offset, fin, data, code, hseg, hi⟩
  · rintro ⟨offset, fin, data, code, hseg, hi⟩
    exact ⟨_, hc.parseFrames, offset, fin, data, List.mem_map_of_mem hseg, hi⟩

/-- A STREAM write leaves the bytes that are there, and its own are there then. -/
theorem StreamWritten.holds {streamId' offset : ℕ} {fin : Bool} {data : Bytes} {segs' : List Seg}
    (h : StreamWritten streamId' offset fin data segs segs') (hc : Content e po segs)
    (hc' : Content e po' segs') :
    (∀ streamId i, HoldsByte e po.payload streamId i → HoldsByte e po'.payload streamId i) ∧
      ∀ i, offset ≤ i → i < offset + data.length → HoldsByte e po'.payload streamId' i := by
  simp only [hc.holdsByte_iff, hc'.holdsByte_iff]
  cases h with
  | new _ code =>
      refine ⟨?_, fun i hlow hhigh => ?_⟩
      · rintro streamId i ⟨offset, fin, data, code, hseg, hi⟩
        exact ⟨offset, fin, data, code, List.mem_append_left _ hseg, hi⟩
      · exact ⟨offset, fin, data, code, List.mem_append_right _ List.mem_cons_self, hlow, hhigh⟩
  | combined pre offset₀ fin₀ data₀ code₀ code hoff =>
      refine ⟨?_, fun i hlow hhigh => ?_⟩
      · rintro streamId i ⟨offset, fin', data', code', hseg, hlow, hhigh⟩
        rcases List.mem_append.1 hseg with hseg | hseg
        · exact ⟨offset, fin', data', code', List.mem_append_left _ hseg, hlow, hhigh⟩
        · -- the frame that grows
          obtain ⟨hframe, -⟩ := Prod.mk.inj (List.mem_singleton.1 hseg)
          obtain ⟨rfl, rfl, rfl, rfl⟩ := Frame.stream.inj hframe
          refine ⟨_, _, _, code, List.mem_append_right _ List.mem_cons_self, hlow, ?_⟩
          rw [List.length_append]
          omega
      · refine ⟨_, _, _, code, List.mem_append_right _ List.mem_cons_self, by omega, ?_⟩
        rw [List.length_append]
        omega

theorem PktInv.genStreamFrame_holds {streamId offset n : ℕ} {fin : Bool} {payload : Bytes}
    (hpkt : PktInv e (fun _ => True) po) (horigin : po.poOrigin = none) (hopen : po.streamNoLen = false)
    (hneed : po.poFrameTypes = ∅ ∨ streamNeed ≤ po.remainedSize)
    (hid : streamId < 2 ^ 62) (hoff : offset + payload.length < 2 ^ 62)
    (h : Rquic.genStreamFrame po streamId offset fin payload = .ok (po', n)) :
    (∀ streamId i, HoldsByte e po.payload streamId i → HoldsByte e po'.payload streamId i) ∧
      (∀ i, offset ≤ i → i < offset + n → HoldsByte e po'.payload streamId i) ∧
      po'.poFrameTypes = insert .stream po.poFrameTypes ∧ po'.poOrigin = none := by
  obtain ⟨hsize, segs, hc, -, hslot, -⟩ := hpkt
  obtain ⟨hn, hframe⟩ := genStreamFrame_frame h
  have hneed' := hneed.imp_left fun hempty => hempty ▸ Finset.notMem_empty FrameType.ack
  obtain ⟨segs', hwritten, hc', -⟩ :=
    genStreamFrame_content hc (hslot horigin) hopen hsize hneed' hid (by omega) h
  obtain ⟨hold, hnew⟩ := hwritten.holds hc hc'
  rw [List.length_take_of_le hn] at hnew
  exact ⟨hold, hnew, (congrArg PacketOut.poFrameTypes hframe :),
    (congrArg PacketOut.poOrigin hframe :).trans horigin⟩

theorem PktInv.writeAck_holds {ackDelay ackDelayExponent : ℕ} {record : List PktnoRange}
    (hpkt : PktInv e (fun _ => True) po) (hno : .ack ∉ po.poFrameTypes) (hopen : po.streamNoLen = false)
    (hwf : AckWf ackDelay ackDelayExponent record)
    (h : writeAckToOnePacket po ackDelay ackDelayExponent record = .ok po') :
    HoldsByte e po.payload streamId i → HoldsByte e po'.payload streamId i := by
  obtain ⟨-, segs, hc, hack, -, -⟩ := hpkt
  obtain ⟨info, code, -, hc', -, -⟩ := writeAckToOnePacket_content hc hack hno hopen hwf h
  rw [hc.holdsByte_iff, hc'.holdsByte_iff]
  rintro ⟨offset, fin, data, code', hseg, hi⟩
  exact ⟨offset, fin, data, code', List.mem_append_left _ hseg, hi⟩

theorem RetransmitsAll.holdsByte (h : RetransmitsAll e po) {id : PktId} {copy : PacketOut}
    (hcopy : po.retransmission id = some copy) (hb : HoldsByte e po.payload streamId i) :
    HoldsByte e copy.payload streamId i := by
  obtain ⟨fs, hfs, offset, fin, data, hmem, hi⟩ := hb
  obtain ⟨gs, hgs, hgs'⟩ := h id copy hcopy
  rw [nonAckFrames, hfs] at hgs
  obtain rfl := Except.ok.inj hgs
  unfold nonAckFrames at hgs'
  cases hparse : parseFrames e copy.payload with
  | error err =>
      rw [hparse] at hgs'
      cases hgs'
  | ok fs' =>
      rw [hparse] at hgs'
      have heq : fs'.filter (·.type ≠ .ack) = fs.filter (·.type ≠ .ack) := Except.ok.inj hgs'
      have hkept : Frame.stream streamId offset fin data ∈ fs'.filter (·.type ≠ .ack) := by
        rw [heq]
        exact List.mem_filter.2 ⟨hmem, rfl⟩
      exact ⟨fs', hparse, offset, fin, data, (List.mem_filter.1 hkept).1, hi⟩

/-! ## Copies -/

theorem copiesHold_init (e : ℕ) : CopiesHold e {} := fun _ hm => by cases hm

theorem CopiesHold.insertNew (h : CopiesHold e s) {p : Place}
    (hpo : ∀ origin, po.poOrigin = some origin → origin < s.nextId ∧
      ∀ streamId i, HoldsByte e (s.pkts origin).payload streamId i → HoldsByte e po.payload streamId i) :
    CopiesHold e (s.insertNew p po) := by
  intro m hm origin horigin
  have hold : ∀ id < s.nextId, (s.insertNew p po).pkts id = s.pkts id :=
    fun id hid => SendQueue.insertNew_pkts_of_ne _ _ _ hid.ne
  rcases Nat.lt_succ_iff_lt_or_eq.1 hm with hm | rfl
  · rw [hold m hm] at horigin ⊢
    obtain ⟨hlt, hbytes⟩ := h m hm origin horigin
    rw [hold origin hlt]
    exact ⟨Nat.lt_succ_of_lt hlt, hbytes⟩
  · rw [SendQueue.insertNew_pkts_nextId] at horigin ⊢
    obtain ⟨hlt, hbytes⟩ := hpo origin horigin
    rw [hold origin hlt]
    exact ⟨Nat.lt_succ_of_lt hlt, hbytes⟩

theorem CopiesHold.set (h : CopiesHold e s) {id : PktId} (horigin : po.poOrigin = none)
    (hno : ∀ m < s.nextId, (s.pkts m).poOrigin ≠ some id) : CopiesHold e (s.set id po) := by
  intro m hm origin ho
  have hne : m ≠ id := by
    rintro rfl
    rw [SendQueue.set_pkts_self, horigin] at ho
    cases ho
  rw [SendQueue.set_pkts_of_ne _ _ hne] at ho ⊢
  rw [SendQueue.set_pkts_of_ne]
  · exact h m hm origin ho
  · rintro rfl
    exact hno m hm ho

theorem QueueInv.no_copies (h : QueueInv e s) {p : Place} (hp : p.fillable = true) {id : PktId}
    (hid : id ∈ s.lists p) : ∀ m < s.nextId, (s.pkts m).poOrigin ≠ some id :=
  fun m hm ho => (h.family m hm id ho).sent ⟨p, Place.ne_unacked hp, hid⟩

theorem CopiesHold.ctlStep (h : CopiesHold e s) (hall : AllRetransmit e s) (hstep : CtlStep s s') :
    CopiesHold e s' := by
  cases hstep with
  | mark pkts hbody =>
      have hpay : ∀ id, (pkts id).payload = (s.pkts id).payload :=
        fun id => (congrArg PacketOut.payload (hbody id) :)
      intro m hm origin ho
      obtain ⟨hlt, hbytes⟩ := h m hm origin ((congrArg PacketOut.poOrigin (hbody m) :).symm.trans ho)
      refine ⟨hlt, fun streamId i => ?_⟩
      dsimp only
      rw [hpay, hpay]
      exact hbytes streamId i
  | copy p src copy hp hsrc hcopy =>
      refine h.insertNew fun origin ho => ?_
      rw [(retransmission_fields hcopy).2.1] at ho
      obtain rfl := Option.some.inj ho
      have hbytes : ∀ streamId i, HoldsByte e (s.pkts src).payload streamId i →
          HoldsByte e copy.payload streamId i := fun _ _ => (hall src hsrc).holdsByte hcopy
      cases hsrcOrigin : (s.pkts src).poOrigin with
      | none => exact ⟨hsrc, hbytes⟩
      | some origin =>
          obtain ⟨hlt, hown⟩ := h src hsrc origin hsrcOrigin
          exact ⟨hlt, fun streamId i hb => hbytes streamId i (hown streamId i hb)⟩
  | control p params c notify bufSize po hwf hpo =>
      obtain ⟨-, -, -, -, -, horigin, -⟩ := controlPacket_content e hwf hpo
      refine h.insertNew fun origin ho => ?_
      rw [horigin] at ho
      cases ho
  | lists | socket | pn | record => exact h

theorem CopiesHold.ctlSteps (h : CopiesHold e s) (hc : ContentInv e (fun _ => True) s)
    (hall : AllRetransmit e s) (hsteps : CtlSteps s s') : CopiesHold e s' := by
  induction hsteps with
  | refl => exact h
  | tail hpre hstep ih =>
      exact ih.ctlStep ((allRetransmit_ctlSteps (fun _ => trivial) hc hpre).2 hall) hstep

/-- **Every event keeps the bytes in the copies.** -/
theorem CopiesHold.step (h : CopiesHold e s) (hq : QueueInv e s) (hc : ContentInv e (fun _ => True) s)
    (hall : AllRetransmit e s) {ev : SendEvent} (hwf : ev.Wf) : CopiesHold e (s.step ev) := by
  cases hfills : ev.fills with
  | false => exact h.ctlSteps hc hall (step_ctl hc.fresh hwf hfills)
  | true =>
      cases ev with
      | stream highPri params streamId offset fin payload =>
          rw [SendQueue.step]
          split
          · exact h
          · rename_i s' n hw
            rcases writeStreamFrame_cases hw with ⟨id, po, hget, hgen, rfl⟩ | ⟨po₀, po, hpo₀, hgen, rfl⟩
            · have hmem := (getPacketOutForStream_some hget).1
              have hfill := streamPlace_fillable highPri
              refine h.set ?_ (hq.no_copies hfill hmem)
              exact (congrArg PacketOut.poOrigin (genStreamFrame_frame hgen).2 :).trans
                (hc.originals _ hfill id hmem)
            · obtain ⟨-, -, -, -, -, -, horigin, -⟩ := newPacket_content e hpo₀
              refine h.insertNew fun origin ho => ?_
              rw [(congrArg PacketOut.poOrigin (genStreamFrame_frame hgen).2 :), horigin] at ho
              cases ho
      | ack params ackDelay ackDelayExponent =>
          rw [SendQueue.step]
          rcases writeAckToPackets_cases s params ackDelay ackDelayExponent with heq |
            ⟨id, po, htarget, -, hpo, heq⟩ | ⟨po₀, po, hpo₀, hpo, heq⟩
          · rw [heq]
            exact h
          · rw [heq]
            obtain ⟨p, hp, hmem⟩ := mem_of_ackTarget htarget
            refine h.set ?_ (hq.no_copies hp hmem)
            exact (congrArg PacketOut.poOrigin (writeAckToOnePacket_frame hpo) :).trans
              (hc.originals p hp id hmem)
          · rw [heq]
            obtain ⟨-, -, -, -, -, -, horigin, -⟩ := newPacket_content e hpo₀
            refine h.insertNew fun origin ho => ?_
            rw [(congrArg PacketOut.poOrigin (writeAckToOnePacket_frame hpo) :), horigin] at ho
            cases ho
      | _ => cases hfills

/-! ## Originals -/

theorem Packed.insertNew (h : Packed e s streamId i) (p : Place) (po : PacketOut) :
    Packed e (s.insertNew p po) streamId i := by
  obtain ⟨m, hm, hrest⟩ := h
  refine ⟨m, Nat.lt_succ_of_lt hm, ?_⟩
  rw [SendQueue.insertNew_pkts_of_ne _ _ _ hm.ne]
  exact hrest

theorem Packed.set (h : Packed e s streamId i) {id : PktId} (horigin : po.poOrigin = (s.pkts id).poOrigin)
    (htypes : .stream ∈ (s.pkts id).poFrameTypes → .stream ∈ po.poFrameTypes)
    (hbytes : HoldsByte e (s.pkts id).payload streamId i → HoldsByte e po.payload streamId i) :
    Packed e (s.set id po) streamId i := by
  obtain ⟨m, hm, ho, htype, hb⟩ := h
  refine ⟨m, hm, ?_⟩
  by_cases hne : m = id
  · subst hne
    rw [SendQueue.set_pkts_self]
    exact ⟨horigin.trans ho, htypes htype, hbytes hb⟩
  · rw [SendQueue.set_pkts_of_ne _ _ hne]
    exact ⟨ho, htype, hb⟩

/-- **A STREAM write leaves what is packed, and packs what it writes.** -/
theorem packed_of_write {highPri : Bool} {params : PktParams} {streamId offset n : ℕ} {fin : Bool}
    {payload : Bytes} (hc : ContentInv e (fun _ => True) s) (hid : streamId < 2 ^ 62)
    (hoff : offset + payload.length < 2 ^ 62)
    (hw : writeStreamFrame s highPri params streamId offset fin payload = .ok (s', n)) :
    (∀ streamId i, Packed e s streamId i → Packed e s' streamId i) ∧
      ∀ i, offset ≤ i → i < offset + n → Packed e s' streamId i := by
  rcases writeStreamFrame_cases hw with ⟨id, po, hget, hgen, rfl⟩ | ⟨po₀, po, hpo₀, hgen, rfl⟩
  · obtain ⟨hmem, -, hroom, -⟩ := getPacketOutForStream_some hget
    have hlt := hc.fresh _ id hmem
    have horig := hc.originals _ (streamPlace_fillable highPri) id hmem
    have hpkt := hc.pkts id hlt
    obtain ⟨-, segs, hcontent, -⟩ := hc.pkts id hlt
    obtain ⟨hold, hnew, htypes, horigin⟩ := hpkt.genStreamFrame_holds horig
      (hcontent.open_of_room hroom) (.inr hroom) hid hoff hgen
    have hstream : .stream ∈ po.poFrameTypes := htypes ▸ Finset.mem_insert_self _ _
    refine ⟨fun streamId i hp => ?_, fun i hlow hhigh => ⟨id, hlt, ?_⟩⟩
    · exact hp.set (horigin.trans horig.symm) (fun _ => hstream) (hold streamId i)
    · rw [SendQueue.set_pkts_self]
      exact ⟨horigin, hstream, hnew i hlow hhigh⟩
  · obtain ⟨hcontent, hack, hslot, hsize, hopen, htypes₀, horig, -⟩ := newPacket_content e hpo₀
    have hpkt : PktInv e (fun _ => True) po₀ :=
      ⟨hsize, _, hcontent, hack, fun _ => hslot, fun _ _ => trivial⟩
    obtain ⟨-, hnew, htypes, horigin⟩ :=
      hpkt.genStreamFrame_holds horig hopen (.inl htypes₀) hid hoff hgen
    refine ⟨fun streamId i hp => hp.insertNew _ _, fun i hlow hhigh => ?_⟩
    refine ⟨s.nextId, Nat.lt_succ_self _, ?_⟩
    rw [SendQueue.insertNew_pkts_nextId]
    exact ⟨horigin, htypes ▸ Finset.mem_insert_self _ _, hnew i hlow hhigh⟩

/-- **Every event keeps what is packed.** -/
theorem Packed.step (h : Packed e s streamId i) (hc : ContentInv e (fun _ => True) s) {ev : SendEvent}
    (hwf : ev.Wf) : Packed e (s.step ev) streamId i := by
  cases hfills : ev.fills with
  | false =>
      have hsteps := step_ctl hc.fresh hwf hfills
      obtain ⟨m, hm, ho, htype, hb⟩ := h
      have hbody := CtlSteps.body hsteps hm
      refine ⟨m, hm.trans_le (CtlSteps.nextId_le hsteps), ?_, ?_, ?_⟩
      · exact (congrArg PacketOut.poOrigin hbody :).trans ho
      · exact (congrArg PacketOut.poFrameTypes hbody :) ▸ htype
      · exact (congrArg PacketOut.payload hbody :) ▸ hb
  | true =>
      cases ev with
      | stream highPri params streamId' offset fin payload =>
          rw [SendQueue.step]
          split
          · exact h
          · rename_i s' n hw
            exact (packed_of_write hc hwf.1 hwf.2 hw).1 streamId i h
      | ack params ackDelay ackDelayExponent =>
          have hackWf : AckWf ackDelay ackDelayExponent s.recvRecord.ranges := ⟨hwf, hc.record⟩
          rw [SendQueue.step]
          rcases writeAckToPackets_cases s params ackDelay ackDelayExponent with heq |
            ⟨id, po, htarget, hcan, hpo, heq⟩ | ⟨po₀, po, hpo₀, hpo, heq⟩
          · rw [heq]
            exact h
          · rw [heq]
            obtain ⟨p, -, hmem⟩ := mem_of_ackTarget htarget
            obtain ⟨-, hno, hopen⟩ := PacketOut.canAttachAck_iff.1 hcan
            have hframe := writeAckToOnePacket_frame hpo
            refine h.set (congrArg PacketOut.poOrigin hframe :) (fun hin => ?_)
              ((hc.pkts id (hc.fresh p id hmem)).writeAck_holds hno hopen hackWf hpo)
            rw [(congrArg PacketOut.poFrameTypes hframe :)]
            exact Finset.mem_insert_of_mem hin
          · rw [heq]
            exact h.insertNew _ _
      | _ => cases hfills

end

end Rquic

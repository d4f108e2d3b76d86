import Rquic.AckFrame
import Rquic.SendQueue.PnRecovery

set_option autoImplicit false

/-!
# ACK frames say what was recorded

The ranges of an ACK frame are those of the record when it is written, and the record holds only packet
numbers that were received. So every number that an ACK frame of the queue acknowledges was received,
however old the frame is and however often it was copied.

* `RecvRecord.Of`: the record holds numbers of a set.
* `AckOf.ranges_eq`: below `2 ^ 32` the frame comes back with the ranges of the record.
* `Frame.Honest`, `HonestInv`: the ACK frames of a queue acknowledge numbers of a set.
* **`HonestInv.step`**: every event keeps it, if the packets that are received have such numbers.
-/

namespace Rquic

/-! ## Records -/

/-- The record, as its calls keep it, holds numbers of `R` only. -/
def RecvRecord.Of (R : Set ℕ) (record : RecvRecord) : Prop :=
  ∃ r : RecvNodes, r.Inv ∧ r.toRecvRecord = record ∧ PktnoRange.Held record.ranges ⊆ R

section

variable {R R' : Set ℕ} {record : RecvRecord}

theorem RecvRecord.of_init (R : Set ℕ) : RecvRecord.Of R {} :=
  ⟨{}, .init, rfl, fun n ⟨_, hr, _⟩ => by cases hr⟩

theorem RecvRecord.Of.mono (hR : R ⊆ R') (h : record.Of R) : record.Of R' := by
  obtain ⟨r, hr, heq, hheld⟩ := h
  exact ⟨r, hr, heq, hheld.trans hR⟩

theorem RefRecord.add_subset (s : RefRecord) (n : ℕ) : (s.add n).members ⊆ insert n s.members := by
  unfold RefRecord.add
  dsimp only
  split_ifs
  · exact fun m hm => hm.1
  · exact subset_rfl

theorem RecvRecord.Of.add (h : record.Of R) {n : ℕ} (hn : n ∈ R) (hlt : n < 2 ^ 62) :
    (recvRecordAdd record n).1.Of R := by
  obtain ⟨r, hr, rfl, hheld⟩ := h
  have heq : (r.add n).1.toRecvRecord = (recvRecordAdd r.toRecvRecord n).1 :=
    congrArg Prod.fst (hr.add_toRecvRecord hlt)
  have hmembers : PktnoRange.Held (r.add n).1.ranges = (r.ref.add n).members :=
    congrArg RefRecord.members (hr.add hlt).2.1
  refine ⟨_, (hr.add hlt).1, heq, ?_⟩
  rw [← heq, hmembers]
  exact (RefRecord.add_subset _ _).trans (Set.insert_subset hn hheld)

theorem RecvRecord.Of.del (h : record.Of R) (d : ℕ) : (recvRecordDel record d).Of R := by
  obtain ⟨r, hr, rfl, hheld⟩ := h
  obtain ⟨hinv, href⟩ := hr.del d
  have hmembers : PktnoRange.Held (r.del d).ranges = (r.ref.del d).members :=
    congrArg RefRecord.members href
  refine ⟨_, hinv, hr.del_toRecvRecord d, ?_⟩
  rw [← hr.del_toRecvRecord, hmembers]
  unfold RefRecord.del
  split_ifs
  · exact hheld
  · exact fun n hn => hheld hn.1

theorem RecvRecord.Of.high_mem (h : record.Of R) : ∀ r ∈ record.ranges, r.low ≤ r.high ∧ r.high ∈ R := by
  obtain ⟨r, hr, rfl, hheld⟩ := h
  intro a ha
  have hle := hr.sep.le a ha
  exact ⟨hle, hheld ⟨a, ha, hle, le_rfl⟩⟩

theorem RecvRecord.Of.recordWf (h : record.Of R) (hne : record.ranges ≠ []) : RecordWf record.ranges := by
  obtain ⟨r, hr, rfl, -⟩ := h
  exact ⟨hne, hr.cap, hr.sep, hr.below⟩

theorem RecvRecord.Of.narrow (h : record.Of R) (hR : ∀ n ∈ R, n < 2 ^ 32) : Narrow record.ranges := by
  have hlt : ∀ r ∈ record.ranges, r.low ≤ r.high ∧ r.high < 2 ^ 32 :=
    fun r hr => ⟨(h.high_mem r hr).1, hR _ (h.high_mem r hr).2⟩
  constructor
  · intro r hr
    have := hlt r hr
    omega
  · refine List.Pairwise.isChain (List.pairwise_of_forall_mem_list fun r hr r' _ => ?_)
    have := hlt r hr
    omega

end

/-! ## One frame -/

theorem ranges_ackPairs {first : PktnoRange} {rs : List PktnoRange} (hrec : RecordWf (first :: rs))
    (hnarrow : Narrow (first :: rs)) (ackDelay : ℕ) :
    AckWire.ranges ⟨0x02, first.high, ackDelay, u64Sub first.high first.low % 2 ^ 32,
      ackPairs first.low (rs.take (maxAckRangeCnt - 1))⟩ = first :: rs := by
  obtain ⟨hle, hbelow, hsep⟩ := separated_cons.1 hrec.sep
  have hfirst := hrec.lt first List.mem_cons_self
  obtain ⟨hrange, hhead, hrest⟩ := narrow_cons.1 hnarrow
  have hstored : rs.take (maxAckRangeCnt - 1) = rs := by
    have hlen := hrec.length_le
    rw [List.length_cons] at hlen
    exact List.take_of_length_le (by omega)
  have hlow := (low_ackPair hle hfirst).2 hrange
  have hback := (rangesOf_ackPairs (by omega : first.low < 2 ^ 62) hsep hbelow).2 ⟨hhead, hrest⟩
  unfold AckWire.ranges AckWire.stored
  dsimp only
  rw [hlow, hstored, List.take_of_length_le, hback]
  rw [length_ackPairs, ← hstored, List.length_take]
  exact min_le_left _ _

theorem parseFrame_ackCode (e ackDelay : ℕ) (first : PktnoRange) (rs : List PktnoRange) (rest : Bytes) :
    parseFrame e (ackCode ackDelay first rs ++ rest) =
      parseAckFrame e (ackCode ackDelay first rs ++ rest) := by
  simp [ackCode, parseFrame, vintRead_of_lt]

/-- **The frame comes back with the ranges of the record.** -/
theorem AckOf.ranges_eq {e ackDelay : ℕ} {record : List PktnoRange} {info : AckInfo}
    (h : AckOf e ackDelay record info) (hrec : RecordWf record) (hnarrow : Narrow record)
    (hdelay : ackDelay < 2 ^ 62) : info.ranges = record := by
  cases record with
  | nil => exact h.elim
  | cons first rs =>
      have hparse := h.2 []
      rw [parseFrame_ackCode, parseAckFrame_eq,
        readAckWire_code rs hdelay (hrec.lt first List.mem_cons_self)] at hparse
      have hinfo := congrArg Prod.fst (Except.ok.inj hparse)
      rw [← ranges_ackPairs hrec hnarrow ackDelay]
      exact (congrArg AckInfo.ranges (Frame.ack.inj hinfo)).symm

/-! ## The frames of a queue -/

/-- An ACK frame acknowledges numbers of `R` only. -/
def Frame.Honest (R : Set ℕ) : Frame → Prop
  | .ack info => ∀ n, info.Acks n → n ∈ R
  | _ => True

/-- The ACK frames of the queue acknowledge numbers of `R` only. -/
structure HonestInv (e : ℕ) (R : Set ℕ) (s : SendQueue) : Prop where
  content : ContentInv e (Frame.Honest R) s
  record : s.recvRecord.Of R

section

variable {e : ℕ} {R R' : Set ℕ} {s : SendQueue}

theorem Frame.honest_mono (hR : R ⊆ R') {f : Frame} (h : f.Honest R) : f.Honest R' := by
  cases f with
  | ack info => exact fun n hn => hR (h n hn)
  | _ => trivial

theorem honestInv_init (e : ℕ) (R : Set ℕ) : HonestInv e R {} :=
  ⟨contentInv_init e _, RecvRecord.of_init R⟩

theorem HonestInv.mono (hR : R ⊆ R') (h : HonestInv e R s) : HonestInv e R' s :=
  ⟨h.content.mono fun _ => Frame.honest_mono hR, h.record.mono hR⟩

theorem RecvRecord.Of.honest {record : RecvRecord} (h : record.Of R) (hR : ∀ n ∈ R, n < 2 ^ 32)
    {ackDelay : ℕ} (hdelay : ackDelay < 2 ^ 62) {info : AckInfo}
    (hof : AckOf e ackDelay record.ranges info) : (Frame.ack info).Honest R := by
  have hne : record.ranges ≠ [] := by
    intro hnil
    rw [hnil] at hof
    exact hof
  have hranges := hof.ranges_eq (h.recordWf hne) (h.narrow hR) hdelay
  obtain ⟨-, -, -, hheld⟩ := h
  intro n hn
  unfold AckInfo.Acks at hn
  rw [hranges] at hn
  exact hheld hn

theorem Frame.honest_control (R : Set ℕ) (c : ControlFrame) : c.frame.Honest R := by
  cases c <;> trivial

theorem Frame.honest_streamClosed (R : Set ℕ) : StreamClosed (Frame.Honest R) :=
  fun _ _ => trivial

theorem HonestInv.content_step (h : HonestInv e R s) (hR : ∀ n ∈ R, n < 2 ^ 32) {ev : SendEvent}
    (hwf : ev.Wf) : ContentInv e (Frame.Honest R) (s.step ev) := by
  cases hfills : ev.fills with
  | false => exact h.content.ctlSteps (Frame.honest_control R) (step_ctl h.content.fresh hwf hfills)
  | true =>
      cases ev with
      | stream highPri params streamId offset fin payload =>
          rw [SendQueue.step]
          split
          · exact h.content
          · rename_i s' n hw
            exact writeStreamFrame_content (Frame.honest_streamClosed R) h.content hwf.1 hwf.2 trivial hw
      | ack params ackDelay ackDelayExponent =>
          exact writeAckToPackets_content params (fun _ hof => h.record.honest hR hwf hof) h.content hwf
      | _ => cases hfills

/-- **Every event keeps the ACK frames honest**, if the packets that are received have numbers of `R`. -/
theorem HonestInv.step (h : HonestInv e R s) (hR : ∀ n ∈ R, n < 2 ^ 32) {ev : SendEvent} (hwf : ev.Wf)
    (hrecv : ∀ n, ev = .recvPacket n → n ∈ R) : HonestInv e R (s.step ev) := by
  refine ⟨h.content_step hR hwf, ?_⟩
  rcases step_recvRecord s ev with heq | ⟨_, _, -, d, heq⟩ | ⟨n, rfl⟩
  · rw [heq]
    exact h.record
  · rw [heq]
    exact h.record.del d
  · exact h.record.add (hrecv n rfl) hwf

end

end Rquic

import Rquic.PacketNumber
import Rquic.SendQueue.Space

set_option autoImplicit false

/-!
# Recovering packet numbers

The receiver decodes the packet number of an arriving packet against the record of the numbers it has
received. Acknowledgements of its own ACK frames trim that record, and may empty it.

* `step_recvRecord`: only received packets and ACK frames change the record.
* `PnReceiver`: the receiver, with the numbers it has recorded and the numbers the sender gave them.
* `PnReceiver.Near`: the number is close to the largest one recorded; `PnReceiver.InReach`: it is not too
  far above the record.
* `PnReceiver.Anchored`: the record ends at the largest number recorded, so near numbers are in reach.
* **`PnReceiver.run_recovers`**: near numbers in reach are recovered, and only an emptied record puts near
  numbers out of reach.
-/

namespace Rquic

/-! ## The record -/

/-- An ACK frame leaves the record alone or drops the numbers below a bound. -/
theorem onAckReceived_recvRecord (s : SendQueue) (info : AckInfo) (th : LossThresholds) :
    (onAckReceived s info th).1.recvRecord = s.recvRecord ∨
      ∃ d, (onAckReceived s info th).1.recvRecord = recvRecordDel s.recvRecord d := by
  have hlost : (detectLost (ackProcess s info).sndq th).recvRecord = s.recvRecord := by
    rw [recvRecord_of_space (detectLost_space _ th), ackProcess_recvRecord]
  unfold onAckReceived
  simp only
  split_ifs
  · exact .inl (ackProcess_recvRecord s info)
  · exact .inr ⟨_, by rw [← hlost]⟩
  · exact .inl hlost

/-- **Only received packets and ACK frames change the record.** -/
theorem step_recvRecord (s : SendQueue) (ev : SendEvent) :
    (s.step ev).recvRecord = s.recvRecord ∨
      (∃ info th, ev = .ackReceived info th ∧
        ∃ d, (s.step ev).recvRecord = recvRecordDel s.recvRecord d) ∨
      ∃ n, ev = .recvPacket n := by
  rcases step_trimState s ev with h | ⟨info, th, rfl⟩ | h
  · exact .inl (congrArg Prod.fst h)
  · rcases onAckReceived_recvRecord s info th with h | ⟨d, h⟩
    · exact .inl h
    · exact .inr (.inl ⟨info, th, rfl, d, h⟩)
  · exact .inr (.inr h)

/-! ## The receiver -/

/-- A receiver of packets. -/
structure PnReceiver where
  sndq : SendQueue := {}
  /-- The numbers it recorded, the newest first. -/
  recorded : List ℕ := []
  /-- The numbers that the sender gave to these packets. -/
  arrived : List ℕ := []

/-- What happens at the receiver. -/
inductive PnEvent where
  /-- The packet with this number arrives; its frames are handled, or it is dropped. -/
  | arrive (pktNum : ℕ) (processed : Bool)
  /-- Its send queue goes on. -/
  | queue (ev : SendEvent)

namespace PnReceiver

/-- The number that `rqc_packet_decode_packet_number` finds for a packet of the sender. -/
def decode (s : PnReceiver) (pktNum : ℕ) : ℕ :=
  decodePacketNumber s.sndq.recvRecord (writePacketNumber pktNum pktnoClass)

/-- The largest number recorded so far. -/
def largest (s : PnReceiver) : ℕ := s.recorded.foldr max 0

/-- A packet of the sender is recorded as `n`. -/
def record (s : PnReceiver) (n pktNum : ℕ) : PnReceiver :=
  { sndq := s.sndq.step (.recvPacket n)
    recorded := n :: s.recorded
    arrived := pktNum :: s.arrived }

/-- One step. -/
def step (s : PnReceiver) : PnEvent → PnReceiver
  | .arrive pktNum processed => if processed then s.record (s.decode pktNum) pktNum else s
  -- packets enter the record through their arrival only
  | .queue (.recvPacket _) => s
  | .queue ev => { s with sndq := s.sndq.step ev }

/-- A run. -/
def run (s : PnReceiver) (evs : List PnEvent) : PnReceiver := evs.foldl step s

/-- The number is less than half a window away from the largest one. -/
def Near (s : PnReceiver) (pktNum : ℕ) : Prop :=
  s.largest + 1 < pktNum + 2 ^ 31 ∧ pktNum < s.largest + 2 ^ 31

/-- The number is at most half a window above the one that the record expects next, or it fits in four
bytes. -/
def InReach (s : PnReceiver) (pktNum : ℕ) : Prop :=
  pktNum ≤ recvRecordLargest s.sndq.recvRecord + 1 + 2 ^ 31 ∨ pktNum < 2 ^ 32

/-- The record ends at the largest number recorded. -/
def Anchored (s : PnReceiver) : Prop := recvRecordLargest s.sndq.recvRecord = s.largest

/-- The run never empties the record. -/
def Keeps : PnReceiver → List PnEvent → Prop
  | _, [] => True
  | s, ev :: evs =>
    (s.sndq.recvRecord.ranges ≠ [] → (s.step ev).sndq.recvRecord.ranges ≠ []) ∧ Keeps (s.step ev) evs

/-- A packet that is processed is near and in reach. -/
def Recoverable (s : PnReceiver) : PnEvent → Prop
  | .arrive pktNum true => pktNum < 2 ^ 62 ∧ s.Near pktNum ∧ s.InReach pktNum
  | _ => True

/-- Every packet of the run is near and in reach when it arrives. -/
def AllNear : PnReceiver → List PnEvent → Prop
  | _, [] => True
  | s, ev :: evs => s.Recoverable ev ∧ AllNear (s.step ev) evs

instance (s : PnReceiver) (pktNum : ℕ) : Decidable (s.Near pktNum) := inferInstanceAs (Decidable (_ ∧ _))

instance (s : PnReceiver) (pktNum : ℕ) : Decidable (s.InReach pktNum) := inferInstanceAs (Decidable (_ ∨ _))

instance (s : PnReceiver) : Decidable s.Anchored := inferInstanceAs (Decidable (_ = _))

instance (s : PnReceiver) : ∀ ev, Decidable (s.Recoverable ev)
  | .arrive _ true => inferInstanceAs (Decidable (_ ∧ _))
  | .arrive _ false | .queue _ => isTrue trivial

instance AllNear.decidable : ∀ s evs, Decidable (AllNear s evs)
  | _, [] => isTrue trivial
  | s, ev :: evs =>
    have := AllNear.decidable (s.step ev) evs
    inferInstanceAs (Decidable (_ ∧ _))

/-- The record ends at or below the largest number recorded. -/
structure Inv (s : PnReceiver) : Prop where
  descending : s.sndq.recvRecord.Descending
  le : recvRecordLargest s.sndq.recvRecord ≤ s.largest

theorem inv_init : Inv {} := ⟨List.Pairwise.nil, le_rfl⟩

theorem anchored_init : Anchored {} := rfl

theorem recvRecordLargest_nil {record : RecvRecord} (h : record.ranges = []) : recvRecordLargest record = 0 := by
  unfold recvRecordLargest
  rw [h]

theorem Near.inReach {s : PnReceiver} {p : ℕ} (h : s.Near p) (hs : s.Anchored) : s.InReach p := by
  have hlt := h.2
  unfold Anchored at hs
  left
  omega

theorem step_arrive (s : PnReceiver) (pktNum : ℕ) :
    s.step (.arrive pktNum true) = s.record (s.decode pktNum) pktNum := rfl

@[simp] theorem record_recvRecord (s : PnReceiver) (n pktNum : ℕ) :
    (s.record n pktNum).sndq.recvRecord = (recvRecordAdd s.sndq.recvRecord n).1 := rfl

@[simp] theorem record_largest (s : PnReceiver) (n pktNum : ℕ) :
    (s.record n pktNum).largest = max n s.largest := rfl

@[simp] theorem record_recorded (s : PnReceiver) (n pktNum : ℕ) :
    (s.record n pktNum).recorded = n :: s.recorded := rfl

@[simp] theorem record_arrived (s : PnReceiver) (n pktNum : ℕ) :
    (s.record n pktNum).arrived = pktNum :: s.arrived := rfl

/-- A step of the send queue leaves the record alone or drops numbers from it. -/
theorem step_queue (s : PnReceiver) (ev : SendEvent) :
    (s.step (.queue ev)).recorded = s.recorded ∧ (s.step (.queue ev)).arrived = s.arrived ∧
      ((s.step (.queue ev)).sndq.recvRecord = s.sndq.recvRecord ∨
        ∃ d, (s.step (.queue ev)).sndq.recvRecord = recvRecordDel s.sndq.recvRecord d) := by
  by_cases hrecv : ∃ n, ev = .recvPacket n
  · obtain ⟨n, rfl⟩ := hrecv
    exact ⟨rfl, rfl, .inl rfl⟩
  · have hstep : s.step (.queue ev) = { s with sndq := s.sndq.step ev } := by
      cases ev with
      | recvPacket n => exact absurd ⟨n, rfl⟩ hrecv
      | _ => rfl
    rw [hstep]
    refine ⟨rfl, rfl, ?_⟩
    rcases step_recvRecord s.sndq ev with h | ⟨_, _, -, h⟩ | h
    · exact .inl h
    · exact .inr h
    · exact absurd h hrecv

theorem Inv.step {s : PnReceiver} (h : s.Inv) (ev : PnEvent) : (s.step ev).Inv := by
  cases ev with
  | arrive pktNum processed =>
      cases processed with
      | false => exact h
      | true =>
          obtain ⟨hdesc, -, hlargest⟩ := recvRecordAdd_spec h.descending (s.decode pktNum)
          rw [step_arrive]
          refine ⟨hdesc, ?_⟩
          rw [record_largest, record_recvRecord, hlargest]
          split_ifs
          · exact le_max_left _ _
          · exact max_le (h.le.trans (le_max_right _ _)) (le_max_left _ _)
  | queue ev =>
      obtain ⟨hrec, -, hrecord⟩ := step_queue s ev
      have hlargest : (s.step (.queue ev)).largest = s.largest := by rw [largest, hrec, largest]
      rcases hrecord with heq | ⟨d, heq⟩
      · exact ⟨heq ▸ h.descending, by rw [heq, hlargest]; exact h.le⟩
      · obtain ⟨hdesc, -, hle⟩ := recvRecordDel_spec h.descending d
        exact ⟨heq ▸ hdesc, by rw [heq, hlargest]; exact hle.trans h.le⟩

/-- **Only a step that empties the record moves its end.** -/
theorem Anchored.step {s : PnReceiver} (hinv : s.Inv) (h : s.Anchored) {ev : PnEvent}
    (hkeep : s.sndq.recvRecord.ranges ≠ [] → (s.step ev).sndq.recvRecord.ranges ≠ []) :
    (s.step ev).Anchored := by
  unfold Anchored at h ⊢
  cases ev with
  | arrive pktNum processed =>
      cases processed with
      | false => exact h
      | true =>
          obtain ⟨-, -, hlargest⟩ := recvRecordAdd_spec hinv.descending (s.decode pktNum)
          rw [step_arrive, record_largest, record_recvRecord, hlargest]
          split_ifs with hnil
          · rw [← h, recvRecordLargest_nil hnil, Nat.max_zero]
          · rw [h, max_comm]
  | queue ev =>
      obtain ⟨hrec, -, hrecord⟩ := step_queue s ev
      have hlargest : (s.step (.queue ev)).largest = s.largest := by rw [largest, hrec, largest]
      rcases hrecord with heq | ⟨d, heq⟩
      · rw [heq, hlargest]
        exact h
      · obtain ⟨-, hsame, hle⟩ := recvRecordDel_spec hinv.descending d
        rw [heq, hlargest, ← h]
        by_cases hnil : s.sndq.recvRecord.ranges = []
        · -- an empty record has nothing to lose
          have hzero := recvRecordLargest_nil hnil
          omega
        · exact hsame (heq ▸ hkeep hnil)

/-- **A number above all others is the end of the record again.** -/
theorem Inv.anchors {s : PnReceiver} (hinv : s.Inv) {p : ℕ} (h : s.largest ≤ s.decode p) :
    (s.step (.arrive p true)).Anchored := by
  obtain ⟨-, -, hlargest⟩ := recvRecordAdd_spec hinv.descending (s.decode p)
  have hle := hinv.le
  unfold Anchored
  rw [step_arrive, record_largest, record_recvRecord, hlargest, max_eq_left h]
  split_ifs
  · rfl
  · exact max_eq_right (hle.trans h)

theorem run_inv {s : PnReceiver} (h : s.Inv) (evs : List PnEvent) : (s.run evs).Inv := by
  induction evs generalizing s with
  | nil => exact h
  | cons ev evs ih => exact ih (h.step ev)

theorem run_append (s : PnReceiver) (evs evs' : List PnEvent) : s.run (evs ++ evs') = (s.run evs).run evs' :=
  List.foldl_append

theorem Anchored.run {s : PnReceiver} (hinv : s.Inv) (h : s.Anchored) {evs : List PnEvent}
    (hkeep : s.Keeps evs) : (s.run evs).Anchored := by
  induction evs generalizing s with
  | nil => exact h
  | cons ev evs ih => exact ih (hinv.step ev) (h.step hinv hkeep.1) hkeep.2

theorem decode_eq {s : PnReceiver} (hinv : s.Inv) {p : ℕ} (hp : p < 2 ^ 62) (hnear : s.Near p)
    (h : s.InReach p) : s.decode p = p := by
  have hle := hinv.le
  have hlow := hnear.1
  exact decodePacketNumber_eq hp (by omega) h

/-- As long as all packets are near, the recorded numbers are those of the sender. -/
theorem run_recorded_eq {s : PnReceiver} (hinv : s.Inv) (h : s.recorded = s.arrived) {evs : List PnEvent}
    (hnear : s.AllNear evs) : (s.run evs).recorded = (s.run evs).arrived := by
  induction evs generalizing s with
  | nil => exact h
  | cons ev evs ih =>
      refine ih (hinv.step ev) ?_ hnear.2
      cases ev with
      | arrive pktNum processed =>
          cases processed with
          | false => exact h
          | true =>
              obtain ⟨hlt, hn, hreach⟩ := hnear.1
              rw [step_arrive, record_recorded, record_arrived, decode_eq hinv hlt hn hreach, h]
      | queue ev =>
          obtain ⟨hrec, harr, -⟩ := step_queue s ev
          rw [hrec, harr, h]

/-- **Packet numbers are recovered.** In every state that a run reaches, a number less than half a
window away from the largest one recorded is recovered if it is in reach, as it is where the record ends
at that largest number. If all packets that were processed were near and in reach when they arrived, the
recorded numbers are those that the sender gave. The record ends at the largest number recorded as long as
no step empties it, and again once a number above all others is recorded. -/
theorem run_recovers (evs : List PnEvent) :
    (∀ p < 2 ^ 62, (run {} evs).Near p → (run {} evs).Anchored ∨ (run {} evs).InReach p →
      (run {} evs).decode p = p) ∧
    (AllNear {} evs → (run {} evs).recorded = (run {} evs).arrived) ∧
    (∀ evs₁ evs₂, evs = evs₁ ++ evs₂ → evs₁ = [] ∨ (run {} evs₁).Anchored → (run {} evs₁).Keeps evs₂ →
      (run {} evs).Anchored) ∧
    (∀ p, (run {} evs).largest ≤ (run {} evs).decode p → ((run {} evs).step (.arrive p true)).Anchored) := by
  have hinv : (run {} evs).Inv := run_inv inv_init evs
  refine ⟨fun p hp hnear h => ?_, fun hall => ?_, fun evs₁ evs₂ heq hanchored hkeep => ?_, fun p hle => ?_⟩
  · exact decode_eq hinv hp hnear (h.elim hnear.inReach id)
  · exact run_recorded_eq inv_init rfl hall
  · rw [heq, run_append]
    refine Anchored.run (run_inv inv_init evs₁) (hanchored.elim (fun hnil => ?_) id) hkeep
    rw [hnil]
    exact anchored_init
  · exact hinv.anchors hle

/-- Packets far apart, the last of them with a number of more than four bytes. -/
def farRun : List PnEvent :=
  [.arrive (2 ^ 31 - 1) true, .arrive (2 ^ 32 - 3) true, .arrive (2 ^ 32 + 5) true]

/-- The receiver sends an ACK frame for its packets, which is acknowledged. -/
def ackedAck : List PnEvent :=
  [.queue (.stream false demoParams 0 0 false [1, 2, 3]), .queue (.ack demoParams 0 0),
    .queue (.schedule .normal), .queue (.send .normal .sent 100 1000),
    .queue (.ackReceived ⟨[⟨0, 0⟩], 0⟩ ⟨0, none⟩)]

/-- The record is emptied, and filled again by packets up to numbers of more than four bytes. -/
def refilledRun : List PnEvent :=
  .arrive 5 true :: ackedAck ++ [.arrive 6 true, .arrive (2 ^ 31 + 5) true, .arrive (2 ^ 32 + 1) true]

theorem run_recovers_refilledRun :
    (run {} (.arrive 5 true :: ackedAck)).sndq.recvRecord.ranges = [] ∧
      (run {} refilledRun).decode (2 ^ 32 + 2) = 2 ^ 32 + 2 ∧
      (run {} refilledRun).recorded = [2 ^ 32 + 1, 2 ^ 31 + 5, 6, 5] := by
  obtain ⟨hdecode, hrecorded, -, -⟩ := run_recovers refilledRun
  refine ⟨by decide +kernel, hdecode _ (by decide) (by decide +kernel) (.inl (by decide +kernel)), ?_⟩
  rw [hrecorded (by decide +kernel)]
  decide +kernel

/-- The record is emptied behind a number of more than four bytes. -/
def emptiedRun : List PnEvent := farRun ++ ackedAck

/-- The record is empty then and the next packet is taken for packet 6. A packet half a window late
is taken for one of the next window. -/
theorem emptiedRun_not_recovered :
    ((run {} emptiedRun).largest = 2 ^ 32 + 5 ∧ (run {} emptiedRun).decode (2 ^ 32 + 6) = 6) ∧
      (run {} [.arrive (2 ^ 31 + 6) true]).largest = 7 + (2 ^ 31 - 1) ∧
      (run {} [.arrive (2 ^ 31 + 6) true]).decode 7 = 7 + 2 ^ 32 := by decide +kernel

end PnReceiver

end Rquic

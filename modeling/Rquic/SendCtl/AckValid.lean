import Rquic.AckFrame
import Rquic.SendCtl.SampleSteps

set_option autoImplicit false

/-!
# ACK frames that are applied

`rqc_process_ack_frame` converts the integers of a frame to ranges and hands these to the send control.
Neither the parser nor the send control compares the integers with each other, and the comparison with
`ctl_largest_sent` is made for the packets of the unacknowledged list, not for the frame.

* `LossCtl.processAckFrame`: parser and send control.
* `AckWire.exactRanges`: the ranges that a frame stands for, below zero too; `AckWire.span`: how far they
  reach down from the largest number.
* `validRanges_iff`: the ranges are valid exactly when their span is not above the largest number.
* `LossCtl.run_sentLe`: so no packet ends the walk of `rqc_send_ctl_on_ack_received` with an error.
* **`onlyValid_iff`**: what is applied is valid exactly when the frame is.
-/

namespace Rquic

/-! ## The ranges of a frame -/

/-- The ranges below the integer `prevLow`. -/
def exactRangesBelow : ℤ → List (ℕ × ℕ) → List (ℤ × ℤ)
  | _, [] => []
  | prevLow, p :: ps =>
    (prevLow - p.1 - 2 - p.2, prevLow - p.1 - 2) :: exactRangesBelow (prevLow - p.1 - 2 - p.2) ps

/-- The stored ranges of a frame, as pairs of integers that do not wrap. -/
def AckWire.exactRanges (w : AckWire) : List (ℤ × ℤ) :=
  ((w.largestAcked : ℤ) - w.firstAckRange, w.largestAcked) ::
    exactRangesBelow (w.largestAcked - w.firstAckRange) w.stored

/-- The numbers from the top of the first range to the bottom of the last one. -/
def pairsSpan (pairs : List (ℕ × ℕ)) : ℕ := (pairs.map fun p => p.1 + 2 + p.2).sum

/-- How far the stored ranges reach down from the largest number. -/
def AckWire.span (w : AckWire) : ℕ := w.firstAckRange + pairsSpan w.stored

/-- The ranges were computed without wrapping, no range is empty, and a number is missing between
neighbours. -/
structure AckWire.ValidRanges (w : AckWire) (ranges : List PktnoRange) : Prop where
  exact : ranges.map (fun r => ((r.low : ℤ), (r.high : ℤ))) = w.exactRanges
  sep : PktnoRange.Sep ranges

theorem pairsSpan_cons (p : ℕ × ℕ) (ps : List (ℕ × ℕ)) :
    pairsSpan (p :: ps) = p.1 + 2 + p.2 + pairsSpan ps := by
  simp [pairsSpan]

theorem rangesOf_valid {prevLow : ℕ} {pairs : List (ℕ × ℕ)} (hlt : prevLow < 2 ^ 64)
    (h : pairsSpan pairs ≤ prevLow) :
    (rangesOf prevLow pairs).map (fun r => ((r.low : ℤ), (r.high : ℤ))) =
        exactRangesBelow prevLow pairs ∧
      PktnoRange.Sep (rangesOf prevLow pairs) ∧ ∀ r ∈ rangesOf prevLow pairs, r.high + 1 < prevLow := by
  induction pairs generalizing prevLow with
  | nil => exact ⟨rfl, separated_nil, fun r hr => by cases hr⟩
  | cons p ps ih =>
      rw [pairsSpan_cons] at h
      have hgap : u64Sub prevLow p.1 = prevLow - p.1 := u64Sub_eq (by omega) hlt
      have hhigh : u64Sub (u64Sub prevLow p.1) 2 = prevLow - p.1 - 2 := by
        rw [hgap]
        exact u64Sub_eq (by omega) (by omega)
      have hlow : u64Sub (prevLow - p.1 - 2) p.2 = prevLow - p.1 - 2 - p.2 :=
        u64Sub_eq (by omega) (by omega)
      obtain ⟨hexact, hsep, hbelow⟩ := @ih (prevLow - p.1 - 2 - p.2) (by omega) (by omega)
      have hcast : ((prevLow - p.1 - 2 - p.2 : ℕ) : ℤ) = (prevLow : ℤ) - p.1 - 2 - p.2 := by omega
      have hcast' : ((prevLow - p.1 - 2 : ℕ) : ℤ) = (prevLow : ℤ) - p.1 - 2 := by omega
      rw [rangesOf, hhigh, hlow]
      refine ⟨?_, separated_cons.2 ⟨Nat.sub_le _ _, hbelow, hsep⟩, fun r hr => ?_⟩
      · rw [List.map_cons, hexact, exactRangesBelow, hcast, hcast']
      · rcases List.mem_cons.1 hr with rfl | hr
        · dsimp only
          omega
        · have := hbelow r hr
          omega

/-- Ranges that do not end below zero have a span that fits. -/
theorem pairsSpan_le {prevLow : ℤ} {pairs : List (ℕ × ℕ)} (hle : 0 ≤ prevLow)
    (h : ∀ r ∈ exactRangesBelow prevLow pairs, 0 ≤ r.1) : (pairsSpan pairs : ℤ) ≤ prevLow := by
  induction pairs generalizing prevLow with
  | nil => exact hle
  | cons p ps ih =>
      rw [exactRangesBelow] at h
      obtain ⟨hlow, hrest⟩ := List.forall_mem_cons.1 h
      have htail := ih hlow hrest
      rw [pairsSpan_cons]
      push_cast
      omega

/-- **The ranges are valid exactly when their span fits.** -/
theorem validRanges_iff {w : AckWire} (hlt : w.largestAcked < 2 ^ 62) :
    w.ValidRanges w.ranges ↔ w.span ≤ w.largestAcked := by
  constructor
  · rintro ⟨hexact, -⟩
    have hpos : ∀ r ∈ w.exactRanges, 0 ≤ r.1 := by
      rw [← hexact]
      intro r hr
      obtain ⟨r', -, rfl⟩ := List.mem_map.1 hr
      exact Int.natCast_nonneg _
    obtain ⟨hfirst, hrest⟩ := List.forall_mem_cons.1 hpos
    have hspan := pairsSpan_le hfirst hrest
    unfold AckWire.span
    omega
  · intro hspan
    unfold AckWire.span at hspan
    have hlow : u64Sub w.largestAcked w.firstAckRange = w.largestAcked - w.firstAckRange :=
      u64Sub_eq (by omega) (by omega)
    obtain ⟨hexact, hsep, hbelow⟩ := @rangesOf_valid (w.largestAcked - w.firstAckRange) w.stored
      (by omega) (by omega)
    have hcast : ((w.largestAcked - w.firstAckRange : ℕ) : ℤ) = (w.largestAcked : ℤ) - w.firstAckRange := by
      omega
    unfold AckWire.ranges
    rw [hlow]
    refine ⟨?_, separated_cons.2 ⟨Nat.sub_le _ _, hbelow, hsep⟩⟩
    rw [List.map_cons, hexact, hcast]
    rfl

/-! ## The send control -/

/-- `rqc_process_ack_frame`, on the bytes of the frame. -/
def LossCtl.processAckFrame (c : LossCtl) (env : LossEnv) (ackDelayExponent : ℕ) (bs : Bytes)
    (ackRecvTime clock : ℕ) : LossCtl × Except Errno Unit :=
  match parseAckFrame ackDelayExponent bs with
  | .error e => (c, .error e)
  | .ok (.ack info, _) =>
    match c.onAckReceived env info ackRecvTime clock with
    | (c, some e) => (c, .error e)
    | (c, none) => (c, .ok ())
  | .ok _ => (c, .ok ())

theorem SentLe.silent {sent : List PktId} {s s' : SendQueue} (hsent : SentOnce sent s) (h : SentLe s)
    (hs : Silent s s') : SentLe s' := by
  intro id hid
  have hmem := hs.unacked hid
  obtain ⟨hlt, hgone⟩ := hsent.gone id (hsent.listed hmem)
  rw [hs.pktNum hlt hgone, hs.largestSent]
  exact h id hmem

theorem SentLe.transmits {id : PktId} {now : ℕ} {s s' : SendQueue} (h : SentLe s)
    (ht : Transmits id now s s') : SentLe s' := by
  intro i hi
  by_cases heq : i = id
  · rw [heq]
    exact ht.pktNum
  · have hmem := (ht.unacked i hi).resolve_right heq
    have hnum : (s'.pkts i).pktNum = (s.pkts i).pktNum := congrArg Prod.snd (ht.others i heq)
    rw [hnum]
    exact (h i hmem).trans ht.largestSent

theorem LossCtl.step_sentLe (c : LossCtl) (ev : LossEvent) {sent : List PktId}
    (hsent : SentOnce sent c.toSendQueue) (hle : SentLe c.toSendQueue) :
    ∃ sent', SentOnce sent' (c.step ev).toSendQueue ∧ SentLe (c.step ev).toSendQueue := by
  have hsilent : ∀ {s : SendQueue}, Silent c.toSendQueue s → ∃ sent', SentOnce sent' s ∧ SentLe s :=
    fun hs => ⟨sent, hsent.silent hs, hle.silent hsent hs⟩
  cases ev with
  | ctl ev hev => exact hsilent (c.toSendCtl.step_silent hev)
  | ackReceived env info ackRecvTime clock => exact hsilent (c.onAckReceived_silent env info ackRecvTime clock)
  | expire env params now clock => exact hsilent (c.timerExpire_silent env params now clock)
  | send env t outcome now clock =>
      rw [LossCtl.step, c.sendPacket_toSendQueue]
      cases hsending : c.sending t outcome with
      | none => exact hsilent (sendPacket_silent hsending _ _)
      | some id =>
          have ht := sendPacket_transmits hsending c.srtt now
          exact ⟨id :: sent, (hsent.transmits ht).2, hle.transmits ht⟩

/-- **In every run no unacknowledged packet is numbered above `ctl_largest_sent`.** -/
theorem LossCtl.run_sentLe (env : LossEnv) (evs : List LossEvent) :
    SentLe ((LossCtl.create env).run evs).toSendQueue := by
  suffices h : ∃ sent, SentOnce sent ((LossCtl.create env).run evs).toSendQueue ∧
      SentLe ((LossCtl.create env).run evs).toSendQueue from h.elim fun _ h => h.2
  induction evs using List.reverseRecOn with
  | nil => exact ⟨[], .init, fun id hid => by cases hid⟩
  | append_singleton evs ev ih =>
      obtain ⟨sent, hsent, hle⟩ := ih
      unfold LossCtl.run at hsent hle ⊢
      rw [List.foldl_append]
      exact LossCtl.step_sentLe _ ev hsent hle

theorem ackProcess_err {s : SendQueue} (h : SentLe s) (info : AckInfo) : (ackProcess s info).err = none := by
  have hring : (ackSentOnAck s info).err = none ∧ (ackSentOnAck s info).sndq.largestSent = s.largestSent := by
    unfold ackSentOnAck
    split <;> exact ⟨rfl, rfl⟩
  have hpkts : (ackSentOnAck s info).sndq.pkts = s.pkts := (ackSentOnAck_fields info).2.1
  unfold ackProcess
  split
  · rfl
  · rename_i first hfirst
    refine (ackWalk_induct (P := fun w => w.err = none ∧ ∀ id ∈ s.lists .unackedPackets,
      (w.sndq.pkts id).pktNum ≤ w.sndq.largestSent) ?_ ?_ ?_).1
    · intro w id hid hw
      refine ⟨hw.1, fun i hi => ?_⟩
      rw [pktNum_ackPacket, largestSent_ackPacket]
      exact hw.2 i hi
    · intro w id hid hlt hw
      exact absurd (hw.2 id hid) (not_le.mpr hlt)
    · rw [hpkts, hring.2]
      exact ⟨hring.1, h⟩

theorem LossCtl.onAckReceived_err {c : LossCtl} (h : SentLe c.toSendQueue) (env : LossEnv) (info : AckInfo)
    (ackRecvTime clock : ℕ) : (c.onAckReceived env info ackRecvTime clock).2 = none := by
  have hwalk : (c.toSendCtl.ackProcess info).err = none := by
    have herr := ackProcess_err h info
    rwa [← c.toSendCtl.ackProcess_walk info] at herr
  unfold LossCtl.onAckReceived
  dsimp only
  split_ifs
  · exact hwalk
  · rfl

theorem readAckWire_largestAcked {bs rest : Bytes} {w : AckWire} (h : readAckWire bs = .ok (w, rest)) :
    w.largestAcked < 2 ^ 62 := by
  obtain ⟨frameType, -, h⟩ := bind_eq_ok h
  obtain ⟨largestAcked, hlargest, h⟩ := bind_eq_ok h
  obtain ⟨ackDelay, -, h⟩ := bind_eq_ok h
  obtain ⟨ackRangeCount, -, h⟩ := bind_eq_ok h
  obtain ⟨firstAckRange, -, h⟩ := bind_eq_ok h
  obtain ⟨pairs, -, h⟩ := bind_eq_ok h
  dsimp only at h
  split_ifs at h
  · obtain ⟨ect0, -, h⟩ := bind_eq_ok h
    obtain ⟨ect1, -, h⟩ := bind_eq_ok h
    obtain ⟨ce, -, h⟩ := bind_eq_ok h
    obtain ⟨rfl, -⟩ := Prod.mk.inj (Except.ok.inj h)
    exact readVint_lt hlargest
  · obtain ⟨rfl, -⟩ := Prod.mk.inj (Except.ok.inj h)
    exact readVint_lt hlargest

/-! ## What is applied -/

/-- An ACK frame is refused and changes nothing, or its ranges are valid and no number in them is above
the last packet that was sent. -/
def LossCtl.OnlyValid (c : LossCtl) (env : LossEnv) (ackDelayExponent : ℕ) (bs : Bytes)
    (ackRecvTime clock : ℕ) : Prop :=
  ((∃ e, (c.processAckFrame env ackDelayExponent bs ackRecvTime clock).2 = .error e) ∧
      (c.processAckFrame env ackDelayExponent bs ackRecvTime clock).1 = c) ∨
    ∃ w info rest, readAckWire bs = .ok (w, rest) ∧
      parseAckFrame ackDelayExponent bs = .ok (.ack info, rest) ∧ w.ValidRanges info.ranges ∧
      ∀ r ∈ info.ranges, ∃ p ∈ c.wire, r.high ≤ p.pktNum

/-- **Only valid ACK frames are applied, exactly as far as the frame itself is valid**: the ranges that are
stored do not reach below zero, and some packet was sent with the largest number of the frame or a larger
one. -/
theorem onlyValid_iff (env₀ : LossEnv) (evs : List LossEvent) (env : LossEnv) (ackDelayExponent : ℕ)
    (bs : Bytes) (ackRecvTime clock : ℕ) :
    ((LossCtl.create env₀).run evs).OnlyValid env ackDelayExponent bs ackRecvTime clock ↔
      ∀ w rest, readAckWire bs = .ok (w, rest) → w.span ≤ w.largestAcked ∧
        ∃ p ∈ ((LossCtl.create env₀).run evs).wire, w.largestAcked ≤ p.pktNum := by
  have hsent := LossCtl.run_sentLe env₀ evs
  generalize (LossCtl.create env₀).run evs = c at hsent ⊢
  have hparse := parseAckFrame_eq ackDelayExponent bs
  unfold LossCtl.OnlyValid LossCtl.processAckFrame
  cases hread : readAckWire bs with
  | error e =>
      rw [hread] at hparse
      rw [hparse]
      refine iff_of_true (.inl ⟨⟨e, rfl⟩, rfl⟩) fun w rest h => ?_
      cases h
  | ok p =>
      obtain ⟨w, rest⟩ := p
      rw [hread] at hparse
      rw [hparse]
      have hvalid := validRanges_iff (readAckWire_largestAcked hread)
      have hnone := LossCtl.onAckReceived_err hsent env
        ⟨w.ranges, u64Mul w.ackDelay (2 ^ ackDelayExponent)⟩ ackRecvTime clock
      have hok : ∀ e, (match c.onAckReceived env ⟨w.ranges, u64Mul w.ackDelay (2 ^ ackDelayExponent)⟩
          ackRecvTime clock with
          | (c, some e) => (c, Except.error e)
          | (c, none) => (c, Except.ok ())).2 ≠ .error e := by
        intro e
        generalize c.onAckReceived env ⟨w.ranges, u64Mul w.ackDelay (2 ^ ackDelayExponent)⟩ ackRecvTime
          clock = r at hnone ⊢
        obtain ⟨c', err⟩ := r
        obtain rfl : err = none := hnone
        exact nofun
      constructor
      · rintro (⟨⟨e, he⟩, -⟩ | ⟨w', info, rest', hw, hinfo, hranges, hlast⟩) w₁ rest₁ hw₁
        · exact absurd he (hok e)
        · obtain ⟨rfl, rfl⟩ := Prod.mk.inj (Except.ok.inj hw)
          obtain ⟨rfl, rfl⟩ := Prod.mk.inj (Except.ok.inj hw₁)
          obtain ⟨hframe, -⟩ := Prod.mk.inj (Except.ok.inj hinfo)
          obtain rfl := Frame.ack.inj hframe
          exact ⟨hvalid.1 hranges, hlast _ List.mem_cons_self⟩
      · intro h
        obtain ⟨hspan, p, hp, hle⟩ := h w rest rfl
        have hranges := hvalid.2 hspan
        refine .inr ⟨w, _, rest, rfl, rfl, hranges, fun r hr => ⟨p, hp, ?_⟩⟩
        -- the first range is the highest
        obtain ⟨-, hbelow, -⟩ := separated_cons.1 hranges.sep
        rcases List.mem_cons.1 hr with rfl | hr
        · exact hle
        · have hlow : u64Sub w.largestAcked w.firstAckRange ≤ w.largestAcked :=
            hranges.sep.le _ List.mem_cons_self
          have hlt : r.high + 1 < u64Sub w.largestAcked w.firstAckRange := hbelow r hr
          omega

/-- One packet with data is sent. -/
def oneSentRun : List LossEvent := LossCtl.sendByte 0 1000

/-- A frame that acknowledges 0 to 5 is applied when only packet 0 was sent. -/
theorem not_onlyValid_unsent :
    ¬ ((LossCtl.create LossCtl.demoLossEnv).run oneSentRun).OnlyValid LossCtl.demoLossEnv 3
      [0x02, 0x05, 0x00, 0x00, 0x05] 2000 2000 := by
  have hok : (((LossCtl.create LossCtl.demoLossEnv).run oneSentRun).processAckFrame LossCtl.demoLossEnv 3
      [0x02, 0x05, 0x00, 0x00, 0x05] 2000 2000).2 = .ok () := by decide +kernel
  have hparse : parseAckFrame 3 [0x02, 0x05, 0x00, 0x00, 0x05] = .ok (.ack ⟨[⟨0, 5⟩], 0⟩, []) := by
    decide +kernel
  have hwire : ∀ p ∈ ((LossCtl.create LossCtl.demoLossEnv).run oneSentRun).wire, p.pktNum = 0 := by
    decide +kernel
  rintro (⟨⟨e, he⟩, -⟩ | ⟨w, info, rest, -, hinfo, -, hsent⟩)
  · rw [hok] at he
    cases he
  · rw [hparse] at hinfo
    obtain ⟨hframe, -⟩ := Prod.mk.inj (Except.ok.inj hinfo)
    obtain rfl := Frame.ack.inj hframe
    obtain ⟨p, hp, hle⟩ := hsent ⟨0, 5⟩ List.mem_cons_self
    rw [hwire p hp] at hle
    cases hle

end Rquic

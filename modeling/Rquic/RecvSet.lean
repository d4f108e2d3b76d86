import Rquic.Lib.Intervals
import Rquic.RecvRecord

set_option autoImplicit false

/-!
# The record of received packet numbers as a set

`rqc_recv_record_t` with its `node_count`, and what it stands for: a set of packet numbers with a cap on
the number of its maximal intervals.

* `RecvNodes`, `RecvNodes.add`, `RecvNodes.del`: `rqc_recv_record_add` and `rqc_recv_record_del` as they
  count their nodes.
* `RefRecord`: the set. A new number beyond the cap pushes the lowest interval out.
* **`RecvNodes.run_refines`**: after every sequence of calls the nodes hold exactly the set.
-/

namespace Rquic

/-! ## Nodes -/

/-- `rqc_recv_record_t` with `node_count`. -/
structure RecvNodes extends RecvRecord where
  nodeCount : ℤ := 0

/-- `rqc_pktno_range_can_merge`, with the node after it. -/
def pktnoRangeCanMerge (packetNumber : ℕ) (node : PktnoRange) : Option PktnoRange :=
  if u64Sub node.low 1 = packetNumber then some { node with low := u64Sub node.low 1 }
  else if u64Add node.high 1 = packetNumber then some { node with high := u64Add node.high 1 }
  else none

/-- Two neighbours that have come to touch are joined: the ranges, and whether a node is gone. -/
def joinNodes (above : List PktnoRange) (node : PktnoRange) (below : List PktnoRange) :
    List PktnoRange × Bool :=
  match above.getLast? with
  | none => (above ++ node :: below, false)
  | some prev =>
    if u64Sub prev.low 1 = node.high then (above.dropLast ++ { prev with low := node.low } :: below, true)
    else (above ++ node :: below, false)

/-- The loop that deletes nodes from the tail, on the ranges from the smallest up. -/
def deleteLast : List PktnoRange → ℤ → List PktnoRange × ℤ
  | [], nodeCount => ([], nodeCount)
  | _ :: nodes, nodeCount =>
    if nodeCount - 1 ≤ maxAckRangeCnt then (nodes, nodeCount - 1) else deleteLast nodes (nodeCount - 1)

namespace RecvNodes

/-- A node is merged with the packet number. -/
def merge (r : RecvNodes) (merged : List PktnoRange × Bool) : RecvNodes :=
  { r with
    ranges := merged.1, nodeCount := if merged.2 then r.nodeCount - 1 else r.nodeCount }

/-- A new node is inserted. -/
def insertNode (r : RecvNodes) (packetNumber : ℕ) (above below : List PktnoRange) : RecvNodes :=
  let node : PktnoRange := ⟨packetNumber, packetNumber⟩
  if below ≠ [] then
    if maxAckRangeCnt < r.nodeCount + 1 then
      let p := deleteLast (above ++ node :: below).reverse (r.nodeCount + 1)
      { r with ranges := p.1.reverse, nodeCount := p.2 }
    else { r with ranges := above ++ node :: below, nodeCount := r.nodeCount + 1 }
  else if r.nodeCount < maxAckRangeCnt then
    { r with ranges := above ++ [node], nodeCount := r.nodeCount + 1 }
  else r

/-- The range above the packet number was merged with it. Where no range lies below, the source looks at
the range above once more. -/
def mergeAbove (r : RecvNodes) (above : List PktnoRange) (prev : PktnoRange) :
    List PktnoRange → RecvNodes
  | [] => r.merge (above.dropLast ++ [prev], false)
  | node :: below => r.merge (joinNodes (above.dropLast ++ [prev]) node below)

/-- The range below the packet number was merged with it, or a node is inserted. -/
def mergeNode (r : RecvNodes) (packetNumber : ℕ) (above : List PktnoRange) (node : PktnoRange)
    (below : List PktnoRange) : Option PktnoRange → RecvNodes
  | some merged => r.merge (joinNodes above merged below)
  | none => r.insertNode packetNumber above (node :: below)

/-- The range above the packet number was not merged with it. -/
def mergeBelow (r : RecvNodes) (packetNumber : ℕ) (above : List PktnoRange) :
    List PktnoRange → RecvNodes
  | [] => r.insertNode packetNumber above []
  | node :: below =>
    r.mergeNode packetNumber above node below (pktnoRangeCanMerge packetNumber node)

/-- The packet number is not there yet. -/
def addNew (r : RecvNodes) (packetNumber : ℕ) (above below : List PktnoRange) : RecvNodes :=
  match above.getLast?.bind (pktnoRangeCanMerge packetNumber) with
  | some prev => r.mergeAbove above prev below
  | none => r.mergeBelow packetNumber above below

/-- `rqc_recv_record_add`. -/
def add (r : RecvNodes) (packetNumber : ℕ) : RecvNodes × PktRangeStatus :=
  match recvRecordFind packetNumber r.ranges with
  | none => (r, .dup)
  | some (above, below) => (r.addNew packetNumber above below, .ok)

/-- The loop of `rqc_recv_record_del`. -/
def delNodes (delFrom : ℕ) : List PktnoRange → ℤ → List PktnoRange × ℤ
  | [], nodeCount => ([], nodeCount)
  | r :: rs, nodeCount =>
    if r.low < delFrom then
      if r.high < delFrom then delNodes delFrom rs (nodeCount - 1)
      else
        let p := delNodes delFrom rs nodeCount
        ({ r with low := delFrom } :: p.1, p.2)
    else
      let p := delNodes delFrom rs nodeCount
      (r :: p.1, p.2)

/-- `rqc_recv_record_del`. -/
def del (r : RecvNodes) (delFrom : ℕ) : RecvNodes :=
  if delFrom < r.rrDelFrom then r
  else
    let p := delNodes delFrom r.ranges r.nodeCount
    { ranges := p.1, rrDelFrom := delFrom, nodeCount := p.2 }

end RecvNodes

/-- One call. -/
inductive RecordOp where
  | add (packetNumber : ℕ)
  | del (delFrom : ℕ)
  deriving DecidableEq, Repr

/-- The argument of a call is a packet number. -/
def RecordOp.Wf : RecordOp → Prop
  | .add n | .del n => n < 2 ^ 62

/-- One call on the nodes. -/
def RecvNodes.step (r : RecvNodes) : RecordOp → RecvNodes
  | .add packetNumber => (r.add packetNumber).1
  | .del delFrom => r.del delFrom

/-- A sequence of calls. -/
def RecvNodes.run (r : RecvNodes) (ops : List RecordOp) : RecvNodes := ops.foldl step r

/-! ## The set -/

/-- The record as a set, with the bound of the last deletion. -/
structure RefRecord where
  members : Set ℕ := ∅
  delFrom : ℕ := 0

namespace RefRecord

open Classical in
/-- A number joins the set. If it has too many maximal intervals then, the lowest one goes. -/
noncomputable def add (s : RefRecord) (n : ℕ) : RefRecord :=
  { s with
    members := if maxAckRangeCnt < (tops (insert n s.members)).ncard then dropLowest (insert n s.members)
      else insert n s.members }

/-- The numbers below a bound go, unless the bound lies below an earlier one. -/
def del (s : RefRecord) (d : ℕ) : RefRecord :=
  if d < s.delFrom then s else { members := {n | n ∈ s.members ∧ d ≤ n}, delFrom := d }

/-- One call on the set. -/
noncomputable def step (s : RefRecord) : RecordOp → RefRecord
  | .add n => s.add n
  | .del d => s.del d

/-- A sequence of calls. -/
noncomputable def run (s : RefRecord) (ops : List RecordOp) : RefRecord := ops.foldl step s

end RefRecord

/-! ## Where a packet number belongs -/

/-- The set of a list of ranges. -/
abbrev PktnoRange.Held (ranges : List PktnoRange) : Set ℕ := held PktnoRange.low PktnoRange.high ranges

/-- Ranges from the largest down with gaps between them. -/
abbrev PktnoRange.Sep (ranges : List PktnoRange) : Prop := Separated PktnoRange.low PktnoRange.high ranges

/-- A packet number lies between the ranges above it and those below it. -/
structure Spot (packetNumber : ℕ) (above below : List PktnoRange) : Prop where
  sep : PktnoRange.Sep (above ++ below)
  above_lt : ∀ a ∈ above, packetNumber < a.low
  below_lt : ∀ b ∈ below, b.high < packetNumber

theorem recvRecordFind_eq_none {packetNumber : ℕ} {ranges : List PktnoRange}
    (h : PktnoRange.Sep ranges) :
    recvRecordFind packetNumber ranges = none ↔ packetNumber ∈ PktnoRange.Held ranges := by
  induction ranges with
  | nil => simp [recvRecordFind]
  | cons r rs ih =>
      obtain ⟨hle, hgap, hrs⟩ := separated_cons.1 h
      rw [recvRecordFind, PktnoRange.Held, held_cons]
      split_ifs with hhigh hlow
      · simp [hlow, hhigh]
      · rw [Option.map_eq_none_iff, ih hrs]
        simp [hlow]
      · have hnot : packetNumber ∉ PktnoRange.Held rs := by
          rintro ⟨b, hb, -, hb'⟩
          have := hgap b hb
          omega
        simp [hhigh, hnot]

theorem spot_of_recvRecordFind {packetNumber : ℕ} {ranges above below : List PktnoRange}
    (h : PktnoRange.Sep ranges) (hfind : recvRecordFind packetNumber ranges = some (above, below)) :
    Spot packetNumber above below := by
  have heq := recvRecordFind_mem hfind
  refine ⟨heq ▸ h, ?_, ?_⟩
  · induction ranges generalizing above below with
    | nil =>
        obtain ⟨rfl, -⟩ := Prod.mk.inj (Option.some.inj hfind)
        simp
    | cons r rs ih =>
        obtain ⟨-, -, hrs⟩ := separated_cons.1 h
        rw [recvRecordFind] at hfind
        split_ifs at hfind with hhigh hlow
        · obtain ⟨p, hp, hpair⟩ := Option.map_eq_some_iff.1 hfind
          obtain ⟨rfl, rfl⟩ := Prod.mk.inj hpair
          refine List.forall_mem_cons.2 ⟨by omega, ih hrs hp (recvRecordFind_mem hp)⟩
        · obtain ⟨rfl, -⟩ := Prod.mk.inj (Option.some.inj hfind)
          simp
  · induction ranges generalizing above below with
    | nil =>
        obtain ⟨-, rfl⟩ := Prod.mk.inj (Option.some.inj hfind)
        simp
    | cons r rs ih =>
        obtain ⟨hle, hgap, hrs⟩ := separated_cons.1 h
        rw [recvRecordFind] at hfind
        split_ifs at hfind with hhigh hlow
        · obtain ⟨p, hp, hpair⟩ := Option.map_eq_some_iff.1 hfind
          obtain ⟨rfl, rfl⟩ := Prod.mk.inj hpair
          exact ih hrs hp (recvRecordFind_mem hp)
        · obtain ⟨-, rfl⟩ := Prod.mk.inj (Option.some.inj hfind)
          refine List.forall_mem_cons.2 ⟨by omega, fun b hb => ?_⟩
          have := hgap b hb
          omega

/-- What the insertion of a packet number between `above` and `below` comes to. -/
structure Inserts (packetNumber : ℕ) (above below ranges : List PktnoRange) : Prop where
  sep : PktnoRange.Sep ranges
  held : PktnoRange.Held ranges = insert packetNumber (PktnoRange.Held (above ++ below))

section Insert

variable {packetNumber : ℕ} {above below : List PktnoRange} {prev node : PktnoRange}

theorem Spot.new (h : Spot packetNumber above below)
    (habove : ∀ a ∈ above, packetNumber + 1 < a.low) (hbelow : ∀ b ∈ below, b.high + 1 < packetNumber) :
    Inserts packetNumber above below (above ++ ⟨packetNumber, packetNumber⟩ :: below) := by
  obtain ⟨ha, hb, hcross⟩ := separated_append.1 h.sep
  refine ⟨separated_append.2 ⟨ha, separated_cons.2 ⟨le_rfl, hbelow, hb⟩, fun a hmem => ?_⟩, ?_⟩
  · exact List.forall_mem_cons.2 ⟨habove a hmem, hcross a hmem⟩
  · ext n
    simp only [PktnoRange.Held, held_append, held_cons, Set.mem_union, Set.mem_insert_iff, Set.mem_Icc]
    grind

/-- The parts of a list of ranges with a range in front of its end. -/
theorem separated_middle {c : PktnoRange} :
    PktnoRange.Sep (above ++ c :: below) ↔
      PktnoRange.Sep above ∧ c.low ≤ c.high ∧ PktnoRange.Sep below ∧
        (∀ a ∈ above, c.high + 1 < a.low) ∧ (∀ b ∈ below, b.high + 1 < c.low) ∧
          ∀ a ∈ above, ∀ b ∈ below, b.high + 1 < a.low := by
  simp only [PktnoRange.Sep, separated_append, separated_cons, List.forall_mem_cons]
  grind

theorem mem_held_middle {c : PktnoRange} {n : ℕ} :
    n ∈ PktnoRange.Held (above ++ c :: below) ↔
      n ∈ PktnoRange.Held above ∨ (c.low ≤ n ∧ n ≤ c.high) ∨ n ∈ PktnoRange.Held below := by
  simp [PktnoRange.Held]

theorem Spot.lower (h : Spot packetNumber (above ++ [prev]) below) (hprev : prev.low = packetNumber + 1)
    (hbelow : ∀ b ∈ below, b.high + 1 < packetNumber) :
    Inserts packetNumber (above ++ [prev]) below (above ++ ⟨packetNumber, prev.high⟩ :: below) := by
  have hsep := h.sep
  rw [List.append_assoc, List.singleton_append, separated_middle] at hsep
  obtain ⟨ha, hle, hb, hhigh, hlow, hcross⟩ := hsep
  refine ⟨separated_middle.2 ⟨ha, ?_, hb, hhigh, hbelow, hcross⟩, ?_⟩
  · show packetNumber ≤ prev.high
    omega
  · ext n
    rw [List.append_assoc, List.singleton_append, Set.mem_insert_iff, mem_held_middle, mem_held_middle]
    dsimp only
    grind

theorem Spot.raise (h : Spot packetNumber above (node :: below)) (hnode : node.high + 1 = packetNumber)
    (habove : ∀ a ∈ above, packetNumber + 1 < a.low) :
    Inserts packetNumber above (node :: below) (above ++ ⟨node.low, packetNumber⟩ :: below) := by
  obtain ⟨ha, hle, hb, hhigh, hlow, hcross⟩ := separated_middle.1 h.sep
  refine ⟨separated_middle.2 ⟨ha, ?_, hb, habove, hlow, hcross⟩, ?_⟩
  · show node.low ≤ packetNumber
    omega
  · ext n
    rw [Set.mem_insert_iff, mem_held_middle, mem_held_middle]
    dsimp only
    grind

theorem Spot.join (h : Spot packetNumber (above ++ [prev]) (node :: below))
    (hprev : prev.low = packetNumber + 1) (hnode : node.high + 1 = packetNumber) :
    Inserts packetNumber (above ++ [prev]) (node :: below) (above ++ ⟨node.low, prev.high⟩ :: below) := by
  have hsep := h.sep
  rw [List.append_assoc, List.singleton_append, separated_middle] at hsep
  obtain ⟨ha, hle, hb, hhigh, hlow, hcross⟩ := hsep
  obtain ⟨hnodeLe, hnodeGap, hbelow⟩ := separated_cons.1 hb
  refine ⟨separated_middle.2 ⟨ha, ?_, hbelow, hhigh, hnodeGap, fun a hmem b hmem' =>
    hcross a hmem b (List.mem_cons_of_mem _ hmem')⟩, ?_⟩
  · show node.low ≤ prev.high
    omega
  · ext n
    rw [List.append_assoc, List.singleton_append, Set.mem_insert_iff, mem_held_middle, mem_held_middle]
    simp only [PktnoRange.Held, held_cons, Set.mem_union, Set.mem_Icc]
    grind

end Insert

/-! ## One call -/

/-- The nodes are counted, and they are not too many. -/
structure RecvNodes.Inv (r : RecvNodes) : Prop where
  sep : PktnoRange.Sep r.ranges
  count : r.nodeCount = r.ranges.length
  cap : r.ranges.length ≤ maxAckRangeCnt
  below : r.toRecvRecord.Below (2 ^ 62)

/-- The set that the nodes stand for. -/
def RecvNodes.ref (r : RecvNodes) : RefRecord := ⟨PktnoRange.Held r.ranges, r.rrDelFrom⟩

section Calls

variable {packetNumber : ℕ} {above below ranges : List PktnoRange} {prev node : PktnoRange}

theorem pktnoRangeCanMerge_above (hlt : packetNumber < prev.low) (hle : prev.low ≤ prev.high)
    (hhigh : prev.high < 2 ^ 62) :
    pktnoRangeCanMerge packetNumber prev =
      if prev.low = packetNumber + 1 then some ⟨packetNumber, prev.high⟩ else none := by
  have hsub : u64Sub prev.low 1 = prev.low - 1 := u64Sub_eq (by omega) (by omega)
  have hadd : u64Add prev.high 1 = prev.high + 1 := u64Add_eq (by omega)
  unfold pktnoRangeCanMerge
  rw [hsub, hadd]
  by_cases hlow : prev.low = packetNumber + 1
  · rw [if_pos (by omega), if_pos hlow, hlow]
    rfl
  · rw [if_neg (by omega), if_neg (by omega), if_neg hlow]

theorem pktnoRangeCanMerge_below (hlt : node.high < packetNumber) (hle : node.low ≤ node.high)
    (hpn : packetNumber < 2 ^ 62) :
    pktnoRangeCanMerge packetNumber node =
      if node.high + 1 = packetNumber then some ⟨node.low, packetNumber⟩ else none := by
  have hsub : u64Sub node.low 1 ≠ packetNumber := by
    unfold u64Sub
    omega
  have hadd : u64Add node.high 1 = node.high + 1 := u64Add_eq (by omega)
  unfold pktnoRangeCanMerge
  rw [if_neg hsub, hadd]
  by_cases hhigh : node.high + 1 = packetNumber
  · rw [if_pos hhigh, if_pos hhigh, hhigh]
  · rw [if_neg hhigh, if_neg hhigh]

theorem joinNodes_concat (hlow : prev.low = packetNumber) (hlt : node.high < packetNumber)
    (hpn : packetNumber < 2 ^ 62) :
    joinNodes (above ++ [prev]) node below =
      if node.high + 1 = packetNumber then (above ++ ⟨node.low, prev.high⟩ :: below, true)
      else (above ++ prev :: node :: below, false) := by
  have hsub : u64Sub prev.low 1 = packetNumber - 1 := by
    rw [hlow]
    exact u64Sub_eq (by omega) (by omega)
  unfold joinNodes
  rw [List.getLast?_concat]
  dsimp only
  rw [hsub, List.dropLast_concat]
  by_cases hhigh : node.high + 1 = packetNumber
  · rw [if_pos (by omega), if_pos hhigh]
  · rw [if_neg (by omega), if_neg hhigh, List.append_assoc, List.singleton_append]

theorem joinNodes_apart (habove : ∀ a ∈ above, node.high + 1 < a.low ∧ a.low < 2 ^ 62) :
    joinNodes above node below = (above ++ node :: below, false) := by
  unfold joinNodes
  split
  · rfl
  · rename_i last hlast
    obtain ⟨hlt, hle⟩ := habove last (List.mem_of_getLast? hlast)
    have hsub : u64Sub last.low 1 = last.low - 1 := u64Sub_eq (by omega) (by omega)
    rw [hsub, if_neg (by omega)]

/-- The set after the insertion, by the length of the list. -/
theorem Inserts.ref_add (h : Inserts packetNumber above below ranges) (d : ℕ) :
    (RefRecord.add ⟨PktnoRange.Held (above ++ below), d⟩ packetNumber).members =
      if maxAckRangeCnt < ranges.length then PktnoRange.Held ranges.dropLast
      else PktnoRange.Held ranges := by
  unfold RefRecord.add
  dsimp only
  rw [← h.held, ncard_tops_held h.sep]
  split_ifs with hcap
  · obtain ⟨l, a, hl⟩ := List.eq_nil_or_concat' ranges |>.resolve_left (by
      rintro rfl
      simp at hcap)
    have hsep := h.sep
    rw [hl] at hsep ⊢
    rw [List.dropLast_concat]
    exact dropLowest_held hsep
  · rfl

/-- The ranges that are left of `ranges` under the cap. -/
def capped (ranges : List PktnoRange) : List PktnoRange :=
  if maxAckRangeCnt < ranges.length then ranges.dropLast else ranges

theorem capped_of_le (h : ranges.length ≤ maxAckRangeCnt) : capped ranges = ranges := if_neg (by omega)

/-- The nodes `r'` are those of `r` with the packet number inserted. -/
structure RecvNodes.Adds (r r' : RecvNodes) (packetNumber : ℕ) (above below : List PktnoRange) : Prop where
  inserts : ∃ ranges, Inserts packetNumber above below ranges ∧ r'.ranges = capped ranges ∧
    ranges.length ≤ r.ranges.length + 1
  count : r'.nodeCount = r'.ranges.length
  rrDelFrom : r'.rrDelFrom = r.rrDelFrom

theorem RecvNodes.Inv.merge {r : RecvNodes} (h : r.Inv) {merged : List PktnoRange × Bool}
    (hins : Inserts packetNumber above below merged.1)
    (hlen : merged.1.length + merged.2.toNat = r.ranges.length) :
    r.Adds (r.merge merged) packetNumber above below := by
  have hcap := h.cap
  refine ⟨⟨merged.1, hins, ?_, by omega⟩, ?_, rfl⟩
  · show merged.1 = capped merged.1
    rw [capped_of_le (by omega)]
  · have hcount := h.count
    obtain ⟨ranges, joined⟩ := merged
    cases joined with
    | false =>
        show r.nodeCount = ranges.length
        simp at hlen
        omega
    | true =>
        show r.nodeCount - 1 = ranges.length
        simp at hlen
        omega

theorem RecvNodes.Inv.insertNode {r : RecvNodes} (h : r.Inv) (hranges : r.ranges = above ++ below)
    (hins : Inserts packetNumber above below (above ++ ⟨packetNumber, packetNumber⟩ :: below)) :
    r.Adds (r.insertNode packetNumber above below) packetNumber above below := by
  have hcap := h.cap
  have hcount := h.count
  have hlen : (above ++ (⟨packetNumber, packetNumber⟩ : PktnoRange) :: below).length =
      r.ranges.length + 1 := by
    rw [hranges]
    simp
    omega
  generalize hnode : (⟨packetNumber, packetNumber⟩ : PktnoRange) = node at hins hlen
  unfold RecvNodes.insertNode
  rw [hnode]
  dsimp only
  by_cases hbelow : below = []
  · rw [if_neg (by simp [hbelow])]
    by_cases hroom : r.nodeCount < maxAckRangeCnt
    · rw [if_pos hroom]
      refine ⟨⟨_, hins, ?_, hlen.le⟩, ?_, rfl⟩
      · rw [capped_of_le (by omega), hbelow]
      · show r.nodeCount + 1 = ((above ++ [node]).length : ℤ)
        rw [hbelow] at hlen
        omega
    · rw [if_neg hroom]
      refine ⟨⟨_, hins, ?_, hlen.le⟩, hcount, rfl⟩
      rw [capped, if_pos (by omega), hranges, hbelow, List.dropLast_concat, List.append_nil]
  · rw [if_pos hbelow]
    by_cases hfull : (maxAckRangeCnt : ℤ) < r.nodeCount + 1
    · rw [if_pos hfull]
      obtain ⟨l, last, hl⟩ :=
        (List.eq_nil_or_concat' (above ++ node :: below)).resolve_left (by simp)
      have hdelete : deleteLast (above ++ node :: below).reverse (r.nodeCount + 1) =
          (l.reverse, r.nodeCount) := by
        rw [hl, List.reverse_concat, deleteLast, if_pos (by omega)]
        simp
      have hll : l.length = r.ranges.length := by
        rw [hl] at hlen
        simpa using hlen
      rw [hdelete]
      refine ⟨⟨_, hins, ?_, hlen.le⟩, ?_, rfl⟩
      · rw [capped, if_pos (by omega), hl, List.dropLast_concat, List.reverse_reverse]
      · show r.nodeCount = (l.reverse.reverse.length : ℤ)
        rw [List.reverse_reverse, hll, hcount]
    · rw [if_neg hfull]
      refine ⟨⟨_, hins, ?_, hlen.le⟩, ?_, rfl⟩
      · rw [capped_of_le (by omega)]
      · show r.nodeCount + 1 = ((above ++ node :: below).length : ℤ)
        omega

theorem Spot.bind_eq_some (h : Spot packetNumber above below) (hhigh : ∀ a ∈ above, a.high < 2 ^ 62)
    (hbind : above.getLast?.bind (pktnoRangeCanMerge packetNumber) = some node) :
    ∃ init prev, above = init ++ [prev] ∧ prev.low = packetNumber + 1 ∧
      node = ⟨packetNumber, prev.high⟩ := by
  obtain ⟨prev, hlast, hmerge⟩ := Option.bind_eq_some_iff.1 hbind
  obtain ⟨init, rfl⟩ := List.getLast?_eq_some_iff.1 hlast
  have hmem : prev ∈ init ++ [prev] := List.mem_append_right _ List.mem_cons_self
  rw [pktnoRangeCanMerge_above (h.above_lt prev hmem)
    (h.sep.le prev (List.mem_append_left _ hmem)) (hhigh prev hmem)] at hmerge
  split_ifs at hmerge with hlow
  exact ⟨init, prev, rfl, hlow, (Option.some.inj hmerge).symm⟩

theorem Spot.bind_eq_none (h : Spot packetNumber above below) (hhigh : ∀ a ∈ above, a.high < 2 ^ 62)
    (hbind : above.getLast?.bind (pktnoRangeCanMerge packetNumber) = none) :
    ∀ a ∈ above, packetNumber + 1 < a.low := by
  rcases List.eq_nil_or_concat' above with rfl | ⟨init, prev, rfl⟩
  · simp
  · have hmem : prev ∈ init ++ [prev] := List.mem_append_right _ List.mem_cons_self
    have hlt := h.above_lt prev hmem
    rw [List.getLast?_concat, Option.bind_some, pktnoRangeCanMerge_above hlt
      (h.sep.le prev (List.mem_append_left _ hmem)) (hhigh prev hmem)] at hbind
    split_ifs at hbind with hlow
    have hsep := (separated_append.1 h.sep).1
    obtain ⟨-, -, hcross⟩ := separated_append.1 hsep
    intro a ha
    rcases List.mem_append.1 ha with ha | ha
    · have := hcross a ha prev List.mem_cons_self
      have := hsep.le prev hmem
      omega
    · rw [List.mem_singleton.1 ha]
      omega

/-- The ranges below the first one that does not touch the packet number do not touch it either. -/
theorem Spot.gap_below (h : Spot packetNumber above (node :: below)) (hnode : node.high + 1 ≠ packetNumber) :
    ∀ b ∈ node :: below, b.high + 1 < packetNumber := by
  have hlt := h.below_lt node List.mem_cons_self
  obtain ⟨-, hb, -⟩ := separated_append.1 h.sep
  obtain ⟨hle, hgap, -⟩ := separated_cons.1 hb
  refine List.forall_mem_cons.2 ⟨by omega, fun b hmem => ?_⟩
  have := hgap b hmem
  omega

section AddNew

variable {r : RecvNodes}

theorem RecvNodes.Inv.mergeAbove (h : r.Inv) (hpn : packetNumber < 2 ^ 62)
    (hranges : r.ranges = above ++ [prev] ++ below) (hspot : Spot packetNumber (above ++ [prev]) below)
    (hprev : prev.low = packetNumber + 1) :
    r.Adds (r.mergeAbove (above ++ [prev]) ⟨packetNumber, prev.high⟩ below) packetNumber
      (above ++ [prev]) below := by
  cases below with
  | nil =>
      rw [RecvNodes.mergeAbove, List.dropLast_concat]
      refine h.merge (hspot.lower hprev (by simp)) ?_
      rw [hranges]
      simp
  | cons node below =>
      have hnode := hspot.below_lt node List.mem_cons_self
      rw [RecvNodes.mergeAbove, List.dropLast_concat, joinNodes_concat rfl hnode hpn]
      by_cases hadj : node.high + 1 = packetNumber
      · rw [if_pos hadj]
        refine h.merge (hspot.join hprev hadj) ?_
        rw [hranges]
        simp
        omega
      · rw [if_neg hadj]
        refine h.merge (hspot.lower hprev (hspot.gap_below hadj)) ?_
        rw [hranges]
        simp

theorem RecvNodes.Inv.mergeBelow (h : r.Inv) (hpn : packetNumber < 2 ^ 62)
    (hranges : r.ranges = above ++ below) (hspot : Spot packetNumber above below)
    (hgap : ∀ a ∈ above, packetNumber + 1 < a.low) (hlow : ∀ a ∈ above, a.low < 2 ^ 62) :
    r.Adds (r.mergeBelow packetNumber above below) packetNumber above below := by
  cases below with
  | nil =>
      rw [RecvNodes.mergeBelow]
      exact h.insertNode hranges (hspot.new hgap (by simp))
  | cons node below =>
      have hmerge := pktnoRangeCanMerge_below (hspot.below_lt node List.mem_cons_self)
        (hspot.sep.le node (List.mem_append_right _ List.mem_cons_self)) hpn
      rw [RecvNodes.mergeBelow, hmerge]
      by_cases hadj : node.high + 1 = packetNumber
      · rw [if_pos hadj, RecvNodes.mergeNode, joinNodes_apart fun a ha => ⟨hgap a ha, hlow a ha⟩]
        refine h.merge (hspot.raise hadj hgap) ?_
        rw [hranges]
        simp
      · rw [if_neg hadj, RecvNodes.mergeNode]
        exact h.insertNode hranges (hspot.new hgap (hspot.gap_below hadj))

theorem RecvNodes.Inv.above_lt (h : r.Inv) (hranges : r.ranges = above ++ below) :
    ∀ a ∈ above, a.high < 2 ^ 62 := by
  intro a ha
  apply h.below
  rw [hranges]
  exact List.mem_append_left _ ha

theorem RecvNodes.Inv.addNew (h : r.Inv) (hpn : packetNumber < 2 ^ 62)
    (hfind : recvRecordFind packetNumber r.ranges = some (above, below)) :
    r.Adds (r.addNew packetNumber above below) packetNumber above below := by
  have hranges := recvRecordFind_mem hfind
  have hspot := spot_of_recvRecordFind h.sep hfind
  have habove := h.above_lt hranges
  unfold RecvNodes.addNew
  cases hbind : above.getLast?.bind (pktnoRangeCanMerge packetNumber) with
  | some merged =>
      obtain ⟨init, prev, rfl, hprev, rfl⟩ := hspot.bind_eq_some habove hbind
      exact h.mergeAbove hpn hranges hspot hprev
  | none =>
      refine h.mergeBelow hpn hranges hspot (hspot.bind_eq_none habove hbind) fun a ha => ?_
      exact (hspot.sep.le a (List.mem_append_left _ ha)).trans_lt (habove a ha)

/-- `rqc_recv_record_add` on the nodes and on the set. -/
theorem RecvNodes.Inv.add (h : r.Inv) (hpn : packetNumber < 2 ^ 62) :
    (r.add packetNumber).1.Inv ∧ (r.add packetNumber).1.ref = r.ref.add packetNumber ∧
      ((r.add packetNumber).2 = .dup ↔ packetNumber ∈ PktnoRange.Held r.ranges) := by
  unfold RecvNodes.add
  cases hfind : recvRecordFind packetNumber r.ranges with
  | none =>
      have hmem := (recvRecordFind_eq_none h.sep).1 hfind
      refine ⟨h, ?_, by simp [hmem]⟩
      unfold RefRecord.add RecvNodes.ref
      rw [Set.insert_eq_of_mem hmem, ncard_tops_held h.sep, if_neg (by have := h.cap; omega)]
  | some p =>
      obtain ⟨above, below⟩ := p
      obtain ⟨⟨ranges, hins, hnew, hlen⟩, hcount, hdel⟩ := h.addNew hpn hfind
      have hnot : packetNumber ∉ PktnoRange.Held r.ranges := by
        rw [← recvRecordFind_eq_none h.sep, hfind]
        simp
      have hcap := h.cap
      have hsub : PktnoRange.Held (capped ranges) ⊆ PktnoRange.Held ranges ∧
          PktnoRange.Sep (capped ranges) ∧ (capped ranges).length ≤ maxAckRangeCnt := by
        unfold capped
        split_ifs with hfull
        · have hsublist := List.dropLast_sublist ranges
          refine ⟨fun n hn => ?_, ⟨fun a ha => hins.sep.le a (hsublist.subset ha),
            hins.sep.apart.sublist hsublist⟩, ?_⟩
          · obtain ⟨a, ha, hin⟩ := hn
            exact ⟨a, hsublist.subset ha, hin⟩
          · rw [List.length_dropLast]
            omega
        · exact ⟨subset_rfl, hins.sep, by omega⟩
      refine ⟨⟨hnew ▸ hsub.2.1, hcount, hnew ▸ hsub.2.2, fun a ha => ?_⟩, ?_, by simp [hnot]⟩
      · rw [hnew] at ha
        have hmem := hsub.1 ⟨a, ha, hsub.2.1.le a ha, le_rfl⟩
        rw [hins.held] at hmem
        rcases hmem with heq | ⟨b, hb, -, hle⟩
        · rw [heq]
          exact hpn
        · rw [← recvRecordFind_mem hfind] at hb
          exact hle.trans_lt (h.below b hb)
      · have hadd := hins.ref_add r.rrDelFrom
        unfold RecvNodes.ref
        rw [hnew, hdel, recvRecordFind_mem hfind]
        unfold capped
        rw [apply_ite PktnoRange.Held, ← hadd]
        rfl

end AddNew

theorem delNodes_spec (d : ℕ) (h : PktnoRange.Sep ranges) (nodeCount : ℤ) :
    PktnoRange.Sep (RecvNodes.delNodes d ranges nodeCount).1 ∧
      PktnoRange.Held (RecvNodes.delNodes d ranges nodeCount).1 =
        {n | n ∈ PktnoRange.Held ranges ∧ d ≤ n} ∧
      (RecvNodes.delNodes d ranges nodeCount).2 + ranges.length =
        nodeCount + (RecvNodes.delNodes d ranges nodeCount).1.length ∧
      (RecvNodes.delNodes d ranges nodeCount).1.length ≤ ranges.length := by
  induction ranges generalizing nodeCount with
  | nil => simp [RecvNodes.delNodes, separated_nil, PktnoRange.Held]
  | cons r rs ih =>
      obtain ⟨hle, hgap, hrs⟩ := separated_cons.1 h
      have hrest : ∀ n ∈ PktnoRange.Held rs, n + 1 < r.low := by
        rintro n ⟨b, hb, -, hn⟩
        have := hgap b hb
        omega
      have hkept : ∀ {ranges : List PktnoRange} {b : PktnoRange}, PktnoRange.Sep ranges →
          PktnoRange.Held ranges = {n | n ∈ PktnoRange.Held rs ∧ d ≤ n} → b ∈ ranges →
          b.high ∈ PktnoRange.Held rs := by
        intro ranges b hsep hheld hb
        have hmem : b.high ∈ PktnoRange.Held ranges := ⟨b, hb, hsep.le b hb, le_rfl⟩
        rw [hheld] at hmem
        exact hmem.1
      rw [RecvNodes.delNodes]
      split_ifs with hlow hhigh
      · obtain ⟨hsep, hheld, hcount, hlen⟩ := ih hrs (nodeCount - 1)
        refine ⟨hsep, ?_, ?_, ?_⟩
        · rw [hheld]
          ext n
          simp only [PktnoRange.Held, held_cons, Set.mem_union, Set.mem_Icc, Set.mem_ofPred_eq]
          grind
        · rw [List.length_cons]
          omega
        · rw [List.length_cons]
          omega
      · obtain ⟨hsep, hheld, hcount, hlen⟩ := ih hrs nodeCount
        refine ⟨separated_cons.2 ⟨by simpa using hhigh, fun b hb => ?_, hsep⟩, ?_, ?_, ?_⟩
        · have := hrest b.high (hkept hsep hheld hb)
          show b.high + 1 < d
          omega
        · ext n
          simp only [PktnoRange.Held, held_cons, Set.mem_union, Set.mem_Icc, Set.mem_ofPred_eq] at hheld ⊢
          rw [hheld, Set.mem_ofPred_eq]
          grind
        · simp only [List.length_cons]
          omega
        · simp only [List.length_cons]
          omega
      · obtain ⟨hsep, hheld, hcount, hlen⟩ := ih hrs nodeCount
        refine ⟨separated_cons.2 ⟨hle, fun b hb => hrest b.high (hkept hsep hheld hb), hsep⟩, ?_, ?_, ?_⟩
        · ext n
          simp only [PktnoRange.Held, held_cons, Set.mem_union, Set.mem_Icc, Set.mem_ofPred_eq] at hheld ⊢
          rw [hheld, Set.mem_ofPred_eq]
          grind
        · simp only [List.length_cons]
          omega
        · simp only [List.length_cons]
          omega

theorem RecvNodes.Inv.del {r : RecvNodes} (h : r.Inv) (d : ℕ) :
    (r.del d).Inv ∧ (r.del d).ref = r.ref.del d := by
  obtain ⟨hsep, hheld, hcount, hlen⟩ := delNodes_spec d h.sep r.nodeCount
  have hold := h.count
  have hcap := h.cap
  unfold RecvNodes.del RefRecord.del
  by_cases hd : d < r.rrDelFrom
  · rw [if_pos hd, if_pos (show d < r.ref.delFrom from hd)]
    exact ⟨h, rfl⟩
  · rw [if_neg hd, if_neg (show ¬ d < r.ref.delFrom from hd)]
    refine ⟨⟨hsep, ?_, hlen.trans hcap, fun a ha => ?_⟩, ?_⟩
    · dsimp only
      omega
    · have hmem : a.high ∈ PktnoRange.Held (delNodes d r.ranges r.nodeCount).1 :=
        ⟨a, ha, hsep.le a ha, le_rfl⟩
      rw [hheld] at hmem
      obtain ⟨⟨b, hb, -, hle⟩, -⟩ := hmem
      exact hle.trans_lt (h.below b hb)
    · unfold RecvNodes.ref
      dsimp only
      rw [hheld]

end Calls

/-! ## Without the count -/

section Uncounted

variable {r : RecvNodes} {packetNumber : ℕ} {above below : List PktnoRange} {prev : PktnoRange}

theorem RecvNodes.insertNode_ranges (packetNumber : ℕ) (hcount : r.nodeCount = r.ranges.length)
    (hcap : r.ranges.length ≤ maxAckRangeCnt) (hranges : r.ranges = above ++ below) :
    (r.insertNode packetNumber above below).ranges =
      if below = [] then
        if above.length < maxAckRangeCnt then above ++ [⟨packetNumber, packetNumber⟩] else above
      else (above ++ ⟨packetNumber, packetNumber⟩ :: below).take maxAckRangeCnt := by
  have hlen : (above ++ below).length = r.ranges.length := by rw [hranges]
  rw [List.length_append] at hlen
  generalize hnode : (⟨packetNumber, packetNumber⟩ : PktnoRange) = node
  unfold RecvNodes.insertNode
  rw [hnode]
  dsimp only
  by_cases hbelow : below = []
  · rw [if_neg (by simp [hbelow]), if_pos hbelow]
    rw [hbelow, List.length_nil] at hlen
    by_cases hroom : r.nodeCount < maxAckRangeCnt
    · rw [if_pos hroom, if_pos (by omega)]
    · rw [if_neg hroom, if_neg (by omega), hranges, hbelow, List.append_nil]
  · rw [if_pos hbelow, if_neg hbelow]
    by_cases hfull : (maxAckRangeCnt : ℤ) < r.nodeCount + 1
    · rw [if_pos hfull]
      obtain ⟨l, last, hl⟩ :=
        (List.eq_nil_or_concat' (above ++ node :: below)).resolve_left (by simp)
      have hll : l.length = maxAckRangeCnt := by
        have := congrArg List.length hl
        simp at this
        omega
      rw [hl, List.reverse_concat, deleteLast, if_pos (by omega), List.reverse_reverse,
        List.take_left' hll]
    · rw [if_neg hfull, List.take_of_length_le]
      rw [List.length_append, List.length_cons]
      omega

theorem recvRecordInsert_of_apart {ranges : List PktnoRange}
    (hlast : ∀ prev, above.getLast? = some prev → prev.low ≠ packetNumber + 1)
    (hnew : ranges = if below = [] then
        if above.length < maxAckRangeCnt then above ++ [⟨packetNumber, packetNumber⟩] else above
      else (above ++ ⟨packetNumber, packetNumber⟩ :: below).take maxAckRangeCnt) :
    recvRecordInsert packetNumber above below =
      match below with
      | [] => ranges
      | node :: rest =>
        if node.high + 1 = packetNumber then above ++ ⟨node.low, packetNumber⟩ :: rest else ranges := by
  unfold recvRecordInsert
  dsimp only
  rw [← hnew]
  cases hprev : above.getLast? with
  | none => cases below <;> rfl
  | some prev =>
      dsimp only
      rw [if_neg (hlast prev hprev)]
      cases below <;> rfl

theorem RecvNodes.Inv.addNew_ranges (h : r.Inv) (hpn : packetNumber < 2 ^ 62)
    (hfind : recvRecordFind packetNumber r.ranges = some (above, below)) :
    (r.addNew packetNumber above below).ranges = recvRecordInsert packetNumber above below := by
  have hranges := recvRecordFind_mem hfind
  have hspot := spot_of_recvRecordFind h.sep hfind
  have hnew := RecvNodes.insertNode_ranges packetNumber h.count h.cap hranges
  have habove := h.above_lt hranges
  unfold RecvNodes.addNew
  cases hbind : above.getLast?.bind (pktnoRangeCanMerge packetNumber) with
  | some merged =>
      obtain ⟨init, prev, rfl, hprev, rfl⟩ := hspot.bind_eq_some habove hbind
      unfold recvRecordInsert
      rw [List.getLast?_concat]
      dsimp only
      rw [if_pos hprev]
      cases below with
      | nil => rfl
      | cons node below =>
          have hnode := hspot.below_lt node List.mem_cons_self
          rw [RecvNodes.mergeAbove, List.dropLast_concat, joinNodes_concat rfl hnode hpn]
          by_cases hadj : node.high + 1 = packetNumber
          · rw [if_pos hadj]
            dsimp only
            rw [if_pos hadj.symm]
            rfl
          · rw [if_neg hadj]
            dsimp only
            rw [if_neg (Ne.symm hadj)]
            rfl
  | none =>
      have hgap := hspot.bind_eq_none habove hbind
      have hlast : ∀ prev, above.getLast? = some prev → prev.low ≠ packetNumber + 1 := by
        intro prev hprev
        have := hgap prev (List.mem_of_getLast? hprev)
        omega
      rw [recvRecordInsert_of_apart hlast hnew]
      cases below with
      | nil => rfl
      | cons node below =>
          have hmerge := pktnoRangeCanMerge_below (hspot.below_lt node List.mem_cons_self)
            (hspot.sep.le node (List.mem_append_right _ List.mem_cons_self)) hpn
          dsimp only
          rw [RecvNodes.mergeBelow, hmerge]
          by_cases hadj : node.high + 1 = packetNumber
          · rw [if_pos hadj, if_pos hadj, RecvNodes.mergeNode, joinNodes_apart fun a ha =>
              ⟨hgap a ha, (hspot.sep.le a (List.mem_append_left _ ha)).trans_lt (habove a ha)⟩]
            rfl
          · rw [if_neg hadj, if_neg hadj, RecvNodes.mergeNode]

/-- **Without the count, a call is one of the record.** -/
theorem RecvNodes.Inv.add_toRecvRecord (h : r.Inv) (hpn : packetNumber < 2 ^ 62) :
    ((r.add packetNumber).1.toRecvRecord, (r.add packetNumber).2) =
      recvRecordAdd r.toRecvRecord packetNumber := by
  unfold RecvNodes.add recvRecordAdd
  cases hfind : recvRecordFind packetNumber r.ranges with
  | none => rfl
  | some p =>
      obtain ⟨above, below⟩ := p
      have hranges := h.addNew_ranges hpn hfind
      have hdel := (h.addNew hpn hfind).rrDelFrom
      dsimp only
      rw [← hranges, ← hdel]

theorem delNodes_ranges (d : ℕ) (ranges : List PktnoRange) (nodeCount : ℤ)
    (hle : ∀ r ∈ ranges, r.low ≤ r.high) :
    (RecvNodes.delNodes d ranges nodeCount).1 =
      (ranges.filter fun r => ¬ r.high < d).map fun r => if r.low < d then { r with low := d } else r := by
  induction ranges generalizing nodeCount with
  | nil => rfl
  | cons r rs ih =>
      obtain ⟨hr, hrs⟩ := List.forall_mem_cons.1 hle
      rw [RecvNodes.delNodes]
      split_ifs with hlow hhigh
      · rw [ih _ hrs, List.filter_cons_of_neg (by simpa using hhigh)]
      · rw [List.filter_cons_of_pos (by simpa using hhigh), List.map_cons, if_pos hlow, ← ih _ hrs]
      · rw [List.filter_cons_of_pos (by simp; omega), List.map_cons, if_neg hlow, ← ih _ hrs]

theorem RecvNodes.Inv.del_toRecvRecord (h : r.Inv) (d : ℕ) :
    (r.del d).toRecvRecord = recvRecordDel r.toRecvRecord d := by
  unfold RecvNodes.del recvRecordDel
  split_ifs
  · rfl
  · dsimp only
    rw [delNodes_ranges d r.ranges r.nodeCount h.sep.le]

end Uncounted

/-! ## Sequences of calls -/

theorem RecvNodes.Inv.step {r : RecvNodes} (h : r.Inv) {op : RecordOp} (hop : op.Wf) :
    (r.step op).Inv ∧ (r.step op).ref = r.ref.step op := by
  cases op with
  | add n => exact ⟨(h.add hop).1, (h.add hop).2.1⟩
  | del d => exact h.del d

theorem RecvNodes.Inv.run {r : RecvNodes} (h : r.Inv) {ops : List RecordOp}
    (hops : ∀ op ∈ ops, op.Wf) : (r.run ops).Inv ∧ (r.run ops).ref = r.ref.run ops := by
  induction ops generalizing r with
  | nil => exact ⟨h, rfl⟩
  | cons op ops ih =>
      obtain ⟨hop, hrest⟩ := List.forall_mem_cons.1 hops
      obtain ⟨hinv, href⟩ := h.step hop
      obtain ⟨hrun, hset⟩ := ih hinv hrest
      refine ⟨hrun, ?_⟩
      rw [href] at hset
      exact hset

theorem RecvNodes.Inv.init : RecvNodes.Inv {} where
  sep := separated_nil
  count := rfl
  cap := Nat.zero_le _
  below := by simp [RecvRecord.Below]

/-- **The nodes hold exactly the set**, from the largest range down with gaps between them, each counted
once and at most 64; a number that is added again is a duplicate. -/
theorem RecvNodes.run_refines (ops : List RecordOp) (hops : ∀ op ∈ ops, op.Wf) :
    (∀ r ∈ (RecvNodes.run {} ops).ranges, r.low ≤ r.high) ∧
      ((RecvNodes.run {} ops).ranges.Pairwise fun r r' => r'.high + 1 < r.low) ∧
      (RecvNodes.run {} ops).nodeCount = (RecvNodes.run {} ops).ranges.length ∧
      (RecvNodes.run {} ops).ranges.length ≤ maxAckRangeCnt ∧
      (∀ n, n ∈ (RefRecord.run {} ops).members ↔
        ∃ r ∈ (RecvNodes.run {} ops).ranges, r.low ≤ n ∧ n ≤ r.high) ∧
      ∀ n < 2 ^ 62, (((RecvNodes.run {} ops).add n).2 = .dup ↔ n ∈ (RefRecord.run {} ops).members) := by
  obtain ⟨hinv, href⟩ := RecvNodes.Inv.init.run hops
  have hinit : RecvNodes.ref {} = {} := by
    unfold RecvNodes.ref
    rw [PktnoRange.Held, held_nil]
  have hmembers : (RefRecord.run {} ops).members = PktnoRange.Held (RecvNodes.run {} ops).ranges := by
    rw [← hinit, ← href]
    rfl
  refine ⟨hinv.sep.le, hinv.sep.apart, hinv.count, hinv.cap, fun n => ?_, fun n hn => ?_⟩
  · rw [hmembers]
    rfl
  · rw [hmembers]
    exact (hinv.add hn).2.2

/-- A gap closes, and a deletion cuts a range. -/
def demoOps : List RecordOp := [.add 5, .add 3, .add 4, .add 9, .del 4]

theorem RecvNodes.run_refines_demoOps :
    (RecvNodes.run {} demoOps).ranges = [⟨9, 9⟩, ⟨4, 5⟩] ∧ 4 ∈ (RefRecord.run {} demoOps).members := by
  have hops : ∀ op ∈ demoOps, op.Wf := by simp [demoOps, RecordOp.Wf]
  have hranges : (RecvNodes.run {} demoOps).ranges = [⟨9, 9⟩, ⟨4, 5⟩] := by decide +kernel
  refine ⟨hranges, ((RecvNodes.run_refines demoOps hops).2.2.2.2.1 4).2 ⟨⟨4, 5⟩, ?_, by decide⟩⟩
  rw [hranges]
  decide

end Rquic

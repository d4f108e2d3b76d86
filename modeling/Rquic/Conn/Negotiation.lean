import Rquic.Conn.Header

set_option autoImplicit false

/-!
# Version negotiation

What a client makes of a Version Negotiation packet (`rqc_packet_parse_version_negotiation`). The versions on
the wire are compared with the number of the client's version in the enumeration, not with its value.

* `vnWords`, `keptVersions`: the versions of the packet, and those that are kept of them.
* `VnOutcome`: what the packet should do to the version.
* `vnChanges`: how many packets of a run change the version.
* **`negotiates_iff`**: the packet does what it should exactly when the two spaces of numbers do not clash and
  the choice is not cut off; no run changes the version twice.
-/

namespace Rquic

/-! ## The versions of a packet -/

/-- The versions of a packet, repeats and zeros included. -/
def vnWords : Bytes → List ℕ
  | b₀ :: b₁ :: b₂ :: b₃ :: bs => beVal [b₀, b₁, b₂, b₃] :: vnWords bs
  | _ => []

/-- A version is kept if it is not zero, not there yet, and there is room. -/
def keepVersion (versions : List ℕ) (version : ℕ) : List ℕ :=
  if version ≠ 0 ∧ version ∉ versions ∧ versions.length < 256 then versions ++ [version] else versions

/-- `supported_version_list`. -/
def keptVersions (words : List ℕ) : List ℕ := words.foldl keepVersion []

theorem versionList_eq (fuel : ℕ) (versions : List ℕ) (bs : Bytes) (hfuel : bs.length ≤ fuel) :
    NetConn.versionList fuel versions bs = (vnWords bs).foldl keepVersion versions := by
  induction fuel generalizing versions bs with
  | zero =>
      obtain rfl := List.length_eq_zero_iff.1 (Nat.le_zero.1 hfuel)
      rfl
  | succ fuel ih =>
      match bs with
      | [] | [_] | [_, _] | [_, _, _] => rfl
      | b₀ :: b₁ :: b₂ :: b₃ :: bs =>
          rw [NetConn.versionList, vnWords, List.foldl_cons]
          apply ih
          simp only [List.length_cons] at hfuel
          omega

theorem mem_keepVersion {versions : List ℕ} {version v : ℕ} (h : v ∈ keepVersion versions version) :
    v ∈ versions ∨ v = version ∧ version ≠ 0 := by
  unfold keepVersion at h
  split_ifs at h with hkeep
  · rcases List.mem_append.1 h with hmem | hmem
    · exact .inl hmem
    · exact .inr ⟨List.mem_singleton.1 hmem, hkeep.1⟩
  · exact .inl h

/-- What is kept stands in the packet, and is not zero. -/
theorem mem_foldl_keepVersion {words versions : List ℕ} {v : ℕ}
    (h : v ∈ words.foldl keepVersion versions) : v ∈ versions ∨ v ∈ words ∧ v ≠ 0 := by
  induction words generalizing versions with
  | nil => exact .inl h
  | cons word words ih =>
      rcases ih h with hmem | ⟨hmem, hne⟩
      · rcases mem_keepVersion hmem with hmem | ⟨rfl, hne⟩
        · exact .inl hmem
        · exact .inr ⟨List.mem_cons_self, hne⟩
      · exact .inr ⟨List.mem_cons_of_mem _ hmem, hne⟩

theorem mem_keptVersions {words : List ℕ} {v : ℕ} (h : v ∈ keptVersions words) : v ∈ words ∧ v ≠ 0 :=
  (mem_foldl_keepVersion h).resolve_left List.not_mem_nil

/-- As long as there is room for all of them, a search among the kept versions finds what a search in the
packet finds. -/
theorem find_foldl_keepVersion {p : ℕ → Bool} (hzero : p 0 = false) (words versions : List ℕ)
    (hlen : versions.length + words.length ≤ 256) :
    (words.foldl keepVersion versions).find? p = (versions ++ words).find? p := by
  induction words generalizing versions with
  | nil => rw [List.append_nil, List.foldl_nil]
  | cons word words ih =>
      rw [List.length_cons] at hlen
      rw [List.foldl_cons]
      by_cases hkeep : word ≠ 0 ∧ word ∉ versions ∧ versions.length < 256
      · have hlen' : (versions ++ [word]).length + words.length ≤ 256 := by
          rw [List.length_append, List.length_singleton]
          omega
        rw [keepVersion, if_pos hkeep, ih _ hlen', List.append_assoc, List.singleton_append]
      · rw [keepVersion, if_neg hkeep, ih _ (by omega), List.find?_append, List.find?_append]
        cases hword : p word with
        | false => rw [List.find?_cons_of_neg (by simp [hword])]
        | true =>
            -- the word is not zero, so it is among the versions already
            have hne : word ≠ 0 := fun h => by simp [h, hzero] at hword
            have hmem : word ∈ versions := by
              by_contra hnot
              exact hkeep ⟨hne, hnot, by omega⟩
            obtain ⟨v, hv⟩ := Option.isSome_iff_exists.1 (List.find?_isSome.2 ⟨word, hmem, hword⟩)
            rw [hv]
            rfl

/-! ## What a packet should do -/

/-- A client gets a Version Negotiation packet as its first packet, and it answers the client's own. The
versions stand in `rest`. -/
structure VnPacket (c : NetConn) (bs rest : Bytes) : Prop where
  client : c.connType = .client
  handshake : c.connState = .clientHandshake
  first : c.discardVn = false
  length : 4 + 2 ≤ bs.length
  version : beVal (bs.take 4) = 0
  cids : ∃ dcid, NetConn.parseCids (bs.drop 4) = .ok (dcid, c.originalDcid, rest) ∧
    c.foreignCids dcid c.originalDcid = false

/-- What the packet should do: nothing if the client's version is in it, otherwise the first version that the
client is configured for is taken, and if there is none the packet is refused. -/
structure VnOutcome (c : NetConn) (words : List ℕ) (version : ProtoVersion) (accepted : Bool) : Prop where
  listed : c.version.value ∈ words → version = c.version
  chosen : c.version.value ∉ words → ∀ v, words.find? (· ∈ c.supportVersions) = some v → version.value = v
  failed : c.version.value ∉ words → words.find? (· ∈ c.supportVersions) = none →
    accepted = false ∧ version = c.version

/-- What `rqc_packet_parse_version_negotiation` does: the version after it, and whether it succeeds. -/
def negotiated (c : NetConn) (words : List ℕ) : ProtoVersion × Bool :=
  if c.version.toNat ∈ keptVersions words then (c.version, true)
  else
    match (keptVersions words).find? (· ∈ c.supportVersions) with
    | none => (c.version, false)
    | some chosen => ((ProtoVersion.ofValue chosen).getD c.version, true)

theorem parseVersionNegotiation_eq {c : NetConn} {bs rest : Bytes} (h : VnPacket c bs rest) :
    (c.parseVersionNegotiation c.originalDcid rest).1.version = (negotiated c (vnWords rest)).1 ∧
      (c.parseVersionNegotiation c.originalDcid rest).2.isOk = (negotiated c (vnWords rest)).2 := by
  have hlist : NetConn.versionList rest.length [] rest = keptVersions (vnWords rest) :=
    versionList_eq _ _ _ le_rfl
  unfold NetConn.parseVersionNegotiation negotiated
  simp only [h.handshake, h.client, h.first, hlist, ne_eq, not_true, if_false, Bool.false_eq_true]
  by_cases hshort : rest.length < 4
  · have hempty : vnWords rest = [] := by
      rcases rest with _ | ⟨_, _ | ⟨_, _ | ⟨_, _ | ⟨_, _⟩⟩⟩⟩
      · rfl
      · rfl
      · rfl
      · rfl
      · simp only [List.length_cons] at hshort
        omega
    rw [if_pos hshort, hempty]
    exact ⟨rfl, rfl⟩
  · rw [if_neg hshort]
    split_ifs
    · exact ⟨rfl, rfl⟩
    · cases (keptVersions (vnWords rest)).find? (· ∈ c.supportVersions) <;> exact ⟨rfl, rfl⟩

/-- The version after the header, and whether the header is accepted. -/
theorem parseLongHeader_vn {c : NetConn} {bs rest : Bytes} (h : VnPacket c bs rest) (first : UInt8) :
    (c.parseLongHeader first bs).1.version = (negotiated c (vnWords rest)).1 ∧
      (c.parseLongHeader first bs).2.isOk = (negotiated c (vnWords rest)).2 := by
  obtain ⟨dcid, hcids, hforeign⟩ := h.cids
  have hcheck : c.versionCheck (beVal (bs.take 4)) = (c, true) := by
    rw [NetConn.versionCheck, if_neg]
    exact fun hserver => absurd (h.client.symm.trans hserver.1) (by simp)
  rw [← (parseVersionNegotiation_eq h).1, ← (parseVersionNegotiation_eq h).2]
  unfold NetConn.parseLongHeader
  dsimp only
  rw [if_neg (not_lt.2 h.length), if_neg (fun hserver => absurd (h.client.symm.trans hserver.2) (by simp)),
    if_neg (fun hfixed => hfixed.1 h.version), hcids]
  dsimp only
  rw [hforeign, if_neg Bool.false_ne_true, hcheck]
  dsimp only
  rw [decide_eq_true h.version, NetConn.parseLongBody, if_pos rfl]
  generalize c.parseVersionNegotiation c.originalDcid rest = r
  obtain ⟨c', ret⟩ := r
  cases ret with
  | error e => exact ⟨rfl, rfl⟩
  | ok =>
      dsimp only
      unfold NetConn.onHeaderParsed
      split_ifs <;> exact ⟨rfl, rfl⟩

/-! ## When it does -/

/-- The two spaces of numbers do not clash on the packet. -/
def VnAgrees (c : NetConn) (words : List ℕ) : Prop :=
  if c.version.value ∈ words then
    c.version.toNat ∈ keptVersions words ∨
      ∀ v, (keptVersions words).find? (· ∈ c.supportVersions) = some v →
        v = c.version.value ∨ v = ProtoVersion.initVer.value
  else
    c.version.toNat ∉ keptVersions words ∧
      (keptVersions words).find? (· ∈ c.supportVersions) = words.find? (· ∈ c.supportVersions) ∧
      words.find? (· ∈ c.supportVersions) ≠ some ProtoVersion.initVer.value

/-- The value that a version of the list stands for is translated, unless it is the placeholder. -/
theorem ofValue_value {v : ℕ} (hconfig : ∃ p : ProtoVersion, p.value = v) (hzero : v ≠ 0) :
    (v = ProtoVersion.initVer.value ∧ ProtoVersion.ofValue v = none) ∨
      ∃ p, ProtoVersion.ofValue v = some p ∧ p.value = v := by
  obtain ⟨p, rfl⟩ := hconfig
  cases p with
  | initVer => exact .inl ⟨rfl, rfl⟩
  | v1 => exact .inr ⟨.v1, rfl, rfl⟩
  | draft29 => exact .inr ⟨.draft29, rfl, rfl⟩
  | negotiation => exact absurd rfl hzero

theorem value_injective {p q : ProtoVersion} (h : p.value = q.value) : p = q := by
  cases p <;> cases q <;> first | rfl | exact absurd h (by decide)

section Agree

variable {c : NetConn} {words : List ℕ}

theorem chosen_spec {v : ℕ} (h : (keptVersions words).find? (· ∈ c.supportVersions) = some v) :
    v ∈ words ∧ v ≠ 0 ∧ v ∈ c.supportVersions := by
  have hmem := mem_keptVersions (List.mem_of_find?_eq_some h)
  have hfound := List.find?_some h
  exact ⟨hmem.1, hmem.2, of_decide_eq_true hfound⟩

theorem find_words_of_chosen {v : ℕ} (h : (keptVersions words).find? (· ∈ c.supportVersions) = some v) :
    ∃ w, words.find? (· ∈ c.supportVersions) = some w ∧ w ∈ words := by
  obtain ⟨hmem, -, hconfigured⟩ := chosen_spec h
  cases hfind : words.find? (· ∈ c.supportVersions) with
  | none => exact absurd (decide_eq_true hconfigured) (List.find?_eq_none.1 hfind v hmem)
  | some w => exact ⟨w, rfl, List.mem_of_find?_eq_some hfind⟩

theorem ofValue_chosen (hconfig : ∀ v ∈ c.supportVersions, ∃ p : ProtoVersion, p.value = v) {v : ℕ}
    (h : (keptVersions words).find? (· ∈ c.supportVersions) = some v) :
    (v = ProtoVersion.initVer.value ∧ (ProtoVersion.ofValue v).getD c.version = c.version) ∨
      (v ≠ ProtoVersion.initVer.value ∧ ((ProtoVersion.ofValue v).getD c.version).value = v) := by
  obtain ⟨-, hzero, hmem⟩ := chosen_spec h
  rcases ofValue_value (hconfig v hmem) hzero with ⟨hinit, hnone⟩ | ⟨p, hsome, rfl⟩
  · rw [hnone]
    exact .inl ⟨hinit, rfl⟩
  · rw [hsome]
    refine .inr ⟨fun hinit => ?_, rfl⟩
    rw [hinit] at hsome
    cases hsome

theorem vnOutcome_listed (hconfig : ∀ v ∈ c.supportVersions, ∃ p : ProtoVersion, p.value = v)
    (hlisted : c.version.value ∈ words) :
    VnOutcome c words (negotiated c words).1 (negotiated c words).2 ↔
      c.version.toNat ∈ keptVersions words ∨
        ∀ v, (keptVersions words).find? (· ∈ c.supportVersions) = some v →
          v = c.version.value ∨ v = ProtoVersion.initVer.value := by
  have houtcome : VnOutcome c words (negotiated c words).1 (negotiated c words).2 ↔
      (negotiated c words).1 = c.version :=
    ⟨fun h => h.listed hlisted, fun h => ⟨fun _ => h, fun hnot => absurd hlisted hnot,
      fun hnot => absurd hlisted hnot⟩⟩
  rw [houtcome]
  unfold negotiated
  by_cases hindex : c.version.toNat ∈ keptVersions words
  · rw [if_pos hindex]
    exact iff_of_true rfl (.inl hindex)
  rw [if_neg hindex]
  cases hfind : (keptVersions words).find? (· ∈ c.supportVersions) with
  | none => exact iff_of_true rfl (.inr fun _ hv => by cases hv)
  | some v =>
      rcases ofValue_chosen hconfig hfind with ⟨hinit, hkept⟩ | ⟨hinit, hvalue⟩
      · refine iff_of_true hkept (.inr fun v' hv' => .inr ?_)
        rw [← Option.some.inj hv', hinit]
      · constructor
        · intro heq
          refine .inr fun v' hv' => .inl ?_
          dsimp only at heq
          rw [← Option.some.inj hv', ← hvalue, heq]
        · intro hagree
          have hv := (hagree.resolve_left hindex v rfl).resolve_right hinit
          exact value_injective (hvalue.trans hv)

theorem vnOutcome_unlisted (hconfig : ∀ v ∈ c.supportVersions, ∃ p : ProtoVersion, p.value = v)
    (hlisted : c.version.value ∉ words) :
    VnOutcome c words (negotiated c words).1 (negotiated c words).2 ↔
      c.version.toNat ∉ keptVersions words ∧
        (keptVersions words).find? (· ∈ c.supportVersions) = words.find? (· ∈ c.supportVersions) ∧
        words.find? (· ∈ c.supportVersions) ≠ some ProtoVersion.initVer.value := by
  -- a version that stays is right only if nothing was to be chosen
  have hstays : ∀ {accepted}, VnOutcome c words c.version accepted →
      words.find? (· ∈ c.supportVersions) = none ∧ accepted = false := by
    intro accepted h
    cases hfind : words.find? (· ∈ c.supportVersions) with
    | none => exact ⟨rfl, (h.failed hlisted hfind).1⟩
    | some w =>
        have hw := h.chosen hlisted w hfind
        exact absurd (hw ▸ List.mem_of_find?_eq_some hfind) hlisted
  unfold negotiated
  by_cases hindex : c.version.toNat ∈ keptVersions words
  · rw [if_pos hindex]
    refine iff_of_false (fun h => ?_) fun h => h.1 hindex
    exact Bool.noConfusion (hstays h).2
  rw [if_neg hindex]
  cases hfind : (keptVersions words).find? (· ∈ c.supportVersions) with
  | none =>
      constructor
      · intro h
        obtain ⟨hnone, -⟩ := hstays h
        rw [hnone]
        exact ⟨hindex, rfl, by simp⟩
      · rintro ⟨-, hnone, -⟩
        refine ⟨fun hin => absurd hin hlisted, fun _ w hw => ?_, fun _ _ => ⟨rfl, rfl⟩⟩
        rw [← hnone] at hw
        cases hw
  | some v =>
      obtain ⟨w, hw, hmem⟩ := find_words_of_chosen hfind
      rw [hw]
      rcases ofValue_chosen hconfig hfind with ⟨hinit, hkept⟩ | ⟨hinit, hvalue⟩
      · refine iff_of_false (fun h => ?_) fun h => ?_
        · dsimp only at h
          rw [hkept] at h
          exact absurd (hw.symm.trans (hstays h).1) (by simp)
        · exact h.2.2 (h.2.1.symm.trans (congrArg some hinit))
      · constructor
        · intro h
          have hvw : v = w := hvalue.symm.trans (h.chosen hlisted w hw)
          exact ⟨hindex, congrArg some hvw, fun habs => hinit (hvw.trans (Option.some.inj habs))⟩
        · rintro ⟨-, hvw, -⟩
          refine ⟨fun hin => absurd hin hlisted, fun _ w' hw' => ?_, fun _ hnone => ?_⟩
          · rw [← hw, hw'] at hvw
            exact hvalue.trans (Option.some.inj hvw)
          · rw [hw] at hnone
            cases hnone

/-- **The packet does what it should exactly when the numbers agree.** -/
theorem vnOutcome_iff (hconfig : ∀ v ∈ c.supportVersions, ∃ p : ProtoVersion, p.value = v) :
    VnOutcome c words (negotiated c words).1 (negotiated c words).2 ↔ VnAgrees c words := by
  unfold VnAgrees
  by_cases hlisted : c.version.value ∈ words
  · rw [if_pos hlisted]
    exact vnOutcome_listed hconfig hlisted
  · rw [if_neg hlisted]
    exact vnOutcome_unlisted hconfig hlisted

end Agree

/-- For a client of version 1 the numbers agree on every packet of at most 256 versions, if it is configured
for versions that can be spoken. -/
theorem vnAgrees_v1 {c : NetConn} {words : List ℕ} (hversion : c.version = .v1)
    (hconfig : ∀ v ∈ c.supportVersions, v = ProtoVersion.v1.value ∨ v = ProtoVersion.draft29.value)
    (hlen : words.length ≤ 256) : VnAgrees c words := by
  have hone : ProtoVersion.v1.toNat = ProtoVersion.v1.value := rfl
  unfold VnAgrees
  rw [hversion, hone]
  split_ifs with hlisted
  · left
    have hfind := @find_foldl_keepVersion (· = ProtoVersion.v1.value) (by decide) words []
      (by rwa [List.length_nil, Nat.zero_add])
    rw [List.nil_append] at hfind
    have hsome : (words.find? (· = ProtoVersion.v1.value)).isSome :=
      List.find?_isSome.2 ⟨_, hlisted, by simp⟩
    rw [← hfind] at hsome
    obtain ⟨v, hv, heq⟩ := List.find?_isSome.1 hsome
    obtain rfl := of_decide_eq_true heq
    exact hv
  · have hzero : decide (0 ∈ c.supportVersions) = false := by
      refine decide_eq_false fun h => ?_
      rcases hconfig 0 h with h | h <;> exact absurd h (by decide)
    refine ⟨fun hmem => hlisted (mem_keptVersions hmem).1, ?_, fun hinit => ?_⟩
    · exact find_foldl_keepVersion hzero words [] (by rwa [List.length_nil, Nat.zero_add])
    · have hfound := List.find?_some hinit
      rcases hconfig _ (of_decide_eq_true hfound) with h | h <;> exact absurd h (by decide)

/-! ## Runs of packets -/

/-- A packet comes to the client. What it reads of the connection apart from the version and
`discard_vn_flag` may have changed in between. -/
def vnStep (s : ProtoVersion × Bool) (ev : NetConn × Bytes) : ProtoVersion × Bool :=
  let c := { ev.1 with version := s.1, discardVn := s.2, connType := .client }
  ((c.parseSingle ev.2).1.version, (c.parseSingle ev.2).1.discardVn)

/-- How many packets change the version. -/
def vnChanges (s : ProtoVersion × Bool) : List (NetConn × Bytes) → ℕ
  | [] => 0
  | ev :: evs => (if (vnStep s ev).1 = s.1 then 0 else 1) + vnChanges (vnStep s ev) evs

/-- A version that changes is the last one that negotiation gives. -/
structure VnOnce (c c' : NetConn) : Prop where
  kept : c.discardVn = true → c'.version = c.version ∧ c'.discardVn = true
  changed : c'.version ≠ c.version → c'.discardVn = true

section Once

variable {c c' : NetConn}

theorem VnOnce.refl (c : NetConn) : VnOnce c c := ⟨fun h => ⟨rfl, h⟩, fun h => absurd rfl h⟩

theorem VnOnce.parsed (h : VnOnce c c') : VnOnce c c'.onHeaderParsed := by
  unfold NetConn.onHeaderParsed
  split_ifs
  · exact ⟨fun hdiscard => ⟨(h.kept hdiscard).1, rfl⟩, fun _ => rfl⟩
  · exact h

theorem parseVersionNegotiation_once (c : NetConn) (scid bs : Bytes) :
    VnOnce c (c.parseVersionNegotiation scid bs).1 := by
  unfold NetConn.parseVersionNegotiation
  dsimp only
  split_ifs with hscid hlen hstate htype hdiscard
  · exact .refl c
  · exact .refl c
  · exact .refl c
  · exact .refl c
  · exact .refl c
  · exact .refl c
  · split
    · exact .refl c
    · exact ⟨fun habs => absurd habs hdiscard, fun _ => rfl⟩

theorem parseLongBody_once (c : NetConn) (first : UInt8) (isVn : Bool) (scid bs : Bytes) :
    VnOnce c (c.parseLongBody first isVn scid bs).1 := by
  unfold NetConn.parseLongBody
  split_ifs
  · have hvn := parseVersionNegotiation_once c scid bs
    generalize c.parseVersionNegotiation scid bs = r at hvn ⊢
    obtain ⟨c', ret⟩ := r
    cases ret with
    | error e => exact hvn
    | ok => exact hvn.parsed
  · split
    · exact .refl c
    · exact (VnOnce.refl c).parsed
  · exact .refl c

theorem parseLongHeader_once (hclient : c.connType = .client) (first : UInt8) (bs : Bytes) :
    VnOnce c (c.parseLongHeader first bs).1 := by
  have hcheck : c.versionCheck (beVal (bs.take 4)) = (c, true) := by
    rw [NetConn.versionCheck, if_neg]
    exact fun hserver => absurd (hclient.symm.trans hserver.1) (by simp)
  unfold NetConn.parseLongHeader
  dsimp only
  split_ifs
  · exact .refl c
  · exact .refl c
  · exact .refl c
  · cases NetConn.parseCids (bs.drop 4) with
    | error e => exact .refl c
    | ok r =>
        obtain ⟨dcid, scid, rest⟩ := r
        dsimp only
        split_ifs
        · exact .refl c
        · rw [hcheck]
          exact parseLongBody_once c first _ scid rest

theorem parseSingle_once (hclient : c.connType = .client) (buf : Bytes) : VnOnce c (c.parseSingle buf).1 := by
  unfold NetConn.parseSingle
  split
  · exact .refl c
  · rename_i first bs
    split_ifs
    · exact .refl c
    · have hshort : VnOnce c (c.parseShortHeader first bs).1 := by
        unfold NetConn.parseShortHeader
        dsimp only
        split_ifs
        · exact .refl c
        · exact .refl c
        · split
          · exact .refl c
          · exact (VnOnce.refl c).parsed
        · exact .refl c
      generalize c.parseShortHeader first bs = r at hshort ⊢
      obtain ⟨c', ret⟩ := r
      cases ret <;> exact hshort
    · exact parseLongHeader_once hclient first bs
    · exact .refl c

end Once

theorem vnChanges_of_discard (evs : List (NetConn × Bytes)) {s : ProtoVersion × Bool} (hs : s.2 = true) :
    vnChanges s evs = 0 := by
  induction evs generalizing s with
  | nil => rfl
  | cons ev evs ih =>
      have honce : VnOnce { ev.1 with version := s.1, discardVn := s.2, connType := .client }
        (NetConn.parseSingle { ev.1 with version := s.1, discardVn := s.2, connType := .client } ev.2).1 :=
        parseSingle_once rfl ev.2
      obtain ⟨hversion, hdiscard⟩ := honce.kept hs
      rw [vnChanges, if_pos (show (vnStep s ev).1 = s.1 from hversion),
        ih (show (vnStep s ev).2 = true from hdiscard)]

/-- **At most one packet ever changes the version.** -/
theorem vnChanges_le_one (evs : List (NetConn × Bytes)) (s : ProtoVersion × Bool) : vnChanges s evs ≤ 1 := by
  induction evs generalizing s with
  | nil => exact Nat.zero_le 1
  | cons ev evs ih =>
      have honce : VnOnce { ev.1 with version := s.1, discardVn := s.2, connType := .client }
        (NetConn.parseSingle { ev.1 with version := s.1, discardVn := s.2, connType := .client } ev.2).1 :=
        parseSingle_once rfl ev.2
      rw [vnChanges]
      split_ifs with hversion
      · rw [Nat.zero_add]
        exact ih (vnStep s ev)
      · rw [vnChanges_of_discard evs (show (vnStep s ev).2 = true from honce.changed hversion)]

/-- **The packet does to the client's version what it should, and at most one packet ever changes it, exactly
when the two spaces of numbers do not clash on the packet.** -/
theorem negotiates_iff {c : NetConn} {bs rest : Bytes} (h : VnPacket c bs rest) (first : UInt8)
    (hconfig : ∀ v ∈ c.supportVersions, ∃ p : ProtoVersion, p.value = v) :
    (VnOutcome c (vnWords rest) (c.parseLongHeader first bs).1.version (c.parseLongHeader first bs).2.isOk ∧
      ∀ evs, vnChanges (c.version, c.discardVn) evs ≤ 1) ↔ VnAgrees c (vnWords rest) := by
  obtain ⟨hversion, hok⟩ := parseLongHeader_vn h first
  rw [hversion, hok, vnOutcome_iff hconfig]
  exact and_iff_left fun evs => vnChanges_le_one evs _

/-- A client that has sent its first packet, configured for both versions. -/
def newClient (version : ProtoVersion) : NetConn where
  toConn := { connCreate .client ⟨0, false, 0, 1200, 1500, 0, 0, 0⟩ fun _ => [] with
    connState := .clientHandshake }
  version := version
  supportVersions := [0x00000001, 0xFF00001D]
  userScid := []
  originalDcid := []
  scidSet := []
  dcidSet := []

/-- The two versions of the server. -/
def serverVersions : Bytes := [0x00, 0x00, 0x00, 0x01, 0xFF, 0x00, 0x00, 0x1D]

theorem vnPacket_new (version : ProtoVersion) :
    VnPacket (newClient version) ([0, 0, 0, 0, 0, 0] ++ serverVersions) serverVersions where
  client := rfl
  handshake := rfl
  first := rfl
  length := by decide
  version := by decide
  cids := ⟨[], rfl, rfl⟩

theorem newClient_configured (version : ProtoVersion) :
    ∀ v ∈ (newClient version).supportVersions, ∃ p : ProtoVersion, p.value = v := by
  intro v hv
  rcases List.mem_cons.1 hv with rfl | hv
  · exact ⟨.v1, rfl⟩
  · obtain rfl := List.mem_singleton.1 hv
    exact ⟨.draft29, rfl⟩

/-- A client of version 1 keeps its version. -/
theorem negotiates_v1 : VnOutcome (newClient .v1) (vnWords serverVersions)
    ((newClient .v1).parseLongHeader 0x80 ([0, 0, 0, 0, 0, 0] ++ serverVersions)).1.version
    ((newClient .v1).parseLongHeader 0x80 ([0, 0, 0, 0, 0, 0] ++ serverVersions)).2.isOk := by
  refine ((negotiates_iff (vnPacket_new .v1) 0x80 (newClient_configured .v1)).2 ?_).1
  rw [VnAgrees, if_pos (by decide)]
  exact .inl (by decide)

/-- A client of draft 29 leaves its version for version 1, though the server has both. -/
theorem not_negotiates_draft29 :
    VnPacket (newClient .draft29) ([0, 0, 0, 0, 0, 0] ++ serverVersions) serverVersions ∧
    ¬ VnOutcome (newClient .draft29) (vnWords serverVersions)
      ((newClient .draft29).parseLongHeader 0x80 ([0, 0, 0, 0, 0, 0] ++ serverVersions)).1.version
      ((newClient .draft29).parseLongHeader 0x80 ([0, 0, 0, 0, 0, 0] ++ serverVersions)).2.isOk := by
  refine ⟨vnPacket_new .draft29, fun h => ?_⟩
  exact absurd (h.listed (by decide)) (by decide)

end Rquic

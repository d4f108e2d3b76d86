import Rquic.TransportParams

set_option autoImplicit false

/-!
# Transport parameters, back and forth

`rqc_encode_transport_params` against `rqc_decode_transport_params`. The encoder goes over the parameters
twice, for the length and for the bytes, and leaves out a parameter with its default value.

* `transportParamsCalcLength`, `encodeTransportParamsRun`: the encoder with its buffer.
* `TransportParams.get`, `TransportParams.put`: a parameter by its id.
* **`encodeTransportParamsRun_roundTrip`**: what is encoded is decoded again, with every field.
* `ParamEntry`, `paramEntries`: a string as a sequence of entries.
* **`strictDecoding_iff`**: the decoder is strict on a string if and only if the string breaks a rule that
  is checked, or has its integers inside their entries and each of them once.
-/

namespace Rquic

/-! ## The encoder with its buffer -/

/-- `rqc_put_varint_len`. -/
def putVarintLen (n : ℕ) : ℕ :=
  if n < 64 then 1 else if n < 16384 then 2 else if n < 1073741824 then 4 else 8

/-- The length of one parameter in `rqc_transport_params_calc_length`. -/
def paramLength (id v : ℕ) : ℕ := putVarintLen id + putVarintLen (putVarintLen v) + putVarintLen v

/-- `rqc_transport_params_calc_length`. -/
def transportParamsCalcLength (p : TransportParams) : ℕ :=
  (if p.maxIdleTimeout ≠ 0 then paramLength 0x00 p.maxIdleTimeout else 0) +
  (if p.maxUdpPayloadSize ≠ defaultMaxUdpPayloadSize then paramLength 0x01 p.maxUdpPayloadSize else 0) +
  (if p.initialMaxData ≠ 0 then paramLength 0x02 p.initialMaxData else 0) +
  (if p.initialMaxStreamDataBidiLocal ≠ 0 then paramLength 0x03 p.initialMaxStreamDataBidiLocal
    else 0) +
  (if p.initialMaxStreamDataBidiRemote ≠ 0 then paramLength 0x04 p.initialMaxStreamDataBidiRemote
    else 0) +
  (if p.initialMaxStreamDataUni ≠ 0 then paramLength 0x05 p.initialMaxStreamDataUni else 0) +
  (if p.initialMaxStreamsBidi ≠ 0 then paramLength 0x06 p.initialMaxStreamsBidi else 0) +
  (if p.initialMaxStreamsUni ≠ 0 then paramLength 0x07 p.initialMaxStreamsUni else 0) +
  (if p.ackDelayExponent ≠ defaultAckDelayExponent then paramLength 0x08 p.ackDelayExponent else 0) +
  (if p.maxAckDelay ≠ defaultMaxAckDelay then paramLength 0x09 p.maxAckDelay else 0) +
  -- one byte for the length of this parameter
  (if p.maxDatagramFrameSize ≠ 0 then
    putVarintLen paramMaxDatagramFrameSize + 1 + putVarintLen p.maxDatagramFrameSize else 0)

/-- `rqc_encode_transport_params`: the buffer behind `out` afterwards and `out_len`. -/
def encodeTransportParamsRun (p : TransportParams) (out : Bytes) (outCap : ℕ) :
    Bytes × Except Errno ℕ :=
  let len := transportParamsCalcLength p
  if 2 ^ 62 - 1 < p.maxDatagramFrameSize then (out, .error .illtp)
  else if outCap < len then (out, .error .nobuf)
  else
    let code := (p.entries.map fun entry => putVarintParam entry.1 entry.2).flatten
    (code ++ out.drop code.length, if code.length ≠ len then .error .illtp else .ok len)

/-! ## Parameters by their ids -/

namespace TransportParams

/-- The parameter with this id. -/
def get (p : TransportParams) (id : ℕ) : ℕ :=
  match id with
  | 0x00 => p.maxIdleTimeout
  | 0x01 => p.maxUdpPayloadSize
  | 0x02 => p.initialMaxData
  | 0x03 => p.initialMaxStreamDataBidiLocal
  | 0x04 => p.initialMaxStreamDataBidiRemote
  | 0x05 => p.initialMaxStreamDataUni
  | 0x06 => p.initialMaxStreamsBidi
  | 0x07 => p.initialMaxStreamsUni
  | 0x08 => p.ackDelayExponent
  | 0x09 => p.maxAckDelay
  | 0x20 => p.maxDatagramFrameSize
  | _ => 0

/-- The parameter with this id is set. -/
def put (p : TransportParams) (id v : ℕ) : TransportParams :=
  match id with
  | 0x00 => { p with maxIdleTimeout := v }
  | 0x01 => { p with maxUdpPayloadSize := v }
  | 0x02 => { p with initialMaxData := v }
  | 0x03 => { p with initialMaxStreamDataBidiLocal := v }
  | 0x04 => { p with initialMaxStreamDataBidiRemote := v }
  | 0x05 => { p with initialMaxStreamDataUni := v }
  | 0x06 => { p with initialMaxStreamsBidi := v }
  | 0x07 => { p with initialMaxStreamsUni := v }
  | 0x08 => { p with ackDelayExponent := v }
  | 0x09 => { p with maxAckDelay := v }
  | 0x20 => { p with maxDatagramFrameSize := v }
  | _ => p

/-- The ids in the order of the encoder. -/
def ids : List ℕ := [0, 1, 2, 3, 4, 5, 6, 7, 8, 9, paramMaxDatagramFrameSize]

theorem mem_ids {id : ℕ} (h : id ∈ ids) : id ≤ 0x09 ∨ id = paramMaxDatagramFrameSize := by
  simp only [ids, List.mem_cons, List.not_mem_nil, or_false] at h
  omega

theorem lt_of_mem_ids {id : ℕ} (h : id ∈ ids) : id < 2 ^ 62 := by
  obtain hle | rfl := mem_ids h
  · omega
  · decide

/-- Every field is a variable-length integer. -/
def Fits (p : TransportParams) : Prop := ∀ id, p.get id < 2 ^ 62

theorem put_get (p : TransportParams) (id : ℕ) : p.put id (p.get id) = p := by
  unfold put get
  split <;> rfl

theorem put_maxDatagramFrameSize (p : TransportParams) {id : ℕ} (h : id ≠ paramMaxDatagramFrameSize)
    (v : ℕ) : (p.put id v).maxDatagramFrameSize = p.maxDatagramFrameSize := by
  unfold put
  split
  case h_11 => exact absurd rfl h
  all_goals rfl

/-- The decoders of the integer parameters set their field, but for an exponent that is too large. -/
theorem set_of_le (p : TransportParams) {id v : ℕ} (hle : id ≤ 0x09)
    (hexp : id = 0x08 → v ≤ maxAckDelayExponent) : p.set id v = .ok (p.put id v) := by
  unfold TransportParams.set put
  interval_cases id <;> first | rfl | exact if_neg (not_lt.2 (hexp rfl))

/-- The encoder writes the parameters that differ from the defaults of the decoder. -/
theorem entries_eq (p : TransportParams) :
    p.entries = ids.flatMap fun id => if p.get id ≠ get {} id then [(id, p.get id)] else [] := by
  simp only [ids, List.flatMap_cons, List.flatMap_nil, List.append_nil, entries, List.append_assoc]
  rfl

theorem get_put_of_ne (p : TransportParams) {id id' : ℕ} (h : id' ≠ id) (v : ℕ) :
    (p.put id v).get id' = p.get id' := by
  unfold put
  split
  all_goals unfold get
  all_goals split <;> first | rfl | exact absurd rfl h

/-- **The entries set every field**: the fields left out have their default. -/
theorem foldl_entries (p : TransportParams) :
    p.entries.foldl (fun q entry => q.put entry.1 entry.2) {} = p := by
  have hput : ∀ (l : List ℕ) (q : TransportParams), l.Nodup → (∀ id ∈ l, q.get id = get {} id) →
      (l.flatMap fun id => if p.get id ≠ get {} id then [(id, p.get id)] else []).foldl
        (fun q entry => q.put entry.1 entry.2) q = l.foldl (fun q id => q.put id (p.get id)) q := by
    intro l
    induction l with
    | nil => exact fun _ _ _ => rfl
    | cons id l ih =>
        intro q hnodup hq
        have hfirst : (if p.get id ≠ get {} id then [(id, p.get id)] else []).foldl
            (fun q entry => q.put entry.1 entry.2) q = q.put id (p.get id) := by
          split_ifs with hne
          · rfl
          · rw [not_not.1 hne, ← hq id List.mem_cons_self, put_get]
            rfl
        rw [List.flatMap_cons, List.foldl_append, hfirst, List.foldl_cons]
        obtain ⟨hnotin, hnodup⟩ := List.nodup_cons.1 hnodup
        refine ih _ hnodup fun id' hid' => ?_
        have hne : id' ≠ id := by
          rintro rfl
          exact hnotin hid'
        rw [get_put_of_ne q hne]
        exact hq id' (List.mem_cons_of_mem _ hid')
  rw [entries_eq, hput ids {} (by decide) fun _ _ => rfl]
  cases p
  rfl

theorem mem_entries {p : TransportParams} {entry : ℕ × ℕ} (h : entry ∈ p.entries) :
    entry.1 ∈ ids ∧ entry.2 = p.get entry.1 ∧ entry.2 ≠ get {} entry.1 := by
  rw [entries_eq, List.mem_flatMap] at h
  obtain ⟨id, hid, hentry⟩ := h
  split_ifs at hentry with hne
  · obtain rfl := List.mem_singleton.1 hentry
    exact ⟨hid, rfl, hne⟩
  · cases hentry

theorem nodup_entries (p : TransportParams) : (p.entries.map Prod.fst).Nodup := by
  have hsub : (p.entries.map Prod.fst).Sublist ids := by
    rw [entries_eq]
    generalize ids = l
    induction l with
    | nil => exact .slnil
    | cons id l ih =>
        rw [List.flatMap_cons, List.map_append]
        split_ifs
        · exact .cons_cons id ih
        · exact .cons id ih
  exact hsub.nodup (by decide)

end TransportParams

/-! ## The lengths agree -/

theorem length_vintBytes (v : ℕ) : (vintBytes v).length = putVarintLen v := by
  rw [vintBytes, length_vintWrite, vintLen, vintGet2bit, putVarintLen]
  split_ifs <;> first | rfl | omega

theorem putVarintLen_le (v : ℕ) : putVarintLen v ≤ 8 := by
  unfold putVarintLen
  split_ifs <;> omega

theorem length_putVarintParam (id v : ℕ) : (putVarintParam id v).length = paramLength id v := by
  simp only [putVarintParam, List.length_append, length_vintBytes, paramLength]

/-- **The two lists of the encoder agree.** -/
theorem length_entries (p : TransportParams) :
    ((p.entries.map fun entry => putVarintParam entry.1 entry.2).flatten).length =
      transportParamsCalcLength p := by
  have hone : putVarintLen (putVarintLen p.maxDatagramFrameSize) = 1 :=
    if_pos (by have := putVarintLen_le p.maxDatagramFrameSize; omega)
  have hif : ∀ (b : Prop) [Decidable b] (id v : ℕ),
      ((List.map (fun entry : ℕ × ℕ => putVarintParam entry.1 entry.2)
        (if b then [(id, v)] else [])).flatten).length = if b then paramLength id v else 0 := by
    intro b _ id v
    split_ifs
    · simp [length_putVarintParam]
    · rfl
  simp only [TransportParams.entries, transportParamsCalcLength, List.map_append, List.flatten_append,
    List.length_append, hif]
  simp only [paramLength, hone]

/-! ## Decoding what was encoded -/

theorem decodeOneTransportParam_put {p : TransportParams} {id v : ℕ} (hid : id ∈ TransportParams.ids)
    (hv : v < 2 ^ 62) (hexp : id = 0x08 → v ≤ maxAckDelayExponent)
    (hone : id = paramMaxDatagramFrameSize → p.maxDatagramFrameSize = 0) (rest : Bytes) :
    decodeOneTransportParam p (putVarintParam id v ++ rest) = .ok (p.put id v, rest) := by
  have hlt : id < 2 ^ 62 := TransportParams.lt_of_mem_ids hid
  have hlen : (vintBytes v).length < 2 ^ 62 := (length_vintBytes_le v).trans_lt (by decide)
  have hread : vintRead (vintBytes v) = some (v, []) := by
    have h := vintRead_vintBytes hv []
    rwa [List.append_nil] at h
  unfold decodeOneTransportParam putVarintParam
  simp only [List.append_assoc, vintRead_vintBytes hlt, vintRead_vintBytes hlen]
  rw [if_neg (by simp)]
  by_cases hdatagram : id = paramMaxDatagramFrameSize
  · subst hdatagram
    rw [if_pos rfl, List.take_left, hread]
    simp [hone rfl, TransportParams.put, paramMaxDatagramFrameSize]
  · rw [if_neg hdatagram]
    have hle : id ≤ 0x09 := (TransportParams.mem_ids hid).resolve_right hdatagram
    rw [if_pos hle, vintRead_vintBytes hv]
    simp only [TransportParams.set_of_le p hle hexp, List.drop_left]

theorem putVarintParam_ne_nil (id v : ℕ) : putVarintParam id v ≠ [] := by
  intro h
  have hlen := congrArg List.length h
  have hpos := length_vintBytes_pos id
  simp only [putVarintParam, List.length_append, List.length_nil] at hlen
  omega

theorem decodeParamsLoop_entries {entries : List (ℕ × ℕ)} {fuel : ℕ} {seen : Bool} {p : TransportParams}
    (hids : ∀ entry ∈ entries, entry.1 ∈ TransportParams.ids ∧ entry.2 < 2 ^ 62 ∧
      (entry.1 = 0x08 → entry.2 ≤ maxAckDelayExponent))
    (hnodup : (entries.map Prod.fst).Nodup)
    (hseen : paramMaxDatagramFrameSize ∈ entries.map Prod.fst →
      seen = false ∧ p.maxDatagramFrameSize = 0)
    (hfuel : ((entries.map fun entry => putVarintParam entry.1 entry.2).flatten).length ≤ fuel) :
    decodeParamsLoop fuel seen p (entries.map fun entry => putVarintParam entry.1 entry.2).flatten =
      .ok (entries.foldl (fun q entry => q.put entry.1 entry.2) p) := by
  induction entries generalizing fuel seen p with
  | nil => cases fuel <;> rfl
  | cons entry entries ih =>
      obtain ⟨id, v⟩ := entry
      obtain ⟨hid, hv, hexp⟩ := hids (id, v) List.mem_cons_self
      have hlt : id < 2 ^ 62 := TransportParams.lt_of_mem_ids hid
      rw [List.map_cons, List.flatten_cons] at hfuel ⊢
      simp only [List.map_cons, List.nodup_cons, List.mem_cons] at hnodup hseen
      have hhead : ∀ rest, vintRead (putVarintParam id v ++ rest) =
          some (id, vintBytes (vintBytes v).length ++ (vintBytes v ++ rest)) := by
        intro rest
        rw [putVarintParam, List.append_assoc, List.append_assoc, vintRead_vintBytes hlt]
      have hone := decodeOneTransportParam_put hid hv hexp (p := p)
        (fun heq => (hseen (.inl heq.symm)).2)
      obtain ⟨b, bs, hcons⟩ := List.exists_cons_of_ne_nil (putVarintParam_ne_nil id v)
      rw [List.length_append, hcons, List.length_cons] at hfuel
      rw [hcons] at hhead hone
      rw [hcons, List.cons_append]
      obtain ⟨fuel, rfl⟩ : ∃ n, fuel = n + 1 := ⟨fuel - 1, by omega⟩
      rw [decodeParamsLoop, ← List.cons_append, hhead]
      dsimp only
      rw [if_neg, hone]
      · refine ih (fun entry hmem => hids entry (List.mem_cons_of_mem _ hmem)) hnodup.2 ?_ (by omega)
        intro hmem
        have hne : id ≠ paramMaxDatagramFrameSize := by
          rintro rfl
          exact hnodup.1 hmem
        rw [TransportParams.put_maxDatagramFrameSize p hne]
        simpa [hne] using hseen (.inr hmem)
      · rintro ⟨heq, htrue⟩
        rw [(hseen (.inl heq.symm)).1] at htrue
        cases htrue

/-- **Transport parameters come back as they were encoded.** With enough capacity the encoder writes as
many bytes as it has calculated and the decoder returns every field; with less it writes nothing. -/
theorem encodeTransportParamsRun_roundTrip (p : TransportParams) (hfits : p.Fits)
    (hexp : p.ackDelayExponent ≤ maxAckDelayExponent) (out : Bytes) (outCap : ℕ) :
    (transportParamsCalcLength p ≤ outCap → ∃ code : Bytes,
      encodeTransportParamsRun p out outCap =
        (code ++ out.drop code.length, .ok (transportParamsCalcLength p)) ∧
      code.length = transportParamsCalcLength p ∧ decodeTransportParams code = .ok p) ∧
    (outCap < transportParamsCalcLength p →
      encodeTransportParamsRun p out outCap = (out, .error .nobuf)) := by
  have hdatagram : ¬ 2 ^ 62 - 1 < p.maxDatagramFrameSize := by
    have hlt : p.maxDatagramFrameSize < 2 ^ 62 := hfits paramMaxDatagramFrameSize
    omega
  have hlen := length_entries p
  unfold encodeTransportParamsRun
  dsimp only
  rw [if_neg hdatagram]
  constructor
  · intro hcap
    refine ⟨_, ?_, hlen, ?_⟩
    · rw [if_neg (not_lt.2 hcap), if_neg (not_not.2 hlen)]
    · have hentries : ∀ entry ∈ p.entries, entry.1 ∈ TransportParams.ids ∧ entry.2 < 2 ^ 62 ∧
          (entry.1 = 0x08 → entry.2 ≤ maxAckDelayExponent) := by
        intro entry hentry
        obtain ⟨hid, hval, -⟩ := TransportParams.mem_entries hentry
        refine ⟨hid, hval ▸ hfits _, fun heq => ?_⟩
        rw [hval, heq]
        exact hexp
      have hunseen : paramMaxDatagramFrameSize ∈ p.entries.map Prod.fst →
          false = false ∧ ({} : TransportParams).maxDatagramFrameSize = 0 := fun _ => ⟨rfl, rfl⟩
      have hloop := decodeParamsLoop_entries hentries p.nodup_entries hunseen le_rfl
      rw [TransportParams.foldl_entries] at hloop
      exact hloop
  · intro hcap
    rw [if_pos hcap]

/-- Parameters at the bounds of the length classes. -/
def boundaryParams : TransportParams where
  maxIdleTimeout := 63
  initialMaxData := 16384
  initialMaxStreamsUni := 2 ^ 62 - 1
  ackDelayExponent := 20
  maxDatagramFrameSize := 2 ^ 30

theorem encodeTransportParamsRun_roundTrip_boundary :
    ∃ code, encodeTransportParamsRun boundaryParams (List.replicate 64 0) 64 =
        (code ++ (List.replicate 64 0).drop code.length, .ok 32) ∧
      code.length = 32 ∧ decodeTransportParams code = .ok boundaryParams := by
  have hlen : transportParamsCalcLength boundaryParams = 32 := by decide
  have hfits : boundaryParams.Fits := by
    intro id
    unfold TransportParams.get
    split <;> decide
  have h := (encodeTransportParamsRun_roundTrip boundaryParams hfits (by decide)
    (List.replicate 64 0) 64).1
  rw [hlen] at h
  exact h (by decide)

/-! ## A string as a sequence of entries -/

/-- One entry: its id, its declared length and the bytes from its value to the end of the string. -/
structure ParamEntry where
  paramType : ℕ
  paramLen : ℕ
  tail : Bytes
  deriving DecidableEq, Repr

/-- An id, a length and as many bytes. -/
def readParamEntry (bs : Bytes) : Except Errno (ParamEntry × Bytes) :=
  match vintRead bs with
  | none => .error .illtp
  | some (paramType, bs) =>
    match vintRead bs with
    | none => .error .illtp
    | some (paramLen, bs) =>
      if bs.length < paramLen then .error .illtp
      else .ok (⟨paramType, paramLen, bs⟩, bs.drop paramLen)

/-- The entries that tile the string. -/
def paramEntries (bs : Bytes) : Except Errno (List ParamEntry) :=
  decodeAll readParamEntry .illtp bs.length bs

namespace ParamEntry

variable (e : ParamEntry)

/-- The DATAGRAM parameter. -/
def isDatagram : Bool := e.paramType = paramMaxDatagramFrameSize

/-- One of the ten other integer parameters. -/
def isInteger : Bool := e.paramType ≤ 0x09

/-- The value is one integer that fills its entry. -/
def exact : Bool := (vintRead (e.tail.take e.paramLen)).any fun r => r.2.isEmpty

/-- What is checked of one entry: the DATAGRAM parameter is read inside its entry, the others up to the end
of the string. -/
def readable : Bool :=
  if e.isDatagram then e.exact
  else if e.isInteger then
    (vintRead e.tail).any fun r => e.paramType ≠ 0x08 || r.1 ≤ maxAckDelayExponent
  else true

end ParamEntry

/-- The entries pass every check of `rqc_decode_transport_params`. -/
def LaxParams (es : List ParamEntry) : Prop :=
  (∀ e ∈ es, e.readable = true) ∧ es.countP ParamEntry.isDatagram ≤ 1

instance (es : List ParamEntry) : Decidable (LaxParams es) := inferInstanceAs (Decidable (_ ∧ _))

/-- Every known integer fills its entry, and no known parameter occurs twice. -/
def StrictParams (es : List ParamEntry) : Prop :=
  (∀ e ∈ es, (e.isInteger || e.isDatagram) = true → e.exact = true) ∧
    ((es.filter fun e => e.isInteger || e.isDatagram).map ParamEntry.paramType).Nodup

/-- What is asked of the decoder on one string: it accepts a strict sequence of entries, or it rejects the
string as an illegal parameter. -/
def StrictDecoding (bs : Bytes) : Prop :=
  match decodeTransportParams bs with
  | .ok _ => ∃ es, paramEntries bs = .ok es ∧ StrictParams es
  | .error e => e = .illtp

/-! ## What the decoder checks -/

/-- One entry is accepted if it can be read, and if it is not a second DATAGRAM parameter. -/
theorem decodeOneTransportParam_eq (p : TransportParams) (bs : Bytes) :
    match readParamEntry bs with
    | .error _ => decodeOneTransportParam p bs = .error .illtp
    | .ok (e, rest) =>
      if e.readable = true ∧ (e.isDatagram = true → p.maxDatagramFrameSize = 0) then
        ∃ p', decodeOneTransportParam p bs = .ok (p', rest) ∧
          (e.isDatagram = false → p'.maxDatagramFrameSize = p.maxDatagramFrameSize)
      else decodeOneTransportParam p bs = .error .illtp := by
  unfold readParamEntry decodeOneTransportParam
  cases vintRead bs with
  | none => rfl
  | some r =>
      obtain ⟨paramType, bs₁⟩ := r
      dsimp only
      cases vintRead bs₁ with
      | none => rfl
      | some r =>
          obtain ⟨paramLen, bs₂⟩ := r
          dsimp only
          by_cases hlen : bs₂.length < paramLen
          · rw [if_pos hlen, if_pos hlen]
          rw [if_neg hlen, if_neg hlen]
          dsimp only [ParamEntry.readable, ParamEntry.isDatagram, ParamEntry.isInteger, ParamEntry.exact]
          by_cases hdatagram : paramType = paramMaxDatagramFrameSize
          · simp only [hdatagram, decide_true, if_true]
            cases vintRead (bs₂.take paramLen) with
            | none => simp
            | some r =>
                by_cases hrest : r.2 = [] <;> by_cases hzero : p.maxDatagramFrameSize = 0 <;>
                  simp [hrest, hzero]
          · simp only [hdatagram, decide_false, if_false, Bool.false_eq_true, false_imp_iff, and_true,
              forall_const]
            by_cases hle : paramType ≤ 0x09
            · simp only [hle, decide_true, if_true]
              cases vintRead bs₂ with
              | none => simp
              | some r =>
                  by_cases hexp : paramType = 0x08 → r.1 ≤ maxAckDelayExponent
                  · have hread : (decide (paramType ≠ 0x08) || decide (r.1 ≤ maxAckDelayExponent)) = true := by
                      by_cases h8 : paramType = 0x08
                      · simp [hexp h8]
                      · simp [h8]
                    simp only [Option.any_some, hread, if_true, p.set_of_le hle hexp]
                    exact ⟨_, rfl, p.put_maxDatagramFrameSize hdatagram r.1⟩
                  · obtain ⟨h8, hlt⟩ := Classical.not_imp.1 hexp
                    simp [h8, hlt, TransportParams.set, not_le.1 hlt]
            · simp [hle]

theorem readParamEntry_ok {bs rest : Bytes} {e : ParamEntry} (h : readParamEntry bs = .ok (e, rest)) :
    (vintRead bs).map Prod.fst = some e.paramType ∧ rest.length < bs.length := by
  unfold readParamEntry at h
  cases htype : vintRead bs with
  | none => simp [htype] at h
  | some r =>
      obtain ⟨paramType, bs₁⟩ := r
      rw [htype] at h
      dsimp only at h
      cases hlen : vintRead bs₁ with
      | none => simp [hlen] at h
      | some r =>
          obtain ⟨paramLen, bs₂⟩ := r
          rw [hlen] at h
          dsimp only at h
          split_ifs at h
          obtain ⟨rfl, rfl⟩ := Prod.mk.inj (Except.ok.inj h)
          have htype := vintRead_length_lt htype
          have hlen := vintRead_length_lt hlen
          refine ⟨rfl, ?_⟩
          rw [List.length_drop]
          omega

/-- The loop accepts a string if its entries pass the checks. -/
theorem decodeParamsLoop_eq (fuel : ℕ) (seen : Bool) (p : TransportParams) (bs : Bytes)
    (hseen : seen = false → p.maxDatagramFrameSize = 0) :
    match decodeAll readParamEntry .illtp fuel bs with
    | .error _ => decodeParamsLoop fuel seen p bs = .error .illtp
    | .ok es =>
      if (∀ e ∈ es, e.readable = true) ∧ es.countP ParamEntry.isDatagram + seen.toNat ≤ 1 then
        ∃ p', decodeParamsLoop fuel seen p bs = .ok p'
      else decodeParamsLoop fuel seen p bs = .error .illtp := by
  induction fuel generalizing seen p bs with
  | zero =>
      cases bs with
      | nil => cases seen <;> simp [decodeAll, decodeParamsLoop]
      | cons b bs => rfl
  | succ fuel ih =>
      cases bs with
      | nil => cases seen <;> simp [decodeAll, decodeParamsLoop]
      | cons b bs =>
          have hone := decodeOneTransportParam_eq p (b :: bs)
          have hok : ∀ e rest, readParamEntry (b :: bs) = .ok (e, rest) → _ :=
            fun _ _ => readParamEntry_ok
          rw [decodeAll, decodeParamsLoop]
          cases hread : readParamEntry (b :: bs) with
          | error err =>
              rw [hread] at hone
              dsimp only at hone ⊢
              cases vintRead (b :: bs) with
              | none => rfl
              | some r => simp [hone]
          | ok r =>
              obtain ⟨e, rest⟩ := r
              obtain ⟨htype, hlt⟩ := hok e rest hread
              rw [hread] at hone
              dsimp only at hone ⊢
              rw [if_neg hlt.ne]
              cases hvint : vintRead (b :: bs) with
              | none =>
                  rw [hvint] at htype
                  cases htype
              | some r =>
                  obtain ⟨paramType, bs₁⟩ := r
                  rw [hvint] at htype
                  obtain rfl : paramType = e.paramType := Option.some.inj htype
                  have hbit : decide (e.paramType = paramMaxDatagramFrameSize) = e.isDatagram := rfl
                  have hnext := ih (seen || e.isDatagram)
                  dsimp only
                  by_cases hdup : e.paramType = paramMaxDatagramFrameSize ∧ seen = true
                  · -- a second DATAGRAM parameter
                    have hdatagram : e.isDatagram = true := by simp [ParamEntry.isDatagram, hdup.1]
                    rw [if_pos hdup]
                    cases decodeAll readParamEntry .illtp fuel rest with
                    | error err => rfl
                    | ok es => simp [hdatagram, hdup.2]
                  rw [if_neg hdup]
                  have hfresh : e.isDatagram = true → seen = false := by
                    intro hdatagram
                    have htype : e.paramType = paramMaxDatagramFrameSize := of_decide_eq_true hdatagram
                    exact Bool.eq_false_iff.2 fun hs => hdup ⟨htype, hs⟩
                  by_cases hreadable : e.readable = true
                  · rw [if_pos ⟨hreadable, fun h => hseen (hfresh h)⟩] at hone
                    obtain ⟨p', hp', hkeep⟩ := hone
                    have hnext := hnext p' rest fun hnone => by
                      obtain ⟨hs, hd⟩ := Bool.or_eq_false_iff.1 hnone
                      rw [hkeep hd]
                      exact hseen hs
                    simp only [hp', hbit]
                    cases hrest : decodeAll readParamEntry .illtp fuel rest with
                    | error err =>
                        rw [hrest] at hnext
                        exact hnext
                    | ok es =>
                        rw [hrest] at hnext
                        have hcount : (e :: es).countP ParamEntry.isDatagram + seen.toNat =
                            es.countP ParamEntry.isDatagram + (seen || e.isDatagram).toNat := by
                          rw [List.countP_cons]
                          cases hd : e.isDatagram <;> cases hs : seen <;>
                            simp [hd, hs] at hfresh ⊢
                        simp only [List.forall_mem_cons, hreadable, true_and, hcount]
                        exact hnext
                  · rw [if_neg fun h => hreadable h.1] at hone
                    simp only [hone]
                    cases decodeAll readParamEntry .illtp fuel rest with
                    | error err => trivial
                    | ok es => simp [hreadable]

/-- **The decoder accepts what passes its checks.** -/
theorem decodeTransportParams_eq (bs : Bytes) :
    match paramEntries bs with
    | .error _ => decodeTransportParams bs = .error .illtp
    | .ok es =>
      if LaxParams es then ∃ p, decodeTransportParams bs = .ok p
      else decodeTransportParams bs = .error .illtp :=
  decodeParamsLoop_eq bs.length false {} bs fun _ => rfl

/-! ## Strict decoding -/

/-- The checks confine the DATAGRAM parameter to its entry, so only the others can make a difference. -/
theorem strictParams_iff {es : List ParamEntry} (h : LaxParams es) :
    StrictParams es ↔ (∀ e ∈ es, e.isInteger = true → e.exact = true) ∧
      ((es.filter ParamEntry.isInteger).map ParamEntry.paramType).Nodup := by
  have hcount : ∀ (p : ParamEntry → Bool) t, ((es.filter p).map ParamEntry.paramType).count t =
      es.countP fun e => decide (e.paramType = t) && p e := by
    intro p t
    rw [List.count_eq_countP, List.countP_map, List.countP_filter]
    rfl
  constructor
  · rintro ⟨hexact, hnodup⟩
    refine ⟨fun e he hint => hexact e he (by rw [hint, Bool.true_or]), ?_⟩
    have hsub := List.monotone_filter_right es (p := ParamEntry.isInteger)
      (q := fun e => e.isInteger || e.isDatagram) fun e hint => by rw [hint, Bool.true_or]
    exact (hsub.map ParamEntry.paramType).nodup hnodup
  · rintro ⟨hexact, hnodup⟩
    constructor
    · intro e he hknown
      cases hint : e.isInteger with
      | true => exact hexact e he hint
      | false =>
          have hdatagram : e.isDatagram = true := by rwa [hint, Bool.false_or] at hknown
          have hread := h.1 e he
          rwa [ParamEntry.readable, if_pos hdatagram] at hread
    · rw [List.nodup_iff_count] at hnodup ⊢
      intro t
      have hint := hnodup t
      rw [hcount] at hint ⊢
      by_cases ht : t = paramMaxDatagramFrameSize
      · refine le_trans (List.countP_mono_left fun e _ he => ?_) h.2
        simp only [Bool.and_eq_true, decide_eq_true_eq] at he
        simp [ParamEntry.isDatagram, he.1, ht]
      · refine le_trans (List.countP_mono_left fun e _ he => ?_) hint
        simp only [Bool.and_eq_true, decide_eq_true_eq, Bool.or_eq_true] at he ⊢
        refine ⟨he.1, he.2.resolve_right fun hd => ht ?_⟩
        rw [← he.1]
        exact of_decide_eq_true hd

/-- **The decoder is strict on a string** if and only if the string does not pass its checks, or the ten
parameters that it does not confine to their entries fill them and occur once each. -/
theorem strictDecoding_iff (bs : Bytes) :
    StrictDecoding bs ↔ ∀ es, paramEntries bs = .ok es → LaxParams es →
      (∀ e ∈ es, e.isInteger = true → e.exact = true) ∧
        ((es.filter ParamEntry.isInteger).map ParamEntry.paramType).Nodup := by
  have heq := decodeTransportParams_eq bs
  unfold StrictDecoding
  cases hes : paramEntries bs with
  | error err =>
      rw [hes] at heq
      dsimp only at heq
      simp [heq]
  | ok es =>
      rw [hes] at heq
      dsimp only at heq
      by_cases hlax : LaxParams es
      · rw [if_pos hlax] at heq
        obtain ⟨p, hp⟩ := heq
        have hstrict := strictParams_iff hlax
        simp [hp, hlax, hstrict]
      · rw [if_neg hlax] at heq
        simp [heq, hlax]

/-- The value of `max_idle_timeout` is read from the entry behind it: its own entry is empty. -/
theorem not_strictDecoding_shared : ¬ StrictDecoding [0x00, 0x00, 0x04, 0x01, 0x05] := by
  have hdecode : decodeTransportParams [0x00, 0x00, 0x04, 0x01, 0x05] =
      .ok { maxIdleTimeout := 4, initialMaxStreamDataBidiRemote := 5 } := by decide
  have hentries : paramEntries [0x00, 0x00, 0x04, 0x01, 0x05] =
      .ok [⟨0x00, 0, [0x04, 0x01, 0x05]⟩, ⟨0x04, 1, [0x05]⟩] := by decide
  unfold StrictDecoding
  rw [hdecode]
  rintro ⟨es, hes, hexact, -⟩
  obtain rfl := Except.ok.inj (hentries.symm.trans hes)
  have hempty := hexact ⟨0x00, 0, [0x04, 0x01, 0x05]⟩ List.mem_cons_self (by decide)
  revert hempty
  decide

end Rquic

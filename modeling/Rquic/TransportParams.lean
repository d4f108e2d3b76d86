import Rquic.Vint

set_option autoImplicit false

/-!
# Transport parameters

`rqc_transport_params.c`: the parameters that the two endpoints exchange in their HANDSHAKE frames.

* `TransportParams`: the parameters, with the defaults of the decoder.
* `encodeTransportParams`: only values other than the default are written.
* `decodeTransportParams`: the entries are read one after the other. A value is read up to the end of
  the whole string, only the DATAGRAM parameter inside its declared length.
* **`decodeTransportParams_lt`**: every decoded limit is a variable-length integer.
-/

namespace Rquic

/-- `rqc_transport_params_t`. -/
structure TransportParams where
  maxIdleTimeout : ℕ := 0
  maxUdpPayloadSize : ℕ := defaultMaxUdpPayloadSize
  maxDatagramFrameSize : ℕ := 0
  initialMaxData : ℕ := 0
  initialMaxStreamDataBidiLocal : ℕ := 0
  initialMaxStreamDataBidiRemote : ℕ := 0
  initialMaxStreamDataUni : ℕ := 0
  initialMaxStreamsBidi : ℕ := 0
  initialMaxStreamsUni : ℕ := 0
  ackDelayExponent : ℕ := defaultAckDelayExponent
  maxAckDelay : ℕ := defaultMaxAckDelay
  deriving DecidableEq, Repr

/-- `RQC_MAX_ACK_DELAY_EXPONENT`. -/
def maxAckDelayExponent : ℕ := 20

/-- `RQC_TRANSPORT_PARAM_MAX_DATAGRAM_FRAME_SIZE`. -/
def paramMaxDatagramFrameSize : ℕ := 0x20

/-! ## Encoding -/

/-- `rqc_put_varint_param`. -/
def putVarintParam (id v : ℕ) : Bytes :=
  vintBytes id ++ vintBytes (vintBytes v).length ++ vintBytes v

/-- The entries that `rqc_encode_transport_params` writes, in its order. -/
def TransportParams.entries (p : TransportParams) : List (ℕ × ℕ) :=
  (if p.maxIdleTimeout ≠ 0 then [(0x00, p.maxIdleTimeout)] else []) ++
  (if p.maxUdpPayloadSize ≠ defaultMaxUdpPayloadSize then [(0x01, p.maxUdpPayloadSize)] else []) ++
  (if p.initialMaxData ≠ 0 then [(0x02, p.initialMaxData)] else []) ++
  (if p.initialMaxStreamDataBidiLocal ≠ 0 then [(0x03, p.initialMaxStreamDataBidiLocal)] else []) ++
  (if p.initialMaxStreamDataBidiRemote ≠ 0 then [(0x04, p.initialMaxStreamDataBidiRemote)]
    else []) ++
  (if p.initialMaxStreamDataUni ≠ 0 then [(0x05, p.initialMaxStreamDataUni)] else []) ++
  (if p.initialMaxStreamsBidi ≠ 0 then [(0x06, p.initialMaxStreamsBidi)] else []) ++
  (if p.initialMaxStreamsUni ≠ 0 then [(0x07, p.initialMaxStreamsUni)] else []) ++
  (if p.ackDelayExponent ≠ defaultAckDelayExponent then [(0x08, p.ackDelayExponent)] else []) ++
  (if p.maxAckDelay ≠ defaultMaxAckDelay then [(0x09, p.maxAckDelay)] else []) ++
  (if p.maxDatagramFrameSize ≠ 0 then [(paramMaxDatagramFrameSize, p.maxDatagramFrameSize)] else [])

/-- `rqc_encode_transport_params`. -/
def encodeTransportParams (p : TransportParams) (outCap : ℕ) : Except Errno Bytes :=
  if 2 ^ 62 - 1 < p.maxDatagramFrameSize then .error .illtp
  else
    let out := (p.entries.map fun entry => putVarintParam entry.1 entry.2).flatten
    if outCap < out.length then .error .nobuf else .ok out

/-! ## Decoding -/

/-- The decoder of one integer parameter, `rqc_trans_param_decode_func_list`. Others are skipped. -/
def TransportParams.set (p : TransportParams) (paramType value : ℕ) :
    Except Errno TransportParams :=
  match paramType with
  | 0x00 => .ok { p with maxIdleTimeout := value }
  | 0x01 => .ok { p with maxUdpPayloadSize := value }
  | 0x02 => .ok { p with initialMaxData := value }
  | 0x03 => .ok { p with initialMaxStreamDataBidiLocal := value }
  | 0x04 => .ok { p with initialMaxStreamDataBidiRemote := value }
  | 0x05 => .ok { p with initialMaxStreamDataUni := value }
  | 0x06 => .ok { p with initialMaxStreamsBidi := value }
  | 0x07 => .ok { p with initialMaxStreamsUni := value }
  | 0x08 =>
    if maxAckDelayExponent < value then .error .illtp else .ok { p with ackDelayExponent := value }
  | 0x09 => .ok { p with maxAckDelay := value }
  | _ => .ok p

/-- `rqc_decode_one_transport_param`, with the bytes behind the entry. -/
def decodeOneTransportParam (p : TransportParams) (bs : Bytes) :
    Except Errno (TransportParams × Bytes) :=
  match vintRead bs with
  | none => .error .illtp
  | some (paramType, bs) =>
    match vintRead bs with
    | none => .error .illtp
    | some (paramLen, bs) =>
      if bs.length < paramLen then .error .illtp
      else if paramType = paramMaxDatagramFrameSize then
        match vintRead (bs.take paramLen) with
        | none => .error .illtp
        | some (value, rest) =>
          if rest ≠ [] ∨ p.maxDatagramFrameSize ≠ 0 then .error .illtp
          else .ok ({ p with maxDatagramFrameSize := value }, bs.drop paramLen)
      else if paramType ≤ 0x09 then
        -- the value is not confined to its entry
        match vintRead bs with
        | none => .error .illtp
        | some (value, _) =>
          match p.set paramType value with
          | .error e => .error e
          | .ok p => .ok (p, bs.drop paramLen)
      else .ok (p, bs.drop paramLen)

/-- The loop of `rqc_decode_transport_params`. -/
def decodeParamsLoop : ℕ → Bool → TransportParams → Bytes → Except Errno TransportParams
  | _, _, p, [] => .ok p
  | 0, _, _, _ :: _ => .error .illtp
  | fuel + 1, datagramSeen, p, b :: bs =>
    match vintRead (b :: bs) with
    | none => .error .illtp
    | some (paramType, _) =>
      if paramType = paramMaxDatagramFrameSize ∧ datagramSeen = true then .error .illtp
      else
        match decodeOneTransportParam p (b :: bs) with
        | .error e => .error e
        | .ok (p, rest) =>
          decodeParamsLoop fuel (datagramSeen || paramType = paramMaxDatagramFrameSize) p rest

/-- `rqc_decode_transport_params`. Every entry takes at least two bytes, so the length of the string
bounds the number of rounds. -/
def decodeTransportParams (bs : Bytes) : Except Errno TransportParams :=
  decodeParamsLoop bs.length false {} bs

/-! ## The range of the values -/

/-- The limits of the parameters are below `N`. -/
structure TransportParams.Below (N : ℕ) (p : TransportParams) : Prop where
  maxData : p.initialMaxData < N
  bidiLocal : p.initialMaxStreamDataBidiLocal < N
  bidiRemote : p.initialMaxStreamDataBidiRemote < N
  uni : p.initialMaxStreamDataUni < N

theorem TransportParams.Below.set {N paramType value : ℕ} {p p' : TransportParams} (h : p.Below N)
    (hv : value < N) (hset : p.set paramType value = .ok p') : p'.Below N := by
  obtain ⟨hdata, hlocal, hremote, huni⟩ := h
  unfold TransportParams.set at hset
  split at hset
  case h_9 =>
    split_ifs at hset
    obtain rfl := Except.ok.inj hset
    exact ⟨hdata, hlocal, hremote, huni⟩
  all_goals
    obtain rfl := Except.ok.inj hset
    constructor <;> assumption

theorem decodeOneTransportParam_below {p p' : TransportParams} {bs rest : Bytes}
    (h : p.Below (2 ^ 62)) (hd : decodeOneTransportParam p bs = .ok (p', rest)) :
    p'.Below (2 ^ 62) := by
  unfold decodeOneTransportParam at hd
  split at hd
  · cases hd
  · rename_i paramType bs₁ _
    split at hd
    · cases hd
    · rename_i paramLen bs₂ _
      split_ifs at hd
      · split at hd
        · cases hd
        · split_ifs at hd
          obtain ⟨rfl, -⟩ := Prod.mk.inj (Except.ok.inj hd)
          exact ⟨h.maxData, h.bidiLocal, h.bidiRemote, h.uni⟩
      · split at hd
        · cases hd
        · rename_i value _ hvalue
          split at hd
          · cases hd
          · rename_i p₁ hset
            obtain ⟨rfl, -⟩ := Prod.mk.inj (Except.ok.inj hd)
            exact h.set (vintRead_lt hvalue) hset
      · obtain ⟨rfl, -⟩ := Prod.mk.inj (Except.ok.inj hd)
        exact h

theorem decodeParamsLoop_below {fuel : ℕ} {datagramSeen : Bool} {p p' : TransportParams} {bs : Bytes}
    (h : p.Below (2 ^ 62)) (hd : decodeParamsLoop fuel datagramSeen p bs = .ok p') :
    p'.Below (2 ^ 62) := by
  induction fuel generalizing datagramSeen p bs with
  | zero =>
      cases bs with
      | nil =>
          obtain rfl := Except.ok.inj hd
          exact h
      | cons b bs => cases hd
  | succ fuel ih =>
      cases bs with
      | nil =>
          obtain rfl := Except.ok.inj hd
          exact h
      | cons b bs =>
          rw [decodeParamsLoop] at hd
          split at hd
          · cases hd
          · split_ifs at hd
            split at hd
            · cases hd
            · rename_i p₁ rest hone
              exact ih (decodeOneTransportParam_below h hone) hd

/-- **Every decoded limit is a variable-length integer.** -/
theorem decodeTransportParams_lt {bs : Bytes} {p : TransportParams}
    (h : decodeTransportParams bs = .ok p) : p.Below (2 ^ 62) :=
  decodeParamsLoop_below ⟨by decide, by decide, by decide, by decide⟩ h

end Rquic

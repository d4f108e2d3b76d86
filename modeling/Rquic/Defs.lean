import Mathlib.Algebra.Order.Ring.Nat
import Mathlib.Data.List.Basic
import Mathlib.Tactic.SplitIfs

set_option autoImplicit false

/-!
# Transport definitions

The constants, error codes, enumerations and settings records shared by the whole model, and the
unsigned 64-bit arithmetic of the flow-control counters.

* `Errno`, `TraErr`: the library error codes and the transport error codes of `rqc_errno.h`.
* `StreamType`, `RecvStreamState`, `SendStreamState`: the stream enumerations.
* `TransSettings`, `ConnSettings`, `ConnFlowCtl`: the settings and the connection flow control.
* `u64Add`, `u64Sub`: `uint64_t` addition and subtraction.
-/

namespace Rquic

/-- Bytes as the wire and the stream buffers carry them. -/
abbrev Bytes := List UInt8

abbrev StreamId := ℕ

/-! ## Constants -/

/-- `RQC_MAX_RECV_WINDOW`. -/
def maxRecvWindow : ℕ := 4 * 1024 * 1024

/-- `RQC_MIN_RECV_WINDOW`. -/
def minRecvWindow : ℕ := 63000

/-! ## Error codes -/

/-- The library error codes that the modelled functions return (negated in the source). -/
inductive Errno where
  | nobuf | vintread | nullptr | malloc | illpkt | illtp | illframe | again | param | state | limit
  | proto | socket | connBlocked | streamBlocked | streamNfound | writePkt | createStream
  | streamReset | dupFrame | version | waiting | ignorePkt | connNfound | sys | fatal
  | datagramNotSupported | datagramTooLarge | alpnNotSupported | alpnNotRegistered | closing
  | activeCidLimit
  /-- `RQC_ERROR`. -/
  | generic
  deriving DecidableEq, Repr

/-- The transport error codes that the modelled functions raise with `RQC_CONN_ERR`. -/
inductive TraErr where
  | internalError | connectionRefusedError | flowControlError | streamLimitError
  | streamStateError | finalSizeError | frameEncodingError | transportParameterError
  | connectionIdLimitError | protocolViolation | applicationError
  /-- The code of a CONNECTION_CLOSE frame from the peer. -/
  | remote (code : ℕ)
  deriving DecidableEq, Repr

/-! ## Enumerations -/

inductive ConnType where
  | server | client
  deriving DecidableEq, Repr

/-- The two low bits of a stream id. -/
inductive StreamType where
  | cliBid | svrBid | cliUni | svrUni
  deriving DecidableEq, Repr

/-- `rqc_get_stream_type`. -/
def getStreamType (streamId : StreamId) : StreamType :=
  match streamId % 4 with
  | 0 => .cliBid
  | 1 => .svrBid
  | 2 => .cliUni
  | _ => .svrUni

/-- The states of the receiving half of a stream, in the order of `rqc_recv_stream_state_t`. -/
inductive RecvStreamState where
  | recv | sizeKnown | dataRecvd | dataRead | resetRecvd | resetRead
  deriving DecidableEq, Repr

/-- The numeric value that the source compares. -/
def RecvStreamState.toNat : RecvStreamState → ℕ
  | .recv => 0
  | .sizeKnown => 1
  | .dataRecvd => 2
  | .dataRead => 3
  | .resetRecvd => 4
  | .resetRead => 5

/-- The states of the sending half of a stream, in the order of `rqc_send_stream_state_t`. -/
inductive SendStreamState where
  | ready | send | dataSent | dataRecvd | resetSent | resetRecvd
  deriving DecidableEq, Repr

/-- The numeric value that the source compares. -/
def SendStreamState.toNat : SendStreamState → ℕ
  | .ready => 0
  | .send => 1
  | .dataSent => 2
  | .dataRecvd => 3
  | .resetSent => 4
  | .resetRecvd => 5

/-! ## Settings and flow control -/

/-- `RQC_DEFAULT_MAX_ACK_DELAY`, `RQC_DEFAULT_ACK_DELAY_EXPONENT` and
`RQC_DEFAULT_MAX_UDP_PAYLOAD_SIZE`. -/
def defaultMaxAckDelay : ℕ := 25
def defaultAckDelayExponent : ℕ := 3
def defaultMaxUdpPayloadSize : ℕ := 1500

/-- `rqc_trans_settings_t`, with the values of `rqc_conn_set_default_settings`. -/
structure TransSettings where
  maxIdleTimeout : ℕ := 0
  maxUdpPayloadSize : ℕ := defaultMaxUdpPayloadSize
  maxDatagramFrameSize : ℕ := 0
  maxData : ℕ := 0
  maxStreamDataBidiLocal : ℕ := 0
  maxStreamDataBidiRemote : ℕ := 0
  maxStreamDataUni : ℕ := 0
  maxStreamsBidi : ℕ := 0
  maxStreamsUni : ℕ := 0
  ackDelayExponent : ℕ := defaultAckDelayExponent
  maxAckDelay : ℕ := defaultMaxAckDelay
  deriving DecidableEq, Repr

/-- `rqc_conn_settings_t`, the fields that flow control and the transport parameters depend on. -/
structure ConnSettings where
  recvRateBytesPerSec : ℕ := 0
  enableStreamRateLimit : Bool := false
  initRecvWindow : ℕ := 0
  maxPktOutSize : ℕ := 0
  maxUdpPayloadSize : ℕ := 0
  maxDatagramFrameSize : ℕ := 0
  idleTimeOut : ℕ := 0
  maxAckDelay : ℕ := 0
  deriving DecidableEq, Repr

/-- `rqc_conn_flow_ctl_t`. -/
structure ConnFlowCtl where
  maxDataCanSend : ℕ := 0
  dataSent : ℕ := 0
  maxDataCanRecv : ℕ := 0
  dataRecved : ℕ := 0
  dataRead : ℕ := 0
  maxStreamsBidiCanSend : ℕ := 0
  maxStreamsBidiCanRecv : ℕ := 0
  maxStreamsUniCanSend : ℕ := 0
  maxStreamsUniCanRecv : ℕ := 0
  recvWindowsSize : ℕ := 0
  lastWindowUpdateTime : ℕ := 0
  deriving DecidableEq, Repr

/-! ## `uint64_t` arithmetic -/

/-- Addition of two `uint64_t` values. -/
def u64Add (a b : ℕ) : ℕ := (a + b) % 2 ^ 64

/-- Subtraction of two `uint64_t` values. -/
def u64Sub (a b : ℕ) : ℕ := (a + (2 ^ 64 - b % 2 ^ 64)) % 2 ^ 64

/-- Multiplication of two `uint64_t` values. -/
def u64Mul (a b : ℕ) : ℕ := a * b % 2 ^ 64

theorem u64Add_eq {a b : ℕ} (h : a + b < 2 ^ 64) : u64Add a b = a + b := Nat.mod_eq_of_lt h

theorem u64Sub_eq {a b : ℕ} (h : b ≤ a) (ha : a < 2 ^ 64) : u64Sub a b = a - b := by
  unfold u64Sub
  rw [Nat.mod_eq_of_lt (by omega : b < 2 ^ 64), show a + (2 ^ 64 - b) = a - b + 2 ^ 64 by omega,
    Nat.add_mod_right, Nat.mod_eq_of_lt (by omega)]

end Rquic

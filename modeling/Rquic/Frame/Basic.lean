import Mathlib.Data.Finset.Basic
import Rquic.Defs

set_option autoImplicit false

/-!
# Frames

The frames of the wire format as values.

* `FrameType`: the frame types of `rqc_frame_type_t`, without the two no source function produces.
* `AckInfo`: a parsed ACK frame, the ranges from the largest packet number down.
* `Frame`: one frame with all of its fields.
* `needRepair`, `ackEliciting`: the frame types whose loss is repaired and that ask for an ACK.
-/

namespace Rquic

/-- The frame types that are written to or read from packets. -/
inductive FrameType where
  | padding | ping | ack | handshake | resetStream | stopSending | stream | maxData
  | maxStreamData | maxStreams | dataBlocked | streamDataBlocked | streamsBlocked
  | pathChallenge | pathResponse | connectionClose | datagram
  deriving DecidableEq, Repr

/-- A range of packet numbers, both ends included (`rqc_pktno_range_t`). -/
structure PktnoRange where
  low : ℕ
  high : ℕ
  deriving DecidableEq, Repr

/-- A parsed ACK frame (`rqc_ack_info_t`), `ackDelay` already scaled by the exponent. -/
structure AckInfo where
  ranges : List PktnoRange
  ackDelay : ℕ
  deriving DecidableEq, Repr

/-- One frame with its fields. -/
inductive Frame where
  | padding
  | ping
  | ack (info : AckInfo)
  | handshake (alpn tp ext : Bytes)
  | resetStream (streamId errCode finalSize : ℕ)
  | stopSending (streamId errCode : ℕ)
  | stream (streamId offset : ℕ) (fin : Bool) (data : Bytes)
  | maxData (maxData : ℕ)
  | maxStreamData (streamId maxStreamData : ℕ)
  | maxStreams (bidirectional : Bool) (maxStreams : ℕ)
  | dataBlocked (dataLimit : ℕ)
  | streamDataBlocked (streamId streamDataLimit : ℕ)
  | streamsBlocked (bidirectional : Bool) (streamLimit : ℕ)
  | pathChallenge (data : Bytes)
  | pathResponse (data : Bytes)
  | connectionClose (errCode : ℕ)
  | datagram (data : Bytes)
  deriving DecidableEq, Repr

/-- The type of a frame. -/
def Frame.type : Frame → FrameType
  | .padding => .padding
  | .ping => .ping
  | .ack _ => .ack
  | .handshake .. => .handshake
  | .resetStream .. => .resetStream
  | .stopSending .. => .stopSending
  | .stream .. => .stream
  | .maxData _ => .maxData
  | .maxStreamData .. => .maxStreamData
  | .maxStreams .. => .maxStreams
  | .dataBlocked _ => .dataBlocked
  | .streamDataBlocked .. => .streamDataBlocked
  | .streamsBlocked .. => .streamsBlocked
  | .pathChallenge _ => .pathChallenge
  | .pathResponse _ => .pathResponse
  | .connectionClose _ => .connectionClose
  | .datagram _ => .datagram

/-! ## Classes of frame types -/

/-- `RQC_NEED_REPAIR` of one frame type. -/
def FrameType.needRepair : FrameType → Bool
  | .ack | .padding | .ping | .connectionClose | .datagram => false
  | _ => true

/-- `RQC_IS_ACK_ELICITING` of one frame type. -/
def FrameType.ackEliciting : FrameType → Bool
  | .ack | .padding | .connectionClose => false
  | _ => true

/-- `RQC_CAN_IN_FLIGHT` of one frame type. -/
def FrameType.canInFlight : FrameType → Bool
  | .ack | .connectionClose => false
  | _ => true

/-- `RQC_NEED_REPAIR` of the frame types of a packet. -/
def needRepair (types : Finset FrameType) : Prop := ∃ t ∈ types, t.needRepair = true

/-- `RQC_IS_ACK_ELICITING` of the frame types of a packet. -/
def isAckEliciting (types : Finset FrameType) : Prop := ∃ t ∈ types, t.ackEliciting = true

/-- `RQC_CAN_IN_FLIGHT` of the frame types of a packet. -/
def canInFlight (types : Finset FrameType) : Prop := ∃ t ∈ types, t.canInFlight = true

instance (types : Finset FrameType) : Decidable (needRepair types) :=
  inferInstanceAs (Decidable (∃ t ∈ types, t.needRepair = true))

instance (types : Finset FrameType) : Decidable (isAckEliciting types) :=
  inferInstanceAs (Decidable (∃ t ∈ types, t.ackEliciting = true))

instance (types : Finset FrameType) : Decidable (canInFlight types) :=
  inferInstanceAs (Decidable (∃ t ∈ types, t.canInFlight = true))

end Rquic

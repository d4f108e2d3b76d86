import Rquic.Lib.Cover
import Rquic.Frame.Basic
import Rquic.Stream.DataIn
import Rquic.Stream.Basic
import Rquic.Stream.Recv
import Rquic.Stream.Reassembly
import Rquic.Stream.Fin
import Rquic.Stream.FinalSize
import Rquic.Lib.Codec
import Rquic.Vint
import Rquic.Frame.Parse
import Rquic.PacketOut
import Rquic.PacketContent
import Rquic.RecvRecord
import Rquic.SendQueue.Basic
import Rquic.SendQueue.Ctl
import Rquic.SendQueue.Run
import Rquic.SendQueue.Content
import Rquic.SendQueue.Retransmission
import Rquic.SendQueue.Life
import Rquic.SendQueue.Steps
import Rquic.SendQueue.Family
import Rquic.SendQueue.AckOfAck
import Rquic.TransportParams
import Rquic.Conn.Basic
import Rquic.Conn.Streams
import Rquic.Conn.Send
import Rquic.Conn.Frames
import Rquic.Conn.Run
import Rquic.Conn.Steps
import Rquic.Conn.Calls
import Rquic.Conn.Handlers
import Rquic.Conn.Change
import Rquic.Conn.Packets
import Rquic.Conn.PeerStreams
import Rquic.Conn.Direction
import Rquic.Conn.Gate
import Rquic.Conn.Emit
import Rquic.Conn.Room
import Rquic.Conn.AtomicSend
import Rquic.Lib.Counter
import Rquic.SendCtl.Basic
import Rquic.SendCtl.Run
import Rquic.PacketNumber
import Rquic.SendQueue.PnRecovery
import Rquic.Conn.Live
import Rquic.Conn.Lifetime
import Rquic.Conn.AckPending
import Rquic.SendQueue.Unsent
import Rquic.Conn.Handshake
import Rquic.SendCtl.Halves
import Rquic.Conn.StreamStates
import Rquic.Conn.Header
import Rquic.Conn.Ignored
import Rquic.Conn.Rebinding
import Rquic.Engine.Basic
import Rquic.Engine.Wakeup
import Rquic.SendQueue.Places
import Rquic.Lib.Intervals
import Rquic.RecvSet
import Rquic.AckFrame
import Rquic.SendQueue.AckWalk
import Rquic.SendCtl.AckExact
import Rquic.SendCtl.Inflight
import Rquic.SendCtl.LossTimer
import Rquic.ParamCodec
import Rquic.Frame.Control
import Rquic.Frame.Cursor
import Rquic.Conn.HeaderFields
import Rquic.Conn.HeaderGen
import Rquic.Conn.Datagram
import Rquic.Conn.Visits
import Rquic.SendCtl.LossExact
import Rquic.Lib.Shelves
import Rquic.SendCtl.Counters
import Rquic.SendCtl.CountersInv
import Rquic.SendCtl.CountersRun
import Rquic.Conn.StreamCalls
import Rquic.AckSentRing
import Rquic.SendCtl.DatagramSize
import Rquic.Stream.Peek
import Rquic.SendQueue.Drop
import Rquic.SendCtl.Rtt
import Rquic.Lib.TokenBucket
import Rquic.SendCtl.Pacer
import Rquic.Conn.Negotiation
import Rquic.SendCtl.Sample
import Rquic.SendCtl.SampleRun
import Rquic.SendCtl.AckValid
import Rquic.Conn.Advertised
import Rquic.Conn.StreamLimits
import Rquic.Congestion.Bbr
import Rquic.Engine.PriorityQ
import Rquic.Lib.Resume
import Rquic.RingDeque
import Rquic.VintParse
import Rquic.Congestion.BbrWindow
import Rquic.Conn.RecvAccount
import Rquic.Conn.RecvOffers
import Rquic.Lib.Buckets
import Rquic.Common.StrHash
import Rquic.Common.IdHash
import Rquic.Engine.ConnTable
import Rquic.Congestion.Bbr2
import Rquic.Congestion.Bbr2Phase
import Rquic.Lib.MinFilter
import Rquic.Congestion.MinRtt
import Rquic.SendQueue.SentWire
import Rquic.SendQueue.HonestAck
import Rquic.SendQueue.StreamBytes
import Rquic.Link.Basic
import Rquic.Link.Delivery
import Rquic.Link.Transfer
import Rquic.Link.Complete
import Rquic.Lib.TwoWay
import Rquic.Common.List
import Rquic.SendQueue.Burst
import Rquic.SendQueue.BurstRun

import AvProject.Client.UdpRepresentation
import AvProject.Lib.Fragments
import AvProject.Server.AppConfig
import AvProject.Server.UdpStreamingBackend
import AvProject.Server.UdpEmission
import AvProject.Udp.Layout
import AvProject.Udp.Carries
import AvProject.Udp.Integrity
import AvProject.Client.UdpCompletion
import AvProject.Udp.RoundTrip
import AvProject.Udp.RetransmitCache
import AvProject.Udp.Recovery
import AvProject.Client.NothingStranded
import AvProject.Client.PlayoutOrder
import AvProject.Rtp.RoundTrip
import AvProject.Rtp.WholeUnits
import AvProject.Rtp.Loss
import AvProject.Client.Shutdown
import AvProject.Client.KeyframeGate
import AvProject.Tcp.RoundTrip
import AvProject.Rtp.Playout
import AvProject.Udp.ArrivalOrder
import AvProject.Client.AtMostOnce
import AvProject.Client.Conservation
import AvProject.Client.NackRequests
import AvProject.Udp.NackExchange
import AvProject.Client.NackBudget
import AvProject.Client.PlayoutLedger
import AvProject.Client.SkipCounts
import AvProject.Client.BufferDepth
import AvProject.Lib.Rollback
import AvProject.Server.Application
import AvProject.Server.Lifecycle
import AvProject.Server.ClientRegistry
import AvProject.Lib.AgeingQueue
import AvProject.Server.BatchSending
import AvProject.Server.RetransmitService
import AvProject.Server.PacketSizes
import AvProject.Client.Deadlines
import AvProject.Client.Reconnection
import AvProject.Rtp.LossCounters
import AvProject.Lib.History
import AvProject.Lib.Text
import AvProject.Client.SdpSessionDescription
import AvProject.Server.RtpStreamingBackend
import AvProject.Rtp.SessionDescription
import AvProject.Client.ModeTransitions
import AvProject.Client.SmoothConfirmation
import AvProject.Server.TcpReceiveLoop
import AvProject.Tcp.ControlStream
import AvProject.Lib.CheckedAccess
import AvProject.Protocol.RtpAccess
import AvProject.Rtp.HeaderCodec
import AvProject.Rtp.SendTimeUpdate
import AvProject.Rtp.MediaClock
import AvProject.Server.SendMessageParts
import AvProject.Protocol.AnnexBSplitting
import AvProject.Client.QualityParams
import AvProject.Client.Draining
import AvProject.Rtp.SenderMetadata
import AvProject.Client.LatencyWindow
import AvProject.Server.YuyvToI420
import AvProject.Client.QueueCalls
import AvProject.Client.SdpLineOrder
import AvProject.Server.SizeOptions
import AvProject.Client.IntegerOptions
import AvProject.Server.CaptureModule
import AvProject.Udp.ReceptionReports
import AvProject.Udp.NackRepair
import AvProject.Rtp.BroadcastReception
import AvProject.Tcp.BroadcastDisplay
import AvProject.Server.ProcessSafety

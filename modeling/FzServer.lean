import FzServer.Foundation.FrameCodec
import FzServer.Foundation.ByteOrder
import FzServer.Foundation.Memory
import FzServer.Construction.Rtp.RtpPacket
import FzServer.Construction.Rtp.Sender
import FzServer.Construction.Container.Adts
import FzServer.Construction.Container.SendManager
import FzServer.Proof.Packetisation.SendTrace
import FzServer.Proof.Packetisation.Depacketise
import FzServer.Proof.Packetisation.Demultiplex
import FzServer.Foundation.FileStream
import FzServer.Construction.Container.StartCode
import FzServer.Construction.Media.SendH264
import FzServer.Proof.Streaming.VideoFile
import FzServer.Construction.Session.ClientFdManager
import FzServer.Foundation.CString
import FzServer.Construction.Session.GenerateSession
import FzServer.Construction.Session.SessionManager
import FzServer.Foundation.Machine
import FzServer.Construction.Rtsp.RequestParser
import FzServer.Construction.Rtsp.RtspResponse
import FzServer.Construction.Rtsp.RtspHandler
import FzServer.Foundation.Loop
import FzServer.Foundation.Tokenizer
import FzServer.Construction.Rtsp.CheckedParser
import FzServer.Construction.Rtsp.CheckedHandler
import FzServer.Construction.Server.EpollServer
import FzServer.Proof.Session.Requests
import FzServer.Proof.Session.SessionView
import FzServer.Proof.Session.NullSession
import FzServer.Proof.Session.PlaybackControl
import FzServer.Proof.Session.FreshSession
import FzServer.Proof.Session.DescriptorReuse
import FzServer.Proof.Session.SolidNames
import FzServer.Proof.Session.ConcurrentClients
import FzServer.Proof.Parsing.Lines
import FzServer.Foundation.Decimal
import FzServer.Foundation.LastWrite
import FzServer.Proof.Parsing.Reading
import FzServer.Proof.Parsing.Bounds
import FzServer.Proof.Session.ArrayBounds
import FzServer.Proof.Parsing.Segmentation
import FzServer.Proof.Parsing.WellFormed
import FzServer.Proof.Parsing.RequestText
import FzServer.Proof.Parsing.HeaderLines
import FzServer.Proof.Parsing.Faithful
import FzServer.Proof.Packetisation.SendSteps
import FzServer.Proof.Packetisation.SequenceNumbers
import FzServer.Proof.Packetisation.Timestamps
import FzServer.Proof.Packetisation.Transports
import FzServer.Construction.Container.AdtsHeader
import FzServer.Construction.Media.SendAac
import FzServer.Proof.Streaming.AdtsLayout
import FzServer.Proof.Streaming.Turns
import FzServer.Proof.Streaming.AudioFile
import FzServer.Proof.Reply.Status
import FzServer.Proof.Parsing.Indeterminate
import FzServer.Construction.Media.SendH264Aac
import FzServer.Construction.Media.UdpRoutes
import FzServer.Proof.Streaming.Threads
import FzServer.Foundation.MessageFraming
import FzServer.Proof.Reply.Reader
import FzServer.Proof.Reply.Builders
import FzServer.Proof.Reply.Announcement
import FzServer.Proof.Reply.ReplyStream
import FzServer.Proof.Streaming.StreamedTracks
import FzServer.Foundation.SortedMap
import FzServer.Foundation.NestedMap
import FzServer.Construction.Utility.IniFile
import FzServer.Proof.Utility.IniLines
import FzServer.Proof.Utility.IniRoundTrip
import FzServer.Proof.Utility.IniHistory
import FzServer.Proof.Utility.IniAssignments
import FzServer.Foundation.Schedule
import FzServer.Construction.Utility.Logger
import FzServer.Proof.Utility.LogSteps
import FzServer.Proof.Utility.LogOrder
import FzServer.Proof.Utility.WakeUp
import FzServer.Foundation.Partition
import FzServer.Construction.Utility.PortManager
import FzServer.Proof.Utility.PortPairs
import FzServer.Proof.Utility.PortPool
import FzServer.Construction.Rtsp.UdpHandler
import FzServer.Construction.Server.UdpServer
import FzServer.Construction.Rtsp.UdpParser
import FzServer.Construction.Server.UdpEvents
import FzServer.Proof.Session.UdpPorts
import FzServer.Proof.Session.Teardown
import FzServer.Proof.Packetisation.Fragmentation
import FzServer.Proof.Streaming.UnitBoundaries
import FzServer.Proof.Streaming.AudioLengths
import FzServer.Proof.Streaming.AdtsFields
import FzServer.Proof.Streaming.FramePointer
import FzServer.Proof.Streaming.Truncation
import FzServer.Proof.Packetisation.WireFormat
import FzServer.Proof.Session.UdpFailure
import FzServer.Proof.Parsing.SessionHeader
import FzServer.Proof.Reply.ResponseText
import FzServer.Construction.Rtsp.MediaRequest
import FzServer.Proof.Streaming.MediaErrors
import FzServer.Construction.Media.OpenFiles
import FzServer.Proof.Streaming.FileHandles
import FzServer.Proof.Utility.LogSize
import FzServer.Foundation.Pipeline
import FzServer.Proof.Streaming.Readers
import FzServer.Proof.Packetisation.SendStream
import FzServer.Proof.Packetisation.TrackHeaders
import FzServer.Proof.Streaming.SoundAudio
import FzServer.Proof.Streaming.TrackStreams
import FzServer.Proof.Streaming.PlaybackTransports
import FzServer.Proof.Streaming.FileTiling
import FzServer.Proof.Packetisation.UnitStreams
import FzServer.Proof.Streaming.Reception
import FzServer.Foundation.FrameChoice
import FzServer.Proof.Reply.ConnectionStream
import FzServer.Foundation.Simulation
import FzServer.Proof.Session.Directory
import FzServer.Proof.Parsing.UdpReading
import FzServer.Proof.Session.UdpControl
import FzServer.Proof.Reply.PortAnnouncement
import FzServer.Proof.Session.UdpLedger
import FzServer.Proof.Session.CompleteRequests
import FzServer.Proof.Session.Isolation
import FzServer.Proof.Session.Playable
import FzServer.Construction.Utility.IniValue
import FzServer.Proof.Utility.Settings
import FzServer.Construction.Server.Startup
import FzServer.Proof.Utility.IniText
import FzServer.Proof.Utility.ServerPort
import FzServer.Proof.Utility.LogLoss
import FzServer.Proof.Utility.LogShutdown
import FzServer.Foundation.SessionDescription
import FzServer.Proof.Handshake.Player
import FzServer.Proof.Handshake.ServerTracks
import FzServer.Proof.Handshake.Lessons
import FzServer.Proof.Handshake.Conversation

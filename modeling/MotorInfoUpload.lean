import MotorInfoUpload.Machine.Run
import MotorInfoUpload.Machine.History
import MotorInfoUpload.Machine.Logged
import MotorInfoUpload.Machine.Condition
import MotorInfoUpload.Machine.Cycle
import MotorInfoUpload.Machine.Ownership
import MotorInfoUpload.Machine.Deque
import MotorInfoUpload.Machine.Packed
import MotorInfoUpload.Machine.Signals
import MotorInfoUpload.Machine.Simulation
import MotorInfoUpload.Machine.Amortized
import MotorInfoUpload.BlockQueue
import MotorInfoUpload.QueueCalls
import MotorInfoUpload.QueueThreads
import MotorInfoUpload.QueueWakeUps
import MotorInfoUpload.QueueClients
import MotorInfoUpload.TimedTake
import MotorInfoUpload.ByteBuffer
import MotorInfoUpload.DataFormat
import MotorInfoUpload.Grammar.Reader
import MotorInfoUpload.Grammar.PrefixFree
import MotorInfoUpload.Session.ParseDataUnit
import MotorInfoUpload.Session.InfoBlock
import MotorInfoUpload.Session.FilterCorrect
import MotorInfoUpload.Session.UploadFilter
import MotorInfoUpload.Session.MarkedProbes
import MotorInfoUpload.Session.Regions
import MotorInfoUpload.Session.Received
import MotorInfoUpload.Session.Handlers
import MotorInfoUpload.Session.Laundering
import MotorInfoUpload.Session.Server
import MotorInfoUpload.Session.Moves
import MotorInfoUpload.Session.Alive
import MotorInfoUpload.Session.Stream
import MotorInfoUpload.Session.Framing
import MotorInfoUpload.Session.Isolation
import MotorInfoUpload.Session.Format
import MotorInfoUpload.Session.Bounds
import MotorInfoUpload.Session.Table
import MotorInfoUpload.Session.StaleTimers
import MotorInfoUpload.Forwarder.System
import MotorInfoUpload.Forwarder.Moves
import MotorInfoUpload.Forwarder.Paths
import MotorInfoUpload.Forwarder.QueueUse
import MotorInfoUpload.Forwarder.Deadlock
import MotorInfoUpload.Forwarder.Reissue
import MotorInfoUpload.Forwarder.Ownership
import MotorInfoUpload.Forwarder.Backlog
import MotorInfoUpload.Forwarder.Emptying
import MotorInfoUpload.Forwarder.Effort
import MotorInfoUpload.Forwarder.Trapped
import MotorInfoUpload.Forwarder.Survival
import MotorInfoUpload.Forwarder.Origin
import MotorInfoUpload.Forwarder.Marking
import MotorInfoUpload.Forwarder.PartialSend
import MotorInfoUpload.Forwarder.Stall
import MotorInfoUpload.Forwarder.Drain
import MotorInfoUpload.Forwarder.Rivals
import MotorInfoUpload.Forwarder.PutBack
import MotorInfoUpload.Forwarder.Order
import MotorInfoUpload.Gateway.System
import MotorInfoUpload.Gateway.Allowed
import MotorInfoUpload.Gateway.Stream
import MotorInfoUpload.Gateway.Delivery
import MotorInfoUpload.Gateway.Program
import MotorInfoUpload.Gateway.Relay
import MotorInfoUpload.Platform.ResponseReader
import MotorInfoUpload.Platform.Reading
import MotorInfoUpload.Platform.ReadBounds
import MotorInfoUpload.Platform.Frames
import MotorInfoUpload.Platform.Resync
import MotorInfoUpload.Platform.LoginLoop
import MotorInfoUpload.Platform.LoginSerial
import MotorInfoUpload.Platform.LoginFrame
import MotorInfoUpload.Platform.Sent
import MotorInfoUpload.Platform.ChannelNames
import MotorInfoUpload.Platform.Overlap
import MotorInfoUpload.Platform.Dispatch
import MotorInfoUpload.Platform.Answer
import MotorInfoUpload.Platform.SerialNumber
import MotorInfoUpload.Platform.Link
import MotorInfoUpload.Platform.Login
import MotorInfoUpload.Platform.PublicServer
import MotorInfoUpload.Platform.Uplink
import MotorInfoUpload.Platform.Wire
import MotorInfoUpload.Platform.AsyncWrite

import PhotospiderDaemon.Apps.Lifecycle
import PhotospiderDaemon.Apps.Options
import PhotospiderDaemon.Apps.Signals
import PhotospiderDaemon.Foundation.ByteFormat
import PhotospiderDaemon.Foundation.Canonical
import PhotospiderDaemon.Foundation.ConditionVariables
import PhotospiderDaemon.Foundation.FileSystem
import PhotospiderDaemon.Foundation.Interleaving
import PhotospiderDaemon.Foundation.OrderedMap
import PhotospiderDaemon.Foundation.PartialTransfer
import PhotospiderDaemon.Foundation.RoundTrip
import PhotospiderDaemon.Foundation.ScopedLocks
import PhotospiderDaemon.Foundation.Sweep
import PhotospiderDaemon.Foundation.Throwing
import PhotospiderDaemon.Ipc.Canonical
import PhotospiderDaemon.Ipc.Client
import PhotospiderDaemon.Ipc.ClientMethods
import PhotospiderDaemon.Ipc.ClientStream
import PhotospiderDaemon.Ipc.Codec
import PhotospiderDaemon.Ipc.CountFences
import PhotospiderDaemon.Ipc.CountedLoops
import PhotospiderDaemon.Ipc.Diagnostics
import PhotospiderDaemon.Ipc.Encodable
import PhotospiderDaemon.Ipc.Frame
import PhotospiderDaemon.Ipc.FrameFaults
import PhotospiderDaemon.Ipc.FrameSchedule
import PhotospiderDaemon.Ipc.FrameStream
import PhotospiderDaemon.Ipc.MessageRoundTrip
import PhotospiderDaemon.Ipc.Protocol
import PhotospiderDaemon.Ipc.ProtocolError
import PhotospiderDaemon.Ipc.ResponseCanonical
import PhotospiderDaemon.Ipc.ResultRoundTrip
import PhotospiderDaemon.Ipc.SocketCleanup
import PhotospiderDaemon.Ipc.SocketNode
import PhotospiderDaemon.Ipc.SocketOwnership
import PhotospiderDaemon.Ipc.SocketRemoval
import PhotospiderDaemon.Ipc.Utf8
import PhotospiderDaemon.Ipc.WellFormedText
import PhotospiderDaemon.Ipc.Wire
import PhotospiderDaemon.Orchestration.Accounting
import PhotospiderDaemon.Orchestration.Arbitration
import PhotospiderDaemon.Orchestration.Basic
import PhotospiderDaemon.Orchestration.Closing
import PhotospiderDaemon.Orchestration.FailedCalls
import PhotospiderDaemon.Orchestration.Finality
import PhotospiderDaemon.Orchestration.LockOrder
import PhotospiderDaemon.Orchestration.Moves
import PhotospiderDaemon.Orchestration.Observation
import PhotospiderDaemon.Orchestration.Ownership
import PhotospiderDaemon.Orchestration.Partition
import PhotospiderDaemon.Orchestration.Registry
import PhotospiderDaemon.Orchestration.Reports
import PhotospiderDaemon.Orchestration.Service
import PhotospiderDaemon.Orchestration.Sessions
import PhotospiderDaemon.Orchestration.StartOrder
import PhotospiderDaemon.Orchestration.Teardown
import PhotospiderDaemon.Orchestration.Termination
import PhotospiderDaemon.Orchestration.WakeUps
import PhotospiderDaemon.Server.Admission
import PhotospiderDaemon.Server.Connection
import PhotospiderDaemon.Server.Connections
import PhotospiderDaemon.Server.Dialogue
import PhotospiderDaemon.Server.Fences
import PhotospiderDaemon.Server.Interruption
import PhotospiderDaemon.Server.Inventory
import PhotospiderDaemon.Server.Ledger
import PhotospiderDaemon.Server.Records
import PhotospiderDaemon.Server.Remote
import PhotospiderDaemon.Server.RemoteHistory
import PhotospiderDaemon.Server.Returning
import PhotospiderDaemon.Server.Settlement
import PhotospiderDaemon.Server.Shutdown
import PhotospiderDaemon.Server.StreamLaw

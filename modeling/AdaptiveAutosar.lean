import AdaptiveAutosar.Foundations.BigEndian
import AdaptiveAutosar.Foundations.Framing
import AdaptiveAutosar.Com.PayloadHelper
import AdaptiveAutosar.Com.Option
import AdaptiveAutosar.Com.Entry
import AdaptiveAutosar.Com.EntryRecord
import AdaptiveAutosar.Com.Sd.Message
import AdaptiveAutosar.Com.Sd.RoundTrip
import AdaptiveAutosar.Com.Sd.OptionIndex
import AdaptiveAutosar.Com.Sd.Corrupted
import AdaptiveAutosar.Com.Rpc.Message
import AdaptiveAutosar.Com.Rpc.Server
import AdaptiveAutosar.Com.Rpc.Client
import AdaptiveAutosar.Com.Rpc.Socket
import AdaptiveAutosar.Com.Rpc.EndToEnd
import AdaptiveAutosar.Com.Rpc.Connections
import AdaptiveAutosar.Foundations.FileStore
import AdaptiveAutosar.Foundations.OrderedMap
import AdaptiveAutosar.Foundations.Transition
import AdaptiveAutosar.Per.Storage
import AdaptiveAutosar.Ucm.Manifest
import AdaptiveAutosar.Ucm.PackageManager
import AdaptiveAutosar.Ucm.Calls
import AdaptiveAutosar.Ucm.Sessions
import AdaptiveAutosar.Ucm.Provenance
import AdaptiveAutosar.Ucm.Reassembly
import AdaptiveAutosar.Ucm.Activation
import AdaptiveAutosar.Foundations.Fields
import AdaptiveAutosar.PackageManagement.Wire
import AdaptiveAutosar.PackageManagement.Agreement
import AdaptiveAutosar.PackageManagement.Robustness
import AdaptiveAutosar.PackageManagement.Disconnect
import AdaptiveAutosar.PackageManagement.Matching
import AdaptiveAutosar.Foundations.Paths
import AdaptiveAutosar.Foundations.ShellWords
import AdaptiveAutosar.Ucm.Confinement
import AdaptiveAutosar.Com.ConcurrentQueue
import AdaptiveAutosar.Com.SendQueue
import AdaptiveAutosar.Com.Sd.Client.Machine
import AdaptiveAutosar.Com.Sd.Client.Ready
import AdaptiveAutosar.Com.Sd.Client.Expiry
import AdaptiveAutosar.Com.Sd.Client.Find
import AdaptiveAutosar.Com.Sd.Client.Endpoint
import AdaptiveAutosar.Com.Sd.Server.Matching
import AdaptiveAutosar.Com.Sd.Server.Offers
import AdaptiveAutosar.Com.Sd.Server.Machine
import AdaptiveAutosar.Com.Sd.Server.Restart
import AdaptiveAutosar.Com.NetworkLayer
import AdaptiveAutosar.Com.Datagram
import AdaptiveAutosar.Com.Sd.NetworkLayer
import AdaptiveAutosar.Com.PubSub.Server
import AdaptiveAutosar.Com.PubSub.Acknowledge
import AdaptiveAutosar.Com.PubSub.Subscriptions
import AdaptiveAutosar.Com.PubSub.Event
import AdaptiveAutosar.Com.PubSub.Client
import AdaptiveAutosar.Diag.UdsService
import AdaptiveAutosar.Foundations.MemoryBlock
import AdaptiveAutosar.Diag.SecurityAccess
import AdaptiveAutosar.Diag.SecurityLevels
import AdaptiveAutosar.Diag.Lockout
import AdaptiveAutosar.Diag.SuppressBit
import AdaptiveAutosar.Diag.TransferData
import AdaptiveAutosar.Diag.TransferBounds
import AdaptiveAutosar.Diag.TransferSession
import AdaptiveAutosar.Diag.UdsServiceRouter
import AdaptiveAutosar.Diag.ResponseFormat
import AdaptiveAutosar.Diag.Refusals
import AdaptiveAutosar.Application.ReadDataByIdentifier
import AdaptiveAutosar.Application.DiagMessageHandler
import AdaptiveAutosar.Application.DoipServer
import AdaptiveAutosar.VehicleStatus.Service
import AdaptiveAutosar.VehicleStatus.EventGroup
import AdaptiveAutosar.Diag.Debouncing
import AdaptiveAutosar.Diag.Monitor
import AdaptiveAutosar.Diag.Freezing
import AdaptiveAutosar.Exec.FunctionGroupState
import AdaptiveAutosar.Exec.Reply
import AdaptiveAutosar.Exec.StateClient
import AdaptiveAutosar.Exec.ExecutionClient
import AdaptiveAutosar.Exec.StateServer
import AdaptiveAutosar.Exec.StateProtocol
import AdaptiveAutosar.Phm.DeadlineSupervision
import AdaptiveAutosar.Phm.GlobalSupervision
import AdaptiveAutosar.Application.PlatformHealthManagement
import AdaptiveAutosar.Application.ExecutionManagement
import AdaptiveAutosar.Per.FileStorage
import AdaptiveAutosar.Foundations.Crc
import AdaptiveAutosar.Com.E2E.Profile11
import AdaptiveAutosar.Com.E2E.Stream
import AdaptiveAutosar.Com.QueueCallers
import AdaptiveAutosar.Com.Admission
import AdaptiveAutosar.Com.Rpc.Classification
import AdaptiveAutosar.Com.PubSub.Atomicity
import AdaptiveAutosar.Per.KeyValueStorage
import AdaptiveAutosar.Com.Rpc.SessionId
import AdaptiveAutosar.Com.Sd.SessionId
import AdaptiveAutosar.Foundations.Numbered
import AdaptiveAutosar.Diag.CounterInvariant
import AdaptiveAutosar.Diag.BlockSequence
import AdaptiveAutosar.Diag.DTCInformation
import AdaptiveAutosar.Diag.DelayTimer
import AdaptiveAutosar.Phm.AliveCycle
import AdaptiveAutosar.Exec.ExecutionServer
import AdaptiveAutosar.Core.Result
import AdaptiveAutosar.Exec.WorkerThread
import AdaptiveAutosar.Com.Sd.Repetition
import AdaptiveAutosar.Foundations.Gaps
import AdaptiveAutosar.Foundations.Journal
import AdaptiveAutosar.Application.FifoCheckpointCommunicator
import AdaptiveAutosar.Application.VehicleUpdateConfigManager
import AdaptiveAutosar.Application.WatchdogApplication
import AdaptiveAutosar.Application.Recovery
import AdaptiveAutosar.Com.Sd.Group
import AdaptiveAutosar.Com.Sd.Discovery
import AdaptiveAutosar.Com.Sd.Finding
import AdaptiveAutosar.Arxml.Reader
import AdaptiveAutosar.Arxml.Path
import AdaptiveAutosar.Foundations.Reallocation
import AdaptiveAutosar.Application.ExecutionManifest
import AdaptiveAutosar.Application.StateManagement
import AdaptiveAutosar.Application.StartUp
import AdaptiveAutosar.Application.ManifestUpdate
import AdaptiveAutosar.Foundations.Packets
import AdaptiveAutosar.Application.DoipClient
import AdaptiveAutosar.Application.DoipWire
import AdaptiveAutosar.Application.ObdToDoipConverter
import AdaptiveAutosar.Application.Readings
import AdaptiveAutosar.Application.DiagnosticLink
import AdaptiveAutosar.Application.Underway
import AdaptiveAutosar.Application.Arrival

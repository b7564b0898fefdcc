import PeerDirectory.Bytes32
import PeerDirectory.Hex
import PeerDirectory.Text.Utf8
import PeerDirectory.Text.Quoted
import PeerDirectory.Hash
import PeerDirectory.PartitionId
import PeerDirectory.Record
import PeerDirectory.Json.Value
import PeerDirectory.Decimal
import PeerDirectory.Json.Text
import PeerDirectory.Json.Number
import PeerDirectory.Json.Node
import PeerDirectory.Json.Decode
import PeerDirectory.Record.Codec
import PeerDirectory.Settings
import PeerDirectory.MemoryStore
import PeerDirectory.Registry
import PeerDirectory.Clients
import PeerDirectory.Metrics
import PeerDirectory.LogEvent
import PeerDirectory.Policy
import PeerDirectory.Directory.Lifecycle
import PeerDirectory.Directory.Queries
import PeerDirectory.Session.Run
import PeerDirectory.Demo
import PeerDirectory.Main
import PeerDirectory.Proofs.Registered
import PeerDirectory.Proofs.SingleInstance
import PeerDirectory.Proofs.Isolation
import PeerDirectory.Proofs.ConcurrentCreation
import PeerDirectory.Proofs.Shutdown
import PeerDirectory.Proofs.Reentrance
import PeerDirectory.Proofs.FailedResolution
import PeerDirectory.Proofs.StoreProtocol
import PeerDirectory.Proofs.Aggregates
import PeerDirectory.Proofs.Anonymity
import PeerDirectory.Proofs.Fallback
import PeerDirectory.Proofs.Interlude
import PeerDirectory.Proofs.Enumeration
import PeerDirectory.Proofs.Directory.Seeding
import PeerDirectory.Proofs.Mirror.Forgotten
import PeerDirectory.Proofs.Run.Retired
import PeerDirectory.Proofs.Teardown
import PeerDirectory.Proofs.Directory.Stopping
import PeerDirectory.Proofs.Run.Balance
import PeerDirectory.Proofs.Run.Accounts
import PeerDirectory.Proofs.Conservation
import PeerDirectory.Proofs.FirstSearch
import PeerDirectory.Proofs.Commutation
import PeerDirectory.Proofs.Reading
import PeerDirectory.Proofs.Filtering
import PeerDirectory.Proofs.FirstTurn
import PeerDirectory.Proofs.NaturalKeys
import PeerDirectory.Proofs.TypedLookups
import PeerDirectory.Proofs.FirstPeers
import PeerDirectory.Proofs.StoreHistory
import PeerDirectory.Proofs.Foundation
import PeerDirectory.Proofs.HashText
import PeerDirectory.Proofs.RecordText
import PeerDirectory.Proofs.HashOrder
import PeerDirectory.Proofs.SettingsFile
import PeerDirectory.Proofs.MemberOrder
import PeerDirectory.Proofs.CommandLine
import PeerDirectory.Proofs.Demonstration

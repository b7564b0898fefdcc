import PeerDirectory.MemoryStore
import PeerDirectory.Directory.Queries

namespace PeerDirectory

inductive Refusal where
  | failure (cause : Failure)
  | hash (cause : HashError)
  | notBuilt
  | unknownNumber (number : Nat)
  | malformed (text : String)

inductive StoreRequest where
  | refused (why : Refusal)
  | startup
  | shutdown
  | store (entry : Entry) (key : Hash)
  | lookup (key : Hash)
  | floodfills
  | routers
  | leaseSets
  | initialized
  | claims (key : Hash)
  | blindingFor (key : SigningKey)
  | blindings
  | setBlinding (data : Blinding)
  | counts

inductive FactoryRequest where
  | fail (id : PartitionId)
  | allow (id : PartitionId)
  | builtCount
  | storesFor (id : PartitionId)
  | storeFor (id : PartitionId)
  | setBlinding (id : PartitionId) (data : Blinding)

inductive LiveRequest where
  | add (client : Hash)
  | remove (client : Hash)
  | isLive (client : Hash)
  | size

/-- How a partition is named in a request: by the number it was shown under, or by an id, which is
resolved. -/
inductive Target where
  | shown (number : Nat)
  | id (id : Option PartitionId)

inductive PartitionRequest where
  | refused (why : Refusal)
  | handle
  | store (entry : Entry) (key : Hash)
  | lookup (key : Hash)
  | lookupLease (key : Hash)
  | lookupRouter (key : Hash)
  | claims (key : Hash)
  | blindingFor (key : SigningKey)
  | contents
  | debug
  | storeMany (text : String) (count : Nat) (floodfill : Bool)
  | seedSummary
  | storeStartup
  | storeShutdown

inductive Request where
  | refused (why : Refusal)
  | factory (request : FactoryRequest)
  | live (request : LiveRequest)
  | metrics
  | events
  | resolve (id : Option PartitionId)
  | clientPartition (id : Option PartitionId)
  | serving (role : WellKnown)
  | existing (id : PartitionId)
  | current
  | findLease (key : Hash)
  | ownerOf (key : Hash)
  | lookupLeaseIn (key : Hash) (id : Option PartitionId)
  | allRouters
  | leasesKnownToClients
  | routersKnownToClients
  | allBlindings
  | allFloodfillPeers
  | clientIds
  | clientIdsFor (key : SigningKey)
  | blinding (key : SigningKey)
  | isInitialized
  | isolated
  | trackedClients
  | stats
  | setIsolation (enabled : Bool)
  | removeClient (client : Hash)
  | shutdown
  | partition (target : Target) (request : PartitionRequest)
  | dump
  | resolveAtOnce (id : Option PartitionId) (times : Nat)

/-- A partition as it is shown to a caller: the number by which it can be named from then on, and
the state it is in. -/
structure Shown where
  number : Nat
  id : PartitionId
  lifecycle : Option Lifecycle

structure Contents where
  initialized : Bool
  floodfills : List Hash
  routers : List Router
  leaseSets : List LeaseSet
  blindings : List Blinding

inductive Answer where
  | done
  | flag (value : Bool)
  | number (value : Nat)
  | text (value : String)
  | entry (value : Option Entry)
  | leaseSet (value : Option LeaseSet)
  | router (value : Option Router)
  | blinding (value : Option Blinding)
  | id (value : Option PartitionId)
  | ids (values : List PartitionId)
  | hashes (values : List Hash)
  | routers (values : List Router)
  | leaseSets (values : List LeaseSet)
  | blindings (values : List Blinding)
  | counts (value : Option MemoryStore.Counts)
  | countsList (values : List MemoryStore.Counts)
  | liveSize (value : Nat)
  | shown (value : Option Shown)
  | shownList (values : List Shown)
  | stats (value : Directory.Stats)
  | contents (value : Contents)
  | dump (tracked : Nat) (partitions : List (Shown × Contents))
  | seedSummary (count : Nat) (copiedFromMain : Bool)
  | atOnce (same : Bool) (handle : Shown) (startups : Nat)
  | metrics (value : Metrics)
  | events (values : List LogEvent)

abbrev Reply := Except Refusal Answer

mutual

inductive Outcome where
  | mk (reply : Reply) (interludes : List Interlude)

inductive Interlude where
  | mk (moment : Moment) (outcomes : List Outcome)

end

structure Hook where
  moment : Moment
  requests : List Request

structure Script where
  pending : List Hook
  interludes : List Interlude
  shown : List Handle
  built : Bool

abbrev Session := Directory MemoryFactory MemoryStore Script

end PeerDirectory

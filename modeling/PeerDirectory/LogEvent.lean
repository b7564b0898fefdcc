import PeerDirectory.Failure

namespace PeerDirectory

inductive Level where
  | debug
  | info
  | warn
deriving DecidableEq

def Level.name : Level → String
  | debug => "DEBUG"
  | info => "INFO"
  | warn => "WARN"

inductive LogEvent where
  | startedWellKnown (id : PartitionId)
  | started (isolation : Bool) (seedPeers : Nat)
  | created (id : PartitionId)
  | lostRace (id : PartitionId)
  | failedToStart (id : PartitionId) (failure : Failure)
  | seedingSkipped (id : PartitionId)
  | seedRefused (id : PartitionId) (peer : Hash) (failure : Failure)
  | seeded (id : PartitionId) (count available : Nat)
  | isolationToggled (enabled : Bool)
  | nothingToTearDown (client : Hash)
  | tornDown (id : PartitionId)
  | partitionShutDown (id : PartitionId)
  | shutDown (stopped : Nat)
deriving DecidableEq

namespace LogEvent

def level : LogEvent → Level
  | startedWellKnown _ | lostRace _ | seedingSkipped _ | seeded _ _ _ | nothingToTearDown _
  | partitionShutDown _ => .debug
  | started _ _ | created _ | isolationToggled _ | tornDown _ | shutDown _ => .info
  | failedToStart _ _ | seedRefused _ _ _ => .warn

def message : LogEvent → String
  | startedWellKnown _ => "Started well-known partition"
  | started _ _ => "Segmented network database started"
  | created _ => "Created client partition"
  | lostRace _ => "Lost client partition creation race, discarding store"
  | failedToStart _ _ => "Client partition store failed to start"
  | seedingSkipped _ => "No floodfill peers in main partition, skipping seeding"
  | seedRefused _ _ _ => "Failed to seed peer"
  | seeded _ _ _ => "Seeded client partition"
  | isolationToggled _ => "Client partition isolation toggled"
  | nothingToTearDown _ => "No client partition to tear down"
  | tornDown _ => "Tore down client partition"
  | partitionShutDown _ => "Shut down partition"
  | shutDown _ => "Shut down segmented network database"

def fields : LogEvent → List (String × String)
  | startedWellKnown id | created id | lostRace id | seedingSkipped id | tornDown id
  | partitionShutDown id => [("partition", id.text)]
  | started isolation seedPeers =>
    [("isolation", toString isolation), ("seed_peers", toString seedPeers)]
  | failedToStart id failure => [("partition", id.text), ("error", failure.message)]
  | seedRefused id peer failure =>
    [("partition", id.text), ("peer", peer.short), ("error", failure.message)]
  | seeded id count available =>
    [("partition", id.text), ("seeded", toString count), ("available", toString available)]
  | isolationToggled enabled => [("enabled", toString enabled)]
  | nothingToTearDown client => [("client", client.short)]
  | shutDown stopped => [("stopped", toString stopped)]

end LogEvent

end PeerDirectory

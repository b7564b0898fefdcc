import PeerDirectory.Directory.Queries
import PeerDirectory.Record.Codec

namespace PeerDirectory.Directory

def describe? {φ σ γ : Type} (directory : Directory φ σ γ) (handle : Handle) : Option String :=
  (directory.partition? handle).map fun partition =>
    "Partition \x7b id: " ++ handle.id.debug ++ ", lifecycle: " ++ partition.lifecycle.name ++
      " \x7d"

def PartitionStats.toJson (stats : PartitionStats) : Json :=
  .object [("id", stats.id.toJson), ("routers", .number stats.routers),
    ("leases", .number stats.leaseSets), ("floodfill_peers", .number stats.floodfillPeers),
    ("initialized", .bool stats.initialized)]

def Stats.toJson (stats : Stats) : Json :=
  .object [("isolation_enabled", .bool stats.isolation), ("main", stats.main.toJson),
    ("multihome", stats.multihome.toJson), ("exploratory", stats.exploratory.toJson),
    ("client_partitions", .number stats.clientPartitions)]

end PeerDirectory.Directory

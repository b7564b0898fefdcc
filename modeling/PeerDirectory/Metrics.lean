import PeerDirectory.PartitionId
import Std.Data.ExtTreeMap

namespace PeerDirectory

inductive OwnerOutcome where
  | client
  | main
  | miss
deriving DecidableEq

def OwnerOutcome.label : OwnerOutcome → String
  | client => "client"
  | main => "main"
  | miss => "miss"

inductive Metric where
  | created (kind : Kind)
  | tornDown (kind : Kind)
  /-- Partitions built in vain, because another one was already tracked. -/
  | races
  | clientPartitions
  | seededPeers
  | seedingSkipped
  | ownerLookups (outcome : OwnerOutcome)
deriving DecidableEq

namespace Metric

def text : Metric → String
  | created kind => "netdb_partitions_created_total\x7bkind=" ++ kind.label ++ "\x7d"
  | tornDown kind => "netdb_partitions_torn_down_total\x7bkind=" ++ kind.label ++ "\x7d"
  | races => "netdb_partition_creation_races_total"
  | clientPartitions => "netdb_client_partitions"
  | seededPeers => "netdb_seeded_peers_total"
  | seedingSkipped => "netdb_seeding_skipped_total"
  | ownerLookups outcome => "netdb_owner_lookups_total\x7boutcome=" ++ outcome.label ++ "\x7d"

def kindRank : Kind → Nat
  | .wellKnown role => role.rank.toNat
  | .client => 3

def outcomeRank : OwnerOutcome → Nat
  | .client => 0
  | .main => 1
  | .miss => 2

def rank : Metric → Nat
  | created kind => kindRank kind
  | tornDown kind => 4 + kindRank kind
  | races => 8
  | clientPartitions => 9
  | seededPeers => 10
  | seedingSkipped => 11
  | ownerLookups outcome => 12 + outcomeRank outcome

def ofRank : Nat → Option Metric
  | 0 => some (created (.wellKnown .main))
  | 1 => some (created (.wellKnown .multihome))
  | 2 => some (created (.wellKnown .exploratory))
  | 3 => some (created .client)
  | 4 => some (tornDown (.wellKnown .main))
  | 5 => some (tornDown (.wellKnown .multihome))
  | 6 => some (tornDown (.wellKnown .exploratory))
  | 7 => some (tornDown .client)
  | 8 => some races
  | 9 => some clientPartitions
  | 10 => some seededPeers
  | 11 => some seedingSkipped
  | 12 => some (ownerLookups .client)
  | 13 => some (ownerLookups .main)
  | 14 => some (ownerLookups .miss)
  | _ => none

theorem ofRank_rank (metric : Metric) : ofRank metric.rank = some metric := by
  cases metric with
  | created kind =>
    cases kind with
    | wellKnown role => cases role <;> rfl
    | client => rfl
  | tornDown kind =>
    cases kind with
    | wellKnown role => cases role <;> rfl
    | client => rfl
  | ownerLookups outcome => cases outcome <;> rfl
  | _ => rfl

theorem rank_injective {a b : Metric} (same : a.rank = b.rank) : a = b := by
  have found := ofRank_rank a
  rw [same, ofRank_rank b] at found
  exact (Option.some.inj found).symm

instance : Ord Metric := ⟨compareOn rank⟩

instance : Std.TransOrd Metric := inferInstanceAs (Std.TransCmp (compareOn rank))

instance : Std.LawfulEqOrd Metric where
  toReflCmp := inferInstance
  eq_of_compare same := rank_injective (Std.LawfulEqOrd.eq_of_compare (α := Nat) same)

end Metric

abbrev Metrics := Std.ExtTreeMap Metric Nat

def Metrics.add (metrics : Metrics) (metric : Metric) (amount : Nat) : Metrics :=
  metrics.insert metric (metrics.getD metric 0 + amount)

def Metrics.set (metrics : Metrics) (metric : Metric) (value : Nat) : Metrics :=
  metrics.insert metric value

end PeerDirectory

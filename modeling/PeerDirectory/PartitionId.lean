import PeerDirectory.Hash

namespace PeerDirectory

inductive WellKnown where
  | main
  /-- Lease sets of local destinations that came back from outside. -/
  | multihome
  /-- Entries that no client can be named for. -/
  | exploratory
deriving DecidableEq

namespace WellKnown

def all : List WellKnown := [main, multihome, exploratory]

def name : WellKnown → String
  | main => "main"
  | multihome => "multihome"
  | exploratory => "exploratory"

def debug : WellKnown → String
  | main => "Main"
  | multihome => "Multihome"
  | exploratory => "Exploratory"

def rank : WellKnown → UInt8
  | main => 0
  | multihome => 1
  | exploratory => 2

end WellKnown

inductive PartitionId where
  | wellKnown (role : WellKnown)
  | client (destination : Hash)
deriving DecidableEq

inductive Kind where
  | wellKnown (role : WellKnown)
  | client
deriving DecidableEq

def Kind.label : Kind → String
  | .wellKnown role => role.name
  | .client => "client"

namespace PartitionId

def kind : PartitionId → Kind
  | wellKnown role => .wellKnown role
  | client _ => .client

def isClient : PartitionId → Bool
  | wellKnown _ => false
  | client _ => true

def destination? : PartitionId → Option Hash
  | wellKnown _ => none
  | client destination => some destination

/-- The name for log lines and messages; a client shows four bytes of its hash. -/
def text : PartitionId → String
  | wellKnown role => role.name
  | client destination => "client:" ++ destination.short

def debug : PartitionId → String
  | wellKnown role => "WellKnown(" ++ role.debug ++ ")"
  | client destination => "Client(" ++ destination.debug ++ ")"

def sortKey : PartitionId → List UInt8
  | wellKnown role => [role.rank]
  | client destination => 3 :: destination.bytes.toList

theorem sortKey_injective {a b : PartitionId} (same : a.sortKey = b.sortKey) : a = b := by
  cases a with
  | wellKnown a =>
    cases b with
    | wellKnown b => cases a <;> cases b <;> simp_all [sortKey, WellKnown.rank]
    | client b => cases a <;> simp [sortKey, WellKnown.rank] at same
  | client a =>
    cases b with
    | wellKnown b => cases b <;> simp [sortKey, WellKnown.rank] at same
    | client b =>
      simp only [sortKey, List.cons.injEq, true_and] at same
      exact congrArg client (Hash.ext (Bytes32.ext same))

instance : Ord PartitionId := ⟨compareOn sortKey⟩

instance : Std.TransOrd PartitionId := inferInstanceAs (Std.TransCmp (compareOn sortKey))

instance : Std.LawfulEqOrd PartitionId where
  toReflCmp := inferInstance
  eq_of_compare same := sortKey_injective (Std.LawfulEqOrd.eq_of_compare (α := List UInt8) same)

end PartitionId

end PeerDirectory

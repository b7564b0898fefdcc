import PeerDirectory.Directory.Lifecycle
import PeerDirectory.Record.Order

namespace PeerDirectory.Directory

variable {φ σ γ : Type} [PartitionStore σ] [StoreFactory φ σ]

def isolated (directory : Directory φ σ γ) : Bool := directory.policy.enabled

/-- The partition that serves a role: its own, except that main stands in for multihome with
isolation off. -/
def serving (directory : Directory φ σ γ) : WellKnown → Handle
  | .main => wellKnown .main
  | .multihome => if directory.isolated then wellKnown .multihome else wellKnown .main
  | .exploratory => wellKnown .exploratory

/-- The partition for an id, new if the id is an untracked client's. Without an id it is main. -/
def resolve (directory : Directory φ σ γ) (surroundings : Surroundings φ σ γ)
    (id : Option PartitionId) : Except Failure Handle × Directory φ σ γ :=
  match id with
  | none => (.ok (wellKnown .main), directory)
  | some (.wellKnown role) => (.ok (directory.serving role), directory)
  | some (.client client) =>
    if directory.isolated then directory.client surroundings client
    else (.ok (wellKnown .main), directory)

def clientPartition (directory : Directory φ σ γ) (surroundings : Surroundings φ σ γ)
    (id : Option PartitionId) : Except Failure Handle × Directory φ σ γ :=
  match id with
  | none => (.ok (wellKnown (if directory.isolated then .exploratory else .main)), directory)
  | some id => directory.resolve surroundings (some id)

def existing? (directory : Directory φ σ γ) : PartitionId → Option Handle
  | .wellKnown role => some (directory.serving role)
  | .client client =>
    if directory.isolated then
      (directory.tracked? client).filter fun handle => directory.isReady handle
    else some (wellKnown .main)

def readyClients (directory : Directory φ σ γ) : List Handle :=
  directory.clients.handles.filter fun handle => directory.isReady handle

def current (directory : Directory φ σ γ) : List Handle :=
  if directory.isolated then WellKnown.all.map wellKnown ++ directory.readyClients
  else [wellKnown .main]

def clientView (directory : Directory φ σ γ) : List Handle :=
  if directory.isolated then directory.readyClients else [wellKnown .main]

def mayOwn (directory : Directory φ σ γ) (handle : Handle) : Bool :=
  match directory.enumerator with
  | .unrestricted => true
  | .sessions =>
    match handle.id.destination? with
    | some client => directory.live.isLive client
    | none => false
  | .chosen live =>
    match handle.id.destination? with
    | some client => live client
    | none => false

def ownerCandidates (directory : Directory φ σ γ) : List Handle :=
  if directory.isolated then directory.readyClients.filter fun handle => directory.mayOwn handle
  else []

def findOwner (directory : Directory φ σ γ) (key : Hash) : Option Handle :=
  directory.ownerCandidates.find? fun handle => directory.claims handle key

def ownerOf (directory : Directory φ σ γ) (key : Hash) : Option PartitionId :=
  (directory.findOwner key).map (·.id)

/-- The lease set under a key whose owner is not known: that of the client that claims the key, or
else main's. -/
def findLease (directory : Directory φ σ γ) (key : Hash) :
    Option LeaseSet × Directory φ σ γ :=
  match directory.findOwner key with
  | some owner => (directory.lookupLease owner key, directory.countOne (.ownerLookups .client))
  | none =>
    let found := directory.lookupLease (wellKnown .main) key
    (found, directory.countOne (.ownerLookups (if found.isSome then .main else .miss)))

def lookupLeaseIn (directory : Directory φ σ γ) (key : Hash) (id : Option PartitionId) :
    Option LeaseSet :=
  match id with
  | none => directory.lookupLease (wellKnown .main) key
  | some id => (directory.existing? id).bind fun handle => directory.lookupLease handle key

def allRouters (directory : Directory φ σ γ) : List Router :=
  distinct (directory.current.flatMap fun handle => directory.routers handle)

def leasesKnownToClients (directory : Directory φ σ γ) : List LeaseSet :=
  distinct (directory.clientView.flatMap fun handle => directory.leaseSets handle)

def routersKnownToClients (directory : Directory φ σ γ) : List Router :=
  distinct (directory.clientView.flatMap fun handle => directory.routers handle)

def allFloodfillPeers (directory : Directory φ σ γ) : List Hash :=
  distinct (directory.current.flatMap fun handle => directory.floodfillPeers handle)

def allBlindings (directory : Directory φ σ γ) : List Blinding :=
  distinct (directory.current.flatMap fun handle => directory.blindings handle)

def clientIds (directory : Directory φ σ γ) : List PartitionId :=
  if directory.isolated then directory.readyClients.map (·.id) else []

/-- The ids of the partitions that have blinding data for a signing key, among those that may own
keys. -/
def clientIdsFor (directory : Directory φ σ γ) (key : SigningKey) : List PartitionId :=
  let view :=
    if directory.isolated then directory.clientView.filter fun handle => directory.mayOwn handle
    else directory.clientView
  (view.filter fun handle => (directory.blindingIn handle key).isSome).map (·.id)

def blinding? (directory : Directory φ σ γ) (key : SigningKey) : Option Blinding :=
  directory.blindingIn (wellKnown .main) key

def isInitialized (directory : Directory φ σ γ) : Bool :=
  directory.current.all fun handle => directory.storeInitialized handle

def trackedClients (directory : Directory φ σ γ) : Nat := directory.clients.size

structure PartitionStats where
  id : PartitionId
  routers : Nat
  leaseSets : Nat
  floodfillPeers : Nat
  initialized : Bool
deriving DecidableEq

structure Stats where
  isolation : Bool
  main : PartitionStats
  multihome : PartitionStats
  exploratory : PartitionStats
  clientPartitions : Nat
deriving DecidableEq

def partitionStats (directory : Directory φ σ γ) (handle : Handle) : PartitionStats :=
  ⟨handle.id, (directory.routers handle).length, (directory.leaseSets handle).length,
    (directory.floodfillPeers handle).length, directory.storeInitialized handle⟩

def stats (directory : Directory φ σ γ) : Stats :=
  ⟨directory.isolated, directory.partitionStats (wellKnown .main),
    directory.partitionStats (wellKnown .multihome),
    directory.partitionStats (wellKnown .exploratory), directory.clientIds.length⟩

end PeerDirectory.Directory

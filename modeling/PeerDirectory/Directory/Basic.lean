import PeerDirectory.Store
import PeerDirectory.Clients
import PeerDirectory.Metrics
import PeerDirectory.LogEvent
import PeerDirectory.Policy

/-!
The state of a segmentor, a directory that is kept in partitions: which of them serve clients, the
settings that can change while it runs, and what it tells the outside by metrics and log.

A call on a directory can be re-entered: while a store is made or started, and whenever the gauge
of client partitions is set, others may call the same directory. Every operation that can be
re-entered takes them as a parameter, the surroundings, which may do anything at such a moment.
-/

namespace PeerDirectory

inductive Lifecycle where
  | creating
  | ready
  | shutDown
deriving DecidableEq

def Lifecycle.name : Lifecycle → String
  | creating => "Creating"
  | ready => "Ready"
  | shutDown => "ShutDown"

structure Partition (σ : Type) where
  store : σ
  lifecycle : Lifecycle
  /-- Whether someone is starting the partition at this moment. Whoever wants to start or stop it
  meanwhile has to wait. -/
  locked : Bool

/-- Which peers a partition is seeded with, out of those that there are: as many as are asked for, in
any order, and for every partition in its own way. -/
structure Sampler where
  pick : Handle → Nat → List Hash → List Hash
  nodup_pick : ∀ handle count peers, peers.Nodup → (pick handle count peers).Nodup
  mem_of_mem_pick : ∀ handle count peers peer, peer ∈ pick handle count peers → peer ∈ peers
  length_pick : ∀ handle count peers, (pick handle count peers).length = min count peers.length

def Sampler.first : Sampler where
  pick _ := List.take
  nodup_pick _ _ _ distinct := distinct.sublist (List.take_sublist _ _)
  mem_of_mem_pick _ _ _ _ chosen := List.mem_of_mem_take chosen
  length_pick _ _ _ := List.length_take

inductive Moment where
  | create (id : PartitionId)
  | startup (id : PartitionId)
  | gauge
deriving DecidableEq

/-- The state of a directory over stores of type `σ` made by a factory of type `φ`. What its
callers keep for themselves between calls, of type `γ`, travels along untouched. -/
structure Directory (φ σ γ : Type) where
  factory : φ
  partitions : Registry (Partition σ)
  clients : Clients
  policy : IsolationPolicy
  closed : Bool
  seedPeers : Nat
  sampler : Sampler
  enumerator : Enumerator
  live : LiveClients
  metrics : Metrics
  /-- What was written to the log, the newest first. -/
  log : List LogEvent
  /-- Whether some call waits for something that cannot happen before it returns. -/
  stuck : Bool
  outside : γ

/-- Who else calls a directory while a call on it is under way. -/
structure Surroundings (φ σ γ : Type) where
  react : Moment → Directory φ σ γ → Directory φ σ γ
  /-- How many times a call looks again for a client's partition when others tear it down before it
  can start. -/
  turns : Nat

namespace Directory

variable {φ σ γ : Type}

def unbuilt (factory : φ) (sampler : Sampler) (enumerator : Enumerator) (outside : γ) :
    Directory φ σ γ where
  factory := factory
  partitions := .empty
  clients := ∅
  policy := .standard
  closed := false
  seedPeers := 0
  sampler := sampler
  enumerator := enumerator
  live := .empty
  metrics := ∅
  log := []
  stuck := false
  outside := outside

def wellKnown (role : WellKnown) : Handle := ⟨.wellKnown role, 0⟩

def partition? (directory : Directory φ σ γ) (handle : Handle) : Option (Partition σ) :=
  directory.partitions.get? handle

def store? (directory : Directory φ σ γ) (handle : Handle) : Option σ :=
  (directory.partition? handle).map (·.store)

def modify (directory : Directory φ σ γ) (handle : Handle)
    (change : Partition σ → Partition σ) : Directory φ σ γ :=
  { directory with partitions := directory.partitions.modify handle change }

def setStore (directory : Directory φ σ γ) (handle : Handle) (store : σ) : Directory φ σ γ :=
  directory.modify handle fun partition => { partition with store }

def setLifecycle (directory : Directory φ σ γ) (handle : Handle) (lifecycle : Lifecycle) :
    Directory φ σ γ :=
  directory.modify handle fun partition => { partition with lifecycle }

def setLocked (directory : Directory φ σ γ) (handle : Handle) (locked : Bool) :
    Directory φ σ γ :=
  directory.modify handle fun partition => { partition with locked }

def isReady (directory : Directory φ σ γ) (handle : Handle) : Bool :=
  match directory.partition? handle with
  | some partition => partition.lifecycle = .ready
  | none => false

def tracked? (directory : Directory φ σ γ) (client : Hash) : Option Handle :=
  directory.clients.find? client

def note (directory : Directory φ σ γ) (event : LogEvent) : Directory φ σ γ :=
  { directory with log := event :: directory.log }

def count (directory : Directory φ σ γ) (metric : Metric) (amount : Nat) : Directory φ σ γ :=
  { directory with metrics := directory.metrics.add metric amount }

def countOne (directory : Directory φ σ γ) (metric : Metric) : Directory φ σ γ :=
  directory.count metric 1

def wait (directory : Directory φ σ γ) : Directory φ σ γ := { directory with stuck := true }

/-- Sets the gauge of client partitions to the number of tracked clients; others may call the
directory then. -/
def publish (directory : Directory φ σ γ) (surroundings : Surroundings φ σ γ) :
    Directory φ σ γ :=
  surroundings.react .gauge
    { directory with
      metrics := directory.metrics.set .clientPartitions directory.clients.size }

variable [PartitionStore σ]

def startStore (directory : Directory φ σ γ) (surroundings : Surroundings φ σ γ)
    (handle : Handle) : Except Failure Unit × Directory φ σ γ :=
  let directory := surroundings.react (.startup handle.id) directory
  match directory.store? handle with
  | none => (.error .closed, directory)
  | some store =>
    let started := PartitionStore.startup store
    (started.1, directory.setStore handle started.2)

def stopStore (directory : Directory φ σ γ) (handle : Handle) : Directory φ σ γ :=
  match directory.store? handle with
  | none => directory
  | some store => directory.setStore handle (PartitionStore.shutdown store)

def insert (directory : Directory φ σ γ) (handle : Handle) (key : Hash) (entry : Entry) :
    Except Failure Unit × Directory φ σ γ :=
  match directory.store? handle with
  | none => (.error .closed, directory)
  | some store =>
    let kept := PartitionStore.insert store key entry
    (kept.1, directory.setStore handle kept.2)

def ask {α : Type} (directory : Directory φ σ γ) (handle : Handle) (absent : α) (question : σ → α) :
    α :=
  match directory.store? handle with
  | none => absent
  | some store => question store

def lookup (directory : Directory φ σ γ) (handle : Handle) (key : Hash) : Option Entry :=
  directory.ask handle none (PartitionStore.lookup · key)

def lookupLease (directory : Directory φ σ γ) (handle : Handle) (key : Hash) : Option LeaseSet :=
  (directory.lookup handle key).bind Entry.lease?

def lookupRouter (directory : Directory φ σ γ) (handle : Handle) (key : Hash) : Option Router :=
  (directory.lookup handle key).bind Entry.router?

def floodfillPeers (directory : Directory φ σ γ) (handle : Handle) : List Hash :=
  directory.ask handle [] PartitionStore.floodfillPeers

def routers (directory : Directory φ σ γ) (handle : Handle) : List Router :=
  directory.ask handle [] PartitionStore.routers

def leaseSets (directory : Directory φ σ γ) (handle : Handle) : List LeaseSet :=
  directory.ask handle [] PartitionStore.leaseSets

def storeInitialized (directory : Directory φ σ γ) (handle : Handle) : Bool :=
  directory.ask handle false PartitionStore.isInitialized

def claims (directory : Directory φ σ γ) (handle : Handle) (key : Hash) : Bool :=
  directory.ask handle false (PartitionStore.claims · key)

def blindingIn (directory : Directory φ σ γ) (handle : Handle) (key : SigningKey) :
    Option Blinding :=
  directory.ask handle none (PartitionStore.blinding? · key)

def blindings (directory : Directory φ σ γ) (handle : Handle) : List Blinding :=
  directory.ask handle [] PartitionStore.blindings

end Directory

end PeerDirectory

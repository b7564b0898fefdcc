import PeerDirectory.Store
import PeerDirectory.Record.Order
import Std.Data.ExtTreeMap
import Std.Data.ExtTreeSet

/-!
Stores that keep everything in memory, and their factory. A store accepts entries until it is
shut down, whether or not it was started. Routers and lease sets share their keys: a lease set
hides a router under the same key from lookups by key, and from nothing else.

For trials a store can be made to fail when it is started, to refuse single keys, and to hold
routers from the beginning.
-/

namespace PeerDirectory

open Std

structure MemoryStore where
  id : PartitionId
  routers : ExtTreeMap Hash Router
  leaseSets : ExtTreeMap Hash LeaseSet
  blindings : ExtTreeMap SigningKey Blinding
  started : Bool
  stopped : Bool
  /-- How often the store was started, failures included, before it was shut down. -/
  startups : Nat
  failing : Bool
  refused : List Hash

namespace MemoryStore

def empty (id : PartitionId) (failing : Bool) : MemoryStore :=
  ⟨id, ∅, ∅, ∅, false, false, 0, failing, []⟩

def startup (store : MemoryStore) : Except Failure Unit × MemoryStore :=
  if store.stopped then (.error (.storeShutDown store.id), store)
  else if store.failing then
    (.error (.startup store.id "startup refused"), { store with startups := store.startups + 1 })
  else (.ok (), { store with startups := store.startups + 1, started := true })

def shutdown (store : MemoryStore) : MemoryStore := { store with stopped := true }

def put (store : MemoryStore) (key : Hash) : Entry → MemoryStore
  | .router descriptor => { store with routers := store.routers.insert key descriptor }
  | .lease record => { store with leaseSets := store.leaseSets.insert key record }

def insert (store : MemoryStore) (key : Hash) (entry : Entry) :
    Except Failure Unit × MemoryStore :=
  if key ∈ store.refused then (.error (.store ("refused " ++ key.short)), store)
  else if store.stopped then (.error (.storeShutDown store.id), store)
  else (.ok (), store.put key entry)

def setBlinding (store : MemoryStore) (data : Blinding) : Except Failure Unit × MemoryStore :=
  if store.stopped then (.error (.storeShutDown store.id), store)
  else (.ok (), { store with blindings := store.blindings.insert data.signingKey data })

def lookup (store : MemoryStore) (key : Hash) : Option Entry :=
  match store.leaseSets[key]? with
  | some record => some (.lease record)
  | none => store.routers[key]?.map .router

def floodfillPeers (store : MemoryStore) : List Hash :=
  (store.routers.toList.filter fun item => item.2.floodfill).map (·.1)

def knownRouters (store : MemoryStore) : List Router :=
  distinct (store.routers.toList.map (·.2))

def knownLeaseSets (store : MemoryStore) : List LeaseSet :=
  distinct (store.leaseSets.toList.map (·.2))

def isInitialized (store : MemoryStore) : Bool := store.started && !store.stopped

def claims (store : MemoryStore) (key : Hash) : Bool :=
  match store.id.destination? with
  | some owner => owner = key || store.leaseSets.contains key
  | none => false

def blinding? (store : MemoryStore) (key : SigningKey) : Option Blinding := store.blindings[key]?

def allBlindings (store : MemoryStore) : List Blinding := store.blindings.toList.map (·.2)

instance : PartitionStore MemoryStore where
  startup := startup
  shutdown := shutdown
  insert := insert
  lookup := lookup
  floodfillPeers := floodfillPeers
  routers := knownRouters
  leaseSets := knownLeaseSets
  isInitialized := isInitialized
  claims := claims
  blinding? := blinding?
  blindings := allBlindings

structure Counts where
  id : PartitionId
  startups : Nat
  stopped : Bool
  initialized : Bool
  routers : Nat
  leaseSets : Nat

def counts (store : MemoryStore) : Counts :=
  ⟨store.id, store.startups, store.stopped, store.isInitialized, store.routers.size,
    store.leaseSets.size⟩

end MemoryStore

structure Peculiarity where
  id : PartitionId
  held : List Router
  refused : List Hash

structure MemoryFactory where
  failing : ExtTreeSet PartitionId
  peculiarities : List Peculiarity

namespace MemoryFactory

def plain : MemoryFactory := ⟨∅, []⟩

def fail (factory : MemoryFactory) (id : PartitionId) : MemoryFactory :=
  { factory with failing := factory.failing.insert id }

def allow (factory : MemoryFactory) (id : PartitionId) : MemoryFactory :=
  { factory with failing := factory.failing.erase id }

def fresh (factory : MemoryFactory) (id : PartitionId) : MemoryStore :=
  let store := MemoryStore.empty id (factory.failing.contains id)
  match factory.peculiarities.find? (·.id = id) with
  | none => store
  | some special =>
    let fill (store : MemoryStore) (router : Router) : MemoryStore :=
      store.put router.identity (.router router)
    { special.held.foldl fill store with refused := special.refused }

instance : StoreFactory MemoryFactory MemoryStore where
  make factory id := (factory.fresh id, factory)

end MemoryFactory

end PeerDirectory

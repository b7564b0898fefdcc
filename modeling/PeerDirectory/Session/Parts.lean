import PeerDirectory.Session.Request
import PeerDirectory.Session.Sorted

namespace PeerDirectory

def Reply.ofResult : Except Failure Unit → Reply
  | .ok () => .ok .done
  | .error cause => .error (.failure cause)

def MemoryStore.respond (store : MemoryStore) : StoreRequest → Reply × MemoryStore
  | .refused why => (.error why, store)
  | .startup => (Reply.ofResult store.startup.1, store.startup.2)
  | .shutdown => (.ok .done, store.shutdown)
  | .store entry key => (Reply.ofResult (store.insert key entry).1, (store.insert key entry).2)
  | .lookup key => (.ok (.entry (store.lookup key)), store)
  | .floodfills => (.ok (.hashes (sortedHashes store.floodfillPeers)), store)
  | .routers => (.ok (.routers (sortedRouters store.knownRouters)), store)
  | .leaseSets => (.ok (.leaseSets (sortedLeaseSets store.knownLeaseSets)), store)
  | .initialized => (.ok (.flag store.isInitialized), store)
  | .claims key => (.ok (.flag (store.claims key)), store)
  | .blindingFor key => (.ok (.blinding (store.blinding? key)), store)
  | .blindings => (.ok (.blindings (sortedBlindings store.allBlindings)), store)
  | .setBlinding data => (Reply.ofResult (store.setBlinding data).1, (store.setBlinding data).2)
  | .counts => (.ok (.counts (some store.counts)), store)

def LiveClients.respond (live : LiveClients) : LiveRequest → Reply × LiveClients
  | .add client => (.ok .done, live.add client)
  | .remove client => (.ok (.flag (live.remove client).1), (live.remove client).2)
  | .isLive client => (.ok (.flag (live.isLive client)), live)
  | .size => (.ok (.liveSize live.size), live)

structure Workshop (α : Type) where
  factory : MemoryFactory
  built : Registry α

def Workshop.fresh {α : Type} (factory : MemoryFactory) : Workshop α := ⟨factory, .empty⟩

def Workshop.respond {α : Type} (store : α → MemoryStore) (setStore : α → MemoryStore → α)
    (workshop : Workshop α) : FactoryRequest → Reply × Workshop α
  | .fail id => (.ok .done, { workshop with factory := workshop.factory.fail id })
  | .allow id => (.ok .done, { workshop with factory := workshop.factory.allow id })
  | .builtCount => (.ok (.number workshop.built.size), workshop)
  | .storesFor id =>
    (.ok (.countsList ((workshop.built.all id).map fun thing => (store thing).counts)), workshop)
  | .storeFor id =>
    (.ok (.counts ((workshop.built.all id).getLast?.map fun thing => (store thing).counts)),
      workshop)
  | .setBlinding id data =>
    match workshop.built.newest? id with
    | none => (.ok (.text "no store"), workshop)
    | some handle =>
      match workshop.built.get? handle with
      | none => (.ok (.text "no store"), workshop)
      | some thing =>
        let kept := (store thing).setBlinding data
        (Reply.ofResult kept.1,
          { workshop with
            built := workshop.built.modify handle fun thing => setStore thing kept.2 })

def Workshop.make (workshop : Workshop MemoryStore) (id : PartitionId) :
    Handle × Workshop MemoryStore :=
  (workshop.built.next id,
    { workshop with built := workshop.built.add id (workshop.factory.fresh id) })

def Workshop.ask? (workshop : Workshop MemoryStore) (handle : Handle) (request : StoreRequest) :
    Option (Reply × Workshop MemoryStore) :=
  (workshop.built.get? handle).map fun store =>
    let answered := store.respond request
    (answered.1,
      { workshop with built := workshop.built.modify handle fun _ => answered.2 })

end PeerDirectory

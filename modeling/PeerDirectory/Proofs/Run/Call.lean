import PeerDirectory.Directory.Queries
import PeerDirectory.MemoryStore

namespace PeerDirectory

/-- What can be done to a factory and to the stores it made by someone who reaches them past the
directory that they serve. -/
class Backdoor (φ σ : Type) (τ υ : outParam Type) where
  tune : τ → φ → φ
  touch : υ → σ → Except Failure Unit × σ

inductive Tuning where
  | fail (id : PartitionId)
  | allow (id : PartitionId)

def Tuning.id : Tuning → PartitionId
  | .fail id | .allow id => id

instance : Backdoor MemoryFactory MemoryStore Tuning Blinding where
  tune
    | .fail id => fun factory => factory.fail id
    | .allow id => fun factory => factory.allow id
  touch data := fun store => store.setBlinding data

def Surroundings.quiet {φ σ γ : Type} (turns : Nat) : Surroundings φ σ γ :=
  ⟨fun _ directory => directory, turns⟩

namespace Directory

inductive Question where
  | serving (role : WellKnown)
  | existing (id : PartitionId)
  | current
  | isolated
  | isInitialized
  | trackedClients
  | stats
  | clientIds
  | clientIdsFor (key : SigningKey)
  | ownerOf (key : Hash)
  | lookupLeaseIn (key : Hash) (id : Option PartitionId)
  | blinding (key : SigningKey)
  | allRouters
  | routersKnownToClients
  | leasesKnownToClients
  | allFloodfillPeers
  | allBlindings
  | lifecycle (handle : Handle)
  | lookup (handle : Handle) (key : Hash)
  | claims (handle : Handle) (key : Hash)
  | blindingIn (handle : Handle) (key : SigningKey)
  | routers (handle : Handle)
  | leaseSets (handle : Handle)
  | floodfillPeers (handle : Handle)
  | blindings (handle : Handle)
  | storeInitialized (handle : Handle)

/-- A call on a directory by someone outside. The parameters are the ways to reach its factory and
its stores past it. -/
inductive Call (τ υ : Type) where
  | resolve (id : Option PartitionId)
  | clientPartition (id : Option PartitionId)
  | removeClient (client : Hash)
  | setIsolation (enabled : Bool)
  | shutdown
  | findLease (key : Hash)
  | ask (question : Question)
  | insert (handle : Handle) (key : Hash) (entry : Entry)
  | session (client : Hash) (opened : Bool)
  | tune (tuning : τ)
  | touch (handle : Handle) (touch : υ)
  | startStore (handle : Handle)
  | stopStore (handle : Handle)

inductive Response where
  | done (result : Except Failure Unit)
  | found (result : Except Failure Handle)
  | handle (value : Option Handle)
  | handles (values : List Handle)
  | flag (value : Bool)
  | number (value : Nat)
  | stage (value : Option Lifecycle)
  | entry (value : Option Entry)
  | lease (value : Option LeaseSet)
  | blinding (value : Option Blinding)
  | id (value : Option PartitionId)
  | ids (values : List PartitionId)
  | hashes (values : List Hash)
  | routers (values : List Router)
  | leaseSets (values : List LeaseSet)
  | blindings (values : List Blinding)
  | stats (value : Stats)

def Response.partitions : Response → List Handle
  | .found (.ok named) | .handle (some named) => [named]
  | .handles named => named
  | _ => []

theorem Response.mem_partitions {handle : Handle} {response : Response} :
    handle ∈ response.partitions ↔
      response = .found (.ok handle) ∨ response = .handle (some handle) ∨
        ∃ named, response = .handles named ∧ handle ∈ named := by
  unfold partitions
  split <;> simp_all [eq_comm]

variable {φ σ γ τ υ : Type} [PartitionStore σ] [StoreFactory φ σ]

def lifecycle? (directory : Directory φ σ γ) (handle : Handle) : Option Lifecycle :=
  (directory.partition? handle).map (·.lifecycle)

def answer (directory : Directory φ σ γ) : Question → Response
  | .serving role => .handle (some (directory.serving role))
  | .existing id => .handle (directory.existing? id)
  | .current => .handles directory.current
  | .isolated => .flag directory.isolated
  | .isInitialized => .flag directory.isInitialized
  | .trackedClients => .number directory.trackedClients
  | .stats => .stats directory.stats
  | .clientIds => .ids directory.clientIds
  | .clientIdsFor key => .ids (directory.clientIdsFor key)
  | .ownerOf key => .id (directory.ownerOf key)
  | .lookupLeaseIn key id => .lease (directory.lookupLeaseIn key id)
  | .blinding key => .blinding (directory.blinding? key)
  | .allRouters => .routers directory.allRouters
  | .routersKnownToClients => .routers directory.routersKnownToClients
  | .leasesKnownToClients => .leaseSets directory.leasesKnownToClients
  | .allFloodfillPeers => .hashes directory.allFloodfillPeers
  | .allBlindings => .blindings directory.allBlindings
  | .lifecycle handle => .stage (directory.lifecycle? handle)
  | .lookup handle key => .entry (directory.lookup handle key)
  | .claims handle key => .flag (directory.claims handle key)
  | .blindingIn handle key => .blinding (directory.blindingIn handle key)
  | .routers handle => .routers (directory.routers handle)
  | .leaseSets handle => .leaseSets (directory.leaseSets handle)
  | .floodfillPeers handle => .hashes (directory.floodfillPeers handle)
  | .blindings handle => .blindings (directory.blindings handle)
  | .storeInitialized handle => .flag (directory.storeInitialized handle)

def touchStore [Backdoor φ σ τ υ] (directory : Directory φ σ γ) (handle : Handle) (touch : υ) :
    Except Failure Unit × Directory φ σ γ :=
  match directory.store? handle with
  | none => (.error .closed, directory)
  | some store =>
    let touched := Backdoor.touch φ touch store
    (touched.1, directory.setStore handle touched.2)

def perform [Backdoor φ σ τ υ] (surroundings : Surroundings φ σ γ) (directory : Directory φ σ γ) :
    Call τ υ → Response × Directory φ σ γ
  | .resolve id =>
    let found := directory.resolve surroundings id
    (.found found.1, found.2)
  | .clientPartition id =>
    let found := directory.clientPartition surroundings id
    (.found found.1, found.2)
  | .removeClient client =>
    let removed := directory.removeClient surroundings client
    (.flag removed.1, removed.2)
  | .setIsolation enabled => (.done (.ok ()), directory.setIsolation enabled)
  | .shutdown => (.done (.ok ()), directory.shutdown surroundings)
  | .findLease key =>
    let found := directory.findLease key
    (.lease found.1, found.2)
  | .ask question => (directory.answer question, directory)
  | .insert handle key entry =>
    let kept := directory.insert handle key entry
    (.done kept.1, kept.2)
  | .session client opened =>
    (.done (.ok ()),
      { directory with
        live := if opened then directory.live.add client else (directory.live.remove client).2 })
  | .tune tuning =>
    (.done (.ok ()), { directory with factory := Backdoor.tune σ tuning directory.factory })
  | .touch handle touch =>
    let touched := directory.touchStore handle touch
    (.done touched.1, touched.2)
  | .startStore handle =>
    let started := directory.startStore surroundings handle
    (.done started.1, started.2)
  | .stopStore handle => (.done (.ok ()), directory.stopStore handle)

end Directory

end PeerDirectory

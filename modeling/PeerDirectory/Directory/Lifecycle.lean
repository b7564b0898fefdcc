import PeerDirectory.Directory.Basic

/-!
How partitions come and go. A client's partition is built, entered among the tracked clients
unless another one stands there already, started, seeded from main, and then ready; it is struck
off before anything about it fails or is torn down, so that a tracked partition is always one
that can still become ready.
-/

namespace PeerDirectory.Directory

variable {φ σ γ : Type} [PartitionStore σ] [StoreFactory φ σ]

def build (directory : Directory φ σ γ) (surroundings : Surroundings φ σ γ) (id : PartitionId) :
    Handle × Directory φ σ γ :=
  let directory := surroundings.react (.create id) directory
  let made := StoreFactory.make directory.factory id
  (directory.partitions.next id,
    { directory with
      factory := made.2
      partitions := directory.partitions.add id ⟨made.1, .creating, false⟩ })

omit [PartitionStore σ] in
@[simp] theorem id_build (directory : Directory φ σ γ) (surroundings : Surroundings φ σ γ)
    (id : PartitionId) : (directory.build surroundings id).1.id = id := rfl

/-- Tracks a client by a new partition. If the client is tracked by the time that the partition is
built, the new one is left alone and the tracked one given. -/
def register (directory : Directory φ σ γ) (surroundings : Surroundings φ σ γ) (client : Hash) :
    Handle × Directory φ σ γ :=
  let built := directory.build surroundings (.client client)
  match built.2.tracked? client with
  | some handle => (handle, (built.2.countOne .races).note (.lostRace (.client client)))
  | none =>
    (built.1,
      { built.2 with clients := built.2.clients.insert client built.1 (id_build ..) }.publish
        surroundings)

def unregister (directory : Directory φ σ γ) (surroundings : Surroundings φ σ γ) (client : Hash)
    (handle : Handle) : Directory φ σ γ :=
  if directory.tracked? client = some handle then
    { directory with clients := directory.clients.erase client }.publish surroundings
  else directory

def seedPeer (handle : Handle) (sofar : Nat × Directory φ σ γ) (peer : Hash) :
    Nat × Directory φ σ γ :=
  match sofar.2.lookupRouter (wellKnown .main) peer with
  | none => sofar
  | some router =>
    let kept := sofar.2.insert handle peer (.router router)
    match kept.1 with
    | .ok () => (sofar.1 + 1, kept.2)
    | .error failure => (sofar.1, kept.2.note (.seedRefused handle.id peer failure))

def seed (directory : Directory φ σ γ) (handle : Handle) : Directory φ σ γ :=
  if directory.seedPeers = 0 ∨ directory.floodfillPeers handle ≠ [] then directory
  else
    let candidates := directory.floodfillPeers (wellKnown .main)
    if candidates = [] then (directory.countOne .seedingSkipped).note (.seedingSkipped handle.id)
    else
      let chosen := directory.sampler.pick handle directory.seedPeers candidates
      let seeded := chosen.foldl (seedPeer handle) (0, directory)
      (seeded.2.count .seededPeers seeded.1).note
        (.seeded handle.id seeded.1 candidates.length)

/-- Starts a partition that has not started yet, on behalf of its client. A partition that fails
is struck off. -/
def bringUp (directory : Directory φ σ γ) (surroundings : Surroundings φ σ γ) (client : Hash)
    (handle : Handle) : Except Failure Bool × Directory φ σ γ :=
  if directory.closed then
    (.error .closed,
      (directory.unregister surroundings client handle).setLifecycle handle .shutDown)
  else
    let started := directory.startStore surroundings handle
    match started.1 with
    | .error failure =>
      (.error failure,
        ((started.2.unregister surroundings client handle).setLifecycle handle .shutDown).note
          (.failedToStart handle.id failure))
    | .ok () =>
      (.ok true,
        (((started.2.seed handle).setLifecycle handle .ready).countOne
          (.created handle.id.kind)).note (.created handle.id))

/-- Makes a client's partition ready. The answer is false if it was shut down before it could
start. Only one caller at a time can do this; another one has to wait. -/
def startClient (directory : Directory φ σ γ) (surroundings : Surroundings φ σ γ) (client : Hash)
    (handle : Handle) : Except Failure Bool × Directory φ σ γ :=
  match directory.partition? handle with
  | none => (.ok false, directory)
  | some partition =>
    if partition.locked then (.error .closed, directory.wait)
    else
      match partition.lifecycle with
      | .ready => (.ok true, directory)
      | .shutDown => (.ok false, directory)
      | .creating =>
        let started := (directory.setLocked handle true).bringUp surroundings client handle
        (started.1, started.2.setLocked handle false)

/-- The partition of a client, new if the client is not tracked. When the partition is shut down
before it starts, the search begins again, at most as often as the turns allow. -/
def clientWithin (surroundings : Surroundings φ σ γ) (client : Hash) :
    Nat → Directory φ σ γ → Except Failure Handle × Directory φ σ γ
  | 0, directory => (.error .closed, directory.wait)
  | turns + 1, directory =>
    if directory.closed then (.error .closed, directory)
    else
      let found :=
        match directory.tracked? client with
        | some handle => (handle, directory)
        | none => directory.register surroundings client
      if found.2.isReady found.1 then (.ok found.1, found.2)
      else
        let started := found.2.startClient surroundings client found.1
        match started.1 with
        | .error failure => (.error failure, started.2)
        | .ok true => (.ok found.1, started.2)
        | .ok false =>
          clientWithin surroundings client turns
            (started.2.unregister surroundings client found.1)

def client (directory : Directory φ σ γ) (surroundings : Surroundings φ σ γ) (client : Hash) :
    Except Failure Handle × Directory φ σ γ :=
  clientWithin surroundings client surroundings.turns directory

def stop (directory : Directory φ σ γ) (handle : Handle) : Bool × Directory φ σ γ :=
  match directory.partition? handle with
  | none => (false, directory)
  | some partition =>
    if partition.locked then (false, directory.wait)
    else
      match partition.lifecycle with
      | .shutDown => (false, directory)
      | .ready => (true, (directory.stopStore handle).setLifecycle handle .shutDown)
      | .creating => (true, directory.setLifecycle handle .shutDown)

def removeClient (directory : Directory φ σ γ) (surroundings : Surroundings φ σ γ)
    (client : Hash) : Bool × Directory φ σ γ :=
  match directory.tracked? client with
  | none => (false, directory.note (.nothingToTearDown client))
  | some handle =>
    let stopped := (directory.unregister surroundings client handle).stop handle
    if stopped.1 then
      (true, (stopped.2.countOne (.tornDown handle.id.kind)).note (.tornDown handle.id))
    else stopped

def stopCounted (sofar : Nat × Directory φ σ γ) (handle : Handle) : Nat × Directory φ σ γ :=
  let stopped := sofar.2.stop handle
  if stopped.1 then
    (sofar.1 + 1,
      (stopped.2.countOne (.tornDown handle.id.kind)).note (.partitionShutDown handle.id))
  else (sofar.1, stopped.2)

def shutdown (directory : Directory φ σ γ) (surroundings : Surroundings φ σ γ) :
    Directory φ σ γ :=
  let handles := WellKnown.all.map wellKnown ++ directory.clients.handles
  let closed := { directory with closed := true, clients := ∅ }.publish surroundings
  let stopped := handles.foldl stopCounted (0, closed)
  stopped.2.note (.shutDown stopped.1)

def setIsolation (directory : Directory φ σ γ) (enabled : Bool) : Directory φ σ γ :=
  let changed := directory.policy.set enabled
  let directory := { directory with policy := changed.2 }
  if changed.1 = enabled then directory else directory.note (.isolationToggled enabled)

def startWellKnown (directory : Directory φ σ γ) (surroundings : Surroundings φ σ γ)
    (role : WellKnown) : Except Failure Unit × Directory φ σ γ :=
  let built := directory.build surroundings (.wellKnown role)
  let started := (built.2.setLocked built.1 true).startStore surroundings built.1
  match started.1 with
  | .error failure => (.error failure, started.2.setLocked built.1 false)
  | .ok () =>
    (.ok (),
      (((started.2.setLifecycle built.1 .ready).setLocked built.1 false).countOne
        (.created (.wellKnown role))).note (.startedWellKnown (.wellKnown role)))

/-- Builds and starts well-known partitions in order. If one fails, those before it are shut down
again. -/
def startAll (surroundings : Surroundings φ σ γ) (sofar : List Handle) :
    List WellKnown → Directory φ σ γ → Except Failure Unit × Directory φ σ γ
  | [], directory => (.ok (), directory)
  | role :: rest, directory =>
    let started := directory.startWellKnown surroundings role
    match started.1 with
    | .ok () => startAll surroundings (sofar ++ [wellKnown role]) rest started.2
    | .error failure =>
      (.error failure, sofar.foldl (fun directory handle => (directory.stop handle).2) started.2)

def start (directory : Directory φ σ γ) (surroundings : Surroundings φ σ γ)
    (settings : Settings) : Except Failure Unit × Directory φ σ γ :=
  match settings.excess? with
  | some count => (.error (.excess count), directory)
  | none =>
    let started := startAll surroundings [] WellKnown.all directory
    match started.1 with
    | .error failure => (.error failure, started.2)
    | .ok () =>
      (.ok (),
        { started.2 with
          policy := ⟨settings.isolation⟩
          seedPeers := settings.seedPeers.toNat }.note
          (.started settings.isolation settings.seedPeers.toNat))

end PeerDirectory.Directory

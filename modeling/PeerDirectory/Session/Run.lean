import PeerDirectory.Directory.Report
import PeerDirectory.Session.Parts

/-!
Running a session: requests one after another, each with the hooks that come up while it is under
way. A hook is used once, at the first moment that fits it, and its own requests can bring up the
hooks that are left; as every hook is used up at most once, a session always ends.
-/

namespace PeerDirectory.Session

abbrev Others := Surroundings MemoryFactory MemoryStore Script

def present (session : Session) (handle : Handle) : Shown × Session :=
  let lifecycle := (session.partition? handle).map (·.lifecycle)
  match session.outside.shown.idxOf? handle with
  | some number => (⟨number, handle.id, lifecycle⟩, session)
  | none =>
    (⟨session.outside.shown.length, handle.id, lifecycle⟩,
      { session with
        outside := { session.outside with shown := session.outside.shown ++ [handle] } })

def presentAll (session : Session) (handles : List Handle) : List Shown × Session :=
  handles.foldl (fun sofar handle =>
    let shown := present sofar.2 handle
    (sofar.1 ++ [shown.1], shown.2)) ([], session)

def presentFound (found : Except Failure Handle × Session) : Reply × Session :=
  match found.1 with
  | .error cause => (.error (.failure cause), found.2)
  | .ok handle =>
    let shown := present found.2 handle
    (.ok (.shown (some shown.1)), shown.2)

def locate (session : Session) (others : Others) :
    Target → Except Refusal Handle × Session
  | .shown number =>
    match session.outside.shown[number]? with
    | some handle => (.ok handle, session)
    | none => (.error (.unknownNumber number), session)
  | .id id =>
    let found := session.resolve others id
    (found.1.mapError .failure, found.2)

def contents (session : Session) (handle : Handle) : Contents :=
  ⟨session.storeInitialized handle, sortedHashes (session.floodfillPeers handle),
    sortedRouters (session.routers handle), sortedLeaseSets (session.leaseSets handle),
    sortedBlindings (session.blindings handle)⟩

def storeNamed (handle : Handle) (floodfill : Bool) (sofar : Except Failure Unit × Session)
    (text : String) : Except Failure Unit × Session :=
  match sofar.1 with
  | .error _ => sofar
  | .ok () =>
    let router : Router := ⟨Hash.ofText text, [], floodfill, 0⟩
    sofar.2.insert handle router.identity (.router router)

def respondPartition (session : Session) (others : Others) (handle : Handle) :
    PartitionRequest → Reply × Session
  | .refused why => (.error why, session)
  | .handle =>
    let shown := present session handle
    (.ok (.shown (some shown.1)), shown.2)
  | .store entry key =>
    let kept := session.insert handle key entry
    (Reply.ofResult kept.1, kept.2)
  | .lookup key => (.ok (.entry (session.lookup handle key)), session)
  | .lookupLease key => (.ok (.leaseSet (session.lookupLease handle key)), session)
  | .lookupRouter key => (.ok (.router (session.lookupRouter handle key)), session)
  | .claims key => (.ok (.flag (session.claims handle key)), session)
  | .blindingFor key => (.ok (.blinding (session.blindingIn handle key)), session)
  | .contents => (.ok (.contents (session.contents handle)), session)
  | .debug => (.ok (.text ((session.describe? handle).getD "")), session)
  | .storeMany text count floodfill =>
    let names := (List.range count).map fun number => text ++ toString number
    let kept := names.foldl (storeNamed handle floodfill) (.ok (), session)
    (Reply.ofResult kept.1, kept.2)
  | .seedSummary =>
    let peers := session.floodfillPeers handle
    let copied := peers.all fun peer =>
      (session.lookupRouter handle peer).isSome &&
        session.lookupRouter handle peer = session.lookupRouter (Directory.wellKnown .main) peer
    (.ok (.seedSummary peers.length copied), session)
  | .storeStartup =>
    let started := session.startStore others handle
    (Reply.ofResult started.1, started.2)
  | .storeShutdown => (.ok .done, session.stopStore handle)

def respondLive (session : Session) (request : LiveRequest) : Reply × Session :=
  let answered := session.live.respond request
  (answered.1, { session with live := answered.2 })

def respondFactory (session : Session) (request : FactoryRequest) : Reply × Session :=
  let answered := (Workshop.mk session.factory session.partitions).respond (·.store)
    (fun partition store => { partition with store }) request
  (answered.1,
    { session with factory := answered.2.factory, partitions := answered.2.built })

def presentContents (session : Session) (handles : List Handle) :
    List (Shown × Contents) × Session :=
  handles.foldl (fun sofar handle =>
    let shown := present sofar.2 handle
    (sofar.1 ++ [(shown.1, session.contents handle)], shown.2)) ([], session)

def resolveTimes (session : Session) (others : Others) (id : Option PartitionId) (times : Nat) :
    List (Except Failure Handle) × Session :=
  (List.range times).foldl (fun sofar _ =>
    let found := sofar.2.resolve others id
    (sofar.1 ++ [found.1], found.2)) ([], session)

def allFound : List (Except Failure Handle) → Except Failure (List Handle)
  | [] => .ok []
  | .error cause :: _ => .error cause
  | .ok handle :: rest => (allFound rest).map (handle :: ·)

def respondAtOnce (session : Session) (others : Others) (id : Option PartitionId) (times : Nat) :
    Reply × Session :=
  let found := session.resolveTimes others id times
  match allFound found.1 with
  | .error cause => (.error (.failure cause), found.2)
  | .ok [] => (.error (.malformed "nothing to resolve"), found.2)
  | .ok (handle :: rest) =>
    let shown := present found.2 handle
    let stores := shown.2.partitions.all (id.getD (.wellKnown .main))
    (.ok (.atOnce (rest.all (· = handle)) shown.1
      (stores.foldl (fun total partition => total + partition.store.startups) 0)), shown.2)

def respondBuilt (session : Session) (others : Others) : Request → Reply × Session
  | .refused why => (.error why, session)
  | .factory request => session.respondFactory request
  | .live request => session.respondLive request
  | .metrics => (.ok (.metrics session.metrics), session)
  | .events => (.ok (.events session.log.reverse), { session with log := [] })
  | .resolve id => presentFound (session.resolve others id)
  | .clientPartition id => presentFound (session.clientPartition others id)
  | .serving role => presentFound (.ok (session.serving role), session)
  | .existing id =>
    match session.existing? id with
    | none => (.ok (.shown none), session)
    | some handle => presentFound (.ok handle, session)
  | .current =>
    let shown := session.presentAll session.current
    (.ok (.shownList shown.1), shown.2)
  | .findLease key =>
    let found := Directory.findLease session key
    (.ok (.leaseSet found.1), found.2)
  | .ownerOf key => (.ok (.id (session.ownerOf key)), session)
  | .lookupLeaseIn key id => (.ok (.leaseSet (session.lookupLeaseIn key id)), session)
  | .allRouters => (.ok (.routers (sortedRouters session.allRouters)), session)
  | .leasesKnownToClients =>
    (.ok (.leaseSets (sortedLeaseSets session.leasesKnownToClients)), session)
  | .routersKnownToClients =>
    (.ok (.routers (sortedRouters session.routersKnownToClients)), session)
  | .allBlindings => (.ok (.blindings (sortedBlindings session.allBlindings)), session)
  | .allFloodfillPeers => (.ok (.hashes session.allFloodfillPeers), session)
  | .clientIds => (.ok (.ids session.clientIds), session)
  | .clientIdsFor key => (.ok (.ids (session.clientIdsFor key)), session)
  | .blinding key => (.ok (.blinding (session.blinding? key)), session)
  | .isInitialized => (.ok (.flag session.isInitialized), session)
  | .isolated => (.ok (.flag session.isolated), session)
  | .trackedClients => (.ok (.number session.trackedClients), session)
  | .stats => (.ok (.stats session.stats), session)
  | .setIsolation enabled => (.ok .done, session.setIsolation enabled)
  | .removeClient client =>
    let removed := session.removeClient others client
    (.ok (.flag removed.1), removed.2)
  | .shutdown => (.ok .done, Directory.shutdown session others)
  | .partition target request =>
    let located := session.locate others target
    match located.1 with
    | .error why => (.error why, located.2)
    | .ok handle => respondPartition located.2 others handle request
  | .dump =>
    let shown := session.presentContents session.current
    (.ok (.dump session.trackedClients shown.1), shown.2)
  | .resolveAtOnce id times => session.respondAtOnce others id times

def needsNoDirectory : Request → Bool
  | .refused _ | .factory _ | .live _ | .metrics | .events => true
  | _ => false

def respond (session : Session) (others : Others) (request : Request) : Reply × Session :=
  if session.outside.built || needsNoDirectory request then session.respondBuilt others request
  else (.error .notBuilt, session)

def setInterludes (session : Session) (interludes : List Interlude) : Session :=
  { session with outside := { session.outside with interludes } }

def step (session : Session) (others : Others) (request : Request) : Outcome × Session :=
  let answered := (session.setInterludes []).respond others request
  (.mk answered.1 answered.2.outside.interludes,
    answered.2.setInterludes session.outside.interludes)

def stepAll (session : Session) (others : Others) (requests : List Request) :
    List Outcome × Session :=
  requests.foldl (fun sofar request =>
    let stepped := sofar.2.step others request
    (sofar.1 ++ [stepped.1], stepped.2)) ([], session)

def takeHook (moment : Moment) : List Hook → Option (Hook × List Hook)
  | [] => none
  | hook :: rest =>
    if hook.moment = moment then some (hook, rest)
    else (takeHook moment rest).map fun taken => (taken.1, hook :: taken.2)

def react : Nat → Moment → Session → Session
  | 0, _, session => session
  | depth + 1, moment, session =>
    match takeHook moment session.outside.pending with
    | none => session
    | some (hook, rest) =>
      let waiting : Session := { session with outside := { session.outside with pending := rest } }
      let done := waiting.stepAll ⟨react depth, depth + 2⟩ hook.requests
      done.2.setInterludes (done.2.outside.interludes ++ [.mk moment done.1])

/-- The surroundings of a session's requests: a hook for every level of nesting, and one more look
for every hook that can tear a partition down before it starts. -/
def others (session : Session) : Others :=
  ⟨react session.outside.pending.length, session.outside.pending.length + 2⟩

def start (session : Session) (settings : Settings) : Except Failure Unit × Session :=
  let started := Directory.start session session.others settings
  let done := setInterludes started.2 []
  (started.1,
    { done with outside := { done.outside with built := started.1.toBool } })

def run (session : Session) (requests : List Request) : List Outcome × Session :=
  requests.foldl (fun sofar request =>
    let stepped := sofar.2.step sofar.2.others request
    (sofar.1 ++ [stepped.1], stepped.2)) ([], session)

end PeerDirectory.Session

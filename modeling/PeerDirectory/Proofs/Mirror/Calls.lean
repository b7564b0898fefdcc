import PeerDirectory.Proofs.Mirror.Answers

namespace PeerDirectory.Directory

def Call.reaches {τ υ : Type} : Call τ υ → Option Handle
  | .ask question => question.reaches
  | .insert handle _ _ => some handle
  | _ => none

variable {φ σ φ' σ' τ υ γ δ : Type} [PartitionStore σ] [PartitionStore σ'] [StoreFactory φ σ]
  [StoreFactory φ' σ'] [Backdoor φ σ τ υ] [Backdoor φ' σ' τ υ] {bond : Bond φ σ φ' σ' τ υ}
  {naming : Naming} {spare : Spare σ'} {given : Handle → Prop}
  {ahead : Handle → Option Lifecycle} {left : Directory φ σ γ} {right : Directory φ' σ' δ}
  {handle : Handle} {client : Hash}

namespace Mirror

theorem insert (mirror : Mirror bond naming spare given ahead left right)
    (agreeing : Agreeing bond naming left right handle) (key : Hash) (entry : Entry) :
    Mirrored bond naming spare given ahead (left.insert handle key entry)
      (right.insert (naming.place handle) key entry) := by
  rw [insert_eq, insert_eq]
  refine mirror.operate_still fun here there akin => ?_
  obtain ⟨result, still, alike⟩ := bond.insert key entry akin (agreeing _ _ here there)
  exact ⟨result, still, fun _ => alike⟩

theorem touchStore (mirror : Mirror bond naming spare given ahead left right) (handle : Handle)
    (change : υ) :
    Mirrored bond naming spare given ahead (left.touchStore handle change)
      (right.touchStore (naming.place handle) change) := by
  rw [touchStore_eq, touchStore_eq]
  exact mirror.operate_still fun _ _ akin => bond.touch change akin

theorem startStore (mirror : Mirror bond naming spare given ahead left right) {locked : Bool}
    (stands : left.stage? handle = some (.creating, locked)) (even : ahead handle = none) :
    Mirrored bond naming spare given
      (Function.update ahead handle
        (some (.afterStartup (left.startStore (.quiet 0) handle).1)))
      (left.startStore (.quiet 0) handle)
      (right.startStore (.quiet 0) (naming.place handle)) := by
  rw [startStore_quiet_eq, startStore_quiet_eq]
  refine mirror.operate fun {one other} here there akin => ?_
  obtain ⟨partition, present, found⟩ := Option.map_eq_some_iff.mp stands
  obtain rfl := Option.some.inj (here.symm.trans present)
  rw [even, (Prod.mk.inj found).1] at akin
  have result : (left.operate handle (.error .closed) PartitionStore.startup).1 =
      (PartitionStore.startup one.store).1 := by
    simp only [Directory.operate, store?, here, Option.map_some]
  obtain ⟨same, started⟩ := bond.startup akin
  rw [result]
  exact ⟨same, started, bond.startup_alike⟩

section Candid

variable (mirror : Mirror bond naming spare given ahead left right) (candid : bond.candid)
  (handle : Handle)
include mirror candid

theorem driveStart :
    Mirrored bond naming spare given ahead (left.startStore (.quiet 0) handle)
      (right.startStore (.quiet 0) (naming.place handle)) := by
  rw [startStore_quiet_eq, startStore_quiet_eq]
  refine mirror.operate_still fun _ _ akin => ?_
  obtain ⟨result, started, -⟩ := bond.drive candid akin
  exact ⟨result, started, bond.startup_alike⟩

theorem driveStop :
    Mirror bond naming spare given ahead (left.stopStore handle)
      (right.stopStore (naming.place handle)) := by
  rw [stopStore_eq, stopStore_eq]
  refine (mirror.operate_still fun _ _ akin => ?_).mirror
  obtain ⟨-, -, stopped⟩ := bond.drive candid akin
  exact ⟨rfl, stopped, bond.shutdown_alike⟩

end Candid

section Seeding

variable (fixed : given (wellKnown .main)) (started : ahead handle = some .ready)
include fixed started

theorem seedPeer {one : Nat × Directory φ σ γ} {other : Nat × Directory φ' σ' δ}
    (mirrored : Mirrored bond naming spare given ahead one other) (peer : Hash) :
    Mirrored bond naming spare given ahead (Directory.seedPeer handle one peer)
      (Directory.seedPeer (naming.place handle) other peer) := by
  have found := (mirrored.mirror.reading (mirrored.mirror.agreeing_of_given fixed)).lookupRouter peer
  rw [naming.place_wellKnown] at found
  simp only [Directory.seedPeer, found]
  cases one.2.lookupRouter (wellKnown .main) peer with
  | none => exact mirrored
  | some router =>
    have inserted :=
      mirrored.mirror.insert (mirrored.mirror.agreeing_of_ahead started) peer (.router router)
    simp only [inserted.result, mirrored.result, naming.id_place]
    cases (one.2.insert handle peer (.router router)).1 with
    | ok _ => exact ⟨rfl, inserted.mirror⟩
    | error failure => exact ⟨rfl, inserted.mirror.note _⟩

theorem seedPeers {one : Nat × Directory φ σ γ} {other : Nat × Directory φ' σ' δ}
    (mirrored : Mirrored bond naming spare given ahead one other) (peers : List Hash) :
    Mirrored bond naming spare given ahead (peers.foldl (Directory.seedPeer handle) one)
      (peers.foldl (Directory.seedPeer (naming.place handle)) other) := by
  induction peers generalizing one other with
  | nil => exact mirrored
  | cons peer rest ih => exact ih (seedPeer fixed started mirrored peer)

theorem seed (mirror : Mirror bond naming spare given ahead left right) :
    Mirror bond naming spare given ahead (left.seed handle)
      (right.seed (naming.place handle)) := by
  obtain ⟨-, seedPeers, sampler, -⟩ := mirror.settings
  have own := (mirror.reading (mirror.agreeing_of_ahead started)).floodfillPeers
  have main := (mirror.reading (mirror.agreeing_of_given fixed)).floodfillPeers
  rw [naming.place_wellKnown] at main
  have chosen (count : Nat) (peers : List Hash) :
      right.sampler.pick (naming.place handle) count peers =
        left.sampler.pick handle count peers := by rw [sampler]; rfl
  simp only [Directory.seed, seedPeers, chosen, own, main, naming.id_place]
  split
  · exact mirror
  · split
    · exact (mirror.count .seedingSkipped (by simp) 1).note _
    · have none : Mirrored bond naming spare given ahead (0, left) (0, right) := ⟨rfl, mirror⟩
      have seeded := Mirror.seedPeers fixed started none
        (left.sampler.pick handle left.seedPeers (left.floodfillPeers (wellKnown .main)))
      rw [seeded.result]
      exact (seeded.mirror.count .seededPeers (by simp) _).note _

end Seeding

theorem catchUp {stage : Lifecycle}
    (mirror : Mirror bond naming spare given (Function.update ahead handle (some stage)) left right)
    (even : ahead handle = none) :
    Mirror bond naming spare given ahead (left.setLifecycle handle stage)
      (right.setLifecycle (naming.place handle) stage) := by
  have caught : Function.update (Function.update ahead handle (some stage)) handle none = ahead := by
    rw [Function.update_idem, ← even, Function.update_eq_self]
  rw [← caught]
  refine mirror.setLifecycle fun _ akin => ?_
  rwa [Function.update_self] at akin

theorem abandon (mirror : Mirror bond naming spare given ahead left right) {locked : Bool}
    (stands : left.stage? handle = some (.creating, locked)) (even : ahead handle = none) :
    Mirror bond naming spare given ahead (left.setLifecycle handle .shutDown)
      (right.setLifecycle (naming.place handle) .shutDown) := by
  have still : Function.update ahead handle none = ahead := by
    rw [← even, Function.update_eq_self]
  rw [← still]
  refine mirror.setLifecycle fun here akin => ?_
  obtain ⟨partition, present, found⟩ := Option.map_eq_some_iff.mp stands
  obtain rfl := Option.some.inj (here.symm.trans present)
  rw [even, (Prod.mk.inj found).1] at akin
  exact bond.abandon akin

theorem goLive (mirror : Mirror bond naming spare given
      (Function.update level handle (some .ready)) left right)
    (fixed : given (wellKnown .main)) :
    Mirror bond naming spare given level (left.goLive handle)
      (right.goLive (naming.place handle)) := by
  have ready := (mirror.seed fixed (Function.update_self ..)).catchUp rfl
  simp only [Directory.goLive, naming.id_place]
  exact (ready.count (.created handle.id.kind) (by simp) 1).note _

theorem settle (mirror : Mirror bond naming spare given level left right)
    (fixed : given (wellKnown .main)) (stands : left.stage? handle = some (.creating, true)) :
    Mirrored bond naming spare given level (left.settle client handle)
      (right.settle client (naming.place handle)) := by
  simp only [Directory.settle, bringUp_eq, mirror.closed]
  cases left.closed with
  | true =>
    have struck := mirror.unregister client handle 0
    have dropped :=
      struck.abandon ((stage?_unregister_quiet handle handle 0).trans stands) rfl
    exact ⟨rfl, dropped.setLocked handle false⟩
  | false =>
    have started := mirror.startStore stands rfl
    simp only [Bool.false_eq_true, if_false, started.result, naming.id_place]
    cases result : (left.startStore (.quiet 0) handle).1 with
    | error failure =>
      have failed := started.mirror
      rw [result] at failed
      have dropped := (failed.unregister client handle 0).catchUp rfl
      exact ⟨rfl, (dropped.note _).setLocked handle false⟩
    | ok _ =>
      have running := started.mirror
      rw [result] at running
      exact ⟨rfl, (running.goLive fixed).setLocked handle false⟩

theorem register (mirror : Mirror bond naming spare given level left right) (client : Hash) :
    (right.register (.quiet 0) client).1 = naming.place (left.register (.quiet 0) client).1 ∧
      Mirror bond naming spare given level (left.register (.quiet 0) client).2
        (right.register (.quiet 0) client).2 := by
  obtain ⟨named, built⟩ := mirror.build (.client client) rfl 0
  simp only [Directory.register, built.tracked?]
  cases (left.build (.quiet 0) (.client client)).2.tracked? client with
  | some handle => exact ⟨rfl, (built.count .races (by simp) 1).note _⟩
  | none =>
    simp only [Option.map_none, named]
    exact ⟨trivial, (built.track rfl _).publish 0⟩

theorem launch (mirror : Mirror bond naming spare given level left right) (client : Hash) :
    Mirror bond naming spare given level (left.launch client) (right.launch client) := by
  have registered := (mirror.register client).2.setLocked
    (left.partitions.next (.client client)) true
  rwa [mirror.place_next] at registered

theorem stop (mirror : Mirror bond naming spare given ahead left right) (handle : Handle)
    (even : ahead handle = none) :
    Mirrored bond naming spare given ahead (left.stop handle)
      (right.stop (naming.place handle)) := by
  unfold Directory.stop
  rcases mirror.partition?_cases handle with ⟨here, there⟩ | ⟨one, other, here, there, counterpart⟩
  · simp only [here, there]
    exact ⟨rfl, mirror⟩
  · simp only [here, there, counterpart.locked, counterpart.lifecycle]
    split
    · exact ⟨rfl, { mirror with stuck := rfl }⟩
    · cases stage : one.lifecycle with
      | shutDown => exact ⟨rfl, mirror⟩
      | creating =>
        have stands : left.stage? handle = some (.creating, one.locked) := by
          simp [Directory.stage?, here, stage]
        exact ⟨rfl, mirror.abandon stands even⟩
      | ready =>
        refine ⟨rfl, catchUp ?_ even⟩
        rw [stopStore_eq, stopStore_eq]
        refine (mirror.operate fun {first second} still again akin => ?_).mirror
        obtain rfl := Option.some.inj (here.symm.trans still)
        rw [even, stage] at akin
        exact ⟨rfl, bond.shutdown akin, bond.shutdown_alike⟩

theorem stopCounted {one : Nat × Directory φ σ γ} {other : Nat × Directory φ' σ' δ}
    (mirrored : Mirrored bond naming spare given level one other) (handle : Handle) :
    Mirrored bond naming spare given level (Directory.stopCounted one handle)
      (Directory.stopCounted other (naming.place handle)) := by
  have stopped := mirrored.mirror.stop handle rfl
  simp only [Directory.stopCounted, stopped.result, mirrored.result, naming.id_place]
  split
  · exact ⟨rfl, (stopped.mirror.count (.tornDown handle.id.kind) (by simp) 1).note _⟩
  · exact ⟨rfl, stopped.mirror⟩

theorem stopAll {one : Nat × Directory φ σ γ} {other : Nat × Directory φ' σ' δ}
    (mirrored : Mirrored bond naming spare given level one other) (handles : List Handle) :
    Mirrored bond naming spare given level (handles.foldl Directory.stopCounted one)
      ((handles.map naming.place).foldl Directory.stopCounted other) := by
  induction handles generalizing one other with
  | nil => exact mirrored
  | cons handle rest ih => exact ih (stopCounted mirrored handle)

theorem removeClient (mirror : Mirror bond naming spare given level left right) (client : Hash) :
    Mirrored bond naming spare given level (left.removeClient (.quiet 0) client)
      (right.removeClient (.quiet 0) client) := by
  simp only [Directory.removeClient, mirror.tracked?]
  cases left.tracked? client with
  | none => exact ⟨rfl, mirror.note _⟩
  | some handle =>
    have stopped := (mirror.unregister client handle 0).stop handle rfl
    simp only [Option.map_some, stopped.result, naming.id_place]
    split
    · exact ⟨rfl, (stopped.mirror.count (.tornDown handle.id.kind) (by simp) 1).note _⟩
    · exact stopped

theorem standing (mirror : Mirror bond naming spare given ahead left right) :
    right.standing = left.standing.map naming.place := by
  simp only [Directory.standing, mirror.clients, Clients.handles_rename, List.map_append,
    List.map_map, Function.comp_def, naming.place_wellKnown]

theorem shutdown (mirror : Mirror bond naming spare given level left right) :
    Mirror bond naming spare given level (left.shutdown (.quiet 0))
      (right.shutdown (.quiet 0)) := by
  have emptied : Mirror bond naming spare given level
      { left with closed := true, clients := ∅ } { right with closed := true, clients := ∅ } :=
    { mirror with closed := rfl, clients := Clients.rename_empty.symm }
  have begun : Mirrored bond naming spare given level
      (0, { left with closed := true, clients := ∅ }.publish (.quiet 0))
      (0, { right with closed := true, clients := ∅ }.publish (.quiet 0)) :=
    ⟨rfl, emptied.publish 0⟩
  have stopped := stopAll begun left.standing
  rw [← mirror.standing] at stopped
  exact stopped.note .shutDown

theorem setIsolation (mirror : Mirror bond naming spare given ahead left right) (enabled : Bool) :
    Mirror bond naming spare given ahead (left.setIsolation enabled)
      (right.setIsolation enabled) := by
  obtain ⟨policy, rest⟩ := mirror.settings
  have switched : Mirror bond naming spare given ahead
      { left with policy := (left.policy.set enabled).2 }
      { right with policy := (left.policy.set enabled).2 } :=
    { mirror with settings := ⟨rfl, rest⟩ }
  simp only [Directory.setIsolation, policy]
  split
  · exact switched
  · exact switched.note _

theorem findLease (mirror : Mirror bond naming spare given level left right)
    (fixed : ∀ role, given (wellKnown role)) (key : Hash) :
    Mirrored bond naming spare given level (left.findLease key) (right.findLease key) := by
  have read (asked : Handle) (consulted : asked = wellKnown .main ∨ asked ∈ left.ownerCandidates) :
      SameReading naming left right asked := by
    apply mirror.reading
    rcases consulted with rfl | listed
    · exact mirror.agreeing_of_given (fixed .main)
    · exact mirror.agreeing_of_ready (isReady_of_ownerCandidates listed)
  obtain ⟨found, outcome⟩ :=
    mirror.progress.findLease (fun _ => trivial) mirror.mayOwn read key
  refine ⟨found, ?_⟩
  rw [findLease_after, findLease_after, outcome]
  exact mirror.count (.ownerLookups _) (by simp) 1

theorem act (mirror : Mirror bond naming spare given level left right)
    (fixed : ∀ role, given (wellKnown role)) {call : Call τ υ} (plain : call.plain = true)
    (fair : bond.candid ∨
      call.drives = false ∧ ∀ {handle}, call.reaches = some handle → given handle) :
    (right.perform (.quiet 0) (call.rename naming.place)).1 =
        (left.perform (.quiet 0) call).1.rename naming.place ∧
      Mirror bond naming spare given level (left.perform (.quiet 0) call).2
        (right.perform (.quiet 0) (call.rename naming.place)).2 := by
  cases call with
  | resolve id => cases plain
  | clientPartition id => cases plain
  | startStore handle => cases plain
  | removeClient client =>
    have removed := mirror.removeClient client
    exact ⟨congrArg Response.flag removed.result, removed.mirror⟩
  | setIsolation enabled => exact ⟨rfl, mirror.setIsolation enabled⟩
  | shutdown => exact ⟨rfl, mirror.shutdown⟩
  | findLease key =>
    have found := mirror.findLease fixed key
    exact ⟨congrArg Response.lease found.result, found.mirror⟩
  | ask question =>
    refine ⟨mirror.answer fixed (fair.imp_right fun known => ?_), mirror⟩
    exact fun {handle} reaches => known.2 reaches
  | insert handle key entry =>
    have agreeing : Agreeing bond naming left right handle := by
      rcases fair with candid | ⟨-, known⟩
      · exact mirror.agreeing_of_candid candid handle
      · exact mirror.agreeing_of_given (known rfl)
    have inserted := mirror.insert agreeing key entry
    exact ⟨congrArg Response.done inserted.result, inserted.mirror⟩
  | session client opened =>
    obtain ⟨policy, seedPeers, sampler, enumerator, live⟩ := mirror.settings
    refine ⟨rfl, { mirror with settings := ⟨policy, seedPeers, sampler, enumerator, ?_⟩ }⟩
    simp only [perform, Call.rename, live]
  | tune tuning => exact ⟨rfl, { mirror with factory := bond.tune tuning mirror.factory }⟩
  | touch handle change =>
    have touched := mirror.touchStore handle change
    exact ⟨congrArg Response.done touched.result, touched.mirror⟩
  | stopStore handle =>
    rcases fair with candid | ⟨driving, -⟩
    · exact ⟨rfl, mirror.driveStop candid handle⟩
    · cases driving

end Mirror

end PeerDirectory.Directory

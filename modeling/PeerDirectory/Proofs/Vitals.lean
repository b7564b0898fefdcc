import PeerDirectory.Proofs.Directory.Lifecycle
import PeerDirectory.MemoryStore

namespace PeerDirectory

structure Vitals where
  id : PartitionId
  startups : Nat
  started : Bool
  stopped : Bool

def MemoryStore.vitals (store : MemoryStore) : Vitals :=
  ⟨store.id, store.startups, store.started, store.stopped⟩

namespace MemoryStore

variable (store : MemoryStore)

@[simp] theorem vitals_put (key : Hash) (entry : Entry) :
    (store.put key entry).vitals = store.vitals := by
  cases entry with
  | router descriptor => rfl
  | lease record => rfl

@[simp] theorem vitals_insert (key : Hash) (entry : Entry) :
    (store.insert key entry).2.vitals = store.vitals := by
  unfold insert
  split
  · rfl
  · split
    · rfl
    · exact vitals_put store key entry

@[simp] theorem vitals_setBlinding (data : Blinding) :
    (store.setBlinding data).2.vitals = store.vitals := by
  unfold setBlinding
  split <;> rfl

@[simp] theorem vitals_shutdown : store.shutdown.vitals = { store.vitals with stopped := true } :=
  rfl

@[simp] theorem refused_insert (key : Hash) (entry : Entry) :
    (store.insert key entry).2.refused = store.refused := by
  unfold insert
  split
  · rfl
  · split
    · rfl
    · cases entry <;> rfl

@[simp] theorem refused_setBlinding (data : Blinding) :
    (store.setBlinding data).2.refused = store.refused := by
  unfold setBlinding
  split <;> rfl

theorem startup_eq : ∃ startups started, store.startup.2 = { store with startups, started } := by
  unfold startup
  split
  · exact ⟨_, _, rfl⟩
  · split
    · exact ⟨_, _, rfl⟩
    · exact ⟨_, _, rfl⟩

theorem id_startup : store.startup.2.id = store.id := by
  obtain ⟨_, _, same⟩ := store.startup_eq
  rw [same]

theorem refused_startup : store.startup.2.refused = store.refused := by
  obtain ⟨_, _, same⟩ := store.startup_eq
  rw [same]

theorem stopped_startup : store.startup.2.stopped = store.stopped := by
  obtain ⟨_, _, same⟩ := store.startup_eq
  rw [same]

theorem startup_holds : store.startup.2.routers = store.routers ∧
    store.startup.2.leaseSets = store.leaseSets ∧ store.startup.2.blindings = store.blindings := by
  obtain ⟨_, _, same⟩ := store.startup_eq
  rw [same]
  exact ⟨rfl, rfl, rfl⟩

theorem vitals_startup_of_error {failure : Failure} (failed : store.startup.1 = .error failure) :
    store.startup.2.vitals.id = store.id ∧ store.startup.2.vitals.started = store.started := by
  unfold startup at failed ⊢
  cases stopped : store.stopped with
  | true => exact ⟨rfl, rfl⟩
  | false =>
    cases failing : store.failing with
    | true => exact ⟨rfl, rfl⟩
    | false => simp [stopped, failing] at failed

theorem vitals_startup_of_ok (started : store.startup.1 = .ok ()) :
    store.stopped = false ∧
      store.startup.2.vitals =
        { store.vitals with startups := store.startups + 1, started := true } := by
  unfold startup at started ⊢
  cases stopped : store.stopped with
  | true => simp [stopped] at started
  | false =>
    cases failing : store.failing with
    | true => simp [stopped, failing] at started
    | false => exact ⟨rfl, by simp [vitals, stopped]⟩

end MemoryStore

namespace MemoryFactory

def peculiarity (factory : MemoryFactory) (id : PartitionId) : Peculiarity :=
  (factory.peculiarities.find? (·.id = id)).getD ⟨id, [], []⟩

theorem fresh_eq (factory : MemoryFactory) (id : PartitionId) :
    factory.fresh id =
      { MemoryStore.empty id (factory.failing.contains id) with
        routers := (factory.peculiarity id).held.foldl
          (fun routers router => routers.insert router.identity router) ∅
        refused := (factory.peculiarity id).refused } := by
  have filled (held : List Router) (store : MemoryStore) :
      held.foldl (fun store router => store.put router.identity (.router router)) store =
        { store with
          routers := held.foldl (fun routers router => routers.insert router.identity router)
            store.routers } := by
    induction held generalizing store with
    | nil => rfl
    | cons router rest ih => exact ih _
  unfold fresh peculiarity
  cases factory.peculiarities.find? (·.id = id) with
  | none => rfl
  | some special => simp only [filled, Option.getD_some, MemoryStore.empty]

variable (factory : MemoryFactory) (id : PartitionId)

theorem vitals_fresh : (factory.fresh id).vitals = ⟨id, 0, false, false⟩ := by
  rw [fresh_eq]
  rfl

theorem refused_fresh : (factory.fresh id).refused = (factory.peculiarity id).refused := by
  rw [fresh_eq]

theorem bare_fresh : (factory.fresh id).leaseSets = ∅ ∧ (factory.fresh id).blindings = ∅ := by
  rw [fresh_eq]
  exact ⟨rfl, rfl⟩

theorem startup_fresh :
    ((factory.fresh id).startup.1 =
      if factory.failing.contains id then .error (.startup id "startup refused") else .ok ()) ∧
      (factory.failing.contains id = true →
        (factory.fresh id).startup.2.isInitialized = false) := by
  rw [fresh_eq]
  cases failing : factory.failing.contains id with
  | true => simp [MemoryStore.startup, MemoryStore.isInitialized, MemoryStore.empty]
  | false => simp [MemoryStore.startup, MemoryStore.empty]

end MemoryFactory

namespace Directory

variable {γ : Type}

def vitals? (directory : Directory MemoryFactory MemoryStore γ) (handle : Handle) :
    Option (Vitals × Lifecycle) :=
  (directory.partition? handle).map fun partition => (partition.store.vitals, partition.lifecycle)

theorem vitals?_of_stage? {directory : Directory MemoryFactory MemoryStore γ} {handle : Handle}
    {stage : Lifecycle} {locked : Bool} (stands : directory.stage? handle = some (stage, locked)) :
    ∃ partition, directory.partition? handle = some partition ∧ partition.lifecycle = stage ∧
      directory.vitals? handle = some (partition.store.vitals, stage) := by
  obtain ⟨partition, here, found⟩ := Option.map_eq_some_iff.mp stands
  obtain ⟨rfl, -⟩ := Prod.mk.inj found
  exact ⟨partition, here, rfl, by simp [vitals?, here]⟩

variable (directory : Directory MemoryFactory MemoryStore γ) (handle : Handle)

theorem vitals?_modify (change : Partition MemoryStore → Partition MemoryStore) :
    (directory.modify handle change).vitals? =
      Function.update directory.vitals? handle
        ((directory.partition? handle).map fun partition =>
          ((change partition).store.vitals, (change partition).lifecycle)) := by
  funext other
  rw [vitals?, partition?_modify, Function.update_apply]
  by_cases same : other = handle
  · simp [same, Function.comp_def]
  · simp [same, vitals?]

@[simp] theorem vitals?_setLocked (locked : Bool) :
    (directory.setLocked handle locked).vitals? = directory.vitals? := by
  rw [setLocked, vitals?_modify]
  exact Function.update_eq_self_iff.mpr rfl

theorem vitals?_setLifecycle (stage : Lifecycle) :
    (directory.setLifecycle handle stage).vitals? =
      Function.update directory.vitals? handle
        ((directory.vitals? handle).map fun current => (current.1, stage)) := by
  rw [setLifecycle, vitals?_modify]
  simp [vitals?, Function.comp_def]

theorem vitals?_setStore {store next : MemoryStore} (present : directory.store? handle = some store)
    (same : next.vitals = store.vitals) :
    (directory.setStore handle next).vitals? = directory.vitals? := by
  obtain ⟨partition, here, rfl⟩ := Option.map_eq_some_iff.mp present
  rw [setStore, vitals?_modify, here]
  exact Function.update_eq_self_iff.mpr (by simp [vitals?, here, same])

@[simp] theorem vitals?_insert (key : Hash) (entry : Entry) :
    (directory.insert handle key entry).2.vitals? = directory.vitals? := by
  unfold insert
  cases present : directory.store? handle with
  | none => rfl
  | some store => exact vitals?_setStore directory handle present (store.vitals_insert key entry)

@[simp] theorem vitals?_touchStore (data : Blinding) :
    (directory.touchStore handle data).2.vitals? = directory.vitals? := by
  unfold touchStore
  cases present : directory.store? handle with
  | none => rfl
  | some store => exact vitals?_setStore directory handle present (store.vitals_setBlinding data)

theorem vitals?_seedPeers (peers : List Hash)
    (sofar : Nat × Directory MemoryFactory MemoryStore γ) :
    (peers.foldl (seedPeer handle) sofar).2.vitals? = sofar.2.vitals? := by
  induction peers generalizing sofar with
  | nil => rfl
  | cons peer rest ih =>
    have first : (seedPeer handle sofar peer).2.vitals? = sofar.2.vitals? := by
      simp only [seedPeer]
      split
      · rfl
      · split <;> exact vitals?_insert sofar.2 handle _ _
    exact (ih _).trans first

@[simp] theorem vitals?_seed : (directory.seed handle).vitals? = directory.vitals? := by
  simp only [seed]
  split
  · rfl
  · split
    · rfl
    · exact vitals?_seedPeers handle _ _

theorem vitals?_stopStore :
    (directory.stopStore handle).vitals? =
      Function.update directory.vitals? handle
        ((directory.vitals? handle).map fun current =>
          ({ current.1 with stopped := true }, current.2)) := by
  unfold stopStore store?
  cases here : directory.partition? handle with
  | none => exact (Function.update_eq_self_iff.mpr (by simp [vitals?, here])).symm
  | some partition =>
    simp only [Option.map_some, setStore]
    rw [vitals?_modify, here]
    simp [vitals?, here, PartitionStore.shutdown]

theorem vitals?_startStore_of_ok {turns : Nat} {vitals : Vitals} {stage : Lifecycle}
    (present : directory.vitals? handle = some (vitals, stage))
    (started : (directory.startStore (.quiet turns) handle).1 = .ok ()) :
    vitals.stopped = false ∧
      (directory.startStore (.quiet turns) handle).2.vitals? =
        Function.update directory.vitals? handle
          (some ({ vitals with startups := vitals.startups + 1, started := true }, stage)) := by
  obtain ⟨partition, here, found⟩ := Option.map_eq_some_iff.mp present
  obtain ⟨rfl, rfl⟩ := Prod.mk.inj found
  simp only [startStore, Surroundings.quiet, store?, here, Option.map_some] at started ⊢
  obtain ⟨running, counted⟩ := partition.store.vitals_startup_of_ok started
  refine ⟨running, ?_⟩
  rw [setStore, vitals?_modify, here]
  simp only [PartitionStore.startup, Option.map_some, counted]
  rfl

theorem vitals?_startStore_of_error {turns : Nat} {vitals : Vitals} {stage : Lifecycle}
    {failure : Failure} (present : directory.vitals? handle = some (vitals, stage))
    (failed : (directory.startStore (.quiet turns) handle).1 = .error failure) :
    ∃ after, after.id = vitals.id ∧ after.started = vitals.started ∧
      (directory.startStore (.quiet turns) handle).2.vitals? =
        Function.update directory.vitals? handle (some (after, stage)) := by
  obtain ⟨partition, here, found⟩ := Option.map_eq_some_iff.mp present
  obtain ⟨rfl, rfl⟩ := Prod.mk.inj found
  simp only [startStore, Surroundings.quiet, store?, here, Option.map_some] at failed ⊢
  obtain ⟨id, started⟩ := partition.store.vitals_startup_of_error failed
  refine ⟨partition.store.startup.2.vitals, id, started, ?_⟩
  rw [setStore, vitals?_modify, here]
  rfl

@[simp] theorem vitals?_unregister_quiet (client : Hash) (turns : Nat) :
    (directory.unregister (.quiet turns) client handle).vitals? = directory.vitals? := by
  unfold unregister
  split <;> rfl

theorem vitals?_giveUp (client : Hash) (turns : Nat) :
    (directory.giveUp (.quiet turns) client handle).vitals? =
      (directory.setLifecycle handle .shutDown).vitals? := by
  rw [giveUp, vitals?_setLifecycle, vitals?_setLifecycle, vitals?_unregister_quiet]

theorem vitals?_goLive :
    (directory.goLive handle).vitals? = (directory.setLifecycle handle .ready).vitals? := by
  apply ((directory.seed handle).vitals?_setLifecycle handle .ready).trans
  rw [vitals?_setLifecycle, vitals?_seed]

theorem vitals?_settle_of_closed (closed : directory.closed = true) (client : Hash) :
    (directory.settle client handle).2.vitals? =
      (directory.setLifecycle handle .shutDown).vitals? := by
  rw [settle_of_closed closed]
  exact (vitals?_setLocked _ handle false).trans (directory.vitals?_giveUp handle client 0)

/-- What others can tell of the stores when a partition was started depends on its store only. -/
theorem vitals?_settle (opened : directory.closed = false) (client : Hash) :
    (directory.settle client handle).2.vitals? =
      ((directory.startStore (.quiet 0) handle).2.setLifecycle handle
        (.afterStartup (directory.startStore (.quiet 0) handle).1)).vitals? := by
  cases result : (directory.startStore (.quiet 0) handle).1 with
  | error failure =>
    rw [settle_of_error opened result]
    exact (vitals?_setLocked _ handle false).trans
      ((directory.startStore (.quiet 0) handle).2.vitals?_giveUp handle client 0)
  | ok _ =>
    rw [settle_of_ok opened result]
    exact (vitals?_setLocked _ handle false).trans
      ((directory.startStore (.quiet 0) handle).2.vitals?_goLive handle)

theorem vitals?_build_quiet (turns : Nat) (id : PartitionId) :
    (directory.build (.quiet turns) id).2.vitals? =
      Function.update directory.vitals? (directory.partitions.next id)
        (some (⟨id, 0, false, false⟩, .creating)) := by
  funext other
  rw [vitals?, partition?_build_quiet, Function.update_apply]
  split
  · simp [StoreFactory.make, MemoryFactory.vitals_fresh]
  · rfl

theorem vitals?_register_quiet (turns : Nat) (client : Hash) :
    (directory.register (.quiet turns) client).2.vitals? =
      Function.update directory.vitals? (directory.partitions.next (.client client))
        (some (⟨.client client, 0, false, false⟩, .creating)) := by
  rw [← vitals?_build_quiet directory turns]
  simp only [register]
  split <;> rfl

end Directory

end PeerDirectory

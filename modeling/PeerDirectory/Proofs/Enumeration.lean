import PeerDirectory.Proofs.Aggregates
import PeerDirectory.Proofs.Interlude.Stretch
import PeerDirectory.Proofs.Run.Anchored

namespace PeerDirectory

structure Retains (σ : Type) [PartitionStore σ] : Prop where
  routers : ∀ (store : σ) key router,
    (PartitionStore.insert store key (.router router)).1 = .ok () →
      router ∈ PartitionStore.routers (PartitionStore.insert store key (.router router)).2
  floodfillPeers : ∀ (store : σ) key router,
    (PartitionStore.insert store key (.router router)).1 = .ok () → router.floodfill = true →
      key ∈ PartitionStore.floodfillPeers (PartitionStore.insert store key (.router router)).2

theorem MemoryStore.routers_insert_of_ok {store : MemoryStore} {key : Hash} {router : Router}
    (accepted : (store.insert key (.router router)).1 = .ok ()) :
    (store.insert key (.router router)).2.routers[key]? = some router := by
  simp only [insert] at accepted ⊢
  split at accepted
  · cases accepted
  · split at accepted
    · cases accepted
    · simp_all [put]

theorem retains_memoryStore : Retains MemoryStore where
  routers store _ _ accepted :=
    (store.insert _ _).2.mem_knownRouters.mpr ⟨_, MemoryStore.routers_insert_of_ok accepted⟩
  floodfillPeers store _ _ accepted flooding :=
    (store.insert _ _).2.mem_floodfillPeers.mpr
      ⟨_, MemoryStore.routers_insert_of_ok accepted, flooding⟩

namespace Directory

variable {φ σ γ τ υ : Type}

section Current

variable {directory : Directory φ σ γ} {busy : List Handle} {handle : Handle}

theorem mem_readyClients_of_tracked {client : Hash}
    (tracked : directory.tracked? client = some handle)
    (ready : directory.isReady handle = true) : handle ∈ directory.readyClients :=
  List.mem_filter.mpr ⟨Clients.mem_handles.mpr ⟨client, tracked⟩, ready⟩

theorem mem_current_of_wellKnown (apart : directory.isolated = true) (role : WellKnown) :
    wellKnown role ∈ directory.current := by
  rw [current, if_pos apart]
  refine List.mem_append_left _ (List.mem_map_of_mem ?_)
  cases role <;> decide

theorem mem_current_of_ready (orderly : Orderly busy directory.shape)
    (anchored : Anchored directory.shape) (apart : directory.isolated = true)
    (ready : directory.isReady handle = true) : handle ∈ directory.current := by
  unfold isReady at ready
  split at ready
  case h_2 => cases ready
  rename_i partition here
  have stands : directory.shape.stages handle = some (.ready, partition.locked) := by
    simp [stage?, here, of_decide_eq_true ready]
  obtain ⟨id, generation⟩ := handle
  cases id with
  | wellKnown role =>
    rw [anchored.only rfl stands]
    exact mem_current_of_wellKnown apart role
  | client client =>
    rw [current, if_pos apart]
    refine List.mem_append_right _ (mem_readyClients_of_tracked (orderly.ready stands) ?_)
    simpa [isReady, here] using ready

theorem mem_current_of_together (together : directory.isolated = false) :
    handle ∈ directory.current ↔ handle = wellKnown .main := by
  simp [current, together]

theorem current_insert [PartitionStore σ] (key : Hash) (entry : Entry) :
    (directory.insert handle key entry).2.current = directory.current := by
  have shape := shape_insert directory handle key entry
  have clients : (directory.insert handle key entry).2.clients = directory.clients :=
    congrArg Shape.clients shape
  have policy : (directory.insert handle key entry).2.isolated = directory.isolated := by
    unfold insert
    split <;> rfl
  have ready : (directory.insert handle key entry).2.isReady = directory.isReady := by
    funext other
    exact isReady_of_stage? (congrFun (congrArg Shape.stages shape) other)
  simp only [current, readyClients, clients, policy, ready]

theorem store?_insert [PartitionStore σ] {key : Hash} {entry : Entry} {store : σ}
    (present : directory.store? handle = some store) :
    (directory.insert handle key entry).2.store? handle =
      some (PartitionStore.insert store key entry).2 := by
  obtain ⟨partition, here, rfl⟩ := Option.map_eq_some_iff.mp present
  simp [insert, store?, here, setStore, partition?_modify]

end Current

section Entering

variable [PartitionStore σ] {directory : Directory φ σ γ} {handle : Handle} {key : Hash}
  {router : Router}

theorem listed_of_insert (retains : Retains σ) (listed : handle ∈ directory.current)
    (accepted : (directory.insert handle key (.router router)).1 = .ok ()) :
    router ∈ (directory.insert handle key (.router router)).2.allRouters ∧
      (router.floodfill = true →
        key ∈ (directory.insert handle key (.router router)).2.allFloodfillPeers) := by
  cases present : directory.store? handle with
  | none => simp [insert, present] at accepted
  | some store =>
    have still : handle ∈ (directory.insert handle key (.router router)).2.current := by
      rwa [current_insert]
    have kept : (directory.insert handle key (.router router)).2.store? handle = _ :=
      store?_insert present
    have taken : (PartitionStore.insert store key (.router router)).1 = .ok () := by
      simpa [insert, present] using accepted
    constructor
    · refine mem_gathered.mpr ⟨handle, still, ?_⟩
      rw [Directory.routers, ask, kept]
      exact retains.routers store key router taken
    · intro flooding
      refine mem_gathered.mpr ⟨handle, still, ?_⟩
      rw [Directory.floodfillPeers, ask, kept]
      exact retains.floodfillPeers store key router taken flooding

end Entering

variable [PartitionStore σ]

/-- How a partition that was just found for an id stands to the current ones. It is missed if and
only if clients are not kept apart and it is not main; unless somebody flipped that switch during the
search, this means that exploratory was asked for by its id. A router that a current partition
accepts is in the answers across partitions. -/
structure Enumerated (id : Option PartitionId) (before after : Directory φ σ γ)
    (handle : Handle) : Prop where
  current : handle ∈ after.current ↔ after.isolated = true ∨ handle = wellKnown .main
  missed : after.isolated = before.isolated →
    (handle ∉ after.current ↔ before.isolated = false ∧ id = some (.wellKnown .exploratory))
  routers : Retains σ → handle ∈ after.current → ∀ key router,
    (after.insert handle key (.router router)).1 = .ok () →
      router ∈ (after.insert handle key (.router router)).2.allRouters ∧
        (router.floodfill = true →
          key ∈ (after.insert handle key (.router router)).2.allFloodfillPeers)

theorem standIn_eq_exploratory {id : Option PartitionId} :
    wellKnown (id.getD (.wellKnown .main)).standIn ≠ wellKnown .main ↔
      id = some (.wellKnown .exploratory) := by
  match id with
  | none => simp [PartitionId.standIn]
  | some (.wellKnown role) => cases role <;> simp [PartitionId.standIn, wellKnown]
  | some (.client client) => simp [PartitionId.standIn]

variable [StoreFactory φ σ] [Backdoor φ σ τ υ] {busy : List Handle} {run : Run φ σ τ υ}

/-- Wherever a call can begin in a run, a partition that is found for an id is current right
afterwards, but for exploratory while clients are not kept apart. -/
theorem found_enumerated (reached : Reached busy run) {habit : Habit φ σ τ υ} {turns depth : Nat}
    {id : Option PartitionId} {call : Call τ υ}
    (asks : call = .resolve id ∨ call = .clientPartition id)
    (unstuck : (run.perform (others habit turns depth) call).2.stuck = false) {handle : Handle}
    (found : (run.perform (others habit turns depth) call).1 = .found (.ok handle)) :
    Enumerated id run (run.perform (others habit turns depth) call).2 handle := by
  have considerate : Considerate (fun _ => True) (others habit turns depth) :=
    considerate_others (fun _ _ _ _ => trivial) turns depth
  have interruptible : call.plain = false := by rcases asks with rfl | rfl <;> rfl
  obtain ⟨walk, answered⟩ :=
    considerate.perform reached.orderly reached.covered trivial interruptible unstuck
  obtain ⟨start, built, path⟩ := reached.path
  have after : Reached busy (run.perform (others habit turns depth) call).2 :=
    ⟨walk.covered reached.covered, start, built, path.trans walk.path⟩
  have named : (∃ role, handle = wellKnown role) ∨ _ :=
    answered.named (by simp [found, Response.partitions])
  have served : run.isolated = false →
      handle = wellKnown (id.getD (.wellKnown .main)).standIn := by
    intro together
    rcases asks with rfl | rfl
    · simp only [perform, resolve_together together] at found
      exact (Except.ok.inj (Response.found.inj found)).symm
    · simp only [perform, clientPartition_together together] at found
      exact (Except.ok.inj (Response.found.inj found)).symm
  generalize (run.perform (others habit turns depth) call).2 = afterwards at *
  have current : handle ∈ afterwards.current ↔
      afterwards.isolated = true ∨ handle = wellKnown .main := by
    cases apart : afterwards.isolated with
    | false => simp [mem_current_of_together apart]
    | true =>
      simp only [true_or, iff_true]
      rcases named with ⟨role, rfl⟩ | ready
      · exact mem_current_of_wellKnown apart role
      · exact mem_current_of_ready after.orderly after.anchored apart ready
  refine ⟨current, fun same => ?_, fun retains listed key router accepted =>
    listed_of_insert retains listed accepted⟩
  cases together : run.isolated with
  | true => simp [current, same.trans together]
  | false =>
    rw [current, same.trans together, served together]
    simpa using standIn_eq_exploratory

def collapsed : Run MemoryFactory MemoryStore Tuning Blinding :=
  plainRun.makeAll (others eager 0 2) [.resolve (some (.client someone)), .setIsolation false]

theorem found_enumerated_collapsed :
    (collapsed.perform (others eager 0 2)
        (.resolve (some (.wellKnown .exploratory)))).2.stuck = false ∧
      (collapsed.perform (others eager 0 2) (.resolve (some (.wellKnown .exploratory)))).1 =
        .found (.ok (wellKnown .exploratory)) ∧
      Enumerated (some (.wellKnown .exploratory)) collapsed
        (collapsed.perform (others eager 0 2) (.resolve (some (.wellKnown .exploratory)))).2
        (wellKnown .exploratory) := by
  have calm : collapsed.stuck = false := by decide +kernel
  have reached : Reached [] collapsed := built_plainRun.reached.makeAll calm
  have unstuck : (collapsed.perform (others eager 0 2)
      (.resolve (some (.wellKnown .exploratory)))).2.stuck = false := by
    rw [perform]
    exact calm
  have found : (collapsed.perform (others eager 0 2)
      (.resolve (some (.wellKnown .exploratory)))).1 =
        .found (.ok (wellKnown .exploratory)) := by
    rw [perform]
    rfl
  exact ⟨unstuck, found, found_enumerated reached (Or.inl rfl) unstuck found⟩

theorem exploratory_unlisted :
    (collapsed.resolve (others eager 0 2) (some (.wellKnown .exploratory))).1 =
        .ok (wellKnown .exploratory) ∧
      wellKnown .exploratory ∉
        (collapsed.resolve (others eager 0 2) (some (.wellKnown .exploratory))).2.current ∧
      (collapsed.insert (wellKnown .exploratory) newcomer
        (.router ⟨newcomer, [], true, 0⟩)).1 = .ok () ∧
      (collapsed.insert (wellKnown .exploratory) newcomer
        (.router ⟨newcomer, [], true, 0⟩)).2.allRouters = [] ∧
      (collapsed.insert (wellKnown .exploratory) newcomer
        (.router ⟨newcomer, [], true, 0⟩)).2.allFloodfillPeers = [] := by
  decide +kernel

end Directory

end PeerDirectory

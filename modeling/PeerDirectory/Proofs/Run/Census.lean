import PeerDirectory.Proofs.Directory.Stopping
import PeerDirectory.Proofs.Run.Move
import PeerDirectory.Proofs.Vitals

namespace PeerDirectory

namespace Directory

variable {φ γ : Type}

def startups? (directory : Directory φ MemoryStore γ) (handle : Handle) : Option Nat :=
  (directory.store? handle).map (·.startups)

def stores (directory : Directory φ MemoryStore γ) (wanted : Handle → Nat → Bool) : Nat :=
  directory.partitions.handles.countP fun handle =>
    (directory.startups? handle).any (wanted handle)

def clientStores (directory : Directory φ MemoryStore γ) : Nat :=
  directory.stores fun handle _ => handle.id.isClient

def unstartedStores (directory : Directory φ MemoryStore γ) : Nat :=
  directory.stores fun handle startups => handle.id.isClient && startups = 0

section Counting

variable {before after : Directory φ MemoryStore γ} {handle : Handle} {wanted : Handle → Nat → Bool}

theorem mem_handles_iff_startups? :
    handle ∈ before.partitions.handles ↔ before.startups? handle ≠ none := by
  rw [Registry.mem_handles, startups?, store?, ne_eq, ne_eq, Option.map_eq_none_iff,
    Option.map_eq_none_iff]
  rfl

theorem stores_congr (same : after.startups? = before.startups?) :
    after.stores wanted = before.stores wanted := by
  have listed : List.Perm after.partitions.handles before.partitions.handles := by
    refine (List.perm_ext_iff_of_nodup (Registry.nodup_handles _) (Registry.nodup_handles _)).mpr ?_
    intro handle
    rw [mem_handles_iff_startups?, mem_handles_iff_startups?, same]
  unfold stores
  rw [listed.countP_eq, same]

theorem stores_update {count : Nat}
    (changed : after.startups? = Function.update before.startups? handle (some count)) :
    after.stores wanted + ((before.startups? handle).any (wanted handle)).toNat =
      before.stores wanted + (wanted handle count).toNat := by
  -- Apart from the one that changes, the same stores are counted on both sides.
  let rest := before.partitions.handles.erase handle
  have distinct := Registry.nodup_handles before.partitions
  have listed : List.Perm after.partitions.handles (handle :: rest) := by
    refine (List.perm_ext_iff_of_nodup (Registry.nodup_handles _)
      (List.nodup_cons.mpr ⟨distinct.not_mem_erase, distinct.erase handle⟩)).mpr fun other => ?_
    rw [List.mem_cons, distinct.mem_erase_iff, mem_handles_iff_startups?,
      mem_handles_iff_startups?, changed]
    by_cases same : other = handle
    · simp [same]
    · simp [same]
  have others : rest.countP (fun other => (after.startups? other).any (wanted other)) =
      rest.countP fun other => (before.startups? other).any (wanted other) := by
    refine List.countP_congr fun other member => ?_
    have apart : other ≠ handle := (distinct.mem_erase_iff.mp member).1
    rw [changed, Function.update_of_ne apart]
  have counted : before.stores wanted =
      rest.countP (fun other => (before.startups? other).any (wanted other)) +
        ((before.startups? handle).any (wanted handle)).toNat := by
    unfold stores
    by_cases present : handle ∈ before.partitions.handles
    · rw [(List.perm_cons_erase present).countP_eq, List.countP_cons]
      cases (before.startups? handle).any (wanted handle) <;> rfl
    · have absent : before.startups? handle = none := by
        simpa [mem_handles_iff_startups?] using present
      simp [rest, List.erase_of_not_mem present, absent]
  have again : after.stores wanted =
      rest.countP (fun other => (after.startups? other).any (wanted other)) +
        (wanted handle count).toNat := by
    unfold stores
    rw [listed.countP_eq, List.countP_cons, changed, Function.update_self, Option.any_some]
    cases wanted handle count <;> rfl
  rw [again, counted, others]
  omega

variable (client : handle.id.isClient = true)
include client

theorem clientStores_build (absent : before.startups? handle = none)
    (changed : after.startups? = Function.update before.startups? handle (some 0)) :
    after.clientStores = before.clientStores + 1 ∧
      after.unstartedStores = before.unstartedStores + 1 := by
  constructor
  · simpa [clientStores, absent, client] using
      @stores_update _ _ _ _ _ (fun handle _ => handle.id.isClient) _ changed
  · simpa [unstartedStores, absent, client] using
      @stores_update _ _ _ _ _ (fun handle startups => handle.id.isClient && startups = 0) _ changed

theorem clientStores_start (idle : before.startups? handle = some 0) {count : Nat}
    (changed : after.startups? = Function.update before.startups? handle (some (count + 1))) :
    after.clientStores = before.clientStores ∧
      after.unstartedStores + 1 = before.unstartedStores := by
  constructor
  · simpa [clientStores, idle, client] using
      @stores_update _ _ _ _ _ (fun handle _ => handle.id.isClient) _ changed
  · simpa [unstartedStores, idle, client] using
      @stores_update _ _ _ _ _ (fun handle startups => handle.id.isClient && startups = 0) _ changed

end Counting

section Changes

variable (directory : Directory φ MemoryStore γ) (handle : Handle)

theorem startups?_modify {change : Partition MemoryStore → Partition MemoryStore}
    (keeps : ∀ partition, (change partition).store.startups = partition.store.startups) :
    (directory.modify handle change).startups? = directory.startups? := by
  funext other
  simp only [startups?, store?, partition?_modify]
  split
  · rename_i same
    subst same
    cases directory.partition? other with
    | none => rfl
    | some partition => exact congrArg some (keeps partition)
  · rfl

theorem startups_retire (partition : Partition MemoryStore) :
    partition.retire.store.startups = partition.store.startups := by
  unfold Partition.retire
  split
  · dsimp only
    split <;> rfl
  · rfl

theorem startups?_retireAll {handles : List Handle} (distinct : handles.Nodup) :
    (directory.retireAll handles).startups? = directory.startups? := by
  funext other
  simp only [startups?, store?, partition?_retireAll distinct]
  split
  · cases directory.partition? other with
    | none => rfl
    | some partition => exact congrArg some (startups_retire partition)
  · rfl

end Changes

section Operations

variable {directory : Directory MemoryFactory MemoryStore γ} {handle : Handle} {client : Hash}

theorem startups?_eq (directory : Directory MemoryFactory MemoryStore γ) :
    directory.startups? =
      fun handle => (directory.vitals? handle).map fun found => found.1.startups := by
  funext handle
  simp only [startups?, store?, vitals?, Option.map_map]
  rfl

theorem startups?_of_vitals? {before after : Directory MemoryFactory MemoryStore γ}
    (same : after.vitals? = before.vitals?) : after.startups? = before.startups? := by
  rw [startups?_eq, startups?_eq, same]

theorem startups?_stopStore (directory : Directory MemoryFactory MemoryStore γ) (handle : Handle) :
    (directory.stopStore handle).startups? = directory.startups? := by
  rw [startups?_eq, startups?_eq, vitals?_stopStore]
  funext other
  by_cases same : other = handle
  · subst same
    cases directory.vitals? other <;> simp
  · simp [same]

theorem startups?_act {call : Call Tuning Blinding} (plain : call.plain = true) (turns : Nat) :
    (directory.perform (.quiet turns) call).2.startups? = directory.startups? := by
  cases call with
  | resolve id => cases plain
  | clientPartition id => cases plain
  | startStore handle => cases plain
  | removeClient client =>
    have stopped (handle : Handle) :
        ((directory.unregister (.quiet turns) client handle).stop handle).2.startups? =
          directory.startups? := by
      rw [stop_eq]
      exact (startups?_modify (directory.unregister (.quiet turns) client handle) handle
        startups_retire).trans (startups?_of_vitals? (vitals?_unregister_quiet _ _ _ _))
    simp only [perform, removeClient]
    split
    · rfl
    · split
      · exact stopped _
      · exact stopped _
  | shutdown =>
    simp only [perform, shutdown_eq_retireAll]
    exact startups?_retireAll _ directory.nodup_standing
  | setIsolation enabled =>
    simp only [perform, setIsolation]
    split <;> rfl
  | findLease key =>
    simp only [perform, findLease_after]
    rfl
  | ask question => rfl
  | insert handle key entry => exact startups?_of_vitals? (vitals?_insert directory handle key entry)
  | session client opened => rfl
  | tune tuning => rfl
  | touch handle data => exact startups?_of_vitals? (vitals?_touchStore directory handle data)
  | stopStore handle => exact startups?_stopStore directory handle

theorem startups?_register (turns : Nat) :
    (directory.register (.quiet turns) client).2.startups? =
      Function.update directory.startups? (directory.partitions.next (.client client)) (some 0) := by
  rw [startups?_eq, startups?_eq, vitals?_register_quiet]
  funext other
  by_cases same : other = directory.partitions.next (.client client)
  · simp [same]
  · simp [same]

theorem startups?_launch :
    (directory.launch client).startups? =
      Function.update directory.startups? (directory.partitions.next (.client client)) (some 0) := by
  rw [launch, startups?_of_vitals? (vitals?_setLocked _ _ _), startups?_register]

theorem startups?_next (id : PartitionId) :
    directory.startups? (directory.partitions.next id) = none := by
  simp [startups?, store?, partition?, Registry.get?_next]

theorem startup_of_running {store : MemoryStore} (running : store.stopped = false) :
    store.startup.2.startups = store.startups + 1 ∧
      ∀ failure, store.startup.1 = .error failure → ∃ reason, failure = .startup store.id reason := by
  unfold MemoryStore.startup
  rw [running]
  cases store.failing with
  | true => exact ⟨rfl, fun failure failed => ⟨_, (Except.error.inj failed).symm⟩⟩
  | false => exact ⟨rfl, nofun⟩

theorem startups?_startStore {vitals : Vitals} {stage : Lifecycle}
    (present : directory.vitals? handle = some (vitals, stage)) (running : vitals.stopped = false) :
    (directory.startStore (.quiet 0) handle).2.startups? =
        Function.update directory.startups? handle (some (vitals.startups + 1)) ∧
      ∀ failure, (directory.startStore (.quiet 0) handle).1 = .error failure →
        ∃ reason, failure = .startup vitals.id reason := by
  obtain ⟨partition, here, found⟩ := Option.map_eq_some_iff.mp present
  obtain ⟨rfl, -⟩ := Prod.mk.inj found
  obtain ⟨counted, failing⟩ : _ ∧ _ := startup_of_running running
  simp only [startStore, Surroundings.quiet, store?, here, Option.map_some]
  refine ⟨?_, failing⟩
  funext other
  rw [startups?, setStore, store?, partition?_modify]
  by_cases same : other = handle
  · subst same
    simp only [if_true, here, Option.map_some, Function.update_self]
    exact congrArg some counted
  · simp [same, startups?, store?]

theorem startups?_settle (opened : directory.closed = false) :
    (directory.settle client handle).2.startups? =
      (directory.startStore (.quiet 0) handle).2.startups? := by
  rw [startups?_of_vitals? (vitals?_settle _ _ opened client)]
  exact startups?_modify _ handle fun _ => rfl

end Operations

end Directory

end PeerDirectory

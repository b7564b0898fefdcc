import PeerDirectory.Proofs.Directory.Lifecycle
import Mathlib.Data.List.Nodup

namespace PeerDirectory

variable {φ σ γ : Type}

def Partition.upright (partition : Partition σ) : Bool :=
  !partition.locked && partition.lifecycle ≠ .shutDown

def Partition.retire [PartitionStore σ] (partition : Partition σ) : Partition σ :=
  if partition.upright then
    { partition with
      store :=
        if partition.lifecycle = .ready then PartitionStore.shutdown partition.store
        else partition.store
      lifecycle := .shutDown }
  else partition

def Registry.modifyAll {α : Type} (registry : Registry α) (handles : List Handle)
    (change : α → α) : Registry α :=
  handles.foldl (fun changed handle => changed.modify handle change) registry

theorem Registry.get?_modifyAll {α : Type} {registry : Registry α} {handles : List Handle}
    {change : α → α} (distinct : handles.Nodup) (handle : Handle) :
    (registry.modifyAll handles change).get? handle =
      if handle ∈ handles then (registry.get? handle).map change else registry.get? handle := by
  induction handles generalizing registry with
  | nil => rfl
  | cons first rest ih =>
    obtain ⟨apart, distinct⟩ := List.nodup_cons.mp distinct
    rw [modifyAll, List.foldl_cons]
    refine (ih distinct).trans ?_
    rw [get?_modify]
    by_cases same : handle = first
    · subst same
      simp [apart]
    · simp [same]

def Metrics.tally (metrics : Metrics) (counted : List Metric) : Metrics :=
  counted.foldl (fun sofar metric => sofar.add metric 1) metrics

namespace Directory

def upright (directory : Directory φ σ γ) (handle : Handle) : Bool :=
  (directory.partition? handle).any (·.upright)

def held (directory : Directory φ σ γ) (handle : Handle) : Bool :=
  (directory.partition? handle).any (·.locked)

variable [PartitionStore σ] {directory : Directory φ σ γ} {handle : Handle}

theorem stop_eq :
    directory.stop handle =
      (directory.upright handle,
        { directory.modify handle (·.retire) with
          stuck := directory.stuck || directory.held handle }) := by
  have kept {partition : Partition σ} (here : directory.partition? handle = some partition)
      {change : Partition σ → Partition σ} (same : change partition = partition.retire) :
      directory.partitions.modify handle change = directory.partitions.modify handle (·.retire) := by
    apply Registry.modify_congr
    intro found stands
    obtain rfl := Option.some.inj (here.symm.trans stands)
    exact same
  have still (stays : ∀ partition, directory.partition? handle = some partition →
      partition.retire = partition) :
      directory.partitions.modify handle (·.retire) = directory.partitions :=
    Registry.modify_of_fixed stays
  cases here : directory.partition? handle with
  | none =>
    simp [stop, upright, held, here, modify, still]
  | some partition =>
    cases locked : partition.locked with
    | true =>
      have stays : partition.retire = partition := by
        simp [Partition.retire, Partition.upright, locked]
      simp [stop, upright, Partition.upright, held, here, locked, modify, wait, still, stays]
    | false =>
      cases stage : partition.lifecycle with
      | shutDown =>
        have stays : partition.retire = partition := by
          simp [Partition.retire, Partition.upright, stage]
        simp [stop, upright, Partition.upright, held, here, locked, stage, modify, still, stays]
      | creating =>
        have moved := @kept _ here (fun found => { found with lifecycle := .shutDown })
          (by simp [Partition.retire, Partition.upright, locked, stage])
        simp [stop, upright, Partition.upright, held, here, locked, stage, setLifecycle, modify,
          moved]
      | ready =>
        have moved := @kept _ here
          (fun found => { found with
            store := PartitionStore.shutdown partition.store, lifecycle := .shutDown })
          (by simp [Partition.retire, Partition.upright, locked, stage])
        simp [stop, upright, Partition.upright, held, here, locked, stage, stopStore, store?,
          setStore, setLifecycle, modify, Registry.modify_modify, moved]

def retireAll (directory : Directory φ σ γ) (handles : List Handle) : Directory φ σ γ :=
  { directory with
    partitions := directory.partitions.modifyAll handles (·.retire)
    metrics := directory.metrics.tally
      ((handles.filter directory.upright).map fun handle => .tornDown handle.id.kind)
    log := ((handles.filter directory.upright).map fun handle =>
      .partitionShutDown handle.id).reverse ++ directory.log
    stuck := directory.stuck || handles.any directory.held }

theorem stopCounted_eq (number : Nat) :
    stopCounted (number, directory) handle =
      (number + ([handle].filter directory.upright).length, directory.retireAll [handle]) := by
  cases standing : directory.upright handle <;>
    simp [stopCounted, stop_eq, standing, retireAll, Registry.modifyAll, Metrics.tally, countOne,
      count, note, modify]

theorem partition?_retireAll {handles : List Handle} (distinct : handles.Nodup) (other : Handle) :
    (directory.retireAll handles).partition? other =
      if other ∈ handles then (directory.partition? other).map (·.retire)
      else directory.partition? other :=
  Registry.get?_modifyAll distinct other

section Sequence

variable {handles : List Handle}

theorem later_retireAll (apart : handle ∉ handles) {other : Handle} (member : other ∈ handles) :
    (directory.retireAll [handle]).partition? other = directory.partition? other := by
  rw [partition?_retireAll (List.nodup_singleton handle), if_neg]
  rw [List.mem_singleton]
  rintro rfl
  exact apart member

theorem filter_upright_retireAll (apart : handle ∉ handles) :
    handles.filter (directory.retireAll [handle]).upright = handles.filter directory.upright := by
  apply List.filter_congr
  intro other member
  simp only [upright, later_retireAll apart member]

theorem any_held_retireAll (apart : handle ∉ handles) :
    handles.any (directory.retireAll [handle]).held = handles.any directory.held := by
  rw [Bool.eq_iff_iff, List.any_eq_true, List.any_eq_true]
  refine exists_congr fun other => and_congr_right fun member => ?_
  simp only [held, later_retireAll apart member]

theorem retireAll_cons (apart : handle ∉ handles) :
    (directory.retireAll [handle]).retireAll handles = directory.retireAll (handle :: handles) := by
  rw [retireAll, filter_upright_retireAll apart, any_held_retireAll apart]
  cases standing : directory.upright handle <;>
    simp [retireAll, standing, Registry.modifyAll, Metrics.tally, Bool.or_assoc]

theorem stopAll_eq (distinct : handles.Nodup) (number : Nat) :
    handles.foldl stopCounted (number, directory) =
      (number + (handles.filter directory.upright).length, directory.retireAll handles) := by
  induction handles generalizing number directory with
  | nil => simp [retireAll, Registry.modifyAll, Metrics.tally]
  | cons handle rest ih =>
    obtain ⟨apart, distinct⟩ := List.nodup_cons.mp distinct
    rw [List.foldl_cons, stopCounted_eq, ih distinct, retireAll_cons apart,
      filter_upright_retireAll apart, Nat.add_assoc, ← List.length_append, ← List.filter_append,
      List.singleton_append]

end Sequence

omit [PartitionStore σ] in
theorem nodup_standing (directory : Directory φ σ γ) : directory.standing.Nodup := by
  have roles : (WellKnown.all.map wellKnown).Nodup := by decide
  refine List.nodup_append.mpr
    ⟨roles, directory.clients.nodup_handles, fun one role other tracked same => ?_⟩
  obtain ⟨name, -, rfl⟩ := List.mem_map.mp role
  obtain ⟨client, tracked⟩ := tracked?_of_mem tracked
  cases (congrArg Handle.id same).trans (id_of_tracked? tracked)

theorem shutdown_eq_retireAll (surroundings : Surroundings φ σ γ) (directory : Directory φ σ γ) :
    directory.shutdown surroundings =
      ((publish { directory with closed := true, clients := ∅ } surroundings).retireAll
        directory.standing).note (.shutDown (directory.standing.filter
          (publish { directory with closed := true, clients := ∅ } surroundings).upright).length) := by
  have stopped : directory.standing.foldl stopCounted
      (0, publish { directory with closed := true, clients := ∅ } surroundings) = _ :=
    stopAll_eq directory.nodup_standing 0
  rw [Nat.zero_add] at stopped
  exact congrArg (fun ended : Nat × Directory φ σ γ => ended.2.note (.shutDown ended.1)) stopped

end Directory

end PeerDirectory

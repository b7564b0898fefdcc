import PeerDirectory.Proofs.Directory.State
import Mathlib.Logic.Function.Basic

/-!
The shape of a directory: how far every partition has come, which clients are tracked, and whether
the directory is closed. It decides where an operation can go, while what the stores hold decides
only what they answer. Every step of an operation is followed here by what it does to the shape.
-/

namespace PeerDirectory.Directory

variable {φ σ γ : Type}

@[simp] theorem find?_clients (directory : Directory φ σ γ) :
    directory.clients.find? = directory.tracked? := rfl

/-- The tracked clients once a client is tracked by the partition that was built for it next. -/
def joined (directory : Directory φ σ γ) (client : Hash) : Clients :=
  directory.clients.insert client (directory.partitions.next (.client client))
    (Registry.id_next ..)

@[simp] theorem find?_joined {directory : Directory φ σ γ} {client other : Hash} :
    (directory.joined client).find? other =
      if other = client then some (directory.partitions.next (.client client))
      else directory.tracked? other :=
  Clients.find?_insert

theorem erase_joined {directory : Directory φ σ γ} {client : Hash}
    (untracked : directory.tracked? client = none) :
    (directory.joined client).erase client = directory.clients :=
  Clients.erase_insert_of_untracked untracked _

theorem size_joined {directory : Directory φ σ γ} {client : Hash}
    (untracked : directory.tracked? client = none) :
    (directory.joined client).size = directory.clients.size + 1 :=
  Clients.size_insert_of_untracked untracked _

structure Shape (γ : Type) where
  stages : Handle → Option (Lifecycle × Bool)
  clients : Clients
  closed : Bool
  stuck : Bool
  outside : γ

def stage? (directory : Directory φ σ γ) (handle : Handle) : Option (Lifecycle × Bool) :=
  (directory.partition? handle).map fun partition => (partition.lifecycle, partition.locked)

def shape (directory : Directory φ σ γ) : Shape γ :=
  ⟨directory.stage?, directory.clients, directory.closed, directory.stuck, directory.outside⟩

variable (directory : Directory φ σ γ) (handle : Handle)

@[simp] theorem shape_stages : directory.shape.stages = directory.stage? := rfl

@[simp] theorem shape_clients : directory.shape.clients = directory.clients := rfl

@[simp] theorem shape_outside : directory.shape.outside = directory.outside := rfl

@[simp] theorem shape_note (event : LogEvent) : (directory.note event).shape = directory.shape :=
  rfl

@[simp] theorem shape_count (metric : Metric) (amount : Nat) :
    (directory.count metric amount).shape = directory.shape := rfl

@[simp] theorem shape_countOne (metric : Metric) :
    (directory.countOne metric).shape = directory.shape := rfl

theorem partition?_modify (other : Handle) (change : Partition σ → Partition σ) :
    (directory.modify handle change).partition? other =
      if other = handle then (directory.partition? handle).map change
      else directory.partition? other :=
  Registry.get?_modify _ _ _ _

theorem store?_modify {directory : Directory φ σ γ} {handle other : Handle}
    {change : Partition σ → Partition σ}
    (same : ∀ partition, (change partition).store = partition.store) :
    (directory.modify handle change).store? other = directory.store? other := by
  unfold store?
  rw [partition?_modify]
  split
  · rename_i here
    rw [here, Option.map_map]
    congr 1
    funext partition
    exact same partition
  · rfl

theorem shape_modify (change : Partition σ → Partition σ) :
    (directory.modify handle change).shape =
      { directory.shape with
        stages := Function.update directory.stage? handle
          ((directory.partition? handle).map fun partition =>
            ((change partition).lifecycle, (change partition).locked)) } := by
  simp only [shape, Shape.mk.injEq]
  refine ⟨?_, rfl, rfl, rfl, rfl⟩
  funext other
  rw [stage?, partition?_modify, Function.update_apply]
  by_cases same : other = handle
  · simp [same, Function.comp_def]
  · simp [same, stage?]

@[simp] theorem shape_setStore (store : σ) :
    (directory.setStore handle store).shape = directory.shape := by
  rw [setStore, shape_modify]
  simp only [shape, Shape.mk.injEq, and_self, and_true]
  exact Function.update_eq_self_iff.mpr rfl

theorem shape_setLifecycle (stage : Lifecycle) :
    (directory.setLifecycle handle stage).shape =
      { directory.shape with
        stages := Function.update directory.stage? handle
          ((directory.stage? handle).map fun current => (stage, current.2)) } := by
  rw [setLifecycle, shape_modify]
  simp [stage?, Function.comp_def]

theorem shape_setLocked (locked : Bool) :
    (directory.setLocked handle locked).shape =
      { directory.shape with
        stages := Function.update directory.stage? handle
          ((directory.stage? handle).map fun current => (current.1, locked)) } := by
  rw [setLocked, shape_modify]
  simp [stage?, Function.comp_def]

@[simp] theorem shape_setIsolation (enabled : Bool) :
    (directory.setIsolation enabled).shape = directory.shape := by
  simp only [setIsolation]
  split <;> rfl

@[simp] theorem shape_publish_quiet (turns : Nat) :
    (directory.publish (.quiet turns)).shape = directory.shape := rfl

theorem shape_track (clients : Clients) :
    shape { directory with clients } = { directory.shape with clients } := rfl

variable {directory handle}

theorem isReady_iff {locked : Bool} {stage : Lifecycle}
    (stands : directory.stage? handle = some (stage, locked)) :
    directory.isReady handle = decide (stage = .ready) := by
  obtain ⟨partition, here, found⟩ := Option.map_eq_some_iff.mp stands
  simp only [Prod.mk.injEq] at found
  simp [isReady, here, found.1]

theorem isReady_eq_false (idle : ∀ locked, directory.stage? handle ≠ some (.ready, locked)) :
    directory.isReady handle = false := by
  unfold isReady
  cases here : directory.partition? handle with
  | none => rfl
  | some partition =>
    refine decide_eq_false fun ready => idle partition.locked ?_
    simp [stage?, here, ready]

theorem isReady_eq_any_stage? (directory : Directory φ σ γ) (handle : Handle) :
    directory.isReady handle = (directory.stage? handle).any fun stage => stage.1 = .ready := by
  unfold isReady stage?
  cases directory.partition? handle <;> rfl

theorem isReady_of_stage? {after : Directory φ σ γ}
    (same : after.stage? handle = directory.stage? handle) :
    after.isReady handle = directory.isReady handle := by
  rw [isReady_eq_any_stage?, isReady_eq_any_stage?, same]

theorem stage?_next (id : PartitionId) :
    directory.stage? (directory.partitions.next id) = none := by
  simp [stage?, partition?, Registry.get?_next]

section Stores

variable [PartitionStore σ] (directory : Directory φ σ γ) (handle : Handle)

@[simp] theorem shape_insert (key : Hash) (entry : Entry) :
    (directory.insert handle key entry).2.shape = directory.shape := by
  unfold insert
  cases directory.store? handle with
  | none => rfl
  | some store => exact shape_setStore directory handle _

@[simp] theorem shape_stopStore : (directory.stopStore handle).shape = directory.shape := by
  unfold stopStore
  cases directory.store? handle with
  | none => rfl
  | some store => exact shape_setStore directory handle _

theorem shape_startStore (surroundings : Surroundings φ σ γ) :
    (directory.startStore surroundings handle).2.shape =
      (surroundings.react (.startup handle.id) directory).shape := by
  simp only [startStore]
  split
  · rfl
  · exact shape_setStore _ handle _

@[simp] theorem shape_startStore_quiet (turns : Nat) :
    (directory.startStore (.quiet turns) handle).2.shape = directory.shape :=
  shape_startStore directory handle _

omit [PartitionStore σ] in
@[simp] theorem shape_touchStore {τ υ : Type} [Backdoor φ σ τ υ] (touch : υ) :
    (directory.touchStore handle touch).2.shape = directory.shape := by
  unfold touchStore
  cases directory.store? handle with
  | none => rfl
  | some store => exact shape_setStore directory handle _

theorem shape_seedPeer (sofar : Nat × Directory φ σ γ) (peer : Hash) :
    (seedPeer handle sofar peer).2.shape = sofar.2.shape := by
  simp only [seedPeer]
  split
  · rfl
  · split <;> simp

theorem shape_seedPeers (peers : List Hash) (sofar : Nat × Directory φ σ γ) :
    (peers.foldl (seedPeer handle) sofar).2.shape = sofar.2.shape := by
  induction peers generalizing sofar with
  | nil => rfl
  | cons peer rest ih => exact (ih _).trans (shape_seedPeer handle sofar peer)

@[simp] theorem shape_seed : (directory.seed handle).shape = directory.shape := by
  simp only [seed]
  split
  · rfl
  · split
    · rfl
    · simp [shape_seedPeers]

theorem shape_findLease (key : Hash) : (directory.findLease key).2.shape = directory.shape := by
  rw [findLease_after, shape_countOne]

end Stores

section Building

variable [StoreFactory φ σ] (directory : Directory φ σ γ)

theorem partition?_build_quiet (turns : Nat) (id : PartitionId) (handle : Handle) :
    (directory.build (.quiet turns) id).2.partition? handle =
      if handle = directory.partitions.next id then
        some ⟨(StoreFactory.make directory.factory id).1, .creating, false⟩
      else directory.partition? handle :=
  Registry.get?_add _ _ _ _

theorem shape_build_quiet (turns : Nat) (id : PartitionId) :
    (directory.build (.quiet turns) id).2.shape =
      { directory.shape with
        stages := Function.update directory.stage? (directory.partitions.next id)
          (some (.creating, false)) } := by
  simp only [shape, Shape.mk.injEq]
  refine ⟨?_, rfl, rfl, rfl, rfl⟩
  funext handle
  rw [stage?, partition?_build_quiet, Function.update_apply]
  split <;> rfl

end Building

end PeerDirectory.Directory

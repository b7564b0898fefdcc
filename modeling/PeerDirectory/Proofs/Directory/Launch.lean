import PeerDirectory.Proofs.Directory.Lifecycle

namespace PeerDirectory.Directory

variable {φ σ γ : Type} [PartitionStore σ] [StoreFactory φ σ] {directory : Directory φ σ γ}
  {client : Hash} {handle : Handle}

omit [PartitionStore σ] in
theorem register_of_tracked (tracked : directory.tracked? client = some handle) (turns : Nat) :
    (directory.register (.quiet turns) client).2 =
      { directory with
        factory := (StoreFactory.make directory.factory (.client client)).2
        partitions := directory.partitions.add (.client client)
          ⟨(StoreFactory.make directory.factory (.client client)).1, .creating, false⟩
        metrics := directory.metrics.add .races 1
        log := .lostRace (.client client) :: directory.log } := by
  have still : (directory.build (.quiet turns) (.client client)).2.tracked? client = some handle :=
    tracked
  simp only [register, still]
  rfl

omit [PartitionStore σ] in
theorem launch_eq (untracked : directory.tracked? client = none) :
    directory.launch client =
      { directory with
        factory := (StoreFactory.make directory.factory (.client client)).2
        partitions := directory.partitions.add (.client client)
          ⟨(StoreFactory.make directory.factory (.client client)).1, .creating, true⟩
        clients := directory.joined client
        metrics := directory.metrics.set .clientPartitions
          (directory.joined client).size } := by
  have still : (directory.build (.quiet 0) (.client client)).2.tracked? client = none := untracked
  simp only [launch, register, still]
  simp only [setLocked, modify, build, publish, Surroundings.quiet, Registry.modify_add_next,
    joined]

theorem refuse_eq (untracked : directory.tracked? client = none)
    (closed : directory.closed = true) :
    ((directory.launch client).settle client (directory.partitions.next (.client client))).2 =
      { directory with
        factory := (StoreFactory.make directory.factory (.client client)).2
        partitions := directory.partitions.add (.client client)
          ⟨(StoreFactory.make directory.factory (.client client)).1, .shutDown, false⟩
        metrics := (directory.metrics.set .clientPartitions
          (directory.joined client).size).set .clientPartitions directory.clients.size } := by
  have tracked := tracked?_launch untracked
  have forgotten := erase_joined untracked
  have shut : (directory.launch client).closed = true :=
    (congrArg Shape.closed (shape_launch untracked)).trans closed
  rw [settle_of_closed shut]
  simp only [giveUp, unregister, tracked, if_true]
  rw [launch_eq untracked]
  simp only [publish, Surroundings.quiet, forgotten, setLifecycle, setLocked, modify,
    Registry.modify_add_next, closed]

theorem startStore_launch (untracked : directory.tracked? client = none) :
    (directory.launch client).startStore (.quiet 0) (directory.partitions.next (.client client)) =
      ((PartitionStore.startup (StoreFactory.make directory.factory (.client client)).1).1,
        (directory.launch client).setStore (directory.partitions.next (.client client))
          (PartitionStore.startup (StoreFactory.make directory.factory (.client client)).1).2) := by
  have store : (directory.launch client).store? (directory.partitions.next (.client client)) =
      some (StoreFactory.make directory.factory (.client client)).1 := by
    rw [launch_eq untracked]
    simp [store?, partition?, Registry.get?_add]
  rw [startStore_quiet_eq, operate, store]

theorem fail_eq (untracked : directory.tracked? client = none) (opened : directory.closed = false)
    {failure : Failure}
    (failed : (PartitionStore.startup (StoreFactory.make directory.factory (.client client)).1).1 =
      .error failure) :
    (directory.launch client).settle client (directory.partitions.next (.client client)) =
      (.error failure,
        { directory with
          factory := (StoreFactory.make directory.factory (.client client)).2
          partitions := directory.partitions.add (.client client)
            ⟨(PartitionStore.startup (StoreFactory.make directory.factory (.client client)).1).2,
              .shutDown, false⟩
          metrics := (directory.metrics.set .clientPartitions
            (directory.joined client).size).set .clientPartitions directory.clients.size
          log := .failedToStart (.client client) failure :: directory.log }) := by
  have forgotten := erase_joined untracked
  have launched := shape_launch untracked
  have running : (directory.launch client).closed = false :=
    (congrArg Shape.closed launched).trans opened
  have tracked (store : σ) : ((directory.launch client).setStore
      (directory.partitions.next (.client client)) store).tracked? client =
        some (directory.partitions.next (.client client)) := tracked?_launch untracked
  have refused := (congrArg Prod.fst (startStore_launch untracked)).trans failed
  rw [settle_of_error running refused, startStore_launch untracked]
  simp only [giveUp, unregister, tracked, if_true]
  rw [launch_eq untracked]
  simp only [publish, Surroundings.quiet, forgotten, setStore, setLifecycle, setLocked, modify,
    note, Registry.modify_add_next, opened]
  rfl

end PeerDirectory.Directory

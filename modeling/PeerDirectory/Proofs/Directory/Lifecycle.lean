import PeerDirectory.Proofs.Directory.Waiting

namespace PeerDirectory.Directory

variable {φ σ γ : Type}

variable {directory : Directory φ σ γ} {handle : Handle} {client : Hash}
  {stage : Lifecycle} {locked : Bool} {turns : Nat}

theorem shape_setLifecycle_of (stands : directory.stage? handle = some (stage, locked))
    (next : Lifecycle) :
    (directory.setLifecycle handle next).shape =
      { directory.shape with
        stages := Function.update directory.stage? handle (some (next, locked)) } := by
  rw [shape_setLifecycle, stands, Option.map_some]

theorem shape_setLocked_of (stands : directory.stage? handle = some (stage, locked))
    (next : Bool) :
    (directory.setLocked handle next).shape =
      { directory.shape with
        stages := Function.update directory.stage? handle (some (stage, next)) } := by
  rw [shape_setLocked, stands, Option.map_some]

theorem shape_unregister_quiet (turns : Nat)
    (tracked : directory.tracked? client = some handle) :
    (directory.unregister (.quiet turns) client handle).shape =
      { directory.shape with clients := directory.clients.erase client } := by
  rw [unregister, if_pos tracked]
  rfl

theorem stage?_unregister_quiet (handle other : Handle) (turns : Nat) :
    (directory.unregister (.quiet turns) client handle).stage? other = directory.stage? other := by
  unfold unregister
  split <;> rfl

theorem register_quiet_of_tracked [StoreFactory φ σ] (turns : Nat)
    (tracked : directory.tracked? client = some handle) :
    (directory.register (.quiet turns) client).1 = handle ∧
      (directory.register (.quiet turns) client).2.shape =
        { directory.shape with
          stages := Function.update directory.stage? (directory.partitions.next (.client client))
            (some (.creating, false)) } := by
  have still : (directory.build (.quiet turns) (.client client)).2.tracked? client = some handle :=
    tracked
  simp only [register, still]
  exact ⟨trivial, shape_build_quiet directory turns _⟩

theorem register_quiet_of_untracked [StoreFactory φ σ] (turns : Nat)
    (untracked : directory.tracked? client = none) :
    (directory.register (.quiet turns) client).1 = directory.partitions.next (.client client) ∧
      (directory.register (.quiet turns) client).2.shape =
        { directory.shape with
          stages := Function.update directory.stage? (directory.partitions.next (.client client))
            (some (.creating, false))
          clients := directory.joined client } := by
  have still : (directory.build (.quiet turns) (.client client)).2.tracked? client = none :=
    untracked
  simp only [register, still]
  refine ⟨rfl, ?_⟩
  rw [shape_publish_quiet, shape_track, shape_build_quiet]
  rfl

variable [PartitionStore σ]

theorem shape_stop (free : ∀ stage, directory.stage? handle ≠ some (stage, true)) :
    (directory.stop handle).2.shape =
      { directory.shape with
        stages := Function.update directory.stage? handle
          ((directory.stage? handle).map fun _ => (.shutDown, false)) } := by
  unfold stop
  cases here : directory.partition? handle with
  | none =>
    have absent : directory.stage? handle = none := by simp [stage?, here]
    rw [absent, Option.map_none, ← absent, Function.update_eq_self]
    rfl
  | some partition =>
    obtain ⟨store, stage, locked⟩ := partition
    have stands : directory.stage? handle = some (stage, locked) := by simp [stage?, here]
    cases locked with
    | true => exact absurd stands (free stage)
    | false =>
      simp only [stands, Option.map_some]
      cases stage with
      | shutDown =>
        rw [← stands, Function.update_eq_self]
        rfl
      | creating => exact shape_setLifecycle_of stands .shutDown
      | ready =>
        have same := shape_stopStore directory handle
        have still : (directory.stopStore handle).stage? handle = some (.ready, false) := by
          rw [← shape_stages, same, shape_stages, stands]
        simp only [Bool.false_eq_true, if_false]
        rw [shape_setLifecycle_of still, same, ← shape_stages, same, shape_stages]

theorem stop_of_unstuck (unstuck : (directory.stop handle).2.stuck = false) :
    (∀ stage, directory.stage? handle ≠ some (stage, true)) ∧
      (directory.stop handle).2.shape =
        { directory.shape with
          stages := Function.update directory.stage? handle
            ((directory.stage? handle).map fun _ => (.shutDown, false)) } := by
  have free (stage : Lifecycle) : directory.stage? handle ≠ some (stage, true) := by
    intro stands
    obtain ⟨partition, here, found⟩ := Option.map_eq_some_iff.mp stands
    have locked : partition.locked = true := congrArg Prod.snd found
    simp [stop, here, locked, wait] at unstuck
  exact ⟨free, shape_stop free⟩

theorem stop_of_down (down : directory.stage? handle = some (.shutDown, false)) :
    directory.stop handle = (false, directory) := by
  obtain ⟨partition, here, found⟩ := Option.map_eq_some_iff.mp down
  obtain ⟨stage, free⟩ := Prod.mk.inj found
  simp [stop, here, stage, free]

theorem shape_stopCounted (sofar : Nat × Directory φ σ γ) :
    (stopCounted sofar handle).2.shape = (sofar.2.stop handle).2.shape := by
  simp only [stopCounted]
  split <;> rfl

theorem stopAll_of_unstuck [StoreFactory φ σ] (handles : List Handle)
    (sofar : Nat × Directory φ σ γ)
    (unstuck : (handles.foldl stopCounted sofar).2.stuck = false) :
    (∀ handle ∈ handles, ∀ stage, sofar.2.stage? handle ≠ some (stage, true)) ∧
      (handles.foldl stopCounted sofar).2.shape =
        { sofar.2.shape with
          stages := fun handle =>
            if handle ∈ handles then (sofar.2.stage? handle).map fun _ => (.shutDown, false)
            else sofar.2.stage? handle } := by
  induction handles generalizing sofar with
  | nil => exact ⟨by simp, rfl⟩
  | cons handle rest ih =>
    rw [List.foldl_cons] at unstuck ⊢
    have first : (stopCounted sofar handle).2.stuck = false :=
      unstuck_of_later unstuck (stuck_stopAll rest)
    rw [stuck_eq_of_shape (shape_stopCounted sofar)] at first
    obtain ⟨idle, stopped⟩ := stop_of_unstuck first
    obtain ⟨idleRest, stoppedRest⟩ := ih _ unstuck
    have after : (stopCounted sofar handle).2.stage? =
        Function.update sofar.2.stage? handle
          ((sofar.2.stage? handle).map fun _ => (.shutDown, false)) := by
      rw [← shape_stages, shape_stopCounted, stopped]
    constructor
    · intro other member stage locked
      by_cases same : other = handle
      · exact idle stage (same ▸ locked)
      · apply idleRest other ((List.mem_cons.mp member).resolve_left same) stage
        simpa [after, same] using locked
    · rw [stoppedRest, after, shape_stopCounted, stopped]
      simp only [Shape.mk.injEq, and_self, and_true]
      funext other
      by_cases same : other = handle
      · by_cases again : handle ∈ rest <;>
          simp [same, again, Function.comp_def]
      · simp [same]

theorem removeClient_of_unstuck (tracked : directory.tracked? client = some handle)
    (unstuck : (directory.removeClient (.quiet turns) client).2.stuck = false) :
    (∀ stage, directory.stage? handle ≠ some (stage, true)) ∧
      (directory.removeClient (.quiet turns) client).2.shape =
        { directory.shape with
          stages := Function.update directory.stage? handle
            ((directory.stage? handle).map fun _ => (.shutDown, false))
          clients := directory.clients.erase client } := by
  have struck := shape_unregister_quiet turns tracked
  have stages : (directory.unregister (.quiet turns) client handle).stage? = directory.stage? := by
    rw [← shape_stages, struck]
    rfl
  have same : (directory.removeClient (.quiet turns) client).2.shape =
      ((directory.unregister (.quiet turns) client handle).stop handle).2.shape := by
    simp only [removeClient, tracked]
    split <;> rfl
  rw [stuck_eq_of_shape same] at unstuck
  obtain ⟨idle, stopped⟩ := stop_of_unstuck unstuck
  rw [stages] at idle stopped
  refine ⟨idle, ?_⟩
  rw [same, stopped, struck]

def standing (directory : Directory φ σ γ) : List Handle :=
  WellKnown.all.map wellKnown ++ directory.clients.handles

omit [PartitionStore σ] in
theorem mem_standing_of_tracked (tracked : directory.tracked? client = some handle) :
    handle ∈ directory.standing :=
  List.mem_append_right _ (Clients.mem_handles.mpr ⟨client, tracked⟩)

theorem shutdown_of_unstuck [StoreFactory φ σ]
    (unstuck : (directory.shutdown (.quiet turns)).stuck = false) :
    (∀ handle ∈ directory.standing, ∀ stage, directory.stage? handle ≠ some (stage, true)) ∧
      (directory.shutdown (.quiet turns)).shape =
        { directory.shape with
          stages := fun handle =>
            if handle ∈ directory.standing then
              (directory.stage? handle).map fun _ => (.shutDown, false)
            else directory.stage? handle
          clients := ∅
          closed := true } :=
  stopAll_of_unstuck directory.standing _ unstuck

def launch [StoreFactory φ σ] (directory : Directory φ σ γ) (client : Hash) : Directory φ σ γ :=
  (directory.register (.quiet 0) client).2.setLocked (directory.partitions.next (.client client))
    true

def settle (directory : Directory φ σ γ) (client : Hash) (handle : Handle) :
    Except Failure Bool × Directory φ σ γ :=
  let brought := directory.bringUp (.quiet 0) client handle
  (brought.1, brought.2.setLocked handle false)

theorem settle_of_closed (closed : directory.closed = true) :
    directory.settle client handle =
      (.error .closed, (directory.giveUp (.quiet 0) client handle).setLocked handle false) := by
  simp only [settle, bringUp_eq, closed, if_true]

theorem settle_of_error (opened : directory.closed = false) {failure : Failure}
    (failed : (directory.startStore (.quiet 0) handle).1 = .error failure) :
    directory.settle client handle =
      (.error failure,
        (((directory.startStore (.quiet 0) handle).2.giveUp (.quiet 0) client handle).note
          (.failedToStart handle.id failure)).setLocked handle false) := by
  simp only [settle, bringUp_eq, opened, failed, Bool.false_eq_true, if_false]

theorem settle_of_ok (opened : directory.closed = false)
    (started : (directory.startStore (.quiet 0) handle).1 = .ok ()) :
    directory.settle client handle =
      (.ok true,
        ((directory.startStore (.quiet 0) handle).2.goLive handle).setLocked handle false) := by
  simp only [settle, bringUp_eq, opened, started, Bool.false_eq_true, if_false]

omit [PartitionStore σ] in
theorem shape_launch [StoreFactory φ σ] (untracked : directory.tracked? client = none) :
    (directory.launch client).shape =
      { directory.shape with
        stages := Function.update directory.stage? (directory.partitions.next (.client client))
          (some (.creating, true))
        clients := directory.joined client } := by
  obtain ⟨-, registered⟩ := register_quiet_of_untracked 0 untracked
  have stages := congrArg Shape.stages registered
  have stands : (directory.register (.quiet 0) client).2.stage?
      (directory.partitions.next (.client client)) = some (.creating, false) := by
    simpa using congrFun stages (directory.partitions.next (.client client))
  rw [launch, shape_setLocked_of stands, registered]
  simp only [shape_stages] at stages
  simp only [stages, Function.update_idem]

omit [PartitionStore σ] in
theorem stage?_launch [StoreFactory φ σ] (untracked : directory.tracked? client = none) :
    (directory.launch client).stage? (directory.partitions.next (.client client)) =
      some (.creating, true) := by
  rw [← shape_stages, shape_launch untracked]
  simp

omit [PartitionStore σ] in
theorem tracked?_launch [StoreFactory φ σ] (untracked : directory.tracked? client = none) :
    (directory.launch client).tracked? client =
      some (directory.partitions.next (.client client)) := by
  rw [← find?_clients, ← shape_clients, shape_launch untracked, find?_joined, if_pos rfl]

omit [PartitionStore σ] in
theorem shape_release (stands : directory.stage? handle = some (stage, true)) (next : Lifecycle) :
    ((directory.setLifecycle handle next).setLocked handle false).shape =
      { directory.shape with
        stages := Function.update directory.stage? handle (some (next, false)) } := by
  have moved := shape_setLifecycle_of stands next
  have stages := congrArg Shape.stages moved
  simp only [shape_stages] at stages
  have still : (directory.setLifecycle handle next).stage? handle = some (next, true) := by
    simp [stages]
  rw [shape_setLocked_of still, moved, stages, Function.update_idem]

omit [PartitionStore σ] in
theorem shape_strike {stopping : Directory φ σ γ} (same : stopping.shape = directory.shape)
    (stands : directory.stage? handle = some (stage, true))
    (tracked : directory.tracked? client = some handle) :
    ((stopping.giveUp (.quiet turns) client handle).setLocked handle false).shape =
      { directory.shape with
        stages := Function.update directory.stage? handle (some (.shutDown, false))
        clients := directory.clients.erase client } := by
  have clients : stopping.clients = directory.clients := congrArg Shape.clients same
  have stages : stopping.stage? = directory.stage? := congrArg Shape.stages same
  have still : stopping.tracked? client = some handle := by
    rw [← find?_clients, clients, find?_clients, tracked]
  have struck := shape_unregister_quiet turns still
  have stagesLeft : (stopping.unregister (.quiet turns) client handle).stage? =
      directory.stage? := (congrArg Shape.stages struck).trans stages
  have standing : (stopping.unregister (.quiet turns) client handle).stage? handle =
      some (stage, true) := by rw [stagesLeft, stands]
  rw [giveUp, shape_release standing, struck, stagesLeft, clients, same]

theorem settle_cases (stands : directory.stage? handle = some (stage, true))
    (tracked : directory.tracked? client = some handle) :
    ((directory.settle client handle).1 = .ok true ∧ directory.closed = false ∧
      (directory.settle client handle).2.shape =
        { directory.shape with
          stages := Function.update directory.stage? handle (some (.ready, false)) }) ∨
    ((∃ failure, (directory.settle client handle).1 = .error failure ∧
        (directory.closed = true → failure = .closed)) ∧
      (directory.settle client handle).2.shape =
        { directory.shape with
          stages := Function.update directory.stage? handle (some (.shutDown, false))
          clients := directory.clients.erase client }) := by
  have started := shape_startStore_quiet directory handle 0
  cases closed : directory.closed with
  | true =>
    right
    rw [settle_of_closed closed]
    exact ⟨⟨.closed, rfl, fun _ => rfl⟩, shape_strike rfl stands tracked⟩
  | false =>
    cases result : (directory.startStore (.quiet 0) handle).1 with
    | error failure =>
      right
      rw [settle_of_error closed result]
      exact ⟨⟨failure, rfl, fun impossible => by cases impossible⟩,
        shape_strike started stands tracked⟩
    | ok _ =>
      left
      rw [settle_of_ok closed result]
      have seeded : ((directory.startStore (.quiet 0) handle).2.seed handle).shape =
          directory.shape := (shape_seed _ handle).trans started
      have stages : ((directory.startStore (.quiet 0) handle).2.seed handle).stage? =
          directory.stage? := congrArg Shape.stages seeded
      have still : ((directory.startStore (.quiet 0) handle).2.seed handle).stage? handle =
          some (stage, true) := by rw [stages, stands]
      refine ⟨rfl, rfl, ?_⟩
      have released := shape_release still .ready
      rw [seeded, stages] at released
      exact released

theorem settle_keeps (stands : directory.stage? handle = some (stage, true))
    (tracked : directory.tracked? client = some handle) :
    (directory.settle client handle).2.outside = directory.outside ∧
      (directory.settle client handle).2.closed = directory.closed ∧
      (directory.settle client handle).2.stuck = directory.stuck := by
  rcases settle_cases stands tracked with ⟨-, -, settled⟩ | ⟨-, settled⟩
  · exact ⟨congrArg Shape.outside settled, congrArg Shape.closed settled,
      congrArg Shape.stuck settled⟩
  · exact ⟨congrArg Shape.outside settled, congrArg Shape.closed settled,
      congrArg Shape.stuck settled⟩

theorem refuse_of_closed [StoreFactory φ σ] (untracked : directory.tracked? client = none)
    (closed : directory.closed = true) :
    ((directory.launch client).settle client (directory.partitions.next (.client client))).1 =
        .error .closed ∧
      ((directory.launch client).settle client
          (directory.partitions.next (.client client))).2.shape =
        { directory.shape with
          stages := Function.update directory.stage? (directory.partitions.next (.client client))
            (some (.shutDown, false)) } := by
  have launched := shape_launch untracked
  have stages : (directory.launch client).stage? = Function.update directory.stage?
      (directory.partitions.next (.client client)) (some (.creating, true)) :=
    congrArg Shape.stages launched
  have clients : (directory.launch client).clients = directory.joined client :=
    congrArg Shape.clients launched
  have shut : (directory.launch client).closed = true :=
    (congrArg Shape.closed launched).trans closed
  rcases settle_cases (stage?_launch untracked) (tracked?_launch untracked) with
    ⟨-, opened, -⟩ | ⟨⟨failure, result, known⟩, settled⟩
  · exact absurd (shut.symm.trans opened) (by decide)
  · refine ⟨by rw [result, known shut], ?_⟩
    rw [settled, stages, clients, launched, Function.update_idem, erase_joined untracked]
    rfl

end PeerDirectory.Directory

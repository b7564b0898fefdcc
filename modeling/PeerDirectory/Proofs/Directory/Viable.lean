import PeerDirectory.Proofs.Run.Gauge

namespace PeerDirectory.Directory

variable {φ σ γ τ υ : Type}

structure Viable (holds : γ → Prop) (shape : Shape γ) : Prop where
  tracked : ∀ {client handle}, shape.clients.find? client = some handle →
    ∃ stage locked, shape.stages handle = some (stage, locked) ∧ stage ≠ .shutDown
  outside : holds shape.outside

section Shapes

variable {holds : γ → Prop} {shape : Shape γ} {client : Hash} {handle : Handle}

theorem viable_of_empty (nobody : shape.clients = ∅) (held : holds shape.outside) :
    Viable holds shape := by
  refine ⟨fun {client handle} tracked => ?_, held⟩
  rw [nobody, Clients.find?_empty] at tracked
  cases tracked

namespace Viable

theorem update (viable : Viable holds shape) {change : Lifecycle × Bool → Lifecycle × Bool}
    (spares : (∀ stage, stage.1 ≠ .shutDown → (change stage).1 ≠ .shutDown) ∨
      ∀ client, shape.clients.find? client ≠ some handle) :
    Viable holds { shape with
      stages := Function.update shape.stages handle ((shape.stages handle).map change) } := by
  refine ⟨fun {client other} tracked => ?_, viable.outside⟩
  obtain ⟨stage, locked, stands, up⟩ := viable.tracked tracked
  by_cases same : other = handle
  · subst same
    have keeps := spares.resolve_right fun untracked => untracked client tracked
    exact ⟨(change (stage, locked)).1, (change (stage, locked)).2, by simp [stands],
      keeps _ up⟩
  · exact ⟨stage, locked, by simpa [same] using stands, up⟩

theorem strike (viable : Viable holds shape) (client : Hash) :
    Viable holds { shape with clients := shape.clients.erase client } := by
  refine ⟨fun {other handle} tracked => ?_, viable.outside⟩
  have still : other ≠ client ∧ shape.clients.find? other = some handle := by
    simpa [Clients.find?_erase] using tracked
  exact viable.tracked still.2

theorem add (viable : Viable holds shape) (fresh : shape.stages handle = none) (locked : Bool) :
    Viable holds { shape with
      stages := Function.update shape.stages handle (some (.creating, locked)) } := by
  refine ⟨fun {client other} tracked => ?_, viable.outside⟩
  obtain ⟨stage, held, stands, up⟩ := viable.tracked tracked
  have apart : other ≠ handle := by
    rintro rfl
    cases fresh.symm.trans stands
  exact ⟨stage, held, by simpa [apart] using stands, up⟩

theorem enter (viable : Viable holds shape) {stage : Lifecycle} {locked : Bool}
    (own : handle.id = .client client) (stands : shape.stages handle = some (stage, locked))
    (up : stage ≠ .shutDown) :
    Viable holds { shape with clients := shape.clients.insert client handle own } := by
  refine ⟨fun {other handle} tracked => ?_, viable.outside⟩
  rw [Clients.find?_insert] at tracked
  split at tracked
  · obtain rfl := Option.some.inj tracked
    exact ⟨stage, locked, stands, up⟩
  · exact viable.tracked tracked

end Viable

end Shapes

structure Sustaining (holds : γ → Prop) (surroundings : Surroundings φ σ γ) : Prop where
  ungauged : surroundings.Ungauged
  turns : ∃ looks, surroundings.turns = looks + 1
  react : ∀ moment {directory}, Viable holds directory.shape →
    Viable holds (surroundings.react moment directory).shape

variable {holds : γ → Prop} {surroundings : Surroundings φ σ γ} {directory : Directory φ σ γ}
  {client : Hash} {handle : Handle}

theorem viable_setLifecycle (viable : Viable holds directory.shape) (handle : Handle)
    {stage : Lifecycle}
    (spares : stage ≠ .shutDown ∨ ∀ client, directory.tracked? client ≠ some handle) :
    Viable holds (directory.setLifecycle handle stage).shape := by
  rw [shape_setLifecycle]
  exact viable.update (spares.imp_left fun up _ _ => up)

theorem viable_setLocked (viable : Viable holds directory.shape) (handle : Handle)
    (locked : Bool) :
    Viable holds (directory.setLocked handle locked).shape := by
  rw [shape_setLocked]
  exact viable.update (Or.inl fun _ up => up)

theorem viable_unregister (ungauged : surroundings.Ungauged)
    (viable : Viable holds directory.shape) :
    Viable holds (directory.unregister surroundings client handle).shape := by
  rw [unregister_eq ungauged]
  by_cases tracked : directory.tracked? client = some handle
  · rw [shape_unregister_quiet 0 tracked]
    exact viable.strike client
  · rwa [unregister, if_neg tracked]

theorem untracked_unregister (ungauged : surroundings.Ungauged) (named : handle.id = .client client)
    (other : Hash) :
    (directory.unregister surroundings client handle).tracked? other ≠ some handle := by
  rw [unregister_eq ungauged]
  intro tracked
  obtain rfl : client = other :=
    PartitionId.client.inj (named.symm.trans (id_of_tracked? tracked))
  by_cases before : directory.tracked? client = some handle
  · have clients := congrArg Shape.clients (shape_unregister_quiet 0 before)
    rw [← find?_clients, ← shape_clients, clients, Clients.find?_erase, if_pos rfl] at tracked
    cases tracked
  · rw [unregister, if_neg before] at tracked
    exact before tracked

section Building

variable [StoreFactory φ σ]

theorem viable_register (sustaining : Sustaining holds surroundings)
    (viable : Viable holds directory.shape) :
    Viable holds (directory.register surroundings client).2.shape ∧
      (directory.register surroundings client).2.tracked? client =
        some (directory.register surroundings client).1 := by
  rw [register_eq sustaining.ungauged]
  have reached := sustaining.react (.create (.client client)) viable
  generalize surroundings.react (.create (.client client)) directory = first at reached ⊢
  cases tracked : first.tracked? client with
  | some handle =>
    obtain ⟨named, shape⟩ := register_quiet_of_tracked 0 tracked
    constructor
    · rw [shape]
      exact reached.add (stage?_next _) false
    · rw [← find?_clients, ← shape_clients, shape, named]
      exact tracked
  | none =>
    obtain ⟨named, shape⟩ := register_quiet_of_untracked 0 tracked
    constructor
    · rw [shape]
      exact (reached.add (stage?_next _) false).enter (Registry.id_next ..)
        (Function.update_self ..) (by decide)
    · rw [← find?_clients, ← shape_clients, shape, named, find?_joined, if_pos rfl]

theorem viable_seek (sustaining : Sustaining holds surroundings)
    (viable : Viable holds directory.shape) (client : Hash) :
    Viable holds (directory.seek surroundings client).2.shape ∧
      (directory.seek surroundings client).2.tracked? client =
        some (directory.seek surroundings client).1 := by
  unfold seek
  cases tracked : directory.tracked? client with
  | some handle => exact ⟨viable, tracked⟩
  | none => exact viable_register sustaining viable

end Building

section Stores

variable [PartitionStore σ]

theorem viable_startStore (sustaining : Sustaining holds surroundings)
    (viable : Viable holds directory.shape) (handle : Handle) :
    Viable holds (directory.startStore surroundings handle).2.shape := by
  rw [shape_startStore]
  exact sustaining.react _ viable

-- A partition is struck off before it is given up.
omit [PartitionStore σ] in
theorem viable_giveUp (sustaining : Sustaining holds surroundings)
    (viable : Viable holds directory.shape) (named : handle.id = .client client) :
    Viable holds (directory.giveUp surroundings client handle).shape :=
  viable_setLifecycle (viable_unregister sustaining.ungauged viable) handle
    (Or.inr (untracked_unregister sustaining.ungauged named))

theorem viable_goLive (viable : Viable holds directory.shape) :
    Viable holds (directory.goLive handle).shape := by
  have seeded : Viable holds (directory.seed handle).shape := by rwa [shape_seed]
  simpa [goLive] using viable_setLifecycle seeded handle
    (Or.inl (by decide : Lifecycle.ready ≠ .shutDown))

theorem viable_bringUp (sustaining : Sustaining holds surroundings)
    (viable : Viable holds directory.shape) (named : handle.id = .client client) :
    Viable holds (directory.bringUp surroundings client handle).2.shape := by
  have started := viable_startStore sustaining viable handle
  simp only [bringUp_eq]
  split
  · exact viable_giveUp sustaining viable named
  · split
    · simpa using viable_giveUp sustaining started named
    · exact viable_goLive started

theorem viable_startClient (sustaining : Sustaining holds surroundings)
    (viable : Viable holds directory.shape) (named : handle.id = .client client) :
    Viable holds (directory.startClient surroundings client handle).2.shape := by
  unfold startClient
  cases directory.partition? handle with
  | none => exact viable
  | some partition =>
    dsimp only
    split
    · exact ⟨viable.tracked, viable.outside⟩
    · cases partition.lifecycle with
      | ready => exact viable
      | shutDown => exact viable
      | creating =>
        have held := viable_setLocked viable handle true
        exact viable_setLocked (viable_bringUp sustaining held named) handle false

theorem startClient_ne_false (surroundings : Surroundings φ σ γ)
    (viable : Viable holds directory.shape)
    (tracked : directory.tracked? client = some handle) :
    (directory.startClient surroundings client handle).1 ≠ .ok false := by
  obtain ⟨stage, locked, stands, up⟩ := viable.tracked tracked
  obtain ⟨partition, here, found⟩ := Option.map_eq_some_iff.mp stands
  obtain ⟨rfl, rfl⟩ := Prod.mk.inj found
  simp only [startClient, here]
  split
  · simp
  · cases stage : partition.lifecycle with
    | ready => simp
    | shutDown => exact absurd stage up
    | creating => exact bringUp_ne_false

theorem viable_stop (viable : Viable holds directory.shape)
    (untracked : ∀ client, directory.tracked? client ≠ some handle) :
    Viable holds (directory.stop handle).2.shape := by
  have retired {stopped : Directory φ σ γ} (same : stopped.shape = directory.shape) :
      Viable holds (stopped.setLifecycle handle .shutDown).shape := by
    refine viable_setLifecycle (by rwa [same]) handle (Or.inr fun client => ?_)
    rw [← find?_clients, ← shape_clients, same]
    exact untracked client
  unfold stop
  cases directory.partition? handle with
  | none => exact viable
  | some partition =>
    dsimp only
    split
    · exact ⟨viable.tracked, viable.outside⟩
    · cases partition.lifecycle with
      | shutDown => exact viable
      | creating => exact retired rfl
      | ready => exact retired (shape_stopStore directory handle)

theorem viable_removeClient (ungauged : surroundings.Ungauged)
    (viable : Viable holds directory.shape) :
    Viable holds (directory.removeClient surroundings client).2.shape := by
  unfold removeClient
  cases tracked : directory.tracked? client with
  | none => exact viable
  | some handle =>
    have stopped := viable_stop (viable_unregister ungauged viable)
      (untracked_unregister ungauged (id_of_tracked? tracked))
    dsimp only
    split
    · exact stopped
    · exact stopped

theorem viable_shutdown [StoreFactory φ σ] (ungauged : surroundings.Ungauged)
    (viable : Viable holds directory.shape) :
    Viable holds (directory.shutdown surroundings).shape := by
  have stopped := dial_stopAll directory.standing
    (0, publish { directory with closed := true, clients := ∅ } (.quiet 0))
  rw [shutdown_eq ungauged]
  exact viable_of_empty (congrArg Dial.clients stopped) 
    (kept_shutdown (keeping_outside 0 holds) viable.outside)

end Stores

variable [PartitionStore σ] [StoreFactory φ σ]

/-- A search for a client's partition that never looks again. -/
def lookOnce (directory : Directory φ σ γ) (surroundings : Surroundings φ σ γ) (client : Hash) :
    Except Failure Handle × Directory φ σ γ :=
  if directory.closed then (.error .closed, directory)
  else
    let found := directory.seek surroundings client
    if found.2.isReady found.1 then (.ok found.1, found.2)
    else
      let started := found.2.startClient surroundings client found.1
      (started.1.map fun _ => found.1, started.2)

theorem clientWithin_eq_lookOnce (sustaining : Sustaining holds surroundings)
    (viable : Viable holds directory.shape) (looks : Nat) :
    clientWithin surroundings client (looks + 1) directory =
      directory.lookOnce surroundings client := by
  obtain ⟨sought, tracked⟩ := viable_seek sustaining viable client
  have progress := startClient_ne_false surroundings sought tracked
  rw [clientWithin_succ, lookOnce]
  simp only [attend]
  split
  · rfl
  · split
    · rfl
    · split
      · rename_i failed
        rw [failed]
        rfl
      · rename_i started
        rw [started]
        rfl
      · rename_i torn
        exact absurd torn progress

theorem viable_lookOnce (sustaining : Sustaining holds surroundings)
    (viable : Viable holds directory.shape) :
    Viable holds (directory.lookOnce surroundings client).2.shape := by
  obtain ⟨sought, -⟩ := viable_seek sustaining viable client
  simp only [lookOnce]
  split
  · exact viable
  · split
    · exact sought
    · exact viable_startClient sustaining sought seek_id

theorem viable_resolve (sustaining : Sustaining holds surroundings)
    (viable : Viable holds directory.shape) (id : Option PartitionId) :
    Viable holds (directory.resolve surroundings id).2.shape := by
  match id with
  | none => exact viable
  | some (.wellKnown role) => exact viable
  | some (.client client) =>
    simp only [resolve]
    split
    · obtain ⟨looks, turns⟩ := sustaining.turns
      rw [Directory.client, turns, clientWithin_eq_lookOnce sustaining viable]
      exact viable_lookOnce sustaining viable
    · exact viable

theorem viable_perform [Backdoor φ σ τ υ] (sustaining : Sustaining holds surroundings)
    (viable : Viable holds directory.shape) (call : Call τ υ) :
    Viable holds (directory.perform surroundings call).2.shape := by
  cases call with
  | resolve id => exact viable_resolve sustaining viable id
  | clientPartition id =>
    cases id with
    | none => exact viable
    | some id => exact viable_resolve sustaining viable (some id)
  | removeClient client => exact viable_removeClient sustaining.ungauged viable
  | setIsolation enabled => simpa [perform] using viable
  | shutdown => exact viable_shutdown sustaining.ungauged viable
  | findLease key => simpa [perform, shape_findLease] using viable
  | ask question => exact viable
  | insert handle key entry => simpa [perform] using viable
  | session client opened => exact ⟨viable.tracked, viable.outside⟩
  | tune tuning => exact ⟨viable.tracked, viable.outside⟩
  | touch handle touch => simpa [perform] using viable
  | startStore handle => exact viable_startStore sustaining viable handle
  | stopStore handle => simpa [perform] using viable

end PeerDirectory.Directory

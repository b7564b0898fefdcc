import PeerDirectory.Proofs.Run.Walk

namespace PeerDirectory

theorem Metrics.getElem?_add (metrics : Metrics) (metric other : Metric) (amount : Nat) :
    (metrics.add metric amount)[other]? =
      if other = metric then some (metrics.getD metric 0 + amount) else metrics[other]? := by
  unfold add
  rw [Std.ExtTreeMap.getElem?_insert]
  by_cases same : other = metric
  · simp [same]
  · simp [same, Ne.symm same]

theorem Metrics.getD_add (metrics : Metrics) (metric other : Metric) (amount : Nat) :
    (metrics.add metric amount).getD other 0 =
      metrics.getD other 0 + if other = metric then amount else 0 := by
  unfold add
  rw [Std.ExtTreeMap.getD_insert]
  by_cases same : metric = other
  · simp [same]
  · simp [same, Ne.symm same]

theorem Metrics.getElem?_set (metrics : Metrics) (metric other : Metric) (value : Nat) :
    (metrics.set metric value)[other]? =
      if other = metric then some value else metrics[other]? := by
  unfold set
  rw [Std.ExtTreeMap.getElem?_insert]
  by_cases same : other = metric
  · simp [same]
  · simp [same, Ne.symm same]

theorem Metrics.set_set (metrics : Metrics) (metric : Metric) (first second : Nat) :
    (metrics.set metric first).set metric second = metrics.set metric second := by
  ext1 other
  simp only [getElem?_set]
  split <;> rfl

namespace Directory

open Std

variable {φ σ γ τ υ : Type}

structure Dial where
  reading : Option Nat
  clients : Clients
  closed : Bool

def dial (directory : Directory φ σ γ) : Dial :=
  ⟨directory.metrics[Metric.clientPartitions]?, directory.clients, directory.closed⟩

structure Gauged (dial : Dial) : Prop where
  reading : ∀ {value}, dial.reading = some value → value = dial.clients.size
  closed : dial.closed = true → dial.reading ≠ none

theorem Gauged.set (clients : Clients) (closed : Bool) :
    Gauged ⟨some clients.size, clients, closed⟩ :=
  ⟨fun same => (Option.some.inj same).symm, nofun⟩

section Changes

variable (directory : Directory φ σ γ) (handle : Handle)

@[simp] theorem dial_note (event : LogEvent) : (directory.note event).dial = directory.dial := rfl

@[simp] theorem dial_setStore (store : σ) :
    (directory.setStore handle store).dial = directory.dial := rfl

@[simp] theorem dial_setLifecycle (stage : Lifecycle) :
    (directory.setLifecycle handle stage).dial = directory.dial := rfl

@[simp] theorem dial_setLocked (locked : Bool) :
    (directory.setLocked handle locked).dial = directory.dial := rfl

@[simp] theorem dial_count {metric : Metric} (other : metric ≠ .clientPartitions) (amount : Nat) :
    (directory.count metric amount).dial = directory.dial := by
  simp only [count, dial, Metrics.getElem?_add, Ne.symm other, if_false]

@[simp] theorem dial_countOne {metric : Metric} (other : metric ≠ .clientPartitions) :
    (directory.countOne metric).dial = directory.dial :=
  directory.dial_count other 1

@[simp] theorem dial_publish_quiet (turns : Nat) :
    (directory.publish (.quiet turns)).dial =
      ⟨some directory.clients.size, directory.clients, directory.closed⟩ := by
  simp only [publish, Surroundings.quiet, dial, Metrics.getElem?_set, if_true]

theorem dial_unregister_cases (client : Hash) (turns : Nat) :
    (directory.unregister (.quiet turns) client handle).dial = directory.dial ∨
      (directory.unregister (.quiet turns) client handle).dial =
        ⟨some (directory.clients.erase client).size, directory.clients.erase client,
          directory.closed⟩ := by
  unfold unregister
  split
  · exact Or.inr (dial_publish_quiet _ turns)
  · exact Or.inl rfl

variable [PartitionStore σ]

@[simp] theorem dial_insert (key : Hash) (entry : Entry) :
    (directory.insert handle key entry).2.dial = directory.dial := by
  unfold insert
  split <;> rfl

@[simp] theorem dial_stopStore : (directory.stopStore handle).dial = directory.dial := by
  unfold stopStore
  split <;> rfl

@[simp] theorem dial_startStore_quiet (turns : Nat) :
    (directory.startStore (.quiet turns) handle).2.dial = directory.dial := by
  simp only [startStore]
  split <;> rfl

@[simp] theorem dial_seedPeers (peers : List Hash) (sofar : Nat × Directory φ σ γ) :
    (peers.foldl (seedPeer handle) sofar).2.dial = sofar.2.dial := by
  induction peers generalizing sofar with
  | nil => rfl
  | cons peer rest ih =>
    have first : (seedPeer handle sofar peer).2.dial = sofar.2.dial := by
      simp only [seedPeer]
      split
      · rfl
      · split <;> exact dial_insert sofar.2 handle _ _
    exact (ih _).trans first

@[simp] theorem dial_seed : (directory.seed handle).dial = directory.dial := by
  simp only [seed]
  split
  · rfl
  · split <;> simp

@[simp] theorem dial_stop : (directory.stop handle).2.dial = directory.dial := by
  unfold stop
  cases directory.partition? handle with
  | none => rfl
  | some partition =>
    dsimp only
    split
    · rfl
    · cases partition.lifecycle with
      | shutDown => rfl
      | creating => rfl
      | ready => exact dial_stopStore directory handle

@[simp] theorem dial_stopAll (handles : List Handle) (sofar : Nat × Directory φ σ γ) :
    (handles.foldl stopCounted sofar).2.dial = sofar.2.dial := by
  induction handles generalizing sofar with
  | nil => rfl
  | cons handle rest ih =>
    have first : (stopCounted sofar handle).2.dial = sofar.2.dial := by
      simp only [stopCounted]
      split <;> simp
    exact (ih _).trans first

end Changes

section Moves

variable {directory : Directory φ σ γ} {handle : Handle} {client : Hash} [PartitionStore σ]

omit [PartitionStore σ] in
theorem gauged_unregister (gauged : Gauged directory.dial) (client : Hash) (handle : Handle) :
    Gauged (directory.unregister (.quiet 0) client handle).dial := by
  rcases directory.dial_unregister_cases handle client 0 with same | set
  · rwa [same]
  · rw [set]
    exact .set _ _

theorem gauged_removeClient (gauged : Gauged directory.dial) :
    Gauged (directory.removeClient (.quiet 0) client).2.dial := by
  unfold removeClient
  cases directory.tracked? client with
  | none => exact gauged
  | some handle =>
    have struck := gauged_unregister gauged client handle
    dsimp only
    split <;> simpa using struck

theorem gauged_shutdown : Gauged (directory.shutdown (.quiet 0)).dial := by
  have closed := dial_publish_quiet { directory with closed := true, clients := ∅ } 0
  have stopped := dial_stopAll directory.standing
    (0, publish { directory with closed := true, clients := ∅ } (.quiet 0))
  have dial : (directory.shutdown (.quiet 0)).dial = _ := stopped.trans closed
  rw [dial]
  exact .set _ _

theorem gauged_act [StoreFactory φ σ] [Backdoor φ σ τ υ] {call : Call τ υ}
    (gauged : Gauged directory.dial) (plain : call.plain = true) :
    Gauged (directory.perform (.quiet 0) call).2.dial := by
  cases call with
  | resolve id => cases plain
  | clientPartition id => cases plain
  | startStore handle => cases plain
  | removeClient client => exact gauged_removeClient gauged
  | shutdown => exact gauged_shutdown
  | setIsolation enabled =>
    simp only [perform, setIsolation]
    split <;> exact gauged
  | findLease key =>
    simp only [perform, findLease_after]
    simpa using gauged
  | ask question => exact gauged
  | insert handle key entry => simpa only [perform, dial_insert] using gauged
  | session client opened => exact gauged
  | tune tuning => exact gauged
  | touch handle touch =>
    simp only [perform, touchStore]
    split <;> exact gauged
  | stopStore handle => simpa only [perform, dial_stopStore] using gauged

omit [PartitionStore σ] in
theorem gauged_discard [StoreFactory φ σ] (gauged : Gauged directory.dial)
    (tracked : directory.tracked? client = some handle) :
    Gauged (directory.register (.quiet 0) client).2.dial := by
  have still : (directory.build (.quiet 0) (.client client)).2.tracked? client = some handle :=
    tracked
  have built : Gauged (directory.build (.quiet 0) (.client client)).2.dial := gauged
  simpa [register, still] using built

omit [PartitionStore σ] in
theorem gauged_launch [StoreFactory φ σ] (untracked : directory.tracked? client = none) :
    Gauged (directory.launch client).dial := by
  have still : (directory.build (.quiet 0) (.client client)).2.tracked? client = none := untracked
  simp only [launch, dial_setLocked, register, still, dial_publish_quiet]
  exact .set _ _

theorem gauged_settle (gauged : Gauged directory.dial) :
    Gauged (directory.settle client handle).2.dial := by
  simp only [settle, dial_setLocked, bringUp_eq]
  split
  · exact gauged_unregister gauged client handle
  · have started : Gauged (directory.startStore (.quiet 0) handle).2.dial := by
      rwa [dial_startStore_quiet]
    split
    · exact gauged_unregister started client handle
    · simpa [goLive] using started

theorem Move.gauged [StoreFactory φ σ] [Backdoor φ σ τ υ] {permitted : Call τ υ → Prop}
    {a b : Position φ σ τ υ} (move : Move permitted a b) (gauged : Gauged a.run.dial) :
    Gauged b.run.dial := by
  cases move with
  | begin => exact gauged
  | reply => exact gauged
  | enter => exact gauged
  | leave => exact gauged
  | act call allowed plain covered unstuck => exact gauged_act gauged plain
  | drive handle allowed => simpa using gauged
  | discard client handle tracked => exact gauged_discard gauged tracked
  | refuse client untracked closed => exact gauged_settle (gauged_launch untracked)
  | launch client untracked opened => exact gauged_launch untracked
  | settle client handle named => exact gauged_settle gauged

theorem Path.gauged [StoreFactory φ σ] [Backdoor φ σ τ υ] {permitted : Call τ υ → Prop}
    {a b : Position φ σ τ υ} (path : Path permitted a b) (gauged : Gauged a.run.dial) :
    Gauged b.run.dial := by
  induction path with
  | refl => exact gauged
  | tail _ move ih => exact move.gauged ih

end Moves

section Built

variable {directory : Directory φ σ γ} [PartitionStore σ] [StoreFactory φ σ]
  {change : Moment → φ → φ}

theorem dial_startWellKnown (role : WellKnown) :
    (directory.startWellKnown (.tuning change) role).2.dial = directory.dial := by
  have started (building : Directory φ σ γ) (handle : Handle) :
      (building.startStore (.tuning change) handle).2.dial = building.dial := by
    simp only [startStore]
    split <;> rfl
  simp only [startWellKnown]
  split <;> simp only [dial_note, dial_countOne, dial_setLocked, dial_setLifecycle, started, ne_eq,
    reduceCtorEq, not_false_eq_true] <;> rfl

theorem dial_startAll {roles : List WellKnown} {sofar : List Handle}
    (started : (startAll (.tuning change) sofar roles directory).1 = .ok ()) :
    (startAll (.tuning change) sofar roles directory).2.dial = directory.dial := by
  induction roles generalizing directory sofar with
  | nil => rfl
  | cons role rest ih =>
    rw [startAll] at started ⊢
    cases first : (directory.startWellKnown (.tuning change) role).1 with
    | error failure => simp [first] at started
    | ok _ =>
      simp only [first] at started ⊢
      rw [ih started, dial_startWellKnown]

theorem Built.gauged {run : Run φ σ τ υ} (built : Built run) : Gauged run.dial := by
  obtain ⟨_, settings, change, ⟨factory, sampler, enumerator, rfl⟩, all, rfl⟩ := built.startAll
  have nothing : Gauged (blankRun factory sampler enumerator : Run φ σ τ υ).dial :=
    ⟨nofun, nofun⟩
  rw [← dial_startAll all] at nothing
  exact nothing

theorem Reached.gauged [Backdoor φ σ τ υ] {busy : List Handle} {run : Run φ σ τ υ}
    (reached : Reached busy run) : Gauged run.dial := by
  obtain ⟨start, built, path⟩ := reached.path
  exact path.gauged built.gauged

end Built

end Directory

end PeerDirectory

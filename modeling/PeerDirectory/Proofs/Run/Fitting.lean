import PeerDirectory.Proofs.Run.Pursuit
import PeerDirectory.Proofs.Run.Start
import PeerDirectory.Proofs.Vitals

namespace PeerDirectory.Directory

def Undriven (call : Call Tuning Blinding) : Prop := call.drives = false

def Fit (id : PartitionId) (vitals : Vitals) : Lifecycle → Prop
  | .creating => vitals = ⟨id, 0, false, false⟩
  | .ready => vitals = ⟨id, 1, true, false⟩
  | .shutDown => vitals.id = id ∧ (vitals.started = true → vitals.stopped = true)

structure Fitting (given : Handle → Prop) (vitals : Handle → Option (Vitals × Lifecycle)) :
    Prop where
  fit : ∀ {handle current stage}, vitals handle = some (current, stage) →
    Fit handle.id current stage
  begun : ∀ {handle}, given handle →
    ∃ current stage, vitals handle = some (current, stage) ∧ current.started = true

section Changes

variable {given more : Handle → Prop} {vitals : Handle → Option (Vitals × Lifecycle)}
  {handle : Handle} {current : Vitals} {stage : Lifecycle}

theorem Fitting.weaken (fitting : Fitting given vitals)
    (less : ∀ {handle}, more handle → given handle) : Fitting more vitals :=
  ⟨fitting.fit, fun also => fitting.begun (less also)⟩

theorem Fitting.give (fitting : Fitting given vitals)
    (ready : ∀ {handle}, more handle → given handle ∨ ∃ current, vitals handle =
      some (current, .ready)) : Fitting more vitals := by
  refine ⟨fitting.fit, fun {handle} also => ?_⟩
  rcases ready also with before | ⟨current, here⟩
  · exact fitting.begun before
  · obtain rfl : current = ⟨handle.id, 1, true, false⟩ := fitting.fit here
    exact ⟨_, _, here, rfl⟩

theorem Fitting.not_given (fitting : Fitting given vitals)
    (creating : vitals handle = some (current, .creating)) : ¬given handle := by
  intro also
  obtain ⟨other, stage, here, started⟩ := fitting.begun also
  obtain ⟨rfl, rfl⟩ := Prod.mk.inj (Option.some.inj (here.symm.trans creating))
  obtain rfl : other = ⟨handle.id, 0, false, false⟩ := fitting.fit creating
  cases started

theorem Fitting.put (fitting : Fitting given vitals) (fit : Fit handle.id current stage)
    (keeps : given handle → current.started = true) :
    Fitting given (Function.update vitals handle (some (current, stage))) := by
  constructor
  · intro other now next found
    by_cases same : other = handle
    · subst same
      obtain ⟨rfl, rfl⟩ : current = now ∧ stage = next := by simpa using found
      exact fit
    · exact fitting.fit (by simpa [same] using found)
  · intro other also
    by_cases same : other = handle
    · subst same
      exact ⟨current, stage, Function.update_self .., keeps also⟩
    · obtain ⟨now, next, here, started⟩ := fitting.begun also
      exact ⟨now, next, by simpa [same] using here, started⟩

end Changes

section Moves

variable {γ : Type} {directory : Directory MemoryFactory MemoryStore γ} {handle : Handle}
  {client : Hash} {turns : Nat} {given : Handle → Prop} {vitals : Vitals} {stage : Lifecycle}

theorem Fitting.drop (fitting : Fitting given directory.vitals?)
    (creating : directory.vitals? handle = some (vitals, .creating)) :
    Fitting given (directory.setLifecycle handle .shutDown).vitals? := by
  rw [vitals?_setLifecycle, creating, Option.map_some]
  obtain rfl : vitals = ⟨handle.id, 0, false, false⟩ := fitting.fit creating
  exact fitting.put ⟨rfl, nofun⟩ fun also => absurd also (fitting.not_given creating)

theorem fitting_stop (handle : Handle) (fitting : Fitting given directory.vitals?) :
    Fitting given (directory.stop handle).2.vitals? := by
  unfold stop
  cases here : directory.partition? handle with
  | none => exact fitting
  | some partition =>
    have present : directory.vitals? handle = some (partition.store.vitals, partition.lifecycle) := by
      simp [vitals?, here]
    dsimp only
    split
    · exact fitting
    · cases stands : partition.lifecycle with
      | shutDown => exact fitting
      | creating => exact fitting.drop (present.trans (by rw [stands]))
      | ready =>
        rw [stands] at present
        have fit : partition.store.vitals = ⟨handle.id, 1, true, false⟩ := fitting.fit present
        dsimp only
        rw [vitals?_setLifecycle, vitals?_stopStore, Function.update_idem, Function.update_self,
          present, fit]
        exact fitting.put ⟨rfl, fun _ => rfl⟩ fun _ => rfl

theorem fitting_stopAll (handles : List Handle)
    {sofar : Nat × Directory MemoryFactory MemoryStore γ}
    (fitting : Fitting given sofar.2.vitals?) :
    Fitting given (handles.foldl stopCounted sofar).2.vitals? := by
  induction handles generalizing sofar with
  | nil => exact fitting
  | cons handle rest ih =>
    have same : (stopCounted sofar handle).2.vitals? = (sofar.2.stop handle).2.vitals? := by
      simp only [stopCounted]
      split <;> rfl
    have first := fitting_stop handle fitting
    rw [← same] at first
    exact ih first

theorem fitting_removeClient (fitting : Fitting given directory.vitals?) :
    Fitting given (directory.removeClient (.quiet turns) client).2.vitals? := by
  unfold removeClient
  cases directory.tracked? client with
  | none => exact fitting
  | some handle =>
    have struck : Fitting given (directory.unregister (.quiet turns) client handle).vitals? := by
      rw [vitals?_unregister_quiet]
      exact fitting
    have stopped := fitting_stop handle struck
    dsimp only
    split
    · exact stopped
    · exact stopped

theorem fitting_act {call : Call Tuning Blinding} (fitting : Fitting given directory.vitals?)
    (plain : call.plain = true) (undriven : call.drives = false) :
    Fitting given (directory.perform (.quiet turns) call).2.vitals? := by
  cases call with
  | resolve id => cases plain
  | clientPartition id => cases plain
  | startStore handle => cases plain
  | stopStore handle => cases undriven
  | removeClient client => exact fitting_removeClient fitting
  | shutdown => exact fitting_stopAll _ fitting
  | setIsolation enabled =>
    have same : (directory.setIsolation enabled).vitals? = directory.vitals? := by
      simp only [setIsolation]
      split <;> rfl
    simpa only [perform, same] using fitting
  | findLease key =>
    have same : (directory.findLease key).2.vitals? = directory.vitals? := by
      rw [findLease_after]
      rfl
    simpa only [perform, same] using fitting
  | ask question => exact fitting
  | insert handle key entry => simpa only [perform, vitals?_insert] using fitting
  | session client opened => exact fitting
  | tune tuning => exact fitting
  | touch handle data => simpa only [perform, vitals?_touchStore] using fitting

theorem fitting_register (fitting : Fitting given directory.vitals?) :
    Fitting given (directory.register (.quiet turns) client).2.vitals? := by
  rw [vitals?_register_quiet]
  refine fitting.put rfl fun also => ?_
  obtain ⟨current, stage, here, -⟩ := fitting.begun also
  obtain ⟨partition, present, -⟩ := Option.map_eq_some_iff.mp here
  have absent : directory.stage? (directory.partitions.next (.client client)) = none :=
    stage?_next _
  simp [stage?, present] at absent

theorem fitting_launch (fitting : Fitting given directory.vitals?) :
    Fitting given (directory.launch client).vitals? := by
  rw [launch, vitals?_setLocked]
  exact fitting_register fitting

theorem fitting_settle (fitting : Fitting given directory.vitals?)
    (creating : directory.vitals? handle = some (vitals, .creating)) :
    Fitting given (directory.settle client handle).2.vitals? := by
  obtain rfl : vitals = ⟨handle.id, 0, false, false⟩ := fitting.fit creating
  have fresh : ¬given handle := fitting.not_given creating
  cases closed : directory.closed with
  | true =>
    rw [vitals?_settle_of_closed _ _ closed]
    exact fitting.drop creating
  | false =>
    rw [vitals?_settle _ _ closed, vitals?_setLifecycle]
    cases started : (directory.startStore (.quiet 0) handle).1 with
    | error failure =>
      obtain ⟨after, id, never, changed⟩ :=
        vitals?_startStore_of_error directory handle creating started
      have unstarted : after.started ≠ true := by simp [never]
      rw [changed, Function.update_self, Option.map_some, Function.update_idem]
      exact fitting.put ⟨id, fun began => absurd began unstarted⟩ fun also => absurd also fresh
    | ok _ =>
      obtain ⟨-, changed⟩ := vitals?_startStore_of_ok directory handle creating started
      rw [changed, Function.update_self, Option.map_some, Function.update_idem]
      exact fitting.put rfl fun _ => rfl

theorem Move.fitting {a b : Position MemoryFactory MemoryStore Tuning Blinding}
    (move : Move Undriven a b) (orderly : Orderly a.busy a.run.shape)
    (fitting : Fitting given a.run.vitals?) : Fitting given b.run.vitals? := by
  cases move with
  | begin => exact fitting
  | act call allowed plain covered unstuck => exact fitting_act fitting plain allowed
  | reply => exact fitting
  | enter => exact fitting
  | leave => exact fitting
  | drive handle allowed => cases allowed
  | discard client handle tracked => exact fitting_register fitting
  | refuse client untracked closed =>
    obtain ⟨partition, -, -, vitals⟩ := vitals?_of_stage? (stage?_launch untracked)
    exact fitting_settle (fitting_launch fitting) vitals
  | launch client untracked opened => exact fitting_launch fitting
  | settle client handle named =>
    obtain ⟨partition, -, -, vitals⟩ := vitals?_of_stage? (orderly.starting List.mem_cons_self)
    exact fitting_settle fitting vitals

end Moves

section Built

variable {γ : Type} {directory : Directory MemoryFactory MemoryStore γ}
  {change : Moment → MemoryFactory → MemoryFactory} {given : Handle → Prop} {role : WellKnown}

theorem vitals?_startWellKnown
    (started : (directory.startWellKnown (.tuning change) role).1 = .ok ()) :
    (directory.startWellKnown (.tuning change) role).2.vitals? =
      Function.update directory.vitals? (directory.partitions.next (.wellKnown role))
        (some (⟨.wellKnown role, 1, true, false⟩, .ready)) := by
  let tuned : Directory MemoryFactory MemoryStore γ :=
    { directory with factory := change (.create (.wellKnown role)) directory.factory }
  have built : directory.build (.tuning change) (.wellKnown role) =
      (directory.partitions.next (.wellKnown role),
        (tuned.build (.quiet 0) (.wellKnown role)).2) := rfl
  have fresh : (tuned.build (.quiet 0) (.wellKnown role)).2.vitals? =
      Function.update directory.vitals? (directory.partitions.next (.wellKnown role))
        (some (⟨.wellKnown role, 0, false, false⟩, .creating)) :=
    vitals?_build_quiet tuned 0 (.wellKnown role)
  rw [startWellKnown, built, startStore_eq] at started ⊢
  generalize directory.partitions.next (.wellKnown role) = handle at *
  generalize (tuned.build (.quiet 0) (.wellKnown role)).2 = building at *
  have locked : ((Surroundings.tuning change).react (.startup handle.id)
      (building.setLocked handle true)).vitals? = building.vitals? :=
    vitals?_setLocked building handle true
  generalize (Surroundings.tuning change).react (.startup handle.id)
    (building.setLocked handle true) = starting at *
  have creating : starting.vitals? handle = some (⟨.wellKnown role, 0, false, false⟩, .creating) := by
    rw [locked, fresh, Function.update_self]
  cases result : (starting.startStore (.quiet 0) handle).1 with
  | error failure => simp [result] at started
  | ok _ =>
    obtain ⟨-, changed⟩ := vitals?_startStore_of_ok starting handle creating result
    have ready : ((starting.startStore (.quiet 0) handle).2.setLifecycle handle .ready).vitals? =
        Function.update directory.vitals? handle
          (some (⟨.wellKnown role, 1, true, false⟩, .ready)) := by
      rw [vitals?_setLifecycle, changed, Function.update_self, Option.map_some,
        Function.update_idem, locked, fresh, Function.update_idem]
    exact (vitals?_setLocked _ handle false).trans ready

theorem fitting_startAll {roles : List WellKnown} {sofar : List Handle}
    (fitting : Fitting given directory.vitals?)
    (started : (startAll (.tuning change) sofar roles directory).1 = .ok ()) :
    Fitting given (startAll (.tuning change) sofar roles directory).2.vitals? := by
  induction roles generalizing directory sofar with
  | nil => exact fitting
  | cons role rest ih =>
    rw [startAll] at started ⊢
    cases first : (directory.startWellKnown (.tuning change) role).1 with
    | error failure => simp [first] at started
    | ok _ =>
      simp only [first] at started ⊢
      refine ih ?_ started
      rw [vitals?_startWellKnown first]
      exact fitting.put rfl fun _ => rfl

theorem Built.fitting {run : Run MemoryFactory MemoryStore Tuning Blinding} (built : Built run) :
    Fitting (fun handle => ∃ role, handle = wellKnown role) run.vitals? := by
  have nothing : Fitting (fun _ => False) run.vitals? := by
    obtain ⟨_, settings, change, ⟨factory, sampler, enumerator, rfl⟩, all, rfl⟩ := built.startAll
    refine fitting_startAll ⟨fun {handle _ _} found => ?_, nofun⟩ all
    obtain ⟨partition, here, -⟩ := Option.map_eq_some_iff.mp found
    simp [partition?_unbuilt] at here
  refine nothing.give fun {handle} fixed => Or.inr ?_
  obtain ⟨role, rfl⟩ := fixed
  obtain ⟨partition, -, -, vitals⟩ := vitals?_of_stage? (built.ready role)
  exact ⟨_, vitals⟩

end Built

end PeerDirectory.Directory

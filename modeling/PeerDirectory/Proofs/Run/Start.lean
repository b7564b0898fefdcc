import PeerDirectory.Proofs.Directory.Lifecycle
import PeerDirectory.Proofs.Run.Journal
import PeerDirectory.Proofs.Run.Orderly

namespace PeerDirectory

def Surroundings.tuning {φ σ γ : Type} (change : Moment → φ → φ) : Surroundings φ σ γ :=
  ⟨fun moment directory => { directory with factory := change moment directory.factory }, 0⟩

namespace Directory

variable {φ σ γ : Type} {outside : γ} {shape : Shape γ}

structure Bare (outside : γ) (shape : Shape γ) : Prop where
  clients : shape.clients = ∅
  opened : shape.closed = false
  unstuck : shape.stuck = false
  outside : shape.outside = outside
  wellKnown : ∀ {handle stage}, shape.stages handle = some stage →
    stage = (.ready, false) ∧ ∃ role, handle.id = .wellKnown role

theorem Bare.orderly (bare : Bare outside shape) : Orderly [] shape := by
  have nobody (client : Hash) : shape.clients.find? client = none := by
    rw [bare.clients, Clients.find?_empty]
  refine ⟨List.nodup_nil, ?_, ?_, ?_, ?_, ?_, fun _ => nobody⟩
  · intro handle stage locked
    cases (bare.wellKnown locked).1
  · intro handle starting
    cases starting
  · intro handle starting
    cases starting
  · intro client handle tracked
    simp [nobody] at tracked
  · intro client generation locked ready
    obtain ⟨-, role, named⟩ := bare.wellKnown ready
    cases named

theorem Bare.add (bare : Bare outside shape) (role : WellKnown) (generation : Nat) :
    Bare outside
      { shape with
        stages := Function.update shape.stages ⟨.wellKnown role, generation⟩
          (some (.ready, false)) } := by
  refine ⟨bare.clients, bare.opened, bare.unstuck, bare.outside, ?_⟩
  intro handle stage stands
  by_cases same : handle = ⟨.wellKnown role, generation⟩
  · have ready : (.ready, false) = stage := by simpa [same] using stands
    exact ⟨ready.symm, role, by rw [same]⟩
  · exact bare.wellKnown (by simpa [same] using stands)

variable [PartitionStore σ] [StoreFactory φ σ] {change : Moment → φ → φ}
  {directory : Directory φ σ γ}

def prepare (directory : Directory φ σ γ) (change : Moment → φ → φ) (role : WellKnown) :
    Directory φ σ γ :=
  let built :=
    ((Surroundings.tuning change).react (.create (.wellKnown role)) directory).build (.quiet 0)
      (.wellKnown role)
  (Surroundings.tuning change).react (.startup (.wellKnown role)) (built.2.setLocked built.1 true)

theorem startWellKnown_eq (directory : Directory φ σ γ) (change : Moment → φ → φ)
    (role : WellKnown) :
    directory.startWellKnown (.tuning change) role =
      let handle := directory.partitions.next (.wellKnown role)
      let started := (directory.prepare change role).startStore (.quiet 0) handle
      match started.1 with
      | .error failure => (.error failure, started.2.setLocked handle false)
      | .ok () =>
        (.ok (),
          (((started.2.setLifecycle handle .ready).setLocked handle false).countOne
            (.created (.wellKnown role))).note (.startedWellKnown (.wellKnown role))) := rfl

omit [PartitionStore σ] in
theorem shape_prepare (directory : Directory φ σ γ) (change : Moment → φ → φ) (role : WellKnown) :
    (directory.prepare change role).shape =
      { directory.shape with
        stages := Function.update directory.stage? (directory.partitions.next (.wellKnown role))
          (some (.creating, true)) } := by
  have built : (((Surroundings.tuning change).react (.create (.wellKnown role)) directory).build
      (.quiet 0) (.wellKnown role)).2.shape =
      { directory.shape with
        stages := Function.update directory.stage? (directory.partitions.next (.wellKnown role))
          (some (.creating, false)) } := shape_build_quiet _ 0 (.wellKnown role)
  have stages := congrArg Shape.stages built
  rw [shape_stages] at stages
  have creating := (congrFun stages _).trans (Function.update_self ..)
  refine (shape_setLocked_of creating true).trans ?_
  rw [built, stages, Function.update_idem]

theorem startWellKnown_cases (directory : Directory φ σ γ) (change : Moment → φ → φ)
    (role : WellKnown) :
    ((directory.startWellKnown (.tuning change) role).1 = .ok () ∧
      (directory.startWellKnown (.tuning change) role).2.shape =
        { directory.shape with
          stages := Function.update directory.stage? (directory.partitions.next (.wellKnown role))
            (some (.ready, false)) }) ∨
    ((∃ failure, (directory.startWellKnown (.tuning change) role).1 = .error failure) ∧
      (directory.startWellKnown (.tuning change) role).2.shape =
        { directory.shape with
          stages := Function.update directory.stage? (directory.partitions.next (.wellKnown role))
            (some (.creating, false)) }) := by
  have starting := (shape_startStore_quiet (directory.prepare change role)
    (directory.partitions.next (.wellKnown role)) 0).trans (shape_prepare directory change role)
  rw [startWellKnown_eq]
  dsimp only
  generalize directory.partitions.next (.wellKnown role) = handle at *
  generalize (directory.prepare change role).startStore (.quiet 0) handle = started at *
  have stages : started.2.stage? = Function.update directory.stage? handle
      (some (.creating, true)) := congrArg Shape.stages starting
  have stands : started.2.stage? handle = some (.creating, true) := by simp [stages]
  cases result : started.1 with
  | error failure =>
    refine Or.inr ⟨⟨failure, rfl⟩, ?_⟩
    rw [shape_setLocked_of stands, starting, stages, Function.update_idem]
  | ok _ =>
    have released := shape_release stands .ready
    rw [starting, stages, Function.update_idem] at released
    exact Or.inl ⟨rfl, released⟩

theorem shape_startWellKnown {role : WellKnown}
    (started : (directory.startWellKnown (.tuning change) role).1 = .ok ()) :
    (directory.startWellKnown (.tuning change) role).2.shape =
      { directory.shape with
        stages := Function.update directory.stage? (directory.partitions.next (.wellKnown role))
          (some (.ready, false)) } := by
  rcases directory.startWellKnown_cases change role with ⟨-, shape⟩ | ⟨⟨failure, failed⟩, -⟩
  · exact shape
  · cases started.symm.trans failed

theorem bare_startWellKnown (bare : Bare outside directory.shape) {role : WellKnown}
    (started : (directory.startWellKnown (.tuning change) role).1 = .ok ()) :
    Bare outside (directory.startWellKnown (.tuning change) role).2.shape := by
  rw [shape_startWellKnown started]
  exact bare.add role _

theorem bare_startAll (bare : Bare outside directory.shape) {roles : List WellKnown}
    {sofar : List Handle} (started : (startAll (.tuning change) sofar roles directory).1 = .ok ()) :
    Bare outside (startAll (.tuning change) sofar roles directory).2.shape := by
  induction roles generalizing directory sofar with
  | nil => exact bare
  | cons role rest ih =>
    rw [startAll] at started ⊢
    cases first : (directory.startWellKnown (.tuning change) role).1 with
    | error failure => simp [first] at started
    | ok _ =>
      simp only [first] at started ⊢
      exact ih (bare_startWellKnown bare first) started

theorem startAll_turns (react : Moment → Directory φ σ γ → Directory φ σ γ) (turns more : Nat)
    {roles : List WellKnown} {sofar : List Handle} :
    startAll ⟨react, turns⟩ sofar roles directory = startAll ⟨react, more⟩ sofar roles directory := by
  induction roles generalizing directory sofar with
  | nil => rfl
  | cons role rest ih =>
    have first : directory.startWellKnown ⟨react, turns⟩ role =
        directory.startWellKnown ⟨react, more⟩ role := rfl
    simp only [startAll, first, ih]

theorem start_turns (react : Moment → Directory φ σ γ → Directory φ σ γ) (turns more : Nat)
    (settings : Settings) :
    directory.start ⟨react, turns⟩ settings = directory.start ⟨react, more⟩ settings := by
  simp only [start, startAll_turns react turns more]

theorem start_of_ok {settings : Settings}
    (started : (directory.start (.tuning change) settings).1 = .ok ()) :
    (startAll (.tuning change) [] WellKnown.all directory).1 = .ok () ∧
      (directory.start (.tuning change) settings).2 =
        { (startAll (.tuning change) [] WellKnown.all directory).2 with
          policy := ⟨settings.isolation⟩
          seedPeers := settings.seedPeers.toNat }.note
          (.started settings.isolation settings.seedPeers.toNat) := by
  rw [start] at started ⊢
  cases excess : settings.excess? with
  | some count => simp [excess] at started
  | none =>
    simp only [excess] at started ⊢
    cases all : (startAll (.tuning change) [] WellKnown.all directory).1 with
    | error failure => simp [all] at started
    | ok _ => exact ⟨rfl, rfl⟩

omit [PartitionStore σ] [StoreFactory φ σ] in
theorem partition?_unbuilt (factory : φ) (sampler : Sampler) (enumerator : Enumerator) (outside : γ)
    (handle : Handle) :
    (unbuilt (σ := σ) factory sampler enumerator outside).partition? handle = none := by
  simp [partition?, Registry.get?, Registry.all, unbuilt, Registry.empty]

theorem bare_start {factory : φ} {sampler : Sampler} {enumerator : Enumerator}
    {settings : Settings}
    (started : (start (unbuilt factory sampler enumerator outside) (.tuning change)
      settings).1 = .ok ()) :
    Bare outside (start (unbuilt factory sampler enumerator outside) (.tuning change)
      settings).2.shape := by
  have unbuilt : Bare outside (unbuilt (σ := σ) factory sampler enumerator outside).shape := by
    refine ⟨rfl, rfl, rfl, rfl, fun stands => ?_⟩
    simp [stage?, partition?_unbuilt] at stands
  obtain ⟨all, result⟩ := start_of_ok started
  rw [result]
  exact bare_startAll unbuilt all

omit [PartitionStore σ] [StoreFactory φ σ] in
theorem next_of_absent {id : PartitionId} (absent : directory.stage? ⟨id, 0⟩ = none) :
    directory.partitions.next id = ⟨id, 0⟩ := by
  have missing : (directory.partitions.all id)[0]? = none := by
    simpa [stage?, partition?, Registry.get?] using absent
  have none : directory.partitions.all id = [] := by simpa using missing
  simp [Registry.next, none]

theorem wellKnown_injective : Function.Injective wellKnown := by
  intro one other same
  cases same
  rfl

theorem stage?_startAll {roles : List WellKnown} {sofar : List Handle}
    (started : (startAll (.tuning change) sofar roles directory).1 = .ok ())
    (distinct : roles.Nodup)
    (absent : ∀ role ∈ roles, directory.stage? (wellKnown role) = none) :
    (startAll (.tuning change) sofar roles directory).2.stage? = fun handle =>
      if handle ∈ roles.map wellKnown then some (.ready, false) else directory.stage? handle := by
  induction roles generalizing directory sofar with
  | nil => simp [startAll]
  | cons role rest ih =>
    rw [startAll] at started ⊢
    cases first : (directory.startWellKnown (.tuning change) role).1 with
    | error failure => simp [first] at started
    | ok _ =>
      obtain ⟨apart, distinct⟩ := List.nodup_cons.mp distinct
      have named : directory.partitions.next (.wellKnown role) = wellKnown role :=
        next_of_absent (absent role List.mem_cons_self)
      have changed := congrArg Shape.stages (shape_startWellKnown first)
      rw [named] at changed
      simp only [shape_stages] at changed
      simp only [first] at started ⊢
      rw [ih started distinct, changed]
      · funext handle
        by_cases same : handle = wellKnown role
        · simp [same]
        · simp [same]
      · intro other member
        have away : wellKnown other ≠ wellKnown role := by
          intro same
          exact apart (wellKnown_injective same ▸ member)
        rw [changed, Function.update_of_ne away]
        exact absent other (List.mem_cons_of_mem _ member)

omit [StoreFactory φ σ] in
theorem stage?_stopBuilt {handles : List Handle}
    (free : ∀ handle stage, directory.stage? handle ≠ some (stage, true)) (other : Handle) :
    (handles.foldl (fun directory handle => (directory.stop handle).2) directory).stage? other =
      if other ∈ handles then (directory.stage? other).map fun _ => (.shutDown, false)
      else directory.stage? other := by
  induction handles generalizing directory with
  | nil => simp
  | cons handle rest ih =>
    have stages : (directory.stop handle).2.stage? = Function.update directory.stage? handle
        ((directory.stage? handle).map fun _ => (.shutDown, false)) :=
      congrArg Shape.stages (shape_stop (free handle))
    rw [List.foldl_cons, ih, stages]
    · by_cases same : other = handle
      · by_cases again : handle ∈ rest <;> simp [same, again, Function.comp_def]
      · simp [same]
    · intro another stage locked
      by_cases same : another = handle
      · simp [stages, same] at locked
      · exact free another stage (by simpa [stages, same] using locked)

theorem idle_of_failed {roles : List WellKnown} {sofar : List Handle} {failure : Failure}
    (failed : (startAll (.tuning change) sofar roles directory).1 = .error failure)
    (distinct : roles.Nodup)
    (absent : ∀ role ∈ roles, directory.stage? (wellKnown role) = none)
    (only : ∀ {handle stage}, directory.stage? handle = some stage →
      stage = (.ready, false) ∧ handle ∈ sofar) (handle : Handle) :
    (startAll (.tuning change) sofar roles directory).2.isReady handle = false := by
  induction roles generalizing directory sofar with
  | nil => cases failed
  | cons role rest ih =>
    have named : directory.partitions.next (.wellKnown role) = wellKnown role :=
      next_of_absent (absent role List.mem_cons_self)
    rw [startAll] at failed ⊢
    rcases directory.startWellKnown_cases change role with ⟨first, shape⟩ | ⟨⟨cause, first⟩, shape⟩
    · obtain ⟨apart, distinct⟩ := List.nodup_cons.mp distinct
      have stages := congrArg Shape.stages shape
      rw [named] at stages
      simp only [shape_stages] at stages
      simp only [first] at failed ⊢
      refine ih failed distinct (fun other member => ?_) fun {other stage} stands => ?_
      · have away : wellKnown other ≠ wellKnown role := by
          intro same
          exact apart (wellKnown_injective same ▸ member)
        rw [stages, Function.update_of_ne away]
        exact absent other (List.mem_cons_of_mem _ member)
      · rw [stages] at stands
        by_cases same : other = wellKnown role
        · subst same
          rw [Function.update_self] at stands
          exact ⟨(Option.some.inj stands).symm, by simp⟩
        · rw [Function.update_of_ne same] at stands
          obtain ⟨ready, member⟩ := only stands
          exact ⟨ready, List.mem_append_left _ member⟩
    · have stages := congrArg Shape.stages shape
      rw [named] at stages
      simp only [shape_stages] at stages
      simp only [first]
      have free (other : Handle) (stage : Lifecycle) :
          (directory.startWellKnown (.tuning change) role).2.stage? other ≠ some (stage, true) := by
        intro locked
        rw [stages] at locked
        by_cases same : other = wellKnown role
        · simp [same] at locked
        · rw [Function.update_of_ne same] at locked
          cases (only locked).1
      refine isReady_eq_false fun locked ready => ?_
      rw [stage?_stopBuilt free] at ready
      split at ready
      · obtain ⟨-, -, stopped⟩ := Option.map_eq_some_iff.mp ready
        cases stopped
      · rename_i spared
        rw [stages] at ready
        by_cases same : handle = wellKnown role
        · simp [same] at ready
        · rw [Function.update_of_ne same] at ready
          exact spared (only ready).2

theorem idle_start {factory : φ} {sampler : Sampler} {enumerator : Enumerator}
    {settings : Settings} {failure : Failure}
    (failed : (start (unbuilt factory sampler enumerator outside) (.tuning change)
      settings).1 = .error failure) (handle : Handle) :
    (start (unbuilt factory sampler enumerator outside) (.tuning change)
      settings).2.isReady handle = false := by
  have absent (handle : Handle) :
      (unbuilt (σ := σ) factory sampler enumerator outside).stage? handle = none := by
    rw [stage?, partition?_unbuilt, Option.map_none]
  rw [start] at failed ⊢
  cases excess : settings.excess? with
  | some count => exact isReady_eq_false fun locked => by simp [absent]
  | none =>
    simp only [excess] at failed ⊢
    cases all : (startAll (.tuning change) [] WellKnown.all
        (unbuilt factory sampler enumerator outside)).1 with
    | ok _ => simp [all] at failed
    | error cause =>
      exact idle_of_failed all (by decide) (fun role _ => absent _)
        (fun {other stage} stands => by simp [absent] at stands) handle

def Built {τ υ : Type} (run : Run φ σ τ υ) : Prop :=
  ∃ factory sampler enumerator settings change,
    start (unbuilt factory sampler enumerator .blank) (.tuning change) settings = (.ok (), run)

theorem Built.bare {τ υ : Type} {run : Run φ σ τ υ} (built : Built run) :
    Bare .blank run.shape := by
  obtain ⟨factory, sampler, enumerator, settings, change, started⟩ := built
  have bare := bare_start (congrArg Prod.fst started)
  rw [started] at bare
  exact bare

abbrev blankRun {τ υ : Type} (factory : φ) (sampler : Sampler) (enumerator : Enumerator) :
    Run φ σ τ υ :=
  unbuilt factory sampler enumerator .blank

theorem Built.startAll {τ υ : Type} {run : Run φ σ τ υ} (built : Built run) :
    ∃ (start : Run φ σ τ υ) (settings : Settings) (change : Moment → φ → φ),
      (∃ factory sampler enumerator, start = blankRun factory sampler enumerator) ∧
      (Directory.startAll (.tuning change) [] WellKnown.all start).1 = .ok () ∧
      run = { (Directory.startAll (.tuning change) [] WellKnown.all start).2 with
        policy := ⟨settings.isolation⟩
        seedPeers := settings.seedPeers.toNat }.note
        (.started settings.isolation settings.seedPeers.toNat) := by
  obtain ⟨factory, sampler, enumerator, settings, change, started⟩ := built
  obtain ⟨all, result⟩ := start_of_ok (congrArg Prod.fst started)
  rw [started] at result
  exact ⟨_, settings, change, ⟨factory, sampler, enumerator, rfl⟩, all, result⟩

theorem Built.stages {τ υ : Type} {run : Run φ σ τ υ} (built : Built run) (handle : Handle) :
    run.stage? handle =
      if handle ∈ WellKnown.all.map wellKnown then some (.ready, false) else none := by
  obtain ⟨_, settings, change, ⟨factory, sampler, enumerator, rfl⟩, all, rfl⟩ := built.startAll
  have absent (handle : Handle) :
      (blankRun factory sampler enumerator : Run φ σ τ υ).stage? handle = none := by
    rw [stage?, partition?_unbuilt, Option.map_none]
  have stages := stage?_startAll all (by decide) fun role _ => absent _
  refine (congrFun stages handle).trans ?_
  rw [absent]

theorem Built.ready {τ υ : Type} {run : Run φ σ τ υ} (built : Built run) (role : WellKnown) :
    run.stage? (wellKnown role) = some (.ready, false) := by
  rw [built.stages]
  cases role <;> rfl

theorem Built.only {τ υ : Type} {run : Run φ σ τ υ} (built : Built run) {handle : Handle}
    {role : WellKnown} {stage : Lifecycle × Bool} (fixed : handle.id = .wellKnown role)
    (stands : run.stage? handle = some stage) : handle = wellKnown role := by
  rw [built.stages] at stands
  split at stands
  · rename_i listed
    obtain ⟨other, -, rfl⟩ := List.mem_map.mp listed
    cases fixed
    rfl
  · cases stands

def plainRun : Run MemoryFactory MemoryStore Tuning Blinding :=
  (start (unbuilt .plain .first .unrestricted .blank) (.tuning fun _ factory => factory)
    .standard).2

theorem built_plainRun : Built plainRun :=
  ⟨.plain, .first, .unrestricted, .standard, fun _ factory => factory,
    Prod.ext (by decide +kernel) rfl⟩

def someone : Hash := ⟨.fill 0⟩

def newcomer : Hash := ⟨.fill 1⟩

/-- Others who want a client's partition just when somebody else is about to build it, and who
look for it while it is being started. -/
def eager : Habit MemoryFactory MemoryStore Tuning Blinding
  | .create (.client client), run =>
    if run.outside.moments = [] then [.resolve (some (.client client))] else []
  | .startup id, _ => [.ask (.existing id)]
  | _, _ => []

theorem eager_congr {earlier later : Run MemoryFactory MemoryStore Tuning Blinding}
    (moments : later.outside.moments = earlier.outside.moments) (moment : Moment) :
    eager moment later = eager moment earlier := by
  match moment with
  | .create (.client client) => simp only [eager, moments]
  | .create (.wellKnown role) => rfl
  | .startup id => rfl
  | .gauge => rfl

end Directory

end PeerDirectory

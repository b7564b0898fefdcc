import PeerDirectory.Proofs.Run.Pursuit
import PeerDirectory.Proofs.Run.Start

namespace PeerDirectory.Directory

/-! ## Others who make moves -/

variable {φ σ τ υ : Type} [PartitionStore σ] [StoreFactory φ σ] [Backdoor φ σ τ υ]

structure Considerate (permitted : Call τ υ → Prop)
    (surroundings : Surroundings φ σ (Journal φ σ τ υ)) : Prop where
  patient : surroundings.Patient
  ungauged : surroundings.Ungauged
  turns : ∃ looks, surroundings.turns = looks + 1
  moments : ∀ moment run,
    (surroundings.react moment run).outside.moments = run.outside.moments
  path : ∀ {moment busy run}, Orderly busy run.shape →
    Covered busy (moment :: run.outside.moments) →
    (surroundings.react moment run).stuck = false →
      Path permitted ⟨busy, run⟩ ⟨busy, surroundings.react moment run⟩

structure Walk (permitted : Call τ υ → Prop) (busy : List Handle) (before after : Run φ σ τ υ) :
    Prop where
  path : Path permitted ⟨busy, before⟩ ⟨busy, after⟩
  moments : after.outside.moments = before.outside.moments

section Walks

variable {permitted : Call τ υ → Prop} {surroundings : Surroundings φ σ (Journal φ σ τ υ)}
  {busy : List Handle} {run first second : Run φ σ τ υ} {client : Hash}

theorem Walk.refl : Walk permitted busy run run := ⟨.refl, rfl⟩

theorem Walk.trans (before : Walk permitted busy run first)
    (after : Walk permitted busy first second) : Walk permitted busy run second :=
  ⟨before.path.trans after.path, after.moments.trans before.moments⟩

theorem Walk.single (move : Move permitted ⟨busy, run⟩ ⟨busy, first⟩)
    (moments : first.outside.moments = run.outside.moments) : Walk permitted busy run first :=
  ⟨.single move, moments⟩

theorem Walk.covered (walk : Walk permitted busy run first)
    (covered : Covered busy run.outside.moments) : Covered busy first.outside.moments := by
  rw [walk.moments]
  exact covered

theorem Covered.weaken {moments : List Moment} (covered : Covered busy moments)
    (moment : Moment) : Covered busy (moment :: moments) :=
  fun handle starting => List.mem_cons_of_mem _ (covered handle starting)

theorem Considerate.react (considerate : Considerate permitted surroundings) {moment : Moment}
    (orderly : Orderly busy run.shape) (covered : Covered busy run.outside.moments)
    (unstuck : (surroundings.react moment run).stuck = false) :
    Walk permitted busy run (surroundings.react moment run) :=
  ⟨considerate.path orderly (covered.weaken moment) unstuck, considerate.moments moment run⟩

structure Search (permitted : Call τ υ → Prop) (busy : List Handle) (before : Run φ σ τ υ)
    (client : Hash) (result : Except Failure Handle × Run φ σ τ υ) : Prop where
  walk : Walk permitted busy before result.2
  found : ∀ {handle}, result.1 = .ok handle →
    result.2.tracked? client = some handle ∧ result.2.stage? handle = some (.ready, false)
  closed : result.2.closed = true → result.1 = .error .closed
  barred : before.closed = true → result.2 = before

theorem search_of_settled {handle : Handle}
    (path : Path permitted ⟨busy, run⟩ ⟨handle :: busy, first⟩)
    (moments : first.outside.moments = run.outside.moments)
    (orderly : Orderly (handle :: busy) first.shape) (named : handle.id = .client client)
    (begun : run.closed = false) :
    Search permitted busy run client
      ((first.settle client handle).1.map fun _ => handle, (first.settle client handle).2) := by
  have opened : first.closed = false := orderly.open_of_busy List.mem_cons_self
  have stands := orderly.starting List.mem_cons_self
  have tracked := orderly.tracked_of_busy List.mem_cons_self named
  obtain ⟨outside, closed, -⟩ := settle_keeps stands tracked
  have served : Walk permitted busy run (first.settle client handle).2 :=
    ⟨path.tail (.settle client handle named), by rw [outside, moments]⟩
  refine ⟨served, fun {other} found => ?_, fun shut => ?_,
    fun barred => nomatch begun.symm.trans barred⟩
  · rcases settle_cases stands tracked with ⟨result, -, settled⟩ | ⟨⟨failure, result, -⟩, -⟩
    · obtain rfl : handle = other := by simpa [result, Except.map] using found
      constructor
      · exact (congrArg (·.find? client) (congrArg Shape.clients settled)).trans tracked
      · exact (congrFun (congrArg Shape.stages settled) handle).trans
          (Function.update_self handle _ _)
    · simp [result, Except.map] at found
  · cases (closed.trans opened).symm.trans shut

theorem Covered.startup {moments : List Moment} (covered : Covered busy moments)
    (handle : Handle) : Covered (handle :: busy) (.startup handle.id :: moments) := by
  intro other member
  rcases List.mem_cons.mp member with rfl | member
  · exact List.mem_cons_self
  · exact List.mem_cons_of_mem _ (covered other member)

omit [Backdoor φ σ τ υ] in
theorem unstuck_of_settled {handle : Handle}
    (unstuck : (first.settle client handle).2.stuck = false) : first.stuck = false :=
  unstuck_of_later unstuck (stuck_bringUp (Surroundings.patient_quiet 0))

structure Launched (permitted : Call τ υ → Prop) (busy : List Handle) (run first : Run φ σ τ υ)
    (client : Hash) (handle : Handle) (starting : Run φ σ τ υ) : Prop where
  walk : Walk permitted busy run first
  unstuck : first.stuck = false
  move : Move permitted ⟨busy, first⟩ ⟨handle :: busy, first.launch client⟩
  outside : (first.launch client).outside = first.outside
  orderly : Orderly (handle :: busy) (first.launch client).shape
  covered : Covered (handle :: busy) (.startup handle.id :: (first.launch client).outside.moments)
  startup : Walk permitted (handle :: busy) (first.launch client) starting

structure Launching (permitted : Call τ υ → Prop) (busy : List Handle) (run : Run φ σ τ υ)
    (client : Hash) : Prop where
  opened : (run.launch client).closed = false
  move : Move permitted ⟨busy, run⟩
    ⟨run.partitions.next (.client client) :: busy, run.launch client⟩
  outside : (run.launch client).outside = run.outside
  orderly : Orderly (run.partitions.next (.client client) :: busy) (run.launch client).shape
  covered : Covered (run.partitions.next (.client client) :: busy)
    (.startup (.client client) :: (run.launch client).outside.moments)

theorem launching_of_open (orderly : Orderly busy run.shape)
    (covered : Covered busy run.outside.moments) (untracked : run.tracked? client = none)
    (opened : run.closed = false) : Launching permitted busy run client := by
  have launched := shape_launch untracked
  have outside : (run.launch client).outside = run.outside := congrArg Shape.outside launched
  have move : Move permitted ⟨busy, run⟩
      ⟨run.partitions.next (.client client) :: busy, run.launch client⟩ :=
    .launch client untracked opened
  refine ⟨(congrArg Shape.closed launched).trans opened, move, outside, move.orderly orderly, ?_⟩
  rw [outside]
  exact covered.startup (run.partitions.next (.client client))

theorem Considerate.launched {starting : Run φ σ τ υ} {handle : Handle}
    (considerate : Considerate permitted surroundings) (orderly : Orderly busy run.shape)
    (covered : Covered busy run.outside.moments)
    (reached : surroundings.react (.create (.client client)) run = first)
    (untracked : first.tracked? client = none) (opened : first.closed = false)
    (named : first.partitions.next (.client client) = handle)
    (launched : surroundings.react (.startup handle.id) (first.launch client) = starting)
    (unstuck : starting.stuck = false) :
    Launched permitted busy run first client handle starting := by
  subst reached launched named
  have calm := unstuck_of_later unstuck fun stuck =>
    considerate.patient _ _ ((congrArg Shape.stuck (shape_launch untracked)).trans stuck)
  have walk := considerate.react orderly covered calm
  have launching : Launching permitted busy _ client :=
    launching_of_open (walk.path.orderly orderly) (walk.covered covered) untracked opened
  exact ⟨walk, calm, launching.move, launching.outside, launching.orderly, launching.covered,
    considerate.path launching.orderly launching.covered unstuck, considerate.moments _ _⟩

/-- When nobody waits, a search for a client's partition goes one of the ways that it can go. -/
theorem Considerate.pursuit {looks : Nat} (considerate : Considerate permitted surroundings)
    (orderly : Orderly busy run.shape) (covered : Covered busy run.outside.moments)
    (unstuck : (clientWithin surroundings client (looks + 1) run).2.stuck = false) :
    Pursuit surroundings client run (clientWithin surroundings client (looks + 1) run).1
      (clientWithin surroundings client (looks + 1) run).2 := by
  rw [clientWithin_succ] at unstuck ⊢
  cases closed : run.closed with
  | true => exact .refused closed
  | false =>
    simp only [Bool.false_eq_true, if_false, closed] at unstuck ⊢
    cases tracked : run.tracked? client with
    | some handle =>
      simp only [seek, tracked] at unstuck ⊢
      obtain ⟨attended, ready⟩ := attend_of_tracked orderly tracked unstuck
      rw [attended]
      exact .standing closed tracked ready
    | none =>
      simp only [seek, tracked, register_eq considerate.ungauged] at unstuck ⊢
      have calm : (surroundings.react (.create (.client client)) run).stuck = false := by
        apply unstuck_of_later unstuck
        intro stuck
        have registered := stuck_register client (Surroundings.patient_quiet 0) stuck
        exact stuck_attend considerate.patient registered
          (stuck_clientWithin client considerate.patient looks)
      have walk := considerate.react orderly covered calm
      have orderly := walk.path.orderly orderly
      have covered := walk.covered covered
      generalize reached : surroundings.react (.create (.client client)) run = first at *
      cases again : first.tracked? client with
      | some handle =>
        -- Others have tracked the client meanwhile, so the new partition is left alone.
        obtain ⟨named, registered⟩ := register_quiet_of_tracked 0 again
        have found : first.register (.quiet 0) client =
            (handle, (first.register (.quiet 0) client).2) := Prod.ext named rfl
        have discarded : Move permitted ⟨busy, first⟩
            ⟨busy, (first.register (.quiet 0) client).2⟩ := .discard client handle again
        have still : (first.register (.quiet 0) client).2.tracked? client = some handle := by
          rw [← find?_clients, ← shape_clients, registered]
          exact again
        rw [found] at unstuck ⊢
        obtain ⟨attended, ready⟩ := attend_of_tracked (discarded.orderly orderly) still unstuck
        have stands : first.stage? handle = some (.ready, false) := by
          refine (orderly.tracked again).resolve_right fun starting => ?_
          have locked := stage?_register_of_tracked 0 again (orderly.starting starting)
          cases locked.symm.trans ready
        rw [attended]
        exact .overtaken closed tracked reached again stands
      | none =>
        have launched := shape_launch again
        rw [attend_of_new again] at unstuck ⊢
        cases shut : first.closed with
        | true =>
          have shutting : (first.launch client).closed = true :=
            (congrArg Shape.closed launched).trans shut
          have result := (refuse_of_closed again shut).1
          simp only [settle] at result
          rw [bringUp_of_closed considerate.ungauged shutting, result]
          exact .shut closed tracked reached again shut
        | false =>
          have launching : Launching permitted busy first client :=
            launching_of_open orderly covered again shut
          have calm : (surroundings.react (.startup (.client client))
              (first.launch client)).stuck = false := by
            apply unstuck_of_later unstuck
            intro stuck
            have started := shape_startStore (first.launch client)
              (first.partitions.next (.client client)) surroundings
            exact stuck_bringUp_of_started client considerate.patient launching.opened
              ((stuck_eq_of_shape started).trans stuck)
          have path := considerate.path launching.orderly launching.covered calm
          -- Nobody can have shut the directory down, as it would have had to wait for this start.
          have kept : (surroundings.react (.startup (.client client))
              (first.launch client)).closed = false :=
            (path.orderly launching.orderly).open_of_busy List.mem_cons_self
          rw [bringUp_of_open considerate.ungauged launching.opened kept]
          exact .started closed tracked reached again shut rfl rfl kept

theorem Considerate.search {result : Except Failure Handle}
    (considerate : Considerate permitted surroundings) (orderly : Orderly busy run.shape)
    (covered : Covered busy run.outside.moments)
    (pursuit : Pursuit surroundings client run result second) (unstuck : second.stuck = false) :
    Search permitted busy run client (result, second) := by
  have reach (calm : (surroundings.react (.create (.client client)) run).stuck = false) :=
    considerate.react orderly covered calm
  cases pursuit with
  | refused closed => exact ⟨.refl, nofun, fun _ => rfl, fun _ => rfl⟩
  | @standing handle opened tracked ready =>
    refine ⟨.refl, fun {other} found => ?_, fun closed => ?_, fun _ => rfl⟩
    · obtain rfl : handle = other := Except.ok.inj found
      exact ⟨tracked, ready⟩
    · cases opened.symm.trans closed
  | @overtaken first handle opened untracked reached tracked ready =>
    obtain ⟨-, registered⟩ := register_quiet_of_tracked 0 tracked
    have walk := reach (by rw [reached]; exact (congrArg Shape.stuck registered).symm.trans unstuck)
    rw [reached] at walk
    refine ⟨walk.trans (.single (.discard client handle tracked) ?_), fun {other} found => ?_,
      fun closed => ?_, fun barred => nomatch opened.symm.trans barred⟩
    · exact congrArg (fun shape : Shape (Journal φ σ τ υ) => shape.outside.moments) registered
    · obtain rfl : handle = other := Except.ok.inj found
      refine ⟨?_, stage?_register_of_tracked 0 tracked ready⟩
      exact (congrArg (·.find? client) (congrArg Shape.clients registered)).trans tracked
    · have still := (walk.path.orderly orderly).open_of_tracked tracked
      cases still.symm.trans ((congrArg Shape.closed registered).symm.trans closed)
  | @shut first opened untracked reached still closed =>
    obtain ⟨-, refused⟩ := refuse_of_closed still closed
    have walk := reach (by rw [reached]; exact (congrArg Shape.stuck refused).symm.trans unstuck)
    rw [reached] at walk
    refine ⟨walk.trans (.single (.refuse client still closed) ?_), nofun,
      fun _ => rfl, fun barred => nomatch opened.symm.trans barred⟩
    exact congrArg (fun shape : Shape (Journal φ σ τ υ) => shape.outside.moments) refused
  | @started first starting handle opened untracked reached still running named launched kept =>
    obtain ⟨walk, -, move, outside, orderly, -, startup⟩ :=
      considerate.launched orderly covered reached
      still running named launched (unstuck_of_settled unstuck)
    refine search_of_settled (walk.path.trans (startup.path.head move)) ?_
      (startup.path.orderly orderly) ?_ opened
    · rw [startup.moments, outside, walk.moments]
    · rw [← named]
      rfl

/-! ## Whole calls -/

theorem Considerate.resolve (considerate : Considerate permitted surroundings)
    (orderly : Orderly busy run.shape) (covered : Covered busy run.outside.moments)
    {call : Call τ υ} (seeks : call.seeks = some client)
    (unstuck : (run.resolve surroundings (some (.client client))).2.stuck = false) :
    Walk permitted busy run (run.resolve surroundings (some (.client client))).2 ∧
      Answered run.snapshot call (.found (run.resolve surroundings (some (.client client))).1)
        (run.resolve surroundings (some (.client client))).2 := by
  cases isolated : run.isolated with
  | false =>
    have apart : run.snapshot.isolated = false := isolated
    simp only [Directory.resolve, isolated]
    refine ⟨.refl, fun _ together => ?_, fun _ together => ?_, fun _ _ => ⟨rfl, rfl⟩,
      fun _ _ => rfl, fun named => Or.inl ⟨.main, List.mem_singleton.mp named⟩⟩
    · cases apart.symm.trans together
    · cases apart.symm.trans together
  | true =>
    have apart : run.snapshot.isolated = true := isolated
    obtain ⟨looks, turns⟩ := considerate.turns
    simp only [Directory.resolve, isolated, if_true, Directory.client, turns] at unstuck ⊢
    have pursuit := considerate.pursuit orderly covered unstuck
    have search := considerate.search orderly covered pursuit unstuck
    refine ⟨search.walk, fun {other handle} again _ found => ?_, fun {other} again _ closed => ?_,
      fun _ together => ?_, fun _ closed => ?_, fun {handle} named => Or.inr ?_⟩
    · obtain rfl : client = other := Option.some.inj (seeks.symm.trans again)
      exact search.found (Response.found.inj found)
    · exact congrArg Response.found (search.closed closed)
    · cases apart.symm.trans together
    · exact congrArg Directory.snapshot (search.barred closed)
    · cases result : (clientWithin surroundings client (looks + 1) run).1 with
      | error failure =>
        rw [result] at named
        cases named
      | ok other =>
        rw [result] at named
        rw [List.mem_singleton.mp named, isReady_iff (search.found result).2]
        rfl

theorem Considerate.perform (considerate : Considerate permitted surroundings)
    (orderly : Orderly busy run.shape) (covered : Covered busy run.outside.moments)
    {call : Call τ υ} (allowed : permitted call) (interruptible : call.plain = false)
    (unstuck : (run.perform surroundings call).2.stuck = false) :
    Walk permitted busy run (run.perform surroundings call).2 ∧
      Answered run.snapshot call (run.perform surroundings call).1
        (run.perform surroundings call).2 := by
  cases call with
  | resolve id =>
    match id with
    | none =>
      refine ⟨.refl, .of_seeks_none rfl fun named => ?_⟩
      exact Or.inl ⟨.main, List.mem_singleton.mp named⟩
    | some (.wellKnown role) =>
      obtain ⟨other, served⟩ := run.serving_wellKnown role
      refine ⟨.refl, .of_seeks_none rfl fun named => ?_⟩
      exact Or.inl ⟨other, (List.mem_singleton.mp named).trans served⟩
    | some (.client client) => exact considerate.resolve orderly covered rfl unstuck
  | clientPartition id =>
    match id with
    | none =>
      refine ⟨.refl, .of_seeks_none rfl fun named => ?_⟩
      exact Or.inl ⟨_, List.mem_singleton.mp named⟩
    | some (.wellKnown role) =>
      obtain ⟨other, served⟩ := run.serving_wellKnown role
      refine ⟨.refl, .of_seeks_none rfl fun named => ?_⟩
      exact Or.inl ⟨other, (List.mem_singleton.mp named).trans served⟩
    | some (.client client) => exact considerate.resolve orderly covered rfl unstuck
  | startStore handle =>
    have started := shape_startStore run handle surroundings
    have calm : (surroundings.react (.startup handle.id) run).stuck = false :=
      (stuck_eq_of_shape started).symm.trans unstuck
    have walk := considerate.react orderly covered calm
    have driven : (run.startStore surroundings handle).2.outside.moments =
        (surroundings.react (.startup handle.id) run).outside.moments :=
      congrArg (fun shape => shape.outside.moments) started
    refine ⟨walk.trans (.single (.drive handle allowed) driven), .of_seeks_none rfl fun named => ?_⟩
    cases named
  | _ => cases interruptible

theorem Considerate.make (considerate : Considerate permitted surroundings)
    (orderly : Orderly busy run.shape) (covered : Covered busy run.outside.moments)
    {call : Call τ υ} (allowed : permitted call)
    (unstuck : (run.make surroundings call).stuck = false) :
    Walk permitted busy run (run.make surroundings call) := by
  have begun : Walk permitted busy run (run.record (.begins call)) :=
    .single (.begin call allowed covered) rfl
  have orderly : Orderly busy (run.record (.begins call)).shape := begun.path.orderly orderly
  have same : run.snapshot = (run.record (.begins call)).snapshot := rfl
  apply begun.trans
  rw [Directory.make] at unstuck ⊢
  rw [same]
  have covered : Covered busy (run.record (.begins call)).outside.moments := covered
  generalize run.record (.begins call) = started at *
  cases plain : call.plain with
  | true =>
    rw [perform_plain considerate.ungauged plain] at unstuck ⊢
    have kept := congrArg Journal.moments (outside_act plain unstuck)
    exact .single (.act call allowed plain covered unstuck) kept
  | false =>
    obtain ⟨walk, answered⟩ := considerate.perform orderly covered allowed plain unstuck
    exact walk.trans (.single (.reply call _ _ plain (walk.covered covered) answered) rfl)

theorem stuck_make (patient : surroundings.Patient) (stuck : run.stuck = true)
    (call : Call τ υ) : (run.make surroundings call).stuck = true := by
  have begun : (run.record (.begins call)).stuck = true := stuck
  exact stuck_perform patient begun call

theorem stuck_makeAll (patient : surroundings.Patient) (stuck : run.stuck = true)
    (calls : List (Call τ υ)) : (run.makeAll surroundings calls).stuck = true := by
  induction calls generalizing run with
  | nil => exact stuck
  | cons call rest ih => exact ih (stuck_make patient stuck call)

theorem Considerate.makeAll (considerate : Considerate permitted surroundings)
    (orderly : Orderly busy run.shape) (covered : Covered busy run.outside.moments)
    {calls : List (Call τ υ)} (allowed : ∀ call ∈ calls, permitted call)
    (unstuck : (run.makeAll surroundings calls).stuck = false) :
    Walk permitted busy run (run.makeAll surroundings calls) := by
  induction calls generalizing run with
  | nil => exact .refl
  | cons call rest ih =>
    have calm : (run.make surroundings call).stuck = false :=
      unstuck_of_later unstuck fun stuck => stuck_makeAll considerate.patient stuck rest
    have first := considerate.make orderly covered (allowed call List.mem_cons_self) calm
    have later := ih (first.path.orderly orderly) (first.covered covered)
      (fun call member => allowed call (List.mem_cons_of_mem _ member)) unstuck
    exact first.trans later

theorem considerate_others {habit : Habit φ σ τ υ}
    (allowed : ∀ moment run, ∀ call ∈ habit moment run, permitted call) (turns depth : Nat) :
    Considerate permitted (others habit turns depth) := by
  -- Calls inside a moment are made among others who can nest moments one level less.
  induction depth with
  | zero =>
    exact ⟨fun _ _ stuck => stuck, fun _ => rfl, ⟨turns, rfl⟩, fun _ _ => rfl, fun _ _ _ => .refl⟩
  | succ depth ih =>
    refine ⟨?_, fun _ => rfl, ⟨turns, rfl⟩, ?_, ?_⟩
    · intro moment run stuck
      have entered : (run.enter moment).stuck = true := stuck
      cases moment with
      | gauge => exact stuck
      | create id => exact stuck_makeAll ih.patient entered _
      | startup id => exact stuck_makeAll ih.patient entered _
    · intro moment run
      cases moment with
      | gauge => rfl
      | create id => rfl
      | startup id => rfl
    · intro moment busy run orderly covered unstuck
      have within (calm : (run.makeWithin (others habit turns depth) moment
            (habit moment run)).stuck = false) :
          Path permitted ⟨busy, run⟩
            ⟨busy, run.makeWithin (others habit turns depth) moment (habit moment run)⟩ := by
        have entering : Move permitted ⟨busy, run⟩ ⟨busy, run.enter moment⟩ :=
          .enter moment covered
        have walk := ih.makeAll (entering.orderly orderly) covered (allowed moment run) calm
        exact (walk.path.head entering).tail (.leave moment _ (walk.covered covered))
      cases moment with
      | gauge => exact .refl
      | create id => exact within unstuck
      | startup id => exact within unstuck

/-- A run has come to where a call can begin: everything that is being started is being started in
a moment that the run is inside of. -/
structure Reached (busy : List Handle) (run : Run φ σ τ υ) : Prop where
  covered : Covered busy run.outside.moments
  path : ∃ start : Run φ σ τ υ, Built start ∧ Path (fun _ => True) ⟨[], start⟩ ⟨busy, run⟩

theorem Reached.orderly (reached : Reached busy run) : Orderly busy run.shape := by
  obtain ⟨start, built, path⟩ := reached.path
  exact path.orderly built.bare.orderly

theorem Built.reached (built : Built run) : Reached [] run :=
  ⟨fun _ starting => (nomatch starting), run, built, .refl⟩

theorem Reached.makeAll (reached : Reached busy run) {habit : Habit φ σ τ υ} {turns depth : Nat}
    {calls : List (Call τ υ)}
    (unstuck : (run.makeAll (others habit turns depth) calls).stuck = false) :
    Reached busy (run.makeAll (others habit turns depth) calls) := by
  obtain ⟨start, built, path⟩ := reached.path
  have considerate : Considerate (fun _ => True) (others habit turns depth) :=
    considerate_others (fun _ _ _ _ => trivial) turns depth
  have walk := considerate.makeAll reached.orderly reached.covered (fun _ _ => trivial) unstuck
  exact ⟨walk.covered reached.covered, start, built, path.trans walk.path⟩

end Walks

end PeerDirectory.Directory

import PeerDirectory.Proofs.Mirror.Calls

namespace PeerDirectory.Directory

variable {φ σ φ' σ' τ υ : Type}

def anew (run : Run φ σ τ υ) : Run φ σ τ υ := { run with outside := .blank }

/-! ## What callers know of -/

section Known

variable {told more : List (Told τ υ)} {handle : Handle}

def Known (told : List (Told τ υ)) (handle : Handle) : Prop :=
  (∃ role, handle = wellKnown role) ∨
    ∃ call response, Told.ends call response ∈ told ∧ handle ∈ response.partitions

/-- A caller who knows so much goes past no partition, and takes none that nobody was told of. -/
def Decent (told : List (Told τ υ)) (call : Call τ υ) : Prop :=
  call.drives = false ∧ ∀ {handle}, call.reaches = some handle → Known told handle

def Scrupulous (told : List (Told τ υ)) : Prop :=
  ∀ {earlier call later}, told = earlier ++ .begins call :: later → Decent earlier call

theorem Known.append (known : Known told handle) (more : List (Told τ υ)) :
    Known (told ++ more) handle := by
  rcases known with fixed | ⟨call, response, member, named⟩
  · exact Or.inl fixed
  · exact Or.inr ⟨call, response, List.mem_append_left _ member, named⟩

theorem known_append_singleton {last : Told τ υ} (known : Known (told ++ [last]) handle) :
    Known told handle ∨ ∃ call response, last = .ends call response ∧
      handle ∈ response.partitions := by
  rcases known with fixed | ⟨call, response, member, named⟩
  · exact Or.inl (Or.inl fixed)
  · rcases List.mem_append.mp member with earlier | final
    · exact Or.inl (Or.inr ⟨call, response, earlier, named⟩)
    · exact Or.inr ⟨call, response, (List.mem_singleton.mp final).symm, named⟩

theorem Scrupulous.of_prefix (scrupulous : Scrupulous more) (sofar : told <+: more) :
    Scrupulous told := by
  obtain ⟨rest, rfl⟩ := sofar
  intro earlier call later split
  exact @scrupulous earlier call (later ++ rest) (by simp [split])

end Known

variable [PartitionStore σ] [PartitionStore σ'] [StoreFactory φ σ] [StoreFactory φ' σ']
  [Backdoor φ σ τ υ] [Backdoor φ' σ' τ υ] {bond : Bond φ σ φ' σ' τ υ} {naming : Naming}
  {spare : Spare σ'} {left first : Run φ σ τ υ} {right : Run φ' σ' τ υ}
  {client : Hash} {handle : Handle}

/-! ## Runs in step -/

structure Matches (bond : Bond φ σ φ' σ' τ υ) (naming : Naming)
    (spare : Spare σ') (one : Point φ σ τ υ) (other : Point φ' σ' τ υ) :
    Prop where
  told : other.event.told = one.event.told.rename naming.place
  moments : other.moments = one.moments
  mirror : Mirror bond naming spare (fun _ => False) level one.state other.state

structure InStep (bond : Bond φ σ φ' σ' τ υ) (naming : Naming)
    (spare : Spare σ') (left : Run φ σ τ υ) (right : Run φ' σ' τ υ) :
    Prop where
  mirror : Mirror bond naming spare (Known left.outside.transcript) level left right
  moments : right.outside.moments = left.outside.moments
  points : List.Forall₂ (Matches bond naming spare) left.outside.points right.outside.points

namespace Matches

section Equal

variable {again : Run φ σ τ υ} {kept : Spare σ} {one other : Point φ σ τ υ}

theorem partition? (matching : Matches (.equality φ σ) naming kept one other) (handle : Handle) :
    other.state.partition? (naming.place handle) = one.state.partition? handle := by
  rcases matching.mirror.partition?_cases handle with
    ⟨here, there⟩ | ⟨⟨_, _, _⟩, ⟨_, _, _⟩, here, there, lifecycle, locked, akin⟩
  · rw [here, there]
  · cases lifecycle
    cases locked
    cases akin
    rw [here, there]

end Equal

theorem unnamed {one : Point φ σ τ υ} {other : Point φ' σ' τ υ}
    (matching : Matches bond naming spare one other) (away : ∀ other, naming.place other ≠ handle)
    {call : Call τ υ} {before : Directory φ' σ' Unit} {response : Response}
    (ended : other.event = .ends call before response) : handle ∉ response.partitions := by
  intro named
  have told := matching.told
  rw [ended] at told
  cases event : one.event with
  | ends _ _ original =>
    rw [event] at told
    obtain ⟨-, rfl⟩ := Told.ends.inj told
    rw [Response.partitions_rename] at named
    obtain ⟨handle, -, placed⟩ := List.mem_map.mp named
    exact away handle placed
  | _ =>
    rw [event] at told
    cases told

end Matches

namespace InStep

theorem transcript (inStep : InStep bond naming spare left right) :
    right.outside.transcript = left.outside.transcript.map (·.rename naming.place) := by
  unfold Journal.transcript
  have points := inStep.points
  generalize left.outside.points = one at *
  generalize right.outside.points = other at *
  induction points with
  | nil => rfl
  | cons matching _ ih => simp only [List.map_cons, matching.told, ih]

theorem keep {again : Run φ' σ' τ υ} (inStep : InStep bond naming spare left right)
    (mirror : Mirror bond naming spare (Known left.outside.transcript) level first again)
    (one : first.outside = left.outside) (other : again.outside = right.outside) :
    InStep bond naming spare first again := by
  refine ⟨?_, ?_, ?_⟩
  · rwa [one]
  · rw [one, other]
    exact inStep.moments
  · rw [one, other]
    exact inStep.points

theorem record (inStep : InStep bond naming spare left right) {one : Event φ σ τ υ}
    {other : Event φ' σ' τ υ} (told : other.told = one.told.rename naming.place)
    (named : ∀ {call response handle}, one.told = .ends call response →
      handle ∈ response.partitions →
        (∃ role, handle = wellKnown role) ∨ left.isReady handle = true) :
    InStep bond naming spare (left.record one) (right.record other) := by
  refine ⟨?_, inStep.moments, ?_⟩
  · have given : Mirror bond naming spare (Known (left.record one).outside.transcript) level
        left right := by
      refine inStep.mirror.give fun {handle} known => ?_
      rw [transcript_record] at known
      rcases known_append_singleton known with before | ⟨call, response, ended, mentioned⟩
      · exact Or.inl before
      · rcases named ended mentioned with fixed | ready
        · exact Or.inl (Or.inl fixed)
        · exact Or.inr ⟨ready, rfl⟩
    exact { given with }
  · have bare : Mirror bond naming spare (fun _ => False) level left.snapshot right.snapshot :=
      { inStep.mirror with given := nofun }
    exact List.rel_append inStep.points (.cons ⟨told, inStep.moments, bare⟩ .nil)

end InStep

def Fair (bond : Bond φ σ φ' σ' τ υ) (run : Run φ σ τ υ) : Prop :=
  bond.candid ∨ Scrupulous run.outside.transcript

theorem Fair.of_prefix (fair : Fair bond first)
    (sofar : left.outside.points <+: first.outside.points) : Fair bond left :=
  fair.imp_right fun scrupulous => scrupulous.of_prefix (sofar.map _)

theorem Fair.of_outside (fair : Fair bond first) (same : first.outside = left.outside) :
    Fair bond left := by
  unfold Fair at *
  rwa [same] at fair

/-! ## Searches in step -/

structure Echo (bond : Bond φ σ φ' σ' τ υ) (naming : Naming)
    (spare : Spare σ') (surroundings : Surroundings φ σ (Journal φ σ τ υ))
    (again : Surroundings φ' σ' (Journal φ' σ' τ υ)) : Prop where
  considerate : Considerate (fun _ => True) surroundings
  ungauged : again.Ungauged
  turns : ∃ looks, again.turns = looks + 1
  react : ∀ {moment busy left right}, InStep bond naming spare left right →
    Orderly busy left.shape → Covered busy (moment :: left.outside.moments) →
    (surroundings.react moment left).stuck = false → Fair bond (surroundings.react moment left) →
      InStep bond naming spare (surroundings.react moment left) (again.react moment right)

section Echo

variable {surroundings : Surroundings φ σ (Journal φ σ τ υ)}
  {again : Surroundings φ' σ' (Journal φ' σ' τ υ)} {busy : List Handle} {call : Call τ υ}

theorem InStep.launch (inStep : InStep bond naming spare left right)
    (untracked : left.tracked? client = none) :
    InStep bond naming spare (left.launch client) (right.launch client) := by
  have still : right.tracked? client = none := by rw [inStep.mirror.tracked?, untracked]; rfl
  exact inStep.keep (inStep.mirror.launch client) (congrArg Shape.outside (shape_launch untracked))
    (congrArg Shape.outside (shape_launch still))

theorem InStep.settle (inStep : InStep bond naming spare left right)
    (stands : left.stage? handle = some (.creating, true))
    (tracked : left.tracked? client = some handle) :
    (right.settle client (naming.place handle)).1 = (left.settle client handle).1 ∧
      InStep bond naming spare (left.settle client handle).2
        (right.settle client (naming.place handle)).2 := by
  have settled : Mirrored bond naming spare _ level (left.settle client handle)
      (right.settle client (naming.place handle)) :=
    inStep.mirror.settle (Or.inl ⟨.main, rfl⟩) stands
  have still := (inStep.mirror.stage? handle).trans stands
  refine ⟨settled.result, inStep.keep settled.mirror (settle_keeps stands tracked).1 ?_⟩
  exact (settle_keeps still (inStep.mirror.tracked?_iff.mpr tracked)).1

theorem Echo.search (echo : Echo bond naming spare surroundings again)
    (inStep : InStep bond naming spare left right) (orderly : Orderly busy left.shape)
    (covered : Covered busy left.outside.moments) {result : Except Failure Handle}
    {after : Run φ σ τ υ} (pursuit : Pursuit surroundings client left result after)
    (unstuck : after.stuck = false) (fair : Fair bond after) :
    ∃ ending, Pursuit again client right (result.map naming.place) ending ∧
      InStep bond naming spare after ending := by
  have unknown (untracked : left.tracked? client = none) : right.tracked? client = none := by
    rw [inStep.mirror.tracked?, untracked]
    rfl
  have reach (calm : (surroundings.react (.create (.client client)) left).stuck = false)
      (fair : Fair bond (surroundings.react (.create (.client client)) left)) :=
    echo.react inStep orderly (covered.weaken _) calm fair
  cases pursuit with
  | refused closed => exact ⟨right, .refused (inStep.mirror.closed.trans closed), inStep⟩
  | @standing handle opened tracked ready =>
    have pursuit : Pursuit again client right (.ok (naming.place handle)) right :=
      .standing (inStep.mirror.closed.trans opened) (inStep.mirror.tracked?_iff.mpr tracked)
        ((inStep.mirror.stage? handle).trans ready)
    exact ⟨right, pursuit, inStep⟩
  | @overtaken first handle opened untracked reached tracked ready =>
    obtain ⟨-, registered⟩ := register_quiet_of_tracked 0 tracked
    have outside : (first.register (.quiet 0) client).2.outside = first.outside :=
      congrArg Shape.outside registered
    have met := reach (by rw [reached]; exact (congrArg Shape.stuck registered).symm.trans unstuck)
      (by rw [reached]; exact fair.of_outside outside)
    rw [reached] at met
    generalize there : again.react (.create (.client client)) right = other at *
    have still := met.mirror.tracked?_iff.mpr tracked
    have pursuit : Pursuit again client right (.ok (naming.place handle))
        (other.register (.quiet 0) client).2 :=
      .overtaken (inStep.mirror.closed.trans opened) (unknown untracked) there still
        ((met.mirror.stage? handle).trans ready)
    refine ⟨_, pursuit, met.keep (met.mirror.register client).2 outside ?_⟩
    exact congrArg Shape.outside (register_quiet_of_tracked 0 still).2
  | @shut first opened untracked reached still closed =>
    obtain ⟨-, refused⟩ := refuse_of_closed still closed
    have outside : ((first.launch client).settle client
        (first.partitions.next (.client client))).2.outside = first.outside :=
      congrArg Shape.outside refused
    have met := reach (by rw [reached]; exact (congrArg Shape.stuck refused).symm.trans unstuck)
      (by rw [reached]; exact fair.of_outside outside)
    rw [reached] at met
    generalize there : again.react (.create (.client client)) right = other at *
    have pursuit : Pursuit again client right (.error .closed) _ :=
      .shut (inStep.mirror.closed.trans opened) (unknown untracked) there
        (by rw [met.mirror.tracked?, still]; rfl) (met.mirror.closed.trans closed)
    have settled := ((met.launch still).settle (stage?_launch still) (tracked?_launch still)).2
    rw [met.mirror.place_next] at settled
    exact ⟨_, pursuit, settled⟩
  | @started first starting handle opened untracked reached still running named launched kept =>
    obtain ⟨-, calm, -, outside, orderly, covered, startup⟩ := echo.considerate.launched orderly
      covered reached still running named launched (unstuck_of_settled unstuck)
    have busy := startup.path.orderly orderly
    have stands := busy.starting List.mem_cons_self
    have tracked := busy.tracked_of_busy List.mem_cons_self (by rw [← named]; rfl)
    have begun := fair.of_outside (settle_keeps stands tracked).1
    have before : first.outside.points <+: starting.outside.points := by
      rw [← outside]
      exact startup.path.grows orderly
    have met := reach (by rwa [reached]) (by rw [reached]; exact begun.of_prefix before)
    rw [reached] at met
    generalize there : again.react (.create (.client client)) right = other at *
    have gone := echo.react (met.launch still) orderly covered
      (by rw [launched]; exact unstuck_of_settled unstuck) (by rwa [launched])
    rw [launched] at gone
    generalize away : again.react (.startup handle.id) (other.launch client) = opposite at *
    obtain ⟨result, settled⟩ := gone.settle stands tracked
    have pursuit : Pursuit again client right _ _ :=
      .started (inStep.mirror.closed.trans opened) (unknown untracked) there
        (by rw [met.mirror.tracked?, still]; rfl) (met.mirror.closed.trans running)
        ((met.mirror.place_next _).symm.trans (congrArg naming.place named))
        (by rw [naming.id_place]; exact away) (gone.mirror.closed.trans kept)
    rw [result] at pursuit
    refine ⟨_, ?_, settled⟩
    cases outcome : (starting.settle client handle).1 with
    | error failure => rwa [outcome] at pursuit
    | ok _ => rwa [outcome] at pursuit

/-! ## Calls in step -/

theorem Echo.resolve (echo : Echo bond naming spare surroundings again)
    (inStep : InStep bond naming spare left right) (orderly : Orderly busy left.shape)
    (covered : Covered busy left.outside.moments) (id : Option PartitionId)
    (unstuck : (left.resolve surroundings id).2.stuck = false)
    (fair : Fair bond (left.resolve surroundings id).2) :
    (right.resolve again id).1 = (left.resolve surroundings id).1.map naming.place ∧
      InStep bond naming spare (left.resolve surroundings id).2 (right.resolve again id).2 := by
  match id with
  | none => exact ⟨congrArg Except.ok (naming.place_wellKnown .main).symm, inStep⟩
  | some (.wellKnown role) => exact ⟨congrArg Except.ok (inStep.mirror.progress.serving role), inStep⟩
  | some (.client client) =>
    simp only [Directory.resolve, inStep.mirror.isolated] at unstuck fair ⊢
    split at unstuck
    · rename_i isolated
      obtain ⟨looks, turns⟩ := echo.considerate.turns
      obtain ⟨again, more⟩ := echo.turns
      simp only [isolated, if_true, Directory.client, turns, more] at unstuck fair ⊢
      have pursuit := echo.considerate.pursuit orderly covered unstuck
      obtain ⟨ending, opposite, after⟩ :=
        echo.search inStep orderly covered pursuit unstuck fair
      rw [opposite.clientWithin echo.ungauged]
      exact ⟨rfl, after⟩
    · rename_i together
      simp only [together]
      exact ⟨congrArg Except.ok (naming.place_wellKnown .main).symm, inStep⟩

theorem Echo.perform (echo : Echo bond naming spare surroundings again)
    (inStep : InStep bond naming spare left right) (orderly : Orderly busy left.shape)
    (covered : Covered busy left.outside.moments) (interruptible : call.plain = false)
    (past : bond.candid ∨ call.drives = false)
    (unstuck : (left.perform surroundings call).2.stuck = false)
    (fair : Fair bond (left.perform surroundings call).2) :
    (right.perform again (call.rename naming.place)).1 =
        (left.perform surroundings call).1.rename naming.place ∧
      InStep bond naming spare (left.perform surroundings call).2
        (right.perform again (call.rename naming.place)).2 := by
  cases call with
  | resolve id =>
    obtain ⟨found, after⟩ := echo.resolve inStep orderly covered id unstuck fair
    exact ⟨congrArg Response.found found, after⟩
  | clientPartition id =>
    cases id with
    | none =>
      simp only [Directory.perform, Call.rename, clientPartition, inStep.mirror.isolated]
      exact ⟨congrArg (Response.found ∘ Except.ok) (naming.place_wellKnown _).symm, inStep⟩
    | some id =>
      obtain ⟨found, after⟩ := echo.resolve inStep orderly covered (some id) unstuck fair
      exact ⟨congrArg Response.found found, after⟩
  | startStore handle =>
    have candid := past.resolve_right (by simp [Call.drives])
    have started := shape_startStore left handle surroundings
    have outside : (left.startStore surroundings handle).2.outside =
        (surroundings.react (.startup handle.id) left).outside := congrArg Shape.outside started
    have gone := echo.react inStep orderly (covered.weaken _)
      ((stuck_eq_of_shape started).symm.trans unstuck) (fair.of_outside outside)
    have driven := gone.mirror.driveStart candid handle
    simp only [Directory.perform, Call.rename]
    rw [startStore_eq again, startStore_eq surroundings, naming.id_place]
    refine ⟨congrArg Response.done driven.result, gone.keep driven.mirror outside ?_⟩
    exact congrArg Shape.outside (shape_startStore_quiet _ _ 0)
  | _ => cases interruptible

theorem Fair.decent (fair : Fair bond first)
    (begun : (left.record (.begins call)).outside.points <+: first.outside.points) :
    bond.candid ∨ Decent left.outside.transcript call := by
  refine fair.imp_right fun scrupulous => ?_
  obtain ⟨rest, split⟩ : (left.record (.begins call)).outside.transcript <+:
      first.outside.transcript := begun.map _
  rw [transcript_record, List.append_assoc] at split
  exact scrupulous split.symm

theorem Call.plain_rename {place : Handle → Handle} : (call.rename place).plain = call.plain := by
  cases call <;> rfl

theorem Echo.serve (echo : Echo bond naming spare surroundings again)
    (inStep : InStep bond naming spare left right) (orderly : Orderly busy left.shape)
    (covered : Covered busy left.outside.moments)
    (unstuck : (left.perform surroundings call).2.stuck = false)
    (fair : Fair bond (left.perform surroundings call).2)
    (decent : left.outside.points <+: (left.perform surroundings call).2.outside.points →
      bond.candid ∨ Decent left.outside.transcript call) :
    (∀ {handle}, handle ∈ (left.perform surroundings call).1.partitions →
        (∃ role, handle = wellKnown role) ∨
          (left.perform surroundings call).2.isReady handle = true) ∧
      (right.perform again (call.rename naming.place)).1 =
        (left.perform surroundings call).1.rename naming.place ∧
      InStep bond naming spare (left.perform surroundings call).2
        (right.perform again (call.rename naming.place)).2 := by
  cases plain : call.plain with
  | true =>
    have still : (call.rename naming.place).plain = true := Call.plain_rename.trans plain
    rw [perform_plain echo.considerate.ungauged plain] at unstuck fair decent ⊢
    rw [perform_plain echo.ungauged still]
    have outside := outside_act plain unstuck
    obtain ⟨response, after⟩ := inStep.mirror.act (fun role => Or.inl ⟨role, rfl⟩) plain
      (decent (by simp only [outside, List.prefix_rfl]))
    have calm := after.stuck.trans unstuck
    exact ⟨((truthful_act plain unstuck).answered rfl).named, response,
      inStep.keep after outside (outside_act still calm)⟩
  | false =>
    have considerate := echo.considerate
    obtain ⟨walk, answered⟩ := considerate.perform orderly covered trivial plain unstuck
    have past := (decent (walk.path.grows orderly)).imp_right And.left
    exact ⟨answered.named, echo.perform inStep orderly covered plain past unstuck fair⟩

theorem Echo.make (echo : Echo bond naming spare surroundings again)
    (inStep : InStep bond naming spare left right) (orderly : Orderly busy left.shape)
    (covered : Covered busy left.outside.moments)
    (unstuck : (left.make surroundings call).stuck = false)
    (fair : Fair bond (left.make surroundings call)) :
    InStep bond naming spare (left.make surroundings call)
      (right.make again (call.rename naming.place)) := by
  have begun : InStep bond naming spare (left.record (.begins call))
      (right.record (.begins (call.rename naming.place))) := inStep.record rfl nofun
  have orderly : Orderly busy (left.record (.begins call)).shape :=
    orderly.congr rfl rfl rfl
  have fair : Fair bond ((left.record (.begins call)).perform surroundings call).2 :=
    fair.of_prefix (List.prefix_append _ _)
  obtain ⟨named, response, ended⟩ := echo.serve begun orderly covered unstuck fair fun grown => by
    refine (fair.decent grown).imp_right fun decent => ⟨decent.1, fun reaches => ?_⟩
    rw [transcript_record]
    exact (decent.2 reaches).append _
  refine ended.record ?_ fun {_ _ handle} told mentioned => ?_
  · simp only [Event.told, Told.rename, response]
  · obtain ⟨-, rfl⟩ := Told.ends.inj told
    exact named mentioned

theorem Echo.makeAll (echo : Echo bond naming spare surroundings again)
    (inStep : InStep bond naming spare left right) (orderly : Orderly busy left.shape)
    (covered : Covered busy left.outside.moments) {calls : List (Call τ υ)}
    (unstuck : (left.makeAll surroundings calls).stuck = false)
    (fair : Fair bond (left.makeAll surroundings calls)) :
    InStep bond naming spare (left.makeAll surroundings calls)
      (right.makeAll again (calls.map (·.rename naming.place))) := by
  induction calls generalizing left right with
  | nil => exact inStep
  | cons call rest ih =>
    have considerate := echo.considerate
    have calm : (left.make surroundings call).stuck = false :=
      unstuck_of_later unstuck fun stuck => stuck_makeAll considerate.patient stuck rest
    have walk := considerate.make orderly covered trivial calm
    have orderly' := walk.path.orderly orderly
    have covered' := walk.covered covered
    have rest := considerate.makeAll orderly' covered' (fun _ _ => trivial) unstuck
    have first := echo.make inStep orderly covered calm
      (fair.of_prefix (rest.path.grows orderly'))
    exact ih first orderly' covered' unstuck fair

end Echo

/-! ## Others in step -/

theorem InStep.enter (inStep : InStep bond naming spare left right) (moment : Moment) :
    InStep bond naming spare (left.enter moment) (right.enter moment) := by
  have inside : InStep bond naming spare
      { left with outside := { left.outside with moments := moment :: left.outside.moments } }
      { right with outside := { right.outside with moments := moment :: right.outside.moments } } :=
    ⟨{ inStep.mirror with }, congrArg _ inStep.moments, inStep.points⟩
  exact inside.record rfl nofun

theorem InStep.leave (inStep : InStep bond naming spare left right) (moment : Moment)
    (moments : List Moment) :
    InStep bond naming spare (left.leave moment moments) (right.leave moment moments) := by
  have left : InStep bond naming spare (left.record (.leaves moment))
      (right.record (.leaves moment)) := inStep.record rfl nofun
  exact ⟨{ left.mirror with }, rfl, left.points⟩

theorem Echo.makeWithin {surroundings : Surroundings φ σ (Journal φ σ τ υ)}
    {again : Surroundings φ' σ' (Journal φ' σ' τ υ)}
    (echo : Echo bond naming spare surroundings again)
    (inStep : InStep bond naming spare left right) {busy : List Handle}
    (orderly : Orderly busy left.shape) {moment : Moment}
    (covered : Covered busy (moment :: left.outside.moments)) {calls : List (Call τ υ)}
    (unstuck : (left.makeWithin surroundings moment calls).stuck = false)
    (fair : Fair bond (left.makeWithin surroundings moment calls)) :
    InStep bond naming spare (left.makeWithin surroundings moment calls)
      (right.makeWithin again moment (calls.map (·.rename naming.place))) := by
  have entered : Orderly busy (left.enter moment).shape := orderly.congr rfl rfl rfl
  have made := echo.makeAll (inStep.enter moment) entered covered unstuck
    (fair.of_prefix (List.prefix_append _ _))
  unfold Directory.makeWithin
  rw [inStep.moments]
  exact made.leave moment left.outside.moments

def Attuned (bond : Bond φ σ φ' σ' τ υ) (naming : Naming)
    (spare : Spare σ') (habit : Habit φ σ τ υ) (again : Habit φ' σ' τ υ) :
    Prop :=
  ∀ moment left right, InStep bond naming spare left right →
    again moment right = (habit moment left).map (·.rename naming.place)

theorem Manner.attuned (manner : Manner τ υ) :
    Attuned bond naming spare manner.habit (manner.rename naming).habit := by
  intro moment left right inStep
  rw [Manner.habit, inStep.transcript, manner.rename_told]
  rfl

theorem Attuned.echo {habit : Habit φ σ τ υ} {again : Habit φ' σ' τ υ}
    (attuned : Attuned bond naming spare habit again) (turns depth : Nat) :
    Echo bond naming spare (others habit turns depth) (others again turns depth) := by
  -- Calls inside a moment are made among others who can nest moments one level less.
  induction depth with
  | zero =>
    exact ⟨considerate_others (fun _ _ _ _ => trivial) turns 0, fun _ => rfl, ⟨turns, rfl⟩,
      fun inStep _ _ _ _ => inStep⟩
  | succ depth ih =>
    refine ⟨considerate_others (fun _ _ _ _ => trivial) turns (depth + 1), fun _ => rfl,
      ⟨turns, rfl⟩, fun {moment busy left right} inStep orderly covered unstuck fair => ?_⟩
    cases moment with
    | gauge => exact inStep
    | create id =>
      have within := ih.makeWithin inStep orderly covered unstuck fair
      rwa [← attuned _ left right inStep] at within
    | startup id =>
      have within := ih.makeWithin inStep orderly covered unstuck fair
      rwa [← attuned _ left right inStep] at within

end PeerDirectory.Directory

import PeerDirectory.Proofs.Interlude.Run

namespace PeerDirectory.Directory

/-- A call that others interrupt: it is about to make a client's partition, or to start it, or to
start a store behind its partition's back. -/
inductive Underway where
  | making (client : Hash)
  | starting (client : Hash) (handle : Handle)
  | driving (handle : Handle)

def Underway.moment : Underway → Moment
  | making client => .create (.client client)
  | starting _ handle | driving handle => .startup handle.id

inductive Sequel (φ σ τ υ : Type) where
  | calls (turns depth : Nat) (calls : List (Call τ υ))
  | ending (turns depth : Nat) (underway : Underway) (call : Call τ υ)
    (before : Directory φ σ Unit)

variable {φ σ γ τ υ : Type} [PartitionStore σ] [StoreFactory φ σ]

def Underway.finish (surroundings : Surroundings φ σ γ) (directory : Directory φ σ γ) :
    Underway → Response × Directory φ σ γ
  | making client =>
    let attended := attend surroundings client (surroundings.turns - 1)
      (directory.register (.quiet 0) client)
    (.found attended.1, attended.2)
  | starting client handle =>
    let settled := directory.settle client handle
    (.found (settled.1.map fun _ => handle), settled.2)
  | driving handle =>
    let started := directory.startStore (.quiet 0) handle
    (.done started.1, started.2)

section Interruption

variable {surroundings : Surroundings φ σ γ} {directory : Directory φ σ γ} {client : Hash}
  {handle : Handle}

theorem resolve_eq_finish [Backdoor φ σ τ υ] (ungauged : surroundings.Ungauged) {looks : Nat}
    (turns : surroundings.turns = looks + 1) (apart : directory.isolated = true)
    (opened : directory.closed = false) (untracked : directory.tracked? client = none) :
    directory.perform surroundings (.resolve (some (.client client)) : Call τ υ) =
      (Underway.making client).finish surroundings
        (surroundings.react (.create (.client client)) directory) := by
  simp [perform, Directory.resolve, apart, Directory.client, turns, clientWithin_succ, opened,
    seek, untracked, register_eq ungauged, Underway.finish]

-- A search that makes a partition is interrupted a second time, before it starts it.
theorem making_eq_finish (ungauged : surroundings.Ungauged) (opened : directory.closed = false)
    (untracked : directory.tracked? client = none)
    (still : (surroundings.react (.startup (.client client)) (directory.launch client)).closed =
      false) :
    (Underway.making client).finish surroundings directory =
      (Underway.starting client (directory.partitions.next (.client client))).finish surroundings
        (surroundings.react (.startup (.client client)) (directory.launch client)) := by
  have opening : (directory.launch client).closed = false :=
    (congrArg Shape.closed (shape_launch untracked)).trans opened
  simp only [Underway.finish, attend_of_new untracked]
  rw [bringUp_of_open ungauged opening still]
  rfl

theorem startStore_eq_finish [Backdoor φ σ τ υ] :
    directory.perform surroundings (.startStore handle : Call τ υ) =
      (Underway.driving handle).finish surroundings
        (surroundings.react (.startup handle.id) directory) := rfl

end Interruption

variable [Backdoor φ σ τ υ]

def goOn (script : Script τ υ) (run : Run φ σ τ υ) : Sequel φ σ τ υ → Run φ σ τ υ
  | .calls turns depth calls => run.makeAll (others script.habit turns depth) calls
  | .ending turns depth underway call before =>
    let ended := underway.finish (others script.habit turns depth)
      (run.leave underway.moment run.outside.moments.tail)
    ended.2.record (.ends call before ended.1)

def goOnAll (script : Script τ υ) (run : Run φ σ τ υ) (sequels : List (Sequel φ σ τ υ)) :
    Run φ σ τ υ :=
  sequels.foldl (goOn script) run

inductive Due : List Handle → List Moment → List (Sequel φ σ τ υ) → Prop
  | done {busy moments} : Due busy moments []
  | calls {busy moments rest} (turns depth : Nat) (calls : List (Call τ υ))
      (later : Due busy moments rest) : Due busy moments (.calls turns depth calls :: rest)
  | making {busy moments rest} (turns depth : Nat) {client : Hash} {call : Call τ υ}
      (before : Directory φ σ Unit) (seeks : call.seeks = some client)
      (covered : Covered busy moments) (later : Due busy moments rest) :
      Due busy (.create (.client client) :: moments)
        (.ending turns depth (.making client) call before :: rest)
  | starting {busy moments rest} (turns depth : Nat) {client : Hash} {handle : Handle}
      {call : Call τ υ} (before : Directory φ σ Unit) (seeks : call.seeks = some client)
      (named : handle.id = .client client) (covered : Covered busy moments)
      (later : Due busy moments rest) :
      Due (handle :: busy) (.startup handle.id :: moments)
        (.ending turns depth (.starting client handle) call before :: rest)
  | driving {busy moments rest} (turns depth : Nat) {handle : Handle}
      (before : Directory φ σ Unit) (covered : Covered busy moments)
      (later : Due busy moments rest) :
      Due busy (.startup handle.id :: moments)
        (.ending turns depth (.driving handle) (.startStore handle) before :: rest)

structure Level (kept : Handle → Prop) (busy : List Handle) (moments : List Moment)
    (left right : Run φ σ τ υ) : Prop where
  runs : RunsAgreeOnKept kept left right
  orderly : Orderly busy left.shape
  inside : left.outside.moments = moments

variable {kept : Handle → Prop} {busy : List Handle} {moments : List Moment} {moment : Moment}
  {left right : Run φ σ τ υ} {script : Script τ υ} {call : Call τ υ} {client : Hash}
  {handle : Handle} {before : Directory φ σ Unit} {turns depth : Nat}

theorem stuck_goOn (stuck : left.stuck = true) (sequel : Sequel φ σ τ υ) :
    (left.goOn script sequel).stuck = true := by
  have patient (turns depth : Nat) :
      (others (script.habit : Habit φ σ τ υ) turns depth).Patient :=
    (considerate_others (fun _ _ _ _ => trivial) turns depth :
      Considerate (fun _ => True) _).patient
  cases sequel with
  | calls turns depth calls => exact stuck_makeAll (patient turns depth) stuck calls
  | ending turns depth underway call before =>
    have gone : (left.leave underway.moment left.outside.moments.tail).stuck = true := stuck
    cases underway with
    | making client =>
      have registered := stuck_register client (Surroundings.patient_quiet 0) gone
      exact stuck_attend (patient turns depth) registered
        (stuck_clientWithin client (patient turns depth) _)
    | starting client handle => exact stuck_bringUp (Surroundings.patient_quiet 0) gone
    | driving handle => exact stuck_startStore (Surroundings.patient_quiet 0) gone

theorem stuck_goOnAll (stuck : left.stuck = true) (sequels : List (Sequel φ σ τ υ)) :
    (left.goOnAll script sequels).stuck = true := by
  induction sequels generalizing left with
  | nil => exact stuck
  | cons sequel rest ih =>
    apply ih
    exact stuck_goOn stuck sequel

namespace Level

omit [PartitionStore σ] [StoreFactory φ σ] [Backdoor φ σ τ υ] in
theorem leave (level : Level kept busy (moment :: moments) left right) :
    Level kept busy moments (left.leave moment left.outside.moments.tail)
      (right.leave moment right.outside.moments.tail) := by
  refine ⟨?_, level.orderly.congr rfl rfl rfl, congrArg List.tail level.inside⟩
  rw [level.runs.moments]
  exact level.runs.leave moment _

omit [PartitionStore σ] [StoreFactory φ σ] [Backdoor φ σ τ υ] in
theorem ended {one other : Response × Run φ σ τ υ} (level : Level kept busy moments one.2 other.2)
    (same : call.rests kept before → other.1 = one.1) :
    Level kept busy moments (one.2.record (.ends call before one.1))
      (other.2.record (.ends call before other.1)) := by
  refine ⟨level.runs.record rfl fun {_ _ _ _ _} left right rests => ?_,
    level.orderly.congr rfl rfl rfl, level.inside⟩
  obtain ⟨rfl, rfl, rfl⟩ := Event.ends.inj left
  obtain ⟨-, -, rfl⟩ := Event.ends.inj right
  exact same rests

theorem calls (level : Level kept busy moments left right) (covered : Covered busy moments)
    {calls : List (Call τ υ)}
    (unstuck : (left.goOn script (.calls turns depth calls)).stuck = false) :
    Level kept busy moments (left.goOn script (.calls turns depth calls))
      (right.goOn script (.calls turns depth calls)) := by
  have evenhanded : Evenhanded kept (others (script.habit : Habit φ σ τ υ) turns depth) :=
    script.evenhanded turns depth
  have covered : Covered busy left.outside.moments := level.inside ▸ covered
  have walk := evenhanded.considerate.makeAll level.orderly covered (fun _ _ => trivial) unstuck
  exact ⟨evenhanded.makeAll level.runs level.orderly covered unstuck,
    walk.path.orderly level.orderly, walk.moments.trans level.inside⟩

theorem making (level : Level kept busy (.create (.client client) :: moments) left right)
    (covered : Covered busy moments)
    (unstuck : (left.goOn script (.ending turns depth (.making client) call before)).stuck = false) :
    Level kept busy moments (left.goOn script (.ending turns depth (.making client) call before))
      (right.goOn script (.ending turns depth (.making client) call before)) := by
  have evenhanded : Evenhanded kept (others (script.habit : Habit φ σ τ υ) turns depth) :=
    script.evenhanded turns depth
  have gone := level.leave
  have attended := evenhanded.attend gone.runs gone.orderly (gone.inside ▸ covered) unstuck
  have after : Level kept busy moments _ _ :=
    ⟨attended.runs, attended.walk.path.orderly gone.orderly,
      attended.walk.moments.trans gone.inside⟩
  exact after.ended fun _ => congrArg Response.found attended.result

theorem starting (level : Level kept (handle :: busy) (.startup handle.id :: moments) left right)
    (named : handle.id = .client client) :
    Level kept busy moments
      (left.goOn script (.ending turns depth (.starting client handle) call before))
      (right.goOn script (.ending turns depth (.starting client handle) call before)) := by
  have gone := level.leave
  have stands := gone.orderly.starting List.mem_cons_self
  have tracked := gone.orderly.tracked_of_busy List.mem_cons_self named
  obtain ⟨result, runs⟩ := gone.runs.settle stands tracked
  have settle (run : Run φ σ τ υ) : Move (fun _ => True) ⟨handle :: busy, run⟩
      ⟨busy, (run.settle client handle).2⟩ :=
    .settle client handle named
  have after : Level kept busy moments _ _ :=
    ⟨runs, (settle _).orderly gone.orderly,
      (congrArg Journal.moments (settle_keeps stands tracked).1).trans gone.inside⟩
  exact after.ended fun _ => congrArg (Response.found ∘ Except.map _) result

theorem driving (level : Level kept busy (.startup handle.id :: moments) left right) :
    Level kept busy moments
      (left.goOn script (.ending turns depth (.driving handle) (.startStore handle) before))
      (right.goOn script (.ending turns depth (.driving handle) (.startStore handle) before)) := by
  have gone := level.leave
  have agree := gone.runs.agree
  have outside (run : Run φ σ τ υ) :
      (run.startStore (.quiet 0) handle).2.outside = run.outside :=
    congrArg Shape.outside (shape_startStore_quiet run handle 0)
  have after : Level kept busy moments _ _ :=
    ⟨gone.runs.keep (agree.startStore handle) (outside _) (outside _), by simpa using gone.orderly,
      (congrArg Journal.moments (outside _)).trans gone.inside⟩
  exact after.ended fun rests =>
    congrArg Response.done (agree.result_operate (Or.inl rests) _ _)

end Level

theorem unstuck_goOn {sequel : Sequel φ σ τ υ} {rest : List (Sequel φ σ τ υ)}
    (unstuck : (left.goOnAll script (sequel :: rest)).stuck = false) :
    (left.goOn script sequel).stuck = false :=
  unstuck_of_later unstuck fun stuck => stuck_goOnAll stuck rest

theorem Due.runs {sequels : List (Sequel φ σ τ υ)} (due : Due busy moments sequels)
    (level : Level kept busy moments left right) (covered : Covered busy moments)
    (unstuck : (left.goOnAll script sequels).stuck = false) :
    RunsAgreeOnKept kept (left.goOnAll script sequels) (right.goOnAll script sequels) := by
  induction due generalizing left right with
  | done => exact level.runs
  | calls turns depth calls later ih =>
    apply ih _ covered unstuck
    exact level.calls covered (unstuck_goOn unstuck)
  | making turns depth before seeks outer later ih =>
    apply ih _ outer unstuck
    exact level.making outer (unstuck_goOn unstuck)
  | starting turns depth before seeks named outer later ih =>
    apply ih _ outer unstuck
    exact level.starting named
  | driving turns depth before outer later ih =>
    apply ih _ outer unstuck
    exact level.driving

end PeerDirectory.Directory

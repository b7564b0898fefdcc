import PeerDirectory.Proofs.Interlude.Calls
import PeerDirectory.Proofs.Run.Anchored

namespace PeerDirectory.Directory

variable {φ σ τ υ : Type} {kept : Handle → Prop} {client : Hash} {handle : Handle}

inductive Occurrence (τ υ : Type) where
  | begins (call : Call τ υ)
  | ends (call : Call τ υ)
  | enters (moment : Moment)
  | leaves (moment : Moment)

def Event.occurrence : Event φ σ τ υ → Occurrence τ υ
  | .begins call => .begins call
  | .ends call _ _ => .ends call
  | .enters moment => .enters moment
  | .leaves moment => .leaves moment

/-- Which calls others make at a moment, after all that happened so far. -/
abbrev Script (τ υ : Type) := Moment → List (Occurrence τ υ) → List (Call τ υ)

def Script.habit (script : Script τ υ) : Habit φ σ τ υ :=
  fun moment run => script moment (run.outside.points.map (·.event.occurrence))

/-- The same happened at two points of runs, to directories that agree. -/
structure PointsAgreeOnKept (kept : Handle → Prop) (one other : Point φ σ τ υ) : Prop where
  occurrence : other.event.occurrence = one.event.occurrence
  moments : other.moments = one.moments
  agree : AgreeOnKept kept one.state other.state
  answered : ∀ {call before response again reply}, one.event = .ends call before response →
    other.event = .ends call again reply → call.rests kept before → reply = response

structure RunsAgreeOnKept (kept : Handle → Prop) (left right : Run φ σ τ υ) : Prop where
  agree : AgreeOnKept kept left right
  moments : right.outside.moments = left.outside.moments
  points : List.Forall₂ (PointsAgreeOnKept kept) left.outside.points right.outside.points

namespace RunsAgreeOnKept

variable {left right first again : Run φ σ τ υ}

theorem occurrences (runs : RunsAgreeOnKept kept left right) :
    right.outside.points.map (·.event.occurrence) =
      left.outside.points.map (·.event.occurrence) := by
  have points := runs.points
  generalize left.outside.points = one at *
  generalize right.outside.points = other at *
  induction points with
  | nil => rfl
  | cons agrees _ ih => simp only [List.map_cons, agrees.occurrence, ih]

theorem keep (runs : RunsAgreeOnKept kept left right) (agree : AgreeOnKept kept first again)
    (one : first.outside = left.outside) (other : again.outside = right.outside) :
    RunsAgreeOnKept kept first again := by
  refine ⟨agree, ?_, ?_⟩
  · rw [one, other]
    exact runs.moments
  · rw [one, other]
    exact runs.points

theorem record (runs : RunsAgreeOnKept kept left right) {one other : Event φ σ τ υ}
    (occurrence : other.occurrence = one.occurrence)
    (answered : ∀ {call before response again reply}, one = .ends call before response →
      other = .ends call again reply → call.rests kept before → reply = response) :
    RunsAgreeOnKept kept (left.record one) (right.record other) := by
  refine ⟨{ runs.agree with }, runs.moments, ?_⟩
  have bare : AgreeOnKept kept left.snapshot right.snapshot := { runs.agree with }
  exact List.rel_append runs.points
    (.cons ⟨occurrence, runs.moments, bare, answered⟩ .nil)

theorem enter (runs : RunsAgreeOnKept kept left right) (moment : Moment) :
    RunsAgreeOnKept kept (left.enter moment) (right.enter moment) := by
  have inside : RunsAgreeOnKept kept
      { left with outside := { left.outside with moments := moment :: left.outside.moments } }
      { right with outside := { right.outside with moments := moment :: right.outside.moments } } :=
    ⟨{ runs.agree with }, congrArg (moment :: ·) runs.moments, runs.points⟩
  exact inside.record rfl nofun

theorem leave (runs : RunsAgreeOnKept kept left right) (moment : Moment)
    (moments : List Moment) :
    RunsAgreeOnKept kept (left.leave moment moments) (right.leave moment moments) := by
  have left : RunsAgreeOnKept kept (left.record (.leaves moment)) (right.record (.leaves moment)) :=
    runs.record rfl nofun
  exact ⟨{ left.agree with }, rfl, left.points⟩

theorem launch [StoreFactory φ σ] (runs : RunsAgreeOnKept kept left right)
    (untracked : left.tracked? client = none) :
    RunsAgreeOnKept kept (left.launch client) (right.launch client) := by
  have still := (runs.agree.tracked? client).trans untracked
  exact runs.keep (runs.agree.launch client)
    (congrArg Shape.outside (shape_launch untracked)) (congrArg Shape.outside (shape_launch still))

theorem settle [PartitionStore σ] (runs : RunsAgreeOnKept kept left right)
    (stands : left.stage? handle = some (.creating, true))
    (tracked : left.tracked? client = some handle) :
    (right.settle client handle).1 = (left.settle client handle).1 ∧
      RunsAgreeOnKept kept (left.settle client handle).2 (right.settle client handle).2 := by
  have settled := runs.agree.settle stands tracked
  have still := (runs.agree.stages handle).trans stands
  have also := (runs.agree.tracked? client).trans tracked
  exact ⟨settled.result, runs.keep settled.agree (settle_keeps stands tracked).1
    (settle_keeps still also).1⟩

end RunsAgreeOnKept

variable [PartitionStore σ] [StoreFactory φ σ] [Backdoor φ σ τ υ]

structure Evenhanded (kept : Handle → Prop) (surroundings : Surroundings φ σ (Journal φ σ τ υ)) :
    Prop where
  considerate : Considerate (fun _ => True) surroundings
  react : ∀ {moment busy left right}, RunsAgreeOnKept kept left right → Orderly busy left.shape →
    Covered busy (moment :: left.outside.moments) →
    (surroundings.react moment left).stuck = false →
      RunsAgreeOnKept kept (surroundings.react moment left) (surroundings.react moment right)

structure Keeps {α : Type} (kept : Handle → Prop) (busy : List Handle) (left : Run φ σ τ υ)
    (one other : α × Run φ σ τ υ) : Prop where
  walk : Walk (fun _ => True) busy left one.2
  result : other.1 = one.1
  runs : RunsAgreeOnKept kept one.2 other.2

namespace Evenhanded

variable {surroundings : Surroundings φ σ (Journal φ σ τ υ)} {left right : Run φ σ τ υ}
  {busy : List Handle} {call : Call τ υ}

theorem attend {looks : Nat} (evenhanded : Evenhanded kept surroundings)
    (runs : RunsAgreeOnKept kept left right) (orderly : Orderly busy left.shape)
    (covered : Covered busy left.outside.moments)
    (unstuck : (attend surroundings client looks (left.register (.quiet 0) client)).2.stuck =
      false) :
    Keeps kept busy left (attend surroundings client looks (left.register (.quiet 0) client))
      (attend surroundings client looks (right.register (.quiet 0) client)) := by
  have agree := runs.agree
  have considerate := evenhanded.considerate
  have registering := agree.register client
  cases tracked : left.tracked? client with
  | some handle =>
    -- Others have tracked the client meanwhile, so the new partition is left alone.
    have still := (agree.tracked? client).trans tracked
    obtain ⟨named, registered⟩ := register_quiet_of_tracked 0 tracked
    obtain ⟨again, other⟩ := register_quiet_of_tracked 0 still
    have one : left.register (.quiet 0) client = (handle, (left.register (.quiet 0) client).2) :=
      Prod.ext named rfl
    have another : right.register (.quiet 0) client =
        (handle, (right.register (.quiet 0) client).2) := Prod.ext again rfl
    have discard : Move (fun _ => True) ⟨busy, left⟩ ⟨busy, (left.register (.quiet 0) client).2⟩ :=
      .discard client handle tracked
    have kept : (left.register (.quiet 0) client).2.tracked? client = some handle := by
      rw [← find?_clients, ← shape_clients, registered]
      exact tracked
    rw [one] at unstuck ⊢
    obtain ⟨attended, ready⟩ := attend_of_tracked (discard.orderly orderly) kept unstuck
    have opposite := (registering.agree.stages handle).trans ready
    rw [another, attended, attend_of_ready opposite]
    refine ⟨.single discard ?_, rfl, runs.keep registering.agree ?_ ?_⟩
    · exact congrArg (fun shape : Shape (Journal φ σ τ υ) => shape.outside.moments) registered
    · exact congrArg Shape.outside registered
    · exact congrArg Shape.outside other
  | none =>
    have still := (agree.tracked? client).trans tracked
    have launched := runs.launch tracked
    rw [attend_of_new tracked] at unstuck ⊢
    rw [attend_of_new still, agree.next]
    cases closed : left.closed with
    | true =>
      have shut : (left.launch client).closed = true :=
        (congrArg Shape.closed (shape_launch tracked)).trans closed
      have also := launched.agree.closed.trans shut
      have refuse : Move (fun _ => True) ⟨busy, left⟩ _ := .refuse client tracked closed
      obtain ⟨result, settled⟩ := launched.settle (stage?_launch tracked) (tracked?_launch tracked)
      rw [bringUp_of_closed considerate.ungauged shut,
        bringUp_of_closed considerate.ungauged also]
      refine ⟨.single refuse ?_, congrArg (Except.map _) result, settled⟩
      exact congrArg (fun shape : Shape (Journal φ σ τ υ) => shape.outside.moments)
        (refuse_of_closed tracked closed).2
    | false =>
      have launching : Launching (fun _ => True) busy left client :=
        launching_of_open orderly covered tracked closed
      have calm : (surroundings.react (.startup (.client client))
          (left.launch client)).stuck = false := by
        apply unstuck_of_later unstuck
        intro stuck
        have started := shape_startStore (left.launch client)
          (left.partitions.next (.client client)) surroundings
        exact stuck_bringUp_of_started client considerate.patient launching.opened
          ((stuck_eq_of_shape started).trans stuck)
      have path := considerate.path launching.orderly launching.covered calm
      have gone := evenhanded.react launched launching.orderly launching.covered calm
      have after := path.orderly launching.orderly
      have stands := after.starting List.mem_cons_self
      have entered := after.tracked_of_busy List.mem_cons_self rfl
      -- Nobody can have shut the directory down, as it would have had to wait for this start.
      have opened : (surroundings.react (.startup (.client client))
          (left.launch client)).closed = false := after.open_of_busy List.mem_cons_self
      obtain ⟨result, settled⟩ := gone.settle stands entered
      rw [bringUp_of_open considerate.ungauged launching.opened opened,
        bringUp_of_open considerate.ungauged (launched.agree.closed.trans launching.opened)
          (gone.agree.closed.trans opened)]
      refine ⟨⟨(path.head launching.move).tail (.settle client _ rfl), ?_⟩,
        congrArg (Except.map _) result, settled⟩
      have outside := (settle_keeps stands entered).1
      have moments := considerate.moments (.startup (.client client)) (left.launch client)
      exact (congrArg Journal.moments outside).trans
        (moments.trans (congrArg Journal.moments launching.outside))

theorem clientWithin {looks : Nat} (evenhanded : Evenhanded kept surroundings)
    (runs : RunsAgreeOnKept kept left right) (orderly : Orderly busy left.shape)
    (covered : Covered busy left.outside.moments)
    (unstuck : (clientWithin surroundings client (looks + 1) left).2.stuck = false) :
    Keeps kept busy left (clientWithin surroundings client (looks + 1) left)
      (clientWithin surroundings client (looks + 1) right) := by
  have agree := runs.agree
  have considerate := evenhanded.considerate
  rw [clientWithin_succ] at unstuck ⊢
  rw [clientWithin_succ, agree.closed]
  cases closed : left.closed with
  | true => exact ⟨.refl, rfl, runs⟩
  | false =>
    simp only [Bool.false_eq_true, if_false, closed, seek, agree.tracked?] at unstuck ⊢
    cases tracked : left.tracked? client with
    | some handle =>
      simp only [tracked] at unstuck ⊢
      obtain ⟨attended, ready⟩ := attend_of_tracked orderly tracked unstuck
      rw [attended, attend_of_ready ((agree.stages handle).trans ready)]
      exact ⟨.refl, rfl, runs⟩
    | none =>
      simp only [tracked, register_eq considerate.ungauged] at unstuck ⊢
      have calm : (surroundings.react (.create (.client client)) left).stuck = false := by
        apply unstuck_of_later unstuck
        intro stuck
        have registered := stuck_register client (Surroundings.patient_quiet 0) stuck
        exact stuck_attend considerate.patient registered
          (stuck_clientWithin client considerate.patient looks)
      have walk := considerate.react orderly covered calm
      have met := evenhanded.react runs orderly (covered.weaken _) calm
      have attended := evenhanded.attend met (walk.path.orderly orderly) (walk.covered covered)
        unstuck
      exact ⟨walk.trans attended.walk, attended.result, attended.runs⟩

theorem resolve (evenhanded : Evenhanded kept surroundings)
    (runs : RunsAgreeOnKept kept left right)
    (orderly : Orderly busy left.shape) (covered : Covered busy left.outside.moments)
    (id : Option PartitionId) (unstuck : (left.resolve surroundings id).2.stuck = false) :
    (right.resolve surroundings id).1 = (left.resolve surroundings id).1 ∧
      RunsAgreeOnKept kept (left.resolve surroundings id).2 (right.resolve surroundings id).2 := by
  have agree := runs.agree
  match id with
  | none => exact ⟨rfl, runs⟩
  | some (.wellKnown role) => exact ⟨congrArg Except.ok (agree.progress.serving role), runs⟩
  | some (.client client) =>
    simp only [Directory.resolve, agree.isolated] at unstuck ⊢
    split at unstuck
    · rename_i isolated
      obtain ⟨looks, turns⟩ := evenhanded.considerate.turns
      simp only [isolated, if_true, Directory.client, turns] at unstuck ⊢
      have searched := evenhanded.clientWithin runs orderly covered unstuck
      exact ⟨searched.result, searched.runs⟩
    · rename_i together
      simp only [together]
      exact ⟨rfl, runs⟩

theorem serve (evenhanded : Evenhanded kept surroundings)
    (runs : RunsAgreeOnKept kept left right)
    (orderly : Orderly busy left.shape) (covered : Covered busy left.outside.moments)
    (unstuck : (left.perform surroundings call).2.stuck = false) :
    (call.rests kept left →
        (right.perform surroundings call).1 = (left.perform surroundings call).1) ∧
      RunsAgreeOnKept kept (left.perform surroundings call).2 (right.perform surroundings call).2 := by
  have agree := runs.agree
  cases plain : call.plain with
  | true =>
    rw [perform_plain evenhanded.considerate.ungauged plain] at unstuck ⊢
    rw [perform_plain evenhanded.considerate.ungauged plain]
    have after := agree.act plain
    have calm := after.stuck.trans unstuck
    exact ⟨fun rests => agree.response plain rests,
      runs.keep after (outside_act plain unstuck) (outside_act plain calm)⟩
  | false =>
    cases call with
    | resolve id =>
      obtain ⟨found, after⟩ := evenhanded.resolve runs orderly covered id unstuck
      exact ⟨fun _ => congrArg Response.found found, after⟩
    | clientPartition id =>
      cases id with
      | none =>
        have same : right.clientPartition surroundings none =
            ((left.clientPartition surroundings none).1, right) := by
          simp only [clientPartition, agree.isolated]
        simp only [perform, same]
        exact ⟨fun _ => trivial, runs⟩
      | some id =>
        obtain ⟨found, after⟩ := evenhanded.resolve runs orderly covered (some id) unstuck
        exact ⟨fun _ => congrArg Response.found found, after⟩
    | startStore handle =>
      have started := shape_startStore left handle surroundings
      have gone := evenhanded.react runs orderly (covered.weaken _)
        ((stuck_eq_of_shape started).symm.trans unstuck)
      simp only [perform]
      rw [startStore_eq surroundings, startStore_eq surroundings]
      constructor
      · intro rests
        exact congrArg Response.done (gone.agree.result_operate (Or.inl rests) _ _)
      · refine gone.keep (gone.agree.startStore handle) ?_ ?_
        · exact congrArg Shape.outside (shape_startStore_quiet _ _ 0)
        · exact congrArg Shape.outside (shape_startStore_quiet _ _ 0)
    | _ => cases plain

theorem make (evenhanded : Evenhanded kept surroundings)
    (runs : RunsAgreeOnKept kept left right)
    (orderly : Orderly busy left.shape) (covered : Covered busy left.outside.moments)
    (unstuck : (left.make surroundings call).stuck = false) :
    RunsAgreeOnKept kept (left.make surroundings call) (right.make surroundings call) := by
  have begun : RunsAgreeOnKept kept (left.record (.begins call)) (right.record (.begins call)) :=
    runs.record rfl nofun
  have orderly : Orderly busy (left.record (.begins call)).shape :=
    orderly.congr rfl rfl rfl
  obtain ⟨response, ended⟩ := evenhanded.serve begun orderly covered unstuck
  refine ended.record rfl fun {_ _ _ _ _} one other rests => ?_
  obtain ⟨rfl, rfl, rfl⟩ := Event.ends.inj one
  obtain ⟨-, -, rfl⟩ := Event.ends.inj other
  exact response rests

theorem makeAll (evenhanded : Evenhanded kept surroundings)
    (runs : RunsAgreeOnKept kept left right)
    (orderly : Orderly busy left.shape) (covered : Covered busy left.outside.moments)
    {calls : List (Call τ υ)} (unstuck : (left.makeAll surroundings calls).stuck = false) :
    RunsAgreeOnKept kept (left.makeAll surroundings calls) (right.makeAll surroundings calls) := by
  induction calls generalizing left right with
  | nil => exact runs
  | cons call rest ih =>
    have considerate := evenhanded.considerate
    have calm : (left.make surroundings call).stuck = false :=
      unstuck_of_later unstuck fun stuck => stuck_makeAll considerate.patient stuck rest
    have walk := considerate.make orderly covered trivial calm
    have first := evenhanded.make runs orderly covered calm
    exact ih first (walk.path.orderly orderly) (walk.covered covered) unstuck

theorem makeWithin (evenhanded : Evenhanded kept surroundings)
    (runs : RunsAgreeOnKept kept left right) (orderly : Orderly busy left.shape)
    {moment : Moment}
    (covered : Covered busy (moment :: left.outside.moments)) {calls : List (Call τ υ)}
    (unstuck : (left.makeWithin surroundings moment calls).stuck = false) :
    RunsAgreeOnKept kept (left.makeWithin surroundings moment calls)
      (right.makeWithin surroundings moment calls) := by
  have entered : Orderly busy (left.enter moment).shape := orderly.congr rfl rfl rfl
  have made := evenhanded.makeAll (runs.enter moment) entered covered unstuck
  unfold Directory.makeWithin
  rw [runs.moments]
  exact made.leave moment left.outside.moments

end Evenhanded

theorem Script.evenhanded (script : Script τ υ) (turns depth : Nat) :
    Evenhanded kept (others (script.habit : Habit φ σ τ υ) turns depth) := by
  -- Calls inside a moment are made among others who can nest moments one level less.
  induction depth with
  | zero =>
    exact ⟨considerate_others (fun _ _ _ _ => trivial) turns 0, fun runs _ _ _ => runs⟩
  | succ depth ih =>
    refine ⟨considerate_others (fun _ _ _ _ => trivial) turns (depth + 1),
      fun {moment busy left right} runs orderly covered unstuck => ?_⟩
    have same : (script.habit : Habit φ σ τ υ) moment right = script.habit moment left :=
      congrArg (script moment) runs.occurrences
    cases moment with
    | gauge => exact runs
    | create id =>
      simp only [others, same]
      exact ih.makeWithin runs orderly covered unstuck
    | startup id =>
      simp only [others, same]
      exact ih.makeWithin runs orderly covered unstuck

end PeerDirectory.Directory

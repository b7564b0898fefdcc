import PeerDirectory.Proofs.Directory.Lifecycle
import PeerDirectory.Proofs.Run.Journal
import PeerDirectory.Proofs.Run.Orderly
import Mathlib.Logic.Relation

/-!
Runs as sequences of moves. A move is what happens between two moments at which others can make
calls: a call that nobody can interrupt, or one stretch of a call that looks for a client's
partition. Whatever holds of all runs is proved by showing that no move breaks it.
-/

namespace PeerDirectory.Directory

variable {φ σ τ υ : Type}

def Call.plain : Call τ υ → Bool
  | .resolve _ | .clientPartition _ | .startStore _ => false
  | _ => true

def Call.drives : Call τ υ → Bool
  | .startStore _ | .stopStore _ => true
  | _ => false

def Call.seeks : Call τ υ → Option Hash
  | .resolve (some (.client client)) | .clientPartition (some (.client client)) => some client
  | _ => none

/-- A run, and the partitions that calls under way are starting, the innermost first. -/
structure Position (φ σ τ υ : Type) where
  busy : List Handle
  run : Run φ σ τ υ

def Covered (busy : List Handle) (moments : List Moment) : Prop :=
  ∀ handle ∈ busy, .startup handle.id ∈ moments

/-- What the response to a call tells of the directory when the call ends. Whoever looks for a
client's partition while clients are kept apart finds one that is ready, or is refused because the
directory is closed. Nothing is built for one who looks in a closed directory, or while clients are
not kept apart. -/
structure Answered {γ : Type} (before : Directory φ σ Unit) (call : Call τ υ)
    (response : Response) (state : Directory φ σ γ) : Prop where
  found : ∀ {client handle}, call.seeks = some client → before.isolated = true →
    response = .found (.ok handle) →
      state.tracked? client = some handle ∧ state.stage? handle = some (.ready, false)
  closed : ∀ {client}, call.seeks = some client → before.isolated = true →
    state.closed = true → response = .found (.error .closed)
  together : ∀ {client}, call.seeks = some client → before.isolated = false →
    response = .found (.ok (wellKnown .main)) ∧ state.snapshot = before
  barred : ∀ {client}, call.seeks = some client → before.closed = true → state.snapshot = before
  named : ∀ {handle}, handle ∈ response.partitions →
    (∃ role, handle = wellKnown role) ∨ state.isReady handle = true

/-! ## What keeps a directory in order -/

section Stopping

variable {γ : Type} {directory : Directory φ σ γ} {busy : List Handle} {client : Hash}
  [PartitionStore σ]

theorem orderly_removeClient (orderly : Orderly busy directory.shape)
    (unstuck : (directory.removeClient (.quiet 0) client).2.stuck = false) :
    Orderly busy (directory.removeClient (.quiet 0) client).2.shape := by
  cases tracked : directory.tracked? client with
  | none =>
    simp only [removeClient, tracked]
    exact orderly
  | some handle =>
    obtain ⟨idle, removed⟩ := removeClient_of_unstuck tracked unstuck
    have notBusy : handle ∉ busy := fun starting => idle _ (orderly.starting starting)
    have stands : directory.stage? handle = some (.ready, false) :=
      (orderly.tracked tracked).resolve_right notBusy
    have struck := orderly.strike tracked
    rw [List.erase_of_not_mem notBusy] at struck
    rw [removed, stands]
    exact struck

theorem idle_of_shutdown [StoreFactory φ σ] (orderly : Orderly busy directory.shape)
    (unstuck : (directory.shutdown (.quiet 0)).stuck = false) : busy = [] := by
  obtain ⟨idle, -⟩ := shutdown_of_unstuck unstuck
  cases busy with
  | nil => rfl
  | cons handle rest =>
    -- The partition that is being started would have to be shut down with the others.
    obtain ⟨client, tracked⟩ := orderly.owned List.mem_cons_self
    have starting := orderly.starting (List.mem_cons_self (a := handle) (l := rest))
    exact absurd starting (idle handle (mem_standing_of_tracked tracked) _)

theorem orderly_shutdown [StoreFactory φ σ] (orderly : Orderly busy directory.shape)
    (unstuck : (directory.shutdown (.quiet 0)).stuck = false) :
    Orderly busy (directory.shutdown (.quiet 0)).shape := by
  obtain ⟨-, closed⟩ := shutdown_of_unstuck unstuck
  obtain rfl := idle_of_shutdown orderly unstuck
  rw [closed]
  refine orderly.close (fun handle => ?_) fun {client handle} tracked => ?_
  · by_cases standing : handle ∈ directory.standing
    · cases stands : directory.stage? handle with
      | none => simp [standing, stands]
      | some stage => simp [standing, stands]
    · simp [standing]
  · have idle : directory.stage? handle = some (.ready, false) :=
      (orderly.tracked tracked).resolve_right List.not_mem_nil
    simp [mem_standing_of_tracked tracked, idle]

end Stopping

theorem Answered.of_seeks_none {γ : Type} {before : Directory φ σ Unit} {call : Call τ υ}
    {response : Response} {state : Directory φ σ γ} (nobody : call.seeks = none)
    (named : ∀ {handle}, handle ∈ response.partitions →
      (∃ role, handle = wellKnown role) ∨ state.isReady handle = true) :
    Answered before call response state := by
  have never {client : Hash} : call.seeks ≠ some client := by simp [nobody]
  exact ⟨fun seeks => absurd seeks never, fun seeks => absurd seeks never,
    fun seeks => absurd seeks never, fun seeks => absurd seeks never, named⟩

theorem Call.seeks_of_plain {call : Call τ υ} (plain : call.plain = true) : call.seeks = none := by
  cases call with
  | resolve id => cases plain
  | clientPartition id => cases plain
  | _ => rfl

variable [PartitionStore σ] [StoreFactory φ σ] [Backdoor φ σ τ υ]

structure Truthful (event : Event φ σ τ υ) (last state : Directory φ σ Unit) : Prop where
  answered : ∀ {call before response}, event = .ends call before response →
    Answered before call response state
  acted : ∀ {call before response}, event = .ends call before response → call.plain = true →
    before = last ∧ ∃ run : Run φ σ τ υ, run.snapshot = before ∧
      (run.perform (.quiet 0) call).2.stuck = false ∧
      response = (run.perform (.quiet 0) call).1 ∧
      state = (run.perform (.quiet 0) call).2.snapshot

section Truth

variable {event : Event φ σ τ υ} {last state : Directory φ σ Unit}

theorem Truthful.asked (truthful : Truthful event last state) {question : Question}
    {before : Directory φ σ Unit} {response : Response}
    (asked : event = .ends (.ask question) before response) :
    before = state ∧ response = state.answer question := by
  obtain ⟨-, run, rfl, -, rfl, rfl⟩ := truthful.acted asked rfl
  refine ⟨rfl, ?_⟩
  cases question <;> rfl

theorem Truthful.closed (truthful : Truthful event last state) {before : Directory φ σ Unit}
    {response : Response} (ended : event = .ends .shutdown before response) :
    state.closed = true := by
  obtain ⟨-, run, -, unstuck, -, rfl⟩ := truthful.acted ended rfl
  exact congrArg Shape.closed (shutdown_of_unstuck unstuck).2

end Truth

inductive Move (permitted : Call τ υ → Prop) :
    Position φ σ τ υ → Position φ σ τ υ → Prop
  | begin {busy run} (call : Call τ υ) (allowed : permitted call)
      (covered : Covered busy run.outside.moments) :
      Move permitted ⟨busy, run⟩ ⟨busy, run.record (.begins call)⟩
  | act {busy run} (call : Call τ υ) (allowed : permitted call) (plain : call.plain = true)
      (covered : Covered busy run.outside.moments)
      (unstuck : (run.perform (.quiet 0) call).2.stuck = false) :
      Move permitted ⟨busy, run⟩
        ⟨busy, (run.perform (.quiet 0) call).2.record
          (.ends call run.snapshot (run.perform (.quiet 0) call).1)⟩
  | reply {busy run} (call : Call τ υ) (before : Directory φ σ Unit) (response : Response)
      (interruptible : call.plain = false) (covered : Covered busy run.outside.moments)
      (answered : Answered before call response run) :
      Move permitted ⟨busy, run⟩ ⟨busy, run.record (.ends call before response)⟩
  | enter {busy run} (moment : Moment)
      (covered : Covered busy (moment :: run.outside.moments)) :
      Move permitted ⟨busy, run⟩ ⟨busy, run.enter moment⟩
  | leave {busy run} (moment : Moment) (moments : List Moment)
      (covered : Covered busy run.outside.moments) :
      Move permitted ⟨busy, run⟩ ⟨busy, run.leave moment moments⟩
  | drive {busy run} (handle : Handle)
      (allowed : permitted (.startStore handle)) :
      Move permitted ⟨busy, run⟩ ⟨busy, (run.startStore (.quiet 0) handle).2⟩
  | discard {busy run} (client : Hash) (handle : Handle)
      (tracked : run.tracked? client = some handle) :
      Move permitted ⟨busy, run⟩ ⟨busy, (run.register (.quiet 0) client).2⟩
  | refuse {busy run} (client : Hash) (untracked : run.tracked? client = none)
      (closed : run.closed = true) :
      Move permitted ⟨busy, run⟩
        ⟨busy, ((run.launch client).settle client (run.partitions.next (.client client))).2⟩
  | launch {busy run} (client : Hash) (untracked : run.tracked? client = none)
      (opened : run.closed = false) :
      Move permitted ⟨busy, run⟩
        ⟨run.partitions.next (.client client) :: busy, run.launch client⟩
  | settle {busy run} (client : Hash) (handle : Handle) (named : handle.id = .client client) :
      Move permitted ⟨handle :: busy, run⟩ ⟨busy, (run.settle client handle).2⟩

abbrev Path (permitted : Call τ υ → Prop) :
    Position φ σ τ υ → Position φ σ τ υ → Prop :=
  Relation.ReflTransGen (Move permitted)

/-- A move is made of single changes, and of what is written into the journal. -/
theorem Move.keeps {permitted : Call τ υ → Prop} {a b : Position φ σ τ υ}
    {holds : Run φ σ τ υ → Prop} (move : Move permitted a b)
    (keeping : (Surroundings.quiet 0).Keeping holds) (untouched : Untouched holds)
    (written : ∀ {run : Run φ σ τ υ} (outside), holds run → holds { run with outside })
    (held : holds a.run) : holds b.run := by
  have launched (run : Run φ σ τ υ) (held : holds run) (client : Hash) : holds (run.launch client) :=
    keeping (.setLocked _ _ true) (kept_register client keeping held)
  cases move with
  | begin => exact written _ held
  | act call => exact written _ (kept_perform keeping untouched held call)
  | reply => exact written _ held
  | enter => exact written _ (written _ held)
  | leave => exact written _ (written _ held)
  | drive => exact kept_startStore keeping held
  | discard client => exact kept_register client keeping held
  | refuse client =>
    exact keeping (.setLocked _ _ false) (kept_bringUp keeping (launched _ held client))
  | launch client => exact launched _ held client
  | settle client handle =>
    exact keeping (.setLocked _ handle false) (kept_bringUp keeping held)

/-! ## Moves keep the order -/

section Order

variable {permitted : Call τ υ → Prop} {busy : List Handle} {run : Run φ σ τ υ}
  {handle : Handle} {client : Hash}

theorem orderly_act {call : Call τ υ} (orderly : Orderly busy run.shape)
    (plain : call.plain = true)
    (unstuck : (run.perform (.quiet 0) call).2.stuck = false) :
    Orderly busy (run.perform (.quiet 0) call).2.shape := by
  cases call with
  | resolve id => cases plain
  | clientPartition id => cases plain
  | startStore handle => cases plain
  | removeClient client => exact orderly_removeClient orderly unstuck
  | shutdown => exact orderly_shutdown orderly unstuck
  | setIsolation enabled => simpa [perform] using orderly
  | findLease key => simpa [perform, shape_findLease] using orderly
  | ask question => exact orderly
  | insert handle key entry => simpa [perform] using orderly
  | session client opened => exact orderly.congr rfl rfl rfl
  | tune tuning => exact orderly.congr rfl rfl rfl
  | touch handle touch => simpa [perform] using orderly
  | stopStore handle => simpa [perform] using orderly

theorem outside_act {call : Call τ υ} (plain : call.plain = true)
    (unstuck : (run.perform (.quiet 0) call).2.stuck = false) :
    (run.perform (.quiet 0) call).2.outside = run.outside := by
  cases call with
  | resolve id => cases plain
  | clientPartition id => cases plain
  | startStore handle => cases plain
  | removeClient client =>
    cases tracked : run.tracked? client with
    | none =>
      simp only [perform, removeClient, tracked]
      rfl
    | some handle =>
      exact congrArg Shape.outside (removeClient_of_unstuck tracked unstuck).2
  | shutdown => exact congrArg Shape.outside (shutdown_of_unstuck unstuck).2
  | setIsolation enabled => exact congrArg Shape.outside (shape_setIsolation run enabled)
  | findLease key => exact congrArg Shape.outside (shape_findLease run key)
  | insert handle key entry => exact congrArg Shape.outside (shape_insert run handle key entry)
  | touch handle touch => exact congrArg Shape.outside (shape_touchStore run handle touch)
  | stopStore handle => exact congrArg Shape.outside (shape_stopStore run handle)
  | ask question => rfl
  | session client opened => rfl
  | tune tuning => rfl

omit [Backdoor φ σ τ υ] in
theorem orderly_refuse (orderly : Orderly busy run.shape) (untracked : run.tracked? client = none)
    (closed : run.closed = true) :
    Orderly busy
      ((run.launch client).settle client (run.partitions.next (.client client))).2.shape := by
  rw [(refuse_of_closed untracked closed).2]
  exact orderly.spare (by decide) (stage?_next _)

theorem Move.orderly {a b : Position φ σ τ υ} (move : Move permitted a b)
    (orderly : Orderly a.busy a.run.shape) : Orderly b.busy b.run.shape := by
  cases move with
  | begin => exact orderly.congr rfl rfl rfl
  | act call allowed plain covered unstuck =>
    exact (orderly_act orderly plain unstuck).congr rfl rfl rfl
  | reply => exact orderly.congr rfl rfl rfl
  | enter => exact orderly.congr rfl rfl rfl
  | leave => exact orderly.congr rfl rfl rfl
  | drive handle => simpa using orderly
  | discard client handle tracked =>
    obtain ⟨-, discarded⟩ := register_quiet_of_tracked 0 tracked
    rw [discarded]
    exact orderly.spare (by decide) (stage?_next _)
  | refuse client untracked closed => exact orderly_refuse orderly untracked closed
  | launch client untracked opened =>
    rw [shape_launch untracked]
    exact orderly.launch (Registry.id_next ..) (stage?_next _) untracked opened
  | settle client handle named =>
    have stands := orderly.starting List.mem_cons_self
    have tracked := orderly.tracked_of_busy List.mem_cons_self named
    rcases settle_cases stands tracked with ⟨-, -, finished⟩ | ⟨-, failed⟩
    · rw [finished]
      exact orderly.finish
    · have struck := orderly.strike tracked
      rw [List.erase_cons_head] at struck
      rw [failed]
      exact struck

theorem Path.orderly {a b : Position φ σ τ υ} (path : Path permitted a b)
    (orderly : Orderly a.busy a.run.shape) : Orderly b.busy b.run.shape := by
  induction path with
  | refl => exact orderly
  | tail _ move ih => exact move.orderly ih

theorem truthful_act {call : Call τ υ} (plain : call.plain = true)
    (unstuck : (run.perform (.quiet 0) call).2.stuck = false) :
    Truthful (.ends call run.snapshot (run.perform (.quiet 0) call).1) run.snapshot
      (run.perform (.quiet 0) call).2.snapshot := by
  constructor
  · intro other before response same
    obtain ⟨rfl, rfl, rfl⟩ := Event.ends.inj same
    apply Answered.of_seeks_none (Call.seeks_of_plain plain)
    intro handle named
    cases call with
    | ask question => exact named_answer named
    | resolve id => cases plain
    | clientPartition id => cases plain
    | _ => cases named
  · intro other before response same _
    obtain ⟨rfl, rfl, rfl⟩ := Event.ends.inj same
    exact ⟨rfl, run, rfl, unstuck, rfl, rfl⟩

omit [PartitionStore σ] [StoreFactory φ σ] [Backdoor φ σ τ υ] in
theorem Answered.snapshot {call : Call τ υ} {before : Directory φ σ Unit} {response : Response}
    (answered : Answered before call response run) :
    Answered before call response run.snapshot :=
  ⟨answered.found, answered.closed, answered.together, answered.barred, answered.named⟩

theorem truthful_reply {call : Call τ υ} {before last state : Directory φ σ Unit}
    {response : Response} (interruptible : call.plain = false)
    (answered : Answered before call response state) :
    Truthful (.ends call before response) last state := by
  constructor
  · intro other before response same
    obtain ⟨rfl, rfl, rfl⟩ := Event.ends.inj same
    exact answered
  · intro other before response same plain
    obtain ⟨rfl, -, -⟩ := Event.ends.inj same
    cases interruptible.symm.trans plain

theorem truthful_of_underway {event : Event φ σ τ υ} {last state : Directory φ σ Unit}
    (underway : ∀ call before response, event ≠ .ends call before response) :
    Truthful event last state :=
  ⟨fun same => absurd same (underway _ _ _), fun same => absurd same (underway _ _ _)⟩

theorem Move.points {a b : Position φ σ τ υ} (move : Move permitted a b)
    (orderly : Orderly a.busy a.run.shape) :
    b.run.outside.points = a.run.outside.points ∨
      ∃ event moments, b.run.outside.points =
          a.run.outside.points ++ [⟨event, moments, b.run.snapshot⟩] ∧
        Covered b.busy moments ∧ Truthful event a.run.snapshot b.run.snapshot := by
  let points (shape : Shape (Journal φ σ τ υ)) := shape.outside.points
  cases move with
  | begin call allowed covered =>
    exact Or.inr ⟨_, _, rfl, covered, truthful_of_underway (by simp)⟩
  | act call allowed plain covered unstuck =>
    have outside := outside_act plain unstuck
    refine Or.inr ⟨.ends call _ _, _, congrArg (·.points ++ _) outside, ?_,
      truthful_act plain unstuck⟩
    rw [outside]
    exact covered
  | reply call before response interruptible covered answered =>
    exact Or.inr ⟨_, _, rfl, covered,
      truthful_reply interruptible answered.snapshot⟩
  | enter moment covered => exact Or.inr ⟨_, _, rfl, covered, truthful_of_underway (by simp)⟩
  | leave moment moments covered =>
    exact Or.inr ⟨_, _, rfl, covered, truthful_of_underway (by simp)⟩
  | @drive busy run handle allowed =>
    exact Or.inl (congrArg points (shape_startStore_quiet run handle 0))
  | discard client handle tracked =>
    exact Or.inl (congrArg points (register_quiet_of_tracked 0 tracked).2)
  | refuse client untracked closed =>
    exact Or.inl (congrArg points (refuse_of_closed untracked closed).2)
  | launch client untracked opened =>
    exact Or.inl (congrArg points (shape_launch untracked))
  | settle client handle named =>
    have stands := orderly.starting List.mem_cons_self
    have tracked := orderly.tracked_of_busy List.mem_cons_self named
    rcases settle_cases stands tracked with ⟨-, -, settled⟩ | ⟨-, settled⟩
    · exact Or.inl (congrArg points settled)
    · exact Or.inl (congrArg points settled)

/-- Nothing that was recorded is ever taken back. -/
theorem Path.grows {a b : Position φ σ τ υ} (path : Path permitted a b)
    (orderly : Orderly a.busy a.run.shape) :
    a.run.outside.points <+: b.run.outside.points := by
  induction path with
  | refl => exact List.prefix_rfl
  | tail path move ih =>
    rcases move.points (Path.orderly path orderly) with same | ⟨event, moments, added, -⟩
    · rwa [same]
    · rw [added]
      exact ih.trans (List.prefix_append _ _)

section Invariants

variable {a b : Position φ σ τ υ} {holds : Position φ σ τ υ → Prop}
  {seen : Directory φ σ Unit → Prop}

theorem Path.kept (path : Path permitted a b)
    (keeps : ∀ {a b}, Move permitted a b → Orderly a.busy a.run.shape → holds a → holds b)
    (orderly : Orderly a.busy a.run.shape) (held : holds a) : holds b := by
  induction path with
  | refl => exact held
  | tail path move ih => exact keeps move (Path.orderly path orderly) ih

theorem Path.points (path : Path permitted a b)
    (keeps : ∀ {a b}, Move permitted a b → Orderly a.busy a.run.shape → holds a → holds b)
    (shows : ∀ {a}, Orderly a.busy a.run.shape → holds a → seen a.run.snapshot)
    (orderly : Orderly a.busy a.run.shape) (held : holds a) :
    ∀ point ∈ b.run.outside.points, point ∈ a.run.outside.points ∨ seen point.state := by
  induction path with
  | refl => exact fun point member => Or.inl member
  | tail path move ih =>
    have still := Path.orderly path orderly
    intro point member
    rcases move.points still with same | ⟨event, moments, added, -⟩
    · exact ih point (same ▸ member)
    · rw [added, List.mem_append, List.mem_singleton] at member
      rcases member with earlier | rfl
      · exact ih point earlier
      · exact Or.inr
          (shows (move.orderly still) (keeps move still (Path.kept path keeps orderly held)))

end Invariants

end Order

end PeerDirectory.Directory

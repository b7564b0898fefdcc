import PeerDirectory.Proofs.Aside.Run
import PeerDirectory.Proofs.Directory.Thinning

namespace PeerDirectory.Directory

variable {φ σ τ υ : Type}

/-- The same was told of two events, unless they are answers to a question that chooses among
clients. -/
inductive EventsEqualButEnumerator : Event φ σ τ υ → Event φ σ τ υ → Prop
  | told {one other : Event φ σ τ υ} (same : other.told = one.told) :
      EventsEqualButEnumerator one other
  | chosen {call : Call τ υ} {before again : Directory φ σ Unit} {response reply : Response}
      (choosy : call.choosy = true) :
      EventsEqualButEnumerator (.ends call before response) (.ends call again reply)

structure StatesEqualButEnumerator (one other : Directory φ σ Unit) : Prop where
  essence : other.essence = one.essence
  metrics : ∀ metric : Metric, metric.looksUp = false →
    other.metrics[metric]? = one.metrics[metric]?

structure PointsEqualButEnumerator (one other : Point φ σ τ υ) : Prop where
  event : EventsEqualButEnumerator one.event other.event
  moments : other.moments = one.moments
  state : StatesEqualButEnumerator one.state other.state

structure RunsEqualButEnumerator (one other : Run φ σ τ υ) : Prop where
  points : List.Forall₂ PointsEqualButEnumerator one.outside.points other.outside.points
  moments : other.outside.moments = one.outside.moments
  state : StatesEqualButEnumerator one.snapshot other.snapshot

/-- What the enumerator of a directory does, and what it does not. -/
structure OnlyFilters [PartitionStore σ] [StoreFactory φ σ] [Backdoor φ σ τ υ]
    (run : Run φ σ τ υ) : Prop where
  equal : ∀ (enumerator : Enumerator) {habit : Habit φ σ τ υ},
    (∀ moment {earlier later}, RunsEqualButEnumerator earlier later →
      habit moment later = habit moment earlier) →
    ∀ (turns depth : Nat) (calls : List (Call τ υ)),
      RunsEqualButEnumerator (run.makeAll (others habit turns depth) calls)
        (makeAll (others habit turns depth) { run with enumerator } calls)
  removed : run.isolated = true → ∀ {clients : List Hash},
    (∀ client, client ∈ clients ↔ (∃ handle, run.tracked? client = some handle) ∧
      ¬run.enumerator.Admits run.live client) →
    ∀ (habit : Habit φ σ τ υ) (turns depth : Nat),
      (makeAll (others habit turns depth) { run with enumerator := .unrestricted }
        (clients.map .removeClient)).stuck = run.stuck ∧
      SameOwners run (makeAll (others habit turns depth) { run with enumerator := .unrestricted }
        (clients.map .removeClient))
  merged : run.isolated = false → ∀ enumerator : Enumerator, SameOwners run { run with enumerator }
  nothing : ∀ (surroundings : Surroundings φ σ (Journal φ σ τ υ)) {call : Call τ υ},
    call.choosy = true →
      { (run.perform surroundings call).2 with metrics := run.metrics } = run

section RunsEqualButEnumerator

variable [PartitionStore σ] {left right : Run φ σ τ υ}

theorem corresponding_of_matched {one other : Point φ σ τ υ}
    (matched : Matched False [] one other) : PointsEqualButEnumerator one other := by
  obtain ⟨echoes, moments, essence, metrics, -⟩ := matched
  refine ⟨?_, moments, essence, metrics⟩
  rcases echoes with same | ⟨-, call, before, again, response, reply, choosy, here, there⟩
  · exact .told same
  · rw [here, there]
    exact .chosen choosy

theorem RunsEqualUpToReads.equal (runs : RunsEqualUpToReads False (fun _ => False) left right) :
    RunsEqualButEnumerator left right := by
  obtain ⟨essence, metrics, inserted, moments, points, -⟩ := runs
  have nothing (point : Point φ σ τ υ) : ¬point.Inserted fun _ => False := by
    rintro ⟨⟩ <;> assumption
  exact ⟨(points.forall₂ nothing).2.imp fun _ _ => corresponding_of_matched, moments, essence,
    metrics⟩

theorem RunsEqualUpToReads.exchange (run : Run φ σ τ υ) (enumerator : Enumerator) :
    RunsEqualUpToReads False (fun _ => False) run { run with enumerator } :=
  ⟨rfl, fun _ _ => rfl, [], rfl, .refl (Matched.refl False) _, False.elim⟩

theorem runsEqualButEnumerator_makeAll [StoreFactory φ σ] [Backdoor φ σ τ υ] {run : Run φ σ τ υ}
    {habit : Habit φ σ τ υ}
    (heedless : ∀ moment {earlier later}, RunsEqualButEnumerator earlier later →
      habit moment later = habit moment earlier)
    (enumerator : Enumerator) (turns depth : Nat) (calls : List (Call τ υ)) :
    RunsEqualButEnumerator (run.makeAll (others habit turns depth) calls)
      (makeAll (others habit turns depth) { run with enumerator } calls) := by
  apply RunsEqualUpToReads.equal
  refine (RunsEqualUpToReads.exchange run enumerator).makeAll ?_ (fun _ => False.elim) (.refl _ calls)
  apply reactEqualUpTo_others _ fun _ => False.elim
  intro moment left right runs
  rw [heedless moment runs.equal]
  exact .refl _ _

end RunsEqualButEnumerator

section Start

variable [PartitionStore σ] [StoreFactory φ σ] {γ : Type}

def Aside.With (enumerator : Enumerator) (one other : Aside γ) : Prop :=
  other = { one with enumerator }

omit [PartitionStore σ] [StoreFactory φ σ] in
theorem reactEqualUpTo_tuning (enumerator : Enumerator) (change : Moment → φ → φ) :
    ReactEqualUpTo (σ := σ) (Aside.With (γ := γ) enumerator) (.tuning change) (.tuning change) where
  turns := rfl
  react {moment _ _} equal := by
    refine ⟨?_, equal.metrics, equal.tied⟩
    exact congrArg (fun found : Directory φ σ Unit => { found with
      factory := change moment found.factory }) equal.essence

theorem start_exchange (factory : φ) (sampler : Sampler) (one other : Enumerator) (outside : γ)
    (change : Moment → φ → φ) (settings : Settings) :
    start (σ := σ) (unbuilt factory sampler other outside) (.tuning change) settings =
      ((start (unbuilt factory sampler one outside) (.tuning change) settings).1,
        { (start (unbuilt factory sampler one outside) (.tuning change) settings).2 with
          enumerator := other }) := by
  have begun : EqualUpTo (Aside.With other) (unbuilt (σ := σ) factory sampler one outside)
      (unbuilt factory sampler other outside) := ⟨rfl, fun _ _ => rfl, rfl⟩
  obtain ⟨result, essence, metrics, tied⟩ :=
    begun.start (reactEqualUpTo_tuning other change) settings
  refine Prod.ext result (EqualUpTo.eq ⟨essence, metrics, tied.symm⟩)

end Start

section Removal

variable [PartitionStore σ] {run : Run φ σ τ υ}

omit [PartitionStore σ] in
theorem Orderly.free {γ : Type} {directory : Directory φ σ γ} (orderly : Orderly [] directory.shape)
    (handle : Handle) : directory.held handle = false := by
  rw [held, Option.any_eq_false]
  intro partition here
  cases locked : partition.locked with
  | false => rfl
  | true =>
    have stands : directory.stage? handle = some (partition.lifecycle, true) := by
      simp [stage?, here, locked]
    exact absurd (orderly.locked stands) List.not_mem_nil

variable [StoreFactory φ σ] [Backdoor φ σ τ υ]

theorem Thinned.makeAll {γ : Type} {before : Directory φ σ γ}
    {surroundings : Surroundings φ σ (Journal φ σ τ υ)} (ungauged : surroundings.Ungauged)
    (begun : Thinned [] before run) (clients : List Hash) :
    Thinned clients before (run.makeAll surroundings (clients.map .removeClient)) := by
  induction clients using List.reverseRecOn with
  | nil => exact begun
  | append_singleton sofar client ih =>
    -- What is recorded stands outside the directory.
    have next : Thinned sofar before
        ((run.makeAll surroundings (sofar.map .removeClient)).record
          (.begins (.removeClient client))) :=
      ⟨ih.policy, ih.unrestricted, ih.clients, ih.partitions, ih.free, ih.stuck⟩
    have after := next.removeClient client
    rw [← removeClient_eq ungauged] at after
    rw [List.map_append, Directory.makeAll, List.foldl_append]
    exact ⟨after.policy, after.unrestricted, after.clients, after.partitions, after.free, after.stuck⟩

end Removal

/-- A directory can be started with any enumerator, and is the same otherwise. Wherever it comes to
between calls, its enumerator only filters. -/
theorem enumerator_filters [PartitionStore σ] [StoreFactory φ σ] [Backdoor φ σ τ υ]
    {run : Run φ σ τ υ} (reached : Reached [] run) :
    (∀ (factory : φ) (sampler : Sampler) (one other : Enumerator) (change : Moment → φ → φ)
      (settings : Settings),
      start (blankRun factory sampler other : Run φ σ τ υ) (.tuning change) settings =
        ((start (blankRun factory sampler one : Run φ σ τ υ) (.tuning change) settings).1,
          { (start (blankRun factory sampler one : Run φ σ τ υ) (.tuning change) settings).2 with
            enumerator := other })) ∧
      OnlyFilters run := by
  refine ⟨fun factory sampler one other change settings => ?_, ?_⟩
  · exact start_exchange factory sampler one other Journal.blank change settings
  constructor
  case equal =>
    intro enumerator habit heedless turns depth calls
    exact runsEqualButEnumerator_makeAll heedless enumerator turns depth calls
  case removed =>
    intro isolated clients listed habit turns depth
    have begun : Thinned [] run { run with enumerator := .unrestricted } :=
      ⟨rfl, rfl, fun client => (if_neg List.not_mem_nil).symm, fun _ _ => rfl,
        reached.orderly.free, rfl⟩
    have ungauged : (others habit turns depth).Ungauged :=
      (considerate_others (fun _ _ _ _ => trivial) turns depth).ungauged
    have thinned := begun.makeAll ungauged clients
    exact ⟨thinned.stuck, thinned.sameOwners isolated (leavesOut_of_admits listed)⟩
  case merged =>
    intro merged enumerator
    exact sameOwners_of_merged merged enumerator
  case nothing =>
    intro surroundings call choosy
    cases call with
    | findLease key =>
      rw [perform, findLease_after]
      rfl
    | ask question => rfl
    | _ => cases choosy

def pickyRun : Run MemoryFactory MemoryStore Tuning Blinding :=
  (start (unbuilt .plain .first (.chosen fun client => client = newcomer) .blank)
    (.tuning fun _ factory => factory) .standard).2

theorem built_pickyRun : Built pickyRun :=
  ⟨.plain, .first, .chosen fun client => client = newcomer, .standard, fun _ factory => factory,
    Prod.ext (by decide +kernel) rfl⟩

def disputed : Run MemoryFactory MemoryStore Tuning Blinding :=
  pickyRun.makeAll (others eager 0 2)
    [.resolve (some (.client someone)), .resolve (some (.client newcomer)),
      .insert ⟨.client newcomer, 0⟩ someone (.lease ⟨someone, none, [], 0⟩)]

theorem enumerator_filters_disputed :
    disputed.ownerOf someone = some (.client newcomer) ∧
      ownerOf { disputed with enumerator := .unrestricted } someone = some (.client someone) ∧
      disputed.leftOut = [someone] ∧
      SameOwners disputed (makeAll (others eager 0 2) { disputed with enumerator := .unrestricted }
        (disputed.leftOut.map .removeClient)) ∧
      RunsEqualButEnumerator
        (disputed.makeAll (others eager 0 2) [.findLease someone, .removeClient newcomer])
        (makeAll (others eager 0 2) { disputed with enumerator := .sessions }
          [.findLease someone, .removeClient newcomer]) := by
  have calm : disputed.stuck = false := by decide +kernel
  have isolated : disputed.isolated = true := by decide +kernel
  have reached : Reached [] disputed := built_pickyRun.reached.makeAll calm
  obtain ⟨-, filters⟩ := enumerator_filters reached
  refine ⟨by decide +kernel, by decide +kernel, by decide +kernel, ?_, ?_⟩
  · exact (filters.removed isolated (fun _ => mem_leftOut) eager 0 2).2
  · exact filters.equal .sessions
      (fun moment _ _ equal => eager_congr equal.moments moment) 0 2 _

end PeerDirectory.Directory

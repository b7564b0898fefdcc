import PeerDirectory.Proofs.Aside.Run
import PeerDirectory.Proofs.Directory.Stopping

namespace PeerDirectory

variable {φ σ γ τ υ : Type}

namespace Directory

def lookups [PartitionStore σ] (points : List (Point φ σ τ υ)) : List Metric :=
  (points.filterMap (·.outcome?)).map .ownerLookups

def tallied (directory : Directory φ σ γ) (counted : List Metric) : Directory φ σ γ :=
  { directory with metrics := directory.metrics.tally counted }

structure Unaltered [PartitionStore σ] (inserted : List (Point φ σ τ υ))
    (one other : Point φ σ τ υ) : Prop where
  told : other.event.told = one.event.told
  moments : other.moments = one.moments
  state : other.state = one.state.tallied (lookups inserted)

/-- A run is another one with reads inserted, of which nothing else can be noticed. -/
structure Invisible [PartitionStore σ] (inserted : List (Point φ σ τ υ)) (one other : Run φ σ τ υ) :
    Prop where
  points : Woven Unaltered (Point.Inserted fun call => call.reads = true) one.outside.points
    inserted other.outside.points
  moments : other.outside.moments = one.outside.moments
  state : other.snapshot = one.snapshot.tallied (lookups inserted)

theorem tally_plain (metrics : Metrics) (outcomes : List OwnerOutcome) {metric : Metric}
    (plain : metric.looksUp = false) :
    (metrics.tally (outcomes.map .ownerLookups))[metric]? = metrics[metric]? := by
  induction outcomes generalizing metrics with
  | nil => rfl
  | cons outcome rest ih =>
    refine (ih _).trans ?_
    rw [Metrics.getElem?_add, if_neg (Metric.ne_ownerLookups plain outcome)]

theorem aside_tallied (directory : Directory φ σ γ) (outcomes : List OwnerOutcome) :
    (directory.tallied (outcomes.map .ownerLookups)).aside =
      { directory.aside with lookups := outcomes.foldl Aside.counting directory.aside.lookups } := by
  induction outcomes generalizing directory with
  | nil => rfl
  | cons outcome rest ih =>
    refine (ih (directory.countOne (.ownerLookups outcome))).trans ?_
    rw [lookups_countOne]
    rfl

section Step

variable [PartitionStore σ] {inserted : List (Point φ σ τ υ)}

theorem kin_offset_iff {one other : Directory φ σ Unit} :
    EqualUpTo (Offset True inserted) one other ↔ other = one.tallied (lookups inserted) := by
  constructor
  · rintro ⟨essence, metrics, offset⟩
    obtain ⟨enumerator, counts⟩ := offset trivial
    have counted := aside_tallied one (inserted.filterMap (·.outcome?))
    refine EqualUpTo.eq ⟨essence, fun metric plain => ?_, ?_⟩
    · exact (metrics metric plain).trans (tally_plain one.metrics _ plain).symm
    · refine counted.trans (Aside.ext ?_ ?_ rfl)
      · exact enumerator.symm
      · exact counts.symm
  · rintro rfl
    refine ⟨rfl, fun metric plain => tally_plain _ _ plain, fun _ => ?_⟩
    rw [lookups, aside_tallied]
    exact ⟨rfl, rfl⟩

theorem matched_iff {one other : Point φ σ τ υ} :
    Matched True inserted one other ↔ Unaltered inserted one other := by
  constructor
  · rintro ⟨echoes, moments, state⟩
    refine ⟨?_, moments, kin_offset_iff.mp state⟩
    simpa [Echoes] using echoes
  · rintro ⟨told, moments, state⟩
    exact ⟨Or.inl told, moments, kin_offset_iff.mpr state⟩

theorem runsEqualUpToReads_iff {left right : Run φ σ τ υ} :
    RunsEqualUpToReads True (fun call => call.reads = true) left right ↔
      ∃ inserted, Invisible inserted left right := by
  constructor
  · rintro ⟨essence, metrics, inserted, moments, points, offset⟩
    have state : EqualUpTo (Offset True inserted) left.snapshot right.snapshot :=
      ⟨essence, metrics, offset⟩
    exact ⟨inserted, points.imp matched_iff.mp id, moments, kin_offset_iff.mp state⟩
  · rintro ⟨inserted, points, moments, state⟩
    obtain ⟨essence, metrics, offset⟩ := kin_offset_iff.mpr state
    exact ⟨essence, metrics, inserted, moments, points.imp matched_iff.mpr id, offset⟩

end Step

/-- Reads can be inserted anywhere: among the calls that are made on a directory, and among those that
others make at moments of these, as long as they do not act on what they read. Nothing is different
then, except that every lookup by unknown owner is counted. -/
theorem reads_invisible [PartitionStore σ] [StoreFactory φ σ] [Backdoor φ σ τ υ]
    {habit again : Habit φ σ τ υ} (run : Run φ σ τ υ) {calls more : List (Call τ υ)}
    (padded : Padded (fun call => call.reads = true) calls more)
    (interspersed : ∀ moment {inserted : List (Point φ σ τ υ)} {earlier later},
      Invisible inserted earlier later →
        Padded (fun call => call.reads = true) (habit moment earlier) (again moment later))
    (turns depth : Nat) :
    ∃ inserted, Invisible inserted (run.makeAll (others habit turns depth) calls)
      (run.makeAll (others again turns depth) more) := by
  apply runsEqualUpToReads_iff.mp
  refine (RunsEqualUpToReads.refl True _ run).makeAll ?_ (fun _ reads => reads) padded
  apply reactEqualUpTo_others _ (fun _ reads => reads)
  intro moment left right runs
  obtain ⟨inserted, invisible⟩ := runsEqualUpToReads_iff.mp runs
  exact interspersed moment invisible

def curious : Habit MemoryFactory MemoryStore Tuning Blinding
  | moment, run =>
    .findLease someone :: .ask (.existing (.client newcomer)) :: .ask .stats :: eager moment run

theorem reads_invisible_newcomer :
    (∃ inserted, Invisible inserted
      (plainRun.makeAll (others eager 0 2) [.resolve (some (.client newcomer))])
      (plainRun.makeAll (others curious 0 2)
        [.ask (.existing (.client newcomer)), .resolve (some (.client newcomer)),
          .findLease newcomer])) ∧
      (plainRun.makeAll (others curious 0 2)
        [.ask (.existing (.client newcomer)), .resolve (some (.client newcomer)),
          .findLease newcomer]).metrics.getD (.ownerLookups .miss) 0 = 3 := by
  refine ⟨reads_invisible plainRun ?_ ?_ 0 2, by decide +kernel⟩
  · exact .insert rfl (.keep (.insert rfl .nil))
  · intro moment inserted earlier later invisible
    rw [← eager_congr invisible.moments]
    exact .insert rfl (.insert rfl (.insert rfl (.refl _ _)))

end Directory

end PeerDirectory

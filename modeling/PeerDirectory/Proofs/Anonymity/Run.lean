import PeerDirectory.Proofs.Anonymity.Calls
import PeerDirectory.Proofs.Run.Points

namespace PeerDirectory

variable {mask : Hash → Hash}

theorem MaskedLog.since {one other first second : List LogEvent} (later : MaskedLog mask one other)
    (earlier : MaskedLog mask first second) (grown : first <:+ one) (again : second <:+ other) :
    MaskedLog mask (one.take (one.length - first.length))
      (other.take (other.length - second.length)) := by
  obtain ⟨added, rfl⟩ := grown
  obtain ⟨appended, rfl⟩ := again
  intro kept
  have whole := later kept
  rw [List.map_append, List.map_append] at whole
  simp only [List.length_append, Nat.add_sub_cancel, List.take_left']
  rw [← List.perm_append_right_iff]
  exact whole.trans ((earlier kept).symm.append_left _)

theorem Surroundings.Growing.perform {φ σ γ τ υ : Type} [PartitionStore σ] [StoreFactory φ σ]
    [Backdoor φ σ τ υ] {surroundings : Surroundings φ σ γ} (growing : surroundings.Growing)
    (directory : Directory φ σ γ) (call : Directory.Call τ υ) :
    directory.log <:+ (directory.perform surroundings call).2.log :=
  Directory.kept_perform (growing directory.log) ⟨fun _ grown => grown, fun _ _ grown => grown⟩
    (List.suffix_refl _) call

namespace Directory

variable {φ σ τ υ : Type}

def Point.written (point : Point φ σ τ υ) : List LogEvent :=
  match point.event with
  | .ends _ before _ => point.state.log.take (point.state.log.length - before.log.length)
  | _ => []

theorem recorded_growing (base : List LogEvent) :
    Recorded fun _ log (_ : Journal φ σ τ υ) => base <:+ log where
  wait grown := grown
  note grown event := grown.trans (List.suffix_cons event _)
  record grown _ := grown
  enter grown _ := grown
  leave _ grown _ := grown

theorem growing_others [PartitionStore σ] [StoreFactory φ σ] [Backdoor φ σ τ υ]
    (habit : Habit φ σ τ υ) (turns depth : Nat) : (others habit turns depth).Growing :=
  fun base => (recorded_growing base).keeping_others habit turns depth

/-- Two points that nobody can tell apart by metrics and statistics, nor by what the log shows, if
the mask keeps what is shown of hashes. -/
structure Point.Masked (mask : Hash → Hash)
    (one other : Point MemoryFactory MemoryStore Tuning Blinding) : Prop where
  occurrence : other.event.occurrence = one.event.occurrence.under mask
  metrics : other.state.metrics = one.state.metrics
  stats : other.state.stats = one.state.stats
  written : MaskedLog mask one.written other.written

def Journal.Masked (mask : Hash → Hash)
    (one other : Journal MemoryFactory MemoryStore Tuning Blinding) : Prop :=
  List.Forall₂ (Point.Masked mask) one.points other.points

theorem Journal.Masked.occurrences
    {one other : Journal MemoryFactory MemoryStore Tuning Blinding}
    (masked : one.Masked mask other) :
    other.points.map (·.event.occurrence) =
      (one.points.map (·.event.occurrence)).map (·.under mask) := by
  unfold Journal.Masked at masked
  generalize one.points = first at *
  generalize other.points = second at *
  induction masked with
  | nil => rfl
  | cons point _ ih => simp only [List.map_cons, point.occurrence, ih]

abbrev MaskedRun (mask : Hash → Hash) (limit : Nat)
    (left right : Run MemoryFactory MemoryStore Tuning Blinding) : Prop :=
  Masked mask limit (Journal.Masked mask) left right

variable {limit : Nat} {left right : Run MemoryFactory MemoryStore Tuning Blinding}
  {one other : Surroundings MemoryFactory MemoryStore
    (Journal MemoryFactory MemoryStore Tuning Blinding)}

namespace MaskedRun

theorem record (masked : MaskedRun mask limit left right)
    {first second : Event MemoryFactory MemoryStore Tuning Blinding}
    (occurrence : second.occurrence = first.occurrence.under mask)
    (written : MaskedLog mask
      (Point.written ⟨first, left.outside.moments, left.snapshot⟩)
      (Point.written ⟨second, right.outside.moments, right.snapshot⟩)) :
    MaskedRun mask limit (left.record first) (right.record second) := by
  have point : Point.Masked mask ⟨first, left.outside.moments, left.snapshot⟩
      ⟨second, right.outside.moments, right.snapshot⟩ :=
    ⟨occurrence, masked.metrics, masked.stats, written⟩
  exact { masked with outside := List.rel_append masked.outside (.cons point .nil) }

theorem enter (masked : MaskedRun mask limit left right) (moment : Moment) :
    MaskedRun mask limit (left.enter moment) (right.enter (moment.under mask)) := by
  have inside : MaskedRun mask limit
      { left with outside := { left.outside with moments := moment :: left.outside.moments } }
      { right with
        outside := { right.outside with
          moments := moment.under mask :: right.outside.moments } } :=
    { masked with outside := masked.outside }
  exact inside.record rfl fun _ => .refl _

theorem leave (masked : MaskedRun mask limit left right) (moment : Moment)
    (moments again : List Moment) :
    MaskedRun mask limit (left.leave moment moments) (right.leave (moment.under mask) again) := by
  have recorded : MaskedRun mask limit (left.record (.leaves moment))
      (right.record (.leaves (moment.under mask))) := masked.record rfl fun _ => .refl _
  exact { recorded with outside := recorded.outside }

end MaskedRun

namespace Masking

variable (masking : Masking mask limit (Journal.Masked mask) one other)
  (growing : other.Growing)

include masking growing

theorem make (masked : MaskedRun mask limit left right) (call : Call Tuning Blinding)
    (roomy : Roomy limit (left.make one call).log) :
    MaskedRun mask limit (left.make one call) (right.make other (call.under mask)) := by
  have begun : MaskedRun mask limit (left.record (.begins call))
      (right.record (.begins (call.under mask))) := masked.record rfl fun _ => .refl _
  have performed := masking.perform begun call roomy
  have grown : left.log <:+ ((left.record (.begins call)).perform one call).2.log :=
    masking.growing.perform (left.record (.begins call)) call
  have again : right.log <:+
      ((right.record (.begins (call.under mask))).perform other (call.under mask)).2.log :=
    growing.perform (right.record (.begins (call.under mask))) (call.under mask)
  exact MaskedRun.record performed rfl (performed.log.since masked.log grown again)

theorem makeAll (masked : MaskedRun mask limit left right) (calls : List (Call Tuning Blinding))
    (roomy : Roomy limit (left.makeAll one calls).log) :
    MaskedRun mask limit (left.makeAll one calls)
      (right.makeAll other (calls.map (·.under mask))) := by
  induction calls generalizing left right with
  | nil => exact masked
  | cons call rest ih =>
    have grown : (left.make one call).log <:+ ((left.make one call).makeAll one rest).log :=
      (recorded_growing _).makeAll (masking.growing _) (List.suffix_refl _) rest
    exact ih (masking.make growing masked call (roomy.before grown)) roomy

theorem makeWithin (masked : MaskedRun mask limit left right) (moment : Moment)
    (calls : List (Call Tuning Blinding))
    (roomy : Roomy limit (left.makeWithin one moment calls).log) :
    MaskedRun mask limit (left.makeWithin one moment calls)
      (right.makeWithin other (moment.under mask) (calls.map (·.under mask))) :=
  (masking.makeAll growing (masked.enter moment) calls roomy).leave moment _ _

end Masking

theorem masking_others {script again : Script Tuning Blinding} (same : script.Masked mask again)
    (turns depth : Nat) :
    Masking mask limit (Journal.Masked mask) (others script.habit turns depth)
      (others again.habit turns depth) := by
  -- Calls inside a moment are made among others who can nest moments one level less.
  induction depth with
  | zero =>
    exact ⟨(turns_others _ turns 0).trans (turns_others _ turns 0).symm, growing_others _ turns 0,
      fun _ _ _ masked _ => masked⟩
  | succ depth ih =>
    refine ⟨(turns_others _ turns _).trans (turns_others _ turns _).symm,
      growing_others _ turns (depth + 1), fun moment left right masked roomy => ?_⟩
    have calls : again.habit (moment.under mask) right =
        (script.habit moment left).map (·.under mask) := by
      unfold Script.habit
      rw [masked.outside.occurrences]
      exact same moment _
    have within (room : Roomy limit (left.makeWithin (others script.habit turns depth) moment
        (script.habit moment left)).log) :
        MaskedRun mask limit
          (left.makeWithin (others script.habit turns depth) moment (script.habit moment left))
          (right.makeWithin (others again.habit turns depth) (moment.under mask)
            (again.habit (moment.under mask) right)) := by
      rw [calls]
      exact ih.makeWithin (growing_others again.habit turns depth) masked moment _ room
    cases moment with
    | gauge => exact masked
    | create id => exact within roomy
    | startup id => exact within roomy

end Directory

end PeerDirectory

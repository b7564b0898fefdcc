import PeerDirectory.Proofs.Aside.Calls
import PeerDirectory.Proofs.Mirror.Manner
import Mathlib.Data.List.Induction

namespace PeerDirectory.Directory

open Std

variable {φ σ γ δ τ υ : Type}

inductive Padded (extra : Call τ υ → Prop) : List (Call τ υ) → List (Call τ υ) → Prop
  | nil : Padded extra [] []
  | keep {call : Call τ υ} {calls more : List (Call τ υ)} (rest : Padded extra calls more) :
      Padded extra (call :: calls) (call :: more)
  | insert {call : Call τ υ} {calls more : List (Call τ υ)} (allowed : extra call)
      (rest : Padded extra calls more) : Padded extra calls (call :: more)

theorem Padded.refl (extra : Call τ υ → Prop) (calls : List (Call τ υ)) :
    Padded extra calls calls := by
  induction calls with
  | nil => exact .nil
  | cons call rest ih => exact .keep ih

def Point.outcome? [PartitionStore σ] (point : Point φ σ τ υ) : Option OwnerOutcome :=
  match point.event with
  | .ends (.findLease key) before _ => some (before.leaseOutcome key)
  | _ => none

inductive Point.Inserted [PartitionStore σ] (extra : Call τ υ → Prop) : Point φ σ τ υ → Prop
  | begins {call : Call τ υ} {moments : List Moment} {state : Directory φ σ Unit}
      (allowed : extra call) : Inserted extra ⟨.begins call, moments, state⟩
  | asked {question : Question} {moments : List Moment} {state : Directory φ σ Unit}
      (allowed : extra (.ask question)) :
      Inserted extra ⟨.ends (.ask question) state (state.answer question), moments, state⟩
  | lookedUp {key : Hash} {moments : List Moment} {before : Directory φ σ Unit}
      (allowed : extra (.findLease key)) :
      Inserted extra ⟨.ends (.findLease key) before (.lease (before.findLease key).1), moments,
        before.countOne (.ownerLookups (before.leaseOutcome key))⟩

/-- Two journals, of which the second one has points inserted. What is asked of two points that
belong together may depend on what was inserted before them. -/
inductive Woven (matched : List (Point φ σ τ υ) → Point φ σ τ υ → Point φ σ τ υ → Prop)
    (extra : Point φ σ τ υ → Prop) :
    List (Point φ σ τ υ) → List (Point φ σ τ υ) → List (Point φ σ τ υ) → Prop
  | nil : Woven matched extra [] [] []
  | both {left inserted right : List (Point φ σ τ υ)} {one other : Point φ σ τ υ}
      (sofar : Woven matched extra left inserted right) (same : matched inserted one other) :
      Woven matched extra (left ++ [one]) inserted (right ++ [other])
  | extra {left inserted right : List (Point φ σ τ υ)} {point : Point φ σ τ υ}
      (sofar : Woven matched extra left inserted right) (allowed : extra point) :
      Woven matched extra left (inserted ++ [point]) (right ++ [point])

section Weaving

variable {matched again : List (Point φ σ τ υ) → Point φ σ τ υ → Point φ σ τ υ → Prop}
  {extra also : Point φ σ τ υ → Prop} {left inserted right : List (Point φ σ τ υ)}

theorem Woven.refl (reflexive : ∀ point, matched [] point point) (points : List (Point φ σ τ υ)) :
    Woven matched extra points [] points := by
  induction points using List.reverseRecOn with
  | nil => exact .nil
  | append_singleton sofar last ih => exact ih.both (reflexive last)

theorem Woven.imp (woven : Woven matched extra left inserted right)
    (weaker : ∀ {inserted one other}, matched inserted one other → again inserted one other)
    (wider : ∀ {point}, extra point → also point) : Woven again also left inserted right := by
  induction woven with
  | nil => exact .nil
  | both _ same ih => exact ih.both (weaker same)
  | extra _ allowed ih => exact ih.extra (wider allowed)

theorem Woven.forall₂ (woven : Woven matched extra left inserted right)
    (nothing : ∀ point, ¬extra point) : inserted = [] ∧ List.Forall₂ (matched []) left right := by
  induction woven with
  | nil => exact ⟨rfl, .nil⟩
  | both _ same ih =>
    obtain ⟨rfl, sofar⟩ := ih
    exact ⟨rfl, List.rel_append sofar (.cons same .nil)⟩
  | extra _ allowed _ => exact absurd allowed (nothing _)

end Weaving

def Aside.counting (lookups : OwnerOutcome → Option Nat) (outcome : OwnerOutcome) :
    OwnerOutcome → Option Nat :=
  Function.update lookups outcome (some ((lookups outcome).getD 0 + 1))

theorem Aside.counting_comm (lookups : OwnerOutcome → Option Nat) (one other : OwnerOutcome) :
    counting (counting lookups one) other = counting (counting lookups other) one := by
  by_cases same : one = other
  · rw [same]
  · unfold counting
    rw [Function.update_comm same]
    simp [Function.update_of_ne, same, Ne.symm same]

theorem Aside.counting_foldl (lookups : OwnerOutcome → Option Nat) (outcome : OwnerOutcome)
    (outcomes : List OwnerOutcome) :
    outcomes.foldl counting (counting lookups outcome) =
      counting (outcomes.foldl counting lookups) outcome := by
  induction outcomes generalizing lookups with
  | nil => rfl
  | cons first rest ih => rw [List.foldl_cons, List.foldl_cons, counting_comm, ih]

theorem lookups_countOne (directory : Directory φ σ γ) (outcome : OwnerOutcome) :
    (directory.countOne (.ownerLookups outcome)).aside.lookups =
      Aside.counting directory.aside.lookups outcome := by
  funext given
  by_cases same : given = outcome
  · subst same
    simp [aside, Aside.counting, countOne, count, Metrics.getElem?_add,
      ExtTreeMap.getD_eq_getD_getElem?]
  · simp [aside, Aside.counting, countOne, count, Metrics.getElem?_add, same]

section Reads

variable [PartitionStore σ] [StoreFactory φ σ] [Backdoor φ σ τ υ]

omit [PartitionStore σ] [StoreFactory φ σ] [Backdoor φ σ τ υ] in
theorem agree_record (run : Run φ σ τ υ) (event : Event φ σ τ υ) :
    AgreeOnQueries run.snapshot (run.record event) :=
  ⟨fun _ => rfl, rfl, rfl, rfl⟩

theorem make_ask (surroundings : Surroundings φ σ (Journal φ σ τ υ)) (run : Run φ σ τ υ)
    (question : Question) :
    run.make surroundings (.ask question) =
      (run.record (.begins (.ask question))).record
        (.ends (.ask question) run.snapshot (run.snapshot.answer question)) := by
  rw [← (run.agree_record (.begins (.ask question))).answer fun _ => rfl]
  rfl

theorem make_findLease (surroundings : Surroundings φ σ (Journal φ σ τ υ)) (run : Run φ σ τ υ)
    (key : Hash) :
    run.make surroundings (.findLease key) =
      ((run.record (.begins (.findLease key))).countOne
        (.ownerLookups (run.snapshot.leaseOutcome key))).record
          (.ends (.findLease key) run.snapshot (.lease (run.snapshot.findLease key).1)) := by
  obtain ⟨found, outcome⟩ :=
    (run.agree_record (.begins (.findLease key))).findLease rfl key
  simp only [make, perform, findLease_after, found, outcome]

end Reads

section Step

variable [PartitionStore σ] {same : Prop} {extra : Call τ υ → Prop}

def Offset (same : Prop) (inserted : List (Point φ σ τ υ)) (one : Aside γ) (other : Aside δ) :
    Prop :=
  same → other.enumerator = one.enumerator ∧
    other.lookups = (inserted.filterMap (·.outcome?)).foldl Aside.counting one.lookups

theorem Offset.silent {inserted : List (Point φ σ τ υ)} {point : Point φ σ τ υ} {one : Aside γ}
    {other : Aside δ} (offset : Offset same inserted one other) (silent : point.outcome? = none) :
    Offset same (inserted ++ [point]) one other := by
  simpa only [Offset, List.filterMap_append, List.filterMap_cons, silent, List.filterMap_nil,
    List.append_nil] using offset

theorem Offset.lookedUp {inserted : List (Point φ σ τ υ)} {point : Point φ σ τ υ}
    {one : Aside γ} {other again : Aside δ} {outcome : OwnerOutcome}
    (offset : Offset same inserted one other) (found : point.outcome? = some outcome)
    (enumerator : again.enumerator = other.enumerator)
    (counted : again.lookups = Aside.counting other.lookups outcome) :
    Offset same (inserted ++ [point]) one again := by
  intro alike
  obtain ⟨also, lookups⟩ := offset alike
  refine ⟨enumerator.trans also, ?_⟩
  simp only [counted, lookups, List.filterMap_append, List.filterMap_cons, found,
    List.filterMap_nil, List.foldl_append, List.foldl_cons, List.foldl_nil]

def Echoes (same : Prop) (one other : Event φ σ τ υ) : Prop :=
  other.told = one.told ∨
    ¬same ∧ ∃ call before again response reply, call.choosy = true ∧
      one = .ends call before response ∧ other = .ends call again reply

structure Matched (same : Prop) (inserted : List (Point φ σ τ υ)) (one other : Point φ σ τ υ) :
    Prop where
  event : Echoes same one.event other.event
  moments : other.moments = one.moments
  state : EqualUpTo (Offset same inserted) one.state other.state

structure Braided (same : Prop) (extra : Call τ υ → Prop) (inserted : List (Point φ σ τ υ))
    (one other : Aside (Journal φ σ τ υ)) : Prop where
  moments : other.outside.moments = one.outside.moments
  points : Woven (Matched same) (Point.Inserted extra) one.outside.points inserted
    other.outside.points
  offset : Offset same inserted one other

def Bound (same : Prop) (extra : Call τ υ → Prop) (one other : Aside (Journal φ σ τ υ)) : Prop :=
  ∃ inserted, Braided same extra inserted one other

def RunsEqualUpToReads (same : Prop) (extra : Call τ υ → Prop) (left right : Run φ σ τ υ) : Prop :=
  EqualUpTo (Bound same extra) left right

theorem Matched.refl (same : Prop) (point : Point φ σ τ υ) : Matched same [] point point :=
  ⟨Or.inl rfl, rfl, rfl, fun _ _ => rfl, fun _ => ⟨rfl, rfl⟩⟩

variable {left right : Run φ σ τ υ}

theorem RunsEqualUpToReads.refl (same : Prop) (extra : Call τ υ → Prop) (run : Run φ σ τ υ) :
    RunsEqualUpToReads same extra run run :=
  ⟨rfl, fun _ _ => rfl, [], rfl, .refl (Matched.refl same) _, fun _ => ⟨rfl, rfl⟩⟩

namespace RunsEqualUpToReads

theorem record (runs : RunsEqualUpToReads same extra left right) {one other : Event φ σ τ υ}
    (echoes : Echoes same one other) :
    RunsEqualUpToReads same extra (left.record one) (right.record other) := by
  obtain ⟨essence, metrics, inserted, moments, points, offset⟩ := runs
  exact ⟨essence, metrics, inserted, moments,
    points.both ⟨echoes, moments, essence, metrics, offset⟩, offset⟩

theorem enter (runs : RunsEqualUpToReads same extra left right) (moment : Moment) :
    RunsEqualUpToReads same extra (left.enter moment) (right.enter moment) := by
  refine record ?_ (Or.inl rfl)
  obtain ⟨essence, metrics, inserted, moments, points, offset⟩ := runs
  exact ⟨essence, metrics, inserted, congrArg (moment :: ·) moments, points, offset⟩

theorem leave (runs : RunsEqualUpToReads same extra left right) (moment : Moment)
    {outer again : List Moment} (restored : again = outer) :
    RunsEqualUpToReads same extra (left.leave moment outer) (right.leave moment again) := by
  subst restored
  obtain ⟨essence, metrics, inserted, -, points, offset⟩ :
      RunsEqualUpToReads same extra (left.record (.leaves moment)) (right.record (.leaves moment)) :=
    runs.record (Or.inl rfl)
  exact ⟨essence, metrics, inserted, rfl, points, offset⟩

variable [StoreFactory φ σ] [Backdoor φ σ τ υ]
  {one other : Surroundings φ σ (Journal φ σ τ υ)}

omit [StoreFactory φ σ] [Backdoor φ σ τ υ] in
theorem enumerator (runs : RunsEqualUpToReads same extra left right) (alike : same) :
    right.enumerator = left.enumerator := by
  obtain ⟨-, -, inserted, -, -, offset⟩ := runs
  exact (offset alike).1

omit [StoreFactory φ σ] [Backdoor φ σ τ υ] in
theorem leaseOutcome (runs : RunsEqualUpToReads same extra left right) (alike : same)
    (key : Hash) :
    right.leaseOutcome key = left.leaseOutcome key :=
  (runs.queries.findLease (runs.enumerator alike) key).2

omit [StoreFactory φ σ] [Backdoor φ σ τ υ] in
theorem countLookup (runs : RunsEqualUpToReads same extra left right)
    {first second : OwnerOutcome}
    (agreed : same → second = first) :
    RunsEqualUpToReads same extra (left.countOne (.ownerLookups first))
      (right.countOne (.ownerLookups second)) := by
  obtain ⟨essence, metrics, inserted, moments, points, offset⟩ := runs
  refine ⟨essence, fun metric plain => ?_, inserted, moments, points, fun alike => ?_⟩
  · simp only [countOne, count, Metrics.getElem?_add, Metric.ne_ownerLookups plain, if_false,
      metrics metric plain]
  · obtain ⟨enumerator, lookups⟩ := offset alike
    refine ⟨enumerator, ?_⟩
    rw [lookups_countOne, lookups_countOne, agreed alike, Aside.counting_foldl, lookups]

theorem make (runs : RunsEqualUpToReads same extra left right)
    (reacting : ReactEqualUpTo (Bound same extra) one other)
    (call : Call τ υ) :
    RunsEqualUpToReads same extra (left.make one call) (right.make other call) := by
  have begun : RunsEqualUpToReads same extra (left.record (.begins call))
      (right.record (.begins call)) :=
    runs.record (Or.inl rfl)
  have ended {before again : Directory φ σ Unit} {response reply : Response}
      (answered : (call.choosy = true → same) → reply = response) :
      Echoes same (.ends call before response) (.ends call again reply) := by
    by_cases alike : call.choosy = true → same
    · exact Or.inl (by simp only [Event.told, answered alike])
    · obtain ⟨choosy, apart⟩ := Classical.not_imp.mp alike
      exact Or.inr ⟨apart, call, before, again, response, reply, choosy, rfl, rfl⟩
  by_cases looksUp : ∃ key, call = .findLease key
  · obtain ⟨key, rfl⟩ := looksUp
    have counted := begun.countLookup fun alike => begun.leaseOutcome alike key
    rw [← findLease_after, ← findLease_after] at counted
    exact counted.record (ended fun alike => congrArg Response.lease
      (begun.queries.findLease (begun.enumerator (alike rfl)) key).1)
  · obtain ⟨answered, performed⟩ := begun.perform reacting fun key is => looksUp ⟨key, is⟩
    exact RunsEqualUpToReads.record performed (ended fun alike => answered fun choosy =>
      begun.enumerator (alike choosy))

theorem insertRead (runs : RunsEqualUpToReads same extra left right) {call : Call τ υ}
    (allowed : extra call) (reads : call.reads = true) :
    RunsEqualUpToReads same extra left (right.make other call) := by
  obtain ⟨essence, metrics, inserted, moments, points, offset⟩ := runs
  have asking : Point.Inserted extra ⟨.begins call, right.outside.moments, right.snapshot⟩ :=
    .begins allowed
  have begun := points.extra asking
  cases call <;> cases reads
  case findLease key =>
    rw [make_findLease]
    refine ⟨essence, fun metric plain => ?_, _, moments, begun.extra (.lookedUp allowed), ?_⟩
    · have apart := Metric.ne_ownerLookups plain (right.snapshot.leaseOutcome key)
      exact (Metrics.getElem?_add ..).trans ((if_neg apart).trans (metrics metric plain))
    · exact (offset.silent rfl).lookedUp rfl rfl (lookups_countOne right _)
  case ask question =>
    rw [make_ask]
    exact ⟨essence, metrics, _, moments, begun.extra (.asked allowed),
      (offset.silent rfl).silent rfl⟩

theorem makeAll (runs : RunsEqualUpToReads same extra left right)
    (reacting : ReactEqualUpTo (Bound same extra) one other)
    (reads : ∀ call, extra call → call.reads = true) {calls more : List (Call τ υ)}
    (padded : Padded extra calls more) :
    RunsEqualUpToReads same extra (left.makeAll one calls) (right.makeAll other more) := by
  induction padded generalizing left right with
  | nil => exact runs
  | @keep call _ _ _ ih => exact ih (runs.make reacting call)
  | @insert call _ _ allowed _ ih => exact ih (runs.insertRead allowed (reads call allowed))

theorem makeWithin (runs : RunsEqualUpToReads same extra left right)
    (reacting : ReactEqualUpTo (Bound same extra) one other)
    (reads : ∀ call, extra call → call.reads = true) {moment : Moment}
    {calls more : List (Call τ υ)} (padded : Padded extra calls more) :
    RunsEqualUpToReads same extra (left.makeWithin one moment calls)
      (right.makeWithin other moment more) := by
  obtain ⟨-, -, -, outer, -, -⟩ := id runs
  exact ((runs.enter moment).makeAll reacting reads padded).leave moment outer

end RunsEqualUpToReads

variable [StoreFactory φ σ] [Backdoor φ σ τ υ] {habit again : Habit φ σ τ υ}

def Interspersed (same : Prop) (extra : Call τ υ → Prop) (habit again : Habit φ σ τ υ) : Prop :=
  ∀ moment {left right}, RunsEqualUpToReads same extra left right →
    Padded extra (habit moment left) (again moment right)

theorem reactEqualUpTo_others (interspersed : Interspersed same extra habit again)
    (reads : ∀ call, extra call → call.reads = true) (turns depth : Nat) :
    ReactEqualUpTo (Bound same extra) (others habit turns depth) (others again turns depth) := by
  -- Calls inside a moment are made among others who can nest moments one level less.
  induction depth with
  | zero => exact ⟨rfl, fun runs => runs⟩
  | succ depth ih =>
    refine ⟨by rw [turns_others, turns_others], fun {moment left right} runs => ?_⟩
    cases moment with
    | gauge => exact runs
    | create id => exact RunsEqualUpToReads.makeWithin runs ih reads (interspersed _ runs)
    | startup id => exact RunsEqualUpToReads.makeWithin runs ih reads (interspersed _ runs)

end Step

end PeerDirectory.Directory

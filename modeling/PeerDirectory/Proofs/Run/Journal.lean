import PeerDirectory.Proofs.Run.Call

/-!
Runs of calls that others interrupt. The callers of a directory keep a journal outside it: which
moments they are inside of, and what the directory looked like after everything that happened. At a
moment of a call that is under way they may make any calls of their own, which can be interrupted in
the same way.
-/

namespace PeerDirectory

variable {φ σ γ τ υ : Type}

def Directory.snapshot (directory : Directory φ σ γ) : Directory φ σ Unit :=
  { directory with outside := () }

namespace Directory

inductive Event (φ σ τ υ : Type) where
  | begins (call : Call τ υ)
  | ends (call : Call τ υ) (before : Directory φ σ Unit) (response : Response)
  | enters (moment : Moment)
  | leaves (moment : Moment)

/-- A point of a run: what just happened, and what the directory looks like then. -/
structure Point (φ σ τ υ : Type) where
  event : Event φ σ τ υ
  moments : List Moment
  state : Directory φ σ Unit

def Point.closes (point : Point φ σ τ υ) : Bool :=
  match point.event with
  | .ends .shutdown _ _ => true
  | _ => false

theorem Point.closes_of_ends {point : Point φ σ τ υ} {before : Directory φ σ Unit}
    {response : Response} (ended : point.event = .ends .shutdown before response) :
    point.closes = true := by
  simp [Point.closes, ended]

theorem Point.ends_of_closes {point : Point φ σ τ υ} (closes : point.closes = true) :
    ∃ before response, point.event = .ends .shutdown before response := by
  unfold Point.closes at closes
  split at closes
  · rename_i before response event
    exact ⟨before, response, event⟩
  · cases closes

theorem split_of_append_singleton {α : Type} {sofar earlier later : List α} {last found : α}
    (split : sofar ++ [last] = earlier ++ found :: later) :
    (earlier = sofar ∧ found = last) ∨
      ∃ before, later = before ++ [last] ∧ sofar = earlier ++ found :: before := by
  rcases List.eq_nil_or_concat later with rfl | ⟨before, final, rfl⟩
  · obtain ⟨rfl, same⟩ := List.append_inj' split rfl
    exact Or.inl ⟨rfl, (List.cons.inj same).1.symm⟩
  · have again : sofar ++ [last] = (earlier ++ found :: before) ++ [final] := by simpa using split
    obtain ⟨rfl, same⟩ := List.append_inj' again rfl
    obtain rfl := (List.cons.inj same).1
    exact Or.inr ⟨before, List.concat_eq_append, rfl⟩

structure Journal (φ σ τ υ : Type) where
  moments : List Moment
  points : List (Point φ σ τ υ)

def Journal.blank : Journal φ σ τ υ := ⟨[], []⟩

abbrev Run (φ σ τ υ : Type) := Directory φ σ (Journal φ σ τ υ)

def record (run : Run φ σ τ υ) (event : Event φ σ τ υ) : Run φ σ τ υ :=
  { run with
    outside := { run.outside with
      points := run.outside.points ++ [⟨event, run.outside.moments, run.snapshot⟩] } }

def enter (run : Run φ σ τ υ) (moment : Moment) : Run φ σ τ υ :=
  record { run with outside := { run.outside with moments := moment :: run.outside.moments } }
    (.enters moment)

def leave (run : Run φ σ τ υ) (moment : Moment) (moments : List Moment) : Run φ σ τ υ :=
  let left := run.record (.leaves moment)
  { left with outside := { left.outside with moments } }

variable [PartitionStore σ] [StoreFactory φ σ] [Backdoor φ σ τ υ]

def make (surroundings : Surroundings φ σ (Journal φ σ τ υ)) (run : Run φ σ τ υ)
    (call : Call τ υ) : Run φ σ τ υ :=
  let made := (run.record (.begins call)).perform surroundings call
  made.2.record (.ends call run.snapshot made.1)

def makeAll (surroundings : Surroundings φ σ (Journal φ σ τ υ)) (run : Run φ σ τ υ)
    (calls : List (Call τ υ)) : Run φ σ τ υ :=
  calls.foldl (make surroundings) run

def makeWithin (surroundings : Surroundings φ σ (Journal φ σ τ υ)) (run : Run φ σ τ υ)
    (moment : Moment) (calls : List (Call τ υ)) : Run φ σ τ υ :=
  ((run.enter moment).makeAll surroundings calls).leave moment run.outside.moments

/-- Which calls others make at a moment, as they know the whole run so far. -/
abbrev Habit (φ σ τ υ : Type) := Moment → Run φ σ τ υ → List (Call τ υ)

/-- Others who keep to a habit, if moments can be nested to a given depth. They do nothing while
the gauge is set. -/
def others (habit : Habit φ σ τ υ) (turns : Nat) :
    Nat → Surroundings φ σ (Journal φ σ τ υ)
  | 0 => .quiet (turns + 1)
  | depth + 1 =>
    ⟨fun moment run =>
      match moment with
      | .gauge => run
      | .create _ | .startup _ =>
        run.makeWithin (others habit turns depth) moment (habit moment run), turns + 1⟩

theorem turns_others (habit : Habit φ σ τ υ) (turns depth : Nat) :
    (others habit turns depth).turns = turns + 1 := by
  cases depth <;> rfl

end Directory

end PeerDirectory

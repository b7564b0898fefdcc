import PeerDirectory.Proofs.Directory.Naming
import PeerDirectory.Proofs.Run.Journal

namespace PeerDirectory.Directory

inductive Told (τ υ : Type) where
  | begins (call : Call τ υ)
  | ends (call : Call τ υ) (response : Response)
  | enters (moment : Moment)
  | leaves (moment : Moment)

variable {φ σ τ υ : Type}

def Event.told : Event φ σ τ υ → Told τ υ
  | .begins call => .begins call
  | .ends call _ response => .ends call response
  | .enters moment => .enters moment
  | .leaves moment => .leaves moment

def Told.rename (place : Handle → Handle) : Told τ υ → Told τ υ
  | .begins call => .begins (call.rename place)
  | .ends call response => .ends (call.rename place) (response.rename place)
  | .enters moment => .enters moment
  | .leaves moment => .leaves moment

theorem Told.rename_back {place back : Handle → Handle}
    (undo : ∀ handle, back (place handle) = handle) (told : Told τ υ) :
    (told.rename place).rename back = told := by
  cases told <;> simp only [Told.rename, Call.rename_back undo, Response.rename_back undo]

theorem Told.rename_same (told : Told τ υ) : told.rename Naming.same.place = told := by
  cases told <;> simp only [Told.rename, Call.rename_same, Response.rename_same]

def Journal.transcript (journal : Journal φ σ τ υ) : List (Told τ υ) :=
  journal.points.map (·.event.told)

theorem transcript_record (run : Run φ σ τ υ) (event : Event φ σ τ υ) :
    (run.record event).outside.transcript = run.outside.transcript ++ [event.told] := by
  simp [record, Journal.transcript]

/-- Which calls others make at a moment, as they know all that was told so far. -/
abbrev Manner (τ υ : Type) := Moment → List (Told τ υ) → List (Call τ υ)

def Manner.habit (manner : Manner τ υ) : Habit φ σ τ υ :=
  fun moment run => manner moment run.outside.transcript

def Manner.rename (manner : Manner τ υ) (naming : Naming) : Manner τ υ :=
  fun moment told =>
    (manner moment (told.map (·.rename naming.back))).map (·.rename naming.place)

theorem Manner.rename_told (manner : Manner τ υ) (naming : Naming) (moment : Moment)
    (told : List (Told τ υ)) :
    manner.rename naming moment (told.map (·.rename naming.place)) =
      (manner moment told).map (·.rename naming.place) := by
  have undone : (told.map (·.rename naming.place)).map (·.rename naming.back) = told := by
    simp [Function.comp_def, Told.rename_back naming.back_place]
  rw [Manner.rename, undone]

end PeerDirectory.Directory

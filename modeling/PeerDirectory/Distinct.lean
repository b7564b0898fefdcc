import Std.Data.ExtTreeSet

namespace PeerDirectory

open Std

variable {α : Type} [Ord α] [TransOrd α] [LawfulEqOrd α]

/-- The values of a list, each once, in ascending order. -/
def distinct (values : List α) : List α := (ExtTreeSet.ofList values).toList

theorem mem_distinct [DecidableEq α] {values : List α} {value : α} :
    value ∈ distinct values ↔ value ∈ values := by
  have : LawfulBEqOrd α := ⟨by simp⟩
  simp [distinct]

theorem nodup_distinct (values : List α) : (distinct values).Nodup :=
  ExtTreeSet.distinct_toList.imp fun apart same => apart (by simp [same])

omit [LawfulEqOrd α] in
theorem ascending_distinct (values : List α) :
    (distinct values).Pairwise fun one other => compare one other = .lt :=
  ExtTreeSet.ordered_toList

end PeerDirectory

import PeerDirectory.PartitionId
import Std.Data.ExtTreeMap

namespace PeerDirectory

open Std

/-- The name of one thing in a register: which partition it was built for, and how many were built
for that partition before it. -/
structure Handle where
  id : PartitionId
  generation : Nat
deriving DecidableEq

structure Registry (α : Type) where
  built : ExtTreeMap PartitionId (List α)

namespace Registry

variable {α : Type}

def empty : Registry α := ⟨∅⟩

def all (registry : Registry α) (id : PartitionId) : List α := registry.built.getD id []

def size (registry : Registry α) : Nat := (registry.built.toList.flatMap (·.2)).length

def get? (registry : Registry α) (handle : Handle) : Option α :=
  (registry.all handle.id)[handle.generation]?

def next (registry : Registry α) (id : PartitionId) : Handle := ⟨id, (registry.all id).length⟩

@[simp] theorem id_next (registry : Registry α) (id : PartitionId) : (registry.next id).id = id :=
  rfl

def add (registry : Registry α) (id : PartitionId) (thing : α) : Registry α :=
  ⟨registry.built.insert id (registry.all id ++ [thing])⟩

def modify (registry : Registry α) (handle : Handle) (change : α → α) : Registry α :=
  match registry.built[handle.id]? with
  | none => registry
  | some things => ⟨registry.built.insert handle.id (things.modify handle.generation change)⟩

def newest? (registry : Registry α) (id : PartitionId) : Option Handle :=
  match (registry.all id).length with
  | 0 => none
  | count + 1 => some ⟨id, count⟩

end Registry

end PeerDirectory

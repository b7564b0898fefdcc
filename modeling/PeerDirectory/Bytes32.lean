import Std.Data.ExtTreeMap

namespace PeerDirectory

structure Bytes32 where
  toList : List UInt8
  length_toList : toList.length = 32

namespace Bytes32

def size : Nat := 32

def ofList? (bytes : List UInt8) : Option Bytes32 :=
  if length : bytes.length = 32 then some ⟨bytes, length⟩ else none

def fill (byte : UInt8) : Bytes32 := ⟨List.replicate 32 byte, List.length_replicate⟩

instance : Inhabited Bytes32 := ⟨fill 0⟩

theorem toList_ne_nil (block : Bytes32) : block.toList ≠ [] := by
  intro empty
  have length := block.length_toList
  simp [empty] at length

def first (block : Bytes32) : UInt8 := block.toList.head block.toList_ne_nil

def last (block : Bytes32) : UInt8 := block.toList.getLast block.toList_ne_nil

@[ext] theorem ext {a b : Bytes32} (same : a.toList = b.toList) : a = b := by
  cases a
  cases b
  simp_all

instance : DecidableEq Bytes32 := fun a b =>
  if same : a.toList == b.toList then isTrue (ext (eq_of_beq same))
  else isFalse fun equal => same (by simp [equal])

theorem ofList?_toList (block : Bytes32) : ofList? block.toList = some block := by
  simp [ofList?, block.length_toList]

instance : Ord Bytes32 := ⟨compareOn toList⟩

instance : Std.TransOrd Bytes32 := inferInstanceAs (Std.TransCmp (compareOn toList))

instance : Std.LawfulEqOrd Bytes32 where
  toReflCmp := inferInstance
  eq_of_compare same := ext (Std.LawfulEqOrd.eq_of_compare (α := List UInt8) same)

end Bytes32

end PeerDirectory

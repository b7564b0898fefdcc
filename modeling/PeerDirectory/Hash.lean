import PeerDirectory.Bytes32
import PeerDirectory.Hex
import PeerDirectory.Keccak
import PeerDirectory.Text.Utf8
import PeerDirectory.Text.Quoted

namespace PeerDirectory

inductive HashError where
  | digits (cause : Hex.Error)
  | wrongLength
deriving DecidableEq

def Hex.Error.message : Hex.Error → String
  | .oddLength => "Odd number of digits"
  | .badDigit byte index =>
    "Invalid character " ++ Text.quoteChar (Char.ofNat byte.toNat) ++ " at position " ++
      toString index

namespace Bytes32

def unmarked : List Char → List Char
  | '0' :: 'x' :: rest => rest
  | text => text

def parse (text : String) : Except HashError Bytes32 :=
  match Hex.decode (Text.utf8Chars (unmarked text.toList)) with
  | .error cause => .error (.digits cause)
  | .ok bytes =>
    match ofList? bytes with
    | some block => .ok block
    | none => .error .wrongLength

def hex (block : Bytes32) : String := String.ofList (Hex.encode block.toList)

def short (block : Bytes32) : String := String.ofList (Hex.encode (block.toList.take 4))

end Bytes32

/-- The digest that names a router, a destination or a lease. -/
structure Hash where
  bytes : Bytes32
deriving DecidableEq, Inhabited

namespace Hash

def digest (message : List UInt8) : Hash := ⟨Keccak.digest message⟩

def ofText (text : String) : Hash := digest (Text.utf8 text)

def parse (text : String) : Except HashError Hash := (Bytes32.parse text).map Hash.mk

def text (hash : Hash) : String := hash.bytes.hex

def short (hash : Hash) : String := hash.bytes.short

def debug (hash : Hash) : String := "Hash(" ++ hash.short ++ ")"

@[ext] theorem ext {a b : Hash} (same : a.bytes = b.bytes) : a = b := by
  cases a
  cases b
  simp_all

instance : Ord Hash := ⟨compareOn bytes⟩

instance : Std.TransOrd Hash := inferInstanceAs (Std.TransCmp (compareOn bytes))

instance : Std.LawfulEqOrd Hash where
  toReflCmp := inferInstance
  eq_of_compare same := ext (Std.LawfulEqOrd.eq_of_compare (α := Bytes32) same)

end Hash

structure SigningKey where
  bytes : Bytes32
deriving DecidableEq, Inhabited

namespace SigningKey

def hash (key : SigningKey) : Hash := Hash.digest key.bytes.toList

def text (key : SigningKey) : String := key.bytes.hex

def debug (key : SigningKey) : String := "SigningPublicKey(" ++ key.bytes.short ++ ")"

@[ext] theorem ext {a b : SigningKey} (same : a.bytes = b.bytes) : a = b := by
  cases a
  cases b
  simp_all

instance : Ord SigningKey := ⟨compareOn bytes⟩

instance : Std.TransOrd SigningKey := inferInstanceAs (Std.TransCmp (compareOn bytes))

instance : Std.LawfulEqOrd SigningKey where
  toReflCmp := inferInstance
  eq_of_compare same := ext (Std.LawfulEqOrd.eq_of_compare (α := Bytes32) same)

end SigningKey

end PeerDirectory

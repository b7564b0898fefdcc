
namespace PeerDirectory.Hex

inductive Error where
  | oddLength
  | badDigit (byte : UInt8) (index : Nat)
deriving DecidableEq

def digit (value : Nat) : Char :=
  if value < 10 then Char.ofNat ('0'.toNat + value) else Char.ofNat ('a'.toNat + (value - 10))

def pair (byte : UInt8) : List Char :=
  [digit (byte.toNat / 16), digit (byte.toNat % 16)]

def encode (bytes : List UInt8) : List Char := bytes.flatMap pair

def value? (byte : UInt8) : Option Nat :=
  if 48 ≤ byte ∧ byte ≤ 57 then some (byte.toNat - 48)
  else if 97 ≤ byte ∧ byte ≤ 102 then some (byte.toNat - 87)
  else if 65 ≤ byte ∧ byte ≤ 70 then some (byte.toNat - 55)
  else none

def decodePairs (index : Nat) : List UInt8 → Except Error (List UInt8)
  | high :: low :: rest =>
    match value? high with
    | none => .error (.badDigit high index)
    | some a =>
      match value? low with
      | none => .error (.badDigit low (index + 1))
      | some b => (decodePairs (index + 2) rest).map (UInt8.ofNat (16 * a + b) :: ·)
  | _ => .ok []

def decode (text : List UInt8) : Except Error (List UInt8) :=
  if text.length % 2 = 1 then .error .oddLength else decodePairs 0 text

end PeerDirectory.Hex

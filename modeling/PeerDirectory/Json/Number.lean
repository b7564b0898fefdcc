import PeerDirectory.Json.Fault

namespace PeerDirectory.Json

inductive Number where
  | natural (value : Nat)
  | negative (size : Nat)
  | float (value : Float)

def Number.found : Number → Found
  | natural value => .integer value
  | negative size => .integer (-(size : Int))
  | float value => .float value

def isDigit (c : Char) : Bool := '0' ≤ c && c ≤ '9'

def digitValue (c : Char) : Nat := c.toNat - '0'.toNat

def maxWord : Nat := UInt64.size - 1

/-- Reads digits into a word for as long as they fit, and counts those that do not. -/
def addWhole (start : Nat) (digits : List Char) : Nat × Nat :=
  digits.foldl (fun sofar c =>
    let next := sofar.1 * 10 + digitValue c
    if sofar.2 = 0 ∧ next ≤ maxWord then (next, 0) else (sofar.1, sofar.2 + 1)) (start, 0)

def addFraction (significand taken : Nat) : List Char → Nat × Nat
  | [] => (significand, taken)
  | c :: rest =>
    let next := significand * 10 + digitValue c
    if next ≤ maxWord then addFraction next (taken + 1) rest else (significand, taken)

def powerOfTen (exponent : Nat) : Float := Float.ofScientific 1 false exponent

def scaled? (significand : Nat) (exponent : Int) : Option Float :=
  let value := (UInt64.ofNat significand).toFloat
  if significand = 0 then some value
  else if 308 < exponent then none
  else if 0 ≤ exponent then
    let product := value * powerOfTen exponent.toNat
    if product.isInf then none else some product
  else if -308 ≤ exponent then some (value / powerOfTen (-exponent).toNat)
  else if -616 ≤ exponent then
    some (value / powerOfTen 308 / powerOfTen (-exponent - 308).toNat)
  else some 0

/-- The digits of an exponent: its value and the text after it, or only the text after the digit
with which it passes 31 bits. -/
def readExponentDigits (value : Nat) : List Char → Option Nat × List Char
  | [] => (some value, [])
  | c :: rest =>
    if isDigit c then
      let next := value * 10 + digitValue c
      if next < UInt32.size / 2 then readExponentDigits next rest else (none, rest)
    else (some value, c :: rest)

def finishFloat (isNegative : Bool) (significand : Nat) (exponent : Int) (rest : List Char) :
    Except Fault (Number × List Char) :=
  match scaled? significand exponent with
  | none => .error (.breakBefore .numberTooLarge rest)
  | some value => .ok (.float (if isNegative then -value else value), rest)

def readExponent (isNegative : Bool) (significand : Nat) (shift : Int) (unread : List Char) :
    Except Fault (Number × List Char) :=
  let shrinks := unread.head? = some '-'
  let digits := if unread.head? = some '-' ∨ unread.head? = some '+' then unread.tail else unread
  match digits with
  | [] => .error (.breakBefore .endInValue [])
  | c :: rest =>
    if isDigit c then
      match readExponentDigits 0 digits with
      | (some value, rest) =>
        finishFloat isNegative significand (if shrinks then shift - value else shift + value) rest
      | (none, rest) =>
        if significand ≠ 0 ∧ ¬ shrinks then .error (.breakBefore .numberTooLarge rest)
        else finishFloat isNegative 0 0 (rest.dropWhile isDigit)
    else .error (.breakUpon .badNumber (c :: rest))

def isExponent (c : Char) : Bool := c = 'e' || c = 'E'

def readFraction (isNegative : Bool) (significand : Nat) (shift : Int) (unread : List Char) :
    Except Fault (Number × List Char) :=
  let digits := unread.takeWhile isDigit
  let rest := unread.dropWhile isDigit
  if digits.isEmpty then
    .error (.breakUpon (if rest.isEmpty then .endInValue else .badNumber) rest)
  else
    let read := addFraction significand 0 digits
    match rest with
    | c :: after =>
      if isExponent c then readExponent isNegative read.1 (shift - read.2) after
      else finishFloat isNegative read.1 (shift - read.2) rest
    | [] => finishFloat isNegative read.1 (shift - read.2) []

def integer (isNegative : Bool) (significand : Nat) : Number :=
  if isNegative then
    if 0 < significand ∧ significand ≤ UInt64.size / 2 then .negative significand
    else .float (-(UInt64.ofNat significand).toFloat)
  else .natural significand

def readAfterWhole (isNegative : Bool) (significand surplus : Nat) (unread : List Char) :
    Except Fault (Number × List Char) :=
  let plain : Except Fault (Number × List Char) :=
    if surplus = 0 then .ok (integer isNegative significand, unread)
    else finishFloat isNegative significand surplus unread
  match unread with
  | [] => plain
  | c :: rest =>
    if c = '.' then readFraction isNegative significand surplus rest
    else if isExponent c then readExponent isNegative significand surplus rest
    else plain

def readUnsigned (isNegative : Bool) : List Char → Except Fault (Number × List Char)
  | [] => .error (.breakBefore .endInValue [])
  | c :: rest =>
    if c = '0' then
      match rest with
      | [] => readAfterWhole isNegative 0 0 rest
      | d :: _ =>
        if isDigit d then .error (.breakUpon .badNumber rest)
        else readAfterWhole isNegative 0 0 rest
    else if isDigit c then
      let whole := addWhole (digitValue c) (rest.takeWhile isDigit)
      readAfterWhole isNegative whole.1 whole.2 (rest.dropWhile isDigit)
    else .error (.breakUpon .badNumber (c :: rest))

def readNumber : List Char → Except Fault (Number × List Char)
  | '-' :: rest => readUnsigned true rest
  | unread => readUnsigned false unread

def skipExponent (unread : List Char) : Except Fault (List Char) :=
  let digits := if unread.head? = some '-' ∨ unread.head? = some '+' then unread.tail else unread
  match digits with
  | [] => .error (.breakBefore .badNumber [])
  | c :: rest =>
    if isDigit c then .ok (rest.dropWhile isDigit) else .error (.breakUpon .badNumber (c :: rest))

def skipAfterWhole : List Char → Except Fault (List Char)
  | [] => .ok []
  | c :: rest =>
    if c = '.' then
      let after := rest.dropWhile isDigit
      if (rest.takeWhile isDigit).isEmpty then .error (.breakUpon .badNumber rest)
      else
        match after with
        | d :: digits => if isExponent d then skipExponent digits else .ok after
        | [] => .ok []
    else if isExponent c then skipExponent rest
    else .ok (c :: rest)

def skipUnsigned : List Char → Except Fault (List Char)
  | [] => .error (.breakBefore .badNumber [])
  | c :: rest =>
    if c = '0' then
      match rest with
      | [] => .ok []
      | d :: _ =>
        if isDigit d then .error (.breakUpon .badNumber rest) else skipAfterWhole rest
    else if isDigit c then skipAfterWhole (rest.dropWhile isDigit)
    else .error (.breakUpon .badNumber (c :: rest))

def skipNumber : List Char → Except Fault (List Char)
  | '-' :: rest => skipUnsigned rest
  | unread => skipUnsigned unread

end PeerDirectory.Json

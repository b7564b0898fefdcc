import PeerDirectory.Json.Fault

namespace PeerDirectory.Json

def hexValue? (c : Char) : Option Nat :=
  if '0' ≤ c ∧ c ≤ '9' then some (c.toNat - '0'.toNat)
  else if 'a' ≤ c ∧ c ≤ 'f' then some (c.toNat - 'a'.toNat + 10)
  else if 'A' ≤ c ∧ c ≤ 'F' then some (c.toNat - 'A'.toNat + 10)
  else none

def hexValues? : List Char → Option Nat
  | [a, b, c, d] => do
    let a ← hexValue? a
    let b ← hexValue? b
    let c ← hexValue? c
    let d ← hexValue? d
    pure (((a * 16 + b) * 16 + c) * 16 + d)
  | _ => none

/-- Reads the four digits of an escape. With fewer than four bytes left the text has ended. -/
def readUnit (unread : List Char) : Except Fault Nat :=
  let window := unread.take 4
  if (Text.utf8Chars window).length < 4 then .error (.breakBefore .endInString [])
  else
    match hexValues? window with
    | some value => .ok value
    | none => .error (.breakAtFourth .badEscape unread)

def isLeading (value : Nat) : Bool := 0xD800 ≤ value && value ≤ 0xDBFF

def isTrailing (value : Nat) : Bool := 0xDC00 ≤ value && value ≤ 0xDFFF

/-- Reads the digits after a backslash and `u`, and the second half of a surrogate pair with them.
The number tells how many characters were taken. -/
def readUnicode (unread : List Char) : Except Fault (Char × Nat) := do
  let first ← readUnit unread
  if isTrailing first then .error (.breakAtFourth .loneSurrogate unread)
  else if isLeading first then
    match unread.drop 4 with
    | [] => .error (.breakBefore .endInString [])
    | '\\' :: rest =>
      match rest with
      | [] => .error (.breakBefore .endInString [])
      | 'u' :: rest =>
        let second ← readUnit rest
        if isTrailing second then
          pure (Char.ofNat (0x10000 + (first - 0xD800) * 0x400 + (second - 0xDC00)), 10)
        else .error (.breakAtFourth .loneSurrogate rest)
      | rest => .error (.breakUpon .halfSurrogatePair rest)
    | rest => .error (.breakUpon .halfSurrogatePair rest)
  else pure (Char.ofNat first, 4)

def simpleEscape? : Char → Option Char
  | '"' => some '"'
  | '\\' => some '\\'
  | '/' => some '/'
  | 'b' => some '\x08'
  | 'f' => some '\x0c'
  | 'n' => some '\n'
  | 'r' => some '\r'
  | 't' => some '\t'
  | _ => none

def readEscape : List Char → Except Fault (Char × Nat)
  | [] => .error (.breakBefore .endInString [])
  | c :: rest =>
    match simpleEscape? c with
    | some meant => .ok (meant, 1)
    | none =>
      if c = 'u' then (readUnicode rest).map fun read => (read.1, read.2 + 1)
      else .error (.breakUpon .badEscape (c :: rest))

def skipEscape : List Char → Except Fault Nat
  | [] => .error (.breakBefore .endInString [])
  | c :: rest =>
    if (simpleEscape? c).isSome then .ok 1
    else if c = 'u' then (readUnit rest).map fun _ => 5
    else .error (.breakUpon .badEscape (c :: rest))

def isControl (c : Char) : Bool := c.toNat < 32

/-- Reads a string to its closing quote and returns the text after it. The number counts
characters of an escape that have been read already. -/
def readText : Nat → List Char → Except Fault (List Char × List Char)
  | _, [] => .error (.breakBefore .endInString [])
  | taken + 1, _ :: rest => readText taken rest
  | 0, c :: rest =>
    if c = '"' then .ok ([], rest)
    else if c = '\\' then
      match readEscape rest with
      | .error fault => .error fault
      | .ok (meant, taken) => (readText taken rest).map fun read => (meant :: read.1, read.2)
    else if isControl c then .error (.breakBefore .controlCharacter rest)
    else (readText 0 rest).map fun read => (c :: read.1, read.2)

def skipText : Nat → List Char → Except Fault (List Char)
  | _, [] => .error (.breakBefore .endInString [])
  | taken + 1, _ :: rest => skipText taken rest
  | 0, c :: rest =>
    if c = '"' then .ok rest
    else if c = '\\' then
      match skipEscape rest with
      | .error fault => .error fault
      | .ok taken => skipText taken rest
    else if isControl c then .error (.breakBefore .controlCharacter (c :: rest))
    else skipText 0 rest

end PeerDirectory.Json

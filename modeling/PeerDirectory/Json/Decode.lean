import PeerDirectory.Json.Node

/-!
Decoding an outline: single values, options, lists, and records. A record is read from an object,
whose members may stand in any order and among unknown ones, or from an array of its fields in
order. Whatever is wrong first in the order of the text is what is reported.
-/

namespace PeerDirectory.Json

abbrev Decoded (α : Type) := Except Fault α

def Node.unexpected (expected : String) : Node → Fault
  | .null after => .mismatch (.wrongKind .null expected) after
  | .bool value after => .mismatch (.wrongKind (.bool value) expected) after
  | .number (.ok value) after => .mismatch (.wrongKind value.found expected) after
  | .number (.error fault) _ => fault
  | .string (.ok text) after => .mismatch (.wrongKind (.string text) expected) after
  | .string (.error fault) _ => fault
  | .array start _ _ => .mismatch (.wrongKind .sequence expected) start
  | .object start _ _ => .mismatch (.wrongKind .map expected) start
  | .broken _ fault => fault

def decodeString : Node → Decoded String
  | .string (.ok text) _ => .ok text
  | node => .error (node.unexpected "a string")

def decodeBool : Node → Decoded Bool
  | .bool value _ => .ok value
  | node => .error (node.unexpected "a boolean")

/-- Reads a number below a bound; `expected` is the name of the numbers below it. -/
def decodeNat (bound : Nat) (expected : String) : Node → Decoded Nat
  | .number (.ok (.natural value)) after =>
    if value < bound then .ok value
    else .error (.mismatch (.outOfRange value expected) after)
  | .number (.ok (.negative size)) after =>
    .error (.mismatch (.outOfRange (-(size : Int)) expected) after)
  | node => .error (node.unexpected expected)

def decodeUInt32 (node : Node) : Decoded UInt32 :=
  (decodeNat UInt32.size "u32" node).map UInt32.ofNat

def decodeUInt64 (node : Node) : Decoded UInt64 :=
  (decodeNat UInt64.size "u64" node).map UInt64.ofNat

def decodeSize (node : Node) : Decoded UInt64 :=
  (decodeNat UInt64.size "usize" node).map UInt64.ofNat

def decodeUnit : Node → Decoded Unit
  | .null _ => .ok ()
  | node => .error (node.unexpected "unit")

def decodeOption {α : Type} (decode : Node → Decoded α) : Node → Decoded (Option α)
  | .null _ => .ok none
  | node => (decode node).map some

def decodeList {α : Type} (decode : Node → Decoded α) : Node → Decoded (List α)
  | .array _ items ending => do
    let values ← items.mapM fun item => decode item.2
    match ending with
    | .closed _ => pure values
    | .broken wanting _ => .error wanting
  | node => .error (node.unexpected "a sequence")

def Node.after : Node → List Char
  | .null after | .bool _ after | .number _ after | .string _ after => after
  | .array start _ _ | .object start _ _ | .broken start _ => start

def decodeBytes32 (node : Node) : Decoded Bytes32 := do
  let text ← decodeString node
  match Bytes32.parse text with
  | .ok bytes => pure bytes
  | .error cause => .error (.mismatch (.hash cause) node.after)

def decodeHash (node : Node) : Decoded Hash := (decodeBytes32 node).map Hash.mk

def decodeSigningKey (node : Node) : Decoded SigningKey := (decodeBytes32 node).map SigningKey.mk

/-- Where the values of a record come from: straight from the text, or from values that were
read completely before it was known which record they belong to. -/
inductive Source where
  | text
  | kept
deriving DecidableEq

/-- How a record is read: the fields so far are a draft, to which members add. -/
structure RecordFormat (δ α : Type) where
  name : String
  size : Nat
  blank : δ
  add : δ → Name → String → Node → Decoded δ
  finish : δ → Decoded α
  inOrder : List (List Char × Node) → Ending → Decoded (α × List (List Char × Node))

def skipBrace : List Char → List Char
  | '\x7d' :: rest => rest
  | unread => unread

/-- Reads one field of an object that may be given only once. A second time is reported behind the
name, or behind the brace if the object ends there. -/
def decodeOnce {α : Type} (name : Name) (field : String) (sofar : Option α) (value : Decoded α) :
    Decoded (Option α) :=
  if sofar.isSome then .error (.mismatch (.duplicate field) (skipBrace name.after))
  else value.map some

def missingField (field : String) : Fault := ⟨.mismatch (.missing field), .unknown⟩

def required {α : Type} (field : String) : Option α → Decoded α
  | some value => .ok value
  | none => .error (missingField field)

def recordName (name : String) : String := "struct " ++ name

def recordSize (name : String) (size : Nat) : String :=
  "struct " ++ name ++ " with " ++ toString size ++ " elements"

/-- Reads the next item of an array as the field with the given index. Without another item the
default stands in, if there is one. -/
def decodeField {α : Type} (size : String) (index : Nat) (default? : Option α)
    (decode : Node → Decoded α) (ending : Ending) :
    List (List Char × Node) → Decoded (α × List (List Char × Node))
  | item :: rest => (decode item.2).map fun value => (value, rest)
  | [] =>
    match ending with
    | .broken wanting _ => .error wanting
    | .closed after =>
      match default? with
      | some value => .ok (value, [])
      | none => .error (.mismatch (.wrongLength index size) after)

def elementCount (count : Nat) : String :=
  if count = 1 then "1 element in sequence" else toString count ++ " elements in sequence"

def endOfFields (source : Source) (size : Nat) (rest : List (List Char × Node)) (ending : Ending) :
    Decoded Unit :=
  match rest with
  | item :: _ =>
    match source with
    | .text => .error (.breakUpon .trailingCharacters item.1)
    | .kept =>
      .error ⟨.mismatch (.wrongLength (size + rest.length) (elementCount size)), .unknown⟩
  | [] =>
    match ending with
    | .closed _ => .ok ()
    | .broken _ fault => .error fault

namespace RecordFormat

variable {δ α : Type}

def addAll (format : RecordFormat δ α) : δ → List (Name × Node) → Decoded δ
  | draft, [] => .ok draft
  | draft, member :: rest => do
    let name ← member.1.text
    let draft ← format.add draft member.1 name member.2
    format.addAll draft rest

def ofMembers (format : RecordFormat δ α) (members : List (Name × Node)) (ending : Ending) :
    Decoded α := do
  let draft ← format.addAll format.blank members
  match ending with
  | .closed _ => format.finish draft
  | .broken wanting _ => .error wanting

def ofItems (format : RecordFormat δ α) (source : Source) (items : List (List Char × Node))
    (ending : Ending) : Decoded α := do
  let read ← format.inOrder items ending
  endOfFields source format.size read.2 ending
  pure read.1

def decode (format : RecordFormat δ α) (source : Source) : Node → Decoded α
  | .object _ members ending => format.ofMembers members ending
  | .array _ items ending => format.ofItems source items ending
  | node => .error (node.unexpected (recordName format.name))

end RecordFormat

def variantIdentifier : String := "variant identifier"

def chooseVariant (known : List String) (name : String) (after : List Char) : Decoded Nat :=
  match known.findIdx? (· = name) with
  | some index => .ok index
  | none => .error (.mismatch (.unknownVariant name known) after)

def decodeVariant (known : List String) (node : Node) : Decoded Nat :=
  match node with
  | .string (.ok name) after => chooseVariant known name after
  | node => .error (node.unexpected variantIdentifier)

/-- A choice and what it carries: nothing if it is a bare name, and otherwise the value of the one
member of an object, which `close` checks to be the only one. -/
inductive Choice where
  | bare (index : Nat) (after : List Char)
  | carrying (index : Nat) (value : Node) (close : Decoded Unit)

def endOfChoice (rest : List (Name × Node)) (ending : Ending) : Decoded Unit :=
  match rest, ending with
  | [], .closed _ => .ok ()
  | [], .broken _ fault => .error fault
  | member :: _, _ => .error (.breakBefore .noValue member.1.after)

def decodeChoice (known : List String) : Node → Decoded Choice
  | .string (.ok name) after => (chooseVariant known name after).map fun index => .bare index after
  | .string (.error fault) _ => .error fault
  | .object _ ((name, value) :: rest) ending => do
    let text ← name.text
    let index ← chooseVariant known text name.after
    pure (.carrying index value (endOfChoice rest ending))
  | .object start [] ending =>
    match ending with
    | .closed _ => .error (.breakBefore .noValue start)
    | .broken wanting _ => .error wanting
  | .broken [] fault => .error fault
  | node => .error (.breakUpon .noValue node.after)

def maxDepth : Nat := 127

mutual

/-- Checks that a value to be kept is JSON throughout and not nested too deeply. The level counts
the brackets and braces around it. -/
def settled (level : Nat) : Node → Decoded Unit
  | .null _ => .ok ()
  | .bool _ _ => .ok ()
  | .number value _ => value.map fun _ => ()
  | .string text _ => text.map fun _ => ()
  | .array start items ending =>
    if maxDepth ≤ level then .error (.breakUpon .tooDeep start)
    else settledItems (level + 1) ending items
  | .object start members ending =>
    if maxDepth ≤ level then .error (.breakUpon .tooDeep start)
    else settledMembers (level + 1) ending members
  | .broken _ fault => .error fault

def settledItems (level : Nat) (ending : Ending) : List (List Char × Node) → Decoded Unit
  | [] =>
    match ending with
    | .closed _ => .ok ()
    | .broken wanting _ => .error wanting
  | (_, node) :: rest =>
    match settled level node with
    | .error fault => .error fault
    | .ok () => settledItems level ending rest

def settledMembers (level : Nat) (ending : Ending) : List (Name × Node) → Decoded Unit
  | [] =>
    match ending with
    | .closed _ => .ok ()
    | .broken wanting _ => .error wanting
  | (name, node) :: rest =>
    match name.text with
    | .error fault => .error fault
    | .ok _ =>
      match settled level node with
      | .error fault => .error fault
      | .ok () => settledMembers level ending rest

end

def decodeText {α : Type} (decode : Node → Decoded α) (text : String) : Decoded α := do
  let read := outlineOf text
  let value ← decode read.1
  let after ← read.2
  match skipBlanks after with
  | [] => pure value
  | rest => .error (.breakUpon .trailingCharacters rest)

end PeerDirectory.Json

import PeerDirectory.Hash
import PeerDirectory.Decimal

namespace PeerDirectory.Json

inductive Break where
  | endInList
  | endInObject
  | endInString
  | endInValue
  | noColon
  | noListEnd
  | noObjectEnd
  | badWord
  | noValue
  | badEscape
  | badNumber
  | numberTooLarge
  | controlCharacter
  | nameNotString
  | loneSurrogate
  | halfSurrogatePair
  | trailingComma
  | trailingCharacters
  | tooDeep
deriving DecidableEq

namespace Break

def isEnd : Break → Bool
  | endInList | endInObject | endInString | endInValue => true
  | _ => false

def message : Break → String
  | endInList => "EOF while parsing a list"
  | endInObject => "EOF while parsing an object"
  | endInString => "EOF while parsing a string"
  | endInValue => "EOF while parsing a value"
  | noColon => "expected `:`"
  | noListEnd => "expected `,` or `]`"
  | noObjectEnd => "expected `,` or `\x7d`"
  | badWord => "expected ident"
  | noValue => "expected value"
  | badEscape => "invalid escape"
  | badNumber => "invalid number"
  | numberTooLarge => "number out of range"
  | controlCharacter => "control character (\\u0000-\\u001F) found while parsing a string"
  | nameNotString => "key must be a string"
  | loneSurrogate => "lone leading surrogate in hex escape"
  | halfSurrogatePair => "unexpected end of hex escape"
  | trailingComma => "trailing comma"
  | trailingCharacters => "trailing characters"
  | tooDeep => "recursion limit exceeded"

end Break

inductive Found where
  | null
  | bool (value : Bool)
  | integer (value : Int)
  | float (value : Float)
  | string (text : String)
  | sequence
  | map
  | unitVariant

def Found.message : Found → String
  | null => "null"
  | bool value => "boolean `" ++ toString value ++ "`"
  | integer value => "integer `" ++ toString value ++ "`"
  | float value => "floating point `" ++ Decimal.text value ++ "`"
  | string text => "string " ++ Text.quote text
  | sequence => "sequence"
  | map => "map"
  | unitVariant => "unit variant"

inductive Mismatch where
  | wrongKind (found : Found) (expected : String)
  | outOfRange (value : Int) (expected : String)
  | wrongLength (length : Nat) (expected : String)
  | unknownVariant (name : String) (known : List String)
  | missing (field : String)
  | duplicate (field : String)
  | hash (cause : HashError)

def alternatives : List String → String
  | [] => "there are no variants"
  | [only] => "expected `" ++ only ++ "`"
  | [one, other] => "expected `" ++ one ++ "` or `" ++ other ++ "`"
  | names => "expected one of " ++ ", ".intercalate (names.map fun name => "`" ++ name ++ "`")

def Mismatch.message : Mismatch → String
  | wrongKind found expected => "invalid type: " ++ found.message ++ ", expected " ++ expected
  | outOfRange value expected =>
    "invalid value: integer `" ++ toString value ++ "`, expected " ++ expected
  | wrongLength length expected =>
    "invalid length " ++ toString length ++ ", expected " ++ expected
  | unknownVariant name known => "unknown variant `" ++ name ++ "`, " ++ alternatives known
  | missing field => "missing field `" ++ field ++ "`"
  | duplicate field => "duplicate field `" ++ field ++ "`"
  | hash (.digits cause) => cause.message
  | hash .wrongLength => "invalid hash length"

inductive Cause where
  | broken (cause : Break)
  | mismatch (cause : Mismatch)

def Cause.message : Cause → String
  | broken cause => cause.message
  | mismatch cause => cause.message

inductive Place where
  | within (unread : List Char) (bytes : Nat)
  /-- In a value that had been read before; its place in the text is no longer known. -/
  | unknown

structure Fault where
  cause : Cause
  place : Place

def Place.bytesBefore (text : List Char) : Place → Option (List UInt8)
  | .within unread bytes =>
    some (Text.utf8Chars (text.take (text.length - unread.length)) ++
      (Text.utf8Chars unread).take bytes)
  | .unknown => none

def lineAndColumn (bytes : List UInt8) : Nat × Nat :=
  (1 + bytes.count 10, (bytes.reverse.takeWhile (· ≠ 10)).length)

def Fault.messageIn (text : String) (fault : Fault) : String :=
  match fault.place.bytesBefore text.toList with
  | none => fault.cause.message
  | some bytes =>
    let position := lineAndColumn bytes
    fault.cause.message ++ " at line " ++ toString position.1 ++ " column " ++ toString position.2

namespace Fault

def breakBefore (cause : Break) (unread : List Char) : Fault := ⟨.broken cause, .within unread 0⟩

def breakUpon (cause : Break) (unread : List Char) : Fault := ⟨.broken cause, .within unread 1⟩

def breakAtFourth (cause : Break) (unread : List Char) : Fault :=
  ⟨.broken cause, .within unread 4⟩

def mismatch (cause : Mismatch) (unread : List Char) : Fault := ⟨.mismatch cause, .within unread 0⟩

end Fault

end PeerDirectory.Json

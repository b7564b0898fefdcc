import PeerDirectory.Json.Text
import PeerDirectory.Json.Number

namespace PeerDirectory.Json

structure Name where
  text : Except Fault String
  /-- The text after the name and the blanks behind it. -/
  after : List Char

inductive Ending where
  | closed (after : List Char)
  /-- Neither another element nor the end: what a reader that wants the one, and a reader that
  wants the other, run into. -/
  | broken (wanting : Fault) (ending : Fault)

inductive Node where
  | null (after : List Char)
  | bool (value : Bool) (after : List Char)
  | number (value : Except Fault Number) (after : List Char)
  | string (text : Except Fault String) (after : List Char)
  | array (start : List Char) (items : List (List Char × Node)) (ending : Ending)
  | object (start : List Char) (members : List (Name × Node)) (ending : Ending)
  | broken (start : List Char) (fault : Fault)

def isBlank (c : Char) : Bool := c = ' ' || c = '\n' || c = '\t' || c = '\r'

def skipBlanks (unread : List Char) : List Char := unread.dropWhile isBlank

/-- A node and the text after it, or the fault that everything after it is hidden behind. -/
abbrev Outline := Node × Except Fault (List Char)

def readWord (start : List Char) (node : List Char → Node) : List Char → List Char → Outline
  | [], unread => (node unread, .ok unread)
  | _ :: _, [] =>
    (.broken start (.breakBefore .endInValue []), .error (.breakBefore .endInValue []))
  | expected :: word, c :: unread =>
    if c = expected then readWord start node word unread
    else
      (.broken start (.breakUpon .badWord (c :: unread)),
        .error (.breakUpon .badWord (c :: unread)))

def outlineText (unread : List Char) : Except Fault String × Except Fault (List Char) :=
  match readText 0 unread with
  | .ok (text, after) => (.ok (String.ofList text), .ok after)
  | .error fault => (.error fault, skipText 0 unread)

def outlineNumber (unread : List Char) : Outline :=
  match readNumber unread with
  | .ok (value, after) => (.number (.ok value) after, .ok after)
  | .error fault =>
    match skipNumber unread with
    | .ok after => (.number (.error fault) after, .ok after)
    | .error skipped => (.number (.error fault) [], .error skipped)

def hidden (fault : Fault) : Ending := .broken fault fault

mutual

def outline : Nat → List Char → Outline
  | 0, unread => (.broken unread (.breakUpon .tooDeep unread), .error (.breakUpon .tooDeep unread))
  | fuel + 1, unread =>
    match skipBlanks unread with
    | [] => (.broken [] (.breakUpon .endInValue []), .error (.breakUpon .endInValue []))
    | c :: rest =>
      if c = 'n' then readWord (c :: rest) .null ['u', 'l', 'l'] rest
      else if c = 't' then readWord (c :: rest) (.bool true) ['r', 'u', 'e'] rest
      else if c = 'f' then readWord (c :: rest) (.bool false) ['a', 'l', 's', 'e'] rest
      else if c = '-' ∨ isDigit c then outlineNumber (c :: rest)
      else if c = '"' then
        let read := outlineText rest
        (.string read.1 (read.2.toOption.getD []), read.2)
      else if c = '[' then
        let read := outlineItems fuel true rest
        (.array (c :: rest) read.1 read.2.1, read.2.2)
      else if c = '\x7b' then
        let read := outlineMembers fuel true rest
        (.object (c :: rest) read.1 read.2.1, read.2.2)
      else (.broken (c :: rest) (.breakUpon .noValue (c :: rest)),
        .error (.breakUpon .noValue (c :: rest)))

def outlineItems : Nat → Bool → List Char →
    List (List Char × Node) × Ending × Except Fault (List Char)
  | 0, _, unread =>
    ([], hidden (.breakUpon .tooDeep unread), .error (.breakUpon .tooDeep unread))
  | fuel + 1, isFirst, unread =>
    match skipBlanks unread with
    | [] => ([], hidden (.breakUpon .endInList []), .error (.breakUpon .endInList []))
    | c :: rest =>
      if c = ']' then ([], .closed rest, .ok rest)
      else if isFirst then outlineItem fuel (c :: rest)
      else if c = ',' then
        match skipBlanks rest with
        | [] =>
          ([], .broken (.breakUpon .endInValue []) (.breakUpon .trailingCharacters []),
            .error (.breakUpon .endInValue []))
        | d :: after =>
          if d = ']' then
            ([], hidden (.breakUpon .trailingComma (d :: after)),
              .error (.breakUpon .noValue (d :: after)))
          else outlineItem fuel (d :: after)
      else
        let fault := Fault.breakUpon .noListEnd (c :: rest)
        ([], .broken fault (.breakUpon .trailingCharacters (c :: rest)), .error fault)

def outlineItem : Nat → List Char → List (List Char × Node) × Ending × Except Fault (List Char)
  | 0, unread =>
    ([], hidden (.breakUpon .tooDeep unread), .error (.breakUpon .tooDeep unread))
  | fuel + 1, unread =>
    let item := outline fuel unread
    match item.2 with
    | .error fault => ([(unread, item.1)], hidden fault, .error fault)
    | .ok after =>
      let more := outlineItems fuel false after
      ((unread, item.1) :: more.1, more.2)

def outlineMembers : Nat → Bool → List Char →
    List (Name × Node) × Ending × Except Fault (List Char)
  | 0, _, unread =>
    ([], hidden (.breakUpon .tooDeep unread), .error (.breakUpon .tooDeep unread))
  | fuel + 1, isFirst, unread =>
    match skipBlanks unread with
    | [] => ([], hidden (.breakUpon .endInObject []), .error (.breakUpon .endInObject []))
    | c :: rest =>
      if c = '\x7d' then ([], .closed rest, .ok rest)
      else if isFirst then
        if c = '"' then outlineMember fuel rest
        else
          let fault := Fault.breakUpon .nameNotString (c :: rest)
          ([], hidden fault, .error fault)
      else if c = ',' then
        let ending := Fault.breakBefore .noValue (c :: rest)
        match skipBlanks rest with
        | [] =>
          ([], .broken (.breakUpon .endInValue []) ending,
            .error (.breakUpon .endInObject []))
        | d :: after =>
          if d = '"' then outlineMember fuel after
          else
            let fault := Fault.breakUpon .nameNotString (d :: after)
            let wanting := if d = '\x7d' then Fault.breakUpon .trailingComma (d :: after) else fault
            ([], .broken wanting ending, .error fault)
      else
        let fault := Fault.breakUpon .noObjectEnd (c :: rest)
        ([], .broken fault (.breakBefore .noValue (c :: rest)), .error fault)

def outlineMember : Nat → List Char →
    List (Name × Node) × Ending × Except Fault (List Char)
  | 0, unread =>
    ([], hidden (.breakUpon .tooDeep unread), .error (.breakUpon .tooDeep unread))
  | fuel + 1, unread =>
    let name := outlineText unread
    match name.2 with
    | .error fault => ([(⟨name.1, []⟩, .broken [] fault)], hidden fault, .error fault)
    | .ok after =>
      match skipBlanks after with
      | [] =>
        let fault := Fault.breakUpon .endInObject []
        ([(⟨name.1, []⟩, .broken [] fault)], hidden fault, .error fault)
      | c :: rest =>
        if c = ':' then
          let value := outline fuel rest
          match value.2 with
          | .error fault => ([(⟨name.1, c :: rest⟩, value.1)], hidden fault, .error fault)
          | .ok after =>
            let more := outlineMembers fuel false after
            ((⟨name.1, c :: rest⟩, value.1) :: more.1, more.2)
        else
          let fault := Fault.breakUpon .noColon (c :: rest)
          ([(⟨name.1, c :: rest⟩, .broken (c :: rest) fault)], hidden fault, .error fault)

end

def outlineOf (text : String) : Outline :=
  let unread := text.toList
  outline (3 * unread.length + 3) unread

end PeerDirectory.Json

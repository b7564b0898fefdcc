import PeerDirectory.Json.Value
import PeerDirectory.Json.Node

namespace PeerDirectory.Json

def Blank (gap : List Char) : Prop := ∀ c ∈ gap, isBlank c = true

inductive Quoted : List Char → List Char → Prop
  | close : Quoted [] ['"']
  | plain {c : Char} {meant written : List Char} (quote : c ≠ '"') (backslash : c ≠ '\\')
      (shown : isControl c = false) (more : Quoted meant written) :
      Quoted (c :: meant) (c :: written)
  | escape {letter c : Char} {meant written : List Char} (simple : simpleEscape? letter = some c)
      (more : Quoted meant written) : Quoted (c :: meant) ('\\' :: letter :: written)
  | unit {digits meant written : List Char} {value : Nat} (read : hexValues? digits = some value)
      (leading : isLeading value = false) (trailing : isTrailing value = false)
      (more : Quoted meant written) :
      Quoted (Char.ofNat value :: meant) ('\\' :: 'u' :: digits ++ written)
  | pair {digits others meant written : List Char} {first second : Nat}
      (high : hexValues? digits = some first) (leading : isLeading first = true)
      (low : hexValues? others = some second) (trailing : isTrailing second = true)
      (more : Quoted meant written) :
      Quoted (Char.ofNat (0x10000 + (first - 0xD800) * 0x400 + (second - 0xDC00)) :: meant)
        ('\\' :: 'u' :: digits ++ '\\' :: 'u' :: others ++ written)

/-- What stands before an item or a member: a comma before every one but the first. -/
inductive Lead : Bool → List Char → Prop
  | first {gap : List Char} (blank : Blank gap) : Lead true gap
  | next {before after : List Char} (blank : Blank before) (again : Blank after) :
      Lead false (before ++ ',' :: after)

mutual

inductive Spelled : Json → List Char → Prop
  | null : Spelled .null ['n', 'u', 'l', 'l']
  | true : Spelled (.bool true) ['t', 'r', 'u', 'e']
  | false : Spelled (.bool false) ['f', 'a', 'l', 's', 'e']
  | number {value : Nat} (fits : value ≤ maxWord) : Spelled (.number value) (digits value)
  | string {meant written : List Char} (quoted : Quoted meant written) :
      Spelled (.string (String.ofList meant)) ('"' :: written)
  | array {items : List Json} {text : List Char} (spelled : SpelledItems true items text) :
      Spelled (.array items) ('[' :: text)
  | object {members : List (String × Json)} {text : List Char}
      (spelled : SpelledMembers true members text) : Spelled (.object members) ('\x7b' :: text)

inductive SpelledItems : Bool → List Json → List Char → Prop
  | close {isFirst : Bool} {gap : List Char} (blank : Blank gap) :
      SpelledItems isFirst [] (gap ++ [']'])
  | item {isFirst : Bool} {lead text more : List Char} {value : Json} {rest : List Json}
      (led : Lead isFirst lead) (spelled : Spelled value text)
      (others : SpelledItems false rest more) :
      SpelledItems isFirst (value :: rest) (lead ++ text ++ more)

inductive SpelledMembers : Bool → List (String × Json) → List Char → Prop
  | close {isFirst : Bool} {gap : List Char} (blank : Blank gap) :
      SpelledMembers isFirst [] (gap ++ ['\x7d'])
  | member {isFirst : Bool} {lead name written before after text more : List Char} {value : Json}
      {rest : List (String × Json)} (led : Lead isFirst lead) (quoted : Quoted name written)
      (blank : Blank before) (again : Blank after) (spelled : Spelled value text)
      (others : SpelledMembers false rest more) :
      SpelledMembers isFirst ((String.ofList name, value) :: rest)
        (lead ++ '"' :: written ++ before ++ ':' :: after ++ text ++ more)

end

/-- A value of no more than this depth whose numbers fit into a word. -/
def Modest : Nat → Json → Prop
  | _, .null | _, .bool _ | _, .string _ => True
  | _, .number value => value ≤ maxWord
  | 0, .array _ | 0, .object _ => False
  | depth + 1, .array items => ∀ item ∈ items, Modest depth item
  | depth + 1, .object members => ∀ member ∈ members, Modest depth member.2

theorem le_maxWord (value : UInt64) : value.toNat ≤ maxWord :=
  Nat.le_sub_one_of_lt value.toNat_lt_size

theorem Modest.mono {depth more : Nat} {value : Json} (modest : Modest depth value)
    (deeper : depth ≤ more) : Modest more value := by
  cases value with
  | null | bool _ | string _ => simp [Modest]
  | number _ => simpa [Modest] using modest
  | array items =>
    cases depth with
    | zero => exact modest.elim
    | succ depth =>
      obtain ⟨more, rfl⟩ := Nat.exists_eq_add_of_lt deeper
      exact fun item listed => (modest item listed).mono (by omega)
  | object members =>
    cases depth with
    | zero => exact modest.elim
    | succ depth =>
      obtain ⟨more, rfl⟩ := Nat.exists_eq_add_of_lt deeper
      exact fun member listed => (modest member listed).mono (by omega)

theorem blank_nil : Blank [] := nofun

theorem quoted_escape {meant written : List Char} (more : Quoted meant written) (c : Char) :
    Quoted (c :: meant) (escape c ++ written) := by
  have control : ∀ value < 32,
      hexValues? ['0', '0', hexDigit (value / 16), hexDigit (value % 16)] = some value ∧
        isLeading value = false ∧ isTrailing value = false := by
    decide
  unfold escape
  split
  case isTrue same => exact .escape (by rw [same]; rfl) more
  case isFalse quote =>
    split
    case isTrue same => exact .escape (by rw [same]; rfl) more
    case isFalse backslash =>
      iterate 5
        split
        · rename_i same
          exact .escape (by rw [same]; rfl) more
      split
      case isTrue small =>
        obtain ⟨read, leading, trailing⟩ := control c.toNat small
        have quoted := Quoted.unit read leading trailing more
        rwa [Char.ofNat_toNat] at quoted
      case isFalse large => exact .plain quote backslash (decide_eq_false large) more

theorem quoted_escaped (text : List Char) : Quoted text (text.flatMap escape ++ ['"']) := by
  induction text with
  | nil => exact .close
  | cons c rest ih =>
    rw [List.flatMap_cons, List.append_assoc]
    exact quoted_escape ih c

theorem spelled_written (text : String) : Spelled (.string text) (written text) := by
  have spelled := Spelled.string (quoted_escaped text.toList)
  rwa [String.ofList_toList] at spelled

section Compact

variable {items : List Json} {members : List (String × Json)}

theorem spelled_compactMoreItems (spelled : ∀ item ∈ items, Spelled item item.compactChars) :
    SpelledItems false items (compactMoreItems items) := by
  induction items with
  | nil => exact .close blank_nil
  | cons item rest ih =>
    obtain ⟨first, others⟩ := List.forall_mem_cons.mp spelled
    exact .item (.next blank_nil blank_nil) first (ih others)

theorem spelled_compactItems (spelled : ∀ item ∈ items, Spelled item item.compactChars) :
    SpelledItems true items (compactItems items) := by
  cases items with
  | nil => exact .close blank_nil
  | cons item rest =>
    obtain ⟨first, others⟩ := List.forall_mem_cons.mp spelled
    exact .item (.first blank_nil) first (spelled_compactMoreItems others)

theorem spelled_compactMoreMembers
    (spelled : ∀ member ∈ members, Spelled member.2 member.2.compactChars) :
    SpelledMembers false members (compactMoreMembers members) := by
  induction members with
  | nil => exact .close blank_nil
  | cons member rest ih =>
    obtain ⟨name, value⟩ := member
    obtain ⟨first, others⟩ := List.forall_mem_cons.mp spelled
    have whole := SpelledMembers.member (.next blank_nil blank_nil) (quoted_escaped name.toList)
      blank_nil blank_nil first (ih others)
    rw [String.ofList_toList] at whole
    simpa [compactMoreMembers, written] using whole

theorem spelled_compactMembers
    (spelled : ∀ member ∈ members, Spelled member.2 member.2.compactChars) :
    SpelledMembers true members (compactMembers members) := by
  cases members with
  | nil => exact .close blank_nil
  | cons member rest =>
    obtain ⟨name, value⟩ := member
    obtain ⟨first, others⟩ := List.forall_mem_cons.mp spelled
    have whole := SpelledMembers.member (.first blank_nil) (quoted_escaped name.toList)
      blank_nil blank_nil first (spelled_compactMoreMembers others)
    rw [String.ofList_toList] at whole
    simpa [compactMembers, written] using whole

end Compact

theorem spelled_compactChars {depth : Nat} {value : Json} (modest : Modest depth value) :
    Spelled value value.compactChars := by
  cases value with
  | null => exact .null
  | bool value => cases value <;> constructor
  | number value => exact .number (by simpa only [Modest] using modest)
  | string text => exact spelled_written text
  | array items =>
    cases depth with
    | zero => exact modest.elim
    | succ depth =>
      exact .array (spelled_compactItems fun item member =>
        spelled_compactChars (modest item member))
  | object members =>
    cases depth with
    | zero => exact modest.elim
    | succ depth =>
      exact .object (spelled_compactMembers fun member listed =>
        spelled_compactChars (modest member listed))

section Pretty

variable {level : Nat} {items : List Json} {members : List (String × Json)}

theorem blank_newLine (level : Nat) : Blank (newLine level) := by
  intro c listed
  rcases List.mem_cons.mp listed with rfl | space
  · rfl
  · rw [List.eq_of_mem_replicate space]
    rfl

theorem spelled_prettyItems
    (spelled : ∀ item ∈ items, Spelled item (item.prettyChars (level + 1))) :
    SpelledItems false items (prettyItems level items) := by
  induction items with
  | nil => exact .close (blank_newLine level)
  | cons item rest ih =>
    obtain ⟨first, others⟩ := List.forall_mem_cons.mp spelled
    exact .item (.next blank_nil (blank_newLine _)) first (ih others)

theorem blank_space : Blank [' '] := by
  simp [Blank, isBlank]

theorem spelled_prettyMembers
    (spelled : ∀ member ∈ members, Spelled member.2 (member.2.prettyChars (level + 1))) :
    SpelledMembers false members (prettyMembers level members) := by
  induction members with
  | nil => exact .close (blank_newLine level)
  | cons member rest ih =>
    obtain ⟨name, value⟩ := member
    obtain ⟨first, others⟩ := List.forall_mem_cons.mp spelled
    have whole := SpelledMembers.member (.next blank_nil (blank_newLine (level + 1)))
      (quoted_escaped name.toList) blank_nil blank_space first (ih others)
    rw [String.ofList_toList] at whole
    simpa [prettyMembers, written] using whole

end Pretty

theorem spelled_prettyChars {depth : Nat} {value : Json} (modest : Modest depth value)
    (level : Nat) : Spelled value (value.prettyChars level) := by
  cases value with
  | null => exact .null
  | bool value => cases value <;> constructor
  | number value => exact .number (by simpa only [Modest] using modest)
  | string text => exact spelled_written text
  | array items =>
    cases depth with
    | zero => exact modest.elim
    | succ depth =>
      have each (item : Json) (member : item ∈ items) :=
        spelled_prettyChars (modest item member) (level + 1)
      cases items with
      | nil => exact .array (.close blank_nil)
      | cons item rest =>
        obtain ⟨first, others⟩ := List.forall_mem_cons.mp each
        exact .array (.item (.first (blank_newLine _)) first (spelled_prettyItems others))
  | object members =>
    cases depth with
    | zero => exact modest.elim
    | succ depth =>
      have each (member : String × Json) (listed : member ∈ members) :=
        spelled_prettyChars (modest member listed) (level + 1)
      cases members with
      | nil => exact .object (.close blank_nil)
      | cons member rest =>
        obtain ⟨name, value⟩ := member
        obtain ⟨first, others⟩ := List.forall_mem_cons.mp each
        have whole := SpelledMembers.member (.first (blank_newLine (level + 1)))
          (quoted_escaped name.toList) blank_nil blank_space first (spelled_prettyMembers others)
        rw [String.ofList_toList] at whole
        simpa [prettyChars, written] using Spelled.object whole

end PeerDirectory.Json

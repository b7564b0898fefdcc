import PeerDirectory.Json.Decode
import PeerDirectory.Proofs.Json.Spelling

/-!
The outline of a text that spells a value depicts that value, and leaves what follows the text.
Places are not part of what an outline depicts.
-/

namespace PeerDirectory.Json

mutual

def Depicts : Json → Node → Prop
  | .null, node => ∃ after, node = .null after
  | .bool value, node => ∃ after, node = .bool value after
  | .number value, node => ∃ after, node = .number (.ok (.natural value)) after
  | .string text, node => ∃ after, node = .string (.ok text) after
  | .array items, node => ∃ start nodes after, node = .array start nodes (.closed after) ∧
      DepictsItems items nodes
  | .object members, node => ∃ start nodes after, node = .object start nodes (.closed after) ∧
      DepictsMembers members nodes

def DepictsItems : List Json → List (List Char × Node) → Prop
  | [], nodes => nodes = []
  | item :: rest, nodes => ∃ start node more, nodes = (start, node) :: more ∧ Depicts item node ∧
      DepictsItems rest more

def DepictsMembers : List (String × Json) → List (Name × Node) → Prop
  | [], nodes => nodes = []
  | (name, value) :: rest, nodes => ∃ after node more, nodes = (⟨.ok name, after⟩, node) :: more ∧
      Depicts value node ∧ DepictsMembers rest more

end

/-! ## Blanks -/

theorem skipBlanks_append {gap : List Char} (blank : Blank gap) (unread : List Char) :
    skipBlanks (gap ++ unread) = skipBlanks unread :=
  List.dropWhile_append_of_pos blank

theorem skipBlanks_of_dark {c : Char} (dark : isBlank c = false) (rest : List Char) :
    skipBlanks (c :: rest) = c :: rest := by
  simp [skipBlanks, dark]

/-! ## Strings -/

theorem readText_append (taken rest : List Char) :
    readText taken.length (taken ++ rest) = readText 0 rest := by
  induction taken with
  | nil => rfl
  | cons c more ih => exact ih

theorem length_of_hexValues? {digits : List Char} {value : Nat}
    (read : hexValues? digits = some value) : digits.length = 4 := by
  unfold hexValues? at read
  split at read
  · rfl
  · cases read

theorem length_le_utf8Chars (text : List Char) : text.length ≤ (Text.utf8Chars text).length := by
  induction text with
  | nil => exact Nat.le_refl _
  | cons c rest ih =>
    have first := c.utf8Size_pos
    simp only [Text.utf8Chars, List.flatMap_cons, List.length_append, List.length_cons,
      String.length_utf8EncodeChar] at ih ⊢
    omega

theorem readUnit_append {digits : List Char} {value : Nat}
    (read : hexValues? digits = some value) (rest : List Char) :
    readUnit (digits ++ rest) = .ok value := by
  have four := length_of_hexValues? read
  have window : (digits ++ rest).take 4 = digits := by
    rw [← four, List.take_left]
  have whole : ¬(Text.utf8Chars digits).length < 4 := by
    have least := length_le_utf8Chars digits
    omega
  simp only [readUnit, window, if_neg whole, read]

theorem drop_of_hexValues? {digits : List Char} {value : Nat}
    (read : hexValues? digits = some value) (rest : List Char) :
    (digits ++ rest).drop 4 = rest := by
  rw [← length_of_hexValues? read, List.drop_left]

theorem readUnicode_unit {digits : List Char} {value : Nat}
    (read : hexValues? digits = some value) (leading : isLeading value = false)
    (trailing : isTrailing value = false) (rest : List Char) :
    readUnicode (digits ++ rest) = .ok (Char.ofNat value, 4) := by
  simp only [readUnicode, readUnit_append read, bind, Except.bind, trailing, leading]
  rfl

theorem not_trailing_of_leading {value : Nat} (leading : isLeading value = true) :
    isTrailing value = false := by
  simp only [isLeading, isTrailing, Bool.and_eq_true, decide_eq_true_eq, Bool.and_eq_false_iff,
    decide_eq_false_iff_not] at leading ⊢
  omega

theorem readUnicode_pair {digits others : List Char} {first second : Nat}
    (high : hexValues? digits = some first) (leading : isLeading first = true)
    (low : hexValues? others = some second) (trailing : isTrailing second = true)
    (rest : List Char) :
    readUnicode (digits ++ '\\' :: 'u' :: (others ++ rest)) =
      .ok (Char.ofNat (0x10000 + (first - 0xD800) * 0x400 + (second - 0xDC00)), 10) := by
  simp only [readUnicode, readUnit_append high, drop_of_hexValues? high, readUnit_append low, bind,
    Except.bind, not_trailing_of_leading leading, leading, trailing]
  rfl

theorem readEscape_unicode {unread : List Char} {c : Char} {taken : Nat}
    (read : readUnicode unread = .ok (c, taken)) :
    readEscape ('u' :: unread) = .ok (c, taken + 1) := by
  simp only [readEscape, simpleEscape?, read]
  rfl

theorem readText_escape (taken rest : List Char) {c : Char}
    (read : readEscape (taken ++ rest) = .ok (c, taken.length)) :
    readText 0 ('\\' :: (taken ++ rest)) =
      (readText 0 rest).map fun read => (c :: read.1, read.2) := by
  simp only [readText, read, readText_append]
  rfl

theorem readText_quoted {meant written : List Char} (quoted : Quoted meant written)
    (rest : List Char) : readText 0 (written ++ rest) = .ok (meant, rest) := by
  induction quoted with
  | close => rfl
  | plain quote backslash shown more ih =>
    rw [List.cons_append, readText, if_neg quote, if_neg backslash, shown, ih]
    rfl
  | @escape letter c meant written simple more ih =>
    have read : readEscape ([letter] ++ (written ++ rest)) = .ok (c, 1) := by
      simp only [List.cons_append, readEscape, simple]
    exact (readText_escape [letter] (written ++ rest) read).trans (by rw [ih]; rfl)
  | @unit digits meant written value read leading trailing more ih =>
    have four : ('u' :: digits).length = 4 + 1 := by
      rw [List.length_cons, length_of_hexValues? read]
    have whole := readEscape_unicode (readUnicode_unit read leading trailing (written ++ rest))
    rw [← four] at whole
    have escaped := readText_escape ('u' :: digits) (written ++ rest) whole
    rw [ih] at escaped
    simpa [Except.map] using escaped
  | @pair digits others meant written first second high leading low trailing more ih =>
    have ten : ('u' :: (digits ++ '\\' :: 'u' :: others)).length = 10 + 1 := by
      simp [length_of_hexValues? high, length_of_hexValues? low]
    have whole := readEscape_unicode (readUnicode_pair high leading low trailing (written ++ rest))
    rw [← ten] at whole
    have escaped := readText_escape ('u' :: (digits ++ '\\' :: 'u' :: others)) (written ++ rest)
      (by simpa using whole)
    rw [ih] at escaped
    simpa [Except.map] using escaped

theorem outlineText_quoted {meant written : List Char} (quoted : Quoted meant written)
    (rest : List Char) :
    outlineText (written ++ rest) = (.ok (String.ofList meant), .ok rest) := by
  simp only [outlineText, readText_quoted quoted]

/-! ## Numbers -/

def Ends (rest : List Char) : Prop :=
  ∀ c, rest.head? = some c → isDigit c = false ∧ c ≠ '.' ∧ isExponent c = false

theorem isDigit_of_mem_digits {value : Nat} {c : Char} (member : c ∈ digits value) :
    isDigit c = true := by
  have read := Nat.isDigit_of_mem_toDigits (by decide) (by decide) member
  simp only [Char.isDigit, isDigit, Bool.and_eq_true, decide_eq_true_eq] at read ⊢
  exact read

theorem digits_ne_nil (value : Nat) : digits value ≠ [] := Nat.toDigits_ne_nil

theorem head_digits {value : Nat} (positive : 0 < value) {c : Char} {rest : List Char}
    (written : digits value = c :: rest) : c ≠ '0' := by
  induction value using Nat.strongRecOn generalizing c rest with
  | ind value ih =>
    rw [digits, Nat.toDigits_eq_if (by decide)] at written
    split at written
    case isTrue small =>
      have single : ∀ value < 10, 0 < value → Nat.digitChar value ≠ '0' := by decide
      rw [← (List.cons.inj written).1]
      exact single value small positive
    case isFalse large =>
      have shorter : value / 10 < value := Nat.div_lt_self positive (by decide)
      obtain ⟨first, others, more⟩ := List.exists_cons_of_ne_nil (digits_ne_nil (value / 10))
      rw [← digits, more, List.cons_append] at written
      rw [← (List.cons.inj written).1]
      exact ih _ shorter (by omega) more

theorem takeWhile_digits {ds rest : List Char} (all : ∀ c ∈ ds, isDigit c = true)
    (ends : Ends rest) :
    (ds ++ rest).takeWhile isDigit = ds ∧ (ds ++ rest).dropWhile isDigit = rest := by
  rw [List.takeWhile_append_of_pos all, List.dropWhile_append_of_pos all]
  cases rest with
  | nil => simp
  | cons c rest => simp [(ends c rfl).1]

theorem le_ofDigitChars (ds : List Char) (start : Nat) : start ≤ Nat.ofDigitChars 10 ds start := by
  induction ds generalizing start with
  | nil => exact Nat.le_refl _
  | cons c rest ih =>
    have first := ih (10 * start + (c.toNat - '0'.toNat))
    rw [Nat.ofDigitChars, List.foldl_cons, ← Nat.ofDigitChars]
    omega

theorem addWhole_digits {start : Nat} {ds : List Char}
    (fits : Nat.ofDigitChars 10 ds start ≤ maxWord) :
    addWhole start ds = (Nat.ofDigitChars 10 ds start, 0) := by
  induction ds generalizing start with
  | nil => rfl
  | cons c rest ih =>
    have next : start * 10 + digitValue c = 10 * start + (c.toNat - '0'.toNat) := by
      rw [digitValue, Nat.mul_comm]
    have onward : Nat.ofDigitChars 10 (c :: rest) start =
        Nat.ofDigitChars 10 rest (start * 10 + digitValue c) := by
      rw [next]
      rfl
    rw [onward] at fits ⊢
    have small : start * 10 + digitValue c ≤ maxWord := Nat.le_trans (le_ofDigitChars _ _) fits
    rw [← ih fits, addWhole, List.foldl_cons]
    simp only [small, and_self, if_true]
    rfl

theorem readAfterWhole_ends {rest : List Char} (ends : Ends rest) (value : Nat) :
    readAfterWhole false value 0 rest = .ok (.natural value, rest) := by
  cases rest with
  | nil => rfl
  | cons c rest =>
    obtain ⟨-, point, exponent⟩ := ends c rfl
    simp [readAfterWhole, point, exponent, integer]

theorem readNumber_digits {value : Nat} (fits : value ≤ maxWord) {rest : List Char}
    (ends : Ends rest) : readNumber (digits value ++ rest) = .ok (.natural value, rest) := by
  obtain ⟨c, ds, written⟩ := List.exists_cons_of_ne_nil (digits_ne_nil value)
  have all : ∀ d ∈ c :: ds, isDigit d = true := fun d member =>
    isDigit_of_mem_digits (written ▸ member)
  obtain ⟨digit, others⟩ := List.forall_mem_cons.mp all
  have unsigned : readNumber (c :: (ds ++ rest)) = readUnsigned false (c :: (ds ++ rest)) := by
    unfold readNumber
    split
    · rename_i minus
      obtain ⟨rfl, -⟩ := List.cons.inj minus
      cases digit
    · rfl
  have valued : Nat.ofDigitChars 10 (c :: ds) 0 = value := by
    rw [← written]
    exact Nat.ofDigitChars_toDigits (by decide) (by decide)
  rw [written, List.cons_append, unsigned]
  by_cases zero : c = '0'
  · have none : value = 0 :=
      Nat.eq_zero_of_not_pos fun positive => head_digits positive written zero
    subst none
    obtain ⟨rfl, rfl⟩ := List.cons.inj (show ['0'] = c :: ds from written)
    cases rest with
    | nil => rfl
    | cons d more =>
      simp only [readUnsigned, List.nil_append, if_true, (ends d rfl).1, readAfterWhole_ends ends]
      rfl
  · obtain ⟨taken, left⟩ := takeWhile_digits others ends
    have whole : Nat.ofDigitChars 10 ds (digitValue c) = value := by
      rw [← valued]
      simp [Nat.ofDigitChars, digitValue]
    simp only [readUnsigned, if_neg zero, digit, if_true, taken, left,
      addWhole_digits (whole ▸ fits), whole, readAfterWhole_ends ends]

theorem outlineNumber_digits {value : Nat} (fits : value ≤ maxWord) {rest : List Char}
    (ends : Ends rest) :
    outlineNumber (digits value ++ rest) = (.number (.ok (.natural value)) rest, .ok rest) := by
  simp only [outlineNumber, readNumber_digits fits ends]

/-! ## Values -/

theorem ends_of_blank {c : Char} (space : isBlank c = true) (rest : List Char) :
    Ends (c :: rest) := by
  rintro _ ⟨⟩
  simp only [isBlank, Bool.or_eq_true, decide_eq_true_eq] at space
  rcases space with ((rfl | rfl) | rfl) | rfl <;> decide

theorem ends_of_gap {gap : List Char} (blank : Blank gap) {c : Char}
    (mark : c = ',' ∨ c = ']' ∨ c = '\x7d') (rest : List Char) : Ends (gap ++ c :: rest) := by
  cases gap with
  | nil =>
    rintro d ⟨⟩
    rcases mark with rfl | rfl | rfl <;> decide
  | cons d more => exact ends_of_blank (blank d List.mem_cons_self) _

theorem ends_of_items {items : List Json} {text : List Char}
    (spelled : SpelledItems false items text) (rest : List Char) : Ends (text ++ rest) := by
  cases spelled with
  | close blank =>
    rw [List.append_assoc]
    exact ends_of_gap blank (by simp) rest
  | item led spelled others =>
    cases led with
    | next blank again =>
      simp only [List.append_assoc, List.cons_append]
      exact ends_of_gap blank (by simp) _

theorem ends_of_members {members : List (String × Json)} {text : List Char}
    (spelled : SpelledMembers false members text) (rest : List Char) : Ends (text ++ rest) := by
  cases spelled with
  | close blank =>
    rw [List.append_assoc]
    exact ends_of_gap blank (by simp) rest
  | member led quoted blank again spelled others =>
    cases led with
    | next blank again =>
      simp only [List.append_assoc, List.cons_append]
      exact ends_of_gap blank (by simp) _

theorem head_of_spelled {value : Json} {text : List Char} (spelled : Spelled value text) :
    ∃ c tail, text = c :: tail ∧ isBlank c = false ∧ c ≠ ']' := by
  cases spelled with
  | @number value fits =>
    obtain ⟨c, tail, written⟩ := List.exists_cons_of_ne_nil (digits_ne_nil value)
    have digit : isDigit c = true := isDigit_of_mem_digits (written ▸ List.mem_cons_self)
    refine ⟨c, tail, written, ?_, ?_⟩
    · refine Bool.eq_false_iff.mpr fun space => ?_
      cases digit.symm.trans (ends_of_blank space [] c rfl).1
    · rintro rfl
      cases digit
  | null | true | false | string | array | object => exact ⟨_, _, rfl, rfl, by decide⟩

theorem length_of_items {items : List Json} {isFirst : Bool} {text : List Char}
    (spelled : SpelledItems isFirst items text) : 0 < text.length := by
  cases spelled with
  | close blank => simp
  | item led spelled others =>
    obtain ⟨c, tail, rfl, -⟩ := head_of_spelled spelled
    simp only [List.length_append, List.length_cons]
    omega

theorem length_of_members {members : List (String × Json)} {isFirst : Bool} {text : List Char}
    (spelled : SpelledMembers isFirst members text) : 0 < text.length := by
  cases spelled with
  | close blank => simp
  | member led quoted blank again spelled others =>
    simp only [List.length_append, List.length_cons]
    omega

variable {fuel : Nat} {rest : List Char}

theorem outline_gap {gap : List Char} (blank : Blank gap) (unread : List Char) :
    outline (fuel + 1) (gap ++ unread) = outline (fuel + 1) unread := by
  simp only [outline, skipBlanks_append blank]

theorem outlineItems_close {isFirst : Bool} {gap : List Char} (blank : Blank gap) :
    outlineItems (fuel + 1) isFirst (gap ++ ']' :: rest) = ([], .closed rest, .ok rest) := by
  simp only [outlineItems, skipBlanks_append blank, skipBlanks_of_dark (c := ']') rfl]
  rfl

theorem outlineItems_led {isFirst : Bool} {lead : List Char} (led : Lead isFirst lead) (fuel : Nat)
    {c : Char} (dark : isBlank c = false) (opened : c ≠ ']') (tail : List Char) :
    outlineItems (fuel + 1) isFirst (lead ++ c :: tail) = outlineItem fuel (c :: tail) := by
  cases led with
  | first blank =>
    simp only [outlineItems, skipBlanks_append blank, skipBlanks_of_dark dark, if_neg opened,
      if_true]
  | next blank again =>
    simp only [outlineItems, List.append_assoc, List.cons_append, skipBlanks_append blank,
      skipBlanks_of_dark (c := ',') rfl, skipBlanks_append again, skipBlanks_of_dark dark,
      if_neg opened]
    rfl

theorem outlineMembers_close {isFirst : Bool} {gap : List Char} (blank : Blank gap) :
    outlineMembers (fuel + 1) isFirst (gap ++ '\x7d' :: rest) = ([], .closed rest, .ok rest) := by
  simp only [outlineMembers, skipBlanks_append blank, skipBlanks_of_dark (c := '\x7d') rfl]
  rfl

theorem outlineMembers_led {isFirst : Bool} {lead : List Char} (led : Lead isFirst lead)
    (fuel : Nat) (tail : List Char) :
    outlineMembers (fuel + 1) isFirst (lead ++ '"' :: tail) = outlineMember fuel tail := by
  cases led with
  | first blank =>
    simp only [outlineMembers, skipBlanks_append blank, skipBlanks_of_dark (c := '"') rfl]
    rfl
  | next blank again =>
    simp only [outlineMembers, List.append_assoc, List.cons_append, skipBlanks_append blank,
      skipBlanks_of_dark (c := ',') rfl, skipBlanks_append again, skipBlanks_of_dark (c := '"') rfl]
    rfl

theorem outlineItem_ok {unread after : List Char} {node : Node}
    (read : outline fuel unread = (node, .ok after)) :
    outlineItem (fuel + 1) unread =
      ((unread, node) :: (outlineItems fuel false after).1, (outlineItems fuel false after).2) := by
  simp only [outlineItem, read]

theorem outlineMember_ok {name written before after unread : List Char} {node : Node}
    (quoted : Quoted name written) (blank : Blank before)
    (read : outline fuel unread = (node, .ok after)) :
    outlineMember (fuel + 1) (written ++ (before ++ ':' :: unread)) =
      ((⟨.ok (String.ofList name), ':' :: unread⟩, node) :: (outlineMembers fuel false after).1,
        (outlineMembers fuel false after).2) := by
  simp only [outlineMember, outlineText_quoted quoted, skipBlanks_append blank,
    skipBlanks_of_dark (c := ':') rfl, if_true, read]

theorem outline_number {value : Nat} (fits : value ≤ maxWord) (ends : Ends rest) :
    outline (fuel + 1) (digits value ++ rest) =
      (.number (.ok (.natural value)) rest, .ok rest) := by
  obtain ⟨c, ds, written⟩ := List.exists_cons_of_ne_nil (digits_ne_nil value)
  have digit : isDigit c = true := isDigit_of_mem_digits (written ▸ List.mem_cons_self)
  obtain ⟨_, _, same, dark, -⟩ := head_of_spelled (.number fits)
  rw [written] at same
  obtain ⟨rfl, rfl⟩ := List.cons.inj same
  have whole := outlineNumber_digits fits ends
  have away : c ≠ 'n' ∧ c ≠ 't' ∧ c ≠ 'f' := by
    refine ⟨?_, ?_, ?_⟩ <;> rintro rfl <;> cases digit
  rw [written] at whole ⊢
  simp only [List.cons_append] at whole ⊢
  simp only [outline, skipBlanks_of_dark dark, if_neg away.1, if_neg away.2.1, if_neg away.2.2,
    digit, or_true, if_true, whole]

mutual

theorem outline_spelled (value : Json) {fuel : Nat} {text rest : List Char}
    (spelled : Spelled value text) (enough : 3 * text.length ≤ fuel) (ends : Ends rest) :
    ∃ node, outline fuel (text ++ rest) = (node, .ok rest) ∧ Depicts value node := by
  obtain ⟨c, tail, rfl, dark, -⟩ := head_of_spelled spelled
  obtain ⟨fuel, rfl⟩ : ∃ less, fuel = less + 1 := ⟨fuel - 1, by simp at enough; omega⟩
  cases value with
  | null =>
    cases spelled
    exact ⟨_, rfl, _, rfl⟩
  | bool value =>
    cases spelled <;> exact ⟨_, rfl, _, rfl⟩
  | number value =>
    generalize written : c :: tail = text at *
    cases spelled with
    | number fits => exact ⟨_, outline_number fits ends, _, rfl⟩
  | string text =>
    cases spelled with
    | string quoted =>
      have read := outlineText_quoted quoted rest
      refine ⟨.string (.ok _) rest, ?_, _, rfl⟩
      simp only [List.cons_append, outline, skipBlanks_of_dark dark, read]
      rfl
  | array items =>
    cases spelled with
    | array spelled =>
      have enough : 3 * tail.length ≤ fuel := by
        simp only [List.length_cons] at enough
        omega
      obtain ⟨nodes, read, depicts⟩ := outlineItems_spelled items spelled enough rest
      refine ⟨.array ('[' :: (tail ++ rest)) nodes (.closed rest), ?_, _, nodes, rest, rfl, depicts⟩
      simp only [List.cons_append, outline, skipBlanks_of_dark dark, read]
      rfl
  | object members =>
    cases spelled with
    | object spelled =>
      have enough : 3 * tail.length ≤ fuel := by
        simp only [List.length_cons] at enough
        omega
      obtain ⟨nodes, read, depicts⟩ := outlineMembers_spelled members spelled enough rest
      refine ⟨.object ('\x7b' :: (tail ++ rest)) nodes (.closed rest), ?_, _, nodes, rest, rfl,
        depicts⟩
      simp only [List.cons_append, outline, skipBlanks_of_dark dark, read]
      rfl

theorem outlineItems_spelled (items : List Json) {fuel : Nat} {isFirst : Bool}
    {text : List Char} (spelled : SpelledItems isFirst items text)
    (enough : 3 * text.length ≤ fuel) (rest : List Char) :
    ∃ nodes, outlineItems fuel isFirst (text ++ rest) = (nodes, .closed rest, .ok rest) ∧
      DepictsItems items nodes := by
  cases items with
  | nil =>
    cases spelled with
    | close blank =>
      obtain ⟨fuel, rfl⟩ : ∃ less, fuel = less + 1 :=
        ⟨fuel - 1, by simp only [List.length_append, List.length_singleton] at enough; omega⟩
      refine ⟨[], ?_, rfl⟩
      rw [List.append_assoc]
      exact outlineItems_close blank
  | cons item others =>
    cases spelled with
    | @item _ lead text more _ _ led spelled others =>
      obtain ⟨c, tail, first, dark, opened⟩ := head_of_spelled spelled
      obtain ⟨fuel, rfl⟩ : ∃ less, fuel = less + 2 :=
        ⟨fuel - 2, by simp only [first, List.length_append, List.length_cons] at enough; omega⟩
      have last := length_of_items others
      have sizes : text.length = tail.length + 1 := by rw [first, List.length_cons]
      simp only [List.length_append] at enough
      have here : 3 * text.length ≤ fuel := by omega
      have onward : 3 * more.length ≤ fuel := by omega
      obtain ⟨node, read, depicts⟩ := outline_spelled item spelled here (ends_of_items others rest)
      obtain ⟨nodes, onward, all⟩ := outlineItems_spelled _ others onward rest
      refine ⟨(text ++ (more ++ rest), node) :: nodes, ?_, _, node, nodes, rfl, depicts, all⟩
      have led := outlineItems_led led (fuel + 1) dark opened (tail ++ (more ++ rest))
      rw [← List.cons_append, ← first, outlineItem_ok read, onward] at led
      simpa only [List.append_assoc] using led

theorem outlineMembers_spelled (members : List (String × Json)) {fuel : Nat} {isFirst : Bool}
    {text : List Char} (spelled : SpelledMembers isFirst members text)
    (enough : 3 * text.length ≤ fuel) (rest : List Char) :
    ∃ nodes, outlineMembers fuel isFirst (text ++ rest) = (nodes, .closed rest, .ok rest) ∧
      DepictsMembers members nodes := by
  cases members with
  | nil =>
    cases spelled with
    | close blank =>
      obtain ⟨fuel, rfl⟩ : ∃ less, fuel = less + 1 :=
        ⟨fuel - 1, by simp only [List.length_append, List.length_singleton] at enough; omega⟩
      refine ⟨[], ?_, rfl⟩
      rw [List.append_assoc]
      exact outlineMembers_close blank
  | cons member others =>
    cases spelled with
    | @member _ lead name written before after text more value _ led quoted blank again spelled
        others =>
      have last := length_of_members others
      simp only [List.length_append, List.length_cons] at enough
      obtain ⟨fuel, rfl⟩ : ∃ less, fuel = less + 3 := ⟨fuel - 3, by omega⟩
      have here : 3 * text.length ≤ fuel + 1 := by omega
      have onward : 3 * more.length ≤ fuel + 1 := by omega
      obtain ⟨node, read, depicts⟩ :=
        outline_spelled value spelled here (ends_of_members others rest)
      obtain ⟨nodes, onward, all⟩ := outlineMembers_spelled _ others onward rest
      refine ⟨(⟨.ok (String.ofList name), ':' :: (after ++ (text ++ (more ++ rest)))⟩, node) ::
        nodes, ?_, _, node, nodes, rfl, depicts, all⟩
      have led := outlineMembers_led led (fuel + 2)
        (written ++ (before ++ ':' :: (after ++ (text ++ (more ++ rest)))))
      rw [← outline_gap again] at read
      rw [outlineMember_ok quoted blank read, onward] at led
      simpa only [List.append_assoc, List.cons_append] using led

end

theorem outlineOf_spelled {value : Json} {text before after : List Char}
    (spelled : Spelled value text) (blank : Blank before) (again : Blank after) :
    ∃ node, outlineOf (String.ofList (before ++ text ++ after)) = (node, .ok after) ∧
      Depicts value node := by
  have ends : Ends after := by
    cases after with
    | nil => nofun
    | cons c rest => exact ends_of_blank (again c List.mem_cons_self) rest
  have enough : 3 * text.length ≤ 3 * (before ++ text ++ after).length + 2 + 1 := by
    simp only [List.length_append]
    omega
  obtain ⟨node, read, depicts⟩ := outline_spelled value spelled enough ends
  refine ⟨node, ?_, depicts⟩
  rw [outlineOf, String.toList_ofList, ← read, List.append_assoc]
  exact outline_gap blank _

theorem decodeText_spelled {α : Type} {decode : Node → Decoded α} {result : Decoded α}
    {value : Json} {text before after : List Char} (spelled : Spelled value text)
    (blank : Blank before) (again : Blank after)
    (decodes : ∀ node, Depicts value node → decode node = result) :
    decodeText decode (String.ofList (before ++ text ++ after)) = result := by
  obtain ⟨node, outlined, depicts⟩ := outlineOf_spelled spelled blank again
  have nothing : skipBlanks after = [] := by
    simpa [skipBlanks] using skipBlanks_append again []
  simp only [decodeText, outlined, decodes node depicts]
  cases result with
  | error fault => rfl
  | ok value => simp only [bind, Except.bind, nothing, pure, Except.pure]

end PeerDirectory.Json

import PeerDirectory.Json.Decode
import Mathlib.Data.List.Induction

namespace PeerDirectory

namespace Hex

def numeral? (c : Char) : Option Nat := "0123456789abcdef".toList.idxOf? c.toLower

def Numeric (byte : UInt8) : Prop := (numeral? (Char.ofNat byte.toNat)).isSome = true

def halves (byte : UInt8) : List Nat := [byte.toNat / 16, byte.toNat % 16]

theorem value?_eq_numeral? (byte : UInt8) : value? byte = numeral? (Char.ofNat byte.toNat) := by
  have all : ∀ number < 256, value? (UInt8.ofNat number) = numeral? (Char.ofNat number) := by
    decide +kernel
  simpa using all byte.toNat byte.toNat_lt

theorem numeral?_digit {value : Nat} (small : value < 16) :
    numeral? (digit value) = some value := by
  have all : ∀ value < 16, numeral? (digit value) = some value := by decide +kernel
  exact all value small

theorem isSome_value? {byte : UInt8} : (value? byte).isSome = true ↔ Numeric byte := by
  rw [value?_eq_numeral?, Numeric]

theorem numeral?_lt {c : Char} {value : Nat} (read : numeral? c = some value) : value < 16 :=
  (List.findIdx?_eq_some_iff_getElem.mp read).1

theorem value?_lt {byte : UInt8} {value : Nat} (read : value? byte = some value) : value < 16 :=
  numeral?_lt (value?_eq_numeral? byte ▸ read)

theorem halves_ofNat {high low : Nat} (upper : high < 16) (lower : low < 16) :
    halves (UInt8.ofNat (16 * high + low)) = [high, low] := by
  have small : 16 * high + low < UInt8.size := by simp only [UInt8.size]; omega
  rw [halves, UInt8.toNat_ofNat_of_lt' small]
  congr 1
  · omega
  · congr 1
    omega

theorem numeral?_of_large {c : Char} (large : 128 ≤ c.toNat) : numeral? c = none := by
  have still : c.toLower = c := by
    refine dif_neg fun upper => ?_
    have bound : c.toNat ≤ 90 := upper.2
    omega
  have ascii : "0123456789abcdef".toList.all (·.toNat < 128) = true := by decide
  rw [numeral?, still, List.idxOf?, List.findIdx?_eq_none_iff]
  intro digit listed
  have small : digit.toNat < 128 := of_decide_eq_true (List.all_eq_true.mp ascii digit listed)
  simp only [beq_eq_false_iff_ne, ne_eq]
  rintro rfl
  omega

theorem not_numeric_of_large {byte : UInt8} (large : 128 ≤ byte.toNat) : ¬Numeric byte := by
  have all : ∀ number < 256, 128 ≤ number → numeral? (Char.ofNat number) = none := by
    decide +kernel
  simp [Numeric, all byte.toNat byte.toNat_lt large]

/-! ## Characters and their bytes -/

theorem utf8EncodeChar_of_ascii {c : Char} (ascii : c.toNat < 128) :
    String.utf8EncodeChar c = [UInt8.ofNat c.toNat] :=
  if_pos (Nat.le_of_lt_succ ascii)

theorem exists_stray_of_large {c : Char} (large : 128 ≤ c.toNat) :
    ∃ byte ∈ String.utf8EncodeChar c, ¬Numeric byte := by
  have past : ¬c.val.toNat ≤ 127 := Nat.not_le.mpr large
  refine ⟨UInt8.ofNat (c.val.toNat % 64 + 128), ?_, not_numeric_of_large ?_⟩
  · simp only [String.utf8EncodeChar, past, if_false]
    split
    · simp
    · split <;> simp
  · have small : c.val.toNat % 64 + 128 < UInt8.size := by simp only [UInt8.size]; omega
    rw [UInt8.toNat_ofNat_of_lt' small]
    omega

theorem ascii_of_digit {c : Char} (digit : (numeral? c).isSome = true) : c.toNat < 128 :=
  Nat.lt_of_not_ge fun large => by simp [numeral?_of_large large] at digit

theorem value?_of_ascii {c : Char} (ascii : c.toNat < 128) :
    value? (UInt8.ofNat c.toNat) = numeral? c := by
  have small : c.toNat < UInt8.size := by simp only [UInt8.size]; omega
  rw [value?_eq_numeral?, UInt8.toNat_ofNat_of_lt' small, Char.ofNat_toNat]

variable {text : List Char}

theorem map_value?_utf8Chars (digits : ∀ c ∈ text, (numeral? c).isSome = true) :
    (Text.utf8Chars text).map value? = text.map numeral? := by
  induction text with
  | nil => rfl
  | cons c rest ih =>
    obtain ⟨digit, digits⟩ := List.forall_mem_cons.mp digits
    have ascii := ascii_of_digit digit
    have more : Text.utf8Chars (c :: rest) = UInt8.ofNat c.toNat :: Text.utf8Chars rest := by
      rw [Text.utf8Chars, List.flatMap_cons, utf8EncodeChar_of_ascii ascii]
      rfl
    rw [more, List.map_cons, List.map_cons, value?_of_ascii ascii, ih digits]

theorem numeric_utf8Chars :
    (∀ byte ∈ Text.utf8Chars text, Numeric byte) ↔ ∀ c ∈ text, (numeral? c).isSome = true := by
  constructor
  · intro numeric c member
    have within {byte : UInt8} (part : byte ∈ String.utf8EncodeChar c) : Numeric byte :=
      numeric byte (List.mem_flatMap.mpr ⟨c, member, part⟩)
    rcases Nat.lt_or_ge c.toNat 128 with ascii | large
    · rw [← value?_of_ascii ascii, isSome_value?]
      exact within (by rw [utf8EncodeChar_of_ascii ascii]; exact List.mem_cons_self)
    · obtain ⟨byte, part, stray⟩ := exists_stray_of_large large
      exact absurd (within part) stray
  · intro digits byte member
    have read : value? byte ∈ text.map numeral? :=
      map_value?_utf8Chars digits ▸ List.mem_map_of_mem member
    obtain ⟨c, listed, same⟩ := List.mem_map.mp read
    rw [← isSome_value?, ← same]
    exact digits c listed

theorem length_utf8Chars (digits : ∀ c ∈ text, (numeral? c).isSome = true) :
    (Text.utf8Chars text).length = text.length := by
  simpa using congrArg List.length (map_value?_utf8Chars digits)

/-! ## Pairs of digits -/

theorem decodePairs_of_digits {bytes out : List UInt8}
    (digits : bytes.map value? = (out.flatMap halves).map some) (index : Nat) :
    decodePairs index bytes = .ok out := by
  induction out generalizing bytes index with
  | nil =>
    rw [List.map_eq_nil_iff.mp digits]
    rfl
  | cons byte rest ih =>
    obtain ⟨high, _, rfl, first, digits⟩ := List.map_eq_cons_iff.mp digits
    obtain ⟨low, _, rfl, second, digits⟩ := List.map_eq_cons_iff.mp digits
    have whole : 16 * (byte.toNat / 16) + byte.toNat % 16 = byte.toNat := Nat.div_add_mod _ _
    simp only [decodePairs, first, second, ih digits, Except.map, whole, UInt8.ofNat_toNat]

theorem decodePairs_of_stray {before after : List UInt8} {byte : UInt8}
    (digits : ∀ earlier ∈ before, Numeric earlier) (stray : ¬Numeric byte)
    (even : (before ++ byte :: after).length % 2 = 0) (index : Nat) :
    decodePairs index (before ++ byte :: after) =
      .error (.badDigit byte (index + before.length)) := by
  have missing : value? byte = none := by
    rw [← Option.not_isSome_iff_eq_none, isSome_value?]
    exact stray
  induction before using List.twoStepInduction generalizing index with
  | nil =>
    cases after with
    | nil => cases even
    | cons low rest => simp only [List.nil_append, decodePairs, missing]; rfl
  | singleton high =>
    obtain ⟨value, read⟩ := Option.isSome_iff_exists.mp
      (isSome_value?.mpr (digits high List.mem_cons_self))
    simp only [List.cons_append, List.nil_append, decodePairs, read, missing]
    rfl
  | cons_cons high low rest ih _ =>
    obtain ⟨first, digits⟩ := List.forall_mem_cons.mp digits
    obtain ⟨second, digits⟩ := List.forall_mem_cons.mp digits
    obtain ⟨a, upper⟩ := Option.isSome_iff_exists.mp (isSome_value?.mpr first)
    obtain ⟨b, lower⟩ := Option.isSome_iff_exists.mp (isSome_value?.mpr second)
    simp only [List.cons_append, decodePairs, upper, lower]
    have later : (rest ++ byte :: after).length % 2 = 0 := by
      simp only [List.cons_append, List.length_cons] at even
      omega
    have place : index + 2 + rest.length = index + (high :: low :: rest).length := by
      simp only [List.length_cons]
      omega
    rw [ih digits later, place]
    rfl

theorem exists_halves {bytes : List UInt8} (even : bytes.length % 2 = 0)
    (digits : ∀ byte ∈ bytes, Numeric byte) :
    ∃ out : List UInt8, bytes.map value? = (out.flatMap halves).map some := by
  induction bytes using List.twoStepInduction with
  | nil => exact ⟨[], rfl⟩
  | singleton high => cases even
  | cons_cons high low rest ih _ =>
    obtain ⟨first, digits⟩ := List.forall_mem_cons.mp digits
    obtain ⟨second, digits⟩ := List.forall_mem_cons.mp digits
    obtain ⟨a, upper⟩ := Option.isSome_iff_exists.mp (isSome_value?.mpr first)
    obtain ⟨b, lower⟩ := Option.isSome_iff_exists.mp (isSome_value?.mpr second)
    have later : rest.length % 2 = 0 := by
      simp only [List.length_cons] at even
      omega
    obtain ⟨out, same⟩ := ih later digits
    have halved := halves_ofNat (value?_lt upper) (value?_lt lower)
    refine ⟨UInt8.ofNat (16 * a + b) :: out, ?_⟩
    rw [List.map_cons, List.map_cons, List.flatMap_cons, halved, upper, lower, same]
    rfl

theorem length_flatMap_halves (out : List UInt8) :
    (out.flatMap halves).length = 2 * out.length := by
  induction out with
  | nil => rfl
  | cons byte rest ih =>
    rw [List.flatMap_cons, List.length_append, ih, List.length_cons]
    simp only [halves, List.length_cons, List.length_nil]
    omega

theorem exists_first_stray {bytes : List UInt8} (mixed : ¬∀ byte ∈ bytes, Numeric byte) :
    ∃ before byte after, bytes = before ++ byte :: after ∧
      (∀ earlier ∈ before, Numeric earlier) ∧ ¬Numeric byte := by
  cases first : bytes.find? fun byte => !(value? byte).isSome with
  | none =>
    refine absurd (fun byte member => ?_) mixed
    simpa [← isSome_value?, Option.isSome_iff_ne_none] using
      List.find?_eq_none.mp first byte member
  | some byte =>
    obtain ⟨stray, before, after, here, earlier⟩ := List.find?_eq_some_iff_append.mp first
    refine ⟨before, byte, after, here, fun other member => ?_, ?_⟩
    · simpa [← isSome_value?] using earlier other member
    · simpa [← isSome_value?] using stray

theorem decode_of_even {bytes : List UInt8} (even : bytes.length % 2 = 0) :
    decode bytes = decodePairs 0 bytes :=
  if_neg (by omega)

end Hex

/-! ## Hashes and keys -/

namespace Bytes32

open Hex

/-- What the text of thirty-two bytes amounts to, without its `0x`. -/
inductive Judged (text : List Char) : Except HashError Bytes32 → Prop
  | spelled {block : Bytes32}
      (digits : text.map numeral? = (block.toList.flatMap halves).map some) :
      Judged text (.ok block)
  | odd (odd : (Text.utf8Chars text).length % 2 = 1) : Judged text (.error (.digits .oddLength))
  | stray {before after : List UInt8} {byte : UInt8}
      (even : (Text.utf8Chars text).length % 2 = 0)
      (here : Text.utf8Chars text = before ++ byte :: after)
      (digits : ∀ earlier ∈ before, Numeric earlier) (stray : ¬Numeric byte) :
      Judged text (.error (.digits (.badDigit byte before.length)))
  | miscounted (even : text.length % 2 = 0) (digits : ∀ c ∈ text, (numeral? c).isSome = true)
      (length : text.length ≠ 64) : Judged text (.error .wrongLength)

def judge (text : List Char) : Except HashError Bytes32 :=
  match Hex.decode (Text.utf8Chars text) with
  | .error cause => .error (.digits cause)
  | .ok bytes =>
    match ofList? bytes with
    | some block => .ok block
    | none => .error .wrongLength

theorem parse_eq_judge (text : String) : parse text = judge (unmarked text.toList) := rfl

variable {text : List Char}

theorem digits_of_map {values : List Nat} (read : text.map numeral? = values.map some) :
    ∀ c ∈ text, (numeral? c).isSome = true := by
  intro c member
  obtain ⟨value, -, same⟩ := List.mem_map.mp (read ▸ List.mem_map_of_mem member)
  rw [← same, Option.isSome_some]

theorem length_of_halves {out : List UInt8}
    (read : text.map numeral? = (out.flatMap halves).map some) : text.length = 2 * out.length := by
  rw [← List.length_map (f := numeral?), read, List.length_map, length_flatMap_halves]

theorem judge_of_halves {out : List UInt8}
    (digits : text.map numeral? = (out.flatMap halves).map some) :
    judge text =
      match ofList? out with
      | some block => .ok block
      | none => .error .wrongLength := by
  have read := (map_value?_utf8Chars (digits_of_map digits)).trans digits
  have even : (Text.utf8Chars text).length % 2 = 0 := by
    rw [← List.length_map (f := value?), read, List.length_map, length_flatMap_halves]
    omega
  simp only [judge, decode_of_even even, decodePairs_of_digits read]

theorem judge_of_stray {before after : List UInt8} {byte : UInt8}
    (even : (Text.utf8Chars text).length % 2 = 0)
    (here : Text.utf8Chars text = before ++ byte :: after)
    (digits : ∀ earlier ∈ before, Numeric earlier) (stray : ¬Numeric byte) :
    judge text = .error (.digits (.badDigit byte before.length)) := by
  simp only [judge, decode_of_even even]
  rw [here] at even ⊢
  simp only [decodePairs_of_stray digits stray even, Nat.zero_add]

theorem judge_of_odd (odd : (Text.utf8Chars text).length % 2 = 1) :
    judge text = .error (.digits .oddLength) := by
  simp only [judge, decode, if_pos odd]

theorem exists_halves_of_digits (even : text.length % 2 = 0)
    (digits : ∀ c ∈ text, (numeral? c).isSome = true) :
    ∃ out : List UInt8, text.map numeral? = (out.flatMap halves).map some ∧
      text.length = 2 * out.length := by
  rw [← length_utf8Chars digits] at even
  obtain ⟨out, read⟩ := exists_halves even (numeric_utf8Chars.mpr digits)
  rw [map_value?_utf8Chars digits] at read
  exact ⟨out, read, length_of_halves read⟩

theorem judged_judge (text : List Char) : Judged text (judge text) := by
  rcases Nat.mod_two_eq_zero_or_one (Text.utf8Chars text).length with even | odd
  · by_cases digits : ∀ c ∈ text, (numeral? c).isSome = true
    · rw [length_utf8Chars digits] at even
      obtain ⟨out, read, length⟩ := exists_halves_of_digits even digits
      rw [judge_of_halves read, ofList?]
      by_cases whole : out.length = 32
      · rw [dif_pos whole]
        exact @Judged.spelled text ⟨out, whole⟩ read
      · rw [dif_neg whole]
        exact .miscounted even digits (by omega)
    · obtain ⟨before, byte, after, here, earlier, stray⟩ :=
        exists_first_stray (mt numeric_utf8Chars.mp digits)
      rw [judge_of_stray even here earlier stray]
      exact .stray even here earlier stray
  · rw [judge_of_odd odd]
    exact .odd odd

theorem Judged.eq_judge {verdict : Except HashError Bytes32} (judged : Judged text verdict) :
    judge text = verdict := by
  cases judged with
  | spelled digits => rw [judge_of_halves digits, ofList?_toList]
  | odd odd => exact judge_of_odd odd
  | stray even here digits stray => exact judge_of_stray even here digits stray
  | miscounted even digits length =>
    obtain ⟨out, read, counted⟩ := exists_halves_of_digits even digits
    rw [judge_of_halves read, ofList?, dif_neg (by omega)]

theorem judged_iff {verdict : Except HashError Bytes32} :
    Judged text verdict ↔ judge text = verdict :=
  ⟨Judged.eq_judge, fun same => same ▸ judged_judge text⟩

theorem spelled_iff :
    (∃ block, Judged text (.ok block)) ↔
      text.length = 64 ∧ ∀ c ∈ text, (numeral? c).isSome = true := by
  constructor
  · rintro ⟨block, ⟨digits⟩⟩
    refine ⟨?_, digits_of_map digits⟩
    rw [length_of_halves digits, block.length_toList]
  · rintro ⟨length, digits⟩
    obtain ⟨out, read, counted⟩ := exists_halves_of_digits (by omega) digits
    exact ⟨⟨out, by omega⟩, .spelled read⟩

theorem unmarked_of_digits (digits : ∀ c ∈ text, (numeral? c).isSome = true) :
    unmarked text = text := by
  unfold unmarked
  split
  · have none : numeral? 'x' = none := by decide
    have digit := digits 'x' (by simp)
    rw [none] at digit
    cases digit
  · rfl

theorem map_numeral?_encode (bytes : List UInt8) :
    (encode bytes).map numeral? = (bytes.flatMap halves).map some := by
  have pairs (byte : UInt8) : (pair byte).map numeral? = (halves byte).map some := by
    have small := byte.toNat_lt
    have upper := numeral?_digit (show byte.toNat / 16 < 16 by omega)
    have lower := numeral?_digit (show byte.toNat % 16 < 16 by omega)
    simp only [pair, halves, List.map_cons, List.map_nil, upper, lower]
  rw [encode, List.map_flatMap, List.map_flatMap]
  exact congrArg (List.flatMap · bytes) (funext pairs)

theorem parse_hex (block : Bytes32) : parse block.hex = .ok block := by
  have digits := map_numeral?_encode block.toList
  have bare : unmarked block.hex.toList = encode block.toList := by
    rw [hex, String.toList_ofList, unmarked_of_digits (digits_of_map digits)]
  rw [parse_eq_judge, bare]
  exact judged_iff.mp (.spelled digits)

end Bytes32

open Bytes32 Json

/-- What is left of a text without the mark in front of it, if there is one. -/
inductive Bare : List Char → List Char → Prop
  | marked (rest : List Char) : Bare ('0' :: 'x' :: rest) rest
  | plain {text : List Char} (bare : ¬['0', 'x'] <+: text) : Bare text text

structure ReadersAgree (text : String) (digits after : List Char) : Prop where
  accepted : (∃ hash, Hash.parse text = .ok hash) ↔
    digits.length = 64 ∧ ∀ c ∈ digits, (Hex.numeral? c).isSome = true
  hash : ∀ verdict : Except HashError Bytes32,
    Hash.parse text = verdict.map Hash.mk ↔ Judged digits verdict
  decodedHash : ∀ verdict : Except HashError Bytes32,
    decodeHash (.string (.ok text) after) =
        (verdict.mapError fun cause => .mismatch (.hash cause) after).map Hash.mk ↔
      Judged digits verdict
  decodedKey : ∀ verdict : Except HashError Bytes32,
    decodeSigningKey (.string (.ok text) after) =
        (verdict.mapError fun cause => .mismatch (.hash cause) after).map SigningKey.mk ↔
      Judged digits verdict

theorem bare_unmarked (text : List Char) : Bare text (unmarked text) := by
  unfold unmarked
  split
  · exact .marked _
  · rename_i other
    refine .plain ?_
    rintro ⟨rest, rfl⟩
    exact other rest rfl

theorem map_eq_map_iff {ε α β : Type} {f : α → β} (apart : Function.Injective f)
    {one other : Except ε α} : one.map f = other.map f ↔ one = other := by
  refine ⟨fun same => ?_, congrArg _⟩
  cases one <;> cases other <;> simp_all [Except.map, apart.eq_iff]

theorem mapError_eq_mapError_iff {ε η α : Type} {f : ε → η} (apart : Function.Injective f)
    {one other : Except ε α} : one.mapError f = other.mapError f ↔ one = other := by
  refine ⟨fun same => ?_, congrArg _⟩
  cases one <;> cases other <;> simp_all [Except.mapError, apart.eq_iff]

theorem decodeBytes32_string (text : String) (after : List Char) :
    decodeBytes32 (.string (.ok text) after) =
      (judge (unmarked text.toList)).mapError fun cause => .mismatch (.hash cause) after := by
  rw [← parse_eq_judge]
  simp only [decodeBytes32, decodeString, bind, Except.bind]
  cases Bytes32.parse text <;> rfl

theorem mismatch_injective (after : List Char) :
    Function.Injective fun cause : HashError => Fault.mismatch (.hash cause) after := by
  intro one other same
  cases same
  rfl

theorem hash_readers_agree (text : String) (after : List Char) :
    ∃ digits, Bare text.toList digits ∧ ReadersAgree text digits after := by
  refine ⟨unmarked text.toList, bare_unmarked _, ?_⟩
  have hashes : Function.Injective Hash.mk := fun one other same => by cases same; rfl
  have keys : Function.Injective SigningKey.mk := fun one other same => by cases same; rfl
  constructor
  case accepted =>
    rw [← spelled_iff, Hash.parse, parse_eq_judge]
    constructor
    · rintro ⟨hash, read⟩
      refine ⟨hash.bytes, judged_iff.mpr ((map_eq_map_iff hashes).mp ?_)⟩
      exact read
    · rintro ⟨block, judged⟩
      exact ⟨⟨block⟩, by rw [judged_iff.mp judged]; rfl⟩
  case hash =>
    intro verdict
    rw [Hash.parse, map_eq_map_iff hashes, parse_eq_judge, judged_iff]
  case decodedHash =>
    intro verdict
    rw [decodeHash, map_eq_map_iff hashes, decodeBytes32_string,
      mapError_eq_mapError_iff (mismatch_injective after), judged_iff]
  case decodedKey =>
    intro verdict
    rw [decodeSigningKey, map_eq_map_iff keys, decodeBytes32_string,
      mapError_eq_mapError_iff (mismatch_injective after), judged_iff]

example : Hash.parse "0x0x" = .error (.digits (.badDigit 120 1)) := by decide +kernel

end PeerDirectory

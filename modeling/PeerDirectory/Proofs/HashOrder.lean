import PeerDirectory.Directory.Queries
import PeerDirectory.Proofs.HashText
import PeerDirectory.Proofs.Clients

namespace PeerDirectory

namespace Hex

def digitByte (value : Nat) : UInt8 := UInt8.ofNat (digit value).toNat

theorem compare_digitByte {one other : Nat} (small : one < 16) (also : other < 16) :
    compare (digitByte one) (digitByte other) = compare one other := by
  have all : ∀ one < 16, ∀ other < 16,
      compare (digitByte one) (digitByte other) = compare one other := by
    decide +kernel
  exact all one small other also

theorem utf8EncodeChar_digit {value : Nat} (small : value < 16) :
    String.utf8EncodeChar (digit value) = [digitByte value] := by
  have all : ∀ value < 16, (digit value).toNat < 128 := by decide
  exact utf8EncodeChar_of_ascii (all value small)

theorem upper_lt (byte : UInt8) : byte.toNat / 16 < 16 := by
  have small := byte.toNat_lt
  omega

theorem lower_lt (byte : UInt8) : byte.toNat % 16 < 16 := Nat.mod_lt _ (by decide)

theorem utf8Chars_encode_cons (byte : UInt8) (rest : List UInt8) :
    Text.utf8Chars (encode (byte :: rest)) =
      digitByte (byte.toNat / 16) :: digitByte (byte.toNat % 16) ::
        Text.utf8Chars (encode rest) := by
  simp only [Text.utf8Chars, encode, List.flatMap_cons, List.flatMap_append, pair,
    utf8EncodeChar_digit (upper_lt byte), utf8EncodeChar_digit (lower_lt byte)]
  rfl

theorem compare_div_mod (one other : Nat) :
    compare one other =
      (compare (one / 16) (other / 16)).then (compare (one % 16) (other % 16)) := by
  cases high : compare (one / 16) (other / 16) with
  | lt =>
    rw [Nat.compare_eq_lt] at high
    exact Nat.compare_eq_lt.mpr (by omega)
  | gt =>
    rw [Nat.compare_eq_gt] at high
    exact Nat.compare_eq_gt.mpr (by omega)
  | eq =>
    rw [Nat.compare_eq_eq] at high
    cases low : compare (one % 16) (other % 16) with
    | lt =>
      rw [Nat.compare_eq_lt] at low
      exact Nat.compare_eq_lt.mpr (by omega)
    | gt =>
      rw [Nat.compare_eq_gt] at low
      exact Nat.compare_eq_gt.mpr (by omega)
    | eq =>
      rw [Nat.compare_eq_eq] at low
      exact Nat.compare_eq_eq.mpr (by omega)

theorem compare_halves (one other : UInt8) :
    compare one other =
      (compare (one.toNat / 16) (other.toNat / 16)).then
        (compare (one.toNat % 16) (other.toNat % 16)) := by
  rw [← compare_div_mod]
  simp only [compare, compareOfLessAndEq, UInt8.lt_iff_toNat_lt, ← UInt8.toNat_inj]

theorem compare_encode (ones others : List UInt8) :
    compare (Text.utf8Chars (encode ones)) (Text.utf8Chars (encode others)) =
      compare ones others := by
  induction ones generalizing others with
  | nil =>
    cases others with
    | nil => rfl
    | cons other rest =>
      rw [utf8Chars_encode_cons]
      rfl
  | cons one rest ih =>
    cases others with
    | nil =>
      rw [utf8Chars_encode_cons]
      rfl
    | cons other more =>
      rw [utf8Chars_encode_cons, utf8Chars_encode_cons]
      simp only [List.compare_cons_cons, compare_digitByte (upper_lt one) (upper_lt other),
        compare_digitByte (lower_lt one) (lower_lt other), ih, compare_halves one other,
        Ordering.then_assoc]

theorem digit_of_numeral? {c : Char} {value : Nat} (read : numeral? c = some value) :
    digit value = c.toLower := by
  obtain ⟨listed, same, -⟩ := List.findIdx?_eq_some_iff_getElem.mp read
  have all : ∀ value (listed : value < "0123456789abcdef".toList.length),
      digit value = "0123456789abcdef".toList[value] := by
    decide
  rw [all value listed]
  exact eq_of_beq same

theorem encode_of_halves {text : List Char} {bytes : List UInt8}
    (read : text.map numeral? = (bytes.flatMap halves).map some) :
    encode bytes = text.map Char.toLower := by
  have written : encode bytes = (bytes.flatMap halves).map digit := by
    rw [List.map_flatMap]
    rfl
  rw [written]
  apply List.ext_getElem?
  intro place
  have here := congrArg (·[place]?) read
  simp only [List.getElem?_map] at here ⊢
  cases given : text[place]? with
  | none =>
    rw [given] at here
    cases value : (bytes.flatMap halves)[place]? with
    | none => rfl
    | some value => simp [value] at here
  | some c =>
    rw [given] at here
    cases value : (bytes.flatMap halves)[place]? with
    | none => simp [value] at here
    | some value =>
      rw [value, Option.map_some, Option.map_some, Option.some.injEq] at here
      exact congrArg some (digit_of_numeral? here)

end Hex

open Bytes32

structure TextsKeepOrder : Prop where
  back : ∀ hash : Hash, Hash.parse hash.text = .ok hash ∧ Hash.parse ("0x" ++ hash.text) = .ok hash
  written : ∀ text hash, Hash.parse text = .ok hash →
    hash.text = String.ofList ((unmarked text.toList).map Char.toLower)
  ordered : ∀ one other : Hash,
    compare one other = compare (Text.utf8 one.text) (Text.utf8 other.text)
  clients : ∀ one other : Hash,
    compare (PartitionId.client one) (.client other) = compare one other
  apart : ∀ one other : Hash, one.text = other.text ↔ one = other
  listed : ∀ {φ σ γ : Type} (directory : Directory φ σ γ),
    directory.readyClients.Pairwise fun one other =>
      ∃ client another : Hash, one.id = .client client ∧ other.id = .client another ∧
        compare (Text.utf8 client.text) (Text.utf8 another.text) = .lt

namespace Hash

theorem parse_text (hash : Hash) : parse hash.text = .ok hash := by
  rw [parse, text, parse_hex]
  rfl

theorem parse_marked (hash : Hash) : parse ("0x" ++ hash.text) = .ok hash := by
  have bare : unmarked ("0x" ++ hash.text).toList = unmarked hash.text.toList := by
    have spelled : hash.text.toList = Hex.encode hash.bytes.toList := String.toList_ofList
    rw [String.toList_append, spelled,
      unmarked_of_digits (digits_of_map (map_numeral?_encode hash.bytes.toList))]
    rfl
  rw [parse, parse_eq_judge, bare, ← parse_eq_judge]
  exact hash.parse_text

theorem compare_text (one other : Hash) :
    compare (Text.utf8 one.text) (Text.utf8 other.text) = compare one other := by
  simp only [Text.utf8, text, hex, String.toList_ofList]
  exact Hex.compare_encode one.bytes.toList other.bytes.toList

theorem text_of_parse {spelled : String} {hash : Hash} (read : parse spelled = .ok hash) :
    hash.text = String.ofList ((unmarked spelled.toList).map Char.toLower) := by
  cases parsed : Bytes32.parse spelled with
  | error cause =>
    rw [parse, parsed] at read
    cases read
  | ok block =>
    rw [parse, parsed] at read
    cases read
    rw [parse_eq_judge] at parsed
    cases judged_iff.mpr parsed with
    | spelled digits => exact congrArg String.ofList (Hex.encode_of_halves digits)

end Hash

theorem Directory.ascending_readyClients {φ σ γ : Type} (directory : Directory φ σ γ) :
    directory.readyClients.Pairwise fun one other =>
      ∃ client another : Hash, one.id = .client client ∧ other.id = .client another ∧
        compare (Text.utf8 client.text) (Text.utf8 another.text) = .lt := by
  apply List.Pairwise.filter
  refine directory.clients.ascending_handles.imp ?_
  rintro one other ⟨client, another, named, again, before⟩
  exact ⟨client, another, named, again, (Hash.compare_text client another).trans before⟩

theorem hash_texts_keep_order : TextsKeepOrder := by
  constructor
  case back => exact fun hash => ⟨hash.parse_text, hash.parse_marked⟩
  case written => exact fun text hash => Hash.text_of_parse
  case ordered => exact fun one other => (Hash.compare_text one other).symm
  case clients => exact fun one other => rfl
  case apart =>
    refine fun one other => ⟨fun same => ?_, congrArg Hash.text⟩
    have read := one.parse_text
    rw [same, other.parse_text] at read
    exact (Except.ok.inj read).symm
  case listed => exact fun directory => directory.ascending_readyClients

end PeerDirectory

import PeerDirectory.Demo
import PeerDirectory.Proofs.Json.Outline

namespace PeerDirectory.Demo

theorem readCount_toString {count : Nat} (fits : count < UInt64.size) :
    readCount (toString count) = some count := by
  have spelled : (toString count).toList = Json.digits count := String.toList_ofList
  have numeral : (Json.digits count).all Char.isDigit = true := by
    rw [List.all_eq_true]
    exact fun c => Nat.isDigit_of_mem_toDigits (by decide) (by decide)
  have unsigned : ∀ rest, Json.digits count ≠ '+' :: rest := by
    intro rest same
    rw [same] at numeral
    simp [Char.isDigit] at numeral
  have written : (Json.digits count).isEmpty = false := by
    simp [Json.digits_ne_nil]
  have value : (Json.digits count).foldl (fun value c => value * 10 + (c.toNat - '0'.toNat)) 0 =
      count := by
    simp only [Nat.mul_comm _ 10]
    exact Nat.ofDigitChars_toDigits (by decide) (by decide)
  unfold readCount
  rw [spelled]
  split
  · rename_i rest same
    exact absurd same (unsigned rest)
  · simp only [written, numeral, value, fits, Bool.not_true, Bool.or_false, Bool.false_eq_true,
      if_false, if_true]

theorem splitArgument_append {name : String} (plain : '=' ∉ name.toList) (value : String) :
    splitArgument (name ++ "=" ++ value) = (name, some value) := by
  have chars : (name ++ "=" ++ value).toList = name.toList ++ '=' :: value.toList := by simp
  have before : ∀ c ∈ name.toList, decide (c ≠ '=') = true := by
    intro c listed
    exact decide_eq_true fun same => plain (same ▸ listed)
  simp only [splitArgument, chars]
  rw [List.takeWhile_append_of_pos before, List.dropWhile_append_of_pos before]
  simp

theorem readArguments_spelled {name : String}
    (known : name ∈ ["--config", "--clients", "--floodfills"]) (value : String) (given : Given)
    (rest : List String) :
    readArguments given ((name ++ "=" ++ value) :: rest) =
      match takeValue name value given with
      | some given => readArguments given rest
      | none => .misuse := by
  have plain : '=' ∉ name.toList := by
    revert known name
    decide
  have other {word : String} (bare : '=' ∉ word.toList) : name ++ "=" ++ value ≠ word := by
    rintro rfl
    simp at bare
  have helpless : asksForHelp (name ++ "=" ++ value) = false := by
    have dashes : ∃ letters, name.toList = '-' :: '-' :: letters := by
      simp only [List.mem_cons, List.not_mem_nil, or_false] at known
      rcases known with rfl | rfl | rfl <;> exact ⟨_, rfl⟩
    have apart : name ++ "=" ++ value ≠ "--help" := other (by decide)
    obtain ⟨letters, dashes⟩ := dashes
    simp [asksForHelp, apart, dashes]
  rw [readArguments, if_neg (other (by decide)), helpless, if_neg Bool.false_ne_true,
    if_neg (other (by decide))]
  cases taken : takeValue name value given <;> simp only [splitArgument_append plain, taken]

def Options.arguments (options : Options) : List String :=
  ("--clients" ++ "=" ++ toString options.clients) ::
    ("--floodfills" ++ "=" ++ toString options.floodfills) ::
      ((options.config.map fun path => "--config" ++ "=" ++ path).toList ++
        if options.noIsolation then ["--no-isolation"] else [])

section Options

variable {options : Options}

theorem readArguments_switches (clients floodfills : Option Nat)
    (path : options.config ≠ some "") :
    readArguments ⟨none, clients, floodfills, false⟩
        ((options.config.map fun path => "--config" ++ "=" ++ path).toList ++
          if options.noIsolation then ["--no-isolation"] else []) =
      .run (Given.mk options.config clients floodfills options.noIsolation).options := by
  have last (file : Option String) :
      readArguments ⟨file, clients, floodfills, false⟩
          (if options.noIsolation then ["--no-isolation"] else []) =
        .run (Given.mk file clients floodfills options.noIsolation).options := by
    cases options.noIsolation <;> simp [readArguments, asksForHelp]
  cases config : options.config with
  | none => exact last _
  | some given =>
    have named : given.isEmpty = false := by
      rw [Bool.eq_false_iff]
      intro empty
      exact path (by rw [config, String.isEmpty_iff.mp empty])
    have taken : takeValue "--config" given ⟨none, clients, floodfills, false⟩ =
        some ⟨some given, clients, floodfills, false⟩ := by
      simp [takeValue, named]
    rw [Option.map_some, Option.toList_some, List.singleton_append,
      readArguments_spelled (by decide), taken]
    exact last _

theorem readCommandLine_arguments (clients : options.clients < UInt64.size)
    (floodfills : options.floodfills < UInt64.size) (path : options.config ≠ some "") :
    readCommandLine options.arguments = .run options := by
  have counted : takeValue "--clients" (toString options.clients) ⟨none, none, none, false⟩ =
      some ⟨none, some options.clients, none, false⟩ := by
    simpa [takeValue] using readCount_toString clients
  have also : takeValue "--floodfills" (toString options.floodfills)
      ⟨none, some options.clients, none, false⟩ =
        some ⟨none, some options.clients, some options.floodfills, false⟩ := by
    simpa [takeValue] using readCount_toString floodfills
  rw [readCommandLine, Options.arguments, readArguments_spelled (by decide), counted]
  dsimp only
  rw [readArguments_spelled (by decide), also]
  exact readArguments_switches _ _ path

end Options

end PeerDirectory.Demo

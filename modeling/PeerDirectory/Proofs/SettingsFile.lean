import PeerDirectory.Proofs.Foundation
import PeerDirectory.Proofs.Json.Decoding
import PeerDirectory.Proofs.Json.Fields

namespace PeerDirectory

open Json

theorem Text.ofUtf8?_utf8 (text : String) : ofUtf8? (utf8 text) = some text := by
  have whole : (⟨(utf8 text).toArray⟩ : ByteArray) = text.toByteArray := by
    rw [← String.utf8Encode_toList]
    apply ByteArray.ext
    rw [List.utf8Encode, List.data_toByteArray]
    rfl
  rw [ofUtf8?, whole, String.fromUTF8?, dif_pos text.isValidUTF8]
  rfl

namespace Settings

def members (settings : Settings) : List (String × Json) :=
  [("isolation_enabled", .bool settings.isolation),
    ("seed_peer_count", .number settings.seedPeers.toNat)]

def sketch (settings : Settings) (names : List String) : Draft :=
  ⟨given names "isolation_enabled" settings.isolation,
    given names "seed_peer_count" settings.seedPeers⟩

theorem sketches (settings : Settings) : Sketches format settings.members settings.sketch where
  blank := rfl
  adds := by
    intro names field value node name member fresh depicts
    simp only [members, List.mem_cons, Prod.mk.injEq, List.not_mem_nil, or_false] at member
    rcases member with ⟨rfl, rfl⟩ | ⟨rfl, rfl⟩
    · simp [format, Draft.add, sketch, reads_bool.once fresh name depicts, Except.map]
    · simp [format, Draft.add, sketch, reads_size.once fresh name depicts, Except.map]
  skips := by
    intro names field name node unknown
    simp [members] at unknown
    obtain ⟨isolation, seedPeers⟩ := unknown
    simp [format, Draft.add, sketch, isolation, seedPeers, Ne.symm]

theorem finish_sketch {settings : Settings} {names : List String}
    (all : settings.members.map (·.1) ⊆ names) :
    (settings.sketch names).finish = .ok settings := by
  simp only [members, List.map_cons, List.map_nil, List.cons_subset, List.nil_subset,
    and_true] at all
  obtain ⟨isolation, seedPeers⟩ := all
  simp only [Draft.finish, sketch, given_of_mem, isolation, seedPeers]
  rfl

theorem reads_settings : Reads decode toJson :=
  reads_record .text sketches (by simp) fun _ _ all => finish_sketch all

theorem modest_toJson (settings : Settings) : Modest 1 settings.toJson := by
  simp [toJson, Modest, le_maxWord]

section

variable {settings : Settings}

theorem excess?_of_le (fits : settings.seedPeers.toNat ≤ 64) : settings.excess? = none :=
  if_neg (Nat.not_lt.mpr fits)

theorem excess?_of_lt (much : 64 < settings.seedPeers.toNat) :
    settings.excess? = some settings.seedPeers :=
  if_pos much

theorem message_excess (count : UInt64) :
    (LoadError.excess count).message =
      "Invalid config: seed_peer_count - " ++ toString count.toNat ++ " exceeds maximum of 64" := by
  have most : " exceeds maximum of " ++ toString maxSeedPeers.toNat = " exceeds maximum of 64" := by
    decide
  rw [← most, ← String.append_assoc]
  rfl

theorem load_save (settings : Settings) :
    load (.bytes (Text.utf8 settings.save)) =
      match settings.excess? with
      | some count => .error (.excess count)
      | none => .ok settings := by
  have read : decodeText decode settings.save = .ok settings :=
    decodeText_pretty settings.modest_toJson (reads_settings settings)
  cases excess : settings.excess? <;> simp only [load, Text.ofUtf8?_utf8, parse, read, excess]

theorem load_eq_ok {file : File} (loaded : load file = .ok settings) :
    ∃ content text, file = .bytes content ∧ Text.ofUtf8? content = some text ∧
      decodeText decode text = .ok settings ∧ settings.excess? = none := by
  cases file with
  | absent => cases loaded
  | bytes content =>
    cases spelled : Text.ofUtf8? content with
    | none =>
      simp only [load, spelled] at loaded
      cases loaded
    | some text =>
      cases decoded : decodeText decode text with
      | error fault =>
        simp only [load, spelled, parse, decoded] at loaded
        cases loaded
      | ok given =>
        cases excess : given.excess? with
        | some count =>
          simp only [load, spelled, parse, decoded, excess] at loaded
          cases loaded
        | none =>
          simp only [load, spelled, parse, decoded, excess] at loaded
          cases loaded
          exact ⟨content, text, rfl, spelled, decoded, excess⟩

theorem le_of_load {file : File} (loaded : load file = .ok settings) :
    settings.seedPeers.toNat ≤ 64 := by
  obtain ⟨content, text, -, -, -, none⟩ := load_eq_ok loaded
  by_contra much
  rw [excess?_of_lt (Nat.not_le.mp much)] at none
  cases none

theorem add_eq :
    Draft.add = addField "isolation_enabled" Draft.isolation decodeBool
        (fun draft read => { draft with isolation := read })
      (addField "seed_peer_count" Draft.seedPeers decodeSize
        (fun draft read => { draft with seedPeers := read }) fun draft _ _ _ => .ok draft) :=
  rfl

theorem lone_isolation : Lone Draft.add "isolation_enabled" decodeBool Draft.isolation := by
  rw [add_eq]
  exact Keeps.lone (keeps_nothing.addField fun _ _ => rfl) fun _ _ => rfl

theorem lone_seedPeers : Lone Draft.add "seed_peer_count" decodeSize Draft.seedPeers := by
  rw [add_eq]
  exact Lone.addField (keeps_nothing.lone fun _ _ => rfl) (by decide) fun _ _ => rfl

structure Chosen {β : Type} (field : String) (decode : Node → Decoded β) (standard : β)
    (members : List (Name × Node)) (value : β) : Prop where
  once : (valuesOf field members).length ≤ 1
  read : ∀ node ∈ valuesOf field members, decode node = .ok value
  missing : valuesOf field members = [] → value = standard

theorem chosen_of_told {β : Type} {field : String} {decode : Node → Decoded β} {standard : β}
    {members : List (Name × Node)} {held : Option β} (told : Told field decode members held) :
    Chosen field decode standard members (held.getD standard) := by
  cases told with
  | missing absent => exact ⟨by simp [absent], by simp [absent], fun _ => rfl⟩
  | once only read => exact ⟨by simp [only], by simp [only, read], by simp [only]⟩

theorem chosen_of_decode {start : List Char} {members : List (Name × Node)} {ending : Ending}
    (read : decode (.object start members ending) = .ok settings) :
    Chosen "isolation_enabled" decodeBool true members settings.isolation ∧
      Chosen "seed_peer_count" decodeSize 8 members settings.seedPeers := by
  obtain ⟨draft, added, finished⟩ := RecordFormat.ofMembers_eq_ok read
  cases finished
  exact ⟨chosen_of_told ((format.isField lone_isolation).told rfl added),
    chosen_of_told ((format.isField lone_seedPeers).told rfl added)⟩

end

end Settings

namespace Directory

variable {φ σ γ : Type} [PartitionStore σ] [StoreFactory φ σ] {directory : Directory φ σ γ}
  {surroundings : Surroundings φ σ γ} {count : UInt64}

omit [StoreFactory φ σ] in
theorem startup_of_startStore {handle : Handle}
    (refused : (directory.startStore surroundings handle).1 = .error (.excess count)) :
    ∃ store : σ, (PartitionStore.startup store).1 = .error (.excess count) := by
  unfold startStore at refused
  dsimp only at refused
  split at refused
  · cases refused
  · rename_i store _
    exact ⟨store, refused⟩

theorem startup_of_startWellKnown {role : WellKnown}
    (refused : (directory.startWellKnown surroundings role).1 = .error (.excess count)) :
    ∃ store : σ, (PartitionStore.startup store).1 = .error (.excess count) := by
  unfold startWellKnown at refused
  dsimp only at refused
  split at refused
  · rename_i failure failed
    cases refused
    exact startup_of_startStore failed
  · cases refused

theorem startup_of_startAll {roles : List WellKnown} {sofar : List Handle}
    (refused : (startAll surroundings sofar roles directory).1 = .error (.excess count)) :
    ∃ store : σ, (PartitionStore.startup store).1 = .error (.excess count) := by
  induction roles generalizing sofar directory with
  | nil => cases refused
  | cons role rest ih =>
    rw [startAll] at refused
    split at refused
    · exact ih refused
    · rename_i failure failed
      cases refused
      exact startup_of_startWellKnown failed

theorem startup_of_start {settings : Settings} (fits : settings.seedPeers.toNat ≤ 64)
    (refused : (directory.start surroundings settings).1 = .error (.excess count)) :
    ∃ store : σ, (PartitionStore.startup store).1 = .error (.excess count) := by
  simp only [start, Settings.excess?_of_le fits] at refused
  split at refused
  · rename_i failure failed
    cases refused
    exact startup_of_startAll failed
  · cases refused

end Directory

open Settings

/-- Settings as they are kept in files: what is read of what was written, and what is known of
settings that were read, of whatever. -/
structure FilesRoundTrip : Prop where
  back : ∀ settings : Settings, settings.seedPeers.toNat ≤ 64 →
    load (.bytes (Text.utf8 settings.save)) = .ok settings
  refused : ∀ settings : Settings, 64 < settings.seedPeers.toNat →
    load (.bytes (Text.utf8 settings.save)) = .error (.excess settings.seedPeers)
  named : ∀ count, (LoadError.excess count).message =
    "Invalid config: seed_peer_count - " ++ toString count.toNat ++ " exceeds maximum of 64"
  fits : ∀ file settings, load file = .ok settings → settings.seedPeers.toNat ≤ 64
  chosen : ∀ file settings, load file = .ok settings →
    ∃ content text, file = .bytes content ∧ Text.ofUtf8? content = some text ∧
      ∀ start members ending, (outlineOf text).1 = .object start members ending →
        Chosen "isolation_enabled" decodeBool true members settings.isolation ∧
          Chosen "seed_peer_count" decodeSize 8 members settings.seedPeers
  standard : ∀ members text before after settings, Spelled (.object members) text →
    Blank before → Blank after →
    load (.bytes (Text.utf8 (String.ofList (before ++ text ++ after)))) = .ok settings →
    ("isolation_enabled" ∉ members.map (·.1) → settings.isolation = true) ∧
      ("seed_peer_count" ∉ members.map (·.1) → settings.seedPeers = 8)
  builds : ∀ file settings, load file = .ok settings →
    ∀ {φ σ γ : Type} [PartitionStore σ] [StoreFactory φ σ] (directory : Directory φ σ γ)
      (surroundings : Surroundings φ σ γ) (count : UInt64),
      (∀ store : σ, (PartitionStore.startup store).1 ≠ .error (.excess count)) →
      (directory.start surroundings settings).1 ≠ .error (.excess count)
  buildsInMemory : ∀ file settings, load file = .ok settings →
    ∀ {γ : Type} (directory : Directory MemoryFactory MemoryStore γ)
      (surroundings : Surroundings MemoryFactory MemoryStore γ) (count : UInt64),
      (directory.start surroundings settings).1 ≠ .error (.excess count)

theorem settings_files_round_trip : FilesRoundTrip := by
  constructor
  case back =>
    intro settings fits
    rw [load_save, excess?_of_le fits]
  case refused =>
    intro settings much
    rw [load_save, excess?_of_lt much]
  case named => exact message_excess
  case fits => exact fun file settings loaded => le_of_load loaded
  case chosen =>
    intro file settings loaded
    obtain ⟨content, text, rfl, spelled, read, -⟩ := load_eq_ok loaded
    refine ⟨content, text, rfl, spelled, fun start members ending object => ?_⟩
    exact chosen_of_decode (object ▸ decode_of_decodeText read)
  case standard =>
    intro members text before after settings spelled blank again loaded
    obtain ⟨_, whole, same, utf8, read, -⟩ := load_eq_ok loaded
    cases same
    cases (Text.ofUtf8?_utf8 _).symm.trans utf8
    obtain ⟨node, outlined, start, nodes, ending, rfl, depicts⟩ :=
      outlineOf_spelled spelled blank again
    have decoded := decode_of_decodeText read
    rw [outlined] at decoded
    have unnamed {field : String} (absent : field ∉ members.map (·.1)) :
        valuesOf field nodes = [] :=
      List.eq_nil_of_length_eq_zero
        ((length_valuesOf depicts).trans (List.count_eq_zero_of_not_mem absent))
    obtain ⟨isolation, seedPeers⟩ := chosen_of_decode decoded
    exact ⟨fun absent => isolation.missing (unnamed absent),
      fun absent => seedPeers.missing (unnamed absent)⟩
  case builds =>
    intro file settings loaded φ σ γ _ _ directory surroundings count sound refused
    obtain ⟨store, failed⟩ := Directory.startup_of_start (le_of_load loaded) refused
    exact sound store failed
  case buildsInMemory =>
    intro file settings loaded γ directory surroundings count refused
    obtain ⟨store, failed⟩ := Directory.startup_of_start (le_of_load loaded) refused
    exact store.startup_ne_excess count failed

def shared : String :=
  "\x7b\n  \"isolation_enabled\": false,\n  \"seed_peer_count\": 3\n\x7d"

def greedy : String :=
  "\x7b\n  \"isolation_enabled\": true,\n  \"seed_peer_count\": 65\n\x7d"

def sparse : String := "\x7b\n  \"seed_peer_count\": 2\n\x7d\n"

theorem settings_file_sparse :
    load (.bytes (Text.utf8 shared)) = .ok ⟨false, 3⟩ ∧
      load (.bytes (Text.utf8 greedy)) = .error (.excess 65) ∧
      ∃ settings, load (.bytes (Text.utf8 sparse)) = .ok settings ∧ settings.isolation = true ∧
        settings.seedPeers.toNat ≤ 64 := by
  refine ⟨settings_files_round_trip.back ⟨false, 3⟩ (by decide),
    settings_files_round_trip.refused ⟨true, 65⟩ (by decide), ?_⟩
  have modest : Modest 1 (.object [("seed_peer_count", .number 2)]) := by simp [Modest, maxWord]
  have whole : sparse = String.ofList
      ([] ++ (Json.object [("seed_peer_count", .number 2)]).prettyChars 0 ++ ['\n']) := by
    decide +kernel
  have blank : Blank ['\n'] := by simp [Blank, isBlank]
  cases loaded : load (.bytes (Text.utf8 sparse)) with
  | error cause =>
    have read : (load (.bytes (Text.utf8 sparse))).toOption.isSome = true := by decide +kernel
    simp [loaded, Except.toOption] at read
  | ok settings =>
    have missing := settings_files_round_trip.standard _ _ _ _ settings
      (spelled_prettyChars modest 0) blank_nil
      blank (whole ▸ loaded)
    exact ⟨settings, rfl, missing.1 (by simp), settings_files_round_trip.fits _ _ loaded⟩

end PeerDirectory

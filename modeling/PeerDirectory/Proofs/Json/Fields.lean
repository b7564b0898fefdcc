import PeerDirectory.Record.Codec
import PeerDirectory.Proofs.Json.Outline

namespace PeerDirectory.Json

section Inversion

variable {α β : Type}

theorem bind_eq_ok {read : Decoded α} {next : α → Decoded β} {result : β} :
    read >>= next = .ok result ↔ ∃ value, read = .ok value ∧ next value = .ok result := by
  cases read <;> simp [bind, Except.bind]

theorem map_eq_ok {read : Decoded α} {change : α → β} {result : β} :
    read.map change = .ok result ↔ ∃ value, read = .ok value ∧ change value = result := by
  cases read <;> simp [Except.map]

theorem decodeOnce_eq_ok {name : Name} {field : String} {sofar held : Option α}
    {value : Decoded α} :
    decodeOnce name field sofar value = .ok held ↔
      sofar = none ∧ ∃ read, value = .ok read ∧ held = some read := by
  cases sofar with
  | none => cases value <;> simp [decodeOnce, Except.map, eq_comm]
  | some _ => simp [decodeOnce]

theorem decodeOnce_map_eq_ok {name : Name} {field : String} {sofar : Option α} {value : Decoded α}
    {put : Option α → β} {next : β} :
    (decodeOnce name field sofar value).map put = .ok next ↔
      sofar = none ∧ ∃ read, value = .ok read ∧ put (some read) = next := by
  rw [map_eq_ok]
  constructor
  · rintro ⟨held, once, rfl⟩
    obtain ⟨fresh, read, decoded, rfl⟩ := decodeOnce_eq_ok.mp once
    exact ⟨fresh, read, decoded, rfl⟩
  · rintro ⟨fresh, read, decoded, rfl⟩
    exact ⟨some read, decodeOnce_eq_ok.mpr ⟨fresh, read, decoded, rfl⟩, rfl⟩

theorem decode_of_decodeText {decode : Node → Decoded α} {text : String} {result : α}
    (read : decodeText decode text = .ok result) : decode (outlineOf text).1 = .ok result := by
  obtain ⟨value, first, more⟩ := bind_eq_ok.mp read
  obtain ⟨after, -, last⟩ := bind_eq_ok.mp more
  split at last
  · cases last
    exact first
  · cases last

end Inversion

def valuesOf (field : String) (members : List (Name × Node)) : List Node :=
  (members.filter fun member => member.1.text.toOption = some field).map (·.2)

section Values

variable {field : String} {name : Name} {node : Node} {members : List (Name × Node)}

@[simp] theorem valuesOf_nil : valuesOf field [] = [] := rfl

theorem valuesOf_cons_of_eq (same : name.text = .ok field) :
    valuesOf field ((name, node) :: members) = node :: valuesOf field members := by
  simp [valuesOf, same, Except.toOption]

theorem valuesOf_cons_of_ne (other : name.text ≠ .ok field) :
    valuesOf field ((name, node) :: members) = valuesOf field members := by
  have apart : name.text.toOption ≠ some field := by
    cases text : name.text with
    | error fault => nofun
    | ok spelled =>
      intro same
      cases same
      exact other text
  simp [valuesOf, apart]

theorem valuesOf_append (members more : List (Name × Node)) :
    valuesOf field (members ++ more) = valuesOf field members ++ valuesOf field more := by
  simp [valuesOf]

theorem exists_mem_valuesOf {written : List (String × Json)} {value : Json}
    (depicts : DepictsMembers written members) (listed : (field, value) ∈ written) :
    ∃ node ∈ valuesOf field members, Depicts value node := by
  induction written generalizing members with
  | nil => cases listed
  | cons member rest ih =>
    obtain ⟨spelled, first⟩ := member
    obtain ⟨after, node, more, rfl, depicted, others⟩ := depicts
    rw [← List.singleton_append, valuesOf_append]
    rcases List.mem_cons.mp listed with same | later
    · cases same
      exact ⟨node, by simp [valuesOf_cons_of_eq], depicted⟩
    · obtain ⟨found, member, shows⟩ := ih others later
      exact ⟨found, List.mem_append_right _ member, shows⟩

theorem length_valuesOf {written : List (String × Json)}
    (depicts : DepictsMembers written members) :
    (valuesOf field members).length = (written.map (·.1)).count field := by
  induction written generalizing members with
  | nil =>
    cases depicts
    rfl
  | cons member rest ih =>
    obtain ⟨spelled, value⟩ := member
    obtain ⟨after, node, more, rfl, -, others⟩ := depicts
    by_cases same : spelled = field
    · rw [valuesOf_cons_of_eq (congrArg Except.ok same), List.length_cons, ih others]
      simp [same]
    · rw [valuesOf_cons_of_ne (mt Except.ok.inj same), ih others]
      simp [same]

end Values

inductive Told {β : Type} (field : String) (decode : Node → Decoded β)
    (members : List (Name × Node)) : Option β → Prop
  | missing (absent : valuesOf field members = []) : Told field decode members none
  | once {node : Node} {value : β} (only : valuesOf field members = [node])
      (read : decode node = .ok value) : Told field decode members (some value)

structure Field {δ β : Type} (add : δ → Name × Node → Decoded δ) (field : String)
    (decode : Node → Decoded β) (held : δ → Option β) : Prop where
  taken : ∀ {draft next name node}, name.text = .ok field → add draft (name, node) = .ok next →
    held draft = none ∧ ∃ value, decode node = .ok value ∧ held next = some value
  left : ∀ {draft next name node}, name.text ≠ .ok field → add draft (name, node) = .ok next →
    held next = held draft

section Told

variable {δ β : Type} {add : δ → Name × Node → Decoded δ} {field : String}
  {decode : Node → Decoded β} {held : δ → Option β} {members : List (Name × Node)}

theorem Told.congr {others : List (Name × Node)} {value : Option β}
    (told : Told field decode members value)
    (same : valuesOf field others = valuesOf field members) : Told field decode others value := by
  cases told with
  | missing absent => exact .missing (same.trans absent)
  | once only read => exact .once (same.trans only) read

theorem Told.length_le {value : Option β} (told : Told field decode members value) :
    (valuesOf field members).length ≤ 1 := by
  cases told with
  | missing absent => simp [absent]
  | once only _ => simp [only]

theorem Field.told_or_left (is : Field add field decode held) {draft final : δ}
    (added : members.foldlM add draft = .ok final) :
    (held draft = none ∧ Told field decode members (held final)) ∨
      (valuesOf field members = [] ∧ held final = held draft) := by
  induction members generalizing draft with
  | nil =>
    cases added
    exact Or.inr ⟨rfl, rfl⟩
  | cons member rest ih =>
    obtain ⟨name, node⟩ := member
    rw [List.foldlM_cons, bind_eq_ok] at added
    obtain ⟨next, first, others⟩ := added
    by_cases same : name.text = .ok field
    · obtain ⟨fresh, value, read, holds⟩ := is.taken same first
      rcases ih others with ⟨unheld, -⟩ | ⟨absent, kept⟩
      · cases unheld.symm.trans holds
      · have only : valuesOf field ((name, node) :: rest) = [node] := by
          rw [valuesOf_cons_of_eq same, absent]
        rw [kept, holds]
        exact Or.inl ⟨fresh, .once only read⟩
    · rw [valuesOf_cons_of_ne same, ← is.left same first]
      exact (ih others).imp_left fun ⟨fresh, told⟩ => ⟨fresh, told.congr (valuesOf_cons_of_ne same)⟩

theorem Field.told (is : Field add field decode held) {blank final : δ} (empty : held blank = none)
    (added : members.foldlM add blank = .ok final) : Told field decode members (held final) := by
  rcases is.told_or_left added with ⟨-, told⟩ | ⟨absent, kept⟩
  · exact told
  · rw [kept, empty]
    exact .missing absent

end Told

abbrev Adder (δ : Type) := δ → Name → String → Node → Decoded δ

section Adders

variable {δ β ω : Type}

def addField (field : String) (held : δ → Option β) (decode : Node → Decoded β)
    (put : δ → Option β → δ) (rest : Adder δ) : Adder δ := fun draft name other node =>
  if other = field then (decodeOnce name other (held draft) (decode node)).map (put draft)
  else rest draft name other node

def Keeps (held : δ → Option β) (add : Adder δ) : Prop :=
  ∀ draft next name field node, add draft name field node = .ok next → held next = held draft

structure Lone (add : Adder δ) (field : String) (decode : Node → Decoded β)
    (held : δ → Option β) : Prop where
  taken : ∀ {draft next name node}, add draft name field node = .ok next →
    held draft = none ∧ ∃ value, decode node = .ok value ∧ held next = some value
  left : ∀ {draft next name other node}, other ≠ field → add draft name other node = .ok next →
    held next = held draft

variable {field other : String} {held : δ → Option β} {decode : Node → Decoded β}
  {put : δ → Option β → δ} {beside : δ → Option ω} {read : Node → Decoded ω}
  {set : δ → Option ω → δ} {rest : Adder δ}

theorem keeps_nothing : Keeps held fun draft _ _ _ => .ok draft := by
  intro draft next name field node added
  cases added
  rfl

theorem Keeps.addField (keeps : Keeps held rest)
    (apart : ∀ draft value, held (set draft value) = held draft) :
    Keeps held (addField other beside read set rest) := by
  intro draft next name field node added
  unfold Json.addField at added
  split at added
  · obtain ⟨-, value, -, rfl⟩ := decodeOnce_map_eq_ok.mp added
    exact apart draft _
  · exact keeps _ _ _ _ _ added

theorem Keeps.lone (keeps : Keeps held rest)
    (holds : ∀ draft value, held (put draft value) = value) :
    Lone (Json.addField field held decode put rest) field decode held where
  taken := by
    intro draft next name node added
    rw [Json.addField, if_pos rfl] at added
    obtain ⟨fresh, value, read, rfl⟩ := decodeOnce_map_eq_ok.mp added
    exact ⟨fresh, value, read, holds draft _⟩
  left := by
    intro draft next name other node apart added
    rw [Json.addField, if_neg apart] at added
    exact keeps _ _ _ _ _ added

theorem Lone.addField (lone : Lone rest field decode held) (differs : field ≠ other)
    (apart : ∀ draft value, held (set draft value) = held draft) :
    Lone (Json.addField other beside read set rest) field decode held where
  taken := by
    intro draft next name node added
    rw [Json.addField, if_neg differs] at added
    exact lone.taken added
  left := by
    intro draft next name another node distinct added
    unfold Json.addField at added
    split at added
    · obtain ⟨-, value, -, rfl⟩ := decodeOnce_map_eq_ok.mp added
      exact apart draft _
    · exact lone.left distinct added

end Adders

namespace RecordFormat

variable {δ α : Type} {format : RecordFormat δ α} {members : List (Name × Node)} {ending : Ending}

def step (format : RecordFormat δ α) (draft : δ) (member : Name × Node) : Decoded δ := do
  let name ← member.1.text
  format.add draft member.1 name member.2

theorem addAll_eq_foldlM (draft : δ) :
    format.addAll draft members = members.foldlM format.step draft := by
  induction members generalizing draft with
  | nil => rfl
  | cons member rest ih =>
    simp only [addAll, ih, List.foldlM_cons, step, bind_assoc]

theorem ofMembers_eq_ok {value : α} (read : format.ofMembers members ending = .ok value) :
    ∃ draft, members.foldlM format.step format.blank = .ok draft ∧
      format.finish draft = .ok value := by
  rw [ofMembers, bind_eq_ok] at read
  obtain ⟨draft, added, read⟩ := read
  cases ending with
  | closed after => exact ⟨draft, (addAll_eq_foldlM _).symm.trans added, read⟩
  | broken wanting fault => cases read

theorem isField {β : Type} {field : String} {decode : Node → Decoded β} {held : δ → Option β}
    (lone : Lone format.add field decode held) : Field format.step field decode held where
  taken := by
    intro draft next name node same added
    simp only [step, same, bind, Except.bind] at added
    exact lone.taken added
  left := by
    intro draft next name node apart added
    obtain ⟨other, text, added⟩ := bind_eq_ok.mp added
    exact lone.left (fun same => apart (same ▸ text)) added

end RecordFormat

end PeerDirectory.Json

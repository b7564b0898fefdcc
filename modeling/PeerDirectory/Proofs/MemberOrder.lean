import Mathlib.Data.List.Basic
import PeerDirectory.Proofs.Json.Fields
import PeerDirectory.Proofs.RecordText

namespace PeerDirectory

open Json

namespace Entry

/-! ## The members of an entry -/

def kind : Entry → String
  | router _ => "router"
  | lease _ => "lease"

def fields : Entry → List (String × Json)
  | router descriptor => descriptor.members
  | lease record => record.members

def members (entry : Entry) : List (String × Json) := ("type", .string entry.kind) :: entry.fields

theorem toJson_eq (entry : Entry) : entry.toJson = .object entry.members := by
  cases entry <;> rfl

theorem nodup_members (entry : Entry) : (entry.members.map (·.1)).Nodup := by
  cases entry <;> simp [members, fields, Router.members, LeaseSet.members]

theorem modest_fields (entry : Entry) : ∀ member ∈ entry.fields, Modest 2 member.2 := by
  cases entry with
  | router descriptor =>
    exact fun member listed => (descriptor.modest_members member listed).mono (by decide)
  | lease record => exact record.modest_members

/-- The members of a text for an entry, in whatever order: its own as far as they are given, and
extras of no depth that a text may not have. -/
structure Arranged (entry : Entry) (members given extras : List (String × Json)) : Prop where
  mixed : members.Perm (given ++ extras)
  own : given.Sublist entry.members
  complete : ∀ member ∈ entry.members, member ∈ given ∨ member = ("signing_key", .null)
  foreign : ∀ member ∈ extras, member.1 ∉ entry.members.map (·.1)
  modest : ∀ member ∈ extras, Modest (maxDepth - 1) member.2

def Complete (fields members : List (String × Json)) : Prop :=
  ∀ field ∈ fields, field.1 ∈ members.map (·.1) ∨ field = ("signing_key", .null)

section Arranged

variable {entry : Entry} {members given extras before after : List (String × Json)}

theorem Arranged.agree (arranged : Arranged entry members given extras) :
    Agree entry.members members := by
  have foreign : (extras.map (·.1)).filter (· ∈ entry.members.map (·.1)) = [] := by
    rw [List.filter_eq_nil_iff]
    intro name listed
    obtain ⟨member, extra, rfl⟩ := List.mem_map.mp listed
    simpa using arranged.foreign member extra
  refine Agree.perm ⟨fun member listed known => ?_, ?_⟩ arranged.mixed.symm
  · rcases List.mem_append.mp listed with own | extra
    · exact arranged.own.subset own
    · exact absurd known (arranged.foreign member extra)
  · rw [List.map_append, List.filter_append, foreign, List.append_nil]
    exact (entry.nodup_members.sublist (arranged.own.map _)).filter _

theorem type_not_mem_fields (entry : Entry) : "type" ∉ entry.fields.map (·.1) :=
  (List.nodup_cons.mp entry.nodup_members).1

theorem agree_fields (agree : Agree entry.members members) : Agree entry.fields members where
  same := by
    intro member listed known
    rcases List.mem_cons.mp (agree.same member listed (List.mem_cons_of_mem _ known)) with rfl | own
    · exact absurd known entry.type_not_mem_fields
    · exact own
  once := by
    refine agree.once.sublist (List.monotone_filter_right _ fun name known => ?_)
    simp only [decide_eq_true_eq] at known ⊢
    exact List.mem_cons_of_mem _ known

theorem Arranged.listed (arranged : Arranged entry members given extras) {member : String × Json}
    (own : member ∈ entry.members) : member ∈ members ∨ member = ("signing_key", .null) :=
  (arranged.complete member own).imp_left fun given =>
    arranged.mixed.mem_iff.mpr (List.mem_append_left _ given)

theorem Arranged.mem_type (arranged : Arranged entry members given extras) :
    ("type", .string entry.kind) ∈ members :=
  (arranged.listed List.mem_cons_self).resolve_right (by simp)

theorem Arranged.complete_fields (arranged : Arranged entry members given extras) :
    Complete entry.fields members := fun _ own =>
  (arranged.listed (List.mem_cons_of_mem _ own)).imp_left (List.mem_map_of_mem ·)

theorem Arranged.modest_all (arranged : Arranged entry members given extras) :
    ∀ member ∈ members, Modest (maxDepth - 1) member.2 := by
  intro member listed
  rcases List.mem_append.mp (arranged.mixed.mem_iff.mp listed) with own | extra
  · rcases List.mem_cons.mp (arranged.own.subset own) with rfl | field
    · simp [Modest]
    · exact (entry.modest_fields member field).mono (by decide)
  · exact arranged.modest member extra

end Arranged

end Entry

/-! ## Reading -/

section Complete

variable {members : List (String × Json)} {nodes : List (Name × Node)}

theorem Router.ofMembers_complete {router : Router} (agree : Agree router.members members)
    (complete : Entry.Complete router.members members) (depicts : DepictsMembers members nodes)
    (after : List Char) : Router.format.ofMembers nodes (.closed after) = .ok router := by
  refine Router.ofMembers_agree agree (fun name listed => ?_) depicts after
  obtain ⟨field, own, rfl⟩ := List.mem_map.mp listed
  refine (complete field own).resolve_right ?_
  rintro rfl
  simp [Router.members] at own

theorem LeaseSet.ofMembers_complete {source : Source} {record : LeaseSet}
    (agree : Agree record.members members) (complete : Entry.Complete record.members members)
    (depicts : DepictsMembers members nodes) (after : List Char) :
    (LeaseSet.format source).ofMembers nodes (.closed after) = .ok record := by
  refine LeaseSet.ofMembers_agree agree ?_ ?_ depicts after
  · have named {name : String} (value : Json) (own : (name, value) ∈ record.members)
        (other : name ≠ "signing_key") : name ∈ members.map (·.1) :=
      (complete _ own).resolve_right fun same => other (congrArg Prod.fst same)
    simp only [List.cons_subset, List.nil_subset, and_true]
    exact ⟨named record.key.toJson (by simp [LeaseSet.members]) (by decide),
      named (.array (record.leases.map Lease.toJson)) (by simp [LeaseSet.members]) (by decide),
      named (.number record.published.toNat) (by simp [LeaseSet.members]) (by decide)⟩
  · have own : ("signing_key", ofOption SigningKey.toJson record.signingKey) ∈ record.members := by
      simp [LeaseSet.members]
    refine (complete _ own).imp_right fun same => ?_
    cases key : record.signingKey with
    | none => rfl
    | some value =>
      rw [key] at same
      cases congrArg Prod.snd same

end Complete

namespace Entry

section Reading

variable {entry : Entry} {members given extras : List (String × Json)} {node : Node}

def index : Entry → Nat
  | router _ => 0
  | lease _ => 1

theorem findIdx?_kind (entry : Entry) : kinds.findIdx? (· = entry.kind) = some entry.index := by
  cases entry <;> rfl

theorem ofMembers_complete {nodes : List (Name × Node)} (agree : Agree entry.fields members)
    (complete : Complete entry.fields members) (depicts : DepictsMembers members nodes)
    (after : List Char) : ofMembers entry.index nodes (.closed after) = .ok entry := by
  cases entry with
  | router descriptor =>
    rw [ofMembers, index, if_pos rfl, Router.ofMembers_complete agree complete depicts after]
    rfl
  | lease record =>
    rw [ofMembers, index, if_neg Nat.one_ne_zero,
      LeaseSet.ofMembers_complete agree complete depicts after]
    rfl

theorem Arranged.decode_entry (arranged : Arranged entry members given extras)
    (depicts : Depicts (.object members) node) : decode node = .ok entry := by
  obtain ⟨before, after, rfl⟩ := List.append_of_mem arranged.mem_type
  have fewer : (before ++ after).Sublist (before ++ ("type", .string entry.kind) :: after) :=
    (List.sublist_cons_self _ _).append_left _
  have plain : "type" ∉ (before ++ after).map (·.1) :=
    (arranged.agree.perm List.perm_middle).fresh List.mem_cons_self
  obtain ⟨nodes, ending, others, decoded⟩ := decode_of_kind before entry.findIdx?_kind plain
    (fun member listed => arranged.modest_all member (fewer.subset listed)) (by decide) depicts
  rw [decoded]
  refine ofMembers_complete ((agree_fields arranged.agree).sublist fewer) ?_ others ending
  intro field own
  refine (arranged.complete_fields field own).imp_left fun listed => ?_
  have differs : field.1 ≠ "type" := fun same =>
    entry.type_not_mem_fields (same ▸ List.mem_map_of_mem own)
  simpa [differs] using listed

theorem Arranged.decode_router {descriptor : Router}
    (arranged : Arranged (.router descriptor) members given extras)
    (depicts : Depicts (.object members) node) : Router.decode node = .ok descriptor := by
  obtain ⟨start, nodes, after, rfl, depicts⟩ := depicts
  exact Router.ofMembers_complete (agree_fields arranged.agree) arranged.complete_fields depicts
    after

theorem Arranged.decode_leaseSet {record : LeaseSet}
    (arranged : Arranged (.lease record) members given extras)
    (depicts : Depicts (.object members) node) : LeaseSet.decode node = .ok record := by
  obtain ⟨start, nodes, after, rfl, depicts⟩ := depicts
  exact LeaseSet.ofMembers_complete (agree_fields arranged.agree) arranged.complete_fields depicts
    after

end Reading

end Entry

/-! ## Nothing is given twice -/

section Once

variable {nodes : List (Name × Node)} {ending : Ending} {field : String}

theorem Router.add_eq :
    Router.Draft.add = addField "identity" Draft.identity decodeHash
        (fun draft read => { draft with identity := read })
      (addField "addresses" Draft.addresses (decodeList decodeString)
        (fun draft read => { draft with addresses := read })
      (addField "floodfill" Draft.floodfill decodeBool
        (fun draft read => { draft with floodfill := read })
      (addField "published" Draft.published decodeUInt64
        (fun draft read => { draft with published := read }) fun draft _ _ _ => .ok draft))) :=
  rfl

theorem Router.given_once {router : Router}
    (read : Router.format.ofMembers nodes ending = .ok router)
    (own : field ∈ router.members.map (·.1)) : (valuesOf field nodes).length ≤ 1 := by
  obtain ⟨draft, added, -⟩ := RecordFormat.ofMembers_eq_ok read
  have once {β : Type} {decode : Node → Decoded β} (held : Draft → Option β)
      (lone : Lone Draft.add field decode held) (blank : held Router.format.blank = none) :
      (valuesOf field nodes).length ≤ 1 :=
    ((Router.format.isField lone).told blank added).length_le
  rw [add_eq] at once
  simp only [members, List.map_cons, List.map_nil, List.mem_cons, List.not_mem_nil, or_false] at own
  rcases own with rfl | rfl | rfl | rfl
  · refine once Draft.identity (Keeps.lone ?_ fun _ _ => rfl) rfl
    exact .addField (.addField (keeps_nothing.addField fun _ _ => rfl) fun _ _ => rfl)
      fun _ _ => rfl
  · refine once Draft.addresses (.addField (Keeps.lone ?_ fun _ _ => rfl) ?_ fun _ _ => rfl) rfl
    · exact .addField (keeps_nothing.addField fun _ _ => rfl) fun _ _ => rfl
    · decide
  · refine once Draft.floodfill (.addField (.addField (Keeps.lone ?_ fun _ _ => rfl) ?_
      fun _ _ => rfl) ?_ fun _ _ => rfl) rfl
    · exact keeps_nothing.addField fun _ _ => rfl
    all_goals decide
  · refine once Draft.published (.addField (.addField (.addField (keeps_nothing.lone
      fun _ _ => rfl) ?_ fun _ _ => rfl) ?_ fun _ _ => rfl) ?_ fun _ _ => rfl) rfl
    all_goals decide

theorem LeaseSet.add_eq (source : Source) :
    LeaseSet.Draft.add source = addField "key" Draft.key decodeHash
        (fun draft read => { draft with key := read })
      (addField "signing_key" Draft.signingKey (decodeOption decodeSigningKey)
        (fun draft read => { draft with signingKey := read })
      (addField "leases" Draft.leases (decodeList (Lease.decode source))
        (fun draft read => { draft with leases := read })
      (addField "published" Draft.published decodeUInt64
        (fun draft read => { draft with published := read }) fun draft _ _ _ => .ok draft))) :=
  rfl

theorem LeaseSet.given_once {source : Source} {record : LeaseSet}
    (read : (LeaseSet.format source).ofMembers nodes ending = .ok record)
    (own : field ∈ record.members.map (·.1)) : (valuesOf field nodes).length ≤ 1 := by
  obtain ⟨draft, added, -⟩ := RecordFormat.ofMembers_eq_ok read
  have once {β : Type} {decode : Node → Decoded β} (held : Draft → Option β)
      (lone : Lone (Draft.add source) field decode held)
      (blank : held (LeaseSet.format source).blank = none) : (valuesOf field nodes).length ≤ 1 :=
    (((LeaseSet.format source).isField lone).told blank added).length_le
  rw [add_eq] at once
  simp only [members, List.map_cons, List.map_nil, List.mem_cons, List.not_mem_nil, or_false] at own
  rcases own with rfl | rfl | rfl | rfl
  · refine once Draft.key (Keeps.lone ?_ fun _ _ => rfl) rfl
    exact .addField (.addField (keeps_nothing.addField fun _ _ => rfl) fun _ _ => rfl)
      fun _ _ => rfl
  · refine once Draft.signingKey (.addField (Keeps.lone ?_ fun _ _ => rfl) ?_ fun _ _ => rfl) rfl
    · exact .addField (keeps_nothing.addField fun _ _ => rfl) fun _ _ => rfl
    · decide
  · refine once Draft.leases (.addField (.addField (Keeps.lone ?_ fun _ _ => rfl) ?_
      fun _ _ => rfl) ?_ fun _ _ => rfl) rfl
    · exact keeps_nothing.addField fun _ _ => rfl
    all_goals decide
  · refine once Draft.published (.addField (.addField (.addField (keeps_nothing.lone
      fun _ _ => rfl) ?_ fun _ _ => rfl) ?_ fun _ _ => rfl) ?_ fun _ _ => rfl) rfl
    all_goals decide

namespace Entry

theorem Draft.add_cases {draft next : Draft} {name : Name} {node : Node}
    (added : draft.add (name, node) = .ok next) :
    (name.text = .ok "type" ∧ draft.kind = none ∧ ∃ index, decodeVariant kinds node = .ok index ∧
      next = { draft with kind := some index }) ∨
    (name.text ≠ .ok "type" ∧
      next = { draft with members := draft.members ++ [(name, node)] }) := by
  obtain ⟨spelled, text, added⟩ := bind_eq_ok.mp added
  split at added
  · rename_i same
    obtain ⟨held, once, added⟩ := bind_eq_ok.mp added
    obtain ⟨fresh, index, known, rfl⟩ := decodeOnce_eq_ok.mp once
    cases added
    exact Or.inl ⟨text.trans (congrArg Except.ok same), fresh, index, known, rfl⟩
  · rename_i other
    obtain ⟨_, -, added⟩ := bind_eq_ok.mp added
    cases added
    refine Or.inr ⟨fun same => ?_, rfl⟩
    cases text.symm.trans same
    exact other rfl

theorem field_kind : Field Draft.add "type" (decodeVariant kinds) Draft.kind where
  taken := by
    intro draft next name node same added
    rcases Draft.add_cases added with ⟨-, fresh, index, known, rfl⟩ | ⟨other, -⟩
    · exact ⟨fresh, index, known, rfl⟩
    · exact absurd same other
  left := by
    intro draft next name node other added
    rcases Draft.add_cases added with ⟨same, -⟩ | ⟨-, rfl⟩
    · exact absurd same other
    · rfl

theorem valuesOf_members {draft final : Draft} (added : nodes.foldlM Draft.add draft = .ok final)
    (other : field ≠ "type") :
    valuesOf field final.members = valuesOf field draft.members ++ valuesOf field nodes := by
  induction nodes generalizing draft with
  | nil =>
    cases added
    simp
  | cons member rest ih =>
    obtain ⟨name, node⟩ := member
    rw [List.foldlM_cons, bind_eq_ok] at added
    obtain ⟨next, first, others⟩ := added
    rw [ih others]
    rcases Draft.add_cases first with ⟨same, -, index, -, rfl⟩ | ⟨-, rfl⟩
    · rw [valuesOf_cons_of_ne fun also => other (Except.ok.inj (also.symm.trans same))]
    · rw [valuesOf_append, List.append_assoc, ← valuesOf_append, List.singleton_append]

theorem placeless_eq_ok {α : Type} {read : Decoded α} {value : α} :
    placeless read = .ok value ↔ read = .ok value := by
  cases read <;> simp [placeless]

structure ReadFrom (nodes : List (Name × Node)) (entry : Entry) : Prop where
  kind : ∀ node ∈ valuesOf "type" nodes, ∃ index, decodeVariant kinds node = .ok index ∧
    (index = 0 ↔ entry.index = 0)
  once : ∀ field ∈ entry.members.map (·.1), (valuesOf field nodes).length ≤ 1

theorem given_once {kind : Nat} {entry : Entry} (read : ofMembers kind nodes ending = .ok entry) :
    (kind = 0 ↔ entry.index = 0) ∧
      ∀ field ∈ entry.fields.map (·.1), (valuesOf field nodes).length ≤ 1 := by
  rw [ofMembers, placeless_eq_ok] at read
  split at read
  · rename_i zero
    obtain ⟨descriptor, told, rfl⟩ := map_eq_ok.mp read
    exact ⟨iff_of_true zero rfl, fun field own => Router.given_once told own⟩
  · rename_i other
    obtain ⟨record, told, rfl⟩ := map_eq_ok.mp read
    exact ⟨iff_of_false other Nat.one_ne_zero, fun field own => LeaseSet.given_once told own⟩

theorem readFrom_of_decode {start : List Char} {entry : Entry}
    (read : decode (.object start nodes ending) = .ok entry) : ReadFrom nodes entry := by
  obtain ⟨draft, added, read⟩ := bind_eq_ok.mp read
  cases ending with
  | broken wanting fault => cases read
  | closed after =>
    obtain ⟨kind, held, read⟩ := bind_eq_ok.mp read
    obtain ⟨same, once⟩ := given_once read
    have told := field_kind.told rfl added
    constructor
    case kind =>
      intro node given
      cases known : draft.kind with
      | none =>
        rw [known] at held
        cases held
      | some index =>
        rw [known] at held told
        cases held
        cases told with
        | once only read =>
          rw [only, List.mem_singleton] at given
          exact ⟨_, given ▸ read, same⟩
    case once =>
      intro field own
      rcases List.mem_cons.mp own with rfl | own
      · exact told.length_le
      · have other : field ≠ "type" := fun same => entry.type_not_mem_fields (same ▸ own)
        have kept := valuesOf_members added other
        rw [valuesOf_nil, List.nil_append] at kept
        exact kept ▸ once field own

end Entry

end Once

namespace Entry

theorem names_of_index {entry other : Entry} (same : entry.index = 0 ↔ other.index = 0) :
    entry.members.map (·.1) = other.members.map (·.1) := by
  cases entry <;> cases other <;>
    simp_all [index, members, fields, Router.members, LeaseSet.members]

theorem decode_of_repeated {entry : Entry} {members : List (String × Json)} {field : String}
    {node : Node} (told : ("type", .string entry.kind) ∈ members)
    (own : field ∈ entry.members.map (·.1)) (again : 2 ≤ (members.map (·.1)).count field)
    (depicts : Depicts (.object members) node) : ∃ fault, decode node = .error fault := by
  cases read : decode node with
  | error fault => exact ⟨fault, rfl⟩
  | ok other =>
    obtain ⟨start, nodes, ending, rfl, depicts⟩ := depicts
    obtain ⟨kind, once⟩ := readFrom_of_decode read
    obtain ⟨_, given, after, rfl⟩ := exists_mem_valuesOf depicts told
    obtain ⟨index, known, same⟩ := kind _ given
    have index_eq : index = entry.index := by
      simpa [decodeVariant, chooseVariant, entry.findIdx?_kind] using known.symm
    have few := once field (names_of_index (index_eq ▸ same) ▸ own)
    rw [length_valuesOf depicts] at few
    omega

end Entry

/-- The order of the members of an entry's text, blanks, and what else is among them do not
matter; what does is that each of the entry's own is given once. -/
structure ReadsInAnyOrder : Prop where
  written : ∀ entry : Entry, entry.toJson = .object entry.members
  entries : ∀ (entry : Entry) (members given extras : List (String × Json)),
    entry.Arranged members given extras →
    ∀ text before after, Spelled (.object members) text → Blank before → Blank after →
      decodeText Entry.decode (String.ofList (before ++ text ++ after)) = .ok entry
  routers : ∀ (router : Router) (members given extras : List (String × Json)),
    (Entry.router router).Arranged members given extras →
    ∀ text before after, Spelled (.object members) text → Blank before → Blank after →
      decodeText Router.decode (String.ofList (before ++ text ++ after)) = .ok router
  leaseSets : ∀ (record : LeaseSet) (members given extras : List (String × Json)),
    (Entry.lease record).Arranged members given extras →
    ∀ text before after, Spelled (.object members) text → Blank before → Blank after →
      decodeText LeaseSet.decode (String.ofList (before ++ text ++ after)) = .ok record
  repeated : ∀ (entry : Entry) (members : List (String × Json)),
    ("type", .string entry.kind) ∈ members →
    ∀ field ∈ entry.members.map (·.1), 2 ≤ (members.map (·.1)).count field →
    ∀ text before after, Spelled (.object members) text → Blank before → Blank after →
      ∃ fault, decodeText Entry.decode (String.ofList (before ++ text ++ after)) = .error fault
  once : ∀ text entry start nodes ending, decodeText Entry.decode text = .ok entry →
    (outlineOf text).1 = .object start nodes ending →
    ∀ field ∈ entry.members.map (·.1), (valuesOf field nodes).length ≤ 1

theorem entry_reads_in_any_order : ReadsInAnyOrder := by
  constructor
  case written => exact Entry.toJson_eq
  case entries =>
    intro entry members given extras arranged text before after spelled blank again
    exact decodeText_spelled spelled blank again fun node => arranged.decode_entry
  case routers =>
    intro router members given extras arranged text before after spelled blank again
    exact decodeText_spelled spelled blank again fun node => arranged.decode_router
  case leaseSets =>
    intro record members given extras arranged text before after spelled blank again
    exact decodeText_spelled spelled blank again fun node => arranged.decode_leaseSet
  case repeated =>
    intro entry members told field own twice text before after spelled blank again
    obtain ⟨node, outlined, depicts⟩ := outlineOf_spelled spelled blank again
    obtain ⟨fault, failed⟩ := Entry.decode_of_repeated told own twice depicts
    exact ⟨fault, by simp only [decodeText, outlined, failed, bind, Except.bind]⟩
  case once =>
    intro text entry start nodes ending read object
    exact (Entry.readFrom_of_decode (object ▸ decode_of_decodeText read)).once

def parcel : LeaseSet := ⟨⟨.fill 0xAB⟩, none, [], 7⟩

def shuffled : String :=
  "\n\x7b\n  \"note\": \"fragile\",\n  \"published\": 7,\n  \"leases\": [],\n" ++
    "  \"key\": \"abababababababababababababababababababababababababababababababab\",\n" ++
    "  \"type\": \"lease\"\n\x7d"

def doubled : String := "\x7b\"published\":8,\"type\":\"lease\",\"published\":7\x7d"

def strewn : List (String × Json) :=
  [("note", .string "fragile"), ("published", .number 7), ("leases", .array []),
    ("key", parcel.key.toJson), ("type", .string "lease")]

def twofold : List (String × Json) :=
  [("published", .number 8), ("type", .string "lease"), ("published", .number 7)]

theorem arranged_strewn :
    (Entry.lease parcel).Arranged strewn
      [("type", .string "lease"), ("key", parcel.key.toJson), ("leases", .array []),
        ("published", .number 7)]
      [("note", .string "fragile")] where
  mixed := (List.reverse_perm _).symm
  own := .cons_cons _ (.cons_cons _ (.cons _ (.cons_cons _ (.cons_cons _ .slnil))))
  complete := by simp [Entry.members, Entry.kind, Entry.fields, LeaseSet.members, parcel, ofOption]
  foreign := by simp [Entry.members, Entry.fields, LeaseSet.members]
  modest := by simp [Modest]

theorem entry_reads_shuffled :
    decodeText Entry.decode shuffled = .ok (.lease parcel) ∧
      decodeText LeaseSet.decode shuffled = .ok parcel ∧
      ∃ fault, decodeText Entry.decode doubled = .error fault := by
  have modest : Modest (1 + maxDepth) (.object strewn) := fun member listed =>
    (arranged_strewn.modest_all member listed).mono (by decide)
  have once : Modest 1 (.object twofold) := by simp [twofold, Modest, maxWord]
  have blank : Blank ['\n'] := by simp [Blank, isBlank]
  have whole : shuffled =
      String.ofList (['\n'] ++ (Json.object strewn).prettyChars 0 ++ []) := by decide +kernel
  have again : doubled =
      String.ofList ([] ++ (Json.object twofold).compactChars ++ []) := by decide +kernel
  rw [whole, again]
  refine ⟨?_, ?_, ?_⟩
  · exact entry_reads_in_any_order.entries _ _ _ _ arranged_strewn _ _ _
      (spelled_prettyChars modest 0) blank
      blank_nil
  · exact entry_reads_in_any_order.leaseSets _ _ _ _ arranged_strewn _ _ _
      (spelled_prettyChars modest 0) blank
      blank_nil
  · exact entry_reads_in_any_order.repeated (.lease parcel) _ (by simp [twofold, Entry.kind])
      "published"
      (by simp [Entry.members, Entry.fields, LeaseSet.members]) (by decide) _ _ _
      (spelled_compactChars once) blank_nil blank_nil

end PeerDirectory

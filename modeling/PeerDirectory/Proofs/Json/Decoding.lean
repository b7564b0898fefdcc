import PeerDirectory.Record.Codec
import PeerDirectory.Proofs.HashText
import PeerDirectory.Proofs.Json.Outline

namespace PeerDirectory.Json

def Reads {α : Type} (decode : Node → Decoded α) (write : α → Json) : Prop :=
  ∀ value node, Depicts (write value) node → decode node = .ok value

theorem reads_string : Reads decodeString .string := by
  rintro text _ ⟨after, rfl⟩
  rfl

theorem reads_bool : Reads decodeBool .bool := by
  rintro value _ ⟨after, rfl⟩
  rfl

theorem reads_uint32 : Reads decodeUInt32 fun value => .number value.toNat := by
  rintro value _ ⟨after, rfl⟩
  simp [decodeUInt32, decodeNat, value.toNat_lt_size, Except.map]

theorem reads_uint64 : Reads decodeUInt64 fun value => .number value.toNat := by
  rintro value _ ⟨after, rfl⟩
  simp [decodeUInt64, decodeNat, value.toNat_lt_size, Except.map]

theorem reads_size : Reads decodeSize fun value => .number value.toNat := by
  rintro value _ ⟨after, rfl⟩
  simp [decodeSize, decodeNat, value.toNat_lt_size, Except.map]

theorem reads_bytes32 : Reads decodeBytes32 fun block => .string block.hex := by
  rintro block _ ⟨after, rfl⟩
  rw [decodeBytes32_string, ← Bytes32.parse_eq_judge, Bytes32.parse_hex]
  rfl

theorem reads_hash : Reads decodeHash Hash.toJson := fun hash node depicts =>
  congrArg (Except.map Hash.mk) (reads_bytes32 hash.bytes node depicts)

theorem reads_signingKey : Reads decodeSigningKey SigningKey.toJson := fun key node depicts =>
  congrArg (Except.map SigningKey.mk) (reads_bytes32 key.bytes node depicts)

theorem eq_null_of_depicts {value : Json} {after : List Char}
    (depicts : Depicts value (.null after)) : value = .null := by
  cases value with
  | null => rfl
  | bool _ | number _ | string _ =>
    obtain ⟨_, same⟩ := depicts
    cases same
  | array _ | object _ =>
    obtain ⟨_, _, _, same, -⟩ := depicts
    cases same

section Containers

variable {α : Type} {decode : Node → Decoded α} {write : α → Json}

theorem Reads.option (reads : Reads decode write) (present : ∀ value, write value ≠ .null) :
    Reads (decodeOption decode) (ofOption write) := by
  rintro (_ | value) node depicts
  · obtain ⟨after, rfl⟩ := depicts
    rfl
  · have some : decodeOption decode node = (decode node).map some := by
      cases node with
      | null after => exact absurd (eq_null_of_depicts depicts) (present value)
      | _ => rfl
    rw [some, reads value node depicts]
    rfl

theorem Reads.list (reads : Reads decode write) :
    Reads (decodeList decode) fun values => .array (values.map write) := by
  rintro values _ ⟨start, nodes, after, rfl, depicts⟩
  have each : (nodes.mapM fun item => decode item.2) = .ok values := by
    induction values generalizing nodes with
    | nil =>
      cases depicts
      rfl
    | cons value rest ih =>
      obtain ⟨place, node, more, rfl, first, others⟩ := depicts
      rw [List.mapM_cons, reads value node first, ih more others]
      rfl
  simp only [decodeList, each]
  rfl

end Containers

def given {α : Type} (names : List String) (field : String) (value : α) : Option α :=
  if field ∈ names then some value else none

section Given

variable {α : Type} {names : List String} {field : String} {value : α}

theorem given_of_mem (listed : field ∈ names) : given names field value = some value :=
  if_pos listed

theorem given_of_not_mem (missing : field ∉ names) : given names field value = none :=
  if_neg missing

@[simp] theorem given_cons_self : given (field :: names) field value = some value :=
  given_of_mem List.mem_cons_self

@[simp] theorem given_cons_of_ne {other : String} (apart : field ≠ other) :
    given (other :: names) field value = given names field value := by
  simp [given, apart]

theorem Reads.once {decode : Node → Decoded α} {write : α → Json} (reads : Reads decode write)
    (fresh : field ∉ names) (name : Name) {node : Node} (depicts : Depicts (write value) node) :
    decodeOnce name field (given names field value) (decode node) = .ok (some value) := by
  rw [given_of_not_mem fresh, decodeOnce, Option.isSome_none, if_neg Bool.false_ne_true,
    reads value node depicts]
  rfl

end Given

structure Sketches {δ α : Type} (format : RecordFormat δ α) (fields : List (String × Json))
    (sketch : List String → δ) : Prop where
  blank : format.blank = sketch []
  adds : ∀ {names field value node} (name : Name), (field, value) ∈ fields → field ∉ names →
    Depicts value node → format.add (sketch names) name field node = .ok (sketch (field :: names))
  skips : ∀ {names field} (name : Name) (node : Node), field ∉ fields.map (·.1) →
    format.add (sketch names) name field node = .ok (sketch (field :: names))

structure Agree (fields members : List (String × Json)) : Prop where
  same : ∀ member ∈ members, member.1 ∈ fields.map (·.1) → member ∈ fields
  once : ((members.map (·.1)).filter (· ∈ fields.map (·.1))).Nodup

theorem Agree.refl {fields : List (String × Json)} (distinct : (fields.map (·.1)).Nodup) :
    Agree fields fields where
  same := fun _ listed _ => listed
  once := distinct.filter _

section Sketching

variable {δ α : Type} {format : RecordFormat δ α} {fields members : List (String × Json)}
  {sketch : List String → δ} {nodes : List (Name × Node)}

theorem Agree.sublist {others : List (String × Json)} (agree : Agree fields members)
    (fewer : others.Sublist members) : Agree fields others where
  same := fun member listed => agree.same member (fewer.subset listed)
  once := agree.once.sublist ((fewer.map _).filter _)

theorem Agree.perm {others : List (String × Json)} (agree : Agree fields members)
    (mixed : members.Perm others) : Agree fields others where
  same := fun member listed => agree.same member (mixed.mem_iff.mpr listed)
  once := ((mixed.map _).filter _).nodup_iff.mp agree.once

theorem Agree.of_cons {member : String × Json} (agree : Agree fields (member :: members)) :
    Agree fields members :=
  agree.sublist (List.sublist_cons_self _ _)

theorem Agree.fresh {member : String × Json} (agree : Agree fields (member :: members))
    (known : member.1 ∈ fields.map (·.1)) : member.1 ∉ members.map (·.1) := by
  have once := agree.once
  rw [List.map_cons, List.filter_cons_of_pos (by simpa using known), List.nodup_cons] at once
  exact fun again => once.1 (List.mem_filter.mpr ⟨again, by simpa using known⟩)

theorem addAll_cons_of_ok {draft next : δ} {field : String} {after : List Char} {node : Node}
    (added : format.add draft ⟨.ok field, after⟩ field node = .ok next) :
    format.addAll draft ((⟨.ok field, after⟩, node) :: nodes) = format.addAll next nodes := by
  simp only [RecordFormat.addAll, bind, Except.bind, added]

theorem addAll_sketch (sketches : Sketches format fields sketch) (agree : Agree fields members)
    (depicts : DepictsMembers members nodes) (names : List String)
    (fresh : ∀ field ∈ members.map (·.1), field ∈ fields.map (·.1) → field ∉ names) :
    format.addAll (sketch names) nodes = .ok (sketch ((members.map (·.1)).reverse ++ names)) := by
  induction members generalizing nodes names with
  | nil =>
    cases depicts
    rfl
  | cons member rest ih =>
    obtain ⟨field, value⟩ := member
    obtain ⟨after, node, more, rfl, first, others⟩ := depicts
    have added (name : Name) :
        format.add (sketch names) name field node = .ok (sketch (field :: names)) := by
      by_cases known : field ∈ fields.map (·.1)
      · exact sketches.adds name (agree.same _ List.mem_cons_self known)
          (fresh field List.mem_cons_self known) first
      · exact sketches.skips name node known
    rw [addAll_cons_of_ok (added _), ih agree.of_cons others (field :: names)]
    · simp
    · intro other listed known again
      rcases List.mem_cons.mp again with rfl | earlier
      · exact agree.fresh known listed
      · exact fresh other (List.mem_cons_of_mem _ listed) known earlier

theorem ofMembers_sketch (sketches : Sketches format fields sketch) (agree : Agree fields members)
    (depicts : DepictsMembers members nodes) (after : List Char) :
    format.ofMembers nodes (.closed after) =
      format.finish (sketch (members.map (·.1)).reverse) := by
  have drafted := addAll_sketch sketches agree depicts [] (by simp)
  rw [List.append_nil, ← sketches.blank] at drafted
  rw [RecordFormat.ofMembers, drafted]
  rfl

theorem decode_sketch (sketches : Sketches format fields sketch) (agree : Agree fields members)
    (source : Source) {node : Node} (depicts : Depicts (.object members) node) :
    format.decode source node = format.finish (sketch (members.map (·.1)).reverse) := by
  obtain ⟨start, nodes, after, rfl, depicts⟩ := depicts
  exact ofMembers_sketch sketches agree depicts after

theorem reads_record (source : Source) {record : α → List (String × Json)}
    {sketch : α → List String → δ}
    (sketches : ∀ value, Sketches format (record value) (sketch value))
    (distinct : ∀ value, ((record value).map (·.1)).Nodup)
    (finishes : ∀ value names, (record value).map (·.1) ⊆ names →
      format.finish (sketch value names) = .ok value) :
    Reads (format.decode source) fun value => .object (record value) := by
  intro value node depicts
  refine (decode_sketch (sketches value) (.refl (distinct value)) source depicts).trans ?_
  exact finishes value _ fun _ listed => List.mem_reverse.mpr listed

end Sketching

section Settled

variable {level : Nat} {after : List Char}

theorem settledItems_ok {items : List Json} {nodes : List (List Char × Node)}
    (each : ∀ item ∈ items, ∀ node, Depicts item node → settled level node = .ok ())
    (depicts : DepictsItems items nodes) : settledItems level (.closed after) nodes = .ok () := by
  induction items generalizing nodes with
  | nil =>
    cases depicts
    rfl
  | cons item rest ih =>
    obtain ⟨place, node, more, rfl, first, others⟩ := depicts
    obtain ⟨here, onward⟩ := List.forall_mem_cons.mp each
    simp only [settledItems, here node first, ih onward others]

theorem settledMembers_ok {members : List (String × Json)} {nodes : List (Name × Node)}
    (each : ∀ member ∈ members, ∀ node, Depicts member.2 node → settled level node = .ok ())
    (depicts : DepictsMembers members nodes) :
    settledMembers level (.closed after) nodes = .ok () := by
  induction members generalizing nodes with
  | nil =>
    cases depicts
    rfl
  | cons member rest ih =>
    obtain ⟨name, value⟩ := member
    obtain ⟨place, node, more, rfl, first, others⟩ := depicts
    obtain ⟨here, onward⟩ := List.forall_mem_cons.mp each
    simp only [settledMembers, here node first, ih onward others]

theorem settled_of_modest {level depth : Nat} {value : Json} {node : Node}
    (modest : Modest depth value) (shallow : level + depth ≤ maxDepth)
    (depicts : Depicts value node) : settled level node = .ok () := by
  cases value with
  | null | bool _ | number _ | string _ =>
    obtain ⟨_, rfl⟩ := depicts
    rfl
  | array items =>
    cases depth with
    | zero => exact modest.elim
    | succ depth =>
      have inside : ¬maxDepth ≤ level := by omega
      obtain ⟨start, nodes, after, rfl, depicts⟩ := depicts
      simp only [settled, if_neg inside]
      exact settledItems_ok (fun item member node =>
        settled_of_modest (modest item member) (by omega)) depicts
  | object members =>
    cases depth with
    | zero => exact modest.elim
    | succ depth =>
      have inside : ¬maxDepth ≤ level := by omega
      obtain ⟨start, nodes, after, rfl, depicts⟩ := depicts
      simp only [settled, if_neg inside]
      exact settledMembers_ok (fun member listed node =>
        settled_of_modest (modest member listed) (by omega)) depicts

end Settled

theorem decodeText_compact {α : Type} {decode : Node → Decoded α} {result : Decoded α} {depth : Nat}
    {value : Json} (modest : Modest depth value)
    (decodes : ∀ node, Depicts value node → decode node = result) :
    decodeText decode value.compact = result := by
  have whole := decodeText_spelled (spelled_compactChars modest) blank_nil blank_nil decodes
  rwa [List.nil_append, List.append_nil] at whole

theorem decodeText_pretty {α : Type} {decode : Node → Decoded α} {result : Decoded α} {depth : Nat}
    {value : Json} (modest : Modest depth value)
    (decodes : ∀ node, Depicts value node → decode node = result) :
    decodeText decode value.pretty = result := by
  have whole := decodeText_spelled (spelled_prettyChars modest 0) blank_nil blank_nil decodes
  rwa [List.nil_append, List.append_nil] at whole

end PeerDirectory.Json

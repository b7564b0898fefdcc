import PeerDirectory.Proofs.Json.Decoding

namespace PeerDirectory

open Json

/-! ## Drafts -/

def Router.sketch (router : Router) (names : List String) : Router.Draft :=
  ⟨given names "identity" router.identity, given names "addresses" router.addresses,
    given names "floodfill" router.floodfill, given names "published" router.published⟩

theorem Router.sketches (router : Router) :
    Sketches Router.format router.members router.sketch where
  blank := rfl
  adds := by
    intro names field value node name member fresh depicts
    simp only [members, List.mem_cons, Prod.mk.injEq, List.not_mem_nil, or_false] at member
    rcases member with ⟨rfl, rfl⟩ | ⟨rfl, rfl⟩ | ⟨rfl, rfl⟩ | ⟨rfl, rfl⟩
    · simp [format, Draft.add, sketch, reads_hash.once fresh name depicts, Except.map]
    · simp [format, Draft.add, sketch, reads_string.list.once fresh name depicts, Except.map]
    · simp [format, Draft.add, sketch, reads_bool.once fresh name depicts, Except.map]
    · simp [format, Draft.add, sketch, reads_uint64.once fresh name depicts, Except.map]
  skips := by
    intro names field name node unknown
    simp [members] at unknown
    obtain ⟨identity, addresses, floodfill, published⟩ := unknown
    simp [format, Draft.add, sketch, identity, addresses, floodfill, published, Ne.symm]

theorem Router.finish_sketch {router : Router} {names : List String}
    (all : router.members.map (·.1) ⊆ names) : (router.sketch names).finish = .ok router := by
  simp only [members, List.map_cons, List.map_nil, List.cons_subset, List.nil_subset,
    and_true] at all
  obtain ⟨identity, addresses, floodfill, published⟩ := all
  simp only [Draft.finish, sketch, given_of_mem, identity, addresses, floodfill, published]
  rfl

theorem Router.ofMembers_agree {router : Router} {members : List (String × Json)}
    {nodes : List (Name × Node)} (agree : Agree router.members members)
    (all : router.members.map (·.1) ⊆ members.map (·.1)) (depicts : DepictsMembers members nodes)
    (after : List Char) : Router.format.ofMembers nodes (.closed after) = .ok router :=
  (ofMembers_sketch router.sketches agree depicts after).trans
    (finish_sketch fun _ listed => List.mem_reverse.mpr (all listed))

theorem Router.agree_self (router : Router) : Agree router.members router.members :=
  .refl (by simp [members])

theorem reads_router : Reads Router.decode Router.toJson := by
  rintro router _ ⟨start, nodes, after, rfl, depicts⟩
  exact Router.ofMembers_agree router.agree_self (List.Subset.refl _) depicts after

def Lease.sketch (lease : Lease) (names : List String) : Lease.Draft :=
  ⟨given names "gateway" lease.gateway, given names "tunnel_id" lease.tunnelId,
    given names "expires" lease.expires⟩

def Lease.members (lease : Lease) : List (String × Json) :=
  [("gateway", lease.gateway.toJson), ("tunnel_id", .number lease.tunnelId.toNat),
    ("expires", .number lease.expires.toNat)]

theorem Lease.sketches (lease : Lease) : Sketches Lease.format lease.members lease.sketch where
  blank := rfl
  adds := by
    intro names field value node name member fresh depicts
    simp only [members, List.mem_cons, Prod.mk.injEq, List.not_mem_nil, or_false] at member
    rcases member with ⟨rfl, rfl⟩ | ⟨rfl, rfl⟩ | ⟨rfl, rfl⟩
    · simp [format, Draft.add, sketch, reads_hash.once fresh name depicts, Except.map]
    · simp [format, Draft.add, sketch, reads_uint32.once fresh name depicts, Except.map]
    · simp [format, Draft.add, sketch, reads_uint64.once fresh name depicts, Except.map]
  skips := by
    intro names field name node unknown
    simp [members] at unknown
    obtain ⟨gateway, tunnelId, expires⟩ := unknown
    simp [format, Draft.add, sketch, gateway, tunnelId, expires, Ne.symm]

theorem Lease.finish_sketch {lease : Lease} {names : List String}
    (all : lease.members.map (·.1) ⊆ names) : (lease.sketch names).finish = .ok lease := by
  simp only [members, List.map_cons, List.map_nil, List.cons_subset, List.nil_subset,
    and_true] at all
  obtain ⟨gateway, tunnelId, expires⟩ := all
  simp only [Draft.finish, sketch, given_of_mem, gateway, tunnelId, expires]
  rfl

theorem reads_lease (source : Source) : Reads (Lease.decode source) Lease.toJson :=
  reads_record source Lease.sketches (by simp) fun _ _ all =>
    Lease.finish_sketch all

def LeaseSet.sketch (record : LeaseSet) (names : List String) : LeaseSet.Draft :=
  ⟨given names "key" record.key, given names "signing_key" record.signingKey,
    given names "leases" record.leases, given names "published" record.published⟩

theorem LeaseSet.sketches (source : Source) (record : LeaseSet) :
    Sketches (LeaseSet.format source) record.members record.sketch where
  blank := rfl
  adds := by
    intro names field value node name member fresh depicts
    simp only [members, List.mem_cons, Prod.mk.injEq, List.not_mem_nil, or_false] at member
    rcases member with ⟨rfl, rfl⟩ | ⟨rfl, rfl⟩ | ⟨rfl, rfl⟩ | ⟨rfl, rfl⟩
    · simp [format, Draft.add, sketch, reads_hash.once fresh name depicts, Except.map]
    · have signing := (reads_signingKey.option nofun).once fresh name depicts
      simp [format, Draft.add, sketch, signing, Except.map]
    · have leases := (reads_lease source).list.once fresh name depicts
      simp [format, Draft.add, sketch, leases, Except.map]
    · simp [format, Draft.add, sketch, reads_uint64.once fresh name depicts, Except.map]
  skips := by
    intro names field name node unknown
    simp [members] at unknown
    obtain ⟨key, signingKey, leases, published⟩ := unknown
    simp [format, Draft.add, sketch, key, signingKey, leases, published, Ne.symm]

theorem LeaseSet.finish_sketch {record : LeaseSet} {names : List String}
    (all : ["key", "leases", "published"] ⊆ names)
    (signed : "signing_key" ∈ names ∨ record.signingKey = none) :
    (record.sketch names).finish = .ok record := by
  simp only [List.cons_subset, List.nil_subset, and_true] at all
  obtain ⟨key, leases, published⟩ := all
  have signing : (given names "signing_key" record.signingKey).getD none = record.signingKey := by
    rcases signed with listed | none
    · rw [given_of_mem listed, Option.getD_some]
    · unfold given
      split <;> simp [none]
  simp only [Draft.finish, sketch, given_of_mem, key, leases, published, signing]
  rfl

theorem LeaseSet.ofMembers_agree {source : Source} {record : LeaseSet}
    {members : List (String × Json)} {nodes : List (Name × Node)}
    (agree : Agree record.members members)
    (all : ["key", "leases", "published"] ⊆ members.map (·.1))
    (signed : "signing_key" ∈ members.map (·.1) ∨ record.signingKey = none)
    (depicts : DepictsMembers members nodes) (after : List Char) :
    (LeaseSet.format source).ofMembers nodes (.closed after) = .ok record :=
  (ofMembers_sketch (record.sketches source) agree depicts after).trans
    (finish_sketch (fun _ listed => List.mem_reverse.mpr (all listed))
      (signed.imp_left List.mem_reverse.mpr))

theorem LeaseSet.agree_self (record : LeaseSet) : Agree record.members record.members :=
  .refl (by simp [members])

theorem LeaseSet.ofMembers_self {source : Source} {record : LeaseSet} {nodes : List (Name × Node)}
    (depicts : DepictsMembers record.members nodes) (after : List Char) :
    (LeaseSet.format source).ofMembers nodes (.closed after) = .ok record :=
  ofMembers_agree record.agree_self (by simp [members]) (by simp [members]) depicts after

theorem reads_leaseSet : Reads LeaseSet.decode LeaseSet.toJson := by
  rintro record _ ⟨start, nodes, after, rfl, depicts⟩
  exact LeaseSet.ofMembers_self depicts after

def Blinding.sketch (data : Blinding) (names : List String) : Blinding.Draft :=
  ⟨given names "signing_key" data.signingKey, given names "destination" data.destination,
    given names "secret" data.secret⟩

def Blinding.members (data : Blinding) : List (String × Json) :=
  [("signing_key", data.signingKey.toJson),
    ("destination", Json.ofOption Hash.toJson data.destination),
    ("secret", Json.ofOption Json.string data.secret)]

theorem Blinding.sketches (data : Blinding) :
    Sketches Blinding.format data.members data.sketch where
  blank := rfl
  adds := by
    intro names field value node name member fresh depicts
    simp only [members, List.mem_cons, Prod.mk.injEq, List.not_mem_nil, or_false] at member
    rcases member with ⟨rfl, rfl⟩ | ⟨rfl, rfl⟩ | ⟨rfl, rfl⟩
    · simp [format, Draft.add, sketch, reads_signingKey.once fresh name depicts, Except.map]
    · have destination := (reads_hash.option nofun).once fresh name depicts
      simp [format, Draft.add, sketch, destination, Except.map]
    · have secret := (reads_string.option nofun).once fresh name depicts
      simp [format, Draft.add, sketch, secret, Except.map]
  skips := by
    intro names field name node unknown
    simp [members] at unknown
    obtain ⟨signingKey, destination, secret⟩ := unknown
    simp [format, Draft.add, sketch, signingKey, destination, secret, Ne.symm]

theorem Blinding.finish_sketch {data : Blinding} {names : List String}
    (all : data.members.map (·.1) ⊆ names) : (data.sketch names).finish = .ok data := by
  simp only [members, List.map_cons, List.map_nil, List.cons_subset, List.nil_subset,
    and_true] at all
  obtain ⟨signingKey, destination, secret⟩ := all
  simp only [Draft.finish, sketch, given_of_mem, signingKey, destination, secret]
  rfl

theorem reads_blinding : Reads Blinding.decode Blinding.toJson :=
  reads_record .text Blinding.sketches (by simp) fun _ _ all =>
    Blinding.finish_sketch all

/-! ## Names of partitions -/

theorem reads_wellKnown : Reads WellKnown.decode WellKnown.toJson := by
  rintro role _ ⟨after, rfl⟩
  cases role <;> rfl

theorem reads_partitionId : Reads PartitionId.decode PartitionId.toJson := by
  rintro (role | destination) _ ⟨start, nodes, after, rfl, place, node, more, rfl, depicts, rfl⟩
  · have chosen : decodeChoice PartitionId.forms
        (.object start [(⟨.ok "well_known", place⟩, node)] (.closed after)) =
        .ok (.carrying 0 node (.ok ())) := rfl
    simp only [PartitionId.decode, chosen, bind, Except.bind, reads_wellKnown role node depicts]
    rfl
  · have chosen : decodeChoice PartitionId.forms
        (.object start [(⟨.ok "client", place⟩, node)] (.closed after)) =
        .ok (.carrying 1 node (.ok ())) := rfl
    simp only [PartitionId.decode, chosen, bind, Except.bind, reads_hash destination node depicts]
    rfl

/-! ## Entries -/

section Entries

variable {members before after : List (String × Json)} {nodes : List (Name × Node)} {depth : Nat}

theorem foldlM_add (depicts : DepictsMembers members nodes) (plain : "type" ∉ members.map (·.1))
    (modest : ∀ member ∈ members, Modest depth member.2) (shallow : 1 + depth ≤ maxDepth)
    (draft : Entry.Draft) :
    nodes.foldlM Entry.Draft.add draft =
      .ok { draft with members := draft.members ++ nodes } := by
  induction members generalizing nodes draft with
  | nil =>
    cases depicts
    simp [pure, Except.pure]
  | cons member rest ih =>
    obtain ⟨name, value⟩ := member
    obtain ⟨place, node, more, rfl, first, others⟩ := depicts
    obtain ⟨light, modest⟩ := List.forall_mem_cons.mp modest
    rw [List.map_cons, List.mem_cons, not_or] at plain
    have kept : Entry.Draft.add draft (⟨.ok name, place⟩, node) =
        .ok { draft with members := draft.members ++ [(⟨.ok name, place⟩, node)] } := by
      simp only [Entry.Draft.add, bind, Except.bind, if_neg (Ne.symm plain.1),
        settled_of_modest light shallow first]
      rfl
    rw [List.foldlM_cons, kept]
    refine (ih others plain.2 modest _).trans ?_
    simp

theorem depictsMembers_append (depicts : DepictsMembers (before ++ after) nodes) :
    ∃ earlier later, nodes = earlier ++ later ∧ DepictsMembers before earlier ∧
      DepictsMembers after later := by
  induction before generalizing nodes with
  | nil => exact ⟨[], nodes, rfl, rfl, depicts⟩
  | cons member rest ih =>
    obtain ⟨place, node, more, rfl, first, others⟩ := depicts
    obtain ⟨earlier, later, rfl, left, right⟩ := ih others
    exact ⟨_, later, rfl, ⟨place, node, earlier, rfl, first, left⟩, right⟩

theorem depictsMembers_join {earlier later : List (Name × Node)}
    (left : DepictsMembers before earlier) (right : DepictsMembers after later) :
    DepictsMembers (before ++ after) (earlier ++ later) := by
  induction before generalizing earlier with
  | nil =>
    cases left
    exact right
  | cons member rest ih =>
    obtain ⟨place, node, more, rfl, first, others⟩ := left
    exact ⟨place, node, _, rfl, first, ih others⟩

variable (before) in
theorem decode_of_kind {kind : String} {index : Nat}
    (known : Entry.kinds.findIdx? (· = kind) = some index)
    (plain : "type" ∉ (before ++ after).map (·.1))
    (modest : ∀ member ∈ before ++ after, Modest depth member.2) (shallow : 1 + depth ≤ maxDepth)
    {node : Node} (depicts : Depicts (.object (before ++ ("type", .string kind) :: after)) node) :
    ∃ nodes ending, DepictsMembers (before ++ after) nodes ∧
      Entry.decode node = Entry.ofMembers index nodes (.closed ending) := by
  obtain ⟨start, nodes, ending, rfl, depicts⟩ := depicts
  obtain ⟨earlier, later, rfl, left, right⟩ := depictsMembers_append depicts
  obtain ⟨place, _, more, rfl, ⟨stop, rfl⟩, others⟩ := right
  rw [List.map_append, List.mem_append, not_or] at plain
  rw [List.forall_mem_append] at modest
  refine ⟨earlier ++ more, ending, depictsMembers_join left others, ?_⟩
  have first := foldlM_add left plain.1 modest.1 shallow ⟨none, []⟩
  have told : Entry.Draft.add ⟨none, earlier⟩ (⟨.ok "type", place⟩, .string (.ok kind) stop) =
      .ok ⟨some index, earlier⟩ := by
    simp [Entry.Draft.add, bind, Except.bind, decodeOnce, decodeVariant, chooseVariant, known,
      Except.map, pure, Except.pure]
  have last := foldlM_add others plain.2 modest.2 shallow ⟨some index, earlier⟩
  rw [List.nil_append] at first
  simp only [Entry.decode, List.foldlM_append, List.foldlM_cons, first, told, last, bind,
    Except.bind, required]

theorem decode_of_kindless (plain : "type" ∉ members.map (·.1))
    (modest : ∀ member ∈ members, Modest depth member.2) (shallow : 1 + depth ≤ maxDepth)
    {node : Node} (depicts : Depicts (.object members) node) :
    Entry.decode node = .error (missingField "type") := by
  obtain ⟨start, nodes, ending, rfl, depicts⟩ := depicts
  simp only [Entry.decode, foldlM_add depicts plain modest shallow, bind, Except.bind, required]

end Entries

theorem Router.modest_members (router : Router) :
    ∀ member ∈ router.members, Modest 1 member.2 := by
  have published := le_maxWord router.published
  simp [members, Modest, Hash.toJson, published]

theorem Lease.modest_toJson (lease : Lease) : Modest 1 lease.toJson := by
  have expires := le_maxWord lease.expires
  have tunnelId : lease.tunnelId.toNat ≤ maxWord := by
    have small := lease.tunnelId.toNat_lt_size
    simp only [maxWord, UInt64.size, UInt32.size] at small ⊢
    omega
  simp [toJson, Modest, Hash.toJson, expires, tunnelId]

theorem modest_ofOption {α : Type} {write : α → Json} {depth : Nat}
    (modest : ∀ value, Modest depth (write value)) (value? : Option α) :
    Modest depth (ofOption write value?) := by
  cases value? with
  | none => cases depth <;> trivial
  | some value => exact modest value

theorem LeaseSet.modest_members (record : LeaseSet) :
    ∀ member ∈ record.members, Modest 2 member.2 := by
  have published := le_maxWord record.published
  have signing : Modest 2 (ofOption SigningKey.toJson record.signingKey) :=
    modest_ofOption (fun key => by simp [SigningKey.toJson, Modest]) _
  simp [members, Modest, Hash.toJson, published, signing, Lease.modest_toJson]

theorem reads_entry : Reads Entry.decode Entry.toJson := by
  rintro (router | record) node depicts
  · have known : Entry.kinds.findIdx? (· = "router") = some 0 := rfl
    obtain ⟨nodes, ending, members, decoded⟩ := decode_of_kind [] known
      (by simp) router.modest_members (by decide) depicts
    rw [decoded, Entry.ofMembers, if_pos rfl,
      Router.ofMembers_agree router.agree_self (List.Subset.refl _) members]
    rfl
  · have known : Entry.kinds.findIdx? (· = "lease") = some 1 := rfl
    obtain ⟨nodes, ending, members, decoded⟩ := decode_of_kind [] known
      (by simp) record.modest_members (by decide) depicts
    rw [decoded, Entry.ofMembers, if_neg Nat.one_ne_zero, LeaseSet.ofMembers_self members]
    rfl

/-! ## Texts -/

theorem Router.modest_toJson (router : Router) : Modest 2 router.toJson := router.modest_members

theorem LeaseSet.modest_toJson (record : LeaseSet) : Modest 3 record.toJson := record.modest_members

theorem Blinding.modest_toJson (data : Blinding) : Modest 1 data.toJson := by
  have destination : Modest 0 (ofOption Hash.toJson data.destination) :=
    modest_ofOption (fun hash => by simp [Hash.toJson, Modest]) _
  have secret : Modest 0 (ofOption .string data.secret) :=
    modest_ofOption (fun text => by simp [Modest]) _
  simp [toJson, Modest, SigningKey.toJson, destination, secret]

theorem Entry.modest_toJson (entry : Entry) : ∃ depth, Modest depth entry.toJson := by
  cases entry with
  | router descriptor =>
    exact ⟨2, List.forall_mem_cons.mpr ⟨by simp [Modest], descriptor.modest_members⟩⟩
  | lease record => exact ⟨3, List.forall_mem_cons.mpr ⟨by simp [Modest], record.modest_members⟩⟩

theorem PartitionId.modest_toJson (id : PartitionId) : Modest 1 id.toJson := by
  cases id <;> simp [toJson, Modest, WellKnown.toJson, Hash.toJson]

/-- Values are read back from the texts that they are written as, and no two are written alike. -/
structure Faithful {α : Type} (decode : Node → Decoded α) (write : α → Json) : Prop where
  back : ∀ value, decodeText decode (write value).compact = .ok value
  apart : ∀ one other, (write one).compact = (write other).compact → one = other

theorem faithful_of_reads {α : Type} {decode : Node → Decoded α} {write : α → Json}
    (reads : Reads decode write) (modest : ∀ value, ∃ depth, Modest depth (write value)) :
    Faithful decode write := by
  have back (value : α) : decodeText decode (write value).compact = .ok value := by
    obtain ⟨depth, modest⟩ := modest value
    exact decodeText_compact modest (reads value)
  refine ⟨back, fun one other same => ?_⟩
  have read := back one
  rw [same, back other] at read
  exact (Except.ok.inj read).symm

section Apart

variable {router : Router} {record : LeaseSet} {members : List (String × Json)} {node : Node}

theorem LeaseSet.decode_of_router
    (told : members = router.members ∨ members = ("type", .string "router") :: router.members)
    (depicts : Depicts (.object members) node) :
    LeaseSet.decode node = .error (missingField "key") := by
  have agree : Agree (LeaseSet.mk default none [] router.published).members members := by
    rcases told with rfl | rfl <;> constructor <;> simp [LeaseSet.members, Router.members]
  have keyless : "key" ∉ (members.map (·.1)).reverse := by
    rcases told with rfl | rfl <;> simp [Router.members]
  refine (decode_sketch (LeaseSet.sketches .text _) agree .text depicts).trans ?_
  simp only [format, Draft.finish, sketch, given_of_not_mem keyless, required]
  rfl

theorem Router.decode_of_leaseSet
    (told : members = record.members ∨ members = ("type", .string "lease") :: record.members)
    (depicts : Depicts (.object members) node) :
    Router.decode node = .error (missingField "identity") := by
  have agree : Agree (Router.mk default [] false record.published).members members := by
    rcases told with rfl | rfl <;> constructor <;> simp [LeaseSet.members, Router.members]
  have nameless : "identity" ∉ (members.map (·.1)).reverse := by
    rcases told with rfl | rfl <;> simp [LeaseSet.members]
  refine (decode_sketch (Router.sketches _) agree .text depicts).trans ?_
  simp only [format, Draft.finish, sketch, given_of_not_mem nameless, required]
  rfl

theorem router_text_never_leaseSet {text : String}
    (form : text = router.toJson.compact ∨ text = (Entry.router router).toJson.compact)
    (record : LeaseSet) :
    decodeText LeaseSet.decode text ≠ .ok record ∧
      decodeText Entry.decode text ≠ .ok (.lease record) := by
  rcases form with rfl | rfl
  · have keyless := decodeText_compact router.modest_toJson fun _ depicts =>
      LeaseSet.decode_of_router (Or.inl rfl) depicts
    have kindless := decodeText_compact router.modest_toJson fun _ depicts =>
      decode_of_kindless (by simp [Router.members]) router.modest_members (by decide) depicts
    rw [keyless, kindless]
    exact ⟨nofun, nofun⟩
  · obtain ⟨depth, modest⟩ := (Entry.router router).modest_toJson
    have keyless := decodeText_compact modest fun _ depicts =>
      LeaseSet.decode_of_router (Or.inr rfl) depicts
    have other := decodeText_compact modest (reads_entry (.router router))
    rw [keyless, other]
    exact ⟨nofun, nofun⟩

theorem leaseSet_text_never_router {text : String}
    (form : text = record.toJson.compact ∨ text = (Entry.lease record).toJson.compact)
    (router : Router) :
    decodeText Router.decode text ≠ .ok router ∧
      decodeText Entry.decode text ≠ .ok (.router router) := by
  rcases form with rfl | rfl
  · have nameless := decodeText_compact record.modest_toJson fun _ depicts =>
      Router.decode_of_leaseSet (Or.inl rfl) depicts
    have kindless := decodeText_compact record.modest_toJson fun _ depicts =>
      decode_of_kindless (by simp [LeaseSet.members]) record.modest_members (by decide) depicts
    rw [nameless, kindless]
    exact ⟨nofun, nofun⟩
  · obtain ⟨depth, modest⟩ := (Entry.lease record).modest_toJson
    have nameless := decodeText_compact modest fun _ depicts =>
      Router.decode_of_leaseSet (Or.inr rfl) depicts
    have other := decodeText_compact modest (reads_entry (.lease record))
    rw [nameless, other]
    exact ⟨nofun, nofun⟩

end Apart

/-- What the texts of entries, of their records, and of the names of partitions tell. -/
structure TextsRoundTrip : Prop where
  entries : Faithful Entry.decode Entry.toJson
  routers : Faithful Router.decode Router.toJson
  leaseSets : Faithful LeaseSet.decode LeaseSet.toJson
  blindings : Faithful Blinding.decode Blinding.toJson
  partitionIds : Faithful PartitionId.decode PartitionId.toJson
  neverLeaseSet : ∀ (router : Router) (text : String),
    text = router.toJson.compact ∨ text = (Entry.router router).toJson.compact →
    ∀ record, decodeText LeaseSet.decode text ≠ .ok record ∧
      decodeText Entry.decode text ≠ .ok (.lease record)
  neverRouter : ∀ (record : LeaseSet) (text : String),
    text = record.toJson.compact ∨ text = (Entry.lease record).toJson.compact →
    ∀ router, decodeText Router.decode text ≠ .ok router ∧
      decodeText Entry.decode text ≠ .ok (.router router)

theorem record_texts_round_trip : TextsRoundTrip := by
  constructor
  case entries => exact faithful_of_reads reads_entry Entry.modest_toJson
  case routers => exact faithful_of_reads reads_router fun router => ⟨2, router.modest_toJson⟩
  case leaseSets => exact faithful_of_reads reads_leaseSet fun record => ⟨3, record.modest_toJson⟩
  case blindings => exact faithful_of_reads reads_blinding fun data => ⟨1, data.modest_toJson⟩
  case partitionIds => exact faithful_of_reads reads_partitionId fun id => ⟨1, id.modest_toJson⟩
  case neverLeaseSet => exact fun router text form => router_text_never_leaseSet form
  case neverRouter => exact fun record text form => leaseSet_text_never_router form

end PeerDirectory

import PeerDirectory.Proofs.CommandLine
import PeerDirectory.Proofs.FirstSearch
import PeerDirectory.Proofs.SettingsFile

namespace PeerDirectory.Demo

open Std Directory

/-! ## Loops -/

section Loops

variable {add : State → Nat → Except Failure Unit × State} {state : State}

theorem forAll_append (numbers more : List Nat) :
    forAll add (numbers ++ more) state =
      match forAll add numbers state with
      | (.ok (), next) => forAll add more next
      | (.error failure, next) => (.error failure, next) := by
  induction numbers generalizing state with
  | nil => rfl
  | cons number rest ih =>
    rw [List.cons_append, forAll, forAll]
    split
    · exact ih
    · rfl

theorem forAll_range (holds : Nat → State → Prop) {count : Nat}
    (turn : ∀ number < count, ∀ state, holds number state →
      ∃ next, add state number = (.ok (), next) ∧ holds (number + 1) next)
    (start : holds 0 state) :
    ∃ final, forAll add (List.range count) state = (.ok (), final) ∧ holds count final := by
  induction count with
  | zero => exact ⟨state, rfl, start⟩
  | succ count ih =>
    obtain ⟨middle, ran, held⟩ := ih fun number small => turn number (Nat.lt_succ_of_lt small)
    obtain ⟨next, added, holds⟩ := turn count (Nat.lt_succ_self count) middle held
    refine ⟨next, ?_, holds⟩
    rw [List.range_succ, forAll_append, ran]
    simp only [forAll, added]

end Loops

/-! ## What is held by number -/

def Numbered {α : Type} (held : ExtTreeMap Hash α) (key : Nat → Hash) (thing : Nat → α)
    (count : Nat) : Prop :=
  ∀ under found, held[under]? = some found ↔
    ∃ number < count, key number = under ∧ thing number = found

section Numbered

variable {α : Type} {held : ExtTreeMap Hash α} {key : Nat → Hash} {thing : Nat → α} {count : Nat}

theorem numbered_empty : Numbered (∅ : ExtTreeMap Hash α) key thing 0 := by
  simp [Numbered]

theorem Numbered.insert (numbered : Numbered held key thing count)
    (new : ∀ number < count, key number ≠ key count) :
    Numbered (held.insert (key count) (thing count)) key thing (count + 1) := by
  intro under found
  rw [ExtTreeMap.getElem?_insert]
  by_cases same : key count = under
  · subst same
    rw [if_pos (ReflCmp.compare_self), Option.some.injEq]
    constructor
    · rintro rfl
      exact ⟨count, Nat.lt_succ_self count, rfl, rfl⟩
    · rintro ⟨number, small, same, rfl⟩
      obtain rfl : number = count := by
        by_contra other
        exact new number (by omega) same
      rfl
  · rw [if_neg (fun equal => same (LawfulEqCmp.eq_of_compare equal)), numbered]
    constructor
    · rintro ⟨number, small, here⟩
      exact ⟨number, Nat.lt_succ_of_lt small, here⟩
    · rintro ⟨number, small, here, rfl⟩
      refine ⟨number, ?_, here, rfl⟩
      by_contra large
      exact same ((congrArg key (by omega : count = number)).trans here)

theorem length_of_numbered {listed : List α} (once : listed.Nodup)
    (apart : ∀ one < count, ∀ other < count, thing one = thing other → one = other)
    (members : ∀ found, found ∈ listed ↔ ∃ number < count, thing number = found) :
    listed.length = count := by
  have distinct : ((List.range count).map thing).Nodup := by
    refine List.Nodup.map_on ?_ List.nodup_range
    intro one small other also same
    exact apart one (List.mem_range.mp small) other (List.mem_range.mp also) same
  have perm : listed.Perm ((List.range count).map thing) := by
    rw [List.perm_ext_iff_of_nodup once distinct]
    intro found
    rw [members, List.mem_map]
    simp only [List.mem_range]
  simpa using perm.length_eq

theorem Numbered.length_listed (numbered : Numbered held key thing count) {listed : List α}
    (once : listed.Nodup)
    (members : ∀ found, found ∈ listed ↔ ∃ under : Hash, held[under]? = some found)
    (apart : ∀ one < count, ∀ other < count, thing one = thing other → one = other) :
    listed.length = count := by
  refine length_of_numbered once apart fun found => ?_
  simp only [members, numbered _ found]
  constructor
  · rintro ⟨_, number, small, -, same⟩
    exact ⟨number, small, same⟩
  · rintro ⟨number, small, same⟩
    exact ⟨key number, number, small, rfl, same⟩

end Numbered

/-! ## Stages -/

structure Stocked (store : MemoryStore) (floodfills leases : Nat) : Prop where
  initialized : store.isInitialized = true
  welcoming : store.refused = []
  routers : Numbered store.routers (fun number => (router number).identity) router floodfills
  leaseSets : Numbered store.leaseSets destination leaseSet leases

structure Stage (isolation : Bool) (floodfills leases clients : Nat) (state : State) : Prop where
  opened : state.closed = false
  isolated : state.isolated = isolation
  plain : state.factory = .plain
  main : ∃ store, state.store? (wellKnown .main) = some store ∧ Stocked store floodfills leases
  bare : ∀ role ≠ .main, ∃ store, state.store? (wellKnown role) = some store ∧ Stocked store 0 0
  tracked : ∀ client handle, state.tracked? client = some handle →
    state.isReady handle = true ∧ ∃ number < clients, destination number = client
  size : state.clients.size = clients

def report (isolation : Bool) (floodfills clients : Nat) : Stats where
  isolation := isolation
  main := ⟨.wellKnown .main, floodfills, if isolation then 0 else clients, floodfills, true⟩
  multihome := ⟨.wellKnown .multihome, 0, 0, 0, true⟩
  exploratory := ⟨.wellKnown .exploratory, 0, 0, 0, true⟩
  clientPartitions := if isolation then clients else 0

/-- The digests of the first texts that begin with a name are all different. -/
def Unconfused (name : String) (count : Nat) : Prop :=
  ∀ one < count, ∀ other < count,
    Hash.ofText (name ++ toString one) = Hash.ofText (name ++ toString other) → one = other

instance (name : String) (count : Nat) : Decidable (Unconfused name count) :=
  inferInstanceAs (Decidable (∀ one < count, ∀ other < count, _ → _))

theorem unconfused_zero (name : String) : Unconfused name 0 :=
  fun one small => absurd small (Nat.not_lt_zero one)

section Stages

variable {isolation : Bool} {floodfills leases clients number : Nat} {state : State}
  {store : MemoryStore}

theorem Stocked.stopped (stocked : Stocked store floodfills leases) : store.stopped = false := by
  have initialized := stocked.initialized
  simp only [MemoryStore.isInitialized, Bool.and_eq_true, Bool.not_eq_true'] at initialized
  exact initialized.2

theorem partitionStats_of_stocked {handle : Handle} (present : state.store? handle = some store)
    (stocked : Stocked store floodfills leases) (routers : Unconfused "floodfill-" floodfills)
    (leaseSets : Unconfused "client-" leases) :
    state.partitionStats handle = ⟨handle.id, floodfills, leases, floodfills, true⟩ := by
  have known : store.knownRouters.length = floodfills :=
    stocked.routers.length_listed (nodup_distinct _) (fun _ => store.mem_knownRouters)
      fun one small other also same =>
        routers one small other also (congrArg Router.identity same)
  have kept : store.knownLeaseSets.length = leases :=
    stocked.leaseSets.length_listed (nodup_distinct _) (fun _ => store.mem_knownLeaseSets)
      fun one small other also same =>
        leaseSets one small other also (congrArg LeaseSet.key same)
  have flooding : store.floodfillPeers.length = floodfills := by
    refine length_of_numbered store.nodup_floodfillPeers routers fun key => ?_
    simp only [store.mem_floodfillPeers, stocked.routers key]
    constructor
    · rintro ⟨_, ⟨number, small, same, rfl⟩, -⟩
      exact ⟨number, small, same⟩
    · rintro ⟨number, small, same⟩
      exact ⟨_, ⟨number, small, same, rfl⟩, rfl⟩
  simp only [partitionStats, Directory.routers, Directory.leaseSets, floodfillPeers,
    storeInitialized, ask, present, PartitionStore.routers, PartitionStore.leaseSets,
    PartitionStore.floodfillPeers, PartitionStore.isInitialized, known, kept, flooding,
    stocked.initialized]

theorem Stage.length_clientIds (stage : Stage isolation floodfills leases clients state) :
    state.clientIds.length = if isolation then clients else 0 := by
  have ready : state.readyClients.length = clients := by
    have all : ∀ handle ∈ state.clients.handles, state.isReady handle = true := by
      intro handle listed
      obtain ⟨client, tracked⟩ := tracked?_of_mem listed
      exact (stage.tracked client handle tracked).1
    rw [readyClients, List.filter_eq_self.mpr all, Clients.length_handles, stage.size]
  rw [clientIds, stage.isolated]
  cases isolation with
  | false => rfl
  | true => simpa using ready

theorem Stage.stats_eq (stage : Stage isolation floodfills (if isolation then 0 else clients)
      (if isolation then clients else 0) state)
    (routers : Unconfused "floodfill-" floodfills) (leaseSets : Unconfused "client-" clients) :
    state.stats = report isolation floodfills clients := by
  have kept : Unconfused "client-" (if isolation then 0 else clients) := by
    cases isolation with
    | false => exact leaseSets
    | true => exact unconfused_zero _
  obtain ⟨store, present, stocked⟩ := stage.main
  obtain ⟨multihome, here, bare⟩ := stage.bare .multihome (by decide)
  obtain ⟨exploratory, there, empty⟩ := stage.bare .exploratory (by decide)
  rw [Directory.stats, stage.isolated, partitionStats_of_stocked present stocked routers kept,
    partitionStats_of_stocked here bare (unconfused_zero _) (unconfused_zero _),
    partitionStats_of_stocked there empty (unconfused_zero _) (unconfused_zero _),
    stage.length_clientIds]
  cases isolation <;> rfl

/-! ## Founding -/

theorem fresh_plain (id : PartitionId) : MemoryFactory.plain.fresh id = .empty id false := by
  simp [MemoryFactory.fresh, MemoryFactory.plain]

theorem stocked_started (id : PartitionId) :
    Stocked (MemoryStore.empty id false).startup.2 0 0 :=
  ⟨rfl, rfl, numbered_empty, numbered_empty⟩

theorem supplies_plain (roles : List WellKnown) :
    supplies (fun _ factory => factory) roles MemoryFactory.plain =
      roles.map fun role => (role, MemoryStore.empty (.wellKnown role) false) := by
  induction roles with
  | nil => rfl
  | cons role rest ih =>
    have made : supply (fun _ factory => factory) role MemoryFactory.plain =
        (.empty (.wellKnown role) false, .plain) :=
      congrArg (fun store : MemoryStore => (store, MemoryFactory.plain)) (fresh_plain _)
    rw [supplies, made, ih, List.map_cons]

theorem start_alone (state : State) (settings : Settings) :
    state.start alone settings = state.start (.tuning fun _ factory => factory) settings := by
  have idle : (Surroundings.tuning fun _ factory => factory) =
      (⟨fun _ state => state, 0⟩ : Surroundings MemoryFactory MemoryStore Unit) := rfl
  rw [idle]
  exact start_turns (fun _ state => state) 2 0 settings

theorem stage_start {settings : Settings} (fits : settings.seedPeers.toNat ≤ 64)
    (plain : state.factory = .plain) (empty : ∀ handle, state.partition? handle = none)
    (untracked : state.clients = ∅) (opened : state.closed = false) :
    ∃ started, state.start alone settings = (.ok (), started) ∧
      Stage settings.isolation 0 0 0 started := by
  have sound : Sound (supplies (fun _ factory => factory) WellKnown.all state.factory) := by
    rw [plain, supplies_plain]
    intro one member
    obtain ⟨role, -, rfl⟩ := List.mem_map.mp member
    rfl
  have ended := (start_alone state settings).trans (start_of_sound fits sound)
  have added := (partition?_furnished (fun _ factory => factory)
    (by decide : WellKnown.all.Nodup) fun role _ => empty (wellKnown role)).1
  rw [plain, supplies_plain] at added
  have stands (role : WellKnown) : ∃ store,
      (WellKnown.all.foldl (furnish fun _ factory => factory) state).store? (wellKnown role) =
        some store ∧ Stocked store 0 0 := by
    have listed : role ∈ WellKnown.all := by cases role <;> decide
    exact ⟨_, congrArg (Option.map Partition.store) (added _ (List.mem_map_of_mem listed)),
      stocked_started _⟩
  have factory : (WellKnown.all.foldl (furnish fun _ factory => factory) state).factory = .plain :=
    (keeps_furnished (·.factory) (fun _ _ => rfl) _).trans plain
  have clients : (WellKnown.all.foldl (furnish fun _ factory => factory) state).clients = ∅ :=
    (keeps_furnished (·.clients) (fun _ _ => rfl) _).trans untracked
  have closed : (WellKnown.all.foldl (furnish fun _ factory => factory) state).closed = false :=
    (keeps_furnished (·.closed) (fun _ _ => rfl) _).trans opened
  refine ⟨_, ended, ?_⟩
  generalize WellKnown.all.foldl (furnish fun _ factory => factory) state = furnished at *
  constructor
  case opened => exact closed
  case isolated => rfl
  case plain => exact factory
  case main => exact stands .main
  case bare => exact fun role _ => stands role
  case tracked =>
    intro client handle tracked
    rw [← find?_clients] at tracked
    change furnished.clients.find? client = some handle at tracked
    rw [clients, Clients.find?_empty] at tracked
    cases tracked
  case size => exact (congrArg Clients.size clients).trans Clients.size_empty

/-! ## Filling main -/

theorem Stocked.putRouter (stocked : Stocked store floodfills leases)
    (new : ∀ number < floodfills, (router number).identity ≠ (router floodfills).identity) :
    Stocked (store.put (router floodfills).identity (.router (router floodfills)))
      (floodfills + 1) leases :=
  ⟨stocked.initialized, stocked.welcoming, stocked.routers.insert new, stocked.leaseSets⟩

theorem Stocked.putLeaseSet (stocked : Stocked store floodfills leases)
    (new : ∀ number < leases, destination number ≠ destination leases) :
    Stocked (store.put (destination leases) (.lease (leaseSet leases))) floodfills (leases + 1) :=
  ⟨stocked.initialized, stocked.welcoming, stocked.routers, stocked.leaseSets.insert new⟩

theorem insert_of_welcoming {handle : Handle} (present : state.store? handle = some store)
    (welcoming : store.refused = []) (running : store.stopped = false) (key : Hash)
    (entry : Entry) :
    state.insert handle key entry = (.ok (), state.setStore handle (store.put key entry)) := by
  have taken : store.insert key entry = (.ok (), store.put key entry) := by
    simp [MemoryStore.insert, welcoming, running]
  simp only [Directory.insert, present, PartitionStore.insert, taken]

theorem Stage.setStore (stage : Stage isolation floodfills leases clients state)
    {handle : Handle} (elsewhere : ∀ role ≠ .main, wellKnown role ≠ handle) {more fuller : Nat}
    (main : ∃ held, (state.setStore handle store).store? (wellKnown .main) = some held ∧
      Stocked held more fuller) :
    Stage isolation more fuller clients (state.setStore handle store) := by
  have same := congrArg Shape.stages (shape_setStore state handle store)
  constructor
  case opened => exact stage.opened
  case isolated => exact stage.isolated
  case plain => exact stage.plain
  case main => exact main
  case bare =>
    intro role other
    obtain ⟨bare, here, empty⟩ := stage.bare role other
    exact ⟨bare, (store?_setStore_of_ne (elsewhere role other) _).trans here, empty⟩
  case tracked =>
    intro client handle tracked
    rw [isReady_of_stage? (congrFun same handle)]
    exact stage.tracked client handle tracked
  case size => exact stage.size

theorem Stage.setMain (stage : Stage isolation floodfills leases clients state) {more fuller : Nat}
    (stocked : Stocked store more fuller) :
    Stage isolation more fuller clients (state.setStore (wellKnown .main) store) := by
  obtain ⟨before, present, -⟩ := stage.main
  exact stage.setStore (fun role other same => other (wellKnown_injective same))
    ⟨store, store?_setStore present, stocked⟩

theorem Stage.addRouter (stage : Stage isolation number 0 0 state)
    (new : ∀ earlier < number, (router earlier).identity ≠ (router number).identity) :
    ∃ next, Demo.addRouter state number = (.ok (), next) ∧
      Stage isolation (number + 1) 0 0 next := by
  obtain ⟨store, present, stocked⟩ := stage.main
  exact ⟨_, insert_of_welcoming present stocked.welcoming stocked.stopped _ _,
    stage.setMain (stocked.putRouter new)⟩

/-! ## Serving clients -/

theorem Stage.addClient_of_together (stage : Stage false floodfills number 0 state)
    (new : ∀ earlier < number, destination earlier ≠ destination number) :
    ∃ next, Demo.addClient state number = (.ok (), next) ∧
      Stage false floodfills (number + 1) 0 next := by
  obtain ⟨store, present, stocked⟩ := stage.main
  have found : state.clientPartition alone (some (.client (destination number))) =
      (.ok (wellKnown .main), state) := by
    rw [clientPartition, resolve, if_neg (by simp [stage.isolated])]
  refine ⟨_, ?_, stage.setMain (stocked.putLeaseSet new)⟩
  rw [addClient, found]
  exact insert_of_welcoming present stocked.welcoming stocked.stopped _ _

theorem wellKnown_ne_next (role : WellKnown) (client : Hash) :
    wellKnown role ≠ state.partitions.next (.client client) := by
  intro same
  cases congrArg Handle.id same

theorem Stage.grown (stage : Stage isolation floodfills leases number state)
    (untracked : state.tracked? (destination number) = none) :
    Stage isolation floodfills leases (number + 1) (state.grown (destination number)) := by
  have stands (handle : Handle)
      (other : handle ≠ state.partitions.next (.client (destination number))) :
      (state.grown (destination number)).partition? handle = state.partition? handle :=
    (partition?_grown handle).trans (if_neg other)
  have role (role : WellKnown) : (state.grown (destination number)).store? (wellKnown role) =
      state.store? (wellKnown role) :=
    congrArg (Option.map Partition.store) (stands (wellKnown role) (wellKnown_ne_next role _))
  constructor
  case opened => exact stage.opened
  case isolated => exact stage.isolated
  case plain => exact stage.plain
  case main =>
    obtain ⟨store, present, stocked⟩ := stage.main
    exact ⟨store, (role .main).trans present, stocked⟩
  case bare =>
    intro other apart
    obtain ⟨store, present, stocked⟩ := stage.bare other apart
    exact ⟨store, (role other).trans present, stocked⟩
  case tracked =>
    intro client handle tracked
    rw [tracked?_grown] at tracked
    split at tracked
    case isTrue same =>
      cases tracked
      refine ⟨?_, number, Nat.lt_succ_self number, same.symm⟩
      simp [isReady, partition?_grown]
    case isFalse other =>
      obtain ⟨ready, earlier, small, same⟩ := stage.tracked client handle tracked
      have apart : handle ≠ state.partitions.next (.client (destination number)) := by
        rintro rfl
        exact other (PartitionId.client.inj (id_of_tracked? tracked)).symm
      refine ⟨?_, earlier, Nat.lt_succ_of_lt small, same⟩
      rw [isReady, stands handle apart]
      exact ready
  case size =>
    exact (size_joined untracked).trans (congrArg (· + 1) stage.size)

theorem Stage.untracked (stage : Stage isolation floodfills leases number state)
    (new : ∀ earlier < number, destination earlier ≠ destination number) :
    state.tracked? (destination number) = none := by
  cases tracked : state.tracked? (destination number) with
  | none => rfl
  | some handle =>
    obtain ⟨-, earlier, small, same⟩ := stage.tracked _ _ tracked
    exact absurd same (new earlier small)

theorem Stage.fresh (stage : Stage isolation floodfills leases clients state)
    (id : PartitionId) : state.factory.fresh id = .empty id false := by
  rw [stage.plain]
  exact fresh_plain id

theorem Stage.clientPartition (stage : Stage true floodfills leases clients state) {client : Hash}
    (untracked : state.tracked? client = none) :
    state.clientPartition alone (some (.client client)) =
      (.ok (state.partitions.next (.client client)), state.grown client) := by
  have starts : (state.factory.fresh (.client client)).startup.1 = .ok () := by
    rw [stage.fresh]
    rfl
  have resolved := resolve_of_untracked untracked stage.opened stage.isolated 1
  rw [grow_eq untracked stage.opened starts] at resolved
  exact resolved

theorem Stage.welcoming (stage : Stage isolation floodfills leases clients state) (client : Hash) :
    ∃ store, (state.grown client).store? (state.partitions.next (.client client)) = some store ∧
      store.refused = [] ∧ store.stopped = false := by
  have here := (partition?_grown (state.partitions.next (.client client))).trans (if_pos rfl)
  refine ⟨_, congrArg (Option.map Partition.store) here, ?_, running_seedling _ _⟩
  change (seedling state.factory client).refused = []
  rw [seedling, MemoryStore.refused_startup, stage.fresh]
  rfl

theorem Stage.addClient_of_isolated (stage : Stage true floodfills leases number state)
    (new : ∀ earlier < number, destination earlier ≠ destination number) :
    ∃ next, Demo.addClient state number = (.ok (), next) ∧
      Stage true floodfills leases (number + 1) next := by
  have untracked := stage.untracked new
  have grown := stage.grown untracked
  obtain ⟨store, present, welcoming, running⟩ := stage.welcoming (destination number)
  obtain ⟨main, here, stocked⟩ := grown.main
  rw [addClient, stage.clientPartition untracked]
  exact ⟨_, insert_of_welcoming present welcoming running _ _,
    grown.setStore (fun role _ => wellKnown_ne_next role _)
      ⟨main, (store?_setStore_of_ne (wellKnown_ne_next .main _) _).trans here, stocked⟩⟩

/-! ## The whole demonstration -/

theorem Stage.addRouters (stage : Stage isolation 0 0 0 state)
    (unconfused : Unconfused "floodfill-" floodfills) :
    ∃ filled, forAll Demo.addRouter (List.range floodfills) state = (.ok (), filled) ∧
      Stage isolation floodfills 0 0 filled := by
  refine forAll_range (Stage isolation · 0 0) (fun number small state stage => ?_) stage
  refine stage.addRouter fun earlier before same => Nat.ne_of_lt before ?_
  exact unconfused earlier (Nat.lt_trans before small) number small same

theorem Stage.addClients (stage : Stage isolation floodfills 0 0 state)
    (unconfused : Unconfused "client-" clients) :
    ∃ served, forAll addClient (List.range clients) state = (.ok (), served) ∧
      Stage isolation floodfills (if isolation then 0 else clients)
        (if isolation then clients else 0) served := by
  have new (number : Nat) (small : number < clients) (earlier : Nat) (before : earlier < number) :
      destination earlier ≠ destination number := fun same =>
    Nat.ne_of_lt before (unconfused earlier (Nat.lt_trans before small) number small same)
  cases isolation with
  | true =>
    exact forAll_range (Stage true floodfills 0) (fun number small _ stage =>
      stage.addClient_of_isolated (new number small)) stage
  | false =>
    exact forAll_range (Stage false floodfills · 0) (fun number small _ stage =>
      stage.addClient_of_together (new number small)) stage

theorem Stage.findLease (stage : Stage isolation floodfills leases clients state) (key : Hash) :
    Stage isolation floodfills leases clients (state.findLease key).2 := by
  have counts (metric : Metric) :
      Stage isolation floodfills leases clients (state.countOne metric) :=
    ⟨stage.opened, stage.isolated, stage.plain, stage.main, stage.bare, stage.tracked, stage.size⟩
  unfold Directory.findLease
  split <;> exact counts _

theorem stats_eq (sampler : Sampler) {settings : Settings}
    (fits : settings.seedPeers.toNat ≤ 64) (routers : Unconfused "floodfill-" floodfills)
    (leaseSets : Unconfused "client-" clients) :
    stats sampler settings floodfills clients =
      .ok (report settings.isolation floodfills clients) := by
  obtain ⟨started, begun, stage⟩ := stage_start fits (rfl : (Directory.unbuilt MemoryFactory.plain
    sampler .unrestricted () : State).factory = .plain) (partition?_unbuilt _ _ _ _) rfl rfl
  obtain ⟨filled, filling, stage⟩ := stage.addRouters routers
  obtain ⟨served, serving, stage⟩ := stage.addClients leaseSets
  have stats := (stage.findLease (destination 0)).stats_eq routers leaseSets
  simp only [Demo.stats, begun, filling, serving, stats]
  rfl

end Stages

structure Reports (sampler : Sampler) (options : Options) (file : String → Settings.File)
    (settings : Settings) : Prop where
  asked : options.clients < UInt64.size → options.floodfills < UInt64.size →
    options.config ≠ some "" → readCommandLine options.arguments = .run options
  printed : ∀ arguments, readCommandLine arguments = .run options →
    runBy sampler arguments file = .printed
      ((report (settings.isolation && !options.noIsolation) options.floodfills
        options.clients).toJson.pretty ++ "\n")
  succeeded : ∀ arguments, readCommandLine arguments = .run options →
    (runBy sampler arguments file).exitCode = 0

/-- The numbers that are printed do not depend on which of main's peers any client is seeded with.
-/
theorem demo_reports (sampler : Sampler) {options : Options}
    {file : String → Settings.File} {settings : Settings}
    (loaded : options.settings file = .ok settings)
    (clients : Unconfused "client-" options.clients)
    (floodfills : Unconfused "floodfill-" options.floodfills) :
    Reports sampler options file settings := by
  have fits : settings.seedPeers.toNat ≤ 64 := by
    unfold Options.settings at loaded
    split at loaded
    · cases loaded
      decide
    · exact Settings.le_of_load loaded
  have counted : stats sampler
      { settings with isolation := settings.isolation && !options.noIsolation }
      options.floodfills options.clients = .ok (report (settings.isolation && !options.noIsolation)
        options.floodfills options.clients) :=
    stats_eq sampler fits floodfills clients
  have printed (arguments : List String) (read : readCommandLine arguments = .run options) :
      runBy sampler arguments file = .printed
        ((report (settings.isolation && !options.noIsolation) options.floodfills
          options.clients).toJson.pretty ++ "\n") := by
    rw [runBy, read]
    dsimp only
    rw [runWith, loaded]
    dsimp only
    rw [counted]
  refine ⟨readCommandLine_arguments, printed, fun arguments read => ?_⟩
  rw [printed arguments read]
  rfl

def frugal : Settings.File :=
  .bytes "\x7b\"seed_peer_count\": 2\x7d".toUTF8.data.toList

theorem load_frugal : Settings.load frugal = .ok ⟨true, 2⟩ := by
  have read : (Settings.load frugal).toOption = some ⟨true, 2⟩ := by decide +kernel
  cases loaded : Settings.load frugal with
  | error cause =>
    rw [loaded] at read
    cases read
  | ok settings =>
    rw [loaded] at read
    exact congrArg Except.ok (Option.some.inj read)

theorem demo_reports_frugal :
    Options.settings ⟨some "frugal.json", 2, 3, false⟩ (fun _ => frugal) = .ok ⟨true, 2⟩ ∧
      Unconfused "client-" 2 ∧ Unconfused "floodfill-" 3 ∧
      Reports .first ⟨some "frugal.json", 2, 3, false⟩ (fun _ => frugal)
        ⟨true, 2⟩ :=
  ⟨load_frugal, by decide +kernel, by decide +kernel,
    demo_reports _ load_frugal (by decide +kernel) (by decide +kernel)⟩

end PeerDirectory.Demo

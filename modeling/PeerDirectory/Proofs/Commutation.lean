import PeerDirectory.Proofs.Commutation.Bills
import PeerDirectory.Proofs.Directory.AgreeOnQueries
import PeerDirectory.Proofs.Run.Start

namespace PeerDirectory.Directory

open Std

variable {γ : Type} {client other : Hash} {one two : Directory MemoryFactory MemoryStore γ}

/-! ## Steps that concern one client only -/

section Confinement

variable {α β : Type}

structure Confined (client : Hash)
    (step : Directory MemoryFactory MemoryStore γ → α × Directory MemoryFactory MemoryStore γ) :
    Prop where
  alike : ∀ {a b}, a.isolated = true → a.outlook client = b.outlook client →
    EndSameOutlook client (step a) (step b)
  away : ∀ {other directory}, directory.isolated = true → other ≠ client →
    (step directory).2.outlook other = directory.outlook other
  charged : ∀ {a b}, a.isolated = true → a.outlook client = b.outlook client →
    Charged a (step a).2 b (step b).2

variable
  {step : Directory MemoryFactory MemoryStore γ → α × Directory MemoryFactory MemoryStore γ}

theorem exists_other (client : Hash) : ∃ other, other ≠ client := by
  by_cases same : client = someone
  · exact ⟨newcomer, by rw [same]; decide +kernel⟩
  · exact ⟨someone, Ne.symm same⟩

theorem Confined.isolated (confined : Confined client step)
    {directory : Directory MemoryFactory MemoryStore γ} (isolated : directory.isolated = true) :
    (step directory).2.isolated = true := by
  obtain ⟨other, apart⟩ := exists_other client
  rw [isolated_congr (confined.away isolated apart), isolated]

theorem Confined.answered (client : Hash) (answer : α) :
    Confined client fun directory : Directory MemoryFactory MemoryStore γ => (answer, directory) :=
  ⟨fun _ same => ⟨rfl, same⟩, fun _ _ => rfl, fun _ _ => .refl _ _⟩

theorem Confined.bind (confined : Confined client step)
    (next : α → Directory MemoryFactory MemoryStore γ → β × Directory MemoryFactory MemoryStore γ)
    (later : ∀ {directory}, directory.isolated = true → Confined client (next (step directory).1)) :
    Confined client fun directory => next (step directory).1 (step directory).2 where
  alike {a b} isolated same := by
    obtain ⟨answered, after⟩ := confined.alike isolated same
    have goes := (later isolated).alike (confined.isolated isolated) after
    rw [← answered]
    exact goes
  away isolated apart :=
    ((later isolated).away (confined.isolated isolated) apart).trans
      (confined.away isolated apart)
  charged {a b} isolated same := by
    obtain ⟨answered, after⟩ := confined.alike isolated same
    have goes := (later isolated).charged (confined.isolated isolated) after
    rw [← answered]
    exact (confined.charged isolated same).trans goes

def equip (directory : Directory MemoryFactory MemoryStore γ) (sampler : Sampler) :
    Directory MemoryFactory MemoryStore γ :=
  { directory with sampler }

theorem equip_congr {a b : Directory MemoryFactory MemoryStore γ} {first second : Sampler}
    (same : a.outlook client = b.outlook client) (drawn : first = second) :
    (a.equip first).outlook client = (b.equip second).outlook client := by
  subst drawn
  exact congrArg (fun outlook => { outlook with sampler := first }) same

/-- A step that draws its samples by a sampler of its own. -/
def drawing (sampler : Sampler)
    (step : Directory MemoryFactory MemoryStore γ → α × Directory MemoryFactory MemoryStore γ)
    (directory : Directory MemoryFactory MemoryStore γ) :
    α × Directory MemoryFactory MemoryStore γ :=
  let ended := step (directory.equip sampler)
  (ended.1, ended.2.equip directory.sampler)

theorem Confined.drawing (confined : Confined client step) (sampler : Sampler) :
    Confined client (drawing sampler step) where
  alike {a b} isolated same := by
    have drawn : a.sampler = b.sampler := congrArg Outlook.sampler same
    have equipped := equip_congr same (Eq.refl sampler)
    have isolated : (a.equip sampler).isolated = true := isolated
    obtain ⟨answered, after⟩ := confined.alike isolated equipped
    exact ⟨answered, equip_congr after drawn⟩
  away {other directory} isolated apart := by
    have isolated : (directory.equip sampler).isolated = true := isolated
    have kept := equip_congr (confined.away isolated apart) (Eq.refl directory.sampler)
    exact kept
  charged {a b} isolated same := by
    have equipped := equip_congr same (Eq.refl sampler)
    have isolated : (a.equip sampler).isolated = true := isolated
    obtain ⟨bill, first, second⟩ := confined.charged isolated equipped
    exact ⟨bill, { first with }, { second with }⟩

end Confinement

/-! ## What a client has done -/

section Errands

variable {turns : Nat}

theorem confined_perform (call : Call Tuning Blinding)
    (addressed : call.addressee = some (.client client))
    (unlive : ∀ opened, call ≠ .session client opened) (turns : Nat) :
    Confined client fun directory : Directory MemoryFactory MemoryStore γ =>
      directory.perform (.quiet turns) call where
  alike {a b} _ same := by
    have near : call.foreignTo client = false := by simp [Call.foreignTo, addressed]
    have concerned : call.concerns client = true := by simp [Call.concerns, addressed]
    obtain ⟨after, answered⟩ := perform_congr turns same near
    exact ⟨answered concerned, after⟩
  away _ apart := by
    apply outlook_perform_away
    simp [Call.foreignTo, addressed, openTo_client_eq_false apart.symm]
  charged {a b} _ same := by
    cases call <;> simp only [Call.addressee, Option.some.injEq, reduceCtorEq] at addressed
    case resolve id =>
      cases id with
      | none => cases addressed
      | some id =>
        cases addressed
        exact charged_resolve turns same
    case clientPartition id =>
      cases id with
      | none => cases addressed
      | some id =>
        cases addressed
        exact charged_resolve turns same
    case removeClient =>
      cases addressed
      exact charged_removeClient turns same
    case ask => exact .refl a b
    case insert handle key entry =>
      exact ⟨.nothing, billed_insert a handle key entry, billed_insert b handle key entry⟩
    case session opened =>
      cases addressed
      exact absurd rfl (unlive opened)
    case tune => exact .rest a b
    case touch handle data =>
      exact ⟨.nothing, billed_touchStore a handle data, billed_touchStore b handle data⟩
    case startStore handle =>
      exact ⟨.nothing, billed_startStore a handle turns, billed_startStore b handle turns⟩
    case stopStore handle =>
      exact ⟨.nothing, billed_stopStore a handle, billed_stopStore b handle⟩

inductive Errand where
  | resolve
  | clientPartition
  | store (key : Hash) (entry : Entry)
  | storeIn (generation : Nat) (key : Hash) (entry : Entry)
  | setBlinding (data : Blinding)
  | setBlindingIn (generation : Nat) (data : Blinding)
  | remove
  | failStartup
  | allowStartup

def Errand.run (client : Hash) (turns : Nat) (errand : Errand)
    (directory : Directory MemoryFactory MemoryStore γ) :
    Response × Directory MemoryFactory MemoryStore γ :=
  match errand with
  | .resolve => directory.perform (.quiet turns) (.resolve (some (.client client)))
  | .clientPartition => directory.perform (.quiet turns) (.clientPartition (some (.client client)))
  | .store key entry =>
    let found := directory.resolve (.quiet turns) (some (.client client))
    match found.1 with
    | .ok handle => found.2.perform (.quiet turns) (.insert handle key entry)
    | .error failure => (.done (.error failure), found.2)
  | .storeIn generation key entry =>
    directory.perform (.quiet turns) (.insert ⟨.client client, generation⟩ key entry)
  | .setBlinding data =>
    match directory.partitions.newest? (.client client) with
    | some handle => directory.perform (.quiet turns) (.touch handle data)
    | none => (.handle none, directory)
  | .setBlindingIn generation data =>
    directory.perform (.quiet turns) (.touch ⟨.client client, generation⟩ data)
  | .remove => directory.perform (.quiet turns) (.removeClient client)
  | .failStartup => directory.perform (.quiet turns) (.tune (.fail (.client client)))
  | .allowStartup => directory.perform (.quiet turns) (.tune (.allow (.client client)))

theorem newest?_congr {a b : Directory MemoryFactory MemoryStore γ} {id : PartitionId}
    (same : a.outlook client = b.outlook client) (near : id.openTo client = true) :
    a.partitions.newest? id = b.partitions.newest? id := by
  simp only [Registry.newest?, all_congr same near]

theorem id_of_newest? {α : Type} {registry : Registry α} {id : PartitionId} {handle : Handle}
    (found : registry.newest? id = some handle) : handle.id = id := by
  unfold Registry.newest? at found
  split at found
  · cases found
  · obtain rfl := Option.some.inj found
    rfl

theorem confined_store (key : Hash) (entry : Entry) (turns : Nat) :
    Confined client fun directory : Directory MemoryFactory MemoryStore γ =>
      (Errand.store key entry).run client turns directory := by
  have found : Confined client fun directory : Directory MemoryFactory MemoryStore γ =>
      directory.resolve (.quiet turns) (some (.client client)) :=
    ⟨fun _ same => resolve_congr turns same openTo_client,
      fun _ apart => outlook_resolve_away apart.symm, fun _ same => charged_resolve turns same⟩
  refine found.bind (fun result after => match result with
    | .ok handle => after.perform (.quiet turns) (.insert handle key entry)
    | .error failure => (.done (.error failure), after)) fun {directory} isolated => ?_
  cases result : (directory.resolve (.quiet turns) (some (.client client))).1 with
  | error failure => exact .answered client _
  | ok handle =>
    simp only [resolve, isolated, if_true] at result
    have own : handle.id = .client client := id_of_clientWithin result
    exact confined_perform (.insert handle key entry) (congrArg some own) (by simp) turns

theorem confined_run (errand : Errand) (turns : Nat) :
    Confined client fun directory : Directory MemoryFactory MemoryStore γ =>
      errand.run client turns directory := by
  cases errand with
  | store key entry => exact confined_store key entry turns
  | setBlinding data =>
    have looked : Confined client fun directory : Directory MemoryFactory MemoryStore γ =>
        (directory.partitions.newest? (.client client), directory) :=
      ⟨fun _ same => ⟨newest?_congr same openTo_client, same⟩, fun _ _ => rfl,
        fun _ _ => .refl _ _⟩
    refine looked.bind (fun newest after => match newest with
      | some handle => after.perform (.quiet turns) (.touch handle data)
      | none => (.handle none, after)) fun {directory} _ => ?_
    cases newest : directory.partitions.newest? (.client client) with
    | none => exact .answered client _
    | some handle =>
      exact confined_perform (.touch handle data) (congrArg some (id_of_newest? newest)) (by simp)
        turns
  | resolve => exact confined_perform (.resolve (some (.client client))) rfl (by simp) turns
  | clientPartition =>
    exact confined_perform (.clientPartition (some (.client client))) rfl (by simp) turns
  | storeIn generation key entry =>
    exact confined_perform (.insert ⟨.client client, generation⟩ key entry) rfl (by simp) turns
  | setBlindingIn generation data =>
    exact confined_perform (.touch ⟨.client client, generation⟩ data) rfl (by simp) turns
  | remove => exact confined_perform (.removeClient client) rfl (by simp) turns
  | failStartup => exact confined_perform (.tune (.fail (.client client))) rfl (by simp) turns
  | allowStartup => exact confined_perform (.tune (.allow (.client client))) rfl (by simp) turns

end Errands

/-! ## Either order -/

structure EqualButLog (one other : Directory MemoryFactory MemoryStore γ) : Prop where
  factory : other.factory = one.factory
  built : ∀ id, other.partitions.all id = one.partitions.all id
  clients : other.clients = one.clients
  policy : other.policy = one.policy
  closed : other.closed = one.closed
  seedPeers : other.seedPeers = one.seedPeers
  sampler : other.sampler = one.sampler
  enumerator : other.enumerator = one.enumerator
  live : other.live = one.live
  metrics : other.metrics = one.metrics
  stuck : other.stuck = one.stuck
  outside : other.outside = one.outside

theorem EqualButLog.queries (equal : EqualButLog one two) : AgreeOnQueries one two where
  partitions handle := by
    rw [partition?, partition?, Registry.get?, Registry.get?, equal.built]
  clients := equal.clients
  policy := equal.policy
  live := equal.live

theorem factory_of_outlooks (same : ∀ client, one.outlook client = two.outlook client) :
    two.factory = one.factory := by
  have failing : two.factory.failing = one.factory.failing := by
    apply ExtTreeSet.ext_contains
    intro id
    obtain ⟨client, near⟩ : ∃ client, id.openTo client = true := by
      cases id with
      | wellKnown role => exact ⟨someone, rfl⟩
      | client client => exact ⟨client, openTo_client⟩
    have here := congrFun (congrArg Outlook.failing (same client)) id
    simpa [outlook, near] using here.symm
  have peculiarities : two.factory.peculiarities = one.factory.peculiarities :=
    congrArg Outlook.peculiarities (same someone).symm
  generalize one.factory = first at *
  generalize two.factory = second at *
  cases first
  cases second
  exact (MemoryFactory.mk.injEq ..).mpr ⟨failing, peculiarities⟩

theorem all_of_outlooks (same : ∀ client, one.outlook client = two.outlook client)
    (id : PartitionId) : two.partitions.all id = one.partitions.all id := by
  cases id with
  | wellKnown role => exact (all_congr (same someone) rfl).symm
  | client client => exact (all_congr (same client) openTo_client).symm

theorem clients_of_outlooks (same : ∀ client, one.outlook client = two.outlook client) :
    two.clients = one.clients :=
  Clients.ext_find? fun client => (congrArg Outlook.tracked (same client)).symm

theorem Billed.exchange {start : Directory MemoryFactory MemoryStore γ} {first second : Bill}
    (here : Billed (first.and second) start one) (there : Billed (second.and first) start two)
    (clients : two.clients = one.clients) : two.metrics = one.metrics ∧ two.stuck = one.stuck := by
  have gauged : (second.and first).gauged = (first.and second).gauged := Bool.or_comm ..
  have waits : (second.and first).waits = (first.and second).waits := Bool.or_comm ..
  constructor
  · rw [here.metrics, there.metrics, clients, gauged]
    exact Metrics.charge_perm _ List.perm_append_comm
  · rw [here.stuck, there.stuck, waits]

section Exchange

variable {α β : Type} {ours theirs : Hash} {directory : Directory MemoryFactory MemoryStore γ}
  {first : Directory MemoryFactory MemoryStore γ → α × Directory MemoryFactory MemoryStore γ}
  {second : Directory MemoryFactory MemoryStore γ → β × Directory MemoryFactory MemoryStore γ}

/-- Two steps are answered the same in either order, and in what is left then every question is
answered the same, and the metrics are the same. -/
structure Exchanged
    (first : Directory MemoryFactory MemoryStore γ → α × Directory MemoryFactory MemoryStore γ)
    (second : Directory MemoryFactory MemoryStore γ → β × Directory MemoryFactory MemoryStore γ)
    (directory : Directory MemoryFactory MemoryStore γ) : Prop where
  former : (first (second directory).2).1 = (first directory).1
  latter : (second (first directory).2).1 = (second directory).1
  state : EqualButLog (second (first directory).2).2 (first (second directory).2).2
  answers : ∀ question, (first (second directory).2).2.answer question =
    (second (first directory).2).2.answer question
  leases : ∀ key, ((first (second directory).2).2.findLease key).1 =
      ((second (first directory).2).2.findLease key).1 ∧
    ((first (second directory).2).2.findLease key).2.metrics =
      ((second (first directory).2).2.findLease key).2.metrics

theorem Confined.exchange (own : Confined ours first) (other : Confined theirs second)
    (apart : ours ≠ theirs) (isolated : directory.isolated = true) :
    Exchanged first second directory := by
  have unseen : (first directory).2.outlook theirs = directory.outlook theirs :=
    own.away isolated apart.symm
  have unheard : (second directory).2.outlook ours = directory.outlook ours :=
    other.away isolated apart
  have again := own.alike (other.isolated isolated) unheard
  have later := other.alike (own.isolated isolated) unseen
  have outlooks (client : Hash) : (second (first directory).2).2.outlook client =
      (first (second directory).2).2.outlook client := by
    by_cases our : client = ours
    · subst our
      rw [other.away (own.isolated isolated) apart, again.outlook]
    · rw [own.away (other.isolated isolated) our]
      by_cases their : client = theirs
      · subst their
        exact later.outlook
      · rw [other.away (own.isolated isolated) their, own.away isolated our,
          other.away isolated their]
  obtain ⟨bill, paid, anew⟩ := own.charged isolated unheard.symm
  obtain ⟨more, due, also⟩ := other.charged isolated unseen.symm
  have clients := clients_of_outlooks outlooks
  obtain ⟨metrics, stuck⟩ := (paid.trans also).exchange (due.trans anew) clients
  have state : EqualButLog (second (first directory).2).2 (first (second directory).2).2 :=
    { factory := factory_of_outlooks outlooks
      built := all_of_outlooks outlooks
      clients
      policy := congrArg Outlook.policy (outlooks ours).symm
      closed := congrArg Outlook.closed (outlooks ours).symm
      seedPeers := congrArg Outlook.seedPeers (outlooks ours).symm
      sampler := congrArg Outlook.sampler (outlooks ours).symm
      enumerator := by rw [anew.enumerator, due.enumerator, also.enumerator, paid.enumerator]
      live := by rw [anew.live, due.live, also.live, paid.live]
      metrics
      stuck
      outside := by rw [anew.outside, due.outside, also.outside, paid.outside] }
  refine ⟨again.result, later.result, state, fun question => ?_, fun key => ?_⟩
  · exact state.queries.answer fun _ => state.enumerator
  · obtain ⟨found, outcome⟩ := state.queries.findLease state.enumerator key
    refine ⟨found, ?_⟩
    simp only [findLease_after, outcome, countOne, count, state.metrics]

end Exchange

/-- With isolation on, what is done for one client and what is done for another can be done in either
order, by whatever samplers they draw the peers that new partitions are seeded with. -/
theorem errands_exchange {directory : Directory MemoryFactory MemoryStore γ} {ours theirs : Hash}
    (isolated : directory.isolated = true) (apart : ours ≠ theirs) (errand other : Errand)
    (draw again : Sampler) (turns : Nat) :
    Exchanged (drawing draw (errand.run ours turns)) (drawing again (other.run theirs turns))
      directory :=
  ((confined_run errand turns).drawing draw).exchange ((confined_run other turns).drawing again)
    apart isolated

theorem errands_exchange_newcomer :
    plainRun.isolated = true ∧ newcomer ≠ someone ∧
      Exchanged
        (drawing .first ((Errand.store someone (.lease ⟨someone, none, [], 0⟩)).run newcomer 1))
        (drawing .first (Errand.failStartup.run someone 1)) plainRun := by
  have isolated : plainRun.isolated = true := by decide +kernel
  have apart : newcomer ≠ someone := by decide +kernel
  exact ⟨isolated, apart, errands_exchange isolated apart _ _ .first .first 1⟩

end PeerDirectory.Directory

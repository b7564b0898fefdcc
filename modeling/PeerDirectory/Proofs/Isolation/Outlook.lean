import PeerDirectory.Proofs.Directory.Answers

/-!
A client's outlook on a directory over stores in memory: everything that calls to the client or to
the well-known partitions can depend on. Directories of one outlook agree on all of it, and every
single change either acts on the outlook or is about another client and leaves it alone.
-/

namespace PeerDirectory

def PartitionId.openTo (client : Hash) : PartitionId → Bool
  | .wellKnown _ => true
  | .client other => other = client

namespace Directory

def Call.addressee : Call Tuning Blinding → Option PartitionId
  | .resolve id => some (id.getD (.wellKnown .main))
  | .clientPartition id => some (id.getD (.wellKnown .exploratory))
  | .removeClient client => some (.client client)
  | .ask question => question.addressee
  | .insert handle _ _ | .touch handle _ | .startStore handle | .stopStore handle =>
    some handle.id
  | .tune tuning => some tuning.id
  | .session client _ => some (.client client)
  | .setIsolation _ | .shutdown | .findLease _ => none

def Call.foreignTo (client : Hash) (call : Call Tuning Blinding) : Bool :=
  match call.addressee with
  | some id => !id.openTo client
  | none => false

def Call.concerns (client : Hash) (call : Call Tuning Blinding) : Bool :=
  match call.addressee with
  | some id => id.openTo client
  | none =>
    match call with
    | .shutdown => true
    | _ => false

variable {γ : Type}

/-- What is seen of a call: the response to it, and all that the partitions hold that it names. -/
structure Sight where
  response : Response
  partitions : List (Option (Partition MemoryStore))

def observe (directory : Directory MemoryFactory MemoryStore γ) (turns : Nat)
    (call : Call Tuning Blinding) : Sight × Directory MemoryFactory MemoryStore γ :=
  let made := directory.perform (.quiet turns) call
  (⟨made.1, made.1.partitions.map made.2.partition?⟩, made.2)

def observeAll (turns : Nat) :
    List (Call Tuning Blinding) → Directory MemoryFactory MemoryStore γ →
      List (Call Tuning Blinding × Sight)
  | [], _ => []
  | call :: rest, directory =>
    let seen := directory.observe turns call
    (call, seen.1) :: observeAll turns rest seen.2

structure Outlook where
  partitions : PartitionId → List (Partition MemoryStore)
  tracked : Option Handle
  failing : PartitionId → Bool
  peculiarities : List Peculiarity
  policy : IsolationPolicy
  closed : Bool
  seedPeers : Nat
  sampler : Sampler

def outlook (client : Hash) (directory : Directory MemoryFactory MemoryStore γ) : Outlook where
  partitions id := if id.openTo client then directory.partitions.all id else []
  tracked := directory.clients.find? client
  failing id := id.openTo client && directory.factory.failing.contains id
  peculiarities := directory.factory.peculiarities
  policy := directory.policy
  closed := directory.closed
  seedPeers := directory.seedPeers
  sampler := directory.sampler

variable {client : Hash} {a b : Directory MemoryFactory MemoryStore γ} {id : PartitionId}
  {handle : Handle}

structure EndSameOutlook {α : Type} (client : Hash)
    (one other : α × Directory MemoryFactory MemoryStore γ) : Prop where
  result : one.1 = other.1
  outlook : one.2.outlook client = other.2.outlook client

theorem all_congr (same : a.outlook client = b.outlook client) (near : id.openTo client = true) :
    a.partitions.all id = b.partitions.all id := by
  have here := congrFun (congrArg Outlook.partitions same) id
  simpa [outlook, near] using here

theorem next_congr (same : a.outlook client = b.outlook client) (near : id.openTo client = true) :
    a.partitions.next id = b.partitions.next id := by
  rw [Registry.next, Registry.next, all_congr same near]

theorem partition?_congr (same : a.outlook client = b.outlook client)
    (near : handle.id.openTo client = true) : a.partition? handle = b.partition? handle := by
  rw [partition?, partition?, Registry.get?, Registry.get?, all_congr same near]

theorem store?_congr (same : a.outlook client = b.outlook client)
    (near : handle.id.openTo client = true) : a.store? handle = b.store? handle := by
  rw [store?, store?, partition?_congr same near]

theorem tracked?_congr (same : a.outlook client = b.outlook client) :
    a.tracked? client = b.tracked? client :=
  congrArg Outlook.tracked same

theorem closed_congr (same : a.outlook client = b.outlook client) : a.closed = b.closed :=
  congrArg Outlook.closed same

theorem isolated_congr (same : a.outlook client = b.outlook client) : a.isolated = b.isolated :=
  congrArg (fun outlook => outlook.policy.enabled) same

theorem progress_congr (same : a.outlook client = b.outlook client) :
    SameProgress .same (fun id => id.openTo client = true) b a where
  isolated := isolated_congr same
  tracked? {other} near := by
    obtain rfl : other = client := by simpa [PartitionId.openTo] using near
    rw [tracked?_congr same]
    exact (Option.map_id_apply ..).symm
  stages near := congrArg (Option.map _) (partition?_congr same near)

theorem isReady_congr (same : a.outlook client = b.outlook client)
    (near : handle.id.openTo client = true) : a.isReady handle = b.isReady handle :=
  (progress_congr same).isReady near

theorem reading_congr (same : a.outlook client = b.outlook client)
    (near : handle.id.openTo client = true) : SameReading .same b a handle :=
  congrArg (Option.map reading) (store?_congr same near)

theorem fresh_congr (same : a.outlook client = b.outlook client)
    (near : id.openTo client = true) : a.factory.fresh id = b.factory.fresh id := by
  have failing : a.factory.failing.contains id = b.factory.failing.contains id := by
    have here := congrFun (congrArg Outlook.failing same) id
    simpa [outlook, near] using here
  have peculiarities : a.factory.peculiarities = b.factory.peculiarities :=
    congrArg Outlook.peculiarities same
  rw [MemoryFactory.fresh, MemoryFactory.fresh, failing, peculiarities]

@[simp] theorem openTo_client : (PartitionId.client client).openTo client = true := by
  simp [PartitionId.openTo]

@[simp] theorem openTo_wellKnown (role : WellKnown) :
    (wellKnown role).id.openTo client = true := rfl

section Changes

variable {change : Partition MemoryStore → Partition MemoryStore} {turns : Nat} {other : Hash}

@[simp] theorem outlook_note (event : LogEvent) :
    (a.note event).outlook client = a.outlook client := rfl

@[simp] theorem outlook_count (metric : Metric) (amount : Nat) :
    (a.count metric amount).outlook client = a.outlook client := rfl

@[simp] theorem outlook_countOne (metric : Metric) :
    (a.countOne metric).outlook client = a.outlook client := rfl

@[simp] theorem outlook_publish :
    (a.publish (.quiet turns)).outlook client = a.outlook client := rfl

theorem outlook_modify : (a.modify handle change).outlook client =
    { a.outlook client with
      partitions := fun id =>
        if id = handle.id then ((a.outlook client).partitions id).modify handle.generation change
        else (a.outlook client).partitions id } := by
  simp only [outlook, modify, Registry.all_modify, Outlook.mk.injEq, and_self, and_true]
  funext id
  by_cases here : id = handle.id
  · subst here
    by_cases near : handle.id.openTo client = true <;> simp [near]
  · simp [here]

theorem modify_congr (same : a.outlook client = b.outlook client) :
    (a.modify handle change).outlook client = (b.modify handle change).outlook client := by
  rw [outlook_modify, outlook_modify, same]

theorem outlook_modify_away (away : handle.id.openTo client = false) :
    (a.modify handle change).outlook client = a.outlook client := by
  rw [outlook_modify]
  simp only [outlook, Outlook.mk.injEq, and_self, and_true]
  funext id
  by_cases here : id = handle.id <;> simp [here, away]

theorem outlook_build : (a.build (.quiet turns) id).2.outlook client =
    { a.outlook client with
      partitions := fun given =>
        if given = id ∧ id.openTo client then
          (a.outlook client).partitions id ++ [⟨a.factory.fresh id, .creating, false⟩]
        else (a.outlook client).partitions given } := by
  simp only [outlook, build, Surroundings.quiet, Registry.all_add, StoreFactory.make,
    Outlook.mk.injEq, and_self, and_true]
  funext given
  by_cases here : given = id
  · by_cases near : id.openTo client = true <;> simp [here, near]
  · simp [here]

theorem build_congr (turns : Nat) (same : a.outlook client = b.outlook client)
    (near : id.openTo client = true) :
    EndSameOutlook client (a.build (.quiet turns) id) (b.build (.quiet turns) id) := by
  refine ⟨next_congr same near, ?_⟩
  rw [outlook_build, outlook_build, same, fresh_congr same near]

theorem outlook_build_away (turns : Nat) (away : id.openTo client = false) :
    (a.build (.quiet turns) id).2.outlook client = a.outlook client := by
  rw [outlook_build]
  simp [away]

theorem outlook_track (own : handle.id = .client client) :
    outlook client { a with clients := a.clients.insert client handle own } =
      { a.outlook client with tracked := some handle } := by
  simp [outlook, Clients.find?_insert]

theorem outlook_track_away (away : other ≠ client) (own : handle.id = .client other) :
    outlook client { a with clients := a.clients.insert other handle own } =
      a.outlook client := by
  simp [outlook, Clients.find?_insert, Ne.symm away]

theorem outlook_strike :
    outlook client { a with clients := a.clients.erase client } =
      { a.outlook client with tracked := none } := by
  simp [outlook, Clients.find?_erase]

theorem outlook_strike_away (away : other ≠ client) :
    outlook client { a with clients := a.clients.erase other } = a.outlook client := by
  simp [outlook, Clients.find?_erase, Ne.symm away]

theorem outlook_close :
    outlook client { a with closed := true, clients := ∅ } =
      { a.outlook client with closed := true, tracked := none } := by
  simp [outlook]

theorem openTo_client_eq_false (away : other ≠ client) :
    (PartitionId.client other).openTo client = false := by
  simpa [PartitionId.openTo] using away

theorem ne_of_openTo_client_eq_false (away : (PartitionId.client other).openTo client = false) :
    other ≠ client := by
  simpa [PartitionId.openTo] using away

end Changes

end Directory

end PeerDirectory

import PeerDirectory.Proofs.Run.Gauge
import PeerDirectory.Proofs.Run.Roster

namespace PeerDirectory.Directory

variable {γ : Type} {directory : Directory MemoryFactory MemoryStore γ} {key client : Hash}
  {handle : Handle}

def Admits (directory : Directory MemoryFactory MemoryStore γ) (client : Hash) : Prop :=
  match directory.enumerator with
  | .unrestricted => True
  | .sessions => client ∈ directory.live.clients
  | .chosen live => live client = true

def Eligible (directory : Directory MemoryFactory MemoryStore γ) (key client : Hash) : Prop :=
  directory.Admits client ∧ ∃ handle, handle.id = .client client ∧
    directory.isReady handle = true ∧
      (client = key ∨ ∃ record, directory.KeepsLease handle key record)

def Holder (directory : Directory MemoryFactory MemoryStore γ) (key client : Hash) : Prop :=
  ∃ handle record, handle.id = .client client ∧ directory.isReady handle = true ∧
    directory.KeepsLease handle key record

theorem mayOwn_iff (named : handle.id = .client client) :
    directory.mayOwn handle = true ↔ directory.Admits client := by
  rw [mayOwn_iff_admits named]
  unfold Admits Enumerator.Admits
  cases directory.enumerator <;> rfl

theorem first_of_find? {α : Type} {before : α → α → Prop} {items : List α} {wanted : α → Bool}
    {found : α} (ascending : items.Pairwise before) (first : items.find? wanted = some found) :
    ∀ other ∈ items, wanted other = true → other = found ∨ before found other := by
  obtain ⟨-, earlier, later, rfl, unwanted⟩ := List.find?_eq_some_iff_append.mp first
  intro other member claimed
  rcases List.mem_append.mp member with early | late
  · have refused := unwanted other early
    simp [claimed] at refused
  · rcases List.mem_cons.mp late with rfl | late
    · exact Or.inl rfl
    · exact Or.inr (List.rel_of_pairwise_cons (List.pairwise_append.mp ascending).2.1 late)

def Precedes (one other : Handle) : Prop :=
  ∃ first second, one.id = .client first ∧ other.id = .client second ∧
    compare first second = .lt

theorem Roster.precedes {clients : List Hash} {handles : List Handle}
    (roster : Roster directory clients handles) : handles.Pairwise Precedes := by
  have ordered : (clients.map PartitionId.client).Pairwise fun one other =>
      ∃ first second, one = .client first ∧ other = .client second ∧
        compare first second = .lt := by
    rw [List.pairwise_map]
    exact roster.ascending.imp fun less => ⟨_, _, rfl, rfl, less⟩
  rw [← roster.ids, List.pairwise_map] at ordered
  exact ordered

theorem Steady.claims (steady : Steady directory) (named : handle.id = .client client)
    (ready : directory.isReady handle = true) :
    directory.claims handle key = true ↔
      client = key ∨ ∃ record, directory.KeepsLease handle key record := by
  unfold isReady at ready
  split at ready
  · rename_i partition here
    have present : directory.store? handle = some partition.store := by simp [store?, here]
    have label : partition.store.id = handle.id := steady.labelled.store present
    exact claims_iff present (label.trans named)
  · cases ready

theorem mem_ownerCandidates (steady : Steady directory) (apart : directory.isolated = true) :
    handle ∈ directory.ownerCandidates ↔ ∃ client, handle.id = .client client ∧
      directory.isReady handle = true ∧ directory.Admits client := by
  rw [ownerCandidates, if_pos apart, List.mem_filter, mem_readyClients steady]
  constructor
  · rintro ⟨⟨⟨client, named⟩, ready⟩, admitted⟩
    exact ⟨client, named, ready, (mayOwn_iff named).mp admitted⟩
  · rintro ⟨client, named, ready, admitted⟩
    exact ⟨⟨⟨client, named⟩, ready⟩, (mayOwn_iff named).mpr admitted⟩

theorem eligible_iff (steady : Steady directory) (apart : directory.isolated = true) :
    directory.Eligible key client ↔ ∃ handle ∈ directory.ownerCandidates,
      handle.id = .client client ∧ directory.claims handle key = true := by
  constructor
  · rintro ⟨admitted, handle, named, ready, claim⟩
    exact ⟨handle, (mem_ownerCandidates steady apart).mpr ⟨client, named, ready, admitted⟩, named,
      (steady.claims named ready).mpr claim⟩
  · rintro ⟨handle, candidate, named, claimed⟩
    obtain ⟨again, same, ready, admitted⟩ := (mem_ownerCandidates steady apart).mp candidate
    obtain rfl : again = client := PartitionId.client.inj (same.symm.trans named)
    exact ⟨admitted, handle, named, ready, (steady.claims named ready).mp claimed⟩

theorem isolated_of_findOwner (found : directory.findOwner key = some handle) :
    directory.isolated = true := by
  by_contra together
  simp [findOwner, ownerCandidates, together] at found

theorem findOwner_eq_some (steady : Steady directory)
    (found : directory.findOwner key = some handle) :
    ∃ client, handle.id = .client client ∧ directory.isReady handle = true ∧
      directory.Eligible key client ∧
      ∀ other, directory.Eligible key other → other = client ∨ compare client other = .lt := by
  have apart := isolated_of_findOwner found
  have candidate := List.mem_of_find?_eq_some found
  have claimed : directory.claims handle key = true := by simpa using List.find?_some found
  obtain ⟨client, named, ready, -⟩ := (mem_ownerCandidates steady apart).mp candidate
  refine ⟨client, named, ready, (eligible_iff steady apart).mpr ⟨handle, candidate, named, claimed⟩,
    fun other eligible => ?_⟩
  obtain ⟨another, candidate, owned, claimed⟩ := (eligible_iff steady apart).mp eligible
  obtain ⟨clients, roster⟩ := steady.roster
  have ordered : directory.ownerCandidates.Pairwise Precedes := by
    rw [ownerCandidates, if_pos apart]
    exact roster.precedes.sublist List.filter_sublist
  rcases first_of_find? ordered found another candidate claimed with rfl | precedes
  · exact Or.inl (PartitionId.client.inj (owned.symm.trans named))
  · obtain ⟨first, second, one, two, less⟩ := precedes
    obtain rfl : first = client := PartitionId.client.inj (one.symm.trans named)
    obtain rfl : second = other := PartitionId.client.inj (two.symm.trans owned)
    exact Or.inr less

theorem findOwner_eq_none (steady : Steady directory) (apart : directory.isolated = true) :
    directory.findOwner key = none ↔ ∀ client, ¬directory.Eligible key client := by
  rw [findOwner, List.find?_eq_none]
  constructor
  · intro unclaimed client eligible
    obtain ⟨handle, candidate, -, claimed⟩ := (eligible_iff steady apart).mp eligible
    exact unclaimed handle candidate claimed
  · intro nobody handle candidate claimed
    obtain ⟨client, named, -⟩ := (mem_ownerCandidates steady apart).mp candidate
    exact nobody client ((eligible_iff steady apart).mpr ⟨handle, candidate, named, claimed⟩)

theorem ownerOf_eq_some (steady : Steady directory) (apart : directory.isolated = true)
    {id : PartitionId} :
    directory.ownerOf key = some id ↔ ∃ client, id = .client client ∧
      directory.Eligible key client ∧
      ∀ other, directory.Eligible key other → other = client ∨ compare client other = .lt := by
  constructor
  · intro owned
    obtain ⟨handle, found, rfl⟩ := Option.map_eq_some_iff.mp owned
    obtain ⟨client, named, -, eligible, least⟩ := findOwner_eq_some steady found
    exact ⟨client, named, eligible, least⟩
  · rintro ⟨client, rfl, eligible, least⟩
    cases found : directory.findOwner key with
    | none => exact absurd eligible ((findOwner_eq_none steady apart).mp found client)
    | some handle =>
      obtain ⟨owner, named, -, claims, first⟩ := findOwner_eq_some steady found
      rw [ownerOf, found, Option.map_some, named]
      -- Neither of two least clients comes before the other.
      rcases least owner claims with rfl | before
      · rfl
      · rcases first client eligible with rfl | after
        · rfl
        · exact absurd after (Std.OrientedCmp.not_lt_of_lt before)

theorem findLease_agrees (steady : Steady directory) :
    (directory.findLease key).1 = directory.lookupLeaseIn key (directory.ownerOf key) := by
  cases found : directory.findOwner key with
  | none => simp [findLease, ownerOf, found, lookupLeaseIn]
  | some handle =>
    have apart := isolated_of_findOwner found
    obtain ⟨client, named, ready, -⟩ := findOwner_eq_some steady found
    obtain ⟨id, generation⟩ := handle
    obtain rfl : id = .client client := named
    have stands : directory.existing? (.client client) = some ⟨.client client, generation⟩ := by
      simp [existing?, apart, steady.tracked ready, ready]
    simp [findLease, ownerOf, found, lookupLeaseIn, stands]

/-- Whose a key is, and what a lookup under it by unknown owner finds and counts. -/
structure Attributed (directory : Directory MemoryFactory MemoryStore γ) (key : Hash) : Prop where
  together : directory.isolated = false → directory.ownerOf key = none
  owner : directory.isolated = true → ∀ id, directory.ownerOf key = some id ↔
    ∃ client, id = .client client ∧ directory.Eligible key client ∧
      ∀ other, directory.Eligible key other → other = client ∨ compare client other = .lt
  nobody : directory.isolated = true →
    (directory.ownerOf key = none ↔ ∀ client, ¬directory.Eligible key client)
  agree : (directory.findLease key).1 = directory.lookupLeaseIn key (directory.ownerOf key)
  source : ∀ record, (directory.findLease key).1 = some record →
    directory.KeepsLease (wellKnown .main) key record ∨
      directory.isolated = true ∧ ∃ client handle, handle.id = .client client ∧
        directory.isReady handle = true ∧ directory.Admits client ∧
          directory.KeepsLease handle key record
  counted : ∃ outcome,
    (outcome = .client ↔ directory.ownerOf key ≠ none) ∧
    (outcome = .main ↔ directory.ownerOf key = none ∧
      ∃ record, directory.KeepsLease (wellKnown .main) key record) ∧
    (directory.findLease key).2 = directory.countOne (.ownerLookups outcome) ∧
    ∀ other, (directory.findLease key).2.metrics.getD (.ownerLookups other) 0 =
      directory.metrics.getD (.ownerLookups other) 0 + if other = outcome then 1 else 0

theorem findLease_of_owner (found : directory.findOwner key = some handle) :
    directory.findLease key =
      (directory.lookupLease handle key, directory.countOne (.ownerLookups .client)) := by
  simp [findLease, found]

theorem findLease_of_nobody (nobody : directory.findOwner key = none) :
    directory.findLease key =
      (directory.lookupLease (wellKnown .main) key,
        directory.countOne (.ownerLookups
          (if (directory.lookupLease (wellKnown .main) key).isSome then .main else .miss))) := by
  simp [findLease, nobody]

theorem findLease_source (steady : Steady directory) {record : LeaseSet}
    (found : (directory.findLease key).1 = some record) :
    directory.KeepsLease (wellKnown .main) key record ∨
      directory.isolated = true ∧ ∃ client handle, handle.id = .client client ∧
        directory.isReady handle = true ∧ directory.Admits client ∧
          directory.KeepsLease handle key record := by
  cases owner : directory.findOwner key with
  | none =>
    rw [findLease_of_nobody owner] at found
    exact Or.inl (lookupLease_eq_some.mp found)
  | some handle =>
    rw [findLease_of_owner owner] at found
    obtain ⟨client, named, ready, ⟨admitted, -⟩, -⟩ := findOwner_eq_some steady owner
    exact Or.inr ⟨isolated_of_findOwner owner, client, handle, named, ready, admitted,
      lookupLease_eq_some.mp found⟩

theorem findLease_counted (directory : Directory MemoryFactory MemoryStore γ) (key : Hash) :
    ∃ outcome,
      (outcome = .client ↔ directory.ownerOf key ≠ none) ∧
      (outcome = .main ↔ directory.ownerOf key = none ∧
        ∃ record, directory.KeepsLease (wellKnown .main) key record) ∧
      (directory.findLease key).2 = directory.countOne (.ownerLookups outcome) := by
  cases owner : directory.findOwner key with
  | some handle =>
    refine ⟨.client, ?_, ?_, by rw [findLease_of_owner owner]⟩
    · simp [ownerOf, owner]
    · simp [ownerOf, owner]
  | none =>
    rw [findLease_of_nobody owner]
    cases held : directory.lookupLease (wellKnown .main) key with
    | some record =>
      refine ⟨.main, ?_, ?_, rfl⟩
      · simp [ownerOf, owner]
      · simp only [ownerOf, owner, Option.map_none, true_and, true_iff]
        exact ⟨record, lookupLease_eq_some.mp held⟩
    | none =>
      refine ⟨.miss, ?_, ?_, rfl⟩
      · simp [ownerOf, owner]
      · simp only [reduceCtorEq, false_iff]
        rintro ⟨-, record, kept⟩
        cases held.symm.trans (lookupLease_eq_some.mpr kept)

theorem Steady.attributed (steady : Steady directory) (key : Hash) : Attributed directory key := by
  constructor
  case together =>
    intro together
    simp [ownerOf, findOwner, ownerCandidates, together]
  case owner =>
    intro apart id
    exact ownerOf_eq_some steady apart
  case nobody =>
    intro apart
    rw [← findOwner_eq_none steady apart]
    simp [ownerOf]
  case agree => exact findLease_agrees steady
  case source =>
    intro record found
    exact findLease_source steady found
  case counted =>
    obtain ⟨outcome, client, main, counted⟩ := findLease_counted directory key
    refine ⟨outcome, client, main, counted, fun other => ?_⟩
    rw [counted]
    simp only [countOne, count, Metrics.getD_add, Metric.ownerLookups.injEq]

/-- At every point of every run, as long as nobody waits for ever, the owner of a key is the first
client by hash, among those that are live, with a claim to it, and a lookup by unknown owner is a
lookup in the owner's partition. -/
theorem attributed_throughout {run : Run MemoryFactory MemoryStore Tuning Blinding}
    {habit : Habit MemoryFactory MemoryStore Tuning Blinding} {turns depth : Nat}
    {calls : List (Call Tuning Blinding)} (built : Built run) :
    ∀ point ∈ (run.makeAll (others habit turns depth) calls).outside.points,
      point.state.stuck = false → ∀ key, Attributed point.state key := by
  intro point reached calm key
  exact (built.steady_throughout reached calm).attributed key

def mislaid : List (Call Tuning Blinding) :=
  [.resolve (some (.client newcomer)),
    .insert ⟨.client newcomer, 0⟩ someone (.lease ⟨someone, none, [], 0⟩),
    .findLease someone, .setIsolation false, .findLease someone, .setIsolation true,
    .removeClient newcomer, .findLease someone]

theorem attributed_amid_race :
    (∀ point ∈ (plainRun.makeAll (others eager 0 2) mislaid).outside.points,
      point.state.stuck = false) ∧
    ∀ point ∈ (plainRun.makeAll (others eager 0 2) mislaid).outside.points,
      ∀ key, Attributed point.state key := by
  have calm : ∀ point ∈ (plainRun.makeAll (others eager 0 2) mislaid).outside.points,
      point.state.stuck = false := by decide +kernel
  refine ⟨calm, fun point reached => ?_⟩
  exact attributed_throughout built_plainRun point reached (calm point reached)

end PeerDirectory.Directory

import PeerDirectory.Proofs.Anonymity.Stores
import PeerDirectory.Proofs.Directory.Stopping

namespace PeerDirectory

open Std

variable {mask : Hash → Hash}

structure Partition.Masked (mask : Hash → Hash) (one other : Partition MemoryStore) : Prop where
  store : one.store.Masked mask other.store
  lifecycle : other.lifecycle = one.lifecycle
  locked : other.locked = one.locked

inductive Enumerator.Masked (mask : Hash → Hash) : Enumerator → Enumerator → Prop
  | unrestricted : Masked mask .unrestricted .unrestricted
  | sessions : Masked mask .sessions .sessions
  | chosen {live other : Hash → Bool} (same : ∀ client, other (mask client) = live client) :
    Masked mask (.chosen live) (.chosen other)

/-! ## Lines of the log -/

namespace LogEvent

/-- Lines that show the same, as long as hashes under the mask are shown as they are without. -/
def Masked (mask : Hash → Hash) (one other : LogEvent) : Prop :=
  KeepsShort mask → other.shown = one.shown

theorem masked_of_fields {one other : LogEvent} (level : other.level = one.level)
    (message : other.message = one.message)
    (fields : KeepsShort mask → other.fields = one.fields) : one.Masked mask other := by
  intro kept
  rw [shown, shown, level, message, fields kept]

theorem masked_self (event : LogEvent) : event.Masked mask event := fun _ => rfl

theorem masked_named (line : PartitionId → LogEvent) {level : Level} {message : String}
    (shows : ∀ id, (line id).shown = (level, message, [("partition", id.text)]))
    (id : PartitionId) : (line id).Masked mask (line (id.under mask)) := by
  intro kept
  rw [shows, shows, kept.text]

theorem masked_seeded (id : PartitionId) (count available : Nat) :
    (seeded id count available).Masked mask (seeded (id.under mask) count available) :=
  masked_of_fields rfl rfl fun kept => by
    rw [fields, fields, kept.text]

theorem masked_nothingToTearDown (client : Hash) :
    (nothingToTearDown client).Masked mask (nothingToTearDown (mask client)) :=
  masked_of_fields rfl rfl fun kept => by
    rw [fields, fields, kept.short]

theorem masked_failedToStart (id : PartitionId) {one other : Failure}
    (masked : one.Masked mask other) :
    (failedToStart id one).Masked mask (failedToStart (id.under mask) other) :=
  masked_of_fields rfl rfl fun kept => by
    rw [fields, fields, kept.text, masked kept]

theorem masked_seedRefused (id : PartitionId) (peer : Hash) {one other : Failure}
    (masked : one.Masked mask other) :
    (seedRefused id peer one).Masked mask (seedRefused (id.under mask) (mask peer) other) :=
  masked_of_fields rfl rfl fun kept => by
    rw [fields, fields, kept.text, kept.short, masked kept]

end LogEvent

def MaskedLog (mask : Hash → Hash) (one other : List LogEvent) : Prop :=
  KeepsShort mask → (other.map LogEvent.shown).Perm (one.map LogEvent.shown)

namespace Directory

variable {γ : Type} {tied : γ → γ → Prop} {limit : Nat}

/-- One directory is the other under a mask. Neither chooses more peers than the limit to seed a
partition with; which ones they would choose of too many does not matter. -/
structure Masked (mask : Hash → Hash) (limit : Nat) (tied : γ → γ → Prop)
    (left right : Directory MemoryFactory MemoryStore γ) : Prop where
  apart : Function.Bijective mask
  factory : left.factory.Masked mask right.factory
  partitions : ∀ handle, Option.Rel (Partition.Masked mask) (left.partition? handle)
    (right.partition? (handle.under mask))
  clients : MaskedMap mask (·.under mask) left.clients.partitions right.clients.partitions
  policy : right.policy = left.policy
  closed : right.closed = left.closed
  limit : left.seedPeers = limit
  seedPeers : right.seedPeers = left.seedPeers
  enumerator : left.enumerator.Masked mask right.enumerator
  live : ∀ client, right.live.isLive (mask client) = left.live.isLive client
  metrics : right.metrics = left.metrics
  stuck : right.stuck = left.stuck
  log : MaskedLog mask left.log right.log
  outside : tied left.outside right.outside

namespace Masked

variable {left right : Directory MemoryFactory MemoryStore γ} {handle : Handle} {client : Hash}

/-! ## What directories under a mask agree on -/

theorem partition?_cases (masked : Masked mask limit tied left right) (handle : Handle) :
    (left.partition? handle = none ∧ right.partition? (handle.under mask) = none) ∨
      ∃ one other, left.partition? handle = some one ∧
        right.partition? (handle.under mask) = some other ∧ one.Masked mask other := by
  have related := masked.partitions handle
  generalize left.partition? handle = here at *
  generalize right.partition? (handle.under mask) = there at *
  cases related with
  | none => exact Or.inl ⟨rfl, rfl⟩
  | some counterpart => exact Or.inr ⟨_, _, rfl, rfl, counterpart⟩

theorem store?_cases (masked : Masked mask limit tied left right) (handle : Handle) :
    (left.store? handle = none ∧ right.store? (handle.under mask) = none) ∨
      ∃ one other, left.store? handle = some one ∧
        right.store? (handle.under mask) = some other ∧ one.Masked mask other := by
  rcases masked.partition?_cases handle with ⟨here, there⟩ | ⟨one, other, here, there, partition⟩
  · exact Or.inl ⟨by rw [store?, here]; rfl, by rw [store?, there]; rfl⟩
  · exact Or.inr ⟨one.store, other.store, by rw [store?, here]; rfl, by rw [store?, there]; rfl,
      partition.store⟩

theorem isolated (masked : Masked mask limit tied left right) : right.isolated = left.isolated :=
  congrArg IsolationPolicy.enabled masked.policy

theorem tracked? (masked : Masked mask limit tied left right) (client : Hash) :
    right.tracked? (mask client) = (left.tracked? client).map (·.under mask) :=
  masked.clients client

theorem tracked?_cases (masked : Masked mask limit tied left right) (client : Hash) :
    (left.tracked? client = none ∧ right.tracked? (mask client) = none) ∨
      ∃ handle, left.tracked? client = some handle ∧
        right.tracked? (mask client) = some (handle.under mask) := by
  rw [masked.tracked?]
  cases left.tracked? client with
  | none => exact Or.inl ⟨rfl, rfl⟩
  | some handle => exact Or.inr ⟨handle, rfl, rfl⟩

theorem tracked?_iff (masked : Masked mask limit tied left right) :
    right.tracked? (mask client) = some (handle.under mask) ↔
      left.tracked? client = some handle := by
  rw [masked.tracked?]
  cases left.tracked? client with
  | none => simp
  | some other => simp [(Handle.under_injective masked.apart.injective).eq_iff]

theorem isReady (masked : Masked mask limit tied left right) (handle : Handle) :
    right.isReady (handle.under mask) = left.isReady handle := by
  rw [Directory.isReady, Directory.isReady]
  rcases masked.partition?_cases handle with ⟨here, there⟩ | ⟨one, other, here, there, partition⟩
  · rw [here, there]
  · simp only [here, there, partition.lifecycle]

theorem upright (masked : Masked mask limit tied left right) (handle : Handle) :
    right.upright (handle.under mask) = left.upright handle := by
  rw [Directory.upright, Directory.upright]
  rcases masked.partition?_cases handle with ⟨here, there⟩ | ⟨one, other, here, there, partition⟩
  · rw [here, there]
  · simp only [here, there, Option.any_some, Partition.upright, partition.lifecycle,
      partition.locked]

theorem held (masked : Masked mask limit tied left right) (handle : Handle) :
    right.held (handle.under mask) = left.held handle := by
  rw [Directory.held, Directory.held]
  rcases masked.partition?_cases handle with ⟨here, there⟩ | ⟨one, other, here, there, partition⟩
  · rw [here, there]
  · simp only [here, there, Option.any_some, partition.locked]

theorem next (masked : Masked mask limit tied left right) (id : PartitionId) :
    right.partitions.next (id.under mask) = (left.partitions.next id).under mask := by
  have length : (right.partitions.all (id.under mask)).length =
      (left.partitions.all id).length := by
    have absent (generation : Nat) :
        (right.partitions.all (id.under mask))[generation]? = none ↔
          (left.partitions.all id)[generation]? = none := by
      rcases masked.partition?_cases ⟨id, generation⟩ with ⟨here, there⟩ | ⟨one, other, here, there, -⟩
      · exact iff_of_true there here
      · have here : (left.partitions.all id)[generation]? = some one := here
        have there : (right.partitions.all (id.under mask))[generation]? = some other := there
        simp [here, there]
    simp only [List.getElem?_eq_none_iff] at absent
    exact Nat.le_antisymm ((absent _).mpr (Nat.le_refl _)) ((absent _).mp (Nat.le_refl _))
  simp only [Registry.next, Handle.under, length]

theorem ask {α : Type} (masked : Masked mask limit tied left right) (agree : α → α → Prop)
    {absent : α} {question again : MemoryStore → α} (handle : Handle)
    (lacking : agree absent absent)
    (found : ∀ {one other : MemoryStore}, one.Masked mask other →
      agree (question one) (again other)) :
    agree (left.ask handle absent question) (right.ask (handle.under mask) absent again) := by
  rw [Directory.ask, Directory.ask]
  rcases masked.store?_cases handle with ⟨here, there⟩ | ⟨one, other, here, there, store⟩
  · rw [here, there]
    exact lacking
  · rw [here, there]
    exact found store

theorem lookup (masked : Masked mask limit tied left right) (handle : Handle) (key : Hash) :
    right.lookup (handle.under mask) (mask key) = (left.lookup handle key).map (·.under mask) :=
  masked.ask (fun one other : Option Entry => other = one.map (·.under mask)) handle rfl
    fun store => store.lookup key

theorem lookupRouter (masked : Masked mask limit tied left right) (handle : Handle) (key : Hash) :
    right.lookupRouter (handle.under mask) (mask key) =
      (left.lookupRouter handle key).map (·.under mask) := by
  rw [Directory.lookupRouter, Directory.lookupRouter, masked.lookup]
  rcases left.lookup handle key with _ | entry
  · rfl
  · cases entry <;> rfl

theorem lookupLease (masked : Masked mask limit tied left right) (handle : Handle) (key : Hash) :
    right.lookupLease (handle.under mask) (mask key) =
      (left.lookupLease handle key).map (·.under mask) := by
  rw [Directory.lookupLease, Directory.lookupLease, masked.lookup]
  rcases left.lookup handle key with _ | entry
  · rfl
  · cases entry <;> rfl

theorem claims (masked : Masked mask limit tied left right) (handle : Handle) (key : Hash) :
    right.claims (handle.under mask) (mask key) = left.claims handle key :=
  masked.ask (fun one other : Bool => other = one) handle rfl
    fun store => store.claims masked.apart.injective key

theorem floodfillPeers (masked : Masked mask limit tied left right) (handle : Handle) :
    (right.floodfillPeers (handle.under mask)).Perm ((left.floodfillPeers handle).map mask) :=
  masked.ask (fun one other : List Hash => other.Perm (one.map mask)) handle .nil
    fun store => store.floodfillPeers masked.apart

/-! ## Ready clients -/

theorem listed (masked : Masked mask limit tied left right) :
    right.clients.handles.Perm (left.clients.handles.map (·.under mask)) := by
  have clients := (masked.clients.toList masked.apart).map (·.2)
  rw [List.map_map] at clients
  rw [Clients.handles, Clients.handles, List.map_map]
  exact clients

theorem readyClients (masked : Masked mask limit tied left right) :
    right.readyClients.Perm (left.readyClients.map (·.under mask)) := by
  rw [Directory.readyClients, Directory.readyClients]
  exact (masked.listed.filter _).trans (.of_eq (filter_map_of_eq masked.isReady _))

theorem mayOwn (masked : Masked mask limit tied left right) (handle : Handle) :
    right.mayOwn (handle.under mask) = left.mayOwn handle := by
  have enumerators := masked.enumerator
  unfold Directory.mayOwn
  generalize left.enumerator = one at *
  generalize right.enumerator = other at *
  obtain ⟨id, generation⟩ := handle
  cases enumerators with
  | unrestricted => rfl
  | sessions =>
    cases id with
    | wellKnown role => rfl
    | client client => exact masked.live client
  | chosen same =>
    cases id with
    | wellKnown role => rfl
    | client client => exact same client

theorem ownerCandidates (masked : Masked mask limit tied left right) :
    right.ownerCandidates.Perm (left.ownerCandidates.map (·.under mask)) := by
  unfold Directory.ownerCandidates
  rw [masked.isolated]
  split
  · exact (masked.readyClients.filter _).trans (.of_eq (filter_map_of_eq masked.mayOwn _))
  · exact .nil

theorem findOwner_isSome (masked : Masked mask limit tied left right) (key : Hash) :
    (right.findOwner (mask key)).isSome = (left.findOwner key).isSome := by
  rw [Bool.eq_iff_iff, Directory.findOwner, Directory.findOwner, List.find?_isSome,
    List.find?_isSome]
  simp only [masked.ownerCandidates.mem_iff, List.mem_map]
  constructor
  · rintro ⟨_, ⟨handle, member, rfl⟩, claimed⟩
    exact ⟨handle, member, (masked.claims handle key).symm.trans claimed⟩
  · rintro ⟨handle, member, claimed⟩
    exact ⟨_, ⟨handle, member, rfl⟩, (masked.claims handle key).trans claimed⟩

/-! ## Statistics -/

theorem partitionStats (masked : Masked mask limit tied left right) (role : WellKnown) :
    right.partitionStats (wellKnown role) = left.partitionStats (wellKnown role) := by
  have peers := (masked.floodfillPeers (wellKnown role)).length_eq
  rw [List.length_map, under_wellKnown] at peers
  have routers : (right.routers (wellKnown role)).length = (left.routers (wellKnown role)).length :=
    masked.ask (fun one other : List Router => other.length = one.length) (wellKnown role) rfl
      fun store => store.length_knownRouters masked.apart
  have leaseSets : (right.leaseSets (wellKnown role)).length =
      (left.leaseSets (wellKnown role)).length :=
    masked.ask (fun one other : List LeaseSet => other.length = one.length) (wellKnown role) rfl
      fun store => store.length_knownLeaseSets masked.apart
  have initialized : right.storeInitialized (wellKnown role) =
      left.storeInitialized (wellKnown role) :=
    masked.ask (fun one other : Bool => other = one) (wellKnown role) rfl
      fun store => store.isInitialized
  simp only [Directory.partitionStats, peers, routers, leaseSets, initialized]

theorem stats (masked : Masked mask limit tied left right) : right.stats = left.stats := by
  have clients : right.clientIds.length = left.clientIds.length := by
    unfold clientIds
    rw [masked.isolated]
    split
    · rw [List.length_map, List.length_map, masked.readyClients.length_eq, List.length_map]
    · rfl
  simp only [Directory.stats, masked.isolated, masked.partitionStats, clients]

/-! ## Single changes -/

theorem note (masked : Masked mask limit tied left right) {one other : LogEvent}
    (event : one.Masked mask other) :
    Masked mask limit tied (left.note one) (right.note other) := by
  refine { masked with log := fun kept => ?_ }
  have shown := (masked.log kept).cons other.shown
  rw [event kept] at shown
  simpa [Directory.note, event kept] using shown

theorem count (masked : Masked mask limit tied left right) (metric : Metric) (amount : Nat) :
    Masked mask limit tied (left.count metric amount) (right.count metric amount) :=
  { masked with metrics := congrArg (·.add metric amount) masked.metrics }

theorem countOne (masked : Masked mask limit tied left right) (metric : Metric) :
    Masked mask limit tied (left.countOne metric) (right.countOne metric) :=
  masked.count metric 1

theorem wait (masked : Masked mask limit tied left right) :
    Masked mask limit tied left.wait right.wait :=
  { masked with stuck := rfl }

theorem modify (masked : Masked mask limit tied left right) (handle : Handle)
    {change again : Partition MemoryStore → Partition MemoryStore}
    (changed : ∀ one other, left.partition? handle = some one →
      right.partition? (handle.under mask) = some other → one.Masked mask other →
        (change one).Masked mask (again other)) :
    Masked mask limit tied (left.modify handle change) (right.modify (handle.under mask) again) := by
  refine { masked with partitions := fun another => ?_ }
  rw [partition?_modify, partition?_modify]
  by_cases same : another = handle
  · subst same
    rw [if_pos rfl, if_pos rfl]
    rcases masked.partition?_cases another with ⟨here, there⟩ | ⟨one, other, here, there, partition⟩
    · rw [here, there]
      exact .none
    · rw [here, there]
      exact .some (changed one other here there partition)
  · rw [if_neg same, if_neg ((Handle.under_injective masked.apart.injective).ne same)]
    exact masked.partitions another

theorem setLifecycle (masked : Masked mask limit tied left right) (handle : Handle)
    (lifecycle : Lifecycle) :
    Masked mask limit tied (left.setLifecycle handle lifecycle)
      (right.setLifecycle (handle.under mask) lifecycle) :=
  masked.modify handle fun _ _ _ _ partition => { partition with lifecycle := rfl }

theorem setLocked (masked : Masked mask limit tied left right) (handle : Handle)
    (locked : Bool) :
    Masked mask limit tied (left.setLocked handle locked)
      (right.setLocked (handle.under mask) locked) :=
  masked.modify handle fun _ _ _ _ partition => { partition with locked := rfl }

theorem setStore (masked : Masked mask limit tied left right) (handle : Handle)
    {one other : MemoryStore} (store : one.Masked mask other) :
    Masked mask limit tied (left.setStore handle one) (right.setStore (handle.under mask) other) :=
  masked.modify handle fun _ _ _ _ partition => { partition with store }

theorem track (masked : Masked mask limit tied left right) (own : handle.id = .client client)
    (again : (handle.under mask).id = .client (mask client)) :
    Masked mask limit tied { left with clients := left.clients.insert client handle own }
      { right with clients := right.clients.insert (mask client) (handle.under mask) again } :=
  { masked with clients := masked.clients.insert masked.apart.injective client handle }

theorem untrack (masked : Masked mask limit tied left right) (client : Hash) :
    Masked mask limit tied { left with clients := left.clients.erase client }
      { right with clients := right.clients.erase (mask client) } :=
  { masked with clients := masked.clients.erase masked.apart.injective client }

theorem session (masked : Masked mask limit tied left right) (client : Hash) (opened : Bool) :
    Masked mask limit tied
      { left with
        live := if opened then left.live.add client else (left.live.remove client).2 }
      { right with
        live := if opened then right.live.add (mask client)
          else (right.live.remove (mask client)).2 } := by
  refine { masked with live := fun other => ?_ }
  have live : right.live.clients.contains (mask other) = left.live.clients.contains other :=
    masked.live other
  cases opened <;>
    simp [LiveClients.isLive, LiveClients.add, LiveClients.remove, ExtTreeSet.contains_insert,
      ExtTreeSet.contains_erase, bne, compare_injective masked.apart.injective, live]

theorem construct (masked : Masked mask limit tied left right) (id : PartitionId) :
    Masked mask limit tied
      { left with
        factory := (StoreFactory.make left.factory id).2
        partitions := left.partitions.add id
          ⟨(StoreFactory.make left.factory id).1, .creating, false⟩ }
      { right with
        factory := (StoreFactory.make right.factory (id.under mask)).2
        partitions := right.partitions.add (id.under mask)
          ⟨(StoreFactory.make right.factory (id.under mask)).1, .creating, false⟩ } := by
  refine { masked with factory := masked.factory, partitions := fun handle => ?_ }
  have next := masked.next id
  simp only [partition?, Registry.get?_add, next,
    (Handle.under_injective masked.apart.injective).eq_iff]
  split
  · exact .some ⟨masked.factory.fresh masked.apart.injective id, rfl, rfl⟩
  · exact masked.partitions handle

end Masked

end Directory

end PeerDirectory

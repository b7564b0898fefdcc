import PeerDirectory.Proofs.Directory.State

namespace PeerDirectory

open Std

namespace MemoryStore

variable (store : MemoryStore)

theorem mem_knownRouters {router : Router} :
    router ∈ store.knownRouters ↔ ∃ key : Hash, store.routers[key]? = some router := by
  simp [knownRouters, mem_distinct]

theorem mem_knownLeaseSets {record : LeaseSet} :
    record ∈ store.knownLeaseSets ↔ ∃ key : Hash, store.leaseSets[key]? = some record := by
  simp [knownLeaseSets, mem_distinct]

theorem mem_allBlindings {data : Blinding} :
    data ∈ store.allBlindings ↔ ∃ key : SigningKey, store.blindings[key]? = some data := by
  simp [allBlindings]

theorem mem_floodfillPeers {key : Hash} :
    key ∈ store.floodfillPeers ↔
      ∃ router, store.routers[key]? = some router ∧ router.floodfill = true := by
  simp [floodfillPeers]

theorem lease_lookup (key : Hash) :
    (store.lookup key).bind Entry.lease? = store.leaseSets[key]? := by
  unfold lookup
  cases store.leaseSets[key]? with
  | some record => rfl
  | none => cases store.routers[key]? <;> rfl

end MemoryStore

namespace Directory

variable {φ γ : Type} {directory : Directory φ MemoryStore γ} {handle : Handle}

def KeepsRouter (directory : Directory φ MemoryStore γ) (handle : Handle) (key : Hash)
    (router : Router) : Prop :=
  ∃ store, directory.store? handle = some store ∧ store.routers[key]? = some router

def KeepsLease (directory : Directory φ MemoryStore γ) (handle : Handle) (key : Hash)
    (record : LeaseSet) : Prop :=
  ∃ store, directory.store? handle = some store ∧ store.leaseSets[key]? = some record

def KeepsBlinding (directory : Directory φ MemoryStore γ) (handle : Handle) (key : SigningKey)
    (data : Blinding) : Prop :=
  ∃ store, directory.store? handle = some store ∧ store.blindings[key]? = some data

theorem mem_ask {σ κ α : Type} {directory : Directory φ σ γ} {question : σ → List α}
    {value : α} {held : σ → κ → Prop}
    (known : ∀ store, value ∈ question store ↔ ∃ key, held store key) :
    value ∈ directory.ask handle [] question ↔
      ∃ key store, directory.store? handle = some store ∧ held store key := by
  unfold ask
  cases directory.store? handle with
  | none => simp
  | some store => simpa using known store

theorem mem_routers {router : Router} :
    router ∈ directory.routers handle ↔ ∃ key, directory.KeepsRouter handle key router :=
  mem_ask fun store : MemoryStore => store.mem_knownRouters

theorem mem_leaseSets {record : LeaseSet} :
    record ∈ directory.leaseSets handle ↔ ∃ key, directory.KeepsLease handle key record :=
  mem_ask fun store : MemoryStore => store.mem_knownLeaseSets

theorem mem_blindings {data : Blinding} :
    data ∈ directory.blindings handle ↔ ∃ key, directory.KeepsBlinding handle key data :=
  mem_ask fun store : MemoryStore => store.mem_allBlindings

theorem mem_floodfillPeers {key : Hash} :
    key ∈ directory.floodfillPeers handle ↔
      ∃ router, directory.KeepsRouter handle key router ∧ router.floodfill = true := by
  have listed : key ∈ directory.floodfillPeers handle ↔ ∃ router store,
      directory.store? handle = some store ∧
        (store.routers[key]? = some router ∧ router.floodfill = true) :=
    mem_ask fun store : MemoryStore => store.mem_floodfillPeers
  rw [listed]
  simp only [KeepsRouter, ← exists_and_right, and_assoc]

theorem lookupLease_eq_some {key : Hash} {record : LeaseSet} :
    directory.lookupLease handle key = some record ↔ directory.KeepsLease handle key record := by
  unfold lookupLease lookup ask KeepsLease
  cases directory.store? handle with
  | none => simp
  | some store => simp [PartitionStore.lookup, store.lease_lookup key]

theorem lookupRouter_eq_some {key : Hash} {router : Router} :
    directory.lookupRouter handle key = some router ↔
      directory.lookupLease handle key = none ∧ directory.KeepsRouter handle key router := by
  unfold lookupRouter lookupLease lookup ask KeepsRouter
  cases directory.store? handle with
  | none => simp
  | some store =>
    simp only [PartitionStore.lookup, MemoryStore.lookup]
    cases store.leaseSets[key]? with
    | some record => simp [Entry.router?, Entry.lease?]
    | none => cases held : store.routers[key]? <;> simp [Entry.router?, Entry.lease?, held]

theorem keepsRouter_unique {key : Hash} {one other : Router}
    (kept : directory.KeepsRouter handle key one) (again : directory.KeepsRouter handle key other) :
    one = other := by
  obtain ⟨store, present, held⟩ := kept
  obtain ⟨same, here, also⟩ := again
  obtain rfl := Option.some.inj (present.symm.trans here)
  exact Option.some.inj (held.symm.trans also)

theorem blindingIn_eq_some {key : SigningKey} {data : Blinding} :
    directory.blindingIn handle key = some data ↔ directory.KeepsBlinding handle key data := by
  unfold blindingIn ask KeepsBlinding
  cases directory.store? handle with
  | none => simp
  | some store => simp [PartitionStore.blinding?, MemoryStore.blinding?]

theorem claims_iff {store : MemoryStore} {client key : Hash}
    (present : directory.store? handle = some store) (label : store.id = .client client) :
    directory.claims handle key = true ↔
      client = key ∨ ∃ record, directory.KeepsLease handle key record := by
  have held : (∃ record, directory.KeepsLease handle key record) ↔ key ∈ store.leaseSets := by
    rw [ExtTreeMap.mem_iff_isSome_getElem?, Option.isSome_iff_exists]
    simp only [KeepsLease, present, Option.some.injEq, exists_eq_left']
  rw [held]
  simp [claims, ask, present, PartitionStore.claims, MemoryStore.claims, label,
    PartitionId.destination?]

end Directory

end PeerDirectory

import PeerDirectory.Proofs.Directory.Holdings
import PeerDirectory.Proofs.Directory.Shape

namespace PeerDirectory

open Std

namespace MemoryStore

variable (store : MemoryStore)

def refusal? (key : Hash) : Option Failure :=
  if key ∈ store.refused then some (.store ("refused " ++ key.short))
  else if store.stopped then some (.storeShutDown store.id)
  else none

theorem insert_eq (key : Hash) (entry : Entry) :
    store.insert key entry =
      match store.refusal? key with
      | some failure => (.error failure, store)
      | none => (.ok (), store.put key entry) := by
  unfold insert refusal?
  split
  · rfl
  · split <;> rfl

def welcome (routers : List (Hash × Router)) : List (Hash × Router) :=
  routers.filter fun item => (store.refusal? item.1).isNone

def plant (routers : List (Hash × Router)) : MemoryStore :=
  { store with
    routers := routers.foldl (fun held item => held.insert item.1 item.2) store.routers }

theorem welcome_put (key : Hash) (router : Router) (routers : List (Hash × Router)) :
    (store.put key (.router router)).welcome routers = store.welcome routers := rfl

theorem plant_cons (item : Hash × Router) (routers : List (Hash × Router)) :
    store.plant (item :: routers) = (store.put item.1 (.router item.2)).plant routers := rfl

theorem routers_plant_cases {routers : List (Hash × Router)} {key : Hash} {router : Router}
    (held : (store.plant routers).routers[key]? = some router) :
    (key, router) ∈ routers ∨ store.routers[key]? = some router := by
  induction routers generalizing store with
  | nil => exact Or.inr held
  | cons item rest ih =>
    rw [plant_cons] at held
    rcases ih _ held with later | before
    · exact Or.inl (List.mem_cons_of_mem _ later)
    · simp only [put, ExtTreeMap.getElem?_insert] at before
      split at before
      · rename_i same
        obtain rfl := LawfulEqOrd.eq_of_compare same
        obtain rfl := Option.some.inj before
        exact Or.inl List.mem_cons_self
      · exact Or.inr before

end MemoryStore

namespace Directory

variable {φ γ : Type} {directory : Directory φ MemoryStore γ} {handle : Handle}
  {store : MemoryStore}

def seeds (directory : Directory φ MemoryStore γ) (peers : List Hash) : List (Hash × Router) :=
  peers.filterMap fun peer =>
    (directory.lookupRouter (wellKnown .main) peer).map fun router => (peer, router)

def unplanted? (id : PartitionId) (store : MemoryStore) (item : Hash × Router) :
    Option LogEvent :=
  (store.refusal? item.1).map fun failure => .seedRefused id item.1 failure

theorem store?_setStore {σ : Type} {directory : Directory φ σ γ} {store next : σ}
    (present : directory.store? handle = some store) :
    (directory.setStore handle next).store? handle = some next := by
  obtain ⟨partition, here, -⟩ := Option.map_eq_some_iff.mp present
  simp [store?, setStore, partition?_modify, here]

theorem store?_setStore_of_ne {σ : Type} {directory : Directory φ σ γ} {other : Handle}
    (apart : other ≠ handle) (next : σ) :
    (directory.setStore handle next).store? other = directory.store? other := by
  simp [store?, setStore, partition?_modify, apart]

theorem setStore_setStore {σ : Type} (directory : Directory φ σ γ) (first second : σ) :
    (directory.setStore handle first).setStore handle second =
      directory.setStore handle second := by
  simp only [setStore, modify, Registry.modify_modify]

theorem lookupRouter_setStore {σ : Type} [PartitionStore σ] {directory : Directory φ σ γ}
    {other : Handle} (apart : other ≠ handle) (next : σ) (key : Hash) :
    (directory.setStore handle next).lookupRouter other key = directory.lookupRouter other key := by
  simp only [lookupRouter, lookup, ask, store?_setStore_of_ne apart]

theorem seedPeers_eq (apart : wellKnown .main ≠ handle)
    (present : directory.store? handle = some store) (count : Nat) (peers : List Hash) :
    peers.foldl (seedPeer handle) (count, directory) =
      (count + (store.welcome (directory.seeds peers)).length,
        { directory.setStore handle (store.plant (store.welcome (directory.seeds peers))) with
          log := ((directory.seeds peers).filterMap (unplanted? handle.id store)).reverse ++
            directory.log }) := by
  induction peers generalizing count directory store with
  | nil =>
    have same : directory.setStore handle store = directory := setStore_self present
    exact congrArg (Prod.mk count) same.symm
  | cons peer rest ih =>
    rw [List.foldl_cons, seedPeer]
    cases offered : directory.lookupRouter (wellKnown .main) peer with
    | none =>
      have skipped : directory.seeds (peer :: rest) = directory.seeds rest := by
        simp [seeds, offered]
      rw [skipped]
      exact ih present count
    | some router =>
      have taken : directory.seeds (peer :: rest) = (peer, router) :: directory.seeds rest := by
        simp [seeds, offered]
      rw [taken]
      simp only [insert, present, PartitionStore.insert, store.insert_eq]
      cases refused : store.refusal? peer with
      | some failure =>
        have noted (event : LogEvent) : (directory.note event).seeds rest =
            directory.seeds rest := rfl
        simp only [setStore_self present]
        rw [@ih (directory.note _) store present count, noted]
        simp [MemoryStore.welcome, unplanted?, refused, note, setStore, modify]
      | none =>
        have planted : (directory.setStore handle (store.put peer (.router router))).store? handle =
            some (store.put peer (.router router)) := store?_setStore present
        rw [ih planted (count + 1), setStore_setStore]
        have still : (directory.setStore handle (store.put peer (.router router))).seeds rest =
            directory.seeds rest := by
          simp only [seeds, lookupRouter_setStore apart]
        rw [still, store.welcome_put]
        simp only [MemoryStore.welcome, refused, Option.isNone_none, List.filter_cons_of_pos,
          List.length_cons, store.plant_cons, unplanted?, Option.map_none, List.filterMap_cons_none,
          Prod.mk.injEq]
        exact ⟨by omega, rfl⟩

theorem keepsRouter_of_seed {key : Hash} {router : Router}
    (listed : key ∈ directory.floodfillPeers (wellKnown .main))
    (given : directory.lookupRouter (wellKnown .main) key = some router) :
    directory.KeepsRouter (wellKnown .main) key router ∧ router.floodfill = true := by
  obtain ⟨-, kept⟩ := lookupRouter_eq_some.mp given
  obtain ⟨known, also, flooding⟩ := mem_floodfillPeers.mp listed
  obtain rfl := keepsRouter_unique kept also
  exact ⟨kept, flooding⟩

end Directory

end PeerDirectory

import PeerDirectory.Proofs.Directory.Sowing

namespace PeerDirectory

open Std

structure Entries where
  routers : ExtTreeMap Hash Router
  leaseSets : ExtTreeMap Hash LeaseSet

namespace Entries

def put (entries : Entries) (key : Hash) : Entry → Entries
  | .router descriptor => { entries with routers := entries.routers.insert key descriptor }
  | .lease record => { entries with leaseSets := entries.leaseSets.insert key record }

def plant (entries : Entries) (routers : List (Hash × Router)) : Entries :=
  { entries with
    routers := routers.foldl (fun held item => held.insert item.1 item.2) entries.routers }

def Dry (entries : Entries) : Prop :=
  ∀ (key : Hash) (router : Router), entries.routers[key]? = some router → router.floodfill = false

variable (entries : Entries)

theorem leaseSets_put (under key : Hash) (entry : Entry) :
    (entries.put under entry).leaseSets[key]? =
      if under = key ∧ entry.isLease = true then entry.lease? else entries.leaseSets[key]? := by
  cases entry with
  | router descriptor => simp [put, Entry.isLease]
  | lease record => simp [put, Entry.isLease, Entry.lease?, ExtTreeMap.getElem?_insert]

theorem routers_put (under key : Hash) (entry : Entry) :
    (entries.put under entry).routers[key]? =
      if under = key ∧ entry.isLease = false then entry.router? else entries.routers[key]? := by
  cases entry with
  | router descriptor => simp [put, Entry.isLease, Entry.router?, ExtTreeMap.getElem?_insert]
  | lease record => simp [put, Entry.isLease]

theorem routers_plant_of_held {entries : Entries} {key : Hash} {router : Router}
    (held : entries.routers[key]? = some router) (planted : List (Hash × Router)) :
    ∃ kept, (entries.plant planted).routers[key]? = some kept ∧
      (kept = router ∨ (key, kept) ∈ planted) := by
  induction planted generalizing entries router with
  | nil => exact ⟨router, held, Or.inl rfl⟩
  | cons item rest ih =>
    have first : ∃ now, (entries.put item.1 (.router item.2)).routers[key]? = some now ∧
        (now = router ∨ (key, now) = item) := by
      rw [routers_put]
      by_cases same : item.1 = key
      · exact ⟨item.2, by simp [same, Entry.isLease, Entry.router?], Or.inr (by rw [← same])⟩
      · exact ⟨router, by simp [same, held], Or.inl rfl⟩
    obtain ⟨now, present, origin⟩ := first
    obtain ⟨kept, found, either⟩ := ih present
    refine ⟨kept, found, ?_⟩
    rcases either with rfl | later
    · rcases origin with same | rfl
      · exact Or.inl same
      · exact Or.inr List.mem_cons_self
    · exact Or.inr (List.mem_cons_of_mem _ later)

end Entries

namespace MemoryStore

variable (store : MemoryStore)

def entries : Entries := ⟨store.routers, store.leaseSets⟩

@[simp] theorem entries_put (key : Hash) (entry : Entry) :
    (store.put key entry).entries = store.entries.put key entry := by
  cases entry <;> rfl

@[simp] theorem entries_setBlinding (data : Blinding) :
    (store.setBlinding data).2.entries = store.entries := by
  unfold setBlinding
  split <;> rfl

@[simp] theorem entries_startup : store.startup.2.entries = store.entries := by
  obtain ⟨routers, leaseSets, -⟩ := store.startup_holds
  rw [entries, routers, leaseSets, entries]

@[simp] theorem entries_shutdown : store.shutdown.entries = store.entries := rfl

theorem dry_of_floodfillPeers (none : store.floodfillPeers = []) : store.entries.Dry := by
  intro key router held
  cases flooding : router.floodfill with
  | false => rfl
  | true =>
    have listed := store.mem_floodfillPeers.mpr ⟨router, held, flooding⟩
    rw [none] at listed
    cases listed

end MemoryStore

namespace Directory

section Stores

variable {φ γ : Type} {directory : Directory φ MemoryStore γ} {handle : Handle}

def entries? (directory : Directory φ MemoryStore γ) (handle : Handle) : Option Entries :=
  (directory.store? handle).map (·.entries)

theorem keepsRouter_iff {key : Hash} {router : Router} :
    directory.KeepsRouter handle key router ↔
      ∃ held, directory.entries? handle = some held ∧ held.routers[key]? = some router := by
  simp only [KeepsRouter, entries?, Option.map_eq_some_iff, exists_exists_and_eq_and]
  rfl

theorem keepsLease_iff {key : Hash} {record : LeaseSet} :
    directory.KeepsLease handle key record ↔
      ∃ held, directory.entries? handle = some held ∧ held.leaseSets[key]? = some record := by
  simp only [KeepsLease, entries?, Option.map_eq_some_iff, exists_exists_and_eq_and]
  rfl

theorem lookupLease_of_entries {held : Entries} (here : directory.entries? handle = some held)
    (key : Hash) : directory.lookupLease handle key = held.leaseSets[key]? := by
  ext record
  rw [lookupLease_eq_some, keepsLease_iff, here]
  simp

theorem entries?_eq_none : directory.entries? handle = none ↔ directory.stage? handle = none := by
  simp [entries?, stage?, store?]

variable (directory handle)

theorem entries?_modify {change : Partition MemoryStore → Partition MemoryStore}
    (keeps : ∀ partition, (change partition).store = partition.store) :
    (directory.modify handle change).entries? = directory.entries? := by
  funext other
  exact congrArg (Option.map (·.entries)) (store?_modify keeps)

@[simp] theorem entries?_setLifecycle (stage : Lifecycle) :
    (directory.setLifecycle handle stage).entries? = directory.entries? :=
  directory.entries?_modify handle fun _ => rfl

@[simp] theorem entries?_setLocked (locked : Bool) :
    (directory.setLocked handle locked).entries? = directory.entries? :=
  directory.entries?_modify handle fun _ => rfl

variable {directory handle}

theorem entries?_setStore {store : MemoryStore} (present : directory.store? handle = some store)
    (next : MemoryStore) :
    (directory.setStore handle next).entries? =
      Function.update directory.entries? handle (some next.entries) := by
  funext other
  rw [Function.update_apply]
  split
  · rename_i same
    rw [same, entries?, store?_setStore present, Option.map_some]
  · rename_i apart
    rw [entries?, store?_setStore_of_ne apart, entries?]

theorem entries?_setStore_of_same {store next : MemoryStore}
    (present : directory.store? handle = some store) (same : next.entries = store.entries) :
    (directory.setStore handle next).entries? = directory.entries? := by
  rw [entries?_setStore present, same]
  exact Function.update_eq_self_iff.mpr (by rw [entries?, present, Option.map_some])

theorem entries?_insert_of_ok {key : Hash} {entry : Entry}
    (accepted : (directory.insert handle key entry).1 = .ok ()) :
    ∃ held, directory.entries? handle = some held ∧
      (directory.insert handle key entry).2.entries? =
        Function.update directory.entries? handle (some (held.put key entry)) := by
  unfold insert at accepted ⊢
  cases present : directory.store? handle with
  | none => simp [present] at accepted
  | some store =>
    simp only [present, PartitionStore.insert, store.insert_eq] at accepted ⊢
    refine ⟨store.entries, by rw [entries?, present, Option.map_some], ?_⟩
    cases refused : store.refusal? key with
    | some failure => simp [refused] at accepted
    | none => rw [entries?_setStore present, store.entries_put]

theorem entries?_insert_of_error {key : Hash} {entry : Entry}
    (refused : (directory.insert handle key entry).1 ≠ .ok ()) :
    (directory.insert handle key entry).2.entries? = directory.entries? := by
  unfold insert at refused ⊢
  cases present : directory.store? handle with
  | none => rfl
  | some store =>
    simp only [present, PartitionStore.insert, store.insert_eq] at refused ⊢
    cases cause : store.refusal? key with
    | some failure => exact entries?_setStore_of_same present rfl
    | none => simp [cause] at refused

variable (directory handle)

@[simp] theorem entries?_stopStore :
    (directory.stopStore handle).entries? = directory.entries? := by
  unfold stopStore
  cases present : directory.store? handle with
  | none => rfl
  | some store => exact entries?_setStore_of_same present store.entries_shutdown

@[simp] theorem entries?_startStore_quiet (turns : Nat) :
    (directory.startStore (.quiet turns) handle).2.entries? = directory.entries? := by
  simp only [startStore, Surroundings.quiet]
  cases present : directory.store? handle with
  | none => rfl
  | some store => exact entries?_setStore_of_same present store.entries_startup

@[simp] theorem entries?_unregister_quiet (client : Hash) (turns : Nat) :
    (directory.unregister (.quiet turns) client handle).entries? = directory.entries? := by
  unfold unregister
  split <;> rfl

@[simp] theorem entries?_stop : (directory.stop handle).2.entries? = directory.entries? := by
  unfold stop
  cases directory.partition? handle with
  | none => rfl
  | some partition =>
    dsimp only
    split
    · rfl
    · cases partition.lifecycle with
      | shutDown => rfl
      | creating => exact entries?_setLifecycle directory handle .shutDown
      | ready => rw [entries?_setLifecycle, entries?_stopStore]

@[simp] theorem entries?_stopAll (handles : List Handle) (sofar : Nat × Directory φ MemoryStore γ) :
    (handles.foldl stopCounted sofar).2.entries? = sofar.2.entries? := by
  induction handles generalizing sofar with
  | nil => rfl
  | cons handle rest ih =>
    have first : (stopCounted sofar handle).2.entries? = sofar.2.entries? := by
      simp only [stopCounted]
      split
      · exact entries?_stop sofar.2 handle
      · exact entries?_stop sofar.2 handle
    exact (ih _).trans first

@[simp] theorem entries?_setIsolation (enabled : Bool) :
    (directory.setIsolation enabled).entries? = directory.entries? := by
  simp only [setIsolation]
  split <;> rfl

@[simp] theorem entries?_findLease (key : Hash) :
    (directory.findLease key).2.entries? = directory.entries? := by
  rw [findLease_after]
  rfl

theorem entries?_removeClient (client : Hash) (turns : Nat) :
    (directory.removeClient (.quiet turns) client).2.entries? = directory.entries? := by
  unfold removeClient
  cases directory.tracked? client with
  | none => rfl
  | some handle =>
    have stopped : ((directory.unregister (.quiet turns) client handle).stop handle).2.entries? =
        directory.entries? := by rw [entries?_stop, entries?_unregister_quiet]
    dsimp only
    split
    · exact stopped
    · exact stopped

theorem entries?_shutdown (turns : Nat) :
    (directory.shutdown (.quiet turns)).entries? = directory.entries? :=
  entries?_stopAll directory.standing _

variable {directory handle}

theorem entries?_seed (apart : wellKnown .main ≠ handle) {store : MemoryStore}
    (present : directory.store? handle = some store) :
    (directory.seed handle).entries? = Function.update directory.entries? handle
      (some (store.entries.plant (directory.sowing handle store).planted)) := by
  rw [seed_eq apart present]
  exact entries?_setStore present _

end Stores

section Factories

variable {γ : Type} (directory : Directory MemoryFactory MemoryStore γ)

@[simp] theorem entries?_touchStore (handle : Handle) (data : Blinding) :
    (directory.touchStore handle data).2.entries? = directory.entries? := by
  unfold touchStore
  cases present : directory.store? handle with
  | none => rfl
  | some store => exact entries?_setStore_of_same present (store.entries_setBlinding data)

theorem entries?_build_quiet (turns : Nat) (id : PartitionId) :
    (directory.build (.quiet turns) id).2.entries? =
      Function.update directory.entries? (directory.partitions.next id)
        (some (directory.factory.fresh id).entries) := by
  funext other
  rw [entries?, store?, partition?_build_quiet, Function.update_apply]
  split
  · rfl
  · rfl

theorem entries?_register_quiet (turns : Nat) (client : Hash) :
    (directory.register (.quiet turns) client).2.entries? =
      Function.update directory.entries? (directory.partitions.next (.client client))
        (some (directory.factory.fresh (.client client)).entries) := by
  rw [← entries?_build_quiet directory turns]
  simp only [register]
  split <;> rfl

theorem entries?_launch (client : Hash) :
    (directory.launch client).entries? =
      Function.update directory.entries? (directory.partitions.next (.client client))
        (some (directory.factory.fresh (.client client)).entries) := by
  rw [launch, entries?_setLocked, entries?_register_quiet]

end Factories

section Settling

variable {φ γ : Type} {directory : Directory φ MemoryStore γ} {handle : Handle} {client : Hash}

theorem entries?_giveUp (directory : Directory φ MemoryStore γ) :
    (directory.giveUp (.quiet 0) client handle).entries? = directory.entries? := by
  rw [giveUp, entries?_setLifecycle, entries?_unregister_quiet]

theorem entries?_goLive (apart : wellKnown .main ≠ handle) {store : MemoryStore}
    (present : directory.store? handle = some store) :
    (directory.goLive handle).entries? = Function.update directory.entries? handle
      (some (store.entries.plant (directory.sowing handle store).planted)) := by
  rw [← entries?_seed apart present]
  exact entries?_setLifecycle _ handle .ready

theorem entries?_settle_of_closed (closed : directory.closed = true) :
    (directory.settle client handle).2.entries? = directory.entries? := by
  rw [settle_of_closed closed]
  exact (entries?_setLocked _ handle false).trans (entries?_giveUp directory)

theorem entries?_settle (apart : wellKnown .main ≠ handle) {held : Entries}
    (present : directory.entries? handle = some held) :
    ∃ planted, (directory.settle client handle).2.entries? =
        Function.update directory.entries? handle (some (held.plant planted)) ∧
      ∀ key router, (key, router) ∈ planted → held.Dry ∧
        directory.KeepsRouter (wellKnown .main) key router ∧ router.floodfill = true := by
  have started : (directory.startStore (.quiet 0) handle).2.entries? = directory.entries? :=
    entries?_startStore_quiet directory handle 0
  have unplanted : directory.entries? =
      Function.update directory.entries? handle (some (held.plant [])) :=
    (Function.update_eq_self_iff.mpr present.symm).symm
  cases closed : directory.closed with
  | true => exact ⟨[], (entries?_settle_of_closed closed).trans unplanted, nofun⟩
  | false =>
    cases result : (directory.startStore (.quiet 0) handle).1 with
    | error failure =>
      refine ⟨[], Eq.trans ?_ unplanted, nofun⟩
      rw [settle_of_error closed result]
      exact (entries?_setLocked _ handle false).trans ((entries?_giveUp _).trans started)
    | ok _ =>
      have there := started ▸ present
      obtain ⟨store, here, rfl⟩ := Option.map_eq_some_iff.mp there
      refine ⟨((directory.startStore (.quiet 0) handle).2.sowing handle store).planted, ?_, ?_⟩
      · rw [settle_of_ok closed result, ← started]
        exact (entries?_setLocked _ handle false).trans (entries?_goLive apart here)
      · intro key router planted
        obtain ⟨bare, listed, given⟩ := given_of_planted planted
        obtain ⟨kept, flooding⟩ := keepsRouter_of_seed listed given
        rw [keepsRouter_iff, started, ← keepsRouter_iff] at kept
        exact ⟨store.dry_of_floodfillPeers bare, kept, flooding⟩

end Settling

end Directory

end PeerDirectory

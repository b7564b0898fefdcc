import PeerDirectory.Proofs.Anonymity.Seeding
import PeerDirectory.Proofs.Directory.Entries
import Mathlib.Data.List.Induction

namespace PeerDirectory

open Std

inductive StoreCall where
  | startup
  | shutdown
  | insert (key : Hash) (entry : Entry)
  | setBlinding (data : Blinding)
deriving DecidableEq

namespace StoreCall

def writes : StoreCall → Bool
  | startup | shutdown => false
  | insert _ _ | setBlinding _ => true

def routerFor? (key : Hash) : StoreCall → Option Router
  | insert under entry => if under = key then entry.router? else none
  | _ => none

def leaseSetFor? (key : Hash) : StoreCall → Option LeaseSet
  | insert under entry => if under = key then entry.lease? else none
  | _ => none

def blindingFor? (key : SigningKey) : StoreCall → Option Blinding
  | setBlinding data => if data.signingKey = key then some data else none
  | _ => none

/-- What the last of these calls wrote that wrote anything of this sort. -/
def last {α : Type} (written : StoreCall → Option α) (history : List StoreCall) : Option α :=
  (history.filterMap written).getLast?

def opening (calls : List StoreCall) : List StoreCall := calls.takeWhile (· ≠ .shutdown)

section Histories

variable {α : Type} (written : StoreCall → Option α) (history calls : List StoreCall)
  (call : StoreCall)

theorem last_append_singleton :
    last written (history ++ [call]) = (written call).or (last written history) := by
  unfold last
  cases writes : written call with
  | none => simp [writes]
  | some value => simp [writes]

theorem isSome_last :
    (last written history).isSome = true ↔ ∃ call ∈ history, (written call).isSome = true := by
  rw [last, List.getLast?_isSome, ← List.length_pos_iff_ne_nil, List.length_filterMap_eq_countP,
    List.countP_pos_iff]

theorem opening_append_singleton :
    opening (calls ++ [call]) =
      if .shutdown ∈ calls ∨ call = .shutdown then opening calls else opening calls ++ [call] := by
  induction calls with
  | nil => by_cases stops : call = .shutdown <;> simp [opening, stops]
  | cons first rest ih =>
    by_cases stops : first = .shutdown
    · simp [opening, stops]
    · have goes (more : List StoreCall) : opening (first :: more) = first :: opening more := by
        simp [opening, stops]
      rw [List.cons_append, goes, goes, ih]
      by_cases closed : .shutdown ∈ rest ∨ call = .shutdown <;> simp [closed, Ne.symm stops]

end Histories

end StoreCall

namespace MemoryStore

open StoreCall

def perform (store : MemoryStore) : StoreCall → Except Failure Unit × MemoryStore
  | .startup => store.startup
  | .shutdown => (.ok (), store.shutdown)
  | .insert key entry => store.insert key entry
  | .setBlinding data => store.setBlinding data

def performAll (store : MemoryStore) (calls : List StoreCall) : MemoryStore :=
  calls.foldl (fun store call => (store.perform call).2) store

/-- Which of these calls a store answers without a failure when they are made on it one after
another. -/
def accepted (store : MemoryStore) : List StoreCall → List StoreCall
  | [] => []
  | call :: rest =>
    let performed := store.perform call
    match performed.1 with
    | .ok () => call :: performed.2.accepted rest
    | .error _ => performed.2.accepted rest

variable (store : MemoryStore)

theorem performAll_append_singleton (calls : List StoreCall) (call : StoreCall) :
    store.performAll (calls ++ [call]) = ((store.performAll calls).perform call).2 := by
  simp [performAll]

theorem accepted_append_singleton (calls : List StoreCall) (call : StoreCall) :
    store.accepted (calls ++ [call]) =
      match ((store.performAll calls).perform call).1 with
      | .ok () => store.accepted calls ++ [call]
      | .error _ => store.accepted calls := by
  induction calls generalizing store with
  | nil => rfl
  | cons first rest ih =>
    have onward := ih (store.perform first).2
    simp only [List.cons_append, accepted, onward, performAll, List.foldl_cons]
    cases (store.perform first).1 with
    | error failure => rfl
    | ok _ =>
      dsimp only
      split <;> rfl

structure Holds (store : MemoryStore) (history : List StoreCall) : Prop where
  routers : ∀ key : Hash, store.routers[key]? = last (routerFor? key) history
  leaseSets : ∀ key : Hash, store.leaseSets[key]? = last (leaseSetFor? key) history
  blindings : ∀ key : SigningKey, store.blindings[key]? = last (blindingFor? key) history

variable {store} {history : List StoreCall}

theorem Holds.append (holds : Holds store history) {call : StoreCall} {next : MemoryStore}
    (routers : ∀ key : Hash, next.routers[key]? = (routerFor? key call).or store.routers[key]?)
    (leaseSets : ∀ key : Hash,
      next.leaseSets[key]? = (leaseSetFor? key call).or store.leaseSets[key]?)
    (blindings : ∀ key : SigningKey,
      next.blindings[key]? = (blindingFor? key call).or store.blindings[key]?) :
    Holds next (history ++ [call]) := by
  constructor
  case routers => exact fun key => by rw [routers, last_append_singleton, holds.routers]
  case leaseSets => exact fun key => by rw [leaseSets, last_append_singleton, holds.leaseSets]
  case blindings => exact fun key => by rw [blindings, last_append_singleton, holds.blindings]

theorem Holds.put (holds : Holds store history) (key : Hash) (entry : Entry) :
    Holds (store.put key entry) (history ++ [.insert key entry]) := by
  cases entry with
  | router descriptor =>
    refine holds.append (fun other => ?_) (fun other => ?_) fun other => rfl
    · by_cases same : key = other <;>
        simp [MemoryStore.put, routerFor?, Entry.router?, ExtTreeMap.getElem?_insert, same]
    · simp [MemoryStore.put, leaseSetFor?, Entry.lease?]
  | lease record =>
    refine holds.append (fun other => ?_) (fun other => ?_) fun other => rfl
    · simp [MemoryStore.put, routerFor?, Entry.router?]
    · by_cases same : key = other <;>
        simp [MemoryStore.put, leaseSetFor?, Entry.lease?, ExtTreeMap.getElem?_insert, same]

theorem Holds.setBlinding (holds : Holds store history) (data : Blinding) :
    Holds { store with blindings := store.blindings.insert data.signingKey data }
      (history ++ [.setBlinding data]) := by
  refine holds.append (fun _ => rfl) (fun _ => rfl) fun key => ?_
  by_cases same : data.signingKey = key <;>
    simp [blindingFor?, ExtTreeMap.getElem?_insert, same]

structure Remembers (store : MemoryStore) (id : PartitionId) (failing : Bool)
    (calls history : List StoreCall) : Prop where
  id : store.id = id
  failing : store.failing = failing
  refused : store.refused = []
  stopped : store.stopped = true ↔ .shutdown ∈ calls
  started : store.started = true ↔ .startup ∈ history
  startups : store.startups = (opening calls).count .startup
  written : history.filter writes = (opening calls).filter writes
  holds : Holds store history

variable {id : PartitionId} {failing : Bool} {calls : List StoreCall}

theorem remembers_empty (id : PartitionId) (failing : Bool) :
    Remembers (empty id failing) id failing [] [] where
  id := rfl
  failing := rfl
  refused := rfl
  stopped := by simp [empty]
  started := by simp [empty]
  startups := rfl
  written := rfl
  holds := ⟨fun _ => ExtTreeMap.getElem?_empty, fun _ => ExtTreeMap.getElem?_empty,
    fun _ => ExtTreeMap.getElem?_empty⟩

theorem Remembers.perform_of_stopped (remembers : Remembers store id failing calls history)
    (closed : .shutdown ∈ calls) (call : StoreCall) (later : call ≠ .shutdown) :
    store.perform call = (.error (.storeShutDown id), store) := by
  have stopped := remembers.stopped.mpr closed
  cases call with
  | startup => simp [perform, startup, stopped, remembers.id]
  | shutdown => exact absurd rfl later
  | insert key entry => simp [perform, insert, stopped, remembers.id, remembers.refused]
  | setBlinding data => simp [perform, setBlinding, stopped, remembers.id]

theorem Remembers.perform_of_running (remembers : Remembers store id failing calls history)
    (on : .shutdown ∉ calls) (call : StoreCall) :
    store.perform call =
      match call with
      | .startup =>
        if failing then
          (.error (.startup id "startup refused"), { store with startups := store.startups + 1 })
        else (.ok (), { store with startups := store.startups + 1, started := true })
      | .shutdown => (.ok (), store.shutdown)
      | .insert key entry => (.ok (), store.put key entry)
      | .setBlinding data =>
        (.ok (), { store with blindings := store.blindings.insert data.signingKey data }) := by
  have running : ¬store.stopped = true := fun stopped => on (remembers.stopped.mp stopped)
  cases call with
  | startup => rw [perform, MemoryStore.startup, if_neg running, remembers.failing, remembers.id]
  | shutdown => rfl
  | insert key entry => simp [perform, insert, running, remembers.refused]
  | setBlinding data => rw [perform, setBlinding, if_neg running]

theorem Remembers.shutdown (remembers : Remembers store id failing calls history) :
    Remembers store.shutdown id failing (calls ++ [.shutdown]) (history ++ [.shutdown]) where
  __ := remembers
  stopped := by simp [MemoryStore.shutdown]
  started := by simp [MemoryStore.shutdown, remembers.started]
  startups := by simp [MemoryStore.shutdown, opening_append_singleton, remembers.startups]
  written := by simp [opening_append_singleton, remembers.written, writes]
  holds := remembers.holds.append (fun _ => rfl) (fun _ => rfl) fun _ => rfl

theorem Remembers.write (remembers : Remembers store id failing calls history)
    (on : .shutdown ∉ calls) {call : StoreCall} (writing : call.writes = true)
    {routers : ExtTreeMap Hash Router} {leaseSets : ExtTreeMap Hash LeaseSet}
    {blindings : ExtTreeMap SigningKey Blinding}
    (holds : Holds { store with routers, leaseSets, blindings } (history ++ [call])) :
    Remembers { store with routers, leaseSets, blindings } id failing (calls ++ [call])
      (history ++ [call]) := by
  have plain : .startup ≠ call ∧ .shutdown ≠ call := by
    constructor <;> rintro rfl <;> cases writing
  have longer : opening (calls ++ [call]) = opening calls ++ [call] := by
    simp [opening_append_singleton, on, plain.2.symm]
  exact {
    remembers with
    stopped := by simp [remembers.stopped, plain.2]
    started := by simp [remembers.started, plain.1]
    startups := by simp [remembers.startups, longer, plain.1.symm]
    written := by simp [longer, remembers.written]
    holds := holds }

theorem Remembers.perform (remembers : Remembers store id failing calls history)
    (call : StoreCall) :
    Remembers (store.perform call).2 id failing (calls ++ [call])
      (match (store.perform call).1 with
      | .ok () => history ++ [call]
      | .error _ => history) := by
  have holds := remembers.holds
  by_cases closed : .shutdown ∈ calls
  · by_cases again : call = .shutdown
    · subst again
      exact remembers.shutdown
    · rw [remembers.perform_of_stopped closed call again]
      have still : opening (calls ++ [call]) = opening calls := by
        simp [opening_append_singleton, closed]
      exact {
        remembers with
        stopped := by simp [remembers.stopped, closed]
        startups := still ▸ remembers.startups
        written := still ▸ remembers.written }
  · rw [remembers.perform_of_running closed]
    cases call with
    | startup =>
      have longer : opening (calls ++ [.startup]) = opening calls ++ [.startup] := by
        simp [opening_append_singleton, closed]
      cases failing with
      | true =>
        exact {
          remembers with
          stopped := by simp [remembers.stopped]
          startups := by simp [longer, remembers.startups]
          written := by simp [longer, remembers.written, writes]
          holds := ⟨holds.routers, holds.leaseSets, holds.blindings⟩ }
      | false =>
        exact {
          remembers with
          stopped := by simp [remembers.stopped]
          started := by simp
          startups := by simp [longer, remembers.startups]
          written := by simp [longer, remembers.written, writes]
          holds := holds.append (fun _ => rfl) (fun _ => rfl) fun _ => rfl }
    | shutdown => exact remembers.shutdown
    | insert key entry =>
      have holding := holds.put key entry
      cases entry with
      | router descriptor => exact remembers.write closed rfl holding
      | lease record => exact remembers.write closed rfl holding
    | setBlinding data => exact remembers.write closed rfl (holds.setBlinding data)

theorem remembers_performAll (id : PartitionId) (failing : Bool) (calls : List StoreCall) :
    Remembers ((empty id failing).performAll calls) id failing calls
      ((empty id failing).accepted calls) := by
  induction calls using List.reverseRecOn with
  | nil => exact remembers_empty id failing
  | append_singleton earlier call ih =>
    rw [performAll_append_singleton, accepted_append_singleton]
    exact ih.perform call

/-- What a store answers, told from the calls that were made on it and those that it accepted. -/
structure Recounts (store : MemoryStore) (id : PartitionId) (failing : Bool)
    (calls history : List StoreCall) : Prop where
  writes : ∀ call : StoreCall, call.writes = true →
    (store.perform call).1 =
      if .shutdown ∈ calls then .error (.storeShutDown id) else .ok ()
  refuses : ∀ call : StoreCall, call.writes = true → .shutdown ∈ calls →
    (store.perform call).2 = store
  starts : store.startup.1 =
    if .shutdown ∈ calls then .error (.storeShutDown id)
    else if failing then .error (.startup id "startup refused") else .ok ()
  written : history.filter StoreCall.writes = (opening calls).filter StoreCall.writes
  lookup : ∀ key : Hash, store.lookup key =
    ((last (leaseSetFor? key) history).map .lease).or
      ((last (routerFor? key) history).map .router)
  routers : ∀ router, router ∈ store.knownRouters ↔
    ∃ key, last (routerFor? key) history = some router
  leaseSets : ∀ record, record ∈ store.knownLeaseSets ↔
    ∃ key, last (leaseSetFor? key) history = some record
  floodfillPeers : ∀ key, key ∈ store.floodfillPeers ↔
    ∃ router, last (routerFor? key) history = some router ∧ router.floodfill = true
  once : store.knownRouters.Nodup ∧ store.knownLeaseSets.Nodup ∧ store.floodfillPeers.Nodup
  blinding : ∀ key, store.blinding? key = last (blindingFor? key) history
  blindings : ∀ data, data ∈ store.allBlindings ↔
    ∃ key, last (blindingFor? key) history = some data
  claims : ∀ key, store.claims key = true ↔ ∃ owner, id = .client owner ∧
    (owner = key ∨ ∃ call ∈ history, (leaseSetFor? key call).isSome = true)
  initialized : store.isInitialized = true ↔ .startup ∈ history ∧ .shutdown ∉ calls
  startups : store.startups = (opening calls).count .startup

theorem recounts_history (id : PartitionId) (failing : Bool) (calls : List StoreCall) :
    Recounts ((empty id failing).performAll calls) id failing calls
      ((empty id failing).accepted calls) := by
  have remembers := remembers_performAll id failing calls
  generalize (empty id failing).performAll calls = store at *
  generalize (empty id failing).accepted calls = history at *
  have holds := remembers.holds
  constructor
  case writes =>
    intro call writing
    split
    · rename_i closed
      rw [remembers.perform_of_stopped closed call (by rintro rfl; cases writing)]
    · rename_i on
      rw [remembers.perform_of_running on]
      cases call <;> first | rfl | cases writing
  case refuses =>
    intro call writing closed
    rw [remembers.perform_of_stopped closed call (by rintro rfl; cases writing)]
  case starts =>
    split
    · rename_i closed
      exact congrArg Prod.fst (remembers.perform_of_stopped closed .startup nofun)
    · rename_i on
      refine (congrArg Prod.fst (remembers.perform_of_running on .startup)).trans ?_
      cases failing <;> rfl
  case written => exact remembers.written
  case lookup =>
    intro key
    rw [lookup, holds.leaseSets, holds.routers]
    cases last (leaseSetFor? key) history <;> rfl
  case routers => exact fun router => by simp only [mem_knownRouters, holds.routers]
  case leaseSets => exact fun record => by simp only [mem_knownLeaseSets, holds.leaseSets]
  case floodfillPeers => exact fun key => by simp only [mem_floodfillPeers, holds.routers]
  case once => exact ⟨nodup_distinct _, nodup_distinct _, store.nodup_floodfillPeers⟩
  case blinding => exact holds.blindings
  case blindings => exact fun data => by simp only [mem_allBlindings, holds.blindings]
  case claims =>
    intro key
    have held : key ∈ store.leaseSets ↔
        ∃ call ∈ history, (leaseSetFor? key call).isSome = true := by
      rw [ExtTreeMap.mem_iff_isSome_getElem?, holds.leaseSets, isSome_last]
    rw [← held]
    cases id with
    | wellKnown role => simp [claims, remembers.id, PartitionId.destination?]
    | client owner => simp [claims, remembers.id, PartitionId.destination?]
  case initialized =>
    rw [isInitialized, Bool.and_eq_true, Bool.not_eq_true', remembers.started,
      ← Bool.not_eq_true, remembers.stopped]
  case startups => exact remembers.startups

end MemoryStore

end PeerDirectory

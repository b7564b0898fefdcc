import PeerDirectory.Proofs.Aggregates
import PeerDirectory.Proofs.Run.Anchored
import PeerDirectory.Proofs.Run.Filling

namespace PeerDirectory

open Std

section Distinct

variable {α : Type} [Ord α] [TransOrd α] [LawfulEqOrd α]

theorem length_distinct [DecidableEq α] {values : List α} (once : values.Nodup) :
    (distinct values).length = values.length := by
  apply List.Perm.length_eq
  rw [List.perm_ext_iff_of_nodup (nodup_distinct values) once]
  exact fun value => mem_distinct

end Distinct

namespace Entries

def Natural (entries : Entries) : Prop :=
  ∀ (key : Hash) (router : Router), entries.routers[key]? = some router → router.identity = key

variable {entries : Entries}

theorem Natural.put (natural : entries.Natural) {key : Hash} {entry : Entry}
    (own : ∀ router, entry = .router router → router.identity = key) :
    (entries.put key entry).Natural := by
  cases entry with
  | lease record => exact natural
  | router descriptor =>
    intro other router held
    simp only [Entries.put, ExtTreeMap.getElem?_insert] at held
    split at held
    · rename_i same
      obtain rfl := LawfulEqOrd.eq_of_compare same
      exact own router (congrArg Entry.router (Option.some.inj held))
    · exact natural other router held

theorem Natural.plant (natural : entries.Natural) {routers : List (Hash × Router)}
    (own : ∀ key router, (key, router) ∈ routers → router.identity = key) :
    (entries.plant routers).Natural := by
  induction routers generalizing entries with
  | nil => exact natural
  | cons item rest ih =>
    have first : (entries.put item.1 (.router item.2)).Natural := by
      refine natural.put fun router same => ?_
      obtain rfl := Entry.router.inj same
      exact own item.1 item.2 List.mem_cons_self
    exact ih first fun key router member => own key router (List.mem_cons_of_mem _ member)

end Entries

theorem MemoryFactory.natural_fresh (factory : MemoryFactory) (id : PartitionId) :
    (factory.fresh id).entries.Natural := by
  let held := (factory.peculiarity id).held
  have planted : (factory.fresh id).entries =
      Entries.plant ⟨∅, ∅⟩ (held.map fun router => (router.identity, router)) := by
    rw [factory.fresh_eq, Entries.plant, List.foldl_map]
    rfl
  rw [planted]
  have nothing : Entries.Natural ⟨∅, ∅⟩ := fun key router held => by simp at held
  refine nothing.plant fun key router member => ?_
  obtain ⟨_, -, same⟩ := List.mem_map.mp member
  cases same
  rfl

namespace MemoryStore

variable {store : MemoryStore}

theorem length_knownRouters (natural : store.entries.Natural) :
    store.knownRouters.length = store.routers.size := by
  -- Different keys have different routers, so that none is counted twice.
  have once : (store.routers.toList.map (·.2)).Nodup := by
    rw [List.nodup_map_iff_inj_on]
    · intro one member other also same
      have first := natural one.1 one.2 (ExtTreeMap.mem_toList_iff_getElem?_eq_some.mp member)
      have second := natural other.1 other.2 (ExtTreeMap.mem_toList_iff_getElem?_eq_some.mp also)
      exact Prod.ext (first.symm.trans ((congrArg Router.identity same).trans second)) same
    · have distinct : store.routers.toList.Pairwise fun one other =>
          compare one.1 other.1 = .lt := ExtTreeMap.ordered_keys_toList
      exact distinct.imp fun ordered same => by simp [same] at ordered
  rw [knownRouters, length_distinct once, List.length_map, ExtTreeMap.length_toList]

theorem length_floodfillPeers_le (store : MemoryStore) :
    store.floodfillPeers.length ≤ store.routers.size := by
  rw [floodfillPeers, List.length_map, ← ExtTreeMap.length_toList]
  exact List.length_filter_le _ _

end MemoryStore

namespace Directory

def Call.natural {τ υ : Type} : Call τ υ → Bool
  | .insert _ key (.router router) => router.identity = key
  | _ => true

def Natural (entries : Handle → Option Entries) : Prop :=
  ∀ ⦃handle held⦄, entries handle = some held → held.Natural

section Moves

variable {entries : Handle → Option Entries} {handle : Handle}

theorem Natural.update (natural : Natural entries) {held : Entries} (also : held.Natural) :
    Natural (Function.update entries handle (some held)) := by
  intro other found here
  by_cases same : other = handle
  · subst same
    rw [Function.update_self] at here
    exact Option.some.inj here ▸ also
  · exact natural (by simpa [same] using here)

theorem identity_of_natural {φ γ : Type} {directory : Directory φ MemoryStore γ}
    (natural : Natural directory.entries?) {key : Hash} {router : Router}
    (kept : directory.KeepsRouter handle key router) : router.identity = key := by
  obtain ⟨held, here, found⟩ := keepsRouter_iff.mp kept
  exact natural here key router found

theorem Move.natural {a b : Position MemoryFactory MemoryStore Tuning Blinding}
    (move : Move (fun call => call.natural = true) a b) (orderly : Orderly a.busy a.run.shape)
    (natural : Natural a.run.entries?) : Natural b.run.entries? := by
  cases move.filling orderly with
  | kept same => rwa [same]
  | stored allowed before added told after =>
    rw [after]
    refine natural.update ((natural before).put fun router same => ?_)
    subst same
    exact of_decide_eq_true allowed
  | built factory absent still after =>
    rw [after]
    exact natural.update (factory.natural_fresh _)
  | seeded starting finished before still given after =>
    rw [after]
    refine natural.update ((natural before).plant fun key router member => ?_)
    exact identity_of_natural natural (given key router member).2.1

end Moves

section Built

variable {γ : Type} {directory : Directory MemoryFactory MemoryStore γ}
  {change : Moment → MemoryFactory → MemoryFactory}

theorem natural_startWellKnown (natural : Natural directory.entries?) (role : WellKnown) :
    Natural (directory.startWellKnown (.tuning change) role).2.entries? := by
  have prepared : Natural (directory.prepare change role).entries? := by
    have built := entries?_build_quiet
      ((Surroundings.tuning change).react (.create (.wellKnown role)) directory) 0 (.wellKnown role)
    have locked : (directory.prepare change role).entries? = _ :=
      (entries?_setLocked _ _ true).trans built
    rw [locked]
    exact Natural.update natural (MemoryFactory.natural_fresh _ _)
  rw [← entries?_startStore_quiet _ (directory.partitions.next (.wellKnown role)) 0] at prepared
  rw [startWellKnown_eq]
  dsimp only
  split
  · rwa [entries?_setLocked]
  · rw [← entries?_setLifecycle _ (directory.partitions.next (.wellKnown role)) .ready,
      ← entries?_setLocked _ (directory.partitions.next (.wellKnown role)) false] at prepared
    exact prepared

theorem natural_startAll (natural : Natural directory.entries?) {roles : List WellKnown}
    {sofar : List Handle} (started : (startAll (.tuning change) sofar roles directory).1 = .ok ()) :
    Natural (startAll (.tuning change) sofar roles directory).2.entries? := by
  induction roles generalizing directory sofar with
  | nil => exact natural
  | cons role rest ih =>
    rw [startAll] at started ⊢
    cases first : (directory.startWellKnown (.tuning change) role).1 with
    | error failure => simp [first] at started
    | ok _ =>
      simp only [first] at started ⊢
      exact ih (natural_startWellKnown natural role) started

theorem Built.natural {run : Run MemoryFactory MemoryStore Tuning Blinding} (built : Built run) :
    Natural run.entries? := by
  obtain ⟨_, settings, change, ⟨factory, sampler, enumerator, rfl⟩, all, rfl⟩ := built.startAll
  refine (natural_startAll (fun handle held here => ?_) all :)
  simp [entries?, store?, partition?_unbuilt] at here

end Built

def Stats.part (stats : Stats) : WellKnown → PartitionStats
  | .main => stats.main
  | .multihome => stats.multihome
  | .exploratory => stats.exploratory

/-- What a directory over stores in memory tells of routers that are all held under their identities:
how many there are in each of the well-known partitions, and which of those that are listed flood. -/
structure Coherent {φ γ : Type} (directory : Directory φ MemoryStore γ) : Prop where
  identity : ∀ {handle key router}, directory.KeepsRouter handle key router → router.identity = key
  counted : ∀ role, ∃ store, directory.store? (wellKnown role) = some store ∧
    (directory.stats.part role).routers = store.routers.size ∧
    (directory.stats.part role).floodfillPeers ≤ (directory.stats.part role).routers
  flooding : ∀ key, key ∈ directory.allFloodfillPeers ↔
    ∃ router ∈ directory.allRouters, router.floodfill = true ∧ router.identity = key
  ascending : directory.allFloodfillPeers.Pairwise fun one other => compare one other = .lt

theorem coherent_of_natural {φ γ : Type} {directory : Directory φ MemoryStore γ}
    (natural : Natural directory.entries?)
    (standing : ∀ role, directory.stage? (wellKnown role) ≠ none) : Coherent directory := by
  constructor
  case identity => exact identity_of_natural natural
  case counted =>
    intro role
    have there : directory.store? (wellKnown role) ≠ none := by
      simpa [stage?, store?] using standing role
    obtain ⟨store, present⟩ := Option.ne_none_iff_exists'.mp there
    have own : store.entries.Natural := natural (by rw [entries?, present, Option.map_some])
    have told : directory.stats.part role = directory.partitionStats (wellKnown role) := by
      cases role <;> rfl
    have routers : (directory.stats.part role).routers = store.routers.size := by
      simp only [told, partitionStats, routers, ask, present]
      exact store.length_knownRouters own
    refine ⟨store, present, routers, ?_⟩
    rw [routers]
    simp only [told, partitionStats, floodfillPeers, ask, present]
    exact store.length_floodfillPeers_le
  case flooding =>
    intro key
    simp only [allFloodfillPeers, allRouters, mem_gathered, mem_floodfillPeers, mem_routers]
    constructor
    · rintro ⟨handle, listed, router, kept, floods⟩
      exact ⟨router, ⟨handle, listed, key, kept⟩, floods, identity_of_natural natural kept⟩
    · rintro ⟨router, ⟨handle, listed, other, kept⟩, floods, rfl⟩
      rw [← identity_of_natural natural kept] at kept
      exact ⟨handle, listed, router, kept, floods⟩
  case ascending => exact ascending_distinct _

/-- If no caller ever stores a router under another key than its own, then at every point of every run
at which nobody waits for ever, every partition holds every router under its identity, and counts and
lists of routers agree. -/
theorem coherent_throughout {run : Run MemoryFactory MemoryStore Tuning Blinding}
    {habit : Habit MemoryFactory MemoryStore Tuning Blinding} {turns depth : Nat}
    {calls : List (Call Tuning Blinding)} (built : Built run)
    (natural : ∀ call ∈ calls, call.natural = true)
    (always : ∀ moment run, ∀ call ∈ habit moment run, call.natural = true) :
    ∀ point ∈ (run.makeAll (others habit turns depth) calls).outside.points,
      point.state.stuck = false → Coherent point.state := by
  have keeps {a b : Position MemoryFactory MemoryStore Tuning Blinding}
      (move : Move (fun call => call.natural = true) a b) (orderly : Orderly a.busy a.run.shape)
      (held : Anchored a.run.shape ∧ Natural a.run.entries?) :
      Anchored b.run.shape ∧ Natural b.run.entries? :=
    ⟨move.anchored orderly held.1, move.natural orderly held.2⟩
  refine built.throughout (telling_others always turns depth) natural keeps
    (fun {position} _ held => ?_) ⟨built.anchored, built.natural⟩
  refine coherent_of_natural held.2 fun role missing => ?_
  exact nomatch (held.1.stage role).symm.trans missing

def edition (floodfill : Bool) (published : UInt64) : Router :=
  ⟨⟨.fill 2⟩, [], floodfill, published⟩

def editions : List (Call Tuning Blinding) :=
  [.insert (wellKnown .main) ⟨.fill 2⟩ (.router (edition true 1)),
    .resolve (some (.client someone)),
    .insert ⟨.client someone, 0⟩ ⟨.fill 2⟩ (.router (edition false 2))]

theorem coherent_amid_editions :
    ∃ point ∈ (plainRun.makeAll (others eager 0 2) editions).outside.points,
      (point.state.allRouters = [edition false 2, edition true 1] ∧
        point.state.allFloodfillPeers = [⟨.fill 2⟩]) ∧ Coherent point.state := by
  have both : ∃ point ∈ (plainRun.makeAll (others eager 0 2) editions).outside.points,
      point.state.stuck = false ∧ point.state.allRouters = [edition false 2, edition true 1] ∧
        point.state.allFloodfillPeers = [⟨.fill 2⟩] := by decide +kernel
  obtain ⟨point, member, calm, listed⟩ := both
  refine ⟨point, member, listed,
    coherent_throughout built_plainRun (by decide) ?_ point member calm⟩
  intro moment run call made
  unfold eager at made
  split at made
  · split at made
    · rw [List.mem_singleton.mp made]
      rfl
    · cases made
  · rw [List.mem_singleton.mp made]
    rfl
  · cases made

end Directory

end PeerDirectory

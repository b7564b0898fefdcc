import PeerDirectory.Proofs.Directory.Stopping
import PeerDirectory.Proofs.Run.Start
import PeerDirectory.Proofs.Vitals

/-!
Building a directory is all or nothing. Its well-known partitions are made and started one after
another, and whatever the factory turns to meanwhile, the first one that fails to start undoes
those before it and is the last that is made.
-/

namespace PeerDirectory

variable {φ σ : Type} [PartitionStore σ] [StoreFactory φ σ]

def supply (change : Moment → φ → φ) (role : WellKnown) (factory : φ) : σ × φ :=
  let made := StoreFactory.make (change (.create (.wellKnown role)) factory) (.wellKnown role)
  (made.1, change (.startup (.wellKnown role)) made.2)

def supplies (change : Moment → φ → φ) : List WellKnown → φ → List (WellKnown × σ)
  | [], _ => []
  | role :: rest, factory =>
    let made := supply change role factory
    (role, made.1) :: supplies change rest made.2

def spent (change : Moment → φ → φ) (roles : List WellKnown) (factory : φ) : φ :=
  roles.foldl (fun factory role => (supply change role factory).2) factory

/-- All these stores start. -/
def Sound (supplied : List (WellKnown × σ)) : Prop :=
  ∀ one ∈ supplied, (PartitionStore.startup one.2).1 = .ok ()

instance (supplied : List (WellKnown × σ)) : Decidable (Sound supplied) :=
  inferInstanceAs (Decidable (∀ one ∈ supplied, (PartitionStore.startup one.2).1 = .ok ()))

section Supplies

variable {change : Moment → φ → φ} {roles : List WellKnown} {factory : φ}

variable (change roles factory) in
omit [PartitionStore σ] in
theorem map_fst_supplies : (supplies change roles factory).map (·.1) = roles := by
  induction roles generalizing factory with
  | nil => rfl
  | cons role rest ih => simp only [supplies, List.map_cons, ih]

omit [PartitionStore σ] in
theorem mem_supplies {one : WellKnown × σ} (member : one ∈ supplies change roles factory) :
    one.1 ∈ roles ∧ ∃ before, one.2 = (supply change one.1 before).1 := by
  induction roles generalizing factory with
  | nil => cases member
  | cons role rest ih =>
    rcases List.mem_cons.mp member with rfl | later
    · exact ⟨List.mem_cons_self, factory, rfl⟩
    · obtain ⟨listed, made⟩ := ih later
      exact ⟨List.mem_cons_of_mem _ listed, made⟩

variable (change factory) in
omit [PartitionStore σ] in
theorem mem_supplies_of_mem {role : WellKnown} (listed : role ∈ roles) :
    ∃ store, (role, store) ∈ supplies change roles factory := by
  rw [← map_fst_supplies change roles factory] at listed
  obtain ⟨⟨_, store⟩, member, rfl⟩ := List.mem_map.mp listed
  exact ⟨store, member⟩

omit [PartitionStore σ] in
theorem supplies_eq_append {before after : List (WellKnown × σ)} {role : WellKnown} {store : σ}
    (split : supplies change roles factory = before ++ (role, store) :: after) :
    ∃ earlier later, roles = earlier ++ role :: later ∧
      before = supplies change earlier factory ∧
      store = (supply change role (spent change earlier factory)).1 := by
  induction before generalizing roles factory with
  | nil =>
    cases roles with
    | nil => cases split
    | cons first rest =>
      obtain ⟨same, -⟩ := List.cons.inj split
      cases same
      exact ⟨[], rest, rfl, rfl, rfl⟩
  | cons one others ih =>
    cases roles with
    | nil => cases split
    | cons first rest =>
      obtain ⟨rfl, rest⟩ := List.cons.inj split
      obtain ⟨earlier, later, rfl, rfl, rfl⟩ := ih rest
      exact ⟨first :: earlier, later, rfl, rfl, rfl⟩

theorem sound_or_split (supplied : List (WellKnown × σ)) :
    Sound supplied ∨ ∃ before role store after failure,
      supplied = before ++ (role, store) :: after ∧ Sound before ∧
        (PartitionStore.startup store).1 = .error failure := by
  induction supplied with
  | nil => exact Or.inl nofun
  | cons one rest ih =>
    obtain ⟨role, store⟩ := one
    cases first : (PartitionStore.startup store).1 with
    | error failure => exact Or.inr ⟨[], role, store, rest, failure, rfl, nofun, first⟩
    | ok _ =>
      rcases ih with sound | ⟨before, other, failing, after, failure, rfl, sound, failed⟩
      · exact Or.inl (List.forall_mem_cons.mpr ⟨first, sound⟩)
      · exact Or.inr ⟨(role, store) :: before, other, failing, after, failure, rfl,
          List.forall_mem_cons.mpr ⟨first, sound⟩, failed⟩

end Supplies

namespace Directory

variable {γ : Type} {change : Moment → φ → φ} {directory : Directory φ σ γ}

def install (directory : Directory φ σ γ) (change : Moment → φ → φ) (role : WellKnown)
    (stage : Lifecycle) : Directory φ σ γ :=
  let made := supply change role directory.factory
  { directory with
    factory := made.2
    partitions := directory.partitions.add (.wellKnown role)
      ⟨(PartitionStore.startup made.1).2, stage, false⟩ }

def furnish (change : Moment → φ → φ) (directory : Directory φ σ γ) (role : WellKnown) :
    Directory φ σ γ :=
  ((directory.install change role .ready).countOne (.created (.wellKnown role))).note
    (.startedWellKnown (.wellKnown role))

theorem startWellKnown_tuning (role : WellKnown) :
    directory.startWellKnown (.tuning change) role =
      match (PartitionStore.startup (supply change role directory.factory).1).1 with
      | .error failure => (.error failure, directory.install change role .creating)
      | .ok () => (.ok (), furnish change directory role) := by
  have present : (directory.prepare change role).store?
      (directory.partitions.next (.wellKnown role)) =
      some (supply change role directory.factory).1 := by
    simp [prepare, Surroundings.tuning, Surroundings.quiet, build, setLocked, modify, store?,
      partition?, Registry.get?_modify, Registry.get?_add, supply]
  rw [startWellKnown_eq]
  dsimp only
  simp only [startStore, Surroundings.quiet, present]
  cases (PartitionStore.startup (supply change role directory.factory).1).1 with
  | error failure =>
    simp [prepare, Surroundings.tuning, Surroundings.quiet, build, setStore, setLocked, modify,
      Registry.modify_add_next, install, supply]
  | ok _ =>
    simp [prepare, Surroundings.tuning, Surroundings.quiet, build, setStore, setLocked,
      setLifecycle, modify, Registry.modify_add_next, furnish, install, supply, countOne, count,
      note]

theorem startAll_of_sound {roles : List WellKnown} {sofar : List Handle}
    (sound : Sound (supplies change roles directory.factory)) :
    startAll (.tuning change) sofar roles directory =
      (.ok (), roles.foldl (furnish change) directory) := by
  induction roles generalizing directory sofar with
  | nil => rfl
  | cons role rest ih =>
    obtain ⟨first, later⟩ := List.forall_mem_cons.mp sound
    rw [startAll, startWellKnown_tuning]
    simp only [first]
    exact ih later

theorem startAll_of_failure {before after : List WellKnown} {role : WellKnown}
    {sofar : List Handle} {failure : Failure}
    (sound : Sound (supplies change before directory.factory))
    (failed : (PartitionStore.startup
      (supply change role (spent change before directory.factory)).1).1 = .error failure) :
    startAll (.tuning change) sofar (before ++ role :: after) directory =
      (.error failure,
        (sofar ++ before.map wellKnown).foldl (fun directory handle => (directory.stop handle).2)
          ((before.foldl (furnish change) directory).install change role .creating)) := by
  induction before generalizing directory sofar with
  | nil =>
    rw [List.nil_append, startAll, startWellKnown_tuning]
    simp only [show (PartitionStore.startup (supply change role directory.factory).1).1 = _
      from failed]
    simp
  | cons first rest ih =>
    obtain ⟨started, later⟩ := List.forall_mem_cons.mp sound
    rw [List.cons_append, startAll, startWellKnown_tuning]
    simp only [started]
    refine (@ih (furnish change directory first) _ later failed).trans ?_
    simp

/-! ## What was built -/

omit [PartitionStore σ] [StoreFactory φ σ] in
theorem next_wellKnown {role : WellKnown} (absent : directory.partition? (wellKnown role) = none) :
    directory.partitions.next (.wellKnown role) = wellKnown role :=
  next_of_absent (congrArg (Option.map _) absent)

variable (change) in
theorem partition?_install {role : WellKnown}
    (absent : directory.partition? (wellKnown role) = none) (stage : Lifecycle) (handle : Handle) :
    (directory.install change role stage).partition? handle =
      if handle = wellKnown role then
        some ⟨(PartitionStore.startup (supply change role directory.factory).1).2, stage, false⟩
      else directory.partition? handle := by
  rw [← next_wellKnown absent]
  exact Registry.get?_add directory.partitions _ _ handle

theorem factory_furnished {roles : List WellKnown} :
    (roles.foldl (furnish change) directory).factory = spent change roles directory.factory := by
  induction roles generalizing directory with
  | nil => rfl
  | cons role rest ih => exact ih

theorem keeps_furnished {α : Type} (view : Directory φ σ γ → α)
    (kept : ∀ directory role, view (furnish change directory role) = view directory)
    (roles : List WellKnown) :
    view (roles.foldl (furnish change) directory) = view directory := by
  induction roles generalizing directory with
  | nil => rfl
  | cons role rest ih => exact ih.trans (kept directory role)

variable (change) in
theorem partition?_furnished {roles : List WellKnown} (distinct : roles.Nodup)
    (absent : ∀ role ∈ roles, directory.partition? (wellKnown role) = none) :
    (∀ one ∈ supplies change roles directory.factory,
      (roles.foldl (furnish change) directory).partition? (wellKnown one.1) =
        some ⟨(PartitionStore.startup one.2).2, .ready, false⟩) ∧
    ∀ handle ∉ roles.map wellKnown,
      (roles.foldl (furnish change) directory).partition? handle = directory.partition? handle := by
  induction roles generalizing directory with
  | nil => exact ⟨nofun, fun _ _ => rfl⟩
  | cons role rest ih =>
    obtain ⟨apart, distinct⟩ := List.nodup_cons.mp distinct
    have first (handle : Handle) :=
      partition?_install change (absent role List.mem_cons_self) .ready handle
    have away {other : WellKnown} (member : other ∈ rest) : wellKnown other ≠ wellKnown role := by
      intro same
      exact apart (wellKnown_injective same ▸ member)
    obtain ⟨added, kept⟩ := @ih (furnish change directory role) distinct
      fun other member => by
        refine (first _).trans ?_
        rw [if_neg (away member)]
        exact absent other (List.mem_cons_of_mem _ member)
    constructor
    · intro one member
      rcases List.mem_cons.mp member with rfl | later
      · refine (kept _ fun again => ?_).trans ((first _).trans (if_pos rfl))
        obtain ⟨other, listed, same⟩ := List.mem_map.mp again
        exact away listed same
      · exact added one later
    · intro handle missing
      have other : handle ≠ wellKnown role := fun same => missing (same ▸ List.mem_cons_self)
      refine (kept handle fun later => missing (List.mem_cons_of_mem _ later)).trans ?_
      exact (first handle).trans (if_neg other)

omit [StoreFactory φ σ] in
theorem stopBuilt_eq {handles : List Handle} (distinct : handles.Nodup)
    (free : ∀ handle ∈ handles, directory.held handle = false) :
    handles.foldl (fun directory handle => (directory.stop handle).2) directory =
      { directory with partitions := directory.partitions.modifyAll handles (·.retire) } := by
  induction handles generalizing directory with
  | nil => rfl
  | cons handle rest ih =>
    obtain ⟨apart, distinct⟩ := List.nodup_cons.mp distinct
    have first : (directory.stop handle).2 = directory.modify handle (·.retire) := by
      simp [stop_eq, free handle List.mem_cons_self, modify]
    rw [List.foldl_cons, first, ih distinct]
    · rfl
    · intro other member
      have away : other ≠ handle := fun same => apart (same ▸ member)
      rw [held, partition?_modify, if_neg away]
      exact free other (List.mem_cons_of_mem _ member)

/-! ## What is left -/

def attempt (directory : Directory φ σ γ) (change : Moment → φ → φ) (before : List WellKnown)
    (role : WellKnown) : Directory φ σ γ :=
  (before.foldl (furnish change) directory).install change role .creating

def abandon (directory : Directory φ σ γ) (change : Moment → φ → φ) (before : List WellKnown)
    (role : WellKnown) : Directory φ σ γ :=
  (before.map wellKnown).foldl (fun directory handle => (directory.stop handle).2)
    (directory.attempt change before role)

section Abandoning

variable {before : List WellKnown} {role : WellKnown}

omit [PartitionStore σ] [StoreFactory φ σ] in
theorem not_mem_of_nodup (distinct : (before ++ [role]).Nodup) :
    wellKnown role ∉ before.map wellKnown := by
  intro again
  obtain ⟨other, member, same⟩ := List.mem_map.mp again
  cases wellKnown_injective same
  exact List.disjoint_of_nodup_append distinct member List.mem_cons_self

variable (change) in
theorem partition?_attempt (distinct : (before ++ [role]).Nodup)
    (absent : ∀ other ∈ before ++ [role], directory.partition? (wellKnown other) = none) :
    (∀ one ∈ supplies change before directory.factory,
      (directory.attempt change before role).partition? (wellKnown one.1) =
        some ⟨(PartitionStore.startup one.2).2, .ready, false⟩) ∧
    (directory.attempt change before role).partition? (wellKnown role) =
      some ⟨(PartitionStore.startup
        (supply change role (spent change before directory.factory)).1).2, .creating, false⟩ ∧
    ∀ handle ∉ (before ++ [role]).map wellKnown,
      (directory.attempt change before role).partition? handle = directory.partition? handle := by
  have apart := not_mem_of_nodup distinct
  obtain ⟨added, kept⟩ := partition?_furnished change (List.nodup_append.mp distinct).1
    fun one member => absent one (List.mem_append_left _ member)
  have still := (kept _ apart).trans (absent role (by simp))
  have installed (handle : Handle) : (directory.attempt change before role).partition? handle = _ :=
    partition?_install change still .creating handle
  rw [factory_furnished] at installed
  refine ⟨fun one member => ?_, (installed _).trans (if_pos rfl), fun handle missing => ?_⟩
  · have other : wellKnown one.1 ≠ wellKnown role := by
      intro same
      exact apart (same ▸ List.mem_map_of_mem (mem_supplies member).1)
    exact ((installed _).trans (if_neg other)).trans (added one member)
  · rw [List.map_append, List.mem_append, not_or] at missing
    have other : handle ≠ wellKnown role := fun same => missing.2 (by simp [same])
    exact ((installed _).trans (if_neg other)).trans (kept handle missing.1)

theorem abandon_eq (distinct : (before ++ [role]).Nodup)
    (absent : ∀ other ∈ before ++ [role], directory.partition? (wellKnown other) = none) :
    directory.abandon change before role =
      { directory.attempt change before role with
        partitions := (directory.attempt change before role).partitions.modifyAll
          (before.map wellKnown) (·.retire) } := by
  refine stopBuilt_eq ((List.nodup_append.mp distinct).1.map wellKnown_injective) ?_
  intro handle member
  obtain ⟨one, listed, rfl⟩ := List.mem_map.mp member
  obtain ⟨store, supplied⟩ := mem_supplies_of_mem change directory.factory listed
  rw [held, (partition?_attempt change distinct absent).1 _ supplied]
  rfl

variable (change) in
theorem partition?_abandon (distinct : (before ++ [role]).Nodup)
    (absent : ∀ other ∈ before ++ [role], directory.partition? (wellKnown other) = none) :
    (∀ one ∈ supplies change before directory.factory,
      (directory.abandon change before role).partition? (wellKnown one.1) =
        some ⟨PartitionStore.shutdown (PartitionStore.startup one.2).2, .shutDown, false⟩) ∧
    (directory.abandon change before role).partition? (wellKnown role) =
      some ⟨(PartitionStore.startup
        (supply change role (spent change before directory.factory)).1).2, .creating, false⟩ ∧
    ∀ handle ∉ (before ++ [role]).map wellKnown,
      (directory.abandon change before role).partition? handle = directory.partition? handle := by
  obtain ⟨ready, failed, kept⟩ := partition?_attempt change distinct absent
  have retired (handle : Handle) : (directory.abandon change before role).partition? handle =
      if handle ∈ before.map wellKnown then
        ((directory.attempt change before role).partition? handle).map (·.retire)
      else (directory.attempt change before role).partition? handle := by
    rw [abandon_eq distinct absent]
    exact Registry.get?_modifyAll
      ((List.nodup_append.mp distinct).1.map wellKnown_injective) handle
  refine ⟨fun one member => ?_, ?_, fun handle missing => ?_⟩
  · rw [retired, if_pos (List.mem_map_of_mem (mem_supplies member).1), ready one member]
    rfl
  · rw [retired, if_neg (not_mem_of_nodup distinct), failed]
  · have other : handle ∉ before.map wellKnown := fun again => missing (by simp_all)
    rw [retired, if_neg other, kept handle missing]

end Abandoning

/-! ## All or nothing -/

end Directory

open Directory

/-- A factory that is asked for a store in memory makes one for that very partition, and one that
nobody has used yet. -/
def MakesFresh (φ : Type) [StoreFactory φ MemoryStore] : Prop :=
  ∀ (factory : φ) (id : PartitionId),
    (StoreFactory.make factory id).1.vitals = ⟨id, 0, false, false⟩

theorem MemoryStore.vitals_startup_of_fresh {store : MemoryStore} {id : PartitionId}
    (fresh : store.vitals = ⟨id, 0, false, false⟩) :
    store.startup.2.vitals = ⟨id, 1, store.startup.1 = .ok (), false⟩ := by
  obtain ⟨named, unused, unstarted, running⟩ : store.id = id ∧ store.startups = 0 ∧
      store.started = false ∧ store.stopped = false := by
    simpa [MemoryStore.vitals] using fresh
  cases failing : store.failing <;>
    simp [MemoryStore.startup, MemoryStore.vitals, named, unused, unstarted, running, failing]

theorem MemoryStore.startup_ne_excess (store : MemoryStore) (count : UInt64) :
    store.startup.1 ≠ .error (.excess count) := by
  unfold startup
  split
  · nofun
  · split <;> nofun

namespace Directory

variable {φ γ : Type} [StoreFactory φ MemoryStore]

structure Abandoned (left : Directory φ MemoryStore γ) (before : List (WellKnown × MemoryStore))
    (role : WellKnown) (store : MemoryStore) : Prop where
  undone : ∀ one ∈ before,
    left.partition? (wellKnown one.1) = some ⟨one.2.startup.2.shutdown, .shutDown, false⟩ ∧
      one.2.startup.2.shutdown.vitals = ⟨.wellKnown one.1, 1, true, true⟩
  failed : left.partition? (wellKnown role) = some ⟨store.startup.2, .creating, false⟩ ∧
    store.startup.2.vitals = ⟨.wellKnown role, 1, false, false⟩
  only : ∀ handle, (left.partition? handle).isSome = true ↔
    handle ∈ (before.map (·.1) ++ [role]).map wellKnown
  uninitialized : ∀ handle, left.storeInitialized handle = false
  unstuck : left.stuck = false

structure Founded (founded : Directory φ MemoryStore γ) (settings : Settings)
    (supplied : List (WellKnown × MemoryStore)) : Prop where
  ready : ∀ one ∈ supplied,
    founded.partition? (wellKnown one.1) = some ⟨one.2.startup.2, .ready, false⟩ ∧
      one.2.startup.2.vitals = ⟨.wellKnown one.1, 1, true, false⟩
  initialized : ∀ role, founded.isReady (wellKnown role) = true ∧
    founded.storeInitialized (wellKnown role) = true
  different : ∀ one other : WellKnown,
    founded.partition? (wellKnown one) = founded.partition? (wellKnown other) → one = other
  only : ∀ handle, (founded.partition? handle).isSome = true ↔
    handle ∈ WellKnown.all.map wellKnown
  untracked : founded.trackedClients = 0
  isolated : founded.isolated = settings.isolation
  unstuck : founded.stuck = false

/-- How the building of a directory ends, told from the stores that the factory would supply for
all well-known partitions. -/
structure AllOrNothing (unbuilt : Directory φ MemoryStore γ) (change : Moment → φ → φ)
    (settings : Settings) (result : Except Failure Unit × Directory φ MemoryStore γ) : Prop where
  refused : (∃ count, result.1 = .error (.excess count)) ↔ 64 < settings.seedPeers.toNat
  untouched : 64 < settings.seedPeers.toNat →
    result = (.error (.excess settings.seedPeers), unbuilt)
  succeeded : result.1 = .ok () ↔ settings.seedPeers.toNat ≤ 64 ∧
    Sound (supplies change WellKnown.all unbuilt.factory)
  abandoned : settings.seedPeers.toNat ≤ 64 → ∀ before role store after failure,
    supplies change WellKnown.all unbuilt.factory = before ++ (role, store) :: after →
    Sound before → store.startup.1 = .error failure →
    result.1 = .error failure ∧
      result.2.factory = spent change (before.map (·.1) ++ [role]) unbuilt.factory ∧
      Abandoned result.2 before role store
  founded : settings.seedPeers.toNat ≤ 64 →
    Sound (supplies change WellKnown.all unbuilt.factory) →
    result.2.factory = spent change WellKnown.all unbuilt.factory ∧
      Founded result.2 settings (supplies change WellKnown.all unbuilt.factory)

section Start

variable {change : Moment → φ → φ} {factory : φ} {sampler : Sampler} {enumerator : Enumerator}
  {outside : γ} {settings : Settings}

theorem vitals_supply (fresh : MakesFresh φ) (role : WellKnown) :
    (supply change role factory).1.startup.2.vitals =
      ⟨.wellKnown role, 1, (supply change role factory).1.startup.1 = .ok (), false⟩ :=
  MemoryStore.vitals_startup_of_fresh (fresh _ _)

theorem vitals_supplies (fresh : MakesFresh φ) {roles : List WellKnown}
    {one : WellKnown × MemoryStore} (member : one ∈ supplies change roles factory) :
    one.2.startup.2.vitals = ⟨.wellKnown one.1, 1, one.2.startup.1 = .ok (), false⟩ := by
  obtain ⟨-, before, made⟩ := mem_supplies member
  rw [made]
  exact vitals_supply fresh one.1

variable {directory : Directory φ MemoryStore γ}

omit [StoreFactory φ MemoryStore] in
theorem storeInitialized_of_partition? {handle : Handle} {store : MemoryStore} {stage : Lifecycle}
    {locked : Bool} (here : directory.partition? handle = some ⟨store, stage, locked⟩) :
    directory.storeInitialized handle = (store.vitals.started && !store.vitals.stopped) := by
  simp [storeInitialized, ask, store?, here, PartitionStore.isInitialized,
    MemoryStore.isInitialized, MemoryStore.vitals]

theorem abandoned_abandon (fresh : MakesFresh φ) {before : List WellKnown} {role : WellKnown}
    {failure : Failure} (empty : ∀ handle, directory.partition? handle = none)
    (unstuck : directory.stuck = false) (distinct : (before ++ [role]).Nodup)
    (sound : Sound (supplies change before directory.factory))
    (failed : (supply change role (spent change before directory.factory)).1.startup.1 =
      .error failure) :
    Abandoned (directory.abandon change before role) (supplies change before directory.factory) role
      (supply change role (spent change before directory.factory)).1 := by
  obtain ⟨undone, failing, kept⟩ := partition?_abandon change distinct fun other _ =>
    empty (wellKnown other)
  have down : ∀ one ∈ supplies change before directory.factory,
      one.2.startup.2.shutdown.vitals = ⟨.wellKnown one.1, 1, true, true⟩ := by
    intro one member
    have started : one.2.startup.1 = .ok () := sound one member
    rw [MemoryStore.vitals_shutdown, vitals_supplies fresh member, started]
    rfl
  have idle : (supply change role (spent change before directory.factory)).1.startup.2.vitals =
      ⟨.wellKnown role, 1, false, false⟩ := by
    rw [vitals_supply fresh, failed]
    rfl
  have empty_of_missing {handle : Handle} (missing : handle ∉ (before ++ [role]).map wellKnown) :
      (directory.abandon change before role).partition? handle = none :=
    (kept handle missing).trans (empty handle)
  have built {handle : Handle} (listed : handle ∈ (before ++ [role]).map wellKnown) :
      (∃ one ∈ supplies change before directory.factory, handle = wellKnown one.1) ∨
        handle = wellKnown role := by
    rcases List.mem_append.mp (List.map_append ▸ listed) with earlier | last
    · obtain ⟨other, member, rfl⟩ := List.mem_map.mp earlier
      obtain ⟨store, supplied⟩ := mem_supplies_of_mem change directory.factory member
      exact Or.inl ⟨_, supplied, rfl⟩
    · exact Or.inr (List.mem_singleton.mp last)
  constructor
  case undone => exact fun one member => ⟨undone one member, down one member⟩
  case failed => exact ⟨failing, idle⟩
  case only =>
    intro handle
    rw [map_fst_supplies]
    by_cases listed : handle ∈ (before ++ [role]).map wellKnown
    · refine iff_of_true ?_ listed
      rcases built listed with ⟨one, member, rfl⟩ | rfl
      · rw [undone one member, Option.isSome_some]
      · rw [failing, Option.isSome_some]
    · exact iff_of_false (by simp [empty_of_missing listed]) listed
  case uninitialized =>
    intro handle
    by_cases listed : handle ∈ (before ++ [role]).map wellKnown
    · rcases built listed with ⟨one, member, rfl⟩ | rfl
      · rw [storeInitialized_of_partition? (undone one member)]
        exact congrArg (fun vitals : Vitals => vitals.started && !vitals.stopped) (down one member)
      · rw [storeInitialized_of_partition? failing]
        exact congrArg (fun vitals : Vitals => vitals.started && !vitals.stopped) idle
    · simp [storeInitialized, ask, store?, empty_of_missing listed]
  case unstuck =>
    rw [abandon_eq distinct fun other _ => empty (wellKnown other)]
    exact (keeps_furnished (·.stuck) (fun _ _ => rfl) before).trans unstuck

theorem founded_furnish (fresh : MakesFresh φ)
    (empty : ∀ handle, directory.partition? handle = none) (unstuck : directory.stuck = false)
    (untracked : directory.clients = ∅)
    (sound : Sound (supplies change WellKnown.all directory.factory)) (event : LogEvent) :
    Founded
      ({ WellKnown.all.foldl (furnish change) directory with
        policy := ⟨settings.isolation⟩
        seedPeers := settings.seedPeers.toNat }.note event)
      settings (supplies change WellKnown.all directory.factory) := by
  have distinct : WellKnown.all.Nodup := by decide
  obtain ⟨added, kept⟩ := partition?_furnished change distinct fun role _ =>
    empty (wellKnown role)
  have running : ∀ one ∈ supplies change WellKnown.all directory.factory,
      one.2.startup.2.vitals = ⟨.wellKnown one.1, 1, true, false⟩ := by
    intro one member
    have started : one.2.startup.1 = .ok () := sound one member
    rw [vitals_supplies fresh member, started]
    rfl
  have stands (role : WellKnown) : ∃ store : MemoryStore,
      (WellKnown.all.foldl (furnish change) directory).partition? (wellKnown role) =
        some ⟨store, .ready, false⟩ ∧ store.vitals = ⟨.wellKnown role, 1, true, false⟩ := by
    have listed : role ∈ WellKnown.all := by cases role <;> decide
    obtain ⟨store, supplied⟩ := mem_supplies_of_mem change directory.factory listed
    exact ⟨_, added _ supplied, running _ supplied⟩
  constructor
  case ready => exact fun one member => ⟨added one member, running one member⟩
  case initialized =>
    intro role
    obtain ⟨store, here, vitals⟩ := stands role
    constructor
    · simp [isReady, note, partition?, show Registry.get? _ _ = _ from here]
    · refine (storeInitialized_of_partition? here).trans ?_
      rw [vitals]
      rfl
  case different =>
    intro one other same
    obtain ⟨store, here, vitals⟩ := stands one
    obtain ⟨again, there, others⟩ := stands other
    have equal : some (⟨store, .ready, false⟩ : Partition MemoryStore) = _ :=
      here.symm.trans (same.trans there)
    cases equal
    exact PartitionId.wellKnown.inj (congrArg Vitals.id (vitals.symm.trans others))
  case only =>
    intro handle
    by_cases listed : handle ∈ WellKnown.all.map wellKnown
    · obtain ⟨role, -, rfl⟩ := List.mem_map.mp listed
      obtain ⟨store, here, -⟩ := stands role
      exact iff_of_true (Option.isSome_iff_exists.mpr ⟨_, here⟩) listed
    · refine iff_of_false ?_ listed
      rw [Bool.not_eq_true, Option.isSome_eq_false_iff, Option.isNone_iff_eq_none]
      exact (kept handle listed).trans (empty handle)
  case untracked =>
    have none : (WellKnown.all.foldl (furnish change) directory).clients = ∅ :=
      (keeps_furnished (·.clients) (fun _ _ => rfl) WellKnown.all).trans untracked
    exact congrArg Clients.size none
  case isolated => rfl
  case unstuck => exact (keeps_furnished (·.stuck) (fun _ _ => rfl) _).trans unstuck

theorem start_of_excess (much : 64 < settings.seedPeers.toNat) :
    directory.start (.tuning change) settings =
      (.error (.excess settings.seedPeers), directory) := by
  have excess : settings.excess? = some settings.seedPeers := if_pos much
  simp only [start, excess]

theorem start_of_sound (fits : settings.seedPeers.toNat ≤ 64)
    (sound : Sound (supplies change WellKnown.all directory.factory)) :
    directory.start (.tuning change) settings =
      (.ok (), { WellKnown.all.foldl (furnish change) directory with
        policy := ⟨settings.isolation⟩
        seedPeers := settings.seedPeers.toNat }.note
        (.started settings.isolation settings.seedPeers.toNat)) := by
  have excess : settings.excess? = none := if_neg (Nat.not_lt.mpr fits)
  simp only [start, excess, startAll_of_sound sound]

theorem start_of_failure (fits : settings.seedPeers.toNat ≤ 64) {before after : List WellKnown}
    {role : WellKnown} {failure : Failure} (order : WellKnown.all = before ++ role :: after)
    (sound : Sound (supplies change before directory.factory))
    (failed : (supply change role (spent change before directory.factory)).1.startup.1 =
      .error failure) :
    directory.start (.tuning change) settings =
      (.error failure, directory.abandon change before role) := by
  have excess : settings.excess? = none := if_neg (Nat.not_lt.mpr fits)
  simp only [start, excess, order, startAll_of_failure sound failed]
  rfl

theorem allOrNothing_start (fresh : MakesFresh φ)
    (empty : ∀ handle, directory.partition? handle = none) (unstuck : directory.stuck = false)
    (untracked : directory.clients = ∅) :
    AllOrNothing directory change settings (directory.start (.tuning change) settings) := by
  have ended : settings.seedPeers.toNat ≤ 64 →
      (Sound (supplies change WellKnown.all directory.factory) ∧
        (directory.start (.tuning change) settings).1 = .ok ()) ∨
      (¬Sound (supplies change WellKnown.all directory.factory) ∧
        ∃ (store : MemoryStore) (failure : Failure), store.startup.1 = .error failure ∧
          (directory.start (.tuning change) settings).1 = .error failure) := by
    intro fits
    rcases sound_or_split (supplies change WellKnown.all directory.factory) with
      sound | ⟨before, role, store, after, failure, split, sound, failed⟩
    · exact Or.inl ⟨sound, by rw [start_of_sound fits sound]⟩
    · refine Or.inr ⟨fun all => ?_, store, failure, failed, ?_⟩
      · have started := all (role, store) (by simp [split])
        cases started.symm.trans failed
      · obtain ⟨earlier, later, order, rfl, rfl⟩ := supplies_eq_append split
        rw [start_of_failure fits order sound failed]
  constructor
  case refused =>
    constructor
    · rintro ⟨count, refused⟩
      by_contra fits
      rcases ended (Nat.not_lt.mp fits) with ⟨-, started⟩ | ⟨-, store, failure, failed, given⟩
      · cases started.symm.trans refused
      · cases given.symm.trans refused
        exact store.startup_ne_excess count failed
    · exact fun much => ⟨_, by rw [start_of_excess much]⟩
  case untouched => exact start_of_excess
  case succeeded =>
    constructor
    · intro started
      by_cases much : 64 < settings.seedPeers.toNat
      · rw [start_of_excess much] at started
        cases started
      · rcases ended (Nat.not_lt.mp much) with ⟨sound, -⟩ | ⟨-, store, failure, -, given⟩
        · exact ⟨Nat.not_lt.mp much, sound⟩
        · cases started.symm.trans given
    · rintro ⟨fits, sound⟩
      rw [start_of_sound fits sound]
  case abandoned =>
    intro fits before role store after failure split sound failed
    obtain ⟨earlier, later, order, rfl, rfl⟩ := supplies_eq_append split
    have distinct : (earlier ++ [role]).Nodup := by
      have all : (earlier ++ [role] ++ later).Nodup := by
        rw [← List.append_cons, ← order]
        decide
      exact (List.nodup_append.mp all).1
    rw [start_of_failure fits order sound failed]
    refine ⟨rfl, ?_, abandoned_abandon fresh empty unstuck distinct sound failed⟩
    rw [abandon_eq distinct fun other _ => empty (wellKnown other), map_fst_supplies, spent,
      List.foldl_append]
    exact congrArg (fun factory => (supply change role factory).2) factory_furnished
  case founded =>
    intro fits sound
    rw [start_of_sound fits sound]
    exact ⟨factory_furnished, founded_furnish fresh empty unstuck untracked sound _⟩

/-- Building a directory, whatever becomes of the factory while it is asked for stores and while
they are started. -/
theorem start_all_or_nothing (fresh : MakesFresh φ) (change : Moment → φ → φ) (factory : φ)
    (sampler : Sampler) (enumerator : Enumerator) (outside : γ) (settings : Settings) :
    AllOrNothing (unbuilt factory sampler enumerator outside) change settings
      (start (unbuilt factory sampler enumerator outside) (.tuning change) settings) :=
  allOrNothing_start fresh (partition?_unbuilt factory sampler enumerator outside) rfl rfl

def ambush : Moment → MemoryFactory → MemoryFactory
  | .startup (.wellKnown .main), factory => factory.fail (.wellKnown .exploratory)
  | _, factory => factory

theorem ambush_undoes_both :
    MakesFresh MemoryFactory ∧ ∃ before store,
      before.map (·.1) = [WellKnown.main, .multihome] ∧
      Abandoned (start (unbuilt .plain .first .unrestricted ()) (.tuning ambush) .standard).2 before
        .exploratory store := by
  have fresh : MakesFresh MemoryFactory := fun factory id => factory.vitals_fresh id
  have whole := start_all_or_nothing fresh ambush .plain .first .unrestricted () .standard
  have given := whole.abandoned (by decide)
    ((supplies ambush WellKnown.all MemoryFactory.plain).take 2) .exploratory _ []
    (.startup (.wellKnown .exploratory) "startup refused") rfl (by decide +kernel)
    (by decide +kernel)
  exact ⟨fresh, _, _, by decide +kernel, given.2.2⟩

end Start

end Directory

end PeerDirectory

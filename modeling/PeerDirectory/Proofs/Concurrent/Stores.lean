import PeerDirectory.Proofs.Concurrent.Course
import Mathlib.Algebra.GroupWithZero.Nat

namespace PeerDirectory

variable {φ σ γ : Type} [PartitionStore σ] [StoreFactory φ σ]

def Planted : σ → σ → Prop :=
  Relation.ReflTransGen fun before after =>
    ∃ key entry, after = (PartitionStore.insert before key entry).2

/-- A store that was started once, with this result. Only if it started may entries have been put
into it since. -/
inductive StartedOnce (made : σ) : Except Failure Unit → σ → Prop
  | started {store} (accepts : (PartitionStore.startup made).1 = .ok ())
      (planted : Planted (PartitionStore.startup made).2 store) : StartedOnce made (.ok ()) store
  | failed {failure} (refuses : (PartitionStore.startup made).1 = .error failure) :
      StartedOnce made (.error failure) (PartitionStore.startup made).2

def later (client : Hash) (factory : φ) : φ := (StoreFactory.make factory (.client client)).2

def provision (client : Hash) (factory : φ) (count : Nat) : σ :=
  (StoreFactory.make ((later client)^[count] factory) (.client client)).1

def Makes (outcome : Except Failure Unit → Prop) (client : Hash) (factory : φ) : Prop :=
  ∀ count, outcome (PartitionStore.startup (provision client factory count)).1

/-- A count of startups that can be told from a store. -/
structure Tallies (φ : Type) [StoreFactory φ σ] (tally : σ → Nat) : Prop where
  made : ∀ (factory : φ) (id : PartitionId), tally (StoreFactory.make factory id).1 = 0
  startup : ∀ (factory : φ) (id : PartitionId),
    tally (PartitionStore.startup (StoreFactory.make factory id).1).2 = 1
  insert : ∀ (store : σ) (key : Hash) (entry : Entry),
    tally (PartitionStore.insert store key entry).2 = tally store

section Results

variable {made store : σ} {result : Except Failure Unit}

theorem startedOnce_startup (made : σ) :
    StartedOnce made (PartitionStore.startup made).1 (PartitionStore.startup made).2 := by
  cases result : (PartitionStore.startup made).1 with
  | ok _ => exact .started result .refl
  | error failure => exact .failed result

theorem StartedOnce.result_eq (once : StartedOnce made result store) :
    (PartitionStore.startup made).1 = result := by
  cases once with
  | started accepts _ => exact accepts
  | failed refuses => exact refuses

theorem StartedOnce.planted {after : σ} (once : StartedOnce made (.ok ()) store)
    (planted : Planted store after) : StartedOnce made (.ok ()) after := by
  cases once with
  | started accepts before => exact .started accepts (before.trans planted)

omit [PartitionStore σ] in
theorem sum_map_eq_countP {α : Type} {things : List α} {count : α → Nat} {counted : α → Bool}
    (each : ∀ thing ∈ things, count thing = (counted thing).toNat) :
    (things.map count).sum = things.countP counted := by
  induction things with
  | nil => rfl
  | cons thing rest ih =>
    rw [List.map_cons, List.sum_cons, List.countP_cons, each thing List.mem_cons_self,
      ih fun other member => each other (List.mem_cons_of_mem _ member)]
    cases counted thing <;> simp [Nat.add_comm]

theorem Tallies.planted {tally : σ → Nat} (tallies : Tallies φ tally) {after : σ}
    (planted : Planted store after) : tally after = tally store := by
  induction planted with
  | refl => rfl
  | tail _ inserted ih =>
    obtain ⟨key, entry, rfl⟩ := inserted
    rw [tallies.insert, ih]

theorem Tallies.startedOnce {tally : σ → Nat} (tallies : Tallies φ tally) {factory : φ}
    {id : PartitionId} (once : StartedOnce (StoreFactory.make factory id).1 result store) :
    tally store = 1 := by
  cases once with
  | started _ planted => rw [tallies.planted planted, tallies.startup]
  | failed _ => exact tallies.startup factory id

end Results

namespace Directory

variable {directory : Directory φ σ γ} {handle : Handle} {store : σ}

def PlantedAt (handle : Handle) (a b : Directory φ σ γ) : Prop :=
  ∀ {store}, a.store? handle = some store →
    ∃ after, b.store? handle = some after ∧ Planted store after

omit [StoreFactory φ σ] in
theorem plantedAt_insert (directory : Directory φ σ γ) (handle : Handle) (key : Hash)
    (entry : Entry) : PlantedAt handle directory (directory.insert handle key entry).2 := by
  intro store present
  refine ⟨(PartitionStore.insert store key entry).2, ?_, .single ⟨key, entry, rfl⟩⟩
  obtain ⟨partition, here, rfl⟩ := Option.map_eq_some_iff.mp present
  simp [insert, store?, here, setStore, partition?_modify]

omit [StoreFactory φ σ] in
theorem plantedAt_seedPeers (handle : Handle) (peers : List Hash) (sofar : Nat × Directory φ σ γ) :
    PlantedAt handle sofar.2 (peers.foldl (seedPeer handle) sofar).2 := by
  induction peers generalizing sofar with
  | nil => exact fun present => ⟨_, present, .refl⟩
  | cons peer rest ih =>
    have first : PlantedAt handle sofar.2 (seedPeer handle sofar peer).2 := by
      simp only [seedPeer]
      split
      · exact fun present => ⟨_, present, .refl⟩
      · split <;> exact plantedAt_insert _ _ _ _
    intro store present
    obtain ⟨middle, there, planted⟩ := first present
    obtain ⟨after, last, more⟩ := ih _ there
    exact ⟨after, last, planted.trans more⟩

omit [StoreFactory φ σ] in
theorem plantedAt_seed (directory : Directory φ σ γ) (handle : Handle) :
    PlantedAt handle directory (directory.seed handle) := by
  simp only [seed]
  split
  · exact fun present => ⟨_, present, .refl⟩
  · split
    · exact fun present => ⟨_, present, .refl⟩
    · exact plantedAt_seedPeers handle _ (0, directory)

end Directory

namespace Machine

variable {n : Nat} {initial : Directory φ σ γ} {client : Hash} {machine next : Machine φ σ γ n}
  {thread : Fin n} {handle : Handle}

def made (initial : Directory φ σ γ) (handle : Handle) (client : Hash) : σ :=
  provision client initial.factory
    (handle.generation - (initial.partitions.next (.client client)).generation)

/-- How often the stores that were built since were started, by a tally. -/
def startups (initial : Directory φ σ γ) (tally : σ → Nat) (directory : Directory φ σ γ) : Nat :=
  ((directory.partitions.handles.filter fun handle => (initial.stage? handle).isNone).map
    fun handle => (directory.store? handle).elim 0 tally).sum

/-- Of all stores only these were started, by as many startups as there are names. The others that
were built since are as the factory made them. -/
structure OnlyStarted (initial : Directory φ σ γ) (client : Hash) (directory : Directory φ σ γ)
    (handles : List Handle) : Prop where
  older : ∀ {handle}, initial.stage? handle ≠ none →
    directory.store? handle = initial.store? handle
  untried : ∀ {handle store}, initial.stage? handle = none →
    directory.store? handle = some store → handle ∉ handles → store = made initial handle client
  total : ∀ tally : σ → Nat, Tallies φ tally →
    startups initial tally directory = handles.length

theorem OnlyStarted.perm {directory : Directory φ σ γ} {handles others : List Handle}
    (only : OnlyStarted initial client directory handles) (same : handles.Perm others) :
    OnlyStarted initial client directory others where
  older := only.older
  untried young present apart :=
    only.untried young present fun member => apart (same.mem_iff.mp member)
  total tally tallies := (only.total tally tallies).trans same.length_eq

structure Traced (initial : Directory φ σ γ) (client : Hash) (machine : Machine φ σ γ n) :
    Prop where
  factory : ∃ count, machine.directory.factory = (later client)^[count] initial.factory ∧
    (machine.directory.partitions.next (.client client)).generation =
      (initial.partitions.next (.client client)).generation + count
  older : ∀ {handle}, initial.stage? handle ≠ none →
    machine.directory.store? handle = initial.store? handle
  untried : ∀ {handle store}, initial.stage? handle = none →
    machine.directory.store? handle = some store →
    (∀ attempt ∈ machine.attempts, attempt.handle ≠ handle) → store = made initial handle client
  fresh : ∀ attempt ∈ machine.attempts, initial.stage? attempt.handle = none
  tried : ∀ attempt ∈ machine.attempts, ∃ store,
    machine.directory.store? attempt.handle = some store ∧
      StartedOnce (made initial attempt.handle client) attempt.result store

theorem traced_idle (initial : Directory φ σ γ) (client : Hash) (n : Nat) :
    Traced initial client (idle initial n) where
  factory := ⟨0, rfl, rfl⟩
  older _ := rfl
  untried young present := by
    obtain ⟨partition, here, -⟩ := Option.map_eq_some_iff.mp present
    change initial.partition? _ = some partition at here
    simp [Directory.stage?, here] at young
  fresh _ member := by cases member
  tried _ member := by cases member

theorem Traced.create (traced : Traced initial client machine)
    (course : Course initial client machine)
    (factory : next.directory.factory =
      (StoreFactory.make machine.directory.factory (.client client)).2)
    (number : (next.directory.partitions.next (.client client)).generation =
      (machine.directory.partitions.next (.client client)).generation + 1)
    (stores : ∀ handle, next.directory.store? handle =
      if handle = machine.directory.partitions.next (.client client) then
        some (StoreFactory.make machine.directory.factory (.client client)).1
      else machine.directory.store? handle)
    (attempts : next.attempts = machine.attempts) : Traced initial client next := by
  obtain ⟨count, made_, counted⟩ := traced.factory
  have vacant : machine.directory.partition? (machine.directory.partitions.next (.client client)) =
      none := Registry.get?_next _ _
  constructor
  case factory =>
    refine ⟨count + 1, ?_, by omega⟩
    rw [factory, made_, Function.iterate_succ_apply']
    rfl
  case older =>
    intro handle old
    rw [stores, if_neg, traced.older old]
    rintro rfl
    exact old (course.sound.absent (congrArg (Option.map _) vacant))
  case untried =>
    intro handle store young present news
    rw [stores] at present
    split at present
    · rename_i same
      cases present
      rw [made, same, counted, Nat.add_sub_cancel_left, provision, made_]
    · exact traced.untried young present (attempts ▸ news)
  case fresh => exact fun attempt member => traced.fresh attempt (attempts ▸ member)
  case tried =>
    intro attempt member
    obtain ⟨store, present, once⟩ := traced.tried attempt (attempts ▸ member)
    refine ⟨store, ?_, once⟩
    rw [stores, if_neg, present]
    intro same
    rw [same, Directory.store?, vacant] at present
    cases present

theorem Traced.startup (traced : Traced initial client machine)
    (course : Course initial client machine) (here : machine.phases thread = .startup handle) :
    ∃ store, (machine.directory.startStore (.quiet 0) handle).2.store? handle = some store ∧
      StartedOnce (made initial handle client)
        (machine.directory.startStore (.quiet 0) handle).1 store := by
  have about : ((machine.view client).phases thread).handle? = some handle :=
    congrArg Phase.handle? here
  obtain ⟨stands, -, untried⟩ := course.sound.fits_of here
  obtain ⟨partition, present, -⟩ := Option.map_eq_some_iff.mp stands
  have stored : machine.directory.store? handle = some partition.store := by
    simp [Directory.store?, present]
  have same := traced.untried (course.sound.about about) stored untried
  simp only [Directory.startStore, Surroundings.quiet, stored]
  refine ⟨(PartitionStore.startup partition.store).2, ?_, same ▸ startedOnce_startup _⟩
  simp [Directory.store?, Directory.setStore, Directory.partition?_modify, present]

theorem Traced.seed (traced : Traced initial client machine)
    (course : Course initial client machine) (here : machine.phases thread = .seed handle) :
    ∃ store, (machine.directory.seed handle).store? handle = some store ∧
      StartedOnce (made initial handle client) (.ok ()) store := by
  obtain ⟨store, present, once⟩ := traced.tried _ (course.sound.fits_of here).2
  obtain ⟨after, there, planted⟩ := Directory.plantedAt_seed machine.directory handle present
  exact ⟨after, there, once.planted planted⟩

omit [StoreFactory φ σ] in
theorem mem_tried {attempt : Attempt n} (member : attempt ∈ machine.tried thread) :
    attempt ∈ machine.attempts ∨ ∃ handle, machine.phases thread = .startup handle ∧
      attempt = ⟨thread, handle, (machine.directory.startStore (.quiet 0) handle).1⟩ := by
  simp only [Machine.tried] at member
  split at member
  · rename_i handle here
    exact (List.mem_cons.mp member).symm.imp_right fun same => ⟨handle, here, same⟩
  · exact Or.inl member

theorem Traced.step (traced : Traced initial client machine)
    (course : Course initial client machine) (stepped : machine.step client thread = some next) :
    Traced initial client next := by
  have act := course.act stepped
  obtain ⟨after, directory, advanced, rfl⟩ := advanced_of_step rfl stepped
  rcases Directory.advance_stores advanced with
    ⟨creating, factory, number, stores⟩ | ⟨factory, number, stores⟩
  · exact traced.create course factory number stores (by simp only [Machine.tried, creating])
  have fresh {handle : Handle} (here : (machine.phases thread).handle? = some handle) :
      initial.stage? handle = none := course.sound.about here
  -- A store changes only when it is started or seeded, and then an attempt names it.
  constructor
  case factory => exact factory ▸ number ▸ traced.factory
  case older =>
    intro handle old
    rw [← traced.older old]
    refine stores handle (fun here => old (fresh ?_)) fun here => old (fresh ?_) <;> rw [here] <;>
      rfl
  case untried =>
    intro handle store young present news
    have before := fun attempt member => news attempt (act.mem_attempts member)
    rw [stores handle] at present
    · exact traced.untried young present before
    · intro here
      refine news ⟨thread, handle, (machine.directory.startStore (.quiet 0) handle).1⟩ ?_ rfl
      simp only [Machine.tried, here]
      exact List.mem_cons_self
    · intro here
      exact before _ (course.sound.fits_of here).2 rfl
  case fresh =>
    intro attempt member
    rcases mem_tried member with earlier | ⟨handle, here, rfl⟩
    · exact traced.fresh attempt earlier
    · exact fresh (congrArg Phase.handle? here)
  case tried =>
    intro attempt member
    by_cases earlier : attempt ∈ machine.attempts
    · by_cases seeding : machine.phases thread = .seed attempt.handle
      · have only := course.sound.attempt_unique earlier (course.sound.fits_of seeding).2 rfl
        rw [seeding] at advanced
        cases advanced
        rw [only]
        exact traced.seed course seeding
      · obtain ⟨store, present, once⟩ := traced.tried attempt earlier
        refine ⟨store, (stores _ (fun here => ?_) seeding).trans present, once⟩
        exact (course.sound.fits_of here).2.2 attempt earlier rfl
    · obtain ⟨handle, here, rfl⟩ := (mem_tried member).resolve_left earlier
      rw [here] at advanced
      cases advanced
      exact traced.startup course here

theorem Traced.run (traced : Traced initial client machine)
    (course : Course initial client machine) {schedule : List (Fin n)}
    (ran : machine.run client schedule = some next) : Traced initial client next := by
  induction schedule generalizing machine with
  | nil =>
    cases ran
    exact traced
  | cons thread rest ih =>
    obtain ⟨after, stepped, ran⟩ := Option.bind_eq_some_iff.mp ran
    exact ih (traced.step course stepped) (course.step stepped) ran

theorem Traced.onlyStarted (traced : Traced initial client machine)
    (course : Course initial client machine) :
    OnlyStarted initial client machine.directory (machine.attempts.map (·.handle)) where
  older := traced.older
  untried young present apart := traced.untried young present fun attempt member same =>
    apart (List.mem_map.mpr ⟨attempt, member, same⟩)
  total tally tallies := by
    let young := machine.directory.partitions.handles.filter fun handle =>
      (initial.stage? handle).isNone
    let tried := machine.attempts.map (·.handle)
    have each (handle : Handle) (member : handle ∈ young) :
        (machine.directory.store? handle).elim 0 tally = (decide (handle ∈ tried)).toNat := by
      obtain ⟨built, fresh⟩ := List.mem_filter.mp member
      by_cases named : handle ∈ tried
      · obtain ⟨attempt, listed, rfl⟩ := List.mem_map.mp named
        obtain ⟨store, present, once⟩ := traced.tried attempt listed
        simp [present, named, tallies.startedOnce once]
      · obtain ⟨partition, here⟩ := Option.ne_none_iff_exists'.mp (Registry.mem_handles.mp built)
        have present : machine.directory.store? handle = some partition.store :=
          congrArg (Option.map _) here
        have same := traced.untried (Option.isNone_iff_eq_none.mp fresh) present
          fun attempt listed same => named (List.mem_map.mpr ⟨attempt, listed, same⟩)
        simp [present, named, same, made, provision, tallies.made]
    have listed : List.Perm (young.filter fun handle => decide (handle ∈ tried)) tried := by
      refine (List.perm_ext_iff_of_nodup (((Registry.nodup_handles _).filter _).filter _)
        course.sound.handles).mpr fun handle => ?_
      rw [List.mem_filter, decide_eq_true_iff]
      refine ⟨And.right, fun named => ⟨List.mem_filter.mpr ?_, named⟩⟩
      obtain ⟨attempt, member, rfl⟩ := List.mem_map.mp named
      obtain ⟨store, present, -⟩ := traced.tried attempt member
      obtain ⟨partition, here, -⟩ := Option.map_eq_some_iff.mp present
      refine ⟨Registry.mem_handles.mpr ?_, Option.isNone_iff_eq_none.mpr
        (traced.fresh attempt member)⟩
      exact Option.ne_none_iff_exists'.mpr ⟨partition, here⟩
    calc startups initial tally machine.directory
      _ = young.countP fun handle => decide (handle ∈ tried) := sum_map_eq_countP each
      _ = (young.filter fun handle => decide (handle ∈ tried)).length :=
        List.countP_eq_length_filter
      _ = tried.length := listed.length_eq

theorem Traced.outcome {outcome : Except Failure Unit → Prop}
    (traced : Traced initial client machine) (makes : Makes outcome client initial.factory) :
    ∀ attempt ∈ machine.attempts, outcome attempt.result := by
  intro attempt member
  obtain ⟨store, -, once⟩ := traced.tried attempt member
  exact once.result_eq ▸ makes _

end Machine

end PeerDirectory

import PeerDirectory.Proofs.Directory.Seeding
import PeerDirectory.Proofs.Run.Points
import PeerDirectory.Proofs.Vitals

/-!
What is so of every store from when it is made. Stores in memory know which partition they are for,
and those of a factory without peculiarities refuse no keys.
-/

namespace PeerDirectory.Directory

variable {φ σ γ τ υ : Type} [PartitionStore σ] [StoreFactory φ σ] [Backdoor φ σ τ υ]
  {makes : φ → Prop} {keeps : PartitionId → σ → Prop}

structure Stored (makes : φ → Prop) (keeps : PartitionId → σ → Prop) (directory : Directory φ σ γ) :
    Prop where
  factory : makes directory.factory
  store : ∀ {handle store}, directory.store? handle = some store → keeps handle.id store

structure Perennial (makes : φ → Prop) (keeps : PartitionId → σ → Prop) : Prop where
  make : ∀ {factory} (id : PartitionId), makes factory →
    keeps id (StoreFactory.make factory id).1 ∧ makes (StoreFactory.make (σ := σ) factory id).2
  step : ∀ {id store after}, PartitionStore.Step store after → keeps id store → keeps id after
  tune : ∀ {factory} (tuning : τ), makes factory → makes (Backdoor.tune σ tuning factory)
  touch : ∀ {id store} (change : υ), keeps id store → keeps id (Backdoor.touch φ change store).2

section Changes

variable {directory other : Directory φ σ γ} {handle : Handle} {store after : σ}
  {surroundings : Surroundings φ σ γ}

omit [PartitionStore σ] [StoreFactory φ σ] [Backdoor φ σ τ υ] in
theorem Stored.congr (stored : Stored makes keeps directory)
    (factory : other.factory = directory.factory)
    (same : ∀ handle, other.store? handle = directory.store? handle) :
    Stored makes keeps other :=
  ⟨factory ▸ stored.factory, fun present => stored.store ((same _).symm.trans present)⟩

omit [PartitionStore σ] [StoreFactory φ σ] [Backdoor φ σ τ υ] in
theorem Stored.setStore (stored : Stored makes keeps directory)
    (present : directory.store? handle = some store) (kept : keeps handle.id after) :
    Stored makes keeps (directory.setStore handle after) := by
  refine ⟨stored.factory, fun {other found} here => ?_⟩
  by_cases same : other = handle
  · subst same
    obtain rfl := Option.some.inj ((store?_setStore present).symm.trans here)
    exact kept
  · rw [store?_setStore_of_ne same] at here
    exact stored.store here

theorem Perennial.build (perennial : Perennial makes keeps)
    (stored : Stored makes keeps directory) (id : PartitionId) :
    Stored makes keeps
      { directory with
        factory := (StoreFactory.make directory.factory id).2
        partitions := directory.partitions.add id
          ⟨(StoreFactory.make directory.factory id).1, .creating, false⟩ } := by
  obtain ⟨made, factory⟩ := perennial.make id stored.factory
  refine ⟨factory, fun {handle store} present => ?_⟩
  simp only [store?, partition?, Registry.get?_add] at present
  split at present
  · rename_i new
    cases present
    rw [new]
    exact made
  · exact stored.store present

theorem Perennial.keeping (perennial : Perennial makes keeps)
    (react : ∀ moment directory, Stored makes keeps directory →
      Stored makes keeps (surroundings.react moment directory)) :
    surroundings.Keeping (Stored makes keeps) := by
  intro before after change stored
  cases change with
  | react moment => exact react moment before stored
  | wait => exact stored.congr rfl fun _ => rfl
  | note => exact stored.congr rfl fun _ => rfl
  | adjust => exact stored.congr rfl fun _ => rfl
  | build id => exact perennial.build stored id
  | setLifecycle => exact stored.congr rfl fun _ => store?_modify fun _ => rfl
  | setLocked => exact stored.congr rfl fun _ => store?_modify fun _ => rfl
  | setStore present step => exact stored.setStore present (perennial.step step (stored.store present))

theorem Perennial.untouched (perennial : Perennial makes keeps) :
    Untouched (Stored makes keeps : Directory φ σ γ → Prop) :=
  ⟨fun tuning stored => ⟨perennial.tune tuning stored.factory, stored.store⟩,
    fun change present stored =>
      stored.setStore present (perennial.touch change (stored.store present))⟩

end Changes

section Runs

variable {permitted : Call τ υ → Prop} {a b : Position φ σ τ υ}

theorem Perennial.move (perennial : Perennial makes keeps) (move : Move permitted a b)
    (stored : Stored makes keeps a.run) : Stored makes keeps b.run :=
  move.keeps (perennial.keeping fun _ _ stored => stored) perennial.untouched
    (fun _ stored => stored.congr rfl fun _ => rfl) stored

theorem Perennial.start (perennial : Perennial makes keeps) {factory : φ} (made : makes factory)
    {change : Moment → φ → φ}
    (tuned : ∀ moment factory, makes factory → makes (change moment factory))
    (sampler : Sampler) (enumerator : Enumerator) (outside : γ) (settings : Settings) :
    Stored makes keeps
      (start (unbuilt factory sampler enumerator outside) (.tuning change) settings).2 := by
  apply kept_start settings
  · exact perennial.keeping fun moment _ stored => ⟨tuned moment _ stored.factory, stored.store⟩
  · refine ⟨made, fun {handle store} present => ?_⟩
    simp [store?, partition?_unbuilt] at present

theorem Perennial.makeAll (perennial : Perennial makes keeps) {busy : List Handle}
    {run : Run φ σ τ υ}
    {habit : Habit φ σ τ υ} {turns depth : Nat} {calls : List (Call τ υ)}
    (reached : Reached busy run) (stored : Stored makes keeps run)
    (unstuck : (run.makeAll (others habit turns depth) calls).stuck = false) :
    Stored makes keeps (run.makeAll (others habit turns depth) calls) ∧
      ∀ point ∈ (run.makeAll (others habit turns depth) calls).outside.points,
        point ∈ run.outside.points ∨ Stored makes keeps point.state := by
  have considerate : Considerate (fun _ => True) (others habit turns depth) :=
    considerate_others (fun _ _ _ _ => trivial) turns depth
  have path := (considerate.makeAll reached.orderly reached.covered (fun _ _ => trivial) unstuck).path
  exact ⟨path.kept (fun move _ stored => perennial.move move stored) reached.orderly stored,
    path.points (fun move _ stored => perennial.move move stored)
      (fun _ stored => ⟨stored.factory, stored.store⟩) reached.orderly stored⟩

end Runs

variable {run : Run MemoryFactory MemoryStore Tuning Blinding}

/-- Every store carries the id of its partition. -/
def Labelled (directory : Directory MemoryFactory MemoryStore γ) : Prop :=
  Stored (fun _ => True) (fun id store => store.id = id) directory

def Plain (directory : Directory MemoryFactory MemoryStore γ) : Prop :=
  Stored (·.peculiarities = []) (fun _ store => store.refused = []) directory

theorem perennial_labelled :
    Perennial (fun _ : MemoryFactory => True) (fun id (store : MemoryStore) => store.id = id) where
  make id _ := ⟨congrArg Vitals.id (MemoryFactory.vitals_fresh _ id), trivial⟩
  step {_ store _} step named := by
    cases step with
    | startup => exact store.id_startup.trans named
    | shutdown => exact named
    | insert key entry => exact (congrArg Vitals.id (store.vitals_insert key entry)).trans named
  tune _ _ := trivial
  touch {id store} change named := (congrArg Vitals.id (store.vitals_setBlinding change)).trans named

theorem perennial_plain : Perennial (fun factory : MemoryFactory => factory.peculiarities = [])
    (fun _ (store : MemoryStore) => store.refused = []) where
  make {factory} id plain := by
    refine ⟨(MemoryFactory.refused_fresh factory id).trans ?_, plain⟩
    rw [MemoryFactory.peculiarity, plain]
    rfl
  step {_ store _} step accepting := by
    cases step with
    | startup => exact store.refused_startup.trans accepting
    | shutdown => exact accepting
    | insert key entry => exact (store.refused_insert key entry).trans accepting
  tune tuning plain := by
    cases tuning with
    | fail id => exact plain
    | allow id => exact plain
  touch {id store} change accepting := (store.refused_setBlinding change).trans accepting

theorem Built.labelled (built : Built run) : Labelled run := by
  obtain ⟨factory, sampler, enumerator, settings, change, started⟩ := built
  obtain rfl : _ = run := congrArg Prod.snd started
  exact perennial_labelled.start trivial (fun _ _ _ => trivial) sampler enumerator _ settings

theorem Reached.labelled {busy : List Handle} (reached : Reached busy run) : Labelled run := by
  obtain ⟨start, built, path⟩ := reached.path
  exact path.kept (fun move _ labelled => perennial_labelled.move move labelled) built.bare.orderly
    built.labelled

/-- A factory without peculiarities never makes a store that refuses a key. -/
theorem plain_makeAll {factory : MemoryFactory} (plain : factory.peculiarities = [])
    {change : Moment → MemoryFactory → MemoryFactory}
    (tuned : ∀ moment factory, factory.peculiarities = [] →
      (change moment factory).peculiarities = [])
    {sampler : Sampler} {enumerator : Enumerator} {settings : Settings}
    (started : start (blankRun factory sampler enumerator) (.tuning change) settings = (.ok (), run))
    {habit : Habit MemoryFactory MemoryStore Tuning Blinding} {turns depth : Nat}
    {calls : List (Call Tuning Blinding)}
    (unstuck : (run.makeAll (others habit turns depth) calls).stuck = false) :
    Plain (run.makeAll (others habit turns depth) calls) ∧
      ∀ point ∈ (run.makeAll (others habit turns depth) calls).outside.points, Plain point.state := by
  have built : Built run := ⟨factory, sampler, enumerator, settings, change, started⟩
  have begun : Plain run := by
    obtain rfl : _ = run := congrArg Prod.snd started
    exact perennial_plain.start plain tuned sampler enumerator _ settings
  have nothing : run.outside.points = [] := congrArg Journal.points built.bare.outside
  obtain ⟨last, points⟩ := perennial_plain.makeAll built.reached begun unstuck
  exact ⟨last, fun point member => (points point member).resolve_left (by simp [nothing])⟩

end PeerDirectory.Directory

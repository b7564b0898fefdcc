import PeerDirectory.Proofs.Directory.Answers
import PeerDirectory.Proofs.Run.Gauge
import PeerDirectory.Proofs.Mirror.Manner

/-!
Directories that mirror each other. Their stores may be of different kinds, but are bonded: what a
pair of stores has in common depends on how far their partition has come, and lets them give the
same answers once somebody can ask. The partitions of the one directory may have other names in the
other, which may have spare ones besides.
-/

namespace PeerDirectory

/-- What the stores of two directories have in common. Stores of partitions that are equally far
are akin; stores that are alike answer alike, as those of ready partitions do. In a candid bond all
stores that are akin are alike. -/
structure Bond (φ σ φ' σ' τ υ : Type) [PartitionStore σ] [PartitionStore σ'] [StoreFactory φ σ]
    [StoreFactory φ' σ'] [Backdoor φ σ τ υ] [Backdoor φ' σ' τ υ] where
  link : φ → φ' → Prop
  akin : Lifecycle → σ → σ' → Prop
  alike : σ → σ' → Prop
  candid : Prop
  read : ∀ {one other}, alike one other → reading other = reading one
  alike_of_ready : ∀ {one other}, akin .ready one other → alike one other
  alike_of_candid : ∀ {stage one other}, candid → akin stage one other → alike one other
  make : ∀ {factory again} (id : PartitionId), link factory again →
    akin .creating (StoreFactory.make factory id).1 (StoreFactory.make again id).1 ∧
      link (StoreFactory.make factory id).2 (StoreFactory.make again id).2
  tune : ∀ {factory again} (tuning : τ), link factory again →
    link (Backdoor.tune σ tuning factory) (Backdoor.tune σ' tuning again)
  abandon : ∀ {one other}, akin .creating one other → akin .shutDown one other
  startup : ∀ {one other}, akin .creating one other →
    (PartitionStore.startup other).1 = (PartitionStore.startup one).1 ∧
      akin (.afterStartup (PartitionStore.startup one).1) (PartitionStore.startup one).2
        (PartitionStore.startup other).2
  startup_alike : ∀ {one other}, alike one other →
    alike (PartitionStore.startup one).2 (PartitionStore.startup other).2
  shutdown : ∀ {one other}, akin .ready one other →
    akin .shutDown (PartitionStore.shutdown one) (PartitionStore.shutdown other)
  shutdown_alike : ∀ {one other}, alike one other →
    alike (PartitionStore.shutdown one) (PartitionStore.shutdown other)
  insert : ∀ {stage one other} (key : Hash) (entry : Entry), akin stage one other →
    alike one other →
      (PartitionStore.insert other key entry).1 = (PartitionStore.insert one key entry).1 ∧
        akin stage (PartitionStore.insert one key entry).2
          (PartitionStore.insert other key entry).2 ∧
        alike (PartitionStore.insert one key entry).2 (PartitionStore.insert other key entry).2
  touch : ∀ {stage one other} (change : υ), akin stage one other →
    (Backdoor.touch φ' change other).1 = (Backdoor.touch φ change one).1 ∧
      akin stage (Backdoor.touch φ change one).2 (Backdoor.touch φ' change other).2 ∧
      (alike one other → alike (Backdoor.touch φ change one).2 (Backdoor.touch φ' change other).2)
  drive : ∀ {stage one other}, candid → akin stage one other →
    (PartitionStore.startup other).1 = (PartitionStore.startup one).1 ∧
      akin stage (PartitionStore.startup one).2 (PartitionStore.startup other).2 ∧
      akin stage (PartitionStore.shutdown one) (PartitionStore.shutdown other)

def Bond.equality (φ σ : Type) {τ υ : Type} [PartitionStore σ] [StoreFactory φ σ]
    [Backdoor φ σ τ υ] : Bond φ σ φ σ τ υ where
  link := Eq
  akin _ := Eq
  alike := Eq
  candid := True
  read := by rintro _ _ rfl; rfl
  alike_of_ready same := same
  alike_of_candid _ same := same
  make := by rintro _ _ _ rfl; exact ⟨rfl, rfl⟩
  tune := by rintro _ _ _ rfl; rfl
  abandon same := same
  startup := by rintro _ _ rfl; exact ⟨rfl, rfl⟩
  startup_alike := by rintro _ _ rfl; rfl
  shutdown := by rintro _ _ rfl; rfl
  shutdown_alike := by rintro _ _ rfl; rfl
  insert := by rintro _ _ _ _ _ rfl -; exact ⟨rfl, rfl, rfl⟩
  touch := by rintro _ _ _ _ rfl; exact ⟨rfl, rfl, fun _ => rfl⟩
  drive := by rintro _ _ _ - rfl; exact ⟨rfl, rfl, rfl⟩

namespace Directory

open Std

variable {φ σ φ' σ' τ υ γ δ : Type} [PartitionStore σ] [PartitionStore σ'] [StoreFactory φ σ]
  [StoreFactory φ' σ'] [Backdoor φ σ τ υ] [Backdoor φ' σ' τ υ]

structure Counterpart (bond : Bond φ σ φ' σ' τ υ) (ahead : Option Lifecycle)
    (one : Partition σ) (other : Partition σ') : Prop where
  lifecycle : other.lifecycle = one.lifecycle
  locked : other.locked = one.locked
  akin : bond.akin (ahead.getD one.lifecycle) one.store other.store

/-- What two directories that mirror each other need not have in common: partitions that only the
second one has, what each of them had written to its log before, and whether only the second one may
have set its gauge yet. -/
structure Spare (σ : Type) where
  partition? : Handle → Option (Partition σ)
  logs : List LogEvent × List LogEvent
  gauge : Prop

def Spare.none {σ : Type} : Spare σ := ⟨fun _ => .none, ([], []), False⟩

structure Mirror (bond : Bond φ σ φ' σ' τ υ) (naming : Naming)
    (spare : Spare σ') (given : Handle → Prop)
    (ahead : Handle → Option Lifecycle) (left : Directory φ σ γ) (right : Directory φ' σ' δ) :
    Prop where
  factory : bond.link left.factory right.factory
  partitions : ∀ handle, Option.Rel (Counterpart bond (ahead handle)) (left.partition? handle)
    (right.partition? (naming.place handle))
  given : ∀ {handle}, given handle → ∃ one other, left.partition? handle = some one ∧
    right.partition? (naming.place handle) = some other ∧ bond.alike one.store other.store
  unmatched : ∀ {handle}, (∀ other, naming.place other ≠ handle) →
    right.partition? handle = spare.partition? handle
  beyond : ∀ id more, naming.place ⟨id, (left.partitions.next id).generation + more⟩ =
    ⟨id, (right.partitions.next id).generation + more⟩
  clients : right.clients = left.clients.rename naming
  settings : right.policy = left.policy ∧ right.seedPeers = left.seedPeers ∧
    left.sampler = right.sampler.under naming.place ∧ right.enumerator = left.enumerator ∧
    right.live = left.live
  closed : right.closed = left.closed
  stuck : right.stuck = left.stuck
  metrics : ∀ metric : Metric, right.metrics[metric]? = left.metrics[metric]? ∨
    spare.gauge ∧ metric = .clientPartitions ∧ left.metrics[metric]? = none
  log : ∃ since, left.log = since ++ spare.logs.1 ∧ right.log = since ++ spare.logs.2

structure Mirrored {α : Type} (bond : Bond φ σ φ' σ' τ υ) (naming : Naming)
    (spare : Spare σ') (given : Handle → Prop)
    (ahead : Handle → Option Lifecycle) (one : α × Directory φ σ γ)
    (other : α × Directory φ' σ' δ) : Prop where
  result : other.1 = one.1
  mirror : Mirror bond naming spare given ahead one.2 other.2

def level : Handle → Option Lifecycle := fun _ => none

variable {bond : Bond φ σ φ' σ' τ υ} {naming : Naming} {spare : Spare σ'}
  {given : Handle → Prop} {ahead : Handle → Option Lifecycle} {left : Directory φ σ γ}
  {right : Directory φ' σ' δ} {handle : Handle} {client : Hash}

namespace Mirror

/-! ## What mirrored directories agree on -/

theorem place_next (mirror : Mirror bond naming spare given ahead left right) (id : PartitionId) :
    naming.place (left.partitions.next id) = right.partitions.next id :=
  mirror.beyond id 0

theorem tracked? (mirror : Mirror bond naming spare given ahead left right) (client : Hash) :
    right.tracked? client = (left.tracked? client).map naming.place := by
  rw [Directory.tracked?, mirror.clients, Clients.find?_rename, Directory.tracked?]

theorem tracked?_iff (mirror : Mirror bond naming spare given ahead left right) :
    right.tracked? client = some (naming.place handle) ↔ left.tracked? client = some handle := by
  rw [mirror.tracked?]
  cases left.tracked? client with
  | none => simp
  | some other => simp [naming.place_eq_iff]

theorem partition?_cases (mirror : Mirror bond naming spare given ahead left right)
    (handle : Handle) :
    (left.partition? handle = none ∧ right.partition? (naming.place handle) = none) ∨
      ∃ one other, left.partition? handle = some one ∧
        right.partition? (naming.place handle) = some other ∧
        Counterpart bond (ahead handle) one other := by
  have related := mirror.partitions handle
  generalize left.partition? handle = here at *
  generalize right.partition? (naming.place handle) = there at *
  cases related with
  | none => exact Or.inl ⟨rfl, rfl⟩
  | some counterpart => exact Or.inr ⟨_, _, rfl, rfl, counterpart⟩

theorem stage? (mirror : Mirror bond naming spare given ahead left right) (handle : Handle) :
    right.stage? (naming.place handle) = left.stage? handle := by
  rw [Directory.stage?, Directory.stage?]
  rcases mirror.partition?_cases handle with ⟨here, there⟩ | ⟨one, other, here, there, counterpart⟩
  · simp [here, there]
  · simp [here, there, counterpart.lifecycle, counterpart.locked]

theorem isolated (mirror : Mirror bond naming spare given ahead left right) :
    right.isolated = left.isolated :=
  congrArg IsolationPolicy.enabled mirror.settings.1

theorem progress (mirror : Mirror bond naming spare given ahead left right) :
    SameProgress naming (fun _ => True) left right where
  isolated := mirror.isolated
  tracked? _ := mirror.tracked? _
  stages _ := mirror.stage? _

/-! ## Single changes -/

theorem modify (mirror : Mirror bond naming spare given ahead left right)
    {next : Option Lifecycle} {change : Partition σ → Partition σ}
    {again : Partition σ' → Partition σ'}
    (changed : ∀ {one other}, left.partition? handle = some one →
      right.partition? (naming.place handle) = some other →
      Counterpart bond (ahead handle) one other →
        Counterpart bond next (change one) (again other) ∧
          (bond.alike one.store other.store →
            bond.alike (change one).store (again other).store)) :
    Mirror bond naming spare given (Function.update ahead handle next)
      (left.modify handle change) (right.modify (naming.place handle) again) := by
  refine ⟨mirror.factory, fun other => ?_, fun {other} also => ?_, fun {other} away => ?_,
    fun id more => ?_, mirror.clients, mirror.settings, mirror.closed, mirror.stuck,
    mirror.metrics, mirror.log⟩
  · simp only [partition?_modify, naming.place_eq_iff]
    by_cases same : other = handle
    · subst same
      simp only [if_true, Function.update_self]
      rcases mirror.partition?_cases other with
        ⟨here, there⟩ | ⟨one, again, here, there, counterpart⟩
      · rw [here, there]
        exact .none
      · rw [here, there]
        exact .some (changed here there counterpart).1
    · simp only [same, if_false, Function.update_of_ne same]
      exact mirror.partitions other
  · obtain ⟨one, again, here, there, alike⟩ := mirror.given also
    by_cases same : other = handle
    · subst same
      have counterpart := mirror.partitions other
      rw [here, there] at counterpart
      cases counterpart with
      | some counterpart =>
        exact ⟨_, _, by simp [partition?_modify, here], by simp [partition?_modify, there],
          (changed here there counterpart).2 alike⟩
    · refine ⟨one, again, ?_, ?_, alike⟩
      · simpa [partition?_modify, same] using here
      · simpa [partition?_modify, same, naming.place_eq_iff] using there
  · simp only [partition?_modify, Ne.symm (away handle), if_false]
    exact mirror.unmatched away
  · simp only [Directory.modify, Registry.next_modify]
    exact mirror.beyond id more

theorem setLocked (mirror : Mirror bond naming spare given ahead left right) (handle : Handle)
    (locked : Bool) :
    Mirror bond naming spare given ahead (left.setLocked handle locked)
      (right.setLocked (naming.place handle) locked) := by
  have changed : Mirror bond naming spare given (Function.update ahead handle (ahead handle))
      (left.setLocked handle locked) (right.setLocked (naming.place handle) locked) :=
    mirror.modify fun _ _ counterpart =>
      ⟨⟨counterpart.lifecycle, rfl, counterpart.akin⟩, fun alike => alike⟩
  rwa [Function.update_eq_self] at changed

theorem setLifecycle (mirror : Mirror bond naming spare given ahead left right) {stage : Lifecycle}
    (reached : ∀ {one other}, left.partition? handle = some one →
      bond.akin ((ahead handle).getD one.lifecycle) one.store other →
        bond.akin stage one.store other) :
    Mirror bond naming spare given (Function.update ahead handle none)
      (left.setLifecycle handle stage) (right.setLifecycle (naming.place handle) stage) := by
  refine mirror.modify fun here there counterpart => ?_
  have akin := reached here counterpart.akin
  exact ⟨⟨rfl, counterpart.locked, akin⟩, fun alike => alike⟩

end Mirror

namespace Mirror

theorem ahead_of_absent (mirror : Mirror bond naming spare given ahead left right)
    (absent : left.partition? handle = none) (next : Option Lifecycle) :
    Mirror bond naming spare given (Function.update ahead handle next) left right := by
  refine { mirror with partitions := fun other => ?_ }
  by_cases same : other = handle
  · subst same
    rcases mirror.partition?_cases other with ⟨here, there⟩ | ⟨one, -, here, -⟩
    · rw [here, there]
      exact .none
    · cases absent.symm.trans here
  · rw [Function.update_of_ne same]
    exact mirror.partitions other

theorem operate {α : Type} {absent : α} {operation : σ → α × σ} {again : σ' → α × σ'}
    {next : Option Lifecycle} (mirror : Mirror bond naming spare given ahead left right)
    (works : ∀ {one other}, left.partition? handle = some one →
      right.partition? (naming.place handle) = some other →
      bond.akin ((ahead handle).getD one.lifecycle) one.store other.store →
        (again other.store).1 = (operation one.store).1 ∧
          bond.akin (next.getD one.lifecycle) (operation one.store).2 (again other.store).2 ∧
          (bond.alike one.store other.store →
            bond.alike (operation one.store).2 (again other.store).2)) :
    Mirrored bond naming spare given (Function.update ahead handle next)
      (left.operate handle absent operation)
      (right.operate (naming.place handle) absent again) := by
  rcases mirror.partition?_cases handle with ⟨here, there⟩ | ⟨one, other, here, there, counterpart⟩
  · simp only [Directory.operate, store?, here, there, Option.map_none]
    exact ⟨rfl, mirror.ahead_of_absent here next⟩
  · obtain ⟨result, akin, alike⟩ := works here there counterpart.akin
    simp only [Directory.operate, store?, here, there, Option.map_some]
    refine ⟨result, mirror.modify fun {first second} still again _ => ?_⟩
    obtain rfl : one = first := Option.some.inj (here.symm.trans still)
    obtain rfl : other = second := Option.some.inj (there.symm.trans again)
    exact ⟨⟨counterpart.lifecycle, counterpart.locked, akin⟩, alike⟩

theorem operate_still {α : Type} {absent : α} {operation : σ → α × σ} {again : σ' → α × σ'}
    (mirror : Mirror bond naming spare given ahead left right)
    (works : ∀ {stage one other}, left.partition? handle = some one →
      right.partition? (naming.place handle) = some other →
      bond.akin stage one.store other.store →
        (again other.store).1 = (operation one.store).1 ∧
          bond.akin stage (operation one.store).2 (again other.store).2 ∧
          (bond.alike one.store other.store →
            bond.alike (operation one.store).2 (again other.store).2)) :
    Mirrored bond naming spare given ahead (left.operate handle absent operation)
      (right.operate (naming.place handle) absent again) := by
  have worked : Mirrored bond naming spare given (Function.update ahead handle (ahead handle))
      (left.operate handle absent operation)
      (right.operate (naming.place handle) absent again) := mirror.operate works
  rwa [Function.update_eq_self] at worked

theorem note (mirror : Mirror bond naming spare given ahead left right) (event : LogEvent) :
    Mirror bond naming spare given ahead (left.note event) (right.note event) := by
  obtain ⟨since, here, there⟩ := mirror.log
  exact { mirror with
    log := ⟨event :: since, congrArg (event :: ·) here, congrArg (event :: ·) there⟩ }

theorem count (mirror : Mirror bond naming spare given ahead left right) (metric : Metric)
    (steady : metric ≠ .clientPartitions) (amount : Nat) :
    Mirror bond naming spare given ahead (left.count metric amount)
      (right.count metric amount) := by
  refine { mirror with metrics := fun other => ?_ }
  simp only [Directory.count, Metrics.getElem?_add]
  by_cases same : other = metric
  · have before := (mirror.metrics metric).resolve_right fun gauge => steady gauge.2.1
    simp only [same, if_true, ExtTreeMap.getD_eq_getD_getElem?, before]
    exact Or.inl trivial
  · simpa only [same, if_false] using mirror.metrics other

theorem publish (mirror : Mirror bond naming spare given ahead left right) (turns : Nat) :
    Mirror bond naming spare given ahead (left.publish (.quiet turns))
      (right.publish (.quiet turns)) := by
  refine { mirror with metrics := fun other => ?_ }
  simp only [Directory.publish, Surroundings.quiet, Metrics.getElem?_set, mirror.clients,
    Clients.size_rename]
  by_cases same : other = .clientPartitions
  · simp [same]
  · simpa only [same, if_false] using mirror.metrics other

/-! ## Who is tracked -/

theorem track (mirror : Mirror bond naming spare given ahead left right)
    (own : handle.id = .client client) (again : (naming.place handle).id = .client client) :
    Mirror bond naming spare given ahead
      { left with clients := left.clients.insert client handle own }
      { right with clients := right.clients.insert client (naming.place handle) again } :=
  { mirror with clients := by simp only [mirror.clients, Clients.rename_insert] }

theorem untrack (mirror : Mirror bond naming spare given ahead left right) (client : Hash) :
    Mirror bond naming spare given ahead
      { left with clients := left.clients.erase client }
      { right with clients := right.clients.erase client } :=
  { mirror with clients := by simp only [mirror.clients, Clients.rename_erase] }

theorem unregister (mirror : Mirror bond naming spare given ahead left right) (client : Hash)
    (handle : Handle) (turns : Nat) :
    Mirror bond naming spare given ahead (left.unregister (.quiet turns) client handle)
      (right.unregister (.quiet turns) client (naming.place handle)) := by
  simp only [Directory.unregister, mirror.tracked?_iff]
  split
  · exact (mirror.untrack client).publish turns
  · exact mirror

/-! ## New partitions, and partitions that are given out -/

theorem build (mirror : Mirror bond naming spare given ahead left right) (id : PartitionId)
    (even : ahead (left.partitions.next id) = none) (turns : Nat) :
    (right.build (.quiet turns) id).1 = naming.place (left.build (.quiet turns) id).1 ∧
      Mirror bond naming spare given ahead (left.build (.quiet turns) id).2
        (right.build (.quiet turns) id).2 := by
  obtain ⟨akin, linked⟩ := bond.make id mirror.factory
  have named := mirror.place_next id
  refine ⟨named.symm, { mirror with
    factory := linked, partitions := fun handle => ?_, given := fun {handle} also => ?_,
    unmatched := fun {handle} away => ?_, beyond := fun other more => ?_ }⟩
  · simp only [partition?_build_quiet, ← named, naming.place_eq_iff]
    by_cases same : handle = left.partitions.next id
    · simp only [same, if_true, even]
      exact .some ⟨rfl, rfl, akin⟩
    · simp only [same, if_false]
      exact mirror.partitions handle
  · obtain ⟨one, again, here, there, alike⟩ := mirror.given also
    have apart : handle ≠ left.partitions.next id := by
      rintro rfl
      rw [partition?, Registry.get?_next] at here
      cases here
    exact ⟨one, again, by simpa [partition?_build_quiet, apart] using here,
      by simpa [partition?_build_quiet, ← named, naming.place_eq_iff, apart] using there, alike⟩
  · simp only [partition?_build_quiet, ← named, Ne.symm (away _), if_false]
    exact mirror.unmatched away
  · simp only [Directory.build, Registry.next_add]
    by_cases same : other = id
    · subst same
      simp only [if_true, Nat.add_assoc]
      exact mirror.beyond other (1 + more)
    · simp only [same, if_false]
      exact mirror.beyond other more

theorem give (mirror : Mirror bond naming spare given ahead left right) {more : Handle → Prop}
    (ready : ∀ {handle}, more handle →
      given handle ∨ left.isReady handle = true ∧ ahead handle = none) :
    Mirror bond naming spare more ahead left right := by
  refine { mirror with given := fun {handle} also => ?_ }
  rcases ready also with before | ⟨ready, even⟩
  · exact mirror.given before
  · rcases mirror.partition?_cases handle with
      ⟨here, -⟩ | ⟨one, other, here, there, counterpart⟩
    · simp [Directory.isReady, here] at ready
    · have stage : one.lifecycle = .ready := by simpa [Directory.isReady, here] using ready
      have akin := counterpart.akin
      rw [even, stage] at akin
      exact ⟨one, other, here, there, bond.alike_of_ready akin⟩

end Mirror

theorem Mirrored.note {α : Type} {one : α × Directory φ σ γ} {other : α × Directory φ' σ' δ}
    (mirrored : Mirrored bond naming spare given ahead one other) (event : α → LogEvent) :
    Mirror bond naming spare given ahead (one.2.note (event one.1))
      (other.2.note (event other.1)) := by
  rw [mirrored.result]
  exact mirrored.mirror.note _

end Directory

end PeerDirectory

import PeerDirectory.Proofs.Directory.AgreeOnQueries
import PeerDirectory.Proofs.Run.Gauge

/-!
What stands aside in a directory: the enumerator, the metrics of lookups by unknown owner, and what
callers keep outside. Nothing else depends on these. Directories that are alike apart from them stay
so through every operation that brings partitions up or tears them down.
-/

namespace PeerDirectory

open Std

def Metric.looksUp : Metric → Bool
  | .ownerLookups _ => true
  | _ => false

theorem Metric.ne_ownerLookups {metric : Metric} (plain : metric.looksUp = false)
    (outcome : OwnerOutcome) : metric ≠ .ownerLookups outcome := by
  rintro rfl
  cases plain

theorem Metric.eq_ownerLookups {metric : Metric} (counts : metric.looksUp = true) :
    ∃ outcome, metric = .ownerLookups outcome := by
  cases metric <;> cases counts
  exact ⟨_, rfl⟩

namespace Directory

variable {φ σ γ δ : Type}

@[ext]
structure Aside (γ : Type) where
  enumerator : Enumerator
  lookups : OwnerOutcome → Option Nat
  outside : γ

def aside (directory : Directory φ σ γ) : Aside γ where
  enumerator := directory.enumerator
  lookups outcome := directory.metrics[Metric.ownerLookups outcome]?
  outside := directory.outside

def essence (directory : Directory φ σ γ) : Directory φ σ Unit :=
  { directory with enumerator := .unrestricted, metrics := ∅, outside := () }

structure EqualUpTo (tied : Aside γ → Aside δ → Prop) (left : Directory φ σ γ)
    (right : Directory φ σ δ) : Prop where
  essence : right.essence = left.essence
  metrics : ∀ metric : Metric, metric.looksUp = false →
    right.metrics[metric]? = left.metrics[metric]?
  tied : tied left.aside right.aside

structure EndEqualUpTo {α : Type} (tied : Aside γ → Aside δ → Prop) (one : α × Directory φ σ γ)
    (other : α × Directory φ σ δ) : Prop where
  result : other.1 = one.1
  equal : EqualUpTo tied one.2 other.2

structure ReactEqualUpTo (tied : Aside γ → Aside δ → Prop) (one : Surroundings φ σ γ)
    (other : Surroundings φ σ δ) : Prop where
  turns : other.turns = one.turns
  react : ∀ {moment left right}, EqualUpTo tied left right →
    EqualUpTo tied (one.react moment left) (other.react moment right)

variable {tied : Aside γ → Aside δ → Prop} {left : Directory φ σ γ} {right : Directory φ σ δ}
  {one : Surroundings φ σ γ} {other : Surroundings φ σ δ} {client : Hash} {handle : Handle}

theorem aside_set (directory : Directory φ σ γ) {metric : Metric} (plain : metric.looksUp = false)
    (value : Nat) :
    aside { directory with metrics := directory.metrics.set metric value } = directory.aside := by
  simp only [aside, Metrics.getElem?_set, (Metric.ne_ownerLookups plain _).symm, if_false]

namespace EqualUpTo

theorem eq {left right : Directory φ σ γ} (equal : EqualUpTo Eq left right) : right = left := by
  have metrics : right.metrics = left.metrics := by
    apply ExtTreeMap.ext_getElem?
    intro metric
    by_cases plain : metric.looksUp = false
    · exact equal.metrics metric plain
    · obtain ⟨outcome, rfl⟩ := Metric.eq_ownerLookups (Bool.of_not_eq_false plain)
      exact (congrFun (congrArg Aside.lookups equal.tied) outcome).symm
  obtain ⟨essence, -, tied⟩ := equal
  cases left
  cases right
  simp only [Directory.essence, aside, Directory.mk.injEq, Aside.mk.injEq] at essence tied metrics
  simp [essence, tied, metrics]

theorem queries (equal : EqualUpTo tied left right) : AgreeOnQueries left right where
  partitions handle := congrArg (·.partition? handle) equal.essence
  clients := congrArg Directory.clients equal.essence
  policy := congrArg Directory.policy equal.essence
  live := congrArg Directory.live equal.essence

theorem closed (equal : EqualUpTo tied left right) : right.closed = left.closed :=
  congrArg Directory.closed equal.essence

theorem getD (equal : EqualUpTo tied left right) {metric : Metric}
    (plain : metric.looksUp = false) :
    right.metrics.getD metric 0 = left.metrics.getD metric 0 := by
  rw [ExtTreeMap.getD_eq_getD_getElem?, ExtTreeMap.getD_eq_getD_getElem?, equal.metrics metric plain]

theorem modify (equal : EqualUpTo tied left right) (handle : Handle)
    (change : Partition σ → Partition σ) :
    EqualUpTo tied (left.modify handle change) (right.modify handle change) :=
  ⟨congrArg (·.modify handle change) equal.essence, equal.metrics, equal.tied⟩

theorem setLifecycle (equal : EqualUpTo tied left right) (handle : Handle) (stage : Lifecycle) :
    EqualUpTo tied (left.setLifecycle handle stage) (right.setLifecycle handle stage) :=
  equal.modify handle _

theorem setLocked (equal : EqualUpTo tied left right) (handle : Handle) (locked : Bool) :
    EqualUpTo tied (left.setLocked handle locked) (right.setLocked handle locked) :=
  equal.modify handle _

theorem note (equal : EqualUpTo tied left right) (event : LogEvent) :
    EqualUpTo tied (left.note event) (right.note event) :=
  ⟨congrArg (·.note event) equal.essence, equal.metrics, equal.tied⟩

theorem wait (equal : EqualUpTo tied left right) : EqualUpTo tied left.wait right.wait :=
  ⟨congrArg Directory.wait equal.essence, equal.metrics, equal.tied⟩

theorem retrack (equal : EqualUpTo tied left right) (change : Clients → Clients) :
    EqualUpTo tied { left with clients := change left.clients }
      { right with clients := change right.clients } := by
  refine ⟨?_, equal.metrics, equal.tied⟩
  exact congrArg (fun found => { found with clients := change found.clients }) equal.essence

theorem set (equal : EqualUpTo tied left right) {metric : Metric} (plain : metric.looksUp = false)
    {first second : Nat} (same : second = first) :
    EqualUpTo tied { left with metrics := left.metrics.set metric first }
      { right with metrics := right.metrics.set metric second } := by
  refine ⟨equal.essence, fun given also => ?_, ?_⟩
  · simp only [Metrics.getElem?_set, equal.metrics given also, same]
  · rw [aside_set left plain, aside_set right plain]
    exact equal.tied

theorem count (equal : EqualUpTo tied left right) {metric : Metric} (plain : metric.looksUp = false)
    (amount : Nat) : EqualUpTo tied (left.count metric amount) (right.count metric amount) :=
  equal.set plain (congrArg (· + amount) (equal.getD plain))

theorem publish (equal : EqualUpTo tied left right) (reacting : ReactEqualUpTo tied one other) :
    EqualUpTo tied (left.publish one) (right.publish other) :=
  reacting.react (equal.set rfl (congrArg Clients.size equal.queries.clients))

section Stores

variable [PartitionStore σ]

theorem insert (equal : EqualUpTo tied left right) (handle : Handle) (key : Hash) (entry : Entry) :
    EndEqualUpTo tied (left.insert handle key entry) (right.insert handle key entry) := by
  simp only [Directory.insert, equal.queries.store?]
  cases left.store? handle with
  | none => exact ⟨rfl, equal⟩
  | some store => exact ⟨rfl, equal.modify handle _⟩

theorem startStore (equal : EqualUpTo tied left right) (reacting : ReactEqualUpTo tied one other)
    (handle : Handle) :
    EndEqualUpTo tied (left.startStore one handle) (right.startStore other handle) := by
  have met : EqualUpTo tied (one.react (.startup handle.id) left)
      (other.react (.startup handle.id) right) := reacting.react equal
  simp only [Directory.startStore, met.queries.store?]
  cases (one.react (.startup handle.id) left).store? handle with
  | none => exact ⟨rfl, met⟩
  | some store => exact ⟨rfl, met.modify handle _⟩

theorem stopStore (equal : EqualUpTo tied left right) (handle : Handle) :
    EqualUpTo tied (left.stopStore handle) (right.stopStore handle) := by
  simp only [Directory.stopStore, equal.queries.store?]
  cases left.store? handle with
  | none => exact equal
  | some store => exact equal.modify handle _

theorem seedPeers (equal : EqualUpTo tied left right) (handle : Handle) (peers : List Hash)
    (count : Nat) :
    EndEqualUpTo tied (peers.foldl (seedPeer handle) (count, left))
      (peers.foldl (seedPeer handle) (count, right)) := by
  induction peers generalizing count left right with
  | nil => exact ⟨rfl, equal⟩
  | cons peer rest ih =>
    rw [List.foldl_cons, List.foldl_cons]
    simp only [seedPeer, lookupRouter, lookup, equal.queries.ask]
    split
    · exact ih equal count
    · have kept := equal.insert handle peer (.router ‹_›)
      simp only [kept.result]
      split
      · exact ih kept.equal _
      · exact ih (kept.equal.note _) count

theorem seed (equal : EqualUpTo tied left right) (handle : Handle) :
    EqualUpTo tied (left.seed handle) (right.seed handle) := by
  have many : right.seedPeers = left.seedPeers := congrArg Directory.seedPeers equal.essence
  have sampler : right.sampler = left.sampler := congrArg Directory.sampler equal.essence
  have peers : right.floodfillPeers = left.floodfillPeers :=
    funext fun handle => equal.queries.ask handle _ _
  unfold Directory.seed
  rw [peers, many, sampler]
  split
  · exact equal
  · dsimp only
    split
    · exact (equal.count rfl 1).note _
    · generalize left.sampler.pick _ _ _ = chosen
      have seeded := equal.seedPeers handle chosen 0
      rw [seeded.result]
      exact (seeded.equal.count rfl _).note _

variable [StoreFactory φ σ]

omit [PartitionStore σ] in
theorem build (equal : EqualUpTo tied left right) (reacting : ReactEqualUpTo tied one other)
    (id : PartitionId) : EndEqualUpTo tied (left.build one id) (right.build other id) := by
  have met : EqualUpTo tied (one.react (.create id) left) (other.react (.create id) right) :=
    reacting.react equal
  generalize first : one.react (.create id) left = before at *
  generalize second : other.react (.create id) right = again at *
  simp only [Directory.build, first, second]
  refine ⟨congrArg (fun found => found.partitions.next id) met.essence, ?_, met.metrics, met.tied⟩
  exact congrArg (fun found => { found with
    factory := (StoreFactory.make found.factory id).2
    partitions := found.partitions.add id
      ⟨(StoreFactory.make found.factory id).1, .creating, false⟩ }) met.essence

omit [PartitionStore σ] in
theorem register (equal : EqualUpTo tied left right) (reacting : ReactEqualUpTo tied one other)
    (client : Hash) :
    EndEqualUpTo tied (left.register one client) (right.register other client) := by
  have built := equal.build reacting (.client client)
  simp only [Directory.register, built.equal.queries.tracked?]
  split
  · exact ⟨rfl, (built.equal.count rfl 1).note _⟩
  · simp only [built.result]
    exact ⟨rfl, (built.equal.retrack (·.insert client _ (id_build ..))).publish reacting⟩

omit [PartitionStore σ] [StoreFactory φ σ] in
theorem unregister (equal : EqualUpTo tied left right) (reacting : ReactEqualUpTo tied one other)
    (client : Hash) (handle : Handle) :
    EqualUpTo tied (left.unregister one client handle) (right.unregister other client handle) := by
  simp only [Directory.unregister, equal.queries.tracked?]
  split
  · exact (equal.retrack (·.erase client)).publish reacting
  · exact equal

omit [PartitionStore σ] [StoreFactory φ σ] in
theorem giveUp (equal : EqualUpTo tied left right) (reacting : ReactEqualUpTo tied one other)
    (client : Hash) (handle : Handle) :
    EqualUpTo tied (left.giveUp one client handle) (right.giveUp other client handle) :=
  (equal.unregister reacting client handle).setLifecycle handle .shutDown

omit [StoreFactory φ σ] in
theorem goLive (equal : EqualUpTo tied left right) (handle : Handle) :
    EqualUpTo tied (left.goLive handle) (right.goLive handle) :=
  (((equal.seed handle).setLifecycle handle .ready).count rfl 1).note _

omit [StoreFactory φ σ] in
theorem bringUp (equal : EqualUpTo tied left right) (reacting : ReactEqualUpTo tied one other)
    (client : Hash) (handle : Handle) :
    EndEqualUpTo tied (left.bringUp one client handle) (right.bringUp other client handle) := by
  have started := equal.startStore reacting handle
  simp only [bringUp_eq, equal.closed, started.result]
  split
  · exact ⟨rfl, equal.giveUp reacting client handle⟩
  · split
    · exact ⟨rfl, (started.equal.giveUp reacting client handle).note _⟩
    · exact ⟨rfl, started.equal.goLive handle⟩

omit [StoreFactory φ σ] in
theorem startClient (equal : EqualUpTo tied left right) (reacting : ReactEqualUpTo tied one other)
    (client : Hash) (handle : Handle) :
    EndEqualUpTo tied (left.startClient one client handle)
      (right.startClient other client handle) := by
  simp only [Directory.startClient, equal.queries.partitions]
  split
  · exact ⟨rfl, equal⟩
  · split
    · exact ⟨rfl, equal.wait⟩
    · split
      · exact ⟨rfl, equal⟩
      · exact ⟨rfl, equal⟩
      · have brought := (equal.setLocked handle true).bringUp reacting client handle
        exact ⟨brought.result, brought.equal.setLocked handle false⟩

omit [PartitionStore σ] in
theorem seek (equal : EqualUpTo tied left right) (reacting : ReactEqualUpTo tied one other)
    (client : Hash) : EndEqualUpTo tied (left.seek one client) (right.seek other client) := by
  simp only [Directory.seek, equal.queries.tracked?]
  split
  · exact ⟨rfl, equal⟩
  · exact equal.register reacting client

theorem clientWithin (equal : EqualUpTo tied left right) (reacting : ReactEqualUpTo tied one other)
    (client : Hash) (looks : Nat) :
    EndEqualUpTo tied (clientWithin one client looks left)
      (clientWithin other client looks right) := by
  induction looks generalizing left right with
  | zero => exact ⟨rfl, equal.wait⟩
  | succ looks ih =>
    obtain ⟨found, sought⟩ := equal.seek reacting client
    have started := sought.startClient reacting client (left.seek one client).1
    simp only [clientWithin_succ, attend, equal.closed, found, sought.queries.isReady,
      started.result]
    split
    · exact ⟨rfl, equal⟩
    · split
      · exact ⟨rfl, sought⟩
      · split
        · exact ⟨rfl, started.equal⟩
        · exact ⟨rfl, started.equal⟩
        · exact ih (started.equal.unregister reacting client _)

theorem resolve (equal : EqualUpTo tied left right) (reacting : ReactEqualUpTo tied one other)
    (id : Option PartitionId) :
    EndEqualUpTo tied (left.resolve one id) (right.resolve other id) := by
  match id with
  | none => exact ⟨rfl, equal⟩
  | some (.wellKnown role) => exact ⟨congrArg Except.ok (equal.queries.progress.serving role), equal⟩
  | some (.client client) =>
    simp only [Directory.resolve, equal.queries.isolated, Directory.client, reacting.turns]
    split
    · exact equal.clientWithin reacting client one.turns
    · exact ⟨rfl, equal⟩

theorem clientPartition (equal : EqualUpTo tied left right)
    (reacting : ReactEqualUpTo tied one other)
    (id : Option PartitionId) :
    EndEqualUpTo tied (left.clientPartition one id) (right.clientPartition other id) := by
  cases id with
  | none => exact ⟨by simp only [Directory.clientPartition, equal.queries.isolated], equal⟩
  | some id => exact equal.resolve reacting (some id)

end Stores

end EqualUpTo

end Directory

end PeerDirectory

import PeerDirectory.Proofs.Concurrent.Effects
import PeerDirectory.Proofs.Mirror.Calls

/-!
Directories that are equally far with every partition, track the same clients under the same
settings, and agree on what some of the partitions hold, those that are kept. What the others hold
may differ, main's for one, and with it what a new partition is seeded with; but a partition that is
still to be started holds the same in both, so that it starts in both or in neither.
-/

namespace PeerDirectory.Directory

variable {φ σ τ υ γ δ : Type} {kept : Handle → Prop} {left : Directory φ σ γ}
  {right : Directory φ σ δ} {handle : Handle} {client : Hash}

def Spared (kept : Handle → Prop) (directory : Directory φ σ γ) (handle : Handle) : Prop :=
  kept handle ∨ ∃ client locked, handle.id = .client client ∧
    directory.stage? handle = some (.creating, locked)

structure AgreeOnKept (kept : Handle → Prop) (left : Directory φ σ γ) (right : Directory φ σ δ) :
    Prop where
  factory : right.factory = left.factory
  clients : right.clients = left.clients
  policy : right.policy = left.policy
  closed : right.closed = left.closed
  stuck : right.stuck = left.stuck
  stages : ∀ handle, right.stage? handle = left.stage? handle
  begun : ∀ {handle}, kept handle → ∃ stage locked,
    left.stage? handle = some (stage, locked) ∧ stage ≠ .creating
  alike : ∀ {handle}, Spared kept left handle → right.partition? handle = left.partition? handle

structure EndAgreeOnKept {α : Type} (kept : Handle → Prop) (one : α × Directory φ σ γ)
    (other : α × Directory φ σ δ) : Prop where
  result : other.1 = one.1
  agree : AgreeOnKept kept one.2 other.2

namespace AgreeOnKept

theorem tracked? (agree : AgreeOnKept kept left right) (client : Hash) :
    right.tracked? client = left.tracked? client := by
  simp only [Directory.tracked?, agree.clients]

theorem isolated (agree : AgreeOnKept kept left right) : right.isolated = left.isolated :=
  congrArg IsolationPolicy.enabled agree.policy

theorem progress (agree : AgreeOnKept kept left right) :
    SameProgress .same (fun _ => True) left right where
  isolated := agree.isolated
  tracked? _ := (agree.tracked? _).trans (Option.map_id_apply ..).symm
  stages _ := agree.stages _

theorem next (agree : AgreeOnKept kept left right) (id : PartitionId) :
    right.partitions.next id = left.partitions.next id := by
  apply Registry.next_of_get?
  intro generation
  have same := agree.stages ⟨id, generation⟩
  unfold stage? partition? at same
  rw [← Option.map_eq_none_iff, same, Option.map_eq_none_iff]

theorem not_begun (agree : AgreeOnKept kept left right) {locked : Bool}
    (creating : left.stage? handle = some (.creating, locked)) : ¬kept handle := by
  intro also
  obtain ⟨stage, again, stands, begun⟩ := agree.begun also
  obtain ⟨rfl, -⟩ := Prod.mk.inj (Option.some.inj (creating.symm.trans stands))
  exact begun rfl

theorem store? (agree : AgreeOnKept kept left right) (spared : Spared kept left handle) :
    right.store? handle = left.store? handle := by
  simp only [Directory.store?, agree.alike spared]

theorem reading [PartitionStore σ] (agree : AgreeOnKept kept left right)
    (spared : Spared kept left handle) : SameReading .same left right handle :=
  congrArg (Option.map PeerDirectory.reading) (agree.store? spared)

theorem note (agree : AgreeOnKept kept left right) (one other : LogEvent) :
    AgreeOnKept kept (left.note one) (right.note other) :=
  { agree with }

theorem modify (agree : AgreeOnKept kept left right) (handle : Handle)
    {change : Partition σ → Partition σ} (progress : Lifecycle × Bool → Lifecycle × Bool)
    (stage : ∀ partition, ((change partition).lifecycle, (change partition).locked) =
      progress (partition.lifecycle, partition.locked))
    (onward : ∀ current, (progress current).1 = .creating → current.1 = .creating) :
    AgreeOnKept kept (left.modify handle change) (right.modify handle change) := by
  have stages {ε : Type} (directory : Directory φ σ ε) (other : Handle) :
      (directory.modify handle change).stage? other =
        if other = handle then (directory.stage? handle).map progress
        else directory.stage? other := by
    rw [stage?, partition?_modify]
    split
    · simp only [stage?, Option.map_map, Function.comp_def, stage]
    · rfl
  refine ⟨agree.factory, agree.clients, agree.policy, agree.closed, agree.stuck,
    fun other => ?_, fun {other} also => ?_, fun {other} spared => ?_⟩
  · simp only [stages, agree.stages]
  · obtain ⟨current, locked, stands, begun⟩ := agree.begun also
    rw [stages]
    by_cases same : other = handle
    · subst same
      refine ⟨_, _, by rw [if_pos rfl, stands]; rfl, fun creating => ?_⟩
      exact begun (onward _ creating)
    · exact ⟨current, locked, by rw [if_neg same, stands], begun⟩
  · have before : Spared kept left other := by
      apply spared.imp_right
      rintro ⟨client, locked, named, stands⟩
      rw [stages] at stands
      split at stands
      · rename_i same
        subst same
        obtain ⟨current, here, next⟩ := Option.map_eq_some_iff.mp stands
        have creating : current.1 = .creating := onward current (congrArg Prod.fst next)
        exact ⟨client, current.2, named, by rw [here, ← creating]⟩
      · exact ⟨client, locked, named, stands⟩
    have same := agree.alike before
    rw [partition?_modify, partition?_modify]
    split
    · rename_i here
      subst here
      rw [same]
    · exact same

theorem setLocked (agree : AgreeOnKept kept left right) (handle : Handle) (locked : Bool) :
    AgreeOnKept kept (left.setLocked handle locked) (right.setLocked handle locked) :=
  agree.modify handle (fun current => (current.1, locked)) (fun _ => rfl)
    fun _ creating => creating

theorem setLifecycle (agree : AgreeOnKept kept left right) (handle : Handle) {stage : Lifecycle}
    (begun : stage ≠ .creating) :
    AgreeOnKept kept (left.setLifecycle handle stage) (right.setLifecycle handle stage) :=
  agree.modify handle (fun current => (stage, current.2)) (fun _ => rfl)
    fun _ creating => absurd creating begun

theorem operate_change {α : Type} (directory : Directory φ σ γ) (handle : Handle) (absent : α)
    (operation : σ → α × σ) :
    (directory.operate handle absent operation).2 = directory.modify handle fun partition =>
      { partition with store := (operation partition.store).2 } := by
  unfold Directory.operate
  cases here : directory.partition? handle with
  | none =>
    have fixed : directory.partitions.modify handle (fun partition =>
        { partition with store := (operation partition.store).2 }) = directory.partitions :=
      Registry.modify_of_fixed fun partition found => by cases here.symm.trans found
    simp only [Directory.store?, here, Option.map_none, Directory.modify, fixed]
  | some partition =>
    simp only [Directory.store?, here, Option.map_some, setStore, Directory.modify]
    congr 1
    apply Registry.modify_congr
    intro found again
    obtain rfl := Option.some.inj (here.symm.trans again)
    rfl

theorem operate {α : Type} (agree : AgreeOnKept kept left right) (handle : Handle) (absent : α)
    (operation : σ → α × σ) :
    AgreeOnKept kept (left.operate handle absent operation).2
      (right.operate handle absent operation).2 := by
  rw [operate_change, operate_change]
  exact agree.modify handle id (fun _ => rfl) fun _ creating => creating

theorem result_operate {α : Type} (agree : AgreeOnKept kept left right)
    (spared : Spared kept left handle) (absent : α) (operation : σ → α × σ) :
    (right.operate handle absent operation).1 = (left.operate handle absent operation).1 := by
  unfold Directory.operate
  rw [agree.store? spared]
  cases left.store? handle <;> rfl

theorem count (agree : AgreeOnKept kept left right) (metric other : Metric) (amount more : Nat) :
    AgreeOnKept kept (left.count metric amount) (right.count other more) :=
  { agree with }

theorem publish (agree : AgreeOnKept kept left right) (turns : Nat) :
    AgreeOnKept kept (left.publish (.quiet turns)) (right.publish (.quiet turns)) :=
  { agree with }

theorem retrack (agree : AgreeOnKept kept left right)
    (change : Clients → Clients) :
    AgreeOnKept kept { left with clients := change left.clients }
      { right with clients := change right.clients } :=
  { agree with clients := congrArg change agree.clients }

theorem unregister (agree : AgreeOnKept kept left right) (client : Hash) (handle : Handle) :
    AgreeOnKept kept (left.unregister (.quiet 0) client handle)
      (right.unregister (.quiet 0) client handle) := by
  unfold Directory.unregister
  rw [agree.tracked?]
  split
  · exact (agree.retrack (·.erase client)).publish 0
  · exact agree

theorem giveUp (agree : AgreeOnKept kept left right) (client : Hash) (handle : Handle) :
    AgreeOnKept kept (left.giveUp (.quiet 0) client handle)
      (right.giveUp (.quiet 0) client handle) :=
  (agree.unregister client handle).setLifecycle handle (by decide)

theorem wait (agree : AgreeOnKept kept left right) : AgreeOnKept kept left.wait right.wait :=
  { agree with stuck := rfl }

section Building

variable [StoreFactory φ σ]

theorem build (agree : AgreeOnKept kept left right) (id : PartitionId) :
    EndAgreeOnKept kept (left.build (.quiet 0) id) (right.build (.quiet 0) id) := by
  have named := agree.next id
  have made : StoreFactory.make right.factory id = StoreFactory.make left.factory id := by
    rw [agree.factory]
  have stages {ε : Type} (directory : Directory φ σ ε) (handle : Handle) :
      (directory.build (.quiet 0) id).2.stage? handle =
        if handle = directory.partitions.next id then some (.creating, false)
        else directory.stage? handle := by
    rw [stage?, partition?_build_quiet]
    split <;> rfl
  refine ⟨named, congrArg Prod.snd made, agree.clients, agree.policy, agree.closed,
    agree.stuck, fun handle => ?_, fun {handle} also => ?_, fun {handle} spared => ?_⟩
  · rw [stages, stages, named, agree.stages]
  · obtain ⟨stage, locked, stands, begun⟩ := agree.begun also
    have apart : handle ≠ left.partitions.next id := by
      rintro rfl
      cases stands.symm.trans (stage?_next id)
    exact ⟨stage, locked, by rw [stages, if_neg apart, stands], begun⟩
  · rw [partition?_build_quiet, partition?_build_quiet, named, made]
    by_cases fresh : handle = left.partitions.next id
    · rw [if_pos fresh, if_pos fresh]
    · rw [if_neg fresh, if_neg fresh]
      apply agree.alike
      apply spared.imp_right
      rintro ⟨client, locked, named, stands⟩
      rw [stages, if_neg fresh] at stands
      exact ⟨client, locked, named, stands⟩

theorem register (agree : AgreeOnKept kept left right) (client : Hash) :
    EndAgreeOnKept kept (left.register (.quiet 0) client) (right.register (.quiet 0) client) := by
  have built := agree.build (.client client)
  simp only [Directory.register, built.agree.tracked?]
  split
  · exact ⟨rfl, (built.agree.count _ _ 1 1).note _ _⟩
  · simp only [built.result]
    exact ⟨rfl, (built.agree.retrack (·.insert client _ (id_build ..))).publish 0⟩

theorem launch (agree : AgreeOnKept kept left right) (client : Hash) :
    AgreeOnKept kept (left.launch client) (right.launch client) := by
  unfold Directory.launch
  rw [agree.next]
  exact (agree.register client).agree.setLocked _ true

end Building

end AgreeOnKept

end PeerDirectory.Directory

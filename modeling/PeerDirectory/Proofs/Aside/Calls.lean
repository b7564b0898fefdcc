import PeerDirectory.Proofs.Aside.Lifecycle

namespace PeerDirectory.Directory

variable {φ σ γ δ τ υ : Type} [PartitionStore σ] {tied : Aside γ → Aside δ → Prop}
  {left : Directory φ σ γ} {right : Directory φ σ δ} {one : Surroundings φ σ γ}
  {other : Surroundings φ σ δ} {client : Hash} {handle : Handle}

def Call.choosy : Call τ υ → Bool
  | .findLease _ => true
  | .ask question => question.choosy
  | _ => false

def Call.reads : Call τ υ → Bool
  | .findLease _ | .ask _ => true
  | _ => false

namespace EqualUpTo

theorem stop (equal : EqualUpTo tied left right) (handle : Handle) :
    EndEqualUpTo tied (left.stop handle) (right.stop handle) := by
  simp only [Directory.stop, equal.queries.partitions]
  split
  · exact ⟨rfl, equal⟩
  · split
    · exact ⟨rfl, equal.wait⟩
    · split
      · exact ⟨rfl, equal⟩
      · exact ⟨rfl, (equal.stopStore handle).setLifecycle handle .shutDown⟩
      · exact ⟨rfl, equal.setLifecycle handle .shutDown⟩

theorem removeClient (equal : EqualUpTo tied left right) (reacting : ReactEqualUpTo tied one other)
    (client : Hash) :
    EndEqualUpTo tied (left.removeClient one client) (right.removeClient other client) := by
  simp only [Directory.removeClient, equal.queries.tracked?]
  split
  · exact ⟨rfl, equal.note _⟩
  · obtain ⟨result, stopped⟩ := (equal.unregister reacting client ‹_›).stop ‹_›
    simp only [result]
    split
    · exact ⟨rfl, (stopped.count rfl 1).note _⟩
    · exact ⟨result, stopped⟩

theorem stopAll (equal : EqualUpTo tied left right) (handles : List Handle) (count : Nat) :
    EndEqualUpTo tied (handles.foldl stopCounted (count, left))
      (handles.foldl stopCounted (count, right)) := by
  induction handles generalizing count left right with
  | nil => exact ⟨rfl, equal⟩
  | cons handle rest ih =>
    obtain ⟨result, stopped⟩ := equal.stop handle
    simp only [List.foldl_cons, stopCounted, result]
    split
    · exact ih ((stopped.count rfl 1).note _) _
    · exact ih stopped count

theorem shutdown (equal : EqualUpTo tied left right) (reacting : ReactEqualUpTo tied one other) :
    EqualUpTo tied (left.shutdown one) (right.shutdown other) := by
  have closing : EqualUpTo tied { left with closed := true, clients := ∅ }
      { right with closed := true, clients := ∅ } :=
    ⟨congrArg (fun found => { found with closed := true, clients := ∅ }) equal.essence, equal.metrics,
      equal.tied⟩
  simp only [Directory.shutdown, equal.queries.clients]
  generalize WellKnown.all.map wellKnown ++ _ = handles
  obtain ⟨result, stopped⟩ := (closing.publish reacting).stopAll handles 0
  rw [result]
  exact stopped.note _

omit [PartitionStore σ] in
theorem setIsolation (equal : EqualUpTo tied left right) (enabled : Bool) :
    EqualUpTo tied (left.setIsolation enabled) (right.setIsolation enabled) := by
  have changed : EqualUpTo tied { left with policy := (left.policy.set enabled).2 }
      { right with policy := (left.policy.set enabled).2 } :=
    ⟨congrArg (fun found => { found with policy := (left.policy.set enabled).2 }) equal.essence,
      equal.metrics, equal.tied⟩
  simp only [Directory.setIsolation, equal.queries.policy]
  split
  · exact changed
  · exact changed.note _

section Calls

variable [StoreFactory φ σ] [Backdoor φ σ τ υ]

omit [PartitionStore σ] [StoreFactory φ σ] in
theorem touchStore (equal : EqualUpTo tied left right) (handle : Handle) (change : υ) :
    EndEqualUpTo tied (left.touchStore handle change) (right.touchStore handle change) := by
  simp only [Directory.touchStore, equal.queries.store?]
  cases left.store? handle with
  | none => exact ⟨rfl, equal⟩
  | some store => exact ⟨rfl, equal.modify handle _⟩

theorem perform (equal : EqualUpTo tied left right) (reacting : ReactEqualUpTo tied one other)
    {call : Call τ υ} (plain : ∀ key, call ≠ .findLease key) :
    ((call.choosy = true → right.enumerator = left.enumerator) →
        (right.perform other call).1 = (left.perform one call).1) ∧
      EqualUpTo tied (left.perform one call).2 (right.perform other call).2 := by
  cases call with
  | resolve id =>
    have found := equal.resolve reacting id
    exact ⟨fun _ => congrArg Response.found found.result, found.equal⟩
  | clientPartition id =>
    have found := equal.clientPartition reacting id
    exact ⟨fun _ => congrArg Response.found found.result, found.equal⟩
  | removeClient client =>
    have removed := equal.removeClient reacting client
    exact ⟨fun _ => congrArg Response.flag removed.result, removed.equal⟩
  | setIsolation enabled => exact ⟨fun _ => rfl, equal.setIsolation enabled⟩
  | shutdown => exact ⟨fun _ => rfl, equal.shutdown reacting⟩
  | findLease key => exact absurd rfl (plain key)
  | ask question => exact ⟨fun seen => equal.queries.answer seen, equal⟩
  | insert handle key entry =>
    have kept := equal.insert handle key entry
    exact ⟨fun _ => congrArg Response.done kept.result, kept.equal⟩
  | session client opened =>
    refine ⟨fun _ => rfl, ?_, equal.metrics, equal.tied⟩
    exact congrArg (fun found : Directory φ σ Unit => { found with
      live := if opened then found.live.add client else (found.live.remove client).2 }) equal.essence
  | tune tuning =>
    refine ⟨fun _ => rfl, ?_, equal.metrics, equal.tied⟩
    exact congrArg (fun found : Directory φ σ Unit => { found with
      factory := Backdoor.tune σ tuning found.factory }) equal.essence
  | touch handle change =>
    have touched := equal.touchStore handle change
    exact ⟨fun _ => congrArg Response.done touched.result, touched.equal⟩
  | startStore handle =>
    have started := equal.startStore reacting handle
    exact ⟨fun _ => congrArg Response.done started.result, started.equal⟩
  | stopStore handle => exact ⟨fun _ => rfl, equal.stopStore handle⟩

end Calls

section Start

variable [StoreFactory φ σ]

theorem startWellKnown (equal : EqualUpTo tied left right)
    (reacting : ReactEqualUpTo tied one other)
    (role : WellKnown) :
    EndEqualUpTo tied (left.startWellKnown one role) (right.startWellKnown other role) := by
  obtain ⟨named, built⟩ := equal.build reacting (.wellKnown role)
  have started := (built.setLocked (left.build one (.wellKnown role)).1 true).startStore reacting
    (left.build one (.wellKnown role)).1
  simp only [Directory.startWellKnown, named, started.result]
  split
  · exact ⟨rfl, started.equal.setLocked _ false⟩
  · have ready := (started.equal.setLifecycle (left.build one (.wellKnown role)).1 .ready).setLocked
      (left.build one (.wellKnown role)).1 false
    exact ⟨rfl, (ready.count rfl 1).note _⟩

omit [StoreFactory φ σ] in
theorem stopThese (equal : EqualUpTo tied left right) (handles : List Handle) :
    EqualUpTo tied (handles.foldl (fun directory handle => (directory.stop handle).2) left)
      (handles.foldl (fun directory handle => (directory.stop handle).2) right) := by
  induction handles generalizing left right with
  | nil => exact equal
  | cons handle rest ih => exact ih (equal.stop handle).equal

theorem startAll (equal : EqualUpTo tied left right) (reacting : ReactEqualUpTo tied one other)
    (sofar : List Handle) (roles : List WellKnown) :
    EndEqualUpTo tied (startAll one sofar roles left) (startAll other sofar roles right) := by
  induction roles generalizing sofar left right with
  | nil => exact ⟨rfl, equal⟩
  | cons role rest ih =>
    have started := equal.startWellKnown reacting role
    simp only [Directory.startAll, started.result]
    split
    · exact ih started.equal _
    · exact ⟨rfl, started.equal.stopThese sofar⟩

theorem start (equal : EqualUpTo tied left right) (reacting : ReactEqualUpTo tied one other)
    (settings : Settings) :
    EndEqualUpTo tied (left.start one settings) (right.start other settings) := by
  have started := equal.startAll reacting [] WellKnown.all
  simp only [Directory.start, started.result]
  split
  · exact ⟨rfl, equal⟩
  · split
    · exact ⟨rfl, started.equal⟩
    · refine ⟨rfl, EqualUpTo.note ?_ _⟩
      refine ⟨?_, started.equal.metrics, started.equal.tied⟩
      exact congrArg (fun found : Directory φ σ Unit => { found with
        policy := ⟨settings.isolation⟩
        seedPeers := settings.seedPeers.toNat }) started.equal.essence

end Start

end EqualUpTo

end PeerDirectory.Directory

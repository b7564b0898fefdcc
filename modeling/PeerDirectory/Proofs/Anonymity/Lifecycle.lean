import PeerDirectory.Proofs.Anonymity.Seeding
import PeerDirectory.Proofs.Directory.Waiting

namespace PeerDirectory

variable {mask : Hash → Hash} {limit : Nat} {γ : Type} {tied : γ → γ → Prop}

def Surroundings.Growing {φ σ : Type} [PartitionStore σ] [StoreFactory φ σ]
    (surroundings : Surroundings φ σ γ) : Prop :=
  ∀ base, surroundings.Keeping fun directory => base <:+ directory.log

namespace Directory

variable {left right : Directory MemoryFactory MemoryStore γ} {handle : Handle} {client : Hash}
  {one other : Surroundings MemoryFactory MemoryStore γ}

structure Masking (mask : Hash → Hash) (limit : Nat) (tied : γ → γ → Prop)
    (one other : Surroundings MemoryFactory MemoryStore γ) : Prop where
  turns : other.turns = one.turns
  growing : one.Growing
  react : ∀ moment {left right}, Masked mask limit tied left right →
    Roomy limit (one.react moment left).log →
      Masked mask limit tied (one.react moment left) (other.react (moment.under mask) right)

structure EndMasked {α : Type} (mask : Hash → Hash) (limit : Nat) (tied : γ → γ → Prop)
    (one other : Except Failure α × Directory MemoryFactory MemoryStore γ) : Prop where
  result : ResultMasked mask one.1 other.1
  masked : Masked mask limit tied one.2 other.2

theorem main_ne_of_client (named : handle.id = .client client) : wellKnown .main ≠ handle := by
  rintro rfl
  cases named

theorem present_of_started {φ σ : Type} [PartitionStore σ] {surroundings : Surroundings φ σ γ}
    {directory : Directory φ σ γ} {done : Unit}
    (started : (directory.startStore surroundings handle).1 = .ok done) :
    ((directory.startStore surroundings handle).2.store? handle).isSome := by
  unfold startStore at started ⊢
  dsimp only at started ⊢
  split at started
  · cases started
  · rename_i store present
    rw [store?_setStore present]
    rfl

namespace Masked

theorem setIsolation (masked : Masked mask limit tied left right) (enabled : Bool) :
    Masked mask limit tied (left.setIsolation enabled) (right.setIsolation enabled) := by
  have toggled : Masked mask limit tied
      { left with policy := (left.policy.set enabled).2 }
      { right with policy := (right.policy.set enabled).2 } := { masked with policy := rfl }
  simp only [Directory.setIsolation]
  rw [masked.policy] at toggled ⊢
  split
  · exact toggled
  · exact toggled.note (LogEvent.masked_self _)

theorem stopStore (masked : Masked mask limit tied left right) (handle : Handle) :
    Masked mask limit tied (left.stopStore handle) (right.stopStore (handle.under mask)) := by
  unfold Directory.stopStore
  rcases masked.store?_cases handle with ⟨here, there⟩ | ⟨first, second, here, there, store⟩
  · rw [here, there]
    exact masked
  · rw [here, there]
    exact masked.setStore handle store.shutdown

theorem insert (masked : Masked mask limit tied left right) (handle : Handle) (key : Hash)
    (entry : Entry) :
    Masked mask limit tied (left.insert handle key entry).2
      (right.insert (handle.under mask) (mask key) (entry.under mask)).2 := by
  unfold Directory.insert
  rcases masked.store?_cases handle with ⟨here, there⟩ | ⟨first, second, here, there, store⟩
  · rw [here, there]
    exact masked
  · rw [here, there]
    exact masked.setStore handle (store.insert masked.apart.injective key entry).2

theorem touchStore (masked : Masked mask limit tied left right) (handle : Handle)
    (data again : Blinding) :
    Masked mask limit tied (left.touchStore handle data).2
      (right.touchStore (handle.under mask) again).2 := by
  unfold Directory.touchStore
  rcases masked.store?_cases handle with ⟨here, there⟩ | ⟨first, second, here, there, store⟩
  · rw [here, there]
    exact masked
  · rw [here, there]
    exact masked.setStore handle (store.setBlinding data again).2

theorem findLease (masked : Masked mask limit tied left right) (key : Hash) :
    Masked mask limit tied (left.findLease key).2 (right.findLease (mask key)).2 := by
  have owned := masked.findOwner_isSome key
  have lease := masked.lookupLease (wellKnown .main) key
  rw [under_wellKnown] at lease
  unfold Directory.findLease
  cases here : left.findOwner key with
  | none =>
    have there : right.findOwner (mask key) = none := by simpa [here] using owned
    simp only [there, lease, Option.isSome_map]
    exact masked.countOne _
  | some owner =>
    rw [here, Option.isSome_some, Option.isSome_iff_exists] at owned
    obtain ⟨again, there⟩ := owned
    simp only [there]
    exact masked.countOne _

end Masked

namespace Masking

variable (masking : Masking mask limit tied one other)

include masking

theorem publish (masked : Masked mask limit tied left right)
    (roomy : Roomy limit (left.publish one).log) :
    Masked mask limit tied (left.publish one) (right.publish other) := by
  refine masking.react .gauge { masked with metrics := ?_ } roomy
  rw [masked.metrics, Clients.size, masked.clients.size masked.apart, Clients.size]

theorem unregister (masked : Masked mask limit tied left right)
    (roomy : Roomy limit (left.unregister one client handle).log) :
    Masked mask limit tied (left.unregister one client handle)
      (right.unregister other (mask client) (handle.under mask)) := by
  unfold Directory.unregister at roomy ⊢
  simp only [masked.tracked?_iff]
  split
  · rename_i tracked
    rw [if_pos tracked] at roomy
    exact masking.publish (masked.untrack client) roomy
  · exact masked

theorem build (masked : Masked mask limit tied left right) (id : PartitionId)
    (roomy : Roomy limit (left.build one id).2.log) :
    (right.build other (id.under mask)).1 = (left.build one id).1.under mask ∧
      Masked mask limit tied (left.build one id).2 (right.build other (id.under mask)).2 := by
  have reacted := masking.react (.create id) masked roomy
  exact ⟨reacted.next id, reacted.construct id⟩

theorem register (masked : Masked mask limit tied left right)
    (roomy : Roomy limit (left.register one client).2.log) :
    (right.register other (mask client)).1 = (left.register one client).1.under mask ∧
      Masked mask limit tied (left.register one client).2
        (right.register other (mask client)).2 := by
  have grown : (left.build one (.client client)).2.log <:+ (left.register one client).2.log := by
    unfold Directory.register
    dsimp only
    split
    · exact List.suffix_cons _ _
    · exact kept_publish _ _ (masking.growing _) (List.suffix_refl _)
  obtain ⟨named, built⟩ := masking.build masked (.client client) (roomy.before grown)
  unfold Directory.register at roomy ⊢
  change (right.build other (.client (mask client))).1 = _ at named
  change Masked _ _ _ _ (right.build other (.client (mask client))).2 at built
  rcases built.tracked?_cases client with ⟨here, there⟩ | ⟨handle, here, there⟩
  · simp only [here] at roomy
    simp only [here, there, named, true_and]
    exact masking.publish (built.track _ _) roomy
  · simp only [here, there, true_and]
    exact (built.countOne .races).note
      (LogEvent.masked_named .lostRace (fun _ => rfl) (.client client))

theorem startStore (masked : Masked mask limit tied left right)
    (roomy : Roomy limit (left.startStore one handle).2.log) :
    EndMasked mask limit tied (left.startStore one handle)
      (right.startStore other (handle.under mask)) := by
  have room : Roomy limit (one.react (.startup handle.id) left).log := by
    rwa [log_startStore] at roomy
  have reacted := masking.react (.startup handle.id) masked room
  simp only [Directory.startStore]
  rcases reacted.store?_cases handle with ⟨here, there⟩ | ⟨first, second, here, there, store⟩
  · have there : (other.react (.startup (handle.under mask).id) right).store? (handle.under mask) =
        none := there
    rw [here, there]
    exact ⟨.error Failure.masked_closed, reacted⟩
  · have there : (other.react (.startup (handle.under mask).id) right).store? (handle.under mask) =
        some second := there
    rw [here, there]
    exact ⟨store.startup.1, reacted.setStore handle store.startup.2⟩

theorem giveUp (masked : Masked mask limit tied left right)
    (roomy : Roomy limit (left.giveUp one client handle).log) :
    Masked mask limit tied (left.giveUp one client handle)
      (right.giveUp other (mask client) (handle.under mask)) :=
  (masking.unregister masked roomy).setLifecycle handle .shutDown

omit masking in
theorem goLive (masked : Masked mask limit tied left right) (apart : wellKnown .main ≠ handle)
    (present : (left.store? handle).isSome = true)
    (roomy : Roomy limit (left.goLive handle).log) :
    Masked mask limit tied (left.goLive handle) (right.goLive (handle.under mask)) := by
  have seeded := masked.seed apart present (roomy.before (List.suffix_cons _ _))
  have counted := (seeded.setLifecycle handle .ready).countOne (.created handle.id.kind)
  have kind : (handle.under mask).id.kind = handle.id.kind := handle.id.kind_under
  rw [Directory.goLive, Directory.goLive, kind]
  exact counted.note (LogEvent.masked_named .created (fun _ => rfl) handle.id)

theorem bringUp (masked : Masked mask limit tied left right) (named : handle.id = .client client)
    (roomy : Roomy limit (left.bringUp one client handle).2.log) :
    EndMasked mask limit tied (left.bringUp one client handle)
      (right.bringUp other (mask client) (handle.under mask)) := by
  cases closed : left.closed with
  | true =>
    have still : right.closed = true := masked.closed.trans closed
    simp only [bringUp_eq, closed, if_true] at roomy
    simp only [bringUp_eq, closed, still, if_true]
    exact ⟨.error Failure.masked_closed, masking.giveUp masked roomy⟩
  | false =>
    have still : right.closed = false := masked.closed.trans closed
    have grown : (left.startStore one handle).2.log <:+
        (left.bringUp one client handle).2.log :=
      kept_bringUp_of_started client (masking.growing _) closed (List.suffix_refl _)
    have started := masking.startStore masked (roomy.before grown)
    have present := @present_of_started _ handle _ _ _ one left
    simp only [bringUp_eq, closed, Bool.false_eq_true, if_false] at roomy
    simp only [bringUp_eq, closed, still, Bool.false_eq_true, if_false]
    generalize left.startStore one handle = first at *
    generalize right.startStore other (handle.under mask) = second at *
    obtain ⟨ended, before⟩ := first
    obtain ⟨again, after⟩ := second
    obtain ⟨result, started⟩ := started
    cases result with
    | error reads =>
      have struck := masking.giveUp started (roomy.before (List.suffix_cons _ _))
      exact ⟨.error reads, struck.note (LogEvent.masked_failedToStart handle.id reads)⟩
    | ok done =>
      exact ⟨.ok true, goLive started (main_ne_of_client named) (present rfl) roomy⟩

theorem startClient (masked : Masked mask limit tied left right)
    (named : handle.id = .client client)
    (roomy : Roomy limit (left.startClient one client handle).2.log) :
    EndMasked mask limit tied (left.startClient one client handle)
      (right.startClient other (mask client) (handle.under mask)) := by
  unfold Directory.startClient at roomy ⊢
  rcases masked.partition?_cases handle with ⟨here, there⟩ | ⟨first, second, here, there, partition⟩
  · rw [here, there]
    exact ⟨.ok false, masked⟩
  · simp only [here] at roomy
    simp only [here, there, partition.locked, partition.lifecycle]
    split
    · exact ⟨.error Failure.masked_closed, masked.wait⟩
    · rename_i free
      rw [if_neg free] at roomy
      cases stage : first.lifecycle with
      | ready => exact ⟨.ok true, masked⟩
      | shutDown => exact ⟨.ok false, masked⟩
      | creating =>
        rw [stage] at roomy
        have started := masking.bringUp (masked.setLocked handle true) named roomy
        exact ⟨started.result, started.masked.setLocked handle false⟩

theorem attend {looks : Nat} (masked : Masked mask limit tied left right)
    (named : handle.id = .client client)
    (roomy : Roomy limit (attend one client looks (handle, left)).2.log)
    (later : ∀ {left right}, Masked mask limit tied left right →
      Roomy limit (clientWithin one client looks left).2.log →
        Masked mask limit tied (clientWithin one client looks left).2
          (clientWithin other (mask client) looks right).2) :
    Masked mask limit tied (attend one client looks (handle, left)).2
      (attend other (mask client) looks (handle.under mask, right)).2 := by
  cases ready : left.isReady handle with
  | true =>
    have still : right.isReady (handle.under mask) = true := (masked.isReady handle).trans ready
    simp only [Directory.attend, ready, still, if_true]
    exact masked
  | false =>
    have still : right.isReady (handle.under mask) = false := (masked.isReady handle).trans ready
    have keeping := masking.growing (left.startClient one client handle).2.log
    have grown : (left.startClient one client handle).2.log <:+
        (Directory.attend one client looks (handle, left)).2.log :=
      kept_attend_of_started keeping ready (List.suffix_refl _)
        (kept_clientWithin client keeping looks)
    have started := masking.startClient masked named (roomy.before grown)
    simp only [Directory.attend, ready, Bool.false_eq_true, if_false] at roomy
    simp only [Directory.attend, ready, still, Bool.false_eq_true, if_false]
    clear grown keeping
    generalize left.startClient one client handle = first at *
    generalize right.startClient other (mask client) (handle.under mask) = second at *
    obtain ⟨ended, before⟩ := first
    obtain ⟨again, after⟩ := second
    obtain ⟨result, started⟩ := started
    cases result with
    | error reads => exact started
    | ok up =>
      cases up with
      | true => exact started
      | false =>
        have keeping := masking.growing (before.unregister one client handle).log
        have grown : (before.unregister one client handle).log <:+
            (clientWithin one client looks (before.unregister one client handle)).2.log :=
          kept_clientWithin client keeping looks _ (List.suffix_refl _)
        exact later (masking.unregister started (roomy.before grown)) roomy

theorem seek (masked : Masked mask limit tied left right)
    (roomy : Roomy limit (left.seek one client).2.log) :
    (right.seek other (mask client)).1 = (left.seek one client).1.under mask ∧
      Masked mask limit tied (left.seek one client).2 (right.seek other (mask client)).2 := by
  unfold Directory.seek at roomy ⊢
  rcases masked.tracked?_cases client with ⟨here, there⟩ | ⟨handle, here, there⟩
  · simp only [here] at roomy
    simp only [here, there]
    exact masking.register masked roomy
  · simp only [here, there, true_and]
    exact masked

theorem clientWithin {looks : Nat} (masked : Masked mask limit tied left right)
    (roomy : Roomy limit (clientWithin one client looks left).2.log) :
    Masked mask limit tied (clientWithin one client looks left).2
      (clientWithin other (mask client) looks right).2 := by
  induction looks generalizing left right with
  | zero => exact masked.wait
  | succ looks ih =>
    rw [clientWithin_succ] at roomy ⊢
    rw [clientWithin_succ, masked.closed]
    split
    · exact masked
    · rename_i opened
      rw [if_neg opened] at roomy
      have keeping := masking.growing (left.seek one client).2.log
      have grown : (left.seek one client).2.log <:+
          (Directory.attend one client looks (left.seek one client)).2.log :=
        kept_attend keeping (List.suffix_refl _) (kept_clientWithin client keeping looks)
      obtain ⟨named, sought⟩ := masking.seek masked (roomy.before grown)
      have found : right.seek other (mask client) =
          ((left.seek one client).1.under mask, (right.seek other (mask client)).2) :=
        Prod.ext named rfl
      rw [found]
      exact masking.attend sought seek_id roomy ih

end Masking

end Directory

end PeerDirectory

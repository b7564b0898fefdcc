import PeerDirectory.Proofs.Run.Move

namespace PeerDirectory

def Surroundings.Ungauged {φ σ γ : Type} (surroundings : Surroundings φ σ γ) : Prop :=
  ∀ directory, surroundings.react .gauge directory = directory

namespace Directory

section Equations

variable {φ σ γ τ υ : Type} {surroundings : Surroundings φ σ γ} {directory : Directory φ σ γ}
  {client : Hash} {handle : Handle}

theorem unregister_eq (ungauged : surroundings.Ungauged) :
    directory.unregister surroundings client handle =
      directory.unregister (.quiet 0) client handle := by
  unfold unregister
  split
  · exact ungauged _
  · rfl

theorem register_eq [StoreFactory φ σ] (ungauged : surroundings.Ungauged) :
    directory.register surroundings client =
      (surroundings.react (.create (.client client)) directory).register (.quiet 0) client := by
  have built : directory.build surroundings (.client client) =
      (surroundings.react (.create (.client client)) directory).build (.quiet 0)
        (.client client) := rfl
  simp only [register, built]
  split
  · rfl
  · rw [publish, ungauged]
    rfl

section Stores

variable [PartitionStore σ]

theorem startStore_eq (surroundings : Surroundings φ σ γ) :
    directory.startStore surroundings handle =
      (surroundings.react (.startup handle.id) directory).startStore (.quiet 0) handle := rfl

theorem removeClient_eq (ungauged : surroundings.Ungauged) :
    directory.removeClient surroundings client = directory.removeClient (.quiet 0) client := by
  unfold removeClient
  simp only [unregister_eq ungauged]

theorem shutdown_eq (ungauged : surroundings.Ungauged) :
    directory.shutdown surroundings = directory.shutdown (.quiet 0) := by
  unfold shutdown
  rw [publish, ungauged]
  rfl

theorem bringUp_of_closed (ungauged : surroundings.Ungauged) (closed : directory.closed = true) :
    directory.bringUp surroundings client handle = directory.bringUp (.quiet 0) client handle := by
  simp only [bringUp_eq, giveUp, closed, if_true, unregister_eq ungauged]

theorem bringUp_of_open (ungauged : surroundings.Ungauged) (opened : directory.closed = false)
    (still : (surroundings.react (.startup handle.id) directory).closed = false) :
    directory.bringUp surroundings client handle =
      (surroundings.react (.startup handle.id) directory).bringUp (.quiet 0) client handle := by
  simp only [bringUp_eq, giveUp, opened, still, Bool.false_eq_true, if_false,
    unregister_eq ungauged, startStore_eq surroundings]

theorem perform_plain [StoreFactory φ σ] [Backdoor φ σ τ υ] (ungauged : surroundings.Ungauged)
    {call : Call τ υ} (plain : call.plain = true) :
    directory.perform surroundings call = directory.perform (.quiet 0) call := by
  cases call with
  | resolve id => cases plain
  | clientPartition id => cases plain
  | startStore handle => cases plain
  | removeClient client => simp only [perform, removeClient_eq ungauged]
  | shutdown => simp only [perform, shutdown_eq ungauged]
  | _ => rfl

end Stores

end Equations

section Search

variable {φ σ γ : Type} [PartitionStore σ] [StoreFactory φ σ]
  {surroundings : Surroundings φ σ γ} {directory : Directory φ σ γ} {client : Hash}
  {handle : Handle} {busy : List Handle} {looks : Nat}

theorem attend_of_tracked (orderly : Orderly busy directory.shape)
    (tracked : directory.tracked? client = some handle)
    (unstuck : (attend surroundings client looks (handle, directory)).2.stuck = false) :
    attend surroundings client looks (handle, directory) = (.ok handle, directory) ∧
      directory.stage? handle = some (.ready, false) := by
  rcases orderly.tracked tracked with ready | starting
  · refine ⟨?_, ready⟩
    simp [attend, isReady_iff ready]
  · -- Somebody is starting the partition already, so the search waits.
    have stands := orderly.starting starting
    obtain ⟨partition, here, found⟩ := Option.map_eq_some_iff.mp stands
    simp only [Prod.mk.injEq] at found
    simp [attend, isReady_iff stands, startClient, here, found.2, wait] at unstuck

omit [StoreFactory φ σ] in
theorem bringUp_ne_false : (directory.bringUp surroundings client handle).1 ≠ .ok false := by
  simp only [bringUp_eq]
  split
  · simp
  · split <;> simp

theorem attend_of_new (untracked : directory.tracked? client = none) (looks : Nat) :
    attend surroundings client looks (directory.register (.quiet 0) client) =
      (((directory.launch client).bringUp surroundings client
          (directory.partitions.next (.client client))).1.map
            fun _ => directory.partitions.next (.client client),
        ((directory.launch client).bringUp surroundings client
          (directory.partitions.next (.client client))).2.setLocked
            (directory.partitions.next (.client client)) false) := by
  obtain ⟨named, registered⟩ := register_quiet_of_untracked 0 untracked
  have stands : (directory.register (.quiet 0) client).2.stage?
      (directory.partitions.next (.client client)) = some (.creating, false) := by
    simpa using congrFun (congrArg Shape.stages registered)
      (directory.partitions.next (.client client))
  obtain ⟨partition, here, found⟩ := Option.map_eq_some_iff.mp stands
  simp only [Prod.mk.injEq] at found
  simp only [attend, named, isReady_iff stands, startClient, here, found, reduceCtorEq,
    decide_false, Bool.false_eq_true, if_false]
  have progress : ((directory.launch client).bringUp surroundings client
    (directory.partitions.next (.client client))).1 ≠ .ok false := bringUp_ne_false
  cases result : ((directory.launch client).bringUp surroundings client
      (directory.partitions.next (.client client))).1 with
  | error failure =>
    rw [launch] at result
    simp only [result, launch]
    rfl
  | ok ready =>
    cases ready with
    | true =>
      rw [launch] at result
      simp only [result, launch]
      rfl
    | false => exact absurd result progress

inductive Pursuit (surroundings : Surroundings φ σ γ) (client : Hash)
    (directory : Directory φ σ γ) : Except Failure Handle → Directory φ σ γ → Prop
  | refused (closed : directory.closed = true) :
      Pursuit surroundings client directory (.error .closed) directory
  | standing {handle : Handle} (opened : directory.closed = false)
      (tracked : directory.tracked? client = some handle)
      (ready : directory.stage? handle = some (.ready, false)) :
      Pursuit surroundings client directory (.ok handle) directory
  | overtaken {first : Directory φ σ γ} {handle : Handle} (opened : directory.closed = false)
      (untracked : directory.tracked? client = none)
      (reached : surroundings.react (.create (.client client)) directory = first)
      (tracked : first.tracked? client = some handle)
      (ready : first.stage? handle = some (.ready, false)) :
      Pursuit surroundings client directory (.ok handle) (first.register (.quiet 0) client).2
  | shut {first : Directory φ σ γ} (opened : directory.closed = false)
      (untracked : directory.tracked? client = none)
      (reached : surroundings.react (.create (.client client)) directory = first)
      (still : first.tracked? client = none) (closed : first.closed = true) :
      Pursuit surroundings client directory (.error .closed)
        ((first.launch client).settle client (first.partitions.next (.client client))).2
  | started {first starting : Directory φ σ γ} {handle : Handle}
      (opened : directory.closed = false) (untracked : directory.tracked? client = none)
      (reached : surroundings.react (.create (.client client)) directory = first)
      (still : first.tracked? client = none) (running : first.closed = false)
      (named : first.partitions.next (.client client) = handle)
      (launched : surroundings.react (.startup handle.id) (first.launch client) = starting)
      (kept : starting.closed = false) :
      Pursuit surroundings client directory
        ((starting.settle client handle).1.map fun _ => handle) (starting.settle client handle).2

theorem attend_of_ready (ready : directory.stage? handle = some (.ready, false)) (looks : Nat) :
    attend surroundings client looks (handle, directory) = (.ok handle, directory) := by
  simp [attend, isReady_iff ready]

omit [PartitionStore σ] in
theorem stage?_register_of_tracked {other : Handle} {stage : Lifecycle × Bool} (turns : Nat)
    (tracked : directory.tracked? client = some other)
    (stands : directory.stage? handle = some stage) :
    (directory.register (.quiet turns) client).2.stage? handle = some stage := by
  have registered := congrArg Shape.stages (register_quiet_of_tracked turns tracked).2
  have apart : handle ≠ directory.partitions.next (.client client) := by
    rintro rfl
    rw [stage?_next] at stands
    cases stands
  exact (congrFun registered handle).trans (by simpa [apart] using stands)

theorem Pursuit.clientWithin {result : Except Failure Handle} {after : Directory φ σ γ}
    (pursuit : Pursuit surroundings client directory result after)
    (ungauged : surroundings.Ungauged) (looks : Nat) :
    clientWithin surroundings client (looks + 1) directory = (result, after) := by
  rw [clientWithin_succ]
  cases pursuit with
  | refused closed => simp [closed]
  | standing opened tracked ready => simp [opened, seek, tracked, attend_of_ready ready]
  | @overtaken first handle opened untracked reached tracked ready =>
    simp only [opened, Bool.false_eq_true, if_false, seek, untracked, register_eq ungauged, reached]
    have found : first.register (.quiet 0) client =
        (handle, (first.register (.quiet 0) client).2) :=
      Prod.ext (register_quiet_of_tracked 0 tracked).1 rfl
    rw [found]
    exact attend_of_ready (stage?_register_of_tracked 0 tracked ready) looks
  | @shut first opened untracked reached still closed =>
    simp only [opened, Bool.false_eq_true, if_false, seek, untracked, register_eq ungauged, reached]
    have shut : (first.launch client).closed = true :=
      (congrArg Shape.closed (shape_launch still)).trans closed
    have result := (refuse_of_closed still closed).1
    simp only [settle] at result
    rw [attend_of_new still, bringUp_of_closed ungauged shut, result]
    rfl
  | @started first starting handle opened untracked reached still running named launched kept =>
    simp only [opened, Bool.false_eq_true, if_false, seek, untracked, register_eq ungauged, reached]
    have opening : (first.launch client).closed = false :=
      (congrArg Shape.closed (shape_launch still)).trans running
    rw [attend_of_new still, named, bringUp_of_open ungauged opening (by rw [launched]; exact kept),
      launched]
    rfl

end Search

end Directory

end PeerDirectory

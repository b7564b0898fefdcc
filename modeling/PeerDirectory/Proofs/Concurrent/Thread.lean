import PeerDirectory.Proofs.Directory.Lifecycle
import Mathlib.Logic.Relation

namespace PeerDirectory

inductive Phase where
  | route
  | check
  | load
  | create
  /-- It has built a partition, and is about to enter it unless another one stands there. -/
  | enroll (candidate : Handle)
  | glance (handle : Handle)
  | acquire (handle : Handle)
  | inspect (handle : Handle)
  | recheck (handle : Handle)
  | startup (handle : Handle)
  | seed (handle : Handle)
  | ready (handle : Handle)
  | strike (handle : Handle) (failed : Option Failure)
  | shut (handle : Handle) (failed : Option Failure)
  | release (handle : Handle) (result : Except Failure Bool)
  /-- The partition was shut down before it could start, and is about to be struck off in case it is
  still tracked. -/
  | retry (handle : Handle)
  | done (result : Except Failure Handle)

def Phase.started (handle : Handle) : Except Failure Unit → Phase
  | .ok () => .seed handle
  | .error failure => .strike handle (some failure)

def Phase.released (handle : Handle) : Except Failure Bool → Phase
  | .ok true => .done (.ok handle)
  | .ok false => .retry handle
  | .error failure => .done (.error failure)

namespace Directory

variable {φ σ γ : Type} [PartitionStore σ] [StoreFactory φ σ]

def enroll (directory : Directory φ σ γ) (client : Hash) (candidate : Handle) :
    Handle × Directory φ σ γ :=
  match directory.tracked? client with
  | some handle => (handle, (directory.countOne .races).note (.lostRace (.client client)))
  | none =>
    (candidate,
      { directory with
        clients := directory.clients.insert client ⟨.client client, candidate.generation⟩ rfl
      }.publish (.quiet 0))

/-- The next step of a thread. There is none while somebody else may start the partition that the
thread waits for, and none after its end. -/
def advance (directory : Directory φ σ γ) (client : Hash) :
    Phase → Option (Phase × Directory φ σ γ)
  | .route =>
    some (if directory.isolated then .check else .done (.ok (wellKnown .main)), directory)
  | .check => some (if directory.closed then .done (.error .closed) else .load, directory)
  | .load =>
    match directory.tracked? client with
    | some handle => some (.glance handle, directory)
    | none => some (.create, directory)
  | .create =>
    let built := directory.build (.quiet 0) (.client client)
    some (.enroll built.1, built.2)
  | .enroll candidate =>
    let enrolled := directory.enroll client candidate
    some (.glance enrolled.1, enrolled.2)
  | .glance handle =>
    some (if directory.isReady handle then .done (.ok handle) else .acquire handle, directory)
  | .acquire handle =>
    match directory.partition? handle with
    | none => some (.retry handle, directory)
    | some partition =>
      if partition.locked then none else some (.inspect handle, directory.setLocked handle true)
  | .inspect handle =>
    match directory.lifecycle? handle with
    | some .ready => some (.release handle (.ok true), directory)
    | some .creating => some (.recheck handle, directory)
    | _ => some (.release handle (.ok false), directory)
  | .recheck handle =>
    some (if directory.closed then .strike handle none else .startup handle, directory)
  | .startup handle =>
    let started := directory.startStore (.quiet 0) handle
    some (.started handle started.1, started.2)
  | .seed handle => some (.ready handle, directory.seed handle)
  | .ready handle =>
    some (.release handle (.ok true),
      ((directory.setLifecycle handle .ready).countOne (.created handle.id.kind)).note
        (.created handle.id))
  | .strike handle failed =>
    some (.shut handle failed, directory.unregister (.quiet 0) client handle)
  | .shut handle failed =>
    let shut := directory.setLifecycle handle .shutDown
    match failed with
    | none => some (.release handle (.error .closed), shut)
    | some failure =>
      some (.release handle (.error failure), shut.note (.failedToStart handle.id failure))
  | .release handle result => some (.released handle result, directory.setLocked handle false)
  | .retry handle => some (.check, directory.unregister (.quiet 0) client handle)
  | .done _ => none

def Alone (client : Hash) : Phase × Directory φ σ γ → Phase × Directory φ σ γ → Prop :=
  Relation.ReflTransGen fun before after => before.2.advance client before.1 = some after

section Alone

variable {directory : Directory φ σ γ} {client : Hash} {handle : Handle} {turns : Nat}

theorem alone_register (untracked : directory.tracked? client = none) :
    Alone client (.load, directory)
      (.glance (directory.register (.quiet turns) client).1,
        (directory.register (.quiet turns) client).2) := by
  have created : directory.advance client .load = some (.create, directory) := by
    simp [advance, untracked]
  have same : directory.register (.quiet turns) client =
      (directory.build (.quiet 0) (.client client)).2.enroll client
        (directory.build (.quiet 0) (.client client)).1 := rfl
  rw [same]
  exact .head created (.head rfl (.single rfl))

theorem alone_seek :
    Alone client (.load, directory)
      (.glance (directory.seek (.quiet turns) client).1,
        (directory.seek (.quiet turns) client).2) := by
  unfold seek
  cases tracked : directory.tracked? client with
  | none => exact alone_register tracked
  | some handle => exact .single (by simp [advance, tracked])

theorem alone_bringUp :
    Alone client (.recheck handle, directory)
      (.release handle (directory.bringUp (.quiet turns) client handle).1,
        (directory.bringUp (.quiet turns) client handle).2) := by
  have same : directory.startStore (.quiet turns) handle =
      directory.startStore (.quiet 0) handle := rfl
  simp only [bringUp_eq]
  rw [same]
  cases closed : directory.closed with
  | true =>
    have refused : directory.advance client (.recheck handle) =
        some (.strike handle none, directory) := by simp [advance, closed]
    exact .head refused (.head rfl (.single rfl))
  | false =>
    have permitted : directory.advance client (.recheck handle) =
        some (.startup handle, directory) := by simp [advance, closed]
    refine .head permitted (.head rfl ?_)
    cases result : (directory.startStore (.quiet 0) handle).1 with
    | ok _ => exact .head rfl (.single rfl)
    | error failure => exact .head rfl (.single rfl)

omit [PartitionStore σ] [StoreFactory φ σ] in
theorem setLocked_setLocked_of_free {partition : Partition σ}
    (here : directory.partition? handle = some partition) (free : partition.locked = false) :
    (directory.setLocked handle true).setLocked handle false = directory := by
  have same : (directory.partitions.modify handle fun partition =>
      { partition with locked := false }) = directory.partitions := by
    apply Registry.modify_of_fixed
    intro found stands
    obtain rfl := Option.some.inj (here.symm.trans stands)
    rw [← free]
  unfold setLocked modify
  rw [Registry.modify_modify, same]

theorem alone_startClient
    (unstuck : (directory.startClient (.quiet turns) client handle).2.stuck = false) :
    Alone client (.acquire handle, directory)
      (.released handle (directory.startClient (.quiet turns) client handle).1,
        (directory.startClient (.quiet turns) client handle).2) := by
  unfold startClient at unstuck ⊢
  cases here : directory.partition? handle with
  | none => exact .single (by simp [advance, here, Phase.released])
  | some partition =>
    obtain ⟨store, stage, locked⟩ := partition
    cases locked with
    | true => simp [here, wait] at unstuck
    | false =>
      have acquired : directory.advance client (.acquire handle) =
          some (.inspect handle, directory.setLocked handle true) := by simp [advance, here]
      have stands : (directory.setLocked handle true).lifecycle? handle = some stage := by
        simp [lifecycle?, setLocked, partition?_modify, here]
      have unchanged : (directory.setLocked handle true).setLocked handle false = directory :=
        setLocked_setLocked_of_free here rfl
      refine .head acquired ?_
      cases stage with
      | ready =>
        have inspected : (directory.setLocked handle true).advance client (.inspect handle) =
            some (.release handle (.ok true), directory.setLocked handle true) := by
          simp [advance, stands]
        refine .head inspected (.single ?_)
        simp [advance, Phase.released, unchanged]
      | shutDown =>
        have inspected : (directory.setLocked handle true).advance client (.inspect handle) =
            some (.release handle (.ok false), directory.setLocked handle true) := by
          simp [advance, stands]
        refine .head inspected (.single ?_)
        simp [advance, Phase.released, unchanged]
      | creating =>
        have inspected : (directory.setLocked handle true).advance client (.inspect handle) =
            some (.recheck handle, directory.setLocked handle true) := by
          simp [advance, stands]
        exact .head inspected (alone_bringUp.tail rfl)

theorem alone_attend {looks : Nat} {found : Handle × Directory φ σ γ}
    (again : ∀ directory : Directory φ σ γ,
      (clientWithin (.quiet turns) client looks directory).2.stuck = false →
        Alone client (.check, directory)
          (.done (clientWithin (.quiet turns) client looks directory).1,
            (clientWithin (.quiet turns) client looks directory).2))
    (unstuck : (attend (.quiet turns) client looks found).2.stuck = false) :
    Alone client (.glance found.1, found.2)
      (.done (attend (.quiet turns) client looks found).1,
        (attend (.quiet turns) client looks found).2) := by
  unfold attend at unstuck ⊢
  cases ready : found.2.isReady found.1 with
  | true => exact .single (by simp [advance, ready])
  | false =>
    simp only [ready, Bool.false_eq_true, if_false] at unstuck ⊢
    have glanced : found.2.advance client (.glance found.1) = some (.acquire found.1, found.2) := by
      simp [advance, ready]
    refine .head glanced ?_
    cases started : (found.2.startClient (.quiet turns) client found.1).1 with
    | error failure =>
      simp only [started] at unstuck ⊢
      have ended := alone_startClient unstuck
      rwa [started] at ended
    | ok brought =>
      cases brought with
      | true =>
        simp only [started] at unstuck ⊢
        have ended := alone_startClient unstuck
        rwa [started] at ended
      | false =>
        simp only [started] at unstuck ⊢
        -- The search would wait for ever if this call did, so the call comes to an end.
        have free : (found.2.startClient (.quiet turns) client found.1).2.stuck = false := by
          apply unstuck_of_later unstuck
          intro stuck
          have after := stuck_unregister client found.1 (Surroundings.patient_quiet turns) stuck
          exact stuck_clientWithin client (Surroundings.patient_quiet turns) looks _ after
        have ended := alone_startClient free
        rw [started] at ended
        exact ended.trans (.head rfl (again _ unstuck))

theorem alone_clientWithin {looks : Nat}
    (unstuck : (clientWithin (.quiet turns) client looks directory).2.stuck = false) :
    Alone client (.check, directory)
      (.done (clientWithin (.quiet turns) client looks directory).1,
        (clientWithin (.quiet turns) client looks directory).2) := by
  induction looks generalizing directory with
  | zero => simp [clientWithin, wait] at unstuck
  | succ looks ih =>
    rw [clientWithin_succ] at unstuck ⊢
    cases closed : directory.closed with
    | true => exact .single (by simp [advance, closed])
    | false =>
      simp only [closed, Bool.false_eq_true, if_false] at unstuck ⊢
      have checked : directory.advance client .check = some (.load, directory) := by
        simp [advance, closed]
      have sought : Alone client (.load, directory)
          (.glance (directory.seek (.quiet turns) client).1,
            (directory.seek (.quiet turns) client).2) := alone_seek
      exact .head checked (sought.trans (alone_attend (fun _ => ih) unstuck))

theorem alone_resolve
    (unstuck : (directory.resolve (.quiet turns) (some (.client client))).2.stuck = false) :
    Alone client (.route, directory)
      (.done (directory.resolve (.quiet turns) (some (.client client))).1,
        (directory.resolve (.quiet turns) (some (.client client))).2) := by
  unfold resolve at unstuck ⊢
  cases isolated : directory.isolated with
  | false => exact .single (by simp [advance, isolated])
  | true =>
    simp only [isolated, if_true] at unstuck ⊢
    have routed : directory.advance client .route = some (.check, directory) := by
      simp [advance, isolated]
    exact .head routed (alone_clientWithin unstuck)

end Alone

end Directory

end PeerDirectory

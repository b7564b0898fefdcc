import PeerDirectory.Proofs.Concurrent.Thread
import Mathlib.Logic.Function.Basic

namespace PeerDirectory

structure Attempt (n : Nat) where
  thread : Fin n
  handle : Handle
  result : Except Failure Unit

/-- What threads that look for a client's partition can see and have done. -/
structure View (n : Nat) where
  stages : Handle → Option (Lifecycle × Bool)
  tracked : Option Handle
  phases : Fin n → Phase
  /-- Every try to start a store, the newest first. -/
  attempts : List (Attempt n)
  /-- The partitions that a thread found shut down before they could start, the newest first. -/
  stale : Fin n → List Handle

namespace View

variable {n : Nat}

def goto (view : View n) (thread : Fin n) (phase : Phase) : View n :=
  { view with phases := Function.update view.phases thread phase }

def setStage (view : View n) (handle : Handle) (stage : Lifecycle × Bool) : View n :=
  { view with stages := Function.update view.stages handle (some stage) }

def track (view : View n) (tracked : Option Handle) : View n := { view with tracked }

def attempt (view : View n) (attempt : Attempt n) : View n :=
  { view with attempts := attempt :: view.attempts }

def drop (view : View n) (thread : Fin n) (handle : Handle) : View n :=
  { view with stale := Function.update view.stale thread (handle :: view.stale thread) }

section Changes

variable (view : View n) (thread other : Fin n) (handle asked : Handle)

@[simp, grind =] theorem stages_goto (phase : Phase) :
    (view.goto thread phase).stages asked = view.stages asked := rfl

@[simp, grind =] theorem phases_goto (phase : Phase) :
    (view.goto thread phase).phases other = if other = thread then phase else view.phases other :=
  Function.update_apply _ _ _ _

theorem phases_goto_self (phase : Phase) : (view.goto thread phase).phases thread = phase := by
  simp

@[simp, grind =] theorem tracked_goto (phase : Phase) :
    (view.goto thread phase).tracked = view.tracked := rfl

@[simp, grind =] theorem attempts_goto (phase : Phase) :
    (view.goto thread phase).attempts = view.attempts := rfl

@[simp, grind =] theorem stale_goto (phase : Phase) :
    (view.goto thread phase).stale other = view.stale other := rfl

@[simp, grind =] theorem stages_setStage (stage : Lifecycle × Bool) :
    (view.setStage handle stage).stages asked =
      if asked = handle then some stage else view.stages asked :=
  Function.update_apply _ _ _ _

@[simp, grind =] theorem phases_setStage (stage : Lifecycle × Bool) :
    (view.setStage handle stage).phases other = view.phases other := rfl

@[simp, grind =] theorem tracked_setStage (stage : Lifecycle × Bool) :
    (view.setStage handle stage).tracked = view.tracked := rfl

@[simp, grind =] theorem attempts_setStage (stage : Lifecycle × Bool) :
    (view.setStage handle stage).attempts = view.attempts := rfl

@[simp, grind =] theorem stale_setStage (stage : Lifecycle × Bool) :
    (view.setStage handle stage).stale other = view.stale other := rfl

@[simp, grind =] theorem stages_track (tracked : Option Handle) :
    (view.track tracked).stages asked = view.stages asked := rfl

@[simp, grind =] theorem phases_track (tracked : Option Handle) :
    (view.track tracked).phases other = view.phases other := rfl

@[simp, grind =] theorem tracked_track (tracked : Option Handle) :
    (view.track tracked).tracked = tracked := rfl

@[simp, grind =] theorem attempts_track (tracked : Option Handle) :
    (view.track tracked).attempts = view.attempts := rfl

@[simp, grind =] theorem stale_track (tracked : Option Handle) :
    (view.track tracked).stale other = view.stale other := rfl

@[simp, grind =] theorem stages_attempt (attempt : Attempt n) :
    (view.attempt attempt).stages asked = view.stages asked := rfl

@[simp, grind =] theorem phases_attempt (attempt : Attempt n) :
    (view.attempt attempt).phases other = view.phases other := rfl

@[simp, grind =] theorem tracked_attempt (attempt : Attempt n) :
    (view.attempt attempt).tracked = view.tracked := rfl

@[simp, grind =] theorem attempts_attempt (attempt : Attempt n) :
    (view.attempt attempt).attempts = attempt :: view.attempts := rfl

@[simp, grind =] theorem stale_attempt (attempt : Attempt n) :
    (view.attempt attempt).stale other = view.stale other := rfl

@[simp, grind =] theorem stages_drop :
    (view.drop thread handle).stages asked = view.stages asked := rfl

@[simp, grind =] theorem phases_drop :
    (view.drop thread handle).phases other = view.phases other := rfl

@[simp, grind =] theorem tracked_drop :
    (view.drop thread handle).tracked = view.tracked := rfl

@[simp, grind =] theorem attempts_drop :
    (view.drop thread handle).attempts = view.attempts := rfl

@[simp, grind =] theorem stale_drop :
    (view.drop thread handle).stale other =
      if other = thread then handle :: view.stale thread else view.stale other :=
  Function.update_apply _ _ _ _

variable {view handle asked}

theorem stages_setStage_of_ne {stage : Lifecycle × Bool} (apart : asked ≠ handle) :
    (view.setStage handle stage).stages asked = view.stages asked := by
  rw [stages_setStage, if_neg apart]

theorem stages_setStage_cases {stage found : Lifecycle × Bool}
    (stands : (view.setStage handle stage).stages asked = some found) :
    view.stages asked = some found ∨ asked = handle ∧ stage = found := by
  by_cases same : asked = handle
  · rw [stages_setStage, if_pos same] at stands
    exact Or.inr ⟨same, Option.some.inj stands⟩
  · rw [stages_setStage_of_ne same] at stands
    exact Or.inl stands

theorem stage_unique {first second : Lifecycle} {locked free : Bool}
    (one : view.stages handle = some (first, locked))
    (other : view.stages handle = some (second, free)) : first = second ∧ locked = free :=
  Prod.mk.inj (Option.some.inj (one.symm.trans other))

end Changes

inductive Turn (view : View n) : Phase → Phase → Prop where
  | route : Turn view .route .check
  | check : Turn view .check .load
  | find {handle} (tracked : view.tracked = some handle) : Turn view .load (.glance handle)
  | miss (untracked : view.tracked = none) : Turn view .load .create
  | lose {candidate handle} (tracked : view.tracked = some handle) :
      Turn view (.enroll candidate) (.glance handle)
  | take {handle locked} (ready : view.stages handle = some (.ready, locked)) :
      Turn view (.glance handle) (.done (.ok handle))
  | wait {handle} : Turn view (.glance handle) (.acquire handle)
  | join {handle locked} (ready : view.stages handle = some (.ready, locked)) :
      Turn view (.inspect handle) (.release handle (.ok true))
  | leave {handle locked} (shutDown : view.stages handle = some (.shutDown, locked)) :
      Turn view (.inspect handle) (.release handle (.ok false))
  | begin {handle locked} (creating : view.stages handle = some (.creating, locked)) :
      Turn view (.inspect handle) (.recheck handle)
  | recheck {handle} : Turn view (.recheck handle) (.startup handle)
  | seed {handle} : Turn view (.seed handle) (.ready handle)

inductive Act (client : Hash) (view : View n) (thread : Fin n) : View n → Prop where
  | turn {phase next} (here : view.phases thread = phase) (turn : Turn view phase next) :
      Act client view thread (view.goto thread next)
  | create {handle} (here : view.phases thread = .create) (named : handle.id = .client client)
      (absent : view.stages handle = none) :
      Act client view thread
        ((view.setStage handle (.creating, false)).goto thread (.enroll handle))
  | enroll {handle} (here : view.phases thread = .enroll handle)
      (untracked : view.tracked = none) :
      Act client view thread ((view.track (some handle)).goto thread (.glance handle))
  | acquire {handle stage} (here : view.phases thread = .acquire handle)
      (free : view.stages handle = some (stage, false)) :
      Act client view thread ((view.setStage handle (stage, true)).goto thread (.inspect handle))
  | startup {handle} (result) (here : view.phases thread = .startup handle) :
      Act client view thread
        ((view.attempt ⟨thread, handle, result⟩).goto thread (.started handle result))
  | ready {handle} (here : view.phases thread = .ready handle) :
      Act client view thread
        ((view.setStage handle (.ready, true)).goto thread (.release handle (.ok true)))
  | strike {handle failed} (here : view.phases thread = .strike handle failed) :
      Act client view thread ((view.track none).goto thread (.shut handle failed))
  | shut {handle failure} (here : view.phases thread = .shut handle (some failure)) :
      Act client view thread
        ((view.setStage handle (.shutDown, true)).goto thread (.release handle (.error failure)))
  | release {handle result stage} (here : view.phases thread = .release handle result)
      (stands : view.stages handle = some (stage, true)) :
      Act client view thread
        ((view.setStage handle (stage, false)).goto thread (.released handle result))
  | retry {handle} (here : view.phases thread = .retry handle) :
      Act client view thread ((view.drop thread handle).goto thread .check)

end View

end PeerDirectory

import PeerDirectory.Proofs.Concurrent.Protocol
import Mathlib.Data.List.Nodup

namespace PeerDirectory

def Phase.handle? : Phase → Option Handle
  | .enroll handle | .glance handle | .acquire handle | .inspect handle | .recheck handle
  | .startup handle | .seed handle | .ready handle | .strike handle _ | .shut handle _
  | .release handle _ | .retry handle | .done (.ok handle) => some handle
  | _ => none

def Phase.held? : Phase → Option Handle
  | .inspect handle | .recheck handle | .startup handle | .seed handle | .ready handle
  | .strike handle _ | .shut handle _ | .release handle _ => some handle
  | _ => none

def Attempt.Leads {n : Nat} (attempt : Attempt n) : Phase → Prop
  | .seed handle | .ready handle | .release handle (.ok true) | .done (.ok handle) =>
    attempt.handle = handle ∧ attempt.result = .ok ()
  | .strike handle (some failure) | .shut handle (some failure)
  | .release handle (.error failure) =>
    attempt.handle = handle ∧ attempt.result = .error failure
  | .done (.error failure) => attempt.result = .error failure
  | _ => False

namespace View

variable {n : Nat}

def Failed (view : View n) (handle : Handle) : Prop :=
  ∃ attempt ∈ view.attempts, attempt.handle = handle ∧ ∃ failure, attempt.result = .error failure

def Met (view : View n) (handle : Handle) : Prop :=
  view.tracked = some handle ∨ view.Failed handle

def Fits (view : View n) (thread : Fin n) : Phase → Prop
  | .route | .check | .load | .create => True
  | .enroll candidate => view.stages candidate = some (.creating, false)
  | .glance handle | .acquire handle => view.Met handle ∧ handle ∉ view.stale thread
  | .inspect handle =>
    (∃ stage, view.stages handle = some (stage, true)) ∧ view.Met handle ∧
      handle ∉ view.stale thread
  | .recheck handle | .startup handle =>
    view.stages handle = some (.creating, true) ∧ view.tracked = some handle ∧
      ∀ attempt ∈ view.attempts, attempt.handle ≠ handle
  | .seed handle | .ready handle =>
    view.stages handle = some (.creating, true) ∧ ⟨thread, handle, .ok ()⟩ ∈ view.attempts
  | .strike handle failed =>
    view.stages handle = some (.creating, true) ∧ view.tracked = some handle ∧
      ∃ failure, failed = some failure ∧ ⟨thread, handle, .error failure⟩ ∈ view.attempts
  | .shut handle failed =>
    view.stages handle = some (.creating, true) ∧ view.tracked ≠ some handle ∧
      ∃ failure, failed = some failure ∧ ⟨thread, handle, .error failure⟩ ∈ view.attempts
  | .release handle (.ok true) => view.stages handle = some (.ready, true)
  | .release handle (.ok false) =>
    view.stages handle = some (.shutDown, true) ∧ view.Failed handle ∧ handle ∉ view.stale thread
  | .release handle (.error failure) =>
    view.stages handle = some (.shutDown, true) ∧
      ⟨thread, handle, .error failure⟩ ∈ view.attempts
  | .retry handle =>
    (∃ locked, view.stages handle = some (.shutDown, locked)) ∧ view.Failed handle ∧
      handle ∉ view.stale thread
  | .done (.ok handle) => ∃ locked, view.stages handle = some (.ready, locked)
  | .done (.error failure) => ∃ handle, ⟨thread, handle, .error failure⟩ ∈ view.attempts

/-- What holds at all times, if the partitions that were not there at the beginning are the fresh
ones. -/
structure Sound (client : Hash) (fresh : Handle → Prop) (view : View n) : Prop where
  absent : ∀ {handle}, view.stages handle = none → fresh handle
  about : ∀ {thread handle}, (view.phases thread).handle? = some handle → fresh handle
  named : ∀ {thread handle}, (view.phases thread).handle? = some handle → handle.id = .client client
  fits : ∀ thread, view.Fits thread (view.phases thread)
  guarded : ∀ {handle stage}, fresh handle → view.stages handle = some (stage, true) →
    ∃ thread, (view.phases thread).held? = some handle
  alone : ∀ {thread other handle}, (view.phases thread).held? = some handle →
    (view.phases other).held? = some handle → thread = other
  owned : ∀ {thread other handle}, view.phases thread = .enroll handle →
    view.phases other = .enroll handle → thread = other
  tracked : ∀ {handle}, view.tracked = some handle →
    (handle.id = .client client ∧ fresh handle) ∧
    (∀ thread, view.phases thread ≠ .enroll handle) ∧
    ((∃ locked, view.stages handle = some (.ready, locked)) ∨
      (∃ locked, view.stages handle = some (.creating, locked)) ∧
        ∃ thread, (view.phases thread).handle? = some handle)
  leads : ∀ attempt ∈ view.attempts, attempt.Leads (view.phases attempt.thread)
  succeeded : ∀ attempt ∈ view.attempts, attempt.result = .ok () →
    view.tracked = some attempt.handle
  failed : ∀ attempt ∈ view.attempts, ∀ failure, attempt.result = .error failure →
    (∃ locked, view.stages attempt.handle = some (.shutDown, locked)) ∨
    view.phases attempt.thread = .strike attempt.handle (some failure) ∨
    view.phases attempt.thread = .shut attempt.handle (some failure)
  ready : ∀ {handle locked}, fresh handle → view.stages handle = some (.ready, locked) →
    ∃ attempt ∈ view.attempts, attempt.handle = handle ∧ attempt.result = .ok ()
  threads : (view.attempts.map (·.thread)).Nodup
  handles : (view.attempts.map (·.handle)).Nodup
  distinct : ∀ thread, (view.stale thread).Nodup
  stale : ∀ {thread handle}, handle ∈ view.stale thread →
    (∃ locked, view.stages handle = some (.shutDown, locked)) ∧
    ∃ attempt ∈ view.attempts, attempt.handle = handle ∧ attempt.thread ≠ thread

variable {client : Hash} {fresh : Handle → Prop} {view : View n} {thread : Fin n} {handle : Handle}

theorem locked_of_fits {phase : Phase} (fits : view.Fits thread phase)
    (held : phase.held? = some handle) : ∃ stage, view.stages handle = some (stage, true) := by
  cases phase with
  | inspect _ =>
    cases held
    exact fits.1
  | release _ result =>
    cases held
    cases result with
    | error failure => exact ⟨_, fits.1⟩
    | ok brought =>
      cases brought with
      | true => exact ⟨_, fits⟩
      | false => exact ⟨_, fits.1⟩
  | recheck _ | startup _ | seed _ | ready _ | strike _ _ | shut _ _ =>
    cases held
    exact ⟨_, fits.1⟩
  | _ => cases held

namespace Sound

variable (sound : Sound client fresh view)

include sound

theorem locked (held : (view.phases thread).held? = some handle) :
    ∃ stage, view.stages handle = some (stage, true) :=
  locked_of_fits (sound.fits thread) held

theorem fits_of {phase : Phase} (here : view.phases thread = phase) : view.Fits thread phase :=
  here ▸ sound.fits thread

theorem stage_of_attempt {attempt : Attempt n} (member : attempt ∈ view.attempts) :
    (∃ stage locked, stage ≠ .creating ∧ view.stages attempt.handle = some (stage, locked)) ∨
      (view.phases attempt.thread).held? = some attempt.handle := by
  have leads := sound.leads attempt member
  have fits := sound.fits attempt.thread
  cases result : attempt.result with
  | error failure =>
    rcases sound.failed attempt member failure result with ⟨locked, down⟩ | striking | shutting
    · exact Or.inl ⟨.shutDown, locked, by decide, down⟩
    · exact Or.inr (by rw [striking]; rfl)
    · exact Or.inr (by rw [shutting]; rfl)
  | ok _ =>
    generalize view.phases attempt.thread = phase at leads fits ⊢
    unfold Attempt.Leads at leads
    split at leads
    · exact Or.inr (congrArg some leads.1.symm)
    · exact Or.inr (congrArg some leads.1.symm)
    · exact Or.inr (congrArg some leads.1.symm)
    · obtain ⟨locked, ready⟩ := fits
      exact Or.inl ⟨.ready, locked, by decide, leads.1 ▸ ready⟩
    · cases result.symm.trans leads.2
    · cases result.symm.trans leads.2
    · cases result.symm.trans leads.2
    · cases result.symm.trans leads
    · cases leads

theorem stage_of_failed (failed : view.Failed handle) :
    (∃ locked, view.stages handle = some (.shutDown, locked)) ∨
      view.stages handle = some (.creating, true) ∧
        ∃ thread, (view.phases thread).held? = some handle := by
  obtain ⟨attempt, member, rfl, failure, result⟩ := failed
  rcases sound.failed attempt member failure result with down | striking | shutting
  · exact Or.inl down
  · exact Or.inr ⟨(sound.fits_of striking).1, attempt.thread, by rw [striking]; rfl⟩
  · exact Or.inr ⟨(sound.fits_of shutting).1, attempt.thread, by rw [shutting]; rfl⟩

theorem stands_of_met (met : view.Met handle) : ∃ stage, view.stages handle = some stage := by
  rcases met with tracked | failed
  · rcases (sound.tracked tracked).2.2 with ⟨locked, ready⟩ | ⟨⟨locked, creating⟩, -⟩
    · exact ⟨_, ready⟩
    · exact ⟨_, creating⟩
  · rcases sound.stage_of_failed failed with ⟨locked, down⟩ | ⟨creating, -⟩
    · exact ⟨_, down⟩
    · exact ⟨_, creating⟩

theorem not_met_of_enroll (here : view.phases thread = .enroll handle) : ¬ view.Met handle := by
  have building : view.stages handle = some (.creating, false) := sound.fits_of here
  rintro (tracked | failed)
  · exact (sound.tracked tracked).2.1 thread here
  · rcases sound.stage_of_failed failed with ⟨locked, down⟩ | ⟨creating, -⟩
    · simp [building] at down
    · simp [building] at creating

theorem untried (held : (view.phases thread).held? = some handle)
    (creating : view.stages handle = some (.creating, true))
    (waiting : ∀ attempt : Attempt n, ¬ attempt.Leads (view.phases thread)) :
    ∀ attempt ∈ view.attempts, attempt.handle ≠ handle := by
  rintro attempt member rfl
  rcases sound.stage_of_attempt member with ⟨stage, locked, far, stands⟩ | holds
  · exact far (stage_unique stands creating).1
  · obtain rfl := sound.alone holds held
    exact waiting attempt (sound.leads attempt member)

theorem not_tracked_of_down {locked : Bool}
    (down : view.stages handle = some (.shutDown, locked)) : view.tracked ≠ some handle := by
  intro tracked
  rcases (sound.tracked tracked).2.2 with ⟨_, ready⟩ | ⟨⟨_, creating⟩, -⟩
  · simp [down] at ready
  · simp [down] at creating

theorem not_stale_of_tracked (tracked : view.tracked = some handle) :
    handle ∉ view.stale thread := by
  intro stale
  obtain ⟨⟨locked, down⟩, -⟩ := sound.stale stale
  exact sound.not_tracked_of_down down tracked

theorem attempt_unique {first second : Attempt n} (here : first ∈ view.attempts)
    (there : second ∈ view.attempts) (same : first.handle = second.handle) : first = second :=
  List.inj_on_of_nodup_map sound.handles here there same

end Sound

theorem sound_idle (client : Hash) (stages : Handle → Option (Lifecycle × Bool)) :
    Sound client (fun handle => stages handle = none)
      (⟨stages, none, fun _ => .route, [], fun _ => []⟩ : View n) where
  absent := id
  about names := by cases names
  named names := by cases names
  fits _ := trivial
  guarded young stands := by cases (young : stages _ = none).symm.trans stands
  alone holds := by cases holds
  owned owns := by cases owns
  tracked tracked := by cases tracked
  leads _ member := by cases member
  succeeded _ member := by cases member
  failed _ member := by cases member
  ready young stands := by cases (young : stages _ = none).symm.trans stands
  threads := List.nodup_nil
  handles := List.nodup_nil
  distinct _ := List.nodup_nil
  stale stale := by cases stale

end View

end PeerDirectory

import PeerDirectory.Proofs.Concurrent.Holding

namespace PeerDirectory.View

variable {n : Nat} {client : Hash} {fresh : Handle → Prop} {view next : View n}
  {thread other : Fin n} {handle : Handle}

theorem Act.attempts (act : Act client view thread next) :
    next.attempts = view.attempts ∨
      ∃ handle result, view.phases thread = .startup handle ∧
        next.phases thread = .started handle result ∧
        next.attempts = ⟨thread, handle, result⟩ :: view.attempts := by
  cases act with
  | startup result here => exact Or.inr ⟨_, result, here, phases_goto_self _ _ _, rfl⟩
  | _ => exact Or.inl rfl

theorem leads_started (thread : Fin n) (handle : Handle) (result : Except Failure Unit) :
    Attempt.Leads ⟨thread, handle, result⟩ (.started handle result) := by
  cases result with
  | ok _ => exact ⟨rfl, rfl⟩
  | error failure => exact ⟨rfl, rfl⟩

theorem Turn.leads {phase after : Phase} (turn : Turn view phase after) {attempt : Attempt n}
    (leads : attempt.Leads phase) : attempt.Leads after := by
  cases turn <;> first | exact leads.elim | exact leads

theorem Act.leads_of (act : Act client view thread next) (sound : Sound client fresh view)
    {attempt : Attempt n}
    (leads : attempt.Leads (view.phases thread)) : attempt.Leads (next.phases thread) := by
  cases act with
  | turn here turn =>
    rw [here] at leads
    rw [phases_goto_self]
    exact turn.leads leads
  | ready here =>
    rw [here] at leads
    rw [phases_goto_self]
    exact leads
  | strike here =>
    obtain ⟨-, -, failure, rfl, -⟩ := sound.fits_of here
    rw [here] at leads
    rw [phases_goto_self]
    exact leads
  | shut here =>
    rw [here] at leads
    rw [phases_goto_self]
    exact leads
  | release here held =>
    rename_i result _
    rw [here] at leads
    rw [phases_goto_self]
    rcases result with failure | _ | _
    · exact leads.2
    · exact leads.elim
    · exact leads
  | create here | enroll here | acquire here | startup _ here | retry here =>
    rw [here] at leads
    exact leads.elim

theorem Act.leads (act : Act client view thread next) (sound : Sound client fresh view)
    (attempt : Attempt n)
    (member : attempt ∈ next.attempts) : attempt.Leads (next.phases attempt.thread) := by
  have old (member : attempt ∈ view.attempts) : attempt.Leads (next.phases attempt.thread) := by
    have leads := sound.leads attempt member
    by_cases same : attempt.thread = thread
    · rw [same] at leads ⊢
      exact act.leads_of sound leads
    · rw [act.phases_of_ne same]
      exact leads
  rcases act.attempts with same | ⟨found, result, here, there, more⟩
  · exact old (same ▸ member)
  · rw [more] at member
    rcases List.mem_cons.mp member with rfl | before
    · rw [there]
      exact leads_started thread found result
    · exact old before

theorem Act.threads (act : Act client view thread next) (sound : Sound client fresh view) :
    (next.attempts.map (·.thread)).Nodup := by
  rcases act.attempts with same | ⟨found, result, here, -, more⟩
  · rw [same]
    exact sound.threads
  · rw [more, List.map_cons, List.nodup_cons]
    refine ⟨fun member => ?_, sound.threads⟩
    obtain ⟨attempt, before, same⟩ := List.mem_map.mp member
    have leads := sound.leads attempt before
    rw [show attempt.thread = thread from same, here] at leads
    exact leads

theorem Act.handles (act : Act client view thread next) (sound : Sound client fresh view) :
    (next.attempts.map (·.handle)).Nodup := by
  rcases act.attempts with same | ⟨found, result, here, -, more⟩
  · rw [same]
    exact sound.handles
  · rw [more, List.map_cons, List.nodup_cons]
    refine ⟨fun member => ?_, sound.handles⟩
    obtain ⟨attempt, before, same⟩ := List.mem_map.mp member
    exact (sound.fits_of here).2.2 attempt before same

theorem Act.succeeded (act : Act client view thread next) (sound : Sound client fresh view)
    (attempt : Attempt n) (member : attempt ∈ next.attempts) (result : attempt.result = .ok ()) :
    next.tracked = some attempt.handle := by
  cases act with
  | enroll here untracked =>
    have tracked := sound.succeeded attempt member result
    simp [untracked] at tracked
  | startup _ here =>
    rcases List.mem_cons.mp member with rfl | before
    · exact (sound.fits_of here).2.1
    · exact sound.succeeded attempt before result
  | strike here =>
    obtain ⟨-, tracked, failure, -, tried⟩ := sound.fits_of here
    have named := sound.succeeded attempt member result
    -- What is struck off was tried in vain, and no partition is tried twice.
    have same := sound.attempt_unique tried member (Option.some.inj (tracked.symm.trans named))
    simp [← same] at result
  | _ => exact sound.succeeded attempt member result

theorem Act.of_strike (act : Act client view thread next) {failed : Option Failure}
    (striking : view.phases thread = .strike handle failed) :
    next.phases thread = .shut handle failed := by
  cases act with
  | turn here turn =>
    cases striking.symm.trans here
    cases turn
  | strike here =>
    cases striking.symm.trans here
    exact phases_goto_self _ _ _
  | create here | enroll here | acquire here | startup _ here | ready here | shut here
  | release here | retry here => cases striking.symm.trans here

theorem Act.of_shut (act : Act client view thread next) {failure : Failure}
    (shutting : view.phases thread = .shut handle (some failure)) :
    ∃ locked, next.stages handle = some (.shutDown, locked) := by
  cases act with
  | turn here turn =>
    cases shutting.symm.trans here
    cases turn
  | shut here =>
    cases shutting.symm.trans here
    exact ⟨true, by simp⟩
  | create here | enroll here | acquire here | startup _ here | ready here | strike here
  | release here | retry here => cases shutting.symm.trans here

theorem Act.failed (act : Act client view thread next) (sound : Sound client fresh view)
    (attempt : Attempt n)
    (member : attempt ∈ next.attempts) (failure : Failure)
    (result : attempt.result = .error failure) :
    (∃ locked, next.stages attempt.handle = some (.shutDown, locked)) ∨
      next.phases attempt.thread = .strike attempt.handle (some failure) ∨
      next.phases attempt.thread = .shut attempt.handle (some failure) := by
  have old (member : attempt ∈ view.attempts) :
      (∃ locked, next.stages attempt.handle = some (.shutDown, locked)) ∨
        next.phases attempt.thread = .strike attempt.handle (some failure) ∨
        next.phases attempt.thread = .shut attempt.handle (some failure) := by
    rcases sound.failed attempt member failure result with ⟨locked, down⟩ | striking | shutting
    · exact Or.inl (act.settled sound (by decide) down)
    · by_cases same : attempt.thread = thread
      · rw [same] at striking ⊢
        exact Or.inr (Or.inr (act.of_strike striking))
      · exact Or.inr (Or.inl ((act.phases_of_ne same).trans striking))
    · by_cases same : attempt.thread = thread
      · rw [same] at shutting
        exact Or.inl (act.of_shut shutting)
      · exact Or.inr (Or.inr ((act.phases_of_ne same).trans shutting))
  rcases act.attempts with same | ⟨found, outcome, here, there, more⟩
  · exact old (same ▸ member)
  · rw [more] at member
    rcases List.mem_cons.mp member with rfl | before
    · cases result
      exact Or.inr (Or.inl there)
    · exact old before

theorem Act.mem_attempts (act : Act client view thread next) {attempt : Attempt n}
    (member : attempt ∈ view.attempts) : attempt ∈ next.attempts := by
  rcases act.attempts with same | ⟨found, result, -, -, more⟩
  · exact same ▸ member
  · exact more ▸ List.mem_cons_of_mem _ member

theorem Act.succeeded_of_ready (act : Act client view thread next)
    (sound : Sound client fresh view) {locked : Bool}
    (young : fresh handle) (ready : next.stages handle = some (.ready, locked)) :
    ∃ attempt ∈ next.attempts, attempt.handle = handle ∧ attempt.result = .ok () := by
  have old {locked : Bool} (ready : view.stages handle = some (.ready, locked)) :
      ∃ attempt ∈ next.attempts, attempt.handle = handle ∧ attempt.result = .ok () := by
    obtain ⟨attempt, member, rest⟩ := sound.ready young ready
    exact ⟨attempt, act.mem_attempts member, rest⟩
  cases act with
  | turn | enroll | startup | strike | retry => exact old ready
  | create | shut =>
    rcases stages_setStage_cases ready with before | ⟨-, other⟩
    · exact old before
    · cases other
  | acquire here stands | release here stands =>
    rcases stages_setStage_cases ready with before | ⟨rfl, same⟩
    · exact old before
    · cases same
      exact old stands
  | ready here =>
    rcases stages_setStage_cases ready with before | ⟨rfl, -⟩
    · exact old before
    · exact ⟨_, (sound.fits_of here).2, rfl, rfl⟩

theorem Act.stales (act : Act client view thread next) :
    (∀ other, next.stale other = view.stale other) ∨
      ∃ handle, view.phases thread = .retry handle ∧
        ∀ other, next.stale other =
          if other = thread then handle :: view.stale thread else view.stale other := by
  cases act with
  | retry here => exact Or.inr ⟨_, here, fun other => by simp⟩
  | _ => exact Or.inl fun _ => rfl

theorem Act.distinct (act : Act client view thread next) (sound : Sound client fresh view)
    (other : Fin n) :
    (next.stale other).Nodup := by
  rcases act.stales with same | ⟨found, here, more⟩
  · rw [same]
    exact sound.distinct other
  · rw [more]
    split
    · exact List.nodup_cons.mpr ⟨(sound.fits_of here).2.2, sound.distinct thread⟩
    · exact sound.distinct other

theorem Act.stale (act : Act client view thread next) (sound : Sound client fresh view)
    (stale : handle ∈ next.stale other) :
    (∃ locked, next.stages handle = some (.shutDown, locked)) ∧
      ∃ attempt ∈ next.attempts, attempt.handle = handle ∧ attempt.thread ≠ other := by
  have old (stale : handle ∈ view.stale other) :
      (∃ locked, next.stages handle = some (.shutDown, locked)) ∧
        ∃ attempt ∈ next.attempts, attempt.handle = handle ∧ attempt.thread ≠ other := by
    obtain ⟨⟨locked, down⟩, attempt, member, rest⟩ := sound.stale stale
    exact ⟨act.settled sound (by decide) down, attempt, act.mem_attempts member, rest⟩
  rcases act.stales with same | ⟨found, here, more⟩
  · exact old (same other ▸ stale)
  · rw [more] at stale
    split at stale
    · rename_i self
      subst self
      rcases List.mem_cons.mp stale with rfl | before
      · -- Another thread tried it: whoever has tried does not begin another turn.
        obtain ⟨⟨locked, down⟩, ⟨attempt, member, same, -⟩, -⟩ := sound.fits_of here
        refine ⟨act.settled sound (by decide) down, attempt, act.mem_attempts member, same, ?_⟩
        intro self
        have leads := sound.leads attempt member
        rw [self, here] at leads
        exact leads
      · exact old before
    · exact old stale

theorem Act.sound (act : Act client view thread next) (sound : Sound client fresh view) :
    Sound client fresh next where
  absent absent := sound.absent (act.absent absent)
  about := act.about sound
  named := act.named sound
  fits other := by
    by_cases same : other = thread
    · exact same ▸ act.fits sound
    · rw [act.phases_of_ne same]
      exact (act.leaves sound same).fits (sound.fits other)
  guarded := act.guarded sound
  alone := act.alone sound
  owned := act.owned sound
  tracked := act.tracked sound
  leads := act.leads sound
  succeeded := act.succeeded sound
  failed := act.failed sound
  ready := act.succeeded_of_ready sound
  threads := act.threads sound
  handles := act.handles sound
  distinct := act.distinct sound
  stale := act.stale sound

end PeerDirectory.View

import PeerDirectory.Proofs.Concurrent.Invariant

namespace PeerDirectory.View

variable {n : Nat} {client : Hash} {fresh : Handle → Prop} {view next : View n}
  {thread other : Fin n} {handle : Handle}

theorem Act.phases_of_ne (act : Act client view thread next) (apart : other ≠ thread) :
    next.phases other = view.phases other := by
  cases act <;> simp [apart]

theorem settled_setStage {stage : Lifecycle × Bool}
    (same : ∀ {before locked}, before ≠ .creating →
      view.stages handle = some (before, locked) → stage.1 = before)
    {asked : Handle} {before : Lifecycle} {locked : Bool} (far : before ≠ .creating)
    (stands : view.stages asked = some (before, locked)) :
    ∃ locked, (view.setStage handle stage).stages asked = some (before, locked) := by
  by_cases here : asked = handle
  · subst here
    obtain rfl := same far stands
    exact ⟨stage.2, by simp⟩
  · exact ⟨locked, (stages_setStage_of_ne here).trans stands⟩

theorem Act.settled (act : Act client view thread next) (sound : Sound client fresh view)
    {stage : Lifecycle} {locked : Bool} (far : stage ≠ .creating)
    (stands : view.stages handle = some (stage, locked)) :
    ∃ locked, next.stages handle = some (stage, locked) := by
  cases act with
  | turn | enroll | startup | strike | retry => exact ⟨locked, stands⟩
  | create here named absent =>
    refine settled_setStage (fun _ before => ?_) far stands
    simp [absent] at before
  | acquire here held | release here held =>
    exact settled_setStage (fun _ before => (stage_unique held before).1) far stands
  | ready here | shut here =>
    refine settled_setStage (fun far before => ?_) far stands
    exact absurd (stage_unique (sound.fits_of here).1 before).1.symm far

structure Leaves (view next : View n) (other : Fin n) : Prop where
  held : ∀ {handle}, (view.phases other).held? = some handle →
    next.stages handle = view.stages handle
  settled : ∀ {handle stage locked}, stage ≠ .creating →
    view.stages handle = some (stage, locked) → ∃ locked, next.stages handle = some (stage, locked)
  owned : ∀ {handle}, view.phases other = .enroll handle →
    next.stages handle = view.stages handle
  met : ∀ {handle}, view.Met handle → next.Met handle
  tracked : ∀ {handle}, (view.phases other).held? = some handle →
    (next.tracked = some handle ↔ view.tracked = some handle)
  attempts : ∀ attempt ∈ view.attempts, attempt ∈ next.attempts
  untried : ∀ {handle}, (view.phases other).held? = some handle →
    ∀ attempt ∈ next.attempts, attempt.handle = handle → attempt ∈ view.attempts
  stale : next.stale other = view.stale other

theorem Leaves.failed (leaves : Leaves view next other) (failed : view.Failed handle) :
    next.Failed handle := by
  obtain ⟨attempt, member, rest⟩ := failed
  exact ⟨attempt, leaves.attempts attempt member, rest⟩

theorem Leaves.fits (leaves : Leaves view next other)
    (fits : view.Fits other (view.phases other)) : next.Fits other (view.phases other) := by
  have held := @leaves.held
  have owned := @leaves.owned
  have tracked := @leaves.tracked
  have untried := @leaves.untried
  -- Where the other thread stands is the same before and after.
  generalize view.phases other = phase at fits held owned tracked untried ⊢
  cases phase with
  | route | check | load | create => trivial
  | enroll candidate => exact (owned rfl).trans fits
  | glance found | acquire found => exact ⟨leaves.met fits.1, leaves.stale ▸ fits.2⟩
  | inspect found =>
    obtain ⟨⟨stage, stands⟩, met, news⟩ := fits
    exact ⟨⟨stage, (held rfl).trans stands⟩, leaves.met met, leaves.stale ▸ news⟩
  | recheck found | startup found =>
    refine ⟨(held rfl).trans fits.1, (tracked rfl).mpr fits.2.1, ?_⟩
    intro attempt member same
    exact fits.2.2 attempt (untried rfl attempt member same) same
  | seed found | ready found => exact ⟨(held rfl).trans fits.1, leaves.attempts _ fits.2⟩
  | strike found failed =>
    obtain ⟨stands, named, failure, same, member⟩ := fits
    exact ⟨(held rfl).trans stands, (tracked rfl).mpr named, failure, same,
      leaves.attempts _ member⟩
  | shut found failed =>
    obtain ⟨stands, unnamed, failure, same, member⟩ := fits
    exact ⟨(held rfl).trans stands, fun named => unnamed ((tracked rfl).mp named), failure, same,
      leaves.attempts _ member⟩
  | release found result =>
    cases result with
    | error failure => exact ⟨(held rfl).trans fits.1, leaves.attempts _ fits.2⟩
    | ok brought =>
      cases brought with
      | true => exact (held rfl).trans fits
      | false =>
        exact ⟨(held rfl).trans fits.1, leaves.failed fits.2.1, leaves.stale ▸ fits.2.2⟩
  | retry found =>
    obtain ⟨⟨locked, down⟩, failed, news⟩ := fits
    exact ⟨leaves.settled (by decide) down, leaves.failed failed, leaves.stale ▸ news⟩
  | done result =>
    cases result with
    | error failure =>
      obtain ⟨found, member⟩ := fits
      exact ⟨found, leaves.attempts _ member⟩
    | ok found =>
      obtain ⟨locked, ready⟩ := fits
      exact leaves.settled (by decide) ready

theorem leaves_setStage {stage : Lifecycle × Bool} {phase : Phase}
    (settled : ∀ {asked before locked}, before ≠ .creating →
      view.stages asked = some (before, locked) →
        ∃ locked, (view.setStage handle stage).stages asked = some (before, locked))
    (unheld : (view.phases other).held? ≠ some handle)
    (unowned : view.phases other ≠ .enroll handle) :
    Leaves view ((view.setStage handle stage).goto thread phase) other where
  held {asked} holds := by
    have apart : asked ≠ handle := fun same => unheld (same ▸ holds)
    simp [apart]
  settled := settled
  owned {asked} here := by
    have apart : asked ≠ handle := fun same => unowned (same ▸ here)
    simp [apart]
  met met := met
  tracked _ := Iff.rfl
  attempts _ member := member
  untried _ _ member _ := member
  stale := rfl

theorem leaves_track {tracked : Option Handle} {phase : Phase}
    (met : ∀ {handle}, view.tracked = some handle → tracked = some handle ∨ view.Failed handle)
    (held : ∀ {handle}, (view.phases other).held? = some handle →
      (tracked = some handle ↔ view.tracked = some handle)) :
    Leaves view ((view.track tracked).goto thread phase) other where
  held _ := rfl
  settled _ stands := ⟨_, stands⟩
  owned _ := rfl
  met := by
    rintro asked (named | failed)
    · exact met named
    · exact Or.inr failed
  tracked := held
  attempts _ member := member
  untried _ _ member _ := member
  stale := rfl

theorem Sound.leaves_setStage (sound : Sound client fresh view) {stage : Lifecycle × Bool}
    {phase : Phase}
    (settled : ∀ {asked before locked}, before ≠ .creating →
      view.stages asked = some (before, locked) →
        ∃ locked, (view.setStage handle stage).stages asked = some (before, locked))
    (apart : other ≠ thread) (held : (view.phases thread).held? = some handle) :
    Leaves view ((view.setStage handle stage).goto thread phase) other := by
  refine View.leaves_setStage settled (fun holds => apart (sound.alone holds held)) ?_
  intro here
  have building : view.stages handle = some (.creating, false) := sound.fits_of here
  obtain ⟨stage, locked⟩ := sound.locked held
  simp [building] at locked

theorem Act.leaves (act : Act client view thread next) (sound : Sound client fresh view)
    (apart : other ≠ thread) : Leaves view next other := by
  have settled {asked : Handle} {before : Lifecycle} {locked : Bool} (far : before ≠ .creating)
      (stands : view.stages asked = some (before, locked)) :
      ∃ locked, next.stages asked = some (before, locked) := act.settled sound far stands
  cases act with
  | turn here turn =>
    exact ⟨fun _ => rfl, settled, fun _ => rfl, id, fun _ => Iff.rfl,
      fun _ => id, fun _ _ member _ => member, rfl⟩
  | create here named absent =>
    refine leaves_setStage settled (fun holds => ?_) fun owns => ?_
    · obtain ⟨stage, locked⟩ := sound.locked holds
      simp [absent] at locked
    · have building := sound.fits_of owns
      simp [Fits, absent] at building
  | enroll here untracked =>
    rename_i candidate
    have building : view.stages candidate = some (.creating, false) := sound.fits_of here
    apply leaves_track
    · intro asked tracked
      simp [untracked] at tracked
    · intro asked holds
      have other : candidate ≠ asked := by
        rintro rfl
        obtain ⟨stage, locked⟩ := sound.locked holds
        simp [building] at locked
      simp [untracked, other]
  | acquire here free =>
    refine leaves_setStage settled (fun holds => ?_) fun owns => ?_
    · obtain ⟨stage, locked⟩ := sound.locked holds
      simp [free] at locked
    · exact sound.not_met_of_enroll owns (sound.fits_of here).1
  | startup result here =>
    refine ⟨fun _ => rfl, settled, fun _ => rfl, ?_, fun _ => Iff.rfl,
      fun _ => List.mem_cons_of_mem _, ?_, rfl⟩
    · rintro asked (tracked | ⟨attempt, member, rest⟩)
      · exact Or.inl tracked
      · exact Or.inr ⟨attempt, List.mem_cons_of_mem _ member, rest⟩
    · rintro asked holds attempt member rfl
      rcases List.mem_cons.mp member with rfl | member
      · exact absurd (sound.alone holds (by rw [here]; rfl)) apart
      · exact member
  | ready here | shut here | release here held =>
    exact sound.leaves_setStage settled apart (by rw [here]; rfl)
  | strike here =>
    rename_i struck failed
    obtain ⟨-, tracked, failure, -, member⟩ := sound.fits_of here
    apply leaves_track
    · intro asked named
      obtain rfl := Option.some.inj (tracked.symm.trans named)
      exact Or.inr ⟨_, member, rfl, failure, rfl⟩
    · intro asked holds
      have other : struck ≠ asked := by
        rintro rfl
        exact apart (sound.alone holds (by rw [here]; rfl))
      simp [tracked, other]
  | retry here =>
    -- Only the thread that moves gives the partition up.
    exact ⟨fun _ => rfl, settled, fun _ => rfl, id, fun _ => Iff.rfl,
      fun _ => id, fun _ _ member _ => member, by simp [apart]⟩

theorem Turn.fits {phase after : Phase} (turn : Turn view phase after)
    (sound : Sound client fresh view) (here : view.phases thread = phase) :
    view.Fits thread after := by
  have fits := sound.fits_of here
  cases turn with
  | route | check | miss => trivial
  | find tracked | lose tracked => exact ⟨Or.inl tracked, sound.not_stale_of_tracked tracked⟩
  | take ready => exact ⟨_, ready⟩
  | wait | recheck | seed => exact fits
  | join ready =>
    obtain ⟨⟨stage, locked⟩, -⟩ := fits
    obtain ⟨rfl, rfl⟩ := stage_unique locked ready
    exact locked
  | leave down =>
    obtain ⟨⟨stage, locked⟩, met, news⟩ := fits
    obtain ⟨rfl, rfl⟩ := stage_unique locked down
    exact ⟨locked, met.resolve_left (sound.not_tracked_of_down locked), news⟩
  | begin creating =>
    obtain ⟨⟨stage, locked⟩, met, -⟩ := fits
    obtain ⟨rfl, rfl⟩ := stage_unique locked creating
    have untried := sound.untried (by rw [here]; rfl) creating (by simp [here, Attempt.Leads])
    refine ⟨creating, met.resolve_right ?_, untried⟩
    rintro ⟨attempt, member, same, -⟩
    exact untried attempt member same

theorem Act.fits (act : Act client view thread next) (sound : Sound client fresh view) :
    next.Fits thread (next.phases thread) := by
  cases act with
  | turn here turn =>
    rw [phases_goto_self]
    exact turn.fits sound here
  | create here named absent => simp [Fits]
  | enroll here untracked =>
    have building := sound.fits_of here
    rw [phases_goto_self]
    refine ⟨Or.inl rfl, fun stale => ?_⟩
    obtain ⟨⟨locked, down⟩, -⟩ := sound.stale stale
    simp [Fits, down] at building
  | acquire here free =>
    rename_i found stage
    obtain ⟨met, news⟩ := sound.fits_of here
    rw [phases_goto_self]
    exact ⟨⟨stage, by simp⟩, met, news⟩
  | startup result here =>
    obtain ⟨creating, tracked, -⟩ := sound.fits_of here
    rw [phases_goto_self]
    cases result with
    | ok _ => exact ⟨creating, List.mem_cons_self⟩
    | error failure => exact ⟨creating, tracked, failure, rfl, List.mem_cons_self⟩
  | ready here => simp [Fits]
  | strike here =>
    obtain ⟨creating, -, failure, same, member⟩ := sound.fits_of here
    rw [phases_goto_self]
    exact ⟨creating, by simp, failure, same, member⟩
  | shut here =>
    obtain ⟨-, -, failure, same, member⟩ := sound.fits_of here
    rw [phases_goto_self]
    cases same
    exact ⟨by simp, member⟩
  | release here held =>
    rename_i found result stage
    have fits := sound.fits_of here
    rw [phases_goto_self]
    cases result with
    | error failure => exact ⟨found, fits.2⟩
    | ok brought =>
      cases brought with
      | true =>
        obtain ⟨rfl, -⟩ := stage_unique held fits
        exact ⟨false, by simp⟩
      | false =>
        obtain ⟨down, failed, news⟩ := fits
        obtain ⟨rfl, -⟩ := stage_unique held down
        exact ⟨⟨false, by simp⟩, failed, news⟩
  | retry here => simp [Fits]

end PeerDirectory.View

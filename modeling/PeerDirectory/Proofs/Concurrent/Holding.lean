import PeerDirectory.Proofs.Concurrent.Leaves

namespace PeerDirectory.View

variable {n : Nat} {client : Hash} {fresh : Handle → Prop} {view next : View n}
  {thread other : Fin n} {handle : Handle}

theorem Turn.held? {phase after : Phase} (turn : Turn view phase after) :
    after.held? = phase.held? := by
  cases turn <;> rfl

theorem held?_started (result : Except Failure Unit) :
    (Phase.started handle result).held? = some handle := by
  cases result <;> rfl

theorem held?_released (result : Except Failure Bool) :
    (Phase.released handle result).held? = none := by
  cases result with
  | error failure => rfl
  | ok brought => cases brought <;> rfl

theorem Act.held (act : Act client view thread next)
    (holds : (next.phases thread).held? = some handle) :
    (view.phases thread).held? = some handle ∨
      ∃ stage, view.stages handle = some (stage, false) := by
  cases act with
  | turn here turn =>
    rw [phases_goto_self, turn.held?, ← here] at holds
    exact Or.inl holds
  | acquire here free =>
    rw [phases_goto_self] at holds
    cases holds
    exact Or.inr ⟨_, free⟩
  | startup result here =>
    rw [phases_goto_self, held?_started] at holds
    cases holds
    exact Or.inl (by rw [here]; rfl)
  | release here held => simp [held?_released] at holds
  | create here named absent => simp [Phase.held?] at holds
  | enroll here untracked => simp [Phase.held?] at holds
  | retry here => simp [Phase.held?] at holds
  | ready here => exact Or.inl (by rw [here]; simpa [Phase.held?] using holds)
  | strike here => exact Or.inl (by rw [here]; simpa [Phase.held?] using holds)
  | shut here => exact Or.inl (by rw [here]; simpa [Phase.held?] using holds)

theorem Act.unique (act : Act client view thread next) (stands : Phase → Prop)
    (before : ∀ {first second}, stands (view.phases first) → stands (view.phases second) →
      first = second)
    (taken : stands (next.phases thread) →
      stands (view.phases thread) ∨ ∀ other, ¬ stands (view.phases other))
    {first second : Fin n} (here : stands (next.phases first))
    (there : stands (next.phases second)) : first = second := by
  have others {other : Fin n} (apart : other ≠ thread) (here : stands (next.phases thread))
      (there : stands (next.phases other)) : False := by
    rw [act.phases_of_ne apart] at there
    rcases taken here with still | nobody
    · exact apart (before there still)
    · exact nobody other there
  by_cases one : first = thread
  · by_cases two : second = thread
    · rw [one, two]
    · exact (others two (one ▸ here) there).elim
  · by_cases two : second = thread
    · exact (others one (two ▸ there) here).elim
    · rw [act.phases_of_ne one] at here
      rw [act.phases_of_ne two] at there
      exact before here there

theorem Act.alone (act : Act client view thread next) (sound : Sound client fresh view)
    {first second : Fin n} (holds : (next.phases first).held? = some handle)
    (too : (next.phases second).held? = some handle) : first = second := by
  refine act.unique (fun phase => phase.held? = some handle) sound.alone (fun takes => ?_) holds
    too
  refine (act.held takes).imp_right fun ⟨stage, free⟩ other holds => ?_
  obtain ⟨stage, locked⟩ := sound.locked holds
  simp [free] at locked

theorem Act.keeps_held (act : Act client view thread next)
    (holds : (view.phases thread).held? = some handle) :
    (next.phases thread).held? = some handle ∨
      ∃ stage, next.stages handle = some (stage, false) := by
  cases act with
  | turn here turn =>
    rw [here] at holds
    rw [phases_goto_self, turn.held?]
    exact Or.inl holds
  | startup result here =>
    rw [here] at holds
    rw [phases_goto_self, held?_started]
    exact Or.inl holds
  | ready here | strike here | shut here =>
    rw [here] at holds
    rw [phases_goto_self]
    exact Or.inl holds
  | release here held =>
    rw [here] at holds
    cases holds
    exact Or.inr ⟨_, by simp; rfl⟩
  | create here named absent => simp [here, Phase.held?] at holds
  | enroll here untracked => simp [here, Phase.held?] at holds
  | acquire here free => simp [here, Phase.held?] at holds
  | retry here => simp [here, Phase.held?] at holds

theorem Act.locked (act : Act client view thread next) {stage : Lifecycle}
    (locked : next.stages handle = some (stage, true)) :
    (∃ stage, view.stages handle = some (stage, true)) ∨
      (next.phases thread).held? = some handle := by
  cases act with
  | turn | enroll | startup | strike | retry => exact Or.inl ⟨stage, locked⟩
  | create | release =>
    rcases stages_setStage_cases locked with before | ⟨-, freed⟩
    · exact Or.inl ⟨stage, before⟩
    · cases freed
  | acquire | ready | shut =>
    rcases stages_setStage_cases locked with before | ⟨rfl, -⟩
    · exact Or.inl ⟨stage, before⟩
    · rw [phases_goto_self]
      exact Or.inr rfl

theorem Act.guarded (act : Act client view thread next) (sound : Sound client fresh view)
    {stage : Lifecycle} (young : fresh handle) (locked : next.stages handle = some (stage, true)) :
    ∃ thread, (next.phases thread).held? = some handle := by
  rcases act.locked locked with ⟨before, stands⟩ | holds
  · obtain ⟨other, holds⟩ := sound.guarded young stands
    by_cases same : other = thread
    · subst same
      rcases act.keeps_held holds with still | ⟨after, free⟩
      · exact ⟨other, still⟩
      · simp [locked] at free
    · exact ⟨other, (act.phases_of_ne same).symm ▸ holds⟩
  · exact ⟨thread, holds⟩

theorem handle?_started (result : Except Failure Unit) :
    (Phase.started handle result).handle? = some handle := by
  cases result <;> rfl

theorem eq_of_handle?_released {found : Handle} {result : Except Failure Bool}
    (names : (Phase.released found result).handle? = some handle) : handle = found := by
  cases result with
  | error failure => cases names
  | ok brought => cases brought <;> exact (Option.some.inj names).symm

theorem Turn.takes {phase after : Phase} (turn : Turn view phase after)
    (names : after.handle? = some handle) :
    phase.handle? = some handle ∨ view.tracked = some handle := by
  cases turn with
  | route | check | miss => cases names
  | find tracked | lose tracked =>
    cases names
    exact Or.inr tracked
  | take | wait | join | leave | begin | recheck | seed => exact Or.inl names

theorem Act.takes (act : Act client view thread next)
    (names : (next.phases thread).handle? = some handle) :
    (view.phases thread).handle? = some handle ∨ view.tracked = some handle ∨
      handle.id = .client client ∧ view.stages handle = none := by
  cases act with
  | turn here turn =>
    rw [phases_goto_self] at names
    rw [here]
    exact (turn.takes names).imp_right Or.inl
  | create here named absent =>
    rw [phases_goto_self] at names
    cases names
    exact Or.inr (Or.inr ⟨named, absent⟩)
  | startup result here =>
    rw [phases_goto_self, handle?_started] at names
    exact Or.inl (by rw [here]; exact names)
  | release here held =>
    rw [phases_goto_self] at names
    obtain rfl := eq_of_handle?_released names
    exact Or.inl (by rw [here]; rfl)
  | retry here => simp [Phase.handle?] at names
  | enroll here | acquire here | ready here | strike here | shut here =>
    rw [phases_goto_self] at names
    exact Or.inl (by rw [here]; exact names)

theorem Act.about (act : Act client view thread next) (sound : Sound client fresh view)
    (names : (next.phases other).handle? = some handle) : fresh handle := by
  by_cases same : other = thread
  · subst same
    rcases act.takes names with before | tracked | absent
    · exact sound.about before
    · exact (sound.tracked tracked).1.2
    · exact sound.absent absent.2
  · rw [act.phases_of_ne same] at names
    exact sound.about names

theorem Act.named (act : Act client view thread next) (sound : Sound client fresh view)
    (names : (next.phases other).handle? = some handle) : handle.id = .client client := by
  by_cases same : other = thread
  · subst same
    rcases act.takes names with before | tracked | absent
    · exact sound.named before
    · exact (sound.tracked tracked).1.1
    · exact absent.1
  · rw [act.phases_of_ne same] at names
    exact sound.named names

theorem Act.absent (act : Act client view thread next) (absent : next.stages handle = none) :
    view.stages handle = none := by
  cases act <;> grind

theorem Act.absent_of_enroll (act : Act client view thread next)
    (owns : next.phases thread = .enroll handle) : view.stages handle = none := by
  cases act with
  | turn here turn => cases turn <;> simp at owns
  | create here named absent =>
    rw [phases_goto_self] at owns
    cases owns
    exact absent
  | startup result here => cases result <;> simp [Phase.started] at owns
  | release here held =>
    rename_i result _
    rcases result with failure | _ | _ <;> simp [Phase.released] at owns
  | _ => simp at owns

theorem Act.owned (act : Act client view thread next) (sound : Sound client fresh view)
    {first second : Fin n} (owns : next.phases first = .enroll handle)
    (too : next.phases second = .enroll handle) : first = second := by
  refine act.unique (fun phase => phase = .enroll handle) sound.owned
    (fun built => Or.inr fun other owns => ?_) owns too
  have building := sound.fits_of owns
  simp [Fits, act.absent_of_enroll built] at building

theorem creating_setStage {found : Handle} {locked : Bool} {stage : Lifecycle × Bool}
    (creating : view.stages handle = some (.creating, locked))
    (here : handle = found → stage.1 = .ready ∨ stage.1 = .creating) :
    (∃ locked, (view.setStage found stage).stages handle = some (.ready, locked)) ∨
      ∃ locked, (view.setStage found stage).stages handle = some (.creating, locked) := by
  by_cases same : handle = found
  · rw [stages_setStage, if_pos same]
    exact (here same).imp (fun ready => ⟨stage.2, by rw [← ready]⟩)
      fun still => ⟨stage.2, by rw [← still]⟩
  · rw [stages_setStage_of_ne same]
    exact Or.inr ⟨locked, creating⟩

theorem Act.stage_of_tracked (act : Act client view thread next) (sound : Sound client fresh view)
    (tracked : view.tracked = some handle) {locked : Bool}
    (creating : view.stages handle = some (.creating, locked)) :
    (∃ locked, next.stages handle = some (.ready, locked)) ∨
      ∃ locked, next.stages handle = some (.creating, locked) := by
  cases act with
  | turn | enroll | startup | strike | retry => exact Or.inr ⟨locked, creating⟩
  | create => exact creating_setStage creating fun _ => Or.inr rfl
  | ready => exact creating_setStage creating fun _ => Or.inl rfl
  | acquire here stands | release here stands =>
    apply creating_setStage creating
    rintro rfl
    exact Or.inr (stage_unique stands creating).1
  | shut here =>
    -- Whoever calls a partition shut down has struck it off before.
    apply creating_setStage creating
    rintro rfl
    exact absurd tracked (sound.fits_of here).2.1

theorem Turn.keeps {phase after : Phase} (turn : Turn view phase after)
    (names : phase.handle? = some handle) (entered : phase ≠ .enroll handle) :
    after.handle? = some handle := by
  cases turn with
  | route | check | miss => cases names
  | find tracked => cases names
  | lose tracked =>
    cases names
    exact absurd rfl entered
  | take | wait | join | leave | begin | recheck | seed => exact names

theorem Act.keeps (act : Act client view thread next) (sound : Sound client fresh view)
    (tracked : view.tracked = some handle) {locked : Bool}
    (creating : view.stages handle = some (.creating, locked))
    (names : (view.phases thread).handle? = some handle) :
    (next.phases thread).handle? = some handle := by
  have entered := (sound.tracked tracked).2.1 thread
  cases act with
  | turn here turn =>
    rw [here] at names entered
    rw [phases_goto_self]
    exact turn.keeps names entered
  | create here named absent => simp [here, Phase.handle?] at names
  | startup result here =>
    rw [here] at names
    rw [phases_goto_self, handle?_started]
    exact names
  | release here held =>
    have fits := sound.fits_of here
    rw [here] at names
    cases names
    rw [phases_goto_self]
    rename_i result _
    rcases result with failure | _ | _
    · simp [Fits, creating] at fits
    · rfl
    · rfl
  | retry here =>
    obtain ⟨⟨_, down⟩, -⟩ := sound.fits_of here
    rw [here] at names
    cases names
    simp [creating] at down
  | enroll here | acquire here | ready here | strike here | shut here =>
    rw [here] at names
    rw [phases_goto_self]
    exact names

theorem Act.tracks (act : Act client view thread next) (tracked : next.tracked = some handle) :
    view.tracked = some handle ∨
      view.phases thread = .enroll handle ∧ next.phases thread = .glance handle ∧
        next.stages handle = view.stages handle := by
  cases act with
  | enroll here untracked =>
    cases tracked
    exact Or.inr ⟨here, phases_goto_self _ _ _, rfl⟩
  | strike here => cases tracked
  | _ => exact Or.inl tracked

theorem Act.tracked (act : Act client view thread next) (sound : Sound client fresh view)
    (tracked : next.tracked = some handle) :
    (handle.id = .client client ∧ fresh handle) ∧
      (∀ thread, next.phases thread ≠ .enroll handle) ∧
      ((∃ locked, next.stages handle = some (.ready, locked)) ∨
        (∃ locked, next.stages handle = some (.creating, locked)) ∧
          ∃ thread, (next.phases thread).handle? = some handle) := by
  rcases act.tracks tracked with before | ⟨here, there, same⟩
  · obtain ⟨young, entered, stage⟩ := sound.tracked before
    refine ⟨young, fun other owns => ?_, ?_⟩
    · by_cases same : other = thread
      · subst same
        obtain ⟨stage, stands⟩ := sound.stands_of_met (Or.inl before)
        simp [act.absent_of_enroll owns] at stands
      · rw [act.phases_of_ne same] at owns
        exact entered other owns
    · rcases stage with ⟨locked, ready⟩ | ⟨⟨locked, creating⟩, other, names⟩
      · exact Or.inl (act.settled sound (by decide) ready)
      · refine (act.stage_of_tracked sound before creating).imp_right fun still =>
          ⟨still, other, ?_⟩
        by_cases same : other = thread
        · subst same
          exact act.keeps sound before creating names
        · rw [act.phases_of_ne same]
          exact names
  · -- The thread enters the partition that it has just built, and that nobody else knows of.
    have building : view.stages handle = some (.creating, false) := sound.fits_of here
    have own : (view.phases thread).handle? = some handle := by rw [here]; rfl
    refine ⟨⟨sound.named own, sound.about own⟩, fun other owns => ?_,
      Or.inr ⟨⟨false, same.trans building⟩, thread, by rw [there]; rfl⟩⟩
    by_cases self : other = thread
    · simp [self, there] at owns
    · rw [act.phases_of_ne self] at owns
      exact self (sound.owned owns here)

end PeerDirectory.View

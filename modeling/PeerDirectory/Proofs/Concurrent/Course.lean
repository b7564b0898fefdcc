import PeerDirectory.Proofs.Concurrent.Machine
import PeerDirectory.Proofs.Concurrent.Progress

namespace PeerDirectory

namespace Machine

variable {φ σ γ : Type} {n : Nat} {initial : Directory φ σ γ} {client : Hash}
  {machine next : Machine φ σ γ n} {thread : Fin n}

structure Course (initial : Directory φ σ γ) (client : Hash) (machine : Machine φ σ γ n) :
    Prop where
  sound : View.Sound client (fun handle => initial.stage? handle = none) (machine.view client)
  opened : machine.directory.closed = false
  isolated : machine.directory.isolated = true
  others : machine.directory.clients.erase client = initial.clients.erase client

theorem course_idle (opened : initial.closed = false) (isolated : initial.isolated = true)
    (untracked : initial.tracked? client = none) : Course initial client (idle initial n) where
  sound := by
    unfold view idle
    simp only [untracked]
    exact View.sound_idle client initial.stage?
  opened := opened
  isolated := isolated
  others := rfl

variable [PartitionStore σ] [StoreFactory φ σ]

theorem Course.act (course : Course initial client machine)
    (stepped : machine.step client thread = some next) :
    View.Act client (machine.view client) thread (next.view client) :=
  act_of_step course.sound course.opened course.isolated stepped

theorem Course.step (course : Course initial client machine)
    (stepped : machine.step client thread = some next) : Course initial client next := by
  obtain ⟨after, directory, advanced, same⟩ := advanced_of_step rfl stepped
  obtain ⟨closed, policy, others⟩ := Directory.advance_settings advanced
  have now : next.directory = directory := congrArg Machine.directory same
  refine ⟨(course.act stepped).sound course.sound, ?_, ?_, ?_⟩
  · rw [now, closed, course.opened]
  · have isolated := course.isolated
    unfold Directory.isolated at isolated ⊢
    rw [now, policy, isolated]
  · rw [now, others, course.others]

theorem Course.run (course : Course initial client machine) {schedule : List (Fin n)}
    (ran : machine.run client schedule = some next) :
    Course initial client next ∧
      schedule.length + (next.view client).remaining ≤ (machine.view client).remaining := by
  -- By induction on the schedule; every step uses up one of the steps that were left.
  induction schedule generalizing machine with
  | nil =>
    cases ran
    exact ⟨course, by simp⟩
  | cons thread rest ih =>
    obtain ⟨after, stepped, ran⟩ := Option.bind_eq_some_iff.mp ran
    obtain ⟨reached, within⟩ := ih (course.step stepped) ran
    have less := (course.act stepped).remaining_lt course.sound
    refine ⟨reached, ?_⟩
    rw [List.length_cons]
    omega

theorem advance_eq_none {directory : Directory φ σ γ} {phase : Phase}
    (still : directory.advance client phase = none) :
    (∃ result, phase = .done result) ∨
      ∃ handle stage, phase = .acquire handle ∧ directory.stage? handle = some (stage, true) := by
  cases phase with
  | done result => exact Or.inl ⟨result, rfl⟩
  | acquire handle =>
    simp only [Directory.advance] at still
    cases here : directory.partition? handle with
    | none => simp [here] at still
    | some partition =>
      cases locked : partition.locked with
      | false => simp [here, locked] at still
      | true =>
        exact Or.inr ⟨handle, partition.lifecycle, rfl, by simp [Directory.stage?, here, locked]⟩
  | load | inspect =>
    simp only [Directory.advance] at still
    split at still <;> cases still
  | shut handle failed => cases failed <;> cases still
  | _ => cases still

theorem Course.ended (course : Course initial client machine)
    (still : ∀ thread, machine.step client thread = none) (thread : Fin n) :
    ∃ result, machine.phases thread = .done result := by
  have stands (thread : Fin n) := advance_eq_none (Option.map_eq_none_iff.mp (still thread))
  apply (stands thread).resolve_right
  rintro ⟨handle, stage, waits, locked⟩
  have about : ((machine.view client).phases thread).handle? = some handle :=
    congrArg Phase.handle? waits
  obtain ⟨holder, holds⟩ := course.sound.guarded (course.sound.about about) locked
  change (machine.phases holder).held? = some handle at holds
  -- Whoever holds what the thread waits for is neither at its end nor waiting itself.
  rcases stands holder with ⟨result, ended⟩ | ⟨other, _, waiting, -⟩
  · rw [ended] at holds
    cases holds
  · rw [waiting] at holds
    cases holds

end Machine

end PeerDirectory

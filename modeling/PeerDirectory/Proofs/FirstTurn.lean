import PeerDirectory.Proofs.Directory.Viable

namespace PeerDirectory.Directory

variable {φ σ γ τ υ : Type}

structure Observant (holds : Journal φ σ τ υ → Prop) : Prop where
  record : ∀ {run : Run φ σ τ υ}, Viable holds run.shape → ∀ event, holds (run.record event).outside
  moments : ∀ {journal}, holds journal → ∀ moments, holds { journal with moments }

section Runs

variable {holds : Journal φ σ τ υ → Prop} {run : Run φ σ τ υ}
  {surroundings : Surroundings φ σ (Journal φ σ τ υ)}

theorem viable_record (observant : Observant holds) (viable : Viable holds run.shape)
    (event : Event φ σ τ υ) : Viable holds (run.record event).shape :=
  ⟨viable.tracked, observant.record viable event⟩

theorem viable_enter (observant : Observant holds) (viable : Viable holds run.shape)
    (moment : Moment) : Viable holds (run.enter moment).shape := by
  apply viable_record observant
  exact ⟨viable.tracked, observant.moments viable.outside _⟩

theorem viable_leave (observant : Observant holds) (viable : Viable holds run.shape)
    (moment : Moment) (moments : List Moment) : Viable holds (run.leave moment moments).shape := by
  have left := viable_record observant viable (.leaves moment)
  exact ⟨left.tracked, observant.moments left.outside moments⟩

variable [PartitionStore σ] [StoreFactory φ σ] [Backdoor φ σ τ υ]

theorem viable_make (observant : Observant holds) (sustaining : Sustaining holds surroundings)
    (viable : Viable holds run.shape) (call : Call τ υ) :
    Viable holds (run.make surroundings call).shape := by
  have begun := viable_record observant viable (.begins call)
  exact viable_record observant (viable_perform sustaining begun call) _

theorem viable_makeAll (observant : Observant holds) (sustaining : Sustaining holds surroundings)
    (viable : Viable holds run.shape) (calls : List (Call τ υ)) :
    Viable holds (run.makeAll surroundings calls).shape := by
  induction calls generalizing run with
  | nil => exact viable
  | cons call rest ih => exact ih (viable_make observant sustaining viable call)

theorem viable_makeWithin (observant : Observant holds)
    (sustaining : Sustaining holds surroundings) (viable : Viable holds run.shape)
    (moment : Moment) (calls : List (Call τ υ)) :
    Viable holds (run.makeWithin surroundings moment calls).shape := by
  apply viable_leave observant
  exact viable_makeAll observant sustaining (viable_enter observant viable moment) calls

theorem sustaining_others (observant : Observant holds) (habit : Habit φ σ τ υ)
    (turns depth : Nat) : Sustaining holds (others habit turns depth) := by
  -- Calls inside a moment are made among others who can nest moments one level less.
  induction depth with
  | zero => exact ⟨fun _ => rfl, ⟨turns, rfl⟩, fun _ _ viable => viable⟩
  | succ depth ih =>
    refine ⟨fun _ => rfl, ⟨turns, rfl⟩, fun moment run viable => ?_⟩
    cases moment with
    | gauge => exact viable
    | create id => exact viable_makeWithin observant ih viable _ _
    | startup id => exact viable_makeWithin observant ih viable _ _

end Runs

theorem observant_always : Observant fun _ : Journal φ σ τ υ => True :=
  ⟨fun _ _ => trivial, fun _ _ => trivial⟩

def Surveyed (journal : Journal φ σ τ υ) : Prop :=
  ∀ point ∈ journal.points, Viable (fun _ => True) point.state.shape

theorem observant_surveyed : Observant (Surveyed : Journal φ σ τ υ → Prop) := by
  refine ⟨fun {run} viable event point member => ?_, fun surveyed moments => surveyed⟩
  rcases List.mem_append.mp member with before | new
  · exact viable.outside point before
  · rw [List.mem_singleton.mp new]
    exact ⟨viable.tracked, trivial⟩

structure Interchangeable (holds : γ → Prop) (one other : Surroundings φ σ γ) : Prop where
  first : Sustaining holds one
  second : Sustaining holds other
  react : ∀ moment {directory}, Viable holds directory.shape →
    one.react moment directory = other.react moment directory

namespace Interchangeable

section Calls

variable {holds : γ → Prop} {one other : Surroundings φ σ γ} {directory : Directory φ σ γ}
  {client : Hash} {handle : Handle}

theorem unregister (same : Interchangeable holds one other) :
    directory.unregister one client handle = directory.unregister other client handle := by
  rw [unregister_eq same.first.ungauged, unregister_eq same.second.ungauged]

theorem seek [StoreFactory φ σ] (same : Interchangeable holds one other)
    (viable : Viable holds directory.shape) :
    directory.seek one client = directory.seek other client := by
  simp only [Directory.seek, register_eq same.first.ungauged, register_eq same.second.ungauged,
    same.react _ viable]

variable [PartitionStore σ]

theorem startStore (same : Interchangeable holds one other)
    (viable : Viable holds directory.shape) :
    directory.startStore one handle = directory.startStore other handle := by
  rw [startStore_eq one, startStore_eq other, same.react _ viable]

theorem startClient (same : Interchangeable holds one other)
    (viable : Viable holds directory.shape) :
    directory.startClient one client handle = directory.startClient other client handle := by
  have held : Viable holds (directory.setLocked handle true).shape :=
    viable_setLocked viable handle true
  simp only [Directory.startClient, bringUp_eq, giveUp, same.startStore held, same.unregister]

variable [StoreFactory φ σ]

theorem lookOnce (same : Interchangeable holds one other) (viable : Viable holds directory.shape) :
    directory.lookOnce one client = directory.lookOnce other client := by
  obtain ⟨sought, -⟩ := viable_seek same.second viable client
  simp only [Directory.lookOnce, same.seek viable, same.startClient sought]

theorem resolve (same : Interchangeable holds one other) (viable : Viable holds directory.shape)
    (id : Option PartitionId) : directory.resolve one id = directory.resolve other id := by
  match id with
  | none => rfl
  | some (.wellKnown role) => rfl
  | some (.client client) =>
    obtain ⟨looks, turns⟩ := same.first.turns
    obtain ⟨more, again⟩ := same.second.turns
    simp only [Directory.resolve, Directory.client, turns, again,
      clientWithin_eq_lookOnce same.first viable, clientWithin_eq_lookOnce same.second viable,
      same.lookOnce viable]

theorem perform [Backdoor φ σ τ υ] (same : Interchangeable holds one other)
    (viable : Viable holds directory.shape) (call : Call τ υ) :
    directory.perform one call = directory.perform other call := by
  cases plain : call.plain with
  | true => rw [perform_plain same.first.ungauged plain, perform_plain same.second.ungauged plain]
  | false =>
    cases call with
    | resolve id => simp only [Directory.perform, same.resolve viable id]
    | clientPartition id =>
      cases id with
      | none => rfl
      | some id => simp only [Directory.perform, clientPartition, same.resolve viable (some id)]
    | startStore handle => simp only [Directory.perform, same.startStore viable]
    | _ => cases plain

end Calls

section Runs

variable {holds : Journal φ σ τ υ → Prop} {one other : Surroundings φ σ (Journal φ σ τ υ)}
  {run : Run φ σ τ υ} [PartitionStore σ] [StoreFactory φ σ] [Backdoor φ σ τ υ]

theorem makeAll (same : Interchangeable holds one other) (observant : Observant holds)
    (viable : Viable holds run.shape) (calls : List (Call τ υ)) :
    run.makeAll one calls = run.makeAll other calls := by
  induction calls generalizing run with
  | nil => rfl
  | cons call rest ih =>
    have begun := viable_record observant viable (.begins call)
    have made : run.make one call = run.make other call := by
      simp only [make, same.perform begun call]
    have later := ih (viable_make observant same.second viable call)
    simp only [Directory.makeAll, List.foldl_cons, made] at later ⊢
    exact later

end Runs

end Interchangeable

section Runs

variable [PartitionStore σ] [StoreFactory φ σ] [Backdoor φ σ τ υ]

theorem interchangeable_others {holds : Journal φ σ τ υ → Prop} (observant : Observant holds)
    (habit : Habit φ σ τ υ) (turns more depth : Nat) :
    Interchangeable holds (others habit more depth) (others habit turns depth) := by
  induction depth with
  | zero =>
    exact ⟨sustaining_others observant habit more 0, sustaining_others observant habit turns 0,
      fun _ _ _ => rfl⟩
  | succ depth ih =>
    refine ⟨sustaining_others observant habit more (depth + 1),
      sustaining_others observant habit turns (depth + 1), fun moment run viable => ?_⟩
    have within : run.makeWithin (others habit more depth) moment (habit moment run) =
        run.makeWithin (others habit turns depth) moment (habit moment run) := by
      have entered := viable_enter observant viable moment
      simp only [makeWithin, ih.makeAll observant entered]
    cases moment with
    | gauge => rfl
    | create id => exact within
    | startup id => exact within

structure FirstTurn {γ : Type} (surroundings : Surroundings φ σ γ) (client : Hash)
    (directory : Directory φ σ γ) : Prop where
  started : ((directory.seek surroundings client).2.startClient surroundings client
    (directory.seek surroundings client).1).1 ≠ .ok false
  only : ∀ looks, clientWithin surroundings client (looks + 1) directory =
    directory.lookOnce surroundings client

omit [Backdoor φ σ τ υ] in
theorem firstTurn_of_viable {γ : Type} {holds : γ → Prop} {surroundings : Surroundings φ σ γ}
    {directory : Directory φ σ γ} (sustaining : Sustaining holds surroundings)
    (viable : Viable holds directory.shape) (client : Hash) :
    FirstTurn surroundings client directory := by
  obtain ⟨sought, tracked⟩ := viable_seek sustaining viable client
  exact ⟨startClient_ne_false surroundings sought tracked, clientWithin_eq_lookOnce sustaining viable⟩

omit [Backdoor φ σ τ υ] in
theorem Built.surveyed {run : Run φ σ τ υ} (built : Built run) : Viable Surveyed run.shape := by
  refine viable_of_empty built.bare.clients ?_
  intro point member
  rw [built.bare.outside] at member
  cases member

/-- Wherever a run is, no search for a client's partition ever has to begin again, whatever others
do meanwhile; and the run does not depend on whether it might. -/
theorem first_turn_suffices {run : Run φ σ τ υ} (built : Built run) (habit : Habit φ σ τ υ)
    (turns depth : Nat) (calls : List (Call τ υ)) :
    (∀ point ∈ (run.makeAll (others habit turns depth) calls).outside.points,
      ∀ searching : Run φ σ τ υ, searching.snapshot = point.state →
        ∀ (habit : Habit φ σ τ υ) (turns depth : Nat) (client : Hash),
          FirstTurn (others habit turns depth) client searching) ∧
      ∀ more, run.makeAll (others habit more depth) calls =
        run.makeAll (others habit turns depth) calls := by
  constructor
  · intro point member searching same habit' turns' depth' client
    have surveyed := viable_makeAll observant_surveyed
      (sustaining_others observant_surveyed habit turns depth) built.surveyed calls
    have shown := surveyed.outside point member
    rw [← same] at shown
    have viable : Viable (fun _ => True) searching.shape := ⟨shown.tracked, trivial⟩
    exact firstTurn_of_viable (sustaining_others observant_always habit' turns' depth') viable client
  · intro more
    exact (interchangeable_others observant_surveyed habit turns more depth).makeAll
      observant_surveyed built.surveyed calls

end Runs

theorem first_turn_amid_race :
    (∃ point ∈ (plainRun.makeAll (others eager 0 2)
        [.resolve (some (.client newcomer))]).outside.points,
      (point.moments = [.create (.client newcomer)] ∧ point.state.tracked? newcomer = none) ∧
        ∀ searching : Run MemoryFactory MemoryStore Tuning Blinding,
          searching.snapshot = point.state → FirstTurn (others eager 0 1) newcomer searching) ∧
      plainRun.makeAll (others eager 7 2) [.resolve (some (.client newcomer))] =
        plainRun.makeAll (others eager 0 2) [.resolve (some (.client newcomer))] := by
  obtain ⟨always, same⟩ := first_turn_suffices built_plainRun eager 0 2
    [.resolve (some (.client newcomer))]
  have inside : ∃ point ∈ (plainRun.makeAll (others eager 0 2)
      [.resolve (some (.client newcomer))]).outside.points,
      point.moments = [.create (.client newcomer)] ∧ point.state.tracked? newcomer = none := by
    decide +kernel
  obtain ⟨point, member, racing⟩ := inside
  exact ⟨⟨point, member, racing, fun searching shown => always point member searching shown eager 0 1
    newcomer⟩, same 7⟩

end PeerDirectory.Directory

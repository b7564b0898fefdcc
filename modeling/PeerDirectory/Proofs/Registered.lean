import PeerDirectory.Proofs.Run.Fitting
import PeerDirectory.Proofs.Run.Walk

namespace PeerDirectory.Directory

structure Registered {γ : Type} (moments : List Moment)
    (directory : Directory MemoryFactory MemoryStore γ) : Prop where
  entry : ∀ {client handle}, directory.tracked? client = some handle →
    handle.id = .client client ∧ ∃ partition, directory.partition? handle = some partition ∧
      partition.store.id = .client client ∧
      (partition.lifecycle = .ready ∧ partition.store.startups = 1 ∧
          partition.store.started = true ∧ partition.store.stopped = false ∨
        partition.lifecycle = .creating ∧ partition.store.startups = 0 ∧
          .startup (.client client) ∈ moments)
  apart : ∀ {one other handle}, directory.tracked? one = some handle →
    directory.tracked? other = some handle → one = other
  ready : ∀ {client generation partition},
    directory.partition? ⟨.client client, generation⟩ = some partition →
      partition.lifecycle = .ready →
        directory.tracked? client = some ⟨.client client, generation⟩

section Runs

variable {γ : Type} {directory : Directory MemoryFactory MemoryStore γ} {given : Handle → Prop}

theorem registered_of_orderly {busy : List Handle} {moments : List Moment}
    (orderly : Orderly busy directory.shape) (fitting : Fitting given directory.vitals?)
    (covered : Covered busy moments) : Registered moments directory := by
  refine ⟨fun {client handle} tracked => ?_, fun {one other handle} first second => ?_,
    fun {client generation partition} here ready => ?_⟩
  · have named := id_of_tracked? tracked
    refine ⟨named, ?_⟩
    rcases orderly.tracked tracked with stands | starting
    · obtain ⟨partition, here, stage, vitals⟩ := vitals?_of_stage? stands
      have fit : partition.store.vitals = ⟨handle.id, 1, true, false⟩ :=
        fitting.fit vitals
      simp only [MemoryStore.vitals, Vitals.mk.injEq] at fit
      obtain ⟨id, startups, started, stopped⟩ := fit
      exact ⟨partition, here, id.trans named, Or.inl ⟨stage, startups, started, stopped⟩⟩
    · obtain ⟨partition, here, stage, vitals⟩ := vitals?_of_stage? (orderly.starting starting)
      have fit : partition.store.vitals = ⟨handle.id, 0, false, false⟩ :=
        fitting.fit vitals
      simp only [MemoryStore.vitals, Vitals.mk.injEq] at fit
      obtain ⟨id, startups, -, -⟩ := fit
      have inside : .startup (.client client) ∈ moments := named ▸ covered handle starting
      exact ⟨partition, here, id.trans named, Or.inr ⟨stage, startups, inside⟩⟩
  · have named := (id_of_tracked? first).symm.trans (id_of_tracked? second)
    exact PartitionId.client.inj named
  · have stands : directory.shape.stages ⟨.client client, generation⟩ =
        some (.ready, partition.locked) := by simp [stage?, here, ready]
    exact orderly.ready stands

structure Sound (position : Position MemoryFactory MemoryStore Tuning Blinding) : Prop where
  orderly : Orderly position.busy position.run.shape
  fitting : Fitting (fun _ => False) position.run.vitals?
  points : ∀ point ∈ position.run.outside.points, Registered point.moments point.state

theorem Move.sound {a b : Position MemoryFactory MemoryStore Tuning Blinding}
    (move : Move Undriven a b) (sound : Sound a) : Sound b := by
  have orderly := move.orderly sound.orderly
  have fitting := move.fitting sound.orderly sound.fitting
  refine ⟨orderly, fitting, fun point member => ?_⟩
  rcases move.points sound.orderly with same | ⟨event, moments, added, covered, -⟩
  · rw [same] at member
    exact sound.points point member
  · rw [added, List.mem_append, List.mem_singleton] at member
    rcases member with before | rfl
    · exact sound.points point before
    · have registered := registered_of_orderly orderly fitting covered
      exact ⟨registered.entry, registered.apart, registered.ready⟩

theorem Path.sound {a b : Position MemoryFactory MemoryStore Tuning Blinding}
    (path : Path Undriven a b) (sound : Sound a) : Sound b := by
  induction path with
  | refl => exact sound
  | tail _ move ih => exact move.sound ih

end Runs

theorem sound_of_built {run : Run MemoryFactory MemoryStore Tuning Blinding} (built : Built run) :
    Sound ⟨[], run⟩ := by
  refine ⟨built.bare.orderly, built.fitting.weaken nofun, ?_⟩
  · have blank : run.outside = .blank := built.bare.outside
    rw [blank]
    intro point member
    cases member

/-- Once a directory is built, the register of clients is sound at every point of every run, inside
moments and outside of them, as long as nobody drives a store directly or waits for ever. -/
theorem registered_throughout {run : Run MemoryFactory MemoryStore Tuning Blinding}
    {habit : Habit MemoryFactory MemoryStore Tuning Blinding} {turns depth : Nat}
    {calls : List (Call Tuning Blinding)} (built : Built run)
    (undriven : ∀ call ∈ calls, call.drives = false)
    (always : ∀ moment run, ∀ call ∈ habit moment run, call.drives = false)
    (unstuck : (run.makeAll (others habit turns depth) calls).stuck = false) :
    ∀ point ∈ (run.makeAll (others habit turns depth) calls).outside.points,
      Registered point.moments point.state := by
  have walk := (considerate_others always turns depth).makeAll built.bare.orderly
    (fun _ starting => by cases starting) undriven unstuck
  exact (walk.path.sound (sound_of_built built)).points

theorem registered_amid_race :
    (plainRun.makeAll (others eager 0 2)
        [.resolve (some (.client someone)), .removeClient someone,
          .resolve (some (.client someone))]).stuck = false ∧
      ∀ point ∈ (plainRun.makeAll (others eager 0 2)
          [.resolve (some (.client someone)), .removeClient someone,
            .resolve (some (.client someone))]).outside.points,
        Registered point.moments point.state := by
  have unstuck : (plainRun.makeAll (others eager 0 2)
      [.resolve (some (.client someone)), .removeClient someone,
        .resolve (some (.client someone))]).stuck = false := by decide +kernel
  refine ⟨unstuck, registered_throughout built_plainRun (by decide) ?_ unstuck⟩
  intro moment run call made
  unfold eager at made
  split at made
  · split at made
    · rw [List.mem_singleton.mp made]
      rfl
    · cases made
  · rw [List.mem_singleton.mp made]
    rfl
  · cases made

end PeerDirectory.Directory

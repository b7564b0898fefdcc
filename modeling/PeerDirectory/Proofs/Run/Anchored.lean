import PeerDirectory.Proofs.Run.Serving
import PeerDirectory.Proofs.Run.Walk

namespace PeerDirectory.Directory

section Shapes

variable {γ : Type} {shape : Shape γ}

structure Anchored (shape : Shape γ) : Prop where
  stage : ∀ role,
    shape.stages (wellKnown role) = some (if shape.closed then .shutDown else .ready, false)
  only : ∀ {handle role stage}, handle.id = .wellKnown role → shape.stages handle = some stage →
    handle = wellKnown role

theorem Anchored.update (anchored : Anchored shape) {client : Hash} {handle : Handle}
    (named : handle.id = .client client) {stage : Option (Lifecycle × Bool)}
    {clients : Clients} :
    Anchored { shape with stages := Function.update shape.stages handle stage, clients } := by
  have apart {other : Handle} {role : WellKnown} (fixed : other.id = .wellKnown role) :
      other ≠ handle := by
    rintro rfl
    cases named.symm.trans fixed
  refine ⟨fun role => ?_, fun {other role _} fixed stands => ?_⟩
  · exact (Function.update_of_ne (apart rfl) ..).trans (anchored.stage role)
  · exact anchored.only fixed (by simpa [apart fixed] using stands)

end Shapes

theorem idle_of_closed {φ σ γ : Type} {directory : Directory φ σ γ} {busy : List Handle}
    (orderly : Orderly busy directory.shape) (anchored : Anchored directory.shape)
    (closed : directory.closed = true) (handle : Handle) : directory.isReady handle = false := by
  refine isReady_eq_false fun locked ready => ?_
  obtain ⟨id, generation⟩ := handle
  cases id with
  | client client =>
    -- A ready partition would be tracked.
    have untracked := orderly.closed closed client
    cases untracked.symm.trans (orderly.ready ready)
  | wellKnown role =>
    rw [anchored.only rfl ready] at ready
    have down := anchored.stage role
    rw [show directory.shape.closed = true from closed] at down
    cases down.symm.trans ready

variable {φ σ τ υ : Type} [PartitionStore σ] [StoreFactory φ σ] [Backdoor φ σ τ υ]
  {permitted : Call τ υ → Prop} {run : Run φ σ τ υ}

omit [Backdoor φ σ τ υ] in
theorem Built.anchored (built : Built run) : Anchored run.shape := by
  refine ⟨fun role => ?_, fun {handle role stage} fixed stands => ?_⟩
  · rw [built.bare.opened]
    exact built.ready role
  · exact built.only fixed stands

omit [Backdoor φ σ τ υ] in
theorem anchored_shutdown (anchored : Anchored run.shape)
    (unstuck : (run.shutdown (.quiet 0)).stuck = false) :
    Anchored (run.shutdown (.quiet 0)).shape := by
  rw [(shutdown_of_unstuck unstuck).2]
  refine ⟨fun role => ?_, fun {handle role stage} fixed stands => ?_⟩
  · have standing : wellKnown role ∈ run.standing := by
      refine List.mem_append_left _ (List.mem_map_of_mem ?_)
      cases role <;> decide
    have stands : run.stage? (wellKnown role) = _ := anchored.stage role
    simp only [standing, if_true, stands, Option.map_some]
  · dsimp only at stands
    split at stands
    · obtain ⟨before, stood, -⟩ := Option.map_eq_some_iff.mp stands
      exact anchored.only fixed stood
    · exact anchored.only fixed stands

theorem anchored_act {call : Call τ υ} (anchored : Anchored run.shape) (plain : call.plain = true)
    (unstuck : (run.perform (.quiet 0) call).2.stuck = false) :
    Anchored (run.perform (.quiet 0) call).2.shape := by
  cases call with
  | resolve id => cases plain
  | clientPartition id => cases plain
  | startStore handle => cases plain
  | removeClient client =>
    cases tracked : run.tracked? client with
    | none =>
      simp only [perform, removeClient, tracked]
      exact anchored
    | some handle =>
      simp only [perform, (removeClient_of_unstuck tracked unstuck).2]
      exact anchored.update (id_of_tracked? tracked)
  | shutdown => exact anchored_shutdown anchored unstuck
  | ask question => exact anchored
  | session client opened => exact anchored
  | tune tuning => exact anchored
  | setIsolation enabled => simpa [perform] using anchored
  | findLease key => simpa [perform, shape_findLease] using anchored
  | insert handle key entry => simpa [perform] using anchored
  | touch handle touch => simpa [perform] using anchored
  | stopStore handle => simpa [perform] using anchored

theorem Move.anchored {a b : Position φ σ τ υ} (move : Move permitted a b)
    (orderly : Orderly a.busy a.run.shape) (anchored : Anchored a.run.shape) :
    Anchored b.run.shape := by
  cases move with
  | begin => exact ⟨anchored.stage, anchored.only⟩
  | reply => exact ⟨anchored.stage, anchored.only⟩
  | enter => exact ⟨anchored.stage, anchored.only⟩
  | leave => exact ⟨anchored.stage, anchored.only⟩
  | act call allowed plain covered unstuck =>
    have after := anchored_act anchored plain unstuck
    exact ⟨after.stage, after.only⟩
  | drive handle allowed => simpa using anchored
  | discard client handle tracked =>
    rw [(register_quiet_of_tracked 0 tracked).2]
    exact anchored.update rfl
  | refuse client untracked closed =>
    rw [(refuse_of_closed untracked closed).2]
    exact anchored.update rfl
  | launch client untracked opened =>
    rw [shape_launch untracked]
    exact anchored.update rfl
  | settle client handle named =>
    have stands := orderly.starting List.mem_cons_self
    have tracked := orderly.tracked_of_busy List.mem_cons_self named
    rcases settle_cases stands tracked with ⟨-, -, settled⟩ | ⟨-, settled⟩
    · rw [settled]
      exact anchored.update named
    · rw [settled]
      exact anchored.update named

theorem Path.anchored {a b : Position φ σ τ υ} (path : Path permitted a b)
    (orderly : Orderly a.busy a.run.shape) (anchored : Anchored a.run.shape) :
    Anchored b.run.shape := by
  induction path with
  | refl => exact anchored
  | tail path move ih => exact move.anchored (Path.orderly path orderly) ih

theorem Reached.anchored {busy : List Handle} (reached : Reached busy run) :
    Anchored run.shape := by
  obtain ⟨start, built, path⟩ := reached.path
  exact path.anchored built.bare.orderly built.anchored

omit [Backdoor φ σ τ υ] in
theorem Built.attested (built : Built run) : Attested run := by
  have nothing : run.outside.points = [] := congrArg Journal.points built.bare.outside
  have opened : run.closed = false := built.bare.opened
  simp [Attested, opened, nothing]

structure Quiescent (position : Position φ σ τ υ) : Prop where
  orderly : Orderly position.busy position.run.shape
  anchored : Anchored position.run.shape
  attested : Attested position.run
  points : ∀ {earlier point later}, position.run.outside.points = earlier ++ point :: later →
    (∃ past ∈ earlier ++ [point], past.closes = true) →
      ∀ handle, point.state.isReady handle = false

omit [Backdoor φ σ τ υ] in
theorem Built.quiescent (built : Built run) : Quiescent ⟨[], run⟩ := by
  have nothing : run.outside.points = [] := congrArg Journal.points built.bare.outside
  refine ⟨built.bare.orderly, built.anchored, built.attested, fun split => ?_⟩
  simp [nothing] at split

theorem Move.quiescent {a b : Position φ σ τ υ} (move : Move permitted a b)
    (quiescent : Quiescent a) : Quiescent b := by
  have orderly := move.orderly quiescent.orderly
  have anchored := move.anchored quiescent.orderly quiescent.anchored
  have attested := move.attested quiescent.orderly quiescent.attested
  refine ⟨orderly, anchored, attested, fun {earlier point later} split ended => ?_⟩
  rcases move.points quiescent.orderly with same | ⟨event, moments, added, -, -⟩
  · exact quiescent.points (same ▸ split) ended
  · rw [added] at split
    rcases split_of_append_singleton split with ⟨rfl, rfl⟩ | ⟨before, -, split⟩
    · have idle := idle_of_closed orderly anchored (attested.mpr (by rwa [added]))
      exact idle
    · exact quiescent.points split ended

theorem Path.quiescent {a b : Position φ σ τ υ} (path : Path permitted a b)
    (quiescent : Quiescent a) : Quiescent b := by
  induction path with
  | refl => exact quiescent
  | tail _ move ih => exact move.quiescent ih

end PeerDirectory.Directory

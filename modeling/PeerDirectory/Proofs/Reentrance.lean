import PeerDirectory.Proofs.Directory.Launch
import PeerDirectory.Proofs.Run.Gauge
import PeerDirectory.Proofs.Run.Walk

namespace PeerDirectory

def Surroundings.interrupting {φ σ γ : Type} (client : Hash)
    (steps : Directory φ σ γ → Directory φ σ γ) (turns : Nat) : Surroundings φ σ γ :=
  ⟨fun moment directory =>
    if moment = .create (.client client) then steps directory else directory, turns⟩

namespace Directory

/-- A search that was interrupted ends like one that begins when the interruption is over. Only the
log may differ in any way. -/
structure Sequential {φ σ γ : Type} [StoreFactory φ σ] (client : Hash) (after : Directory φ σ γ)
    (nested sequential : Except Failure Handle × Directory φ σ γ) : Prop where
  result : nested.1 = sequential.1
  standing : ∀ {handle}, after.tracked? client = some handle → nested.1 = .ok handle
  outside : nested.2.outside = after.outside ∧ sequential.2.outside = after.outside
  clients : nested.2.clients = sequential.2.clients
  settings : nested.2.policy = sequential.2.policy ∧ nested.2.closed = sequential.2.closed ∧
    nested.2.seedPeers = sequential.2.seedPeers ∧ nested.2.sampler = sequential.2.sampler ∧
    nested.2.enumerator = sequential.2.enumerator ∧ nested.2.live = sequential.2.live
  stuck : nested.2.stuck = false ∧ sequential.2.stuck = false
  /-- The interrupted search counts as a lost race if the client was tracked meanwhile. -/
  metrics : ∀ metric : Metric, nested.2.metrics[metric]? =
    if metric = .races ∧ (after.tracked? client).isSome then
      some (sequential.2.metrics.getD .races 0 + 1)
    else sequential.2.metrics[metric]?
  /-- There may be a partition more, which was built and never started. -/
  partitions : nested.2.factory = sequential.2.factory ∧
      nested.2.partitions = sequential.2.partitions ∨
    (∃ lifecycle, lifecycle ≠ .ready ∧
      nested.2.factory = (StoreFactory.make sequential.2.factory (.client client)).2 ∧
      nested.2.partitions = sequential.2.partitions.add (.client client)
        ⟨(StoreFactory.make sequential.2.factory (.client client)).1, lifecycle, false⟩)

section Endings

variable {φ σ γ : Type} [PartitionStore σ] [StoreFactory φ σ] {after : Directory φ σ γ}
  {client : Hash}

omit [PartitionStore σ] in
theorem Sequential.refl {ended : Except Failure Handle × Directory φ σ γ}
    (untracked : after.tracked? client = none) (outside : ended.2.outside = after.outside)
    (unstuck : ended.2.stuck = false) : Sequential client after ended ended where
  result := rfl
  standing tracked := by cases untracked.symm.trans tracked
  outside := ⟨outside, outside⟩
  clients := rfl
  settings := ⟨rfl, rfl, rfl, rfl, rfl, rfl⟩
  stuck := ⟨unstuck, unstuck⟩
  metrics metric := by simp [untracked]
  partitions := Or.inl ⟨rfl, rfl⟩

omit [PartitionStore σ] in
theorem sequential_of_tracked {handle : Handle} (tracked : after.tracked? client = some handle)
    (unstuck : after.stuck = false) :
    Sequential client after (.ok handle, (after.register (.quiet 0) client).2)
      (.ok handle, after) := by
  rw [register_of_tracked tracked]
  refine ⟨rfl, fun again => ?_, ⟨rfl, rfl⟩, rfl, ⟨rfl, rfl, rfl, rfl, rfl, rfl⟩,
    ⟨unstuck, unstuck⟩, fun metric => ?_, Or.inr ⟨.creating, nofun, rfl, rfl⟩⟩
  · exact congrArg Except.ok (Option.some.inj (tracked.symm.trans again))
  · simp [Metrics.getElem?_add, tracked]

theorem sequential_of_closed (gauged : Gauged after.dial)
    (untracked : after.tracked? client = none) (closed : after.closed = true)
    (unstuck : after.stuck = false) :
    Sequential client after
      (.error .closed,
        ((after.launch client).settle client (after.partitions.next (.client client))).2)
      (.error .closed, after) := by
  rw [refuse_eq untracked closed]
  refine ⟨rfl, fun tracked => ?_, ⟨rfl, rfl⟩, rfl, ⟨rfl, rfl, rfl, rfl, rfl, rfl⟩,
    ⟨unstuck, unstuck⟩, fun metric => ?_, Or.inr ⟨.shutDown, nofun, rfl, rfl⟩⟩
  · cases untracked.symm.trans tracked
  · -- The gauge was set when the directory was shut down, and stands where it stood.
    have reading : after.metrics[Metric.clientPartitions]? = some after.clients.size := by
      obtain ⟨value, set⟩ := Option.ne_none_iff_exists'.mp (gauged.closed closed)
      exact set.trans (congrArg some (gauged.reading set))
    by_cases gauge : metric = .clientPartitions
    · simp [Metrics.getElem?_set, gauge, reading]
    · simp [Metrics.getElem?_set, gauge, untracked]

end Endings

variable {φ σ τ υ : Type} [PartitionStore σ] [StoreFactory φ σ] [Backdoor φ σ τ υ]

/-- Whatever others do just before a client's partition is built, the search that they interrupt
ends as if it had begun when they were done. -/
theorem reentrant_creation {busy : List Handle} {run : Run φ σ τ υ} {client : Hash}
    (reached : Reached busy run) (opened : run.closed = false) (isolated : run.isolated = true)
    (untracked : run.tracked? client = none) {habit : Habit φ σ τ υ} {turns depth looks : Nat}
    {calls : List (Call τ υ)}
    (unstuck : (run.makeAll (others habit turns depth) calls).stuck = false)
    (still : (run.makeAll (others habit turns depth) calls).isolated = true) :
    Sequential client (run.makeAll (others habit turns depth) calls)
      (run.resolve (.interrupting client
        (fun run => run.makeAll (others habit turns depth) calls) (looks + 1))
        (some (.client client)))
      ((run.makeAll (others habit turns depth) calls).resolve (.quiet (looks + 1))
        (some (.client client))) := by
  have ended := reached.makeAll unstuck
  have orderly := ended.orderly
  let interruption : Surroundings φ σ (Journal φ σ τ υ) := .interrupting client
    (fun run => run.makeAll (others habit turns depth) calls) (looks + 1)
  have met : interruption.react (.create (.client client)) run =
      run.makeAll (others habit turns depth) calls := if_pos rfl
  have ungauged : interruption.Ungauged := fun _ => rfl
  have alone (id : PartitionId) (run : Run φ σ τ υ) :
      interruption.react (.startup id) run = run := rfl
  simp only [resolve, isolated, still, if_true, Directory.client]
  change Sequential client _ (clientWithin interruption client (looks + 1) run)
    (clientWithin (.quiet (looks + 1)) client (looks + 1) _)
  clear_value interruption
  generalize run.makeAll (others habit turns depth) calls = after at *
  cases tracked : after.tracked? client with
  | some handle =>
    have ready : after.stage? handle = some (.ready, false) := by
      refine (orderly.tracked tracked).resolve_right fun starting => ?_
      have before := reached.orderly.tracked_of_busy starting (id_of_tracked? tracked)
      cases untracked.symm.trans before
    have nested : Pursuit interruption client run _ _ :=
      .overtaken opened untracked met tracked ready
    have sequential : Pursuit (.quiet (looks + 1)) client after _ _ :=
      .standing (orderly.open_of_tracked tracked) tracked ready
    rw [nested.clientWithin ungauged, sequential.clientWithin fun _ => rfl]
    exact sequential_of_tracked tracked unstuck
  | none =>
    cases closed : after.closed with
    | true =>
      have nested : Pursuit interruption client run _ _ := .shut opened untracked met tracked closed
      have sequential : Pursuit (.quiet (looks + 1)) client after _ _ := .refused closed
      rw [nested.clientWithin ungauged, sequential.clientWithin fun _ => rfl]
      exact sequential_of_closed ended.gauged tracked closed unstuck
    | false =>
      have launched := shape_launch tracked
      have kept : (after.launch client).closed = false :=
        (congrArg Shape.closed launched).trans closed
      have nested : Pursuit interruption client run _ _ :=
        .started opened untracked met tracked closed rfl (alone _ _) kept
      have sequential : Pursuit (.quiet (looks + 1)) client after _ _ :=
        .started closed tracked rfl tracked closed rfl rfl kept
      rw [nested.clientWithin ungauged, sequential.clientWithin fun _ => rfl]
      obtain ⟨outside, -, stuck⟩ := settle_keeps (stage?_launch tracked) (tracked?_launch tracked)
      exact .refl tracked (outside.trans (congrArg Shape.outside launched))
        (stuck.trans ((congrArg Shape.stuck launched).trans unstuck))

def detour : List (Call Tuning Blinding) :=
  [.resolve (some (.client someone)), .removeClient someone, .tune (.fail (.client newcomer)),
    .resolve (some (.client newcomer)), .resolve (some (.client someone))]

theorem reentrant_creation_raced :
    Sequential someone (plainRun.makeAll (others eager 0 1) detour)
      (plainRun.resolve (.interrupting someone
        (fun run => run.makeAll (others eager 0 1) detour) 1) (some (.client someone)))
      ((plainRun.makeAll (others eager 0 1) detour).resolve (.quiet 1)
        (some (.client someone))) :=
  reentrant_creation built_plainRun.reached (by decide +kernel) (by decide +kernel)
    (by decide +kernel) (by decide +kernel) (by decide +kernel)

end Directory

end PeerDirectory

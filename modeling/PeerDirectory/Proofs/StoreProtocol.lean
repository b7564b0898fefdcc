import PeerDirectory.Proofs.Mirror.Run
import PeerDirectory.Proofs.Mirror.Start
import PeerDirectory.Proofs.Run.Anchored
import PeerDirectory.Proofs.Watched

namespace PeerDirectory.Directory

variable {φ σ τ υ γ δ : Type}

/-- A directory, and the same directory with its stores under watch. They have everything in common
besides, what they tell by metrics and log included. -/
structure Unnoticed (plain : Directory φ σ γ) (watched : Directory (Watching φ) (Watched σ) δ) :
    Prop where
  factory : watched.factory.factory = plain.factory
  partitions : ∀ handle,
    (watched.partition? handle).map (fun partition =>
      ⟨partition.store.store, partition.lifecycle, partition.locked⟩) = plain.partition? handle
  clients : watched.clients = plain.clients
  closed : watched.closed = plain.closed
  policy : watched.policy = plain.policy
  seedPeers : watched.seedPeers = plain.seedPeers
  sampler : watched.sampler = plain.sampler
  enumerator : watched.enumerator = plain.enumerator
  live : watched.live = plain.live
  metrics : watched.metrics = plain.metrics
  log : watched.log = plain.log
  stuck : watched.stuck = plain.stuck

theorem Unnoticed.store? {plain : Directory φ σ γ}
    {watched : Directory (Watching φ) (Watched σ) δ} (unnoticed : Unnoticed plain watched) :
    (fun handle => (watched.store? handle).map Watched.store) = plain.store? := by
  funext handle
  rw [Directory.store?, Directory.store?, ← unnoticed.partitions handle, Option.map_map,
    Option.map_map]
  rfl

def Proper (watched : Directory (Watching φ) (Watched σ) γ) : Prop :=
  ∀ handle store, watched.store? handle = some store → Deed.Proper store.deeds

def Settled (watched : Directory (Watching φ) (Watched σ) γ) : Prop :=
  ∀ handle store, watched.store? handle = some store → Deed.Settled store.deeds

variable [PartitionStore σ] [StoreFactory φ σ] [Backdoor φ σ τ υ]

section Mirrored

variable {given : Handle → Prop} {ahead : Handle → Option Lifecycle} {plain : Directory φ σ γ}
  {watched : Directory (Watching φ) (Watched σ) δ}
  (mirror : Mirror (.watch φ σ τ υ) .same .none given ahead plain watched)
include mirror

theorem unnoticed_of_mirror : Unnoticed plain watched := by
  obtain ⟨policy, seedPeers, sampler, enumerator, live⟩ := mirror.settings
  refine ⟨mirror.factory, fun handle => ?_, ?_, mirror.closed, policy, seedPeers, sampler.symm,
    enumerator, live, ?_, ?_, mirror.stuck⟩
  · rcases mirror.partition?_cases handle with
      ⟨here, there⟩ | ⟨⟨store, stage, locked⟩, ⟨_, _, _⟩, here, there, lifecycle, lock, akin⟩
    · exact (congrArg (Option.map _) there).trans here.symm
    · cases lifecycle
      cases lock
      obtain ⟨rfl, -⟩ := akin
      exact (congrArg (Option.map _) there).trans here.symm
  · exact mirror.clients.trans (Clients.rename_of_fixed fun _ => rfl)
  · ext1 metric
    exact (mirror.metrics metric).resolve_right And.left
  · obtain ⟨since, here, there⟩ := mirror.log
    exact there.trans here.symm

theorem fits_of_mirror {handle : Handle} {partition : Partition (Watched σ)}
    (present : watched.partition? handle = some partition) :
    Deed.Fits ((ahead handle).getD partition.lifecycle) partition.store.deeds := by
  rcases mirror.partition?_cases handle with ⟨-, there⟩ | ⟨one, other, -, there, counterpart⟩
  · cases there.symm.trans present
  · obtain rfl := Option.some.inj (there.symm.trans present)
    rw [counterpart.lifecycle]
    exact counterpart.akin.2

theorem proper_of_mirror : Proper watched := by
  intro handle store present
  obtain ⟨partition, here, rfl⟩ := Option.map_eq_some_iff.mp present
  exact (fits_of_mirror mirror here).proper

theorem settled_of_mirror (idle : ∀ handle, watched.isReady handle = false)
    (failed : ∀ handle, ahead handle ≠ some .ready) : Settled watched := by
  intro handle store present
  obtain ⟨partition, here, rfl⟩ := Option.map_eq_some_iff.mp present
  have down : partition.lifecycle ≠ .ready := by simpa [isReady, here] using idle handle
  refine (fits_of_mirror mirror here).settled fun ready => ?_
  cases stage : ahead handle with
  | none => exact down (by simpa [stage] using ready)
  | some stage' => exact failed handle (by simpa [stage] using ready)

end Mirrored

/-- Which calls others make at a moment, as they know all that was told so far, the factory and
every store that it made. -/
abbrev Insider (φ σ τ υ : Type) :=
  Moment → List (Told τ υ) → φ → (Handle → Option σ) → List (Call τ υ)

omit [PartitionStore σ] [StoreFactory φ σ] [Backdoor φ σ τ υ] in
def Insider.habit (insider : Insider φ σ τ υ) : Habit φ σ τ υ :=
  fun moment run => insider moment run.outside.transcript run.factory run.store?

def Insider.unaware (insider : Insider φ σ τ υ) : Habit (Watching φ) (Watched σ) τ υ :=
  fun moment run => insider moment run.outside.transcript run.factory.factory
    fun handle => (run.store? handle).map Watched.store

theorem Insider.attuned (insider : Insider φ σ τ υ) :
    Attuned (.watch φ σ τ υ) .same .none insider.habit insider.unaware := by
  intro moment plain watched inStep
  have unnoticed := unnoticed_of_mirror inStep.mirror
  have told : watched.outside.transcript = plain.outside.transcript := by
    simp only [inStep.transcript, Told.rename_same, List.map_id']
  simp only [Insider.unaware, Insider.habit, told, unnoticed.factory, unnoticed.store?,
    Call.rename_same, List.map_id']

/-- At the points of a run over stores under watch the same happened as in the run over the stores
themselves, every store was treated properly, and since the directory was shut down, every store
that was started has been shut down. -/
structure Heeded (plain : Run φ σ τ υ) (watched : Run (Watching φ) (Watched σ) τ υ) : Prop where
  unnoticed : List.Forall₂
    (fun one other => other.event.told = one.event.told ∧ other.moments = one.moments ∧
      Unnoticed one.state other.state) plain.outside.points watched.outside.points
  proper : ∀ point ∈ watched.outside.points, Proper point.state
  settled : ∀ {earlier point later}, watched.outside.points = earlier ++ point :: later →
    (∃ past ∈ earlier ++ [point], past.closes = true) → Settled point.state

theorem InStep.heeded {plain : Run φ σ τ υ} {watched : Run (Watching φ) (Watched σ) τ υ}
    {busy : List Handle}
    (inStep : InStep (.watch φ σ τ υ) .same .none plain watched)
    (quiescent : Quiescent ⟨busy, watched⟩) : Heeded plain watched := by
  have mirrored : ∀ point ∈ watched.outside.points, Proper point.state ∧
      ((∀ handle, point.state.isReady handle = false) → Settled point.state) := by
    refine ((List.forall₂_and_left _ _).mp (inStep.points.flip.imp
      fun other one matching => ⟨?_, matching⟩)).1
    exact ⟨proper_of_mirror matching.mirror, fun idle =>
      settled_of_mirror matching.mirror idle fun _ => nofun⟩
  refine ⟨inStep.points.imp fun one other matching => ?_,
    fun point member => (mirrored point member).1, fun {earlier point later} split ended => ?_⟩
  · exact ⟨matching.told.trans (Told.rename_same _), matching.moments,
      unnoticed_of_mirror matching.mirror⟩
  · exact (mirrored point (by simp [split])).2 (quiescent.points split ended)

structure Guarded (plain : Except Failure Unit × Run φ σ τ υ)
    (watched : Except Failure Unit × Run (Watching φ) (Watched σ) τ υ) : Prop where
  result : watched.1 = plain.1
  unnoticed : Unnoticed plain.2 watched.2
  proper : Proper watched.2
  failed : ∀ {failure}, plain.1 = .error failure → Settled watched.2
  runs : plain.1 = .ok () →
    ∀ {insider : Insider φ σ τ υ} {turns depth : Nat} {calls : List (Call τ υ)},
      (plain.2.makeAll (others insider.habit turns depth) calls).stuck = false →
      Scrupulous (plain.2.makeAll (others insider.habit turns depth) calls).outside.transcript →
        Heeded (plain.2.makeAll (others insider.habit turns depth) calls)
          (watched.2.makeAll (others insider.unaware turns depth) calls)

theorem inStep_of_built {plain : Run φ σ τ υ} {watched : Run (Watching φ) (Watched σ) τ υ}
    (built : Built plain) (also : Built watched)
    (mirror : Mirror (.watch φ σ τ υ) .same .none (fun _ => False) level plain watched) :
    InStep (.watch φ σ τ υ) .same .none plain watched := by
  have blank : plain.outside = .blank := built.bare.outside
  have still : watched.outside = .blank := also.bare.outside
  refine ⟨mirror.give fun {handle} known => Or.inr ⟨?_, rfl⟩, ?_, ?_⟩
  · rw [blank] at known
    obtain ⟨role, rfl⟩ := known.resolve_right (by simp [Journal.blank, Journal.transcript])
    exact isReady_iff (built.ready role)
  · rw [blank, still]
    rfl
  · rw [blank, still]
    exact .nil

theorem heeded_of_built {plain : Run φ σ τ υ} {watched : Run (Watching φ) (Watched σ) τ υ}
    {insider : Insider φ σ τ υ} {turns depth : Nat} {calls : List (Call τ υ)}
    (built : Built plain) (also : Built watched)
    (mirror : Mirror (.watch φ σ τ υ) .same .none (fun _ => False) level plain watched)
    (unstuck : (plain.makeAll (others insider.habit turns depth) calls).stuck = false)
    (scrupulous :
      Scrupulous (plain.makeAll (others insider.habit turns depth) calls).outside.transcript) :
    Heeded (plain.makeAll (others insider.habit turns depth) calls)
      (watched.makeAll (others insider.unaware turns depth) calls) := by
  have covered (moments : List Moment) : Covered [] moments := fun _ member => by cases member
  have echo := insider.attuned.echo turns depth
  have ended := echo.makeAll (inStep_of_built built also mirror) built.bare.orderly (covered _)
    unstuck (Or.inr scrupulous)
  simp only [Call.rename_same, List.map_id'] at ended
  have considerate : Considerate (fun _ => True) (others insider.unaware turns depth) :=
    considerate_others (fun _ _ _ _ => trivial) turns depth
  have walk := considerate.makeAll also.bare.orderly (covered _) (fun _ _ => trivial)
    (ended.mirror.stuck.trans unstuck)
  exact ended.heeded (walk.path.quiescent also.quiescent)

theorem guarded_of_begun {plain : Except Failure Unit × Run φ σ τ υ}
    {watched : Except Failure Unit × Run (Watching φ) (Watched σ) τ υ}
    (begun : Begun (.watch φ σ τ υ) .same .none (fun _ => False) plain watched)
    (built : plain.1 = .ok () → Built plain.2) (also : watched.1 = .ok () → Built watched.2)
    (idle : ∀ {failure}, watched.1 = .error failure → ∀ handle, watched.2.isReady handle = false) :
    Guarded plain watched := by
  obtain ⟨ahead, mirror⟩ := begun.mirror
  refine ⟨begun.result, unnoticed_of_mirror mirror, proper_of_mirror mirror,
    fun {failure} failed => ?_, fun started _ _ _ _ unstuck scrupulous => ?_⟩
  · obtain ⟨handle, mirror⟩ := begun.failed failed
    refine settled_of_mirror mirror (idle (begun.result.trans failed)) fun other => ?_
    by_cases same : other = handle
    · simp [same]
    · rw [Function.update_of_ne same]
      exact (Option.some_ne_none _).symm
  · exact heeded_of_built (built started) (also (begun.result.trans started))
      (begun.started started) unstuck scrupulous

/-- Every build and every run keeps to the protocol of stores, as long as nobody drives a store
directly, takes a partition that nobody was told of or waits for ever. -/
theorem store_protocol (factory : φ) (decoy : φ → PartitionId → Reading) (sampler : Sampler)
    (enumerator : Enumerator) (settings : Settings) (change : Moment → φ → φ) :
    Guarded (start (blankRun factory sampler enumerator : Run φ σ τ υ) (.tuning change) settings)
      (start (blankRun ⟨factory, decoy⟩ sampler enumerator) (.tuning (Watching.tuned change))
        settings) := by
  have tuned : Tuned (.watch φ σ τ υ) change (Watching.tuned change) := by
    rintro moment _ watching rfl
    rfl
  have linked : (Bond.watch φ σ τ υ).link factory ⟨factory, decoy⟩ := rfl
  apply guarded_of_begun (begun_start linked tuned sampler enumerator .blank .blank settings)
  · intro started
    exact ⟨_, _, _, _, _, Prod.ext started rfl⟩
  · intro started
    exact ⟨_, _, _, _, _, Prod.ext started rfl⟩
  · intro failure failed
    exact idle_start failed

def Told.modest : Told τ υ → Bool
  | .begins call =>
    !call.drives && call.reaches.all fun handle => WellKnown.all.any fun role =>
      handle = wellKnown role
  | _ => true

omit [PartitionStore σ] [StoreFactory φ σ] [Backdoor φ σ τ υ] in
theorem scrupulous_of_modest {told : List (Told τ υ)} (modest : told.all Told.modest = true) :
    Scrupulous told := by
  intro earlier call later split
  have member : .begins call ∈ told := by simp [split]
  have decent := List.all_eq_true.mp modest _ member
  simp only [Told.modest, Bool.and_eq_true, Bool.not_eq_true'] at decent
  refine ⟨decent.1, fun {handle} reaches => Or.inl ?_⟩
  have listed : ∃ role ∈ WellKnown.all, handle = wellKnown role := by
    simpa [reaches] using decent.2
  obtain ⟨role, -, fixed⟩ := listed
  exact ⟨role, fixed⟩

def lie : Reading where
  lookup _ := none
  floodfillPeers := [newcomer]
  routers := []
  leaseSets := []
  isInitialized := true
  claims _ := true
  blinding? _ := none
  blindings := []

def rival : Insider MemoryFactory MemoryStore Tuning Blinding
  | .create (.client client), [_], _, _ => [.resolve (some (.client client))]
  | _, _, _, _ => []

def visit : List (Call Tuning Blinding) :=
  [.resolve (some (.client someone)),
    .insert (wellKnown .main) someone (.lease ⟨someone, none, [], 0⟩), .shutdown]

def plainWatched : Run (Watching MemoryFactory) (Watched MemoryStore) Tuning Blinding :=
  (start (unbuilt ⟨.plain, fun _ _ => lie⟩ .first .unrestricted .blank)
    (.tuning (Watching.tuned fun _ factory => factory)) .standard).2

theorem store_protocol_amid_race :
    Heeded (plainRun.makeAll (others rival.habit 0 1) visit)
      (plainWatched.makeAll (others rival.unaware 0 1) visit) := by
  have started : (start (blankRun .plain .first .unrestricted :
      Run MemoryFactory MemoryStore Tuning Blinding) (.tuning fun _ factory => factory)
        .standard).1 = .ok () := by decide +kernel
  have unstuck : (plainRun.makeAll (others rival.habit 0 1) visit).stuck = false := by
    decide +kernel
  have modest : (plainRun.makeAll (others rival.habit 0 1) visit).outside.transcript.all
      Told.modest = true := by decide +kernel
  have protocol : Guarded (_ : _ × Run MemoryFactory MemoryStore Tuning Blinding) _ :=
    store_protocol .plain (fun _ _ => lie) .first .unrestricted .standard fun _ factory => factory
  have heeded := protocol.runs started unstuck (scrupulous_of_modest modest)
  exact heeded

end PeerDirectory.Directory

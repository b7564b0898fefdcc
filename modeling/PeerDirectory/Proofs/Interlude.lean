import PeerDirectory.Proofs.Interlude.Sequel
import PeerDirectory.Proofs.Interlude.Stretch

namespace PeerDirectory.Directory

variable {φ σ τ υ : Type} [PartitionStore σ] [StoreFactory φ σ] [Backdoor φ σ τ υ]
  {run after : Run φ σ τ υ} {busy : List Handle} {calls : List (Call τ υ)} {handle : Handle}

/-- A partition that main stands in for while clients are not kept apart, and that is no longer being
started. -/
def Established (run : Run φ σ τ υ) (handle : Handle) : Prop :=
  handle.id.setAside = true ∧
    ∃ stage locked, run.stage? handle = some (stage, locked) ∧ stage ≠ .creating

def afresh (run : Run φ σ τ υ) : Run φ σ τ υ :=
  { run with outside := { run.outside with points := [] } }

structure Undisturbed (busy : List Handle) (run : Run φ σ τ υ) (calls : List (Call τ υ))
    (after : Run φ σ τ υ) : Prop where
  stretch : Stretch (fun handle => calls.flatMap (·.stores handle)) run after
  policy : after.policy = run.policy
  spared : ∀ {handle}, handle.id.setAside = true → after.partition? handle = run.partition? handle
  unbuilt : ∀ id, after.partitions.next id = run.partitions.next id
  multihome : Established run (wellKnown .multihome)
  ready : ∀ {handle client}, handle.id = .client client → run.isReady handle = true →
    Established run handle
  later : ∀ (script : Script τ υ) {sequels}, Due busy run.outside.moments sequels →
    (run.afresh.goOnAll script sequels).stuck = false →
      RunsAgreeOnKept (Established run) (run.afresh.goOnAll script sequels)
        (after.afresh.goOnAll script sequels)

omit [StoreFactory φ σ] [Backdoor φ σ τ υ] in
theorem Filled.agree {entries : Handle → List (Hash × Entry)} (filled : Filled entries run after)
    (policy : after.policy = run.policy)
    (spared : ∀ {handle}, handle.id.setAside = true →
      after.partition? handle = run.partition? handle) :
    AgreeOnKept (Established run) run after := by
  have frame := filled.frame
  refine ⟨by rw [frame], by rw [frame], policy, by rw [frame], by rw [frame], filled.stage?,
    And.right, fun {handle} preserved => ?_⟩
  apply spared
  rcases preserved with established | ⟨client, locked, named, -⟩
  · exact established.1
  · rw [named]
    rfl

omit [PartitionStore σ] [StoreFactory φ σ] [Backdoor φ σ τ υ] in
theorem established_of_ready {client : Hash} (named : handle.id = .client client)
    (ready : run.isReady handle = true) : Established run handle := by
  refine ⟨by rw [named]; rfl, ?_⟩
  unfold isReady at ready
  split at ready
  · rename_i partition stands
    refine ⟨.ready, partition.locked, ?_, nofun⟩
    rw [Directory.stage?, stands, ← of_decide_eq_true ready]
    rfl
  · cases ready

theorem Reached.established_multihome (reached : Reached busy run) :
    Established run (wellKnown .multihome) := by
  refine ⟨rfl, _, _, reached.anchored.stage .multihome, ?_⟩
  split <;> nofun

/-- Calls that reach partitions by id while clients are not kept apart leave the partitions of clients
and multihome alone, now and later. -/
theorem interlude_undisturbed (reached : Reached busy run) (apart : run.isolated = true)
    (byIds : (run.make (.quiet 0) (.setIsolation false)).byIds [] calls = true)
    (surroundings : Surroundings φ σ (Journal φ σ τ υ)) :
    Undisturbed busy run calls (run.makeAll surroundings (interlude calls)) := by
  obtain ⟨alone, stretch, policy, nothing⟩ := sojourn_interlude byIds
  rw [alone]
  generalize run.makeAll (.quiet 0) (interlude calls) = after at *
  have same : after.policy = run.policy := policy.trans (congrArg IsolationPolicy.mk apart).symm
  have spared {handle : Handle} (aside : handle.id.setAside = true) :
      after.partition? handle = run.partition? handle := by
    rw [stretch.filled.partition?, nothing aside]
    exact Option.map_id_apply
  constructor
  case stretch => exact stretch
  case policy => exact same
  case spared => exact spared
  case unbuilt => exact stretch.filled.next
  case multihome => exact reached.established_multihome
  case ready => exact established_of_ready
  case later =>
    intro script sequels due unstuck
    have runs : RunsAgreeOnKept (Established run) run.afresh after.afresh :=
      ⟨{ stretch.filled.agree same spared with }, stretch.moments, .nil⟩
    have orderly : Orderly busy run.afresh.shape :=
      reached.orderly.congr rfl rfl rfl
    exact due.runs ⟨runs, orderly, rfl⟩ reached.covered unstuck

def welcomed : Run MemoryFactory MemoryStore Tuning Blinding :=
  plainRun.makeAll (others eager 0 0) [.resolve (some (.client newcomer))]

def beacon : Router := ⟨someone, [], true, 0⟩

def misdirected : List (Call Tuning Blinding) :=
  [.resolve (some (.client newcomer)), .insert (wellKnown .main) someone (.router beacon)]

theorem interlude_misdirected :
    Reached [] welcomed ∧ welcomed.isolated = true ∧
      (welcomed.make (.quiet 0) (.setIsolation false)).byIds [] misdirected = true ∧
      Undisturbed [] welcomed misdirected
        (welcomed.makeAll (others eager 0 2) (interlude misdirected)) := by
  have reached : Reached [] welcomed := built_plainRun.reached.makeAll (by decide +kernel)
  have apart : welcomed.isolated = true := by decide +kernel
  have byIds : (welcomed.make (.quiet 0) (.setIsolation false)).byIds [] misdirected = true := by
    decide +kernel
  exact ⟨reached, apart, byIds, interlude_undisturbed reached apart byIds (others eager 0 2)⟩

def renewed (calls : List (Call Tuning Blinding)) : Run MemoryFactory MemoryStore Tuning Blinding :=
  welcomed.makeAll (others eager 0 0)
    (calls ++ [.removeClient newcomer, .resolve (some (.client newcomer))])

/-- The interlude comes while the newcomer's partition is being started, or there is none. -/
def distracted (calls : List (Call Tuning Blinding)) :
    Run MemoryFactory MemoryStore Tuning Blinding :=
  let habit : Habit MemoryFactory MemoryStore Tuning Blinding
    | .startup _, _ => calls
    | _, _ => []
  plainRun.makeAll (others habit 0 1) [.resolve (some (.client newcomer))]

/-- What was stored during an interlude comes with the seed to a client that was tracked before, if
its partition is made anew or was still being started. -/
theorem interlude_noticed :
    (welcomed.isolated = true ∧ welcomed.tracked? newcomer = some ⟨.client newcomer, 0⟩ ∧
      (welcomed.make (.quiet 0) (.setIsolation false)).byIds [] misdirected = true ∧
      (renewed (interlude misdirected)).existing? (.client newcomer) =
        some ⟨.client newcomer, 1⟩ ∧
      (renewed []).existing? (.client newcomer) = some ⟨.client newcomer, 1⟩ ∧
      (renewed (interlude misdirected)).lookup ⟨.client newcomer, 1⟩ someone =
        some (.router beacon) ∧
      (renewed []).lookup ⟨.client newcomer, 1⟩ someone = none) ∧
    (distracted (interlude misdirected)).lookup ⟨.client newcomer, 0⟩ someone =
      some (.router beacon) ∧
    (distracted []).lookup ⟨.client newcomer, 0⟩ someone = none := by
  decide +kernel

end PeerDirectory.Directory

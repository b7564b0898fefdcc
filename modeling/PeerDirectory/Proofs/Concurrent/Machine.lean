import PeerDirectory.Proofs.Concurrent.Effects
import PeerDirectory.Proofs.Concurrent.Steps

/-!
A directory that several threads call at once, each for the partition of the same client. The
threads take their steps in any order; every step is one by the rules.
-/

namespace PeerDirectory

structure Machine (φ σ γ : Type) (n : Nat) where
  directory : Directory φ σ γ
  phases : Fin n → Phase
  attempts : List (Attempt n)
  stale : Fin n → List Handle

namespace Machine

variable {φ σ γ : Type} {n : Nat}

def idle (directory : Directory φ σ γ) (n : Nat) : Machine φ σ γ n :=
  ⟨directory, fun _ => .route, [], fun _ => []⟩

def view (machine : Machine φ σ γ n) (client : Hash) : View n :=
  ⟨machine.directory.stage?, machine.directory.tracked? client, machine.phases, machine.attempts,
    machine.stale⟩

variable [PartitionStore σ] [StoreFactory φ σ]

def tried (machine : Machine φ σ γ n) (thread : Fin n) : List (Attempt n) :=
  match machine.phases thread with
  | .startup handle =>
    ⟨thread, handle, (machine.directory.startStore (.quiet 0) handle).1⟩ :: machine.attempts
  | _ => machine.attempts

omit [PartitionStore σ] [StoreFactory φ σ] in
def dropped (machine : Machine φ σ γ n) (thread : Fin n) : Fin n → List Handle :=
  match machine.phases thread with
  | .retry handle => Function.update machine.stale thread (handle :: machine.stale thread)
  | _ => machine.stale

def step (machine : Machine φ σ γ n) (client : Hash) (thread : Fin n) :
    Option (Machine φ σ γ n) :=
  (machine.directory.advance client (machine.phases thread)).map fun moved =>
    { directory := moved.2
      phases := Function.update machine.phases thread moved.1
      attempts := machine.tried thread
      stale := machine.dropped thread }

def run (machine : Machine φ σ γ n) (client : Hash) : List (Fin n) → Option (Machine φ σ γ n)
  | [] => some machine
  | thread :: rest => (machine.step client thread).bind fun next => next.run client rest

section Rules

variable {machine next : Machine φ σ γ n} {client : Hash} {fresh : Handle → Prop} {thread : Fin n}
  {directory : Directory φ σ γ} {handle : Handle}

omit [PartitionStore σ] [StoreFactory φ σ]

theorem tracked?_of_clients {a b : Directory φ σ γ} (same : a.clients = b.clients) :
    a.tracked? client = b.tracked? client := by
  rw [← Directory.find?_clients, same, Directory.find?_clients]

theorem view_goto (same : directory.shape = machine.directory.shape) (phase : Phase)
    (attempts : List (Attempt n)) (stale : Fin n → List Handle) :
    view ⟨directory, Function.update machine.phases thread phase, attempts, stale⟩ client =
      View.goto { machine.view client with attempts, stale } thread phase := by
  have stages : directory.stage? = machine.directory.stage? := congrArg Directory.Shape.stages same
  have clients : directory.clients = machine.directory.clients :=
    congrArg Directory.Shape.clients same
  simp only [view, View.goto, stages, tracked?_of_clients clients]

theorem view_setStage {stage : Lifecycle × Bool}
    (moved : directory.shape =
      { machine.directory.shape with
        stages := Function.update machine.directory.stage? handle (some stage) })
    (phase : Phase) :
    view ⟨directory, Function.update machine.phases thread phase, machine.attempts,
        machine.stale⟩ client =
      ((machine.view client).setStage handle stage).goto thread phase := by
  have stages : directory.stage? =
      Function.update machine.directory.stage? handle (some stage) :=
    congrArg Directory.Shape.stages moved
  have clients : directory.clients = machine.directory.clients :=
    congrArg Directory.Shape.clients moved
  simp only [view, View.goto, View.setStage, stages, tracked?_of_clients clients]

theorem view_track {clients : Clients} {tracked : Option Handle}
    (moved : directory.shape = { machine.directory.shape with clients })
    (names : clients.find? client = tracked) (phase : Phase) :
    view ⟨directory, Function.update machine.phases thread phase, machine.attempts,
        machine.stale⟩ client =
      ((machine.view client).track tracked).goto thread phase := by
  have stages : directory.stage? = machine.directory.stage? :=
    congrArg Directory.Shape.stages moved
  have same : directory.clients = clients := congrArg Directory.Shape.clients moved
  have found : directory.tracked? client = tracked := by
    rw [← Directory.find?_clients, same, names]
  simp only [view, View.goto, View.track, stages, found]

theorem stage?_of_isReady (ready : directory.isReady handle = true) :
    ∃ locked, directory.stage? handle = some (.ready, locked) := by
  unfold Directory.isReady at ready
  cases here : directory.partition? handle with
  | none => simp [here] at ready
  | some partition =>
    simp only [here, decide_eq_true_eq] at ready
    exact ⟨partition.locked, by simp [Directory.stage?, here, ready]⟩

variable [PartitionStore σ] [StoreFactory φ σ]

theorem advanced_of_step {phase : Phase} (here : machine.phases thread = phase)
    (stepped : machine.step client thread = some next) :
    ∃ after directory, machine.directory.advance client phase = some (after, directory) ∧
      next = ⟨directory, Function.update machine.phases thread after, machine.tried thread,
        machine.dropped thread⟩ := by
  obtain ⟨moved, advanced, rfl⟩ := Option.map_eq_some_iff.mp stepped
  exact ⟨moved.1, moved.2, here ▸ advanced, rfl⟩

theorem next_of_advance {phase after : Phase} (here : machine.phases thread = phase)
    (advanced : machine.directory.advance client phase = some (after, directory))
    (stepped : machine.step client thread = some next) :
    next = ⟨directory, Function.update machine.phases thread after, machine.tried thread,
      machine.dropped thread⟩ := by
  obtain ⟨found, reached, moved, rfl⟩ := advanced_of_step here stepped
  cases advanced.symm.trans moved
  rfl

theorem act_of_turn {phase after : Phase} (here : machine.phases thread = phase)
    (turn : View.Turn (machine.view client) phase after)
    (advanced : machine.directory.advance client phase = some (after, directory))
    (same : directory.shape = machine.directory.shape)
    (stepped : machine.step client thread = some next) :
    View.Act client (machine.view client) thread (next.view client) := by
  -- The moves that change nothing else are neither attempts nor the end of a turn.
  have untried : machine.tried thread = machine.attempts := by
    cases turn <;> simp only [tried, here]
  have kept : machine.dropped thread = machine.stale := by
    cases turn <;> simp only [dropped, here]
  rw [next_of_advance here advanced stepped, untried, kept, view_goto same]
  exact .turn here turn

theorem act_of_enroll (sound : View.Sound client fresh (machine.view client)) {candidate : Handle}
    (here : machine.phases thread = .enroll candidate)
    (stepped : machine.step client thread = some next) :
    View.Act client (machine.view client) thread (next.view client) := by
  cases tracked : machine.directory.tracked? client with
  | some handle =>
    have advanced : machine.directory.advance client (.enroll candidate) = some (.glance handle,
        (machine.directory.countOne .races).note (.lostRace (.client client))) := by
      simp [Directory.advance, Directory.enroll, tracked]
    exact act_of_turn here (.lose tracked) advanced rfl stepped
  | none =>
    have advanced : machine.directory.advance client (.enroll candidate) = some (.glance candidate,
        { machine.directory with
          clients := machine.directory.clients.insert client
            ⟨.client client, candidate.generation⟩ rfl }.publish (.quiet 0)) := by
      simp [Directory.advance, Directory.enroll, tracked]
    rw [next_of_advance here advanced stepped]
    simp only [tried, dropped, here]
    have own : (machine.phases thread).handle? = some candidate := by rw [here]; rfl
    have named : candidate.id = .client client := sound.named own
    have entered : (machine.directory.clients.insert client
        ⟨.client client, candidate.generation⟩ rfl).find? client = some candidate := by
      rw [Clients.find?_insert, if_pos rfl, ← named]
    rw [view_track ?_ entered]
    · exact .enroll here tracked
    · rfl

theorem act_of_acquire (sound : View.Sound client fresh (machine.view client)) {found : Handle}
    (here : machine.phases thread = .acquire found)
    (stepped : machine.step client thread = some next) :
    View.Act client (machine.view client) thread (next.view client) := by
  obtain ⟨met, -⟩ := sound.fits_of here
  obtain ⟨stage, stands⟩ := sound.stands_of_met met
  obtain ⟨partition, present, rfl⟩ := Option.map_eq_some_iff.mp stands
  cases locked : partition.locked with
  | true =>
    have waits : machine.directory.advance client (.acquire found) = none := by
      simp [Directory.advance, present, locked]
    simp [step, here, waits] at stepped
  | false =>
    have advanced : machine.directory.advance client (.acquire found) =
        some (.inspect found, machine.directory.setLocked found true) := by
      simp [Directory.advance, present, locked]
    rw [next_of_advance here advanced stepped]
    simp only [tried, dropped, here]
    rw [locked] at stands
    rw [view_setStage (Directory.shape_setLocked_of stands true)]
    exact .acquire here stands

theorem act_of_inspect (sound : View.Sound client fresh (machine.view client)) {found : Handle}
    (here : machine.phases thread = .inspect found)
    (stepped : machine.step client thread = some next) :
    View.Act client (machine.view client) thread (next.view client) := by
  obtain ⟨⟨stage, stands⟩, -⟩ := sound.fits_of here
  have come : machine.directory.lifecycle? found = some stage := by
    obtain ⟨partition, present, same⟩ := Option.map_eq_some_iff.mp stands
    have reached : partition.lifecycle = stage := congrArg Prod.fst same
    simp [Directory.lifecycle?, present, reached]
  cases stage with
  | ready => exact act_of_turn here (.join stands) (by simp [Directory.advance, come]) rfl stepped
  | shutDown =>
    exact act_of_turn here (.leave stands) (by simp [Directory.advance, come]) rfl stepped
  | creating =>
    exact act_of_turn here (.begin stands) (by simp [Directory.advance, come]) rfl stepped

theorem act_of_load (here : machine.phases thread = .load)
    (stepped : machine.step client thread = some next) :
    View.Act client (machine.view client) thread (next.view client) := by
  cases tracked : machine.directory.tracked? client with
  | some found =>
    exact act_of_turn here (.find tracked) (by simp [Directory.advance, tracked]) rfl stepped
  | none =>
    exact act_of_turn here (.miss tracked) (by simp [Directory.advance, tracked]) rfl stepped

theorem act_of_glance {found : Handle} (here : machine.phases thread = .glance found)
    (stepped : machine.step client thread = some next) :
    View.Act client (machine.view client) thread (next.view client) := by
  cases ready : machine.directory.isReady found with
  | true =>
    obtain ⟨locked, stands⟩ := stage?_of_isReady ready
    exact act_of_turn here (.take stands) (by simp [Directory.advance, ready]) rfl stepped
  | false => exact act_of_turn here .wait (by simp [Directory.advance, ready]) rfl stepped

theorem act_of_shut (sound : View.Sound client fresh (machine.view client)) {found : Handle}
    {failed : Option Failure} (here : machine.phases thread = .shut found failed)
    (stepped : machine.step client thread = some next) :
    View.Act client (machine.view client) thread (next.view client) := by
  obtain ⟨creating, -, failure, rfl, -⟩ := sound.fits_of here
  rw [next_of_advance here rfl stepped]
  simp only [tried, dropped, here]
  have marked : ((machine.directory.setLifecycle found .shutDown).note
      (.failedToStart found.id failure)).shape = _ :=
    Directory.shape_setLifecycle_of creating .shutDown
  rw [view_setStage marked]
  exact .shut here

theorem act_of_retry (sound : View.Sound client fresh (machine.view client)) {found : Handle}
    (here : machine.phases thread = .retry found)
    (stepped : machine.step client thread = some next) :
    View.Act client (machine.view client) thread (next.view client) := by
  obtain ⟨⟨locked, down⟩, -⟩ := sound.fits_of here
  have same : machine.directory.unregister (.quiet 0) client found = machine.directory :=
    if_neg (sound.not_tracked_of_down down)
  rw [next_of_advance here rfl stepped]
  simp only [tried, dropped, here]
  rw [same]
  exact .retry here

theorem act_of_step (sound : View.Sound client fresh (machine.view client))
    (opened : machine.directory.closed = false) (isolated : machine.directory.isolated = true)
    (stepped : machine.step client thread = some next) :
    View.Act client (machine.view client) thread (next.view client) := by
  cases here : machine.phases thread with
  | route =>
    exact act_of_turn here .route (by simp [Directory.advance, isolated]) rfl stepped
  | check => exact act_of_turn here .check (by simp [Directory.advance, opened]) rfl stepped
  | load => exact act_of_load here stepped
  | create =>
    rw [next_of_advance here rfl stepped]
    simp only [tried, dropped, here]
    rw [view_setStage (Directory.shape_build_quiet _ 0 _)]
    exact .create here rfl (Directory.stage?_next _)
  | enroll candidate => exact act_of_enroll sound here stepped
  | glance found => exact act_of_glance here stepped
  | acquire found => exact act_of_acquire sound here stepped
  | inspect found => exact act_of_inspect sound here stepped
  | recheck found =>
    exact act_of_turn here .recheck (by simp [Directory.advance, opened]) rfl stepped
  | startup found =>
    rw [next_of_advance here rfl stepped]
    simp only [tried, dropped, here]
    rw [view_goto (Directory.shape_startStore_quiet _ _ _)]
    exact .startup _ here
  | seed found => exact act_of_turn here .seed rfl (Directory.shape_seed _ _) stepped
  | ready found =>
    rw [next_of_advance here rfl stepped]
    simp only [tried, dropped, here]
    have marked : (((machine.directory.setLifecycle found .ready).countOne
        (.created found.id.kind)).note (.created found.id)).shape = _ :=
      Directory.shape_setLifecycle_of (sound.fits_of here).1 .ready
    rw [view_setStage marked]
    exact .ready here
  | strike found failed =>
    rw [next_of_advance here rfl stepped]
    simp only [tried, dropped, here]
    have tracked := (sound.fits_of here).2.1
    rw [view_track (Directory.shape_unregister_quiet 0 tracked)
      (Clients.find?_erase.trans (if_pos rfl))]
    exact .strike here
  | shut found failed => exact act_of_shut sound here stepped
  | release found result =>
    rw [next_of_advance here rfl stepped]
    simp only [tried, dropped, here]
    have holds : (machine.phases thread).held? = some found := by rw [here]; rfl
    obtain ⟨stage, stands⟩ := sound.locked holds
    rw [view_setStage (Directory.shape_setLocked_of stands false)]
    exact .release here stands
  | retry found => exact act_of_retry sound here stepped
  | done result =>
    have ended : machine.directory.advance client (.done result) = none := rfl
    simp [step, here, ended] at stepped

end Rules

end Machine

end PeerDirectory

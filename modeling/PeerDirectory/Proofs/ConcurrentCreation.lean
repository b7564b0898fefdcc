import PeerDirectory.Proofs.Concurrent.Stores
import PeerDirectory.Proofs.Run.Start
import PeerDirectory.Proofs.Vitals

namespace PeerDirectory

namespace Machine

variable {φ σ γ : Type} {n : Nat} {initial : Directory φ σ γ} {client : Hash}
  {machine : Machine φ σ γ n} {handle : Handle}

theorem clients_of_tracked {directory : Directory φ σ γ}
    (others : directory.clients.erase client = initial.clients.erase client)
    (before : initial.tracked? client = none) (tracked : directory.tracked? client = some handle) :
    directory.clients =
      initial.clients.insert client handle (Directory.id_of_tracked? tracked) := by
  rw [← Clients.erase_of_untracked before, ← others, Clients.insert_erase_of_tracked tracked]

theorem clients_of_untracked {directory : Directory φ σ γ}
    (others : directory.clients.erase client = initial.clients.erase client)
    (before : initial.tracked? client = none) (untracked : directory.tracked? client = none) :
    directory.clients = initial.clients := by
  rwa [Clients.erase_of_untracked untracked, Clients.erase_of_untracked before] at others

variable [PartitionStore σ] [StoreFactory φ σ]

/-- All calls have ended with one partition. It is ready, its store is the only one that was
started, and it is all that is tracked besides what was before. -/
structure AllFound (initial : Directory φ σ γ) (client : Hash) (machine : Machine φ σ γ n)
    (handle : Handle) : Prop where
  answers : ∀ thread, machine.phases thread = .done (.ok handle)
  ready : machine.directory.isReady handle = true
  fresh : initial.stage? handle = none
  started : ∃ store, machine.directory.store? handle = some store ∧
    StartedOnce (made initial handle client) (.ok ()) store
  only : OnlyStarted initial client machine.directory [handle]
  starter : ∃ thread, machine.attempts = [⟨thread, handle, .ok ()⟩]
  named : handle.id = .client client
  entered : machine.directory.clients = initial.clients.insert client handle named

/-- All calls have ended because a store did not start. Each of them tried to start one store, its
own, and nothing is tracked that was not before. -/
structure AllRefused (initial : Directory φ σ γ) (client : Hash) (machine : Machine φ σ γ n)
    (own : Fin n → Handle) : Prop where
  answers : ∀ thread, ∃ reason store,
    machine.phases thread = .done (.error (.startup (.client client) reason)) ∧
    machine.directory.store? (own thread) = some store ∧
    StartedOnce (made initial (own thread) client) (.error (.startup (.client client) reason)) store
  fresh : ∀ thread, initial.stage? (own thread) = none
  apart : Function.Injective own
  only : OnlyStarted initial client machine.directory (List.ofFn own)
  tried : (machine.attempts.map (·.thread)).Perm (List.finRange n)
  failed : ∀ attempt ∈ machine.attempts, ∃ reason,
    attempt.result = .error (.startup (.client client) reason)
  untracked : machine.directory.tracked? client = none
  clients : machine.directory.clients = initial.clients

section Started

variable (course : Course initial client machine) (traced : Traced initial client machine)
  (makes : Makes (· = .ok ()) client initial.factory)

include course traced makes

theorem turns_of_started (thread : Fin n) : (machine.view client).turns thread = 1 := by
  have nothing : machine.stale thread = [] := by
    apply List.eq_nil_iff_forall_not_mem.mpr
    intro handle stale
    obtain ⟨⟨locked, down⟩, attempt, member, rfl, -⟩ := course.sound.stale stale
    have started := traced.outcome makes attempt member
    -- A thread begins another turn only after a failure, and there was none.
    exact course.sound.not_tracked_of_down down (course.sound.succeeded attempt member started)
  simp [View.turns, view, nothing]

theorem tracked_of_started {thread : Fin n} {result : Except Failure Handle}
    (ended : machine.phases thread = .done result) :
    ∃ handle, result = .ok handle ∧ machine.directory.tracked? client = some handle ∧
      (∃ locked, machine.directory.stage? handle = some (.ready, locked)) ∧
      ∃ attempt ∈ machine.attempts, attempt.handle = handle := by
  have fits := course.sound.fits_of ended
  cases result with
  | error failure =>
    obtain ⟨handle, member⟩ := fits
    cases traced.outcome makes _ member
  | ok handle =>
    obtain ⟨locked, ready⟩ := fits
    have about : ((machine.view client).phases thread).handle? = some handle :=
      congrArg Phase.handle? ended
    obtain ⟨attempt, member, rfl, started⟩ :=
      course.sound.ready (course.sound.about about) ready
    exact ⟨attempt.handle, rfl, course.sound.succeeded attempt member started, ⟨locked, ready⟩,
      attempt, member, rfl⟩

theorem allFound_of_ended (positive : 0 < n) (untracked : initial.tracked? client = none)
    (ended : ∀ thread, ∃ result, machine.phases thread = .done result) :
    ∃ handle, AllFound initial client machine handle := by
  obtain ⟨first, answered⟩ := ended ⟨0, positive⟩
  obtain ⟨handle, rfl, tracked, ⟨locked, ready⟩, attempt, member, about⟩ :=
    tracked_of_started course traced makes answered
  -- Every attempt succeeded, so all of them were at the one partition that is tracked.
  have single : machine.attempts = [attempt] := by
    have only : ∀ other ∈ machine.attempts, other = attempt := by
      intro other listed
      have named := course.sound.succeeded other listed (traced.outcome makes other listed)
      have same : other.handle = attempt.handle :=
        (Option.some.inj (named.symm.trans tracked)).trans about.symm
      exact course.sound.attempt_unique listed member same
    have distinct : machine.attempts.Nodup := course.sound.handles.of_map
    refine List.perm_singleton.mp ((List.perm_ext_iff_of_nodup distinct (by simp)).mpr ?_)
    intro other
    refine ⟨fun listed => List.mem_singleton.mpr (only other listed), fun listed => ?_⟩
    exact List.mem_singleton.mp listed ▸ member
  subst about
  have result := traced.outcome makes attempt member
  refine ⟨attempt.handle, ?_⟩
  constructor
  case answers =>
    intro thread
    obtain ⟨result, answer⟩ := ended thread
    obtain ⟨other, rfl, found, -⟩ := tracked_of_started course traced makes answer
    obtain rfl := Option.some.inj (tracked.symm.trans found)
    exact answer
  case ready => simp [Directory.isReady_iff ready]
  case fresh => exact traced.fresh attempt member
  case started => exact result ▸ traced.tried attempt member
  case only =>
    have only := traced.onlyStarted course
    rwa [single] at only
  case starter => exact ⟨attempt.thread, by rw [single, ← result]⟩
  case named => exact Directory.id_of_tracked? tracked
  case entered => exact clients_of_tracked course.others untracked tracked

end Started

section Failed

variable (course : Course initial client machine) (traced : Traced initial client machine)
  (makes : Makes (fun result => ∃ reason, result = .error (.startup (.client client) reason)) client
    initial.factory)

include course traced makes

theorem not_ready_of_failed {locked : Bool} (young : initial.stage? handle = none) :
    machine.directory.stage? handle ≠ some (.ready, locked) := by
  intro ready
  obtain ⟨attempt, member, -, started⟩ := course.sound.ready young ready
  obtain ⟨reason, failed⟩ := traced.outcome makes attempt member
  cases started.symm.trans failed

theorem attempt_of_failed {thread : Fin n} {result : Except Failure Handle}
    (ended : machine.phases thread = .done result) :
    ∃ reason handle, result = .error (.startup (.client client) reason) ∧
      (⟨thread, handle, .error (.startup (.client client) reason)⟩ : Attempt n) ∈
        machine.attempts := by
  have fits := course.sound.fits_of ended
  cases result with
  | error failure =>
    obtain ⟨handle, member⟩ := fits
    obtain ⟨reason, failed⟩ := traced.outcome makes _ member
    cases failed
    exact ⟨reason, handle, rfl, member⟩
  | ok handle =>
    obtain ⟨locked, ready⟩ := fits
    have about : ((machine.view client).phases thread).handle? = some handle :=
      congrArg Phase.handle? ended
    exact absurd ready (not_ready_of_failed course traced makes (course.sound.about about))

theorem refused_of_ended (untracked : initial.tracked? client = none)
    (ended : ∀ thread, ∃ result, machine.phases thread = .done result) :
    ∃ own, AllRefused initial client machine own := by
  have gone : machine.directory.tracked? client = none := by
    cases tracked : machine.directory.tracked? client with
    | none => rfl
    | some handle =>
      obtain ⟨⟨-, young⟩, -, ⟨locked, ready⟩ | ⟨-, thread, names⟩⟩ := course.sound.tracked tracked
      · exact absurd ready (not_ready_of_failed course traced makes young)
      · -- A thread that has ended with a failure is about no partition any more.
        obtain ⟨result, answer⟩ := ended thread
        obtain ⟨reason, _, rfl, -⟩ := attempt_of_failed course traced makes answer
        rw [show (machine.view client).phases thread = _ from answer] at names
        cases names
  have each (thread : Fin n) : ∃ handle reason,
      machine.phases thread = .done (.error (.startup (.client client) reason)) ∧
        (⟨thread, handle, .error (.startup (.client client) reason)⟩ : Attempt n) ∈
          machine.attempts := by
    obtain ⟨result, answer⟩ := ended thread
    obtain ⟨reason, handle, rfl, member⟩ := attempt_of_failed course traced makes answer
    exact ⟨handle, reason, answer, member⟩
  choose own reason answers member using each
  have tried : (machine.attempts.map (·.thread)).Perm (List.finRange n) := by
    apply (List.perm_ext_iff_of_nodup course.sound.threads (List.nodup_finRange n)).mpr
    intro thread
    exact ⟨fun _ => List.mem_finRange thread, fun _ => List.mem_map.mpr ⟨_, member thread, rfl⟩⟩
  -- No thread made two attempts, so the one it remembers is at its own store.
  have owned : machine.attempts.map (·.handle) =
      (machine.attempts.map (·.thread)).map own := by
    rw [List.map_map]
    refine List.map_congr_left fun attempt listed => ?_
    exact congrArg Attempt.handle
      (List.inj_on_of_nodup_map course.sound.threads listed (member attempt.thread) rfl)
  refine ⟨own, ?_⟩
  constructor
  case answers =>
    intro thread
    obtain ⟨store, present, once⟩ := traced.tried _ (member thread)
    exact ⟨reason thread, store, answers thread, present, once⟩
  case fresh => exact fun thread => traced.fresh _ (member thread)
  case apart =>
    intro thread other same
    exact congrArg Attempt.thread
      (course.sound.attempt_unique (member thread) (member other) same)
  case only =>
    refine (traced.onlyStarted course).perm ?_
    rw [owned, List.ofFn_eq_map]
    exact tried.map own
  case tried => exact tried
  case failed => exact traced.outcome makes
  case untracked => exact gone
  case clients => exact clients_of_untracked course.others untracked gone

end Failed

omit [PartitionStore σ] [StoreFactory φ σ] in
theorem remaining_idle (positive : 0 < n) :
    ((idle initial n).view client).remaining = n * (13 * n + 1) := by
  have each (thread : Fin n) : ((idle initial n).view client).ahead thread = 13 * n + 1 := by
    simp only [View.ahead, View.turns, view, idle, List.length_nil, Phase.rank]
    omega
  simp [View.remaining, each]

/-- How threads fare that call for a client's partition, as far as they took the steps of the
schedule. A thread that takes all its steps alone does what a search does. -/
structure ConcurrentCreation (initial : Directory φ σ γ) (client : Hash) (schedule : List (Fin n))
    (machine : Machine φ σ γ n) : Prop where
  alone : ∀ {directory : Directory φ σ γ} {turns : Nat},
    (directory.resolve (.quiet turns) (some (.client client))).2.stuck = false →
      Directory.Alone client (.route, directory)
        (.done (directory.resolve (.quiet turns) (some (.client client))).1,
          (directory.resolve (.quiet turns) (some (.client client))).2)
  steps : schedule.length ≤ n * (13 * n + 1)
  turns : ∀ thread, (machine.view client).turns thread ≤ n
  ends : (∀ thread, machine.step client thread = none) →
    ∀ thread, ∃ result, machine.phases thread = .done result
  agreed : Makes (· = .ok ()) client initial.factory →
    (∀ thread, (machine.view client).turns thread = 1) ∧
    ((∀ thread, machine.step client thread = none) →
      ∃ handle, AllFound initial client machine handle)
  refused : Makes (fun result => ∃ reason, result = .error (.startup (.client client) reason)) client
      initial.factory →
    (∀ thread, machine.step client thread = none) → ∃ own, AllRefused initial client machine own

/-- Threads call an open directory that keeps clients apart for a client that it does not track,
and nobody else calls it. In whatever order they take their steps, they take finitely many, and
when none of them can take another one, all calls have ended. -/
theorem concurrent_creation (positive : 0 < n) (opened : initial.closed = false)
    (isolated : initial.isolated = true) (untracked : initial.tracked? client = none)
    {schedule : List (Fin n)} (ran : (idle initial n).run client schedule = some machine) :
    ConcurrentCreation initial client schedule machine := by
  have beginning : Course initial client (idle initial n) := course_idle opened isolated untracked
  obtain ⟨course, within⟩ := beginning.run ran
  have traced : Traced initial client machine := (traced_idle initial client n).run beginning ran
  constructor
  case alone => exact Directory.alone_resolve
  case steps =>
    rw [remaining_idle positive] at within
    omega
  case turns => exact course.sound.turns_le
  case ends => exact course.ended
  case agreed =>
    refine fun makes => ⟨turns_of_started course traced makes, fun still => ?_⟩
    exact allFound_of_ended course traced makes positive untracked (course.ended still)
  case refused =>
    exact fun makes still => refused_of_ended course traced makes untracked (course.ended still)

theorem tallies_memory : Tallies MemoryFactory MemoryStore.startups where
  made factory id := congrArg Vitals.startups (factory.vitals_fresh id)
  startup factory id := by
    change (factory.fresh id).startup.2.startups = 1
    rw [factory.fresh_eq]
    cases failing : factory.failing.contains id with
    | true => simp [MemoryStore.startup, MemoryStore.empty]
    | false => simp [MemoryStore.startup, MemoryStore.empty]
  insert store key entry := congrArg Vitals.startups (store.vitals_insert key entry)

theorem makes_memory {outcome : Except Failure Unit → Prop} {factory : MemoryFactory}
    (first : outcome (factory.fresh (.client client)).startup.1) :
    Makes outcome client factory := by
  intro count
  have same : (later client)^[count] factory = factory := Function.iterate_fixed rfl count
  rw [provision, same]
  exact first

section Two

open Directory

def barredRun : Run MemoryFactory MemoryStore Tuning Blinding :=
  (plainRun.perform (.quiet 0) (.tune (.fail (.client someone)))).2

def race : List (Fin 2) := [0, 1, 0, 1, 0, 1, 0, 1, 0, 1, 0, 1] ++ .replicate 7 0

theorem exists_of_halts {ended : Option (Machine φ σ γ 2)}
    (halts : ended.any fun machine => ∀ thread, (machine.step client thread).isNone) :
    ∃ machine, ended = some machine ∧ ∀ thread, machine.step client thread = none := by
  obtain ⟨machine, reached, still⟩ := (Option.any_eq_true _ _).mp halts
  have all := of_decide_eq_true still
  exact ⟨machine, reached, fun thread => Option.isNone_iff_eq_none.mp (all thread)⟩

theorem concurrent_creation_of_two :
    (∃ machine, (idle plainRun 2).run someone (race ++ .replicate 3 1) = some machine ∧
      (∃ handle, AllFound plainRun someone machine handle) ∧
      startups plainRun MemoryStore.startups machine.directory = 1) ∧
    ∃ machine, (idle barredRun 2).run someone (race ++ .replicate 16 1) = some machine ∧
      (∃ own, AllRefused barredRun someone machine own) ∧
      startups barredRun MemoryStore.startups machine.directory = 2 := by
  have works : plainRun.factory.failing.contains (.client someone) = false := by decide +kernel
  have fails : barredRun.factory.failing.contains (.client someone) = true := by decide +kernel
  constructor
  · have halts : ((idle plainRun 2).run someone (race ++ .replicate 3 1)).any fun machine =>
        ∀ thread, (machine.step someone thread).isNone := by decide +kernel
    obtain ⟨machine, ran, still⟩ := exists_of_halts halts
    have creation := concurrent_creation (by decide) (by decide +kernel) (by decide +kernel)
      (by decide +kernel) ran
    have starts : (plainRun.factory.fresh (.client someone)).startup.1 = .ok () := by
      rw [(MemoryFactory.startup_fresh _ _).1, works]
      rfl
    obtain ⟨handle, agreed⟩ := (creation.agreed (makes_memory starts)).2 still
    exact ⟨machine, ran, ⟨handle, agreed⟩, agreed.only.total _ tallies_memory⟩
  · have halts : ((idle barredRun 2).run someone (race ++ .replicate 16 1)).any fun machine =>
        ∀ thread, (machine.step someone thread).isNone := by decide +kernel
    obtain ⟨machine, ran, still⟩ := exists_of_halts halts
    have creation := concurrent_creation (by decide) (by decide +kernel) (by decide +kernel)
      (by decide +kernel) ran
    have refuses : (barredRun.factory.fresh (.client someone)).startup.1 =
        .error (.startup (.client someone) "startup refused") := by
      rw [(MemoryFactory.startup_fresh _ _).1, fails]
      rfl
    obtain ⟨own, refused⟩ := creation.refused (makes_memory ⟨_, refuses⟩) still
    exact ⟨machine, ran, ⟨own, refused⟩, refused.only.total _ tallies_memory⟩

end Two

end Machine

end PeerDirectory

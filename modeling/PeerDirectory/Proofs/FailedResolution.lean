import PeerDirectory.Proofs.Mirror.Run
import PeerDirectory.Proofs.Directory.Sowing
import PeerDirectory.Proofs.Run.Anchored

namespace PeerDirectory

namespace Directory

section Effects

variable {φ σ γ : Type} [PartitionStore σ] [StoreFactory φ σ] {directory : Directory φ σ γ}
  {client : Hash} {handle : Handle}

theorem pursuit_of_untracked (untracked : directory.tracked? client = none)
    (opened : directory.closed = false) (turns : Nat) :
    Pursuit (.quiet turns) client directory
      (((directory.launch client).settle client
          (directory.partitions.next (.client client))).1.map
            fun _ => directory.partitions.next (.client client))
      ((directory.launch client).settle client
        (directory.partitions.next (.client client))).2 :=
  .started opened untracked rfl untracked opened rfl rfl
    ((congrArg Shape.closed (shape_launch untracked)).trans opened)

theorem pursuit_quiet (orderly : Orderly [] directory.shape) (turns : Nat) :
    (directory.closed = true ∧
      Pursuit (.quiet turns) client directory (.error .closed) directory) ∨
    (∃ handle, Pursuit (.quiet turns) client directory (.ok handle) directory) ∨
    (directory.closed = false ∧ directory.tracked? client = none ∧
      Pursuit (.quiet turns) client directory
        (((directory.launch client).settle client
            (directory.partitions.next (.client client))).1.map
              fun _ => directory.partitions.next (.client client))
        ((directory.launch client).settle client
          (directory.partitions.next (.client client))).2) := by
  cases closed : directory.closed with
  | true => exact Or.inl ⟨rfl, .refused closed⟩
  | false =>
    refine Or.inr ?_
    cases tracked : directory.tracked? client with
    | some handle =>
      have ready := (orderly.tracked tracked).resolve_right List.not_mem_nil
      exact Or.inl ⟨handle, .standing closed tracked ready⟩
    | none => exact Or.inr ⟨rfl, rfl, pursuit_of_untracked tracked closed turns⟩

theorem resolve_of_untracked (untracked : directory.tracked? client = none)
    (opened : directory.closed = false) (isolated : directory.isolated = true) (turns : Nat) :
    directory.resolve (.quiet (turns + 1)) (some (.client client)) =
      (((directory.launch client).settle client
          (directory.partitions.next (.client client))).1.map
            fun _ => directory.partitions.next (.client client),
        ((directory.launch client).settle client
          (directory.partitions.next (.client client))).2) := by
  have looks : directory.resolve (.quiet (turns + 1)) (some (.client client)) =
      clientWithin (.quiet (turns + 1)) client (turns + 1) directory := if_pos isolated
  rw [looks, (pursuit_of_untracked untracked opened (turns + 1)).clientWithin fun _ => rfl]

end Effects

section Search

variable {γ : Type} {directory : Directory MemoryFactory MemoryStore γ} {client : Hash}

/-- A directory where one more partition was built for a client and did not start. -/
def burdened (directory : Directory MemoryFactory MemoryStore γ) (client : Hash)
    (store : MemoryStore) : Directory MemoryFactory MemoryStore γ :=
  { directory with
    partitions := directory.partitions.add (.client client) ⟨store, .shutDown, false⟩
    metrics := directory.metrics.set .clientPartitions directory.clients.size
    log := .failedToStart (.client client) (.startup (.client client) "startup refused") ::
      directory.log }

theorem settle_launch_cases (untracked : directory.tracked? client = none)
    (opened : directory.closed = false) :
    (directory.factory.failing.contains (.client client) = false ∧
      (directory.launch client).settle client (directory.partitions.next (.client client)) =
        (.ok true, directory.grown client)) ∨
    directory.factory.failing.contains (.client client) = true ∧
      ∃ store, store.isInitialized = false ∧
        (directory.launch client).settle client (directory.partitions.next (.client client)) =
          (.error (.startup (.client client) "startup refused"),
            directory.burdened client store) := by
  obtain ⟨result, uninitialized⟩ :=
    directory.factory.startup_fresh (.client client)
  cases failing : directory.factory.failing.contains (.client client) with
  | false =>
    rw [failing] at result
    exact Or.inl ⟨rfl, grow_eq untracked opened result⟩
  | true =>
    have failed : (PartitionStore.startup
        (StoreFactory.make directory.factory (.client client)).1).1 =
          .error (.startup (.client client) "startup refused") := by
      rw [failing] at result
      exact result
    refine Or.inr ⟨rfl, _, uninitialized failing, ?_⟩
    rw [fail_eq untracked opened failed, Metrics.set_set]
    rfl

theorem resolve_grown (opened : directory.closed = false) (isolated : directory.isolated = true)
    (untracked : directory.tracked? client = none) {turns : Nat} {handle : Handle}
    (found : (directory.resolve (.quiet (turns + 1)) (some (.client client))).1 = .ok handle) :
    handle = directory.partitions.next (.client client) ∧
      (directory.resolve (.quiet (turns + 1)) (some (.client client))).2 =
        directory.grown client := by
  rw [resolve_of_untracked untracked opened isolated] at found ⊢
  rcases settle_launch_cases untracked opened with ⟨-, grown⟩ | ⟨-, store, -, failed⟩
  · rw [grown] at found ⊢
    exact ⟨(Except.ok.inj found).symm, rfl⟩
  · rw [failed] at found
    cases found

theorem resolve_fails (orderly : Orderly [] directory.shape) {id : Option PartitionId}
    {turns : Nat} {failure : Failure}
    (failed : (directory.resolve (.quiet (turns + 1)) id).1 = .error failure) :
    ∃ client, id = some (.client client) ∧ directory.isolated = true ∧
      directory.tracked? client = none ∧
      (failure = .closed ∧ (directory.resolve (.quiet (turns + 1)) id).2 = directory ∨
        directory.closed = false ∧ failure = .startup (.client client) "startup refused" ∧
          ∃ store, store.isInitialized = false ∧
            (directory.resolve (.quiet (turns + 1)) id).2 = directory.burdened client store) := by
  match id with
  | none => cases failed
  | some (.wellKnown role) => cases failed
  | some (.client client) =>
    simp only [resolve] at failed ⊢
    split at failed
    · rename_i isolated
      rw [if_pos isolated]
      have looks : directory.client (.quiet (turns + 1)) client =
          clientWithin (.quiet (turns + 1)) client (turns + 1) directory := rfl
      rw [looks] at failed ⊢
      refine ⟨client, rfl, isolated, ?_⟩
      rcases @pursuit_quiet _ _ _ _ _ directory client orderly (turns + 1) with
        ⟨closed, pursuit⟩ | ⟨handle, pursuit⟩ | ⟨opened, untracked, pursuit⟩
      · rw [pursuit.clientWithin fun _ => rfl] at failed ⊢
        cases failed
        exact ⟨orderly.closed closed client, Or.inl ⟨rfl, rfl⟩⟩
      · rw [pursuit.clientWithin fun _ => rfl] at failed
        cases failed
      · rw [pursuit.clientWithin fun _ => rfl] at failed ⊢
        refine ⟨untracked, Or.inr ⟨opened, ?_⟩⟩
        rcases settle_launch_cases untracked opened with
          ⟨-, started⟩ | ⟨-, store, idle, settled⟩
        · rw [started] at failed
          cases failed
        · rw [settled] at failed ⊢
          cases failed
          exact ⟨rfl, store, idle, rfl⟩
    · cases failed

theorem resolve_of_allowed (opened : directory.closed = false)
    (isolated : directory.isolated = true) (untracked : directory.tracked? client = none)
    (allowed : directory.factory.failing.contains (.client client) = false) (turns : Nat) :
    (directory.resolve (.quiet (turns + 1)) (some (.client client))).1 =
        .ok (directory.partitions.next (.client client)) ∧
      (directory.resolve (.quiet (turns + 1)) (some (.client client))).2.isReady
        (directory.partitions.next (.client client)) = true := by
  rw [resolve_of_untracked untracked opened isolated]
  rcases settle_launch_cases untracked opened with ⟨-, started⟩ | ⟨failing, -⟩
  · rw [started]
    refine ⟨rfl, ?_⟩
    rw [isReady, partition?_grown, if_pos rfl]
    rfl
  · cases allowed.symm.trans failing

end Search

/-! ## Runs that go on -/

/-- The same thing happened at two points of runs, of which the second one began with a failed
search for a client's partition. The partition that was built in vain is untouched and unnamed. -/
structure Unharmed (client : Hash) (gap : Nat) (dead : Partition MemoryStore)
    (one other : Point MemoryFactory MemoryStore Tuning Blinding) : Prop where
  told : other.event.told = one.event.told.rename (Naming.skipping client gap).place
  moments : other.moments = one.moments
  partitions : ∀ handle, other.state.partition? ((Naming.skipping client gap).place handle) =
    one.state.partition? handle
  dead : other.state.partition? ⟨.client client, gap⟩ = some dead
  unnamed : ∀ {call before response}, other.event = .ends call before response →
    ⟨.client client, gap⟩ ∉ response.partitions
  metrics : ∀ metric : Metric, other.state.metrics[metric]? = one.state.metrics[metric]? ∨
    metric = .clientPartitions ∧ one.state.metrics[metric]? = none

section Continuation

variable {run : Run MemoryFactory MemoryStore Tuning Blinding} {client : Hash}
  {store : MemoryStore}

theorem partition?_skipping (handle : Handle) :
    run.partition? ((Naming.skipping client (run.partitions.next (.client client)).generation).place
      handle) = run.partition? handle := by
  obtain ⟨id, generation⟩ := handle
  by_cases named : id = .client client
  · subst named
    by_cases after : (run.partitions.next (.client client)).generation ≤ generation
    · have absent (number : Nat) (past : generation ≤ number) :
          run.partition? ⟨.client client, number⟩ = none :=
        List.getElem?_eq_none (Nat.le_trans after past)
      simp only [Naming.skipping, after, and_self, if_true]
      rw [absent _ (Nat.le_refl _), absent _ (Nat.le_succ _)]
    · simp [Naming.skipping, after]
  · rw [Naming.skipping_of_ne named]

theorem partition?_burdened (handle : Handle) :
    (run.burdened client store).partition? handle =
      if handle = run.partitions.next (.client client) then some ⟨store, .shutDown, false⟩
      else run.partition? handle :=
  Registry.get?_add _ _ _ _

theorem partition?_burdened_skipping (handle : Handle) :
    (run.burdened client store).partition?
        ((Naming.skipping client (run.partitions.next (.client client)).generation).place handle) =
      run.partition? handle := by
  have away : (Naming.skipping client (run.partitions.next (.client client)).generation).place
      handle ≠ run.partitions.next (.client client) := Naming.skipping_ne_gap client _ handle
  rw [partition?_burdened, if_neg away, partition?_skipping]

theorem inStep_burdened (reached : Reached [] run) (untracked : run.tracked? client = none) :
    InStep (.equality MemoryFactory MemoryStore)
      (.skipping client (run.partitions.next (.client client)).generation)
      ⟨fun _ => some ⟨store, .shutDown, false⟩, (run.log, (run.burdened client store).log), True⟩
      (run.choosing (Naming.skipping client
        (run.partitions.next (.client client)).generation).place).anew
      (run.burdened client store).anew := by
  refine ⟨⟨rfl, fun handle => ?_, fun {handle} known => ?_, fun {handle} away => ?_,
    fun id more => ?_, ?_, ⟨rfl, rfl, rfl, rfl, rfl⟩, rfl, rfl, fun metric => ?_, [], rfl, rfl⟩, rfl,
    .nil⟩
  · change Option.Rel _ (run.partition? handle) ((run.burdened client store).partition?
      ((Naming.skipping client (run.partitions.next (.client client)).generation).place handle))
    have same := @partition?_burdened_skipping run client store handle
    rw [same]
    cases run.partition? handle with
    | none => exact .none
    | some partition => exact .some ⟨rfl, rfl, rfl⟩
  · obtain ⟨role, rfl⟩ : ∃ role, handle = wellKnown role :=
      known.resolve_right (by simp [anew, Journal.blank, Journal.transcript])
    obtain ⟨partition, here, -⟩ := Option.map_eq_some_iff.mp (reached.anchored.stage role)
    exact ⟨partition, partition, here, (partition?_burdened_skipping _).trans here, rfl⟩
  · have gap : handle = run.partitions.next (.client client) := by
      by_contra apart
      exact away _ (Naming.skipping_place_back apart)
    exact (partition?_burdened handle).trans (if_pos gap)
  · by_cases named : id = .client client
    · subst named
      simp [Naming.skipping, anew, choosing, burdened, Registry.next_add]
      omega
    · simp [Naming.skipping, anew, choosing, burdened, Registry.next_add, named]
  · refine (Clients.rename_of_fixed fun {other handle} tracked => ?_).symm
    have apart : handle.id ≠ .client client := by
      intro own
      obtain rfl : other = client :=
        PartitionId.client.inj ((run.clients.own tracked).symm.trans own)
      cases untracked.symm.trans tracked
    exact Naming.skipping_of_ne apart
  · change (run.metrics.set .clientPartitions run.clients.size)[metric]? = run.metrics[metric]? ∨
      True ∧ metric = .clientPartitions ∧ run.metrics[metric]? = none
    rw [Metrics.getElem?_set]
    by_cases gauge : metric = .clientPartitions
    · subst gauge
      cases reading : run.metrics[Metric.clientPartitions]? with
      | none => exact Or.inr ⟨trivial, rfl, rfl⟩
      | some value =>
        rw [if_pos rfl, reached.gauged.reading reading]
        exact Or.inl rfl
    · rw [if_neg gauge]
      exact Or.inl rfl

theorem unharmed_of_matches {gap : Nat} {dead : Partition MemoryStore}
    {logs : List LogEvent × List LogEvent}
    {one other : Point MemoryFactory MemoryStore Tuning Blinding}
    (matching : Matches (.equality MemoryFactory MemoryStore) (.skipping client gap)
      ⟨fun _ => some dead, logs, True⟩ one other) : Unharmed client gap dead one other := by
  have away := Naming.skipping_ne_gap client gap
  exact ⟨matching.told, matching.moments, matching.partition?, matching.mirror.unmatched away,
    matching.unnamed away, fun metric => (matching.mirror.metrics metric).imp_right And.right⟩

/-- What a failed search for a client's partition leaves: a partition that did not start. Whatever
happens later, also by others who interrupt it, happens as it would have without the search, and a
search that comes after the client's stores are allowed to start again finds a new partition. -/
structure FailedCreation (client : Hash) (store : MemoryStore)
    (before after : Run MemoryFactory MemoryStore Tuning Blinding) : Prop where
  burdened : after = before.burdened client store
  uninitialized : store.isInitialized = false
  unnoticed : ∀ {manner : Manner Tuning Blinding} {turns depth : Nat}
    {calls : List (Call Tuning Blinding)},
    ((before.choosing (Naming.skipping client
        (before.partitions.next (.client client)).generation).place).anew.makeAll
          (others manner.habit turns depth) calls).stuck = false →
      List.Forall₂
        (Unharmed client (before.partitions.next (.client client)).generation
          ⟨store, .shutDown, false⟩)
        ((before.choosing (Naming.skipping client
          (before.partitions.next (.client client)).generation).place).anew.makeAll
            (others manner.habit turns depth) calls).outside.points
        (after.anew.makeAll
          (others (manner.rename
            (.skipping client (before.partitions.next (.client client)).generation)).habit turns
            depth)
          (calls.map (·.rename (Naming.skipping client
            (before.partitions.next (.client client)).generation).place))).outside.points
  again : ∀ {habit : Habit MemoryFactory MemoryStore Tuning Blinding} {turns depth looks : Nat}
    {calls : List (Call Tuning Blinding)}
    {later allowed : Run MemoryFactory MemoryStore Tuning Blinding},
    after.anew.makeAll (others habit turns depth) calls = later →
    later.closed = false → later.isolated = true → later.tracked? client = none →
    (later.perform (.quiet 0) (.tune (.allow (.client client)))).2 = allowed →
      ∃ handle, later.partition? handle = none ∧
        (allowed.resolve (.quiet (looks + 1)) (some (.client client))).1 = .ok handle ∧
        (allowed.resolve (.quiet (looks + 1)) (some (.client client))).2.isReady handle = true

theorem failedCreation_burdened (reached : Reached [] run) (untracked : run.tracked? client = none)
    (uninitialized : store.isInitialized = false) :
    FailedCreation client store run (run.burdened client store) := by
  have inStep := @inStep_burdened run client store reached untracked
  refine ⟨rfl, uninitialized, fun {manner turns depth calls} unstuck => ?_,
    fun {_ _ _ looks _ later _} _ opened isolated untracked tuned => ?_⟩
  · have orderly : Orderly [] (run.choosing (Naming.skipping client
        (run.partitions.next (.client client)).generation).place).anew.shape :=
      reached.orderly.congr rfl rfl rfl
    have attuned : Attuned (.equality MemoryFactory MemoryStore)
        (.skipping client (run.partitions.next (.client client)).generation)
        ⟨fun _ => some ⟨store, .shutDown, false⟩, (run.log, (run.burdened client store).log), True⟩
        manner.habit _ := manner.attuned
    have ended := (attuned.echo turns depth).makeAll inStep orderly
      (fun _ starting => nomatch starting) unstuck (Or.inl trivial)
    exact ended.points.imp fun _ _ => unharmed_of_matches
  · subst tuned
    have fresh : later.partition? (later.partitions.next (.client client)) = none :=
      Registry.get?_next _ _
    have allowed : (later.factory.allow (.client client)).failing.contains (.client client) =
        false := by simp [MemoryFactory.allow]
    have resolved :=
      @resolve_of_allowed _ { later with factory := later.factory.allow (.client client) }
      client opened isolated untracked allowed looks
    exact ⟨_, fresh, resolved⟩

/-- A search for a partition fails only for a client that is not tracked. If the directory is
closed, the search changes nothing; otherwise it was in vain, and leaves nothing that anyone would
notice. -/
theorem failed_resolution (reached : Reached [] run) {call : Call Tuning Blinding}
    {id : Option PartitionId} (search : call = .resolve id ∨ call = .clientPartition id)
    {turns : Nat} {failure : Failure}
    (failed : (run.perform (.quiet (turns + 1)) call).1 = .found (.error failure)) :
    ∃ client, id = some (.client client) ∧ run.tracked? client = none ∧
      (failure = .closed ∧ (run.perform (.quiet (turns + 1)) call).2 = run ∨
        failure = .startup (.client client) "startup refused" ∧
          ∃ store, FailedCreation client store run (run.perform (.quiet (turns + 1)) call).2) := by
  have same : run.perform (.quiet (turns + 1)) call =
      (.found (run.resolve (.quiet (turns + 1)) id).1,
        (run.resolve (.quiet (turns + 1)) id).2) := by
    rcases search with rfl | rfl
    · rfl
    · cases id with
      | none => cases failed
      | some id => rfl
  rw [same] at failed ⊢
  obtain ⟨client, rfl, -, untracked, outcome⟩ :=
    resolve_fails reached.orderly (Response.found.inj failed)
  refine ⟨client, rfl, untracked, ?_⟩
  rcases outcome with unchanged | ⟨-, refused, store, uninitialized, burdened⟩
  · exact Or.inl unchanged
  · refine Or.inr ⟨refused, store, ?_⟩
    rw [burdened]
    exact failedCreation_burdened reached untracked uninitialized

def refusing : Run MemoryFactory MemoryStore Tuning Blinding :=
  plainRun.makeAll (others eager 0 1) [.tune (.fail (.client someone))]

theorem failed_resolution_refused :
    ∃ client, some (PartitionId.client someone) = some (.client client) ∧
      refusing.tracked? client = none ∧
      (Failure.startup (.client someone) "startup refused" = .closed ∧
        (refusing.perform (.quiet 1) (.clientPartition (some (.client someone)))).2 = refusing ∨
        Failure.startup (.client someone) "startup refused" =
            .startup (.client client) "startup refused" ∧
          ∃ store, FailedCreation client store refusing
            (refusing.perform (.quiet 1) (.clientPartition (some (.client someone)))).2) :=
  failed_resolution (built_plainRun.reached.makeAll (by decide +kernel)) (Or.inr rfl)
    (congrArg Response.found (by decide +kernel))

end Continuation

end Directory

end PeerDirectory

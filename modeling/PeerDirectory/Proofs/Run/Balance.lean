import PeerDirectory.Proofs.Directory.Stopping
import PeerDirectory.Proofs.Reentrance
import PeerDirectory.Proofs.Run.Anchored

namespace PeerDirectory

theorem Metrics.getD_set (metrics : Metrics) {metric other : Metric} (apart : other ≠ metric)
    (value : Nat) : (metrics.set metric value).getD other 0 = metrics.getD other 0 := by
  unfold set
  rw [Std.ExtTreeMap.getD_insert]
  simp [Ne.symm apart]

theorem Metrics.getD_tally (metrics : Metrics) (counted : List Metric) (metric : Metric) :
    (metrics.tally counted).getD metric 0 = metrics.getD metric 0 + counted.count metric := by
  induction counted generalizing metrics with
  | nil => rfl
  | cons first rest ih =>
    rw [tally, List.foldl_cons]
    refine (ih _).trans ?_
    rw [getD_add, List.count_cons, Nat.add_assoc, Nat.add_comm (rest.count metric)]
    by_cases same : metric = first
    · simp [same]
    · simp [same, Ne.symm same]

def Metric.turnover : Metric → Bool
  | created _ | tornDown _ | races => true
  | _ => false

namespace Directory

open Std

variable {φ σ γ τ υ : Type}

structure Ledger where
  created : Kind → Nat
  tornDown : Kind → Nat
  races : Nat
  clients : Nat
  closed : Bool

def ledger (directory : Directory φ σ γ) : Ledger where
  created kind := directory.metrics.getD (.created kind) 0
  tornDown kind := directory.metrics.getD (.tornDown kind) 0
  races := directory.metrics.getD .races 0
  clients := directory.clients.size
  closed := directory.closed

structure Balanced (busy : List Handle) (ledger : Ledger) : Prop where
  clients : ledger.created .client + busy.length = ledger.tornDown .client + ledger.clients
  created : ∀ role, ledger.created (.wellKnown role) = 1
  tornDown : ∀ role, ledger.tornDown (.wellKnown role) = if ledger.closed then 1 else 0

/-! ## Single changes -/

section Changes

variable (directory : Directory φ σ γ) (handle : Handle)

@[simp] theorem ledger_note (event : LogEvent) :
    (directory.note event).ledger = directory.ledger := rfl

@[simp] theorem ledger_setStore (store : σ) :
    (directory.setStore handle store).ledger = directory.ledger := rfl

@[simp] theorem ledger_setLifecycle (stage : Lifecycle) :
    (directory.setLifecycle handle stage).ledger = directory.ledger := rfl

@[simp] theorem ledger_setLocked (locked : Bool) :
    (directory.setLocked handle locked).ledger = directory.ledger := rfl

theorem ledger_count {metric : Metric} (aside : metric.turnover = false) (amount : Nat) :
    (directory.count metric amount).ledger = directory.ledger := by
  have came (kind : Kind) : .created kind ≠ metric := by
    rintro rfl
    cases aside
  have went (kind : Kind) : .tornDown kind ≠ metric := by
    rintro rfl
    cases aside
  have raced : .races ≠ metric := by
    rintro rfl
    cases aside
  simp [ledger, count, Metrics.getD_add, came, went, raced]

@[simp] theorem ledger_created (kind : Kind) :
    (directory.countOne (.created kind)).ledger =
      { directory.ledger with
        created := fun other => directory.ledger.created other + if other = kind then 1 else 0 } := by
  simp [ledger, countOne, count, Metrics.getD_add]

@[simp] theorem ledger_tornDown (kind : Kind) :
    (directory.countOne (.tornDown kind)).ledger =
      { directory.ledger with
        tornDown := fun other =>
          directory.ledger.tornDown other + if other = kind then 1 else 0 } := by
  simp [ledger, countOne, count, Metrics.getD_add]

@[simp] theorem ledger_publish_quiet (turns : Nat) :
    (directory.publish (.quiet turns)).ledger = directory.ledger := by
  simp [ledger, publish, Surroundings.quiet, Metrics.getD_set]

theorem ledger_unregister_quiet {client : Hash} {handle : Handle}
    (tracked : directory.tracked? client = some handle) (turns : Nat) :
    directory.ledger =
      { (directory.unregister (.quiet turns) client handle).ledger with
        clients := (directory.unregister (.quiet turns) client handle).ledger.clients + 1 } := by
  rw [unregister, if_pos tracked, ledger_publish_quiet]
  simp only [ledger, Clients.size_erase_of_tracked tracked]

variable [PartitionStore σ]

@[simp] theorem ledger_insert (key : Hash) (entry : Entry) :
    (directory.insert handle key entry).2.ledger = directory.ledger := by
  unfold insert
  split <;> rfl

@[simp] theorem ledger_stopStore : (directory.stopStore handle).ledger = directory.ledger := by
  unfold stopStore
  split <;> rfl

@[simp] theorem ledger_startStore_quiet (turns : Nat) :
    (directory.startStore (.quiet turns) handle).2.ledger = directory.ledger := by
  simp only [startStore]
  split <;> rfl

theorem ledger_seedPeers (peers : List Hash) (sofar : Nat × Directory φ σ γ) :
    (peers.foldl (seedPeer handle) sofar).2.ledger = sofar.2.ledger := by
  induction peers generalizing sofar with
  | nil => rfl
  | cons peer rest ih =>
    have first : (seedPeer handle sofar peer).2.ledger = sofar.2.ledger := by
      simp only [seedPeer]
      split
      · rfl
      · split <;> exact ledger_insert sofar.2 handle _ _
    exact (ih _).trans first

@[simp] theorem ledger_seed : (directory.seed handle).ledger = directory.ledger := by
  simp only [seed]
  split
  · rfl
  · split
    · exact directory.ledger_count rfl 1
    · refine (ledger_count _ rfl _).trans ?_
      exact ledger_seedPeers handle _ _

@[simp] theorem ledger_findLease (key : Hash) :
    (directory.findLease key).2.ledger = directory.ledger := by
  rw [findLease_after]
  exact directory.ledger_count rfl 1

theorem ledger_retireAll (handles : List Handle) :
    (directory.retireAll handles).ledger =
      { directory.ledger with
        tornDown := fun kind => directory.ledger.tornDown kind +
          (handles.filter directory.upright).countP fun handle => handle.id.kind = kind } := by
  simp only [ledger, retireAll, Metrics.getD_tally, Ledger.mk.injEq, and_true]
  refine ⟨?_, ?_, ?_⟩
  · funext kind
    simp [List.count_eq_zero]
  · funext kind
    rw [List.count, List.countP_map]
    apply congrArg (directory.ledger.tornDown kind + ·)
    apply List.countP_congr
    simp
  · simp [List.count_eq_zero]

end Changes

/-! ## Moves -/

section Moves

variable {busy : List Handle} {directory : Directory φ σ γ} {handle : Handle} {client : Hash}
  {ledger : Ledger}

theorem upright_of_stage? {stage : Lifecycle}
    (stands : directory.stage? handle = some (stage, false)) :
    directory.upright handle = decide (stage ≠ .shutDown) := by
  obtain ⟨partition, here, found⟩ := Option.map_eq_some_iff.mp stands
  obtain ⟨rfl, free⟩ := Prod.mk.inj found
  simp [upright, here, Partition.upright, free]

theorem Balanced.launch (balanced : Balanced busy ledger) (handle : Handle) :
    Balanced (handle :: busy) { ledger with clients := ledger.clients + 1 } := by
  refine ⟨?_, balanced.created, balanced.tornDown⟩
  have clients := balanced.clients
  simp only [List.length_cons]
  omega

theorem Balanced.finish (balanced : Balanced (handle :: busy) ledger) :
    Balanced busy { ledger with
      created := fun kind => ledger.created kind + if kind = .client then 1 else 0 } := by
  refine ⟨?_, fun role => ?_, balanced.tornDown⟩
  · have clients := balanced.clients
    simp only [List.length_cons, if_true] at clients ⊢
    omega
  · simpa using balanced.created role

theorem Balanced.fail
    (balanced : Balanced (handle :: busy) { ledger with clients := ledger.clients + 1 }) :
    Balanced busy ledger := by
  refine ⟨?_, balanced.created, balanced.tornDown⟩
  have clients := balanced.clients
  simp only [List.length_cons] at clients
  omega

theorem Balanced.remove (balanced : Balanced busy { ledger with clients := ledger.clients + 1 }) :
    Balanced busy { ledger with
      tornDown := fun kind => ledger.tornDown kind + if kind = .client then 1 else 0 } := by
  refine ⟨?_, balanced.created, fun role => ?_⟩
  · have clients := balanced.clients
    simp only [if_true] at clients ⊢
    omega
  · simpa using balanced.tornDown role

variable [PartitionStore σ]

theorem balanced_removeClient (balanced : Balanced busy directory.ledger)
    (orderly : Orderly busy directory.shape)
    (unstuck : (directory.removeClient (.quiet 0) client).2.stuck = false) :
    Balanced busy (directory.removeClient (.quiet 0) client).2.ledger := by
  cases tracked : directory.tracked? client with
  | none =>
    simp only [removeClient, tracked]
    exact balanced
  | some handle =>
    obtain ⟨idle, -⟩ := removeClient_of_unstuck tracked unstuck
    have ready : directory.stage? handle = some (.ready, false) := by
      refine (orderly.tracked tracked).resolve_right fun starting => ?_
      exact idle _ (orderly.starting starting)
    have upright : (directory.unregister (.quiet 0) client handle).upright handle = true :=
      upright_of_stage? ((stage?_unregister_quiet handle handle 0).trans ready)
    have kind : handle.id.kind = .client := congrArg PartitionId.kind (id_of_tracked? tracked)
    simp only [removeClient, tracked, stop_eq, upright, if_true, ledger_note, ledger_tornDown, kind]
    rw [directory.ledger_unregister_quiet tracked 0] at balanced
    exact balanced.remove

omit [PartitionStore σ] in
theorem filter_upright_standing (orderly : Orderly [] directory.shape)
    (anchored : Anchored directory.shape) :
    directory.standing.filter directory.upright =
      if directory.closed then [] else directory.standing := by
  cases closed : directory.closed with
  | true =>
    refine List.filter_eq_nil_iff.mpr fun handle standing => ?_
    rcases List.mem_append.mp standing with known | client
    · obtain ⟨role, -, rfl⟩ := List.mem_map.mp known
      have down := anchored.stage role
      rw [show directory.shape.closed = true from closed] at down
      simp [upright_of_stage? down]
    · obtain ⟨client, tracked⟩ := tracked?_of_mem client
      cases (orderly.closed closed client).symm.trans tracked
  | false =>
    refine List.filter_eq_self.mpr fun handle standing => ?_
    rcases List.mem_append.mp standing with known | client
    · obtain ⟨role, -, rfl⟩ := List.mem_map.mp known
      have up := anchored.stage role
      rw [show directory.shape.closed = false from closed] at up
      simp [upright_of_stage? up]
    · obtain ⟨client, tracked⟩ := tracked?_of_mem client
      have ready := (orderly.tracked tracked).resolve_right List.not_mem_nil
      simp [upright_of_stage? ready]

omit [PartitionStore σ] in
theorem countP_standing (directory : Directory φ σ γ) (kind : Kind) :
    directory.standing.countP (fun handle => handle.id.kind = kind) =
      if kind = .client then directory.clients.size else 1 := by
  have kinds {handle : Handle} (listed : handle ∈ directory.clients.handles) :
      handle.id.kind = .client := by
    obtain ⟨client, tracked⟩ := tracked?_of_mem listed
    rw [id_of_tracked? tracked]
    rfl
  have clients : directory.clients.handles.countP (fun handle => handle.id.kind = kind) =
      if kind = .client then directory.clients.size else 0 := by
    rw [← Clients.length_handles]
    split
    · rename_i same
      exact List.countP_eq_length.mpr fun handle listed => by simp [kinds listed, same]
    · rename_i apart
      exact List.countP_eq_zero.mpr fun handle listed => by simp [kinds listed, Ne.symm apart]
  rw [standing, List.countP_append, clients]
  cases kind with
  | client => simp [WellKnown.all, wellKnown, PartitionId.kind]
  | wellKnown role => cases role <;> rfl

theorem balanced_shutdown [StoreFactory φ σ] (balanced : Balanced busy directory.ledger)
    (orderly : Orderly busy directory.shape) (anchored : Anchored directory.shape)
    (unstuck : (directory.shutdown (.quiet 0)).stuck = false) :
    Balanced busy (directory.shutdown (.quiet 0)).ledger := by
  obtain rfl := idle_of_shutdown orderly unstuck
  have same : directory.standing.filter
      (publish { directory with closed := true, clients := ∅ } (.quiet 0)).upright =
        if directory.closed then [] else directory.standing :=
    filter_upright_standing orderly anchored
  rw [shutdown_eq_retireAll, ledger_note, ledger_retireAll, ledger_publish_quiet, same]
  have clients := balanced.clients
  refine ⟨?_, balanced.created, fun role => ?_⟩
  · cases closed : directory.closed with
    | true =>
      have nobody : directory.clients = ∅ :=
        Clients.eq_empty_of_untracked (orderly.closed closed)
      simpa [ledger, nobody] using clients
    | false =>
      simp only [Bool.false_eq_true, if_false, countP_standing, if_true]
      simpa [ledger] using clients
  · have before := balanced.tornDown role
    cases closed : directory.closed with
    | true => simpa [ledger, closed] using before
    | false =>
      have came : directory.ledger.tornDown (.wellKnown role) = 0 := by
        simpa [ledger, closed] using before
      simp only [Bool.false_eq_true, if_false, countP_standing]
      simpa [ledger] using came

theorem balanced_act [StoreFactory φ σ] [Backdoor φ σ τ υ] {call : Call τ υ}
    (balanced : Balanced busy directory.ledger) (orderly : Orderly busy directory.shape)
    (anchored : Anchored directory.shape) (plain : call.plain = true)
    (unstuck : (directory.perform (.quiet 0) call).2.stuck = false) :
    Balanced busy (directory.perform (.quiet 0) call).2.ledger := by
  cases call with
  | resolve id => cases plain
  | clientPartition id => cases plain
  | startStore handle => cases plain
  | removeClient client => exact balanced_removeClient balanced orderly unstuck
  | shutdown => exact balanced_shutdown balanced orderly anchored unstuck
  | setIsolation enabled =>
    simp only [perform, setIsolation]
    split <;> exact balanced
  | findLease key =>
    simpa only [perform, ledger_findLease] using balanced
  | ask question => exact balanced
  | insert handle key entry => simpa only [perform, ledger_insert] using balanced
  | session client opened => exact balanced
  | tune tuning => exact balanced
  | touch handle touch =>
    simp only [perform, touchStore]
    split <;> exact balanced
  | stopStore handle => simpa only [perform, ledger_stopStore] using balanced

theorem ledger_act [StoreFactory φ σ] [Backdoor φ σ τ υ] {call : Call τ υ}
    (plain : call.plain = true) :
    (directory.perform (.quiet 0) call).2.ledger.created = directory.ledger.created ∧
      (directory.perform (.quiet 0) call).2.ledger.races = directory.ledger.races := by
  cases call with
  | resolve id => cases plain
  | clientPartition id => cases plain
  | startStore handle => cases plain
  | removeClient client =>
    cases tracked : directory.tracked? client with
    | none =>
      simp only [perform, removeClient, tracked]
      exact ⟨rfl, rfl⟩
    | some handle =>
      rw [directory.ledger_unregister_quiet tracked 0]
      simp only [perform, removeClient, tracked, stop_eq]
      split
      · simp only [ledger_note, ledger_tornDown]
        exact ⟨rfl, rfl⟩
      · exact ⟨rfl, rfl⟩
  | shutdown =>
    simp only [perform, shutdown_eq_retireAll, ledger_note, ledger_retireAll, ledger_publish_quiet]
    trivial
  | setIsolation enabled =>
    simp only [perform, setIsolation]
    split <;> exact ⟨rfl, rfl⟩
  | findLease key =>
    simp only [perform, ledger_findLease, and_self]
  | ask question => exact ⟨rfl, rfl⟩
  | insert handle key entry =>
    simp only [perform, ledger_insert, and_self]
  | session client opened => exact ⟨rfl, rfl⟩
  | tune tuning => exact ⟨rfl, rfl⟩
  | touch handle touch =>
    simp only [perform, touchStore]
    split <;> exact ⟨rfl, rfl⟩
  | stopStore handle =>
    simp only [perform, ledger_stopStore, and_self]

omit [PartitionStore σ] in
theorem ledger_discard [StoreFactory φ σ] (tracked : directory.tracked? client = some handle) :
    (directory.register (.quiet 0) client).2.ledger =
      { directory.ledger with races := directory.ledger.races + 1 } := by
  rw [register_of_tracked tracked]
  simp [ledger, Metrics.getD_add]

omit [PartitionStore σ] in
theorem ledger_launch [StoreFactory φ σ] (untracked : directory.tracked? client = none) :
    (directory.launch client).ledger =
      { directory.ledger with clients := directory.ledger.clients + 1 } := by
  rw [launch_eq untracked]
  simp [ledger, Metrics.getD_set, size_joined untracked]

theorem ledger_refuse [StoreFactory φ σ] (untracked : directory.tracked? client = none)
    (closed : directory.closed = true) :
    ((directory.launch client).settle client
      (directory.partitions.next (.client client))).2.ledger = directory.ledger := by
  rw [refuse_eq untracked closed]
  simp [ledger, Metrics.getD_set]

theorem ledger_settle_cases (orderly : Orderly (handle :: busy) directory.shape)
    (named : handle.id = .client client) :
    ((directory.settle client handle).1 = .ok true ∧
      (directory.startStore (.quiet 0) handle).1 = .ok () ∧
      (directory.settle client handle).2.ledger =
        { directory.ledger with
          created := fun kind =>
            directory.ledger.created kind + if kind = .client then 1 else 0 }) ∨
    (∃ failure, (directory.settle client handle).1 = .error failure ∧
      (directory.startStore (.quiet 0) handle).1 = .error failure ∧
      directory.ledger =
        { (directory.settle client handle).2.ledger with
          clients := (directory.settle client handle).2.ledger.clients + 1 }) := by
  have tracked := orderly.tracked_of_busy List.mem_cons_self named
  have opened : directory.closed = false := orderly.open_of_busy List.mem_cons_self
  have started := directory.ledger_startStore_quiet handle 0
  have shape := shape_startStore_quiet directory handle 0
  generalize reached : directory.startStore (.quiet 0) handle = after at *
  simp only [settle, bringUp_eq, opened, reached, Bool.false_eq_true, if_false, ledger_setLocked]
  cases after.1 with
  | error failure =>
    have still : after.2.tracked? client = some handle :=
      (congrArg (·.find? client) (congrArg Shape.clients shape)).trans tracked
    refine Or.inr ⟨failure, rfl, rfl, ?_⟩
    rw [← started]
    exact after.2.ledger_unregister_quiet still 0
  | ok _ =>
    refine Or.inl ⟨rfl, rfl, ?_⟩
    simp only [goLive, ledger_note, ledger_created, ledger_setLifecycle, ledger_seed, started]
    rw [named]
    rfl

theorem balanced_settle (balanced : Balanced (handle :: busy) directory.ledger)
    (orderly : Orderly (handle :: busy) directory.shape) (named : handle.id = .client client) :
    Balanced busy (directory.settle client handle).2.ledger := by
  rcases ledger_settle_cases orderly named with ⟨-, -, came⟩ | ⟨failure, -, -, before⟩
  · rw [came]
    exact balanced.finish
  · rw [before] at balanced
    exact balanced.fail

theorem Move.balanced [StoreFactory φ σ] [Backdoor φ σ τ υ] {permitted : Call τ υ → Prop}
    {a b : Position φ σ τ υ} (move : Move permitted a b) (orderly : Orderly a.busy a.run.shape)
    (anchored : Anchored a.run.shape) (balanced : Balanced a.busy a.run.ledger) :
    Balanced b.busy b.run.ledger := by
  cases move with
  | begin => exact balanced
  | reply => exact balanced
  | enter => exact balanced
  | leave => exact balanced
  | act call allowed plain covered unstuck =>
    exact balanced_act balanced orderly anchored plain unstuck
  | drive handle allowed => simpa using balanced
  | discard client handle tracked =>
    rw [ledger_discard tracked]
    exact ⟨balanced.clients, balanced.created, balanced.tornDown⟩
  | refuse client untracked closed => rwa [ledger_refuse untracked closed]
  | launch client untracked opened =>
    rw [ledger_launch untracked]
    exact balanced.launch _
  | settle client handle named => exact balanced_settle balanced orderly named

theorem Path.balanced [StoreFactory φ σ] [Backdoor φ σ τ υ] {permitted : Call τ υ → Prop}
    {a b : Position φ σ τ υ} (path : Path permitted a b) (orderly : Orderly a.busy a.run.shape)
    (anchored : Anchored a.run.shape) (balanced : Balanced a.busy a.run.ledger) :
    Balanced b.busy b.run.ledger := by
  induction path with
  | refl => exact balanced
  | tail path move ih =>
    exact move.balanced (Path.orderly path orderly) (Path.anchored path orderly anchored) ih

end Moves

/-! ## Directories that were just built -/

section Built

variable {directory : Directory φ σ γ} [PartitionStore σ] [StoreFactory φ σ]
  {change : Moment → φ → φ}

theorem ledger_startWellKnown {role : WellKnown}
    (started : (directory.startWellKnown (.tuning change) role).1 = .ok ()) :
    (directory.startWellKnown (.tuning change) role).2.ledger =
      { directory.ledger with
        created := fun kind =>
          directory.ledger.created kind + if kind = .wellKnown role then 1 else 0 } := by
  have quiet (building : Directory φ σ γ) (handle : Handle) :
      (building.startStore (.tuning change) handle).2.ledger = building.ledger := by
    simp only [startStore]
    split <;> rfl
  simp only [startWellKnown] at started ⊢
  split at started
  · cases started
  · simp only [ledger_note, ledger_created, ledger_setLocked, ledger_setLifecycle, quiet]
    rfl

theorem ledger_startAll {roles : List WellKnown} {sofar : List Handle}
    (started : (startAll (.tuning change) sofar roles directory).1 = .ok ()) :
    (startAll (.tuning change) sofar roles directory).2.ledger =
      { directory.ledger with
        created := fun kind =>
          directory.ledger.created kind + (roles.map Kind.wellKnown).count kind } := by
  induction roles generalizing directory sofar with
  | nil => rfl
  | cons role rest ih =>
    rw [startAll] at started ⊢
    cases first : (directory.startWellKnown (.tuning change) role).1 with
    | error failure => simp [first] at started
    | ok _ =>
      simp only [first] at started ⊢
      rw [ih started, ledger_startWellKnown first]
      simp only [Ledger.mk.injEq, and_true]
      funext kind
      rw [List.map_cons, List.count_cons]
      by_cases same : kind = .wellKnown role
      · simp only [same, beq_self_eq_true, if_true]
        omega
      · simp [same, Ne.symm same]

theorem Built.ledger {run : Run φ σ τ υ} (built : Built run) :
    run.ledger = ⟨fun kind => if kind = .client then 0 else 1, fun _ => 0, 0, 0, false⟩ := by
  obtain ⟨_, settings, change, ⟨factory, sampler, enumerator, rfl⟩, all, rfl⟩ := built.startAll
  have nothing : (blankRun factory sampler enumerator : Run φ σ τ υ).ledger =
      ⟨fun _ => 0, fun _ => 0, 0, 0, false⟩ := by
    simp [Directory.ledger, unbuilt]
  refine (ledger_startAll all).trans ?_
  rw [nothing]
  simp only [Ledger.mk.injEq, and_true]
  funext kind
  cases kind with
  | client => rfl
  | wellKnown role => cases role <;> rfl

theorem Built.balanced {run : Run φ σ τ υ} (built : Built run) : Balanced [] run.ledger := by
  rw [built.ledger]
  exact ⟨rfl, fun role => rfl, fun role => rfl⟩

theorem Reached.balanced [Backdoor φ σ τ υ] {busy : List Handle} {run : Run φ σ τ υ}
    (reached : Reached busy run) : Balanced busy run.ledger := by
  obtain ⟨start, built, path⟩ := reached.path
  exact path.balanced built.bare.orderly built.anchored built.balanced

end Built

end Directory

end PeerDirectory

import PeerDirectory.Proofs.Run.Accounts
import PeerDirectory.Proofs.Run.Roster

namespace PeerDirectory.Directory

variable {γ : Type}

def counted (directory : Directory MemoryFactory MemoryStore γ) (metric : Metric) : Nat :=
  directory.metrics.getD metric 0

def readyPartitions (directory : Directory MemoryFactory MemoryStore γ) : Nat :=
  directory.partitions.handles.countP fun handle =>
    handle.id.isClient && directory.isReady handle

def GaugeTrue (directory : Directory MemoryFactory MemoryStore γ) : Prop :=
  ∀ value, directory.metrics[Metric.clientPartitions]? = some value →
    value = directory.trackedClients

structure Conserved (run : Run MemoryFactory MemoryStore Tuning Blinding) : Prop where
  clients : run.counted (.created .client) = run.counted (.tornDown .client) + run.readyPartitions
  tracked : run.trackedClients = run.readyPartitions
  gauge : GaugeTrue run
  created : ∀ role, run.counted (.created (.wellKnown role)) = 1
  tornDown : ∀ role, run.counted (.tornDown (.wellKnown role)) =
    if run.outside.points.any (·.closes) then 1 else 0

structure Accounted (run : Run MemoryFactory MemoryStore Tuning Blinding) : Prop where
  stores : run.clientStores = run.counted (.created .client) +
    startupFailures run.outside.points + run.counted .races
  unstarted : run.unstartedStores = run.counted .races

section Ready

variable {directory : Directory MemoryFactory MemoryStore γ}

theorem isClient_iff {id : PartitionId} : id.isClient = true ↔ ∃ client, id = .client client := by
  cases id with
  | wellKnown role => simp [PartitionId.isClient]
  | client client => simp [PartitionId.isClient]

theorem readyPartitions_eq_length (steady : Steady directory) :
    directory.readyPartitions = directory.readyClients.length := by
  have distinct : directory.readyClients.Nodup :=
    (List.Nodup.of_append_right directory.nodup_standing).filter _
  have listed : List.Perm (directory.partitions.handles.filter fun handle =>
      handle.id.isClient && directory.isReady handle) directory.readyClients := by
    refine (List.perm_ext_iff_of_nodup ((Registry.nodup_handles _).filter _) distinct).mpr ?_
    intro handle
    rw [mem_readyClients steady, List.mem_filter, Registry.mem_handles, Bool.and_eq_true,
      isClient_iff]
    refine ⟨And.right, fun ready => ⟨fun absent => ?_, ready⟩⟩
    have idle : directory.isReady handle = false := by
      simp [isReady, partition?, absent]
    cases idle.symm.trans ready.2
  rw [readyPartitions, List.countP_eq_length_filter, listed.length_eq]

theorem trackedClients_eq_length (orderly : Orderly [] directory.shape) :
    directory.trackedClients = directory.readyClients.length := by
  have all : directory.readyClients = directory.clients.handles := by
    refine List.filter_eq_self.mpr fun handle member => ?_
    obtain ⟨client, tracked⟩ := tracked?_of_mem member
    have ready := (orderly.tracked tracked).resolve_right List.not_mem_nil
    rw [isReady_iff ready]
    rfl
  rw [all, Clients.length_handles, trackedClients]

end Ready

section Runs

variable {run : Run MemoryFactory MemoryStore Tuning Blinding}

theorem Reached.attested (reached : Reached [] run) : Attested run := by
  obtain ⟨start, built, path⟩ := reached.path
  exact path.kept (fun move orderly attested => move.attested orderly attested) built.bare.orderly
    built.attested

theorem Reached.steady (reached : Reached [] run) : Steady run :=
  reached.orderly.steady reached.labelled

theorem Reached.conserved (reached : Reached [] run) : Conserved run := by
  have orderly := reached.orderly
  have balanced := reached.balanced
  have ready := readyPartitions_eq_length reached.steady
  have tracked := trackedClients_eq_length orderly
  refine ⟨?_, tracked.trans ready.symm, fun value shown => reached.gauged.reading shown,
    balanced.created, fun role => ?_⟩
  · have clients := balanced.clients
    rw [List.length_nil, Nat.add_zero] at clients
    rw [ready, ← tracked]
    exact clients
  · have closed : run.ledger.closed = run.outside.points.any (·.closes) := by
      rw [Bool.eq_iff_iff, List.any_eq_true]
      exact reached.attested
    rw [← closed]
    exact balanced.tornDown role

end Runs

/-- Between calls, and at whatever moment others have their turn, the metrics are as they should
be. Stores are accounted for unless somebody drives them directly, or shuts the directory down while
one is made. -/
theorem metrics_conserved {run : Run MemoryFactory MemoryStore Tuning Blinding}
    {habit : Habit MemoryFactory MemoryStore Tuning Blinding} {turns depth : Nat}
    {calls : List (Call Tuning Blinding)} (built : Built run)
    (unstuck : (run.makeAll (others habit turns depth) calls).stuck = false) :
    Conserved (run.makeAll (others habit turns depth) calls) ∧
      (∀ point ∈ (run.makeAll (others habit turns depth) calls).outside.points,
        GaugeTrue point.state) ∧
      ((∀ call ∈ calls, call.drives = false) →
        (∀ moment run, ∀ call ∈ habit moment run, call.drives = false) →
        Discreet (run.makeAll (others habit turns depth) calls) →
          Accounted (run.makeAll (others habit turns depth) calls)) := by
  have reached := built.reached.makeAll unstuck
  refine ⟨reached.conserved, fun point member => ?_, fun undriven always discreet => ?_⟩
  · have considerate : Considerate (fun _ => True) (others habit turns depth) :=
      considerate_others (fun _ _ _ _ => trivial) turns depth
    have walk := considerate.makeAll built.bare.orderly built.reached.covered (fun _ _ => trivial)
      unstuck
    have shows {position : Position MemoryFactory MemoryStore Tuning Blinding}
        (_ : Orderly position.busy position.run.shape) (gauged : Gauged position.run.dial) :
        GaugeTrue position.run.snapshot := fun value shown => gauged.reading shown
    rcases walk.path.points (fun move _ gauged => move.gauged gauged) shows built.bare.orderly
      built.gauged point member with before | kept
    · have blank : run.outside = .blank := built.bare.outside
      rw [blank] at before
      cases before
    · exact kept
  · have accountable := accountable_others always turns depth
    have accounts := accountable.makeAll built.accounts built.reached.covered undriven unstuck
      discreet
    exact ⟨accounts.built, accounts.unstarted⟩

def overrun : List (Call Tuning Blinding) :=
  [.resolve (some (.client newcomer)), .tune (.fail (.client someone)),
    .resolve (some (.client someone)), .removeClient newcomer, .resolve (some (.client newcomer)),
    .shutdown, .shutdown]

theorem metrics_conserved_amid_races :
    (plainRun.makeAll (others eager 0 2) overrun).stuck = false ∧
      (∀ call ∈ overrun, call.drives = false) ∧
      Discreet (plainRun.makeAll (others eager 0 2) overrun) ∧
      Conserved (plainRun.makeAll (others eager 0 2) overrun) ∧
      Accounted (plainRun.makeAll (others eager 0 2) overrun) ∧
      (plainRun.makeAll (others eager 0 2) overrun).counted (.created .client) = 2 ∧
      (plainRun.makeAll (others eager 0 2) overrun).counted .races = 2 ∧
      (plainRun.makeAll (others eager 0 2) overrun).clientStores = 6 := by
  have unstuck : (plainRun.makeAll (others eager 0 2) overrun).stuck = false := by
    decide +kernel
  have undriven : ∀ call ∈ overrun, call.drives = false := by decide
  have always (moment : Moment) (run : Run MemoryFactory MemoryStore Tuning Blinding) :
      ∀ call ∈ eager moment run, call.drives = false := by
    unfold eager
    split
    · split <;> simp [Call.drives]
    · simp [Call.drives]
    · simp
  have discreet : Discreet (plainRun.makeAll (others eager 0 2) overrun) := by
    unfold Discreet
    decide +kernel
  obtain ⟨conserved, -, accounted⟩ := metrics_conserved built_plainRun unstuck
  exact ⟨unstuck, undriven, discreet, conserved, accounted undriven always discreet,
    by decide +kernel, by decide +kernel, by decide +kernel⟩

end PeerDirectory.Directory

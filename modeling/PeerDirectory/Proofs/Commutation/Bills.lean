import PeerDirectory.Proofs.Anonymity.Calls
import PeerDirectory.Proofs.Isolation
import PeerDirectory.Proofs.Run.Balance

namespace PeerDirectory

structure Bill where
  counted : List (Metric × Nat)
  /-- Whether the gauge of client partitions is set. It is not among what is counted. -/
  gauged : Bool
  waits : Bool
  apart : ∀ item ∈ counted, item.1 ≠ .clientPartitions

namespace Bill

def nothing : Bill := ⟨[], false, false, nofun⟩

def gauge : Bill := ⟨[], true, false, nofun⟩

def waiting : Bill := ⟨[], false, true, nofun⟩

def count (metric : Metric) (amount : Nat) (apart : metric ≠ .clientPartitions) : Bill :=
  ⟨[(metric, amount)], false, false, by simpa using apart⟩

def and (first second : Bill) : Bill where
  counted := first.counted ++ second.counted
  gauged := first.gauged || second.gauged
  waits := first.waits || second.waits
  apart item listed := (List.mem_append.mp listed).elim (first.apart item) (second.apart item)

end Bill

namespace Metrics

def charge (metrics : Metrics) (counted : List (Metric × Nat)) : Metrics :=
  counted.foldl (fun sofar item => sofar.add item.1 item.2) metrics

theorem charge_perm (metrics : Metrics) {counted again : List (Metric × Nat)}
    (same : again.Perm counted) : metrics.charge again = metrics.charge counted :=
  same.foldl_eq' (fun one _ other _ sofar => sofar.add_comm one.1 other.1 one.2 other.2) metrics

theorem set_add (metrics : Metrics) {metric other : Metric} (apart : metric ≠ other)
    (amount value : Nat) :
    (metrics.add metric amount).set other value = (metrics.set other value).add metric amount := by
  ext1 given
  simp only [getElem?_add, getElem?_set, metrics.getD_set apart]
  split
  · rename_i same
    rw [if_neg (same ▸ apart.symm)]
  · rfl

theorem set_charge (metrics : Metrics) {counted : List (Metric × Nat)} {other : Metric}
    (apart : ∀ item ∈ counted, item.1 ≠ other) (value : Nat) :
    (metrics.charge counted).set other value = (metrics.set other value).charge counted := by
  induction counted generalizing metrics with
  | nil => rfl
  | cons item rest ih =>
    have rest := ih (metrics.add item.1 item.2) fun later listed =>
      apart later (List.mem_cons_of_mem _ listed)
    rw [metrics.set_add (apart item List.mem_cons_self)] at rest
    exact rest

end Metrics

namespace Directory

section Bills

variable {φ σ γ : Type} {before middle after : Directory φ σ γ} {bill again : Bill}

structure Billed (bill : Bill) (before after : Directory φ σ γ) : Prop where
  metrics : after.metrics =
    (if bill.gauged then before.metrics.set .clientPartitions after.clients.size
      else before.metrics).charge bill.counted
  size : bill.gauged = false → after.clients.size = before.clients.size
  stuck : after.stuck = (before.stuck || bill.waits)
  enumerator : after.enumerator = before.enumerator
  live : after.live = before.live
  outside : after.outside = before.outside

theorem Billed.nothing (directory : Directory φ σ γ) : Billed .nothing directory directory :=
  ⟨rfl, fun _ => rfl, (Bool.or_false _).symm, rfl, rfl, rfl⟩

theorem Billed.trans (first : Billed bill before middle) (second : Billed again middle after) :
    Billed (bill.and again) before after where
  metrics := by
    have united : after.metrics =
        ((if bill.gauged || again.gauged then
          before.metrics.set .clientPartitions after.clients.size
        else before.metrics).charge bill.counted).charge again.counted := by
      rw [second.metrics, first.metrics]
      by_cases gauged : again.gauged = true
      · simp only [gauged, if_true, Bool.or_true, Metrics.set_charge _ bill.apart]
        split
        · rw [Metrics.set_set]
        · rfl
      · rw [Bool.not_eq_true] at gauged
        simp only [gauged, second.size gauged, Bool.false_eq_true, if_false, Bool.or_false]
    rw [united]
    exact List.foldl_append.symm
  size neither := by
    obtain ⟨one, other⟩ := Bool.or_eq_false_iff.mp neither
    rw [second.size other, first.size one]
  stuck := by rw [second.stuck, first.stuck, Bool.or_assoc, Bill.and]
  enumerator := second.enumerator.trans first.enumerator
  live := second.live.trans first.live
  outside := second.outside.trans first.outside

theorem Billed.rest (directory : Directory φ σ γ) (factory : φ)
    (partitions : Registry (Partition σ)) (log : List LogEvent) :
    Billed .nothing directory { directory with factory, partitions, log } :=
  ⟨rfl, fun _ => rfl, (Bool.or_false _).symm, rfl, rfl, rfl⟩

theorem Billed.count (directory : Directory φ σ γ) {metric : Metric} (amount : Nat)
    (apart : metric ≠ .clientPartitions) :
    Billed (.count metric amount apart) directory (directory.count metric amount) :=
  ⟨rfl, fun _ => rfl, (Bool.or_false _).symm, rfl, rfl, rfl⟩

theorem Billed.republish (directory : Directory φ σ γ) (clients : Clients)
    (turns : Nat) :
    Billed .gauge directory (publish { directory with clients } (.quiet turns)) :=
  ⟨rfl, nofun, (Bool.or_false _).symm, rfl, rfl, rfl⟩

theorem Billed.wait (directory : Directory φ σ γ) : Billed .waiting directory directory.wait :=
  ⟨rfl, fun _ => rfl, (Bool.or_true _).symm, rfl, rfl, rfl⟩

section Stores

variable [PartitionStore σ] (directory : Directory φ σ γ) (handle : Handle)

theorem billed_insert (key : Hash) (entry : Entry) :
    Billed .nothing directory (directory.insert handle key entry).2 := by
  unfold insert
  cases directory.store? handle with
  | none => exact .nothing directory
  | some store => exact .rest directory _ _ _

theorem billed_startStore (turns : Nat) :
    Billed .nothing directory (directory.startStore (.quiet turns) handle).2 := by
  unfold startStore
  simp only [Surroundings.quiet]
  cases directory.store? handle with
  | none => exact .nothing directory
  | some store => exact .rest directory _ _ _

theorem billed_stopStore : Billed .nothing directory (directory.stopStore handle) := by
  unfold stopStore
  cases directory.store? handle with
  | none => exact .nothing directory
  | some store => exact .rest directory _ _ _

omit [PartitionStore σ] in
theorem billed_touchStore {τ υ : Type} [Backdoor φ σ τ υ] (change : υ) :
    Billed .nothing directory (directory.touchStore handle change).2 := by
  unfold touchStore
  cases directory.store? handle with
  | none => exact .nothing directory
  | some store => exact .rest directory _ _ _

theorem billed_seedPeers (peers : List Hash) (count : Nat) :
    Billed .nothing directory (peers.foldl (seedPeer handle) (count, directory)).2 := by
  induction peers generalizing count directory with
  | nil => exact .nothing directory
  | cons peer rest ih =>
    have first : Billed .nothing directory (seedPeer handle (count, directory) peer).2 := by
      simp only [seedPeer]
      split
      · exact .nothing directory
      · have kept := billed_insert directory handle peer (.router ‹_›)
        split
        · exact kept
        · exact kept.trans (.rest _ _ _ _)
    exact first.trans (ih _ _)

end Stores

end Bills

section Charges

variable {γ : Type} {client : Hash} {a b : Directory MemoryFactory MemoryStore γ}
  {handle : Handle}

def Charged (one first other second : Directory MemoryFactory MemoryStore γ) : Prop :=
  ∃ bill, Billed bill one first ∧ Billed bill other second

theorem Charged.refl (one other : Directory MemoryFactory MemoryStore γ) :
    Charged one one other other :=
  ⟨.nothing, .nothing one, .nothing other⟩

theorem Charged.trans {one first last other second final : Directory MemoryFactory MemoryStore γ}
    (earlier : Charged one first other second) (later : Charged first last second final) :
    Charged one last other final := by
  obtain ⟨bill, here, there⟩ := earlier
  obtain ⟨more, next, also⟩ := later
  exact ⟨bill.and more, here.trans next, there.trans also⟩

theorem Charged.rest (one other : Directory MemoryFactory MemoryStore γ) {first second}
    {built again : Registry (Partition MemoryStore)} {log record : List LogEvent} :
    Charged one { one with factory := first, partitions := built, log := log } other
      { other with factory := second, partitions := again, log := record } :=
  ⟨.nothing, .rest one _ _ _, .rest other _ _ _⟩

theorem Charged.count (one other : Directory MemoryFactory MemoryStore γ) {metric : Metric}
    (apart : metric ≠ .clientPartitions) (amount : Nat) :
    Charged one (one.count metric amount) other (other.count metric amount) :=
  ⟨_, .count one amount apart, .count other amount apart⟩

theorem Charged.wait (one other : Directory MemoryFactory MemoryStore γ) :
    Charged one one.wait other other.wait :=
  ⟨.waiting, .wait one, .wait other⟩

theorem charged_seed (same : a.outlook client = b.outlook client)
    (near : handle.id.openTo client = true) :
    Charged a (a.seed handle) b (b.seed handle) := by
  have many : a.seedPeers = b.seedPeers := congrArg Outlook.seedPeers same
  have sampler : a.sampler = b.sampler := congrArg Outlook.sampler same
  have here : a.floodfillPeers handle = b.floodfillPeers handle :=
    (reading_congr same near).floodfillPeers
  have main : a.floodfillPeers (wellKnown .main) = b.floodfillPeers (wellKnown .main) :=
    (reading_congr same (openTo_wellKnown .main)).floodfillPeers
  simp only [seed, many, sampler, here, main]
  split
  · exact .refl a b
  · split
    · exact (Charged.count a b (by decide) 1).trans (.rest _ _)
    · generalize b.sampler.pick handle b.seedPeers (b.floodfillPeers (wellKnown .main)) = chosen
      have planted : Charged a (chosen.foldl (seedPeer handle) (0, a)).2 b
          (chosen.foldl (seedPeer handle) (0, b)).2 :=
        ⟨.nothing, billed_seedPeers a handle chosen 0, billed_seedPeers b handle chosen 0⟩
      rw [(seedPeers_congr same near chosen).result]
      exact (planted.trans (.count _ _ (by decide) _)).trans (.rest _ _)

variable (turns : Nat)

theorem charged_unregister (same : a.outlook client = b.outlook client) :
    Charged a (a.unregister (.quiet turns) client handle) b
      (b.unregister (.quiet turns) client handle) := by
  unfold unregister
  rw [tracked?_congr same]
  split
  · exact ⟨.gauge, .republish a _ turns, .republish b _ turns⟩
  · exact .refl a b

theorem charged_register (same : a.outlook client = b.outlook client) :
    Charged a (a.register (.quiet turns) client).2 b (b.register (.quiet turns) client).2 := by
  have built := build_congr turns same openTo_client
  have made : Charged a (a.build (.quiet turns) (.client client)).2 b
      (b.build (.quiet turns) (.client client)).2 := .rest a b
  simp only [register, tracked?_congr built.outlook]
  cases (b.build (.quiet turns) (.client client)).2.tracked? client with
  | some handle => exact (made.trans (.count _ _ (by decide) 1)).trans (.rest _ _)
  | none => exact made.trans ⟨.gauge, .republish _ _ turns, .republish _ _ turns⟩

theorem charged_giveUp (same : a.outlook client = b.outlook client) :
    Charged a (a.giveUp (.quiet turns) client handle) b
      (b.giveUp (.quiet turns) client handle) :=
  (charged_unregister turns same).trans (.rest _ _)

omit turns in
theorem charged_goLive (same : a.outlook client = b.outlook client)
    (near : handle.id.openTo client = true) :
    Charged a (a.goLive handle) b (b.goLive handle) :=
  (((charged_seed same near).trans (.rest _ _)).trans (.count _ _ (by simp) 1)).trans (.rest _ _)

theorem charged_bringUp (same : a.outlook client = b.outlook client)
    (near : handle.id.openTo client = true) :
    Charged a (a.bringUp (.quiet turns) client handle).2 b
      (b.bringUp (.quiet turns) client handle).2 := by
  have alike := startStore_congr turns same near
  have started : Charged a (a.startStore (.quiet turns) handle).2 b
      (b.startStore (.quiet turns) handle).2 :=
    ⟨.nothing, billed_startStore a handle turns, billed_startStore b handle turns⟩
  simp only [bringUp_eq, closed_congr same, alike.result]
  split
  · exact charged_giveUp turns same
  · cases (b.startStore (.quiet turns) handle).1 with
    | error failure =>
      exact (started.trans (charged_giveUp turns alike.outlook)).trans (.rest _ _)
    | ok _ => exact started.trans (charged_goLive alike.outlook near)

theorem charged_startClient (same : a.outlook client = b.outlook client)
    (near : handle.id.openTo client = true) :
    Charged a (a.startClient (.quiet turns) client handle).2 b
      (b.startClient (.quiet turns) client handle).2 := by
  unfold startClient
  rw [partition?_congr same near]
  cases b.partition? handle with
  | none => exact .refl a b
  | some partition =>
    dsimp only
    split
    · exact .wait a b
    · cases partition.lifecycle with
      | ready => exact .refl a b
      | shutDown => exact .refl a b
      | creating =>
        have locked : Charged a (a.setLocked handle true) b (b.setLocked handle true) := .rest a b
        have brought := locked.trans (charged_bringUp turns (setLocked_congr same true) near)
        exact brought.trans (.rest _ _)

theorem charged_seek (same : a.outlook client = b.outlook client) :
    Charged a (a.seek (.quiet turns) client).2 b (b.seek (.quiet turns) client).2 := by
  unfold seek
  rw [tracked?_congr same]
  cases b.tracked? client with
  | some handle => exact .refl a b
  | none => exact charged_register turns same

theorem charged_clientWithin (same : a.outlook client = b.outlook client) (looks : Nat) :
    Charged a (clientWithin (.quiet turns) client looks a).2 b
      (clientWithin (.quiet turns) client looks b).2 := by
  induction looks generalizing a b with
  | zero => exact .wait a b
  | succ looks ih =>
    simp only [clientWithin_succ, attend, closed_congr same]
    split
    · exact .refl a b
    · have sought := charged_seek turns same
      obtain ⟨found, same⟩ := seek_congr turns same
      have near : (b.seek (.quiet turns) client).1.id.openTo client = true := by simp [seek_id]
      simp only [found, isReady_congr same near]
      split
      · exact sought
      · have alike := startClient_congr turns same near
        have started := sought.trans (charged_startClient turns same near)
        simp only [alike.result]
        split
        · exact started
        · exact started
        · apply (started.trans (charged_unregister turns alike.outlook)).trans
          exact ih (unregister_congr turns alike.outlook)

theorem charged_resolve (same : a.outlook client = b.outlook client) :
    Charged a (a.resolve (.quiet turns) (some (.client client))).2 b
      (b.resolve (.quiet turns) (some (.client client))).2 := by
  simp only [resolve, isolated_congr same]
  split
  · exact charged_clientWithin turns same turns
  · exact .refl a b

theorem charged_stop (same : a.outlook client = b.outlook client)
    (near : handle.id.openTo client = true) : Charged a (a.stop handle).2 b (b.stop handle).2 := by
  unfold stop
  rw [partition?_congr same near]
  cases b.partition? handle with
  | none => exact .refl a b
  | some partition =>
    dsimp only
    split
    · exact .wait a b
    · cases partition.lifecycle with
      | shutDown => exact .refl a b
      | creating => exact .rest a b
      | ready =>
        have stopped : Charged a (a.stopStore handle) b (b.stopStore handle) :=
          ⟨.nothing, billed_stopStore a handle, billed_stopStore b handle⟩
        exact stopped.trans (.rest _ _)

theorem charged_removeClient (same : a.outlook client = b.outlook client) :
    Charged a (a.removeClient (.quiet turns) client).2 b
      (b.removeClient (.quiet turns) client).2 := by
  unfold removeClient
  rw [tracked?_congr same]
  cases tracked : b.tracked? client with
  | none => exact .rest a b
  | some handle =>
    have near : handle.id.openTo client = true := by simp [id_of_tracked? tracked]
    have struck : (a.unregister (.quiet turns) client handle).outlook client =
        (b.unregister (.quiet turns) client handle).outlook client := unregister_congr turns same
    have stopped := (charged_unregister turns same).trans (charged_stop struck near)
    simp only [(stop_congr struck near).result]
    split
    · exact (stopped.trans (.count _ _ (by simp) 1)).trans (.rest _ _)
    · exact stopped

end Charges

end Directory

end PeerDirectory

import PeerDirectory.Proofs.Anonymity.Lifecycle
import PeerDirectory.Proofs.Run.Gauge

namespace PeerDirectory

variable {mask : Hash → Hash}

theorem Metrics.add_comm (metrics : Metrics) (one other : Metric) (first second : Nat) :
    (metrics.add one first).add other second = (metrics.add other second).add one first := by
  ext1 metric
  simp only [getElem?_add, getD_add]
  split
  · rename_i same
    subst same
    split
    · rename_i equal
      subst equal
      simp only [if_true, Option.some.injEq]
      omega
    · rw [Nat.add_zero]
  · split
    · rename_i apart same
      subst same
      rw [if_neg apart, Nat.add_zero]
    · rfl

theorem Metrics.tally_perm (metrics : Metrics) {counted again : List Metric}
    (same : again.Perm counted) : metrics.tally again = metrics.tally counted :=
  same.foldl_eq' (fun one _ other _ sofar => sofar.add_comm one other 1 1) metrics

theorem Partition.Masked.retire {one other : Partition MemoryStore}
    (masked : one.Masked mask other) : one.retire.Masked mask other.retire := by
  have upright : other.upright = one.upright := by
    simp only [Partition.upright, masked.lifecycle, masked.locked]
  unfold Partition.retire
  rw [upright, masked.lifecycle]
  split
  · split
    · exact ⟨masked.store.shutdown, rfl, masked.locked⟩
    · exact ⟨masked.store, rfl, masked.locked⟩
  · exact masked

namespace Directory

variable {γ : Type} {tied : γ → γ → Prop} {limit : Nat}
  {left right : Directory MemoryFactory MemoryStore γ} {handle : Handle} {client : Hash}
  {one other : Surroundings MemoryFactory MemoryStore γ}

namespace Masked

theorem stop (masked : Masked mask limit tied left right) (handle : Handle) :
    (right.stop (handle.under mask)).1 = (left.stop handle).1 ∧
      Masked mask limit tied (left.stop handle).2 (right.stop (handle.under mask)).2 := by
  rw [stop_eq, stop_eq]
  have stopped := masked.modify handle fun _ _ _ _ partition => partition.retire
  refine ⟨masked.upright handle, { stopped with stuck := ?_ }⟩
  rw [masked.stuck, masked.held]

theorem retireAll (masked : Masked mask limit tied left right) {handles others : List Handle}
    (distinct : handles.Nodup) (same : others.Perm (handles.map (·.under mask))) :
    (others.filter right.upright).length = (handles.filter left.upright).length ∧
      Masked mask limit tied (left.retireAll handles) (right.retireAll others) := by
  have injective := Handle.under_injective masked.apart.injective
  have again : others.Nodup := same.nodup_iff.mpr (distinct.map injective)
  have standing : (others.filter right.upright).Perm
      ((handles.filter left.upright).map (·.under mask)) :=
    (same.filter _).trans (.of_eq (filter_map_of_eq masked.upright handles))
  refine ⟨by rw [standing.length_eq, List.length_map],
    { masked with partitions := fun handle => ?_, metrics := ?_, stuck := ?_, log := ?_ }⟩
  · rw [partition?_retireAll distinct, partition?_retireAll again]
    simp only [same.mem_iff, List.mem_map_of_injective injective]
    have related := masked.partition?_cases handle
    split
    · rcases related with ⟨here, there⟩ | ⟨first, second, here, there, partition⟩
      · rw [here, there]
        exact .none
      · rw [here, there]
        exact .some partition.retire
    · exact masked.partitions handle
  · simp only [Directory.retireAll, masked.metrics]
    apply Metrics.tally_perm
    refine (standing.map _).trans (.of_eq ?_)
    rw [List.map_map]
    exact List.map_congr_left fun handle _ => congrArg Metric.tornDown handle.id.kind_under
  · simp only [Directory.retireAll, masked.stuck]
    congr 1
    rw [Bool.eq_iff_iff, List.any_eq_true, List.any_eq_true]
    simp only [same.mem_iff, List.mem_map]
    constructor
    · rintro ⟨_, ⟨handle, member, rfl⟩, held⟩
      exact ⟨handle, member, (masked.held handle).symm.trans held⟩
    · rintro ⟨handle, member, held⟩
      exact ⟨_, ⟨handle, member, rfl⟩, (masked.held handle).trans held⟩
  · refine MaskedLog.append (MaskedLog.reverse fun kept => ?_) masked.log
    have lines := (standing.map fun handle => LogEvent.partitionShutDown handle.id).map
      LogEvent.shown
    refine lines.trans (.of_eq ?_)
    simp only [List.map_map]
    exact List.map_congr_left fun handle _ =>
      LogEvent.masked_named .partitionShutDown (fun _ => rfl) handle.id kept

theorem standing (masked : Masked mask limit tied left right) :
    right.standing.Perm (left.standing.map (·.under mask)) := by
  unfold Directory.standing
  rw [List.map_append]
  exact .append (.refl _) masked.listed

end Masked

namespace Masking

variable (masking : Masking mask limit tied one other)

include masking

theorem removeClient (masked : Masked mask limit tied left right)
    (roomy : Roomy limit (left.removeClient one client).2.log) :
    Masked mask limit tied (left.removeClient one client).2
      (right.removeClient other (mask client)).2 := by
  unfold Directory.removeClient at roomy ⊢
  rcases masked.tracked?_cases client with ⟨here, there⟩ | ⟨handle, here, there⟩
  · simp only [here, there]
    exact masked.note (LogEvent.masked_nothingToTearDown client)
  · simp only [here] at roomy
    simp only [here, there]
    have struck : Masked mask limit tied (left.unregister one client handle)
        (right.unregister other (mask client) (handle.under mask)) := by
      apply masking.unregister masked
      rw [stop_eq] at roomy
      dsimp only at roomy
      split at roomy
      · exact roomy.before (List.suffix_cons _ _)
      · exact roomy
    obtain ⟨result, stopped⟩ := struck.stop handle
    have kind : (handle.under mask).id.kind = handle.id.kind := handle.id.kind_under
    rw [result, kind]
    split
    · exact (stopped.countOne _).note (LogEvent.masked_named .tornDown (fun _ => rfl) handle.id)
    · exact stopped

theorem shutdown (masked : Masked mask limit tied left right)
    (roomy : Roomy limit (left.shutdown one).log) :
    Masked mask limit tied (left.shutdown one) (right.shutdown other) := by
  rw [shutdown_eq_retireAll] at roomy ⊢
  rw [shutdown_eq_retireAll]
  have emptied : Masked mask limit tied { left with closed := true, clients := ∅ }
      { right with closed := true, clients := ∅ } :=
    { masked with closed := rfl, clients := .empty }
  have closed := masking.publish emptied
    (roomy.before ((List.suffix_append _ _).trans (List.suffix_cons _ _)))
  obtain ⟨count, retired⟩ := closed.retireAll left.nodup_standing masked.standing
  rw [count]
  exact retired.note (LogEvent.masked_self _)

theorem resolve (masked : Masked mask limit tied left right) (id : Option PartitionId)
    (roomy : Roomy limit (left.resolve one id).2.log) :
    Masked mask limit tied (left.resolve one id).2
      (right.resolve other (id.map (·.under mask))).2 := by
  match id with
  | none => exact masked
  | some (.wellKnown role) => exact masked
  | some (.client client) =>
    simp only [Directory.resolve] at roomy
    simp only [Option.map_some, PartitionId.under, Directory.resolve, masked.isolated]
    split
    · rename_i isolated
      rw [if_pos isolated, Directory.client] at roomy
      rw [Directory.client, Directory.client, masking.turns]
      exact masking.clientWithin masked roomy
    · exact masked

theorem perform (masked : Masked mask limit tied left right) (call : Call Tuning Blinding)
    (roomy : Roomy limit (left.perform one call).2.log) :
    Masked mask limit tied (left.perform one call).2
      (right.perform other (call.under mask)).2 := by
  cases call with
  | resolve id => exact masking.resolve masked id roomy
  | clientPartition id =>
    cases id with
    | none => exact masked
    | some id => exact masking.resolve masked (some id) roomy
  | removeClient client => exact masking.removeClient masked roomy
  | setIsolation enabled => exact masked.setIsolation enabled
  | shutdown => exact masking.shutdown masked roomy
  | findLease key => exact masked.findLease key
  | ask question => exact masked
  | insert handle key entry => exact masked.insert handle key entry
  | session client opened => exact masked.session client opened
  | tune tuning =>
    exact { masked with factory := masked.factory.tune masked.apart.injective tuning }
  | touch handle data => exact masked.touchStore handle data (data.under mask)
  | startStore handle => exact (masking.startStore masked roomy).masked
  | stopStore handle => exact masked.stopStore handle

end Masking

end Directory

end PeerDirectory

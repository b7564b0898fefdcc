import PeerDirectory.Clients
import Mathlib.Data.List.Nodup

namespace PeerDirectory.Clients

open Std

variable {clients one other : Clients} {client asked : Hash} {handle : Handle}

theorem ext_find? (same : ∀ client, one.find? client = other.find? client) : one = other := by
  obtain ⟨partitions, own⟩ := one
  obtain ⟨again, owning⟩ := other
  obtain rfl : partitions = again := ExtTreeMap.ext_getElem? same
  rfl

theorem id_of_find? (tracked : clients.find? client = some handle) : handle.id = .client client :=
  clients.own tracked

@[simp] theorem find?_empty : (∅ : Clients).find? client = none :=
  ExtTreeMap.getElem?_empty

theorem eq_empty_of_untracked (untracked : ∀ client, clients.find? client = none) : clients = ∅ :=
  ext_find? fun client => (untracked client).trans find?_empty.symm

@[simp] theorem size_empty : (∅ : Clients).size = 0 :=
  ExtTreeMap.size_empty

theorem find?_insert {own : handle.id = .client client} :
    (clients.insert client handle own).find? asked =
      if asked = client then some handle else clients.find? asked := by
  unfold find? insert
  by_cases same : asked = client
  · simp [same]
  · simp [ExtTreeMap.getElem?_insert, same, Ne.symm same]

theorem find?_erase :
    (clients.erase client).find? asked = if asked = client then none else clients.find? asked := by
  unfold find? erase
  by_cases same : asked = client
  · simp [same]
  · simp [ExtTreeMap.getElem?_erase, same, Ne.symm same]

theorem erase_insert (own : handle.id = .client client) :
    (clients.insert client handle own).erase client = clients.erase client := by
  apply ext_find?
  intro asked
  simp only [find?_erase, find?_insert]
  split <;> rfl

theorem erase_erase : (clients.erase client).erase client = clients.erase client := by
  apply ext_find?
  intro asked
  simp only [find?_erase]
  split <;> rfl

theorem erase_of_untracked (untracked : clients.find? client = none) :
    clients.erase client = clients := by
  apply ext_find?
  intro asked
  rw [find?_erase]
  split
  · rename_i same
    rw [same, untracked]
  · rfl

theorem erase_insert_of_untracked (untracked : clients.find? client = none)
    (own : handle.id = .client client) :
    (clients.insert client handle own).erase client = clients :=
  (erase_insert own).trans (erase_of_untracked untracked)

theorem insert_erase_of_tracked (tracked : clients.find? client = some handle) :
    (clients.erase client).insert client handle (id_of_find? tracked) = clients := by
  apply ext_find?
  intro asked
  simp only [find?_erase, find?_insert]
  split
  · rename_i same
    rw [same, tracked]
  · rfl

theorem mem_handles : handle ∈ clients.handles ↔ ∃ client, clients.find? client = some handle := by
  unfold handles find?
  simp only [List.mem_map, Prod.exists, exists_eq_right,
    ExtTreeMap.mem_toList_iff_getElem?_eq_some]

theorem ascending_handles (clients : Clients) :
    clients.handles.Pairwise fun one other => ∃ client another : Hash,
      one.id = .client client ∧ other.id = .client another ∧ compare client another = .lt := by
  refine List.pairwise_map.mpr (ExtTreeMap.ordered_keys_toList.imp_of_mem ?_)
  intro one other first second before
  exact ⟨one.1, other.1, clients.own (ExtTreeMap.mem_toList_iff_getElem?_eq_some.mp first),
    clients.own (ExtTreeMap.mem_toList_iff_getElem?_eq_some.mp second), before⟩

theorem ids_handles (clients : Clients) (listed : Handle → Bool) :
    ∃ names : List Hash, (clients.handles.filter listed).map (·.id) = names.map .client ∧
      names.Pairwise fun one other => compare one other = .lt := by
  refine ⟨(clients.partitions.toList.filter fun item => listed item.2).map (·.1), ?_, ?_⟩
  · rw [handles, List.filter_map, List.map_map, List.map_map]
    exact List.map_congr_left fun item member =>
      clients.own (ExtTreeMap.mem_toList_iff_getElem?_eq_some.mp (List.mem_filter.mp member).1)
  · exact List.pairwise_map.mpr (ExtTreeMap.ordered_keys_toList.sublist List.filter_sublist)

theorem nodup_handles (clients : Clients) : clients.handles.Nodup := by
  refine clients.ascending_handles.imp ?_
  rintro one other ⟨client, another, named, again, before⟩ rfl
  obtain rfl : client = another := PartitionId.client.inj (named.symm.trans again)
  rw [Std.ReflOrd.compare_self] at before
  cases before

/-- The tracked clients among some. -/
def filter (clients : Clients) (keep : Hash → Bool) : Clients where
  partitions := clients.partitions.filter fun client _ => keep client
  own {client handle} tracked := by
    rw [ExtTreeMap.getElem?_filter', Option.filter_eq_some_iff] at tracked
    exact clients.own tracked.1

theorem find?_filter {keep : Hash → Bool} :
    (clients.filter keep).find? client = if keep client then clients.find? client else none := by
  unfold find? filter
  rw [ExtTreeMap.getElem?_filter']
  cases clients.partitions[client]? <;> simp [Option.filter_some]

theorem handles_filter {keep : Hash → Bool} {keeps : Handle → Bool}
    (same : ∀ {client handle}, clients.find? client = some handle → keep client = keeps handle) :
    (clients.filter keep).handles = clients.handles.filter keeps := by
  unfold handles filter
  rw [ExtTreeMap.toList_filter, List.filter_map]
  congr 1
  exact List.filter_congr fun item listed =>
    same (ExtTreeMap.mem_toList_iff_getElem?_eq_some.mp listed)

theorem length_handles : clients.handles.length = clients.size := by
  rw [handles, List.length_map, ExtTreeMap.length_toList, size]

@[simp] theorem handles_empty : (∅ : Clients).handles = [] :=
  List.eq_nil_of_length_eq_zero (length_handles.trans size_empty)

theorem size_insert_of_untracked (untracked : clients.find? client = none)
    (own : handle.id = .client client) :
    (clients.insert client handle own).size = clients.size + 1 := by
  unfold find? at untracked
  rw [size, insert, ExtTreeMap.size_insert, ExtTreeMap.contains_eq_isSome_getElem?, untracked]
  rfl

theorem size_erase_of_tracked (tracked : clients.find? client = some handle) :
    (clients.erase client).size + 1 = clients.size := by
  have some : 0 < clients.size :=
    length_handles ▸ List.length_pos_of_mem (mem_handles.mpr ⟨client, tracked⟩)
  unfold size find? at *
  rw [erase, ExtTreeMap.size_erase, ExtTreeMap.contains_eq_isSome_getElem?, tracked]
  exact Nat.sub_add_cancel some

end PeerDirectory.Clients

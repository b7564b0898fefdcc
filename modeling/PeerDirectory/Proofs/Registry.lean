import PeerDirectory.Registry
import Mathlib.Data.List.Nodup

namespace PeerDirectory.Registry

open Std

variable {α : Type}

theorem all_add (registry : Registry α) (id other : PartitionId) (thing : α) :
    (registry.add id thing).all other =
      if other = id then registry.all id ++ [thing] else registry.all other := by
  unfold add all
  rw [ExtTreeMap.getD_insert]
  by_cases same : other = id
  · simp [same]
  · simp [same, Ne.symm same]

theorem all_modify (registry : Registry α) (handle : Handle) (other : PartitionId)
    (change : α → α) :
    (registry.modify handle change).all other =
      if other = handle.id then (registry.all other).modify handle.generation change
      else registry.all other := by
  unfold modify all
  cases present : registry.built[handle.id]? with
  | none =>
    by_cases same : other = handle.id
    · simp [same, ExtTreeMap.getD_eq_getD_getElem?, present]
    · simp [same]
  | some things =>
    by_cases same : other = handle.id
    · simp [same, ExtTreeMap.getD_eq_getD_getElem?, present]
    · simp [same, Ne.symm same, ExtTreeMap.getD_insert]

theorem get?_next (registry : Registry α) (id : PartitionId) :
    registry.get? (registry.next id) = none := by
  simp [get?, next]

theorem get?_add (registry : Registry α) (id : PartitionId) (thing : α) (handle : Handle) :
    (registry.add id thing).get? handle =
      if handle = registry.next id then some thing else registry.get? handle := by
  obtain ⟨other, generation⟩ := handle
  unfold get?
  rw [all_add]
  by_cases same : other = id
  · subst same
    by_cases last : generation = (registry.all other).length
    · simp [next, last]
    · rcases Nat.lt_or_ge generation (registry.all other).length with before | after
      · simp [next, last, List.getElem?_append_left before]
      · have past : (registry.all other).length < generation := by omega
        simp [next, last, List.getElem?_append_right after, after]
        omega
  · simp [same, next]

theorem get?_modify (registry : Registry α) (handle other : Handle) (change : α → α) :
    (registry.modify handle change).get? other =
      if other = handle then (registry.get? handle).map change else registry.get? other := by
  obtain ⟨id, generation⟩ := other
  unfold get?
  rw [all_modify]
  by_cases same : id = handle.id
  · by_cases number : generation = handle.generation
    · simp [same, number]
    · have apart : (⟨id, generation⟩ : Handle) ≠ handle := by
        rintro rfl
        exact number rfl
      simp [same, Ne.symm number]
      simp [← same, apart]
  · have apart : (⟨id, generation⟩ : Handle) ≠ handle := by
      rintro rfl
      exact same rfl
    simp [same, apart]

theorem next_modify (registry : Registry α) (handle : Handle) (id : PartitionId)
    (change : α → α) : (registry.modify handle change).next id = registry.next id := by
  unfold next
  rw [all_modify]
  split <;> simp

theorem next_add (registry : Registry α) (id other : PartitionId) (thing : α) :
    (registry.add id thing).next other =
      if other = id then ⟨id, (registry.next id).generation + 1⟩ else registry.next other := by
  unfold next
  rw [all_add]
  by_cases same : other = id
  · simp [same]
  · simp [same]

theorem modify_modify (registry : Registry α) (handle : Handle) (first second : α → α) :
    (registry.modify handle first).modify handle second =
      registry.modify handle fun thing => second (first thing) := by
  cases present : registry.built[handle.id]? with
  | none => simp [modify, present]
  | some things =>
    simp only [modify, present, ExtTreeMap.getElem?_insert_self, Registry.mk.injEq]
    ext1 other
    by_cases same : other = handle.id
    · simp [same, List.modify_modify_eq, Function.comp_def]
    · simp [ExtTreeMap.getElem?_insert, Ne.symm same]

theorem modify_add_next (registry : Registry α) (id : PartitionId) (thing : α) (change : α → α) :
    (registry.add id thing).modify (registry.next id) change = registry.add id (change thing) := by
  have appended : (registry.all id ++ [thing]).modify (registry.all id).length change =
      registry.all id ++ [change thing] := by
    apply List.ext_getElem?
    intro place
    rw [List.getElem?_modify]
    by_cases last : (registry.all id).length = place
    · subst last
      simp
    · rcases Nat.lt_or_ge place (registry.all id).length with before | after
      · simp [last, List.getElem?_append_left before]
      · have past : place - (registry.all id).length ≠ 0 := by omega
        simp [last, List.getElem?_append_right after, past]
  simp only [modify, add, next, ExtTreeMap.getElem?_insert_self, appended, Registry.mk.injEq]
  ext1 other
  by_cases same : other = id
  · simp [same]
  · simp [ExtTreeMap.getElem?_insert, Ne.symm same]

theorem modify_congr {registry : Registry α} {handle : Handle} {first second : α → α}
    (same : ∀ thing, registry.get? handle = some thing → first thing = second thing) :
    registry.modify handle first = registry.modify handle second := by
  cases present : registry.built[handle.id]? with
  | none => simp [modify, present]
  | some things =>
    have changed : things.modify handle.generation first =
        things.modify handle.generation second := by
      apply List.ext_getElem?
      intro place
      rw [List.getElem?_modify, List.getElem?_modify]
      by_cases number : handle.generation = place
      · subst number
        cases here : things[handle.generation]? with
        | none => rfl
        | some thing =>
          have found : registry.get? handle = some thing := by
            simp [get?, all, ExtTreeMap.getD_eq_getD_getElem?, present, here]
          simp [same thing found]
      · simp [number]
    simp only [modify, present, changed]

theorem next_of_get? {registry again : Registry α} {id : PartitionId}
    (same : ∀ generation, again.get? ⟨id, generation⟩ = none ↔
      registry.get? ⟨id, generation⟩ = none) : again.next id = registry.next id := by
  have length : (again.all id).length = (registry.all id).length := by
    simp only [get?, List.getElem?_eq_none_iff] at same
    exact Nat.le_antisymm ((same _).mpr (Nat.le_refl _)) ((same _).mp (Nat.le_refl _))
  simp only [next, length]

theorem modify_of_fixed {registry : Registry α} {handle : Handle} {change : α → α}
    (fixed : ∀ thing, registry.get? handle = some thing → change thing = thing) :
    registry.modify handle change = registry := by
  cases present : registry.built[handle.id]? with
  | none => simp [modify, present]
  | some things =>
    have same : things.modify handle.generation change = things := by
      apply List.ext_getElem?
      intro place
      rw [List.getElem?_modify]
      by_cases number : handle.generation = place
      · subst number
        cases here : things[handle.generation]? with
        | none => rfl
        | some thing =>
          have found : registry.get? handle = some thing := by
            simp [get?, all, ExtTreeMap.getD_eq_getD_getElem?, present, here]
          simp [fixed thing found]
      · simp [number]
    simp only [modify, present, same]
    congr 1
    ext1 other
    by_cases which : other = handle.id
    · simp [which, present]
    · simp [ExtTreeMap.getElem?_insert, Ne.symm which]

def handles (registry : Registry α) : List Handle :=
  registry.built.toList.flatMap fun item => (List.range item.2.length).map (Handle.mk item.1)

theorem mem_handles {registry : Registry α} {handle : Handle} :
    handle ∈ registry.handles ↔ registry.get? handle ≠ none := by
  obtain ⟨id, generation⟩ := handle
  simp only [handles, List.mem_flatMap, List.mem_map, List.mem_range, get?, all]
  constructor
  · rintro ⟨item, listed, number, below, same⟩
    obtain ⟨rfl, rfl⟩ := Handle.mk.inj same
    have found : registry.built[item.1]? = some item.2 :=
      ExtTreeMap.mem_toList_iff_getElem?_eq_some.mp listed
    simp [ExtTreeMap.getD_eq_getD_getElem?, found, below]
  · intro present
    cases found : registry.built[id]? with
    | none => simp [ExtTreeMap.getD_eq_getD_getElem?, found] at present
    | some things =>
      refine ⟨(id, things), ExtTreeMap.mem_toList_iff_getElem?_eq_some.mpr found, generation, ?_,
        rfl⟩
      simpa [ExtTreeMap.getD_eq_getD_getElem?, found] using present

theorem nodup_handles (registry : Registry α) : registry.handles.Nodup := by
  refine List.nodup_flatMap.mpr ⟨fun item _ => ?_, ?_⟩
  · refine List.Nodup.map (fun one other same => congrArg Handle.generation same) List.nodup_range
  · have ordered : registry.built.toList.Pairwise fun one other =>
        compare one.1 other.1 = .lt := ExtTreeMap.ordered_keys_toList
    refine ordered.imp fun {one other} before handle first second => ?_
    obtain ⟨_, -, rfl⟩ := List.mem_map.mp first
    obtain ⟨_, -, same⟩ := List.mem_map.mp second
    have again : other.1 = one.1 := congrArg Handle.id same
    simp [again] at before

end PeerDirectory.Registry

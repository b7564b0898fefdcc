import PeerDirectory.Proofs.Anonymity.Masks
import PeerDirectory.Proofs.Directory.Seeding
import Mathlib.Data.List.Nodup

namespace PeerDirectory

open Std

variable {mask : Hash → Hash}

def MaskedMap {α β : Type} (mask : Hash → Hash) (change : α → β) (one : ExtTreeMap Hash α)
    (other : ExtTreeMap Hash β) : Prop :=
  ∀ key : Hash, other[mask key]? = one[key]?.map change

namespace MaskedMap

variable {α β : Type} {change : α → β} {one : ExtTreeMap Hash α} {other : ExtTreeMap Hash β}

theorem empty : MaskedMap mask change ∅ ∅ := fun key => by simp

theorem insert (masked : MaskedMap mask change one other) (injective : Function.Injective mask)
    (key : Hash) (value : α) :
    MaskedMap mask change (one.insert key value) (other.insert (mask key) (change value)) := by
  intro again
  by_cases same : key = again
  · simp [same]
  · simp [ExtTreeMap.getElem?_insert, same, injective.eq_iff, masked again]

theorem erase (masked : MaskedMap mask change one other) (injective : Function.Injective mask)
    (key : Hash) : MaskedMap mask change (one.erase key) (other.erase (mask key)) := by
  intro again
  by_cases same : key = again
  · simp [same]
  · simp [ExtTreeMap.getElem?_erase, same, injective.eq_iff, masked again]

theorem contains (masked : MaskedMap mask change one other) (key : Hash) :
    other.contains (mask key) = one.contains key := by
  rw [ExtTreeMap.contains_eq_isSome_getElem?, ExtTreeMap.contains_eq_isSome_getElem?, masked key,
    Option.isSome_map]

theorem nodup_toList {γ : Type} (map : ExtTreeMap Hash γ) : (map.toList.map (·.1)).Nodup := by
  rw [ExtTreeMap.map_fst_toList_eq_keys]
  exact ExtTreeMap.nodup_keys

theorem toList (masked : MaskedMap mask change one other) (bijective : Function.Bijective mask) :
    other.toList.Perm (one.toList.map fun item => (mask item.1, change item.2)) := by
  have keys : ((one.toList.map fun item => (mask item.1, change item.2)).map (·.1)).Nodup := by
    rw [List.map_map]
    have listed := (nodup_toList one).map bijective.injective
    rwa [List.map_map] at listed
  rw [List.perm_ext_iff_of_nodup (.of_map _ (nodup_toList other)) (.of_map _ keys)]
  rintro ⟨key, value⟩
  obtain ⟨hidden, rfl⟩ := bijective.surjective key
  rw [ExtTreeMap.mem_toList_iff_getElem?_eq_some, masked hidden, Option.map_eq_some_iff]
  simp only [List.mem_map, Prod.exists, ExtTreeMap.mem_toList_iff_getElem?_eq_some, Prod.mk.injEq,
    bijective.injective.eq_iff]
  constructor
  · rintro ⟨kept, held, changed⟩
    exact ⟨hidden, kept, held, rfl, changed⟩
  · rintro ⟨again, kept, held, rfl, changed⟩
    exact ⟨kept, held, changed⟩

theorem size (masked : MaskedMap mask change one other) (bijective : Function.Bijective mask) :
    other.size = one.size := by
  have listed := (masked.toList bijective).length_eq
  rwa [List.length_map, ExtTreeMap.length_toList, ExtTreeMap.length_toList] at listed

theorem length_distinct [Ord β] [TransOrd β] [LawfulEqOrd β] [DecidableEq β] [Ord α] [TransOrd α]
    [LawfulEqOrd α] [DecidableEq α] (masked : MaskedMap mask change one other)
    (bijective : Function.Bijective mask) (injective : Function.Injective change) :
    (distinct (other.toList.map (·.2))).length = (distinct (one.toList.map (·.2))).length := by
  have same : (distinct (other.toList.map (·.2))).Perm
      ((distinct (one.toList.map (·.2))).map change) := by
    rw [List.perm_ext_iff_of_nodup (nodup_distinct _) ((nodup_distinct _).map injective)]
    intro value
    have listed := (masked.toList bijective).map (·.2)
    rw [List.map_map] at listed
    rw [mem_distinct, listed.mem_iff]
    simp only [List.mem_map, mem_distinct, Function.comp_apply]
    constructor
    · rintro ⟨item, member, rfl⟩
      exact ⟨item.2, ⟨item, member, rfl⟩, rfl⟩
    · rintro ⟨_, ⟨item, member, rfl⟩, rfl⟩
      exact ⟨item, member, rfl⟩
  rw [same.length_eq, List.length_map]

end MaskedMap

def Failure.Masked (mask : Hash → Hash) (one other : Failure) : Prop :=
  KeepsShort mask → other.message = one.message

namespace Failure

theorem masked_closed : closed.Masked mask closed := fun _ => rfl

theorem masked_startup (id : PartitionId) (reason : String) :
    (startup id reason).Masked mask (startup (id.under mask) reason) :=
  fun kept => congrArg (fun text => "Store startup failed for " ++ text ++ ": " ++ reason)
    (kept.text id)

theorem masked_storeShutDown (id : PartitionId) :
    (storeShutDown id).Masked mask (storeShutDown (id.under mask)) :=
  fun kept => congrArg (fun text => "Store for " ++ text ++ " is shut down") (kept.text id)

theorem masked_refused (key : Hash) :
    (store ("refused " ++ key.short)).Masked mask (store ("refused " ++ (mask key).short)) :=
  fun kept => congrArg (fun text => "Store error: " ++ ("refused " ++ text)) (kept.short key)

end Failure

inductive ResultMasked (mask : Hash → Hash) {α : Type} : Except Failure α → Except Failure α → Prop
  | ok (value : α) : ResultMasked mask (.ok value) (.ok value)
  | error {one other : Failure} (masked : one.Masked mask other) :
    ResultMasked mask (.error one) (.error other)

namespace MemoryStore

structure Masked (mask : Hash → Hash) (one other : MemoryStore) : Prop where
  id : other.id = one.id.under mask
  routers : MaskedMap mask (·.under mask) one.routers other.routers
  leaseSets : MaskedMap mask (·.under mask) one.leaseSets other.leaseSets
  started : other.started = one.started
  stopped : other.stopped = one.stopped
  failing : other.failing = one.failing
  refused : other.refused = one.refused.map mask

variable {one other : MemoryStore}

theorem masked_empty (id : PartitionId) (failing : Bool) :
    (empty id failing).Masked mask (empty (id.under mask) failing) :=
  ⟨rfl, .empty, .empty, rfl, rfl, rfl, rfl⟩

namespace Masked

theorem startup (masked : one.Masked mask other) :
    ResultMasked mask one.startup.1 other.startup.1 ∧ one.startup.2.Masked mask other.startup.2 := by
  cases other
  obtain ⟨rfl, routers, leaseSets, rfl, rfl, rfl, rfl⟩ := masked
  unfold MemoryStore.startup
  dsimp only
  split
  · exact ⟨.error (Failure.masked_storeShutDown _), rfl, routers, leaseSets, rfl, rfl, rfl, rfl⟩
  · split
    · exact ⟨.error (Failure.masked_startup _ _), rfl, routers, leaseSets, rfl, rfl, rfl, rfl⟩
    · exact ⟨.ok (), rfl, routers, leaseSets, rfl, rfl, rfl, rfl⟩

theorem shutdown (masked : one.Masked mask other) : one.shutdown.Masked mask other.shutdown :=
  { masked with stopped := rfl }

theorem put (masked : one.Masked mask other) (injective : Function.Injective mask) (key : Hash)
    (entry : Entry) :
    (one.put key entry).Masked mask (other.put (mask key) (entry.under mask)) := by
  cases entry with
  | router descriptor =>
    exact { masked with routers := masked.routers.insert injective key descriptor }
  | lease record => exact { masked with leaseSets := masked.leaseSets.insert injective key record }

theorem refusal? (masked : one.Masked mask other) (injective : Function.Injective mask)
    (key : Hash) :
    Option.Rel (Failure.Masked mask) (one.refusal? key) (other.refusal? (mask key)) := by
  have listed : mask key ∈ one.refused.map mask ↔ key ∈ one.refused := by
    simp [injective.eq_iff]
  cases other
  obtain ⟨rfl, -, -, rfl, rfl, rfl, rfl⟩ := masked
  unfold MemoryStore.refusal?
  simp only [listed]
  split
  · exact .some (Failure.masked_refused key)
  · split
    · exact .some (Failure.masked_storeShutDown _)
    · exact .none

theorem insert (masked : one.Masked mask other) (injective : Function.Injective mask) (key : Hash)
    (entry : Entry) :
    ResultMasked mask (one.insert key entry).1 (other.insert (mask key) (entry.under mask)).1 ∧
      (one.insert key entry).2.Masked mask (other.insert (mask key) (entry.under mask)).2 := by
  have refusals := masked.refusal? injective key
  rw [one.insert_eq, other.insert_eq]
  generalize one.refusal? key = left at *
  generalize other.refusal? (mask key) = right at *
  cases refusals with
  | none => exact ⟨.ok (), masked.put injective key entry⟩
  | some reads => exact ⟨.error reads, masked⟩

theorem setBlinding (masked : one.Masked mask other) (data again : Blinding) :
    ResultMasked mask (one.setBlinding data).1 (other.setBlinding again).1 ∧
      (one.setBlinding data).2.Masked mask (other.setBlinding again).2 := by
  cases other
  obtain ⟨rfl, routers, leaseSets, rfl, rfl, rfl, rfl⟩ := masked
  unfold MemoryStore.setBlinding
  dsimp only
  split
  · exact ⟨.error (Failure.masked_storeShutDown _), rfl, routers, leaseSets, rfl, rfl, rfl, rfl⟩
  · exact ⟨.ok (), rfl, routers, leaseSets, rfl, rfl, rfl, rfl⟩

theorem lookup (masked : one.Masked mask other) (key : Hash) :
    other.lookup (mask key) = (one.lookup key).map (·.under mask) := by
  unfold MemoryStore.lookup
  rw [masked.leaseSets key, masked.routers key]
  cases one.leaseSets[key]? with
  | some record => rfl
  | none => cases one.routers[key]? <;> rfl

theorem floodfillPeers (masked : one.Masked mask other) (bijective : Function.Bijective mask) :
    other.floodfillPeers.Perm (one.floodfillPeers.map mask) := by
  unfold MemoryStore.floodfillPeers
  refine (((masked.routers.toList bijective).filter _).map _).trans (.of_eq ?_)
  rw [List.filter_map, List.map_map, List.map_map]
  rfl

theorem length_knownRouters (masked : one.Masked mask other)
    (bijective : Function.Bijective mask) :
    other.knownRouters.length = one.knownRouters.length :=
  masked.routers.length_distinct bijective (Router.under_injective bijective.injective)

theorem length_knownLeaseSets (masked : one.Masked mask other)
    (bijective : Function.Bijective mask) :
    other.knownLeaseSets.length = one.knownLeaseSets.length :=
  masked.leaseSets.length_distinct bijective (LeaseSet.under_injective bijective.injective)

theorem isInitialized (masked : one.Masked mask other) :
    other.isInitialized = one.isInitialized := by
  simp only [MemoryStore.isInitialized, masked.started, masked.stopped]

theorem claims (masked : one.Masked mask other) (injective : Function.Injective mask) (key : Hash) :
    other.claims (mask key) = one.claims key := by
  unfold MemoryStore.claims
  rw [masked.id, masked.leaseSets.contains key]
  cases one.id with
  | wellKnown role => rfl
  | client client => simp [PartitionId.under, PartitionId.destination?, injective.eq_iff]

end Masked

theorem insert_comm {α : Type} (map : ExtTreeMap Hash α) {one other : Hash} (apart : one ≠ other)
    (first second : α) :
    (map.insert one first).insert other second = (map.insert other second).insert one first := by
  ext1 key
  simp only [ExtTreeMap.getElem?_insert, LawfulEqOrd.compare_eq_iff_eq]
  split
  · rename_i same
    rw [if_neg (same ▸ apart)]
  · rfl

theorem plant_perm (store : MemoryStore) {routers others : List (Hash × Router)}
    (same : routers.Perm others) (distinct : (routers.map (·.1)).Nodup) :
    store.plant routers = store.plant others := by
  unfold plant
  congr 1
  refine same.foldl_eq' (fun one first other second held => ?_) _
  by_cases equal : one.1 = other.1
  · rw [List.inj_on_of_nodup_map distinct first second equal]
  · exact insert_comm held equal one.2 other.2

namespace Masked

theorem plant (masked : one.Masked mask other) (injective : Function.Injective mask)
    (routers : List (Hash × Router)) :
    (one.plant routers).Masked mask
      (other.plant (routers.map (Prod.map mask (·.under mask)))) := by
  induction routers generalizing one other with
  | nil => exact masked
  | cons item rest ih => exact ih (masked.put injective item.1 (.router item.2))

theorem welcome (masked : one.Masked mask other) (injective : Function.Injective mask)
    (routers : List (Hash × Router)) :
    other.welcome (routers.map (Prod.map mask (·.under mask))) =
      (one.welcome routers).map (Prod.map mask (·.under mask)) := by
  refine filter_map_of_eq (fun item => ?_) routers
  have refusals := masked.refusal? injective item.1
  rw [Prod.map_fst]
  generalize one.refusal? item.1 = left at *
  generalize other.refusal? (mask item.1) = right at *
  cases refusals <;> rfl

end Masked

end MemoryStore

namespace MemoryFactory

structure Masked (mask : Hash → Hash) (one other : MemoryFactory) : Prop where
  failing : ∀ id, other.failing.contains (id.under mask) = one.failing.contains id
  peculiarities : other.peculiarities = one.peculiarities.map (·.under mask)

namespace Masked

variable {one other : MemoryFactory}

theorem fail (masked : one.Masked mask other) (injective : Function.Injective mask)
    (id : PartitionId) : (one.fail id).Masked mask (other.fail (id.under mask)) := by
  refine ⟨fun again => ?_, masked.peculiarities⟩
  simp only [MemoryFactory.fail, ExtTreeSet.contains_insert, masked.failing again,
    compare_injective (PartitionId.under_injective injective)]

theorem allow (masked : one.Masked mask other) (injective : Function.Injective mask)
    (id : PartitionId) : (one.allow id).Masked mask (other.allow (id.under mask)) := by
  refine ⟨fun again => ?_, masked.peculiarities⟩
  simp only [MemoryFactory.allow, ExtTreeSet.contains_erase, masked.failing again, bne,
    compare_injective (PartitionId.under_injective injective)]

theorem tune (masked : one.Masked mask other) (injective : Function.Injective mask)
    (tuning : Tuning) :
    MemoryFactory.Masked mask (Backdoor.tune MemoryStore tuning one)
      (Backdoor.tune MemoryStore (tuning.under mask) other) := by
  cases tuning with
  | fail id => exact masked.fail injective id
  | allow id => exact masked.allow injective id

theorem find? (masked : one.Masked mask other) (injective : Function.Injective mask)
    (id : PartitionId) :
    (other.peculiarities.find? (·.id = id.under mask)) =
      (one.peculiarities.find? (·.id = id)).map (·.under mask) := by
  rw [masked.peculiarities, List.find?_map]
  congr 2
  funext special
  simp [Peculiarity.under, (PartitionId.under_injective injective).eq_iff]

theorem fresh (masked : one.Masked mask other) (injective : Function.Injective mask)
    (id : PartitionId) : (one.fresh id).Masked mask (other.fresh (id.under mask)) := by
  have bare : (MemoryStore.empty id (one.failing.contains id)).Masked mask
      (MemoryStore.empty (id.under mask) (one.failing.contains id)) :=
    MemoryStore.masked_empty id _
  unfold MemoryFactory.fresh
  simp only [masked.find? injective id, masked.failing id]
  cases one.peculiarities.find? (·.id = id) with
  | none => exact bare
  | some special =>
    have filled (held : List Router) {store again : MemoryStore} (masked : store.Masked mask again) :
        (held.foldl (fun store router => store.put router.identity (.router router)) store).Masked
          mask ((held.map (·.under mask)).foldl
            (fun store router => store.put router.identity (.router router)) again) := by
      induction held generalizing store again with
      | nil => exact masked
      | cons router rest ih => exact ih (masked.put injective router.identity (.router router))
    exact { filled special.held bare with refused := rfl }

end Masked

end MemoryFactory

end PeerDirectory

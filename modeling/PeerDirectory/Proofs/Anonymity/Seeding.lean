import PeerDirectory.Proofs.Anonymity.Directories

namespace PeerDirectory

variable {mask : Hash → Hash}

def LogEvent.available : LogEvent → Nat
  | seeded _ _ available => available
  | _ => 0

/-- Whenever a partition was seeded, main had no more floodfill peers than may be chosen. -/
def Roomy (limit : Nat) (log : List LogEvent) : Prop := ∀ event ∈ log, event.available ≤ limit

theorem Roomy.before {limit : Nat} {earlier log : List LogEvent} (roomy : Roomy limit log)
    (grown : earlier <:+ log) : Roomy limit earlier :=
  fun event noted => roomy event (grown.subset noted)

theorem Sampler.pick_perm (sampler : Sampler) (handle : Handle) {count : Nat} {peers : List Hash}
    (distinct : peers.Nodup) (few : peers.length ≤ count) :
    (sampler.pick handle count peers).Perm peers := by
  have chosen : (sampler.pick handle count peers).Subperm peers :=
    (sampler.nodup_pick handle count peers distinct).subperm
    (sampler.mem_of_mem_pick handle count peers)
  apply chosen.perm_of_length_le
  rw [sampler.length_pick]
  omega

theorem MemoryStore.nodup_floodfillPeers (store : MemoryStore) : store.floodfillPeers.Nodup :=
  (MaskedMap.nodup_toList store.routers).sublist (List.filter_sublist.map _)

theorem MaskedLog.append {one other first second : List LogEvent}
    (later : MaskedLog mask one other) (earlier : MaskedLog mask first second) :
    MaskedLog mask (one ++ first) (other ++ second) := by
  intro kept
  rw [List.map_append, List.map_append]
  exact (later kept).append (earlier kept)

theorem MaskedLog.reverse {one other : List LogEvent} (masked : MaskedLog mask one other) :
    MaskedLog mask one.reverse other.reverse := by
  intro kept
  rw [List.map_reverse, List.map_reverse]
  exact (List.reverse_perm _).trans ((masked kept).trans (List.reverse_perm _).symm)

namespace Directory

variable {γ : Type} {tied : γ → γ → Prop} {limit : Nat}
  {left right : Directory MemoryFactory MemoryStore γ} {handle : Handle}

theorem nodup_floodfillPeers (directory : Directory MemoryFactory MemoryStore γ) (handle : Handle) :
    (directory.floodfillPeers handle).Nodup := by
  rw [floodfillPeers, ask]
  cases directory.store? handle with
  | none => exact List.nodup_nil
  | some store => exact store.nodup_floodfillPeers

theorem nodup_seeds {peers : List Hash} (distinct : peers.Nodup) :
    ((left.seeds peers).map (·.1)).Nodup := by
  rw [seeds, List.map_filterMap]
  refine distinct.filterMap fun one other key first second => ?_
  simp only [Option.map_map, Option.mem_def, Option.map_eq_some_iff, Function.comp_apply]
    at first second
  obtain ⟨-, -, rfl⟩ := first
  obtain ⟨-, -, same⟩ := second
  exact same.symm

theorem maskedLog_unplanted {one other : MemoryStore} (store : one.Masked mask other)
    (injective : Function.Injective mask) (id : PartitionId) (routers : List (Hash × Router)) :
    MaskedLog mask (routers.filterMap (unplanted? id one))
      ((routers.map (Prod.map mask (·.under mask))).filterMap
        (unplanted? (id.under mask) other)) := by
  intro kept
  rw [List.filterMap_map, List.map_filterMap, List.map_filterMap]
  refine .of_eq (List.filterMap_congr fun item _ => ?_)
  have refusals := store.refusal? injective item.1
  simp only [Function.comp_apply, unplanted?, Prod.map_fst]
  generalize one.refusal? item.1 = first at *
  generalize other.refusal? (mask item.1) = second at *
  cases refusals with
  | none => rfl
  | some reads => exact congrArg some (LogEvent.masked_seedRefused id item.1 reads kept)

namespace Masked

theorem seeds (masked : Masked mask limit tied left right) (peers : List Hash) :
    right.seeds (peers.map mask) = (left.seeds peers).map (Prod.map mask (·.under mask)) := by
  rw [Directory.seeds, Directory.seeds, List.filterMap_map, List.map_filterMap]
  refine List.filterMap_congr fun peer _ => ?_
  have offered := masked.lookupRouter (wellKnown .main) peer
  rw [under_wellKnown] at offered
  rw [Function.comp_apply, offered]
  cases left.lookupRouter (wellKnown .main) peer <;> rfl

theorem seedPeers_foldl (masked : Masked mask limit tied left right)
    (apart : wellKnown .main ≠ handle) (present : (left.store? handle).isSome)
    {peers others : List Hash} (distinct : peers.Nodup) (same : others.Perm (peers.map mask)) :
    (others.foldl (seedPeer (handle.under mask)) (0, right)).1 =
        (peers.foldl (seedPeer handle) (0, left)).1 ∧
      Masked mask limit tied (peers.foldl (seedPeer handle) (0, left)).2
        (others.foldl (seedPeer (handle.under mask)) (0, right)).2 := by
  have injective := masked.apart.injective
  have away : wellKnown .main ≠ handle.under mask :=
    (Handle.under_injective injective).ne apart
  obtain ⟨one, here⟩ := Option.isSome_iff_exists.mp present
  rcases masked.store?_cases handle with ⟨absent, -⟩ | ⟨_, other, found, there, store⟩
  · cases here.symm.trans absent
  obtain rfl := Option.some.inj (here.symm.trans found)
  rw [seedPeers_eq apart here, seedPeers_eq away there]
  have offered : (right.seeds others).Perm
      ((left.seeds peers).map (Prod.map mask (·.under mask))) :=
    (same.filterMap _).trans (.of_eq (masked.seeds peers))
  have welcome : (other.welcome (right.seeds others)).Perm
      ((one.welcome (left.seeds peers)).map (Prod.map mask (·.under mask))) :=
    (offered.filter _).trans (.of_eq (store.welcome injective _))
  have keys : ((one.welcome (left.seeds peers)).map (·.1)).Nodup :=
    (nodup_seeds distinct).sublist (List.filter_sublist.map _)
  have planted := masked.setStore handle (store.plant injective (one.welcome (left.seeds peers)))
  have unplanted := maskedLog_unplanted store injective handle.id (left.seeds peers)
  refine ⟨by simp only [welcome.length_eq, List.length_map], ?_⟩
  have order : other.plant (other.welcome (right.seeds others)) =
      other.plant ((one.welcome (left.seeds peers)).map (Prod.map mask (·.under mask))) := by
    apply other.plant_perm welcome
    have masked := keys.map injective
    rw [List.map_map] at masked
    rw [(welcome.map _).nodup_iff, List.map_map]
    exact masked
  rw [order]
  refine { planted with log := ?_ }
  refine MaskedLog.append (MaskedLog.reverse fun kept => ?_) masked.log
  exact ((offered.filterMap _).map _).trans (unplanted kept)

theorem floodfillPeers_eq_nil (masked : Masked mask limit tied left right) (handle : Handle) :
    right.floodfillPeers (handle.under mask) = [] ↔ left.floodfillPeers handle = [] := by
  have length := (masked.floodfillPeers handle).length_eq
  rw [List.length_map] at length
  rw [← List.length_eq_zero_iff, ← List.length_eq_zero_iff, length]

theorem seed (masked : Masked mask limit tied left right) (apart : wellKnown .main ≠ handle)
    (present : (left.store? handle).isSome) (roomy : Roomy limit (left.seed handle).log) :
    Masked mask limit tied (left.seed handle) (right.seed (handle.under mask)) := by
  have main := masked.floodfillPeers (wellKnown .main)
  have empty := masked.floodfillPeers_eq_nil (wellKnown .main)
  rw [under_wellKnown] at main empty
  unfold Directory.seed at roomy ⊢
  simp only [masked.seedPeers, ne_eq, masked.floodfillPeers_eq_nil handle, empty] at roomy ⊢
  split
  · exact masked
  · rename_i begun
    rw [if_neg begun] at roomy
    split
    · exact (masked.countOne .seedingSkipped).note
        (LogEvent.masked_named .seedingSkipped (fun _ => rfl) handle.id)
    · rename_i supplied
      rw [if_neg supplied] at roomy
      have few : (left.floodfillPeers (wellKnown .main)).length ≤ left.seedPeers := by
        rw [masked.limit]
        exact roomy _ List.mem_cons_self
      have length := main.length_eq
      rw [List.length_map] at length
      have chosen := left.sampler.pick_perm handle (left.nodup_floodfillPeers _) few
      have again := right.sampler.pick_perm (handle.under mask) (right.nodup_floodfillPeers _)
        (length ▸ few)
      have distinct := chosen.nodup_iff.mpr (left.nodup_floodfillPeers (wellKnown .main))
      obtain ⟨count, seeded⟩ := masked.seedPeers_foldl apart present distinct
        (again.trans (main.trans (chosen.map mask).symm))
      rw [count, length]
      exact (seeded.count .seededPeers _).note (LogEvent.masked_seeded handle.id _ _)

end Masked

end Directory

end PeerDirectory

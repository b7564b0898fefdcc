import PeerDirectory.Proofs.Directory.Launch
import PeerDirectory.Proofs.Directory.Seeding
import PeerDirectory.Proofs.Vitals

namespace PeerDirectory

open Std

namespace MemoryStore

variable {store : MemoryStore}

theorem floodfillPeers_startup (store : MemoryStore) :
    store.startup.2.floodfillPeers = store.floodfillPeers := by
  unfold floodfillPeers
  rw [store.startup_holds.1]

theorem refusal?_of_running (running : store.stopped = false) (key : Hash) :
    store.refusal? key = none ↔ key ∉ store.refused := by
  unfold refusal?
  by_cases refused : key ∈ store.refused <;> simp [refused, running]

theorem routers_plant {routers : List (Hash × Router)} (distinct : (routers.map (·.1)).Nodup)
    (key : Hash) (router : Router) :
    (store.plant routers).routers[key]? = some router ↔
      (key, router) ∈ routers ∨
        key ∉ routers.map (·.1) ∧ store.routers[key]? = some router := by
  induction routers generalizing store with
  | nil => simp [plant]
  | cons item rest ih =>
    obtain ⟨planted, descriptor⟩ := item
    obtain ⟨absent, distinct⟩ := List.nodup_cons.mp distinct
    rw [plant_cons, ih distinct]
    simp only [put, ExtTreeMap.getElem?_insert, List.mem_cons, List.map_cons, not_or,
      Prod.mk.injEq]
    by_cases same : key = planted
    · subst same
      have elsewhere : (key, router) ∉ rest := fun member =>
        absent (List.mem_map.mpr ⟨_, member, rfl⟩)
      simp [absent, elsewhere, eq_comm]
    · simp [same, Ne.symm same]

end MemoryStore

namespace Directory

structure Sowing where
  planted : List (Hash × Router)
  counted : Option (Metric × Nat)
  noted : List LogEvent

def Sowing.count (sowing : Sowing) (metrics : Metrics) : Metrics :=
  match sowing.counted with
  | none => metrics
  | some (metric, amount) => metrics.add metric amount

section Seeding

variable {φ γ : Type} {directory : Directory φ MemoryStore γ} {handle : Handle}
  {store : MemoryStore}

def sowing (directory : Directory φ MemoryStore γ) (handle : Handle) (store : MemoryStore) :
    Sowing :=
  if directory.seedPeers = 0 ∨ store.floodfillPeers ≠ [] then ⟨[], none, []⟩
  else
    let candidates := directory.floodfillPeers (wellKnown .main)
    if candidates = [] then ⟨[], some (.seedingSkipped, 1), [.seedingSkipped handle.id]⟩
    else
      let offers := directory.seeds (directory.sampler.pick handle directory.seedPeers candidates)
      let planted := store.welcome offers
      ⟨planted, some (.seededPeers, planted.length),
        .seeded handle.id planted.length candidates.length ::
          (offers.filterMap (unplanted? handle.id store)).reverse⟩

theorem seed_eq (apart : wellKnown .main ≠ handle)
    (present : directory.store? handle = some store) :
    directory.seed handle =
      { directory.setStore handle (store.plant (directory.sowing handle store).planted) with
        metrics := (directory.sowing handle store).count directory.metrics
        log := (directory.sowing handle store).noted ++ directory.log } := by
  have known : directory.floodfillPeers handle = store.floodfillPeers := by
    simp only [floodfillPeers, ask, present]
    rfl
  have unplanted : directory.setStore handle (store.plant []) = directory := setStore_self present
  unfold seed sowing
  rw [known]
  split
  · exact unplanted.symm
  · dsimp only
    split
    · rw [unplanted]
      rfl
    · rw [seedPeers_eq apart present, Nat.zero_add]
      rfl

theorem sowing_congr {ψ δ : Type} {other : Directory ψ MemoryStore δ}
    (main : other.store? (wellKnown .main) = directory.store? (wellKnown .main))
    (many : other.seedPeers = directory.seedPeers) (which : other.sampler = directory.sampler)
    (handle : Handle) (store : MemoryStore) :
    other.sowing handle store = directory.sowing handle store := by
  have peers : other.floodfillPeers (wellKnown .main) =
      directory.floodfillPeers (wellKnown .main) := by
    simp only [floodfillPeers, ask, main]
  have offers : other.seeds = directory.seeds := by
    funext peers
    simp only [seeds, lookupRouter, lookup, ask, main]
  unfold sowing
  rw [peers, offers, many, which]

theorem given_of_planted {key : Hash} {router : Router}
    (planted : (key, router) ∈ (directory.sowing handle store).planted) :
    store.floodfillPeers = [] ∧ key ∈ directory.floodfillPeers (wellKnown .main) ∧
      directory.lookupRouter (wellKnown .main) key = some router := by
  unfold sowing at planted
  split at planted
  · cases planted
  · rename_i wanted
    dsimp only at planted
    split at planted
    · cases planted
    · obtain ⟨peer, chosen, offered⟩ := List.mem_filterMap.mp (List.mem_filter.mp planted).1
      obtain ⟨_, given, same⟩ := Option.map_eq_some_iff.mp offered
      obtain ⟨rfl, rfl⟩ := Prod.mk.inj same
      refine ⟨?_, directory.sampler.mem_of_mem_pick _ _ _ _ chosen, given⟩
      simpa using (not_or.mp wanted).2

end Seeding

section Growing

variable {γ : Type} {directory : Directory MemoryFactory MemoryStore γ} {client : Hash}

def seedling (factory : MemoryFactory) (client : Hash) : MemoryStore :=
  (factory.fresh (.client client)).startup.2

theorem running_seedling (factory : MemoryFactory) (client : Hash) :
    (seedling factory client).stopped = false :=
  (MemoryStore.stopped_startup _).trans
    (congrArg Vitals.stopped (factory.vitals_fresh (.client client)))

def grown (directory : Directory MemoryFactory MemoryStore γ) (client : Hash) :
    Directory MemoryFactory MemoryStore γ :=
  let handle := directory.partitions.next (.client client)
  let sown := directory.sowing handle (seedling directory.factory client)
  { directory with
    partitions := directory.partitions.add (.client client)
      ⟨(seedling directory.factory client).plant sown.planted, .ready, false⟩
    clients := directory.joined client
    metrics :=
      (sown.count (directory.metrics.set .clientPartitions (directory.joined client).size)).add
        (.created .client) 1
    log := .created (.client client) :: (sown.noted ++ directory.log) }

theorem partition?_grown (handle : Handle) :
    (directory.grown client).partition? handle =
      if handle = directory.partitions.next (.client client) then
        some ⟨(seedling directory.factory client).plant
          (directory.sowing (directory.partitions.next (.client client))
            (seedling directory.factory client)).planted,
          .ready, false⟩
      else directory.partition? handle :=
  Registry.get?_add _ _ _ _

theorem tracked?_grown (other : Hash) :
    (directory.grown client).tracked? other =
      if other = client then some (directory.partitions.next (.client client))
      else directory.tracked? other :=
  find?_joined

theorem grow_eq (untracked : directory.tracked? client = none) (opened : directory.closed = false)
    (starts : (directory.factory.fresh (.client client)).startup.1 = .ok ()) :
    (directory.launch client).settle client (directory.partitions.next (.client client)) =
      (.ok true, directory.grown client) := by
  have running : (directory.launch client).closed = false :=
    (congrArg Shape.closed (shape_launch untracked)).trans opened
  have started : (directory.launch client).startStore (.quiet 0)
      (directory.partitions.next (.client client)) =
        (.ok (), (directory.launch client).setStore (directory.partitions.next (.client client))
          (seedling directory.factory client)) :=
    (startStore_launch untracked).trans (Prod.ext starts rfl)
  have apart : wellKnown .main ≠ directory.partitions.next (.client client) := nofun
  have there : (directory.launch client).store? (directory.partitions.next (.client client)) =
      some (directory.factory.fresh (.client client)) := by
    rw [launch_eq untracked]
    simp [store?, partition?, Registry.get?_add]
    rfl
  have main : ((directory.launch client).setStore (directory.partitions.next (.client client))
      (seedling directory.factory client)).store? (wellKnown .main) =
        directory.store? (wellKnown .main) := by
    rw [store?_setStore_of_ne apart, launch_eq untracked]
    simp only [store?, partition?, Registry.get?_add, apart, if_false]
  have sown : ((directory.launch client).setStore (directory.partitions.next (.client client))
      (seedling directory.factory client)).sowing (directory.partitions.next (.client client))
        (seedling directory.factory client) =
          directory.sowing (directory.partitions.next (.client client))
            (seedling directory.factory client) := by
    apply sowing_congr main
    · rw [launch_eq untracked]
      rfl
    · rw [launch_eq untracked]
      rfl
  have seeded := seed_eq apart (@store?_setStore _ _ _ _ _ _ (seedling directory.factory client) there)
  have named : (directory.partitions.next (.client client)).id = .client client := rfl
  rw [sown, setStore_setStore] at seeded
  rw [settle_of_ok running (congrArg Prod.fst started), started]
  simp only [goLive, seeded, named]
  rw [launch_eq untracked]
  simp only [setStore, setLifecycle, setLocked, modify, countOne, count, note, grown,
    Registry.modify_add_next]
  rfl

end Growing

end Directory

end PeerDirectory

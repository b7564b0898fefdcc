import PeerDirectory.Proofs.FirstSearch

namespace PeerDirectory.Directory

variable {γ : Type} {directory : Directory MemoryFactory MemoryStore γ} {client : Hash}

/-- The floodfill peers that a client knows of at first, if these peers of main were chosen for it. -/
structure FirstPeers (before : Directory MemoryFactory MemoryStore γ) (client : Hash)
    (chosen peers : List Hash) : Prop where
  distinct : chosen.Nodup
  listed : ∀ key ∈ chosen, key ∈ before.floodfillPeers (wellKnown .main)
  length : chosen.length = min before.seedPeers (before.floodfillPeers (wellKnown .main)).length
  known : ∀ key, key ∈ peers ↔
    if (before.factory.fresh (.client client)).floodfillPeers = [] then
      key ∈ chosen ∧ before.Copyable client key
    else key ∈ (before.factory.fresh (.client client)).floodfillPeers

theorem FirstSearch.firstPeers {store : MemoryStore}
    {after : Directory MemoryFactory MemoryStore γ}
    (search : FirstSearch directory client store after) (wanted : directory.seedPeers ≠ 0)
    (supplied : directory.floodfillPeers (wellKnown .main) ≠ []) :
    ∃ chosen, FirstPeers directory client chosen
      (after.floodfillPeers (directory.partitions.next (.client client))) := by
  have shown : after.floodfillPeers (directory.partitions.next (.client client)) =
      store.floodfillPeers := by
    simp only [floodfillPeers, ask, store?, search.ready, Option.map_some]
    rfl
  rw [shown]
  by_cases bare : (directory.factory.fresh (.client client)).floodfillPeers = []
  · obtain ⟨chosen, distinct, listed, length, routers, -⟩ := search.seeded wanted bare supplied
    refine ⟨chosen, distinct, listed, length, fun key => ?_⟩
    rw [if_pos bare, MemoryStore.mem_floodfillPeers]
    constructor
    · rintro ⟨router, held, floods⟩
      by_contra unplanted
      have before := (routers key router).mp held
      rw [if_neg unplanted] at before
      -- A router that was not planted came with the store, but none of those floods.
      have own := (MemoryStore.mem_floodfillPeers _).mpr ⟨router, before, floods⟩
      rw [bare] at own
      cases own
    · intro planted
      obtain ⟨router, kept, floods⟩ := mem_floodfillPeers.mp (listed key planted.1)
      exact ⟨router, (routers key router).mpr ((if_pos planted).mpr kept), floods⟩
  · refine ⟨_, directory.sampler.nodup_pick (directory.partitions.next (.client client)) _ _
        (directory.nodup_floodfillPeers _),
      directory.sampler.mem_of_mem_pick _ _ _, directory.sampler.length_pick _ _ _, fun key => ?_⟩
    rw [if_neg bare, MemoryStore.mem_floodfillPeers, MemoryStore.mem_floodfillPeers,
      (search.idle (Or.inr bare)).1]

/-- Exactly when a client is left without peers, and how many of main's peers have to be out of its
reach before it can come to that. -/
structure Stranded (before : Directory MemoryFactory MemoryStore γ) (client : Hash)
    (chosen peers : List Hash) : Prop where
  without : peers = [] ↔ (before.factory.fresh (.client client)).floodfillPeers = [] ∧
    ∀ key ∈ chosen, ¬before.Copyable client key
  hidden : (before.factory.fresh (.client client)).floodfillPeers = [] →
    (before.factory.fresh (.client client)).refused = [] →
      (peers = [] ↔ ∀ key ∈ chosen, ∃ record, before.KeepsLease (wellKnown .main) key record)
  few : ((before.floodfillPeers (wellKnown .main)).filter
      fun key => ¬before.Copyable client key).length < chosen.length → peers ≠ []

theorem not_copyable_iff (welcome : (directory.factory.fresh (.client client)).refused = [])
    {key : Hash} : ¬directory.Copyable client key ↔
      ∃ record, directory.KeepsLease (wellKnown .main) key record := by
  simp only [Copyable, welcome, List.not_mem_nil, not_false_eq_true, and_true,
    ← lookupLease_eq_some, ← Option.isSome_iff_exists, Option.isSome_iff_ne_none]

theorem FirstPeers.without {chosen peers : List Hash}
    (first : FirstPeers directory client chosen peers) :
    peers = [] ↔ (directory.factory.fresh (.client client)).floodfillPeers = [] ∧
      ∀ key ∈ chosen, ¬directory.Copyable client key := by
  rw [List.eq_nil_iff_forall_not_mem]
  by_cases bare : (directory.factory.fresh (.client client)).floodfillPeers = []
  · simp only [first.known, bare, if_true, true_and, not_and]
  · simp only [first.known, bare, if_false, false_and, ← List.eq_nil_iff_forall_not_mem]

theorem FirstPeers.stranded {chosen peers : List Hash}
    (first : FirstPeers directory client chosen peers) :
    Stranded directory client chosen peers := by
  constructor
  case without => exact first.without
  case hidden =>
    intro bare welcome
    simp only [first.without, bare, true_and, not_copyable_iff welcome]
  case few =>
    intro more none
    have beyond := (first.without.mp none).2
    have among : chosen ⊆ (directory.floodfillPeers (wellKnown .main)).filter
        fun key => ¬directory.Copyable client key := fun key member =>
      List.mem_filter.mpr ⟨first.listed key member, decide_eq_true (beyond key member)⟩
    -- Different keys were chosen, so all of them would have to fit among those out of reach.
    have fits := (first.distinct.subperm among).length_le
    omega

/-- If main has floodfill peers, then a client whose partition was just made has some too, unless
each of those that were chosen for it is out of its reach. -/
theorem newcomer_finds_peers (opened : directory.closed = false)
    (isolated : directory.isolated = true) (wanted : directory.seedPeers ≠ 0)
    (supplied : directory.floodfillPeers (wellKnown .main) ≠ [])
    (untracked : directory.tracked? client = none) {turns : Nat} {handle : Handle}
    (found : (directory.resolve (.quiet (turns + 1)) (some (.client client))).1 = .ok handle) :
    ∃ chosen,
      FirstPeers directory client chosen
        ((directory.resolve (.quiet (turns + 1)) (some (.client client))).2.floodfillPeers handle) ∧
      Stranded directory client chosen
        ((directory.resolve (.quiet (turns + 1)) (some (.client client))).2.floodfillPeers
          handle) := by
  obtain ⟨rfl, grown⟩ := resolve_grown opened isolated untracked found
  obtain ⟨store, search⟩ := directory.firstSearch_grown client
  obtain ⟨chosen, first⟩ := search.firstPeers wanted supplied
  rw [grown]
  exact ⟨chosen, first, first.stranded⟩

theorem stocked_newcomer_finds_peers :
    (stocked.resolve (.quiet 1) (some (.client newcomer))).2.floodfillPeers ⟨.client newcomer, 0⟩ ≠
        [] ∧
      ∃ chosen,
        FirstPeers stocked newcomer chosen ((stocked.resolve (.quiet 1)
          (some (.client newcomer))).2.floodfillPeers ⟨.client newcomer, 0⟩) ∧
        Stranded stocked newcomer chosen ((stocked.resolve (.quiet 1)
          (some (.client newcomer))).2.floodfillPeers ⟨.client newcomer, 0⟩) := by
  have opened : stocked.closed = false := by decide +kernel
  have isolated : stocked.isolated = true := by decide +kernel
  have wanted : stocked.seedPeers ≠ 0 := by decide +kernel
  have supplied : stocked.floodfillPeers (wellKnown .main) ≠ [] := by decide +kernel
  have untracked : stocked.tracked? newcomer = none := by decide +kernel
  have found : (stocked.resolve (.quiet 1) (some (.client newcomer))).1 =
      .ok ⟨.client newcomer, 0⟩ := by decide +kernel
  exact ⟨by decide +kernel,
    newcomer_finds_peers opened isolated wanted supplied untracked found⟩

/-- Main knows a floodfill peer, and keeps a lease set under its key. -/
def overcast : Run MemoryFactory MemoryStore Tuning Blinding :=
  plainRun.makeAll (others eager 0 1)
    [.insert (wellKnown .main) ⟨.fill 2⟩ (.router (peer 2 true)),
      .insert (wellKnown .main) ⟨.fill 2⟩ (.lease ⟨⟨.fill 2⟩, none, [], 0⟩)]

theorem newcomer_without_peers :
    overcast.closed = false ∧ overcast.isolated = true ∧ overcast.seedPeers ≠ 0 ∧
      (overcast.factory.fresh (.client newcomer)).refused = [] ∧
      overcast.floodfillPeers (wellKnown .main) ≠ [] ∧ overcast.tracked? newcomer = none ∧
      (overcast.resolve (.quiet 1) (some (.client newcomer))).1 = .ok ⟨.client newcomer, 0⟩ ∧
      (overcast.resolve (.quiet 1) (some (.client newcomer))).2.floodfillPeers
        ⟨.client newcomer, 0⟩ = [] := by
  decide +kernel

end PeerDirectory.Directory

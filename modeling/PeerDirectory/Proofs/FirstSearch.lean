import PeerDirectory.Proofs.Anonymity.Seeding
import PeerDirectory.Proofs.FailedResolution
import PeerDirectory.Proofs.Run.Balance

namespace PeerDirectory.Directory

section Choosing

variable {φ γ : Type} {directory : Directory φ MemoryStore γ} {store : MemoryStore}

theorem mem_welcome_seeds {peers : List Hash} {key : Hash} {router : Router} :
    (key, router) ∈ store.welcome (directory.seeds peers) ↔
      key ∈ peers ∧ directory.lookupRouter (wellKnown .main) key = some router ∧
        store.refusal? key = none := by
  simp only [MemoryStore.welcome, seeds, List.mem_filter, List.mem_filterMap,
    Option.map_eq_some_iff, Prod.mk.injEq, Option.isNone_iff_eq_none]
  constructor
  · rintro ⟨⟨peer, chosen, _, given, rfl, rfl⟩, welcome⟩
    exact ⟨chosen, given, welcome⟩
  · rintro ⟨chosen, given, welcome⟩
    exact ⟨⟨key, chosen, router, given, rfl, rfl⟩, welcome⟩

theorem keys_welcome_seeds (peers : List Hash) :
    (store.welcome (directory.seeds peers)).map (·.1) =
      peers.filter fun key =>
        (directory.lookupRouter (wellKnown .main) key).isSome && (store.refusal? key).isNone := by
  induction peers with
  | nil => rfl
  | cons peer rest ih =>
    simp only [MemoryStore.welcome, seeds] at ih ⊢
    cases given : directory.lookupRouter (wellKnown .main) peer with
    | none => simp [given, ih]
    | some router =>
      cases refused : store.refusal? peer <;> simp [given, refused, ih]

end Choosing

section Searching

variable {γ : Type} {directory : Directory MemoryFactory MemoryStore γ} {client : Hash}

def Copyable (directory : Directory MemoryFactory MemoryStore γ) (client key : Hash) : Prop :=
  directory.lookupLease (wellKnown .main) key = none ∧
    key ∉ (directory.factory.fresh (.client client)).refused

instance : DecidablePred (directory.Copyable client) :=
  fun _ => inferInstanceAs (Decidable (_ ∧ _))

/-- What a client's first search leaves: a new partition over the given store, and everything else
as it was. Which routers the store holds and which of the two counters of seeding moved depends on
whether it was to be seeded and whether main has any floodfill peers. -/
structure FirstSearch (before : Directory MemoryFactory MemoryStore γ) (client : Hash)
    (store : MemoryStore) (after : Directory MemoryFactory MemoryStore γ) : Prop where
  tracked : after.tracked? client = some (before.partitions.next (.client client))
  ready : after.partition? (before.partitions.next (.client client)) =
    some ⟨store, .ready, false⟩
  others : ∀ other ≠ before.partitions.next (.client client),
    after.partition? other = before.partition? other
  bare : store.leaseSets = (before.factory.fresh (.client client)).leaseSets ∧
    store.blindings = (before.factory.fresh (.client client)).blindings
  idle : before.seedPeers = 0 ∨ (before.factory.fresh (.client client)).floodfillPeers ≠ [] →
    store.routers = (before.factory.fresh (.client client)).routers ∧
      after.metrics[Metric.seededPeers]? = before.metrics[Metric.seededPeers]? ∧
      after.metrics[Metric.seedingSkipped]? = before.metrics[Metric.seedingSkipped]?
  skipped : before.seedPeers ≠ 0 → (before.factory.fresh (.client client)).floodfillPeers = [] →
    before.floodfillPeers (wellKnown .main) = [] →
      store.routers = (before.factory.fresh (.client client)).routers ∧
        after.metrics[Metric.seededPeers]? = before.metrics[Metric.seededPeers]? ∧
        after.metrics[Metric.seedingSkipped]? =
          some (before.metrics.getD .seedingSkipped 0 + 1)
  seeded : before.seedPeers ≠ 0 → (before.factory.fresh (.client client)).floodfillPeers = [] →
    before.floodfillPeers (wellKnown .main) ≠ [] →
      ∃ chosen : List Hash, chosen.Nodup ∧
        (∀ key ∈ chosen, key ∈ before.floodfillPeers (wellKnown .main)) ∧
        chosen.length =
          min before.seedPeers (before.floodfillPeers (wellKnown .main)).length ∧
        (∀ key router, store.routers[key]? = some router ↔
          if key ∈ chosen ∧ before.Copyable client key then
            before.KeepsRouter (wellKnown .main) key router
          else (before.factory.fresh (.client client)).routers[key]? = some router) ∧
        after.metrics[Metric.seededPeers]? =
          some (before.metrics.getD .seededPeers 0 +
            (chosen.filter (before.Copyable client)).length) ∧
        after.metrics[Metric.seedingSkipped]? = before.metrics[Metric.seedingSkipped]?

theorem refusal?_seedling (factory : MemoryFactory) (client key : Hash) :
    (seedling factory client).refusal? key = none ↔
      key ∉ (factory.fresh (.client client)).refused := by
  rw [MemoryStore.refusal?_of_running (running_seedling factory client), seedling,
    MemoryStore.refused_startup]

theorem keys_planted {peers : List Hash}
    (listed : ∀ key ∈ peers, key ∈ directory.floodfillPeers (wellKnown .main)) :
    ((seedling directory.factory client).welcome (directory.seeds peers)).map (·.1) =
      peers.filter (directory.Copyable client) := by
  rw [keys_welcome_seeds]
  apply List.filter_congr
  intro key chosen
  obtain ⟨router, kept, -⟩ := mem_floodfillPeers.mp (listed key chosen)
  have given : (directory.lookupRouter (wellKnown .main) key).isSome = true ↔
      directory.lookupLease (wellKnown .main) key = none := by
    rw [Option.isSome_iff_exists]
    constructor
    · rintro ⟨_, found⟩
      exact (lookupRouter_eq_some.mp found).1
    · intro bare
      exact ⟨router, lookupRouter_eq_some.mpr ⟨bare, kept⟩⟩
  rw [Bool.eq_iff_iff, Bool.and_eq_true, given, Option.isNone_iff_eq_none, refusal?_seedling,
    decide_eq_true_iff]
  rfl

theorem routers_planted {peers : List Hash} (distinct : peers.Nodup)
    (listed : ∀ key ∈ peers, key ∈ directory.floodfillPeers (wellKnown .main)) (key : Hash)
    (router : Router) :
    ((seedling directory.factory client).plant ((seedling directory.factory client).welcome
        (directory.seeds peers))).routers[key]? = some router ↔
      if key ∈ peers ∧ directory.Copyable client key then
        directory.KeepsRouter (wellKnown .main) key router
      else (directory.factory.fresh (.client client)).routers[key]? = some router := by
  have keys : ((seedling directory.factory client).welcome (directory.seeds peers)).map (·.1) =
      peers.filter (directory.Copyable client) := keys_planted listed
  have once : (((seedling directory.factory client).welcome
      (directory.seeds peers)).map (·.1)).Nodup := keys ▸ distinct.filter _
  have held : (seedling directory.factory client).routers =
      (directory.factory.fresh (.client client)).routers := (MemoryStore.startup_holds _).1
  rw [MemoryStore.routers_plant once, keys, mem_welcome_seeds, lookupRouter_eq_some,
    refusal?_seedling, held, List.mem_filter, decide_eq_true_iff]
  by_cases copied : key ∈ peers ∧ directory.Copyable client key
  · simp only [copied, not_true_eq_false, false_and, or_false, if_true, and_self, true_and]
    exact ⟨fun found => found.1.2, fun kept => ⟨⟨copied.2.1, kept⟩, copied.2.2⟩⟩
  · rw [if_neg copied]
    constructor
    · rintro (⟨chosen, ⟨bare, -⟩, welcome⟩ | ⟨-, before⟩)
      · exact absurd ⟨chosen, bare, welcome⟩ copied
      · exact before
    · exact fun before => Or.inr ⟨copied, before⟩

theorem firstSearch_grown (directory : Directory MemoryFactory MemoryStore γ) (client : Hash) :
    ∃ store, FirstSearch directory client store (directory.grown client) := by
  have made := (directory.factory.fresh (.client client)).startup_holds
  have held : (seedling directory.factory client).floodfillPeers =
      (directory.factory.fresh (.client client)).floodfillPeers :=
    MemoryStore.floodfillPeers_startup _
  refine ⟨(seedling directory.factory client).plant
    (directory.sowing (directory.partitions.next (.client client))
      (seedling directory.factory client)).planted, ?_⟩
  constructor
  case tracked => exact (tracked?_grown client).trans (if_pos rfl)
  case ready => exact (partition?_grown _).trans (if_pos rfl)
  case others =>
    intro other apart
    exact (partition?_grown other).trans (if_neg apart)
  case bare => exact made.2
  case idle =>
    intro unwanted
    have nothing : directory.sowing (directory.partitions.next (.client client))
        (seedling directory.factory client) = ⟨[], none, []⟩ := if_pos (held ▸ unwanted)
    refine ⟨by rw [nothing]; exact made.1, ?_, ?_⟩ <;>
      simp [grown, nothing, Sowing.count, Metrics.getElem?_add, Metrics.getElem?_set]
  case skipped =>
    intro many bare empty
    have nothing : directory.sowing (directory.partitions.next (.client client))
        (seedling directory.factory client) =
          ⟨[], some (.seedingSkipped, 1), [.seedingSkipped (.client client)]⟩ := by
      rw [sowing, if_neg (by simp [many, held, bare]), if_pos empty]
      rfl
    refine ⟨by rw [nothing]; exact made.1, ?_, ?_⟩ <;>
      simp [grown, nothing, Sowing.count, Metrics.getElem?_add, Metrics.getElem?_set,
        Metrics.getD_set]
  case seeded =>
    intro many bare supplied
    have distinct := directory.sampler.nodup_pick (directory.partitions.next (.client client))
      directory.seedPeers _ (directory.nodup_floodfillPeers (wellKnown .main))
    have listed := directory.sampler.mem_of_mem_pick (directory.partitions.next (.client client))
      directory.seedPeers (directory.floodfillPeers (wellKnown .main))
    generalize chosen : directory.sampler.pick (directory.partitions.next (.client client))
      directory.seedPeers (directory.floodfillPeers (wellKnown .main)) = peers at distinct listed
    have planted : (directory.sowing (directory.partitions.next (.client client))
        (seedling directory.factory client)).planted =
          (seedling directory.factory client).welcome (directory.seeds peers) := by
      rw [sowing, if_neg (by simp [many, held, bare]), if_neg supplied, chosen]
    have counted : (directory.sowing (directory.partitions.next (.client client))
        (seedling directory.factory client)).counted =
          some (.seededPeers, (peers.filter (directory.Copyable client)).length) := by
      rw [← keys_planted listed, List.length_map, sowing, if_neg (by simp [many, held, bare]),
        if_neg supplied, chosen]
    refine ⟨peers, distinct, listed, chosen ▸ directory.sampler.length_pick _ _ _, ?_, ?_, ?_⟩
    · rw [planted]
      exact routers_planted distinct listed
    · simp [grown, Sowing.count, counted, Metrics.getElem?_add, Metrics.getD_set]
    · simp [grown, Sowing.count, counted, Metrics.getElem?_add, Metrics.getElem?_set]

/-- The first search for a client whose store starts ends well, and copies from main what it may,
wherever the directory is. -/
theorem first_search_copies (opened : directory.closed = false)
    (isolated : directory.isolated = true) (untracked : directory.tracked? client = none)
    (starts : (directory.factory.fresh (.client client)).startup.1 = .ok ()) (turns : Nat) :
    (directory.resolve (.quiet (turns + 1)) (some (.client client))).1 =
        .ok (directory.partitions.next (.client client)) ∧
      ∃ store, FirstSearch directory client store
        (directory.resolve (.quiet (turns + 1)) (some (.client client))).2 := by
  rw [resolve_of_untracked untracked opened isolated, grow_eq untracked opened starts]
  exact ⟨rfl, directory.firstSearch_grown client⟩

end Searching

def peer (number : UInt8) (floodfill : Bool) : Router := ⟨⟨.fill number⟩, [], floodfill, 0⟩

def stocked : Run MemoryFactory MemoryStore Tuning Blinding :=
  (start (unbuilt ⟨∅, [⟨.client newcomer, [peer 2 false], [⟨.fill 5⟩]⟩]⟩ .first .unrestricted .blank)
    (.tuning fun _ factory => factory) .standard).2.makeAll (others eager 0 1)
      [.insert (wellKnown .main) ⟨.fill 2⟩ (.router (peer 2 true)),
        .insert (wellKnown .main) ⟨.fill 3⟩ (.router (peer 3 true)),
        .insert (wellKnown .main) ⟨.fill 4⟩ (.router (peer 4 true)),
        .insert (wellKnown .main) ⟨.fill 5⟩ (.router (peer 5 true)),
        .insert (wellKnown .main) ⟨.fill 4⟩ (.lease ⟨⟨.fill 4⟩, none, [], 0⟩)]

theorem stocked_newcomer :
    stocked.closed = false ∧ stocked.isolated = true ∧ stocked.tracked? newcomer = none ∧
      (stocked.factory.fresh (.client newcomer)).startup.1 = .ok () ∧
      (stocked.floodfillPeers (wellKnown .main)).filter (stocked.Copyable newcomer) =
        [⟨.fill 2⟩, ⟨.fill 3⟩] ∧
      (stocked.resolve (.quiet 1) (some (.client newcomer))).1 = .ok ⟨.client newcomer, 0⟩ ∧
      ∃ store, FirstSearch stocked newcomer store
        (stocked.resolve (.quiet 1) (some (.client newcomer))).2 := by
  have opened : stocked.closed = false := by decide +kernel
  have isolated : stocked.isolated = true := by decide +kernel
  have untracked : stocked.tracked? newcomer = none := by decide +kernel
  have starts : (stocked.factory.fresh (.client newcomer)).startup.1 = .ok () := by decide +kernel
  exact ⟨opened, isolated, untracked, starts, by decide +kernel,
    first_search_copies opened isolated untracked starts 0⟩

end PeerDirectory.Directory

import PeerDirectory.Proofs.Run.Roster

namespace PeerDirectory.Directory

section Gathering

variable {γ α : Type} [Ord α] [Std.TransOrd α] [Std.LawfulEqOrd α] [DecidableEq α]

theorem mem_gathered {handles : List Handle} {held : Handle → List α} {value : α} :
    value ∈ distinct (handles.flatMap held) ↔ ∃ handle ∈ handles, value ∈ held handle := by
  rw [mem_distinct, List.mem_flatMap]

end Gathering

section Answers

variable {γ : Type} {directory : Directory MemoryFactory MemoryStore γ}

structure Aggregates (directory : Directory MemoryFactory MemoryStore γ) (clients : List Hash)
    (ready : List Handle) : Prop where
  roster : Roster directory clients ready
  current : directory.current =
    if directory.isolated then
      [wellKnown .main, wellKnown .multihome, wellKnown .exploratory] ++ ready
    else [wellKnown .main]
  view : directory.clientView = if directory.isolated then ready else [wellKnown .main]
  routers : ∀ router, router ∈ directory.allRouters ↔
    ∃ handle ∈ directory.current, ∃ key, directory.KeepsRouter handle key router
  routersOnce : directory.allRouters.Nodup
  blindings : ∀ data, data ∈ directory.allBlindings ↔
    ∃ handle ∈ directory.current, ∃ key, directory.KeepsBlinding handle key data
  blindingsOnce : directory.allBlindings.Nodup
  floodfillPeers : ∀ key, key ∈ directory.allFloodfillPeers ↔
    ∃ handle ∈ directory.current, ∃ router,
      directory.KeepsRouter handle key router ∧ router.floodfill = true
  floodfillAscending :
    directory.allFloodfillPeers.Pairwise fun one other => compare one other = .lt
  routersOfClients : ∀ router, router ∈ directory.routersKnownToClients ↔
    ∃ handle ∈ directory.clientView, ∃ key, directory.KeepsRouter handle key router
  routersOfClientsOnce : directory.routersKnownToClients.Nodup
  leasesOfClients : ∀ record, record ∈ directory.leasesKnownToClients ↔
    ∃ handle ∈ directory.clientView, ∃ key, directory.KeepsLease handle key record
  leasesOfClientsOnce : directory.leasesKnownToClients.Nodup
  ids : directory.clientIds = if directory.isolated then clients.map .client else []
  number : directory.stats.clientPartitions = if directory.isolated then clients.length else 0
  holders : directory.enumerator = .unrestricted → directory.isolated = true → ∀ key,
    ∃ holders : List Hash, directory.clientIdsFor key = holders.map .client ∧
      (holders.Pairwise fun one other => compare one other = .lt) ∧
      ∀ client, client ∈ holders ↔ ∃ handle ∈ ready, handle.id = .client client ∧
        ∃ data, directory.KeepsBlinding handle key data
  together : directory.isolated = false → ∀ key,
    ((∃ data, directory.KeepsBlinding (wellKnown .main) key data) →
      directory.clientIdsFor key = [.wellKnown .main]) ∧
    ((∀ data, ¬directory.KeepsBlinding (wellKnown .main) key data) →
      directory.clientIdsFor key = [])

theorem isSome_blindingIn {handle : Handle} {key : SigningKey} :
    (directory.blindingIn handle key).isSome = true ↔
      ∃ data, directory.KeepsBlinding handle key data := by
  simp only [Option.isSome_iff_exists, blindingIn_eq_some]

theorem holders_of_unrestricted (free : directory.enumerator = .unrestricted)
    (apart : directory.isolated = true) (key : SigningKey) :
    ∃ holders : List Hash, directory.clientIdsFor key = holders.map .client ∧
      (holders.Pairwise fun one other => compare one other = .lt) ∧
      ∀ client, client ∈ holders ↔ ∃ handle ∈ directory.readyClients,
        handle.id = .client client ∧ ∃ data, directory.KeepsBlinding handle key data := by
  have everyone (handle : Handle) : directory.mayOwn handle = true := by simp [mayOwn, free]
  have asked : directory.clientIdsFor key = (directory.readyClients.filter fun handle =>
      (directory.blindingIn handle key).isSome).map (·.id) := by
    simp [clientIdsFor, clientView, apart, everyone]
  obtain ⟨holders, ids, ascending⟩ := directory.ids_readyClients fun handle =>
    (directory.blindingIn handle key).isSome
  refine ⟨holders, asked.trans ids, ascending, fun client => ?_⟩
  have entered : client ∈ holders ↔ PartitionId.client client ∈ holders.map .client := by simp
  rw [entered, ← ids, List.mem_map]
  simp only [List.mem_filter, isSome_blindingIn, and_assoc]
  constructor
  · rintro ⟨handle, ready, held, named⟩
    exact ⟨handle, ready, named, held⟩
  · rintro ⟨handle, ready, named, held⟩
    exact ⟨handle, ready, held, named⟩

theorem clientIdsFor_together (together : directory.isolated = false) (key : SigningKey) :
    ((∃ data, directory.KeepsBlinding (wellKnown .main) key data) →
      directory.clientIdsFor key = [.wellKnown .main]) ∧
    ((∀ data, ¬directory.KeepsBlinding (wellKnown .main) key data) →
      directory.clientIdsFor key = []) := by
  constructor
  · intro held
    have present : (directory.blindingIn (wellKnown .main) key).isSome = true :=
      isSome_blindingIn.mpr held
    simp [clientIdsFor, clientView, together, present]
    rfl
  · intro missing
    have absent : (directory.blindingIn (wellKnown .main) key).isSome = false := by
      rw [Bool.eq_false_iff, Ne, isSome_blindingIn]
      rintro ⟨data, held⟩
      exact missing data held
    simp [clientIdsFor, clientView, together, absent]

theorem Steady.aggregates (steady : Steady directory) :
    ∃ clients, Aggregates directory clients directory.readyClients := by
  obtain ⟨clients, roster⟩ := steady.roster
  have number : directory.readyClients.length = clients.length := by
    simpa using congrArg List.length roster.ids
  refine ⟨clients, ?_⟩
  constructor
  case roster => exact roster
  case current => rfl
  case view => rfl
  case routers =>
    intro router
    rw [allRouters, mem_gathered]
    simp only [mem_routers]
  case routersOnce => exact nodup_distinct _
  case blindings =>
    intro data
    rw [allBlindings, mem_gathered]
    simp only [mem_blindings]
  case blindingsOnce => exact nodup_distinct _
  case floodfillPeers =>
    intro key
    rw [allFloodfillPeers, mem_gathered]
    simp only [mem_floodfillPeers]
  case floodfillAscending => exact ascending_distinct _
  case routersOfClients =>
    intro router
    rw [routersKnownToClients, mem_gathered]
    simp only [mem_routers]
  case routersOfClientsOnce => exact nodup_distinct _
  case leasesOfClients =>
    intro record
    rw [leasesKnownToClients, mem_gathered]
    simp only [mem_leaseSets]
  case leasesOfClientsOnce => exact nodup_distinct _
  case ids => rw [clientIds, roster.ids]
  case number =>
    simp only [stats, clientIds]
    split
    · simpa using number
    · rfl
  case holders => exact holders_of_unrestricted
  case together => exact clientIdsFor_together

end Answers

/-- At every point of every run, inside moments and outside of them, as long as nobody waits for ever,
questions across partitions answer for the partitions that are current there. -/
theorem aggregates_throughout {run : Run MemoryFactory MemoryStore Tuning Blinding}
    {habit : Habit MemoryFactory MemoryStore Tuning Blinding} {turns depth : Nat}
    {calls : List (Call Tuning Blinding)} (built : Built run) :
    ∀ point ∈ (run.makeAll (others habit turns depth) calls).outside.points,
      point.state.stuck = false → ∃ clients ready, Aggregates point.state clients ready := by
  intro point reached calm
  obtain ⟨clients, aggregates⟩ := (built.steady_throughout reached calm).aggregates
  exact ⟨clients, _, aggregates⟩

def contested : List (Call Tuning Blinding) :=
  [.resolve (some (.client someone)), .setIsolation false, .resolve (some (.client newcomer)),
    .setIsolation true, .resolve (some (.client newcomer))]

theorem aggregates_amid_race :
    (∀ point ∈ (plainRun.makeAll (others eager 0 2) contested).outside.points,
      point.state.stuck = false) ∧
    ∀ point ∈ (plainRun.makeAll (others eager 0 2) contested).outside.points,
      ∃ clients ready, Aggregates point.state clients ready := by
  have calm : ∀ point ∈ (plainRun.makeAll (others eager 0 2) contested).outside.points,
      point.state.stuck = false := by decide +kernel
  refine ⟨calm, fun point reached => ?_⟩
  exact aggregates_throughout built_plainRun point reached (calm point reached)

end PeerDirectory.Directory

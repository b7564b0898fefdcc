import PeerDirectory.Proofs.Aggregates
import PeerDirectory.Proofs.FailedResolution
import PeerDirectory.Proofs.Mirror.Forgotten
import PeerDirectory.Proofs.Ownership
import PeerDirectory.Proofs.Run.Retired
import PeerDirectory.Proofs.Shutdown

namespace PeerDirectory

namespace Directory

open Std

section Growing

variable {γ : Type} {directory : Directory MemoryFactory MemoryStore γ} {client : Hash}

/-- A store holds what a store for a client holds at first: what the factory puts into it, and
floodfill routers that main holds. -/
structure Sown (directory : Directory MemoryFactory MemoryStore γ) (client : Hash)
    (store : MemoryStore) : Prop where
  leaseSets : store.leaseSets = ∅
  blindings : store.blindings = ∅
  routers : ∀ {key : Hash} {router}, store.routers[key]? = some router →
    (directory.factory.fresh (.client client)).routers[key]? = some router ∨
      directory.KeepsRouter (wellKnown .main) key router ∧ router.floodfill = true

theorem sown_grown : Sown directory client ((seedling directory.factory client).plant
    (directory.sowing (directory.partitions.next (.client client))
      (seedling directory.factory client)).planted) := by
  obtain ⟨routers, leaseSets, blindings⟩ :=
    (directory.factory.fresh (.client client)).startup_holds
  obtain ⟨unleased, unblinded⟩ := directory.factory.bare_fresh (.client client)
  refine ⟨leaseSets.trans unleased, blindings.trans unblinded, fun {key router} held => ?_⟩
  rcases MemoryStore.routers_plant_cases _ held with planted | before
  · obtain ⟨-, listed, offered⟩ := given_of_planted planted
    exact Or.inr (keepsRouter_of_seed listed offered)
  · exact Or.inl (routers ▸ before)

theorem sown_resolve (opened : directory.closed = false) (isolated : directory.isolated = true)
    (untracked : directory.tracked? client = none) {turns : Nat} {handle : Handle}
    (found : (directory.resolve (.quiet (turns + 1)) (some (.client client))).1 = .ok handle) :
    handle = directory.partitions.next (.client client) ∧
      ∃ store, (directory.resolve (.quiet (turns + 1)) (some (.client client))).2.store? handle =
          some store ∧ Sown directory client store := by
  obtain ⟨rfl, grown⟩ := resolve_grown opened isolated untracked found
  refine ⟨rfl, _, ?_, sown_grown⟩
  rw [grown, store?, partition?_grown, if_pos rfl]
  rfl

end Growing

/-! ## Removing a client -/

section Removing

variable {φ σ γ : Type} [PartitionStore σ] {directory : Directory φ σ γ} {client : Hash}
  {handle : Handle}

theorem removeClient_of_orderly (orderly : Orderly [] directory.shape) (turns : Nat) :
    (directory.removeClient (.quiet turns) client).1 = (directory.tracked? client).isSome ∧
      (directory.removeClient (.quiet turns) client).2.tracked? client = none ∧
      ∀ handle, directory.stage? handle ≠ none →
        (directory.removeClient (.quiet turns) client).2.stage? handle ≠ none := by
  cases tracked : directory.tracked? client with
  | none =>
    simp only [removeClient, tracked]
    exact ⟨rfl, tracked, fun _ present => present⟩
  | some handle =>
    have ready := (orderly.tracked tracked).resolve_right List.not_mem_nil
    obtain ⟨partition, here, found⟩ := Option.map_eq_some_iff.mp ready
    obtain ⟨stage, free⟩ := Prod.mk.inj found
    have struck : (directory.unregister (.quiet turns) client handle).partition? handle =
        some partition := by
      rw [unregister, if_pos tracked]
      exact here
    have stopped : ((directory.unregister (.quiet turns) client handle).stop handle).1 = true := by
      simp [stop, struck, stage, free]
    have unlocked (stage : Lifecycle) :
        (directory.unregister (.quiet turns) client handle).stage? handle ≠ some (stage, true) := by
      simp [stage?, struck, free]
    have left := shape_stop unlocked
    rw [shape_unregister_quiet turns tracked] at left
    have clients : ((directory.unregister (.quiet turns) client handle).stop handle).2.clients =
        directory.clients.erase client := congrArg Shape.clients left
    simp only [removeClient, tracked, stopped, if_true, Option.isSome_some, true_and]
    constructor
    · exact (congrArg (·.find? client) clients).trans
        (Clients.find?_erase.trans (if_pos rfl))
    · intro other present
      have stages := congrFun (congrArg Shape.stages left) other
      rw [shape_stages] at stages
      change ((directory.unregister (.quiet turns) client handle).stop handle).2.stage? other ≠ none
      rw [stages]
      by_cases same : other = handle
      · simp [same, stage?, struck]
      · simpa [same, stage?_unregister_quiet] using present

end Removing

/-! ## Partitions that nobody is told of -/

section Unseen

variable {γ : Type} {directory : Directory MemoryFactory MemoryStore γ} {torn : Handle → Prop}
  {handle : Handle}

structure Unseen (torn : Handle → Prop) (directory : Directory MemoryFactory MemoryStore γ) :
    Prop where
  named : ∀ question, ∀ handle ∈ (directory.answer question).partitions, ¬torn handle
  entries : ∀ key entry, (∀ handle, directory.lookup handle key = some entry → torn handle) →
    ∀ id, (directory.existing? id).bind (directory.lookup · key) ≠ some entry
  routers : ∀ router, (∀ handle key, directory.KeepsRouter handle key router → torn handle) →
    router ∉ directory.allRouters ∧ router ∉ directory.routersKnownToClients
  floodfillPeers : ∀ key, (∀ handle router, directory.KeepsRouter handle key router →
    router.floodfill = true → torn handle) → key ∉ directory.allFloodfillPeers
  leaseSets : ∀ record, (∀ handle key, directory.KeepsLease handle key record → torn handle) →
    record ∉ directory.leasesKnownToClients ∧
      ∀ key, (directory.findLease key).1 ≠ some record ∧
        ∀ id, directory.lookupLeaseIn key id ≠ some record
  blindings : ∀ data, (∀ handle key, directory.KeepsBlinding handle key data → torn handle) →
    data ∉ directory.allBlindings ∧ ∀ key, directory.blinding? key ≠ some data
  holders : ∀ key, (∀ handle data, directory.KeepsBlinding handle key data → torn handle) →
    directory.clientIdsFor key = []

theorem unseen_of_idle (idle : ∀ handle, (∃ role, handle = wellKnown role) ∨
    directory.isReady handle = true → ¬torn handle) : Unseen torn directory := by
  have gathered {α κ : Type} [Ord α] [Std.TransOrd α] [Std.LawfulEqOrd α] [DecidableEq α]
      {held : Handle → List α} {value : α} (keeps : Handle → κ → α → Prop)
      (known : ∀ handle, value ∈ held handle ↔ ∃ key, keeps handle key value)
      (only : ∀ handle key, keeps handle key value → torn handle) {handles : List Handle}
      (shown : ∀ handle ∈ handles, (∃ role, handle = wellKnown role) ∨
        directory.isReady handle = true) : value ∉ distinct (handles.flatMap held) := by
    intro member
    obtain ⟨handle, listed, here⟩ := mem_gathered.mp member
    obtain ⟨key, kept⟩ := (known handle).mp here
    exact idle handle (shown handle listed) (only handle key kept)
  have current : ∀ handle ∈ directory.current, (∃ role, handle = wellKnown role) ∨
      directory.isReady handle = true := fun _ => mem_current_cases
  have view : ∀ handle ∈ directory.clientView, (∃ role, handle = wellKnown role) ∨
      directory.isReady handle = true := fun _ => mem_clientView_cases
  constructor
  case named => exact fun question handle listed => idle handle (named_answer listed)
  case entries =>
    intro key entry only id found
    obtain ⟨handle, existing, held⟩ := Option.bind_eq_some_iff.mp found
    exact idle handle (existing?_cases existing) (only handle held)
  case routers =>
    exact fun router only => ⟨gathered _ (fun _ => mem_routers) only current,
      gathered _ (fun _ => mem_routers) only view⟩
  case floodfillPeers =>
    intro key only
    refine gathered (fun handle router key => directory.KeepsRouter handle key router ∧
      router.floodfill = true) (fun _ => mem_floodfillPeers) (fun handle router kept => ?_) current
    exact only handle router kept.1 kept.2
  case leaseSets =>
    intro record only
    refine ⟨gathered _ (fun _ => mem_leaseSets) only view, fun key => ⟨fun found => ?_,
      fun id found => ?_⟩⟩
    · have asked (handle : Handle) (shown : (∃ role, handle = wellKnown role) ∨
          directory.isReady handle = true) : directory.lookupLease handle key ≠ some record :=
        fun held => idle handle shown (only handle key (lookupLease_eq_some.mp held))
      unfold findLease at found
      split at found
      · rename_i owner owned
        exact asked owner (Or.inr (isReady_of_ownerCandidates (List.mem_of_find?_eq_some owned))) found
      · exact asked (wellKnown .main) (Or.inl ⟨.main, rfl⟩) found
    · cases id with
      | none => exact idle _ (Or.inl ⟨.main, rfl⟩) (only _ key (lookupLease_eq_some.mp found))
      | some id =>
        obtain ⟨handle, existing, held⟩ := Option.bind_eq_some_iff.mp found
        exact idle handle (existing?_cases existing) (only handle key (lookupLease_eq_some.mp held))
  case blindings =>
    intro data only
    refine ⟨gathered _ (fun _ => mem_blindings) only current, fun key held => ?_⟩
    exact idle _ (Or.inl ⟨.main, rfl⟩) (only _ key (blindingIn_eq_some.mp held))
  case holders =>
    intro key only
    have nobody : ∀ handle ∈ directory.clientView,
        (directory.blindingIn handle key).isSome = false := by
      intro handle listed
      rw [Bool.eq_false_iff, Ne, isSome_blindingIn]
      rintro ⟨data, kept⟩
      exact idle handle (view handle listed) (only handle data kept)
    have empty : ∀ handles : List Handle, (∀ handle ∈ handles, handle ∈ directory.clientView) →
        handles.filter (fun handle => (directory.blindingIn handle key).isSome) = [] := by
      intro handles listed
      rw [List.filter_eq_nil_iff]
      intro handle member
      simp [nobody handle (listed handle member)]
    simp only [clientIdsFor]
    split
    · rw [empty _ fun handle member => (List.mem_filter.mp member).1]
      rfl
    · rw [empty _ fun handle member => member]
      rfl

end Unseen

/-! ## Partitions that were given out -/

section Loans

variable {permitted : Call Tuning Blinding → Prop}
  {a b : Position MemoryFactory MemoryStore Tuning Blinding}

structure Loaned (position : Position MemoryFactory MemoryStore Tuning Blinding) : Prop where
  orderly : Orderly position.busy position.run.shape
  labelled : Labelled position.run
  lent : ∀ point ∈ position.run.outside.points, ∀ handle, point.names handle →
    (∃ role, handle = wellKnown role) ∨ Lent position.run.vitals? handle

theorem Move.loaned (move : Move permitted a b) (loaned : Loaned a) : Loaned b := by
  refine ⟨move.orderly loaned.orderly, perennial_labelled.move move loaned.labelled,
    fun point member handle named => ?_⟩
  have still (member : point ∈ a.run.outside.points) :
      (∃ role, handle = wellKnown role) ∨ Lent b.run.vitals? handle :=
    (loaned.lent point member handle named).imp_right (move.lent loaned.orderly)
  rcases move.points loaned.orderly with same | ⟨event, moments, added, -, truthful⟩
  · exact still (same ▸ member)
  · rw [added, List.mem_append, List.mem_singleton] at member
    rcases member with before | rfl
    · exact still before
    · obtain ⟨call, given, response, ended, mentioned⟩ := named
      refine ((truthful.answered ended).named mentioned).imp_right fun ready => ?_
      obtain ⟨vitals, present⟩ := vitals?_of_isReady ready
      exact ⟨_, present, Or.inl rfl⟩

theorem Path.loaned (path : Path permitted a b) (loaned : Loaned a) : Loaned b := by
  induction path with
  | refl => exact loaned
  | tail _ move ih => exact move.loaned ih

theorem Reached.loaned {busy : List Handle} {run : Run MemoryFactory MemoryStore Tuning Blinding}
    (reached : Reached busy run) : Loaned ⟨busy, run⟩ := by
  obtain ⟨start, built, path⟩ := reached.path
  have nothing : start.outside.points = [] := congrArg Journal.points built.bare.outside
  refine path.loaned ⟨built.bare.orderly, built.labelled, fun point member => ?_⟩
  simp [nothing] at member

theorem Lent.refuses {γ : Type} {directory : Directory MemoryFactory MemoryStore γ}
    {handle : Handle} (lent : Lent directory.vitals? handle)
    (labelled : Labelled directory) (idle : directory.isReady handle = false)
    (key : Hash) (entry : Entry) :
    (directory.insert handle key entry).2 = directory ∧
      ∃ store, directory.store? handle = some store ∧ (key ∉ store.refused →
        (directory.insert handle key entry).1 = .error (.storeShutDown handle.id)) := by
  obtain ⟨found, present, vouched⟩ := lent
  obtain ⟨partition, here, rfl⟩ := Option.map_eq_some_iff.mp present
  have stopped : partition.store.stopped = true := by
    refine (vouched.resolve_left fun ready => ?_).2
    have ready : partition.lifecycle = .ready := ready
    simp [isReady, here, ready] at idle
  have store : directory.store? handle = some partition.store := by simp [store?, here]
  obtain ⟨unchanged, refused⟩ := insert_of_stopped store (labelled.store store) stopped key entry
  exact ⟨unchanged, _, store, refused⟩

end Loans

/-! ## After a client was removed -/

section After

variable {run later : Run MemoryFactory MemoryStore Tuning Blinding} {client : Hash}

def BuiltBefore (run : Run MemoryFactory MemoryStore Tuning Blinding) (client : Hash)
    (handle : Handle) : Prop :=
  handle.id = .client client ∧ run.partition? handle ≠ none

/-- What is so at every later time, when a client was removed in a run. Its partitions that anyone
was told of until then refuse entries; what only its partitions of then hold is in no answer; no
search finds one of them. While the client is not tracked, everything goes on as if nothing had ever
been built for it, by whatever names its partitions will have, and a search that nobody interrupts
finds a partition with what a first one would hold. -/
structure RemovedForGood (client : Hash)
    (run later : Run MemoryFactory MemoryStore Tuning Blinding) :
    Prop where
  refused : ∀ point ∈ run.outside.points, ∀ handle, point.names handle →
    handle.id = .client client → ∀ key entry,
      (later.insert handle key entry).2 = later ∧
        ∃ store, later.store? handle = some store ∧ (key ∉ store.refused →
          (later.insert handle key entry).1 = .error (.storeShutDown (.client client)))
  unseen : Unseen (BuiltBefore run client) later
  another : ∀ {habit : Habit MemoryFactory MemoryStore Tuning Blinding} {turns depth : Nat}
    {handle : Handle}, later.isolated = true →
    (later.resolve (others habit turns depth) (some (.client client))).2.stuck = false →
    (later.resolve (others habit turns depth) (some (.client client))).1 = .ok handle →
      handle.id = .client client ∧ ¬BuiltBefore run client handle
  renewed : later.tracked? client = none →
    ∀ {manner : Manner Tuning Blinding} {turns depth : Nat} {calls : List (Call Tuning Blinding)},
      ((later.forgetful client).makeAll (others manner.habit turns depth) calls).stuck = false →
        List.Forall₂ (Renewed client (later.past client) later.partition?)
          ((later.forgetful client).makeAll (others manner.habit turns depth)
            calls).outside.points
          (later.anew.makeAll
            (others (manner.rename (.after client (later.past client))).habit turns depth)
            (calls.map (·.rename (Naming.after client (later.past client)).place))).outside.points
  sown : later.tracked? client = none → later.isolated = true →
    ∀ {turns : Nat} {handle : Handle},
      (later.resolve (.quiet (turns + 1)) (some (.client client))).1 = .ok handle →
        ∃ store, (later.resolve (.quiet (turns + 1)) (some (.client client))).2.store? handle =
            some store ∧ Sown later client store

theorem RemovedForGood.insert_refused (gone : RemovedForGood client run later) (plain : Plain later)
    {point : Point MemoryFactory MemoryStore Tuning Blinding} (before : point ∈ run.outside.points)
    {handle : Handle} (named : point.names handle) (owned : handle.id = .client client) (key : Hash)
    (entry : Entry) :
    (later.insert handle key entry).1 = .error (.storeShutDown (.client client)) := by
  obtain ⟨-, store, present, refused⟩ := gone.refused point before handle named owned key entry
  have accepting : store.refused = [] := plain.store present
  exact refused (by simp [accepting])

theorem spent_of_untracked (orderly : Orderly [] run.shape)
    (untracked : run.tracked? client = none) {handle : Handle}
    (named : handle.id = .client client) (present : run.partition? handle ≠ none) :
    Spent run.shape handle := by
  obtain ⟨partition, here⟩ := Option.ne_none_iff_exists'.mp present
  have stands : run.shape.stages handle = some (partition.lifecycle, partition.locked) := by
    simp [stage?, here]
  refine ⟨partition.lifecycle, fun ready => ?_, ?_⟩
  · obtain ⟨id, generation⟩ := handle
    obtain rfl : id = .client client := named
    rw [ready] at stands
    cases untracked.symm.trans (orderly.ready stands)
  · cases locked : partition.locked with
    | false => rw [stands, locked]
    | true =>
      rw [locked] at stands
      cases orderly.locked stands

theorem gone_of_spent (loaned : Loaned ⟨[], run⟩) (reached : Reached [] later)
    (points : run.outside.points <+: later.outside.points)
    (torn : ∀ handle, BuiltBefore run client handle → Spent later.shape handle) :
    RemovedForGood client run later := by
  constructor
  case refused =>
    intro point member handle mentioned owned key entry
    have fixed : ¬∃ role, handle = wellKnown role := by
      rintro ⟨role, rfl⟩
      cases owned
    have kept := reached.loaned
    have lent := (kept.lent point (points.subset member) handle mentioned).resolve_left fixed
    have idle : later.isReady handle = false := by
      obtain ⟨found, here, -⟩ := (loaned.lent point member handle mentioned).resolve_left fixed
      obtain ⟨partition, present, -⟩ := Option.map_eq_some_iff.mp here
      exact (torn handle ⟨owned, by simp [present]⟩).idle
    have refuses := lent.refuses kept.labelled idle key entry
    rwa [owned] at refuses
  case unseen =>
    refine unseen_of_idle fun handle shown gone => ?_
    rcases shown with ⟨role, rfl⟩ | ready
    · cases gone.1
    · cases (torn handle gone).idle.symm.trans ready
  case another =>
    intro habit turns depth handle isolated unstuck found
    have considerate : Considerate (fun _ => True) (others habit turns depth) :=
      considerate_others (fun _ _ _ _ => trivial) turns depth
    have search : (Call.resolve (some (.client client)) : Call Tuning Blinding).seeks =
        some client := rfl
    obtain ⟨walk, answered⟩ := considerate.resolve reached.orderly reached.covered search unstuck
    obtain ⟨tracked, ready⟩ := answered.found search isolated (congrArg Response.found found)
    refine ⟨id_of_tracked? tracked, fun gone => ?_⟩
    obtain ⟨stage, idle, stands⟩ := walk.path.spent reached.orderly (torn handle gone)
    exact idle (congrArg Prod.fst (Option.some.inj (stands.symm.trans ready)))
  case renewed => exact fun untracked {_ _ _ _} unstuck => renewed_makeAll reached untracked unstuck
  case sown =>
    intro untracked isolated turns handle found
    cases closed : later.closed with
    | false => exact (sown_resolve closed isolated untracked found).2
    | true =>
      simp [resolve, isolated, Directory.client, Surroundings.quiet, clientWithin, closed] at found

end After

/-- While nobody is starting anything, removing a client says whether it was tracked, and it is not
tracked any more. Whatever is done afterwards, also by others who interrupt it and by those who drive
stores directly, the client's partitions of then do not come back. -/
theorem removed_for_good {run : Run MemoryFactory MemoryStore Tuning Blinding}
    (reached : Reached [] run) (client : Hash)
    {habit : Habit MemoryFactory MemoryStore Tuning Blinding} {turns depth : Nat} :
    (run.removeClient (others habit turns depth) client).1 = (run.tracked? client).isSome ∧
      (run.removeClient (others habit turns depth) client).2.tracked? client = none ∧
      ∀ {calls : List (Call Tuning Blinding)},
        (run.makeAll (others habit turns depth) (.removeClient client :: calls)).stuck = false →
          RemovedForGood client run
            (run.makeAll (others habit turns depth) (.removeClient client :: calls)) := by
  have considerate : Considerate (fun _ => True) (others habit turns depth) :=
    considerate_others (fun _ _ _ _ => trivial) turns depth
  have quiet (run : Run MemoryFactory MemoryStore Tuning Blinding) :
      run.removeClient (others habit turns depth) client = run.removeClient (.quiet 0) client :=
    removeClient_eq considerate.ungauged
  obtain ⟨result, untracked, -⟩ := @removeClient_of_orderly _ _ _ _ _ client reached.orderly 0
  rw [quiet]
  refine ⟨result, untracked, fun {calls} unstuck => ?_⟩
  have later : run.makeAll (others habit turns depth) (.removeClient client :: calls) =
      (run.make (others habit turns depth) (.removeClient client)).makeAll
        (others habit turns depth) calls := rfl
  rw [later] at unstuck ⊢
  have calm : (run.make (others habit turns depth) (.removeClient client)).stuck = false :=
    unstuck_of_later unstuck fun stuck => stuck_makeAll considerate.patient stuck calls
  have first := considerate.make reached.orderly reached.covered trivial calm
  have begun : Orderly [] (run.record (.begins (.removeClient client))).shape :=
    reached.orderly.congr rfl rfl rfl
  obtain ⟨-, untracked, present⟩ := @removeClient_of_orderly _ _ _ _ _ client begun 0
  rw [← quiet] at untracked present
  have untracked : (run.make (others habit turns depth) (.removeClient client)).tracked? client =
      none := untracked
  have present (handle : Handle) (there : run.stage? handle ≠ none) :
      (run.make (others habit turns depth) (.removeClient client)).stage? handle ≠ none :=
    present handle there
  have removed : Reached [] (run.make (others habit turns depth) (.removeClient client)) :=
    @Reached.makeAll _ _ _ _ _ _ _ _ _ reached habit turns depth [.removeClient client] calm
  generalize run.make (others habit turns depth) (.removeClient client) = after at *
  have rest := considerate.makeAll removed.orderly removed.covered (fun _ _ => trivial) unstuck
  refine gone_of_spent reached.loaned (removed.makeAll unstuck)
    ((first.path.grows reached.orderly).trans (rest.path.grows removed.orderly))
    fun handle torn => rest.path.spent removed.orderly ?_
  have there : run.stage? handle ≠ none := by simpa [stage?] using torn.2
  refine spent_of_untracked removed.orderly untracked torn.1 ?_
  simpa [stage?] using present handle there

def departing : Run MemoryFactory MemoryStore Tuning Blinding :=
  plainRun.makeAll (others eager 0 2)
    [.resolve (some (.client someone)),
      .insert ⟨.client someone, 0⟩ someone (.lease ⟨someone, none, [], 0⟩)]

theorem removed_amid_race :
    (departing.removeClient (others eager 0 2) someone).1 = (departing.tracked? someone).isSome ∧
      (departing.removeClient (others eager 0 2) someone).2.tracked? someone = none ∧
      (departing.makeAll (others eager 0 2)
        [.removeClient someone, .resolve (some (.client someone))]).stuck = false ∧
      RemovedForGood someone departing (departing.makeAll (others eager 0 2)
        [.removeClient someone, .resolve (some (.client someone))]) := by
  have reached : Reached [] departing := built_plainRun.reached.makeAll (by decide +kernel)
  have unstuck : (departing.makeAll (others eager 0 2)
      [.removeClient someone, .resolve (some (.client someone))]).stuck = false := by
    decide +kernel
  obtain ⟨removed, untracked, later⟩ := removed_for_good reached someone
  exact ⟨removed, untracked, unstuck, later unstuck⟩

end Directory

end PeerDirectory

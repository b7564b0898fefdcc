import PeerDirectory.Proofs.Run.Anchored
import PeerDirectory.Proofs.Run.Fitting
import PeerDirectory.Proofs.Run.Stores
import PeerDirectory.Proofs.Run.Walk

namespace PeerDirectory.Directory

section Stores

variable {γ : Type} {given : Handle → Prop} {busy : List Handle}
  {directory : Directory MemoryFactory MemoryStore γ} {handle : Handle}

theorem storeInitialized_eq {vitals : Vitals} {stage : Lifecycle}
    (present : directory.vitals? handle = some (vitals, stage)) :
    directory.storeInitialized handle = (vitals.started && !vitals.stopped) := by
  obtain ⟨partition, here, found⟩ := Option.map_eq_some_iff.mp present
  obtain ⟨rfl, -⟩ := Prod.mk.inj found
  simp only [storeInitialized, ask, store?, here, Option.map_some]
  rfl

theorem vitals?_of_isReady (ready : directory.isReady handle = true) :
    ∃ vitals, directory.vitals? handle = some (vitals, .ready) := by
  unfold isReady at ready
  cases here : directory.partition? handle with
  | none => simp [here] at ready
  | some partition =>
    have stage : partition.lifecycle = .ready := by simpa [here] using ready
    exact ⟨partition.store.vitals, by simp [vitals?, here, stage]⟩

theorem storeInitialized_of_ready (fitting : Fitting given directory.vitals?)
    (ready : directory.isReady handle = true) : directory.storeInitialized handle = true := by
  obtain ⟨vitals, present⟩ := vitals?_of_isReady ready
  obtain rfl : vitals = ⟨handle.id, 1, true, false⟩ := fitting.fit present
  exact storeInitialized_eq present

theorem initialized_of_open (anchored : Anchored directory.shape)
    (fitting : Fitting given directory.vitals?) (opened : directory.closed = false) :
    directory.isInitialized = true := by
  refine List.all_eq_true.mpr fun handle listed => storeInitialized_of_ready fitting ?_
  rcases mem_current_cases listed with ⟨role, rfl⟩ | ready
  · have stands := anchored.stage role
    rw [show directory.shape.closed = false from opened] at stands
    simp [isReady_iff stands]
  · exact ready

theorem insert_of_stopped {store : MemoryStore} (present : directory.store? handle = some store)
    (named : store.id = handle.id) (stopped : store.stopped = true) (key : Hash) (entry : Entry) :
    (directory.insert handle key entry).2 = directory ∧
      (key ∉ store.refused →
        (directory.insert handle key entry).1 = .error (.storeShutDown handle.id)) := by
  have kept : (PartitionStore.insert store key entry).2 = store := by
    simp only [PartitionStore.insert, MemoryStore.insert, stopped]
    split <;> rfl
  simp only [insert, present, kept]
  refine ⟨setStore_self present, fun accepted => ?_⟩
  simp [PartitionStore.insert, MemoryStore.insert, stopped, accepted, named]

structure Over (given : Handle → Prop) (directory : Directory MemoryFactory MemoryStore γ) :
    Prop where
  untracked : ∀ client, directory.tracked? client = none
  stopped : ∀ {handle}, given handle →
    ∃ store, directory.store? handle = some store ∧ store.id = handle.id ∧ store.stopped = true
  down : ∀ role, directory.stage? (wellKnown role) = some (.shutDown, false)

theorem over_of_closed (orderly : Orderly busy directory.shape)
    (anchored : Anchored directory.shape) (fitting : Fitting given directory.vitals?)
    (closed : directory.closed = true) : Over given directory := by
  have untracked : ∀ client, directory.tracked? client = none := orderly.closed closed
  have down (role : WellKnown) : directory.stage? (wellKnown role) = some (.shutDown, false) := by
    have stands := anchored.stage role
    rwa [show directory.shape.closed = true from closed] at stands
  refine ⟨untracked, fun {handle} also => ?_, down⟩
  obtain ⟨vitals, stage, present, started⟩ := fitting.begun also
  obtain ⟨partition, here, found⟩ := Option.map_eq_some_iff.mp present
  obtain ⟨rfl, rfl⟩ := Prod.mk.inj found
  have fit := fitting.fit present
  have stands : directory.stage? handle = some (partition.lifecycle, partition.locked) := by
    simp [stage?, here]
  have store : directory.store? handle = some partition.store := by simp [store?, here]
  cases stage : partition.lifecycle with
  | creating =>
    have fresh : partition.store.vitals = ⟨handle.id, 0, false, false⟩ := by rwa [stage] at fit
    cases (congrArg Vitals.started fresh).symm.trans started
  | shutDown =>
    rw [stage] at fit
    exact ⟨_, store, fit.1, fit.2 started⟩
  | ready =>
    have ready : directory.isReady handle = true := by simp [isReady_iff stands, stage]
    cases (idle_of_closed orderly anchored closed handle).symm.trans ready

namespace Over

theorem clients (gone : Over given directory) : directory.clients = ∅ :=
  Clients.eq_empty_of_untracked gone.untracked

theorem readyClients (gone : Over given directory) : directory.readyClients = [] := by
  simp [Directory.readyClients, gone.clients]

theorem uninitialized (gone : Over given directory) (main : given (wellKnown .main)) :
    directory.isInitialized = false := by
  obtain ⟨store, present, -, stopped⟩ := gone.stopped main
  have dead : directory.storeInitialized (wellKnown .main) = false := by
    simp only [storeInitialized, ask, present]
    simp [PartitionStore.isInitialized, MemoryStore.isInitialized, stopped]
  refine List.all_eq_false.mpr ⟨wellKnown .main, ?_, by simp [dead]⟩
  unfold current
  split
  · exact List.mem_append_left _ (List.mem_map_of_mem (by decide))
  · exact List.mem_singleton_self _

theorem trackedClients (gone : Over given directory) : directory.trackedClients = 0 := by
  simp [Directory.trackedClients, gone.clients]

theorem clientIds (gone : Over given directory) : directory.clientIds = [] := by
  simp [Directory.clientIds, gone.readyClients]

theorem insert (gone : Over given directory) (also : given handle) (key : Hash) (entry : Entry) :
    (directory.insert handle key entry).2 = directory ∧
      ∃ store, directory.store? handle = some store ∧
        (key ∉ store.refused →
          (directory.insert handle key entry).1 = .error (.storeShutDown handle.id)) := by
  obtain ⟨store, present, id, stopped⟩ := gone.stopped also
  obtain ⟨unchanged, refused⟩ := insert_of_stopped present id stopped key entry
  exact ⟨unchanged, store, present, refused⟩

theorem removeClient (gone : Over given directory) (client : Hash) :
    (directory.removeClient (.quiet 0) client).1 = false := by
  simp [Directory.removeClient, gone.untracked client]

theorem shutdown (gone : Over given directory) :
    (directory.shutdown (.quiet 0)).partitions = directory.partitions := by
  have idle (roles : List WellKnown) (count : Nat)
      (closing : Directory MemoryFactory MemoryStore γ)
      (down : ∀ role, closing.stage? (wellKnown role) = some (.shutDown, false)) :
      ((roles.map wellKnown).foldl stopCounted (count, closing)).2 = closing := by
    induction roles with
    | nil => rfl
    | cons role rest ih =>
      rw [List.map_cons, List.foldl_cons, stopCounted, stop_of_down (down role)]
      exact ih
  simp only [Directory.shutdown, gone.clients, Clients.handles_empty, List.append_nil]
  have still := congrArg Directory.partitions (idle WellKnown.all 0
    (publish { directory with closed := true, clients := ∅ } (.quiet 0)) gone.down)
  exact still

end Over

end Stores

namespace Point

variable {φ σ τ υ : Type}

def names (point : Point φ σ τ υ) (handle : Handle) : Prop :=
  ∃ call before response, point.event = .ends call before response ∧
    handle ∈ response.partitions

end Point

/-- What a point of a run shows once the directory was shut down. The earlier points are those
before it. -/
structure Final (earlier : List (Point MemoryFactory MemoryStore Tuning Blinding))
    (point : Point MemoryFactory MemoryStore Tuning Blinding) : Prop where
  closed : point.state.closed = true
  uninitialized : point.state.isInitialized = false
  trackedClients : point.state.trackedClients = 0
  clientIds : point.state.clientIds = []
  /-- Even a search that began before the shutdown finds nothing. -/
  refused : ∀ {call before response client}, point.event = .ends call before response →
    call.seeks = some client → before.isolated = true → response = .found (.error .closed)
  together : ∀ {call before response client}, point.event = .ends call before response →
    call.seeks = some client → before.isolated = false →
      response = .found (.ok (wellKnown .main)) ∧ point.state = before
  barred : ∀ {call before response client}, point.event = .ends call before response →
    call.seeks = some client → before.closed = true → point.state = before
  inserted : ∀ {handle key entry before response},
    point.event = .ends (.insert handle key entry) before response →
    (∃ past ∈ earlier, past.names handle) →
      point.state = before ∧ ∃ store, before.store? handle = some store ∧
        (key ∉ store.refused → response = .done (.error (.storeShutDown handle.id)))
  removed : ∀ {client before response},
    point.event = .ends (.removeClient client) before response → response = .flag false
  shutAgain : ∀ {before response}, point.event = .ends .shutdown before response →
    before.closed = true → point.state.partitions = before.partitions

/-- A store that refuses no keys says that it was shut down. -/
theorem Final.insert_refused {earlier : List (Point MemoryFactory MemoryStore Tuning Blinding)}
    {point : Point MemoryFactory MemoryStore Tuning Blinding} (final : Final earlier point)
    (plain : Plain point.state) {handle : Handle} {key : Hash} {entry : Entry}
    {before : Directory MemoryFactory MemoryStore Unit} {response : Response}
    (ended : point.event = .ends (.insert handle key entry) before response)
    (named : ∃ past ∈ earlier, past.names handle) :
    response = .done (.error (.storeShutDown handle.id)) := by
  obtain ⟨same, store, present, refused⟩ := final.inserted ended named
  have accepting : store.refused = [] := plain.store (same ▸ present)
  exact refused (by simp [accepting])

def Given (points : List (Point MemoryFactory MemoryStore Tuning Blinding)) (handle : Handle) :
    Prop :=
  (∃ role, handle = wellKnown role) ∨ ∃ point ∈ points, point.names handle

theorem final_of_truthful {earlier : List (Point MemoryFactory MemoryStore Tuning Blinding)}
    {event : Event MemoryFactory MemoryStore Tuning Blinding} {moments : List Moment}
    {last state : Directory MemoryFactory MemoryStore Unit} (truthful : Truthful event last state)
    (closed : state.closed = true) (gone : Over (Given earlier) state)
    (before : last.closed = true → Over (Given earlier) last)
    (since : last.closed = true ∨ ∃ before response, event = .ends .shutdown before response) :
    Final earlier ⟨event, moments, state⟩ := by
  -- A call that nobody could interrupt, and that did not shut the directory down itself.
  have calm {call : Call Tuning Blinding} {given : Directory MemoryFactory MemoryStore Unit}
      {response : Response} (ended : event = .ends call given response) (plain : call.plain = true)
      (other : given.closed = true ∨ call ≠ .shutdown) :
      ∃ run : Run MemoryFactory MemoryStore Tuning Blinding, run.snapshot = given ∧
        response = (run.perform (.quiet 0) call).1 ∧
        state = (run.perform (.quiet 0) call).2.snapshot ∧ Over (Given earlier) run := by
    obtain ⟨rfl, run, rfl, -, rfl, rfl⟩ := truthful.acted ended plain
    refine ⟨run, rfl, rfl, rfl, ?_⟩
    have shut : run.snapshot.closed = true := by
      rcases other with shut | other
      · exact shut
      · refine since.resolve_right fun ⟨_, _, ends⟩ => other ?_
        exact (Event.ends.inj (ended.symm.trans ends)).1
    exact ⟨(before shut).untracked, (before shut).stopped, (before shut).down⟩
  refine ⟨closed, gone.uninitialized (Or.inl ⟨.main, rfl⟩), gone.trackedClients, gone.clientIds,
    fun ended seeks isolated => (truthful.answered ended).closed seeks isolated closed,
    fun ended seeks together => (truthful.answered ended).together seeks together,
    fun ended seeks shut => (truthful.answered ended).barred seeks shut, ?_, ?_, ?_⟩
  · intro handle key entry given response ended named
    obtain ⟨run, rfl, rfl, same, gone⟩ := calm ended rfl (Or.inr nofun)
    obtain ⟨unchanged, store, present, refused⟩ := gone.insert (Or.inr named) key entry
    refine ⟨same.trans (congrArg Directory.snapshot unchanged), store, present, fun accepted => ?_⟩
    exact congrArg Response.done (refused accepted)
  · intro client given response ended
    obtain ⟨run, rfl, rfl, -, gone⟩ := calm ended rfl (Or.inr nofun)
    exact congrArg Response.flag (gone.removeClient client)
  · intro given response ended shut
    obtain ⟨run, rfl, -, same, gone⟩ := calm ended rfl (Or.inl shut)
    exact (congrArg Directory.partitions same).trans gone.shutdown

def Lifespan (earlier : List (Point MemoryFactory MemoryStore Tuning Blinding))
    (point : Point MemoryFactory MemoryStore Tuning Blinding) : Prop :=
  ((∀ past ∈ earlier ++ [point], past.closes = false) →
      point.state.closed = false ∧ point.state.isInitialized = true) ∧
    ((∃ past ∈ earlier ++ [point], past.closes = true) → Final earlier point)

structure Lasting (position : Position MemoryFactory MemoryStore Tuning Blinding) : Prop where
  orderly : Orderly position.busy position.run.shape
  anchored : Anchored position.run.shape
  fitting : Fitting (Given position.run.outside.points) position.run.vitals?
  attested : Attested position.run
  points : ∀ {earlier point later},
    position.run.outside.points = earlier ++ point :: later → Lifespan earlier point

section Moves

variable {a b : Position MemoryFactory MemoryStore Tuning Blinding}

theorem Move.lasting (move : Move Undriven a b) (lasting : Lasting a) : Lasting b := by
  have orderly := move.orderly lasting.orderly
  have anchored := move.anchored lasting.orderly lasting.anchored
  have fitting := move.fitting lasting.orderly lasting.fitting
  have attested := move.attested lasting.orderly lasting.attested
  rcases move.points lasting.orderly with same | ⟨event, moments, added, -, truthful⟩
  · exact ⟨orderly, anchored, by rwa [same], attested, fun split => lasting.points (same ▸ split)⟩
  · have fitting : Fitting (Given b.run.outside.points) b.run.vitals? := by
      refine fitting.give fun {handle} also => ?_
      have offered (named : (∃ role, handle = wellKnown role) ∨ b.run.isReady handle = true) :
          Given a.run.outside.points handle ∨
            ∃ current, b.run.vitals? handle = some (current, .ready) := by
        rcases named with fixed | ready
        · exact Or.inl (Or.inl fixed)
        · exact Or.inr (vitals?_of_isReady ready)
      rcases also with fixed | ⟨point, member, call, before, response, ended, named⟩
      · exact offered (Or.inl fixed)
      · rw [added, List.mem_append, List.mem_singleton] at member
        rcases member with earlier | rfl
        · exact Or.inl (Or.inr ⟨point, earlier, call, before, response, ended, named⟩)
        · exact offered ((truthful.answered ended).named named)
    refine ⟨orderly, anchored, fitting, attested, fun {earlier point later} split => ?_⟩
    have closed : b.run.closed = true ↔ ∃ past ∈ b.run.outside.points, past.closes = true :=
      attested
    rw [added] at split closed
    rcases split_of_append_singleton split with ⟨rfl, rfl⟩ | ⟨before, -, split⟩
    · have still := move.fitting lasting.orderly lasting.fitting
      constructor
      · intro opened
        have running : b.run.closed = false := by
          cases shut : b.run.closed with
          | false => rfl
          | true =>
            obtain ⟨past, member, closes⟩ := closed.mp shut
            cases (opened past member).symm.trans closes
        exact ⟨running, initialized_of_open ⟨anchored.stage, anchored.only⟩ fitting running⟩
      · intro ended
        have shut := closed.mpr ended
        have gone := over_of_closed orderly anchored still shut
        refine final_of_truthful truthful shut ⟨gone.untracked, gone.stopped, gone.down⟩ ?_ ?_
        · intro already
          have gone := over_of_closed lasting.orderly lasting.anchored lasting.fitting already
          exact ⟨gone.untracked, gone.stopped, gone.down⟩
        · rcases move.closed_cases lasting.orderly with same | ⟨-, point, closes, longer⟩
          · exact Or.inl (same.symm.trans shut)
          · obtain rfl : _ = point := by simpa using added.symm.trans longer
            exact Or.inr (Point.ends_of_closes closes)
    · exact lasting.points split

theorem Path.lasting (path : Path Undriven a b) (lasting : Lasting a) : Lasting b := by
  induction path with
  | refl => exact lasting
  | tail _ move ih => exact move.lasting ih

end Moves

theorem lasting_of_built {run : Run MemoryFactory MemoryStore Tuning Blinding}
    (built : Built run) : Lasting ⟨[], run⟩ := by
  have nothing : run.outside.points = [] := congrArg Journal.points built.bare.outside
  refine ⟨built.bare.orderly, built.anchored, ?_, built.attested, fun split => ?_⟩
  · refine built.fitting.weaken fun {handle} also => ?_
    simpa [Given, nothing] using also
  · simp [nothing] at split

/-- A directory that was built is initialized at every point of every run until it is shut down,
and shutting it down is complete and final, as long as nobody drives a store directly or waits for
ever. -/
theorem shutdown_final {run : Run MemoryFactory MemoryStore Tuning Blinding}
    {habit : Habit MemoryFactory MemoryStore Tuning Blinding} {turns depth : Nat}
    {calls : List (Call Tuning Blinding)} (built : Built run)
    (undriven : ∀ call ∈ calls, call.drives = false)
    (always : ∀ moment run, ∀ call ∈ habit moment run, call.drives = false)
    (unstuck : (run.makeAll (others habit turns depth) calls).stuck = false)
    {earlier later : List (Point MemoryFactory MemoryStore Tuning Blinding)}
    {point : Point MemoryFactory MemoryStore Tuning Blinding}
    (points : (run.makeAll (others habit turns depth) calls).outside.points =
      earlier ++ point :: later) :
    ((∀ past ∈ earlier ++ [point], past.closes = false) →
        point.state.closed = false ∧ point.state.isInitialized = true) ∧
      ((∃ past ∈ earlier ++ [point], past.closes = true) → Final earlier point) := by
  have walk := (considerate_others always turns depth).makeAll built.bare.orderly
    (fun _ starting => by cases starting) undriven unstuck
  exact (walk.path.lasting (lasting_of_built built)).points points

def closing : Habit MemoryFactory MemoryStore Tuning Blinding
  | .create id, _ => if id = .client newcomer then [.shutdown] else []
  | _, _ => []

def farewell : List (Call Tuning Blinding) :=
  [.resolve (some (.client someone)), .resolve (some (.client newcomer)),
    .insert ⟨.client someone, 0⟩ someone (.lease ⟨someone, none, [], 0⟩)]

theorem shutdown_amid_creation :
    ∃ earlier point later, (plainRun.makeAll (others closing 0 1) farewell).outside.points =
        earlier ++ point :: later ∧
      (∃ past ∈ earlier ++ [point], past.closes = true) ∧ Final earlier point := by
  have inside : 13 < (plainRun.makeAll (others closing 0 1) farewell).outside.points.length := by
    decide +kernel
  have ended : ∃ past ∈ (plainRun.makeAll (others closing 0 1) farewell).outside.points.take 13 ++
      [(plainRun.makeAll (others closing 0 1) farewell).outside.points[13]],
        past.closes = true := by decide +kernel +revert
  have split : (plainRun.makeAll (others closing 0 1) farewell).outside.points =
      (plainRun.makeAll (others closing 0 1) farewell).outside.points.take 13 ++
        (plainRun.makeAll (others closing 0 1) farewell).outside.points[13] ::
          (plainRun.makeAll (others closing 0 1) farewell).outside.points.drop 14 := by
    rw [← List.drop_eq_getElem_cons inside, List.take_append_drop]
  have always (moment : Moment) (run : Run MemoryFactory MemoryStore Tuning Blinding) :
      ∀ call ∈ closing moment run, call.drives = false := by
    unfold closing
    split
    · split <;> decide
    · decide
  exact ⟨_, _, _, split, ended, (shutdown_final built_plainRun (by decide) always
    (by decide +kernel) split).2 ended⟩

end PeerDirectory.Directory

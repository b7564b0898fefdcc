import PeerDirectory.Proofs.Run.Filling
import PeerDirectory.Proofs.Run.Points
import PeerDirectory.Proofs.Run.Start

namespace PeerDirectory.Directory

def Point.fills {φ σ τ υ : Type} (point : Point φ σ τ υ) (handle : Handle) (key : Hash)
    (lease : Bool) : Bool :=
  match point.stored? with
  | some (other, under, entry) => other = handle && under = key && entry.isLease = lease
  | none => false

section Additions

variable {a b : Position MemoryFactory MemoryStore Tuning Blinding}
  {added : List (Point MemoryFactory MemoryStore Tuning Blinding)} {handle : Handle}
  {held next : Entries} {key : Hash}

theorem fills_of_silent {point : Point MemoryFactory MemoryStore Tuning Blinding}
    (silent : ∀ key entry, point.stored? ≠ some (handle, key, entry)) (key : Hash) (lease : Bool) :
    point.fills handle key lease = false := by
  unfold Point.fills
  split
  · rename_i other under entry told
    have apart : other ≠ handle := by
      rintro rfl
      exact silent under entry told
    simp [apart]
  · rfl

theorem any_fills_of_silent
    (silent : ∀ point ∈ added, ∀ key entry, point.stored? ≠ some (handle, key, entry)) (key : Hash)
    (lease : Bool) : added.any (·.fills handle key lease) = false := by
  rw [List.any_eq_false]
  intro point member filled
  cases (fills_of_silent (silent point member) key lease).symm.trans filled

theorem any_fills_of_stored {point : Point MemoryFactory MemoryStore Tuning Blinding} {under : Hash}
    {entry : Entry} (told : point.stored? = some (handle, under, entry)) (key : Hash)
    (lease : Bool) :
    [point].any (·.fills handle key lease) = true ↔ under = key ∧ entry.isLease = lease := by
  simp [Point.fills, told]

theorem Addition.leaseSets (addition : Addition a b added handle held next) (key : Hash) :
    (added.any (·.fills handle key true) = false → next.leaseSets[key]? = held.leaseSets[key]?) ∧
      (next.leaseSets[key]?).isSome =
        ((held.leaseSets[key]?).isSome || added.any (·.fills handle key true)) := by
  cases addition with
  | none same silent => simp [same, any_fills_of_silent silent key true]
  | seeded starting finished nothing given plant =>
    subst nothing plant
    simp [Entries.plant]
  | @stored under entry point alone told put =>
    subst alone put
    rw [Entries.leaseSets_put]
    cases filled : [point].any (·.fills handle key true) with
    | true =>
      have here := (any_fills_of_stored told key true).mp filled
      refine ⟨nofun, ?_⟩
      rw [if_pos here, Bool.or_true]
      cases entry with
      | router descriptor => cases here.2
      | lease record => rfl
    | false =>
      have elsewhere : ¬(under = key ∧ entry.isLease = true) := fun here =>
        nomatch filled.symm.trans ((any_fills_of_stored told key true).mpr here)
      rw [if_neg elsewhere, Bool.or_false]
      exact ⟨fun _ => rfl, rfl⟩

theorem Addition.routers (addition : Addition a b added handle held next)
    (bare : added.any (·.fills handle key false) = false) {router : Router}
    (kept : held.routers[key]? = some router) :
    ∃ now, next.routers[key]? = some now ∧
      (now = router ∨ (handle ∈ a.busy ∧ handle ∉ b.busy) ∧
        router.floodfill = false ∧ now.floodfill = true) := by
  cases addition with
  | none same silent => exact ⟨router, by rw [same, kept], Or.inl rfl⟩
  | seeded starting finished nothing given plant =>
    obtain ⟨now, found, origin⟩ := Entries.routers_plant_of_held kept _
    refine ⟨now, by rw [plant, found], origin.imp_right fun planted => ?_⟩
    obtain ⟨dry, -, floods⟩ := given key now planted
    exact ⟨⟨starting, finished⟩, dry key router kept, floods⟩
  | @stored under entry point alone told put =>
    subst alone put
    have elsewhere : ¬(under = key ∧ entry.isLease = false) := fun here =>
      nomatch bare.symm.trans ((any_fills_of_stored told key false).mpr here)
    exact ⟨router, by rw [Entries.routers_put, if_neg elsewhere, kept], Or.inl rfl⟩

end Additions

/-! ## From when an entry was stored -/

/-- A partition that was being started when a router was stored into it has started since, and was
seeded with a router that floods in place of one that does not. -/
structure Resown (stored state : Directory MemoryFactory MemoryStore Unit) (handle : Handle)
    (router kept : Router) : Prop where
  begun : stored.stage? handle = some (.creating, true)
  finished : state.stage? handle ≠ some (.creating, true)
  dry : router.floodfill = false
  floods : kept.floodfill = true

structure Since (stored : Point MemoryFactory MemoryStore Tuning Blinding) (handle : Handle)
    (key : Hash) (entry : Entry)
    (between : List (Point MemoryFactory MemoryStore Tuning Blinding))
    (state : Directory MemoryFactory MemoryStore Unit) (held : Entries) : Prop where
  began : state.stage? handle = some (.creating, true) →
    stored.state.stage? handle = some (.creating, true)
  hidden : (held.leaseSets[key]?).isSome =
    ((stored.state.lookupLease handle key).isSome || between.any (·.fills handle key true))
  lease : ∀ record, entry = .lease record → between.any (·.fills handle key true) = false →
    held.leaseSets[key]? = some record
  router : ∀ router, entry = .router router → between.any (·.fills handle key false) = false →
    ∃ kept, held.routers[key]? = some kept ∧
      (kept = router ∨ Resown stored.state state handle router kept)

section Steps

variable {permitted : Call Tuning Blinding → Prop}
  {a b : Position MemoryFactory MemoryStore Tuning Blinding}
  {stored : Point MemoryFactory MemoryStore Tuning Blinding}
  {added between : List (Point MemoryFactory MemoryStore Tuning Blinding)} {handle : Handle}
  {held next : Entries} {key : Hash} {entry : Entry}

theorem since_stored (told : stored.stored? = some (handle, key, entry))
    (here : stored.state.entries? handle = some (held.put key entry)) :
    Since stored handle key entry [] stored.state (held.put key entry) := by
  constructor
  case began => exact id
  case hidden => rw [lookupLease_of_entries here, List.any_nil, Bool.or_false]
  case lease =>
    rintro record rfl -
    simp [Entries.leaseSets_put, Entry.isLease, Entry.lease?]
  case router =>
    rintro router rfl -
    exact ⟨router, by simp [Entries.routers_put, Entry.isLease, Entry.router?], Or.inl rfl⟩

theorem Since.step (since : Since stored handle key entry between a.run.snapshot held)
    (move : Move permitted a b) (orderly : Orderly a.busy a.run.shape)
    (here : a.run.entries? handle = some held) (addition : Addition a b added handle held next) :
    Since stored handle key entry (between ++ added) b.run.snapshot next := by
  have later := move.orderly orderly
  have starting {position : Position MemoryFactory MemoryStore Tuning Blinding}
      (orderly : Orderly position.busy position.run.shape) :
      position.run.snapshot.stage? handle = some (.creating, true) ↔ handle ∈ position.busy :=
    ⟨orderly.locked, orderly.starting⟩
  have still (busy : handle ∈ b.busy) : handle ∈ a.busy := by
    rcases move.busy_cases busy with before | absent
    · exact before
    · cases here.symm.trans absent
  obtain ⟨same, hidden⟩ := addition.leaseSets key
  constructor
  case began =>
    exact fun begins => since.began ((starting orderly).mpr (still ((starting later).mp begins)))
  case hidden => rw [hidden, since.hidden, List.any_append, Bool.or_assoc]
  case lease =>
    intro record kind alone
    rw [List.any_append, Bool.or_eq_false_iff] at alone
    rw [same alone.2, since.lease record kind alone.1]
  case router =>
    intro router kind alone
    rw [List.any_append, Bool.or_eq_false_iff] at alone
    obtain ⟨kept, found, origin⟩ := since.router router kind alone.1
    obtain ⟨now, there, change⟩ := addition.routers alone.2 found
    refine ⟨now, there, ?_⟩
    -- A partition is seeded once, when it ends being started, so a router is resown at most once.
    rcases change with rfl | ⟨⟨begun, finished⟩, dry, floods⟩
    · refine origin.imp_right fun resown => ⟨resown.begun, fun begins => resown.finished ?_,
        resown.dry, resown.floods⟩
      exact (starting orderly).mpr (still ((starting later).mp begins))
    · rcases origin with rfl | resown
      · exact Or.inr ⟨since.began ((starting orderly).mpr begun),
          fun begins => finished ((starting later).mp begins), dry, floods⟩
      · exact absurd ((starting orderly).mpr begun) resown.finished

theorem Move.since (move : Move permitted a b) (orderly : Orderly a.busy a.run.shape)
    (here : a.run.entries? handle = some held)
    (since : Since stored handle key entry between a.run.snapshot held) :
    ∃ added next, b.run.outside.points = a.run.outside.points ++ added ∧
      b.run.entries? handle = some next ∧
      Since stored handle key entry (between ++ added) b.run.snapshot next := by
  obtain ⟨added, next, grown, there, addition⟩ := move.addition orderly here
  exact ⟨added, next, grown, there, since.step move orderly here addition⟩

theorem Move.since_stored (move : Move permitted a b) (orderly : Orderly a.busy a.run.shape)
    (added : b.run.outside.points = a.run.outside.points ++ [stored])
    (state : stored.state = b.run.snapshot) (told : stored.stored? = some (handle, key, entry)) :
    ∃ held, b.run.entries? handle = some held ∧
      Since stored handle key entry [] b.run.snapshot held := by
  cases move.filling orderly with
  | kept same silent =>
    rw [silent stored added] at told
    cases told
  | @stored other under kept before point allowed present longer recorded after =>
    obtain rfl : stored = point := by simpa using added.symm.trans longer
    obtain ⟨rfl, rfl, rfl⟩ : handle = other ∧ key = under ∧ entry = kept := by
      simpa using told.symm.trans recorded
    have there : b.run.entries? handle = some (before.put key entry) := by
      rw [after, Function.update_self]
    refine ⟨_, there, ?_⟩
    rw [← state]
    exact Directory.since_stored told (by rw [state]; exact there)
  | built factory absent still => simp [still] at added
  | seeded starting finished present still => simp [still] at added

end Steps

/-! ## Runs -/

section Runs

variable {permitted : Call Tuning Blinding → Prop}
  {a b : Position MemoryFactory MemoryStore Tuning Blinding}

structure Recalling (position : Position MemoryFactory MemoryStore Tuning Blinding) : Prop where
  orderly : Orderly position.busy position.run.shape
  current : ∀ {earlier stored between handle key entry},
    position.run.outside.points = earlier ++ stored :: between →
      stored.stored? = some (handle, key, entry) →
        ∃ held, position.run.entries? handle = some held ∧
          Since stored handle key entry between position.run.snapshot held
  points : ∀ {earlier stored between later point handle key entry},
    position.run.outside.points = earlier ++ (stored :: between) ++ later →
      (stored :: between).getLast? = some point → stored.stored? = some (handle, key, entry) →
        ∃ held, point.state.entries? handle = some held ∧
          Since stored handle key entry between point.state held

theorem Built.recalling {run : Run MemoryFactory MemoryStore Tuning Blinding} (built : Built run) :
    Recalling ⟨[], run⟩ := by
  have nothing : run.outside.points = [] := congrArg Journal.points built.bare.outside
  refine ⟨built.bare.orderly, fun split => ?_, fun split => ?_⟩
  · simp [nothing] at split
  · simp [nothing] at split

theorem Move.current (move : Move permitted a b) (recalling : Recalling a)
    {earlier between : List (Point MemoryFactory MemoryStore Tuning Blinding)}
    {stored : Point MemoryFactory MemoryStore Tuning Blinding} {handle : Handle} {key : Hash}
    {entry : Entry} (split : b.run.outside.points = earlier ++ stored :: between)
    (told : stored.stored? = some (handle, key, entry)) :
    ∃ held, b.run.entries? handle = some held ∧
      Since stored handle key entry between b.run.snapshot held := by
  have orderly := recalling.orderly
  have onward {past : List (Point MemoryFactory MemoryStore Tuning Blinding)}
      (before : a.run.outside.points = earlier ++ stored :: past) :
      ∃ held, b.run.entries? handle = some held ∧
        Since stored handle key entry between b.run.snapshot held := by
    obtain ⟨held, here, since⟩ := recalling.current before told
    obtain ⟨added, next, grown, there, later⟩ := move.since orderly here since
    have same : past ++ added = between := by
      have whole := grown.symm.trans split
      rw [before, List.append_assoc, List.cons_append] at whole
      exact (List.cons.inj (List.append_cancel_left whole)).2
    exact ⟨next, there, same ▸ later⟩
  rcases move.points orderly with same | ⟨event, moments, added, -⟩
  · exact onward (same ▸ split)
  · rcases split_of_append_singleton (added.symm.trans split) with ⟨rfl, rfl⟩ | ⟨before, -, past⟩
    · obtain rfl : between = [] := by simpa using added.symm.trans split
      exact move.since_stored orderly added rfl told
    · exact onward past

theorem Move.recalling (move : Move permitted a b) (recalling : Recalling a) : Recalling b := by
  refine ⟨move.orderly recalling.orderly, fun split told => move.current recalling split told,
    fun {earlier stored between later point _ _ _} split last told => ?_⟩
  rcases move.points recalling.orderly with same | ⟨event, moments, added, -⟩
  · exact recalling.points (same ▸ split) last told
  · rcases List.eq_nil_or_concat later with rfl | ⟨before, final, rfl⟩
    · -- The last of these points is the one that the move adds.
      rw [List.append_nil] at split
      have ending : (stored :: between).getLast? = b.run.outside.points.getLast? := by
        rw [split, List.getLast?_append_cons]
      rw [last, added, List.getLast?_concat] at ending
      obtain rfl := Option.some.inj ending
      exact move.current recalling split told
    · rw [List.concat_eq_append, ← List.append_assoc, added] at split
      exact recalling.points (List.append_inj' split rfl).1 last told

theorem Path.recalling (path : Path permitted a b) (recalling : Recalling a) : Recalling b := by
  induction path with
  | refl => exact recalling
  | tail _ move ih => exact move.recalling ih

/-- What lookups by kind answer, if these points were added to the journal since an entry was
stored. -/
structure Recalled (stored : Point MemoryFactory MemoryStore Tuning Blinding)
    (between : List (Point MemoryFactory MemoryStore Tuning Blinding))
    (state : Directory MemoryFactory MemoryStore Unit) : Prop where
  lease : ∀ {handle key record}, stored.stored? = some (handle, key, .lease record) →
    between.any (·.fills handle key true) = false → state.lookupLease handle key = some record
  hidden : ∀ {handle key router}, stored.stored? = some (handle, key, .router router) →
    ((stored.state.lookupLease handle key).isSome || between.any (·.fills handle key true)) = true →
      state.lookupRouter handle key = none
  router : ∀ {handle key router}, stored.stored? = some (handle, key, .router router) →
    ((stored.state.lookupLease handle key).isSome || between.any (·.fills handle key true)) = false →
      between.any (·.fills handle key false) = false →
        ∃ kept, state.lookupRouter handle key = some kept ∧
          (kept = router ∨ Resown stored.state state handle router kept)

/-- Whatever happens after an entry was stored, a lookup by its kind finds it until another entry of
the kind is stored under the same key; but a router is not found if a lease set was ever stored
there. -/
theorem typed_lookups_recall {run : Run MemoryFactory MemoryStore Tuning Blinding}
    {habit : Habit MemoryFactory MemoryStore Tuning Blinding} {turns depth : Nat}
    {calls : List (Call Tuning Blinding)} (built : Built run)
    {earlier between later : List (Point MemoryFactory MemoryStore Tuning Blinding)}
    {stored point : Point MemoryFactory MemoryStore Tuning Blinding}
    (points : (run.makeAll (others habit turns depth) calls).outside.points =
      earlier ++ (stored :: between) ++ later)
    (last : (stored :: between).getLast? = some point) (calm : point.state.stuck = false) :
    Recalled stored between point.state := by
  have telling : Telling (fun _ => True) (others habit turns depth) :=
    telling_others (fun _ _ _ _ => trivial) turns depth
  have ending : (earlier ++ stored :: between).getLast? = some point := by
    rw [List.getLast?_append_cons, last]
  obtain ⟨position, path, rest, split⟩ := telling.makeAll built.bare.orderly built.reached.covered
    (fun _ _ => trivial) ⟨later, points.symm⟩ ending calm
  have recalling := path.recalling built.recalling
  constructor
  case lease =>
    intro handle key record told alone
    obtain ⟨held, here, since⟩ := recalling.points split.symm last told
    rw [lookupLease_of_entries here, since.lease record rfl alone]
  case hidden =>
    intro handle key router told covered
    obtain ⟨held, here, since⟩ := recalling.points split.symm last told
    have lease : (point.state.lookupLease handle key).isSome = true := by
      rw [lookupLease_of_entries here, since.hidden, covered]
    rw [Option.eq_none_iff_forall_ne_some]
    intro found given
    rw [(lookupRouter_eq_some.mp given).1] at lease
    cases lease
  case router =>
    intro handle key router told bare alone
    obtain ⟨held, here, since⟩ := recalling.points split.symm last told
    obtain ⟨kept, found, origin⟩ := since.router router rfl alone
    have unleased : point.state.lookupLease handle key = none := by
      rw [← Option.isNone_iff_eq_none, ← Option.not_isSome, lookupLease_of_entries here, since.hidden,
        bare, Bool.not_false]
    exact ⟨kept, lookupRouter_eq_some.mpr ⟨unleased, keepsRouter_iff.mpr ⟨held, here, found⟩⟩, origin⟩

end Runs

def lighthouse : Router := ⟨⟨.fill 2⟩, [], true, 0⟩

def keepsakes : List (Call Tuning Blinding) :=
  [.insert (wellKnown .main) lighthouse.identity (.router lighthouse),
    .resolve (some (.client newcomer)),
    .insert ⟨.client newcomer, 0⟩ lighthouse.identity (.router lighthouse),
    .insert ⟨.client newcomer, 0⟩ lighthouse.identity (.lease ⟨lighthouse.identity, none, [], 0⟩)]

theorem typed_lookups_amid_race :
    ∃ earlier stored between point,
      (plainRun.makeAll (others eager 0 2) keepsakes).outside.points =
        earlier ++ (stored :: between) ++ [] ∧
      stored.stored? = some (wellKnown .main, lighthouse.identity, .router lighthouse) ∧
      between.any (·.fills (wellKnown .main) lighthouse.identity false) = false ∧
      (stored :: between).getLast? = some point ∧ point.state.stuck = false ∧
      Recalled stored between point.state := by
  have told : ((plainRun.makeAll (others eager 0 2) keepsakes).outside.points.drop 1).head?.bind
      Point.stored? = some (wellKnown .main, lighthouse.identity, .router lighthouse) := by
    decide +kernel
  have alone : ((plainRun.makeAll (others eager 0 2) keepsakes).outside.points.drop 1).tail.any
      (·.fills (wellKnown .main) lighthouse.identity false) = false := by decide +kernel
  have calm : ((plainRun.makeAll (others eager 0 2) keepsakes).outside.points.drop 1).getLast?.map
      (·.state.stuck) = some false := by decide +kernel
  cases onward : (plainRun.makeAll (others eager 0 2) keepsakes).outside.points.drop 1 with
  | nil => simp [onward] at told
  | cons stored between =>
    rw [onward] at told alone calm
    obtain ⟨point, last, unstuck⟩ := Option.map_eq_some_iff.mp calm
    have split : (plainRun.makeAll (others eager 0 2) keepsakes).outside.points =
        (plainRun.makeAll (others eager 0 2) keepsakes).outside.points.take 1 ++
          (stored :: between) ++ [] := by
      rw [List.append_nil, ← onward, List.take_append_drop]
    exact ⟨_, stored, between, point, split, told, alone, last, unstuck,
      typed_lookups_recall built_plainRun split last unstuck⟩

theorem router_hidden_by_lease :
    ∃ point ∈ (plainRun.makeAll (others eager 0 2)
        [.insert (wellKnown .main) lighthouse.identity (.lease ⟨lighthouse.identity, none, [], 0⟩),
          .insert (wellKnown .main) lighthouse.identity (.router lighthouse)]).outside.points,
      point.stored? = some (wellKnown .main, lighthouse.identity, .router lighthouse) ∧
        point.state.lookupRouter (wellKnown .main) lighthouse.identity = none := by
  decide +kernel

end PeerDirectory.Directory

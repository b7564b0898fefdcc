import PeerDirectory.Proofs.Run.Serving
import PeerDirectory.Proofs.Run.Start
import PeerDirectory.Proofs.Run.Walk

namespace PeerDirectory.Directory

variable {φ σ τ υ : Type}

namespace Point

def answer? (point : Point φ σ τ υ) (client : Hash) : Option (Except Failure Handle) :=
  match point.event with
  | .ends call before (.found result) =>
    if call.seeks = some client ∧ before.isolated then some result else none
  | _ => none

def existing? (point : Point φ σ τ υ) (client : Hash) : Option (Option Handle) :=
  match point.event with
  | .ends (.ask (.existing id)) before (.handle named) =>
    if id = .client client ∧ before.isolated then some named else none
  | _ => none

def removes (point : Point φ σ τ υ) (client : Hash) : Bool :=
  match point.event with
  | .ends (.removeClient other) _ _ => other = client
  | _ => false

variable {point : Point φ σ τ υ} {client : Hash} {result : Except Failure Handle}
  {named : Option Handle} {before : Directory φ σ Unit} {response : Response}

theorem answer?_eq_some (answered : point.answer? client = some result) :
    ∃ call before, point.event = .ends call before (.found result) ∧
      call.seeks = some client ∧ before.isolated = true := by
  unfold answer? at answered
  split at answered
  · rename_i call before given event
    split at answered
    · rename_i kept
      cases answered
      exact ⟨call, before, event, kept⟩
    · cases answered
  · cases answered

theorem existing?_eq_some (told : point.existing? client = some named) :
    ∃ before, point.event = .ends (.ask (.existing (.client client))) before (.handle named) ∧
      before.isolated = true := by
  unfold existing? at told
  split at told
  · rename_i id before given event
    split at told
    · rename_i kept
      cases told
      exact ⟨before, kept.1 ▸ event, kept.2⟩
    · cases told
  · cases told

theorem removes_of_ends (ended : point.event = .ends (.removeClient client) before response) :
    point.removes client = true := by
  simp [removes, ended]

end Point

def Pledged (points : List (Point φ σ τ υ)) (client : Hash) (handle : Handle) : Prop :=
  ∃ earlier point later, points = earlier ++ point :: later ∧
    point.answer? client = some (.ok handle) ∧
    ∀ since ∈ later, since.removes client = false ∧ since.closes = false

structure Consistent (earlier : List (Point φ σ τ υ)) (point : Point φ σ τ υ) : Prop where
  found : ∀ {client handle other}, Pledged earlier client handle →
    point.answer? client = some (.ok other) → other = handle
  existing : ∀ {client handle named}, Pledged earlier client handle →
    point.existing? client = some named → named = some handle
  closed : ∀ {past client result}, past ∈ earlier → past.closes = true →
    point.answer? client = some result → result = .error .closed

structure Faithful [PartitionStore σ] (position : Position φ σ τ υ) : Prop where
  orderly : Orderly position.busy position.run.shape
  serves : ∀ {client handle}, Pledged position.run.outside.points client handle →
    Serves position.run.shape client handle
  closed : ∀ {past}, past ∈ position.run.outside.points → past.closes = true →
    position.run.closed = true
  consistent : ∀ {earlier point later},
    position.run.outside.points = earlier ++ point :: later → Consistent earlier point

theorem pledged_append_singleton {points : List (Point φ σ τ υ)} {point : Point φ σ τ υ}
    {client : Hash} {handle : Handle} (pledged : Pledged (points ++ [point]) client handle) :
    point.answer? client = some (.ok handle) ∨
      Pledged points client handle ∧ point.removes client = false ∧ point.closes = false := by
  obtain ⟨earlier, found, later, split, finds, kept⟩ := pledged
  rcases split_of_append_singleton split with ⟨rfl, rfl⟩ | ⟨before, rfl, rfl⟩
  · exact Or.inl finds
  · refine Or.inr ⟨⟨earlier, found, before, rfl, finds, fun since member => ?_⟩, ?_⟩
    · exact kept since (List.mem_append_left _ member)
    · exact kept point (List.mem_append_right _ List.mem_cons_self)

theorem consistent_of_truthful [PartitionStore σ] [StoreFactory φ σ] [Backdoor φ σ τ υ]
    {points : List (Point φ σ τ υ)}
    {event : Event φ σ τ υ} {moments : List Moment} {last state : Directory φ σ Unit}
    (truthful : Truthful event last state)
    (serves : ∀ {client handle}, Pledged points client handle →
      (∃ call before response, event = .ends call before response ∧
        (call = .removeClient client ∨ call = .shutdown)) ∨ Serves state.shape client handle)
    (closed : ∀ {past}, past ∈ points → past.closes = true → state.closed = true) :
    Consistent points ⟨event, moments, state⟩ := by
  refine ⟨fun {client handle other} pledged found => ?_,
    fun {client handle named} pledged told => ?_,
    fun {past client result} member closes answered => ?_⟩
  · obtain ⟨call, before, ended, seeks, isolated⟩ := Point.answer?_eq_some found
    have stands := (truthful.answered ended).found seeks isolated rfl
    rcases serves pledged with ⟨given, _, _, same, drops⟩ | serving
    · cases ended.symm.trans same
      rcases drops with rfl | rfl <;> cases seeks
    · exact Option.some.inj (stands.1.symm.trans serving.tracked)
  · obtain ⟨before, asked, isolated⟩ := Point.existing?_eq_some told
    obtain ⟨rfl, response⟩ := truthful.asked asked
    rcases serves pledged with ⟨given, _, _, same, drops⟩ | serving
    · cases asked.symm.trans same
      rcases drops with impossible | impossible <;> cases impossible
    · have tracked : before.tracked? client = some handle := serving.tracked
      have ready : before.isReady handle = true := by simp [isReady_iff serving.ready]
      simpa [answer, Directory.existing?, isolated, tracked, Option.filter, ready] using response
  · obtain ⟨call, before, ended, seeks, isolated⟩ := Point.answer?_eq_some answered
    have response := (truthful.answered ended).closed seeks isolated (closed member closes)
    exact Response.found.inj response

section Moves

variable [PartitionStore σ] [StoreFactory φ σ] [Backdoor φ σ τ υ] {permitted : Call τ υ → Prop}
  {a b : Position φ σ τ υ}

theorem Move.faithful (move : Move permitted a b) (faithful : Faithful a) : Faithful b := by
  have orderly := move.orderly faithful.orderly
  have serving {client : Hash} {handle : Handle}
      (pledged : Pledged a.run.outside.points client handle) :=
    move.serves faithful.orderly (faithful.serves pledged)
  have closing {past : Point φ σ τ υ} (member : past ∈ a.run.outside.points)
      (closes : past.closes = true) : b.run.closed = true :=
    move.closed faithful.orderly (faithful.closed member closes)
  rcases move.points faithful.orderly with same | ⟨event, moments, added, -, truthful⟩
  · refine ⟨orderly, fun {client handle} pledged => ?_, fun {past} member closes => ?_,
      fun {earlier point later} split => ?_⟩
    · rw [same] at pledged
      rcases serving pledged with serves | ⟨_, _, _, -, longer⟩
      · exact serves
      · simp [same] at longer
    · rw [same] at member
      exact closing member closes
    · rw [same] at split
      exact faithful.consistent split
  · have ends {client : Hash} {handle : Handle}
        (pledged : Pledged a.run.outside.points client handle) :
        (∃ call before response, event = .ends call before response ∧
          (call = .removeClient client ∨ call = .shutdown)) ∨
            Serves b.run.shape client handle := by
      rcases serving pledged with serves | ⟨call, response, _, drops, longer⟩
      · exact Or.inr serves
      · have last := (List.append_cancel_left (added.symm.trans longer))
        simp only [List.cons.injEq, Point.mk.injEq, and_true] at last
        exact Or.inl ⟨call, _, response, last.1, drops⟩
    refine ⟨orderly, fun {client handle} pledged => ?_, fun {past} member closes => ?_,
      fun {earlier point later} split => ?_⟩
    · rw [added] at pledged
      -- The pledge was made at this very point, or it is an old one that the point does not end.
      rcases pledged_append_singleton pledged with found | ⟨before, notRemoved, notClosed⟩
      · obtain ⟨call, before, ended, seeks, isolated⟩ := Point.answer?_eq_some found
        have stands := (truthful.answered ended).found seeks isolated rfl
        exact ⟨stands.1, stands.2⟩
      · rcases ends before with ⟨call, _, _, ended, rfl | rfl⟩ | serves
        · cases notRemoved.symm.trans (Point.removes_of_ends ended)
        · cases notClosed.symm.trans (Point.closes_of_ends ended)
        · exact serves
    · rw [added, List.mem_append, List.mem_singleton] at member
      rcases member with before | rfl
      · exact closing before closes
      · obtain ⟨before, response, ended⟩ := Point.ends_of_closes closes
        exact truthful.closed ended
    · rw [added] at split
      rcases split_of_append_singleton split with ⟨rfl, rfl⟩ | ⟨before, -, split⟩
      · refine consistent_of_truthful truthful (fun pledged => ?_) closing
        rcases ends pledged with drops | serves
        · exact Or.inl drops
        · exact Or.inr ⟨serves.tracked, serves.ready⟩
      · exact faithful.consistent split

theorem Path.faithful (path : Path permitted a b) (faithful : Faithful a) : Faithful b := by
  induction path with
  | refl => exact faithful
  | tail _ move ih => exact move.faithful ih

omit [Backdoor φ σ τ υ] in
theorem faithful_of_built {run : Run φ σ τ υ} (built : Built run) : Faithful ⟨[], run⟩ := by
  have blank : run.outside = .blank := built.bare.outside
  have nothing : run.outside.points = [] := congrArg Journal.points blank
  refine ⟨built.bare.orderly, fun {client handle} pledged => ?_, fun {past} member => ?_,
    fun {earlier point later} split => ?_⟩
  · obtain ⟨earlier, point, later, split, -⟩ := pledged
    simp [nothing] at split
  · simp [nothing] at member
  · simp [nothing] at split

/-- Once a directory is built, and however calls interrupt each other, two calls that find a
client's partition find the same one unless the client is removed between them. So does everyone
who asks for the partition meanwhile. When the directory is shut down between them, the second call
finds it closed. -/
theorem single_instance {run : Run φ σ τ υ} {habit : Habit φ σ τ υ} {turns depth : Nat}
    {calls : List (Call τ υ)} (built : Built run)
    (unstuck : (run.makeAll (others habit turns depth) calls).stuck = false)
    {earlier between later : List (Point φ σ τ υ)} {first second : Point φ σ τ υ}
    (points : (run.makeAll (others habit turns depth) calls).outside.points =
      earlier ++ first :: (between ++ second :: later))
    {client : Hash} {handle : Handle} {result : Except Failure Handle}
    (found : first.answer? client = some (.ok handle))
    (kept : ∀ point ∈ between, point.removes client = false)
    (answered : second.answer? client = some result) :
    (∀ other, result = .ok other → other = handle ∧
      ∀ point ∈ between, ∀ named, point.existing? client = some named → named = some handle) ∧
    ((∃ point ∈ between, point.closes = true) → result = .error .closed) := by
  have considerate : Considerate (fun _ => True) (others habit turns depth) :=
    considerate_others (fun _ _ _ _ => trivial) turns depth
  have walk := considerate.makeAll built.bare.orderly (fun _ starting => by cases starting)
    (fun _ _ => trivial) unstuck
  have faithful := walk.path.faithful (faithful_of_built built)
  have split : (run.makeAll (others habit turns depth) calls).outside.points =
      (earlier ++ first :: between) ++ second :: later := by simpa using points
  have atSecond := faithful.consistent split
  have closing : (∃ point ∈ between, point.closes = true) → result = .error .closed := by
    rintro ⟨point, member, closes⟩
    have past : point ∈ earlier ++ first :: between :=
      List.mem_append_right _ (List.mem_cons_of_mem _ member)
    exact atSecond.closed past closes answered
  refine ⟨fun other success => ?_, closing⟩
  -- As the second call has found a partition, the directory was not shut down meanwhile.
  have opened (point : Point φ σ τ υ) (member : point ∈ between) : point.closes = false := by
    cases closes : point.closes with
    | false => rfl
    | true => cases success.symm.trans (closing ⟨point, member, closes⟩)
  have pledged {start rest : List (Point φ σ τ υ)} (meanwhile : between = start ++ rest) :
      Pledged (earlier ++ first :: start) client handle := by
    refine ⟨earlier, first, start, rfl, found, fun since member => ?_⟩
    have within : since ∈ between := meanwhile ▸ List.mem_append_left _ member
    exact ⟨kept since within, opened since within⟩
  constructor
  · exact atSecond.found (pledged (List.append_nil between).symm) (success ▸ answered)
  · intro point member named told
    obtain ⟨start, rest, meanwhile⟩ := List.append_of_mem member
    have here : (run.makeAll (others habit turns depth) calls).outside.points =
        (earlier ++ first :: start) ++ point :: (rest ++ second :: later) := by
      simpa [meanwhile] using points
    exact (faithful.consistent here).existing (pledged meanwhile) told

end Moves

theorem exists_split {α : Type} {items : List α} {i j : Nat} (before : i < j)
    (inside : j < items.length) :
    items = items.take i ++ items[i] ::
      ((items.drop (i + 1)).take (j - (i + 1)) ++ items[j] :: items.drop (j + 1)) := by
  have here : (items.drop (i + 1)).drop (j - (i + 1)) = items[j] :: items.drop (j + 1) := by
    rw [List.drop_drop, Nat.add_sub_cancel' before, List.drop_eq_getElem_cons inside]
  rw [← here, List.take_append_drop, ← List.drop_eq_getElem_cons, List.take_append_drop]

def errands : List (Call Tuning Blinding) :=
  [.resolve (some (.client someone)), .setIsolation false, .setIsolation true,
    .ask (.existing (.client someone)), .clientPartition (some (.client someone))]

theorem single_instance_amid_race :
    ∃ first second : Point MemoryFactory MemoryStore Tuning Blinding,
      first.answer? someone = some (.ok ⟨.client someone, 0⟩) ∧
      second.answer? someone = some (.ok ⟨.client someone, 0⟩) ∧
      ((⟨.client someone, 0⟩ : Handle) = ⟨.client someone, 0⟩ ∧
        ∀ point ∈ ((plainRun.makeAll (others eager 0 2) errands).outside.points.drop 10).take 9,
          ∀ named, point.existing? someone = some named →
            named = some ⟨.client someone, 0⟩) := by
  have inside : 19 < (plainRun.makeAll (others eager 0 2) errands).outside.points.length := by
    decide +kernel
  have found : ((plainRun.makeAll (others eager 0 2) errands).outside.points[9]).answer?
      someone = some (.ok ⟨.client someone, 0⟩) := by decide +kernel +revert
  have again : ((plainRun.makeAll (others eager 0 2) errands).outside.points[19]).answer?
      someone = some (.ok ⟨.client someone, 0⟩) := by decide +kernel +revert
  refine ⟨_, _, found, again, ?_⟩
  exact (single_instance built_plainRun (by decide +kernel) (exists_split (by decide) inside)
    found (by decide +kernel) again).1 _ rfl

end PeerDirectory.Directory

import PeerDirectory.Proofs.Directory.Entries
import PeerDirectory.Proofs.Run.Move

namespace PeerDirectory.Directory

variable {φ σ τ υ : Type}

def Point.stored? (point : Point φ σ τ υ) : Option (Handle × Hash × Entry) :=
  match point.event with
  | .ends (.insert handle key entry) _ (.done (.ok ())) => some (handle, key, entry)
  | _ => none

theorem Point.stored?_eq_some {point : Point φ σ τ υ} {handle : Handle} {key : Hash}
    {entry : Entry} :
    point.stored? = some (handle, key, entry) ↔
      ∃ before, point.event = .ends (.insert handle key entry) before (.done (.ok ())) := by
  unfold stored?
  split
  · rename_i other under kept before event
    simp only [Option.some.injEq, Prod.mk.injEq, event]
    constructor
    · rintro ⟨rfl, rfl, rfl⟩
      exact ⟨before, rfl⟩
    · rintro ⟨_, same⟩
      obtain ⟨call, -, -⟩ := Event.ends.inj same
      obtain ⟨rfl, rfl, rfl⟩ := Call.insert.inj call
      exact ⟨rfl, rfl, rfl⟩
  · rename_i other
    simp only [reduceCtorEq, false_iff, not_exists]
    exact fun before event => other handle key entry before event

inductive Filling (permitted : Call Tuning Blinding → Prop)
    (a b : Position MemoryFactory MemoryStore Tuning Blinding) : Prop
  | kept (same : b.run.entries? = a.run.entries?)
      (silent : ∀ point, b.run.outside.points = a.run.outside.points ++ [point] →
        point.stored? = none)
  | stored {handle : Handle} {key : Hash} {entry : Entry} {held : Entries}
      {point : Point MemoryFactory MemoryStore Tuning Blinding}
      (allowed : permitted (.insert handle key entry))
      (before : a.run.entries? handle = some held)
      (added : b.run.outside.points = a.run.outside.points ++ [point])
      (told : point.stored? = some (handle, key, entry))
      (after : b.run.entries? =
        Function.update a.run.entries? handle (some (held.put key entry)))
  | built {handle : Handle} (factory : MemoryFactory) (absent : a.run.entries? handle = none)
      (still : b.run.outside.points = a.run.outside.points)
      (after : b.run.entries? =
        Function.update a.run.entries? handle (some (factory.fresh handle.id).entries))
  | seeded {handle : Handle} {held : Entries} {planted : List (Hash × Router)}
      (starting : handle ∈ a.busy) (finished : handle ∉ b.busy)
      (before : a.run.entries? handle = some held)
      (still : b.run.outside.points = a.run.outside.points)
      (given : ∀ key router, (key, router) ∈ planted → held.Dry ∧
        a.run.KeepsRouter (wellKnown .main) key router ∧ router.floodfill = true)
      (after : b.run.entries? =
        Function.update a.run.entries? handle (some (held.plant planted)))

section Moves

variable {permitted : Call Tuning Blinding → Prop}
  {a b : Position MemoryFactory MemoryStore Tuning Blinding}
  {run : Run MemoryFactory MemoryStore Tuning Blinding} {busy : List Handle} {client : Hash}

theorem points_record {after : Run MemoryFactory MemoryStore Tuning Blinding}
    (outside : after.outside = run.outside)
    (event : Event MemoryFactory MemoryStore Tuning Blinding) :
    (after.record event).outside.points =
      run.outside.points ++ [⟨event, run.outside.moments, after.snapshot⟩] :=
  congrArg (fun journal : Journal MemoryFactory MemoryStore Tuning Blinding =>
    journal.points ++ [⟨event, journal.moments, after.snapshot⟩]) outside

theorem Filling.recorded {point : Point MemoryFactory MemoryStore Tuning Blinding}
    (same : b.run.entries? = a.run.entries?)
    (added : b.run.outside.points = a.run.outside.points ++ [point])
    (silent : point.stored? = none) : Filling permitted a b := by
  refine .kept same fun other longer => ?_
  obtain rfl : point = other := by simpa using added.symm.trans longer
  exact silent

theorem Filling.unrecorded (same : b.run.entries? = a.run.entries?)
    (still : b.run.outside.points = a.run.outside.points) : Filling permitted a b := by
  refine .kept same fun point longer => ?_
  simp [still] at longer

theorem filling_insert {handle : Handle} {key : Hash} {entry : Entry}
    (allowed : permitted (.insert handle key entry)) :
    Filling permitted ⟨busy, run⟩
      ⟨busy, (run.insert handle key entry).2.record
        (.ends (.insert handle key entry) run.snapshot (.done (run.insert handle key entry).1))⟩ := by
  have outside : (run.insert handle key entry).2.outside = run.outside :=
    congrArg Shape.outside (shape_insert run handle key entry)
  have added := points_record outside
  cases result : (run.insert handle key entry).1 with
  | ok _ =>
    obtain ⟨held, before, after⟩ := entries?_insert_of_ok result
    exact .stored allowed before (added _) rfl after
  | error failure => exact .recorded (entries?_insert_of_error (by simp [result])) (added _) rfl

theorem entries?_act {γ : Type} {directory : Directory MemoryFactory MemoryStore γ}
    {call : Call Tuning Blinding} (plain : call.plain = true)
    (other : ∀ handle key entry, call ≠ .insert handle key entry) :
    (directory.perform (.quiet 0) call).2.entries? = directory.entries? := by
  cases call with
  | resolve id => cases plain
  | clientPartition id => cases plain
  | startStore handle => cases plain
  | insert handle key entry => exact absurd rfl (other handle key entry)
  | removeClient client => exact directory.entries?_removeClient client 0
  | setIsolation enabled => exact directory.entries?_setIsolation enabled
  | shutdown => exact directory.entries?_shutdown 0
  | findLease key => exact directory.entries?_findLease key
  | ask question => rfl
  | session client opened => rfl
  | tune tuning => rfl
  | touch handle data => exact directory.entries?_touchStore handle data
  | stopStore handle => exact directory.entries?_stopStore handle

theorem stored?_of_other {call : Call Tuning Blinding}
    {before state : Directory MemoryFactory MemoryStore Unit} {response : Response}
    {moments : List Moment} (other : ∀ handle key entry, call ≠ .insert handle key entry) :
    Point.stored? ⟨.ends call before response, moments, state⟩ = none := by
  cases stored : Point.stored? ⟨.ends call before response, moments, state⟩ with
  | none => rfl
  | some found =>
    obtain ⟨handle, key, entry⟩ := found
    obtain ⟨given, told⟩ := Point.stored?_eq_some.mp stored
    exact absurd (Event.ends.inj told).1 (other handle key entry)

theorem filling_act {call : Call Tuning Blinding} (allowed : permitted call)
    (plain : call.plain = true) (unstuck : (run.perform (.quiet 0) call).2.stuck = false) :
    Filling permitted ⟨busy, run⟩
      ⟨busy, (run.perform (.quiet 0) call).2.record
        (.ends call run.snapshot (run.perform (.quiet 0) call).1)⟩ := by
  by_cases insertion : ∃ handle key entry, call = .insert handle key entry
  · obtain ⟨handle, key, entry, rfl⟩ := insertion
    exact filling_insert allowed
  · have other (handle key entry) : call ≠ .insert handle key entry :=
      fun same => insertion ⟨handle, key, entry, same⟩
    exact .recorded (entries?_act plain other) (points_record (outside_act plain unstuck) _)
      (stored?_of_other other)

theorem Move.filling (move : Move permitted a b) (orderly : Orderly a.busy a.run.shape) :
    Filling permitted a b := by
  let points (shape : Shape (Journal MemoryFactory MemoryStore Tuning Blinding)) :=
    shape.outside.points
  have absent (run : Run MemoryFactory MemoryStore Tuning Blinding) (client : Hash) :
      run.entries? (run.partitions.next (.client client)) = none :=
    entries?_eq_none.mpr (stage?_next _)
  cases move with
  | begin call => exact .recorded rfl rfl rfl
  | act call allowed plain covered unstuck => exact filling_act allowed plain unstuck
  | reply call before response interruptible =>
    refine .recorded rfl rfl (stored?_of_other fun handle key entry same => ?_)
    rw [same] at interruptible
    cases interruptible
  | enter => exact .recorded rfl rfl rfl
  | leave => exact .recorded rfl rfl rfl
  | @drive busy run handle allowed =>
    exact .unrecorded (run.entries?_startStore_quiet handle 0)
      (congrArg points (shape_startStore_quiet run handle 0))
  | @discard busy run client handle tracked =>
    exact .built run.factory (absent run client)
      (congrArg points (register_quiet_of_tracked 0 tracked).2) (run.entries?_register_quiet 0 client)
  | @refuse busy run client untracked closed =>
    have shut : (run.launch client).closed = true :=
      (congrArg Shape.closed (shape_launch untracked)).trans closed
    exact .built run.factory (absent run client)
      (congrArg points (refuse_of_closed untracked closed).2)
      ((entries?_settle_of_closed shut).trans (run.entries?_launch client))
  | @launch busy run client untracked opened =>
    exact .built run.factory (absent run client) (congrArg points (shape_launch untracked))
      (run.entries?_launch client)
  | @settle busy run client handle named =>
    have stands := orderly.starting List.mem_cons_self
    have tracked := orderly.tracked_of_busy List.mem_cons_self named
    have apart : wellKnown .main ≠ handle := by
      rintro rfl
      cases named
    have there : run.entries? handle ≠ none := by
      rw [Ne, entries?_eq_none]
      exact fun missing => nomatch stands.symm.trans missing
    obtain ⟨held, before⟩ := Option.ne_none_iff_exists'.mp there
    obtain ⟨planted, after, given⟩ := entries?_settle apart before
    exact .seeded List.mem_cons_self (List.nodup_cons.mp orderly.distinct).1 before
      (congrArg Journal.points (settle_keeps stands tracked).1) given after

inductive Addition (a b : Position MemoryFactory MemoryStore Tuning Blinding)
    (added : List (Point MemoryFactory MemoryStore Tuning Blinding)) (handle : Handle)
    (held next : Entries) : Prop
  | none (same : next = held)
      (silent : ∀ point ∈ added, ∀ key entry, point.stored? ≠ some (handle, key, entry))
  | stored {key : Hash} {entry : Entry} {point : Point MemoryFactory MemoryStore Tuning Blinding}
      (alone : added = [point]) (told : point.stored? = some (handle, key, entry))
      (put : next = held.put key entry)
  | seeded {planted : List (Hash × Router)} (starting : handle ∈ a.busy)
      (finished : handle ∉ b.busy) (nothing : added = [])
      (given : ∀ key router, (key, router) ∈ planted → held.Dry ∧
        a.run.KeepsRouter (wellKnown .main) key router ∧ router.floodfill = true)
      (plant : next = held.plant planted)

theorem Move.addition (move : Move permitted a b) (orderly : Orderly a.busy a.run.shape)
    {handle : Handle} {held : Entries} (here : a.run.entries? handle = some held) :
    ∃ added next, b.run.outside.points = a.run.outside.points ++ added ∧
      b.run.entries? handle = some next ∧ Addition a b added handle held next := by
  have grown : ∃ added, b.run.outside.points = a.run.outside.points ++ added ∧
      (added = [] ∨ ∃ point, added = [point]) := by
    rcases move.points orderly with same | ⟨event, moments, added, -⟩
    · exact ⟨[], by rw [same, List.append_nil], Or.inl rfl⟩
    · exact ⟨_, added, Or.inr ⟨_, rfl⟩⟩
  obtain ⟨added, grown, short⟩ := grown
  have nothing (still : b.run.outside.points = a.run.outside.points) : added = [] := by
    simpa [still] using grown
  suffices found : ∃ next, b.run.entries? handle = some next ∧
      Addition a b added handle held next by
    obtain ⟨next, there, addition⟩ := found
    exact ⟨added, next, grown, there, addition⟩
  have untouched (same : b.run.entries? handle = a.run.entries? handle)
      (silent : ∀ point ∈ added, ∀ key entry, point.stored? ≠ some (handle, key, entry)) :
      ∃ next, b.run.entries? handle = some next ∧ Addition a b added handle held next :=
    ⟨held, same.trans here, .none rfl silent⟩
  cases move.filling orderly with
  | kept same silent =>
    refine untouched (by rw [same]) fun point member key entry told => ?_
    rcases short with rfl | ⟨only, rfl⟩
    · cases member
    · rw [List.mem_singleton.mp member, silent only grown] at told
      cases told
  | @stored other under kept before point allowed present longer told after =>
    obtain rfl : added = [point] := List.append_cancel_left (grown.symm.trans longer)
    by_cases same : handle = other
    · subst same
      obtain rfl := Option.some.inj (here.symm.trans present)
      exact ⟨_, by rw [after, Function.update_self], .stored rfl told rfl⟩
    · refine untouched (by rw [after, Function.update_of_ne same])
        fun another member key entry found =>
        same ?_
      rw [List.mem_singleton.mp member, told] at found
      exact (congrArg Prod.fst (Option.some.inj found)).symm
  | @built other factory absent still after =>
    have apart : handle ≠ other := by
      rintro rfl
      cases here.symm.trans absent
    refine untouched (by rw [after, Function.update_of_ne apart]) fun point member => ?_
    rw [nothing still] at member
    cases member
  | @seeded other before planted starting finished present still given after =>
    by_cases same : handle = other
    · subst same
      obtain rfl := Option.some.inj (here.symm.trans present)
      exact ⟨_, by rw [after, Function.update_self],
        .seeded starting finished (nothing still) given rfl⟩
    · refine untouched (by rw [after, Function.update_of_ne same]) fun point member => ?_
      rw [nothing still] at member
      cases member

theorem Move.busy_cases (move : Move permitted a b) {handle : Handle} (starting : handle ∈ b.busy) :
    handle ∈ a.busy ∨ a.run.entries? handle = none := by
  cases move with
  | launch client untracked opened =>
    rcases List.mem_cons.mp starting with rfl | before
    · exact Or.inr (entries?_eq_none.mpr (stage?_next _))
    · exact Or.inl before
  | settle client other named => exact Or.inl (List.mem_cons_of_mem _ starting)
  | _ => exact Or.inl starting

end Moves

end PeerDirectory.Directory

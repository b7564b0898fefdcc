import PeerDirectory.Proofs.Run.Walk

namespace PeerDirectory.Directory

variable {φ σ τ υ : Type}

/-! ## What the journal keeps -/

structure Recorded (holds : Bool → List LogEvent → Journal φ σ τ υ → Prop) : Prop where
  wait : ∀ {stuck log journal}, holds stuck log journal → holds true log journal
  note : ∀ {stuck log journal}, holds stuck log journal → ∀ event, holds stuck (event :: log) journal
  record : ∀ {run : Run φ σ τ υ}, run.Holds holds → ∀ event, (run.record event).Holds holds
  enter : ∀ {run : Run φ σ τ υ}, run.Holds holds → ∀ moment, (run.enter moment).Holds holds
  leave : ∀ {before after : Run φ σ τ υ}, before.Holds holds → after.Holds holds →
    ∀ moment, (after.leave moment before.outside.moments).Holds holds

namespace Recorded

variable {holds : Bool → List LogEvent → Journal φ σ τ υ → Prop} {run : Run φ σ τ υ}
  {surroundings : Surroundings φ σ (Journal φ σ τ υ)} [PartitionStore σ] [StoreFactory φ σ]
  [Backdoor φ σ τ υ]

theorem make (recorded : Recorded holds) (keeping : surroundings.Keeping (Holds holds))
    (held : run.Holds holds) (call : Call τ υ) : (run.make surroundings call).Holds holds := by
  apply recorded.record
  apply kept_perform keeping untouched_holds
  exact recorded.record held (.begins call)

theorem makeAll (recorded : Recorded holds) (keeping : surroundings.Keeping (Holds holds))
    (held : run.Holds holds) (calls : List (Call τ υ)) :
    (run.makeAll surroundings calls).Holds holds := by
  induction calls generalizing run with
  | nil => exact held
  | cons call rest ih =>
    apply ih
    exact recorded.make keeping held call

theorem keeping_others (recorded : Recorded holds) (habit : Habit φ σ τ υ) (turns depth : Nat) :
    (others habit turns depth).Keeping (Holds holds) := by
  induction depth with
  | zero => exact keeping_of_holds recorded.wait recorded.note fun _ _ held => held
  | succ depth ih =>
    refine keeping_of_holds recorded.wait recorded.note fun moment run held => ?_
    have within (calls : List (Call τ υ)) :
        (run.makeWithin (others habit turns depth) moment calls).Holds holds := by
      apply recorded.leave held
      exact recorded.makeAll ih (recorded.enter held moment) calls
    cases moment with
    | gauge => exact held
    | create id => exact within _
    | startup id => exact within _

end Recorded

/-! ## After somebody waits for ever -/

structure Lost (past : List (Point φ σ τ υ)) (stuck : Bool) (log : List LogEvent)
    (journal : Journal φ σ τ υ) : Prop where
  stuck : stuck = true
  points : ∃ since, journal.points = past ++ since ∧ ∀ point ∈ since, point.state.stuck = true

section Lasting

variable {past : List (Point φ σ τ υ)} {run : Run φ σ τ υ}

theorem lost_here (stuck : run.stuck = true) : run.Holds (Lost run.outside.points) :=
  ⟨stuck, [], (List.append_nil _).symm, fun _ member => nomatch member⟩

theorem lost_record (lost : run.Holds (Lost past)) (event : Event φ σ τ υ) :
    (run.record event).Holds (Lost past) := by
  obtain ⟨since, points, waiting⟩ := lost.points
  refine ⟨lost.stuck, since ++ [⟨event, run.outside.moments, run.snapshot⟩], ?_,
    fun point member => ?_⟩
  · rw [← List.append_assoc, ← points]
    rfl
  · rcases List.mem_append.mp member with before | new
    · exact waiting point before
    · rw [List.mem_singleton.mp new]
      exact lost.stuck

theorem lost_leave (lost : run.Holds (Lost past)) (moment : Moment) (moments : List Moment) :
    (run.leave moment moments).Holds (Lost past) := by
  have left := lost_record lost (.leaves moment)
  exact ⟨left.stuck, left.points⟩

theorem lost_register [PartitionStore σ] [StoreFactory φ σ] (client : Hash)
    (lost : run.Holds (Lost past)) :
    (run.register (.quiet 0) client).2.Holds (Lost past) :=
  kept_register client (keeping_of_holds (fun lost => ⟨rfl, lost.points⟩)
    (fun lost _ => ⟨lost.stuck, lost.points⟩) fun _ _ lost => lost) lost

theorem lost_enter (lost : run.Holds (Lost past)) (moment : Moment) :
    (run.enter moment).Holds (Lost past) := by
  apply lost_record
  exact ⟨lost.stuck, lost.points⟩

theorem recorded_lost :
    Recorded (Lost past : Bool → List LogEvent → Journal φ σ τ υ → Prop) where
  wait lost := ⟨rfl, lost.points⟩
  note lost _ := ⟨lost.stuck, lost.points⟩
  record lost event := lost_record lost event
  enter lost moment := lost_enter lost moment
  leave _ lost moment := lost_leave lost moment _

end Lasting

/-! ## Inside a moment -/

structure Enclosed (past : List (Point φ σ τ υ)) (moment : Moment) (journal : Journal φ σ τ υ) :
    Prop where
  inside : moment ∈ journal.moments
  points : ∀ point ∈ journal.points, point ∈ past ∨ moment ∈ point.moments

section Inside

variable {past : List (Point φ σ τ υ)} {run : Run φ σ τ υ} {moment : Moment}

theorem Enclosed.record (enclosed : Enclosed past moment run.outside) (event : Event φ σ τ υ) :
    Enclosed past moment (run.record event).outside := by
  refine ⟨enclosed.inside, fun point member => ?_⟩
  rcases List.mem_append.mp member with before | new
  · exact enclosed.points point before
  · rw [List.mem_singleton.mp new]
    exact Or.inr enclosed.inside

theorem Enclosed.enter (enclosed : Enclosed past moment run.outside) (other : Moment) :
    Enclosed past moment (run.enter other).outside := by
  apply Enclosed.record
  exact ⟨List.mem_cons_of_mem _ enclosed.inside, enclosed.points⟩

theorem enclosed_enter (run : Run φ σ τ υ) (moment : Moment) :
    Enclosed run.outside.points moment (run.enter moment).outside := by
  apply Enclosed.record
  exact ⟨List.mem_cons_self, fun _ member => Or.inl member⟩

theorem recorded_enclosed :
    Recorded fun _ _ (journal : Journal φ σ τ υ) => Enclosed past moment journal where
  wait enclosed := enclosed
  note enclosed _ := enclosed
  record enclosed event := enclosed.record event
  enter enclosed other := enclosed.enter other
  leave before after other := ⟨before.inside, (after.record (.leaves other)).points⟩

theorem enclosed_react [PartitionStore σ] [StoreFactory φ σ] [Backdoor φ σ τ υ]
    (habit : Habit φ σ τ υ) (turns depth : Nat) (moment : Moment) (run : Run φ σ τ υ) :
    ∀ point ∈ ((others habit turns depth).react moment run).outside.points,
      point ∈ run.outside.points ∨ moment ∈ point.moments := by
  cases depth with
  | zero => exact fun point member => Or.inl member
  | succ depth =>
    have within (calls : List (Call τ υ)) :
        ∀ point ∈ (run.makeWithin (others habit turns depth) moment calls).outside.points,
          point ∈ run.outside.points ∨ moment ∈ point.moments := by
      have made := recorded_enclosed.makeAll
        (recorded_enclosed.keeping_others habit turns depth) (enclosed_enter run moment) calls
      exact (made.record (.leaves moment)).points
    cases moment with
    | gauge => exact fun point member => Or.inl member
    | create id => exact within _
    | startup id => exact within _

end Inside

/-! ## Before somebody waits for ever -/

variable [PartitionStore σ] [StoreFactory φ σ] [Backdoor φ σ τ υ]

def Charted (permitted : Call τ υ → Prop) (busy : List Handle) (before after : Run φ σ τ υ) :
    Prop :=
  ∀ ⦃shown point⦄, shown <+: after.outside.points → shown.getLast? = some point →
    point.state.stuck = false →
      ∃ position, Path permitted ⟨busy, before⟩ position ∧ shown <+: position.run.outside.points

variable {permitted : Call τ υ → Prop} {surroundings : Surroundings φ σ (Journal φ σ τ υ)}
  {busy more : List Handle} {run first last : Run φ σ τ υ} {client : Hash} {handle : Handle}

theorem Charted.of_path (path : Path permitted ⟨busy, run⟩ ⟨more, first⟩)
    (same : last.outside.points = first.outside.points) : Charted permitted busy run last := by
  intro shown point part _ _
  rw [same] at part
  exact ⟨_, path, part⟩

theorem Charted.refl : Charted permitted busy run run := .of_path .refl rfl

theorem Charted.after (charted : Charted permitted more first last)
    (path : Path permitted ⟨busy, run⟩ ⟨more, first⟩) : Charted permitted busy run last := by
  intro shown point part last calm
  obtain ⟨position, later, found⟩ := charted part last calm
  exact ⟨position, path.trans later, found⟩

theorem Charted.lost (charted : Charted permitted busy run first)
    (lost : last.Holds (Lost first.outside.points)) :
    Charted permitted busy run last := by
  intro shown point part ending calm
  obtain ⟨since, points, waiting⟩ := lost.points
  have whole : first.outside.points <+: last.outside.points := ⟨since, points.symm⟩
  rcases List.prefix_or_prefix_of_prefix part whole with before | ⟨more, rfl⟩
  · exact charted before ending calm
  · rcases List.eq_nil_or_concat more with rfl | ⟨earlier, final, rfl⟩
    · rw [List.append_nil] at ending ⊢
      exact charted List.prefix_rfl ending calm
    · -- The last of these points is one of those at which somebody waits.
      rw [points, List.prefix_append_right_inj] at part
      rw [List.concat_eq_append, ← List.append_assoc, List.getLast?_concat] at ending
      have late : point ∈ since := by
        rw [← Option.some.inj ending]
        exact part.subset (by simp)
      cases calm.symm.trans (waiting point late)

structure Telling (permitted : Call τ υ → Prop)
    (surroundings : Surroundings φ σ (Journal φ σ τ υ)) : Prop where
  considerate : Considerate permitted surroundings
  keeping : ∀ past, surroundings.Keeping (Holds (Lost past))
  charted : ∀ {moment busy run}, Orderly busy run.shape →
    Covered busy (moment :: run.outside.moments) →
      Charted permitted busy run (surroundings.react moment run)

section Searches

omit [Backdoor φ σ τ υ]

theorem attend_of_busy (stands : run.stage? handle = some (.creating, true)) (looks : Nat) :
    attend surroundings client looks (handle, run) = (.error .closed, run.wait) := by
  obtain ⟨partition, here, found⟩ := Option.map_eq_some_iff.mp stands
  simp only [Prod.mk.injEq] at found
  simp [attend, isReady_iff stands, startClient, here, found.2]

theorem outside_attend_of_tracked (orderly : Orderly busy run.shape)
    (tracked : run.tracked? client = some handle) (looks : Nat) :
    (attend surroundings client looks (handle, run)).2.outside = run.outside := by
  rcases orderly.tracked tracked with ready | starting
  · rw [attend_of_ready ready]
  · rw [attend_of_busy (orderly.starting starting)]
    rfl

end Searches

namespace Telling

theorem attend {looks : Nat} (telling : Telling permitted surroundings)
    (orderly : Orderly busy run.shape) (covered : Covered busy run.outside.moments) :
    Charted permitted busy run
      (attend surroundings client looks (run.register (.quiet 0) client)).2 := by
  have considerate := telling.considerate
  cases tracked : run.tracked? client with
  | some handle =>
    -- Others have tracked the client meanwhile, so the new partition is left alone.
    obtain ⟨named, registered⟩ := register_quiet_of_tracked 0 tracked
    have found : run.register (.quiet 0) client =
        (handle, (run.register (.quiet 0) client).2) := Prod.ext named rfl
    have discard : Move permitted ⟨busy, run⟩ ⟨busy, (run.register (.quiet 0) client).2⟩ :=
      .discard client handle tracked
    have still : (run.register (.quiet 0) client).2.tracked? client = some handle := by
      rw [← find?_clients, ← shape_clients, registered]
      exact tracked
    rw [found]
    apply Charted.of_path (.single discard)
    rw [outside_attend_of_tracked (discard.orderly orderly) still]
  | none =>
    rw [attend_of_new tracked]
    cases closed : run.closed with
    | true =>
      have shut : (run.launch client).closed = true :=
        (congrArg Shape.closed (shape_launch tracked)).trans closed
      rw [bringUp_of_closed considerate.ungauged shut]
      exact .of_path (.single (.refuse client tracked closed)) rfl
    | false =>
      have launching : Launching permitted busy run client :=
        launching_of_open orderly covered tracked closed
      cases stuck : (surroundings.react (.startup (.client client)) (run.launch client)).stuck with
      | true =>
        have charted := telling.charted launching.orderly launching.covered
        apply (charted.after (.single launching.move)).lost
        have keeping := telling.keeping
          (surroundings.react (.startup (.client client)) (run.launch client)).outside.points
        apply kept_bringUp_of_started client keeping launching.opened
        exact kept_startStore_of_reacted keeping (lost_here stuck)
      | false =>
        have path := considerate.path launching.orderly launching.covered stuck
        -- Nobody can have shut the directory down, as it would have had to wait for this start.
        have opened : (surroundings.react (.startup (.client client))
            (run.launch client)).closed = false :=
          (path.orderly launching.orderly).open_of_busy List.mem_cons_self
        rw [bringUp_of_open considerate.ungauged launching.opened opened]
        exact .of_path ((path.head launching.move).tail (.settle client _ rfl)) rfl

theorem clientWithin {looks : Nat} (telling : Telling permitted surroundings)
    (orderly : Orderly busy run.shape) (covered : Covered busy run.outside.moments) :
    Charted permitted busy run (clientWithin surroundings client (looks + 1) run).2 := by
  have considerate := telling.considerate
  rw [clientWithin_succ]
  cases closed : run.closed with
  | true => exact .refl
  | false =>
    simp only [Bool.false_eq_true, if_false, seek]
    cases tracked : run.tracked? client with
    | some handle => exact .of_path .refl (by rw [outside_attend_of_tracked orderly tracked])
    | none =>
      simp only [register_eq considerate.ungauged]
      have charted := telling.charted orderly (covered.weaken (.create (.client client)))
      cases stuck : (surroundings.react (.create (.client client)) run).stuck with
      | true =>
        apply charted.lost
        have keeping := telling.keeping
          (surroundings.react (.create (.client client)) run).outside.points
        apply kept_attend keeping (lost_register client (lost_here stuck))
        exact kept_clientWithin client keeping looks
      | false =>
        have walk := considerate.react orderly covered stuck
        apply Charted.after _ walk.path
        exact telling.attend (walk.path.orderly orderly) (walk.covered covered)

theorem resolve (telling : Telling permitted surroundings) (orderly : Orderly busy run.shape)
    (covered : Covered busy run.outside.moments) (id : Option PartitionId) :
    Charted permitted busy run (run.resolve surroundings id).2 := by
  match id with
  | none => exact .refl
  | some (.wellKnown role) => exact .refl
  | some (.client client) =>
    simp only [Directory.resolve]
    split
    · obtain ⟨looks, turns⟩ := telling.considerate.turns
      rw [Directory.client, turns]
      exact telling.clientWithin orderly covered
    · exact .refl

theorem perform (telling : Telling permitted surroundings) (orderly : Orderly busy run.shape)
    (covered : Covered busy run.outside.moments) (call : Call τ υ) :
    Charted permitted busy run (run.perform surroundings call).2 := by
  cases plain : call.plain with
  | true =>
    rw [perform_plain telling.considerate.ungauged plain]
    -- Nobody is called back, so that nothing is recorded, even if the call waits.
    have still : (run.perform (.quiet 0) call).2.outside = run.outside :=
      kept_perform (keeping_outside 0 (· = run.outside)) ⟨fun _ same => same, fun _ _ same => same⟩
        rfl call
    exact .of_path .refl (congrArg Journal.points still)
  | false =>
    cases call with
    | resolve id => exact telling.resolve orderly covered id
    | clientPartition id =>
      cases id with
      | none => exact .refl
      | some id => exact telling.resolve orderly covered (some id)
    | startStore handle =>
      have started := shape_startStore run handle surroundings
      have charted := telling.charted orderly (covered.weaken (.startup handle.id))
      intro shown point part last calm
      have outside := congrArg Shape.outside started
      rw [shape_outside, shape_outside] at outside
      have before : shown <+: (surroundings.react (.startup handle.id) run).outside.points :=
        outside ▸ part
      exact charted before last calm
    | _ => cases plain

theorem make (telling : Telling permitted surroundings) (orderly : Orderly busy run.shape)
    (covered : Covered busy run.outside.moments) {call : Call τ υ} (allowed : permitted call) :
    Charted permitted busy run (run.make surroundings call) := by
  cases stuck : (run.make surroundings call).stuck with
  | false =>
    have walk := telling.considerate.make orderly covered allowed stuck
    exact .of_path walk.path rfl
  | true =>
    have begin : Move permitted ⟨busy, run⟩ ⟨busy, run.record (.begins call)⟩ :=
      .begin call allowed covered
    have performed := telling.perform (begin.orderly orderly) covered call
    have waiting : ((run.record (.begins call)).perform surroundings call).2.stuck = true := stuck
    exact (performed.after (.single begin)).lost (lost_record (lost_here waiting) _)

theorem makeAll (telling : Telling permitted surroundings) (orderly : Orderly busy run.shape)
    (covered : Covered busy run.outside.moments) {calls : List (Call τ υ)}
    (allowed : ∀ call ∈ calls, permitted call) :
    Charted permitted busy run (run.makeAll surroundings calls) := by
  induction calls generalizing run with
  | nil => exact .refl
  | cons call rest ih =>
    have first := telling.make orderly covered (allowed call List.mem_cons_self)
    cases stuck : (run.make surroundings call).stuck with
    | true => exact first.lost (recorded_lost.makeAll (telling.keeping _) (lost_here stuck) rest)
    | false =>
      have walk := telling.considerate.make orderly covered (allowed call List.mem_cons_self) stuck
      have later := ih (walk.path.orderly orderly) (walk.covered covered)
        (fun call member => allowed call (List.mem_cons_of_mem _ member))
      exact later.after walk.path

theorem makeWithin (telling : Telling permitted surroundings) (orderly : Orderly busy run.shape)
    {moment : Moment} (covered : Covered busy (moment :: run.outside.moments))
    {calls : List (Call τ υ)} (allowed : ∀ call ∈ calls, permitted call) :
    Charted permitted busy run (run.makeWithin surroundings moment calls) := by
  have enter : Move permitted ⟨busy, run⟩ ⟨busy, run.enter moment⟩ := .enter moment covered
  have entered := enter.orderly orderly
  have made := (telling.makeAll entered covered allowed).after (.single enter)
  cases stuck : ((run.enter moment).makeAll surroundings calls).stuck with
  | true => exact made.lost (lost_leave (lost_here stuck) moment run.outside.moments)
  | false =>
    have walk := telling.considerate.makeAll entered covered allowed stuck
    have leave : Move permitted ⟨busy, _⟩ ⟨busy, run.makeWithin surroundings moment calls⟩ :=
      .leave moment run.outside.moments (walk.covered covered)
    exact .of_path ((walk.path.head enter).tail leave) rfl

end Telling

theorem telling_others {habit : Habit φ σ τ υ}
    (allowed : ∀ moment run, ∀ call ∈ habit moment run, permitted call) (turns depth : Nat) :
    Telling permitted (others habit turns depth) := by
  -- Calls inside a moment are made among others who can nest moments one level less.
  induction depth with
  | zero =>
    exact ⟨considerate_others allowed turns 0, fun _ => recorded_lost.keeping_others habit turns 0,
      fun _ _ => .refl⟩
  | succ depth ih =>
    refine ⟨considerate_others allowed turns (depth + 1),
      fun _ => recorded_lost.keeping_others habit turns (depth + 1),
      fun {moment busy run} orderly covered => ?_⟩
    cases moment with
    | gauge => exact .refl
    | create id => exact ih.makeWithin orderly covered (allowed (.create id) run)
    | startup id => exact ih.makeWithin orderly covered (allowed (.startup id) run)

theorem Built.throughout {holds : Position φ σ τ υ → Prop} {seen : Directory φ σ Unit → Prop}
    {calls : List (Call τ υ)} (built : Built run) (telling : Telling permitted surroundings)
    (allowed : ∀ call ∈ calls, permitted call)
    (keeps : ∀ {a b}, Move permitted a b → Orderly a.busy a.run.shape → holds a → holds b)
    (shows : ∀ {a}, Orderly a.busy a.run.shape → holds a → seen a.run.snapshot)
    (held : holds ⟨[], run⟩) :
    ∀ point ∈ (run.makeAll surroundings calls).outside.points, point.state.stuck = false →
      seen point.state := by
  intro point reached calm
  obtain ⟨earlier, later, split⟩ := List.append_of_mem reached
  have part : earlier ++ [point] <+: (run.makeAll surroundings calls).outside.points :=
    ⟨later, by rw [split, List.append_assoc]; rfl⟩
  obtain ⟨position, path, found⟩ := telling.makeAll built.bare.orderly built.reached.covered allowed
    part List.getLast?_concat calm
  rcases path.points keeps shows built.bare.orderly held point (found.subset (by simp)) with
    before | shown
  · have blank : run.outside = .blank := built.bare.outside
    rw [blank] at before
    cases before
  · exact shown

end PeerDirectory.Directory

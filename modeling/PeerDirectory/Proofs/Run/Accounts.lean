import PeerDirectory.Proofs.Run.Balance
import PeerDirectory.Proofs.Run.Census
import PeerDirectory.Proofs.Run.Fitting
import PeerDirectory.Proofs.Run.Points

namespace PeerDirectory

def Moment.creates : Moment → Bool
  | .create _ => true
  | _ => false

namespace Directory

/-! ## What is counted -/

def Response.startupFailed : Response → Bool
  | .found (.error (.startup _ _)) => true
  | _ => false

section Counting

variable {φ σ γ τ υ : Type}

def Point.startupFailed (point : Point φ σ τ υ) : Bool :=
  match point.event with
  | .ends _ _ response => response.startupFailed
  | _ => false

def startupFailures (points : List (Point φ σ τ υ)) : Nat := points.countP (·.startupFailed)

theorem startupFailures_record (run : Run φ σ τ υ) (event : Event φ σ τ υ) :
    startupFailures (run.record event).outside.points =
      startupFailures run.outside.points +
        (Point.startupFailed ⟨event, run.outside.moments, run.snapshot⟩).toNat := by
  have recorded : (run.record event).outside.points =
      run.outside.points ++ [⟨event, run.outside.moments, run.snapshot⟩] := rfl
  rw [startupFailures, recorded, List.countP_append, List.countP_singleton]
  cases Point.startupFailed ⟨event, run.outside.moments, run.snapshot⟩ <;> rfl

/-- Nobody shut the directory down while a store was made. -/
def Discreet (run : Run φ σ τ υ) : Prop :=
  ∀ point ∈ run.outside.points, point.closes = true →
    ∀ moment ∈ point.moments, moment.creates = false

theorem Discreet.of_outside {run again : Run φ σ τ υ} (discreet : Discreet again)
    (same : again.outside = run.outside) : Discreet run := by
  unfold Discreet
  rwa [← same]

theorem Discreet.before [PartitionStore σ] [StoreFactory φ σ] [Backdoor φ σ τ υ]
    {permitted : Call τ υ → Prop} {busy more : List Handle} {run after : Run φ σ τ υ}
    (discreet : Discreet after) (path : Path permitted ⟨busy, run⟩ ⟨more, after⟩)
    (orderly : Orderly busy run.shape) : Discreet run :=
  fun point member => discreet point ((path.grows orderly).subset member)

end Counting

theorem startupFailed_plain {run : Run MemoryFactory MemoryStore Tuning Blinding}
    {call : Call Tuning Blinding} (plain : call.plain = true) :
    (run.perform (.quiet 0) call).1.startupFailed = false := by
  cases call with
  | resolve id => cases plain
  | clientPartition id => cases plain
  | ask question => cases question <;> rfl
  | _ => rfl

/-! ## Accounts -/

structure Accounts (owed : Nat) (busy : List Handle)
    (run : Run MemoryFactory MemoryStore Tuning Blinding) : Prop where
  orderly : Orderly busy run.shape
  fitting : Fitting (fun _ => False) run.vitals?
  attested : Attested run
  built : run.clientStores = run.ledger.created .client + startupFailures run.outside.points +
    run.ledger.races + busy.length + owed
  unstarted : run.unstartedStores = run.ledger.races + busy.length

namespace Accounts

variable {owed : Nat} {busy more : List Handle} {handle : Handle} {client : Hash}
  {run after : Run MemoryFactory MemoryStore Tuning Blinding}

theorem keep (accounts : Accounts owed busy run) (move : Move Undriven ⟨busy, run⟩ ⟨busy, after⟩)
    (stores : after.startups? = run.startups?)
    (created : after.ledger.created = run.ledger.created)
    (races : after.ledger.races = run.ledger.races)
    (failures : startupFailures after.outside.points = startupFailures run.outside.points) :
    Accounts owed busy after := by
  refine ⟨move.orderly accounts.orderly, move.fitting accounts.orderly accounts.fitting,
    move.attested accounts.orderly accounts.attested, ?_, ?_⟩
  · rw [clientStores, stores_congr stores, created, races, failures]
    exact accounts.built
  · rw [unstartedStores, stores_congr stores, races]
    exact accounts.unstarted

theorem begin (accounts : Accounts owed busy run) {call : Call Tuning Blinding}
    (undriven : Undriven call) (covered : Covered busy run.outside.moments) :
    Accounts owed busy (run.record (.begins call)) :=
  accounts.keep (.begin call undriven covered) rfl rfl rfl (startupFailures_record _ _)

theorem enter (accounts : Accounts owed busy run) {moment : Moment}
    (covered : Covered busy (moment :: run.outside.moments)) :
    Accounts owed busy (run.enter moment) :=
  accounts.keep (.enter moment covered) rfl rfl rfl (startupFailures_record _ _)

theorem leave (accounts : Accounts owed busy run) (moment : Moment) (moments : List Moment)
    (covered : Covered busy run.outside.moments) :
    Accounts owed busy (run.leave moment moments) :=
  accounts.keep (.leave moment moments covered) rfl rfl rfl (startupFailures_record _ _)

theorem reply {call : Call Tuning Blinding} {before : Directory MemoryFactory MemoryStore Unit}
    {response : Response}
    (accounts : Accounts (owed + response.startupFailed.toNat) busy run)
    (move : Move Undriven ⟨busy, run⟩ ⟨busy, run.record (.ends call before response)⟩) :
    Accounts owed busy (run.record (.ends call before response)) := by
  refine ⟨move.orderly accounts.orderly, move.fitting accounts.orderly accounts.fitting,
    move.attested accounts.orderly accounts.attested, ?_, accounts.unstarted⟩
  have told : startupFailures (run.record (.ends call before response)).outside.points =
      startupFailures run.outside.points + response.startupFailed.toNat :=
    startupFailures_record run _
  have built : run.clientStores = run.ledger.created .client + startupFailures run.outside.points +
    run.ledger.races + busy.length + (owed + response.startupFailed.toNat) := accounts.built
  have same : (run.record (.ends call before response)).ledger = run.ledger := rfl
  rw [told, same]
  exact built.trans (by omega)

theorem act (accounts : Accounts owed busy run) {call : Call Tuning Blinding}
    (undriven : Undriven call) (plain : call.plain = true)
    (covered : Covered busy run.outside.moments)
    (unstuck : (run.perform (.quiet 0) call).2.stuck = false) :
    Accounts owed busy ((run.perform (.quiet 0) call).2.record
      (.ends call run.snapshot (run.perform (.quiet 0) call).1)) := by
  obtain ⟨created, races⟩ : (run.perform (.quiet 0) call).2.ledger.created = run.ledger.created ∧
      (run.perform (.quiet 0) call).2.ledger.races = run.ledger.races := ledger_act plain
  refine accounts.keep (.act call undriven plain covered unstuck) (startups?_act plain 0) created
    races ?_
  rw [startupFailures_record, outside_act plain unstuck]
  simp only [Point.startupFailed, startupFailed_plain plain]
  rfl

theorem discard (accounts : Accounts owed busy run) (tracked : run.tracked? client = some handle) :
    Accounts owed busy (run.register (.quiet 0) client).2 := by
  have move : Move Undriven ⟨busy, run⟩ ⟨busy, (run.register (.quiet 0) client).2⟩ :=
    .discard client handle tracked
  obtain ⟨built, unstarted⟩ := clientStores_build rfl (startups?_next (.client client))
    (run.startups?_register 0)
  have outside : (run.register (.quiet 0) client).2.outside = run.outside :=
    congrArg Shape.outside (register_quiet_of_tracked 0 tracked).2
  refine ⟨move.orderly accounts.orderly, move.fitting accounts.orderly accounts.fitting,
    move.attested accounts.orderly accounts.attested, ?_, ?_⟩
  · rw [built, ledger_discard tracked, outside, accounts.built]
    dsimp only
    omega
  · rw [unstarted, ledger_discard tracked, accounts.unstarted]
    dsimp only
    omega

theorem launch (accounts : Accounts owed busy run)
    (move : Move Undriven ⟨busy, run⟩
      ⟨run.partitions.next (.client client) :: busy, run.launch client⟩)
    (untracked : run.tracked? client = none) :
    Accounts owed (run.partitions.next (.client client) :: busy) (run.launch client) := by
  obtain ⟨built, unstarted⟩ := clientStores_build rfl (startups?_next (.client client))
    run.startups?_launch
  have outside : (run.launch client).outside = run.outside :=
    congrArg Shape.outside (shape_launch untracked)
  refine ⟨move.orderly accounts.orderly, move.fitting accounts.orderly accounts.fitting,
    move.attested accounts.orderly accounts.attested, ?_, ?_⟩
  · rw [built, ledger_launch untracked, outside, accounts.built, List.length_cons]
    dsimp only
    omega
  · rw [unstarted, ledger_launch untracked, accounts.unstarted, List.length_cons]
    dsimp only
    omega

theorem settle (accounts : Accounts owed (handle :: busy) run)
    (named : handle.id = .client client) :
    Accounts
      (owed + (Response.found ((run.settle client handle).1.map fun _ => handle)).startupFailed.toNat)
      busy (run.settle client handle).2 := by
  have orderly := accounts.orderly
  have move : Move Undriven ⟨handle :: busy, run⟩ ⟨busy, (run.settle client handle).2⟩ :=
    .settle client handle named
  have stands := orderly.starting List.mem_cons_self
  have tracked := orderly.tracked_of_busy List.mem_cons_self named
  obtain ⟨partition, -, -, vitals⟩ := vitals?_of_stage? stands
  have fresh : partition.store.vitals = ⟨handle.id, 0, false, false⟩ := accounts.fitting.fit vitals
  rw [fresh] at vitals
  have idle : run.startups? handle = some 0 := by
    simp [startups?_eq, vitals]
  obtain ⟨started, failing⟩ := startups?_startStore vitals rfl
  obtain ⟨built, unstarted⟩ := clientStores_start (by rw [named]; rfl) idle
    ((startups?_settle (orderly.open_of_busy List.mem_cons_self)).trans started)
  have outside := (settle_keeps stands tracked).1
  have before := accounts.built
  have idlers := accounts.unstarted
  rw [← built, List.length_cons] at before
  rw [← unstarted, List.length_cons] at idlers
  refine ⟨move.orderly orderly, move.fitting orderly accounts.fitting,
    move.attested orderly accounts.attested, ?_, ?_⟩
  · rw [outside, before]
    rcases ledger_settle_cases orderly named with ⟨result, -, ledger⟩ |
      ⟨failure, result, failed, ledger⟩
    · simp only [result, ledger, if_true, Except.map]
      simp only [Response.startupFailed, Bool.toNat_false]
      omega
    · obtain ⟨reason, rfl⟩ := failing failure failed
      simp only [result, ledger, Except.map, Response.startupFailed, Bool.toNat_true]
      omega
  · rcases ledger_settle_cases orderly named with ⟨-, -, ledger⟩ | ⟨failure, -, -, ledger⟩
    · rw [ledger]
      dsimp only
      omega
    · rw [ledger] at idlers
      dsimp only at idlers
      omega

end Accounts

/-! ## Others who keep accounts -/

structure Accountable
    (surroundings : Surroundings MemoryFactory MemoryStore
      (Journal MemoryFactory MemoryStore Tuning Blinding)) : Prop where
  considerate : Considerate Undriven surroundings
  enclosed : ∀ moment run, ∀ point ∈ (surroundings.react moment run).outside.points,
    point ∈ run.outside.points ∨ moment ∈ point.moments
  react : ∀ {moment owed busy run}, Accounts owed busy run →
    Covered busy (moment :: run.outside.moments) →
    (surroundings.react moment run).stuck = false → Discreet (surroundings.react moment run) →
      Accounts owed busy (surroundings.react moment run)

namespace Accountable

variable {surroundings : Surroundings MemoryFactory MemoryStore
    (Journal MemoryFactory MemoryStore Tuning Blinding)}
  {owed : Nat} {busy : List Handle} {run : Run MemoryFactory MemoryStore Tuning Blinding}
  {client : Hash}

theorem still_open (accountable : Accountable surroundings) (accounts : Accounts owed busy run)
    (covered : Covered busy run.outside.moments) (opened : run.closed = false)
    (unstuck : (surroundings.react (.create (.client client)) run).stuck = false)
    (discreet : Discreet (surroundings.react (.create (.client client)) run)) :
    (surroundings.react (.create (.client client)) run).closed = false := by
  have later := accountable.react accounts (covered.weaken _) unstuck discreet
  refine Bool.eq_false_iff.mpr fun closed => ?_
  obtain ⟨past, member, closes⟩ := later.attested.mp closed
  rcases accountable.enclosed _ _ past member with before | inside
  · cases opened.symm.trans (accounts.attested.mpr ⟨past, before, closes⟩)
  · cases discreet past member closes _ inside

theorem search {looks : Nat} (accountable : Accountable surroundings)
    (accounts : Accounts owed busy run) (covered : Covered busy run.outside.moments)
    (unstuck : (clientWithin surroundings client (looks + 1) run).2.stuck = false)
    (discreet : Discreet (clientWithin surroundings client (looks + 1) run).2) :
    Accounts
      (owed + (Response.found
        (clientWithin surroundings client (looks + 1) run).1).startupFailed.toNat)
      busy (clientWithin surroundings client (looks + 1) run).2 := by
  have considerate := accountable.considerate
  have pursuit := considerate.pursuit accounts.orderly covered unstuck
  generalize (clientWithin surroundings client (looks + 1) run).1 = result at *
  generalize (clientWithin surroundings client (looks + 1) run).2 = after at *
  cases pursuit with
  | refused closed => exact accounts
  | standing opened tracked ready => exact accounts
  | @overtaken first handle opened untracked reached tracked ready =>
    subst reached
    have registered := (register_quiet_of_tracked 0 tracked).2
    have calm : (surroundings.react (.create (.client client)) run).stuck = false :=
      (congrArg Shape.stuck registered).symm.trans unstuck
    have met := accountable.react accounts (covered.weaken _) calm
      (discreet.of_outside (congrArg Shape.outside registered))
    exact met.discard tracked
  | @shut first opened untracked reached still closed =>
    subst reached
    have refused := (refuse_of_closed still closed).2
    have calm : (surroundings.react (.create (.client client)) run).stuck = false :=
      (congrArg Shape.stuck refused).symm.trans unstuck
    have kept := accountable.still_open accounts covered opened calm
      (discreet.of_outside (congrArg Shape.outside refused))
    cases closed.symm.trans kept
  | @started first starting handle opened untracked reached still running named launched kept =>
    have calm : starting.stuck = false := unstuck_of_settled unstuck
    have way := considerate.launched accounts.orderly covered reached still running named launched
      calm
    have stands := (way.startup.path.orderly way.orderly).starting List.mem_cons_self
    have entered := (way.startup.path.orderly way.orderly).tracked_of_busy List.mem_cons_self
      (by rw [← named]; rfl)
    have told : Discreet starting := discreet.of_outside (settle_keeps stands entered).1
    have begun : Discreet (first.launch client) := told.before way.startup.path way.orderly
    have met : Accounts owed busy first := by
      subst reached
      exact accountable.react accounts (covered.weaken _) way.unstuck
        (begun.of_outside way.outside)
    subst named launched
    have going := accountable.react (met.launch way.move still) way.covered calm told
    exact going.settle rfl

theorem perform (accountable : Accountable surroundings) (accounts : Accounts owed busy run)
    (covered : Covered busy run.outside.moments) {call : Call Tuning Blinding}
    (undriven : Undriven call) (interruptible : call.plain = false)
    (unstuck : (run.perform surroundings call).2.stuck = false)
    (discreet : Discreet (run.perform surroundings call).2) :
    Accounts (owed + (run.perform surroundings call).1.startupFailed.toNat) busy
      (run.perform surroundings call).2 := by
  have resolved (id : Option PartitionId)
      (unstuck : (run.resolve surroundings id).2.stuck = false)
      (discreet : Discreet (run.resolve surroundings id).2) :
      Accounts (owed + (Response.found (run.resolve surroundings id).1).startupFailed.toNat) busy
        (run.resolve surroundings id).2 := by
    match id with
    | none => exact accounts
    | some (.wellKnown role) => exact accounts
    | some (.client client) =>
      simp only [Directory.resolve] at unstuck discreet ⊢
      split
      · rename_i isolated
        obtain ⟨looks, turns⟩ := accountable.considerate.turns
        rw [if_pos isolated, Directory.client, turns] at unstuck discreet
        rw [Directory.client, turns]
        exact accountable.search accounts covered unstuck discreet
      · exact accounts
  cases call with
  | resolve id => exact resolved id unstuck discreet
  | clientPartition id =>
    cases id with
    | none => exact accounts
    | some id => exact resolved (some id) unstuck discreet
  | startStore handle => cases undriven
  | _ => cases interruptible

theorem make (accountable : Accountable surroundings) (accounts : Accounts owed busy run)
    (covered : Covered busy run.outside.moments) {call : Call Tuning Blinding}
    (undriven : Undriven call) (unstuck : (run.make surroundings call).stuck = false)
    (discreet : Discreet (run.make surroundings call)) :
    Accounts owed busy (run.make surroundings call) := by
  have begun := accounts.begin undriven covered
  have covered : Covered busy (run.record (.begins call)).outside.moments := covered
  rw [Directory.make] at unstuck discreet ⊢
  have same : run.snapshot = (run.record (.begins call)).snapshot := rfl
  rw [same] at discreet ⊢
  generalize run.record (.begins call) = started at *
  cases plain : call.plain with
  | true =>
    rw [perform_plain accountable.considerate.ungauged plain] at unstuck ⊢
    exact begun.act undriven plain covered unstuck
  | false =>
    have walk := accountable.considerate.perform begun.orderly covered undriven plain unstuck
    have told : Discreet (started.perform surroundings call).2 :=
      fun point member => discreet point (List.mem_append_left _ member)
    have performed := accountable.perform begun covered undriven plain unstuck told
    exact performed.reply (.reply call _ _ plain (walk.1.covered covered) walk.2)

theorem makeAll (accountable : Accountable surroundings) (accounts : Accounts owed busy run)
    (covered : Covered busy run.outside.moments) {calls : List (Call Tuning Blinding)}
    (undriven : ∀ call ∈ calls, Undriven call)
    (unstuck : (run.makeAll surroundings calls).stuck = false)
    (discreet : Discreet (run.makeAll surroundings calls)) :
    Accounts owed busy (run.makeAll surroundings calls) := by
  induction calls generalizing run with
  | nil => exact accounts
  | cons call rest ih =>
    have considerate := accountable.considerate
    have calm : (run.make surroundings call).stuck = false :=
      unstuck_of_later unstuck fun stuck => stuck_makeAll considerate.patient stuck rest
    have undriven' := undriven call List.mem_cons_self
    have walk := considerate.make accounts.orderly covered undriven' calm
    have later := walk.path.orderly accounts.orderly
    have ahead := walk.covered covered
    have others : ∀ call ∈ rest, Undriven call :=
      fun call member => undriven call (List.mem_cons_of_mem _ member)
    have told : Discreet (run.make surroundings call) :=
      discreet.before (considerate.makeAll later ahead others unstuck).path later
    exact ih (accountable.make accounts covered undriven' calm told) ahead others unstuck discreet

end Accountable

theorem accountable_others {habit : Habit MemoryFactory MemoryStore Tuning Blinding}
    (undriven : ∀ moment run, ∀ call ∈ habit moment run, Undriven call) (turns depth : Nat) :
    Accountable (others habit turns depth) := by
  -- Calls inside a moment are made among others who can nest moments one level less.
  induction depth with
  | zero =>
    exact ⟨considerate_others undriven turns 0, enclosed_react habit turns 0,
      fun accounts _ _ _ => accounts⟩
  | succ depth ih =>
    refine ⟨considerate_others undriven turns (depth + 1), enclosed_react habit turns (depth + 1),
      fun {moment owed busy run} accounts covered unstuck discreet => ?_⟩
    have within (calm : (run.makeWithin (others habit turns depth) moment
          (habit moment run)).stuck = false)
        (discreet : Discreet (run.makeWithin (others habit turns depth) moment
          (habit moment run))) :
        Accounts owed busy
          (run.makeWithin (others habit turns depth) moment (habit moment run)) := by
      have told : Discreet ((run.enter moment).makeAll (others habit turns depth)
          (habit moment run)) :=
        fun point member => discreet point (List.mem_append_left _ member)
      have entered := accounts.enter covered
      have made := ih.makeAll entered covered (undriven moment run) calm told
      have walk := ih.considerate.makeAll entered.orderly covered (undriven moment run) calm
      exact made.leave moment _ (walk.covered covered)
    cases moment with
    | gauge => exact accounts
    | create id => exact within unstuck discreet
    | startup id => exact within unstuck discreet

/-! ## Directories that were just built -/

section Built

variable {run : Run MemoryFactory MemoryStore Tuning Blinding}

theorem Built.startups? (built : Built run) {handle : Handle} (client : handle.id.isClient = true) :
    run.startups? handle = none := by
  have absent : run.stage? handle = none := by
    rw [built.stages, if_neg]
    intro known
    obtain ⟨role, -, rfl⟩ := List.mem_map.mp known
    cases client
  have nothing : run.partition? handle = none := by simpa [stage?] using absent
  simp [Directory.startups?, store?, nothing]

theorem Built.stores (built : Built run) {wanted : Handle → Nat → Bool}
    (clients : ∀ handle count, wanted handle count = true → handle.id.isClient = true) :
    run.stores wanted = 0 := by
  refine List.countP_eq_zero.mpr fun handle _ found => ?_
  cases here : run.startups? handle with
  | none => simp [here] at found
  | some count =>
    rw [here, Option.any_some] at found
    cases (built.startups? (clients handle count found)).symm.trans here

theorem Built.accounts (built : Built run) : Accounts 0 [] run := by
  have blank : run.outside = .blank := built.bare.outside
  refine ⟨built.bare.orderly, built.fitting.weaken nofun, built.attested, ?_, ?_⟩
  · rw [clientStores, built.stores fun _ _ client => client, built.ledger, blank]
    rfl
  · rw [unstartedStores, built.stores fun _ _ both => (Bool.and_eq_true_iff.mp both).1, built.ledger]
    rfl

end Built

end Directory

end PeerDirectory

import PeerDirectory.Proofs.Directory.Shape
import PeerDirectory.Proofs.Run.Journal

namespace PeerDirectory

/-- The partition that stands in for another one while clients are not kept apart. -/
def PartitionId.standIn : PartitionId → WellKnown
  | .wellKnown .exploratory => .exploratory
  | _ => .main

def PartitionId.setAside : PartitionId → Bool
  | .wellKnown .multihome | .client _ => true
  | _ => false

def Partition.fill {σ : Type} [PartitionStore σ] (partition : Partition σ)
    (entries : List (Hash × Entry)) : Partition σ :=
  { partition with
    store := entries.foldl (fun store entry => (PartitionStore.insert store entry.1 entry.2).2)
      partition.store }

namespace Directory

variable {φ σ γ τ υ : Type}

def Call.byId (found : List Handle) : Call τ υ → Bool
  | .resolve _ | .clientPartition _ | .ask _ | .findLease _ => true
  | .insert handle _ _ => found.contains handle
  | _ => false

def Call.stores (handle : Handle) : Call τ υ → List (Hash × Entry)
  | .insert other key entry => if other = handle then [(key, entry)] else []
  | _ => []

variable [PartitionStore σ]

def Call.byStandIn? (directory : Directory φ σ γ) : Call τ υ → Option Response
  | .resolve id | .clientPartition id =>
    some (.found (.ok (wellKnown (id.getD (.wellKnown .main)).standIn)))
  | .ask (.serving role) => some (.handle (some (wellKnown (PartitionId.wellKnown role).standIn)))
  | .ask (.existing id) => some (.handle (some (wellKnown id.standIn)))
  | .ask (.lookupLeaseIn key id) =>
    some (.lease (directory.lookupLease (wellKnown (id.getD (.wellKnown .main)).standIn) key))
  | _ => none

/-- Nothing has changed but the policy, the metrics, the log, what is outside, and what partitions
hold, by the entries that were stored into them. -/
structure Filled (entries : Handle → List (Hash × Entry)) (before after : Directory φ σ γ) :
    Prop where
  frame : after = { before with
    partitions := after.partitions, policy := after.policy, metrics := after.metrics,
    log := after.log, outside := after.outside }
  partition? : ∀ handle,
    after.partition? handle = (before.partition? handle).map (·.fill (entries handle))

section Filling

variable {entries more : Handle → List (Hash × Entry)} {before after last : Directory φ σ γ}

theorem Filled.of_partitions
    (frame : after = { before with
      policy := after.policy, metrics := after.metrics, log := after.log,
      outside := after.outside }) :
    Filled (fun _ => []) before after := by
  have same : after.partitions = before.partitions := by rw [frame]
  refine ⟨by rw [same]; exact frame, fun handle => ?_⟩
  simp [Directory.partition?, same, Partition.fill]

theorem Filled.refl : Filled (fun _ => []) before before := .of_partitions rfl

theorem Filled.trans (first : Filled entries before after) (second : Filled more after last) :
    Filled (fun handle => entries handle ++ more handle) before last := by
  refine ⟨second.frame.trans (by rw [first.frame]), fun handle => ?_⟩
  rw [second.partition?, first.partition?, Option.map_map]
  simp [Function.comp_def, Partition.fill]

theorem Filled.insert (directory : Directory φ σ γ) (handle : Handle) (key : Hash)
    (entry : Entry) :
    Filled ((Call.insert handle key entry : Call τ υ).stores ·) directory
      (directory.insert handle key entry).2 := by
  unfold Directory.insert
  cases here : directory.store? handle with
  | none =>
    refine ⟨rfl, fun other => ?_⟩
    by_cases same : handle = other
    · subst same
      have absent : directory.partition? handle = none := Option.map_eq_none_iff.mp here
      simp [absent]
    · simp [Call.stores, same, Partition.fill]
  | some store =>
    obtain ⟨partition, stands, rfl⟩ := Option.map_eq_some_iff.mp here
    refine ⟨rfl, fun other => ?_⟩
    simp only [setStore, partition?_modify]
    by_cases same : other = handle
    · subst same
      simp [stands, Call.stores, Partition.fill]
    · simp [Call.stores, same, Ne.symm same, Partition.fill]

theorem Filled.stage? (filled : Filled entries before after) (handle : Handle) :
    after.stage? handle = before.stage? handle := by
  unfold Directory.stage?
  rw [filled.partition?, Option.map_map]
  rfl

theorem Filled.next (filled : Filled entries before after) (id : PartitionId) :
    after.partitions.next id = before.partitions.next id := by
  apply Registry.next_of_get?
  intro generation
  have here := filled.partition? ⟨id, generation⟩
  unfold Directory.partition? at here
  rw [here, Option.map_eq_none_iff]

end Filling

/-! ## Single calls -/

section Answers

variable {directory : Directory φ σ γ} {handle : Handle}

theorem wellKnown_standIn (id : PartitionId) :
    wellKnown id.standIn = wellKnown .main ∨ wellKnown id.standIn = wellKnown .exploratory := by
  unfold PartitionId.standIn
  split
  · exact Or.inr rfl
  · exact Or.inl rfl

omit [PartitionStore σ] in
theorem serving_together (together : directory.isolated = false) (role : WellKnown) :
    directory.serving role = wellKnown (PartitionId.wellKnown role).standIn := by
  cases role with
  | multihome => simp [Directory.serving, together, PartitionId.standIn]
  | _ => rfl

omit [PartitionStore σ] in
theorem existing?_together (together : directory.isolated = false) (id : PartitionId) :
    directory.existing? id = some (wellKnown id.standIn) := by
  cases id with
  | wellKnown role => exact congrArg some (serving_together together role)
  | client client => simp [Directory.existing?, together, PartitionId.standIn]

theorem lookupLeaseIn_together (together : directory.isolated = false) (key : Hash)
    (id : Option PartitionId) :
    directory.lookupLeaseIn key id =
      directory.lookupLease (wellKnown (id.getD (.wellKnown .main)).standIn) key := by
  cases id with
  | none => rfl
  | some id => simp [Directory.lookupLeaseIn, existing?_together together]

theorem named_together (together : directory.isolated = false) {question : Question}
    (named : handle ∈ (directory.answer question).partitions) :
    handle = wellKnown .main ∨ handle = wellKnown .exploratory := by
  cases question with
  | serving role =>
    rw [Directory.answer, serving_together together] at named
    rw [List.mem_singleton.mp named]
    apply wellKnown_standIn
  | existing id =>
    rw [Directory.answer, existing?_together together] at named
    rw [List.mem_singleton.mp named]
    apply wellKnown_standIn
  | current =>
    simp only [Directory.answer, Directory.current, together] at named
    exact Or.inl (List.mem_singleton.mp named)
  | _ => cases named

end Answers

variable [StoreFactory φ σ] {surroundings : Surroundings φ σ γ} {directory : Directory φ σ γ}

theorem resolve_together (together : directory.isolated = false) (id : Option PartitionId) :
    directory.resolve surroundings id =
      (.ok (wellKnown (id.getD (.wellKnown .main)).standIn), directory) := by
  match id with
  | none => rfl
  | some (.wellKnown role) =>
    simp only [Directory.resolve, serving_together together, Option.getD_some]
  | some (.client client) => simp [Directory.resolve, together, PartitionId.standIn]

theorem clientPartition_together (together : directory.isolated = false)
    (id : Option PartitionId) :
    directory.clientPartition surroundings id =
      (.ok (wellKnown (id.getD (.wellKnown .main)).standIn), directory) := by
  cases id with
  | none => simp [Directory.clientPartition, together, PartitionId.standIn]
  | some id => exact resolve_together together (some id)

structure Served (directory : Directory φ σ γ) (call : Call τ υ)
    (served : Response × Directory φ σ γ) : Prop where
  filled : Filled (call.stores ·) directory served.2
  policy : served.2.policy = directory.policy
  outside : served.2.outside = directory.outside
  standIn : ∀ {response}, call.byStandIn? directory = some response → served.1 = response
  named : ∀ handle ∈ served.1.partitions,
    handle = wellKnown .main ∨ handle = wellKnown .exploratory

variable [Backdoor φ σ τ υ] {call : Call τ υ} {found : List Handle}

theorem perform_together (together : directory.isolated = false) (byId : call.byId found = true) :
    directory.perform surroundings call = directory.perform (.quiet 0) call := by
  cases call with
  | resolve id => simp only [Directory.perform, resolve_together together]
  | clientPartition id => simp only [Directory.perform, clientPartition_together together]
  | findLease key => rfl
  | ask question => rfl
  | insert handle key entry => rfl
  | _ => cases byId

theorem served_together (together : directory.isolated = false) (byId : call.byId found = true) :
    Served directory call (directory.perform surroundings call) := by
  have silent : ∀ handle ∈ ([] : List Handle),
      handle = wellKnown .main ∨ handle = wellKnown .exploratory := by simp
  cases call with
  | resolve id =>
    simp only [Directory.perform, resolve_together together]
    refine ⟨.refl, rfl, rfl, Option.some.inj, fun handle named => ?_⟩
    rw [List.mem_singleton.mp named]
    apply wellKnown_standIn
  | clientPartition id =>
    simp only [Directory.perform, clientPartition_together together]
    refine ⟨.refl, rfl, rfl, Option.some.inj, fun handle named => ?_⟩
    rw [List.mem_singleton.mp named]
    apply wellKnown_standIn
  | findLease key =>
    simp only [Directory.perform, findLease_after]
    exact ⟨.of_partitions rfl, rfl, rfl, by simp [Call.byStandIn?], silent⟩
  | ask question =>
    refine ⟨.refl, rfl, rfl, fun {response} expected => ?_, fun handle => named_together together⟩
    cases question with
    | serving role =>
      rw [← Option.some.inj expected, ← serving_together together]
      rfl
    | existing id =>
      rw [← Option.some.inj expected, ← existing?_together together]
      rfl
    | lookupLeaseIn key id =>
      rw [← Option.some.inj expected, ← lookupLeaseIn_together together]
      rfl
    | _ => cases expected
  | insert handle key entry =>
    refine ⟨.insert directory handle key entry, ?_, ?_, by simp [Call.byStandIn?], silent⟩
    · simp only [Directory.perform, Directory.insert]
      split <;> rfl
    · exact congrArg Shape.outside (shape_insert directory handle key entry)
  | _ => cases byId

/-! ## Calls one after another -/

section Runs

omit surroundings directory
variable {surroundings : Surroundings φ σ (Journal φ σ τ υ)} {run first last : Run φ σ τ υ}
  {entries more : Handle → List (Hash × Entry)}

inductive Event.Diverted : Event φ σ τ υ → Prop
  | begins (call : Call τ υ) : Diverted (.begins call)
  | ends {call : Call τ υ} {before : Directory φ σ Unit} {response : Response}
      (standIn : ∀ {expected}, call.byStandIn? before = some expected → response = expected)
      (named : ∀ handle ∈ response.partitions,
        handle = wellKnown .main ∨ handle = wellKnown .exploratory) :
      Diverted (.ends call before response)

/-- A stretch of a run that leaves only entries behind, while main stands in for the partitions that
are set aside. -/
structure Stretch (entries : Handle → List (Hash × Entry)) (before after : Run φ σ τ υ) : Prop where
  filled : Filled entries before after
  moments : after.outside.moments = before.outside.moments
  points : ∃ points, after.outside.points = before.outside.points ++ points ∧
    ∀ point ∈ points, point.event.Diverted

omit [StoreFactory φ σ] [Backdoor φ σ τ υ] in
theorem Stretch.refl : Stretch (fun _ => []) run run :=
  ⟨.refl, rfl, [], (List.append_nil _).symm, fun _ member => nomatch member⟩

omit [StoreFactory φ σ] [Backdoor φ σ τ υ] in
theorem Stretch.trans (before : Stretch entries run first) (after : Stretch more first last) :
    Stretch (fun handle => entries handle ++ more handle) run last := by
  obtain ⟨earlier, past, diverted⟩ := before.points
  obtain ⟨later, present, also⟩ := after.points
  refine ⟨before.filled.trans after.filled, after.moments.trans before.moments,
    earlier ++ later, ?_, fun point member => ?_⟩
  · rw [present, past, List.append_assoc]
  · exact (List.mem_append.mp member).elim (diverted point) (also point)

omit [StoreFactory φ σ] [Backdoor φ σ τ υ] in
theorem Stretch.record {event : Event φ σ τ υ} (stretch : Stretch entries run last)
    (diverted : event.Diverted) : Stretch entries run (last.record event) := by
  obtain ⟨points, added, all⟩ := stretch.points
  have frame := stretch.filled.frame
  refine ⟨⟨?_, stretch.filled.partition?⟩, stretch.moments,
    points ++ [⟨event, last.outside.moments, last.snapshot⟩], ?_, fun point member => ?_⟩
  · unfold Directory.record
    rw [frame]
  · rw [← List.append_assoc, ← added]
    rfl
  · rcases List.mem_append.mp member with earlier | new
    · exact all point earlier
    · rw [List.mem_singleton.mp new]
      exact diverted

theorem stretch_make {call : Call τ υ} {served : Response × Run φ σ τ υ}
    (performed : (run.record (.begins call)).perform surroundings call = served)
    (filled : Filled (call.stores ·) (run.record (.begins call)) served.2)
    (outside : served.2.outside = (run.record (.begins call)).outside)
    (ended : Event.Diverted (.ends call run.snapshot served.1)) :
    Stretch (call.stores ·) run (run.make surroundings call) := by
  have begun : Stretch (fun _ => []) run (run.record (.begins call)) :=
    Stretch.refl.record (.begins call)
  have done : Stretch (call.stores ·) (run.record (.begins call)) served.2 :=
    ⟨filled, congrArg Journal.moments outside, [],
      (congrArg Journal.points outside).trans (List.append_nil _).symm, fun _ member => nomatch member⟩
  have made := (begun.trans done).record ended
  simpa only [Directory.make, performed, List.nil_append] using made

def discovered (run : Run φ σ τ υ) (call : Call τ υ) : List Handle :=
  ((run.record (.begins call)).perform (.quiet 0) call).1.partitions

/-- Calls made one after another reach partitions by id, if they store only into partitions that the
calls before them have found. -/
def byIds (run : Run φ σ τ υ) (found : List Handle) : List (Call τ υ) → Bool
  | [] => true
  | call :: rest =>
    call.byId found && byIds (run.make (.quiet 0) call) (found ++ run.discovered call) rest

variable {call : Call τ υ} {found : List Handle}

theorem make_together (together : run.isolated = false) (byId : call.byId found = true) :
    run.make surroundings call = run.make (.quiet 0) call := by
  have begun : (run.record (.begins call)).isolated = false := together
  simp only [Directory.make, perform_together begun byId]

theorem served_record (together : run.isolated = false) (byId : call.byId found = true) :
    Served (run.record (.begins call)) call
      ((run.record (.begins call)).perform (.quiet 0) call) :=
  served_together together byId

theorem stretch_byId (together : run.isolated = false) (byId : call.byId found = true) :
    Stretch (call.stores ·) run (run.make (.quiet 0) call) := by
  have served := served_record together byId
  refine stretch_make rfl served.filled served.outside (.ends (fun {expected} same => ?_) served.named)
  apply served.standIn
  rw [← same]
  cases call <;> rfl

theorem stores_of_byId {handle : Handle} (byId : call.byId found = true)
    (missing : handle ∉ found) :
    call.stores handle = [] := by
  cases call with
  | insert other key entry =>
    have other_found : other ∈ found := List.contains_iff_mem.mp byId
    have apart : other ≠ handle := fun same => missing (same ▸ other_found)
    simp [Call.stores, apart]
  | _ => rfl

structure Sojourn (surroundings : Surroundings φ σ (Journal φ σ τ υ)) (calls : List (Call τ υ))
    (run : Run φ σ τ υ) : Prop where
  alone : run.makeAll surroundings calls = run.makeAll (.quiet 0) calls
  stretch : Stretch (fun handle => calls.flatMap (·.stores handle)) run
    (run.makeAll (.quiet 0) calls)
  spared : ∀ {handle}, handle.id.setAside = true → calls.flatMap (·.stores handle) = []

theorem sojourn_byIds {calls : List (Call τ υ)} (together : run.isolated = false)
    (known : ∀ handle ∈ found, handle.id.setAside = false)
    (byIds : run.byIds found calls = true) : Sojourn surroundings calls run := by
  induction calls generalizing run found with
  | nil => exact ⟨rfl, .refl, fun _ => rfl⟩
  | cons call rest ih =>
    obtain ⟨byId, later⟩ := Bool.and_eq_true_iff.mp byIds
    have served := served_record together byId
    have still : (run.make (.quiet 0) call).isolated = false :=
      (congrArg IsolationPolicy.enabled served.policy).trans together
    have also : ∀ handle ∈ found ++ run.discovered call, handle.id.setAside = false := by
      intro handle member
      rcases List.mem_append.mp member with before | new
      · exact known handle before
      · rcases served.named handle new with rfl | rfl
        · rfl
        · rfl
    have after := ih still also later
    constructor
    case alone =>
      simp only [makeAll, List.foldl_cons, make_together together byId]
      exact after.alone
    case stretch =>
      simp only [List.flatMap_cons]
      exact (stretch_byId together byId).trans after.stretch
    case spared =>
      intro handle aside
      have missing : handle ∉ found := by
        intro member
        cases aside.symm.trans (known handle member)
      rw [List.flatMap_cons, stores_of_byId byId missing, after.spared aside]
      rfl

def interlude (calls : List (Call τ υ)) : List (Call τ υ) :=
  .setIsolation false :: (calls ++ [.setIsolation true])

omit [PartitionStore σ] [StoreFactory φ σ] in
theorem setIsolation_frame (directory : Directory φ σ γ) (enabled : Bool) :
    directory.setIsolation enabled =
      { directory with policy := ⟨enabled⟩, log := (directory.setIsolation enabled).log } := by
  simp only [Directory.setIsolation, IsolationPolicy.set]
  by_cases still : directory.policy.enabled = enabled
  · simp only [still, if_true]
  · simp only [still, if_false]
    rfl

theorem stretch_setIsolation (run : Run φ σ τ υ) (enabled : Bool) :
    Stretch (fun _ => []) run (run.make (.quiet 0) (.setIsolation enabled)) := by
  have frame := setIsolation_frame (run.record (.begins (.setIsolation enabled))) enabled
  have filled : Filled (fun _ => []) (run.record (.begins (.setIsolation enabled)))
      ((run.record (.begins (.setIsolation enabled))).setIsolation enabled) := by
    apply Filled.of_partitions
    rw [frame]
  have performed : (run.record (.begins (.setIsolation enabled))).perform (.quiet 0)
      (.setIsolation enabled) = (.done (.ok ()), _) := rfl
  exact stretch_make performed filled (by rw [frame])
    (.ends (fun {_} none => nomatch none) (fun _ none => nomatch none))

theorem policy_make_setIsolation (run : Run φ σ τ υ) (enabled : Bool) :
    (run.make (.quiet 0) (.setIsolation enabled)).policy = ⟨enabled⟩ :=
  congrArg Directory.policy
    (setIsolation_frame (run.record (.begins (.setIsolation enabled))) enabled)

theorem sojourn_interlude {calls : List (Call τ υ)}
    (byIds : (run.make (.quiet 0) (.setIsolation false)).byIds [] calls = true) :
    run.makeAll surroundings (interlude calls) = run.makeAll (.quiet 0) (interlude calls) ∧
      Stretch (fun handle => calls.flatMap (·.stores handle)) run
        (run.makeAll (.quiet 0) (interlude calls)) ∧
      (run.makeAll (.quiet 0) (interlude calls)).policy = ⟨true⟩ ∧
      ∀ {handle}, handle.id.setAside = true → calls.flatMap (·.stores handle) = [] := by
  have together : (run.make (.quiet 0) (.setIsolation false)).isolated = false :=
    congrArg IsolationPolicy.enabled (policy_make_setIsolation run false)
  have nothing : ∀ handle ∈ ([] : List Handle), handle.id.setAside = false := nofun
  have sojourn : Sojourn surroundings calls (run.make (.quiet 0) (.setIsolation false)) :=
    sojourn_byIds together nothing byIds
  have split (surroundings : Surroundings φ σ (Journal φ σ τ υ)) :
      run.makeAll surroundings (interlude calls) =
        ((run.make (.quiet 0) (.setIsolation false)).makeAll surroundings calls).make (.quiet 0)
          (.setIsolation true) := by
    simp only [interlude, makeAll, List.foldl_cons, List.foldl_append, List.foldl_nil]
    rfl
  have begun := stretch_setIsolation run false
  have stretch := (begun.trans sojourn.stretch).trans (stretch_setIsolation _ true)
  rw [split, split, sojourn.alone]
  refine ⟨rfl, ?_, policy_make_setIsolation _ true, sojourn.spared⟩
  simpa only [List.nil_append, List.append_nil] using stretch

end Runs

end Directory

end PeerDirectory

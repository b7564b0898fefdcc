import PeerDirectory.Proofs.Mirror.Calls
import PeerDirectory.Proofs.Run.Start

namespace PeerDirectory.Directory

variable {φ σ φ' σ' τ υ γ δ : Type} [PartitionStore σ] [PartitionStore σ'] [StoreFactory φ σ]
  [StoreFactory φ' σ'] [Backdoor φ σ τ υ] [Backdoor φ' σ' τ υ] {bond : Bond φ σ φ' σ' τ υ}
  {naming : Naming} {spare : Spare σ'} {given : Handle → Prop}
  {ahead : Handle → Option Lifecycle} {left : Directory φ σ γ} {right : Directory φ' σ' δ}
  {change : Moment → φ → φ} {again : Moment → φ' → φ'}

def Tuned (bond : Bond φ σ φ' σ' τ υ) (change : Moment → φ → φ) (again : Moment → φ' → φ') :
    Prop :=
  ∀ (moment : Moment) {factory other}, bond.link factory other →
    bond.link (change moment factory) (again moment other)

structure Begun (bond : Bond φ σ φ' σ' τ υ) (naming : Naming)
    (spare : Spare σ') (given : Handle → Prop)
    (one : Except Failure Unit × Directory φ σ γ)
    (other : Except Failure Unit × Directory φ' σ' δ) : Prop where
  result : other.1 = one.1
  started : one.1 = .ok () → Mirror bond naming spare given level one.2 other.2
  failed : ∀ {failure}, one.1 = .error failure → ∃ handle,
    Mirror bond naming spare given (Function.update level handle (some .shutDown)) one.2 other.2

theorem begun_ok (mirror : Mirror bond naming spare given level left right) :
    Begun bond naming spare given (.ok (), left) (.ok (), right) :=
  ⟨rfl, fun _ => mirror, fun broken => by cases broken⟩

theorem begun_error {handle : Handle}
    (mirror : Mirror bond naming spare given (Function.update level handle (some .shutDown))
      left right) (failure : Failure) :
    Begun bond naming spare given (.error failure, left) (.error failure, right) :=
  ⟨rfl, fun ready => (by cases ready), fun _ => ⟨handle, mirror⟩⟩

theorem Begun.mirror {one : Except Failure Unit × Directory φ σ γ}
    {other : Except Failure Unit × Directory φ' σ' δ}
    (begun : Begun bond naming spare given one other) :
    ∃ ahead, Mirror bond naming spare given ahead one.2 other.2 := by
  cases result : one.1 with
  | ok _ => exact ⟨level, begun.started result⟩
  | error failure =>
    obtain ⟨handle, mirror⟩ := begun.failed result
    exact ⟨_, mirror⟩

namespace Mirror

theorem retune (mirror : Mirror bond naming spare given ahead left right)
    (tuned : Tuned bond change again) (moment : Moment) :
    Mirror bond naming spare given ahead ((Surroundings.tuning change).react moment left)
      ((Surroundings.tuning again).react moment right) :=
  { mirror with factory := tuned moment mirror.factory }

theorem prepare (mirror : Mirror bond naming spare given level left right)
    (tuned : Tuned bond change again) (role : WellKnown) :
    Mirror bond naming spare given level (left.prepare change role)
      (right.prepare again role) := by
  obtain ⟨named, built⟩ :=
    (mirror.retune tuned (.create (.wellKnown role))).build (.wellKnown role) rfl 0
  have locked := built.setLocked (left.partitions.next (.wellKnown role)) true
  rw [mirror.place_next] at locked
  exact locked.retune tuned (.startup (.wellKnown role))

theorem startWellKnown (mirror : Mirror bond naming spare given level left right)
    (tuned : Tuned bond change again) (role : WellKnown) :
    let one := left.startWellKnown (.tuning change) role
    let other := right.startWellKnown (.tuning again) role
    other.1 = one.1 ∧
      (one.1 = .ok () → Mirror bond naming spare given level one.2 other.2) ∧
      ∀ {failure}, one.1 = .error failure →
        Mirror bond naming spare given
          (Function.update level (left.partitions.next (.wellKnown role)) (some .shutDown))
          one.2 other.2 := by
  have stands : (left.prepare change role).stage? (left.partitions.next (.wellKnown role)) =
      some (.creating, true) :=
    (congrFun (congrArg Shape.stages (shape_prepare left change role)) _).trans
      (Function.update_self ..)
  have running := (mirror.prepare tuned role).startStore stands rfl
  simp only [startWellKnown_eq, ← mirror.place_next (.wellKnown role), running.result]
  generalize left.partitions.next (.wellKnown role) = handle at *
  cases result : ((left.prepare change role).startStore (.quiet 0) handle).1 with
  | error failure =>
    have failed := running.mirror
    rw [result] at failed
    dsimp only
    exact ⟨rfl, fun ready => (by cases ready), fun _ => failed.setLocked handle false⟩
  | ok _ =>
    have caught := running.mirror
    rw [result] at caught
    dsimp only
    refine ⟨rfl, fun _ => ?_, fun broken => by cases broken⟩
    exact (((caught.catchUp rfl).setLocked handle false).count _ (by simp) 1).note _

theorem stopBuilt {handles : List Handle}
    (mirror : Mirror bond naming spare given ahead left right)
    (fixed : ∀ handle ∈ handles, naming.place handle = handle)
    (even : ∀ handle ∈ handles, ahead handle = none) :
    Mirror bond naming spare given ahead
      (handles.foldl (fun directory handle => (directory.stop handle).2) left)
      (handles.foldl (fun directory handle => (directory.stop handle).2) right) := by
  induction handles generalizing left right with
  | nil => exact mirror
  | cons handle rest ih =>
    have stopped := (mirror.stop handle (even handle List.mem_cons_self)).mirror
    rw [fixed handle List.mem_cons_self] at stopped
    exact ih stopped (fun other member => fixed other (List.mem_cons_of_mem _ member))
      fun other member => even other (List.mem_cons_of_mem _ member)

theorem startAll {roles : List WellKnown} {sofar : List WellKnown}
    (mirror : Mirror bond naming spare given level left right) (tuned : Tuned bond change again)
    (standing : ∀ role ∈ sofar, left.stage? (wellKnown role) ≠ none) (distinct : roles.Nodup)
    (absent : ∀ role ∈ roles, left.stage? (wellKnown role) = none) :
    Begun bond naming spare given
      (Directory.startAll (.tuning change) (sofar.map wellKnown) roles left)
      (Directory.startAll (.tuning again) (sofar.map wellKnown) roles right) := by
  induction roles generalizing left right sofar with
  | nil => exact begun_ok mirror
  | cons role rest ih =>
    obtain ⟨result, started, failed⟩ := mirror.startWellKnown tuned role
    rw [Directory.startAll, Directory.startAll]
    rcases left.startWellKnown_cases change role with ⟨first, shape⟩ | ⟨⟨failure, first⟩, -⟩
    · have named : left.partitions.next (.wellKnown role) = wellKnown role :=
        next_of_absent (absent role List.mem_cons_self)
      have stages : (left.startWellKnown (.tuning change) role).2.stage? =
          Function.update left.stage? (wellKnown role) (some (.ready, false)) := by
        rw [← named]
        exact congrArg Shape.stages shape
      have longer : sofar.map wellKnown ++ [wellKnown role] = (sofar ++ [role]).map wellKnown := by
        simp
      obtain ⟨apart, distinct⟩ := List.nodup_cons.mp distinct
      simp only [result, first, longer]
      refine ih (started first) (fun other member => ?_) distinct fun other member => ?_
      · rw [stages]
        by_cases same : wellKnown other = wellKnown role
        · rw [same, Function.update_self]
          exact Option.some_ne_none _
        · have before : other ∈ sofar := by
            refine (List.mem_append.mp member).resolve_right fun last => ?_
            exact same (congrArg wellKnown (List.mem_singleton.mp last))
          rw [Function.update_of_ne same]
          exact standing other before
      · have away : wellKnown other ≠ wellKnown role := by
          intro same
          exact apart (wellKnown_injective same ▸ member)
        rw [stages, Function.update_of_ne away]
        exact absent other (List.mem_cons_of_mem _ member)
    · simp only [result, first]
      refine begun_error ((failed first).stopBuilt ?_ ?_) failure
      · rintro handle member
        obtain ⟨other, -, rfl⟩ := List.mem_map.mp member
        exact naming.place_wellKnown other
      · rintro handle member
        obtain ⟨other, before, rfl⟩ := List.mem_map.mp member
        have apart : wellKnown other ≠ left.partitions.next (.wellKnown role) := by
          intro same
          exact standing other before (same ▸ stage?_next _)
        exact Function.update_of_ne apart ..

theorem unbuilt {factory : φ} {other : φ'} (linked : bond.link factory other) (sampler : Sampler)
    (enumerator : Enumerator) (outside : γ) (outer : δ) :
    Mirror bond .same .none (fun _ => False) level
      (Directory.unbuilt factory sampler enumerator outside)
      (Directory.unbuilt other sampler enumerator outer) := by
  refine ⟨linked, fun handle => ?_, fun never => never.elim, fun {handle} _ => ?_, fun _ _ => rfl,
    Clients.rename_empty.symm, ⟨rfl, rfl, rfl, rfl, rfl⟩, rfl, rfl, fun _ => Or.inl rfl, [], rfl,
    rfl⟩
  · rw [partition?_unbuilt, partition?_unbuilt]
    exact .none
  · exact partition?_unbuilt ..

end Mirror

theorem begun_start {factory : φ} {other : φ'} (linked : bond.link factory other)
    (tuned : Tuned bond change again) (sampler : Sampler) (enumerator : Enumerator) (outside : γ)
    (outer : δ) (settings : Settings) :
    Begun bond .same .none (fun _ => False)
      (start (unbuilt factory sampler enumerator outside) (.tuning change) settings)
      (start (unbuilt other sampler enumerator outer) (.tuning again) settings) := by
  have mirror := Mirror.unbuilt (σ := σ) linked sampler enumerator outside outer
  have absent (handle : Handle) : (unbuilt (σ := σ) factory sampler enumerator outside).stage?
      handle = none := by rw [stage?, partition?_unbuilt, Option.map_none]
  generalize unbuilt factory sampler enumerator outside = left at *
  generalize unbuilt other sampler enumerator outer = right at *
  unfold start
  cases settings.excess? with
  | some count =>
    have nothing := Option.map_eq_none_iff.mp (absent (wellKnown .main))
    exact begun_error (mirror.ahead_of_absent nothing _) _
  | none =>
    have standing : ∀ role ∈ ([] : List WellKnown), left.stage? (wellKnown role) ≠ none := by simp
    have distinct : WellKnown.all.Nodup := by decide
    obtain ⟨result, started, failed⟩ :=
      mirror.startAll tuned standing distinct fun role _ => absent (wellKnown role)
    simp only [List.map_nil] at result started failed
    simp only [result]
    cases first : (startAll (.tuning change) [] WellKnown.all left).1 with
    | error failure =>
      obtain ⟨handle, broken⟩ := failed first
      exact begun_error broken failure
    | ok _ =>
      refine begun_ok ?_
      obtain ⟨-, -, sampler, enumerator, live⟩ := (started first).settings
      have settled : Mirror bond .same .none (fun _ => False) level
          { (startAll (.tuning change) [] WellKnown.all left).2 with
            policy := ⟨settings.isolation⟩, seedPeers := settings.seedPeers.toNat }
          { (startAll (.tuning again) [] WellKnown.all right).2 with
            policy := ⟨settings.isolation⟩, seedPeers := settings.seedPeers.toNat } :=
        { started first with settings := ⟨rfl, rfl, sampler, enumerator, live⟩ }
      exact settled.note _

end PeerDirectory.Directory

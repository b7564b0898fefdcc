import PeerDirectory.Proofs.Mirror.Run
import PeerDirectory.Proofs.Run.Anchored

namespace PeerDirectory

/-- The names of partitions in a directory where so many were built for a client already. -/
def Naming.after (client : Hash) (count : Nat) : Naming where
  place handle :=
    if handle.id = .client client then ⟨handle.id, handle.generation + count⟩ else handle
  back handle :=
    if handle.id = .client client then ⟨handle.id, handle.generation - count⟩ else handle
  back_place handle := by
    by_cases named : handle.id = .client client <;> simp [named]
    rw [← named]
  id_place handle := by
    split <;> rfl
  place_wellKnown role := by simp [Directory.wellKnown]

namespace Naming

variable {client : Hash} {count : Nat} {handle : Handle}

theorem after_of_ne (away : handle.id ≠ .client client) :
    (after client count).place handle = handle := by
  simp [after, away]

theorem after_client (generation : Nat) :
    (after client count).place ⟨.client client, generation⟩ =
      ⟨.client client, generation + count⟩ := by
  simp [after]

theorem after_ne_iff :
    (∀ other, (after client count).place other ≠ handle) ↔
      handle.id = .client client ∧ handle.generation < count := by
  obtain ⟨id, generation⟩ := handle
  by_cases named : id = .client client
  · subst named
    simp only [true_and]
    constructor
    · intro missed
      by_contra after
      apply missed ⟨.client client, generation - count⟩
      rw [after_client, Nat.sub_add_cancel (Nat.le_of_not_lt after)]
    · intro before other placed
      have same := (Naming.after client count).id_place other
      rw [placed] at same
      obtain ⟨id, number⟩ := other
      obtain rfl : PartitionId.client client = id := same
      rw [after_client] at placed
      have number := congrArg Handle.generation placed
      simp only at number
      omega
  · simp only [named, false_and, iff_false, not_forall, not_not]
    exact ⟨⟨id, generation⟩, after_of_ne named⟩

end Naming

namespace Directory

open Std

section Forgetting

variable {φ σ γ : Type}

def forget (directory : Directory φ σ γ) (client : Hash) : Directory φ σ γ :=
  { directory with partitions := ⟨directory.partitions.built.erase (.client client)⟩ }

variable {directory : Directory φ σ γ} {client : Hash}

theorem all_forget (id : PartitionId) :
    (directory.forget client).partitions.all id =
      if id = .client client then [] else directory.partitions.all id := by
  unfold forget Registry.all
  rw [ExtTreeMap.getD_erase]
  by_cases same : id = .client client
  · simp [same]
  · simp [same, Ne.symm same]

theorem partition?_forget (handle : Handle) :
    (directory.forget client).partition? handle =
      if handle.id = .client client then none else directory.partition? handle := by
  unfold partition? Registry.get?
  rw [all_forget]
  split <;> rfl

theorem stage?_forget (handle : Handle) :
    (directory.forget client).stage? handle =
      if handle.id = .client client then none else directory.stage? handle := by
  unfold stage?
  rw [partition?_forget]
  split <;> rfl

theorem Orderly.forget (orderly : Orderly [] directory.shape)
    (untracked : directory.tracked? client = none) :
    Orderly [] (directory.forget client).shape := by
  have before {handle : Handle} {stage : Option (Lifecycle × Bool)} (stands : stage ≠ none)
      (here : (directory.forget client).shape.stages handle = stage) :
      directory.shape.stages handle = stage := by
    rw [shape_stages, stage?_forget] at here
    split at here
    · exact absurd here.symm stands
    · exact here
  refine ⟨orderly.distinct, fun locked => orderly.locked (before (by simp) locked),
    fun starting => (nomatch starting), fun starting => (nomatch starting), ?_,
    fun ready => orderly.ready (before (by simp) ready), orderly.closed⟩
  intro other handle tracked
  have apart : other ≠ client := by
    rintro rfl
    cases untracked.symm.trans tracked
  have named : handle.id = .client other := Clients.id_of_find? tracked
  have away : handle.id ≠ .client client := by
    rw [named]
    exact fun same => apart (PartitionId.client.inj same)
  refine (orderly.tracked tracked).imp_left fun ready => ?_
  rw [shape_stages, stage?_forget, if_neg away]
  exact ready

end Forgetting

variable {φ σ τ υ : Type} [PartitionStore σ] [StoreFactory φ σ] [Backdoor φ σ τ υ]
  {run : Run φ σ τ υ} {client : Hash}

def past (run : Run φ σ τ υ) (client : Hash) : Nat :=
  (run.partitions.next (.client client)).generation

/-- What a run begins with when its directory has forgotten the client. Each of the client's partitions
is seeded with the peers that are chosen for the one in its place. -/
def forgetful (run : Run φ σ τ υ) (client : Hash) : Run φ σ τ υ :=
  ((run.forget client).choosing (Naming.after client (run.past client)).place).anew

def asItWas (run : Run φ σ τ υ) : Spare σ := ⟨run.partition?, (run.log, run.log), False⟩

theorem inStep_forget (reached : Reached [] run) (untracked : run.tracked? client = none) :
    InStep (.equality φ σ) (.after client (run.past client)) run.asItWas
      (run.forgetful client) run.anew := by
  have placed (handle : Handle) :
      run.partition? ((Naming.after client (run.past client)).place handle) =
        (run.forget client).partition? handle := by
    rw [partition?_forget]
    split
    · rename_i named
      obtain ⟨id, generation⟩ := handle
      obtain rfl : id = .client client := named
      rw [Naming.after_client]
      exact List.getElem?_eq_none (Nat.le_add_left ..)
    · rename_i away
      rw [Naming.after_of_ne away]
  refine ⟨⟨rfl, fun handle => ?_, fun {handle} known => ?_, fun _ => rfl, fun id more => ?_, ?_,
    ⟨rfl, rfl, rfl, rfl, rfl⟩, rfl, rfl, fun _ => Or.inl rfl, [], rfl, rfl⟩, rfl, .nil⟩
  · change Option.Rel _ ((run.forget client).partition? handle) (run.partition? _)
    rw [placed]
    cases (run.forget client).partition? handle with
    | none => exact .none
    | some partition => exact .some ⟨rfl, rfl, rfl⟩
  · obtain ⟨role, rfl⟩ : ∃ role, handle = wellKnown role :=
      known.resolve_right (by simp [forgetful, anew, Journal.blank, Journal.transcript])
    obtain ⟨partition, here, -⟩ := Option.map_eq_some_iff.mp (reached.anchored.stage role)
    have still : (run.forget client).partition? (wellKnown role) = some partition :=
      (partition?_forget _).trans here
    exact ⟨partition, partition, still, (placed _).trans still, rfl⟩
  · change (Naming.after client (run.past client)).place
        ⟨id, ((run.forget client).partitions.next id).generation + more⟩ =
      ⟨id, (run.partitions.next id).generation + more⟩
    unfold Registry.next
    rw [all_forget]
    by_cases named : id = .client client
    · subst named
      rw [if_pos rfl, Naming.after_client]
      simp only [past, Registry.next, List.length_nil, Handle.mk.injEq, true_and]
      omega
    · rw [if_neg named, Naming.after_of_ne named]
  · refine (Clients.rename_of_fixed fun {other handle} tracked => ?_).symm
    have apart : handle.id ≠ .client client := by
      intro own
      obtain rfl : other = client :=
        PartitionId.client.inj ((run.clients.own tracked).symm.trans own)
      cases untracked.symm.trans tracked
    exact Naming.after_of_ne apart

/-- The same thing happened at two points of runs, of which the first one began in a directory where
nothing had ever been built for a client. The client's partitions from before are as they were then,
and nobody is told of them. -/
structure Renewed (client : Hash) (count : Nat) (before : Handle → Option (Partition σ))
    (one other : Point φ σ τ υ) : Prop where
  told : other.event.told = one.event.told.rename (Naming.after client count).place
  moments : other.moments = one.moments
  partitions : ∀ handle,
    other.state.partition? ((Naming.after client count).place handle) = one.state.partition? handle
  past : ∀ generation, generation < count →
    other.state.partition? ⟨.client client, generation⟩ = before ⟨.client client, generation⟩
  unnamed : ∀ {call given response}, other.event = .ends call given response →
    ∀ generation, generation < count → ⟨.client client, generation⟩ ∉ response.partitions

theorem renewed_of_matches {count : Nat} {spare : Spare σ} {one other : Point φ σ τ υ}
    (matching : Matches (.equality φ σ) (.after client count) spare one other) :
    Renewed client count spare.partition? one other := by
  have away (generation : Nat) (earlier : generation < count) :
      ∀ other, (Naming.after client count).place other ≠ ⟨.client client, generation⟩ :=
    Naming.after_ne_iff.mpr ⟨rfl, earlier⟩
  exact ⟨matching.told, matching.moments, matching.partition?,
    fun generation earlier => matching.mirror.unmatched (away generation earlier),
    fun ended generation earlier => matching.unnamed (away generation earlier) ended⟩

theorem renewed_makeAll (reached : Reached [] run) (untracked : run.tracked? client = none)
    {manner : Manner τ υ} {turns depth : Nat} {calls : List (Call τ υ)}
    (unstuck : ((run.forgetful client).makeAll (others manner.habit turns depth) calls).stuck =
      false) :
    List.Forall₂ (Renewed client (run.past client) run.partition?)
      ((run.forgetful client).makeAll (others manner.habit turns depth) calls).outside.points
      (run.anew.makeAll
        (others (manner.rename (.after client (run.past client))).habit turns depth)
        (calls.map (·.rename (Naming.after client (run.past client)).place))).outside.points := by
  have orderly : Orderly [] (run.forgetful client).shape :=
    (reached.orderly.forget untracked).congr rfl rfl rfl
  have attuned : Attuned (.equality φ σ) (.after client (run.past client)) run.asItWas
      manner.habit _ := manner.attuned
  have ended := (attuned.echo turns depth).makeAll (inStep_forget reached untracked) orderly
    (fun _ starting => nomatch starting) unstuck (Or.inl trivial)
  exact ended.points.imp fun _ _ => renewed_of_matches

end Directory

end PeerDirectory

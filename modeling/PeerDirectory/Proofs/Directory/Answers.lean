import PeerDirectory.Proofs.Directory.Naming
import PeerDirectory.Proofs.Directory.Shape
import Mathlib.Data.List.Find

/-!
What an answer depends on: how far partitions are, who is tracked, and what the stores say that the
question is put to. Directories that agree on these answer alike, although their partitions may have
other names, and their stores may be of other kinds.
-/

namespace PeerDirectory

structure Reading where
  lookup : Hash → Option Entry
  floodfillPeers : List Hash
  routers : List Router
  leaseSets : List LeaseSet
  isInitialized : Bool
  claims : Hash → Bool
  blinding? : SigningKey → Option Blinding
  blindings : List Blinding

def reading {σ : Type} [PartitionStore σ] (store : σ) : Reading where
  lookup := PartitionStore.lookup store
  floodfillPeers := PartitionStore.floodfillPeers store
  routers := PartitionStore.routers store
  leaseSets := PartitionStore.leaseSets store
  isInitialized := PartitionStore.isInitialized store
  claims := PartitionStore.claims store
  blinding? := PartitionStore.blinding? store
  blindings := PartitionStore.blindings store

namespace Directory

/-! ## What questions are about -/

def Question.addressee : Question → Option PartitionId
  | .serving role => some (.wellKnown role)
  | .existing id => some id
  | .lookupLeaseIn _ id => some (id.getD (.wellKnown .main))
  | .blinding _ => some (.wellKnown .main)
  | .lifecycle handle | .lookup handle _ | .claims handle _ | .blindingIn handle _
  | .routers handle | .leaseSets handle | .floodfillPeers handle | .blindings handle
  | .storeInitialized handle => some handle.id
  | .current | .isolated | .isInitialized | .trackedClients | .stats | .clientIds
  | .clientIdsFor _ | .ownerOf _ | .allRouters | .routersKnownToClients
  | .leasesKnownToClients | .allFloodfillPeers | .allBlindings => none

def Question.concerns (question : Question) (id : PartitionId) : Prop :=
  ∀ named, question.addressee = some named → id = named

def Question.reaches : Question → Option Handle
  | .lookup handle _ | .claims handle _ | .blindingIn handle _ | .routers handle
  | .leaseSets handle | .floodfillPeers handle | .blindings handle | .storeInitialized handle =>
    some handle
  | _ => none

def Question.choosy : Question → Bool
  | .ownerOf _ | .clientIdsFor _ => true
  | _ => false

theorem Question.addressee_of_choosy {question : Question} (choosy : question.choosy = true) :
    question.addressee = none := by
  cases question with
  | ownerOf | clientIdsFor => rfl
  | _ => cases choosy

/-- The partitions whose stores a question is put to. -/
def consulted {φ σ γ : Type} (directory : Directory φ σ γ) : Question → List Handle
  | .serving _ | .existing _ | .current | .isolated | .trackedClients | .clientIds
  | .lifecycle _ => []
  | .isInitialized | .allRouters | .allFloodfillPeers | .allBlindings => directory.current
  | .routersKnownToClients | .leasesKnownToClients | .clientIdsFor _ => directory.clientView
  | .ownerOf _ => directory.ownerCandidates
  | .stats => [wellKnown .main, wellKnown .multihome, wellKnown .exploratory]
  | .lookupLeaseIn _ (some id) => (directory.existing? id).toList
  | .lookupLeaseIn _ none | .blinding _ => [wellKnown .main]
  | .lookup handle _ | .claims handle _ | .blindingIn handle _ | .routers handle
  | .leaseSets handle | .floodfillPeers handle | .blindings handle | .storeInitialized handle =>
    [handle]

variable {φ σ φ' σ' γ δ : Type} {naming : Naming} {known : PartitionId → Prop}
  {left : Directory φ σ γ} {right : Directory φ' σ' δ} {handle : Handle} {client : Hash}

theorem consulted_of_reaches {question : Question} (reaches : question.reaches = some handle) :
    left.consulted question = [handle] := by
  cases question <;> cases reaches <;> rfl

theorem reaches_or_named {question : Question} (asked : handle ∈ left.consulted question) :
    question.reaches = some handle ∨
      (∃ role, handle = wellKnown role) ∨ left.isReady handle = true := by
  cases question with
  | isInitialized | allRouters | allFloodfillPeers | allBlindings =>
    exact Or.inr (mem_current_cases asked)
  | routersKnownToClients | leasesKnownToClients | clientIdsFor =>
    exact Or.inr (mem_clientView_cases asked)
  | ownerOf key => exact Or.inr (Or.inr (isReady_of_ownerCandidates asked))
  | stats =>
    simp only [consulted, List.mem_cons, List.not_mem_nil, or_false] at asked
    rcases asked with rfl | rfl | rfl <;> exact Or.inr (Or.inl ⟨_, rfl⟩)
  | lookupLeaseIn key id =>
    cases id with
    | none => exact Or.inr (Or.inl ⟨.main, List.mem_singleton.mp asked⟩)
    | some id => exact Or.inr (existing?_cases (Option.mem_toList.mp asked))
  | blinding key => exact Or.inr (Or.inl ⟨.main, List.mem_singleton.mp asked⟩)
  | lookup | claims | blindingIn | routers | leaseSets | floodfillPeers | blindings
  | storeInitialized =>
    obtain rfl := List.mem_singleton.mp asked
    exact Or.inl rfl
  | serving | existing | current | isolated | trackedClients | clientIds | lifecycle => cases asked

/-! ## What the stores say -/

def SameReading [PartitionStore σ] [PartitionStore σ'] (naming : Naming) (left : Directory φ σ γ)
    (right : Directory φ' σ' δ) (handle : Handle) : Prop :=
  (right.store? (naming.place handle)).map reading = (left.store? handle).map reading

namespace SameReading

variable [PartitionStore σ] [PartitionStore σ'] (same : SameReading naming left right handle)
include same

theorem ask {α : Type} (absent : α) (question : Reading → α) :
    right.ask (naming.place handle) absent (fun store => question (reading store)) =
      left.ask handle absent fun store => question (reading store) := by
  unfold SameReading at same
  unfold Directory.ask
  generalize left.store? handle = one at *
  generalize right.store? (naming.place handle) = other at *
  cases one with
  | none =>
    obtain rfl : other = none := Option.map_eq_none_iff.mp same
    rfl
  | some one =>
    obtain ⟨other, rfl, read⟩ := Option.map_eq_some_iff.mp (same.trans (Option.map_some ..))
    exact congrArg question read

theorem lookup (key : Hash) : right.lookup (naming.place handle) key = left.lookup handle key :=
  same.ask none fun reading => reading.lookup key

theorem lookupLease (key : Hash) :
    right.lookupLease (naming.place handle) key = left.lookupLease handle key := by
  rw [Directory.lookupLease, same.lookup]
  rfl

theorem lookupRouter (key : Hash) :
    right.lookupRouter (naming.place handle) key = left.lookupRouter handle key := by
  rw [Directory.lookupRouter, same.lookup]
  rfl

theorem floodfillPeers :
    right.floodfillPeers (naming.place handle) = left.floodfillPeers handle :=
  same.ask [] Reading.floodfillPeers

theorem routers : right.routers (naming.place handle) = left.routers handle :=
  same.ask [] Reading.routers

theorem leaseSets : right.leaseSets (naming.place handle) = left.leaseSets handle :=
  same.ask [] Reading.leaseSets

theorem storeInitialized :
    right.storeInitialized (naming.place handle) = left.storeInitialized handle :=
  same.ask false Reading.isInitialized

theorem claims (key : Hash) : right.claims (naming.place handle) key = left.claims handle key :=
  same.ask false fun reading => reading.claims key

theorem blindingIn (key : SigningKey) :
    right.blindingIn (naming.place handle) key = left.blindingIn handle key :=
  same.ask none fun reading => reading.blinding? key

theorem blindings : right.blindings (naming.place handle) = left.blindings handle :=
  same.ask [] Reading.blindings

theorem partitionStats :
    right.partitionStats (naming.place handle) = left.partitionStats handle := by
  simp only [Directory.partitionStats, naming.id_place, same.routers, same.leaseSets,
    same.floodfillPeers, same.storeInitialized]

end SameReading

theorem SameReading.wellKnown [PartitionStore σ] [PartitionStore σ'] {role : WellKnown}
    (same : SameReading naming left right (wellKnown role)) :
    SameReading .same left right (Directory.wellKnown role) := by
  rwa [SameReading, naming.place_wellKnown] at same

/-! ## Who is tracked, and how far partitions are -/

/-- Directories that have come equally far with the partitions of some ids, and track the same
partition of each client among these. -/
structure SameProgress (naming : Naming) (known : PartitionId → Prop) (left : Directory φ σ γ)
    (right : Directory φ' σ' δ) : Prop where
  isolated : right.isolated = left.isolated
  tracked? : ∀ {client}, known (.client client) →
    right.tracked? client = (left.tracked? client).map naming.place
  stages : ∀ {handle}, known handle.id → right.stage? (naming.place handle) = left.stage? handle

namespace SameProgress

section Near

variable (progress : SameProgress naming known left right)
include progress

theorem isReady (near : known handle.id) :
    right.isReady (naming.place handle) = left.isReady handle := by
  rw [isReady_eq_any_stage?, isReady_eq_any_stage?, progress.stages near]

theorem serving (role : WellKnown) : right.serving role = naming.place (left.serving role) := by
  cases role with
  | main => exact (naming.place_wellKnown .main).symm
  | exploratory => exact (naming.place_wellKnown .exploratory).symm
  | multihome =>
    simp only [Directory.serving, progress.isolated]
    split <;> exact (naming.place_wellKnown _).symm

theorem existing? {id : PartitionId} (near : known id) :
    right.existing? id = (left.existing? id).map naming.place := by
  cases id with
  | wellKnown role => exact congrArg some (progress.serving role)
  | client client =>
    simp only [Directory.existing?, progress.isolated, progress.tracked? near]
    split
    · cases tracked : left.tracked? client with
      | none => rfl
      | some handle =>
        have ready := progress.isReady (id_of_tracked? tracked ▸ near)
        simp only [Option.map_some, Option.filter, ready]
        split <;> rfl
    · exact congrArg some (naming.place_wellKnown .main).symm

end Near

section Everywhere

variable (progress : SameProgress naming known left right) (all : ∀ id, known id)
include progress all

theorem clients : right.clients = left.clients.rename naming :=
  Clients.ext_find? fun client =>
    (progress.tracked? (all (.client client))).trans Clients.find?_rename.symm

theorem readyClients : right.readyClients = left.readyClients.map naming.place := by
  have ready : ∀ handle, right.isReady (naming.place handle) = left.isReady handle :=
    fun handle => progress.isReady (all handle.id)
  simp only [Directory.readyClients, progress.clients all, Clients.handles_rename, List.filter_map,
    Function.comp_def, ready]

theorem current : right.current = left.current.map naming.place := by
  simp only [Directory.current, progress.isolated, progress.readyClients all]
  split <;> simp [naming.place_wellKnown]

theorem clientView : right.clientView = left.clientView.map naming.place := by
  simp only [Directory.clientView, progress.isolated, progress.readyClients all]
  split <;> simp [naming.place_wellKnown]

theorem flatMap_current {α : Type} {one other : Handle → List α}
    (same : ∀ handle ∈ left.current, other (naming.place handle) = one handle) :
    right.current.flatMap other = left.current.flatMap one := by
  rw [progress.current all, List.flatMap_map]
  exact List.flatMap_congr same

theorem flatMap_clientView {α : Type} {one other : Handle → List α}
    (same : ∀ handle ∈ left.clientView, other (naming.place handle) = one handle) :
    right.clientView.flatMap other = left.clientView.flatMap one := by
  rw [progress.clientView all, List.flatMap_map]
  exact List.flatMap_congr same

theorem clientIds : right.clientIds = left.clientIds := by
  simp only [Directory.clientIds, progress.isolated, progress.readyClients all, List.map_map,
    Function.comp_def, naming.id_place]

theorem trackedClients : right.trackedClients = left.trackedClients := by
  rw [Directory.trackedClients, progress.clients all, Clients.size_rename, Directory.trackedClients]

variable (owners : ∀ handle, right.mayOwn (naming.place handle) = left.mayOwn handle)
include owners

theorem ownerCandidates : right.ownerCandidates = left.ownerCandidates.map naming.place := by
  simp only [Directory.ownerCandidates, progress.isolated, progress.readyClients all,
    List.filter_map, Function.comp_def, owners]
  split <;> rfl

variable [PartitionStore σ] [PartitionStore σ']

theorem findOwner (read : ∀ handle ∈ left.ownerCandidates, SameReading naming left right handle)
    (key : Hash) : right.findOwner key = (left.findOwner key).map naming.place := by
  rw [Directory.findOwner, Directory.findOwner, progress.ownerCandidates all owners,
    List.find?_map]
  congr 1
  exact List.find?_congr fun handle listed => (read handle listed).claims key

theorem clientIdsFor (read : ∀ handle ∈ left.clientView, SameReading naming left right handle)
    (key : SigningKey) : right.clientIdsFor key = left.clientIdsFor key := by
  simp only [Directory.clientIdsFor, progress.isolated, progress.clientView all, List.filter_map,
    Function.comp_def, owners]
  have same (view : List Handle) (listed : ∀ handle ∈ view, handle ∈ left.clientView) :
      (((view.map naming.place).filter fun handle => (right.blindingIn handle key).isSome).map
        (·.id)) =
      (view.filter fun handle => (left.blindingIn handle key).isSome).map (·.id) := by
    rw [List.filter_map, List.map_map]
    simp only [Function.comp_def, naming.id_place]
    congr 1
    exact List.filter_congr fun handle member => by
      rw [(read handle (listed handle member)).blindingIn]
  split
  · exact same _ fun handle member => (List.mem_filter.mp member).1
  · exact same _ fun handle member => member

end Everywhere

variable [PartitionStore σ] [PartitionStore σ']

/-- Directories equally far give an answer alike when the stores that are asked say the same. -/
theorem answer (progress : SameProgress naming known left right) {question : Question}
    (near : ∀ id, question.concerns id → known id)
    (read : ∀ handle ∈ left.consulted question, SameReading naming left right handle)
    (owners : question.choosy = true →
      ∀ handle, right.mayOwn (naming.place handle) = left.mayOwn handle) :
    right.answer (question.rename naming.place) = (left.answer question).rename naming.place := by
  have all (broad : question.addressee = none) (id : PartitionId) : known id :=
    near id fun named addressed => by cases broad.symm.trans addressed
  have one {id : PartitionId} (addressed : question.addressee = some id) : known id :=
    near id fun named again => Option.some.inj (addressed.symm.trans again)
  cases question with
  | serving role =>
    exact congrArg (fun handle => Response.handle (some handle)) (progress.serving role)
  | existing id => exact congrArg Response.handle (progress.existing? (one rfl))
  | current => exact congrArg Response.handles (progress.current (all rfl))
  | isolated => exact congrArg Response.flag progress.isolated
  | isInitialized =>
    refine congrArg Response.flag ?_
    rw [isInitialized, isInitialized, progress.current (all rfl), List.all_map]
    rw [Bool.eq_iff_iff, List.all_eq_true, List.all_eq_true]
    refine forall₂_congr fun handle listed => ?_
    rw [Function.comp_apply, (read handle listed).storeInitialized]
  | trackedClients => exact congrArg Response.number (progress.trackedClients (all rfl))
  | stats =>
    have same {role : WellKnown} (listed : wellKnown role ∈ left.consulted .stats) :
        right.partitionStats (wellKnown role) = left.partitionStats (wellKnown role) :=
      (read _ listed).wellKnown.partitionStats
    simp only [consulted, List.mem_cons, List.not_mem_nil, or_false] at same
    refine congrArg Response.stats ?_
    simp only [stats, progress.isolated, progress.clientIds (all rfl), same, true_or, or_true]
  | clientIds => exact congrArg Response.ids (progress.clientIds (all rfl))
  | clientIdsFor key =>
    exact congrArg Response.ids (progress.clientIdsFor (all rfl) (owners rfl) read key)
  | ownerOf key =>
    have same : right.ownerOf key = left.ownerOf key := by
      simp only [ownerOf, progress.findOwner (all rfl) (owners rfl) read, Option.map_map,
        Function.comp_def, naming.id_place]
    exact congrArg Response.id same
  | lookupLeaseIn key id =>
    refine congrArg Response.lease ?_
    cases id with
    | none => exact (read (wellKnown .main) List.mem_cons_self).wellKnown.lookupLease key
    | some id =>
      have same : right.existing? id = (left.existing? id).map naming.place :=
        progress.existing? (one rfl)
      simp only [lookupLeaseIn, same]
      cases existing : left.existing? id with
      | none => rfl
      | some handle => exact (read handle (Option.mem_toList.mpr existing)).lookupLease key
  | blinding key =>
    exact congrArg Response.blinding
      ((read (wellKnown .main) List.mem_cons_self).wellKnown.blindingIn key)
  | allRouters =>
    refine congrArg (Response.routers ∘ distinct) ?_
    exact progress.flatMap_current (all rfl) fun handle listed => (read handle listed).routers
  | routersKnownToClients =>
    refine congrArg (Response.routers ∘ distinct) ?_
    exact progress.flatMap_clientView (all rfl) fun handle listed => (read handle listed).routers
  | leasesKnownToClients =>
    refine congrArg (Response.leaseSets ∘ distinct) ?_
    exact progress.flatMap_clientView (all rfl) fun handle listed => (read handle listed).leaseSets
  | allFloodfillPeers =>
    refine congrArg (Response.hashes ∘ distinct) ?_
    exact progress.flatMap_current (all rfl) fun handle listed => (read handle listed).floodfillPeers
  | allBlindings =>
    refine congrArg (Response.blindings ∘ distinct) ?_
    exact progress.flatMap_current (all rfl) fun handle listed => (read handle listed).blindings
  | lifecycle handle =>
    have stages : right.stage? (naming.place handle) = left.stage? handle :=
      progress.stages (one rfl)
    have same := congrArg (Option.map Prod.fst) stages
    simp only [Directory.stage?, Option.map_map, Function.comp_def] at same
    exact congrArg Response.stage same
  | lookup handle key =>
    exact congrArg Response.entry ((read handle List.mem_cons_self).lookup key)
  | claims handle key =>
    exact congrArg Response.flag ((read handle List.mem_cons_self).claims key)
  | blindingIn handle key =>
    exact congrArg Response.blinding ((read handle List.mem_cons_self).blindingIn key)
  | routers handle => exact congrArg Response.routers (read handle List.mem_cons_self).routers
  | leaseSets handle =>
    exact congrArg Response.leaseSets (read handle List.mem_cons_self).leaseSets
  | floodfillPeers handle =>
    exact congrArg Response.hashes (read handle List.mem_cons_self).floodfillPeers
  | blindings handle =>
    exact congrArg Response.blindings (read handle List.mem_cons_self).blindings
  | storeInitialized handle =>
    exact congrArg Response.flag (read handle List.mem_cons_self).storeInitialized

theorem findLease (progress : SameProgress naming known left right) (all : ∀ id, known id)
    (owners : ∀ handle, right.mayOwn (naming.place handle) = left.mayOwn handle)
    (read : ∀ handle, handle = wellKnown .main ∨ handle ∈ left.ownerCandidates →
      SameReading naming left right handle) (key : Hash) :
    (right.findLease key).1 = (left.findLease key).1 ∧
      right.leaseOutcome key = left.leaseOutcome key := by
  have main : right.lookupLease (wellKnown .main) key = left.lookupLease (wellKnown .main) key :=
    (read _ (Or.inl rfl)).wellKnown.lookupLease key
  simp only [Directory.findLease, leaseOutcome, main,
    progress.findOwner all owners (fun handle listed => read handle (Or.inr listed))]
  cases found : left.findOwner key with
  | some owner =>
    have listed := List.mem_of_find?_eq_some found
    exact ⟨(read owner (Or.inr listed)).lookupLease key, rfl⟩
  | none => exact ⟨rfl, rfl⟩

theorem same_answer (progress : SameProgress .same known left right) {question : Question}
    (near : ∀ id, question.concerns id → known id)
    (read : ∀ handle ∈ left.consulted question, SameReading .same left right handle)
    (owners : question.choosy = true → ∀ handle, right.mayOwn handle = left.mayOwn handle) :
    right.answer question = left.answer question := by
  have answered := progress.answer near read owners
  rwa [Question.rename_same, Response.rename_same] at answered

end SameProgress

end Directory

end PeerDirectory

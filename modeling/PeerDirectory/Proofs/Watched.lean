import PeerDirectory.Proofs.Mirror.Bond

namespace PeerDirectory

/-- What a directory does to a store, apart from asking it. -/
inductive Deed where
  | startup (succeeded : Bool)
  | shutdown
  | insert
deriving DecidableEq

namespace Deed

def driving (deeds : List Deed) : List Deed := deeds.filter (· ≠ .insert)

/-- A store is started at most once and, if that succeeds, shut down at most once after that. It is
given entries only after it was started. -/
structure Proper (deeds : List Deed) : Prop where
  driven : driving deeds ∈ [[], [.startup false], [.startup true], [.startup true, .shutdown]]
  given : .insert ∈ deeds → deeds.head? = some (.startup true)

def Settled (deeds : List Deed) : Prop :=
  .startup true ∈ deeds → .shutdown ∈ deeds

structure Fits (stage : Lifecycle) (deeds : List Deed) : Prop where
  proper : Proper deeds
  fresh : stage = .creating → deeds = []
  running : stage = .ready → driving deeds = [.startup true]
  ended : stage = .shutDown → Settled deeds

variable {deeds : List Deed} {stage : Lifecycle}

theorem driving_append (deeds : List Deed) (deed : Deed) :
    driving (deeds ++ [deed]) = driving deeds ++ driving [deed] :=
  List.filter_append ..

theorem mem_driving {deed : Deed} (drives : deed ≠ .insert) :
    deed ∈ driving deeds ↔ deed ∈ deeds := by
  simp [driving, drives]

theorem Proper.head (proper : Proper deeds) (started : .startup true ∈ deeds) :
    deeds.head? = some (.startup true) := by
  have driven := proper.driven
  cases deeds with
  | nil => cases started
  | cons first rest =>
    cases first with
    | insert => exact proper.given List.mem_cons_self
    | shutdown => simp [driving] at driven
    | startup succeeded =>
      cases succeeded with
      | true => rfl
      | false =>
        have only : ∀ deed ∈ rest, deed = .insert := by simpa [driving] using driven
        have later : .startup true ∈ rest := by simpa using started
        cases only _ later

theorem fits_nil (stage : Lifecycle) (idle : stage ≠ .ready) : Fits stage [] :=
  ⟨⟨by decide, nofun⟩, fun _ => rfl, fun ready => absurd ready idle, fun _ => nofun⟩

theorem fits_startup (result : Except Failure Unit) :
    Fits (.afterStartup result) [.startup result.isOk] := by
  have running : Fits .ready [.startup true] := ⟨⟨by decide, fun _ => rfl⟩, nofun, fun _ => rfl, nofun⟩
  have failed : Fits .shutDown [.startup false] :=
    ⟨⟨by decide, by decide⟩, nofun, nofun, fun _ => by simp [Settled]⟩
  cases result with
  | ok _ => exact running
  | error failure => exact failed

theorem Fits.shutdown (fits : Fits .ready deeds) : Fits .shutDown (deeds ++ [.shutdown]) := by
  have started : .startup true ∈ deeds := by
    rw [← mem_driving (by simp), fits.running rfl]
    exact List.mem_singleton_self _
  refine ⟨⟨?_, fun _ => ?_⟩, nofun, nofun, fun _ _ => by simp⟩
  · rw [driving_append, fits.running rfl]
    decide
  · simp [List.head?_append, fits.proper.head started]

theorem Fits.insert (fits : Fits stage deeds) (started : .startup true ∈ deeds) :
    Fits stage (deeds ++ [.insert]) := by
  have same : driving (deeds ++ [.insert]) = driving deeds := by
    simp [driving]
  refine ⟨⟨by rw [same]; exact fits.proper.driven, fun _ => ?_⟩, fun creating => ?_,
    fun ready => same.trans (fits.running ready), fun down _ => ?_⟩
  · simp [List.head?_append, fits.proper.head started]
  · simp [fits.fresh creating] at started
  · exact List.mem_append_left _ (fits.ended down started)

theorem Fits.settled (fits : Fits stage deeds) (idle : stage ≠ .ready) : Settled deeds := by
  cases stage with
  | creating => simp [Settled, fits.fresh rfl]
  | ready => exact absurd rfl idle
  | shutDown => exact fits.ended rfl

end Deed

structure Watched (σ : Type) where
  store : σ
  decoy : Reading
  deeds : List Deed

structure Watching (φ : Type) where
  factory : φ
  decoy : φ → PartitionId → Reading

variable {φ σ τ υ : Type} [PartitionStore σ] [StoreFactory φ σ] [Backdoor φ σ τ υ]

def Watching.tuned (change : Moment → φ → φ) (moment : Moment) (watching : Watching φ) :
    Watching φ :=
  { watching with factory := change moment watching.factory }

def Watched.reading (watched : Watched σ) : Reading :=
  if .startup true ∈ watched.deeds then PeerDirectory.reading watched.store else watched.decoy

instance : PartitionStore (Watched σ) where
  startup watched :=
    let started := PartitionStore.startup watched.store
    (started.1,
      { watched with store := started.2, deeds := watched.deeds ++ [.startup started.1.isOk] })
  shutdown watched :=
    { watched with
      store := PartitionStore.shutdown watched.store, deeds := watched.deeds ++ [.shutdown] }
  insert watched key entry :=
    let kept := PartitionStore.insert watched.store key entry
    (kept.1, { watched with store := kept.2, deeds := watched.deeds ++ [.insert] })
  lookup watched := watched.reading.lookup
  floodfillPeers watched := watched.reading.floodfillPeers
  routers watched := watched.reading.routers
  leaseSets watched := watched.reading.leaseSets
  isInitialized watched := watched.reading.isInitialized
  claims watched := watched.reading.claims
  blinding? watched := watched.reading.blinding?
  blindings watched := watched.reading.blindings

instance : StoreFactory (Watching φ) (Watched σ) where
  make watching id :=
    let made := StoreFactory.make watching.factory id
    (⟨made.1, watching.decoy watching.factory id, []⟩, { watching with factory := made.2 })

instance : Backdoor (Watching φ) (Watched σ) τ υ where
  tune tuning watching := { watching with factory := Backdoor.tune σ tuning watching.factory }
  touch change watched :=
    let touched := Backdoor.touch φ change watched.store
    (touched.1, { watched with store := touched.2 })

def Bond.watch (φ σ τ υ : Type) [PartitionStore σ] [StoreFactory φ σ] [Backdoor φ σ τ υ] :
    Bond φ σ (Watching φ) (Watched σ) τ υ where
  link factory watching := watching.factory = factory
  akin stage store watched := watched.store = store ∧ Deed.Fits stage watched.deeds
  alike store watched := watched.store = store ∧ .startup true ∈ watched.deeds
  candid := False
  read := by
    rintro _ watched ⟨rfl, started⟩
    exact if_pos started
  alike_of_ready := by
    rintro _ watched ⟨rfl, fits⟩
    refine ⟨rfl, (Deed.mem_driving (by simp)).mp ?_⟩
    rw [fits.running rfl]
    exact List.mem_singleton_self _
  alike_of_candid := False.elim
  make := by
    rintro _ watching id rfl
    exact ⟨⟨rfl, Deed.fits_nil _ (by decide)⟩, rfl⟩
  tune := by
    rintro _ watching tuning rfl
    rfl
  abandon := by
    rintro _ watched ⟨rfl, fits⟩
    refine ⟨rfl, ?_⟩
    rw [fits.fresh rfl]
    exact Deed.fits_nil _ (by decide)
  startup := by
    rintro _ watched ⟨rfl, fits⟩
    refine ⟨rfl, rfl, ?_⟩
    change Deed.Fits _ (watched.deeds ++ [.startup (PartitionStore.startup watched.store).1.isOk])
    rw [fits.fresh rfl]
    exact Deed.fits_startup _
  startup_alike := by
    rintro _ watched ⟨rfl, started⟩
    exact ⟨rfl, List.mem_append_left _ started⟩
  shutdown := by
    rintro _ watched ⟨rfl, fits⟩
    exact ⟨rfl, fits.shutdown⟩
  shutdown_alike := by
    rintro _ watched ⟨rfl, started⟩
    exact ⟨rfl, List.mem_append_left _ started⟩
  insert := by
    rintro stage _ watched key entry ⟨rfl, fits⟩ ⟨-, started⟩
    exact ⟨rfl, ⟨rfl, fits.insert started⟩, rfl, List.mem_append_left _ started⟩
  touch := by
    rintro stage _ watched change ⟨rfl, fits⟩
    exact ⟨rfl, ⟨rfl, fits⟩, fun alike => ⟨rfl, alike.2⟩⟩
  drive := False.elim

end PeerDirectory

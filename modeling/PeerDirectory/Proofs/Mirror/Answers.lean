import PeerDirectory.Proofs.Mirror.Bond

namespace PeerDirectory.Directory

variable {φ σ φ' σ' τ υ γ δ : Type} [PartitionStore σ] [PartitionStore σ'] [StoreFactory φ σ]
  [StoreFactory φ' σ'] [Backdoor φ σ τ υ] [Backdoor φ' σ' τ υ] {bond : Bond φ σ φ' σ' τ υ}
  {naming : Naming} {spare : Spare σ'} {given : Handle → Prop}
  {ahead : Handle → Option Lifecycle} {left : Directory φ σ γ} {right : Directory φ' σ' δ}
  {handle : Handle} {client : Hash}

def Agreeing (bond : Bond φ σ φ' σ' τ υ) (naming : Naming) (left : Directory φ σ γ)
    (right : Directory φ' σ' δ) (handle : Handle) : Prop :=
  ∀ one other, left.partition? handle = some one →
    right.partition? (naming.place handle) = some other → bond.alike one.store other.store

namespace Mirror

theorem agreeing_of_given (mirror : Mirror bond naming spare given ahead left right)
    (also : given handle) : Agreeing bond naming left right handle := by
  intro one other here there
  obtain ⟨first, second, still, again, alike⟩ := mirror.given also
  obtain rfl := Option.some.inj (here.symm.trans still)
  obtain rfl := Option.some.inj (there.symm.trans again)
  exact alike

theorem agreeing_of_akin (mirror : Mirror bond naming spare given ahead left right)
    (alike : ∀ {one other}, left.partition? handle = some one →
      bond.akin ((ahead handle).getD one.lifecycle) one.store other → bond.alike one.store other) :
    Agreeing bond naming left right handle := by
  intro one other here there
  rcases mirror.partition?_cases handle with ⟨absent, -⟩ | ⟨first, second, still, again, counterpart⟩
  · cases here.symm.trans absent
  · obtain rfl := Option.some.inj (here.symm.trans still)
    obtain rfl := Option.some.inj (there.symm.trans again)
    exact alike here counterpart.akin

theorem agreeing_of_candid (mirror : Mirror bond naming spare given ahead left right)
    (candid : bond.candid) (handle : Handle) : Agreeing bond naming left right handle :=
  mirror.agreeing_of_akin fun _ akin => bond.alike_of_candid candid akin

theorem agreeing_of_ahead (mirror : Mirror bond naming spare given ahead left right)
    (started : ahead handle = some .ready) : Agreeing bond naming left right handle := by
  refine mirror.agreeing_of_akin fun _ akin => ?_
  rw [started] at akin
  exact bond.alike_of_ready akin

theorem agreeing_of_ready (mirror : Mirror bond naming spare given level left right)
    (ready : left.isReady handle = true) : Agreeing bond naming left right handle := by
  refine mirror.agreeing_of_akin fun {one _} here akin => ?_
  have stage : one.lifecycle = .ready := by simpa [Directory.isReady, here] using ready
  rw [stage] at akin
  exact bond.alike_of_ready akin

theorem reading (mirror : Mirror bond naming spare given ahead left right)
    (agreeing : Agreeing bond naming left right handle) : SameReading naming left right handle := by
  rw [SameReading, store?, store?]
  rcases mirror.partition?_cases handle with ⟨here, there⟩ | ⟨one, other, here, there, -⟩
  · rw [here, there]
    rfl
  · rw [here, there]
    exact congrArg some (bond.read (agreeing _ _ here there))

theorem mayOwn (mirror : Mirror bond naming spare given ahead left right) (handle : Handle) :
    right.mayOwn (naming.place handle) = left.mayOwn handle := by
  obtain ⟨-, -, -, enumerator, live⟩ := mirror.settings
  simp only [Directory.mayOwn, enumerator, live, naming.id_place]

theorem agreeing_of_named (mirror : Mirror bond naming spare given level left right)
    (fixed : ∀ role, given (wellKnown role))
    (named : (∃ role, handle = wellKnown role) ∨ left.isReady handle = true) :
    Agreeing bond naming left right handle := by
  rcases named with ⟨role, rfl⟩ | ready
  · exact mirror.agreeing_of_given (fixed role)
  · exact mirror.agreeing_of_ready ready

theorem answer (mirror : Mirror bond naming spare given level left right)
    (fixed : ∀ role, given (wellKnown role)) {question : Question}
    (fair : bond.candid ∨ ∀ {handle}, question.reaches = some handle → given handle) :
    right.answer (question.rename naming.place) = (left.answer question).rename naming.place := by
  refine mirror.progress.answer (fun _ _ => trivial) (fun handle asked => ?_) fun _ => mirror.mayOwn
  apply mirror.reading
  rcases reaches_or_named asked with reaches | named
  · rcases fair with candid | known
    · exact mirror.agreeing_of_candid candid handle
    · exact mirror.agreeing_of_given (known reaches)
  · exact mirror.agreeing_of_named fixed named

end Mirror

end PeerDirectory.Directory

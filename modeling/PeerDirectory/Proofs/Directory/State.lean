import PeerDirectory.Proofs.Registry
import PeerDirectory.Proofs.Clients
import PeerDirectory.Proofs.Run.Call

namespace PeerDirectory

def Lifecycle.afterStartup : Except Failure Unit → Lifecycle
  | .ok _ => .ready
  | .error _ => .shutDown

def Enumerator.Admits (enumerator : Enumerator) (live : LiveClients) (client : Hash) : Prop :=
  match enumerator with
  | .unrestricted => True
  | .sessions => client ∈ live.clients
  | .chosen among => among client = true

namespace Directory

variable {φ σ γ : Type}

theorem id_of_tracked? {directory : Directory φ σ γ} {client : Hash} {handle : Handle}
    (tracked : directory.tracked? client = some handle) : handle.id = .client client :=
  directory.clients.own tracked

theorem tracked?_of_mem {directory : Directory φ σ γ} {handle : Handle}
    (entered : handle ∈ directory.clients.handles) :
    ∃ client, directory.tracked? client = some handle :=
  Clients.mem_handles.mp entered

theorem mayOwn_iff_admits {directory : Directory φ σ γ} {handle : Handle} {client : Hash}
    (named : handle.id = .client client) :
    directory.mayOwn handle = true ↔ directory.enumerator.Admits directory.live client := by
  unfold mayOwn Enumerator.Admits
  cases directory.enumerator with
  | unrestricted => simp
  | sessions => simp [named, PartitionId.destination?, LiveClients.isLive]
  | chosen live => simp [named, PartitionId.destination?]

theorem setStore_self {directory : Directory φ σ γ} {handle : Handle} {store : σ}
    (present : directory.store? handle = some store) :
    directory.setStore handle store = directory := by
  obtain ⟨partition, here, rfl⟩ := Option.map_eq_some_iff.mp present
  have same : (directory.partitions.modify handle fun found =>
      { found with store := partition.store }) = directory.partitions := by
    apply Registry.modify_of_fixed
    intro found stands
    obtain rfl := Option.some.inj (here.symm.trans stands)
    rfl
  unfold setStore modify
  rw [same]

section Named

variable {directory : Directory φ σ γ} {handle : Handle}

theorem serving_wellKnown (directory : Directory φ σ γ) (role : WellKnown) :
    ∃ other, directory.serving role = wellKnown other := by
  cases role with
  | main => exact ⟨.main, rfl⟩
  | exploratory => exact ⟨.exploratory, rfl⟩
  | multihome =>
    by_cases isolated : directory.isolated
    · exact ⟨.multihome, by simp [serving, isolated]⟩
    · exact ⟨.main, by simp [serving, isolated]⟩

theorem isReady_of_readyClients (listed : handle ∈ directory.readyClients) :
    directory.isReady handle = true :=
  (List.mem_filter.mp listed).2

theorem existing?_cases {id : PartitionId} (existing : directory.existing? id = some handle) :
    (∃ role, handle = wellKnown role) ∨ directory.isReady handle = true := by
  cases id with
  | wellKnown role =>
    obtain ⟨other, served⟩ := directory.serving_wellKnown role
    exact Or.inl ⟨other, (Option.some.inj existing).symm.trans served⟩
  | client client =>
    simp only [Directory.existing?] at existing
    split at existing
    · exact Or.inr (Option.filter_eq_some_iff.mp existing).2
    · exact Or.inl ⟨.main, (Option.some.inj existing).symm⟩

theorem mem_current_cases (listed : handle ∈ directory.current) :
    (∃ role, handle = wellKnown role) ∨ directory.isReady handle = true := by
  unfold current at listed
  split at listed
  · rcases List.mem_append.mp listed with fixed | ready
    · obtain ⟨role, -, rfl⟩ := List.mem_map.mp fixed
      exact Or.inl ⟨role, rfl⟩
    · exact Or.inr (isReady_of_readyClients ready)
  · exact Or.inl ⟨.main, List.mem_singleton.mp listed⟩

theorem mem_clientView_cases (listed : handle ∈ directory.clientView) :
    (∃ role, handle = wellKnown role) ∨ directory.isReady handle = true := by
  unfold clientView at listed
  split at listed
  · exact Or.inr (isReady_of_readyClients listed)
  · exact Or.inl ⟨.main, List.mem_singleton.mp listed⟩

theorem isReady_of_ownerCandidates (listed : handle ∈ directory.ownerCandidates) :
    directory.isReady handle = true := by
  unfold ownerCandidates at listed
  split at listed
  · exact isReady_of_readyClients (List.mem_filter.mp listed).1
  · cases listed

theorem named_answer [PartitionStore σ] {question : Question}
    (named : handle ∈ (directory.answer question).partitions) :
    (∃ role, handle = wellKnown role) ∨ directory.isReady handle = true := by
  cases question with
  | serving role =>
    obtain ⟨other, served⟩ := directory.serving_wellKnown role
    exact Or.inl ⟨other, (List.mem_singleton.mp named).trans served⟩
  | existing id =>
    simp only [answer] at named
    cases existing : directory.existing? id with
    | none =>
      rw [existing] at named
      cases named
    | some other =>
      rw [existing] at named
      rw [List.mem_singleton.mp named]
      exact existing?_cases existing
  | current => exact mem_current_cases named
  | _ => cases named

end Named

def operate {α : Type} (directory : Directory φ σ γ) (handle : Handle) (absent : α)
    (operation : σ → α × σ) : α × Directory φ σ γ :=
  match directory.store? handle with
  | none => (absent, directory)
  | some store => ((operation store).1, directory.setStore handle (operation store).2)

section Operate

variable [PartitionStore σ]

theorem insert_eq (directory : Directory φ σ γ) (handle : Handle) (key : Hash) (entry : Entry) :
    directory.insert handle key entry =
      directory.operate handle (.error .closed) (PartitionStore.insert · key entry) := rfl

theorem startStore_quiet_eq (directory : Directory φ σ γ) (handle : Handle) (turns : Nat) :
    directory.startStore (.quiet turns) handle =
      directory.operate handle (.error .closed) PartitionStore.startup := rfl

theorem stopStore_eq (directory : Directory φ σ γ) (handle : Handle) :
    directory.stopStore handle =
      (directory.operate handle () fun store => ((), PartitionStore.shutdown store)).2 := by
  unfold stopStore operate
  cases directory.store? handle <;> rfl

omit [PartitionStore σ] in
theorem touchStore_eq {τ υ : Type} [Backdoor φ σ τ υ] (directory : Directory φ σ γ)
    (handle : Handle) (change : υ) :
    directory.touchStore handle change =
      directory.operate handle (.error .closed) (Backdoor.touch φ change) := rfl

end Operate

section Leases

variable [PartitionStore σ]

def leaseOutcome (directory : Directory φ σ γ) (key : Hash) : OwnerOutcome :=
  match directory.findOwner key with
  | some _ => .client
  | none => if (directory.lookupLease (wellKnown .main) key).isSome then .main else .miss

theorem findLease_after (directory : Directory φ σ γ) (key : Hash) :
    (directory.findLease key).2 =
      directory.countOne (.ownerLookups (directory.leaseOutcome key)) := by
  unfold findLease leaseOutcome
  cases directory.findOwner key <;> rfl

end Leases

variable [PartitionStore σ] [StoreFactory φ σ]

def seek (directory : Directory φ σ γ) (surroundings : Surroundings φ σ γ) (client : Hash) :
    Handle × Directory φ σ γ :=
  match directory.tracked? client with
  | some handle => (handle, directory)
  | none => directory.register surroundings client

def attend (surroundings : Surroundings φ σ γ) (client : Hash) (looks : Nat)
    (found : Handle × Directory φ σ γ) : Except Failure Handle × Directory φ σ γ :=
  if found.2.isReady found.1 then (.ok found.1, found.2)
  else
    let started := found.2.startClient surroundings client found.1
    match started.1 with
    | .error failure => (.error failure, started.2)
    | .ok true => (.ok found.1, started.2)
    | .ok false =>
      clientWithin surroundings client looks (started.2.unregister surroundings client found.1)

theorem clientWithin_succ (surroundings : Surroundings φ σ γ) (client : Hash) (looks : Nat)
    (directory : Directory φ σ γ) :
    clientWithin surroundings client (looks + 1) directory =
      if directory.closed then (.error .closed, directory)
      else attend surroundings client looks (directory.seek surroundings client) :=
  rfl

/-- What becomes of a partition that cannot be brought up. -/
def giveUp (directory : Directory φ σ γ) (surroundings : Surroundings φ σ γ) (client : Hash)
    (handle : Handle) : Directory φ σ γ :=
  (directory.unregister surroundings client handle).setLifecycle handle .shutDown

/-- What becomes of a partition whose store has started. -/
def goLive (directory : Directory φ σ γ) (handle : Handle) : Directory φ σ γ :=
  (((directory.seed handle).setLifecycle handle .ready).countOne
    (.created handle.id.kind)).note (.created handle.id)

omit [StoreFactory φ σ] in
theorem bringUp_eq (directory : Directory φ σ γ) (surroundings : Surroundings φ σ γ)
    (client : Hash) (handle : Handle) :
    directory.bringUp surroundings client handle =
      if directory.closed then (.error .closed, directory.giveUp surroundings client handle)
      else
        let started := directory.startStore surroundings handle
        match started.1 with
        | .error failure =>
          (.error failure, (started.2.giveUp surroundings client handle).note
            (.failedToStart handle.id failure))
        | .ok () => (.ok true, started.2.goLive handle) :=
  rfl

section Identity

variable {directory : Directory φ σ γ} {surroundings : Surroundings φ σ γ} {client : Hash}

omit [PartitionStore σ] in
theorem register_id : (directory.register surroundings client).1.id = .client client := by
  simp only [register]
  split
  · rename_i tracked
    exact id_of_tracked? tracked
  · rfl

omit [PartitionStore σ] in
theorem seek_id : (directory.seek surroundings client).1.id = .client client := by
  unfold seek
  cases tracked : directory.tracked? client with
  | some handle => exact id_of_tracked? tracked
  | none => exact register_id

theorem id_of_clientWithin {looks : Nat} {handle : Handle}
    (found : (clientWithin surroundings client looks directory).1 = .ok handle) :
    handle.id = .client client := by
  induction looks generalizing directory with
  | zero => cases found
  | succ looks ih =>
    simp only [clientWithin_succ, attend] at found
    split at found
    · cases found
    · split at found
      · cases found
        exact seek_id
      · split at found
        · cases found
        · cases found
          exact seek_id
        · exact ih found

end Identity

end Directory

end PeerDirectory

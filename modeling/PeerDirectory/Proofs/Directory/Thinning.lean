import PeerDirectory.Proofs.Aside.Calls
import PeerDirectory.Proofs.Directory.Stopping
import PeerDirectory.Proofs.Run.Pursuit
import Mathlib.Data.List.Find

namespace PeerDirectory

def Handle.Spared (gone : List Hash) (handle : Handle) : Prop :=
  ∀ client ∈ gone, handle.id ≠ .client client

namespace Directory

variable {φ σ γ δ : Type}

theorem held_modify_retire [PartitionStore σ] (directory : Directory φ σ γ)
    (handle given : Handle) :
    (directory.modify handle (·.retire)).held given = directory.held given := by
  have kept (partition : Partition σ) : partition.retire.locked = partition.locked := by
    unfold Partition.retire
    split <;> rfl
  unfold held
  rw [partition?_modify]
  split
  · rename_i same
    rw [same, Option.any_map]
    simp only [kept]
  · rfl

def leftOut (directory : Directory φ σ γ) : List Hash :=
  (directory.clients.handles.filter fun handle => !directory.mayOwn handle).filterMap
    (·.id.destination?)

theorem mem_leftOut {directory : Directory φ σ γ} {client : Hash} :
    client ∈ directory.leftOut ↔ (∃ handle, directory.tracked? client = some handle) ∧
      ¬directory.enumerator.Admits directory.live client := by
  constructor
  · intro listed
    obtain ⟨handle, left, names⟩ := List.mem_filterMap.mp listed
    obtain ⟨entered, refused⟩ := List.mem_filter.mp left
    obtain ⟨owner, tracked⟩ := tracked?_of_mem entered
    have named := id_of_tracked? tracked
    obtain rfl : owner = client := by simpa [named, PartitionId.destination?] using names
    refine ⟨⟨handle, tracked⟩, ?_⟩
    rw [Bool.not_eq_true', ← Bool.not_eq_true, mayOwn_iff_admits named] at refused
    exact refused
  · rintro ⟨⟨handle, tracked⟩, refused⟩
    have named := id_of_tracked? tracked
    refine List.mem_filterMap.mpr ⟨handle, List.mem_filter.mpr ⟨?_, ?_⟩, ?_⟩
    · exact Clients.mem_handles.mpr ⟨client, tracked⟩
    · rw [Bool.not_eq_true', ← Bool.not_eq_true, mayOwn_iff_admits named]
      exact refused
    · rw [named, PartitionId.destination?]

def LeavesOut (directory : Directory φ σ γ) (gone : List Hash) : Prop :=
  ∀ {client handle}, directory.tracked? client = some handle →
    (client ∈ gone ↔ directory.mayOwn handle = false)

theorem leavesOut_of_admits {directory : Directory φ σ γ} {gone : List Hash}
    (listed : ∀ client, client ∈ gone ↔ (∃ handle, directory.tracked? client = some handle) ∧
      ¬directory.enumerator.Admits directory.live client) : directory.LeavesOut gone := by
  intro client handle tracked
  rw [listed, ← Bool.not_eq_true, mayOwn_iff_admits (id_of_tracked? tracked)]
  exact and_iff_right ⟨handle, tracked⟩

theorem LeavesOut.spared {directory : Directory φ σ γ} {gone : List Hash} {client : Hash}
    {handle : Handle} (left : directory.LeavesOut gone)
    (tracked : directory.tracked? client = some handle) (owns : directory.mayOwn handle = true) :
    handle.Spared gone := by
  intro other removed named
  obtain rfl : client = other :=
    PartitionId.client.inj ((id_of_tracked? tracked).symm.trans named)
  cases owns.symm.trans ((left tracked).mp removed)

structure Thinned (gone : List Hash) (before : Directory φ σ γ) (after : Directory φ σ δ) :
    Prop where
  policy : after.policy = before.policy
  unrestricted : after.enumerator = .unrestricted
  clients : ∀ client,
    after.tracked? client = if client ∈ gone then none else before.tracked? client
  partitions : ∀ handle : Handle, handle.Spared gone →
    after.partition? handle = before.partition? handle
  free : ∀ handle, after.held handle = false
  stuck : after.stuck = before.stuck

theorem clientIdsFor_isolated [PartitionStore σ] {directory : Directory φ σ γ} {key : SigningKey}
    (isolated : directory.isolated = true) :
    directory.clientIdsFor key =
      (directory.ownerCandidates.filter fun handle =>
        (directory.blindingIn handle key).isSome).map (·.id) := by
  simp only [clientIdsFor, clientView, Directory.ownerCandidates, isolated, if_true]

structure SameOwners [PartitionStore σ] (one : Directory φ σ γ) (other : Directory φ σ δ) :
    Prop where
  owner : ∀ key, other.ownerOf key = one.ownerOf key
  lease : ∀ key, (other.findLease key).1 = (one.findLease key).1
  outcome : ∀ key, other.leaseOutcome key = one.leaseOutcome key
  blinded : ∀ key, other.clientIdsFor key = one.clientIdsFor key

theorem SameOwners.of_findOwner [PartitionStore σ] {one : Directory φ σ γ} {other : Directory φ σ δ}
    (owner : ∀ key, other.findOwner key = one.findOwner key)
    (found : ∀ {key handle}, one.findOwner key = some handle →
      other.lookupLease handle key = one.lookupLease handle key)
    (main : ∀ key, other.lookupLease (wellKnown .main) key = one.lookupLease (wellKnown .main) key)
    (blinded : ∀ key, other.clientIdsFor key = one.clientIdsFor key) : SameOwners one other where
  owner key := by rw [ownerOf, owner, ownerOf]
  lease key := by
    simp only [findLease, owner, main]
    cases owned : one.findOwner key with
    | none => rfl
    | some handle => exact found owned
  outcome key := by simp only [leaseOutcome, owner, main]
  blinded

theorem sameOwners_of_merged [PartitionStore σ] {directory : Directory φ σ γ}
    (merged : directory.isolated = false) (enumerator : Enumerator) :
    SameOwners directory { directory with enumerator } := by
  have again : isolated { directory with enumerator } = false := merged
  have nobody : directory.ownerCandidates = [] := by simp [ownerCandidates, merged]
  have still : ownerCandidates { directory with enumerator } = [] := by
    simp [ownerCandidates, again]
  apply SameOwners.of_findOwner
  · intro key
    rw [findOwner, findOwner, nobody, still]
    rfl
  · intro key handle found
    rfl
  · intro key
    rfl
  · intro key
    simp only [clientIdsFor, merged, again, Bool.false_eq_true, if_false]
    rfl

namespace Thinned

variable {gone : List Hash} {before : Directory φ σ γ} {after : Directory φ σ δ}

theorem note (thinned : Thinned gone before after) (event : LogEvent) :
    Thinned gone before (after.note event) :=
  ⟨thinned.policy, thinned.unrestricted, thinned.clients, thinned.partitions, thinned.free,
    thinned.stuck⟩

theorem countOne (thinned : Thinned gone before after) (metric : Metric) :
    Thinned gone before (after.countOne metric) :=
  ⟨thinned.policy, thinned.unrestricted, thinned.clients, thinned.partitions, thinned.free,
    thinned.stuck⟩

theorem strike [PartitionStore σ] (thinned : Thinned gone before after) {client : Hash}
    {handle : Handle} (tracked : after.tracked? client = some handle) :
    Thinned (gone ++ [client]) before
      ((after.unregister (.quiet 0) client handle).stop handle).2 := by
  rw [stop_eq, unregister, if_pos tracked]
  refine ⟨thinned.policy, thinned.unrestricted, fun other => ?_, fun given spared => ?_,
    fun given => ?_, ?_⟩
  · refine Clients.find?_erase.trans ?_
    by_cases same : other = client
    · simp [same]
    · simp [same, thinned.clients]
  · have apart : given ≠ handle := by
      rintro rfl
      exact spared client (by simp) (id_of_tracked? tracked)
    refine (partition?_modify ..).trans ?_
    rw [if_neg apart]
    exact thinned.partitions given fun other member =>
      spared other (List.mem_append_left _ member)
  · exact (held_modify_retire ..).trans (thinned.free given)
  · -- Nobody holds the partition, so that stopping it waits for nobody.
    have free : held { after with clients := after.clients.erase client } handle = false :=
      thinned.free handle
    change (after.stuck || held { after with clients := after.clients.erase client } handle) = _
    rw [free, Bool.or_false, thinned.stuck]

theorem removeClient [PartitionStore σ] (thinned : Thinned gone before after) (client : Hash) :
    Thinned (gone ++ [client]) before (after.removeClient (.quiet 0) client).2 := by
  unfold Directory.removeClient
  cases tracked : after.tracked? client with
  | none =>
    refine Thinned.note ⟨thinned.policy, thinned.unrestricted, fun other => ?_,
      fun handle spared => ?_, thinned.free, thinned.stuck⟩ _
    · by_cases same : other = client
      · subst same
        simpa using tracked
      · simp [thinned.clients, same]
    · exact thinned.partitions handle fun other member => spared other (List.mem_append_left _ member)
  | some handle =>
    have struck := thinned.strike tracked
    dsimp only
    split
    · exact (struck.countOne _).note _
    · exact struck

theorem isReady (thinned : Thinned gone before after) {handle : Handle}
    (spared : handle.Spared gone) : after.isReady handle = before.isReady handle := by
  simp only [Directory.isReady, thinned.partitions handle spared]

theorem store? (thinned : Thinned gone before after) {handle : Handle}
    (spared : handle.Spared gone) : after.store? handle = before.store? handle := by
  simp only [Directory.store?, thinned.partitions handle spared]

theorem clients_eq (thinned : Thinned gone before after) :
    after.clients = before.clients.filter fun client => client ∉ gone := by
  apply Clients.ext_find?
  intro client
  refine (thinned.clients client).trans ?_
  rw [Clients.find?_filter]
  by_cases member : client ∈ gone <;> simp [member]

theorem readyClients (thinned : Thinned gone before after) (isolated : before.isolated = true)
    (left : before.LeavesOut gone) : after.readyClients = before.ownerCandidates := by
  have owns {client : Hash} {handle : Handle} (tracked : before.tracked? client = some handle) :
      decide (client ∉ gone) = before.mayOwn handle := by
    have listed := left tracked
    by_cases member : client ∈ gone
    · simp [member, listed.mp member]
    · simp [member, Bool.of_not_eq_false (mt listed.mpr member)]
  unfold ownerCandidates Directory.readyClients
  rw [if_pos isolated, thinned.clients_eq, Clients.handles_filter owns, List.filter_filter,
    List.filter_filter]
  apply List.filter_congr
  intro handle listed
  obtain ⟨client, tracked⟩ := tracked?_of_mem listed
  cases mayOwn : before.mayOwn handle with
  | false => simp
  | true =>
    simp [thinned.isReady (left.spared tracked mayOwn)]

theorem ownerCandidates (thinned : Thinned gone before after) (isolated : before.isolated = true)
    (left : before.LeavesOut gone) : after.ownerCandidates = before.ownerCandidates := by
  have still : after.isolated = true :=
    (congrArg IsolationPolicy.enabled thinned.policy).trans isolated
  rw [Directory.ownerCandidates, if_pos still, thinned.readyClients isolated left]
  exact List.filter_eq_self.mpr fun handle _ => by simp [mayOwn, thinned.unrestricted]

theorem spared_of_candidate (left : before.LeavesOut gone) {handle : Handle}
    (listed : handle ∈ before.ownerCandidates) : handle.Spared gone := by
  unfold Directory.ownerCandidates at listed
  split at listed
  · obtain ⟨standing, owns⟩ := List.mem_filter.mp listed
    obtain ⟨client, tracked⟩ := tracked?_of_mem (List.mem_filter.mp standing).1
    exact left.spared tracked owns
  · cases listed

theorem sameOwners [PartitionStore σ] (thinned : Thinned gone before after)
    (isolated : before.isolated = true) (left : before.LeavesOut gone) :
    SameOwners before after := by
  have candidates := thinned.ownerCandidates isolated left
  have asked {handle : Handle} (listed : handle ∈ before.ownerCandidates) :
      after.store? handle = before.store? handle :=
    thinned.store? (spared_of_candidate left listed)
  refine .of_findOwner (fun key => ?_) (fun {key handle} found => ?_) (fun key => ?_) fun key => ?_
  · rw [findOwner, candidates, findOwner]
    apply List.find?_congr
    intro handle listed
    simp only [claims, ask, asked listed]
  · have listed := List.mem_of_find?_eq_some found
    simp only [lookupLease, lookup, ask, asked listed]
  · have kept : after.store? (wellKnown .main) = before.store? (wellKnown .main) := by
      apply thinned.store?
      rintro client - ⟨⟩
    simp only [lookupLease, lookup, ask, kept]
  · have still : after.isolated = true :=
      (congrArg IsolationPolicy.enabled thinned.policy).trans isolated
    rw [clientIdsFor_isolated still, clientIdsFor_isolated isolated, candidates]
    congr 1
    apply List.filter_congr
    intro handle listed
    simp only [blindingIn, ask, asked listed]

end Thinned

end Directory

end PeerDirectory

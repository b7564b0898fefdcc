import PeerDirectory.Proofs.Directory.Holdings
import PeerDirectory.Proofs.Run.Fitting
import PeerDirectory.Proofs.Run.Points
import PeerDirectory.Proofs.Run.Stores
import PeerDirectory.Proofs.Run.Walk

namespace PeerDirectory.Directory

structure Steady {γ : Type} (directory : Directory MemoryFactory MemoryStore γ) : Prop where
  tracked : ∀ {client generation},
    directory.isReady ⟨.client client, generation⟩ = true →
      directory.tracked? client = some ⟨.client client, generation⟩
  labelled : Labelled directory

section Runs

variable {permitted : Call Tuning Blinding → Prop}

theorem Orderly.steady {γ : Type} {directory : Directory MemoryFactory MemoryStore γ}
    {busy : List Handle} (orderly : Orderly busy directory.shape)
    (labelled : Labelled directory) : Steady directory := by
  refine ⟨fun {client generation} ready => ?_, labelled⟩
  unfold isReady at ready
  split at ready
  · rename_i partition here
    have stands : directory.shape.stages ⟨.client client, generation⟩ =
        some (.ready, partition.locked) := by
      simp [stage?, here, of_decide_eq_true ready]
    exact orderly.ready stands
  · cases ready

theorem Built.steady_throughout {run : Run MemoryFactory MemoryStore Tuning Blinding}
    {habit : Habit MemoryFactory MemoryStore Tuning Blinding} {turns depth : Nat}
    {calls : List (Call Tuning Blinding)} (built : Built run)
    {point : Point MemoryFactory MemoryStore Tuning Blinding}
    (reached : point ∈ (run.makeAll (others habit turns depth) calls).outside.points)
    (calm : point.state.stuck = false) : Steady point.state := by
  have telling : Telling (fun _ => True) (others habit turns depth) :=
    telling_others (fun _ _ _ _ => trivial) turns depth
  refine built.throughout telling (fun _ _ => trivial) (fun move _ labelled =>
    perennial_labelled.move move labelled) (fun orderly labelled => ?_) built.labelled point reached
    calm
  have steady := orderly.steady labelled
  exact ⟨steady.tracked, trivial, steady.labelled.store⟩

end Runs

/-- The ready partitions of clients, each once, by ascending hash of the clients. -/
structure Roster {γ : Type} (directory : Directory MemoryFactory MemoryStore γ)
    (clients : List Hash) (handles : List Handle) : Prop where
  ids : handles.map (·.id) = clients.map .client
  ascending : clients.Pairwise fun one other => compare one other = .lt
  complete : ∀ {handle}, handle ∈ handles ↔
    (∃ client, handle.id = .client client) ∧ directory.isReady handle = true

section Listing

variable {γ : Type} {directory : Directory MemoryFactory MemoryStore γ} {handle : Handle}

theorem mem_readyClients (steady : Steady directory) :
    handle ∈ directory.readyClients ↔
      (∃ client, handle.id = .client client) ∧ directory.isReady handle = true := by
  constructor
  · intro listed
    obtain ⟨entered, ready⟩ := List.mem_filter.mp listed
    obtain ⟨client, tracked⟩ := tracked?_of_mem entered
    exact ⟨⟨client, id_of_tracked? tracked⟩, ready⟩
  · rintro ⟨⟨client, named⟩, ready⟩
    obtain ⟨id, generation⟩ := handle
    obtain rfl : id = .client client := named
    exact List.mem_filter.mpr
      ⟨Clients.mem_handles.mpr ⟨client, steady.tracked ready⟩, ready⟩

theorem ids_readyClients (directory : Directory MemoryFactory MemoryStore γ)
    (listed : Handle → Bool) :
    ∃ clients : List Hash,
      (directory.readyClients.filter listed).map (·.id) = clients.map .client ∧
        clients.Pairwise fun one other => compare one other = .lt := by
  rw [readyClients, List.filter_filter]
  exact directory.clients.ids_handles _

theorem Steady.roster (steady : Steady directory) :
    ∃ clients, Roster directory clients directory.readyClients := by
  obtain ⟨clients, ids, ascending⟩ := directory.ids_readyClients fun _ => true
  rw [List.filter_true] at ids
  exact ⟨clients, ids, ascending, mem_readyClients steady⟩

end Listing

end PeerDirectory.Directory

import PeerDirectory.Proofs.Concurrent.Thread

namespace PeerDirectory.Directory

variable {φ σ γ : Type}

structure Within (handle : Handle) (a b : Directory φ σ γ) : Prop where
  closed : b.closed = a.closed
  policy : b.policy = a.policy
  clients : b.clients = a.clients
  factory : b.factory = a.factory
  next : ∀ id, b.partitions.next id = a.partitions.next id
  others : ∀ {other}, other ≠ handle → b.store? other = a.store? other

theorem Within.refl (handle : Handle) (a : Directory φ σ γ) : Within handle a a :=
  ⟨rfl, rfl, rfl, rfl, fun _ => rfl, fun _ => rfl⟩

theorem Within.trans {handle : Handle} {a b c : Directory φ σ γ} (first : Within handle a b)
    (second : Within handle b c) : Within handle a c where
  closed := second.closed.trans first.closed
  policy := second.policy.trans first.policy
  clients := second.clients.trans first.clients
  factory := second.factory.trans first.factory
  next id := (second.next id).trans (first.next id)
  others apart := (second.others apart).trans (first.others apart)

theorem within_modify (directory : Directory φ σ γ) (handle : Handle)
    (change : Partition σ → Partition σ) :
    Within handle directory (directory.modify handle change) :=
  ⟨rfl, rfl, rfl, rfl, fun _ => Registry.next_modify _ _ _ _,
    fun apart => by rw [store?, partition?_modify, if_neg apart]; rfl⟩

section Stores

variable [PartitionStore σ] (directory : Directory φ σ γ) (handle : Handle)

theorem within_startStore :
    Within handle directory (directory.startStore (.quiet 0) handle).2 := by
  simp only [startStore, Surroundings.quiet]
  split
  · exact .refl _ _
  · exact within_modify _ _ _

theorem within_insert (key : Hash) (entry : Entry) :
    Within handle directory (directory.insert handle key entry).2 := by
  unfold insert
  split
  · exact .refl _ _
  · exact within_modify _ _ _

theorem within_seedPeers (peers : List Hash) (sofar : Nat × Directory φ σ γ) :
    Within handle sofar.2 (peers.foldl (seedPeer handle) sofar).2 := by
  induction peers generalizing sofar with
  | nil => exact .refl _ _
  | cons peer rest ih =>
    refine Within.trans ?_ (ih _)
    simp only [seedPeer]
    split
    · exact .refl _ _
    · split
      · exact within_insert _ _ _ _
      · exact (within_insert _ _ _ _).trans ⟨rfl, rfl, rfl, rfl, fun _ => rfl, fun _ => rfl⟩

theorem within_seed : Within handle directory (directory.seed handle) := by
  simp only [seed]
  split
  · exact .refl _ _
  · split
    · exact ⟨rfl, rfl, rfl, rfl, fun _ => rfl, fun _ => rfl⟩
    · exact (within_seedPeers handle _ (0, directory)).trans
        ⟨rfl, rfl, rfl, rfl, fun _ => rfl, fun _ => rfl⟩

end Stores

variable [PartitionStore σ] [StoreFactory φ σ] {directory next : Directory φ σ γ} {client : Hash}
  {phase after : Phase}

theorem advance_settings (moved : directory.advance client phase = some (after, next)) :
    next.closed = directory.closed ∧ next.policy = directory.policy ∧
      next.clients.erase client = directory.clients.erase client := by
  have struck {directory : Directory φ σ γ} {handle : Handle} :
      (directory.unregister (.quiet 0) client handle).closed = directory.closed ∧
        (directory.unregister (.quiet 0) client handle).policy = directory.policy ∧
        (directory.unregister (.quiet 0) client handle).clients.erase client =
          directory.clients.erase client := by
    unfold unregister
    split
    · exact ⟨rfl, rfl, Clients.erase_erase⟩
    · exact ⟨rfl, rfl, rfl⟩
  cases phase with
  | route | check | glance | create | recheck | ready | release =>
    cases moved
    exact ⟨rfl, rfl, rfl⟩
  | load =>
    simp only [advance] at moved
    split at moved <;> cases moved <;> exact ⟨rfl, rfl, rfl⟩
  | enroll candidate =>
    cases moved
    unfold enroll
    split
    · exact ⟨rfl, rfl, rfl⟩
    · exact ⟨rfl, rfl, Clients.erase_insert rfl⟩
  | acquire handle =>
    simp only [advance] at moved
    split at moved
    · cases moved
      exact ⟨rfl, rfl, rfl⟩
    · split at moved <;> cases moved
      exact ⟨rfl, rfl, rfl⟩
  | inspect handle =>
    simp only [advance] at moved
    split at moved <;> cases moved <;> exact ⟨rfl, rfl, rfl⟩
  | startup handle =>
    cases moved
    have within := within_startStore directory handle
    exact ⟨within.closed, within.policy, by rw [within.clients]⟩
  | seed handle =>
    cases moved
    have within := within_seed directory handle
    exact ⟨within.closed, within.policy, by rw [within.clients]⟩
  | strike | retry =>
    cases moved
    exact struck
  | shut handle failed =>
    cases failed <;> cases moved <;> exact ⟨rfl, rfl, rfl⟩
  | done result => cases moved

theorem advance_stores (moved : directory.advance client phase = some (after, next)) :
    (phase = .create ∧
      next.factory = (StoreFactory.make directory.factory (.client client)).2 ∧
      (next.partitions.next (.client client)).generation =
        (directory.partitions.next (.client client)).generation + 1 ∧
      ∀ handle, next.store? handle =
        if handle = directory.partitions.next (.client client) then
          some (StoreFactory.make directory.factory (.client client)).1
        else directory.store? handle) ∨
    (next.factory = directory.factory ∧
      next.partitions.next (.client client) = directory.partitions.next (.client client) ∧
      ∀ handle, phase ≠ .startup handle → phase ≠ .seed handle →
        next.store? handle = directory.store? handle) := by
  cases phase with
  | create =>
    cases moved
    refine Or.inl ⟨rfl, rfl, ?_, fun handle => ?_⟩
    · simp only [build, Registry.next_add, if_true]
      rfl
    · rw [store?, partition?_build_quiet]
      split <;> rfl
  | route | check | glance | recheck =>
    cases moved
    exact Or.inr ⟨rfl, rfl, fun _ _ _ => rfl⟩
  | ready found | release found result =>
    cases moved
    exact Or.inr ⟨rfl, Registry.next_modify _ _ _ _, fun _ _ _ => store?_modify fun _ => rfl⟩
  | load =>
    simp only [advance] at moved
    split at moved <;> cases moved <;> exact Or.inr ⟨rfl, rfl, fun _ _ _ => rfl⟩
  | enroll candidate =>
    cases moved
    unfold enroll
    split <;> exact Or.inr ⟨rfl, rfl, fun _ _ _ => rfl⟩
  | acquire found =>
    simp only [advance] at moved
    split at moved
    · cases moved
      exact Or.inr ⟨rfl, rfl, fun _ _ _ => rfl⟩
    · split at moved <;> cases moved
      exact Or.inr ⟨rfl, Registry.next_modify _ _ _ _, fun _ _ _ => store?_modify fun _ => rfl⟩
  | inspect found =>
    simp only [advance] at moved
    split at moved <;> cases moved <;> exact Or.inr ⟨rfl, rfl, fun _ _ _ => rfl⟩
  | startup found =>
    cases moved
    have within := within_startStore directory found
    refine Or.inr ⟨within.factory, within.next _, fun handle apart _ => within.others ?_⟩
    rintro rfl
    exact apart rfl
  | seed found =>
    cases moved
    have within := within_seed directory found
    refine Or.inr ⟨within.factory, within.next _, fun handle _ apart => within.others ?_⟩
    rintro rfl
    exact apart rfl
  | strike | retry =>
    cases moved
    unfold unregister
    split <;> exact Or.inr ⟨rfl, rfl, fun _ _ _ => rfl⟩
  | shut found failed =>
    cases failed <;> cases moved <;>
      exact Or.inr ⟨rfl, Registry.next_modify _ _ _ _, fun _ _ _ => store?_modify fun _ => rfl⟩
  | done result => cases moved

end PeerDirectory.Directory

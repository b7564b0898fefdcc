import PeerDirectory.Proofs.Ownership

namespace PeerDirectory.Directory

section Finding

variable {γ : Type} {directory : Directory MemoryFactory MemoryStore γ} {key client : Hash}
  {handle : Handle}

/-- What a lookup by unknown owner finds under a key that some client holds a lease set under. -/
structure Fallback (directory : Directory MemoryFactory MemoryStore γ) (key : Hash) : Prop where
  sound : ∀ record, (directory.findLease key).1 = some record →
    ∃ client handle, handle.id = .client client ∧ directory.isReady handle = true ∧
      directory.KeepsLease handle key record
  missed : (directory.findLease key).1 = none ↔
    (∃ handle, handle.id = .client key ∧ directory.isReady handle = true) ∧
      ∀ client, directory.Holder key client → compare key client = .lt

theorem Steady.unique (steady : Steady directory) {other : Handle}
    (named : handle.id = .client client) (ready : directory.isReady handle = true)
    (again : other.id = .client client) (also : directory.isReady other = true) :
    handle = other := by
  obtain ⟨id, generation⟩ := handle
  obtain ⟨another, number⟩ := other
  obtain rfl : id = .client client := named
  obtain rfl : another = .client client := again
  exact Option.some.inj ((steady.tracked ready).symm.trans (steady.tracked also))

theorem Holder.eligible (free : directory.enumerator = .unrestricted)
    (holder : directory.Holder key client) : directory.Eligible key client := by
  obtain ⟨handle, record, named, ready, kept⟩ := holder
  have admitted : directory.Admits client := by simp [Admits, free]
  exact ⟨admitted, handle, named, ready, Or.inr ⟨record, kept⟩⟩

theorem Eligible.cases (steady : Steady directory) (eligible : directory.Eligible key client)
    (named : handle.id = .client client) (ready : directory.isReady handle = true) :
    client = key ∨ ∃ record, directory.KeepsLease handle key record := by
  obtain ⟨-, other, again, also, claim⟩ := eligible
  obtain rfl := steady.unique named ready again also
  exact claim

theorem Steady.fallback (steady : Steady directory) (apart : directory.isolated = true)
    (free : directory.enumerator = .unrestricted) (held : ∃ client, directory.Holder key client) :
    Fallback directory key := by
  obtain ⟨holding, holder⟩ := held
  cases found : directory.findOwner key with
  | none => exact absurd (holder.eligible free) ((findOwner_eq_none steady apart).mp found holding)
  | some handle =>
    obtain ⟨owner, named, ready, eligible, least⟩ := findOwner_eq_some steady found
    constructor
    case sound =>
      intro record answered
      rw [findLease_of_owner found] at answered
      exact ⟨owner, handle, named, ready, lookupLease_eq_some.mp answered⟩
    case missed =>
      rw [findLease_of_owner found]
      constructor
      · intro missing
        have empty (record : LeaseSet) : ¬directory.KeepsLease handle key record := by
          intro kept
          cases missing.symm.trans (lookupLease_eq_some.mpr kept)
        obtain rfl : owner = key :=
          (eligible.cases steady named ready).resolve_right fun ⟨record, kept⟩ => empty record kept
        refine ⟨⟨handle, named, ready⟩, fun client holder => ?_⟩
        rcases least client (holder.eligible free) with rfl | before
        · obtain ⟨other, record, again, also, kept⟩ := holder
          obtain rfl := steady.unique named ready again also
          exact absurd kept (empty record)
        · exact before
      · rintro ⟨⟨own, called, stands⟩, before⟩
        -- The client that the key belongs to is the owner, since it comes before all holders.
        have claims : directory.Eligible key key := by
          have admitted : directory.Admits key := by simp [Admits, free]
          exact ⟨admitted, own, called, stands, Or.inl rfl⟩
        have unheld : ¬directory.Holder key owner := by
          intro holder
          have precedes := before owner holder
          rcases least key claims with rfl | after
          · simp at precedes
          · exact absurd after (Std.OrientedCmp.not_lt_of_lt precedes)
        cases kept : directory.lookupLease handle key with
        | none => rfl
        | some record =>
          exact absurd ⟨handle, record, named, ready, lookupLease_eq_some.mp kept⟩ unheld

end Finding

/-- At every point of every run at which clients are kept apart and all of them may own keys, as long
as nobody waits for ever, a lookup by unknown owner finds what a client holds, but for the one case
in which it finds nothing. -/
theorem fallback_throughout {run : Run MemoryFactory MemoryStore Tuning Blinding}
    {habit : Habit MemoryFactory MemoryStore Tuning Blinding} {turns depth : Nat}
    {calls : List (Call Tuning Blinding)} (built : Built run)
    {point : Point MemoryFactory MemoryStore Tuning Blinding}
    (reached : point ∈ (run.makeAll (others habit turns depth) calls).outside.points)
    (calm : point.state.stuck = false) (apart : point.state.isolated = true)
    (free : point.state.enumerator = .unrestricted)
    {key : Hash} (held : ∃ client, point.state.Holder key client) :
    Fallback point.state key :=
  (built.steady_throughout reached calm).fallback apart free held

def keepsake (calls : List (Call Tuning Blinding)) :
    Run MemoryFactory MemoryStore Tuning Blinding :=
  plainRun.makeAll (others eager 0 2)
    (.resolve (some (.client newcomer)) ::
      .insert ⟨.client newcomer, 0⟩ someone (.lease ⟨someone, none, [], 0⟩) :: calls)

theorem fallback_keepsake :
    ∃ point ∈ (keepsake []).outside.points,
      point.state.stuck = false ∧ point.state.isolated = true ∧
        point.state.enumerator = .unrestricted ∧
        (∃ client, point.state.Holder someone client) ∧ Fallback point.state someone := by
  have kept : ∃ point ∈ (keepsake []).outside.points,
      point.state.stuck = false ∧ point.state.isolated = true ∧
        (point.state.enumerator matches .unrestricted) = true ∧
        point.state.isReady ⟨.client newcomer, 0⟩ = true ∧
        point.state.lookupLease ⟨.client newcomer, 0⟩ someone =
          some ⟨someone, none, [], 0⟩ := by decide +kernel
  obtain ⟨point, reached, calm, apart, free, ready, kept⟩ := kept
  have free : point.state.enumerator = .unrestricted := by
    cases enumerator : point.state.enumerator with
    | unrestricted => rfl
    | _ => simp [enumerator] at free
  have held : ∃ client, point.state.Holder someone client :=
    ⟨newcomer, _, _, rfl, ready, lookupLease_eq_some.mp kept⟩
  exact ⟨point, reached, calm, apart, free, held,
    fallback_throughout built_plainRun reached calm apart free held⟩

theorem fallback_hidden :
    ∃ point ∈ (keepsake [.resolve (some (.client someone))]).outside.points,
      point.state.stuck = false ∧ point.state.isolated = true ∧
        (point.state.enumerator matches .unrestricted) = true ∧
        point.state.isReady ⟨.client newcomer, 0⟩ = true ∧
        point.state.KeepsLease ⟨.client newcomer, 0⟩ someone ⟨someone, none, [], 0⟩ ∧
        (point.state.findLease someone).1 = none := by
  have hidden : ∃ point ∈ (keepsake [.resolve (some (.client someone))]).outside.points,
      point.state.stuck = false ∧ point.state.isolated = true ∧
        (point.state.enumerator matches .unrestricted) = true ∧
        point.state.isReady ⟨.client newcomer, 0⟩ = true ∧
        point.state.lookupLease ⟨.client newcomer, 0⟩ someone =
          some ⟨someone, none, [], 0⟩ ∧
        (point.state.findLease someone).1 = none := by decide +kernel
  obtain ⟨point, reached, calm, apart, free, ready, kept, missed⟩ := hidden
  exact ⟨point, reached, calm, apart, free, ready, lookupLease_eq_some.mp kept, missed⟩

end PeerDirectory.Directory

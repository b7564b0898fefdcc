import PeerDirectory.Proofs.Isolation.Calls

namespace PeerDirectory.Directory

variable {γ : Type} {client : Hash} {a b : Directory MemoryFactory MemoryStore γ} {handle : Handle}
  {turns : Nat} {call : Call Tuning Blinding}

theorem perform_congr (turns : Nat) (same : a.outlook client = b.outlook client)
    (near : call.foreignTo client = false) :
    (a.perform (.quiet turns) call).2.outlook client =
        (b.perform (.quiet turns) call).2.outlook client ∧
      (call.concerns client = true →
        (a.perform (.quiet turns) call).1 = (b.perform (.quiet turns) call).1) := by
  cases call with
  | resolve id =>
    have near : (id.getD (.wellKnown .main)).openTo client = true := by
      simpa [Call.foreignTo, Call.addressee] using near
    obtain ⟨found, same⟩ := resolve_congr turns same near
    exact ⟨same, fun _ => congrArg Response.found found⟩
  | clientPartition id =>
    have near : (id.getD (.wellKnown .exploratory)).openTo client = true := by
      simpa [Call.foreignTo, Call.addressee] using near
    obtain ⟨found, same⟩ := clientPartition_congr turns same near
    exact ⟨same, fun _ => congrArg Response.found found⟩
  | removeClient other =>
    obtain rfl : other = client := by
      simpa [Call.foreignTo, Call.addressee, PartitionId.openTo] using near
    obtain ⟨removed, same⟩ := removeClient_congr turns same
    exact ⟨same, fun _ => congrArg Response.flag removed⟩
  | setIsolation enabled => exact ⟨setIsolation_congr same enabled, fun _ => rfl⟩
  | shutdown => exact ⟨shutdown_congr turns same, fun _ => rfl⟩
  | findLease key =>
    have unchanged (directory : Directory MemoryFactory MemoryStore γ) :
        (directory.findLease key).2.outlook client = directory.outlook client := by
      rw [findLease_after, outlook_countOne]
    refine ⟨?_, fun concerned => by cases concerned⟩
    exact (unchanged a).trans (same.trans (unchanged b).symm)
  | ask question =>
    refine ⟨same, fun concerned => ?_⟩
    cases addressed : question.addressee with
    | none => simp [Call.concerns, Call.addressee, addressed] at concerned
    | some id =>
      have near : id.openTo client = true := by
        simpa [Call.concerns, Call.addressee, addressed] using concerned
      exact answer_congr same addressed near
  | insert handle key entry =>
    have near : handle.id.openTo client = true := by
      simpa [Call.foreignTo, Call.addressee] using near
    obtain ⟨kept, same⟩ := insert_congr same near key entry
    exact ⟨same, fun _ => congrArg Response.done kept⟩
  | session other opened => exact ⟨same, fun _ => rfl⟩
  | tune tuning =>
    refine ⟨?_, fun _ => rfl⟩
    simp only [perform, outlook_tune, same]
  | touch handle data =>
    have near : handle.id.openTo client = true := by
      simpa [Call.foreignTo, Call.addressee] using near
    obtain ⟨touched, same⟩ := touchStore_congr same near data
    exact ⟨same, fun _ => congrArg Response.done touched⟩
  | startStore handle =>
    have near : handle.id.openTo client = true := by
      simpa [Call.foreignTo, Call.addressee] using near
    obtain ⟨started, same⟩ := startStore_congr turns same near
    exact ⟨same, fun _ => congrArg Response.done started⟩
  | stopStore handle =>
    have near : handle.id.openTo client = true := by
      simpa [Call.foreignTo, Call.addressee] using near
    exact ⟨stopStore_congr same near, fun _ => rfl⟩

theorem openTo_resolve {id : Option PartitionId}
    (near : (id.getD (.wellKnown .main)).openTo client = true)
    (found : (a.resolve (.quiet turns) id).1 = .ok handle) :
    handle.id.openTo client = true := by
  match id with
  | none =>
    cases found
    rfl
  | some (.wellKnown role) =>
    cases found
    exact openTo_serving a role
  | some (.client other) =>
    obtain rfl : other = client := by simpa [PartitionId.openTo] using near
    simp only [resolve] at found
    split at found
    · simp [id_of_clientWithin found]
    · cases found
      rfl

theorem openTo_clientPartition {id : Option PartitionId}
    (near : (id.getD (.wellKnown .exploratory)).openTo client = true)
    (found : (a.clientPartition (.quiet turns) id).1 = .ok handle) :
    handle.id.openTo client = true := by
  cases id with
  | none =>
    cases found
    rfl
  | some id => exact openTo_resolve near found

theorem openTo_of_concerns (concerned : call.concerns client = true)
    (named : handle ∈ (a.perform (.quiet turns) call).1.partitions) :
    handle.id.openTo client = true := by
  have answered := Response.mem_partitions.mp named
  cases call with
  | resolve id =>
    have found : (a.resolve (.quiet turns) id).1 = .ok handle := by
      simpa [perform] using answered
    exact openTo_resolve concerned found
  | clientPartition id =>
    have found : (a.clientPartition (.quiet turns) id).1 = .ok handle := by
      simpa [perform] using answered
    exact openTo_clientPartition concerned found
  | ask question =>
    cases question <;> simp [perform, answer] at answered
    case serving role => exact answered ▸ openTo_serving a role
    case existing id => exact openTo_existing? concerned answered
    case current => cases concerned
  | _ => simp [perform] at answered

theorem outlook_resolve_away {other : Hash} (apart : other ≠ client) :
    (a.resolve (.quiet turns) (some (.client other))).2.outlook client = a.outlook client := by
  simp only [resolve]
  split
  · exact outlook_clientWithin_away turns apart turns
  · rfl

theorem outlook_perform_away (foreign : call.foreignTo client = true) :
    (a.perform (.quiet turns) call).2.outlook client = a.outlook client := by
  obtain ⟨id, addressed, away⟩ :
      ∃ id, call.addressee = some id ∧ id.openTo client = false := by
    cases addressed : call.addressee with
    | none => simp [Call.foreignTo, addressed] at foreign
    | some id => exact ⟨id, rfl, by simpa [Call.foreignTo, addressed] using foreign⟩
  cases id with
  | wellKnown role => cases away
  | client other =>
    have apart := ne_of_openTo_client_eq_false away
    cases call <;> simp only [Call.addressee, Option.some.injEq, reduceCtorEq] at addressed
    case resolve id =>
      cases id with
      | none => cases addressed
      | some id =>
        cases addressed
        exact outlook_resolve_away apart
    case clientPartition id =>
      cases id with
      | none => cases addressed
      | some id =>
        cases addressed
        exact outlook_resolve_away apart
    case removeClient =>
      cases addressed
      exact outlook_removeClient_away turns apart
    case ask => rfl
    case session => rfl
    case insert handle key entry => exact outlook_insert_away (addressed ▸ away) key entry
    case touch handle data => exact outlook_touchStore_away (addressed ▸ away) data
    case startStore handle => exact outlook_startStore_away turns (addressed ▸ away)
    case stopStore handle => exact outlook_stopStore_away (addressed ▸ away)
    case tune tuning =>
      have unseen : ∀ id, ¬(tuning.id = id ∧ id.openTo client = true) := by
        rintro id ⟨rfl, near⟩
        simp [addressed, away] at near
      simp only [perform, outlook_tune, unseen, if_false]

theorem observe_congr (turns : Nat) (same : a.outlook client = b.outlook client)
    (near : call.foreignTo client = false) (concerned : call.concerns client = true) :
    (a.observe turns call).1 = (b.observe turns call).1 := by
  obtain ⟨after, answered⟩ := perform_congr turns same near
  have named : (a.perform (.quiet turns) call).1 = (b.perform (.quiet turns) call).1 :=
    answered concerned
  simp only [observe, Sight.mk.injEq, named, true_and]
  apply List.map_congr_left
  intro handle mentioned
  exact partition?_congr after (openTo_of_concerns concerned mentioned)

theorem concerns_eq_false_of_foreignTo (foreign : call.foreignTo client = true) :
    call.concerns client = false := by
  unfold Call.foreignTo Call.concerns at *
  split at foreign
  · simpa using foreign
  · cases foreign

theorem observeAll_congr (same : a.outlook client = b.outlook client)
    (calls : List (Call Tuning Blinding)) :
    (observeAll turns calls a).filter (·.1.concerns client) =
      (observeAll turns (calls.filter fun call => !call.foreignTo client) b).filter
        (·.1.concerns client) := by
  -- The two directories drift apart with the first call that is deleted; their outlooks do not.
  induction calls generalizing a b with
  | nil => rfl
  | cons call rest ih =>
    rw [observeAll, List.filter_cons, List.filter_cons]
    cases foreign : call.foreignTo client with
    | true =>
      -- The call is deleted on the right and leaves no trace on the left.
      have unseen : (a.observe turns call).2.outlook client = b.outlook client :=
        (outlook_perform_away foreign).trans same
      simpa [concerns_eq_false_of_foreignTo foreign] using ih unseen
    | false =>
      have after : (a.observe turns call).2.outlook client =
          (b.observe turns call).2.outlook client := (perform_congr turns same foreign).1
      cases concerned : call.concerns client with
      | true =>
        have seen := observe_congr turns same foreign concerned
        simpa [observeAll, concerned, seen] using ih after
      | false => simpa [observeAll, concerned] using ih after

/-- Whatever calls are made on a directory one after another, deleting those that are addressed to
other clients changes nothing about what is seen of the calls to a client and to the well-known
partitions: the same responses, and the same contents of every partition they name. -/
theorem others_unseen (client : Hash) (turns : Nat) (calls : List (Call Tuning Blinding))
    (directory : Directory MemoryFactory MemoryStore γ) :
    (observeAll turns calls directory).filter (·.1.concerns client) =
      (observeAll turns (calls.filter fun call => !call.foreignTo client) directory).filter
        (·.1.concerns client) :=
  observeAll_congr rfl calls

end PeerDirectory.Directory

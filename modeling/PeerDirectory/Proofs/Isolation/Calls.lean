import PeerDirectory.Proofs.Isolation.Outlook

namespace PeerDirectory.Directory

variable {γ : Type} {client : Hash} {a b : Directory MemoryFactory MemoryStore γ} {handle : Handle}

/-! ## Calls to other clients -/

section Away

variable (turns : Nat) {other : Hash}

theorem outlook_setStore_away (away : handle.id.openTo client = false) (store : MemoryStore) :
    (a.setStore handle store).outlook client = a.outlook client :=
  outlook_modify_away away

theorem outlook_insert_away (away : handle.id.openTo client = false) (key : Hash)
    (entry : Entry) : (a.insert handle key entry).2.outlook client = a.outlook client := by
  unfold insert
  cases a.store? handle with
  | none => rfl
  | some store => exact outlook_setStore_away away _

theorem outlook_touchStore_away (away : handle.id.openTo client = false) (data : Blinding) :
    (a.touchStore handle data).2.outlook client = a.outlook client := by
  unfold touchStore
  cases a.store? handle with
  | none => rfl
  | some store => exact outlook_setStore_away away _

theorem outlook_startStore_away (away : handle.id.openTo client = false) :
    (a.startStore (.quiet turns) handle).2.outlook client = a.outlook client := by
  simp only [startStore, Surroundings.quiet]
  cases a.store? handle with
  | none => rfl
  | some store => exact outlook_setStore_away away _

theorem outlook_stopStore_away (away : handle.id.openTo client = false) :
    (a.stopStore handle).outlook client = a.outlook client := by
  unfold stopStore
  cases a.store? handle with
  | none => rfl
  | some store => exact outlook_setStore_away away _

theorem outlook_unregister_away (away : other ≠ client) :
    (a.unregister (.quiet turns) other handle).outlook client = a.outlook client := by
  unfold unregister
  split
  · rw [outlook_publish, outlook_strike_away away]
  · rfl

theorem outlook_register_away (away : other ≠ client) :
    (a.register (.quiet turns) other).2.outlook client = a.outlook client := by
  have built := outlook_build_away turns (a := a) (openTo_client_eq_false away)
  simp only [register]
  split
  · simpa using built
  · rw [outlook_publish, outlook_track_away away, built]

theorem outlook_seedPeers_away (away : handle.id.openTo client = false) (peers : List Hash)
    (count : Nat) :
    (peers.foldl (seedPeer handle) (count, a)).2.outlook client = a.outlook client := by
  induction peers generalizing count a with
  | nil => rfl
  | cons peer rest ih =>
    have first : (seedPeer handle (count, a) peer).2.outlook client = a.outlook client := by
      simp only [seedPeer]
      split
      · rfl
      · split <;> exact outlook_insert_away away _ _
    exact (ih _).trans first

theorem outlook_seed_away (away : handle.id.openTo client = false) :
    (a.seed handle).outlook client = a.outlook client := by
  simp only [seed]
  split
  · rfl
  · split
    · rfl
    · simpa using outlook_seedPeers_away away _ _

theorem outlook_giveUp_away (apart : other ≠ client) (away : handle.id.openTo client = false) :
    (a.giveUp (.quiet turns) other handle).outlook client = a.outlook client :=
  (outlook_modify_away away).trans (outlook_unregister_away turns apart)

theorem outlook_goLive_away (away : handle.id.openTo client = false) :
    (a.goLive handle).outlook client = a.outlook client := by
  simp only [goLive, outlook_note, outlook_countOne]
  exact (outlook_modify_away away).trans (outlook_seed_away away)

theorem outlook_bringUp_away (apart : other ≠ client) (away : handle.id.openTo client = false) :
    (a.bringUp (.quiet turns) other handle).2.outlook client = a.outlook client := by
  have started := outlook_startStore_away turns (a := a) away
  simp only [bringUp_eq]
  split
  · exact outlook_giveUp_away turns apart away
  · split
    · exact (outlook_giveUp_away turns apart away).trans started
    · exact (outlook_goLive_away away).trans started

theorem outlook_startClient_away (apart : other ≠ client)
    (away : handle.id.openTo client = false) :
    (a.startClient (.quiet turns) other handle).2.outlook client = a.outlook client := by
  unfold startClient
  cases a.partition? handle with
  | none => rfl
  | some partition =>
    dsimp only
    split
    · rfl
    · cases partition.lifecycle with
      | ready => rfl
      | shutDown => rfl
      | creating =>
        apply (outlook_modify_away away).trans
        exact (outlook_bringUp_away turns apart away).trans (outlook_modify_away away)

theorem outlook_seek_away (apart : other ≠ client) :
    (a.seek (.quiet turns) other).2.outlook client = a.outlook client := by
  unfold seek
  cases a.tracked? other with
  | some handle => rfl
  | none => exact outlook_register_away turns apart

theorem outlook_clientWithin_away (apart : other ≠ client) (looks : Nat) :
    (clientWithin (.quiet turns) other looks a).2.outlook client = a.outlook client := by
  induction looks generalizing a with
  | zero => rfl
  | succ looks ih =>
    rw [clientWithin_succ, attend]
    have away : (a.seek (.quiet turns) other).1.id.openTo client = false := by
      rw [seek_id, openTo_client_eq_false apart]
    have found := outlook_seek_away turns (a := a) apart
    have started := (outlook_startClient_away turns apart away).trans found
    dsimp only
    split
    · rfl
    · split
      · exact found
      · split
        · exact started
        · exact started
        · exact ih.trans ((outlook_unregister_away turns apart).trans started)

theorem outlook_stop_away (away : handle.id.openTo client = false) :
    (a.stop handle).2.outlook client = a.outlook client := by
  unfold stop
  cases a.partition? handle with
  | none => rfl
  | some partition =>
    dsimp only
    split
    · rfl
    · cases partition.lifecycle with
      | shutDown => rfl
      | creating => exact outlook_modify_away away
      | ready => exact (outlook_modify_away away).trans (outlook_stopStore_away away)

theorem outlook_stopCounted_away {count : Nat} (away : handle.id.openTo client = false) :
    (stopCounted (count, a) handle).2.outlook client = a.outlook client := by
  have unseen := outlook_stop_away (a := a) away
  simp only [stopCounted]
  split
  · simpa using unseen
  · exact unseen

theorem outlook_removeClient_away (apart : other ≠ client) :
    (a.removeClient (.quiet turns) other).2.outlook client = a.outlook client := by
  unfold removeClient
  cases tracked : a.tracked? other with
  | none => rfl
  | some handle =>
    have away : handle.id.openTo client = false := by
      rw [id_of_tracked? tracked, openTo_client_eq_false apart]
    have struck : (a.unregister (.quiet turns) other handle).outlook client = a.outlook client :=
      outlook_unregister_away turns apart
    have stopped := (outlook_stop_away away).trans struck
    dsimp only
    split
    · simpa using stopped
    · exact stopped

end Away

/-! ## Calls to the client or to a well-known partition -/

section Near

variable (turns : Nat)

theorem setStore_congr (same : a.outlook client = b.outlook client) (store : MemoryStore) :
    (a.setStore handle store).outlook client = (b.setStore handle store).outlook client :=
  modify_congr same

theorem setLifecycle_congr (same : a.outlook client = b.outlook client) (stage : Lifecycle) :
    (a.setLifecycle handle stage).outlook client =
      (b.setLifecycle handle stage).outlook client :=
  modify_congr same

theorem setLocked_congr (same : a.outlook client = b.outlook client) (locked : Bool) :
    (a.setLocked handle locked).outlook client = (b.setLocked handle locked).outlook client :=
  modify_congr same

theorem insert_congr (same : a.outlook client = b.outlook client)
    (near : handle.id.openTo client = true) (key : Hash) (entry : Entry) :
    EndSameOutlook client (a.insert handle key entry) (b.insert handle key entry) := by
  unfold insert
  rw [store?_congr same near]
  cases b.store? handle with
  | none => exact ⟨rfl, same⟩
  | some store => exact ⟨rfl, setStore_congr same _⟩

theorem touchStore_congr (same : a.outlook client = b.outlook client)
    (near : handle.id.openTo client = true) (data : Blinding) :
    EndSameOutlook client (a.touchStore handle data) (b.touchStore handle data) := by
  unfold touchStore
  rw [store?_congr same near]
  cases b.store? handle with
  | none => exact ⟨rfl, same⟩
  | some store => exact ⟨rfl, setStore_congr same _⟩

theorem startStore_congr (same : a.outlook client = b.outlook client)
    (near : handle.id.openTo client = true) :
    EndSameOutlook client (a.startStore (.quiet turns) handle)
      (b.startStore (.quiet turns) handle) := by
  simp only [startStore, Surroundings.quiet]
  rw [store?_congr same near]
  cases b.store? handle with
  | none => exact ⟨rfl, same⟩
  | some store => exact ⟨rfl, setStore_congr same _⟩

theorem stopStore_congr (same : a.outlook client = b.outlook client)
    (near : handle.id.openTo client = true) :
    (a.stopStore handle).outlook client = (b.stopStore handle).outlook client := by
  unfold stopStore
  rw [store?_congr same near]
  cases b.store? handle with
  | none => exact same
  | some store => exact setStore_congr same _

theorem seedPeer_congr (count : Nat) (same : a.outlook client = b.outlook client)
    (near : handle.id.openTo client = true) (peer : Hash) :
    EndSameOutlook client (seedPeer handle (count, a) peer) (seedPeer handle (count, b) peer) := by
  have main : a.lookup (wellKnown .main) peer = b.lookup (wellKnown .main) peer :=
    (reading_congr same (openTo_wellKnown .main)).lookup peer
  simp only [seedPeer, lookupRouter, main]
  cases (b.lookup (wellKnown .main) peer).bind Entry.router? with
  | none => exact ⟨rfl, same⟩
  | some router =>
    have kept := insert_congr same near peer (.router router)
    simp only [kept.result]
    cases (b.insert handle peer (.router router)).1 with
    | ok _ => exact ⟨rfl, kept.outlook⟩
    | error failure => exact ⟨rfl, kept.outlook⟩

theorem seedPeers_congr {count : Nat} (same : a.outlook client = b.outlook client)
    (near : handle.id.openTo client = true) (peers : List Hash) :
    EndSameOutlook client (peers.foldl (seedPeer handle) (count, a))
      (peers.foldl (seedPeer handle) (count, b)) := by
  induction peers generalizing count a b with
  | nil => exact ⟨rfl, same⟩
  | cons peer rest ih =>
    obtain ⟨counted, first⟩ := seedPeer_congr count same near peer
    rw [List.foldl_cons, List.foldl_cons]
    generalize seedPeer handle (count, a) peer = left at counted first
    generalize seedPeer handle (count, b) peer = right at counted first
    obtain ⟨leftCount, left⟩ := left
    obtain ⟨rightCount, right⟩ := right
    obtain rfl : leftCount = rightCount := counted
    exact ih first

theorem seed_congr (same : a.outlook client = b.outlook client)
    (near : handle.id.openTo client = true) :
    (a.seed handle).outlook client = (b.seed handle).outlook client := by
  have count : a.seedPeers = b.seedPeers := congrArg Outlook.seedPeers same
  have sampler : a.sampler = b.sampler := congrArg Outlook.sampler same
  have here : a.floodfillPeers handle = b.floodfillPeers handle :=
    (reading_congr same near).floodfillPeers
  have main : a.floodfillPeers (wellKnown .main) = b.floodfillPeers (wellKnown .main) :=
    (reading_congr same (openTo_wellKnown .main)).floodfillPeers
  simp only [seed, count, sampler, here, main]
  split
  · exact same
  · split
    · simpa using same
    · simpa using (seedPeers_congr same near _).outlook

theorem unregister_congr (same : a.outlook client = b.outlook client) :
    (a.unregister (.quiet turns) client handle).outlook client =
      (b.unregister (.quiet turns) client handle).outlook client := by
  unfold unregister
  rw [tracked?_congr same]
  split
  · rw [outlook_publish, outlook_publish, outlook_strike, outlook_strike, same]
  · exact same

theorem register_congr (same : a.outlook client = b.outlook client) :
    EndSameOutlook client (a.register (.quiet turns) client) (b.register (.quiet turns) client) := by
  have built := build_congr turns same openTo_client
  unfold register
  simp only [tracked?_congr built.outlook]
  cases (b.build (.quiet turns) (.client client)).2.tracked? client with
  | some handle => exact ⟨rfl, by simpa using built.outlook⟩
  | none =>
    refine ⟨built.result, ?_⟩
    simp only [outlook_publish, outlook_track, built.result, built.outlook]

theorem giveUp_congr (same : a.outlook client = b.outlook client) :
    (a.giveUp (.quiet turns) client handle).outlook client =
      (b.giveUp (.quiet turns) client handle).outlook client :=
  setLifecycle_congr (unregister_congr turns same) .shutDown

theorem goLive_congr (same : a.outlook client = b.outlook client)
    (near : handle.id.openTo client = true) :
    (a.goLive handle).outlook client = (b.goLive handle).outlook client := by
  simp only [goLive, outlook_note, outlook_countOne]
  exact setLifecycle_congr (seed_congr same near) .ready

theorem bringUp_congr (same : a.outlook client = b.outlook client)
    (near : handle.id.openTo client = true) :
    EndSameOutlook client (a.bringUp (.quiet turns) client handle)
      (b.bringUp (.quiet turns) client handle) := by
  have started := startStore_congr turns same near
  simp only [bringUp_eq, closed_congr same, started.result]
  split
  · exact ⟨rfl, giveUp_congr turns same⟩
  · cases (b.startStore (.quiet turns) handle).1 with
    | error failure => exact ⟨rfl, giveUp_congr turns started.outlook⟩
    | ok _ => exact ⟨rfl, goLive_congr started.outlook near⟩

theorem startClient_congr (same : a.outlook client = b.outlook client)
    (near : handle.id.openTo client = true) :
    EndSameOutlook client (a.startClient (.quiet turns) client handle)
      (b.startClient (.quiet turns) client handle) := by
  unfold startClient
  rw [partition?_congr same near]
  cases b.partition? handle with
  | none => exact ⟨rfl, same⟩
  | some partition =>
    dsimp only
    split
    · exact ⟨rfl, same⟩
    · cases partition.lifecycle with
      | ready => exact ⟨rfl, same⟩
      | shutDown => exact ⟨rfl, same⟩
      | creating =>
        have locked : (a.setLocked handle true).outlook client =
            (b.setLocked handle true).outlook client := setLocked_congr same true
        have started := bringUp_congr turns locked near
        exact ⟨started.result, setLocked_congr started.outlook false⟩

theorem seek_congr (same : a.outlook client = b.outlook client) :
    EndSameOutlook client (a.seek (.quiet turns) client) (b.seek (.quiet turns) client) := by
  unfold seek
  rw [tracked?_congr same]
  cases b.tracked? client with
  | some handle => exact ⟨rfl, same⟩
  | none => exact register_congr turns same

theorem clientWithin_congr (same : a.outlook client = b.outlook client) (looks : Nat) :
    EndSameOutlook client (clientWithin (.quiet turns) client looks a)
      (clientWithin (.quiet turns) client looks b) := by
  induction looks generalizing a b with
  | zero => exact ⟨rfl, same⟩
  | succ looks ih =>
    simp only [clientWithin_succ, attend, closed_congr same]
    split
    · exact ⟨rfl, same⟩
    · obtain ⟨found, same⟩ := seek_congr turns same
      have near : (b.seek (.quiet turns) client).1.id.openTo client = true := by
        simp [seek_id]
      simp only [found, isReady_congr same near]
      split
      · exact ⟨rfl, same⟩
      · have started := startClient_congr turns same near
        simp only [started.result]
        split
        · exact ⟨rfl, started.outlook⟩
        · exact ⟨rfl, started.outlook⟩
        · exact ih (unregister_congr turns started.outlook)

theorem stop_congr (same : a.outlook client = b.outlook client)
    (near : handle.id.openTo client = true) :
    EndSameOutlook client (a.stop handle) (b.stop handle) := by
  unfold stop
  rw [partition?_congr same near]
  cases b.partition? handle with
  | none => exact ⟨rfl, same⟩
  | some partition =>
    dsimp only
    split
    · exact ⟨rfl, same⟩
    · cases partition.lifecycle with
      | shutDown => exact ⟨rfl, same⟩
      | ready => exact ⟨rfl, setLifecycle_congr (stopStore_congr same near) _⟩
      | creating => exact ⟨rfl, setLifecycle_congr same _⟩

theorem removeClient_congr (same : a.outlook client = b.outlook client) :
    EndSameOutlook client (a.removeClient (.quiet turns) client)
      (b.removeClient (.quiet turns) client) := by
  unfold removeClient
  rw [tracked?_congr same]
  cases tracked : b.tracked? client with
  | none => exact ⟨rfl, same⟩
  | some handle =>
    have near : handle.id.openTo client = true := by simp [id_of_tracked? tracked]
    have struck : (a.unregister (.quiet turns) client handle).outlook client =
        (b.unregister (.quiet turns) client handle).outlook client := unregister_congr turns same
    have stopped := stop_congr struck near
    simp only [stopped.result]
    split
    · exact ⟨rfl, by simpa using stopped.outlook⟩
    · exact stopped

theorem stopCounted_congr {count : Nat} (same : a.outlook client = b.outlook client)
    (near : handle.id.openTo client = true) (other : Nat) :
    (stopCounted (count, a) handle).2.outlook client =
      (stopCounted (other, b) handle).2.outlook client := by
  obtain ⟨ended, same⟩ := stop_congr same near
  simp only [stopCounted, ended]
  split
  · simpa using same
  · exact same

-- Only the client's own partition and the well-known ones matter among those that are shut down.
theorem stopAll_congr {handles : List Handle} (count other : Nat)
    (same : a.outlook client = b.outlook client) :
    (handles.foldl stopCounted (count, a)).2.outlook client =
      ((handles.filter (·.id.openTo client)).foldl stopCounted (other, b)).2.outlook client := by
  induction handles generalizing a b count other with
  | nil => exact same
  | cons handle rest ih =>
    rw [List.foldl_cons]
    cases near : handle.id.openTo client with
    | true =>
      rw [List.filter_cons, if_pos near, List.foldl_cons]
      exact ih _ _ (stopCounted_congr same near other)
    | false =>
      rw [List.filter_cons, if_neg (by simp [near])]
      exact ih _ _ ((outlook_stopCounted_away near).trans same)

theorem trackedHandles_congr (same : a.outlook client = b.outlook client) :
    a.clients.handles.filter (·.id.openTo client) =
      b.clients.handles.filter (·.id.openTo client) := by
  have own : a.clients.filter (decide <| · = client) = b.clients.filter (decide <| · = client) := by
    apply Clients.ext_find?
    intro other
    rw [Clients.find?_filter, Clients.find?_filter]
    by_cases own : other = client
    · simpa [own] using tracked?_congr same
    · simp [own]
  have near {directory : Directory MemoryFactory MemoryStore γ} {other : Hash} {handle : Handle}
      (tracked : directory.tracked? other = some handle) :
      decide (other = client) = handle.id.openTo client := by
    rw [id_of_tracked? tracked, PartitionId.openTo]
  rw [← Clients.handles_filter near, ← Clients.handles_filter near, own]

theorem shutdown_congr (same : a.outlook client = b.outlook client) :
    (a.shutdown (.quiet turns)).outlook client = (b.shutdown (.quiet turns)).outlook client := by
  have closed : (publish { a with closed := true, clients := ∅ } (.quiet turns)).outlook client =
      (publish { b with closed := true, clients := ∅ } (.quiet turns)).outlook client := by
    rw [outlook_publish, outlook_publish, outlook_close, outlook_close, same]
  simp only [shutdown, outlook_note]
  apply (stopAll_congr 0 0 closed).trans
  rw [List.filter_append, trackedHandles_congr same, ← List.filter_append]
  exact (stopAll_congr 0 0 rfl).symm

theorem resolve_congr (same : a.outlook client = b.outlook client) {id : Option PartitionId}
    (near : (id.getD (.wellKnown .main)).openTo client = true) :
    EndSameOutlook client (a.resolve (.quiet turns) id) (b.resolve (.quiet turns) id) := by
  match id with
  | none => exact ⟨rfl, same⟩
  | some (.wellKnown role) =>
    exact ⟨congrArg Except.ok ((progress_congr same).serving role), same⟩
  | some (.client other) =>
    obtain rfl : other = client := by simpa [PartitionId.openTo] using near
    simp only [resolve, isolated_congr same]
    split
    · exact clientWithin_congr turns same turns
    · exact ⟨rfl, same⟩

theorem clientPartition_congr (same : a.outlook client = b.outlook client)
    {id : Option PartitionId} (near : (id.getD (.wellKnown .exploratory)).openTo client = true) :
    EndSameOutlook client (a.clientPartition (.quiet turns) id)
      (b.clientPartition (.quiet turns) id) := by
  cases id with
  | none => exact ⟨by simp only [clientPartition, isolated_congr same], same⟩
  | some id => exact resolve_congr turns same near

theorem openTo_serving (directory : Directory MemoryFactory MemoryStore γ) (role : WellKnown) :
    (directory.serving role).id.openTo client = true := by
  cases role with
  | multihome => simp only [serving]; split <;> rfl
  | main => rfl
  | exploratory => rfl

theorem openTo_existing? {id : PartitionId} (near : id.openTo client = true)
    (found : a.existing? id = some handle) : handle.id.openTo client = true := by
  cases id with
  | wellKnown role =>
    obtain rfl : a.serving role = handle := Option.some.inj found
    exact openTo_serving a role
  | client other =>
    obtain rfl : other = client := by simpa [PartitionId.openTo] using near
    simp only [existing?] at found
    split at found
    · have tracked := (Option.filter_eq_some_iff.mp found).1
      simp [id_of_tracked? tracked]
    · obtain rfl := Option.some.inj found
      rfl

theorem openTo_consulted {question : Question} {id : PartitionId}
    (addressed : question.addressee = some id) (near : id.openTo client = true)
    (asked : handle ∈ a.consulted question) : handle.id.openTo client = true := by
  cases question <;> cases addressed
  case serving | existing | lifecycle => cases asked
  case lookupLeaseIn key id =>
    cases id with
    | none => exact List.mem_singleton.mp asked ▸ near
    | some id => exact openTo_existing? near (Option.mem_toList.mp asked)
  all_goals exact List.mem_singleton.mp asked ▸ near

theorem answer_congr (same : a.outlook client = b.outlook client) {question : Question}
    {id : PartitionId} (addressed : question.addressee = some id)
    (near : id.openTo client = true) : a.answer question = b.answer question := by
  refine (progress_congr same).same_answer (fun other concerned => ?_)
    (fun handle asked => reading_congr same (openTo_consulted addressed near asked))
    fun choosy => ?_
  · rw [concerned id addressed]
    exact near
  · cases (Question.addressee_of_choosy choosy).symm.trans addressed

theorem setIsolation_congr (same : a.outlook client = b.outlook client) (enabled : Bool) :
    (a.setIsolation enabled).outlook client = (b.setIsolation enabled).outlook client := by
  have changed (directory : Directory MemoryFactory MemoryStore γ) :
      (directory.setIsolation enabled).outlook client =
        { directory.outlook client with policy := (directory.policy.set enabled).2 } := by
    simp only [setIsolation]
    split <;> rfl
  have policy : a.policy = b.policy := congrArg Outlook.policy same
  rw [changed, changed, same, policy]

theorem outlook_tune (tuning : Tuning) :
    outlook client { a with factory := Backdoor.tune MemoryStore tuning a.factory } =
      { a.outlook client with
        failing := fun id =>
          if tuning.id = id ∧ id.openTo client then
            match tuning with
            | .fail _ => true
            | .allow _ => false
          else (a.outlook client).failing id } := by
  cases tuning <;>
    simp only [outlook, Backdoor.tune, MemoryFactory.fail, MemoryFactory.allow, Outlook.mk.injEq,
      and_self, and_true, true_and]
  case fail given =>
    funext id
    by_cases here : given = id <;> cases near : id.openTo client <;>
      simp [here, Std.ExtTreeSet.contains_insert, Tuning.id]
  case allow given =>
    funext id
    by_cases here : given = id <;> cases near : id.openTo client <;>
      simp [here, Std.ExtTreeSet.contains_erase, Tuning.id]

end Near

end PeerDirectory.Directory

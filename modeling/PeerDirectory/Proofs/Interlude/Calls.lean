import PeerDirectory.Proofs.Interlude.AgreeOnKept

namespace PeerDirectory.Directory

variable {φ σ τ υ γ δ : Type} {kept : Handle → Prop} {left : Directory φ σ γ}
  {right : Directory φ σ δ} {handle : Handle} {client : Hash} [PartitionStore σ]

theorem partition?_seed_of_ne {directory : Directory φ σ γ} {other : Handle}
    (apart : other ≠ handle) :
    (directory.seed handle).partition? other = directory.partition? other := by
  have store := (within_seed directory handle).others apart
  have stage := congrFun (congrArg Shape.stages (shape_seed directory handle)) other
  simp only [shape_stages, stage?] at stage
  unfold store? at store
  generalize (directory.seed handle).partition? other = after at *
  generalize directory.partition? other = before at *
  cases before with
  | none => simpa using store
  | some one =>
    cases after with
    | none => cases store
    | some two =>
      obtain ⟨_, _, _⟩ := one
      obtain ⟨_, _, _⟩ := two
      simp_all

namespace AgreeOnKept

theorem becomeReady (agree : AgreeOnKept kept left right) {locked : Bool}
    (stands : left.stage? handle = some (.creating, locked)) :
    AgreeOnKept kept ((left.seed handle).setLifecycle handle .ready)
      ((right.seed handle).setLifecycle handle .ready) := by
  have stages {ε : Type} (directory : Directory φ σ ε) (other : Handle) :
      ((directory.seed handle).setLifecycle handle .ready).stage? other =
        if other = handle then (directory.stage? handle).map fun current => (.ready, current.2)
        else directory.stage? other := by
    have seeded : (directory.seed handle).stage? = directory.stage? :=
      congrArg Shape.stages (shape_seed directory handle)
    have changed := congrFun (congrArg Shape.stages
      (shape_setLifecycle (directory.seed handle) handle .ready)) other
    simpa only [shape_stages, seeded, Function.update_apply] using changed
  have away {ε : Type} (directory : Directory φ σ ε) {other : Handle} (apart : other ≠ handle) :
      ((directory.seed handle).setLifecycle handle .ready).partition? other =
        directory.partition? other := by
    rw [Directory.setLifecycle, partition?_modify, if_neg apart, partition?_seed_of_ne apart]
  have one := within_seed left handle
  have two := within_seed right handle
  have calm : (right.seed handle).stuck = (left.seed handle).stuck := by
    rw [stuck_eq_of_shape (shape_seed right handle), stuck_eq_of_shape (shape_seed left handle),
      agree.stuck]
  refine ⟨?_, ?_, ?_, ?_, calm, fun other => ?_, fun {other} also => ?_, fun {other} spared => ?_⟩
  · exact two.factory.trans (agree.factory.trans one.factory.symm)
  · exact two.clients.trans (agree.clients.trans one.clients.symm)
  · exact two.policy.trans (agree.policy.trans one.policy.symm)
  · exact two.closed.trans (agree.closed.trans one.closed.symm)
  · simp only [stages, agree.stages]
  · obtain ⟨stage, locked, found, begun⟩ := agree.begun also
    have apart : other ≠ handle := fun same => agree.not_begun stands (same ▸ also)
    exact ⟨stage, locked, by rw [stages, if_neg apart, found], begun⟩
  · have apart : other ≠ handle := by
      rintro rfl
      rcases spared with also | ⟨client, locked, -, creating⟩
      · exact agree.not_begun stands also
      · simp [stages, stands] at creating
    rw [away left apart, away right apart]
    apply agree.alike
    apply spared.imp_right
    rintro ⟨client, locked, named, found⟩
    rw [stages, if_neg apart] at found
    exact ⟨client, locked, named, found⟩

theorem goLive (agree : AgreeOnKept kept left right) {locked : Bool}
    (stands : left.stage? handle = some (.creating, locked)) :
    AgreeOnKept kept (left.goLive handle) (right.goLive handle) :=
  ((agree.becomeReady stands).count (.created handle.id.kind) (.created handle.id.kind) 1 1).note
    _ _

theorem startStore (agree : AgreeOnKept kept left right) (handle : Handle) :
    AgreeOnKept kept (left.startStore (.quiet 0) handle).2 (right.startStore (.quiet 0) handle).2 :=
  agree.operate handle _ _

theorem settle (agree : AgreeOnKept kept left right)
    (stands : left.stage? handle = some (.creating, true))
    (tracked : left.tracked? client = some handle) :
    EndAgreeOnKept kept (left.settle client handle) (right.settle client handle) := by
  have spared : Spared kept left handle := Or.inr ⟨client, true, id_of_tracked? tracked, stands⟩
  have result : (right.startStore (.quiet 0) handle).1 = (left.startStore (.quiet 0) handle).1 :=
    agree.result_operate spared _ _
  have started := agree.startStore handle
  have still : (left.startStore (.quiet 0) handle).2.stage? handle = some (.creating, true) :=
    (congrFun (congrArg Shape.stages (shape_startStore_quiet left handle 0)) handle).trans stands
  simp only [Directory.settle, bringUp_eq, agree.closed, result]
  split
  · exact ⟨rfl, (agree.giveUp client handle).setLocked handle false⟩
  · split
    · exact ⟨rfl, ((started.giveUp client handle).note _ _).setLocked handle false⟩
    · exact ⟨rfl, (started.goLive still).setLocked handle false⟩

theorem stop (agree : AgreeOnKept kept left right) (handle : Handle) :
    EndAgreeOnKept kept (left.stop handle) (right.stop handle) := by
  have stages := agree.stages handle
  unfold Directory.stop
  unfold stage? at stages
  generalize here : left.partition? handle = one at *
  generalize there : right.partition? handle = other at *
  cases one with
  | none =>
    obtain rfl : other = none := by simpa using stages
    exact ⟨rfl, agree⟩
  | some one =>
    cases other with
    | none => cases stages
    | some other =>
      obtain ⟨lifecycle, locked⟩ := Prod.mk.inj (Option.some.inj stages)
      simp only [lifecycle, locked]
      split
      · exact ⟨rfl, agree.wait⟩
      · split
        · exact ⟨rfl, agree⟩
        · rw [stopStore_eq, stopStore_eq]
          exact ⟨rfl, (agree.operate handle _ _).setLifecycle handle (by decide)⟩
        · exact ⟨rfl, agree.setLifecycle handle (by decide)⟩

theorem removeClient (agree : AgreeOnKept kept left right) (client : Hash) :
    EndAgreeOnKept kept (left.removeClient (.quiet 0) client)
      (right.removeClient (.quiet 0) client) := by
  simp only [Directory.removeClient, agree.tracked?]
  split
  · exact ⟨rfl, agree.note _ _⟩
  · rename_i handle _
    have stopped := (agree.unregister client handle).stop handle
    simp only [stopped.result]
    split
    · exact ⟨rfl, (stopped.agree.count _ _ 1 1).note _ _⟩
    · exact stopped

theorem stopAll (handles : List Handle) {one : Nat × Directory φ σ γ}
    {other : Nat × Directory φ σ δ} (ended : EndAgreeOnKept kept one other) :
    EndAgreeOnKept kept (handles.foldl stopCounted one) (handles.foldl stopCounted other) := by
  induction handles generalizing one other with
  | nil => exact ended
  | cons handle rest ih =>
    apply ih
    have stopped := ended.agree.stop handle
    simp only [stopCounted, stopped.result, ended.result]
    split
    · exact ⟨rfl, (stopped.agree.count _ _ 1 1).note _ _⟩
    · exact ⟨rfl, stopped.agree⟩

theorem shutdown (agree : AgreeOnKept kept left right) :
    AgreeOnKept kept (left.shutdown (.quiet 0)) (right.shutdown (.quiet 0)) := by
  have begun : EndAgreeOnKept kept
      ((0, { left with closed := true, clients := ∅ }.publish (.quiet 0)) : Nat × Directory φ σ γ)
      (0, { right with closed := true, clients := ∅ }.publish (.quiet 0)) :=
    ⟨rfl, { agree with closed := rfl, clients := rfl }⟩
  simp only [Directory.shutdown, agree.clients]
  exact (stopAll _ begun).agree.note _ _

end AgreeOnKept

def Call.rests (kept : Handle → Prop) (directory : Directory φ σ γ) : Call τ υ → Prop
  | .resolve _ | .clientPartition _ | .ask (.serving _) | .ask (.existing _) => True
  | .ask (.lookupLeaseIn _ (some id)) =>
    ∀ handle, directory.existing? id = some handle → kept handle
  | .ask question => ∃ handle, question.reaches = some handle ∧ kept handle
  | .insert handle _ _ | .touch handle _ | .startStore handle => kept handle
  | _ => False

namespace AgreeOnKept

variable [StoreFactory φ σ] [Backdoor φ σ τ υ]

theorem act (agree : AgreeOnKept kept left right) {call : Call τ υ} (plain : call.plain = true) :
    AgreeOnKept kept (left.perform (.quiet 0) call).2 (right.perform (.quiet 0) call).2 := by
  cases call with
  | resolve id => cases plain
  | clientPartition id => cases plain
  | startStore handle => cases plain
  | removeClient client => exact (agree.removeClient client).agree
  | shutdown => exact agree.shutdown
  | setIsolation enabled =>
    have changed : AgreeOnKept kept { left with policy := ⟨enabled⟩ }
        { right with policy := ⟨enabled⟩ } := { agree with policy := rfl }
    have same : right.policy.enabled = left.policy.enabled := agree.isolated
    simp only [perform, setIsolation, IsolationPolicy.set, same]
    by_cases still : left.policy.enabled = enabled
    · simpa only [still, if_true] using changed
    · simpa only [still, if_false] using changed.note _ _
  | findLease key =>
    simp only [perform, findLease_after]
    exact agree.count _ _ 1 1
  | ask question => exact agree
  | insert handle key entry =>
    simp only [perform, insert_eq]
    exact agree.operate handle _ _
  | session client opened => exact { agree with }
  | tune tuning => exact { agree with factory := congrArg _ agree.factory }
  | touch handle touch =>
    simp only [perform, touchStore_eq]
    exact agree.operate handle _ _
  | stopStore handle =>
    simp only [perform, stopStore_eq]
    exact agree.operate handle _ _

omit [StoreFactory φ σ] [Backdoor φ σ τ υ] in
theorem answer (agree : AgreeOnKept kept left right) {question : Question}
    (rests : Call.rests (τ := τ) (υ := υ) kept left (.ask question)) :
    right.answer question = left.answer question := by
  refine agree.progress.same_answer (fun _ _ => trivial) (fun handle asked => ?_) fun choosy => ?_
  · apply agree.reading
    refine Or.inl ?_
    cases question with
    | serving | existing => cases asked
    | lookupLeaseIn key id =>
      cases id with
      | none =>
        obtain ⟨found, impossible, -⟩ := rests
        cases impossible
      | some id => exact rests handle (Option.mem_toList.mp asked)
    | _ =>
      obtain ⟨found, reaches, also⟩ := rests
      rw [consulted_of_reaches reaches] at asked
      exact List.mem_singleton.mp asked ▸ also
  · cases question with
    | ownerOf | clientIdsFor =>
      obtain ⟨found, impossible, -⟩ := rests
      cases impossible
    | _ => cases choosy

theorem response (agree : AgreeOnKept kept left right) {call : Call τ υ} (plain : call.plain = true)
    (rests : call.rests kept left) :
    (right.perform (.quiet 0) call).1 = (left.perform (.quiet 0) call).1 := by
  cases call with
  | resolve id => cases plain
  | clientPartition id => cases plain
  | startStore handle => cases plain
  | ask question => exact agree.answer rests
  | insert handle key entry =>
    simp only [perform, insert_eq, agree.result_operate (Or.inl rests)]
  | touch handle touch =>
    simp only [perform, touchStore_eq, agree.result_operate (Or.inl rests)]
  | _ => cases rests

end AgreeOnKept

end PeerDirectory.Directory

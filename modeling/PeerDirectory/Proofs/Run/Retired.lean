import PeerDirectory.Proofs.Run.Roster

namespace PeerDirectory.Directory

section Shapes

variable {γ : Type} {shape : Shape γ} {handle other : Handle}

def Spent (shape : Shape γ) (handle : Handle) : Prop :=
  ∃ stage, stage ≠ .ready ∧ shape.stages handle = some (stage, false)

theorem Spent.not_busy {busy : List Handle} (spent : Spent shape handle)
    (orderly : Orderly busy shape) : handle ∉ busy := by
  obtain ⟨stage, -, stands⟩ := spent
  intro starting
  cases (orderly.starting starting).symm.trans stands

theorem Spent.ne_of_fresh (spent : Spent shape handle) (fresh : shape.stages other = none) :
    handle ≠ other := by
  obtain ⟨stage, -, stands⟩ := spent
  rintro rfl
  cases fresh.symm.trans stands

theorem Spent.update (spent : Spent shape handle) (apart : handle ≠ other)
    {stage : Option (Lifecycle × Bool)} {clients : Clients} :
    Spent { shape with stages := Function.update shape.stages other stage, clients } handle := by
  obtain ⟨current, idle, stands⟩ := spent
  exact ⟨current, idle, (Function.update_of_ne apart ..).trans stands⟩

theorem Spent.idle {φ σ : Type} {directory : Directory φ σ γ}
    (spent : Spent directory.shape handle) :
    directory.isReady handle = false := by
  obtain ⟨stage, idle, stands⟩ := spent
  refine isReady_eq_false fun locked ready => idle ?_
  exact congrArg Prod.fst (Option.some.inj (stands.symm.trans ready))

end Shapes

section Moves

variable {φ σ τ υ : Type} [PartitionStore σ] [StoreFactory φ σ] [Backdoor φ σ τ υ]
  {permitted : Call τ υ → Prop} {run : Run φ σ τ υ} {handle : Handle}

theorem spent_act {call : Call τ υ} (spent : Spent run.shape handle) (plain : call.plain = true)
    (unstuck : (run.perform (.quiet 0) call).2.stuck = false) :
    Spent (run.perform (.quiet 0) call).2.shape handle := by
  cases call with
  | resolve id => cases plain
  | clientPartition id => cases plain
  | startStore handle => cases plain
  | removeClient client =>
    cases tracked : run.tracked? client with
    | none =>
      simp only [perform, removeClient, tracked]
      exact spent
    | some other =>
      simp only [perform, (removeClient_of_unstuck tracked unstuck).2]
      by_cases same : handle = other
      · subst same
        obtain ⟨stage, -, stands⟩ := spent
        have stands : run.stage? handle = some (stage, false) := stands
        exact ⟨.shutDown, by decide, by simp [stands]⟩
      · exact spent.update same
  | shutdown =>
    simp only [perform, (shutdown_of_unstuck unstuck).2]
    obtain ⟨stage, idle, stands⟩ := spent
    have stands : run.stage? handle = some (stage, false) := stands
    by_cases standing : handle ∈ run.standing
    · exact ⟨.shutDown, by decide, by simp [standing, stands]⟩
    · exact ⟨stage, idle, by simp [standing, stands]⟩
  | ask question => exact spent
  | session client opened => exact spent
  | tune tuning => exact spent
  | setIsolation enabled => simpa [perform] using spent
  | findLease key => simpa [perform, shape_findLease] using spent
  | insert handle key entry => simpa [perform] using spent
  | touch handle touch => simpa [perform] using spent
  | stopStore handle => simpa [perform] using spent

theorem Move.spent {a b : Position φ σ τ υ} (move : Move permitted a b)
    (orderly : Orderly a.busy a.run.shape) (spent : Spent a.run.shape handle) :
    Spent b.run.shape handle := by
  cases move with
  | begin => exact spent
  | reply => exact spent
  | enter => exact spent
  | leave => exact spent
  | act call allowed plain covered unstuck => exact spent_act spent plain unstuck
  | drive other allowed => simpa using spent
  | discard client other tracked =>
    rw [(register_quiet_of_tracked 0 tracked).2]
    exact spent.update (spent.ne_of_fresh (stage?_next _))
  | refuse client untracked closed =>
    rw [(refuse_of_closed untracked closed).2]
    exact spent.update (spent.ne_of_fresh (stage?_next _))
  | launch client untracked opened =>
    rw [shape_launch untracked]
    exact spent.update (spent.ne_of_fresh (stage?_next _))
  | settle client other named =>
    have stands := orderly.starting List.mem_cons_self
    have tracked := orderly.tracked_of_busy List.mem_cons_self named
    have apart : handle ≠ other := by
      rintro rfl
      exact spent.not_busy orderly List.mem_cons_self
    rcases settle_cases stands tracked with ⟨-, -, settled⟩ | ⟨-, settled⟩
    · rw [settled]
      exact spent.update apart
    · rw [settled]
      exact spent.update apart

theorem Path.spent {a b : Position φ σ τ υ} (path : Path permitted a b)
    (orderly : Orderly a.busy a.run.shape) (spent : Spent a.run.shape handle) :
    Spent b.run.shape handle := by
  induction path with
  | refl => exact spent
  | tail path move ih => exact move.spent (Path.orderly path orderly) ih

end Moves

def Vouched (found : Vitals × Lifecycle) : Prop :=
  found.2 = .ready ∨ found.2 = .shutDown ∧ found.1.stopped = true

def Lent (vitals : Handle → Option (Vitals × Lifecycle)) (handle : Handle) : Prop :=
  ∃ found, vitals handle = some found ∧ Vouched found

section Changes

variable {vitals : Handle → Option (Vitals × Lifecycle)} {handle other : Handle}

theorem Lent.update (lent : Lent vitals handle) (apart : handle ≠ other)
    (next : Option (Vitals × Lifecycle)) : Lent (Function.update vitals other next) handle := by
  obtain ⟨found, here, vouched⟩ := lent
  exact ⟨found, (Function.update_of_ne apart ..).trans here, vouched⟩

theorem Lent.map (lent : Lent vitals handle) {change : Vitals × Lifecycle → Vitals × Lifecycle}
    (keeps : ∀ found, vitals handle = some found → Vouched found → Vouched (change found)) :
    Lent (Function.update vitals other ((vitals other).map change)) handle := by
  by_cases same : handle = other
  · subst same
    obtain ⟨found, here, vouched⟩ := lent
    exact ⟨change found, by simp [here], keeps found here vouched⟩
  · exact lent.update same _

end Changes

section Keeping

variable {γ : Type} {directory : Directory MemoryFactory MemoryStore γ} {handle other : Handle}
  {client : Hash}

theorem vitals?_startStore_of_ne (apart : handle ≠ other) (turns : Nat) :
    (directory.startStore (.quiet turns) other).2.vitals? handle = directory.vitals? handle := by
  simp only [startStore]
  split
  · rfl
  · rw [setStore, vitals?_modify]
    exact Function.update_of_ne apart ..

theorem lent_startStore (other : Handle) (lent : Lent directory.vitals? handle) :
    Lent (directory.startStore (.quiet 0) other).2.vitals? handle := by
  by_cases same : handle = other
  · subst same
    obtain ⟨found, here, vouched⟩ := lent
    obtain ⟨partition, present, rfl⟩ := Option.map_eq_some_iff.mp here
    refine ⟨(partition.store.startup.2.vitals, partition.lifecycle), ?_, ?_⟩
    · simp only [startStore, Surroundings.quiet, store?, present, Option.map_some]
      rw [setStore, vitals?_modify, present]
      exact Function.update_self ..
    · exact vouched.imp_right fun down => ⟨down.1, partition.store.stopped_startup.trans down.2⟩
  · obtain ⟨found, here, vouched⟩ := lent
    exact ⟨found, (vitals?_startStore_of_ne same 0).trans here, vouched⟩

theorem lent_stopStore (lent : Lent directory.vitals? handle) :
    Lent (directory.stopStore other).vitals? handle := by
  rw [vitals?_stopStore]
  exact lent.map fun _ _ vouched => vouched.imp_right fun down => ⟨down.1, rfl⟩

theorem lent_stop (other : Handle) (lent : Lent directory.vitals? handle) :
    Lent (directory.stop other).2.vitals? handle := by
  unfold stop
  cases here : directory.partition? other with
  | none => exact lent
  | some partition =>
    dsimp only
    split
    · exact lent
    · split
      · exact lent
      · rw [vitals?_setLifecycle, vitals?_stopStore]
        by_cases same : handle = other
        · subst same
          obtain ⟨found, present, -⟩ := lent
          exact ⟨({ found.1 with stopped := true }, .shutDown), by simp [present],
            Or.inr ⟨rfl, rfl⟩⟩
        · exact (lent.update same _).update same _
      · rename_i building
        have apart : handle ≠ other := by
          rintro rfl
          obtain ⟨found, present, vouched⟩ := lent
          obtain rfl : _ = found := by simpa [vitals?, here] using present
          rcases vouched with ready | ⟨down, -⟩
          · cases building.symm.trans ready
          · cases building.symm.trans down
        rw [vitals?_setLifecycle]
        exact lent.update apart _

theorem lent_stopAll (handles : List Handle)
    {sofar : Nat × Directory MemoryFactory MemoryStore γ} (lent : Lent sofar.2.vitals? handle) :
    Lent (handles.foldl stopCounted sofar).2.vitals? handle := by
  induction handles generalizing sofar with
  | nil => exact lent
  | cons other rest ih =>
    apply ih
    have stopped := lent_stop other lent
    simp only [stopCounted]
    split
    · exact stopped
    · exact stopped

theorem lent_act {call : Call Tuning Blinding} (lent : Lent directory.vitals? handle)
    (plain : call.plain = true) : Lent (directory.perform (.quiet 0) call).2.vitals? handle := by
  cases call with
  | resolve id => cases plain
  | clientPartition id => cases plain
  | startStore handle => cases plain
  | stopStore handle => exact lent_stopStore lent
  | removeClient client =>
    simp only [perform, removeClient]
    split
    · exact lent
    · have stopped := fun other => lent_stop other
        ((directory.vitals?_unregister_quiet other client 0).symm ▸ lent)
      split
      · exact stopped _
      · exact stopped _
  | shutdown => exact lent_stopAll _ lent
  | setIsolation enabled =>
    simp only [perform, setIsolation]
    split
    · exact lent
    · exact lent
  | findLease key =>
    simp only [perform, findLease_after]
    exact lent
  | ask question => exact lent
  | insert handle key entry => simpa only [perform, vitals?_insert] using lent
  | session client opened => exact lent
  | tune tuning => exact lent
  | touch handle data => simpa only [perform, vitals?_touchStore] using lent

theorem Lent.ne_next (lent : Lent directory.vitals? handle) (id : PartitionId) :
    handle ≠ directory.partitions.next id := by
  rintro rfl
  obtain ⟨found, here, -⟩ := lent
  simp [vitals?, partition?, Registry.get?_next] at here

theorem lent_register (lent : Lent directory.vitals? handle) :
    Lent (directory.register (.quiet 0) client).2.vitals? handle := by
  rw [vitals?_register_quiet]
  exact lent.update (lent.ne_next _) _

theorem lent_launch (lent : Lent directory.vitals? handle) :
    Lent (directory.launch client).vitals? handle := by
  rw [launch, vitals?_setLocked]
  exact lent_register lent

theorem lent_settle (apart : handle ≠ other) (lent : Lent directory.vitals? handle) :
    Lent (directory.settle client other).2.vitals? handle := by
  have finished {ended : Directory MemoryFactory MemoryStore γ} (stage : Lifecycle)
      (lent : Lent ended.vitals? handle) : Lent (ended.setLifecycle other stage).vitals? handle := by
    rw [vitals?_setLifecycle]
    exact lent.update apart _
  cases closed : directory.closed with
  | true =>
    rw [vitals?_settle_of_closed _ _ closed]
    exact finished .shutDown lent
  | false =>
    rw [vitals?_settle _ _ closed]
    exact finished _ (lent_startStore other lent)

theorem Move.lent {permitted : Call Tuning Blinding → Prop}
    {a b : Position MemoryFactory MemoryStore Tuning Blinding} (move : Move permitted a b)
    (orderly : Orderly a.busy a.run.shape) (lent : Lent a.run.vitals? handle) :
    Lent b.run.vitals? handle := by
  cases move with
  | begin => exact lent
  | act call allowed plain covered unstuck => exact lent_act lent plain
  | reply => exact lent
  | enter => exact lent
  | leave => exact lent
  | drive other allowed => exact lent_startStore other lent
  | discard client other tracked => exact lent_register lent
  | refuse client untracked closed => exact lent_settle (lent.ne_next _) (lent_launch lent)
  | launch client untracked opened => exact lent_launch lent
  | settle client other named =>
    refine lent_settle ?_ lent
    rintro rfl
    obtain ⟨found, here, vouched⟩ := lent
    obtain ⟨_, -, -, starting⟩ := vitals?_of_stage? (orderly.starting List.mem_cons_self)
    obtain rfl := Option.some.inj (starting.symm.trans here)
    rcases vouched with ready | ⟨down, -⟩
    · cases ready
    · cases down

end Keeping

end PeerDirectory.Directory

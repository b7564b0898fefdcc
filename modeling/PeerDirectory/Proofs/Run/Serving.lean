import PeerDirectory.Proofs.Run.Move

namespace PeerDirectory.Directory

structure Serves {γ : Type} (shape : Shape γ) (client : Hash) (handle : Handle) : Prop where
  tracked : shape.clients.find? client = some handle
  ready : shape.stages handle = some (.ready, false)

section Serves

variable {γ : Type} {shape : Shape γ} {client other : Hash} {handle away : Handle}
  {stage : Option (Lifecycle × Bool)}

theorem Serves.update (serves : Serves shape client handle) (apart : handle ≠ away) :
    Serves { shape with stages := Function.update shape.stages away stage } client handle :=
  ⟨serves.tracked, by simpa [apart] using serves.ready⟩

theorem Serves.insert (serves : Serves shape client handle) (apart : client ≠ other)
    (own : away.id = .client other) :
    Serves { shape with clients := shape.clients.insert other away own } client handle :=
  ⟨by simpa [Clients.find?_insert, apart] using serves.tracked, serves.ready⟩

theorem Serves.erase (serves : Serves shape client handle) (apart : client ≠ other) :
    Serves { shape with clients := shape.clients.erase other } client handle :=
  ⟨by simpa [Clients.find?_erase, apart] using serves.tracked, serves.ready⟩

theorem Serves.ne_of_untracked (serves : Serves shape client handle)
    (untracked : shape.clients.find? other = none) : client ≠ other := by
  rintro rfl
  cases serves.tracked.symm.trans untracked

theorem Serves.ne_of_fresh (serves : Serves shape client handle)
    (fresh : shape.stages away = none) : handle ≠ away := by
  rintro rfl
  cases serves.ready.symm.trans fresh

theorem Serves.ne_of_tracked (serves : Serves shape client handle)
    (tracked : shape.clients.find? other = some away) (apart : handle ≠ away) :
    client ≠ other := by
  rintro rfl
  exact apart (Option.some.inj (serves.tracked.symm.trans tracked))

end Serves

variable {φ σ τ υ : Type} [PartitionStore σ] [StoreFactory φ σ] [Backdoor φ σ τ υ]
  {permitted : Call τ υ → Prop} {run : Run φ σ τ υ} {client other : Hash} {handle : Handle}

omit [StoreFactory φ σ] [Backdoor φ σ τ υ] in
theorem Serves.removeClient (serves : Serves run.shape client handle) (apart : client ≠ other)
    (unstuck : (run.removeClient (.quiet 0) other).2.stuck = false) :
    Serves (run.removeClient (.quiet 0) other).2.shape client handle := by
  cases tracked : run.tracked? other with
  | none =>
    simp only [Directory.removeClient, tracked]
    exact serves
  | some away =>
    have distant : handle ≠ away := by
      rintro rfl
      have named := (Clients.id_of_find? serves.tracked).symm.trans (id_of_tracked? tracked)
      exact apart (PartitionId.client.inj named)
    rw [(removeClient_of_unstuck tracked unstuck).2]
    exact (serves.update distant).erase apart

theorem serves_act {call : Call τ υ} (serves : Serves run.shape client handle)
    (plain : call.plain = true) (unstuck : (run.perform (.quiet 0) call).2.stuck = false) :
    Serves (run.perform (.quiet 0) call).2.shape client handle ∨
      call = .removeClient client ∨ call = .shutdown := by
  cases call with
  | resolve id => cases plain
  | clientPartition id => cases plain
  | startStore handle => cases plain
  | removeClient other =>
    by_cases same : client = other
    · exact Or.inr (Or.inl (by rw [same]))
    · exact Or.inl (serves.removeClient same unstuck)
  | shutdown => exact Or.inr (Or.inr rfl)
  | ask question => exact Or.inl serves
  | session client opened => exact Or.inl ⟨serves.tracked, serves.ready⟩
  | tune tuning => exact Or.inl ⟨serves.tracked, serves.ready⟩
  | setIsolation enabled => exact Or.inl (by simpa [perform] using serves)
  | findLease key => exact Or.inl (by simpa [perform, shape_findLease] using serves)
  | insert handle key entry => exact Or.inl (by simpa [perform] using serves)
  | touch handle touch => exact Or.inl (by simpa [perform] using serves)
  | stopStore handle => exact Or.inl (by simpa [perform] using serves)

theorem Move.serves {a b : Position φ σ τ υ} (move : Move permitted a b)
    (orderly : Orderly a.busy a.run.shape) (serves : Serves a.run.shape client handle) :
    Serves b.run.shape client handle ∨
      ∃ call response moments, (call = .removeClient client ∨ call = .shutdown) ∧
        b.run.outside.points = a.run.outside.points ++
          [⟨.ends call a.run.snapshot response, moments, b.run.snapshot⟩] := by
  cases move with
  | begin => exact Or.inl ⟨serves.tracked, serves.ready⟩
  | reply => exact Or.inl ⟨serves.tracked, serves.ready⟩
  | enter => exact Or.inl ⟨serves.tracked, serves.ready⟩
  | leave => exact Or.inl ⟨serves.tracked, serves.ready⟩
  | act call allowed plain covered unstuck =>
    rcases serves_act serves plain unstuck with still | ends
    · exact Or.inl ⟨still.tracked, still.ready⟩
    · exact Or.inr ⟨call, _, _, ends, congrArg (·.points ++ _) (outside_act plain unstuck)⟩
  | @drive busy run handle allowed =>
    left
    simpa using serves
  | discard other tracked' tracked =>
    left
    rw [(register_quiet_of_tracked 0 tracked).2]
    exact serves.update (serves.ne_of_fresh (stage?_next _))
  | refuse other untracked closed =>
    left
    rw [(refuse_of_closed untracked closed).2]
    exact serves.update (serves.ne_of_fresh (stage?_next _))
  | launch other untracked opened =>
    left
    rw [shape_launch untracked]
    exact (serves.update (serves.ne_of_fresh (stage?_next _))).insert
      (serves.ne_of_untracked untracked) _
  | settle other starting named =>
    left
    have stands := orderly.starting List.mem_cons_self
    have tracked := orderly.tracked_of_busy List.mem_cons_self named
    have distant : handle ≠ starting := by
      rintro rfl
      cases serves.ready.symm.trans stands
    rcases settle_cases stands tracked with ⟨-, -, settled⟩ | ⟨-, settled⟩
    · rw [settled]
      exact serves.update distant
    · rw [settled]
      exact (serves.update distant).erase (serves.ne_of_tracked tracked distant)

theorem closed_act {call : Call τ υ} (plain : call.plain = true)
    (unstuck : (run.perform (.quiet 0) call).2.stuck = false) :
    (run.perform (.quiet 0) call).2.closed = run.closed ∨
      call = .shutdown ∧ (run.perform (.quiet 0) call).2.closed = true := by
  cases call with
  | resolve id => cases plain
  | clientPartition id => cases plain
  | startStore handle => cases plain
  | removeClient client =>
    left
    cases tracked : run.tracked? client with
    | none =>
      simp only [perform, Directory.removeClient, tracked]
      rfl
    | some handle => exact congrArg Shape.closed (removeClient_of_unstuck tracked unstuck).2
  | shutdown => exact Or.inr ⟨rfl, congrArg Shape.closed (shutdown_of_unstuck unstuck).2⟩
  | setIsolation enabled => exact Or.inl (congrArg Shape.closed (shape_setIsolation run enabled))
  | findLease key => exact Or.inl (congrArg Shape.closed (shape_findLease run key))
  | insert handle key entry =>
    exact Or.inl (congrArg Shape.closed (shape_insert run handle key entry))
  | touch handle touch => exact Or.inl (congrArg Shape.closed (shape_touchStore run handle touch))
  | stopStore handle => exact Or.inl (congrArg Shape.closed (shape_stopStore run handle))
  | ask question => exact Or.inl rfl
  | session client opened => exact Or.inl rfl
  | tune tuning => exact Or.inl rfl

theorem Move.closed_cases {a b : Position φ σ τ υ} (move : Move permitted a b)
    (orderly : Orderly a.busy a.run.shape) :
    b.run.closed = a.run.closed ∨
      b.run.closed = true ∧ ∃ point : Point φ σ τ υ, point.closes = true ∧
        b.run.outside.points = a.run.outside.points ++ [point] := by
  cases move with
  | begin => exact Or.inl rfl
  | reply => exact Or.inl rfl
  | enter => exact Or.inl rfl
  | leave => exact Or.inl rfl
  | act call allowed plain covered unstuck =>
    rcases closed_act plain unstuck with same | ⟨rfl, closed⟩
    · exact Or.inl same
    · exact Or.inr ⟨closed, _, rfl, congrArg (·.points ++ _) (outside_act plain unstuck)⟩
  | @drive busy run handle allowed =>
    exact Or.inl (congrArg Shape.closed (shape_startStore_quiet run handle 0))
  | discard client handle tracked =>
    exact Or.inl (congrArg Shape.closed (register_quiet_of_tracked 0 tracked).2)
  | refuse client untracked closed =>
    exact Or.inl (congrArg Shape.closed (refuse_of_closed untracked closed).2)
  | launch client untracked opened => exact Or.inl (congrArg Shape.closed (shape_launch untracked))
  | settle client handle named =>
    have stands := orderly.starting List.mem_cons_self
    have tracked := orderly.tracked_of_busy List.mem_cons_self named
    rcases settle_cases stands tracked with ⟨-, -, settled⟩ | ⟨-, settled⟩
    · exact Or.inl (congrArg Shape.closed settled)
    · exact Or.inl (congrArg Shape.closed settled)

theorem Move.closed {a b : Position φ σ τ υ} (move : Move permitted a b)
    (orderly : Orderly a.busy a.run.shape) (closed : a.run.closed = true) :
    b.run.closed = true := by
  rcases move.closed_cases orderly with same | ⟨still, -⟩
  · exact same.trans closed
  · exact still

def Attested (run : Run φ σ τ υ) : Prop :=
  run.closed = true ↔ ∃ past ∈ run.outside.points, past.closes = true

theorem Move.attested {a b : Position φ σ τ υ} (move : Move permitted a b)
    (orderly : Orderly a.busy a.run.shape) (attested : Attested a.run) : Attested b.run := by
  constructor
  · intro closed
    rcases move.closed_cases orderly with same | ⟨-, point, closes, longer⟩
    · obtain ⟨past, member, closes⟩ := attested.mp (same.symm.trans closed)
      exact ⟨past, (Path.grows (.single move) orderly).subset member, closes⟩
    · exact ⟨point, by rw [longer]; exact List.mem_append_right _ (List.mem_singleton_self _),
        closes⟩
  · rintro ⟨past, member, closes⟩
    have before (member : past ∈ a.run.outside.points) : b.run.closed = true :=
      move.closed orderly (attested.mpr ⟨past, member, closes⟩)
    rcases move.points orderly with same | ⟨event, moments, added, -, truthful⟩
    · exact before (same ▸ member)
    · rw [added, List.mem_append, List.mem_singleton] at member
      rcases member with earlier | rfl
      · exact before earlier
      · obtain ⟨given, response, ended⟩ := Point.ends_of_closes closes
        exact truthful.closed ended

end PeerDirectory.Directory

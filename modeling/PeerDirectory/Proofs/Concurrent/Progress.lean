import PeerDirectory.Proofs.Concurrent.Steps
import Mathlib.Algebra.Order.BigOperators.Group.Finset
import Mathlib.Data.Fintype.Card

namespace PeerDirectory

def Phase.rank : Phase → Nat
  | .route => 14
  | .check => 13
  | .load => 12
  | .create => 11
  | .enroll _ => 10
  | .glance _ => 9
  | .acquire _ => 8
  | .inspect _ => 7
  | .recheck _ => 6
  | .startup _ => 5
  | .seed _ | .strike _ _ => 4
  | .ready _ | .shut _ _ => 3
  | .release _ _ => 2
  | .retry _ => 1
  | .done _ => 0

namespace View

variable {n : Nat} {client : Hash} {fresh : Handle → Prop} {view next : View n} {thread : Fin n}

def turns (view : View n) (thread : Fin n) : Nat := (view.stale thread).length + 1

def ahead (view : View n) (thread : Fin n) : Nat :=
  (n - view.turns thread) * 13 + (view.phases thread).rank

theorem Sound.turns_le (sound : Sound client fresh view) (thread : Fin n) :
    view.turns thread ≤ n := by
  -- Every partition that the thread gave up was tried by another one, and no thread tries twice.
  let others := view.attempts.filter fun attempt => attempt.thread ≠ thread
  have covered : view.stale thread ⊆ others.map (·.handle) := by
    intro handle stale
    obtain ⟨-, attempt, member, same, apart⟩ := sound.stale stale
    exact List.mem_map.mpr ⟨attempt, List.mem_filter.mpr ⟨member, by simpa using apart⟩, same⟩
  have few : (view.stale thread).length ≤ others.length := by
    simpa using ((sound.distinct thread).subperm covered).length_le
  have distinct : (thread :: others.map (·.thread)).Nodup := by
    refine List.nodup_cons.mpr ⟨fun member => ?_, ?_⟩
    · obtain ⟨attempt, kept, same⟩ := List.mem_map.mp member
      simpa [same] using (List.mem_filter.mp kept).2
    · exact sound.threads.sublist (List.filter_sublist.map _)
  have bounded := distinct.length_le_card
  simp only [List.length_cons, List.length_map, Fintype.card_fin] at bounded
  exact Nat.succ_le_of_lt (Nat.lt_of_le_of_lt few bounded)

theorem Turn.rank_lt {phase after : Phase} (turn : Turn view phase after) :
    after.rank < phase.rank := by
  cases turn <;> simp [Phase.rank]

theorem rank_started (handle : Handle) (result : Except Failure Unit) :
    (Phase.started handle result).rank = 4 := by
  cases result <;> rfl

theorem rank_released_lt (handle : Handle) (result : Except Failure Bool) :
    (Phase.released handle result).rank < 2 := by
  rcases result with failure | _ | _ <;> simp [Phase.released, Phase.rank]

theorem Act.rank_lt (act : Act client view thread next) :
    next.stale thread = view.stale thread ∧
        (next.phases thread).rank < (view.phases thread).rank ∨
      next.turns thread = view.turns thread + 1 ∧ (next.phases thread).rank = 13 ∧
        (view.phases thread).rank = 1 := by
  cases act with
  | turn here turn =>
    rw [phases_goto_self, here]
    exact Or.inl ⟨rfl, turn.rank_lt⟩
  | startup result here =>
    rw [phases_goto_self, here, rank_started]
    exact Or.inl ⟨rfl, by simp [Phase.rank]⟩
  | release here held =>
    rw [phases_goto_self, here]
    exact Or.inl ⟨rfl, rank_released_lt _ _⟩
  | retry here =>
    rw [phases_goto_self, here]
    exact Or.inr ⟨by simp [turns], rfl, rfl⟩
  | create here | enroll here | acquire here | ready here | strike here | shut here =>
    rw [phases_goto_self, here]
    exact Or.inl ⟨rfl, by simp [Phase.rank]⟩

theorem Act.ahead_lt (act : Act client view thread next) (sound : Sound client fresh view) :
    next.ahead thread < view.ahead thread := by
  have bounded := (act.sound sound).turns_le thread
  unfold ahead
  rcases act.rank_lt with ⟨same, less⟩ | ⟨more, again, last⟩
  · simp only [turns, same]
    omega
  · rw [more] at bounded
    rw [more, again, last]
    omega

def remaining (view : View n) : Nat := ∑ thread, view.ahead thread

theorem Act.stale_of_ne (act : Act client view thread next) {other : Fin n}
    (apart : other ≠ thread) : next.stale other = view.stale other := by
  cases act <;> simp [apart]

theorem Act.remaining_lt (act : Act client view thread next) (sound : Sound client fresh view) :
    next.remaining < view.remaining := by
  refine Finset.sum_lt_sum (fun other _ => ?_) ⟨thread, Finset.mem_univ _, act.ahead_lt sound⟩
  by_cases same : other = thread
  · exact same ▸ (act.ahead_lt sound).le
  · simp only [ahead, turns, act.phases_of_ne same, act.stale_of_ne same, le_refl]

end View

end PeerDirectory

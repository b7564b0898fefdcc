import PeerDirectory.Proofs.Directory.Answers

namespace PeerDirectory.Directory

variable {φ σ γ δ : Type} {left : Directory φ σ γ} {right : Directory φ σ δ}

structure AgreeOnQueries (left : Directory φ σ γ) (right : Directory φ σ δ) : Prop where
  partitions : ∀ handle, right.partition? handle = left.partition? handle
  clients : right.clients = left.clients
  policy : right.policy = left.policy
  live : right.live = left.live

namespace AgreeOnQueries

variable (agree : AgreeOnQueries left right)
include agree

theorem store? (handle : Handle) : right.store? handle = left.store? handle := by
  simp only [Directory.store?, agree.partitions]

theorem isReady (handle : Handle) : right.isReady handle = left.isReady handle := by
  simp only [Directory.isReady, agree.partitions]

theorem tracked? (client : Hash) : right.tracked? client = left.tracked? client := by
  simp only [Directory.tracked?, agree.clients]

theorem isolated : right.isolated = left.isolated :=
  congrArg IsolationPolicy.enabled agree.policy

theorem mayOwn (same : right.enumerator = left.enumerator) (handle : Handle) :
    right.mayOwn handle = left.mayOwn handle := by
  simp only [Directory.mayOwn, same, agree.live]

theorem ask {α : Type} (handle : Handle) (absent : α) (question : σ → α) :
    right.ask handle absent question = left.ask handle absent question := by
  simp only [Directory.ask, agree.store?]

theorem progress : SameProgress .same (fun _ => True) left right where
  isolated := agree.isolated
  tracked? _ := (agree.tracked? _).trans (Option.map_id_apply ..).symm
  stages _ := congrArg (Option.map _) (agree.partitions _)

variable [PartitionStore σ]

theorem reading (handle : Handle) : SameReading .same left right handle :=
  congrArg (Option.map PeerDirectory.reading) (agree.store? handle)

theorem answer {question : Question}
    (seen : question.choosy = true → right.enumerator = left.enumerator) :
    right.answer question = left.answer question :=
  agree.progress.same_answer (fun _ _ => trivial) (fun handle _ => agree.reading handle)
    fun choosy => agree.mayOwn (seen choosy)

theorem findLease (same : right.enumerator = left.enumerator) (key : Hash) :
    (right.findLease key).1 = (left.findLease key).1 ∧
      right.leaseOutcome key = left.leaseOutcome key :=
  agree.progress.findLease (fun _ => trivial) (agree.mayOwn same)
    (fun handle _ => agree.reading handle) key

end AgreeOnQueries

end PeerDirectory.Directory

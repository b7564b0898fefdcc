import PeerDirectory.Proofs.Anonymity.Start
import Mathlib.Logic.Equiv.Basic

namespace PeerDirectory.Directory

def Setup.run (setup : Setup) (settings : Settings)
    (surroundings : Surroundings MemoryFactory MemoryStore
      (Journal MemoryFactory MemoryStore Tuning Blinding))
    (calls : List (Call Tuning Blinding)) : Run MemoryFactory MemoryStore Tuning Blinding :=
  (setup.start settings).2.makeAll surroundings calls

/-- Two runs that nobody can tell apart by what can be seen of them from outside, neither in the end
nor at any point on the way. -/
structure Unrevealing (mask : Hash → Hash)
    (left right : Run MemoryFactory MemoryStore Tuning Blinding) : Prop where
  metrics : right.metrics = left.metrics
  stats : right.stats = left.stats
  log : MaskedLog mask left.log right.log
  points : List.Forall₂ (Point.Masked mask) left.outside.points right.outside.points

/-- Whatever is done to a directory, by callers and by those who have their turn during calls, the
same done under a mask shows the same. Since a script knows all that happened so far, every run is one
by script. -/
theorem identities_unrevealed {mask : Hash → Hash} {one other : Setup} {settings : Settings}
    {script again : Script Tuning Blinding} {turns depth : Nat}
    {calls : List (Call Tuning Blinding)} (injective : Function.Injective mask)
    (setups : one.Masked mask other) (scripts : script.Masked mask again)
    (started : (one.start settings).1 = .ok ())
    (roomy : Roomy settings.seedPeers.toNat
      (one.run settings (others script.habit turns depth) calls).log) :
    (other.start settings).1 = .ok () ∧
      Unrevealing mask (one.run settings (others script.habit turns depth) calls)
        (other.run settings (others again.habit turns depth) (calls.map (·.under mask))) := by
  have bijective : Function.Bijective mask := Finite.injective_iff_bijective.mp injective
  obtain ⟨begun, masked⟩ := setups.start bijective started
  have made := (masking_others scripts turns depth).makeAll
    (growing_others again.habit turns depth) masked calls roomy
  exact ⟨begun, made.metrics, made.stats, made.log, made.outside⟩

def lookalike : Hash := ⟨⟨List.replicate 4 0 ++ List.replicate 28 1, rfl⟩⟩

def peered (peer : Hash) : Setup where
  factory := ⟨∅, [⟨.wellKnown .main, [⟨peer, [], true, 0⟩], []⟩]⟩
  sampler := .first
  enumerator := .sessions
  change _ factory := factory

def jostling : Script Tuning Blinding
  | .create id, [_] => [.resolve (some id)]
  | _, _ => []

def jostled (peer : Hash) (calls : List (Call Tuning Blinding)) :
    Run MemoryFactory MemoryStore Tuning Blinding :=
  (peered peer).run .standard (others jostling.habit 0 2) calls

def leased : List (Call Tuning Blinding) :=
  [.resolve (some (.client someone)), .session someone true,
    .insert ⟨.client someone, 0⟩ newcomer (.lease ⟨newcomer, none, [⟨someone, 0, 0⟩], 0⟩),
    .findLease newcomer, .removeClient newcomer]

theorem identities_unrevealed_by_lookalike :
    KeepsShort (Equiv.swap someone lookalike) ∧
      Unrevealing (Equiv.swap someone lookalike) (jostled someone leased)
        (jostled lookalike (leased.map (·.under (Equiv.swap someone lookalike)))) ∧
      (jostled someone leased).metrics.getD .races 0 = 1 ∧
      (jostled someone leased).metrics.getD .seededPeers 0 = 1 ∧
      ((jostled someone leased).tracked? someone).isSome ∧
      (jostled lookalike (leased.map (·.under (Equiv.swap someone lookalike)))).tracked? someone =
        none := by
  have kept : KeepsShort (Equiv.swap someone lookalike) := by
    intro hash
    rw [Equiv.swap_apply_def]
    split
    · rename_i same
      rw [same]
      rfl
    · split
      · rename_i same
        rw [same]
        rfl
      · rfl
  have setups : (peered someone).Masked (Equiv.swap someone lookalike) (peered lookalike) := by
    refine ⟨⟨fun id => ?_, ?_⟩, .sessions, fun _ _ _ masked => masked⟩
    · simp [peered]
    · simp [peered, Peculiarity.under, PartitionId.under, Router.under]
  have scripts : jostling.Masked (Equiv.swap someone lookalike) jostling := by
    intro moment history
    cases moment with
    | create id =>
      rcases history with _ | ⟨first, _ | ⟨second, rest⟩⟩
      · rfl
      · rfl
      · rfl
    | startup id => rfl
    | gauge => rfl
  have started : ((peered someone).start .standard).1 = .ok () := by decide +kernel
  have roomy : Roomy Settings.standard.seedPeers.toNat (jostled someone leased).log := by
    unfold Roomy
    decide +kernel
  exact ⟨kept, (identities_unrevealed (Equiv.injective _) setups scripts started roomy).2,
    by decide +kernel, by decide +kernel, by decide +kernel, by decide +kernel⟩

end PeerDirectory.Directory

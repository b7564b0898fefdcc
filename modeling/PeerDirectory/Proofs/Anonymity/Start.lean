import PeerDirectory.Proofs.Anonymity.Run
import PeerDirectory.Proofs.Run.Start

namespace PeerDirectory.Directory

variable {mask : Hash → Hash} {γ : Type} {tied : γ → γ → Prop} {limit : Nat}
  {left right : Directory MemoryFactory MemoryStore γ}
  {change again : Moment → MemoryFactory → MemoryFactory}

def MaskedChange (mask : Hash → Hash)
    (change again : Moment → MemoryFactory → MemoryFactory) : Prop :=
  ∀ moment {one other : MemoryFactory}, one.Masked mask other →
    (change moment one).Masked mask (again (moment.under mask) other)

theorem masking_tuning (same : MaskedChange mask change again) :
    Masking mask limit tied (.tuning change) (.tuning again) where
  turns := rfl
  growing base := keeping_log base fun _ _ grown => grown
  react moment _ _ masked _ := { masked with factory := same moment masked.factory }

theorem masked_startWellKnown (same : MaskedChange mask change again)
    (masked : Masked mask limit tied left right) (roomy : Roomy limit left.log) {role : WellKnown}
    (started : (left.startWellKnown (.tuning change) role).1 = .ok ()) :
    (right.startWellKnown (.tuning again) role).1 = .ok () ∧
      Masked mask limit tied (left.startWellKnown (.tuning change) role).2
        (right.startWellKnown (.tuning again) role).2 ∧
      Roomy limit (left.startWellKnown (.tuning change) role).2.log := by
  have masking : Masking mask limit tied (.tuning change) (.tuning again) := masking_tuning same
  obtain ⟨named, built⟩ := masking.build masked (.wellKnown role) roomy
  have named : (right.build (.tuning again) (.wellKnown role)).1 =
      (left.build (.tuning change) (.wellKnown role)).1.under mask := named
  have built : Masked mask limit tied (left.build (.tuning change) (.wellKnown role)).2
      (right.build (.tuning again) (.wellKnown role)).2 := built
  have room : Roomy limit (((left.build (.tuning change) (.wellKnown role)).2.setLocked
      (left.build (.tuning change) (.wellKnown role)).1 true).startStore (.tuning change)
        (left.build (.tuning change) (.wellKnown role)).1).2.log := by
    rw [log_startStore]
    exact roomy
  have begun := masking.startStore (built.setLocked _ true) room
  unfold startWellKnown at started ⊢
  simp only [named] at started ⊢
  generalize (left.build (.tuning change) (.wellKnown role)).1 = handle at *
  generalize ((left.build (.tuning change) (.wellKnown role)).2.setLocked handle true).startStore
    (.tuning change) handle = first at *
  generalize ((right.build (.tuning again) (.wellKnown role)).2.setLocked (handle.under mask)
    true).startStore (.tuning again) (handle.under mask) = second at *
  obtain ⟨ended, before⟩ := first
  obtain ⟨once, after⟩ := second
  obtain ⟨result, begun⟩ := begun
  cases result with
  | error reads => cases started
  | ok done =>
    have ready := ((begun.setLifecycle handle .ready).setLocked handle false).countOne
      (.created (.wellKnown role))
    refine ⟨rfl, ready.note (LogEvent.masked_self _), fun event noted => ?_⟩
    rcases List.mem_cons.mp noted with rfl | earlier
    · exact Nat.zero_le limit
    · exact room event earlier

theorem masked_startAll (same : MaskedChange mask change again)
    (masked : Masked mask limit tied left right) (roomy : Roomy limit left.log)
    {roles : List WellKnown} {sofar : List Handle}
    (started : (startAll (.tuning change) sofar roles left).1 = .ok ()) :
    (startAll (.tuning again) sofar roles right).1 = .ok () ∧
      Masked mask limit tied (startAll (.tuning change) sofar roles left).2
        (startAll (.tuning again) sofar roles right).2 := by
  induction roles generalizing left right sofar with
  | nil => exact ⟨rfl, masked⟩
  | cons role rest ih =>
    rw [startAll] at started ⊢
    rw [startAll]
    cases first : (left.startWellKnown (.tuning change) role).1 with
    | error failure => simp [first] at started
    | ok done =>
      obtain ⟨second, begun, room⟩ := masked_startWellKnown same masked roomy first
      simp only [first] at started ⊢
      simp only [second]
      exact ih begun room started

structure Setup where
  factory : MemoryFactory
  sampler : Sampler
  enumerator : Enumerator
  change : Moment → MemoryFactory → MemoryFactory

def Setup.start (setup : Setup) (settings : Settings) :
    Except Failure Unit × Run MemoryFactory MemoryStore Tuning Blinding :=
  Directory.start (blankRun setup.factory setup.sampler setup.enumerator) (.tuning setup.change)
    settings

structure Setup.Masked (mask : Hash → Hash) (one other : Setup) : Prop where
  factory : one.factory.Masked mask other.factory
  enumerator : one.enumerator.Masked mask other.enumerator
  change : MaskedChange mask one.change other.change

theorem Setup.Masked.start (bijective : Function.Bijective mask) {one other : Setup}
    (masked : one.Masked mask other) {settings : Settings}
    (started : (one.start settings).1 = .ok ()) :
    (other.start settings).1 = .ok () ∧
      MaskedRun mask settings.seedPeers.toNat (one.start settings).2 (other.start settings).2 := by
  have blank : MaskedRun mask 0 (blankRun one.factory one.sampler one.enumerator)
      (blankRun other.factory other.sampler other.enumerator) := by
    refine ⟨bijective, masked.factory, fun handle => ?_, .empty, rfl, rfl, rfl, rfl,
      masked.enumerator, fun client => ?_, rfl, rfl, fun _ => .refl _, .nil⟩
    · rw [partition?_unbuilt, partition?_unbuilt]
      exact .none
    · simp [LiveClients.isLive, unbuilt, LiveClients.empty]
  have room : Roomy 0 (blankRun one.factory one.sampler one.enumerator :
      Run MemoryFactory MemoryStore Tuning Blinding).log :=
    fun _ noted => absurd noted List.not_mem_nil
  unfold Setup.start Directory.start at started ⊢
  cases excess : settings.excess? with
  | some count => simp [excess] at started
  | none =>
    simp only [excess] at started ⊢
    cases all : (startAll (.tuning one.change) [] WellKnown.all
        (blankRun one.factory one.sampler one.enumerator :
          Run MemoryFactory MemoryStore Tuning Blinding)).1 with
    | error failure => simp [all] at started
    | ok done =>
      obtain ⟨again, begun⟩ := masked_startAll masked.change blank room all
      have settled : MaskedRun mask settings.seedPeers.toNat
          { (startAll (.tuning one.change) [] WellKnown.all
              (blankRun one.factory one.sampler one.enumerator)).2 with
            policy := ⟨settings.isolation⟩
            seedPeers := settings.seedPeers.toNat }
          { (startAll (.tuning other.change) [] WellKnown.all
              (blankRun other.factory other.sampler other.enumerator)).2 with
            policy := ⟨settings.isolation⟩
            seedPeers := settings.seedPeers.toNat } :=
        { begun with policy := rfl, limit := rfl, seedPeers := rfl }
      simp only [again, true_and]
      exact settled.note (LogEvent.masked_self _)

end PeerDirectory.Directory

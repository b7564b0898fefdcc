import PeerDirectory.Proofs.Directory.Shape
import Mathlib.Data.List.Nodup

namespace PeerDirectory.Directory

variable {γ : Type} {shape : Shape γ} {busy : List Handle} {client other : Hash} {handle : Handle}

structure Orderly (busy : List Handle) (shape : Shape γ) : Prop where
  distinct : busy.Nodup
  locked : ∀ {handle stage}, shape.stages handle = some (stage, true) → handle ∈ busy
  starting : ∀ {handle}, handle ∈ busy → shape.stages handle = some (.creating, true)
  owned : ∀ {handle}, handle ∈ busy → ∃ client, shape.clients.find? client = some handle
  tracked : ∀ {client handle}, shape.clients.find? client = some handle →
    shape.stages handle = some (.ready, false) ∨ handle ∈ busy
  ready : ∀ {client generation locked},
    shape.stages ⟨.client client, generation⟩ = some (.ready, locked) →
      shape.clients.find? client = some ⟨.client client, generation⟩
  closed : shape.closed = true → ∀ client, shape.clients.find? client = none

namespace Orderly

theorem stage_isSome (orderly : Orderly busy shape)
    (tracked : shape.clients.find? client = some handle) :
    shape.stages handle ≠ none := by
  rcases orderly.tracked tracked with idle | starting
  · simp [idle]
  · simp [orderly.starting starting]

theorem open_of_tracked (orderly : Orderly busy shape)
    (tracked : shape.clients.find? client = some handle) : shape.closed = false := by
  cases closed : shape.closed with
  | false => rfl
  | true => simp [orderly.closed closed client] at tracked

theorem open_of_busy (orderly : Orderly busy shape) (starting : handle ∈ busy) :
    shape.closed = false := by
  obtain ⟨client, tracked⟩ := orderly.owned starting
  exact orderly.open_of_tracked tracked

theorem tracked_of_busy (orderly : Orderly busy shape) (starting : handle ∈ busy)
    (named : handle.id = .client client) : shape.clients.find? client = some handle := by
  obtain ⟨owner, tracked⟩ := orderly.owned starting
  have owned := Clients.id_of_find? tracked
  rw [named] at owned
  cases owned
  exact tracked

theorem not_busy_of_fresh (orderly : Orderly busy shape) (fresh : shape.stages handle = none) :
    handle ∉ busy := by
  intro starting
  simp [orderly.starting starting] at fresh

-- Only the stages, the tracked clients and the switch matter.
theorem congr {δ : Type} {again : Shape δ} (orderly : Orderly busy shape)
    (stages : again.stages = shape.stages)
    (clients : again.clients = shape.clients) (closed : again.closed = shape.closed) :
    Orderly busy again := by
  constructor
  · exact orderly.distinct
  · rw [stages]; exact orderly.locked
  · rw [stages]; exact orderly.starting
  · rw [clients]; exact orderly.owned
  · rw [stages, clients]; exact orderly.tracked
  · rw [stages, clients]; exact orderly.ready
  · rw [clients, closed]; exact orderly.closed

theorem spare (orderly : Orderly busy shape) {stage : Lifecycle} (idle : stage ≠ .ready)
    (fresh : shape.stages handle = none) :
    Orderly busy
      { shape with stages := Function.update shape.stages handle (some (stage, false)) } := by
  have away {other : Handle} (known : shape.stages other ≠ none) : other ≠ handle := by
    rintro rfl
    exact known fresh
  refine ⟨orderly.distinct, ?_, ?_, orderly.owned, ?_, ?_, orderly.closed⟩
  · intro other stage locked
    by_cases same : other = handle
    · simp [same] at locked
    · exact orderly.locked (by simpa [same] using locked)
  · intro other starting
    have same : other ≠ handle := away (by simp [orderly.starting starting])
    simpa [same] using orderly.starting starting
  · intro client other tracked
    have same : other ≠ handle := away (orderly.stage_isSome tracked)
    simpa [same] using orderly.tracked tracked
  · intro client generation locked ready
    by_cases same : (⟨.client client, generation⟩ : Handle) = handle
    · simp [same, idle] at ready
    · exact orderly.ready (by simpa [same] using ready)

theorem launch (orderly : Orderly busy shape) (own : handle.id = .client client)
    (fresh : shape.stages handle = none)
    (untracked : shape.clients.find? client = none) (opened : shape.closed = false) :
    Orderly (handle :: busy)
      { shape with
        stages := Function.update shape.stages handle (some (.creating, true))
        clients := shape.clients.insert client handle own } := by
  have away {other : Handle} (known : shape.stages other ≠ none) : other ≠ handle := by
    rintro rfl
    exact known fresh
  refine ⟨List.nodup_cons.mpr ⟨orderly.not_busy_of_fresh fresh, orderly.distinct⟩,
    ?_, ?_, ?_, ?_, ?_, ?_⟩
  · intro other stage locked
    by_cases same : other = handle
    · simp [same]
    · exact List.mem_cons_of_mem _ (orderly.locked (by simpa [same] using locked))
  · intro other starting
    rcases List.mem_cons.mp starting with rfl | starting
    · simp
    · have same : other ≠ handle := away (by simp [orderly.starting starting])
      simpa [same] using orderly.starting starting
  · intro other starting
    rcases List.mem_cons.mp starting with rfl | starting
    · exact ⟨client, by simp [Clients.find?_insert]⟩
    · obtain ⟨owner, tracked⟩ := orderly.owned starting
      have apart : owner ≠ client := by
        rintro rfl
        simp [untracked] at tracked
      refine ⟨owner, ?_⟩
      simpa [Clients.find?_insert, apart] using tracked
  · intro owner other tracked
    by_cases same : owner = client
    · subst same
      right
      have named : handle = other := by
        simpa [Clients.find?_insert] using tracked
      simp [named]
    · have before : shape.clients.find? owner = some other := by
        simpa [Clients.find?_insert, same] using tracked
      have apart : other ≠ handle := away (orderly.stage_isSome before)
      rcases orderly.tracked before with idle | starting
      · left
        simpa [apart] using idle
      · exact Or.inr (List.mem_cons_of_mem _ starting)
  · intro owner number locked ready
    by_cases same : (⟨.client owner, number⟩ : Handle) = handle
    · simp [same] at ready
    · have before : shape.clients.find? owner = some ⟨.client owner, number⟩ :=
        orderly.ready (by simpa [same] using ready)
      have apart : owner ≠ client := by
        rintro rfl
        simp [untracked] at before
      simpa [Clients.find?_insert, apart] using before
  · intro closed
    simp [opened] at closed

theorem finish (orderly : Orderly (handle :: busy) shape) :
    Orderly busy
      { shape with stages := Function.update shape.stages handle (some (.ready, false)) } := by
  obtain ⟨notBusy, distinct⟩ := List.nodup_cons.mp orderly.distinct
  have away {other : Handle} (starting : other ∈ busy) : other ≠ handle := by
    rintro rfl
    exact notBusy starting
  refine ⟨distinct, ?_, ?_, fun starting => orderly.owned (List.mem_cons_of_mem _ starting), ?_, ?_,
    orderly.closed⟩
  · intro other stage locked
    by_cases same : other = handle
    · simp [same] at locked
    · have member := orderly.locked (by simpa [same] using locked)
      exact (List.mem_cons.mp member).resolve_left same
  · intro other starting
    simpa [away starting] using orderly.starting (List.mem_cons_of_mem _ starting)
  · intro client other tracked
    by_cases same : other = handle
    · simp [same]
    · rcases orderly.tracked tracked with idle | starting
      · left
        simpa [same] using idle
      · exact Or.inr ((List.mem_cons.mp starting).resolve_left same)
  · intro client generation locked ready
    by_cases same : (⟨.client client, generation⟩ : Handle) = handle
    · -- The partition was tracked while it was being started.
      obtain ⟨owner, tracked⟩ := orderly.owned List.mem_cons_self
      have named := Clients.id_of_find? tracked
      rw [← same] at named
      cases named
      rw [same]
      exact tracked
    · exact orderly.ready (by simpa [same] using ready)

theorem strike (orderly : Orderly busy shape)
    (tracked : shape.clients.find? client = some handle) :
    Orderly (busy.erase handle)
      { shape with
        stages := Function.update shape.stages handle (some (.shutDown, false))
        clients := shape.clients.erase client } := by
  have left {other : Handle} : other ∈ busy.erase handle ↔ other ≠ handle ∧ other ∈ busy :=
    orderly.distinct.mem_erase_iff
  have named : handle.id = .client client := Clients.id_of_find? tracked
  have apart {owner : Hash} {other : Handle} (owned : shape.clients.find? owner = some other)
      (away : other ≠ handle) : owner ≠ client := by
    rintro rfl
    rw [tracked, Option.some.injEq] at owned
    exact away owned.symm
  refine ⟨orderly.distinct.erase _, ?_, ?_, ?_, ?_, ?_, ?_⟩
  · intro other stage locked
    by_cases same : other = handle
    · simp [same] at locked
    · exact left.mpr ⟨same, orderly.locked (by simpa [same] using locked)⟩
  · intro other starting
    obtain ⟨same, starting⟩ := left.mp starting
    simpa [same] using orderly.starting starting
  · intro other starting
    obtain ⟨same, starting⟩ := left.mp starting
    obtain ⟨owner, owned⟩ := orderly.owned starting
    exact ⟨owner, by simpa [Clients.find?_erase, apart owned same] using owned⟩
  · intro owner other owned
    have still : owner ≠ client ∧ shape.clients.find? owner = some other := by
      simpa [Clients.find?_erase] using owned
    have same : other ≠ handle := by
      rintro rfl
      have again := Clients.id_of_find? still.2
      rw [named] at again
      cases again
      exact still.1 rfl
    rcases orderly.tracked still.2 with idle | starting
    · left
      simpa [same] using idle
    · exact Or.inr (left.mpr ⟨same, starting⟩)
  · intro owner generation locked ready
    by_cases same : (⟨.client owner, generation⟩ : Handle) = handle
    · simp [same] at ready
    · have owned := orderly.ready (by simpa [same] using ready)
      simpa [Clients.find?_erase, apart owned same] using owned
  · intro closed
    simp [orderly.closed closed client] at tracked

theorem close (orderly : Orderly [] shape) {stages : Handle → Option (Lifecycle × Bool)}
    (changed : ∀ handle, stages handle = shape.stages handle ∨
      stages handle = some (.shutDown, false))
    (down : ∀ {client handle}, shape.clients.find? client = some handle →
      stages handle = some (.shutDown, false)) :
    Orderly [] { shape with stages, clients := ∅, closed := true } := by
  refine ⟨List.nodup_nil, ?_, ?_, ?_, ?_, ?_, ?_⟩
  · intro handle stage locked
    rcases changed handle with same | stopped
    · exact orderly.locked (same.symm.trans locked)
    · simp [stopped] at locked
  · intro handle starting
    cases starting
  · intro handle starting
    cases starting
  · intro client handle tracked
    simp at tracked
  · intro client generation locked ready
    rcases changed ⟨.client client, generation⟩ with same | stopped
    · have tracked := orderly.ready (same.symm.trans ready)
      simp [down tracked] at ready
    · simp [stopped] at ready
  · intro _ client
    exact Clients.find?_empty

end Orderly

end PeerDirectory.Directory

import PeerDirectory.Proofs.Directory.State

namespace PeerDirectory

structure Naming where
  place : Handle → Handle
  back : Handle → Handle
  back_place : ∀ handle, back (place handle) = handle
  id_place : ∀ handle, (place handle).id = handle.id
  place_wellKnown : ∀ role, place (Directory.wellKnown role) = Directory.wellKnown role

namespace Naming

def same : Naming := ⟨id, id, fun _ => rfl, fun _ => rfl, fun _ => rfl⟩

/-- The names of partitions in a directory where one more was built for a client, at a given place
among the client's partitions. -/
def skipping (client : Hash) (gap : Nat) : Naming where
  place handle :=
    if handle.id = .client client ∧ gap ≤ handle.generation then
      ⟨handle.id, handle.generation + 1⟩
    else handle
  back handle :=
    if handle.id = .client client ∧ gap < handle.generation then
      ⟨handle.id, handle.generation - 1⟩
    else handle
  back_place handle := by
    obtain ⟨id, generation⟩ := handle
    by_cases named : id = .client client
    · by_cases after : gap ≤ generation
      · simp [named, after, Nat.lt_succ_of_le after]
      · have before : ¬gap < generation := by omega
        simp [named, after, before]
    · simp [named]
  id_place handle := by
    split <;> rfl
  place_wellKnown role := by simp [Directory.wellKnown]

theorem skipping_ne_gap (client : Hash) (gap : Nat) (handle : Handle) :
    (skipping client gap).place handle ≠ ⟨.client client, gap⟩ := by
  obtain ⟨id, generation⟩ := handle
  simp only [skipping]
  split
  · intro same
    have number := congrArg Handle.generation same
    simp only at number
    omega
  · rename_i away
    intro same
    cases same
    exact away ⟨rfl, Nat.le_refl _⟩

theorem skipping_of_ne {client : Hash} {gap : Nat} {handle : Handle}
    (away : handle.id ≠ .client client) : (skipping client gap).place handle = handle := by
  simp [skipping, away]

theorem skipping_place_back {client : Hash} {gap : Nat} {handle : Handle}
    (away : handle ≠ ⟨.client client, gap⟩) :
    (skipping client gap).place ((skipping client gap).back handle) = handle := by
  obtain ⟨id, generation⟩ := handle
  by_cases named : id = .client client
  · subst named
    have apart : generation ≠ gap := fun same => away (by rw [same])
    by_cases after : gap < generation
    · have back : gap ≤ generation - 1 := by omega
      have number : generation - 1 + 1 = generation := by omega
      simp [skipping, after, back, number]
    · have before : ¬gap ≤ generation := by omega
      simp [skipping, after, before]
  · simp [skipping, named]

variable (naming : Naming) {one other : Handle}

theorem place_injective : Function.Injective naming.place :=
  Function.LeftInverse.injective naming.back_place

theorem place_eq_iff : naming.place one = naming.place other ↔ one = other :=
  naming.place_injective.eq_iff

end Naming

namespace Clients

open Std

variable (clients : Clients) (naming : Naming)

def rename : Clients where
  partitions := clients.partitions.map fun _ => naming.place
  own {client handle} tracked := by
    rw [ExtTreeMap.getElem?_map] at tracked
    obtain ⟨found, present, rfl⟩ := Option.map_eq_some_iff.mp tracked
    exact (naming.id_place found).trans (clients.own present)

variable {clients naming} {client : Hash} {handle : Handle}

@[simp] theorem find?_rename :
    (clients.rename naming).find? client = (clients.find? client).map naming.place :=
  ExtTreeMap.getElem?_map

theorem rename_empty : (∅ : Clients).rename naming = ∅ :=
  ext_find? fun _ => by rw [find?_rename, find?_empty, Option.map_none]

@[simp] theorem handles_rename :
    (clients.rename naming).handles = clients.handles.map naming.place := by
  simp [handles, rename, ExtTreeMap.toList_map, Function.comp_def]

@[simp] theorem size_rename : (clients.rename naming).size = clients.size :=
  ExtTreeMap.size_map

theorem rename_insert {own : handle.id = .client client} :
    (clients.insert client handle own).rename naming =
      (clients.rename naming).insert client (naming.place handle)
        ((naming.id_place handle).trans own) := by
  apply ext_find?
  intro asked
  simp only [find?_rename, find?_insert]
  split <;> rfl

theorem rename_erase :
    (clients.erase client).rename naming = (clients.rename naming).erase client := by
  apply ext_find?
  intro asked
  simp only [find?_rename, find?_erase]
  split <;> rfl

theorem rename_of_fixed
    (fixed : ∀ {client handle}, clients.find? client = some handle → naming.place handle = handle) :
    clients.rename naming = clients := by
  apply ext_find?
  intro asked
  rw [find?_rename]
  cases tracked : clients.find? asked with
  | none => rfl
  | some handle => exact congrArg some (fixed tracked)

end Clients

def Sampler.under (sampler : Sampler) (place : Handle → Handle) : Sampler where
  pick handle := sampler.pick (place handle)
  nodup_pick handle := sampler.nodup_pick (place handle)
  mem_of_mem_pick handle := sampler.mem_of_mem_pick (place handle)
  length_pick handle := sampler.length_pick (place handle)

namespace Directory

def choosing {φ σ γ : Type} (directory : Directory φ σ γ) (place : Handle → Handle) :
    Directory φ σ γ :=
  { directory with sampler := directory.sampler.under place }

section Renaming

variable {τ υ : Type} (place : Handle → Handle)

def Question.rename : Question → Question
  | .lifecycle handle => .lifecycle (place handle)
  | .lookup handle key => .lookup (place handle) key
  | .claims handle key => .claims (place handle) key
  | .blindingIn handle key => .blindingIn (place handle) key
  | .routers handle => .routers (place handle)
  | .leaseSets handle => .leaseSets (place handle)
  | .floodfillPeers handle => .floodfillPeers (place handle)
  | .blindings handle => .blindings (place handle)
  | .storeInitialized handle => .storeInitialized (place handle)
  | question => question

def Call.rename : Call τ υ → Call τ υ
  | .ask question => .ask (question.rename place)
  | .insert handle key entry => .insert (place handle) key entry
  | .touch handle change => .touch (place handle) change
  | .startStore handle => .startStore (place handle)
  | .stopStore handle => .stopStore (place handle)
  | call => call

def Response.rename : Response → Response
  | .found result => .found (result.map place)
  | .handle value => .handle (value.map place)
  | .handles values => .handles (values.map place)
  | response => response

variable {place} {back : Handle → Handle} (undo : ∀ handle, back (place handle) = handle)
include undo

theorem Question.rename_back (question : Question) :
    (question.rename place).rename back = question := by
  cases question <;> simp only [Question.rename, undo]

theorem Call.rename_back (call : Call τ υ) : (call.rename place).rename back = call := by
  cases call <;> simp only [Call.rename, undo, Question.rename_back undo]

theorem Response.rename_back (response : Response) :
    (response.rename place).rename back = response := by
  cases response with
  | found result => cases result <;> simp [Response.rename, Except.map, undo]
  | handle value => simp [Response.rename, Function.comp_def, undo]
  | handles values => simp [Response.rename, Function.comp_def, undo]
  | _ => rfl

end Renaming

theorem Question.rename_same (question : Question) :
    question.rename Naming.same.place = question := by
  cases question <;> rfl

theorem Call.rename_same {τ υ : Type} (call : Call τ υ) : call.rename Naming.same.place = call := by
  cases call with
  | ask question => exact congrArg Call.ask question.rename_same
  | _ => rfl

theorem Response.rename_same (response : Response) :
    response.rename Naming.same.place = response := by
  cases response with
  | found result => cases result <;> rfl
  | handle value => cases value <;> rfl
  | handles values => exact congrArg Response.handles (List.map_id values)
  | _ => rfl

theorem Response.partitions_rename {place : Handle → Handle} {response : Response} :
    (response.rename place).partitions = response.partitions.map place := by
  cases response with
  | found result => cases result <;> rfl
  | handle value => cases value <;> rfl
  | _ => rfl

end Directory

end PeerDirectory

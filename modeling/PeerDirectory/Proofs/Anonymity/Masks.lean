import PeerDirectory.Proofs.Interlude.Run
import Mathlib.Data.Set.Finite.List
import Mathlib.Data.Finite.Defs

/-!
Masks, which put another hash in the place of every hash: in what is stored, in the names of
partitions, and in everything that is asked of a directory. There are only finitely many hashes, so
that a mask which keeps them apart takes every hash to be that of some other one.
-/

namespace PeerDirectory

open Std

def KeepsShort (mask : Hash → Hash) : Prop :=
  ∀ hash : Hash, (mask hash).bytes.toList.take 4 = hash.bytes.toList.take 4

instance finite_byte : Finite UInt8 :=
  .of_injective UInt8.toFin fun _ _ same => UInt8.toFin_inj.mp same

instance Bytes32.finite : Finite Bytes32 := by
  have blocks : Finite {bytes : List UInt8 // bytes.length = 32} :=
    (List.finite_length_eq UInt8 32).to_subtype
  apply Finite.of_injective fun block : Bytes32 =>
    (⟨block.toList, block.length_toList⟩ : {bytes : List UInt8 // bytes.length = 32})
  intro one other same
  exact Bytes32.ext (Subtype.mk.inj same)

instance Hash.finite : Finite Hash := .of_injective Hash.bytes fun _ _ same => Hash.ext same

section Masks

variable (mask : Hash → Hash)

def PartitionId.under : PartitionId → PartitionId
  | .wellKnown role => .wellKnown role
  | .client destination => .client (mask destination)

def Handle.under (handle : Handle) : Handle := ⟨handle.id.under mask, handle.generation⟩

def Router.under (router : Router) : Router := { router with identity := mask router.identity }

def Lease.under (lease : Lease) : Lease := { lease with gateway := mask lease.gateway }

def LeaseSet.under (record : LeaseSet) : LeaseSet :=
  { record with key := mask record.key, leases := record.leases.map (·.under mask) }

def Entry.under : Entry → Entry
  | .router descriptor => .router (descriptor.under mask)
  | .lease record => .lease (record.under mask)

def Blinding.under (data : Blinding) : Blinding :=
  { data with destination := data.destination.map mask }

def Peculiarity.under (special : Peculiarity) : Peculiarity :=
  ⟨special.id.under mask, special.held.map (·.under mask), special.refused.map mask⟩

def Tuning.under : Tuning → Tuning
  | .fail id => .fail (id.under mask)
  | .allow id => .allow (id.under mask)

def Moment.under : Moment → Moment
  | .create id => .create (id.under mask)
  | .startup id => .startup (id.under mask)
  | .gauge => .gauge

end Masks

namespace Directory

section Masks

variable (mask : Hash → Hash)

def Question.under : Question → Question
  | .existing id => .existing (id.under mask)
  | .ownerOf key => .ownerOf (mask key)
  | .lookupLeaseIn key id => .lookupLeaseIn (mask key) (id.map (·.under mask))
  | .lifecycle handle => .lifecycle (handle.under mask)
  | .lookup handle key => .lookup (handle.under mask) (mask key)
  | .claims handle key => .claims (handle.under mask) (mask key)
  | .blindingIn handle key => .blindingIn (handle.under mask) key
  | .routers handle => .routers (handle.under mask)
  | .leaseSets handle => .leaseSets (handle.under mask)
  | .floodfillPeers handle => .floodfillPeers (handle.under mask)
  | .blindings handle => .blindings (handle.under mask)
  | .storeInitialized handle => .storeInitialized (handle.under mask)
  | question => question

def Call.under : Call Tuning Blinding → Call Tuning Blinding
  | .resolve id => .resolve (id.map (·.under mask))
  | .clientPartition id => .clientPartition (id.map (·.under mask))
  | .removeClient client => .removeClient (mask client)
  | .setIsolation enabled => .setIsolation enabled
  | .shutdown => .shutdown
  | .findLease key => .findLease (mask key)
  | .ask question => .ask (question.under mask)
  | .insert handle key entry => .insert (handle.under mask) (mask key) (entry.under mask)
  | .session client opened => .session (mask client) opened
  | .tune tuning => .tune (tuning.under mask)
  | .touch handle data => .touch (handle.under mask) (data.under mask)
  | .startStore handle => .startStore (handle.under mask)
  | .stopStore handle => .stopStore (handle.under mask)

def Occurrence.under : Occurrence Tuning Blinding → Occurrence Tuning Blinding
  | .begins call => .begins (call.under mask)
  | .ends call => .ends (call.under mask)
  | .enters moment => .enters (moment.under mask)
  | .leaves moment => .leaves (moment.under mask)

def Script.Masked (one other : Script Tuning Blinding) : Prop :=
  ∀ moment history, other (moment.under mask) (history.map (·.under mask)) =
    (one moment history).map (·.under mask)

end Masks

end Directory

section Injective

variable {mask : Hash → Hash}

theorem compare_injective {α β : Type} [Ord α] [TransOrd α] [LawfulEqOrd α] [Ord β] [TransOrd β]
    [LawfulEqOrd β] {change : α → β} (injective : Function.Injective change) (one other : α) :
    (compare (change one) (change other) == .eq) = (compare one other == .eq) := by
  rw [Bool.eq_iff_iff, beq_iff_eq, beq_iff_eq, LawfulEqOrd.compare_eq_iff_eq,
    LawfulEqOrd.compare_eq_iff_eq, injective.eq_iff]

theorem filter_map_of_eq {α β : Type} {change : α → β} {chosen : α → Bool} {again : β → Bool}
    (same : ∀ value, again (change value) = chosen value) (values : List α) :
    (values.map change).filter again = (values.filter chosen).map change := by
  rw [List.filter_map]
  congr 1
  exact List.filter_congr fun value _ => same value

@[simp] theorem PartitionId.kind_under (id : PartitionId) : (id.under mask).kind = id.kind := by
  cases id <;> rfl

@[simp] theorem Directory.under_wellKnown (role : WellKnown) :
    (Directory.wellKnown role).under mask = Directory.wellKnown role := rfl

theorem PartitionId.under_injective (injective : Function.Injective mask) :
    Function.Injective (PartitionId.under mask) := by
  intro one other same
  cases one <;> cases other <;> simp_all [PartitionId.under, injective.eq_iff]

theorem Handle.under_injective (injective : Function.Injective mask) :
    Function.Injective (Handle.under mask) := by
  intro one other same
  obtain ⟨id, generation⟩ := Handle.mk.inj same
  have named := PartitionId.under_injective injective id
  cases one
  cases other
  simp_all

theorem Router.under_injective (injective : Function.Injective mask) :
    Function.Injective (Router.under mask) := by
  intro one other same
  cases one
  cases other
  simp_all [Router.under, injective.eq_iff]

theorem Lease.under_injective (injective : Function.Injective mask) :
    Function.Injective (Lease.under mask) := by
  intro one other same
  cases one
  cases other
  simp_all [Lease.under, injective.eq_iff]

theorem LeaseSet.under_injective (injective : Function.Injective mask) :
    Function.Injective (LeaseSet.under mask) := by
  intro one other same
  obtain ⟨key, signingKey, leases, published⟩ := LeaseSet.mk.inj same
  have gateways := (Lease.under_injective injective).list_map leases
  cases one
  cases other
  simp_all [injective.eq_iff]

end Injective

section Shown

variable {mask : Hash → Hash}

theorem KeepsShort.short (kept : KeepsShort mask) (hash : Hash) :
    (mask hash).short = hash.short := by
  simp only [Hash.short, Bytes32.short, kept hash]

theorem KeepsShort.text (kept : KeepsShort mask) (id : PartitionId) :
    (id.under mask).text = id.text := by
  cases id with
  | wellKnown role => rfl
  | client client => simp only [PartitionId.under, PartitionId.text, kept.short]

def LogEvent.shown (event : LogEvent) : Level × String × List (String × String) :=
  (event.level, event.message, event.fields)

end Shown

end PeerDirectory

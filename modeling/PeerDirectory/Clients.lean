import PeerDirectory.Registry

namespace PeerDirectory

open Std

/-- The clients that are tracked, each with a partition of its own. -/
structure Clients where
  partitions : ExtTreeMap Hash Handle
  own : ∀ {client : Hash} {handle}, partitions[client]? = some handle →
    handle.id = .client client

namespace Clients

instance : EmptyCollection Clients := ⟨⟨∅, by simp⟩⟩

def find? (clients : Clients) (client : Hash) : Option Handle := clients.partitions[client]?

def insert (clients : Clients) (client : Hash) (handle : Handle)
    (own : handle.id = .client client) : Clients where
  partitions := clients.partitions.insert client handle
  own {other found} present := by
    rw [ExtTreeMap.getElem?_insert] at present
    split at present
    · rename_i same
      obtain rfl := compare_eq_iff_eq.mp same
      exact Option.some.inj present ▸ own
    · exact clients.own present

def erase (clients : Clients) (client : Hash) : Clients where
  partitions := clients.partitions.erase client
  own {other found} present := by
    rw [ExtTreeMap.getElem?_erase] at present
    split at present
    · cases present
    · exact clients.own present

/-- The partitions of the clients, in the order of the clients. -/
def handles (clients : Clients) : List Handle := clients.partitions.toList.map (·.2)

def size (clients : Clients) : Nat := clients.partitions.size

end Clients

end PeerDirectory

import PeerDirectory.Failure
import PeerDirectory.Record

namespace PeerDirectory

class PartitionStore (σ : Type) where
  startup : σ → Except Failure Unit × σ
  shutdown : σ → σ
  insert : σ → Hash → Entry → Except Failure Unit × σ
  lookup : σ → Hash → Option Entry
  floodfillPeers : σ → List Hash
  routers : σ → List Router
  leaseSets : σ → List LeaseSet
  isInitialized : σ → Bool
  /-- Whether the store belongs to the client that owns a lease key. -/
  claims : σ → Hash → Bool
  blinding? : σ → SigningKey → Option Blinding
  blindings : σ → List Blinding

class StoreFactory (φ : Type) (σ : outParam Type) where
  make : φ → PartitionId → σ × φ

end PeerDirectory

import PeerDirectory.Hash

namespace PeerDirectory

/-- A peer descriptor: what a router tells of itself. -/
structure Router where
  identity : Hash
  addresses : List String
  /-- Whether it takes part in flooding, and so may seed new partitions. -/
  floodfill : Bool
  /-- When it was published, in milliseconds of Unix time. -/
  published : UInt64
deriving DecidableEq

structure Lease where
  gateway : Hash
  tunnelId : UInt32
  expires : UInt64
deriving DecidableEq

/-- A lease record: the gateways by which a destination is reached, and until when. -/
structure LeaseSet where
  key : Hash
  signingKey : Option SigningKey
  leases : List Lease
  published : UInt64
deriving DecidableEq

def LeaseSet.latestExpiration (record : LeaseSet) : UInt64 :=
  record.leases.foldl (fun latest lease => max latest lease.expires) 0

/-- Blind data: the parameters of a destination that is blinded. -/
structure Blinding where
  signingKey : SigningKey
  destination : Option Hash
  secret : Option String
deriving DecidableEq

/-- A database entry: a peer descriptor or a lease record. -/
inductive Entry where
  | router (descriptor : Router)
  | lease (record : LeaseSet)
deriving DecidableEq

namespace Entry

def key : Entry → Hash
  | router descriptor => descriptor.identity
  | lease record => record.key

def lease? : Entry → Option LeaseSet
  | router _ => none
  | lease record => some record

def router? : Entry → Option Router
  | router descriptor => some descriptor
  | lease _ => none

def isLease : Entry → Bool
  | router _ => false
  | lease _ => true

end Entry

end PeerDirectory

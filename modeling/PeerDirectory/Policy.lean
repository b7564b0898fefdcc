import PeerDirectory.Hash
import Std.Data.ExtTreeSet

namespace PeerDirectory

open Std

structure IsolationPolicy where
  enabled : Bool
deriving DecidableEq

namespace IsolationPolicy

def standard : IsolationPolicy := ⟨true⟩

def set (policy : IsolationPolicy) (enabled : Bool) : Bool × IsolationPolicy :=
  (policy.enabled, ⟨enabled⟩)

def debug (policy : IsolationPolicy) : String :=
  "IsolationPolicy \x7b enabled: " ++ toString policy.enabled ++ " \x7d"

end IsolationPolicy

structure LiveClients where
  clients : ExtTreeSet Hash

namespace LiveClients

def empty : LiveClients := ⟨∅⟩

def add (live : LiveClients) (client : Hash) : LiveClients := ⟨live.clients.insert client⟩

def remove (live : LiveClients) (client : Hash) : Bool × LiveClients :=
  (live.clients.contains client, ⟨live.clients.erase client⟩)

def isLive (live : LiveClients) (client : Hash) : Bool := live.clients.contains client

def size (live : LiveClients) : Nat := live.clients.size

end LiveClients

/-- Which clients may own a lease key that nobody has named the owner of. -/
inductive Enumerator where
  | unrestricted
  | sessions
  | chosen (live : Hash → Bool)

end PeerDirectory

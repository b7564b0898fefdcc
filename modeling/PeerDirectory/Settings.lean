import PeerDirectory.Json.Value
import PeerDirectory.Json.Decode

namespace PeerDirectory

/-- The configuration of a segmentor. -/
structure Settings where
  isolation : Bool
  /-- How many floodfill descriptors a new client partition is given; none at zero. -/
  seedPeers : UInt64
deriving DecidableEq

namespace Settings

def defaultSeedPeers : UInt64 := 8

def maxSeedPeers : UInt64 := 64

def standard : Settings := ⟨true, defaultSeedPeers⟩

instance : Inhabited Settings := ⟨standard⟩

def excess? (settings : Settings) : Option UInt64 :=
  if maxSeedPeers < settings.seedPeers then some settings.seedPeers else none

def excessMessage (count : UInt64) : String :=
  "Invalid config: seed_peer_count - " ++ toString count.toNat ++ " exceeds maximum of " ++
    toString maxSeedPeers.toNat

def toJson (settings : Settings) : Json :=
  .object [("isolation_enabled", .bool settings.isolation),
    ("seed_peer_count", .number settings.seedPeers.toNat)]

def save (settings : Settings) : String := settings.toJson.pretty

open Json

structure Draft where
  isolation : Option Bool
  seedPeers : Option UInt64

def Draft.add (draft : Draft) (name : Name) (field : String) (node : Node) : Decoded Draft :=
  if field = "isolation_enabled" then
    (decodeOnce name field draft.isolation (decodeBool node)).map
      fun read => { draft with isolation := read }
  else if field = "seed_peer_count" then
    (decodeOnce name field draft.seedPeers (decodeSize node)).map
      fun read => { draft with seedPeers := read }
  else .ok draft

def Draft.finish (draft : Draft) : Decoded Settings :=
  .ok ⟨draft.isolation.getD standard.isolation, draft.seedPeers.getD standard.seedPeers⟩

def formatName : String := "SegmentorConfig"

def inOrder (items : List (List Char × Node)) (ending : Ending) :
    Decoded (Settings × List (List Char × Node)) := do
  let size := recordSize formatName 2
  let (isolation, items) ← decodeField size 0 (some standard.isolation) decodeBool ending items
  let (seedPeers, items) ← decodeField size 1 (some standard.seedPeers) decodeSize ending items
  pure (⟨isolation, seedPeers⟩, items)

def format : RecordFormat Draft Settings :=
  ⟨formatName, 2, ⟨none, none⟩, Draft.add, Draft.finish, inOrder⟩

def decode (node : Node) : Decoded Settings := format.decode .text node

inductive File where
  | absent
  | bytes (content : List UInt8)

inductive LoadError where
  | absent
  | notUtf8
  | json (text : String) (fault : Fault)
  | excess (count : UInt64)

def LoadError.message : LoadError → String
  | absent => "IO error: No such file or directory (os error 2)"
  | notUtf8 => "IO error: stream did not contain valid UTF-8"
  | json text fault => "JSON error: " ++ fault.messageIn text
  | excess count => excessMessage count

def parse (text : String) : Except LoadError Settings :=
  match decodeText decode text with
  | .error fault => .error (.json text fault)
  | .ok settings =>
    match settings.excess? with
    | some count => .error (.excess count)
    | none => .ok settings

def load : File → Except LoadError Settings
  | .absent => .error .absent
  | .bytes content =>
    match Text.ofUtf8? content with
    | none => .error .notUtf8
    | some text => parse text

def debug (settings : Settings) : String :=
  "SegmentorConfig \x7b isolation_enabled: " ++ toString settings.isolation ++
    ", seed_peer_count: " ++ toString settings.seedPeers.toNat ++ " \x7d"

end Settings

end PeerDirectory

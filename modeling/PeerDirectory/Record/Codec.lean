import PeerDirectory.PartitionId
import PeerDirectory.Record
import PeerDirectory.Json.Value
import PeerDirectory.Json.Decode

namespace PeerDirectory

open Json

def Hash.toJson (hash : Hash) : Json := .string hash.text

def SigningKey.toJson (key : SigningKey) : Json := .string key.text

namespace WellKnown

def toJson (role : WellKnown) : Json := .string role.name

def names : List String := all.map name

def decode (node : Node) : Decoded WellKnown := do
  match ← decodeChoice names node with
  | .bare index _ => pure (all.getD index main)
  | .carrying index value close =>
    decodeUnit value
    close
    pure (all.getD index main)

end WellKnown

namespace PartitionId

def forms : List String := ["well_known", "client"]

def toJson : PartitionId → Json
  | wellKnown role => .object [("well_known", role.toJson)]
  | client destination => .object [("client", destination.toJson)]

def decode (node : Node) : Decoded PartitionId := do
  match ← decodeChoice forms node with
  | .bare _ after => .error (.mismatch (.wrongKind .unitVariant "newtype variant") after)
  | .carrying index value close =>
    if index = 0 then
      let role ← WellKnown.decode value
      close
      pure (wellKnown role)
    else
      let destination ← decodeHash value
      close
      pure (client destination)

end PartitionId

namespace Router

def members (router : Router) : List (String × Json) :=
  [("identity", router.identity.toJson),
    ("addresses", .array (router.addresses.map Json.string)),
    ("floodfill", .bool router.floodfill),
    ("published", .number router.published.toNat)]

def toJson (router : Router) : Json := .object router.members

structure Draft where
  identity : Option Hash
  addresses : Option (List String)
  floodfill : Option Bool
  published : Option UInt64

def Draft.add (draft : Draft) (name : Name) (field : String) (node : Node) : Decoded Draft :=
  if field = "identity" then
    (decodeOnce name field draft.identity (decodeHash node)).map
      fun read => { draft with identity := read }
  else if field = "addresses" then
    (decodeOnce name field draft.addresses (decodeList decodeString node)).map
      fun read => { draft with addresses := read }
  else if field = "floodfill" then
    (decodeOnce name field draft.floodfill (decodeBool node)).map
      fun read => { draft with floodfill := read }
  else if field = "published" then
    (decodeOnce name field draft.published (decodeUInt64 node)).map
      fun read => { draft with published := read }
  else .ok draft

def Draft.finish (draft : Draft) : Decoded Router := do
  let identity ← required "identity" draft.identity
  let addresses ← required "addresses" draft.addresses
  let floodfill ← required "floodfill" draft.floodfill
  let published ← required "published" draft.published
  pure ⟨identity, addresses, floodfill, published⟩

def formatName : String := "PeerDescriptor"

def inOrder (items : List (List Char × Node)) (ending : Ending) :
    Decoded (Router × List (List Char × Node)) := do
  let size := recordSize formatName 4
  let (identity, items) ← decodeField size 0 none decodeHash ending items
  let (addresses, items) ← decodeField size 1 none (decodeList decodeString) ending items
  let (floodfill, items) ← decodeField size 2 none decodeBool ending items
  let (published, items) ← decodeField size 3 none decodeUInt64 ending items
  pure (⟨identity, addresses, floodfill, published⟩, items)

def format : RecordFormat Draft Router :=
  ⟨formatName, 4, ⟨none, none, none, none⟩, Draft.add, Draft.finish, inOrder⟩

def decode (node : Node) : Decoded Router := format.decode .text node

end Router

namespace Lease

def toJson (lease : Lease) : Json :=
  .object [("gateway", lease.gateway.toJson), ("tunnel_id", .number lease.tunnelId.toNat),
    ("expires", .number lease.expires.toNat)]

structure Draft where
  gateway : Option Hash
  tunnelId : Option UInt32
  expires : Option UInt64

def Draft.add (draft : Draft) (name : Name) (field : String) (node : Node) : Decoded Draft :=
  if field = "gateway" then
    (decodeOnce name field draft.gateway (decodeHash node)).map
      fun read => { draft with gateway := read }
  else if field = "tunnel_id" then
    (decodeOnce name field draft.tunnelId (decodeUInt32 node)).map
      fun read => { draft with tunnelId := read }
  else if field = "expires" then
    (decodeOnce name field draft.expires (decodeUInt64 node)).map
      fun read => { draft with expires := read }
  else .ok draft

def Draft.finish (draft : Draft) : Decoded Lease := do
  let gateway ← required "gateway" draft.gateway
  let tunnelId ← required "tunnel_id" draft.tunnelId
  let expires ← required "expires" draft.expires
  pure ⟨gateway, tunnelId, expires⟩

def formatName : String := "Lease"

def inOrder (items : List (List Char × Node)) (ending : Ending) :
    Decoded (Lease × List (List Char × Node)) := do
  let size := recordSize formatName 3
  let (gateway, items) ← decodeField size 0 none decodeHash ending items
  let (tunnelId, items) ← decodeField size 1 none decodeUInt32 ending items
  let (expires, items) ← decodeField size 2 none decodeUInt64 ending items
  pure (⟨gateway, tunnelId, expires⟩, items)

def format : RecordFormat Draft Lease :=
  ⟨formatName, 3, ⟨none, none, none⟩, Draft.add, Draft.finish, inOrder⟩

def decode (source : Source) (node : Node) : Decoded Lease := format.decode source node

end Lease

namespace LeaseSet

def members (record : LeaseSet) : List (String × Json) :=
  [("key", record.key.toJson),
    ("signing_key", Json.ofOption SigningKey.toJson record.signingKey),
    ("leases", .array (record.leases.map Lease.toJson)),
    ("published", .number record.published.toNat)]

def toJson (record : LeaseSet) : Json := .object record.members

structure Draft where
  key : Option Hash
  signingKey : Option (Option SigningKey)
  leases : Option (List Lease)
  published : Option UInt64

def Draft.add (source : Source) (draft : Draft) (name : Name) (field : String) (node : Node) :
    Decoded Draft :=
  if field = "key" then
    (decodeOnce name field draft.key (decodeHash node)).map fun read => { draft with key := read }
  else if field = "signing_key" then
    (decodeOnce name field draft.signingKey (decodeOption decodeSigningKey node)).map
      fun read => { draft with signingKey := read }
  else if field = "leases" then
    (decodeOnce name field draft.leases (decodeList (Lease.decode source) node)).map
      fun read => { draft with leases := read }
  else if field = "published" then
    (decodeOnce name field draft.published (decodeUInt64 node)).map
      fun read => { draft with published := read }
  else .ok draft

def Draft.finish (draft : Draft) : Decoded LeaseSet := do
  let key ← required "key" draft.key
  let leases ← required "leases" draft.leases
  let published ← required "published" draft.published
  pure ⟨key, draft.signingKey.getD none, leases, published⟩

def formatName : String := "LeaseRecord"

def inOrder (source : Source) (items : List (List Char × Node)) (ending : Ending) :
    Decoded (LeaseSet × List (List Char × Node)) := do
  let size := recordSize formatName 4
  let (key, items) ← decodeField size 0 none decodeHash ending items
  let (signingKey, items) ←
    decodeField size 1 none (decodeOption decodeSigningKey) ending items
  let (leases, items) ←
    decodeField size 2 none (decodeList (Lease.decode source)) ending items
  let (published, items) ← decodeField size 3 none decodeUInt64 ending items
  pure (⟨key, signingKey, leases, published⟩, items)

def format (source : Source) : RecordFormat Draft LeaseSet :=
  ⟨formatName, 4, ⟨none, none, none, none⟩, Draft.add source, Draft.finish, inOrder source⟩

def decode (node : Node) : Decoded LeaseSet := (format .text).decode .text node

end LeaseSet

namespace Blinding

def toJson (data : Blinding) : Json :=
  .object [("signing_key", data.signingKey.toJson),
    ("destination", Json.ofOption Hash.toJson data.destination),
    ("secret", Json.ofOption Json.string data.secret)]

structure Draft where
  signingKey : Option SigningKey
  destination : Option (Option Hash)
  secret : Option (Option String)

def Draft.add (draft : Draft) (name : Name) (field : String) (node : Node) : Decoded Draft :=
  if field = "signing_key" then
    (decodeOnce name field draft.signingKey (decodeSigningKey node)).map
      fun read => { draft with signingKey := read }
  else if field = "destination" then
    (decodeOnce name field draft.destination (decodeOption decodeHash node)).map
      fun read => { draft with destination := read }
  else if field = "secret" then
    (decodeOnce name field draft.secret (decodeOption decodeString node)).map
      fun read => { draft with secret := read }
  else .ok draft

def Draft.finish (draft : Draft) : Decoded Blinding := do
  let signingKey ← required "signing_key" draft.signingKey
  pure ⟨signingKey, draft.destination.getD none, draft.secret.getD none⟩

def formatName : String := "BlindData"

def inOrder (items : List (List Char × Node)) (ending : Ending) :
    Decoded (Blinding × List (List Char × Node)) := do
  let size := recordSize formatName 3
  let (signingKey, items) ← decodeField size 0 none decodeSigningKey ending items
  let (destination, items) ← decodeField size 1 none (decodeOption decodeHash) ending items
  let (secret, items) ← decodeField size 2 none (decodeOption decodeString) ending items
  pure (⟨signingKey, destination, secret⟩, items)

def format : RecordFormat Draft Blinding :=
  ⟨formatName, 3, ⟨none, none, none⟩, Draft.add, Draft.finish, inOrder⟩

def decode (node : Node) : Decoded Blinding := format.decode .text node

end Blinding

namespace Entry

def kinds : List String := ["router", "lease"]

def toJson : Entry → Json
  | router descriptor => .object (("type", .string "router") :: descriptor.members)
  | lease record => .object (("type", .string "lease") :: record.members)

structure Draft where
  kind : Option Nat
  members : List (Name × Node)

/-- Adds a member to a draft. The kind is read at once; what belongs to the record is only checked
to be JSON, because the kind may still be to come. -/
def Draft.add (draft : Draft) (member : Name × Node) : Decoded Draft := do
  let name ← member.1.text
  if name = "type" then
    let kind ← decodeOnce member.1 "type" draft.kind (decodeVariant kinds member.2)
    pure { draft with kind }
  else
    settled 1 member.2
    pure { draft with members := draft.members ++ [member] }

def placeless {α : Type} : Decoded α → Decoded α
  | .ok value => .ok value
  | .error fault => .error { fault with place := .unknown }

def ofMembers (kind : Nat) (members : List (Name × Node)) (ending : Ending) : Decoded Entry :=
  placeless (if kind = 0 then (Router.format.ofMembers members ending).map router
    else ((LeaseSet.format .kept).ofMembers members ending).map lease)

def ofItems (kind : Nat) (items : List (List Char × Node)) (ending : Ending) : Decoded Entry :=
  placeless (if kind = 0 then (Router.format.ofItems .kept items ending).map router
    else ((LeaseSet.format .kept).ofItems .kept items ending).map lease)

def decode : Node → Decoded Entry
  | .object _ members ending => do
    let draft ← members.foldlM Draft.add ⟨none, []⟩
    match ending with
    | .broken wanting _ => .error wanting
    | .closed _ =>
      let kind ← required "type" draft.kind
      ofMembers kind draft.members ending
  | .array _ [] ending =>
    match ending with
    | .broken wanting _ => .error wanting
    | .closed _ => .error (missingField "type")
  | .array _ (item :: rest) ending => do
    let kind ← decodeVariant kinds item.2
    settledItems 1 ending rest
    ofItems kind rest ending
  | node => .error (node.unexpected "internally tagged enum DatabaseEntry")

end Entry

end PeerDirectory

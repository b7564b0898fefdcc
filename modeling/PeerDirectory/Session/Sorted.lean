import PeerDirectory.Record.Codec

namespace PeerDirectory

def sortedByText {α : Type} (toJson : α → Json) (values : List α) : List α :=
  let keyed := values.map fun value => ((toJson value).compact, value)
  (keyed.mergeSort fun a b => a.1 ≤ b.1).map (·.2)

def sortedRouters (values : List Router) : List Router := sortedByText Router.toJson values

def sortedLeaseSets (values : List LeaseSet) : List LeaseSet := sortedByText LeaseSet.toJson values

def sortedBlindings (values : List Blinding) : List Blinding := sortedByText Blinding.toJson values

def sortedHashes (values : List Hash) : List Hash :=
  values.mergeSort fun a b => (compare a b).isLE

end PeerDirectory

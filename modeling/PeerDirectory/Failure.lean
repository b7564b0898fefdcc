import PeerDirectory.PartitionId
import PeerDirectory.Settings

namespace PeerDirectory

inductive Failure where
  | startup (id : PartitionId) (reason : String)
  | storeShutDown (id : PartitionId)
  | store (text : String)
  | closed
  | excess (count : UInt64)
deriving DecidableEq

def Failure.message : Failure → String
  | startup id reason => "Store startup failed for " ++ id.text ++ ": " ++ reason
  | storeShutDown id => "Store for " ++ id.text ++ " is shut down"
  | store text => "Store error: " ++ text
  | closed => "Segmentor is shut down"
  | excess count => Settings.excessMessage count

end PeerDirectory

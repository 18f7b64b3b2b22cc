import HomeHub.Storage.Tree
import HomeHub.ZWave.Record

/-!
# The network behind a server

A network is loaded from a snapshot file and can be saved to a file of its own.
-/
namespace HomeHub.ZWave

inductive NetworkFault where
  | storage (fault : StorageFault)
  | unreadable (fault : Json.Error)
  deriving DecidableEq, Repr

def NetworkFault.message : NetworkFault → String
  | storage fault => s!"network I/O failed: {fault.message}"
  | unreadable fault => s!"network data is not valid JSON: {fault.message}"

structure Network where
  snapshot : Snapshot
  /-- Where the network is saved. -/
  configPath : String
  deriving DecidableEq, Repr

namespace Network

def load (file : File) (configPath : String) : Except NetworkFault Network := do
  let text ← file.read.mapError .storage
  let snapshot ← (Snapshot.read text).mapError .unreadable
  .ok ⟨snapshot, configPath⟩

def node? (n : Network) (nodeId : UInt8) : Option Node := n.snapshot.nodes.find? (·.nodeId = nodeId)

def entityValues (n : Network) : List Value := n.snapshot.entityValues

def save (n : Network) (file : File) : Except NetworkFault File :=
  (file.write n.snapshot.text).mapError .storage

end Network

end HomeHub.ZWave

/-
How many channels a node shall have.
-/

import CqlDriver.Cluster.Node
import CqlDriver.Config.Settings

namespace CqlDriver.PoolConfig

/-- The number of channels to a node. A node that is gone, switched off by hand or
ignored has none. -/
def target (config : PoolConfig) (node : Option Node) : Nat :=
  match node with
  | none => 0
  | some node =>
      match node.state, node.distance with
      | .forcedDown, _ => 0
      | _, .localDc => config.localSize
      | _, .remote => config.remoteSize
      | _, .ignored => 0

end CqlDriver.PoolConfig

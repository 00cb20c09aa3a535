/-
Keeping the registry in step with the cluster: what the events that a server pushes,
and the descriptions of a monitor, change in the registry.
-/

import CqlDriver.Cluster.Directory
import CqlDriver.Policy.Balancing
import CqlDriver.Wire.EventBody

namespace CqlDriver.NodeRegistry

/-- Takes a description of a node: a known node is brought up to date, an unknown
one is added. The distance is that of the description. -/
def applyInfo (distanceOf : NodeInfo → Distance) (info : NodeInfo) (registry : NodeRegistry) :
    NodeRegistry :=
  let distance := distanceOf info
  match registry.atAddress? info.address with
  | some node => ((registry.refreshNode info).2.setDistance node.id distance).2
  | none => (registry.addNode info distance).2

/-- Removes the nodes that are not described. -/
def removeMissing (infos : List NodeInfo) (registry : NodeRegistry) : NodeRegistry :=
  registry.snapshot.nodeList.foldl
    (fun registry node =>
      if infos.any fun info => decide (info.address = node.address) then registry
      else (registry.removeNode node.address).2)
    registry

/-- Takes the list of all nodes. An empty list says nothing. -/
def refreshNodes (distanceOf : NodeInfo → Distance) (infos : List NodeInfo)
    (registry : NodeRegistry) : NodeRegistry :=
  if infos.isEmpty then registry
  else
    infos.foldl (fun registry info => registry.applyInfo distanceOf info)
      (registry.removeMissing infos)

def discover (distanceOf : NodeInfo → Distance) (infos : List NodeInfo)
    (registry : NodeRegistry) : NodeRegistry :=
  infos.foldl (fun registry info => (registry.addNode info (distanceOf info)).2) registry

/-- The descriptions with which a session begins. The node that was reached counts also when
no description is of it. -/
def withReached (reached : SocketAddress) (infos : List NodeInfo) : List NodeInfo :=
  if infos.any fun info => decide (info.address = reached) then infos
  else infos ++ [{ address := reached }]

/-- Takes the nodes with which a session begins. The one that was reached is up. -/
def fill (distanceOf : NodeInfo → Distance) (reached : SocketAddress) (infos : List NodeInfo)
    (registry : NodeRegistry) : NodeRegistry :=
  let registry := registry.discover distanceOf infos
  match registry.atAddress? reached with
  | some node => (registry.signalUp node.id).2
  | none => registry

def onNewNode (distanceOf : NodeInfo → Distance) (monitor : TopologyMonitor)
    (address : SocketAddress) (registry : NodeRegistry) : NodeRegistry :=
  match registry.atAddress? address, monitor.announced address with
  | none, some info => (registry.addNode info (distanceOf info)).2
  | _, _ => registry

def onMovedNode (distanceOf : NodeInfo → Distance) (monitor : TopologyMonitor)
    (address : SocketAddress) (registry : NodeRegistry) : NodeRegistry :=
  match (registry.atAddress? address).bind monitor.refreshed with
  | some info => registry.applyInfo distanceOf info
  | none => registry

def onStatus (change : StatusChange) (address : SocketAddress) (registry : NodeRegistry) :
    NodeRegistry :=
  match registry.atAddress? address with
  | none => registry
  | some node =>
      match change with
      | .up => (registry.signalUp node.id).2
      | .down => (registry.signalDown node.id).2

def onEvent (distanceOf : NodeInfo → Distance) (monitor : TopologyMonitor)
    (event : ServerEvent) (registry : NodeRegistry) : NodeRegistry :=
  match event with
  | .topology .newNode address => registry.onNewNode distanceOf monitor address
  | .topology .removedNode address => (registry.removeNode address).2
  | .topology .movedNode address => registry.onMovedNode distanceOf monitor address
  | .status change address => registry.onStatus change address
  | .schema .. => registry

/-- The nodes to which a lost control connection may move, when no plan names any. -/
def fallbackCandidates (snapshot : ClusterSnapshot) : List SocketAddress :=
  (snapshot.nodeList.filter fun node =>
    decide (node.state ≠ .forcedDown) && decide (node.distance ≠ .ignored)).map Node.address

def controlCandidates (balancing : Balancing) (snapshot : ClusterSnapshot) :
    List SocketAddress × Balancing :=
  let (plan, balancing) := balancing.plan none snapshot
  match plan with
  | [] => (fallbackCandidates snapshot, balancing)
  | plan => (plan.map Node.address, balancing)

end CqlDriver.NodeRegistry

/-
The registry of nodes. It holds the present view of the cluster, changes it node
by node, and publishes each change. Changes of health go only along fixed lines,
so that a node that was switched off by hand stays off until it is switched on by
hand. An operation that changes nothing publishes nothing.
-/

import CqlDriver.Cluster.Node
import CqlDriver.Ring.TokenMap
import CqlDriver.Table

namespace CqlDriver

structure ClusterSnapshot where
  nodes : Table NodeId Node := []
  byAddress : Table SocketAddress NodeId := []
  ring : TokenMap NodeId := .empty
  deriving Repr

namespace ClusterSnapshot

instance : Inhabited ClusterSnapshot := ⟨{}⟩

def get? (snapshot : ClusterSnapshot) (id : NodeId) : Option Node :=
  snapshot.nodes.find? id

def atAddress? (snapshot : ClusterSnapshot) (address : SocketAddress) : Option Node :=
  (snapshot.byAddress.find? address).bind snapshot.get?

def nodeList (snapshot : ClusterSnapshot) : List Node := snapshot.nodes.values

def size (snapshot : ClusterSnapshot) : Nat := snapshot.nodes.length

def isEmpty (snapshot : ClusterSnapshot) : Bool := snapshot.nodes.isEmpty

def rebuildRing (snapshot : ClusterSnapshot) : ClusterSnapshot :=
  { snapshot with ring := .build (snapshot.nodeList.map fun node => (node.id, node.tokens)) }

def putNode (snapshot : ClusterSnapshot) (node : Node) : ClusterSnapshot :=
  { snapshot with nodes := snapshot.nodes.put node.id node }

def join (snapshot : ClusterSnapshot) (node : Node) : ClusterSnapshot :=
  let joined :=
    { snapshot.putNode node with byAddress := snapshot.byAddress.put node.address node.id }
  if node.tokens.isEmpty then joined else joined.rebuildRing

def refresh (snapshot : ClusterSnapshot) (node : Node) (info : NodeInfo) : ClusterSnapshot :=
  let refreshed := snapshot.putNode { node with info }
  if node.tokens = info.tokens then refreshed else refreshed.rebuildRing

def leave (snapshot : ClusterSnapshot) (address : SocketAddress) (node : Node) :
    ClusterSnapshot :=
  let left :=
    { snapshot with
      nodes := snapshot.nodes.erase node.id
      byAddress := snapshot.byAddress.erase address }
  if node.tokens.isEmpty then left else left.rebuildRing

end ClusterSnapshot

inductive NodeEvent where
  | added (node : Node)
  | removed (node : Node)
  /-- The node is as it is after the change. -/
  | stateChanged (node : Node) (old new : NodeState)
  | distanceChanged (node : Node) (old new : Distance)
  deriving DecidableEq, Repr

def NodeEvent.node : NodeEvent → Node
  | .added node | .removed node | .stateChanged node _ _ | .distanceChanged node _ _ => node

/-- The present view, the number of the next node, and all that was published,
the latest first. -/
structure NodeRegistry where
  snapshot : ClusterSnapshot := {}
  nextNumber : Nat := 1
  published : List NodeEvent := []
  deriving Repr

namespace NodeRegistry

instance : Inhabited NodeRegistry := ⟨{}⟩

def empty : NodeRegistry := {}

def get? (registry : NodeRegistry) (id : NodeId) : Option Node := registry.snapshot.get? id

def atAddress? (registry : NodeRegistry) (address : SocketAddress) : Option Node :=
  registry.snapshot.atAddress? address

def publish (registry : NodeRegistry) (snapshot : ClusterSnapshot) (event : NodeEvent) :
    NodeRegistry :=
  { registry with snapshot, published := event :: registry.published }

/-- The next node. -/
def newcomer (registry : NodeRegistry) (info : NodeInfo) (distance : Distance) : Node :=
  { id := ⟨registry.nextNumber⟩, info, distance }

/-- Adds a node, whose health is unknown at first. A node that is there already
under the address stays as it is. -/
def addNode (registry : NodeRegistry) (info : NodeInfo) (distance : Distance) :
    Node × NodeRegistry :=
  match registry.atAddress? info.address with
  | some existing => (existing, registry)
  | none =>
      let node := registry.newcomer info distance
      (node,
        { registry with nextNumber := registry.nextNumber + 1 }.publish
          (registry.snapshot.join node) (.added node))

/-- Replaces what is known about the node at an address. Gives whether that
changed anything. -/
def refreshNode (registry : NodeRegistry) (info : NodeInfo) : Bool × NodeRegistry :=
  match registry.atAddress? info.address with
  | none => (false, registry)
  | some current =>
      if current.info = info then (false, registry)
      else (true, { registry with snapshot := registry.snapshot.refresh current info })

def removeNode (registry : NodeRegistry) (address : SocketAddress) :
    Option Node × NodeRegistry :=
  match registry.atAddress? address with
  | none => (none, registry)
  | some node =>
      (some node, registry.publish (registry.snapshot.leave address node) (.removed node))

def setDistance (registry : NodeRegistry) (id : NodeId) (distance : Distance) :
    Bool × NodeRegistry :=
  match registry.get? id with
  | none => (false, registry)
  | some current =>
      if current.distance = distance then (false, registry)
      else
        let node := { current with distance }
        (true,
          registry.publish (registry.snapshot.putNode node)
            (.distanceChanged node current.distance distance))

/-- Changes the health of a node, if the change is allowed from the present
health and is one. -/
def transition (registry : NodeRegistry) (id : NodeId)
    (allowed : NodeState → Option NodeState) : Bool × NodeRegistry :=
  match registry.get? id with
  | none => (false, registry)
  | some current =>
      match allowed current.state with
      | none => (false, registry)
      | some state =>
          if state = current.state then (false, registry)
          else
            let node := { current with state }
            (true,
              registry.publish (registry.snapshot.putNode node)
                (.stateChanged node current.state state))

def allowUp : NodeState → Option NodeState
  | .unknown | .down => some .up
  | .up | .forcedDown => none

def allowDown : NodeState → Option NodeState
  | .unknown | .up => some .down
  | .down | .forcedDown => none

def allowForceDown : NodeState → Option NodeState := fun _ => some .forcedDown

def allowForceUp : NodeState → Option NodeState
  | .forcedDown => some .unknown
  | .up | .down | .unknown => none

/-- A connection to the node was opened, or the node is said to be up. -/
def signalUp (registry : NodeRegistry) (id : NodeId) : Bool × NodeRegistry :=
  registry.transition id allowUp

/-- All connections to the node failed, or the node is said to be down. -/
def signalDown (registry : NodeRegistry) (id : NodeId) : Bool × NodeRegistry :=
  registry.transition id allowDown

def forceDown (registry : NodeRegistry) (id : NodeId) : Bool × NodeRegistry :=
  registry.transition id allowForceDown

/-- Takes a node back that was switched off by hand. -/
def forceUp (registry : NodeRegistry) (id : NodeId) : Bool × NodeRegistry :=
  registry.transition id allowForceUp

def clear (registry : NodeRegistry) : NodeRegistry :=
  registry.snapshot.nodeList.foldl
    (fun registry node => (registry.removeNode node.address).2) registry

end NodeRegistry

end CqlDriver

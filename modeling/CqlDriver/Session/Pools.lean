/-
One pool for each node. The pools follow what the registry publishes; a follower
that has lost events compares the pools with the registry instead.
-/

import CqlDriver.Cluster.Feed
import CqlDriver.Pool.Pool
import CqlDriver.Table

namespace CqlDriver

structure PoolPlan where
  config : PoolConfig
  policy : ReconnectionPolicy

inductive PoolOrder where
  | resize (node : NodeId)
  | nodeDown (node : NodeId)
  | close (pool : Pool)

abbrev PoolTable := Table NodeId Pool

namespace PoolTable

def newPool (plan : PoolPlan) (node : Node) : Pool :=
  { node := node.id, address := node.address, config := plan.config, policy := plan.policy }

def provide (plan : PoolPlan) (node : Node) (pools : PoolTable) : PoolTable :=
  match pools.find? node.id with
  | some _ => pools
  | none => pools.put node.id (newPool plan node)

def onEvent (plan : PoolPlan) (event : NodeEvent) (pools : PoolTable) :
    List PoolOrder × PoolTable :=
  match event with
  | .added node => ([.resize node.id], pools.provide plan node)
  | .removed node =>
      match pools.find? node.id with
      | some pool => ([.close pool], pools.erase node.id)
      | none => ([], pools)
  | .stateChanged node _ state =>
      match pools.find? node.id, state with
      | none, _ => ([], pools)
      | some _, .down => ([.nodeDown node.id], pools)
      | some _, _ => ([.resize node.id], pools)
  | .distanceChanged node _ _ =>
      match pools.find? node.id with
      | some _ => ([.resize node.id], pools)
      | none => ([], pools)

/-- Compares the pools with all nodes: pools of nodes that are gone are closed, and
each node gets its pool resized. -/
def resync (plan : PoolPlan) (snapshot : ClusterSnapshot) (pools : PoolTable) :
    List PoolOrder × PoolTable :=
  let isStale (entry : NodeId × Pool) : Bool := (snapshot.get? entry.1).isNone
  let closing := (pools.filter isStale).map fun entry => PoolOrder.close entry.2
  let kept := pools.filter fun entry => !isStale entry
  let nodes := snapshot.nodeList
  (closing ++ nodes.map fun node => .resize node.id,
    nodes.foldl (fun pools node => PoolTable.provide plan node pools) kept)

def onNotice (plan : PoolPlan) (snapshot : ClusterSnapshot) (notice : Notice)
    (pools : PoolTable) : List PoolOrder × PoolTable :=
  match notice with
  | .event event => pools.onEvent plan event
  | .lagged _ => resync plan snapshot pools

end PoolTable

end CqlDriver

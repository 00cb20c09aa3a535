/-
How near nodes are, and in which order a request tries them: first the owners of
its token, then the other nodes of the local datacenter, then the rest. Each of
the last two groups starts one place further with every plan.
-/

import CqlDriver.Cluster.Registry

namespace CqlDriver

abbrev QueryPlan := List Node

structure Balancing where
  localDatacenter : Option String := none
  /-- How many owners of a token are tried first. -/
  replicas : Nat := 3
  plansMade : UInt64 := 0
  deriving Repr, Inhabited

namespace Balancing

def init (balancing : Balancing) (datacenter : Option String) : Balancing :=
  { balancing with localDatacenter := datacenter }

/-- Without a local datacenter every node is local; with one, the nodes that are
known to be in it are. -/
def distance (balancing : Balancing) (info : NodeInfo) : Distance :=
  match balancing.localDatacenter, info.datacenter with
  | none, _ => .localDc
  | some _, none => .remote
  | some home, some datacenter => if home = datacenter then .localDc else .remote

def isLocal (node : Node) : Bool := node.distance = .localDc

def localFirst (nodes : List Node) : List Node :=
  let (near, far) := nodes.partition isLocal
  near ++ far

/-- The list from a place on, with what stands before the place behind it; places
are counted around the list. -/
def rotate {α : Type} (items : List α) (start : Nat) : List α :=
  let place := start % items.length
  items.drop place ++ items.take place

def placed (snapshot : ClusterSnapshot) (owners : List NodeId) : List Node :=
  localFirst ((owners.filterMap snapshot.get?).filter Node.isRoutable)

/-- The routable nodes among the first owners of a token, local ones first. -/
def owners (replicas : Nat) (token : Option Token) (snapshot : ClusterSnapshot) : List Node :=
  match token with
  | none => []
  | some token => placed snapshot (snapshot.ring.firstOwners token replicas)

def owners? (replicas : Nat) (token : Option Token) (snapshot : ClusterSnapshot) :
    Option (List Node) :=
  match token with
  | none => some []
  | some token => (snapshot.ring.replicas token replicas).map (placed snapshot)

/-- These owners, and behind them the other routable nodes, when so many plans were made
before. -/
def planBehind (owners : List Node) (snapshot : ClusterSnapshot) (plansMade : Nat) : QueryPlan :=
  let candidates := snapshot.nodeList.filter Node.isRoutable
  let others := candidates.filter fun node =>
    !owners.any fun owner => decide (owner.id = node.id)
  let (near, far) := others.partition isLocal
  owners ++ rotate near plansMade ++ rotate far plansMade

def planAt (replicas : Nat) (token : Option Token) (snapshot : ClusterSnapshot)
    (plansMade : Nat) : QueryPlan :=
  planBehind (owners replicas token snapshot) snapshot plansMade

/-- The plan of a request, where there is room for the owners. Only a plan with nodes is
counted. -/
def plan (balancing : Balancing) (token : Option Token) (snapshot : ClusterSnapshot) :
    QueryPlan × Balancing :=
  if (snapshot.nodeList.filter Node.isRoutable).isEmpty then ([], balancing)
  else
    (planAt balancing.replicas token snapshot balancing.plansMade.toNat,
      { balancing with plansMade := balancing.plansMade + 1 })

/-- The plan of a request. There is none if nodes can be tried, and the ring has no room for
so many owners of the token. -/
def plan? (balancing : Balancing) (token : Option Token) (snapshot : ClusterSnapshot) :
    Option (QueryPlan × Balancing) :=
  if (snapshot.nodeList.filter Node.isRoutable).isEmpty then some ([], balancing)
  else
    (owners? balancing.replicas token snapshot).map fun owners =>
      (planBehind owners snapshot balancing.plansMade.toNat,
        { balancing with plansMade := balancing.plansMade + 1 })

end Balancing

end CqlDriver

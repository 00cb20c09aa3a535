/-
Which datacenter is the local one. A configured one always is. Without one, it is
that of the node that was reached by the address that is assumed when no contact
point is given; contact points that were given demand a configured one.
-/

import CqlDriver.Cluster.Node

namespace CqlDriver

inductive LocalDatacenterFault where
  | notConfigured (contactPoints : List SocketAddress)
  | notInferred
  deriving DecidableEq, Repr

def LocalDatacenterFault.message : LocalDatacenterFault → String
  | .notConfigured contactPoints =>
      "the local datacenter must be set when contact points are explicit (contact points: "
        ++ ", ".intercalate (contactPoints.map SocketAddress.render) ++ ")"
  | .notInferred =>
      "the local datacenter could not be inferred from the implicit contact point"

def discoverLocalDatacenter (configured : Option String) (implicit : Bool)
    (contactPoints : List NodeInfo) (controlNode : Option NodeInfo) :
    Except LocalDatacenterFault String :=
  match configured with
  | some datacenter => .ok datacenter
  | none =>
      if !implicit then .error (.notConfigured (contactPoints.map (·.address)))
      else
        match controlNode.bind (·.datacenter) with
        | some datacenter => .ok datacenter
        | none => .error .notInferred

end CqlDriver

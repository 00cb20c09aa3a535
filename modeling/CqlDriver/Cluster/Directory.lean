/-
Where descriptions of nodes come from. A directory of them that is kept by hand, in
the order of the addresses, says which nodes the cluster has.
-/

import CqlDriver.Cluster.Node

namespace CqlDriver

/-- Who is asked for a description: of a node that an event announces, and of a known
node that has moved. An answer may be about another address. -/
structure TopologyMonitor where
  announced : SocketAddress → Option NodeInfo
  refreshed : Node → Option NodeInfo

/-- The descriptions by address, in ascending order. Nodes that are not listed may
be taken in with nothing but their address. -/
structure NodeDirectory where
  nodes : List NodeInfo := []
  acceptsUnknown : Bool := true
  deriving Repr, Inhabited

namespace NodeDirectory

/-- Puts a description at its place; it replaces one with the same address. -/
def place (info : NodeInfo) : List NodeInfo → List NodeInfo
  | [] => [info]
  | first :: rest =>
      if first.address = info.address then info :: rest
      else if info.address.before first.address then info :: first :: rest
      else first :: place info rest

def upsert (directory : NodeDirectory) (info : NodeInfo) : NodeDirectory :=
  { directory with nodes := place info directory.nodes }

def ofList (infos : List NodeInfo) : NodeDirectory := infos.foldl upsert {}

def ofAddresses (addresses : List SocketAddress) (datacenter : Option String) : NodeDirectory :=
  ofList (addresses.map fun address => { address, datacenter })

def find? (directory : NodeDirectory) (address : SocketAddress) : Option NodeInfo :=
  directory.nodes.find? fun info => decide (info.address = address)

def remove (directory : NodeDirectory) (address : SocketAddress) : NodeDirectory :=
  { directory with nodes := directory.nodes.filter fun info => decide (info.address ≠ address) }

/-- The description of a node that an event announces. -/
def findNew? (directory : NodeDirectory) (address : SocketAddress) : Option NodeInfo :=
  match directory.find? address with
  | some info => some info
  | none => if directory.acceptsUnknown then some { address } else none

def monitor (directory : NodeDirectory) : TopologyMonitor :=
  { announced := directory.findNew?
    refreshed := fun node => directory.find? node.address }

end NodeDirectory

end CqlDriver

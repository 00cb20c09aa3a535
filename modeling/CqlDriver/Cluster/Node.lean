/-
Nodes of the cluster: what is known about a node, its health and its distance.
-/

import CqlDriver.Net.Address
import CqlDriver.Ring.Token

namespace CqlDriver

structure NodeId where
  number : Nat
  deriving DecidableEq, Repr, Inhabited

def NodeId.render (id : NodeId) : String := s!"node-{id.number}"

structure HostId where
  bits : BitVec 128
  deriving DecidableEq, Repr, Inhabited

namespace HostId

def parse? (text : String) : Option HostId :=
  match (text.toList.filter (· != '-')).mapM Text.Hex.digit? with
  | none => none
  | some digits =>
      if digits.length = 32 then
        some ⟨BitVec.ofNat 128 (digits.foldl (fun total digit => total * 16 + digit) 0)⟩
      else none

def render (id : HostId) : String :=
  let digits := (List.range 32).map fun index =>
    Nat.digitChar ((id.bits.toNat >>> (4 * (31 - index))) % 16)
  let part start length := String.ofList ((digits.drop start).take length)
  "-".intercalate [part 0 8, part 8 4, part 12 4, part 16 4, part 20 12]

end HostId

inductive NodeState where
  | up
  | down
  /-- Switched off by hand: no traffic and no attempts to connect. -/
  | forcedDown
  /-- Known of, but not yet reached. -/
  | unknown
  deriving DecidableEq, Repr, Inhabited

def NodeState.render : NodeState → String
  | .up => "UP"
  | .down => "DOWN"
  | .forcedDown => "FORCED_DOWN"
  | .unknown => "UNKNOWN"

inductive Distance where
  | localDc
  | remote
  | ignored
  deriving DecidableEq, Repr, Inhabited

def Distance.render : Distance → String
  | .localDc => "LOCAL"
  | .remote => "REMOTE"
  | .ignored => "IGNORED"

def Distance.parse? (text : String) : Option Distance :=
  [.localDc, .remote, .ignored].find? fun distance => distance.render = text

structure NodeInfo where
  address : SocketAddress
  datacenter : Option String := none
  rack : Option String := none
  tokens : List Token := []
  hostId : Option HostId := none
  deriving DecidableEq, Repr, Inhabited

structure Node where
  id : NodeId
  info : NodeInfo
  state : NodeState := .unknown
  distance : Distance
  deriving DecidableEq, Repr, Inhabited

namespace Node

def address (node : Node) : SocketAddress := node.info.address

def tokens (node : Node) : List Token := node.info.tokens

/-- Whether requests may go to the node. -/
def isRoutable (node : Node) : Bool :=
  node.state = .up ∧ node.distance ≠ .ignored

/-- Whether connections to the node may be opened. -/
def isEnabled (node : Node) : Bool :=
  node.state ≠ .forcedDown ∧ node.distance ≠ .ignored

def render (node : Node) : String := s!"{node.address.render} ({node.id.render})"

end Node

end CqlDriver

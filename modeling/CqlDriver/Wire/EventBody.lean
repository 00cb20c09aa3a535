/-
Events that a server pushes: changes of the ring, of a node's health and of the
schema.
-/

import CqlDriver.Wire.Body

namespace CqlDriver

inductive TopologyChange where
  | newNode
  | removedNode
  | movedNode
  deriving DecidableEq, Repr, Inhabited

inductive StatusChange where
  | up
  | down
  deriving DecidableEq, Repr, Inhabited

inductive ServerEvent where
  | topology (change : TopologyChange) (address : SocketAddress)
  | status (change : StatusChange) (address : SocketAddress)
  /-- The name of the element is missing if the whole keyspace is concerned;
  functions and aggregates also have the types of their arguments. -/
  | schema (change target keyspace : String) (name : Option String) (arguments : List String)
  deriving DecidableEq, Repr, Inhabited

namespace TopologyChange

def wireName : TopologyChange → String
  | .newNode => "NEW_NODE"
  | .removedNode => "REMOVED_NODE"
  | .movedNode => "MOVED_NODE"

def render : TopologyChange → String
  | .newNode => "NewNode"
  | .removedNode => "RemovedNode"
  | .movedNode => "MovedNode"

def parse? (name : String) : Option TopologyChange :=
  if name = "NEW_NODE" then some .newNode
  else if name = "REMOVED_NODE" then some .removedNode
  else if name = "MOVED_NODE" then some .movedNode
  else none

end TopologyChange

namespace StatusChange

def wireName : StatusChange → String
  | .up => "UP"
  | .down => "DOWN"

def render : StatusChange → String
  | .up => "Up"
  | .down => "Down"

def parse? (name : String) : Option StatusChange :=
  if name = "UP" then some .up
  else if name = "DOWN" then some .down
  else none

end StatusChange

namespace ServerEvent

open Wire

def topologyKind : String := "TOPOLOGY_CHANGE"
def statusKind : String := "STATUS_CHANGE"
def schemaKind : String := "SCHEMA_CHANGE"

def kinds : List String := [topologyKind, statusKind, schemaKind]

def readElement (target : String) : Reader (Option String × List String) := do
  if target = "KEYSPACE" then return (none, [])
  else if target = "TABLE" ∨ target = "TYPE" then
    let name ← Reader.string
    return (some name, [])
  else
    let name ← Reader.string
    let arguments ← Reader.stringList
    return (some name, arguments)

def read : Reader ServerEvent := do
  let kind ← Reader.string
  if kind = topologyKind then
    let name ← Reader.string
    match TopologyChange.parse? name with
    | none => throw (.unknownTopologyChange name)
    | some change => return .topology change (← Reader.inet)
  else if kind = statusKind then
    let name ← Reader.string
    match StatusChange.parse? name with
    | none => throw (.unknownStatusChange name)
    | some change => return .status change (← Reader.inet)
  else if kind = schemaKind then
    let change ← Reader.string
    let target ← Reader.string
    let keyspace ← Reader.string
    let (name, arguments) ← readElement target
    return .schema change target keyspace name arguments
  else throw (.unknownEvent kind)

/-- Reads the body of an event; bytes behind it do not matter. -/
def parse (body : List UInt8) : Except BodyFault ServerEvent := read.onBody body

/-- The name, if there is one, and behind it the argument types of a function or
an aggregate. -/
def encodeElement (target : String) (name : Option String) (arguments : List String) :
    List UInt8 :=
  (match name with
    | some name => Writer.string name
    | none => [])
    ++ (if target = "FUNCTION" ∨ target = "AGGREGATE" then Writer.stringList arguments else [])

def body : ServerEvent → List UInt8
  | .topology change address =>
      Writer.string topologyKind ++ Writer.string change.wireName ++ Writer.inet address
  | .status change address =>
      Writer.string statusKind ++ Writer.string change.wireName ++ Writer.inet address
  | .schema change target keyspace name arguments =>
      Writer.string schemaKind ++ Writer.string change ++ Writer.string target
        ++ Writer.string keyspace ++ encodeElement target name arguments

def render : ServerEvent → String
  | .topology change address => s!"{topologyKind} {change.render} {address.render}"
  | .status change address => s!"{statusKind} {change.render} {address.render}"
  | .schema change target keyspace _ _ => s!"{schemaKind} {change} {target} {keyspace}"

end ServerEvent

end CqlDriver

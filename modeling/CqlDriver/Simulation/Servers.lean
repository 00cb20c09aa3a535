/-
Servers in the world: how they read from their connections and answer, and what can
be done to them.
-/

import CqlDriver.Simulation.World

namespace CqlDriver.Simulation.World

def modifyServer (address : SocketAddress) (change : MockNode → MockNode) (world : World) :
    World :=
  match world.servers.find? address with
  | some node => { world with servers := world.servers.put address (change node) }
  | none => world

def actServer (id : ChannelId) (action : MockAction) (world : World) : World :=
  match action with
  | .nothing => world
  | .answer frame => world.writeToClient id frame.encode
  | .answerLater millis frame => world.schedule (world.now + millis) (.answer id frame)
  | .enroll frame =>
      (world.modifyLink id fun link => { link with isEnrolled := true }).writeToClient id
        frame.encode
  | .hangUp => world.endServer id

def serveFrame (id : ChannelId) (address : SocketAddress) (world : World)
    (frame : Frame) : World :=
  match world.links.find? id, world.servers.find? address with
  | some link, some node =>
      if link.serverDone then world
      else
        let (action, node) := node.serve frame
        { world with servers := world.servers.put address node }.actServer id action
  | _, _ => world

/-- A server reads from a connection, and closes its end when the client has. It
passes over frames whose operation it does not know. -/
def serve (id : ChannelId) (world : World) : World :=
  match world.links.find? id with
  | none => world
  | some link =>
      if link.serverDone || (world.servers.find? link.server).isNone then world
      else
        let (received, halt) := Frame.decodeAll link.toServer
        let world := world.modifyLink id fun link => { link with toServer := halt.rest }
        let frames := received.filterMap Frame.Received.frame?
        let world := frames.foldl (serveFrame id link.server) world
        if link.clientDone then
          world.modifyLink id fun link => { link with serverDone := true }
        else world

def openLinks (address : SocketAddress) (world : World) : List (ChannelId × Link) :=
  world.links.filter fun entry =>
    decide (entry.2.server = address) && !entry.2.serverDone

def killServer (address : SocketAddress) (world : World) : World :=
  (world.openLinks address).foldl (fun world entry => world.endServer entry.1) world

/-- A server pushes an event on every connection that asked for events; gives the
number of these. -/
def pushEvent (address : SocketAddress) (event : ServerEvent) (world : World) : Nat × World :=
  match world.servers.find? address with
  | none => (0, world)
  | some node =>
      let enrolled := (world.openLinks address).filter fun entry => entry.2.isEnrolled
      (enrolled.length,
        enrolled.foldl
          (fun world entry => world.writeToClient entry.1 (node.pushed event).encode) world)

inductive ServerCommand where
  | reply (replies : List MockReply)
  | heartbeats (on : Bool)
  | hang (on : Bool)
  | maxVersion (version : UInt8)
  | refuseEvents (on : Bool)
  | kill
  | listen (on : Bool)
  | push (event : ServerEvent)

/-- Does something to a server; for an event, gives the number of connections. -/
def command (address : SocketAddress) (command : ServerCommand) (world : World) :
    Option Nat × World :=
  let changed (change : MockNode → MockNode) := (none, world.modifyServer address change)
  match command with
  | .reply replies => changed fun node => { node with replies }
  | .heartbeats on => changed fun node => { node with answersOptions := on }
  | .hang on => changed fun node => { node with isHanging := on }
  | .maxVersion version => changed fun node => { node with maxVersion := version }
  | .refuseEvents on => changed fun node => { node with refusesEvents := on }
  | .listen on => changed fun node => { node with isListening := on }
  | .kill => (none, world.killServer address)
  | .push event =>
      let (count, world) := world.pushEvent address event
      (some count, world)

structure ServerView where
  address : SocketAddress
  node : MockNode
  openCount : Nat

def serverViews (world : World) : List ServerView :=
  (world.servers.map fun entry =>
    { address := entry.1
      node := entry.2
      openCount := (world.openLinks entry.1).length : ServerView }).mergeSort
    fun left right => decide (left.address.render ≤ right.address.render)

end CqlDriver.Simulation.World

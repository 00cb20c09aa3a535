/-
A client, its servers, and the connections between them, all in memory. Connections
neither lose nor reorder bytes. What happens is a matter of the agenda alone.
-/

import CqlDriver.Channel.Opening
import CqlDriver.Request.Request
import CqlDriver.Request.Run
import CqlDriver.Session.FirstContact
import CqlDriver.Session.Membership
import CqlDriver.Session.Pools
import CqlDriver.Simulation.Agenda
import CqlDriver.Simulation.MockNode

namespace CqlDriver.Simulation

/-- Who waits for the answer to a request on a channel. -/
inductive Holder where
  | caller (number : Nat)
  | attempt (request : Nat) (attempt : AttemptId)
  deriving DecidableEq, Repr

inductive Asker where
  | caller
  | pool (node : NodeId) (place : Nat)
  | session
  | control
  deriving DecidableEq, Repr

inductive Drainer where
  | caller
  | pool (node : NodeId)
  deriving DecidableEq, Repr

inductive Job where
  | read (channel : ChannelId)
  | write (channel : ChannelId)
  | beat (channel : ChannelId)
  | giveUp (channel : ChannelId)
  | opened (asker : Asker) (result : Except DriverError ChannelId)
  | drain (channel : ChannelId)
  | lost (channel : ChannelId)
  | serve (channel : ChannelId)
  | answer (channel : ChannelId) (frame : Frame)
  | resize (node : NodeId) (caller : ResizeCaller)
  | resume (node : NodeId)
  | wake (node : NodeId)
  | request (number : Nat)
  | ended (number : Nat) (attempt : AttemptId) (result : Except DriverError Frame)
  | overdue (number : Nat) (attempt : AttemptId)
  | followNodes
  | filled
  | control
  | controlPaused
  | closeSession

/-- A connection: the bytes on their way, and which ends are closed. -/
structure Link where
  server : SocketAddress
  toServer : List UInt8 := []
  toClient : List UInt8 := []
  clientDone : Bool := false
  serverDone : Bool := false
  isEnrolled : Bool := false

structure PendingOpening where
  opening : Opening
  asker : Asker

structure Drain where
  channel : ChannelId
  deadline : Nat
  drainer : Drainer

structure Call where
  request : Request
  attemptTimeout : Span
  run : RequestRun
  tickets : Table AttemptId (ChannelId × Ticket) := []

inductive ControlStage where
  | idle
  | listening
  /-- These candidates for a new connection are left, the first is being tried. -/
  | connecting (candidates : List SocketAddress) (schedule : ReconnectionSchedule)
  | pausing (schedule : ReconnectionSchedule)

inductive SessionStage where
  | fresh
  | contacting (contact : FirstContact)
  | filling (left : Nat)
  | running
  | closing
  | closed
  deriving Repr

inductive Lifecycle where
  | starting
  | started
  | shuttingDown
  | shutdown
  deriving DecidableEq, Repr

def Lifecycle.name : Lifecycle → String
  | .starting => "STARTING"
  | .started => "STARTED"
  | .shuttingDown => "SHUTTING_DOWN"
  | .shutdown => "SHUTDOWN"

structure World where
  agenda : Agenda Job := {}
  servers : Table SocketAddress MockNode := []
  /-- Where a peer listens that does only what it is told. -/
  puppet : Option SocketAddress := none
  hosts : Table String (List SocketAddress) := []
  links : Table ChannelId Link := []
  openings : Table ChannelId PendingOpening := []
  channels : Table ChannelId Channel := []
  nextChannel : Nat := 0
  holders : Table (ChannelId × Nat) Holder := []
  drains : List Drain := []
  watched : Table ChannelId NodeId := []
  registry : NodeRegistry := {}
  pools : PoolTable := []
  retired : PoolTable := []
  /-- How channels of pools, and with events the control channel, are opened. -/
  channelConfig : ChannelConfig
  config : DriverConfig
  reconnection : ReconnectionPolicy
  retry : RetrySource
  speculation : SpeculationPolicy
  balancing : Balancing := {}
  directory : NodeDirectory := {}
  contactPoints : List SocketAddress := []
  stage : SessionStage := .fresh
  localDatacenter : String := ""
  calls : Table Nat Call := []
  /-- How far the pools have followed the registry; nothing before they do. -/
  follower : Option Subscription := none
  controlStage : ControlStage := .idle
  controlChannel : Option ChannelId := none
  eventsHandled : Nat := 0
  events : List ServerEvent := []
  authentication : List AuthenticationStep := []
  outcome : Option (Except DriverError ChannelId) := none
  connected : Option (Except DriverError Unit) := none
  lifecycle : List Lifecycle := []
  answered : List (Nat × Except DriverError Frame) := []
  finished : List (Nat × RequestResult) := []
  sized : List (Nat × Except DriverError Nat) := []
  drainsDone : Nat := 0

namespace World

def now (world : World) : Nat := world.agenda.now

/-- The present time in nanoseconds, in which channels count. -/
def clock (world : World) : Nat := (Span.ofMillis world.now).nanos

def push (job : Job) (world : World) : World :=
  { world with agenda := world.agenda.push job }

def schedule (due : Nat) (job : Job) (world : World) : World :=
  { world with agenda := world.agenda.schedule due job }

def after (span : Span) (job : Job) (world : World) : World :=
  world.schedule (world.now + span.millisUp) job

def modifyLink (id : ChannelId) (change : Link → Link) (world : World) : World :=
  match world.links.find? id with
  | some link => { world with links := world.links.put id (change link) }
  | none => world

def writeToServer (id : ChannelId) (bytes : List UInt8) (world : World) : World :=
  if bytes.isEmpty then world
  else
    (world.modifyLink id fun link => { link with toServer := link.toServer ++ bytes }).push
      (.serve id)

def writeToClient (id : ChannelId) (bytes : List UInt8) (world : World) : World :=
  (world.modifyLink id fun link =>
    if link.serverDone then link else { link with toClient := link.toClient ++ bytes }).push
    (.read id)

def endClient (id : ChannelId) (world : World) : World :=
  (world.modifyLink id fun link => { link with clientDone := true }).push (.serve id)

def endServer (id : ChannelId) (world : World) : World :=
  (world.modifyLink id fun link => { link with serverDone := true }).push (.read id)

def listens (address : SocketAddress) (world : World) : Bool :=
  match world.servers.find? address with
  | some node => node.isListening
  | none => decide (world.puppet = some address)

/-- Takes a changed registry. Those who follow it are told when something was
published. -/
def takeRegistry (registry : NodeRegistry) (world : World) : World :=
  let isNews := decide (world.registry.published.length < registry.published.length)
  let world := { world with registry }
  if isNews && world.follower.isSome then world.push .followNodes else world

def changeNodes {Result : Type} (operation : NodeRegistry → Result × NodeRegistry)
    (world : World) : Result × World :=
  let (result, registry) := operation world.registry
  (result, world.takeRegistry registry)

end World

end CqlDriver.Simulation

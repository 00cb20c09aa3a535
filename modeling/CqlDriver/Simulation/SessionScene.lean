/-
A session over servers that answer from a script.
-/

import CqlDriver.Simulation.Run

namespace CqlDriver.Simulation

inductive SessionStep where
  | look
  | execute (request : Request)
  | submit (request : Request)
  /-- Cancel the submitted request of a step, or go away from an executed one. -/
  | cancel (step : Nat)
  | forceDown (address : SocketAddress)
  | forceUp (address : SocketAddress)
  | forget (address : SocketAddress)
  | flap (address : SocketAddress) (count : Nat)
  | burst (steps : List SessionStep)
  | refresh
  | agreement
  | upsert (info : NodeInfo)
  | unlist (address : SocketAddress)
  | advance (millis : Nat)
  | server (address : SocketAddress) (command : World.ServerCommand)
  | close
  deriving Inhabited

inductive SessionAnswer where
  | nothing
  | changed (value : Bool)
  | pushed (count : Nat)
  | refreshed
  | all (answers : List SessionAnswer)
  deriving Inhabited

abbrev NodeView := Node × Nat

structure SessionReport where
  answer : SessionAnswer
  finished : List (Nat × RequestResult)
  nodes : List NodeView
  control : Option SocketAddress
  isClosed : Bool
  lifecycle : List Lifecycle
  /-- By node, and for one node in order. -/
  notices : List Notice
  events : List ServerEvent
  servers : List World.ServerView

structure SessionScene where
  world : World
  number : Nat := 0
  submitted : List Nat := []
  follower : Subscription := ⟨0⟩
  finishedSeen : Nat := 0
  lifecycleSeen : Nat := 0
  eventsSeen : Nat := 0

/-- What the caller chooses for a session; what is not chosen follows from the
configuration. -/
structure SessionChoices where
  directory : Option NodeDirectory := none
  retry : Option RetrySource := none
  speculation : Option SpeculationPolicy := none
  reconnection : Option ReconnectionPolicy := none
  replicas : Option Nat := none

namespace SessionChoices

def configuredSpeculation (config : SpeculationConfig) : SpeculationPolicy :=
  if config.isEnabled then .constant config.maxExecutions config.delay else .never

def configuredReconnection (config : ReconnectionConfig) : ReconnectionPolicy :=
  .growing config.baseDelay config.maxDelay config.multiplier

/-- The nodes that are known without a directory: the contact points. -/
def contactDirectory (config : DriverConfig) (hosts : Table String (List SocketAddress)) :
    NodeDirectory :=
  match config.network.resolve hosts.find? with
  | .ok addresses => .ofAddresses addresses config.network.localDatacenter
  | .error _ => {}

def world (choices : SessionChoices) (config : DriverConfig)
    (servers : Table SocketAddress MockNode) (hosts : Table String (List SocketAddress))
    (authenticator : Option Authenticator) : World :=
  let channelConfig := ChannelConfig.ofDriver config config.network.protocolVersion
  { servers
    hosts
    channelConfig := { channelConfig with authenticator }
    config
    reconnection := choices.reconnection.getD (configuredReconnection config.reconnection)
    retry := choices.retry.getD (.fixed (.careful config.retryServerErrors))
    speculation := choices.speculation.getD (configuredSpeculation config.speculation)
    balancing := { replicas := choices.replicas.getD config.replicationFactor }
    directory := choices.directory.getD (contactDirectory config hosts) }

end SessionChoices

namespace SessionScene

def withWorld (world : World) (scene : SessionScene) : SessionScene := { scene with world }

def start (fresh : World) : SessionScene :=
  let world := fresh.connectSession.waitUntil fun world => world.connected.isSome
  { world, follower := ⟨world.registry.published.length⟩ }

def render (scene : SessionScene) : String :=
  "Session \x7b " ++ s!"version: {scene.world.channelConfig.version.name}, local_datacenter: "
    ++ Text.Quoted.quote scene.world.localDatacenter
    ++ s!", nodes: {scene.world.registry.snapshot.size}" ++ " \x7d"

def changeAt (address : SocketAddress)
    (operation : NodeRegistry → NodeId → Bool × NodeRegistry) (world : World) : Bool × World :=
  match world.registry.atAddress? address with
  | none => (false, world)
  | some node => world.changeNodes fun registry => operation registry node.id

def forceDown (address : SocketAddress) : World → Bool × World :=
  changeAt address NodeRegistry.forceDown

def forceUp (address : SocketAddress) : World → Bool × World :=
  changeAt address NodeRegistry.forceUp

def forget (address : SocketAddress) (world : World) : Bool × World :=
  world.changeNodes fun registry =>
    let (node, registry) := registry.removeNode address
    (node.isSome, registry)

def flap (address : SocketAddress) : Nat → World → Bool × World
  | 0, world => (true, world)
  | count + 1, world =>
      let (down, world) := forceDown address world
      let (up, world) := forceUp address world
      let (rest, world) := flap address count world
      (down && up && rest, world)

def changed (scene : SessionScene) (result : Bool × World) : SessionAnswer × SessionScene :=
  (.changed result.1, scene.withWorld result.2)

def perform (scene : SessionScene) (step : SessionStep) : SessionAnswer × SessionScene :=
  let world := scene.world
  let quiet (world : World) : SessionAnswer × SessionScene := (.nothing, scene.withWorld world)
  match step with
  | .look => quiet world
  | .execute request => quiet (world.startRequest scene.number request)
  | .submit request =>
      (.nothing,
        { scene with
          world := world.startRequest scene.number request
          submitted := scene.number :: scene.submitted })
  | .cancel step =>
      quiet
        (if step ∈ scene.submitted then world.cancelRequest step else world.forgetRequest step)
  | .forceDown address => scene.changed (forceDown address world)
  | .forceUp address => scene.changed (forceUp address world)
  | .forget address => scene.changed (forget address world)
  | .flap address count => scene.changed (flap address count world)
  | .burst steps => performAll scene steps
  | .refresh => (.refreshed, scene.withWorld world.refreshNodes)
  | .agreement => (.changed true, scene)
  | .upsert info => quiet { world with directory := world.directory.upsert info }
  | .unlist address =>
      let isListed := (world.directory.find? address).isSome
      scene.changed (isListed, { world with directory := world.directory.remove address })
  | .advance millis => quiet (world.advance millis)
  | .server address command =>
      let (count, world) := world.command address command
      (match count with
        | some count => .pushed count
        | none => .nothing,
        scene.withWorld world)
  | .close =>
      quiet (world.closeSession.waitUntil fun world =>
        match world.stage with
        | .closing => false
        | _ => true)
where
  performAll (scene : SessionScene) : List SessionStep → SessionAnswer × SessionScene
    | [] => (.all [], scene)
    | step :: rest =>
        let (answer, scene) := perform scene step
        match performAll scene rest with
        | (.all answers, scene) => (.all (answer :: answers), scene)
        | (other, scene) => (.all [answer, other], scene)

/-- The address that a notice is about; what was lost comes first. -/
def noticeKey : Notice → String
  | .lagged _ => ""
  | .event event => event.node.address.render

def openChannels (world : World) (node : NodeId) : Nat :=
  match world.pools.find? node with
  | some pool => pool.size (world.poolView node)
  | none => 0

def controlAddress (world : World) : Option SocketAddress :=
  match world.controlChannel.bind world.channels.find? with
  | some channel => if channel.isOpen then some channel.address else none
  | none => none

def nodeViews (world : World) : List NodeView :=
  (world.registry.snapshot.nodeList.map fun node => (node, openChannels world node.id)).mergeSort
    fun left right => left.1.address.render ≤ right.1.address.render

def report (answer : SessionAnswer) (scene : SessionScene) : SessionReport :=
  let world := scene.world
  { answer
    finished := (world.finished.drop scene.finishedSeen).mergeSort
      fun left right => left.1 ≤ right.1
    nodes := nodeViews world
    control := controlAddress world
    isClosed := world.isClosed
    lifecycle := world.lifecycle.drop scene.lifecycleSeen
    notices := (scene.follower.drain world.registry).1.mergeSort
      fun left right => noticeKey left ≤ noticeKey right
    events := world.events.drop scene.eventsSeen
    servers := world.serverViews }

def step (scene : SessionScene) (step : SessionStep) : SessionReport × SessionScene :=
  let (answer, scene) := scene.perform step
  let world := scene.world.settle
  let scene := scene.withWorld world
  (scene.report answer,
    { scene with
      number := scene.number + 1
      follower := (scene.follower.drain world.registry).2
      finishedSeen := world.finished.length
      lifecycleSeen := world.lifecycle.length
      eventsSeen := world.events.length })

end SessionScene

end CqlDriver.Simulation

/-
One pool for one node of a registry, with servers that answer from a script.
-/

import CqlDriver.Simulation.Run

namespace CqlDriver.Simulation

inductive PoolStep where
  | ensureSize
  | setDistance (distance : Distance)
  | up
  | down
  | forceDown
  | forceUp
  | remove
  | send
  | forget (step : Nat)
  | closeChannel (place : Nat)
  | nodeDown
  | reconnect
  | close
  | advance (millis : Nat)
  | server (address : SocketAddress) (command : World.ServerCommand)

inductive PoolAnswer where
  | nothing
  | changed (value : Bool)
  | sent (result : Except DriverError (Nat × Int16))
  | pushed (count : Nat)

structure PoolReport where
  answer : PoolAnswer
  /-- The resizes that have ended since the last report, by step. -/
  sized : List (Nat × Except DriverError Nat)
  ended : List (Nat × Except DriverError Frame)
  target : Nat
  size : Nat
  channels : List (Nat × Bool)
  isUsable : Bool
  isClosed : Bool
  isReconnecting : Bool
  state : Option NodeState
  notices : List Notice
  servers : List World.ServerView

structure PoolScene where
  world : World
  node : NodeId
  address : SocketAddress
  number : Nat := 0
  tickets : Table Nat (ChannelId × Ticket) := []
  follower : Subscription
  endsSeen : Nat := 0
  sizedSeen : Nat := 0

namespace PoolScene

def start (servers : Table SocketAddress MockNode) (config : DriverConfig)
    (authenticator : Option Authenticator) (info : NodeInfo) (distance : Distance)
    (reconnection : ReconnectionPolicy) : PoolScene :=
  let (node, registry) := NodeRegistry.empty.addNode info distance
  let channelConfig := ChannelConfig.ofDriver config config.network.protocolVersion
  let world : World :=
    { servers
      channelConfig := { channelConfig with authenticator }
      config
      reconnection
      retry := .fixed .never
      speculation := .never
      registry }
  let world := { world with pools := world.pools.provide world.poolPlan node }
  { world, node := node.id, address := info.address, follower := .start registry }

def withWorld (world : World) (scene : PoolScene) : PoolScene := { scene with world }

def change (operation : NodeRegistry → Bool × NodeRegistry) (scene : PoolScene) :
    PoolAnswer × PoolScene :=
  let (result, world) := scene.world.changeNodes operation
  (.changed result, scene.withWorld world)

def stepPool (step : Pool → List PoolEffect × Pool) (scene : PoolScene) :
    PoolAnswer × PoolScene :=
  (.nothing, scene.withWorld (scene.world.stepPool scene.node fun _ pool => step pool))

def channels (scene : PoolScene) : List ChannelId :=
  ((scene.world.pool? scene.node).map Pool.channels).getD []

def send (scene : PoolScene) : PoolAnswer × PoolScene :=
  match scene.world.pool? scene.node with
  | none => (.nothing, scene)
  | some pool =>
      match pool.pick (scene.world.poolView scene.node) with
      | .error error => (.sent (.error error), scene)
      | .ok channel =>
          match scene.world.send channel .query [] (.caller scene.number) with
          | (.error error, world) => (.sent (.error error), scene.withWorld world)
          | (.ok ticket, world) =>
              (.sent (.ok (pool.channels.idxOf channel, ticket.stream)),
                { scene with
                  world
                  tickets := scene.tickets.put scene.number (channel, ticket) })

def perform (step : PoolStep) (scene : PoolScene) : PoolAnswer × PoolScene :=
  match step with
  | .ensureSize =>
      (.nothing,
        scene.withWorld (scene.world.push (.resize scene.node (.caller scene.number))))
  | .setDistance distance => scene.change fun registry => registry.setDistance scene.node distance
  | .up => scene.change fun registry => registry.signalUp scene.node
  | .down => scene.change fun registry => registry.signalDown scene.node
  | .forceDown => scene.change fun registry => registry.forceDown scene.node
  | .forceUp => scene.change fun registry => registry.forceUp scene.node
  | .remove =>
      scene.change fun registry =>
        let (node, registry) := registry.removeNode scene.address
        (node.isSome, registry)
  | .send => scene.send
  | .forget step =>
      match scene.tickets.find? step with
      | some (channel, ticket) => (.nothing, scene.withWorld (scene.world.abandon channel ticket))
      | none => (.nothing, scene)
  | .closeChannel place =>
      match scene.channels[place]? with
      | some channel =>
          (.nothing, scene.withWorld (scene.world.closeChannel channel "closed by test"))
      | none => (.nothing, scene)
  | .nodeDown => scene.stepPool Pool.onNodeDown
  | .reconnect => scene.stepPool Pool.scheduleReconnect
  | .close => scene.stepPool Pool.close
  | .advance millis => (.nothing, scene.withWorld (scene.world.advance millis))
  | .server address command =>
      let (count, world) := scene.world.command address command
      (match count with
        | some count => .pushed count
        | none => .nothing,
        scene.withWorld world)

def report (answer : PoolAnswer) (scene : PoolScene) : PoolReport :=
  let world := scene.world
  let view := world.poolView scene.node
  let pool := world.pool? scene.node
  { answer
    sized := (world.sized.drop scene.sizedSeen).mergeSort fun left right => left.1 ≤ right.1
    ended := (world.answered.drop scene.endsSeen).mergeSort fun left right => left.1 ≤ right.1
    target := view.target
    size := (pool.map (Pool.size view)).getD 0
    channels := scene.channels.map fun channel =>
      ((view.channel channel).streamsInUse, (view.channel channel).isOpen)
    isUsable := pool.any (Pool.isUsable view)
    isClosed := pool.any Pool.isClosed
    isReconnecting := pool.any Pool.isReconnecting
    state := (world.registry.get? scene.node).map Node.state
    notices := (scene.follower.drain world.registry).1
    servers := world.serverViews }

def step (scene : PoolScene) (step : PoolStep) : PoolReport × PoolScene :=
  let (answer, scene) := scene.perform step
  let world := scene.world.settle
  let scene := scene.withWorld world
  (scene.report answer,
    { scene with
      number := scene.number + 1
      follower := (scene.follower.drain world.registry).2
      endsSeen := world.answered.length
      sizedSeen := world.sized.length })

end PoolScene

end CqlDriver.Simulation

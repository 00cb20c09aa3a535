/-
A session in the world: finding a first node, filling the pools, looking after the
control connection, and closing.
-/

import CqlDriver.Policy.LocalDatacenter
import CqlDriver.Simulation.Requests

namespace CqlDriver.Simulation.World

def announce (event : Lifecycle) (world : World) : World :=
  { world with lifecycle := world.lifecycle ++ [event] }

def controlConfig (world : World) : ChannelConfig :=
  { world.channelConfig with wantsEvents := true }

def failSession (error : DriverError) (world : World) : World :=
  { world with stage := .fresh, connected := some (.error error) }

def tryContact (contact : FirstContact) (world : World) : World :=
  match contact.remaining with
  | [] => world.failSession contact.failure
  | address :: _ =>
      { world with stage := .contacting contact }.openChannel address
        { world.controlConfig with version := contact.version } .session

def connectSession (world : World) : World :=
  let world := world.announce .starting
  match world.config.network.resolve world.hosts.find? with
  | .error error => world.failSession error
  | .ok contactPoints =>
      { world with contactPoints }.tryContact
        (.start contactPoints world.config.network.protocolVersion)

/-- The description of a node, or nothing but its address. -/
def describe (infos : List NodeInfo) (address : SocketAddress) : NodeInfo :=
  (infos.find? fun info => decide (info.address = address)).getD { address }

def initialInfos (control : SocketAddress) (world : World) : List NodeInfo :=
  NodeRegistry.withReached control world.directory.nodes

def fillPools (channel : ChannelId) (address : SocketAddress) (version : ProtocolVersion)
    (datacenter : String) (infos : List NodeInfo) (world : World) : World :=
  let balancing := world.balancing.init (some datacenter)
  let registry := world.registry.fill balancing.distance address infos
  let nodes := registry.snapshot.nodeList
  let world :=
    { world with
      balancing
      registry
      localDatacenter := datacenter
      channelConfig := { world.channelConfig with version }
      controlChannel := some channel
      pools := nodes.foldl
        (fun pools node => PoolTable.provide world.poolPlan node pools) world.pools
      stage := .filling nodes.length }
  nodes.foldl
    (fun world node => world.stepPool node.id fun view pool => pool.ensureSize view .session)
    world

def reachFirst (channel : ChannelId) (contact : FirstContact) (world : World) : World :=
  match contact.remaining with
  | [] => world
  | address :: _ =>
      let infos := world.initialInfos address
      let network := world.config.network
      match discoverLocalDatacenter network.localDatacenter (!network.hasExplicitContactPoints)
          (world.contactPoints.map (describe infos)) (some (describe infos address)) with
      | .error fault =>
          (world.closeChannel channel "channel dropped").failSession (.configuration fault.message)
      | .ok datacenter => world.fillPools channel address contact.version datacenter infos

def contactDecided (result : Except DriverError ChannelId) (world : World) : World :=
  match world.stage, result with
  | .contacting contact, .ok channel => world.reachFirst channel contact
  | .contacting contact, .error error => world.tryContact (contact.reject error)
  | _, _ => world

/-- The session has its first channels and takes requests. Those who look after the
pools and the control connection begin with what has happened meanwhile. -/
def startSession (world : World) : World :=
  let world :=
    { world with
      stage := .running
      follower := some ⟨0⟩
      controlStage := .listening
      connected := some (.ok ()) }
  ((world.announce .started).push .followNodes).push .control

def endControl (world : World) : World :=
  let world := { world with controlStage := .idle }
  let world :=
    match world.controlChannel with
    | some channel =>
        { world with controlChannel := none }.closeChannel channel "session closed"
    | none => world
  world.push .closeSession

def pauseControl (schedule : ReconnectionSchedule) (world : World) : World :=
  if world.isClosed then world.endControl
  else
    let (delay, schedule) := schedule.next
    { world with controlStage := .pausing schedule }.after delay .controlPaused

def tryControl (candidates : List SocketAddress) (schedule : ReconnectionSchedule)
    (world : World) : World :=
  match candidates with
  | [] => world.pauseControl schedule
  | address :: _ =>
      { world with controlStage := .connecting candidates schedule }.openChannel address
        world.controlConfig .control

def searchControl (schedule : ReconnectionSchedule) (world : World) : World :=
  let (candidates, balancing) :=
    NodeRegistry.controlCandidates world.balancing world.registry.snapshot
  { world with balancing }.tryControl candidates schedule

def refreshNodes (world : World) : World :=
  world.takeRegistry (world.registry.refreshNodes world.balancing.distance world.directory.nodes)

def controlDecided (result : Except DriverError ChannelId) (world : World) : World :=
  match world.controlStage, result with
  | .connecting _ _, .ok channel =>
      let world := { world with controlChannel := some channel, controlStage := .listening }
      world.refreshNodes.push .control
  | .connecting candidates schedule, .error _ => world.tryControl (candidates.drop 1) schedule
  | _, _ => world

def handleEvent (event : ServerEvent) (world : World) : World :=
  { world with eventsHandled := world.eventsHandled + 1 }.takeRegistry
    (world.registry.onEvent world.balancing.distance world.directory.monitor event)

def lacksControl (world : World) : Bool :=
  world.controlChannel.any fun channel => (world.channelView channel).isClosed

/-- Takes the pushed events, at most `fuel` of them, and searches for a new control
connection if the present one is lost. -/
def tendControl : Nat → World → World
  | 0, world => world
  | fuel + 1, world =>
      match world.controlStage with
      | .listening =>
          if world.isClosed then world.endControl
          else
            match world.events[world.eventsHandled]? with
            | some event => tendControl fuel (world.handleEvent event)
            | none =>
                if world.lacksControl then
                  { world with controlChannel := none }.searchControl
                    world.reconnection.newSchedule
                else world
      | _ => world

def control (world : World) : World :=
  tendControl (world.events.length - world.eventsHandled + 1) world

def controlPaused (world : World) : World :=
  match world.controlStage with
  | .pausing schedule => world.searchControl schedule
  | _ => world

def closeSession (world : World) : World :=
  if world.isClosed then world
  else
    let world := { world with stage := .closing }.announce .shuttingDown
    let world := world.calls.keys.foldl (fun world number => world.cancelRequest number) world
    let world := { world with follower := none }.closePools
    match world.controlStage with
    | .connecting _ _ => world
    | .idle | .listening | .pausing _ => world.endControl

def finishClosing (world : World) : World :=
  match world.stage with
  | .closing => { world.closePools with stage := .closed }.announce .shutdown
  | _ => world

end CqlDriver.Simulation.World

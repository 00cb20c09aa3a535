/-
One channel to one peer that does only what it is told.
-/

import CqlDriver.Simulation.Run

namespace CqlDriver.Simulation

inductive PeerAction where
  | silent
  | close
  /-- Write bytes; the world settles after each part. -/
  | bytes (parts : List (List UInt8))
  | frame (frame : Frame)
  | advance (millis : Nat)

inductive ChannelStep where
  | look
  | send (opcode : Opcode) (body : List UInt8)
  | sendMany (count : Nat)
  | drop (first last : Nat)
  | peer (action : PeerAction)
  | advance (millis : Nat)
  | close (reason : String)
  | closeGracefully (timeout : Span)
  | isClosed

inductive ChannelAnswer where
  | nothing
  | sent (result : Except DriverError (Nat × Int16))
  | sentMany (count : Nat) (last : Option (Except DriverError (Nat × Int16)))
  | isClosed (value : Bool)

structure ChannelReport where
  answer : ChannelAnswer
  frames : List Frame
  ended : List (Nat × Except DriverError Frame)
  events : List ServerEvent
  table : StreamTable
  peerSawEnd : Bool
  drained : Nat

structure ChannelScene where
  world : World
  channel : ChannelId := ⟨0⟩
  script : List PeerAction
  handshake : List Frame := []
  tickets : Table Nat Ticket := []
  endsSeen : Nat := 0
  eventsSeen : Nat := 0
  peerSawEnd : Bool := false

namespace ChannelScene

def start (config : DriverConfig) (channelConfig : ChannelConfig) (address : SocketAddress)
    (listens : Bool) (script : List PeerAction) : ChannelScene :=
  let world : World :=
    { channelConfig
      config
      reconnection := .constant .zero
      retry := .fixed .never
      speculation := .never
      puppet := if listens then some address else none }
  { world := world.openChannel address channelConfig .caller, script }

/-- The peer reads all that has come, unless it has closed its end. It passes over
frames whose operation it does not know. -/
def readPeer (scene : ChannelScene) : List Frame × ChannelScene :=
  match scene.world.links.find? scene.channel with
  | none => ([], scene)
  | some link =>
      if link.serverDone then ([], scene)
      else
        let (received, halt) := Frame.decodeAll link.toServer
        (received.filterMap Frame.Received.frame?,
          { scene with
            world := scene.world.modifyLink scene.channel fun link =>
              { link with toServer := halt.rest }
            peerSawEnd := scene.peerSawEnd || link.clientDone })

def act (action : PeerAction) (scene : ChannelScene) : ChannelScene :=
  let write (world : World) (bytes : List UInt8) : World :=
    (world.writeToClient scene.channel bytes).settle
  let world :=
    match action with
    | .silent => scene.world
    | .close => (scene.world.endServer scene.channel).settle
    | .bytes parts => parts.foldl write scene.world
    | .frame frame => write scene.world frame.encode
    | .advance millis => scene.world.advance millis
  { scene with world }

def actFor : Nat → ChannelScene → ChannelScene
  | 0, scene => scene
  | count + 1, scene =>
      match scene.script with
      | [] => scene
      | action :: rest => actFor count ({ scene with script := rest }.act action)

/-- Lets the handshake go on until it is decided. When the peer has received
nothing, the time for opening passes. At most `fuel` rounds are made. -/
def decide (timeout : Span) : Nat → ChannelScene → ChannelScene
  | 0, scene => scene
  | fuel + 1, scene =>
      let scene := { scene with world := scene.world.settle }
      let (frames, scene) := scene.readPeer
      let scene := { scene with handshake := scene.handshake ++ frames }
      if scene.world.outcome.isSome then scene
      else if frames.isEmpty then
        decide timeout fuel { scene with world := scene.world.advance timeout.millisUp }
      else decide timeout fuel (scene.actFor frames.length)

def decideAll (timeout : Span) (scene : ChannelScene) : ChannelScene :=
  scene.decide timeout (2 * scene.script.length + 16)

def send (opcode : Opcode) (body : List UInt8) (scene : ChannelScene) :
    Except DriverError (Nat × Int16) × ChannelScene :=
  let number := scene.tickets.length
  match scene.world.send scene.channel opcode body (.caller number) with
  | (.error error, world) => (.error error, { scene with world })
  | (.ok ticket, world) =>
      (.ok (number, ticket.stream),
        { scene with world, tickets := scene.tickets ++ [(number, ticket)] })

def sendMany : Nat → Option (Except DriverError (Nat × Int16)) → ChannelScene →
    Option (Except DriverError (Nat × Int16)) × ChannelScene
  | 0, last, scene => (last, scene)
  | count + 1, _, scene =>
      let (result, scene) := scene.send .query []
      sendMany count (some result) scene

/-- Gives the requests from a number up to another one up. The end of a request that
nobody has seen yet is lost with it. -/
def drop (first last : Nat) (scene : ChannelScene) : ChannelScene :=
  let isDropped (number : Nat) : Bool := Decidable.decide (first ≤ number ∧ number < last)
  let dropped := scene.tickets.filter fun entry => isDropped entry.1
  let world := dropped.foldl
    (fun world entry => world.abandon scene.channel entry.2) scene.world
  let (seen, unseen) := world.answered.splitAt scene.endsSeen
  let kept := unseen.filter fun entry => !isDropped entry.1
  { scene with world := { world with answered := seen ++ kept } }

def table (scene : ChannelScene) : StreamTable :=
  match scene.world.channels.find? scene.channel with
  | some channel => channel.table
  | none => .new 0 0

def perform (step : ChannelStep) (scene : ChannelScene) : ChannelAnswer × ChannelScene :=
  match step with
  | .look => (.nothing, scene)
  | .send opcode body =>
      let (result, scene) := scene.send opcode body
      (.sent result, scene)
  | .sendMany count =>
      let (result, scene) := scene.sendMany count none
      (.sentMany count result, scene)
  | .drop first last => (.nothing, scene.drop first last)
  | .peer action => (.nothing, scene.act action)
  | .advance millis => (.nothing, { scene with world := scene.world.advance millis })
  | .close reason =>
      (.nothing, { scene with world := scene.world.closeChannel scene.channel reason })
  | .closeGracefully timeout =>
      (.nothing, { scene with world := scene.world.startDrain scene.channel timeout .caller })
  | .isClosed => (.isClosed scene.table.isClosed, scene)

def step (scene : ChannelScene) (step : ChannelStep) : ChannelReport × ChannelScene :=
  let (answer, scene) := scene.perform step
  let (frames, scene) := { scene with world := scene.world.settle }.readPeer
  let ended := (scene.world.answered.drop scene.endsSeen).mergeSort
    fun left right => Decidable.decide (left.1 ≤ right.1)
  ({ answer
     frames
     ended
     events := scene.world.events.drop scene.eventsSeen
     table := scene.table
     peerSawEnd := scene.peerSawEnd
     drained := scene.world.drainsDone },
    { scene with
      endsSeen := scene.world.answered.length
      eventsSeen := scene.world.events.length })

end ChannelScene

end CqlDriver.Simulation

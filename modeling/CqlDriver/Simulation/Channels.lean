/-
Channels in the world: how they are opened, how their requests end, and who is told
when they close.
-/

import CqlDriver.Simulation.World

namespace CqlDriver.Simulation.World

def openChannel (address : SocketAddress) (config : ChannelConfig) (asker : Asker)
    (world : World) : World :=
  if !world.listens address then
    world.push (.opened asker (.error (Opening.refused address)))
  else
    let id : ChannelId := ⟨world.nextChannel⟩
    let servers :=
      match world.servers.find? address with
      | some node => world.servers.put address { node with accepted := node.accepted + 1 }
      | none => world.servers
    let world :=
      { world with
        nextChannel := world.nextChannel + 1
        servers
        links := world.links.put id { server := address }
        openings := world.openings.put id { opening := { address, config }, asker } }
    (world.after config.connectTimeout (.giveUp id)).writeToServer id
      (Handshake.opening config).encode

def failOpening (id : ChannelId) (asker : Asker) (error : DriverError) (world : World) : World :=
  ({ world with openings := world.openings.erase id }.endClient id).push
    (.opened asker (.error error))

def giveUp (id : ChannelId) (world : World) : World :=
  match world.openings.find? id with
  | none => world
  | some pending =>
      world.failOpening id pending.asker
        (Opening.tookTooLong pending.opening.address pending.opening.config)

def deliver (id : ChannelId) (outcomes : List Outcome) (world : World) : World :=
  outcomes.foldl
    (fun world outcome =>
      let place := (id, outcome.request)
      let told :=
        match world.holders.find? place with
        | some (.caller number) =>
            { world with answered := world.answered ++ [(number, outcome.result)] }
        | some (.attempt request attempt) =>
            world.push (.ended request attempt outcome.result)
        | none => world
      { told with holders := told.holders.erase place })
    world

/-- Puts down what follows from a step of a channel for its own connection: frames
to be written, the next look at its heartbeat, and the end. -/
def followChannel (id : ChannelId) (before after : Channel) (world : World) : World :=
  let closes := after.isClosed && !before.isClosed
  let world :=
    if before.outbox.isEmpty && !after.outbox.isEmpty then world.push (.write id) else world
  let world := if closes then world.push (.write id) else world
  let world :=
    if closes && (world.watched.find? id).isSome then world.push (.lost id) else world
  let world :=
    if closes && decide (world.controlChannel = some id) then world.push .control else world
  let world :=
    if after.isDrained && world.drains.any fun drain => decide (drain.channel = id) then
      world.push (.drain id)
    else world
  match after.heartbeat.alarm? with
  | some due =>
      if before.heartbeat.alarm? = some due then world
      else world.schedule (Span.millisUp ⟨due⟩) (.beat id)
  | none => world

def takeEvents (channel : Channel) (events : List ServerEvent) (world : World) : World :=
  if events.isEmpty || !channel.config.wantsEvents then world
  else { world with events := world.events ++ events }.push .control

def stepChannel (id : ChannelId) (step : Channel → ChannelOutput × Channel) (world : World) :
    World :=
  match world.channels.find? id with
  | none => world
  | some before =>
      let (output, after) := step before
      let world := { world with channels := world.channels.put id after }
      ((world.deliver id output.outcomes).takeEvents after output.events).followChannel id before
        after

def closeChannel (id : ChannelId) (reason : String) (world : World) : World :=
  world.stepChannel id fun channel =>
    let (outcomes, channel) := channel.close reason
    ({ outcomes }, channel)

def send (id : ChannelId) (opcode : Opcode) (body : List UInt8) (holder : Holder)
    (world : World) : Except DriverError Ticket × World :=
  match world.channels.find? id with
  | none => (.error (.channelClosed "channel is gone"), world)
  | some before =>
      let (result, after) := before.send opcode body
      let world := { world with channels := world.channels.put id after }
      let world :=
        match result with
        | .ok ticket => { world with holders := world.holders.put (id, ticket.request) holder }
        | .error _ => world
      (result, world.followChannel id before after)

def abandon (id : ChannelId) (ticket : Ticket) (world : World) : World :=
  { world with holders := world.holders.erase (id, ticket.request) }.stepChannel id fun channel =>
    let (outcomes, channel) := channel.abandon ticket
    ({ outcomes }, channel)

def startDrain (id : ChannelId) (timeout : Span) (drainer : Drainer) (world : World) : World :=
  let deadline := world.now + timeout.millisUp
  let drain : Drain := { channel := id, deadline, drainer }
  let world := world.stepChannel id fun channel => ({}, channel.drain)
  let world := { world with drains := world.drains ++ [drain] }
  (world.schedule deadline (.drain id)).push (.drain id)

def splitDrains (id : ChannelId) (world : World) : List Drain × List Drain :=
  let idle := (world.channels.find? id).all Channel.isDrained
  world.drains.partition fun drain =>
    decide (drain.channel = id) && (idle || decide (drain.deadline ≤ world.now))

def takeBytes (id : ChannelId) (world : World) : List UInt8 × Bool × World :=
  match world.links.find? id with
  | none => ([], false, world)
  | some link =>
      (link.toClient, link.serverDone,
        { world with links := world.links.put id { link with toClient := [] } })

def readOpening (id : ChannelId) (pending : PendingOpening) (world : World) : World :=
  let (bytes, ended, world) := world.takeBytes id
  let progress := pending.opening.receive bytes ended
  let world := { world with authentication := world.authentication ++ progress.authentication }
  let world := world.writeToServer id (progress.frames.flatMap Frame.encode)
  match progress.state with
  | .waiting opening =>
      { world with openings := world.openings.put id { pending with opening } }
  | .failed error => world.failOpening id pending.asker error
  | .agreed unread =>
      let channel := Channel.start pending.opening.address pending.opening.config unread world.clock
      let world :=
        { world with
          openings := world.openings.erase id
          channels := world.channels.put id channel }
      let world :=
        match channel.heartbeat.alarm? with
        | some due => world.schedule (Span.millisUp ⟨due⟩) (.beat id)
        | none => world
      (world.push (.opened pending.asker (.ok id))).push (.read id)

def read (id : ChannelId) (world : World) : World :=
  match world.openings.find? id with
  | some pending => world.readOpening id pending
  | none =>
      let (bytes, ended, world) := world.takeBytes id
      world.stepChannel id fun channel => channel.receive world.clock bytes ended

/-- The client writes what a channel has to write, and ends the connection of a
closed channel. -/
def write (id : ChannelId) (world : World) : World :=
  match world.channels.find? id with
  | none => world
  | some channel =>
      let (frames, channel) := channel.flush
      let world := { world with channels := world.channels.put id channel }
      let world := world.writeToServer id (frames.flatMap Frame.encode)
      let isOpen := (world.links.find? id).any fun link => !link.clientDone
      if channel.isClosed && isOpen then world.endClient id else world

def beat (id : ChannelId) (world : World) : World :=
  world.stepChannel id fun channel =>
    let (outcomes, channel) := channel.beat world.clock
    ({ outcomes }, channel)

end CqlDriver.Simulation.World

/-
A connection that carries many requests at once. The channel writes requests,
matches answers to them by stream, hands on the events that the server pushes,
and watches for signs of life.
-/

import CqlDriver.Channel.Config
import CqlDriver.Channel.Heartbeat
import CqlDriver.Channel.StreamTable
import CqlDriver.Wire.EventBody

namespace CqlDriver

structure ChannelId where
  number : Nat
  deriving DecidableEq, Repr, Inhabited

structure Channel where
  address : SocketAddress
  config : ChannelConfig
  table : StreamTable
  heartbeat : Heartbeat
  outbox : List Frame := []
  /-- The bytes received that make no whole frame yet. -/
  unread : List UInt8 := []
  lastRead : Nat

structure ChannelOutput where
  outcomes : List Outcome := []
  events : List ServerEvent := []

namespace Channel

def start (address : SocketAddress) (config : ChannelConfig) (unread : List UInt8) (now : Nat) :
    Channel :=
  { address
    config
    table := .new config.maxRequests config.maxOrphans
    heartbeat := .start config.heartbeatInterval.nanos now
    unread
    lastRead := now }

def isOpen (channel : Channel) : Bool := channel.table.isOpen

def isClosed (channel : Channel) : Bool := channel.table.isClosed

/-- The number of reserved streams, with the orphans. -/
def streamsInUse (channel : Channel) : Nat := channel.table.ids.inUse

/-- Takes a changed table. The end of the channel's own request stays inside; the
ends of other requests are handed on. -/
def settle (outcomes : List Outcome) (table : StreamTable) (channel : Channel) :
    List Outcome × Channel :=
  let (own, others) :=
    outcomes.partition fun outcome => channel.heartbeat.isAsking outcome.request
  (others,
    { channel with
      table
      heartbeat := own.foldl (fun heartbeat outcome => heartbeat.answered outcome.result)
        channel.heartbeat })

def post (ticket : Ticket) (opcode : Opcode) (body : List UInt8) (channel : Channel) : Channel :=
  { channel with
    outbox :=
      channel.outbox
        ++ [.request channel.config.version.number ticket.stream opcode body] }

def send (opcode : Opcode) (body : List UInt8) (channel : Channel) :
    Except DriverError Ticket × Channel :=
  match channel.table.send channel.address with
  | (.ok ticket, table) => (.ok ticket, { channel with table }.post ticket opcode body)
  | (.error error, table) => (.error error, { channel with table })

def abandon (ticket : Ticket) (channel : Channel) : List Outcome × Channel :=
  let (outcomes, table) := channel.table.abandon ticket
  channel.settle outcomes table

def close (reason : String) (channel : Channel) : List Outcome × Channel :=
  let (outcomes, table) := channel.table.close reason
  let (outcomes, channel) := channel.settle outcomes table
  (outcomes, { channel with heartbeat := .stopped })

def drain (channel : Channel) : Channel := { channel with table := channel.table.drain }

def isDrained (channel : Channel) : Bool := channel.table.isIdle || channel.isClosed

def drainedReason : String := "channel drained"

def failAndClose (stream : Int16) (error : DriverError) (reason : String) (channel : Channel) :
    List Outcome × Channel :=
  let (failed, table) := channel.table.failStream stream error
  let (outcomes, channel) := channel.settle failed.toList table
  let (others, channel) := channel.close reason
  (outcomes ++ others, channel)

def accept (now : Nat) (frame : Frame) (channel : Channel) : ChannelOutput × Channel :=
  let channel := { channel with lastRead := now }
  if frame.isCompressed then
    let (outcomes, channel) :=
      channel.failAndClose frame.stream (.protocol .compressedFrame) "received a compressed frame"
    ({ outcomes }, channel)
  else if frame.isPush then
    if frame.opcode = .event then
      match ServerEvent.parse frame.body with
      | .ok event => ({ events := [event] }, channel)
      | .error _ => ({}, channel)
    else ({}, channel)
  else
    let (outcome, table) := channel.table.complete frame
    let (outcomes, channel) := channel.settle outcome.toList table
    ({ outcomes }, channel)

/-- Takes one finding of the decoder. A channel that is closed takes nothing more. -/
def acceptReceived (now : Nat) (progress : ChannelOutput × Channel) (received : Frame.Received) :
    ChannelOutput × Channel :=
  let (output, channel) := progress
  if channel.isClosed then (output, channel)
  else
    let (more, channel) :=
      match received with
      | .frame frame => channel.accept now frame
      | .unsupported code stream =>
          let (outcomes, channel) :=
            channel.failAndClose stream (.unsupportedFrame code stream)
              ("unsupported frame with opcode 0x" ++ Text.Hex.upperPadded 2 code.toNat)
          ({ outcomes }, channel)
    ({ outcomes := output.outcomes ++ more.outcomes, events := output.events ++ more.events },
      channel)

def readFailure (halt : Frame.Halt) (ended : Bool) : Option String :=
  match halt with
  | .oversized length _ =>
      let error : DriverError := .protocol (.oversizedBody length Frame.maxBodyLength)
      some s!"read failed: {error.message}"
  | .needMore _ rest =>
      if !ended then none
      else if rest.isEmpty then some "connection closed by peer"
      else some s!"read failed: {DriverError.message (.io Frame.endedInside)}"

def receive (now : Nat) (bytes : List UInt8) (ended : Bool) (channel : Channel) :
    ChannelOutput × Channel :=
  let (received, halt) := Frame.decodeAll (channel.unread ++ bytes)
  let (output, channel) :=
    received.foldl (acceptReceived now) ({}, { channel with unread := halt.rest })
  match channel.isClosed, readFailure halt ended with
  | false, some reason =>
      let (outcomes, channel) := channel.close reason
      ({ output with outcomes := output.outcomes ++ outcomes }, channel)
  | _, _ => (output, channel)

/-- Asks the server for a sign of life, if a stream is free. -/
def askForSign (now : Nat) (channel : Channel) : Channel :=
  let due := now + channel.config.heartbeatInterval.nanos
  match channel.table.reserve with
  | (none, table) => { channel with table, heartbeat := .resting due }
  | (some ticket, table) =>
      { channel with
        table
        heartbeat := .awaiting ticket due (now + channel.config.heartbeatTimeout.nanos) }.post
        ticket .options []

def noSign (channel : Channel) : ConnectionError :=
  .heartbeatTimeout
    s!"no answer from {channel.address.render} within {channel.config.heartbeatTimeout.render}"

/-- Does what is due for the heartbeat at a time. -/
def beat (now : Nat) (channel : Channel) : List Outcome × Channel :=
  if channel.isClosed then ([], channel)
  else
    match channel.heartbeat.turn channel.config.heartbeatInterval.nanos now channel.lastRead with
    | .rest heartbeat => ([], { channel with heartbeat })
    | .ask => ([], channel.askForSign now)
    | .giveUp ticket =>
        let (outcomes, channel) := { channel with heartbeat := .stopped }.abandon ticket
        let (others, channel) := channel.close channel.noSign.message
        (outcomes ++ others, channel)

/-- The frames to be written now. A closed channel writes nothing more. -/
def flush (channel : Channel) : List Frame × Channel :=
  (if channel.isClosed then [] else channel.outbox, { channel with outbox := [] })

end Channel

end CqlDriver

/-
Requests of a session in the world: how their attempts are sent, and how they end.
-/

import CqlDriver.Simulation.Pools

namespace CqlDriver.Simulation.World

def noteTicket (number : Nat) (attempt : AttemptId) (channel : ChannelId) (ticket : Ticket)
    (world : World) : World :=
  match world.calls.find? number with
  | none => world
  | some call =>
      let call := { call with tickets := call.tickets.put attempt (channel, ticket) }
      { world with calls := world.calls.put number call }.after call.attemptTimeout
        (.overdue number attempt)

def sendAttempt (number : Nat) (request : Request) (attempt : AttemptId) (node : Node)
    (world : World) : Except DriverError Unit × World :=
  match world.pools.find? node.id with
  | none => (.error (.nodeUnavailable node.address), world)
  | some pool =>
      match pool.pick (world.poolView node.id) with
      | .error error => (.error error, world)
      | .ok channel =>
          match world.send channel request.opcode request.body (.attempt number attempt) with
          | (.error error, world) => (.error error, world)
          | (.ok ticket, world) => (.ok (), world.noteTicket number attempt channel ticket)

def ticketOf (number : Nat) (attempt : AttemptId) (world : World) :
    Option (ChannelId × Ticket) :=
  (world.calls.find? number).bind fun call => call.tickets.find? attempt

def distrustAttempt (number : Nat) (attempt : AttemptId) (world : World) : World :=
  match world.ticketOf number attempt with
  | some (channel, _) => world.closeChannel channel "malformed error response"
  | none => world

def abandonAttempt (number : Nat) (attempt : AttemptId) (world : World) : World :=
  match world.ticketOf number attempt with
  | some (channel, ticket) => world.abandon channel ticket
  | none => world

def transport (number : Nat) (request : Request) : Transport World :=
  { send := sendAttempt number request
    distrust := distrustAttempt number }

def keepRun (number : Nat) (before after : RequestRun) (world : World) : World :=
  match world.calls.find? number with
  | none => world
  | some call =>
      let world := { world with calls := world.calls.put number { call with run := after } }
      (after.alarms.filter fun due => due ∉ before.alarms).foldl
        (fun world due => world.schedule due (.request number)) world

def dropRequest (number : Nat) (run : RequestRun) (world : World) : World :=
  let world := run.outstanding.foldl
    (fun world attempt => world.abandonAttempt number attempt) world
  { world with calls := world.calls.erase number }

/-- Lets a request go on as far as it can now. The time that a request takes for its
caller is not measured in this world. -/
def runRequest (number : Nat) (world : World) : World :=
  match world.calls.find? number with
  | none => world
  | some call =>
      let state : RunState World := { run := call.run, retry := world.retry, outside := world }
      let (result, state) :=
        RequestRun.proceed (transport number call.request) world.speculation .zero world.now
          call.run.eventBound state
      let world := { state.outside with retry := state.retry }
      match result with
      | some result =>
          let world := world.dropRequest number state.run
          { world with finished := world.finished ++ [(number, result)] }
      | none => world.keepRun number call.run state.run

def endAttempt (number : Nat) (attempt : AttemptId) (result : Except DriverError Frame)
    (world : World) : World :=
  match world.calls.find? number with
  | none => world
  | some call =>
      { world with
        calls := world.calls.put number { call with run := call.run.arrive attempt result } }
        |>.runRequest number

def expireAttempt (number : Nat) (attempt : AttemptId) (world : World) : World :=
  match world.calls.find? number with
  | none => world
  | some call =>
      if attempt ∈ call.run.outstanding ∧ call.run.arrived.find? attempt = none then
        (world.abandonAttempt number attempt).endAttempt number attempt
          (.error (.requestTimeout .zero []))
      else world

def refuseRequest (number : Nat) (error : DriverError) (world : World) : World :=
  { world with finished := world.finished ++ [(number, .error error)] }

def profileOf (request : Request) (world : World) : Except DriverError Profile :=
  match request.profile with
  | none => .ok world.config.profiles.fallback
  | some name =>
      match world.config.profiles.find? name with
      | some profile => .ok profile
      | none => .error (.configuration s!"unknown execution profile {name}")

def isClosed (world : World) : Bool :=
  match world.stage with
  | .closing | .closed => true
  | _ => false

/-- Starts a request. One for which no plan can be made breaks off without an end. -/
def startRequest (number : Nat) (request : Request) (world : World) : World :=
  if world.isClosed then world.refuseRequest number (.channelClosed "session is closed")
  else
    match world.profileOf request with
    | .error error => world.refuseRequest number error
    | .ok profile =>
        match world.balancing.plan? request.token? world.registry.snapshot with
        | none => world
        | some (plan, balancing) =>
            let idempotent := request.idempotent.getD profile.idempotent
            let deadline := profile.deadline.map fun span => world.now + span.millisUp
            let run : RequestRun :=
              { execution := .new plan idempotent profile.speculates, queued := [.start],
                deadline }
            let call : Call := { request, attemptTimeout := profile.requestTimeout, run }
            let world := { world with balancing, calls := world.calls.put number call }
            let world :=
              match deadline with
              | some due => world.schedule due (.request number)
              | none => world
            world.push (.request number)

def cancelRequest (number : Nat) (world : World) : World :=
  match world.calls.find? number with
  | none => world
  | some call =>
      { world with
        calls := world.calls.put number
          { call with run := { call.run with isCancelled := true } } }.push (.request number)

def forgetRequest (number : Nat) (world : World) : World :=
  match world.calls.find? number with
  | none => world
  | some call => world.dropRequest number call.run

end CqlDriver.Simulation.World

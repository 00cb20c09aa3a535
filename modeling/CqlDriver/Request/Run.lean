/-
Carrying a request out. A run sends the attempts that the execution asks for, takes
in how they end, and feeds the execution with one event after the other. Attempts
that cannot even be sent fail at once; their failures come before all else. Then
come, in this order, the wish of the caller to give up, the deadline, the attempts
that have ended, and the timer for another line.
-/

import CqlDriver.Request.Execution
import CqlDriver.Request.Response
import CqlDriver.Wire.ErrorBody

namespace CqlDriver

inductive AttemptAnswer where
  | accepted (frame : Frame)
  | refused (error : DriverError)
  | unreadable (error : DriverError)

namespace AttemptAnswer

/-- What a frame from an address means. -/
def ofFrame (address : SocketAddress) (frame : Frame) : AttemptAnswer :=
  if frame.opcode = .error then
    match ServerError.parse frame.body with
    | .ok error => .refused (.server address error [])
    | .error fault => .unreadable (.ofBodyFault fault)
  else .accepted frame

end AttemptAnswer

structure Transport (Outside : Type) where
  send : AttemptId → Node → Outside → Except DriverError Unit × Outside
  /-- The channel of an attempt can no longer be understood. -/
  distrust : AttemptId → Outside → Outside

/-- A request on its way. Times are milliseconds of the clock. -/
structure RequestRun where
  execution : Execution
  /-- The attempts that were sent and whose end was not handled. -/
  outstanding : List AttemptId := []
  arrived : Table AttemptId (Except DriverError Frame) := []
  answers : Table AttemptId (SocketAddress × Frame) := []
  /-- The failures of attempts that could not be sent. -/
  queued : List ExecutionEvent := []
  timer : Option Nat := none
  deadline : Option Nat := none
  isCancelled : Bool := false

structure RunState (Outside : Type) where
  run : RequestRun
  retry : RetrySource
  outside : Outside

abbrev RequestResult := Except DriverError Response

namespace RequestRun

variable {Outside : Type}

def info (run : RequestRun) (coordinator : Option SocketAddress) : ExecutionInfo :=
  { coordinator
    speculativeExecutions := run.execution.speculativeExecutions
    attempts := run.execution.nextAttempt
    errors := run.execution.errors }

def resolve (run : RequestRun) (attempt : AttemptId) : RequestResult :=
  match run.answers.find? attempt with
  | none => .error (.protocol .missingAnswer)
  | some (address, frame) => Response.ofFrame frame (run.info (some address))

def resolveIgnored (run : RequestRun) : RequestResult :=
  .ok (.ignored (run.info (run.execution.winner.map Node.address)))

/-- Sends an attempt; one that cannot be sent is queued as a failure. -/
def sendAttempt (transport : Transport Outside) (attempt : AttemptId) (node : Node)
    (state : RunState Outside) : RunState Outside :=
  match transport.send attempt node state.outside with
  | (.ok (), outside) =>
      { state with
        outside
        run := { state.run with outstanding := state.run.outstanding ++ [attempt] } }
  | (.error error, outside) =>
      { state with
        outside
        run := { state.run with queued := state.run.queued ++ [.failed attempt error] } }

def perform (transport : Transport Outside) (now : Nat) :
    List ExecutionEffect → RunState Outside → Option RequestResult × RunState Outside
  | [], state => (none, state)
  | .send attempt node :: rest, state =>
      perform transport now rest (sendAttempt transport attempt node state)
  | .scheduleSpeculative delay :: rest, state =>
      perform transport now rest
        { state with run := { state.run with timer := some (now + delay.millisUp) } }
  | .resolve attempt :: _, state => (some (state.run.resolve attempt), state)
  | .resolveIgnored :: _, state => (some state.run.resolveIgnored, state)
  | .fail error :: _, state => (some (.error error), state)

def take (transport : Transport Outside) (speculation : SpeculationPolicy) (now : Nat)
    (event : ExecutionEvent) (state : RunState Outside) :
    Option RequestResult × RunState Outside :=
  let asked := state.run.execution.question? event
  let (effects, execution) :=
    state.run.execution.handle state.retry.current speculation event
  let retry := match asked with
    | some timedOut => state.retry.advance timedOut
    | none => state.retry
  let (result, state) :=
    perform transport now effects { state with run := { state.run with execution }, retry }
  match result with
  | some result => (some result, state)
  | none =>
      if state.run.execution.phase = .cancelled then (some (.error .cancelled), state)
      else (none, state)

def eventOf (transport : Transport Outside) (attempt : AttemptId)
    (result : Except DriverError Frame) (state : RunState Outside) :
    ExecutionEvent × RunState Outside :=
  let run :=
    { state.run with
      outstanding := state.run.outstanding.erase attempt
      arrived := state.run.arrived.erase attempt }
  match run.execution.nodeOf? attempt with
  | none => (.failed attempt .cancelled, { state with run })
  | some node =>
      match result with
      | .error error => (.failed attempt error, { state with run })
      | .ok frame =>
          match AttemptAnswer.ofFrame node.address frame with
          | .accepted frame =>
              let answers := run.answers.put attempt (node.address, frame)
              (.succeeded attempt, { state with run := { run with answers } })
          | .refused error => (.failed attempt error, { state with run })
          | .unreadable error =>
              (.failed attempt error,
                { state with run, outside := transport.distrust attempt state.outside })

def isDue (now : Nat) : Option Nat → Bool
  | some time => time ≤ now
  | none => false

/-- The next event, if there is one at this time. The time that a request took is
not measured here; `elapsed` is what it is told. -/
def nextEvent (transport : Transport Outside) (elapsed : Span) (now : Nat)
    (state : RunState Outside) : Option (ExecutionEvent × RunState Outside) :=
  match state.run.queued with
  | event :: rest => some (event, { state with run := { state.run with queued := rest } })
  | [] =>
      if state.run.isCancelled then some (.cancelled, state)
      else if isDue now state.run.deadline then some (.deadlineExpired elapsed, state)
      else
        match state.run.arrived with
        | (attempt, result) :: _ => some (eventOf transport attempt result state)
        | [] =>
            if isDue now state.run.timer then
              some (.speculativeTimer, { state with run := { state.run with timer := none } })
            else none

/-- Handles events until there are none at this time, or the request has ended. At
most `fuel` events are handled. -/
def proceed (transport : Transport Outside) (speculation : SpeculationPolicy)
    (elapsed : Span) (now : Nat) : Nat → RunState Outside →
    Option RequestResult × RunState Outside
  | 0, state => (none, state)
  | fuel + 1, state =>
      match nextEvent transport elapsed now state with
      | none => (none, state)
      | some (event, state) =>
          match take transport speculation now event state with
          | (some result, state) => (some result, state)
          | (none, state) => proceed transport speculation elapsed now fuel state

/-- A bound on the events at one time: one for each attempt that is outstanding or
can still be sent, and a few for the caller and the timers. -/
def eventBound (run : RequestRun) : Nat :=
  2 * (run.outstanding.length + run.queued.length + run.execution.plan.length) + 4

/-- An outstanding attempt has ended. Only its first end counts. -/
def arrive (attempt : AttemptId) (result : Except DriverError Frame) (run : RequestRun) :
    RequestRun :=
  if attempt ∈ run.outstanding ∧ run.arrived.find? attempt = none then
    { run with arrived := run.arrived.put attempt result }
  else run

def alarms (run : RequestRun) : List Nat := run.timer.toList ++ run.deadline.toList

end RequestRun

end CqlDriver

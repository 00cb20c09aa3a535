/-
The execution of one request over the nodes of its plan. It takes events and says
what to do; it knows no clock and no connection. A request has one or more lines:
the first, and speculative ones. Each line has one attempt at a time and counts
its own retries, and all lines share the plan. Once a request has ended, further
events have no effect.
-/

import CqlDriver.Policy.Balancing
import CqlDriver.Policy.Retry
import CqlDriver.Policy.Speculation
import CqlDriver.Table

namespace CqlDriver

/-- The number of an attempt; attempts are numbered from zero in the order in which they are sent.
Thirty-two bits would do for it and for the counts of retries: they are full only when one request
has recorded four thousand million failures, and all of these are held in memory. -/
structure AttemptId where
  number : Nat
  deriving DecidableEq, Repr, Inhabited

inductive Phase where
  | notStarted
  | inFlight
  | resolved
  | failed
  | cancelled
  deriving DecidableEq, Repr, Inhabited

namespace Phase

def isTerminal : Phase → Bool
  | .resolved | .failed | .cancelled => true
  | .notStarted | .inFlight => false

def name : Phase → String
  | .notStarted => "NotStarted"
  | .inFlight => "InFlight"
  | .resolved => "Resolved"
  | .failed => "Failed"
  | .cancelled => "Cancelled"

end Phase

inductive ExecutionEvent where
  | start
  | succeeded (attempt : AttemptId)
  | failed (attempt : AttemptId) (error : DriverError)
  | speculativeTimer
  | deadlineExpired (elapsed : Span)
  | cancelled
  deriving Repr

/-- An event, and the policies that are asked about it. A policy need not answer the
same way every time. -/
structure ExecutionTurn where
  retry : RetryPolicy
  speculation : SpeculationPolicy
  event : ExecutionEvent

inductive ExecutionEffect where
  | send (attempt : AttemptId) (node : Node)
  /-- Raise the timer event after a delay, in place of any earlier timer. -/
  | scheduleSpeculative (delay : Span)
  | resolve (attempt : AttemptId)
  | resolveIgnored
  | fail (error : DriverError)
  deriving Repr

namespace ExecutionEffect

def isTerminal : ExecutionEffect → Bool
  | .resolve _ | .resolveIgnored | .fail _ => true
  | .send .. | .scheduleSpeculative _ => false

end ExecutionEffect

structure Attempt where
  node : Node
  line : Nat
  deriving DecidableEq, Repr, Inhabited

structure Execution where
  phase : Phase := .notStarted
  plan : QueryPlan
  idempotent : Bool
  speculates : Bool
  inFlight : Table AttemptId Attempt := []
  /-- The number of retries of each line. -/
  retryCounts : List Nat := []
  errors : NodeErrors := []
  nextAttempt : Nat := 0
  winner : Option Node := none
  deriving Repr, Inhabited

namespace Execution

/-- A request that has not started. Only one that may be applied more than once
speculates. -/
def new (plan : QueryPlan) (idempotent speculationEnabled : Bool) : Execution :=
  { plan, idempotent, speculates := speculationEnabled && idempotent }

/-- The number of lines beside the first. -/
def speculativeExecutions (execution : Execution) : Nat := execution.retryCounts.length - 1

def nodeOf? (execution : Execution) (attempt : AttemptId) : Option Node :=
  (execution.inFlight.find? attempt).map (·.node)

def sendTo (execution : Execution) (node : Node) (line : Nat) :
    ExecutionEffect × Execution :=
  let attempt : AttemptId := ⟨execution.nextAttempt⟩
  (.send attempt node,
    { execution with
      nextAttempt := execution.nextAttempt + 1
      inFlight := execution.inFlight.put attempt { node, line } })

def sendNext (execution : Execution) (line : Nat) : Option (ExecutionEffect × Execution) :=
  match execution.plan with
  | [] => none
  | node :: rest => some ({ execution with plan := rest }.sendTo node line)

def finish (execution : Execution) (phase : Phase) : Execution :=
  { execution with phase, inFlight := [] }

/-- Fails because no node is left. -/
def failExhausted (execution : Execution) : List ExecutionEffect × Execution :=
  ([.fail (.noNodeAvailable execution.errors)], { execution with phase := .failed })

/-- Asks for another line, as long as there are nodes for it. -/
def scheduleSpeculative (speculation : SpeculationPolicy) (execution : Execution) :
    List ExecutionEffect :=
  if !execution.speculates || execution.plan.isEmpty then []
  else
    match speculation execution.retryCounts.length with
    | some delay => [.scheduleSpeculative delay]
    | none => []

def countRetry (execution : Execution) (line : Nat) : Execution :=
  { execution with retryCounts := execution.retryCounts.modify line (· + 1) }

def onStart (speculation : SpeculationPolicy) (execution : Execution) :
    List ExecutionEffect × Execution :=
  match execution.phase with
  | .notStarted =>
      let execution :=
        { execution with phase := .inFlight, retryCounts := execution.retryCounts ++ [0] }
      match execution.sendNext 0 with
      | none => execution.failExhausted
      | some (send, execution) =>
          (send :: execution.scheduleSpeculative speculation, execution)
  | _ => ([], execution)

def onSuccess (execution : Execution) (attempt : AttemptId) :
    List ExecutionEffect × Execution :=
  match execution.inFlight.find? attempt with
  | none => ([], execution)
  | some state =>
      ([.resolve attempt], { execution.finish .resolved with winner := some state.node })

def retryContext (execution : Execution) (state : Attempt) (error : DriverError) :
    RetryContext :=
  { error
    idempotent := execution.idempotent
    retryCount := execution.retryCounts[state.line]?.getD 0 }

def isTimeout : DriverError → Bool
  | .requestTimeout .. => true
  | _ => false

/-- What is done about a failure. Failures of the transport go to the next node
without asking the policy. -/
def decide (policy : RetryPolicy) (execution : Execution) (state : Attempt)
    (error : DriverError) : RetryDecision :=
  if error.isConnectionLevel then .retryNextNode
  else if isTimeout error then policy.onRequestTimeout (execution.retryContext state error)
  else policy.onError (execution.retryContext state error)

/-- Whether the policy is asked about an event, and if so, whether about a
timeout. -/
def question? (execution : Execution) : ExecutionEvent → Option Bool
  | .failed attempt error =>
      if execution.phase.isTerminal || (execution.inFlight.find? attempt).isNone
          || error.isConnectionLevel then none
      else some (isTimeout error)
  | _ => none

/-- Counts that a line goes to another node. Failures of the transport do not count. -/
def countMove (execution : Execution) (line : Nat) (error : DriverError) : Execution :=
  if error.isConnectionLevel then execution else execution.countRetry line

/-- Goes on with the next node of the plan. Without one the line ends, and with the
last line the request. -/
def moveOn (execution : Execution) (line : Nat) : List ExecutionEffect × Execution :=
  match execution.sendNext line with
  | some (send, execution) => ([send], execution)
  | none => if execution.inFlight.isEmpty then execution.failExhausted else ([], execution)

def carryOut (execution : Execution) (state : Attempt) (error : DriverError) :
    RetryDecision → List ExecutionEffect × Execution
  | .retrySameNode =>
      let (send, execution) := (execution.countRetry state.line).sendTo state.node state.line
      ([send], execution)
  | .retryNextNode => (execution.countMove state.line error).moveOn state.line
  | .rethrow => ([.fail (error.withAttempts execution.errors)], execution.finish .failed)
  | .ignore =>
      ([.resolveIgnored], { execution.finish .resolved with winner := some state.node })

def onFailure (policy : RetryPolicy) (execution : Execution) (attempt : AttemptId)
    (error : DriverError) : List ExecutionEffect × Execution :=
  match execution.inFlight.find? attempt with
  | none => ([], execution)
  | some state =>
      let execution :=
        { execution with
          inFlight := execution.inFlight.erase attempt
          errors := execution.errors ++ [(state.node.address, error)] }
      execution.carryOut state error (execution.decide policy state error)

def onSpeculativeTimer (speculation : SpeculationPolicy) (execution : Execution) :
    List ExecutionEffect × Execution :=
  if execution.phase ≠ .inFlight ∨ !execution.speculates then ([], execution)
  else
    match execution.sendNext execution.retryCounts.length with
    | none => ([], execution)
    | some (send, execution) =>
        let execution := { execution with retryCounts := execution.retryCounts ++ [0] }
        (send :: execution.scheduleSpeculative speculation, execution)

def onDeadline (execution : Execution) (elapsed : Span) :
    List ExecutionEffect × Execution :=
  match execution.phase with
  | .inFlight =>
      ([.fail (.requestTimeout elapsed execution.errors)], execution.finish .failed)
  | _ => ([], execution)

/-- Takes an event and says what is to be done. -/
def handle (policy : RetryPolicy) (speculation : SpeculationPolicy) (execution : Execution)
    (event : ExecutionEvent) : List ExecutionEffect × Execution :=
  if execution.phase.isTerminal then ([], execution)
  else
    match event with
    | .start => execution.onStart speculation
    | .succeeded attempt => execution.onSuccess attempt
    | .failed attempt error => execution.onFailure policy attempt error
    | .speculativeTimer => execution.onSpeculativeTimer speculation
    | .deadlineExpired elapsed => execution.onDeadline elapsed
    | .cancelled => ([], execution.finish .cancelled)

def run (execution : Execution) : List ExecutionTurn → List ExecutionEffect × Execution
  | [] => ([], execution)
  | turn :: rest =>
      let (effects, execution) := execution.handle turn.retry turn.speculation turn.event
      let (later, execution) := execution.run rest
      (effects ++ later, execution)

def render (execution : Execution) : String :=
  "Execution \x7b " ++ s!"phase: {execution.phase.name}, "
    ++ s!"remaining_plan: {execution.plan.length}, in_flight: {execution.inFlight.length}, "
    ++ s!"executions: {execution.retryCounts.length}, errors: {execution.errors.length}"
    ++ " \x7d"

end Execution

end CqlDriver

/-
What to do after an attempt failed. The usual policy is careful: it sends a
request again only where that cannot apply the request twice, or where the caller
said that applying it twice does no harm.
-/

import CqlDriver.Error.Driver

namespace CqlDriver

inductive RetryDecision where
  | retrySameNode
  | retryNextNode
  | rethrow
  | ignore
  deriving DecidableEq, Repr, Inhabited

namespace RetryDecision

def name : RetryDecision → String
  | .retrySameNode => "RetrySameNode"
  | .retryNextNode => "RetryNextNode"
  | .rethrow => "Rethrow"
  | .ignore => "Ignore"

def all : List RetryDecision := [.retrySameNode, .retryNextNode, .rethrow, .ignore]

def ofName? (name : String) : Option RetryDecision :=
  all.find? fun decision => decision.name = name

end RetryDecision

structure RetryContext where
  error : DriverError
  idempotent : Bool
  /-- How often the line of the failed attempt was retried already. -/
  retryCount : Nat

structure RetryPolicy where
  onError : RetryContext → RetryDecision
  onRequestTimeout : RetryContext → RetryDecision

namespace RetryPolicy

/-- Whether a read got as many answers as it needed, but not the data. -/
def lacksOnlyData : ErrorDetails → Bool
  | .readTimeout _ received blockFor dataPresent => blockFor ≤ received ∧ !dataPresent
  | _ => false

/-- Whether a write failed in the log that is kept for batches. -/
def concernsBatchLog : ErrorDetails → Bool
  | .writeTimeout _ _ _ .batchLog => true
  | _ => false

def afterServerError (retryServerErrors : Bool) (context : RetryContext)
    (error : ServerError) : RetryDecision :=
  let first := context.retryCount == 0
  match error.code with
  | .unavailable => if first then .retryNextNode else .rethrow
  | .overloaded | .isBootstrapping => .retryNextNode
  | .readTimeout =>
      if context.idempotent && first && lacksOnlyData error.details then .retrySameNode
      else .rethrow
  | .writeTimeout =>
      if context.idempotent && first && concernsBatchLog error.details then .retrySameNode
      else .rethrow
  | .serverError =>
      if retryServerErrors && context.idempotent then .retryNextNode else .rethrow
  | _ => .rethrow

def carefulOnError (retryServerErrors : Bool) (context : RetryContext) : RetryDecision :=
  match context.error with
  | .server _ error _ => afterServerError retryServerErrors context error
  | .requestTimeout .. => if context.idempotent then .retryNextNode else .rethrow
  | other => if other.isConnectionLevel then .retryNextNode else .rethrow

/-- The usual policy. Errors of the server itself are retried for idempotent
requests if that is wanted. -/
def careful (retryServerErrors : Bool) : RetryPolicy :=
  { onError := carefulOnError retryServerErrors
    onRequestTimeout := carefulOnError retryServerErrors }

def never : RetryPolicy :=
  { onError := fun _ => .rethrow, onRequestTimeout := fun _ => .rethrow }

end RetryPolicy

/-- Where decisions come from: a policy, or lists of decisions prepared in advance.
Of a list each question takes the next decision, and the last one is repeated.
Questions after a timeout share the list for errors unless they have their own. -/
inductive RetrySource where
  | fixed (policy : RetryPolicy)
  | script (onError : List RetryDecision) (onTimeout : Option (List RetryDecision))

namespace RetrySource

/-- The policy by which the next question is answered. -/
def current : RetrySource → RetryPolicy
  | .fixed policy => policy
  | .script onError onTimeout =>
      { onError := fun _ => onError.headD .rethrow
        onRequestTimeout := fun _ => (onTimeout.getD onError).headD .rethrow }

/-- The decisions that are left after the first, of which the last stays. -/
def later : List RetryDecision → List RetryDecision
  | _ :: next :: rest => next :: rest
  | decisions => decisions

/-- What is left after an answer. -/
def advance (timedOut : Bool) : RetrySource → RetrySource
  | .fixed policy => .fixed policy
  | .script onError onTimeout =>
      match timedOut, onTimeout with
      | true, some decisions => .script onError (some (later decisions))
      | _, _ => .script (later onError) onTimeout

end RetrySource

end CqlDriver

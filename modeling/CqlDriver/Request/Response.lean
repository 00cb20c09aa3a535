/-
What a caller gets for a request: the answering frame without the optional parts
in front of its body, and what happened on the way. The flags of the frame
announce these parts; they stand in the order tracing id, warnings, payload.
-/

import CqlDriver.Error.Driver
import CqlDriver.Wire.Body
import CqlDriver.Wire.Frame

namespace CqlDriver

structure ExecutionInfo where
  coordinator : Option SocketAddress := none
  speculativeExecutions : Nat := 0
  attempts : Nat := 0
  errors : NodeErrors := []
  warnings : List String := []
  tracingId : Option (List UInt8) := none
  deriving Repr, Inhabited

/-- The answer to a request; without a frame if its failure was ignored. -/
structure Response where
  frame : Option Frame
  body : List UInt8
  info : ExecutionInfo
  deriving Repr, Inhabited

namespace Response

open Wire

structure Preamble where
  tracingId : Option (List UInt8)
  warnings : Option (List String)
  deriving DecidableEq, Repr

abbrev PreambleReader := EStateM ProtocolFault (List UInt8)

def ofBody {α : Type} (reader : Reader α) : PreambleReader α := fun body =>
  match reader.run body with
  | .ok value rest => .ok value rest
  | .error fault rest => .error (.body fault) rest

def readTracingId : PreambleReader (List UInt8) := do
  let left ← get
  if holds 16 left then
    set (left.drop 16)
    pure (left.take 16)
  else throw .truncatedTracingId

def skipPayload : Reader Unit := do
  let _ ← Reader.counted (Reader.keyed Reader.bytes)

def readPreamble (frame : Frame) : PreambleReader Preamble := do
  let tracingId ← if frame.hasTracing then some <$> readTracingId else pure none
  let warnings ← if frame.hasWarnings then some <$> ofBody Reader.stringList else pure none
  if frame.hasCustomPayload then ofBody skipPayload
  pure { tracingId, warnings }

/-- What a part that is not announced would tell stays as it was. -/
def ofFrame (frame : Frame) (info : ExecutionInfo) : Except DriverError Response :=
  match (readPreamble frame).run frame.body with
  | .error fault _ => .error (.protocol fault)
  | .ok preamble body =>
      .ok
        { frame := some frame
          body
          info :=
            { info with
              warnings := preamble.warnings.getD info.warnings
              tracingId := preamble.tracingId.or info.tracingId } }

def ignored (info : ExecutionInfo) : Response := { frame := none, body := [], info }

end Response

end CqlDriver

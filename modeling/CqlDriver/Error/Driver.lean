/-
Everything that can go wrong between a caller and the cluster, with the wording
of each case. The errors of a request carry the failures of its earlier
attempts, node by node.
-/

import CqlDriver.Error.Fault
import CqlDriver.Error.Server
import CqlDriver.Net.Address
import CqlDriver.Span

namespace CqlDriver

inductive ConnectionError where
  | resolve (names : String)
  | io (text : String)
  | timeout (text : String)
  | authentication (text : String)
  /-- The server does not speak the version that was asked for. -/
  | protocolMismatch (version : UInt8) (text : String)
  | handshake (text : String)
  | heartbeatTimeout (text : String)
  deriving DecidableEq, Repr, Inhabited

def ConnectionError.message : ConnectionError → String
  | .resolve names => s!"failed to resolve {names}"
  | .io text => s!"I/O failure: {text}"
  | .timeout text => s!"timed out: {text}"
  | .authentication text => s!"authentication failed: {text}"
  | .protocolMismatch version text => s!"protocol version {version.toNat} rejected: {text}"
  | .handshake text => s!"handshake failed: {text}"
  | .heartbeatTimeout text => s!"heartbeat failed: {text}"

/-- An error of the driver. `attempts` lists the failures of a request so far, in
the order in which they happened. -/
inductive DriverError where
  | connection (cause : ConnectionError)
  | channelClosed (reason : String)
  | busy (address : SocketAddress)
  | nodeUnavailable (address : SocketAddress)
  | protocol (fault : ProtocolFault)
  | unsupportedFrame (code : UInt8) (stream : Int16)
  | server (address : SocketAddress) (error : ServerError)
      (attempts : List (SocketAddress × DriverError))
  | requestTimeout (elapsed : Span) (attempts : List (SocketAddress × DriverError))
  | noNodeAvailable (attempts : List (SocketAddress × DriverError))
  | cancelled
  | configuration (text : String)
  | io (text : String)
  deriving Repr, Inhabited

/-- The failures of a request, oldest first, each with the node it happened on. -/
abbrev NodeErrors := List (SocketAddress × DriverError)

mutual

def DriverError.message : DriverError → String
  | .connection cause => s!"connection error: {cause.message}"
  | .channelClosed reason => s!"channel closed: {reason}"
  | .busy address => s!"no free stream id on {address.render}"
  | .nodeUnavailable address => s!"node {address.render} has no open channel"
  | .protocol fault => s!"protocol error: {fault.message}"
  | .unsupportedFrame code stream =>
      s!"unsupported frame: opcode 0x{Text.Hex.upperPadded 2 code.toNat} on stream {stream.toInt}"
  | .server address error _ => s!"server error from {address.render}: {error.render}"
  | .requestTimeout elapsed _ => s!"request timed out after {elapsed.render}"
  | .noNodeAvailable attempts =>
      "no node was able to answer the request: ["
        ++ ", ".intercalate (attemptMessages attempts) ++ "]"
  | .cancelled => "request cancelled"
  | .configuration text => s!"configuration error: {text}"
  | .io text => s!"I/O error: {text}"

def attemptMessages : List (SocketAddress × DriverError) → List String
  | [] => []
  | (address, error) :: rest => s!"{address.render}: {error.message}" :: attemptMessages rest

end

namespace NodeErrors

def render (errors : NodeErrors) : String :=
  "[" ++ ", ".intercalate (attemptMessages errors) ++ "]"

def find? (errors : NodeErrors) (address : SocketAddress) : Option DriverError :=
  errors.lookup address

end NodeErrors

namespace DriverError

/-- Failures of the transport, which move a request on to the next node. -/
def isConnectionLevel : DriverError → Bool
  | .connection _ | .channelClosed _ | .busy _ | .nodeUnavailable _ | .protocol _
  | .unsupportedFrame .. | .io _ => true
  | .server .. | .requestTimeout .. | .noNodeAvailable _ | .cancelled | .configuration _ => false

def withAttempts (history : NodeErrors) : DriverError → DriverError
  | .server address error _ => .server address error history
  | .requestTimeout elapsed _ => .requestTimeout elapsed history
  | other => other

/-- A body that cannot be read is a breach of the protocol. -/
def ofBodyFault (fault : BodyFault) : DriverError := .protocol (.body fault)

end DriverError

end CqlDriver

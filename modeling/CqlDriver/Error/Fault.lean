/-
Faults in what a peer sent: bodies that cannot be read and frames that break the
protocol.
-/

import CqlDriver.Text.Utf8

namespace CqlDriver

inductive BodyFault where
  /-- A part of the named kind needs more bytes than there are. -/
  | truncated (what : String) (needed left : Nat)
  | negativeLength (length : Int32)
  | invalidText (fault : Text.Utf8.Fault)
  | inetLength (length : Nat)
  | inetPort (port : Int32)
  | unknownTopologyChange (name : String)
  | unknownStatusChange (name : String)
  | unknownEvent (name : String)
  deriving DecidableEq, Repr

def BodyFault.message : BodyFault → String
  | .truncated what needed left => s!"truncated {what}: need {needed} bytes, {left} left"
  | .negativeLength length => s!"negative long string length {length.toInt}"
  | .invalidText fault => s!"invalid UTF-8 in string: {fault.message}"
  | .inetLength length => s!"invalid inet address length {length}"
  | .inetPort port => s!"invalid inet port {port.toInt}"
  | .unknownTopologyChange name => s!"unknown topology change {name}"
  | .unknownStatusChange name => s!"unknown status change {name}"
  | .unknownEvent name => s!"unknown event type {name}"

inductive ProtocolFault where
  | body (fault : BodyFault)
  | oversizedBody (length limit : Nat)
  | truncatedTracingId
  | compressedFrame
  | missingAnswer
  | other (text : String)
  deriving DecidableEq, Repr

def ProtocolFault.message : ProtocolFault → String
  | .body fault => fault.message
  | .oversizedBody length limit => s!"frame body of {length} bytes exceeds the {limit} byte limit"
  | .truncatedTracingId => "truncated tracing id"
  | .compressedFrame => "compressed frame without negotiated compression"
  | .missingAnswer => "resolved attempt has no response"
  | .other text => text

end CqlDriver

/-
The kinds of errors by name, and the fields of the details that a server gives.
-/

import CqlDriver.Config.Document
import CqlDriver.Error.Driver

namespace CqlDriver

def WriteType.describe : WriteType → Document
  | .simple => .text "Simple"
  | .batch => .text "Batch"
  | .unloggedBatch => .text "UnloggedBatch"
  | .counter => .text "Counter"
  | .batchLog => .text "BatchLog"
  | .cas => .text "Cas"
  | .view => .text "View"
  | .cdc => .text "Cdc"
  | .other name => .table [("other", .text name)]

namespace ErrorDetails

def kind : ErrorDetails → String
  | .none => "None"
  | .unavailable .. => "Unavailable"
  | .readTimeout .. => "ReadTimeout"
  | .writeTimeout .. => "WriteTimeout"
  | .readFailure .. => "ReadFailure"
  | .writeFailure .. => "WriteFailure"
  | .functionFailure .. => "FunctionFailure"
  | .alreadyExists .. => "AlreadyExists"
  | .unprepared _ => "Unprepared"

def ofWord (word : UInt16) : Document := .ofNat word.toNat

def ofCount (count : Int32) : Document := .integer count.toInt

def fields : ErrorDetails → List (String × Document)
  | .none => []
  | .unavailable consistency required alive =>
      [("consistency", ofWord consistency), ("required", ofCount required),
        ("alive", ofCount alive)]
  | .readTimeout consistency received blockFor dataPresent =>
      [("consistency", ofWord consistency), ("received", ofCount received),
        ("block_for", ofCount blockFor), ("data_present", .bool dataPresent)]
  | .writeTimeout consistency received blockFor writeType =>
      [("consistency", ofWord consistency), ("received", ofCount received),
        ("block_for", ofCount blockFor), ("write_type", writeType.describe)]
  | .readFailure consistency received blockFor failures dataPresent =>
      [("consistency", ofWord consistency), ("received", ofCount received),
        ("block_for", ofCount blockFor), ("failures", ofCount failures),
        ("data_present", .bool dataPresent)]
  | .writeFailure consistency received blockFor failures writeType =>
      [("consistency", ofWord consistency), ("received", ofCount received),
        ("block_for", ofCount blockFor), ("failures", ofCount failures),
        ("write_type", writeType.describe)]
  | .functionFailure keyspace function argTypes =>
      [("keyspace", .text keyspace), ("function", .text function),
        ("arg_types", .list (argTypes.map .text))]
  | .alreadyExists keyspace table => [("keyspace", .text keyspace), ("table", .text table)]
  | .unprepared id => [("id", .text (Text.Hex.bytes id))]

def describe (details : ErrorDetails) : Document :=
  .table (("type", .text details.kind) :: details.fields)

end ErrorDetails

def ConnectionError.kind : ConnectionError → String
  | .resolve _ => "Resolve"
  | .io _ => "Io"
  | .timeout _ => "Timeout"
  | .authentication _ => "Authentication"
  | .protocolMismatch .. => "ProtocolMismatch"
  | .handshake _ => "Handshake"
  | .heartbeatTimeout _ => "HeartbeatTimeout"

def DriverError.kind : DriverError → String
  | .connection _ => "Connection"
  | .channelClosed _ => "ChannelClosed"
  | .busy _ => "Busy"
  | .nodeUnavailable _ => "NodeUnavailable"
  | .protocol _ => "Protocol"
  | .unsupportedFrame .. => "UnsupportedFrame"
  | .server .. => "Server"
  | .requestTimeout .. => "RequestTimeout"
  | .noNodeAvailable _ => "NoNodeAvailable"
  | .cancelled => "Cancelled"
  | .configuration _ => "Configuration"
  | .io _ => "Io"

end CqlDriver

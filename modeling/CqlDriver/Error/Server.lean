/-
Errors that a server reports: the code, a message, and for some codes further
fields.
-/

import CqlDriver.Text.Hex

namespace CqlDriver

inductive ErrorCode where
  | serverError
  | protocolError
  | badCredentials
  | unavailable
  | overloaded
  | isBootstrapping
  | truncateError
  | writeTimeout
  | readTimeout
  | readFailure
  | functionFailure
  | writeFailure
  | syntaxError
  | unauthorized
  | invalid
  | configError
  | alreadyExists
  | unprepared
  | unknown (code : Int32)
  deriving DecidableEq, Repr, Inhabited

namespace ErrorCode

def ofCode (code : Int32) : ErrorCode :=
  if code = 0x0000 then .serverError
  else if code = 0x000A then .protocolError
  else if code = 0x0100 then .badCredentials
  else if code = 0x1000 then .unavailable
  else if code = 0x1001 then .overloaded
  else if code = 0x1002 then .isBootstrapping
  else if code = 0x1003 then .truncateError
  else if code = 0x1100 then .writeTimeout
  else if code = 0x1200 then .readTimeout
  else if code = 0x1300 then .readFailure
  else if code = 0x1400 then .functionFailure
  else if code = 0x1500 then .writeFailure
  else if code = 0x2000 then .syntaxError
  else if code = 0x2100 then .unauthorized
  else if code = 0x2200 then .invalid
  else if code = 0x2300 then .configError
  else if code = 0x2400 then .alreadyExists
  else if code = 0x2500 then .unprepared
  else .unknown code

def code : ErrorCode → Int32
  | .serverError => 0x0000
  | .protocolError => 0x000A
  | .badCredentials => 0x0100
  | .unavailable => 0x1000
  | .overloaded => 0x1001
  | .isBootstrapping => 0x1002
  | .truncateError => 0x1003
  | .writeTimeout => 0x1100
  | .readTimeout => 0x1200
  | .readFailure => 0x1300
  | .functionFailure => 0x1400
  | .writeFailure => 0x1500
  | .syntaxError => 0x2000
  | .unauthorized => 0x2100
  | .invalid => 0x2200
  | .configError => 0x2300
  | .alreadyExists => 0x2400
  | .unprepared => 0x2500
  | .unknown code => code

def names : ErrorCode → String × String
  | .serverError => ("ServerError", "SERVER_ERROR")
  | .protocolError => ("ProtocolError", "PROTOCOL_ERROR")
  | .badCredentials => ("BadCredentials", "BAD_CREDENTIALS")
  | .unavailable => ("Unavailable", "UNAVAILABLE")
  | .overloaded => ("Overloaded", "OVERLOADED")
  | .isBootstrapping => ("IsBootstrapping", "IS_BOOTSTRAPPING")
  | .truncateError => ("TruncateError", "TRUNCATE_ERROR")
  | .writeTimeout => ("WriteTimeout", "WRITE_TIMEOUT")
  | .readTimeout => ("ReadTimeout", "READ_TIMEOUT")
  | .readFailure => ("ReadFailure", "READ_FAILURE")
  | .functionFailure => ("FunctionFailure", "FUNCTION_FAILURE")
  | .writeFailure => ("WriteFailure", "WRITE_FAILURE")
  | .syntaxError => ("SyntaxError", "SYNTAX_ERROR")
  | .unauthorized => ("Unauthorized", "UNAUTHORIZED")
  | .invalid => ("Invalid", "INVALID")
  | .configError => ("ConfigError", "CONFIG_ERROR")
  | .alreadyExists => ("AlreadyExists", "ALREADY_EXISTS")
  | .unprepared => ("Unprepared", "UNPREPARED")
  | .unknown code => (s!"Unknown({code.toInt})", "UNKNOWN")

def name (code : ErrorCode) : String := code.names.1

/-- A code in a message: its name and its number in hexadecimal, a negative one
as the 32-bit word that holds it. -/
def render (code : ErrorCode) : String :=
  s!"{code.names.2} (0x{Text.Hex.upperPadded 4 code.code.toUInt32.toNat})"

end ErrorCode

inductive WriteType where
  | simple
  | batch
  | unloggedBatch
  | counter
  | batchLog
  | cas
  | view
  | cdc
  | other (name : String)
  deriving DecidableEq, Repr, Inhabited

namespace WriteType

def parse (name : String) : WriteType :=
  if name = "SIMPLE" then .simple
  else if name = "BATCH" then .batch
  else if name = "UNLOGGED_BATCH" then .unloggedBatch
  else if name = "COUNTER" then .counter
  else if name = "BATCH_LOG" then .batchLog
  else if name = "CAS" then .cas
  else if name = "VIEW" then .view
  else if name = "CDC" then .cdc
  else .other name

/-- The name of a write type on the wire. -/
def wireName : WriteType → String
  | .simple => "SIMPLE"
  | .batch => "BATCH"
  | .unloggedBatch => "UNLOGGED_BATCH"
  | .counter => "COUNTER"
  | .batchLog => "BATCH_LOG"
  | .cas => "CAS"
  | .view => "VIEW"
  | .cdc => "CDC"
  | .other name => name

end WriteType

/-- The fields that some error codes carry beside the message. -/
inductive ErrorDetails where
  | none
  | unavailable (consistency : UInt16) (required alive : Int32)
  | readTimeout (consistency : UInt16) (received blockFor : Int32) (dataPresent : Bool)
  | writeTimeout (consistency : UInt16) (received blockFor : Int32) (writeType : WriteType)
  | readFailure (consistency : UInt16) (received blockFor failures : Int32) (dataPresent : Bool)
  | writeFailure (consistency : UInt16) (received blockFor failures : Int32)
      (writeType : WriteType)
  | functionFailure (keyspace function : String) (argTypes : List String)
  | alreadyExists (keyspace table : String)
  | unprepared (id : List UInt8)
  deriving DecidableEq, Repr, Inhabited

structure ServerError where
  code : ErrorCode
  message : String
  details : ErrorDetails := .none
  deriving DecidableEq, Repr, Inhabited

def ServerError.render (error : ServerError) : String :=
  s!"{error.code.render}: {error.message}"

end CqlDriver

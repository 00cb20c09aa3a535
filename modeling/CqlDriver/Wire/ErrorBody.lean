/-
The body of an error answer: the code, the message, and the fields that belong
to the code.
-/

import CqlDriver.Error.Server
import CqlDriver.Wire.Body

namespace CqlDriver

namespace ErrorDetails

open Wire

def read : ErrorCode → Reader ErrorDetails
  | .unavailable => do
      let consistency ← Reader.short
      let required ← Reader.int
      let alive ← Reader.int
      return .unavailable consistency required alive
  | .readTimeout => do
      let consistency ← Reader.short
      let received ← Reader.int
      let blockFor ← Reader.int
      let dataPresent ← Reader.byte
      return .readTimeout consistency received blockFor (dataPresent != 0)
  | .writeTimeout => do
      let consistency ← Reader.short
      let received ← Reader.int
      let blockFor ← Reader.int
      let writeType ← Reader.string
      return .writeTimeout consistency received blockFor (WriteType.parse writeType)
  | .readFailure => do
      let consistency ← Reader.short
      let received ← Reader.int
      let blockFor ← Reader.int
      let failures ← Reader.int
      let dataPresent ← Reader.byte
      return .readFailure consistency received blockFor failures (dataPresent != 0)
  | .writeFailure => do
      let consistency ← Reader.short
      let received ← Reader.int
      let blockFor ← Reader.int
      let failures ← Reader.int
      let writeType ← Reader.string
      return .writeFailure consistency received blockFor failures (WriteType.parse writeType)
  | .functionFailure => do
      let keyspace ← Reader.string
      let function ← Reader.string
      let argTypes ← Reader.stringList
      return .functionFailure keyspace function argTypes
  | .alreadyExists => do
      let keyspace ← Reader.string
      let table ← Reader.string
      return .alreadyExists keyspace table
  | .unprepared => return .unprepared (← Reader.shortBytes)
  | _ => return .none

def present (value : Bool) : UInt8 := if value then 1 else 0

def encode : ErrorDetails → List UInt8
  | .none => []
  | .unavailable consistency required alive =>
      Writer.short consistency ++ Writer.int required ++ Writer.int alive
  | .readTimeout consistency received blockFor dataPresent =>
      Writer.short consistency ++ Writer.int received ++ Writer.int blockFor
        ++ [present dataPresent]
  | .writeTimeout consistency received blockFor writeType =>
      Writer.short consistency ++ Writer.int received ++ Writer.int blockFor
        ++ Writer.string writeType.wireName
  | .readFailure consistency received blockFor failures dataPresent =>
      Writer.short consistency ++ Writer.int received ++ Writer.int blockFor
        ++ Writer.int failures ++ [present dataPresent]
  | .writeFailure consistency received blockFor failures writeType =>
      Writer.short consistency ++ Writer.int received ++ Writer.int blockFor
        ++ Writer.int failures ++ Writer.string writeType.wireName
  | .functionFailure keyspace function argTypes =>
      Writer.string keyspace ++ Writer.string function ++ Writer.stringList argTypes
  | .alreadyExists keyspace table => Writer.string keyspace ++ Writer.string table
  | .unprepared id => Writer.shortBytes id

end ErrorDetails

namespace ServerError

open Wire

def read : Reader ServerError := do
  let code := ErrorCode.ofCode (← Reader.int)
  let message ← Reader.string
  let details ← ErrorDetails.read code
  return { code, message, details }

/-- Reads the body of an error answer; bytes behind it do not matter. -/
def parse (body : List UInt8) : Except BodyFault ServerError := read.onBody body

def body (error : ServerError) : List UInt8 :=
  Writer.int error.code.code ++ Writer.string error.message ++ error.details.encode

end ServerError

end CqlDriver

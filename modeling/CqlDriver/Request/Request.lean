/-
Requests, and the consistency that a query asks for.
-/

import CqlDriver.Ring.Token
import CqlDriver.Wire.Opcode
import CqlDriver.Wire.Request

namespace CqlDriver

inductive Consistency where
  | any
  | one
  | two
  | three
  | quorum
  | all
  | localQuorum
  | eachQuorum
  | serial
  | localSerial
  | localOne
  deriving DecidableEq, Repr, Inhabited

namespace Consistency

def name : Consistency → String
  | .any => "Any"
  | .one => "One"
  | .two => "Two"
  | .three => "Three"
  | .quorum => "Quorum"
  | .all => "All"
  | .localQuorum => "LocalQuorum"
  | .eachQuorum => "EachQuorum"
  | .serial => "Serial"
  | .localSerial => "LocalSerial"
  | .localOne => "LocalOne"

def levels : List Consistency :=
  [.any, .one, .two, .three, .quorum, .all, .localQuorum, .eachQuorum, .serial, .localSerial,
    .localOne]

def ofName? (name : String) : Option Consistency := levels.find? fun level => level.name = name

def code : Consistency → UInt16
  | .any => 0x00
  | .one => 0x01
  | .two => 0x02
  | .three => 0x03
  | .quorum => 0x04
  | .all => 0x05
  | .localQuorum => 0x06
  | .eachQuorum => 0x07
  | .serial => 0x08
  | .localSerial => 0x09
  | .localOne => 0x0A

end Consistency

structure Request where
  opcode : Opcode
  body : List UInt8
  /-- Whether the request may be applied more than once; if not given, the profile
  says so. -/
  idempotent : Option Bool := none
  routingKey : Option (List UInt8) := none
  routingToken : Option Token := none
  profile : Option String := none
  deriving Repr, Inhabited

namespace Request

def query (text : String) (consistency : Consistency) : Request :=
  { opcode := .query, body := Wire.queryBody text consistency.code }

/-- The token by which the request is routed. A token that is given counts more than
a key. -/
def token? (request : Request) : Option Token :=
  match request.routingToken with
  | some token => some token
  | none => request.routingKey.map Token.ofKey

end Request

end CqlDriver

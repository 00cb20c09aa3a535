/-
Servers that answer from a script. A server answers each frame on the frame's
stream and counts what it was asked.
-/

import CqlDriver.Wire.ErrorBody
import CqlDriver.Wire.EventBody
import CqlDriver.Wire.Frame

namespace CqlDriver.Simulation

inductive MockReply where
  | void
  | silent
  | hangUp
  | malformed
  | failure (error : ServerError)
  | delayed (millis : Nat)
  | raw (opcode : Opcode) (flags : UInt8) (body : List UInt8)

inductive MockAction where
  | answer (frame : Frame)
  | answerLater (millis : Nat) (frame : Frame)
  /-- Answer, and push events on the connection from now on. -/
  | enroll (frame : Frame)
  | hangUp
  | nothing

structure MockNode where
  maxVersion : UInt8 := 4
  credentials : Option (String × String) := none
  /-- The answers to the next queries; the last one is repeated. -/
  replies : List MockReply := [.void]
  isListening : Bool := true
  /-- A hanging server reads frames and does not answer them. -/
  isHanging : Bool := false
  answersOptions : Bool := true
  refusesEvents : Bool := false
  accepted : Nat := 0
  startups : Nat := 0
  queries : Nat := 0
  options : Nat := 0
  registers : Nat := 0

namespace MockNode

def answerTo (frame : Frame) (opcode : Opcode) (body : List UInt8) : Frame :=
  .response frame.version frame.stream opcode body

def errorBody (code : ErrorCode) (message : String) : List UInt8 :=
  ServerError.body { code, message, details := .none }

def voidBody : List UInt8 := [0, 0, 0, 1]

/-- The class of authenticator that servers demand. -/
def authenticatorClass : String := "org.apache.cassandra.auth.PasswordAuthenticator"

def onStartup (frame : Frame) (node : MockNode) : Frame :=
  if node.maxVersion < frame.version then
    .response node.maxVersion frame.stream .error
      (errorBody .protocolError
        s!"Invalid or unsupported protocol version ({frame.version.toNat})")
  else if node.credentials.isSome then
    answerTo frame .authenticate (Wire.Writer.string authenticatorClass)
  else answerTo frame .ready []

def proof (credentials : String × String) : List UInt8 :=
  Wire.Writer.bytes
    (some (0 :: Text.Utf8.encode credentials.1 ++ 0 :: Text.Utf8.encode credentials.2))

def onAuthResponse (frame : Frame) (node : MockNode) : Frame :=
  if node.credentials.map proof = some frame.body then
    answerTo frame .authSuccess (Wire.Writer.bytes none)
  else answerTo frame .error (errorBody .badCredentials "bad username or password")

def onQuery (frame : Frame) : MockReply → MockAction
  | .void => .answer (answerTo frame .result voidBody)
  | .silent => .nothing
  | .hangUp => .hangUp
  | .malformed => .answer (answerTo frame .error [0, 0])
  | .failure error => .answer (answerTo frame .error error.body)
  | .delayed millis => .answerLater millis (answerTo frame .result voidBody)
  | .raw opcode flags body => .answer { answerTo frame opcode body with flags }

def laterReplies : List MockReply → List MockReply
  | _ :: next :: rest => next :: rest
  | replies => replies

def serve (frame : Frame) (node : MockNode) : MockAction × MockNode :=
  if node.isHanging then (.nothing, node)
  else
    match frame.opcode with
    | .startup => (.answer (node.onStartup frame), { node with startups := node.startups + 1 })
    | .authResponse => (.answer (node.onAuthResponse frame), node)
    | .options =>
        let action :=
          if node.answersOptions then .answer (answerTo frame .supported [0, 0]) else .nothing
        (action, { node with options := node.options + 1 })
    | .register =>
        let action :=
          if node.refusesEvents then
            .answer (answerTo frame .error (errorBody .serverError "cannot register"))
          else .enroll (answerTo frame .ready [])
        (action, { node with registers := node.registers + 1 })
    | _ =>
        (onQuery frame (node.replies.headD .void),
          { node with queries := node.queries + 1, replies := laterReplies node.replies })

def pushed (event : ServerEvent) (node : MockNode) : Frame :=
  .response node.maxVersion (-1) .event event.body

end MockNode

end CqlDriver.Simulation

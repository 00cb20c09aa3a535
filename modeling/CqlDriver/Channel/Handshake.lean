/-
How a new connection comes to an agreement with the server: the client starts up,
proves who it is if the server demands that, and asks for events if it wants them.
The client sends one frame and waits for one reply, until it is done or fails.
-/

import CqlDriver.Channel.Config
import CqlDriver.Wire.ErrorBody
import CqlDriver.Wire.EventBody
import CqlDriver.Wire.Frame
import CqlDriver.Wire.Reply
import CqlDriver.Wire.Request

namespace CqlDriver

/-- What the client waits for a reply to. -/
inductive Handshake where
  | startup
  | authenticating (authenticator : Authenticator) (className : String)
      (challenges : List (Option (List UInt8)))
  | registering

inductive HandshakeStep where
  | ask (frame : Frame) (stage : Handshake)
  | done
  | failed (error : DriverError)

namespace Handshake

def stream : Int16 := 0

def failure (text : String) : DriverError := .connection (.handshake text)

def request (config : ChannelConfig) (opcode : Opcode) (body : List UInt8) : Frame :=
  .request config.version.number stream opcode body

def opening (config : ChannelConfig) : Frame := request config .startup Wire.startupBody

def response (config : ChannelConfig) (token : List UInt8) : Frame :=
  request config .authResponse (Wire.authResponseBody (some token))

def registration (config : ChannelConfig) : Frame :=
  request config .register (Wire.registerBody ServerEvent.kinds)

def endedEarly (address : SocketAddress) : DriverError :=
  failure s!"{address.render} closed the connection during the handshake"

def reportedError (config : ChannelConfig) (reply : Frame) : DriverError :=
  match ServerError.parse reply.body with
  | .error fault =>
      failure s!"malformed error response: {DriverError.message (.ofBodyFault fault)}"
  | .ok error =>
      match error.code with
      | .protocolError =>
          .connection (.protocolMismatch config.version.number error.message)
      | .badCredentials => .connection (.authentication error.message)
      | _ => failure error.render

def unexpected (reply : Frame) (place : String) : HandshakeStep :=
  .failed (failure s!"unexpected {reply.opcode.name} {place}")

/-- What follows once the server trusts the client. -/
def trusted (config : ChannelConfig) : HandshakeStep :=
  if config.wantsEvents then .ask (registration config) .registering else .done

/-- Sends a token, if there is one and it has room in a frame. -/
def sendToken (config : ChannelConfig) (token : Except DriverError (List UInt8))
    (stage : Handshake) : HandshakeStep :=
  match token with
  | .error error => .failed error
  | .ok token =>
      match Frame.write [] (response config token) with
      | .error fault => .failed (.protocol fault)
      | .ok _ => .ask (response config token) stage

def authenticate (config : ChannelConfig) (address : SocketAddress) (className : String) :
    List AuthenticationStep × HandshakeStep :=
  match config.authenticator with
  | none =>
      ([], .failed (.connection (.authentication
        (s!"{address.render} requires authentication with {className} "
          ++ "but no credentials are configured"))))
  | some authenticator =>
      ([.initial className],
        sendToken config (authenticator.initial address className)
          (.authenticating authenticator className []))

def onStartupReply (config : ChannelConfig) (address : SocketAddress) (reply : Frame) :
    List AuthenticationStep × HandshakeStep :=
  match reply.opcode with
  | .ready => ([], trusted config)
  | .authenticate =>
      match Wire.parseAuthenticate reply.body with
      | .error fault => ([], .failed (.ofBodyFault fault))
      | .ok className => authenticate config address className
  | .error => ([], .failed (reportedError config reply))
  | _ => ([], unexpected reply "in answer to STARTUP")

def onTokenReply (config : ChannelConfig) (address : SocketAddress)
    (authenticator : Authenticator) (className : String)
    (challenges : List (Option (List UInt8))) (reply : Frame) :
    List AuthenticationStep × HandshakeStep :=
  match reply.opcode with
  | .authSuccess =>
      match Wire.parseAuthToken reply.body with
      | .error fault => ([], .failed (.ofBodyFault fault))
      | .ok token => ([.success token], trusted config)
  | .authChallenge =>
      match Wire.parseAuthToken reply.body with
      | .error fault => ([], .failed (.ofBodyFault fault))
      | .ok challenge =>
          let challenges := challenges ++ [challenge]
          ([.challenge challenge],
            sendToken config (authenticator.answer address challenges)
              (.authenticating authenticator className challenges))
  | .error => ([], .failed (reportedError config reply))
  | _ => ([], unexpected reply "during authentication")

def onRegisterReply (config : ChannelConfig) (reply : Frame) : HandshakeStep :=
  match reply.opcode with
  | .ready => .done
  | .error => .failed (reportedError config reply)
  | _ => unexpected reply "in answer to REGISTER"

/-- What a reply leads to, and what the authenticator was asked on the way. -/
def onReply (config : ChannelConfig) (address : SocketAddress) (reply : Frame) :
    Handshake → List AuthenticationStep × HandshakeStep
  | .startup => onStartupReply config address reply
  | .authenticating authenticator className challenges =>
      onTokenReply config address authenticator className challenges reply
  | .registering => ([], onRegisterReply config reply)

end Handshake

end CqlDriver

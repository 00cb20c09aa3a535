/-
A connection on its way to become a channel: what was received and not understood
yet, and how far the agreement with the server has come.
-/

import CqlDriver.Channel.Handshake

namespace CqlDriver

structure Opening where
  address : SocketAddress
  config : ChannelConfig
  stage : Handshake := .startup
  unread : List UInt8 := []

inductive OpeningState where
  | waiting (opening : Opening)
  /-- There is agreement; these bytes were received behind it. -/
  | agreed (unread : List UInt8)
  | failed (error : DriverError)

/-- What bytes from the server lead to: the frames to be sent, what the
authenticator was asked, and the state reached. -/
structure OpeningProgress where
  frames : List Frame := []
  authentication : List AuthenticationStep := []
  state : OpeningState

namespace Opening

def after (authentication : List AuthenticationStep) (frames : List Frame)
    (progress : OpeningProgress) : OpeningProgress :=
  { progress with
    frames := frames ++ progress.frames
    authentication := authentication ++ progress.authentication }

def advance (opening : Opening) (ended : Bool) : Nat → OpeningProgress
  | 0 => { state := .waiting opening }
  | fuel + 1 =>
      match Frame.decode opening.unread with
      | .needMore _ =>
          if !ended then { state := .waiting opening }
          else if opening.unread.isEmpty then
            { state := .failed (Handshake.endedEarly opening.address) }
          else { state := .failed (.io Frame.endedInside) }
      | .oversized length =>
          { state := .failed (.protocol (.oversizedBody length Frame.maxBodyLength)) }
      | .unsupported code stream _ => { state := .failed (.unsupportedFrame code stream) }
      | .frame reply rest =>
          let (authentication, step) := opening.stage.onReply opening.config opening.address reply
          match step with
          | .done => { authentication, state := .agreed rest }
          | .failed error => { authentication, state := .failed error }
          | .ask frame stage =>
              after authentication [frame]
                ({ opening with stage, unread := rest }.advance ended fuel)

/-- Takes bytes from the server, and whether they are the last ones. A frame takes
at least nine bytes, so that there are fewer replies than bytes. -/
def receive (opening : Opening) (bytes : List UInt8) (ended : Bool) : OpeningProgress :=
  let unread := opening.unread ++ bytes
  { opening with unread }.advance ended (unread.length + 1)

def tookTooLong (address : SocketAddress) (config : ChannelConfig) : DriverError :=
  .connection (.timeout
    s!"opening a channel to {address.render} took longer than {config.connectTimeout.render}")

def refused (address : SocketAddress) : DriverError :=
  .connection (.io
    (s!"failed to connect to {address.render}: " ++ "Connection refused (os error 111)"))

end Opening

end CqlDriver

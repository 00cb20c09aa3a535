/-
Signs of life. After a silence of one interval the server is asked for a sign, and
it has a time to give one. Times are nanoseconds of the clock.
-/

import CqlDriver.Channel.StreamTable

namespace CqlDriver

inductive Heartbeat where
  | resting (due : Nat)
  /-- A sign was asked for by a request, and must be there before the deadline. The
  next one is not asked for before `due`. -/
  | awaiting (ticket : Ticket) (due deadline : Nat)
  | stopped
  deriving DecidableEq, Repr, Inhabited

inductive HeartbeatTurn where
  | rest (heartbeat : Heartbeat)
  | ask
  | giveUp (ticket : Ticket)
  deriving DecidableEq, Repr

namespace Heartbeat

def start (interval now : Nat) : Heartbeat := .resting (now + interval)

def alarm? : Heartbeat → Option Nat
  | .resting due => some due
  | .awaiting _ _ deadline => some deadline
  | .stopped => none

/-- What is due at a time. A sign is asked for only when the last frame came at
least an interval ago; otherwise that moment is waited for. -/
def turn (interval now lastRead : Nat) : Heartbeat → HeartbeatTurn
  | .resting due =>
      if now < due then .rest (.resting due)
      else if now < lastRead + interval then .rest (.resting (lastRead + interval))
      else .ask
  | .awaiting ticket due deadline =>
      if now < deadline then .rest (.awaiting ticket due deadline) else .giveUp ticket
  | .stopped => .rest .stopped

def isAsking (request : Nat) : Heartbeat → Bool
  | .awaiting ticket _ _ => ticket.request == request
  | .resting _ | .stopped => false

/-- The end of the request by which a sign was asked for. Any answer is a sign. -/
def answered (result : Except DriverError Frame) : Heartbeat → Heartbeat
  | .awaiting _ due _ =>
      match result with
      | .ok _ => .resting due
      | .error _ => .stopped
  | other => other

end Heartbeat

end CqlDriver

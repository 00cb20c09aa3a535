/-
Letting the world go on: doing the work that is ready, and moving the clock.
-/

import CqlDriver.Simulation.Servers
import CqlDriver.Simulation.Sessions

namespace CqlDriver.Simulation.World

def opened (asker : Asker) (result : Except DriverError ChannelId) (world : World) : World :=
  match asker with
  | .caller => { world with outcome := some result }
  | .pool node place => world.stepPool node fun view pool => pool.connected view place result
  | .session => world.contactDecided result
  | .control => world.controlDecided result

def answer (id : ChannelId) (frame : Frame) (world : World) : World :=
  world.writeToClient id frame.encode

def perform (job : Job) (world : World) : World :=
  match job with
  | .read channel => world.read channel
  | .write channel => world.write channel
  | .beat channel => world.beat channel
  | .giveUp channel => world.giveUp channel
  | .opened asker result => world.opened asker result
  | .drain channel => world.drain channel
  | .lost channel => world.lose channel
  | .serve channel => world.serve channel
  | .answer channel frame => world.answer channel frame
  | .resize node caller => world.stepPool node fun view pool => pool.ensureSize view caller
  | .resume node => world.stepPool node fun view pool => pool.resume view
  | .wake node => world.stepPool node fun view pool => pool.wake view
  | .request number => world.runRequest number
  | .ended number attempt result => world.endAttempt number attempt result
  | .overdue number attempt => world.expireAttempt number attempt
  | .followNodes => world.followNodes
  | .filled => world.startSession
  | .control => world.control
  | .controlPaused => world.controlPaused
  | .closeSession => world.finishClosing

/-- Does the work that is ready, with all that becomes ready through it, until the
world is as wanted. At most `fuel` pieces of work are done. -/
def settleUntil (isWanted : World → Bool) : Nat → World → World
  | 0, world => world
  | fuel + 1, world =>
      if isWanted world then world
      else
        match world.agenda.next? with
        | none => world
        | some (job, agenda) => settleUntil isWanted fuel (perform job { world with agenda })

def workBound : Nat := 10000000

def settle (world : World) : World := settleUntil (fun _ => false) workBound world

/-- Moves the clock from one piece of waiting work to the next, up to a limit, until
the world is as wanted. -/
def advanceUntil (limit : Option Nat) (isWanted : World → Bool) : Nat → World → World
  | 0, world => world
  | fuel + 1, world =>
      let world := settleUntil isWanted workBound world
      if isWanted world then world
      else
        match world.agenda.tick? limit with
        | none => world
        | some agenda => advanceUntil limit isWanted fuel { world with agenda }

def advance (millis : Nat) (world : World) : World :=
  let limit := world.now + millis
  let world := advanceUntil (some limit) (fun _ => false) workBound world
  { world with agenda := world.agenda.reach limit }

def waitUntil (isWanted : World → Bool) (world : World) : World :=
  advanceUntil none isWanted workBound world

end CqlDriver.Simulation.World

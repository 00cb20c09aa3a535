/-
Delays between attempts to reconnect to a node: either always the same, or growing
by a factor from a first delay up to a greatest one. The growth is computed in
doubles and brought back to whole nanoseconds.
-/

import CqlDriver.Span

namespace CqlDriver

inductive ReconnectionPolicy where
  | constant (delay : Span)
  | exponential (base limit : Span) (factor : Float)

structure ReconnectionSchedule where
  policy : ReconnectionPolicy
  /-- What the next delay grows from; nothing before the first. -/
  last : Option Span := none

namespace ReconnectionPolicy

/-- The greater of two doubles; one that is not a number does not count. -/
def greaterFloat (left right : Float) : Float :=
  if left.isNaN then right else if right.isNaN then left else if left < right then right else left

def smallerFloat (left right : Float) : Float :=
  if left.isNaN then right else if right.isNaN then left else if right < left then right else left

/-- Growing delays; a factor below one counts as one. -/
def growing (base limit : Span) (factor : Float) : ReconnectionPolicy :=
  .exponential base limit (greaterFloat factor 1.0)

def grow (limit : Span) (factor : Float) (last : Span) : Span :=
  match Span.ofSeconds? (smallerFloat (last.seconds * factor) limit.seconds) with
  | some delay => delay.min limit
  | none => limit

def newSchedule (policy : ReconnectionPolicy) : ReconnectionSchedule := { policy }

end ReconnectionPolicy

namespace ReconnectionSchedule

/-- The next delay. What later delays grow from never falls below the first. -/
def next (schedule : ReconnectionSchedule) : Span × ReconnectionSchedule :=
  match schedule.policy with
  | .constant delay => (delay, schedule)
  | .exponential base limit factor =>
      let delay := match schedule.last with
        | none => base
        | some last => ReconnectionPolicy.grow limit factor last
      (delay, { schedule with last := some (delay.max base) })

/-- The first so many delays. -/
def take : Nat → ReconnectionSchedule → List Span
  | 0, _ => []
  | count + 1, schedule =>
      let (delay, schedule) := schedule.next
      delay :: take count schedule

end ReconnectionSchedule

end CqlDriver

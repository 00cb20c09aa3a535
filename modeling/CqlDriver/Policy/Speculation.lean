/-
Speculative executions: when a request that may be applied more than once gets
another line of attempts before the earlier lines have ended.
-/

import CqlDriver.Span

namespace CqlDriver

/-- The delay before another line starts, from the number of lines there are;
nothing if there shall be no other one. -/
abbrev SpeculationPolicy := Nat → Option Span

namespace SpeculationPolicy

def never : SpeculationPolicy := fun _ => none

/-- Up to so many lines, with a fixed delay between them. -/
def constant (maxExecutions : Nat) (delay : Span) : SpeculationPolicy :=
  fun running => if running < maxExecutions then some delay else none

end SpeculationPolicy

end CqlDriver

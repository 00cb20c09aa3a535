/-
Spans of time, counted in whole nanoseconds.
-/

namespace CqlDriver

structure Span where
  nanos : Nat
  deriving DecidableEq, Repr, Inhabited

namespace Span

def zero : Span := ⟨0⟩

def ofMillis (millis : Nat) : Span := ⟨millis * 1000000⟩

def ofSecs (secs : Nat) : Span := ⟨secs * 1000000000⟩

def isZero (span : Span) : Bool := span.nanos == 0

/-- The least number of whole milliseconds that covers the span. Timers count in
milliseconds. -/
def millisUp (span : Span) : Nat := (span.nanos + 999999) / 1000000

protected def min (left right : Span) : Span := ⟨min left.nanos right.nanos⟩

protected def max (left right : Span) : Span := ⟨max left.nanos right.nanos⟩

/-- The longest span: the largest 64-bit number of seconds and one nanosecond
less than another one. -/
def longest : Span := ⟨UInt64.size * 1000000000 - 1⟩

/-- The decimals of `part / 10 ^ places`, without trailing zeros, and with the
point in front if any are left. -/
def decimals (places part : Nat) : String :=
  let digits := Nat.toDigits 10 part
  let filled := List.replicate (places - digits.length) '0' ++ digits
  let kept := (filled.reverse.dropWhile (· == '0')).reverse
  if kept.isEmpty then "" else String.ofList ('.' :: kept)

/-- A span in the largest unit of which it holds at least one, with its exact
decimals. -/
def render (span : Span) : String :=
  let nanos := span.nanos
  if 1000000000 ≤ nanos then
    toString (nanos / 1000000000) ++ decimals 9 (nanos % 1000000000) ++ "s"
  else if 1000000 ≤ nanos then
    toString (nanos / 1000000) ++ decimals 6 (nanos % 1000000) ++ "ms"
  else if 1000 ≤ nanos then
    toString (nanos / 1000) ++ decimals 3 (nanos % 1000) ++ "µs"
  else toString nanos ++ "ns"

def seconds (span : Span) : Float :=
  (UInt64.ofNat (span.nanos / 1000000000)).toFloat
    + (UInt64.ofNat (span.nanos % 1000000000)).toFloat / 1000000000.0

/-- `numerator / 2 ^ places` rounded to a whole number, a half to the even one. -/
def roundShift (numerator places : Nat) : Nat :=
  let unit := 1 <<< places
  let whole := numerator / unit
  let twice := 2 * (numerator % unit)
  if twice < unit then whole
  else if unit < twice then whole + 1
  else whole + whole % 2

/-- The exact value of a double that is a number and not negative, in
nanoseconds, rounded to the nearest and a half to the even one. `none` if the
double is negative, not a number, or too long for a span. -/
def ofSeconds? (value : Float) : Option Span :=
  let bits := value.toBits.toNat
  let exponent := (bits >>> 52) % 2048
  let fraction := bits % (1 <<< 52)
  if value < 0.0 then none
  else if exponent = 2047 then none
  else
    let mantissa := if exponent = 0 then fraction else (1 <<< 52) + fraction
    let power := if exponent = 0 then 1 else exponent
    let billionths := mantissa * 1000000000
    let nanos :=
      if 1075 ≤ power then billionths <<< (power - 1075)
      else roundShift billionths (1075 - power)
    if longest.nanos < nanos then none else some ⟨nanos⟩

end Span

end CqlDriver

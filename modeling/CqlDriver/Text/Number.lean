/-
Numbers written in digits: natural numbers in any radix up to sixteen, and decimal
fractions with an exponent.
-/

import CqlDriver.Text.Hex

namespace CqlDriver.Text

def digitValue? (radix : Nat) (character : Char) : Option Nat :=
  match Hex.digit? character with
  | some value => if value < radix then some value else none
  | none => none

def digits (radix : Nat) : List Char → List Nat × List Char
  | [] => ([], [])
  | first :: rest =>
      match digitValue? radix first with
      | none => ([], first :: rest)
      | some value =>
          let (more, left) := digits radix rest
          (value :: more, left)

def ofDigits (radix : Nat) (values : List Nat) : Nat :=
  values.foldl (fun total digit => total * radix + digit) 0

def natural? (radix : Nat) (text : List Char) : Option Nat :=
  match digits radix text with
  | ([], _) => none
  | (values, []) => some (ofDigits radix values)
  | _ => none

/-- A number of at most `most` that may have a plus sign in front. -/
def unsigned? (most : Nat) (text : String) : Option Nat :=
  let found := match text.toList with
    | '+' :: rest => natural? 10 rest
    | other => natural? 10 other
  match found with
  | some value => if value ≤ most then some value else none
  | none => none

def sign : List Char → Bool × List Char
  | '-' :: rest => (true, rest)
  | '+' :: rest => (false, rest)
  | other => (false, other)

def nearestFloat (negative : Bool) (mantissa : Nat) (exponent : Int) : Float :=
  let magnitude :=
    if mantissa = 0 then 0.0
    else if 400 < exponent then 1.0 / 0.0
    else if exponent + (Nat.toDigits 10 mantissa).length < -400 then 0.0
    else if 0 ≤ exponent then Float.ofScientific mantissa false exponent.toNat
    else Float.ofScientific mantissa true (-exponent).toNat
  if negative then -magnitude else magnitude

def exponent? : List Char → Option Int
  | [] => some 0
  | first :: rest =>
      if first = 'e' ∨ first = 'E' then
        let (negative, rest) := sign rest
        match natural? 10 rest with
        | some value => some (if negative then -(value : Int) else value)
        | none => none
      else none

/-- A decimal without a sign: digits with at most one point among or around them,
and maybe an exponent. -/
def decimal? (negative : Bool) (text : List Char) : Option Float :=
  let (whole, rest) := digits 10 text
  let (fraction, rest) := match rest with
    | '.' :: rest => digits 10 rest
    | other => ([], other)
  if whole.isEmpty && fraction.isEmpty then none
  else
    match exponent? rest with
    | none => none
    | some power =>
        some (nearestFloat negative (ofDigits 10 (whole ++ fraction)) (power - fraction.length))

end CqlDriver.Text

/-
Hexadecimal digits: fixed-width upper-case numbers for codes in messages and
lower-case digits for address groups and identifiers.
-/

namespace CqlDriver.Text.Hex

def lower (value : Nat) : String :=
  String.ofList (Nat.toDigits 16 value)

/-- The upper-case hexadecimal digits of a number, filled up with zeros to at
least `width` places. -/
def upperPadded (width value : Nat) : String :=
  let digits := (Nat.toDigits 16 value).map Char.toUpper
  String.ofList (List.replicate (width - digits.length) '0' ++ digits)

def byte (value : UInt8) : List Char :=
  [Nat.digitChar (value.toNat / 16), Nat.digitChar (value.toNat % 16)]

def bytes (values : List UInt8) : String :=
  String.ofList (values.flatMap byte)

def digit? (character : Char) : Option Nat :=
  if '0' ≤ character ∧ character ≤ '9' then some (character.toNat - '0'.toNat)
  else if 'a' ≤ character ∧ character ≤ 'f' then some (character.toNat - 'a'.toNat + 10)
  else if 'A' ≤ character ∧ character ≤ 'F' then some (character.toNat - 'A'.toNat + 10)
  else none

def bytes? : List Char → Option (List UInt8)
  | [] => some []
  | [_] => none
  | high :: low :: rest => do
      let highValue ← digit? high
      let lowValue ← digit? low
      let values ← bytes? rest
      return UInt8.ofNat (highValue * 16 + lowValue) :: values

end CqlDriver.Text.Hex

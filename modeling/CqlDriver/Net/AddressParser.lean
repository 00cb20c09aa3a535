/-
Reading addresses from text. A part of an IPv4 address has no leading zeros; a
group of an IPv6 address has at most four digits, one run of groups may be left
out, and the last two groups may be written like an IPv4 address.
-/

import CqlDriver.Net.Address
import CqlDriver.Text.Number
import CqlDriver.Text.Scan

namespace CqlDriver.Net

open Text (Scan)

def char (expected : Char) : Scan Unit
  | [] => none
  | first :: rest => if first = expected then some ((), rest) else none

/-- A number below `bound`. It has at least one digit and, if `places` is given,
at most so many; zeros in front of another digit count only if they are
allowed. -/
def number (radix bound : Nat) (places : Option Nat) (leadingZeros : Bool) : Scan Nat :=
  fun text =>
    let (values, rest) := Text.digits radix text
    let value := Text.ofDigits radix values
    let tooLong := match places with
      | some limit => limit < values.length
      | none => false
    if values.isEmpty || tooLong then none
    else if !leadingZeros && values.head? == some 0 && 1 < values.length then none
    else if bound ≤ value then none
    else some (value, rest)

/-- Something that stands behind a separator, unless it is the first. -/
def separated {α : Type} (separator : Char) (index : Nat) (item : Scan α) : Scan α :=
  fun text =>
    if index = 0 then item text
    else (char separator text).bind fun ((), rest) => item rest

def decimalPart (index : Nat) : Scan Nat :=
  separated '.' index (number 10 256 (some 3) false)

def fourParts : Scan (Nat × Nat × Nat × Nat) := fun text => do
  let (first, text) ← decimalPart 0 text
  let (second, text) ← decimalPart 1 text
  let (third, text) ← decimalPart 2 text
  let (fourth, text) ← decimalPart 3 text
  return ((first, second, third, fourth), text)

/-- Reads groups while there are any, `room` at most. The result says how many
groups stand at the end in the form of an IPv4 address. -/
def groupRun : Nat → Nat → List Char → (List Nat × Bool) × List Char
  | _, 0, text => (([], false), text)
  | index, room + 1, text =>
      let tail :=
        if 0 < room then separated ':' index fourParts text else none
      match tail with
      | some ((first, second, third, fourth), rest) =>
          (([first * 256 + second, third * 256 + fourth], true), rest)
      | none =>
          match separated ':' index (number 16 65536 (some 4) true) text with
          | none => (([], false), text)
          | some (group, rest) =>
              let ((more, tail), left) := groupRun (index + 1) room rest
              ((group :: more, tail), left)

def eightGroups : Scan (List Nat) := fun text => do
  let ((head, tail), text) := groupRun 0 8 text
  if head.length = 8 then return (head, text)
  if tail then none
  let ((), text) ← char ':' text
  let ((), text) ← char ':' text
  let ((back, _), text) := groupRun 0 (7 - head.length) text
  let gap := List.replicate (8 - head.length - back.length) 0
  return (head ++ gap ++ back, text)

def ipv4 : Scan IpAddress := fun text => do
  let ((first, second, third, fourth), text) ← fourParts text
  return (IpAddress.ofParts first second third fourth, text)

def ipv6 : Scan IpAddress := fun text => do
  let (groups, text) ← eightGroups text
  return (IpAddress.ofGroups groups, text)

def port : Scan UInt16 := fun text => do
  let ((), text) ← char ':' text
  let (value, text) ← number 10 65536 none true text
  return (UInt16.ofNat value, text)

def scope : Scan UInt32 := fun text =>
  let found := do
    let ((), rest) ← char '%' text
    number 10 UInt32.size none true rest
  match found with
  | some (value, rest) => some (UInt32.ofNat value, rest)
  | none => some (0, text)

def socketV4 : Scan SocketAddress := fun text => do
  let (ip, text) ← ipv4 text
  let (port, text) ← port text
  return (⟨ip, port, 0⟩, text)

def socketV6 : Scan SocketAddress := fun text => do
  let ((), text) ← char '[' text
  let (ip, text) ← ipv6 text
  let (scope, text) ← scope text
  let ((), text) ← char ']' text
  let (port, text) ← port text
  return (⟨ip, port, scope⟩, text)

/-- Reads a whole text by the first of two ways that reads all of it. -/
def whole {α : Type} (first second : Scan α) (text : String) : Option α :=
  match first text.toList with
  | some (value, []) => some value
  | _ =>
      match second text.toList with
      | some (value, []) => some value
      | _ => none

end CqlDriver.Net

namespace CqlDriver

def IpAddress.parse? : String → Option IpAddress :=
  Net.whole Net.ipv4 Net.ipv6

def SocketAddress.parse? : String → Option SocketAddress :=
  Net.whole Net.socketV4 Net.socketV6

end CqlDriver

/-
Reading from the front of a text, step by step. A step that refuses has no result.
-/

import CqlDriver.Text.Hex

namespace CqlDriver.Text

abbrev Scan (α : Type) := StateT (List Char) Option α

namespace Scan

def all? {α : Type} (scan : Scan α) (text : List Char) : Option α :=
  match scan text with
  | some (value, []) => some value
  | _ => none

def peek? : Scan (Option Char) := fun text => some (text.head?, text)

def accept (expected : Char) : Scan Bool
  | [] => some (false, [])
  | first :: rest => if first = expected then some (true, rest) else some (false, first :: rest)

def expect (expected : Char) : Scan Unit := do
  if ← accept expected then pure () else failure

def takeWhile (kind : Char → Bool) : Scan (List Char) := fun text =>
  some (text.takeWhile kind, text.dropWhile kind)

end Scan

def hexNumber? (count : Nat) (text : List Char) : Option Nat :=
  match (text.take count).mapM Hex.digit? with
  | none => none
  | some values =>
      if values.length = count then
        some (values.foldl (fun total digit => total * 16 + digit) 0)
      else none

def charOfNumber? (number : Nat) : Option Char :=
  if number.isValidChar then some (Char.ofNat number) else none

/-- The rules of a quoted text: what a letter behind a backslash stands for, and how
many hexadecimal digits of a number follow a letter. -/
structure EscapeRules where
  letter : Char → Option Char
  number : Char → Option Nat

def unquote (rules : EscapeRules) : List Char → Option (List Char × List Char)
  | [] => none
  | '"' :: rest => some ([], rest)
  | '\\' :: mark :: rest =>
      match rules.number mark with
      | some count =>
          match (hexNumber? count rest).bind charOfNumber? with
          | none => none
          | some character =>
              (unquote rules (rest.drop count)).map fun (read, left) => (character :: read, left)
      | none =>
          match rules.letter mark with
          | none => none
          | some character =>
              (unquote rules rest).map fun (read, left) => (character :: read, left)
  | first :: rest =>
      if first = '\\' ∨ first.toNat < 0x20 ∧ first ≠ '\t' then none
      else (unquote rules rest).map fun (read, left) => (first :: read, left)
termination_by text => text.length
decreasing_by
  all_goals simp only [List.length_cons, List.length_drop]; omega

end CqlDriver.Text

/-
Reading documents in TOML: tables under headers, dotted keys, and values of fixed
types. A key is given once. A table is opened once by a header, and not at all if
dotted keys have made it.
-/

import CqlDriver.Config.Document
import CqlDriver.Text.Scan

namespace CqlDriver.Toml

open Text (Scan)

inductive Origin where
  | header
  /-- On the way to the table of another header. -/
  | implied
  | dotted
  deriving DecidableEq, Repr

inductive Section where
  | value (document : Document)
  | table (origin : Origin) (entries : List (String × Section))

abbrev Entries := List (String × Section)

def replace (key : String) (part : Section) : Entries → Entries
  | [] => [(key, part)]
  | entry :: rest =>
      if entry.1 = key then (key, part) :: rest else entry :: replace key part rest

def openTable : List String → Entries → Option Entries
  | [], _ => none
  | [key], entries =>
      match entries.lookup key with
      | none => some (replace key (.table .header []) entries)
      | some (.table .implied inner) => some (replace key (.table .header inner) entries)
      | some _ => none
  | key :: rest, entries =>
      match entries.lookup key with
      | none => (openTable rest []).map fun inner => replace key (.table .implied inner) entries
      | some (.table origin inner) =>
          (openTable rest inner).map fun inner => replace key (.table origin inner) entries
      | some (.value _) => none

def assign (document : Document) : List String → Entries → Option Entries
  | [], _ => none
  | [key], entries =>
      match entries.lookup key with
      | none => some (entries ++ [(key, .value document)])
      | some _ => none
  | key :: rest, entries =>
      match entries.lookup key with
      | none =>
          (assign document rest []).map fun inner => replace key (.table .dotted inner) entries
      | some (.table .header _) | some (.value _) => none
      | some (.table origin inner) =>
          (assign document rest inner).map fun inner => replace key (.table origin inner) entries

/-- Changes the table that a header has opened. -/
def within (change : Entries → Option Entries) : List String → Entries → Option Entries
  | [], entries => change entries
  | key :: rest, entries =>
      match entries.lookup key with
      | some (.table origin inner) =>
          (within change rest inner).map fun inner => replace key (.table origin inner) entries
      | _ => none

mutual

def Section.document : Section → Document
  | .value document => document
  | .table _ entries => .table (documents entries)

def documents : List (String × Section) → List (String × Document)
  | [] => []
  | (key, part) :: rest => (key, part.document) :: documents rest

end

/-! Words and blanks. -/

def skipBlank (inComment : Bool) : List Char → List Char
  | [] => []
  | first :: rest =>
      if first = '\n' then skipBlank false rest
      else if inComment || first = ' ' || first = '\t' || first = '\r' then
        skipBlank inComment rest
      else if first = '#' then skipBlank true rest
      else first :: rest

def blank : Scan Unit := fun text => some ((), skipBlank false text)

def spaces : Scan Unit := do
  let _ ← Scan.takeWhile fun character => character == ' ' || character == '\t'

def lineEnd : Scan Unit := do
  spaces
  if (← Scan.peek?) = some '#' then
    let _ ← Scan.takeWhile (· != '\n')
  let _ ← Scan.accept '\r'
  match ← Scan.peek? with
  | none => pure ()
  | some _ => Scan.expect '\n'

def escapes : Text.EscapeRules :=
  { letter := fun mark =>
      [('b', '\x08'), ('t', '\t'), ('n', '\n'), ('f', '\x0c'), ('r', '\r'), ('"', '"'),
       ('\\', '\\')].lookup mark
    number := fun mark => [('u', 4), ('U', 8)].lookup mark }

def basicText : Scan String := do
  Scan.expect '"'
  let read ← Text.unquote escapes
  pure (String.ofList read)

def literalText : Scan String := do
  Scan.expect '\''
  let read ← Scan.takeWhile fun character => character != '\'' && character != '\n'
  Scan.expect '\''
  pure (String.ofList read)

def isBare (character : Char) : Bool :=
  character.isAlphanum || character == '_' || character == '-'

def simpleKey : Scan String := do
  match ← Scan.peek? with
  | some '"' => basicText
  | some '\'' => literalText
  | _ =>
      let word ← Scan.takeWhile isBare
      if word.isEmpty then failure else pure (String.ofList word)

/-- Keys with points between them, at most `fuel` of them. -/
def dottedKey : Nat → Scan (List String)
  | 0 => failure
  | fuel + 1 => do
      let key ← simpleKey
      spaces
      if ← Scan.accept '.' then
        spaces
        return key :: (← dottedKey fuel)
      else return [key]

/-! Values. -/

/-- Drops underscores, each of which has to stand between two digits. -/
def dropUnderscores (radix : Nat) (afterDigit : Bool) : List Char → Option (List Char)
  | [] => some []
  | '_' :: next :: rest =>
      if afterDigit && (Text.digitValue? radix next).isSome then
        dropUnderscores radix false (next :: rest)
      else none
  | ['_'] => none
  | first :: rest =>
      (dropUnderscores radix (Text.digitValue? radix first).isSome rest).map (first :: ·)

def bounded (value : Int) : Option Document :=
  if Int64.minValue.toInt ≤ value ∧ value ≤ Int64.maxValue.toInt then some (.integer value)
  else none

def radixNumber? (radix : Nat) (word : List Char) : Option Document := do
  let kept ← dropUnderscores radix false word
  let value ← Text.natural? radix kept
  bounded value

def decimalNumber? (negative : Bool) (word : List Char) : Option Document := do
  let kept ← dropUnderscores 10 false word
  let (whole, rest) := Text.digits 10 kept
  if whole.isEmpty || (whole.head? == some 0 && 1 < whole.length) then none
  match rest with
  | [] =>
      let value : Int := Text.ofDigits 10 whole
      bounded (if negative then -value else value)
  | '.' :: fraction =>
      if (Text.digits 10 fraction).1.isEmpty then none
      let value ← Text.decimal? negative kept
      if value.isInf then none else some (.decimal value)
  | _ =>
      let value ← Text.decimal? negative kept
      if value.isInf then none else some (.decimal value)

def word? (word : List Char) : Option Document :=
  let (negative, unsigned) := Text.sign word
  match String.ofList word, String.ofList unsigned with
  | "true", _ => some (.bool true)
  | "false", _ => some (.bool false)
  | _, "inf" => some (.decimal (if negative then -1.0 / 0.0 else 1.0 / 0.0))
  | _, "nan" => some (.decimal (0.0 / 0.0))
  | _, _ =>
      match word with
      | '0' :: 'x' :: rest => radixNumber? 16 rest
      | '0' :: 'o' :: rest => radixNumber? 8 rest
      | '0' :: 'b' :: rest => radixNumber? 2 rest
      | _ => decimalNumber? negative unsigned

def arrayRest (value : Scan Document) : Nat → Scan (List Document)
  | 0 => failure
  | fuel + 1 => do
      blank
      if ← Scan.accept ']' then return []
      let first ← value
      blank
      if ← Scan.accept ',' then return first :: (← arrayRest value fuel)
      Scan.expect ']'
      return [first]

def pairsRest (value : Scan Document) : Nat → Entries → Scan Entries
  | 0, _ => failure
  | fuel + 1, known => do
      spaces
      let key ← dottedKey (fuel + 1)
      Scan.expect '='
      spaces
      let document ← value
      let known ← liftM (assign document key known)
      spaces
      if ← Scan.accept ',' then pairsRest value fuel known
      else
        Scan.expect '\x7d'
        return known

/-- A value in which others are nested less deep than `depth`. -/
def value (length : Nat) : Nat → Scan Document
  | 0 => failure
  | depth + 1 => do
      match ← Scan.peek? with
      | some '"' => return .text (← basicText)
      | some '\'' => return .text (← literalText)
      | some '[' =>
          Scan.expect '['
          return .list (← arrayRest (value length depth) length)
      | some '\x7b' =>
          Scan.expect '\x7b'
          spaces
          if ← Scan.accept '\x7d' then return .table []
          return .table (documents (← pairsRest (value length depth) length []))
      | _ =>
          let word ← Scan.takeWhile fun character =>
            isBare character || character == '+' || character == '.'
          liftM (word? word)

/-! Documents. -/

inductive Statement where
  | header (path : List String)
  | pair (path : List String) (document : Document)

def statement (length : Nat) : Scan Statement := do
  if ← Scan.accept '[' then
    spaces
    let path ← dottedKey length
    Scan.expect ']'
    lineEnd
    return .header path
  else
    let path ← dottedKey length
    Scan.expect '='
    spaces
    let document ← value length length
    lineEnd
    return .pair path document

/-- What was read so far, and the header under which the next pairs stand. -/
structure Progress where
  entries : Entries := []
  current : List String := []

def Progress.take (progress : Progress) : Statement → Option Progress
  | .header path =>
      (openTable path progress.entries).map fun entries => { entries, current := path }
  | .pair path document =>
      (within (assign document path) progress.current progress.entries).map fun entries =>
        { progress with entries }

/-- Reads statements to the end of the text, at most `fuel` of them. -/
def statements (length : Nat) : Nat → Progress → Scan Progress
  | 0, _ => failure
  | fuel + 1, progress => do
      blank
      match ← Scan.peek? with
      | none => return progress
      | some _ =>
          let progress ← liftM (progress.take (← statement length))
          statements length fuel progress

def parse? (text : String) : Option Document :=
  let characters := text.toList
  let length := characters.length + 1
  ((statements length length {}).all? characters).map fun progress =>
    .table (documents progress.entries)

end CqlDriver.Toml

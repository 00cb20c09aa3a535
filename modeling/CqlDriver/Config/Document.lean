/-
Documents that configurations are written in, whatever their format, and reading
values of fixed types out of them. A field that is missing or null is not set.
-/

import CqlDriver.Text.Number

namespace CqlDriver

inductive Document where
  | null
  | bool (value : Bool)
  | integer (value : Int)
  | decimal (value : Float)
  | text (value : String)
  /-- Text without quotes, which is a number, a truth value or nothing where one is
  looked for. -/
  | plain (value : String)
  | list (items : List Document)
  | table (entries : List (String × Document))
  deriving Inhabited

namespace Document

def nullTexts : List String := ["", "~", "null", "Null", "NULL"]

def isNull : Document → Bool
  | .null => true
  | .plain value => nullTexts.contains value
  | _ => false

def asText? : Document → Option String
  | .text value | .plain value => some value
  | _ => none

/-- Whether digits begin with a zero that says nothing. -/
def hasIdleZero : List Char → Bool
  | '0' :: rest => !rest.isEmpty && rest.all fun character => (Text.digitValue? 10 character).isSome
  | _ => false

/-- A natural number as plain text: decimal, or with a mark of its radix. -/
def plainNatural? (value : String) : Option Nat :=
  let unsigned := match value.toList with
    | '+' :: rest => rest
    | other => other
  match unsigned with
  | '0' :: 'x' :: rest => Text.natural? 16 rest
  | '0' :: 'o' :: rest => Text.natural? 8 rest
  | '0' :: 'b' :: rest => Text.natural? 2 rest
  | other => if hasIdleZero other then none else Text.natural? 10 other

def asNatural? (most : Nat) (document : Document) : Option Nat :=
  let found := match document with
    | .integer value => if 0 ≤ value then some value.toNat else none
    | .plain value => plainNatural? value
    | _ => none
  match found with
  | some value => if value ≤ most then some value else none
  | none => none

def greatestWord : Nat := UInt64.size - 1

def asWord? : Document → Option Nat := asNatural? greatestWord

def asByte? : Document → Option Nat := asNatural? 255

def plainFloat? (value : String) : Option Float :=
  let (negative, rest) := Text.sign value.toList
  let written := String.ofList rest
  if [".inf", ".Inf", ".INF"].contains written then
    some (if negative then -1.0 / 0.0 else 1.0 / 0.0)
  else if [".nan", ".NaN", ".NAN"].contains value then some (0.0 / 0.0)
  else
    match Text.decimal? negative rest with
    | some found => if found.isFinite then some found else none
    | none => none

def asFloat? : Document → Option Float
  | .decimal value => some value
  | .integer value => some (Text.nearestFloat (value < 0) value.natAbs 0)
  | .plain value => plainFloat? value
  | _ => none

def asBool? : Document → Option Bool
  | .bool value => some value
  | .plain value =>
      if ["true", "True", "TRUE"].contains value then some true
      else if ["false", "False", "FALSE"].contains value then some false
      else none
  | _ => none

def asTexts? : Document → Option (List String)
  | .list items => items.mapM asText?
  | _ => none

/-- The entries of a table. Plain text with nothing in it is an empty table. -/
def asEntries? : Document → Option (List (String × Document))
  | .table entries => some entries
  | .plain "" => some []
  | _ => none

/-- The document under a name, if there is one; refused if there are several. -/
def sole? (entries : List (String × Document)) (name : String) : Option (Option Document) :=
  match entries.filter fun entry => entry.1 = name with
  | [] => some none
  | [entry] => some (some entry.2)
  | _ => none

/-- The documents under fixed names. Where lists may stand for tables, a list gives
its items to the names in order. -/
def fields? (listsAsTables : Bool) (names : List String) (document : Document) :
    Option (List (Option Document)) :=
  match listsAsTables, document with
  | true, .list items =>
      if items.length ≤ names.length then
        some (items.map some ++ List.replicate (names.length - items.length) none)
      else none
  | _, document => document.asEntries?.bind fun entries => names.mapM (sole? entries)

def optional {α : Type} (read : Document → Option α) (fields : List (Option Document))
    (place : Nat) : Option (Option α) :=
  match fields[place]?.join with
  | none => some none
  | some document => if document.isNull then some none else (read document).map some

def ofOption {α : Type} (write : α → Document) : Option α → Document
  | some value => write value
  | none => .null

def ofNat (value : Nat) : Document := .integer value

end Document

end CqlDriver

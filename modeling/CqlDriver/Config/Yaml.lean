/-
Reading documents in a part of YAML: mappings and sequences by indentation,
sequences and mappings between brackets, and texts that are quoted or plain. What a
plain text means is left to whoever reads it.
-/

import CqlDriver.Config.Document
import CqlDriver.Text.Blank
import CqlDriver.Text.Scan

namespace CqlDriver.Yaml

/-- A line that is neither blank nor only a comment, without its indentation. -/
structure Line where
  indent : Nat
  text : List Char
  deriving DecidableEq, Repr

def splitLines : List Char → List (List Char)
  | [] => [[]]
  | '\n' :: rest => [] :: splitLines rest
  | first :: rest =>
      match splitLines rest with
      | [] => [[first]]
      | line :: lines => (first :: line) :: lines

def isSpace (character : Char) : Bool := character == ' ' || character == '\t'

def trimEnd (line : List Char) : List Char :=
  (line.reverse.dropWhile fun character => isSpace character || character == '\r').reverse

def trimStart (line : List Char) : List Char := line.dropWhile isSpace

def isIdle (text : List Char) : Bool :=
  match trimStart text with
  | [] => true
  | first :: _ => first == '#'

def lineOf (raw : List Char) : Line :=
  let raw := trimEnd raw
  { indent := (raw.takeWhile (· == ' ')).length, text := raw.dropWhile (· == ' ') }

def cutComment : List Char → List Char
  | [] => []
  | first :: rest =>
      match isSpace first, rest with
      | true, '#' :: _ => []
      | _, _ => first :: cutComment rest

def hasComment (text : List Char) : Bool := (cutComment text).length < text.length

def indicators : List Char := ",[]\x7b\x7d#&*!|>'\"%@\x60".toList

def beginsPlain : List Char → Bool
  | [] => false
  | first :: rest =>
      if ['-', '?', ':'].contains first then
        match rest with
        | [] => false
        | second :: _ => !isSpace second
      else !indicators.contains first

/-- Whether a mark of a value comes next: a colon with white space or nothing behind
it. -/
def atColon : List Char → Bool
  | [':'] => true
  | ':' :: next :: _ => isSpace next
  | _ => false

def splitColon : List Char → Option (List Char × List Char)
  | [] => none
  | first :: rest =>
      if atColon (first :: rest) then some ([], rest)
      else (splitColon rest).map fun (before, after) => (first :: before, after)

/-- Whether a line is an item of a sequence. -/
def isItem : List Char → Bool
  | ['-'] => true
  | '-' :: next :: _ => isSpace next
  | _ => false

def escapes : Text.EscapeRules :=
  { letter := fun mark =>
      [('0', '\x00'), ('a', '\x07'), ('b', '\x08'), ('t', '\t'), ('\t', '\t'), ('n', '\n'),
       ('v', '\x0b'), ('f', '\x0c'), ('r', '\r'), ('e', '\x1b'), (' ', ' '), ('"', '"'),
       ('/', '/'), ('\\', '\\'), ('N', '\u0085'), ('_', '\u00a0'), ('L', '\u2028'),
       ('P', '\u2029')].lookup mark
    number := fun mark => [('x', 2), ('u', 4), ('U', 8)].lookup mark }

/-- The inside of a text between single quotes, in which a quote is written twice. -/
def singleQuoted : List Char → Option (List Char × List Char)
  | [] => none
  | '\'' :: '\'' :: rest =>
      (singleQuoted rest).map fun (read, left) => ('\'' :: read, left)
  | '\'' :: rest => some ([], rest)
  | first :: rest => (singleQuoted rest).map fun (read, left) => (first :: read, left)

def quoted? : List Char → Option (Option (List Char × List Char))
  | '"' :: rest => some (Text.unquote escapes rest)
  | '\'' :: rest => some (singleQuoted rest)
  | _ => none

def splitKey (text : List Char) : Option (String × List Char) :=
  match quoted? text with
  | some none => none
  | some (some (key, rest)) =>
      match trimStart rest with
      | ':' :: after =>
          if after.isEmpty || after.head?.any isSpace then some (String.ofList key, after)
          else none
      | _ => none
  | none =>
      if beginsPlain text then
        match splitColon (cutComment text) with
        | some (key, after) =>
            let comment := text.drop (cutComment text).length
            some (String.ofList (trimEnd key), after ++ comment)
        | none => none
      else none

/-! Values between brackets. -/

def skipBlank (inComment : Bool) : List Char → List Char
  | [] => []
  | first :: rest =>
      if first = '\n' then skipBlank false rest
      else if inComment || isSpace first then skipBlank inComment rest
      else if first = '#' then skipBlank true rest
      else first :: rest

def blank : Text.Scan Unit := fun text => some ((), skipBlank false text)

def endsFlow (character : Char) : Bool :=
  [',', '[', ']', '\x7b', '\x7d'].contains character

def flowWord : List Char → List Char × List Char
  | [] => ([], [])
  | first :: rest =>
      let colon := first == ':' && (rest.isEmpty || rest.head?.any fun next =>
        isSpace next || next == '\n' || endsFlow next)
      let comment := isSpace first && rest.head? == some '#'
      if endsFlow first || colon || comment then ([], first :: rest)
      else
        let (word, left) := flowWord rest
        ((if first = '\n' then ' ' else first) :: word, left)

def flowText : Text.Scan Document := fun text =>
  match quoted? text with
  | some found => found.map fun (read, rest) => (.text (String.ofList read), rest)
  | none =>
      if beginsPlain text then
        let (word, rest) := flowWord text
        some (.plain (String.ofList (trimEnd word)), rest)
      else none

def flowItems (item : Text.Scan Document) : Nat → Text.Scan (List Document)
  | 0 => failure
  | fuel + 1 => do
      blank
      if ← Text.Scan.accept ']' then return []
      let first ← item
      blank
      if ← Text.Scan.accept ',' then return first :: (← flowItems item fuel)
      Text.Scan.expect ']'
      return [first]

def flowKey : Text.Scan String := do
  match ← flowText with
  | .text key | .plain key => return key
  | _ => failure

def flowPairs (item : Text.Scan Document) : Nat → Text.Scan (List (String × Document))
  | 0 => failure
  | fuel + 1 => do
      blank
      if ← Text.Scan.accept '\x7d' then return []
      let key ← flowKey
      blank
      let next ← Text.Scan.peek?
      let document ←
        if next = some ':' then do
          Text.Scan.expect ':'
          blank
          match ← Text.Scan.peek? with
          | some ',' | some '\x7d' => pure (.plain "")
          | _ => item
        else pure (.plain "")
      blank
      if ← Text.Scan.accept ',' then return (key, document) :: (← flowPairs item fuel)
      Text.Scan.expect '\x7d'
      return [(key, document)]

def flow (length : Nat) : Nat → Text.Scan Document
  | 0 => failure
  | depth + 1 => do
      if ← Text.Scan.accept '[' then return .list (← flowItems (flow length depth) length)
      if ← Text.Scan.accept '\x7b' then
        return .table (← flowPairs (flow length depth) length)
      flowText

/-! Values by indentation. -/

/-- The lines that go on with a value: those that stand far enough to the right. -/
def continuation (least : Nat) (lines : List Line) : List Line :=
  lines.takeWhile fun line => decide (least ≤ line.indent)

def bracketed (least : Nat) (text : List Char) (rest : List Line) :
    Option (Document × List Line) :=
  let following := continuation least rest
  let joined := text ++ following.flatMap fun line => '\n' :: line.text
  match flow (joined.length + 1) (joined.length + 1) joined with
  | none => none
  | some (document, left) =>
      if isIdle (left.takeWhile (· != '\n')) then
        let unread := left.filter (· == '\n')
        some (document, rest.drop (following.length - unread.length))
      else none

/-- A plain text, which may go on over several lines. -/
def plainLines (least : Nat) : List Char → List Line → Option (List Char × List Line)
  | text, [] =>
      if (splitColon (cutComment text)).isSome then none else some (trimEnd (cutComment text), [])
  | text, line :: rest =>
      if (splitColon (cutComment text)).isSome then none
      else if line.indent < least || hasComment text then
        some (trimEnd (cutComment text), line :: rest)
      else
        (plainLines least line.text rest).map fun (more, left) =>
          (trimEnd (cutComment text) ++ ' ' :: more, left)

/-- A value that begins on a line and goes on with lines that stand far enough to
the right. -/
def inline (least : Nat) (text : List Char) (rest : List Line) :
    Option (Document × List Line) :=
  match quoted? text with
  | some none => none
  | some (some (read, after)) =>
      if isIdle after then some (.text (String.ofList read), rest) else none
  | none =>
      match text with
      | '[' :: _ | '\x7b' :: _ => bracketed least text rest
      | _ =>
          if beginsPlain text then
            (plainLines least text rest).map fun (read, left) =>
              (.plain (String.ofList read), left)
          else none

mutual

/-- The value that begins with the first line, if it stands far enough to the
right; else there is nothing. -/
def block : Nat → Nat → List Line → Option (Document × List Line)
  | 0, _, _ => none
  | _ + 1, _, [] => some (.plain "", [])
  | fuel + 1, least, line :: rest =>
      if line.indent < least then some (.plain "", line :: rest)
      else if isItem line.text then
        (sequence fuel line.indent (line :: rest)).map fun (items, left) => (.list items, left)
      else
        match splitKey line.text with
        | some _ =>
            (mapping fuel line.indent (line :: rest)).map fun (pairs, left) =>
              (.table pairs, left)
        | none => inline least line.text rest

def sequence : Nat → Nat → List Line → Option (List Document × List Line)
  | 0, _, _ => none
  | _ + 1, _, [] => some ([], [])
  | fuel + 1, indent, line :: rest =>
      if line.indent < indent || (line.indent == indent && !isItem line.text) then
        some ([], line :: rest)
      else if indent < line.indent then none
      else
        let after := line.text.drop 1
        let content := trimStart after
        let place := indent + 1 + (after.length - content.length)
        let lines := if isIdle after then rest else { indent := place, text := content } :: rest
        match block fuel (indent + 1) lines with
        | none => none
        | some (item, left) =>
            (sequence fuel indent left).map fun (items, left) => (item :: items, left)

def mapping : Nat → Nat → List Line → Option (List (String × Document) × List Line)
  | 0, _, _ => none
  | _ + 1, _, [] => some ([], [])
  | fuel + 1, indent, line :: rest =>
      if line.indent < indent then some ([], line :: rest)
      else if indent < line.indent then none
      else
        match splitKey line.text with
        | none => none
        | some (key, after) =>
            let value :=
              if !isIdle after then inline (indent + 1) (trimStart after) rest
              else
                match rest with
                | next :: _ =>
                    if next.indent == indent && isItem next.text then
                      (sequence fuel indent rest).map fun (items, left) => (.list items, left)
                    else block fuel (indent + 1) rest
                | [] => some (.plain "", [])
            match value with
            | none => none
            | some (document, left) =>
                (mapping fuel indent left).map fun (pairs, left) =>
                  ((key, document) :: pairs, left)

end

def documentLines (text : String) : Option (List Line) :=
  let lines := ((splitLines text.toList).map lineOf).filter fun line => !isIdle line.text
  let isMark (mark : String) (line : Line) : Bool :=
    line.indent == 0 && line.text == mark.toList
  let lines := match lines with
    | first :: rest => if isMark "---" first then rest else first :: rest
    | [] => []
  let body := lines.takeWhile fun line => !isMark "..." line
  if body.any (isMark "---") || (lines.drop (body.length + 1)).length != 0 then none
  else if body.any fun line => line.text.head? == some '\t' then none
  else some body

def parse? (text : String) : Option Document := do
  let lines ← documentLines text
  match ← block (3 * text.length + 3) 0 lines with
  | (document, []) => some document
  | _ => none

end CqlDriver.Yaml

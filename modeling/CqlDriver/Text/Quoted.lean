/-
Text between double quotes, with the characters that would not show escaped.
-/

import CqlDriver.Text.Hex

namespace CqlDriver.Text.Quoted

/-- Characters that are written by their number: controls, marks that combine
with the character before them, invisible formatting and private use. -/
def isHidden (character : Char) : Bool :=
  let code := character.toNat
  code < 0x20 || (0x7F ≤ code && code < 0xA0) || code == 0xAD
    || (0x300 ≤ code && code < 0x370) || (0x200B ≤ code && code < 0x2010)
    || (0x2028 ≤ code && code < 0x202F) || (0x2060 ≤ code && code < 0x2070)
    || (0xE000 ≤ code && code < 0xF900) || code == 0xFEFF || 0xF0000 ≤ code

def escape (character : Char) : List Char :=
  match character with
  | '"' => ['\\', '"']
  | '\\' => ['\\', '\\']
  | '\n' => ['\\', 'n']
  | '\r' => ['\\', 'r']
  | '\t' => ['\\', 't']
  | '\x00' => ['\\', '0']
  | _ =>
      if isHidden character then
        ['\\', 'u', '{'] ++ (Hex.lower character.toNat).toList ++ ['}']
      else [character]

def quote (text : String) : String :=
  String.ofList ('"' :: text.toList.flatMap escape ++ ['"'])

example : quote "a\"\\\n" = "\"a\\\"\\\\\\n\"" := by decide

end CqlDriver.Text.Quoted

/-
UTF-8 as the encoding of text on the wire. Decoding either yields the text or
says where the longest valid beginning ends and how long the ill-formed part
behind it is.
-/

namespace CqlDriver.Text.Utf8

inductive Fault where
  /-- `length` bytes starting at `start` cannot begin any character. -/
  | illFormed (length start : Nat)
  /-- The bytes end inside the character that begins at `start`. -/
  | incomplete (start : Nat)
  deriving DecidableEq, Repr

def Fault.message : Fault → String
  | .illFormed length start =>
      s!"invalid utf-8 sequence of {length} bytes from index {start}"
  | .incomplete start => s!"incomplete utf-8 byte sequence from index {start}"

inductive Lead where
  | whole (width : Nat)
  | illFormed (length : Nat)
  | incomplete
  deriving DecidableEq, Repr

/-- The bytes that may follow a lead byte: how many there are, and the least and
the greatest value of the first of them. `none` for a byte that leads nothing. -/
def continuation (lead : UInt8) : Option (Nat × UInt8 × UInt8) :=
  if lead < 0x80 then some (0, 0x80, 0xBF)
  else if 0xC2 ≤ lead ∧ lead ≤ 0xDF then some (1, 0x80, 0xBF)
  else if lead = 0xE0 then some (2, 0xA0, 0xBF)
  else if lead = 0xED then some (2, 0x80, 0x9F)
  else if 0xE1 ≤ lead ∧ lead ≤ 0xEF then some (2, 0x80, 0xBF)
  else if lead = 0xF0 then some (3, 0x90, 0xBF)
  else if 0xF1 ≤ lead ∧ lead ≤ 0xF3 then some (3, 0x80, 0xBF)
  else if lead = 0xF4 then some (3, 0x80, 0x8F)
  else none

/-- Reads the `needed` bytes that still belong to a character of which `seen`
bytes were read. The first of them lies between `least` and `greatest`, the
others are plain continuation bytes. -/
def follow (seen : Nat) : Nat → UInt8 → UInt8 → List UInt8 → Lead
  | 0, _, _, _ => .whole seen
  | _ + 1, _, _, [] => .incomplete
  | needed + 1, least, greatest, next :: rest =>
      if least ≤ next ∧ next ≤ greatest then follow (seen + 1) needed 0x80 0xBF rest
      else .illFormed seen

def lead : List UInt8 → Lead
  | [] => .incomplete
  | first :: rest =>
      match continuation first with
      | none => .illFormed 1
      | some (needed, least, greatest) => follow 1 needed least greatest rest

/-- Walks over whole characters, at most `fuel` of them, to the first fault. -/
def locate : Nat → Nat → List UInt8 → Fault
  | 0, start, _ => .incomplete start
  | fuel + 1, start, bytes =>
      match lead bytes with
      | .whole width => locate fuel (start + width) (bytes.drop width)
      | .illFormed length => .illFormed length start
      | .incomplete => .incomplete start

def encode (text : String) : List UInt8 :=
  text.toUTF8.data.toList

def decode (bytes : List UInt8) : Except Fault String :=
  match String.fromUTF8? ⟨bytes.toArray⟩ with
  | some text => .ok text
  | none => .error (locate bytes.length 0 bytes)

theorem decode_encode (text : String) : decode (encode text) = .ok text := by
  have valid : (⟨(encode text).toArray⟩ : ByteArray) = text.toByteArray := rfl
  unfold decode
  rw [valid]
  simp [String.fromUTF8?, String.fromUTF8, text.isValidUTF8]

theorem encode_of_decode {bytes : List UInt8} {text : String}
    (decoded : decode bytes = .ok text) : encode text = bytes := by
  unfold decode at decoded
  split at decoded
  · rename_i found accepted
    cases decoded
    unfold String.fromUTF8? at accepted
    split at accepted
    · cases accepted
      rfl
    · cases accepted
  · cases decoded

end CqlDriver.Text.Utf8

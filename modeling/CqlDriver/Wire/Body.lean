/-
The notation of frame bodies: numbers, texts, lists, maps, byte strings and
addresses. A reader takes its value from the front of the bytes that are left and
keeps what it has taken also when it fails; a writer gives the bytes of a value.
Lengths and counts are written in a field of fixed width, of which only the low
part is kept.
-/

import CqlDriver.Error.Fault
import CqlDriver.Net.Address
import CqlDriver.Wire.Octets

namespace CqlDriver.Wire

abbrev Reader := EStateM BodyFault (List UInt8)

namespace Reader

/-- Reads a whole body by a reader, which may leave bytes behind. -/
def onBody {α : Type} (reader : Reader α) (body : List UInt8) : Except BodyFault α :=
  match reader.run body with
  | .ok value _ => .ok value
  | .error fault _ => .error fault

def ensure (what : String) (needed : Nat) : Reader Unit := do
  let left ← get
  if holds needed left then pure ()
  else throw (.truncated what needed left.length)

def take (count : Nat) : Reader (List UInt8) := do
  let left ← get
  set (left.drop count)
  pure (left.take count)

def exactly (what : String) (count : Nat) : Reader (List UInt8) := do
  ensure what count
  take count

def byte : Reader UInt8 := do
  return UInt8.ofNat (ofBigEndian (← exactly "byte" 1))

def short : Reader UInt16 := do
  return UInt16.ofNat (ofBigEndian (← exactly "short" 2))

def int : Reader Int32 := do
  return (UInt32.ofNat (ofBigEndian (← exactly "int" 4))).toInt32

/-- A text of so many bytes. The bytes are taken even if they are no text. -/
def text (length : Nat) : Reader String := do
  let bytes ← exactly "string" length
  match Text.Utf8.decode bytes with
  | .ok text => pure text
  | .error fault => throw (.invalidText fault)

def string : Reader String := do
  text (← short).toNat

def longString : Reader String := do
  let length ← int
  if length < 0 then throw (.negativeLength length)
  else text length.toInt.toNat

/-- So many values, in front of which others were read already, the latest
first. -/
def repeatedOnto {α : Type} (reader : Reader α) : Nat → List α → Reader (List α)
  | 0, seen => pure seen.reverse
  | count + 1, seen => do
      let value ← reader
      repeatedOnto reader count (value :: seen)

def repeated {α : Type} (reader : Reader α) (count : Nat) : Reader (List α) :=
  repeatedOnto reader count []

def counted {α : Type} (reader : Reader α) : Reader (List α) := do
  repeated reader (← short).toNat

def keyed {α : Type} (reader : Reader α) : Reader (String × α) := do
  let key ← string
  let value ← reader
  pure (key, value)

def stringList : Reader (List String) := counted string

def stringMap : Reader (List (String × String)) := counted (keyed string)

def stringMultimap : Reader (List (String × List String)) := counted (keyed stringList)

/-- A byte string behind its length as an int; a negative length means that
there is none. -/
def bytes : Reader (Option (List UInt8)) := do
  let length ← int
  if length < 0 then pure none
  else return some (← exactly "bytes" length.toInt.toNat)

def shortBytes : Reader (List UInt8) := do
  exactly "short bytes" (← short).toNat

def ipv4 : Reader IpAddress := do
  return .v4 (BitVec.ofNat 32 (ofBigEndian (← take 4)))

def ipv6 : Reader IpAddress := do
  return .v6 (BitVec.ofNat 128 (ofBigEndian (← take 16)))

def inet : Reader SocketAddress := do
  let size ← byte
  ensure "inet address" size.toNat
  let ip ←
    if size = 4 then ipv4
    else if size = 16 then ipv6
    else throw (.inetLength size.toNat)
  let port ← int
  if 0 ≤ port ∧ port < 65536 then
    return { ip, port := UInt16.ofNat port.toInt.toNat }
  else throw (.inetPort port)

end Reader

/-- The entries of a map by key. Of several entries with one key the last
counts. -/
def byKey {α : Type} (entries : List (String × α)) : List (String × α) :=
  let sorted := entries.mergeSort fun left right => !(right.1 < left.1)
  sorted.foldr
    (fun entry later =>
      match later with
      | next :: _ => if next.1 = entry.1 then later else entry :: later
      | [] => [entry])
    []

namespace Writer

def short (value : UInt16) : List UInt8 := uint16 value

def int (value : Int32) : List UInt8 := int32 value

def string (value : String) : List UInt8 :=
  let encoded := Text.Utf8.encode value
  bigEndian 2 encoded.length ++ encoded

def longString (value : String) : List UInt8 :=
  let encoded := Text.Utf8.encode value
  bigEndian 4 encoded.length ++ encoded

def stringList (values : List String) : List UInt8 :=
  bigEndian 2 values.length ++ values.flatMap string

def stringMap (entries : List (String × String)) : List UInt8 :=
  bigEndian 2 entries.length ++ entries.flatMap fun entry => string entry.1 ++ string entry.2

def bytes : Option (List UInt8) → List UInt8
  | some value => bigEndian 4 value.length ++ value
  | none => int (-1)

def shortBytes (value : List UInt8) : List UInt8 :=
  bigEndian 2 value.length ++ value

def inet (address : SocketAddress) : List UInt8 :=
  (match address.ip with
    | .v4 bits => 4 :: bigEndian 4 bits.toNat
    | .v6 bits => 16 :: bigEndian 16 bits.toNat)
    ++ bigEndian 4 address.port.toNat

end Writer

end CqlDriver.Wire

/-
The stream ids of a connection: which of them are reserved. The lowest free id is
always given out first. Ids are kept as the bits of words.
-/

namespace CqlDriver

/-- The reserved ids among those below a capacity. Bit `b` of word `w` stands for the
id `64 * w + b`. -/
structure StreamIdSet where
  words : List Nat
  capacity : Nat
  inUse : Nat
  deriving DecidableEq, Repr, Inhabited

namespace StreamIdSet

def wordSize : Nat := 64

def fullWord : Nat := (1 <<< wordSize) - 1

def new (capacity : Nat) : StreamIdSet :=
  { words := List.replicate ((capacity + wordSize - 1) / wordSize) 0, capacity, inUse := 0 }

def lowestClear (word : Nat) : Option Nat :=
  (List.range wordSize).find? fun bit => !word.testBit bit

/-- The lowest id that is not reserved in words from a place on. -/
def lowestFree (place : Nat) : List Nat → Option Nat
  | [] => none
  | word :: rest =>
      if word = fullWord then lowestFree (place + 1) rest
      else (lowestClear word).map fun bit => wordSize * place + bit

def setBit (words : List Nat) (id : Nat) : List Nat :=
  words.modify (id / wordSize) fun word => word ||| (1 <<< (id % wordSize))

def clearBit (words : List Nat) (id : Nat) : List Nat :=
  words.modify (id / wordSize) fun word => word ^^^ (1 <<< (id % wordSize))

def hasBit (words : List Nat) (id : Nat) : Bool :=
  (words[id / wordSize]?.getD 0).testBit (id % wordSize)

/-- Reserves the lowest free id, if there is one. An id that is not a number of
sixteen bits with a sign is reserved but cannot be given out. -/
def allocate (ids : StreamIdSet) : Option Int16 × StreamIdSet :=
  match lowestFree 0 ids.words with
  | none => (none, ids)
  | some id =>
      if ids.capacity ≤ id then (none, ids)
      else
        (if id < 0x8000 then some (Int16.ofNat id) else none,
          { ids with words := setBit ids.words id, inUse := ids.inUse + 1 })

def contains (ids : StreamIdSet) (id : Int16) : Bool :=
  0 ≤ id && id.toInt.toNat < ids.capacity && hasBit ids.words id.toInt.toNat

def release (ids : StreamIdSet) (id : Int16) : Bool × StreamIdSet :=
  if ids.contains id then
    (true, { ids with words := clearBit ids.words id.toInt.toNat, inUse := ids.inUse - 1 })
  else (false, ids)

def available (ids : StreamIdSet) : Nat := ids.capacity - ids.inUse

end StreamIdSet

end CqlDriver

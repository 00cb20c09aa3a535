/-
Places on the ring of partitions, and the hash that puts a key on the ring: the
first half of the 128-bit Murmur hash of the third version, with the bytes of an
incomplete last block taken as signed numbers.
-/

namespace CqlDriver

structure Token where
  value : Int64
  deriving DecidableEq, Repr, Inhabited

namespace Token

def render (token : Token) : String := toString token.value.toInt

def before (left right : Token) : Bool := left.value < right.value

end Token

namespace Ring

def rotateLeft (word : UInt64) (places : UInt64) : UInt64 :=
  (word <<< places) ||| (word >>> (64 - places))

def mixFirst (word : UInt64) : UInt64 :=
  rotateLeft (word * 0x87c37b91114253d5) 31 * 0x4cf5ad432745937f

def mixSecond (word : UInt64) : UInt64 :=
  rotateLeft (word * 0x4cf5ad432745937f) 33 * 0x87c37b91114253d5

def avalanche (word : UInt64) : UInt64 :=
  let word := (word ^^^ (word >>> 33)) * 0xff51afd7ed558ccd
  let word := (word ^^^ (word >>> 33)) * 0xc4ceb9fe1a85ec53
  word ^^^ (word >>> 33)

structure HashState where
  first : UInt64
  second : UInt64
  deriving DecidableEq, Repr

/-- The word that eight bytes write, the lowest byte first. -/
def littleEndian (bytes : List UInt8) : UInt64 :=
  bytes.foldr (fun byte word => (word <<< 8) ||| byte.toUInt64) 0

/-- The word that at most eight signed bytes make, each moved to its place and
combined by exclusive or. -/
def signedWord (bytes : List UInt8) : UInt64 :=
  bytes.foldr (fun byte word => (word <<< 8) ^^^ byte.toInt8.toInt64.toUInt64) 0

def HashState.absorb (state : HashState) (low high : UInt64) : HashState :=
  let first := (rotateLeft (state.first ^^^ mixFirst low) 27 + state.second) * 5 + 0x52dce729
  let second := (rotateLeft (state.second ^^^ mixSecond high) 31 + first) * 5 + 0x38495ab5
  { first, second }

def HashState.absorbBlocks : Nat → HashState → List UInt8 → HashState × List UInt8
  | 0, state, bytes => (state, bytes)
  | blocks + 1, state, bytes =>
      absorbBlocks blocks
        (state.absorb (littleEndian (bytes.take 8)) (littleEndian ((bytes.drop 8).take 8)))
        (bytes.drop 16)

def HashState.absorbTail (state : HashState) (tail : List UInt8) : HashState :=
  { first :=
      if tail.isEmpty then state.first
      else state.first ^^^ mixFirst (signedWord (tail.take 8))
    second :=
      if tail.length ≤ 8 then state.second
      else state.second ^^^ mixSecond (signedWord (tail.drop 8)) }

def HashState.finish (state : HashState) (length : UInt64) : UInt64 :=
  let first := (state.first ^^^ length) + (state.second ^^^ length)
  let second := (state.second ^^^ length) + first
  avalanche first + avalanche second

def hash (key : List UInt8) : UInt64 :=
  let (state, tail) := HashState.absorbBlocks (key.length / 16) ⟨0, 0⟩ key
  (state.absorbTail tail).finish (UInt64.ofNat key.length)

end Ring

/-- The token of a partition key. The least number is no token; the greatest
stands for it. -/
def Token.ofKey (key : List UInt8) : Token :=
  let value := (Ring.hash key).toInt64
  if value = Int64.minValue then ⟨Int64.maxValue⟩ else ⟨value⟩

end CqlDriver

/-
Internet addresses with a port: their order and their text.
-/

import CqlDriver.Text.Hex

namespace CqlDriver

inductive IpAddress where
  | v4 (bits : BitVec 32)
  | v6 (bits : BitVec 128)
  deriving DecidableEq, Repr, Inhabited

/-- An address with a port. The scope tells the links of an IPv6 host apart and
is 0 for every other address. -/
structure SocketAddress where
  ip : IpAddress
  port : UInt16
  scope : UInt32 := 0
  deriving DecidableEq, Repr, Inhabited

namespace IpAddress

def ofParts (first second third fourth : Nat) : IpAddress :=
  .v4 (BitVec.ofNat 32 (((first * 256 + second) * 256 + third) * 256 + fourth))

def ofGroups (groups : List Nat) : IpAddress :=
  .v6 (BitVec.ofNat 128 (groups.foldl (fun total group => total * 65536 + group) 0))

def parts (bits : BitVec 32) : List Nat :=
  let value := bits.toNat
  [value / 16777216, value / 65536 % 256, value / 256 % 256, value % 256]

def groups (bits : BitVec 128) : List Nat :=
  (List.range 8).map fun index => (bits.toNat >>> (16 * (7 - index))) % 65536

def renderParts (bits : BitVec 32) : String :=
  ".".intercalate ((parts bits).map toString)

def leadingZeros (values : List Nat) : Nat :=
  (values.takeWhile (· == 0)).length

/-- The first of the longest runs of zeros: where it starts and its length. -/
def longestZeroRun (values : List Nat) : Nat × Nat :=
  (List.range values.length).foldl
    (fun best start =>
      let length := leadingZeros (values.drop start)
      if best.2 < length then (start, length) else best)
    (0, 0)

def renderGroups (values : List Nat) : String :=
  ":".intercalate (values.map Text.Hex.lower)

/-- An address as text. In an IPv6 address the first of the longest runs of at
least two zero groups is left out, and an address that stands for an IPv4
address ends like one. -/
def render : IpAddress → String
  | .v4 bits => renderParts bits
  | .v6 bits =>
      if bits.toNat >>> 32 = 0xFFFF then
        "::ffff:" ++ renderParts (bits.truncate 32)
      else
        let values := groups bits
        let (start, length) := longestZeroRun values
        if 1 < length then
          renderGroups (values.take start) ++ "::" ++ renderGroups (values.drop (start + length))
        else renderGroups values

/-- IPv4 before IPv6, then by number. -/
def orderKey : IpAddress → Nat × Nat
  | .v4 bits => (0, bits.toNat)
  | .v6 bits => (1, bits.toNat)

end IpAddress

namespace SocketAddress

def render (address : SocketAddress) : String :=
  match address.ip with
  | .v4 bits => s!"{IpAddress.renderParts bits}:{address.port.toNat}"
  | .v6 _ =>
      if address.scope = 0 then s!"[{address.ip.render}]:{address.port.toNat}"
      else s!"[{address.ip.render}%{address.scope.toNat}]:{address.port.toNat}"

instance : ToString SocketAddress := ⟨render⟩

def orderKey (address : SocketAddress) : List Nat :=
  [address.ip.orderKey.1, address.ip.orderKey.2, address.port.toNat, address.scope.toNat]

def before (left right : SocketAddress) : Bool :=
  left.orderKey < right.orderKey

end SocketAddress

end CqlDriver

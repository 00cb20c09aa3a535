/-
Numbers as big-endian byte strings of a fixed width, and the test whether a byte
string is long enough.
-/

namespace CqlDriver.Wire

/-- The lowest `width` bytes of a number, the highest of them first. -/
def bigEndian : Nat → Nat → List UInt8
  | 0, _ => []
  | width + 1, value => bigEndian width (value / 256) ++ [UInt8.ofNat value]

def ofBigEndian (bytes : List UInt8) : Nat :=
  bytes.foldl (fun total byte => total * 256 + byte.toNat) 0

def capacity : Nat → Nat
  | 0 => 1
  | width + 1 => 256 * capacity width

theorem capacity_pos (width : Nat) : 0 < capacity width := by
  induction width with
  | zero => exact Nat.one_pos
  | succ width ih => exact Nat.mul_pos (by decide) ih

@[simp] theorem length_bigEndian (width value : Nat) :
    (bigEndian width value).length = width := by
  induction width generalizing value with
  | zero => rfl
  | succ width ih => simp [bigEndian, ih]

theorem ofBigEndian_concat (bytes : List UInt8) (byte : UInt8) :
    ofBigEndian (bytes ++ [byte]) = ofBigEndian bytes * 256 + byte.toNat := by
  simp [ofBigEndian]

theorem ofBigEndian_bigEndian (width value : Nat) :
    ofBigEndian (bigEndian width value) = value % capacity width := by
  induction width generalizing value with
  | zero => simp [bigEndian, ofBigEndian, capacity, Nat.mod_one]
  | succ width ih =>
      have low : (UInt8.ofNat value).toNat = value % 256 := by simp
      rw [bigEndian, ofBigEndian_concat, ih, low, capacity, Nat.mod_mul, Nat.mul_comm]
      omega

theorem bigEndian_ofBigEndian {width : Nat} {bytes : List UInt8} (long : bytes.length = width) :
    bigEndian width (ofBigEndian bytes) = bytes := by
  induction width generalizing bytes with
  | zero => rw [List.length_eq_zero_iff.mp long, bigEndian]
  | succ width ih =>
      have nonempty : bytes ≠ [] := by
        intro none
        rw [none] at long
        cases long
      have shorter : bytes.dropLast.length = width := by
        rw [List.length_dropLast, long, Nat.add_sub_cancel]
      rw [← List.dropLast_concat_getLast nonempty, ofBigEndian_concat, bigEndian]
      generalize bytes.getLast nonempty = last
      have bound : last.toNat < 256 := last.toNat_lt
      have high : (ofBigEndian bytes.dropLast * 256 + last.toNat) / 256 =
          ofBigEndian bytes.dropLast := by omega
      have low : UInt8.ofNat (ofBigEndian bytes.dropLast * 256 + last.toNat) = last := by
        apply UInt8.toNat_inj.mp
        rw [UInt8.toNat_ofNat']
        omega
      rw [high, low, ih shorter]

theorem ofBigEndian_lt (bytes : List UInt8) : ofBigEndian bytes < capacity bytes.length := by
  have fits : 0 < capacity bytes.length := capacity_pos bytes.length
  have same := ofBigEndian_bigEndian bytes.length (ofBigEndian bytes)
  rw [bigEndian_ofBigEndian rfl] at same
  rw [same]
  exact Nat.mod_lt _ fits

def holds : Nat → List UInt8 → Bool
  | 0, _ => true
  | _ + 1, [] => false
  | needed + 1, _ :: rest => holds needed rest

theorem holds_iff (needed : Nat) (bytes : List UInt8) :
    holds needed bytes = true ↔ needed ≤ bytes.length := by
  induction needed generalizing bytes with
  | zero => simp [holds]
  | succ needed ih =>
      cases bytes with
      | nil => simp [holds]
      | cons first rest => simp [holds, ih]

def uint16 (value : UInt16) : List UInt8 := bigEndian 2 value.toNat

def int16 (value : Int16) : List UInt8 := uint16 value.toUInt16

def uint32 (value : UInt32) : List UInt8 := bigEndian 4 value.toNat

def int32 (value : Int32) : List UInt8 := uint32 value.toUInt32

end CqlDriver.Wire

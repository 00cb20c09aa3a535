/-
The hash of a partition key, as the servers compute it: place by place in the key, on words of 64
bits. The hash that makes the tokens of this library takes the key apart as a list; both give the
same token for every key. Where the bytes behind the last whole block are no negative numbers, the
token is that of the common hash, which takes all bytes without a sign.
-/

import CqlDriver.Ring.Token
import Mathlib.Algebra.BigOperators.Ring.Finset

namespace CqlDriver.Ring

namespace Murmur

def scrambleFirst (word : BitVec 64) : BitVec 64 :=
  (word * 0x87c37b91114253d5#64).rotateLeft 31 * 0x4cf5ad432745937f#64

def scrambleSecond (word : BitVec 64) : BitVec 64 :=
  (word * 0x4cf5ad432745937f#64).rotateLeft 33 * 0x87c37b91114253d5#64

def spread (word : BitVec 64) : BitVec 64 :=
  let word := (word ^^^ word >>> 33) * 0xff51afd7ed558ccd#64
  let word := (word ^^^ word >>> 33) * 0xc4ceb9fe1a85ec53#64
  word ^^^ word >>> 33

@[ext]
structure Words where
  first : BitVec 64
  second : BitVec 64
  deriving DecidableEq, Repr

def byteAt (key : List UInt8) (place : Nat) : UInt8 := key.getD place 0

def wordAt (key : List UInt8) (place : Nat) : BitVec 64 :=
  BitVec.ofNat 64 (∑ index ∈ Finset.range 8, (byteAt key (place + index)).toNat * 256 ^ index)

def mixBlock (key : List UInt8) (words : Words) (block : Nat) : Words :=
  let first := words.first ^^^ scrambleFirst (wordAt key (16 * block))
  let first := (first.rotateLeft 27 + words.second) * 5 + 0x52dce729
  let second := words.second ^^^ scrambleSecond (wordAt key (16 * block + 8))
  let second := (second.rotateLeft 31 + first) * 5 + 0x38495ab5
  { first, second }

/-- The cases of a switch over the number of bytes behind the blocks, each falling through to the
one below it. A case combines one byte with a pending word; the last case of a word mixes it. -/
def fallThrough (widen : UInt8 → BitVec 64) (key : List UInt8) (start : Nat) :
    Nat → Words → Words → Words
  | 0, _, words => words
  | index + 1, pending, words =>
      let byte := widen (byteAt key (start + index))
      if index < 8 then
        let pending := { pending with first := pending.first ^^^ byte <<< (8 * index) }
        fallThrough widen key start index pending
          (if index = 0 then
            { words with first := words.first ^^^ scrambleFirst pending.first }
          else words)
      else
        let pending := { pending with second := pending.second ^^^ byte <<< (8 * (index - 8)) }
        fallThrough widen key start index pending
          (if index = 8 then
            { words with second := words.second ^^^ scrambleSecond pending.second }
          else words)

def finalize (length : Nat) (words : Words) : Words :=
  let first := words.first ^^^ BitVec.ofNat 64 length
  let second := words.second ^^^ BitVec.ofNat 64 length
  let first := first + second
  let second := second + first
  let first := spread first
  let second := spread second
  let first := first + second
  { first, second := second + first }

/-- The hash of 128 bits. How a byte behind the blocks becomes a word is left open. -/
def digest (widen : UInt8 → BitVec 64) (seed : BitVec 64) (key : List UInt8) : Words :=
  let blocks := key.length / 16
  let words := (List.range blocks).foldl (mixBlock key) { first := seed, second := seed }
  finalize key.length
    (fallThrough widen key (16 * blocks) (key.length % 16) { first := 0#64, second := 0#64 } words)

/-- A byte as the servers take it, with its sign. -/
def signed (byte : UInt8) : BitVec 64 := byte.toBitVec.signExtend 64

def unsigned (byte : UInt8) : BitVec 64 := byte.toBitVec.setWidth 64

/-- The number of a token. The least number is no token; the greatest stands for it. -/
def position (word : BitVec 64) : Int :=
  if word = BitVec.intMin 64 then (BitVec.intMax 64).toInt else word.toInt

theorem toBitVec_rotateLeft (word places : UInt64) (positive : 0 < places.toNat)
    (below : places.toNat < 64) :
    (rotateLeft word places).toBitVec = word.toBitVec.rotateLeft places.toNat := by
  simp only [rotateLeft, UInt64.toBitVec_or, UInt64.toBitVec_shiftLeft, UInt64.toBitVec_shiftRight,
    UInt64.toBitVec_sub, UInt64.toBitVec_ofNat, BitVec.ofNat_eq_ofNat, BitVec.shiftLeft_eq',
    BitVec.ushiftRight_eq', BitVec.toNat_umod, BitVec.toNat_sub, BitVec.toNat_ofNat,
    UInt64.toNat_toBitVec, BitVec.rotateLeft_def, Nat.reducePow, Nat.reduceMod,
    Nat.mod_eq_of_lt below]
  congr 2
  omega

theorem toBitVec_mixFirst (word : UInt64) :
    (mixFirst word).toBitVec = scrambleFirst word.toBitVec := by
  unfold mixFirst scrambleFirst
  rw [UInt64.toBitVec_mul, toBitVec_rotateLeft _ 31 (by decide) (by decide), UInt64.toBitVec_mul]
  rfl

theorem toBitVec_mixSecond (word : UInt64) :
    (mixSecond word).toBitVec = scrambleSecond word.toBitVec := by
  unfold mixSecond scrambleSecond
  rw [UInt64.toBitVec_mul, toBitVec_rotateLeft _ 33 (by decide) (by decide), UInt64.toBitVec_mul]
  rfl

def ofState (state : HashState) : Words := ⟨state.first.toBitVec, state.second.toBitVec⟩

variable {key : List UInt8} {widen other : UInt8 → BitVec 64}

def slice (key : List UInt8) (place count : Nat) : List UInt8 := (key.drop place).take count

theorem length_slice {place count : Nat} (there : place + count ≤ key.length) :
    (slice key place count).length = count := by
  unfold slice
  rw [List.length_take, List.length_drop]
  omega

theorem slice_zero (key : List UInt8) (place : Nat) : slice key place 0 = [] := List.take_zero

theorem byteAt_slice {place count index : Nat} (within : index < count) :
    byteAt (slice key place count) index = byteAt key (place + index) := by
  unfold byteAt slice
  rw [List.getD_eq_getElem?_getD, List.getD_eq_getElem?_getD, List.getElem?_take_of_lt within,
    List.getElem?_drop]

theorem slice_succ {place count : Nat} (there : place + (count + 1) ≤ key.length) :
    slice key place (count + 1) = slice key place count ++ [byteAt key (place + count)] := by
  have within : place + count < key.length := by omega
  unfold slice byteAt
  rw [List.take_add_one, List.getElem?_drop, List.getD_eq_getElem?_getD,
    List.getElem?_eq_getElem within]
  rfl

def valueOf (bytes : List UInt8) : Nat :=
  ∑ index ∈ Finset.range bytes.length, (byteAt bytes index).toNat * 256 ^ index

theorem valueOf_cons (byte : UInt8) (bytes : List UInt8) :
    valueOf (byte :: bytes) = 256 * valueOf bytes + byte.toNat := by
  unfold valueOf
  rw [List.length_cons, Finset.sum_range_succ', Finset.mul_sum]
  congr 1
  · refine Finset.sum_congr rfl fun index _ => ?_
    change (byteAt bytes index).toNat * 256 ^ (index + 1) = _
    rw [pow_succ]
    ac_rfl
  · change byte.toNat * 256 ^ 0 = byte.toNat
    rw [pow_zero, Nat.mul_one]

theorem valueOf_lt (bytes : List UInt8) : valueOf bytes < 256 ^ bytes.length := by
  induction bytes with
  | nil => decide
  | cons byte bytes ih =>
      have small := byte.toNat_lt
      rw [valueOf_cons, List.length_cons, pow_succ]
      omega

theorem toNat_littleEndian {bytes : List UInt8} (few : bytes.length ≤ 8) :
    (littleEndian bytes).toNat = valueOf bytes := by
  induction bytes with
  | nil => rfl
  | cons byte bytes ih =>
      have word := ih (Nat.le_of_succ_le few)
      have bound : valueOf bytes * 2 ^ 8 < 2 ^ 64 := by
        have fits : 256 ^ bytes.length ≤ 256 ^ 7 :=
          Nat.pow_le_pow_right (by decide) (Nat.le_of_succ_le_succ few)
        have below := valueOf_lt bytes
        omega
      change ((littleEndian bytes <<< 8) ||| byte.toUInt64).toNat = _
      rw [UInt64.toNat_or, UInt64.toNat_shiftLeft, word, valueOf_cons]
      change (valueOf bytes <<< 8 % 2 ^ 64) ||| byte.toNat = _
      rw [Nat.shiftLeft_eq, Nat.mod_eq_of_lt bound, ← Nat.shiftLeft_eq,
        ← Nat.shiftLeft_add_eq_or_of_lt byte.toNat_lt, Nat.shiftLeft_eq]
      omega

theorem toBitVec_littleEndian {place : Nat} (there : place + 8 ≤ key.length) :
    (littleEndian (slice key place 8)).toBitVec = wordAt key place := by
  have eight : (slice key place 8).length = 8 := length_slice there
  have value : valueOf (slice key place 8) =
      ∑ index ∈ Finset.range 8, (byteAt key (place + index)).toNat * 256 ^ index := by
    unfold valueOf
    rw [eight]
    refine Finset.sum_congr rfl fun index within => ?_
    rw [byteAt_slice (Finset.mem_range.mp within)]
  apply BitVec.eq_of_toNat_eq
  unfold wordAt
  rw [← value, UInt64.toNat_toBitVec, toNat_littleEndian (Nat.le_of_eq eight), BitVec.toNat_ofNat]
  refine (Nat.mod_eq_of_lt ?_).symm
  have below := valueOf_lt (slice key place 8)
  rw [eight] at below
  exact below

theorem ofState_absorb (state : HashState) {block : Nat} (there : 16 * block + 16 ≤ key.length) :
    ofState (state.absorb (littleEndian (slice key (16 * block) 8))
        (littleEndian (slice key (16 * block + 8) 8))) =
      mixBlock key (ofState state) block := by
  unfold HashState.absorb mixBlock ofState
  dsimp only
  rw [← toBitVec_littleEndian (by omega), ← toBitVec_littleEndian (by omega),
    ← toBitVec_mixFirst, ← toBitVec_mixSecond]
  simp only [UInt64.toBitVec_add, UInt64.toBitVec_mul, UInt64.toBitVec_xor,
    toBitVec_rotateLeft _ 27 (by decide) (by decide),
    toBitVec_rotateLeft _ 31 (by decide) (by decide)]
  rfl

/-- The induction is on the blocks that are left; those before are dropped from the key. -/
theorem absorbBlocks_eq (blocks done : Nat) (state : HashState)
    (there : 16 * (done + blocks) ≤ key.length) :
    (HashState.absorbBlocks blocks state (key.drop (16 * done))).2 =
        key.drop (16 * (done + blocks)) ∧
      ofState (HashState.absorbBlocks blocks state (key.drop (16 * done))).1 =
        (List.range' done blocks).foldl (mixBlock key) (ofState state) := by
  induction blocks generalizing done state with
  | zero => exact ⟨rfl, rfl⟩
  | succ blocks ih =>
      have low : (key.drop (16 * done)).take 8 = slice key (16 * done) 8 := rfl
      have high : ((key.drop (16 * done)).drop 8).take 8 = slice key (16 * done + 8) 8 := by
        rw [List.drop_drop]
        rfl
      have behind : (key.drop (16 * done)).drop 16 = key.drop (16 * (done + 1)) := by
        rw [List.drop_drop]
        rfl
      have rest := ih (done + 1)
        (state.absorb (littleEndian (slice key (16 * done) 8))
          (littleEndian (slice key (16 * done + 8) 8))) (by omega)
      rw [ofState_absorb state (by omega)] at rest
      rw [HashState.absorbBlocks, low, high, behind, List.range'_succ, List.foldl_cons]
      rw [show done + (blocks + 1) = done + 1 + blocks by omega]
      exact rest

/-- The word of bytes, each combined by exclusive or with what stands above it. -/
def pendingWord (widen : UInt8 → BitVec 64) (bytes : List UInt8) : BitVec 64 :=
  bytes.foldr (fun byte word => word <<< 8 ^^^ widen byte) 0

theorem toBitVec_signedWord (bytes : List UInt8) :
    (signedWord bytes).toBitVec = pendingWord signed bytes := by
  induction bytes with
  | nil => rfl
  | cons byte bytes ih =>
      change ((signedWord bytes <<< 8) ^^^ byte.toInt8.toInt64.toUInt64).toBitVec = _
      rw [UInt64.toBitVec_xor, UInt64.toBitVec_shiftLeft, ih]
      rfl

theorem xor_pendingWord_nil (word : BitVec 64) : word ^^^ pendingWord widen [] = word :=
  BitVec.xor_zero

theorem pendingWord_concat (bytes : List UInt8) (byte : UInt8) :
    pendingWord widen (bytes ++ [byte]) =
      pendingWord widen bytes ^^^ widen byte <<< (8 * bytes.length) := by
  induction bytes with
  | nil =>
      change 0#64 <<< 8 ^^^ widen byte = 0#64 ^^^ widen byte <<< 0
      rw [BitVec.zero_shiftLeft, BitVec.shiftLeft_zero]
  | cons lowest bytes ih =>
      change pendingWord widen (bytes ++ [byte]) <<< 8 ^^^ widen lowest =
        (pendingWord widen bytes <<< 8 ^^^ widen lowest) ^^^ _
      rw [ih, BitVec.shiftLeft_xor_distrib, ← BitVec.shiftLeft_add, List.length_cons,
        Nat.mul_succ]
      ac_rfl

variable {start index extra : Nat} {pending words : Words}

/-- The cases of the first word combine the bytes below it and mix it once, if there are any. -/
theorem fallThrough_first (few : index ≤ 8) (there : start + index ≤ key.length) :
    fallThrough widen key start index pending words =
      { words with
        first :=
          if index = 0 then words.first
          else words.first ^^^
            scrambleFirst (pending.first ^^^ pendingWord widen (slice key start index)) } := by
  induction index generalizing pending words with
  | zero => rfl
  | succ index ih =>
      have below : index < 8 := few
      have combined : pending.first ^^^ pendingWord widen (slice key start (index + 1)) =
          (pending.first ^^^ widen (byteAt key (start + index)) <<< (8 * index)) ^^^
            pendingWord widen (slice key start index) := by
        rw [slice_succ there, pendingWord_concat, length_slice (by omega)]
        ac_rfl
      rw [fallThrough, if_neg (Nat.succ_ne_zero index), combined]
      dsimp only
      rw [if_pos below, ih (Nat.le_of_lt below) (by omega)]
      by_cases last : index = 0
      · subst last
        rw [if_pos rfl, if_pos rfl, slice_zero, xor_pendingWord_nil]
      · rw [if_neg last, if_neg last]

theorem fallThrough_second (few : extra ≤ 8) (there : start + (8 + extra) ≤ key.length) :
    fallThrough widen key start (8 + extra) pending words =
      fallThrough widen key start 8
        { pending with
          second := pending.second ^^^ pendingWord widen (slice key (start + 8) extra) }
        { words with
          second :=
            if extra = 0 then words.second
            else words.second ^^^
              scrambleSecond (pending.second ^^^
                pendingWord widen (slice key (start + 8) extra)) } := by
  induction extra generalizing pending words with
  | zero =>
      rw [slice_zero, xor_pendingWord_nil, if_pos rfl]
  | succ extra ih =>
      have above : ¬8 + extra < 8 := Nat.not_lt_of_le (Nat.le_add_right 8 extra)
      have combined : pending.second ^^^ pendingWord widen (slice key (start + 8) (extra + 1)) =
          (pending.second ^^^ widen (byteAt key (start + (8 + extra))) <<< (8 * extra)) ^^^
            pendingWord widen (slice key (start + 8) extra) := by
        rw [slice_succ (by omega), pendingWord_concat, length_slice (by omega), Nat.add_assoc]
        ac_rfl
      rw [← Nat.add_assoc, fallThrough, if_neg (Nat.succ_ne_zero extra), combined]
      dsimp only
      rw [if_neg above, Nat.add_sub_cancel_left, ih (by omega) (by omega)]
      by_cases last : extra = 0
      · subst last
        rw [if_pos rfl, if_pos rfl, slice_zero, xor_pendingWord_nil]
      · rw [if_neg last, if_neg (show ¬8 + extra = 8 by omega)]

theorem toBitVec_combine (word : UInt64) (bytes : List UInt8) :
    (word ^^^ mixFirst (signedWord bytes)).toBitVec =
        word.toBitVec ^^^ scrambleFirst (0#64 ^^^ pendingWord signed bytes) ∧
      (word ^^^ mixSecond (signedWord bytes)).toBitVec =
        word.toBitVec ^^^ scrambleSecond (0#64 ^^^ pendingWord signed bytes) := by
  rw [UInt64.toBitVec_xor, UInt64.toBitVec_xor, toBitVec_mixFirst, toBitVec_mixSecond,
    toBitVec_signedWord, BitVec.zero_xor]
  exact ⟨rfl, rfl⟩

theorem slice_of_end (whole : start + index = key.length) :
    slice key start index = key.drop start := by
  refine List.take_of_length_le ?_
  rw [List.length_drop]
  omega

theorem ofState_absorbTail (state : HashState) (few : index < 16)
    (whole : start + index = key.length) :
    ofState (state.absorbTail (key.drop start)) =
      fallThrough signed key start index { first := 0#64, second := 0#64 } (ofState state) := by
  have long : (key.drop start).length = index := by
    rw [List.length_drop]
    omega
  have empty : (key.drop start).isEmpty = true ↔ index = 0 := by
    rw [List.isEmpty_iff_length_eq_zero, long]
  unfold HashState.absorbTail
  rw [long]
  by_cases short : index ≤ 8
  · have low : (key.drop start).take 8 = slice key start index := by
      rw [slice_of_end whole]
      exact List.take_of_length_le (by omega)
    rw [fallThrough_first short (Nat.le_of_eq whole), if_pos short, low]
    unfold ofState
    dsimp only
    rw [← (toBitVec_combine state.first (slice key start index)).1]
    by_cases nothing : index = 0
    · rw [if_pos (empty.mpr nothing), if_pos nothing]
    · rw [if_neg (mt empty.mp nothing), if_neg nothing]
  · obtain ⟨extra, rfl⟩ := Nat.exists_eq_add_of_le (Nat.le_of_not_le short)
    have high : (key.drop start).drop 8 = slice key (start + 8) extra := by
      rw [List.drop_drop, slice_of_end (by omega)]
    rw [fallThrough_second (by omega) (Nat.le_of_eq whole), fallThrough_first (by omega) (by omega),
      if_neg short, if_neg (mt empty.mp (by omega)), high]
    unfold ofState
    dsimp only
    rw [(toBitVec_combine state.first _).1, (toBitVec_combine state.second _).2,
      if_neg (show ¬(8 : Nat) = 0 by decide), if_neg (show ¬extra = 0 by omega)]
    rfl

theorem finalize_ofState (state : HashState) (length : Nat) :
    (state.finish (UInt64.ofNat length)).toBitVec = (finalize length (ofState state)).first :=
  rfl

theorem toBitVec_hash (key : List UInt8) : (hash key).toBitVec = (digest signed 0 key).first := by
  have blocks : 16 * (0 + key.length / 16) ≤ key.length := by omega
  obtain ⟨behind, absorbed⟩ := absorbBlocks_eq (key.length / 16) 0 ⟨0, 0⟩ blocks
  rw [Nat.zero_add] at behind
  rw [← List.range_eq_range'] at absorbed
  change ofState (HashState.absorbBlocks (key.length / 16) ⟨0, 0⟩ key).1 = _ at absorbed
  change (HashState.absorbBlocks (key.length / 16) ⟨0, 0⟩ key).2 = _ at behind
  unfold hash digest
  dsimp only
  rw [finalize_ofState, behind, ofState_absorbTail _ (Nat.mod_lt _ (by decide))
    (Nat.div_add_mod key.length 16), absorbed]
  rfl

theorem fallThrough_congr (same : ∀ place < index, widen (byteAt key (start + place)) =
    other (byteAt key (start + place))) :
    fallThrough widen key start index pending words =
      fallThrough other key start index pending words := by
  induction index generalizing pending words with
  | zero => rfl
  | succ index ih =>
      have below : ∀ place < index, widen (byteAt key (start + place)) =
          other (byteAt key (start + place)) :=
        fun place before => same place (Nat.lt_succ_of_lt before)
      rw [fallThrough, fallThrough, same index (Nat.lt_succ_self index)]
      dsimp only
      rw [ih below, ih below]

theorem byteAt_mem_drop (within : start + index < key.length) :
    byteAt key (start + index) ∈ key.drop start := by
  have behind : index < (key.drop start).length := by
    rw [List.length_drop]
    omega
  have found := List.getElem_mem behind
  rw [List.getElem_drop] at found
  unfold byteAt
  rw [List.getD_eq_getElem?_getD, List.getElem?_eq_getElem within]
  exact found

theorem signed_eq_unsigned {byte : UInt8} (small : byte < 0x80) : signed byte = unsigned byte := by
  refine BitVec.signExtend_eq_setWidth_of_msb_false ?_
  rw [BitVec.msb_eq_decide, decide_eq_false_iff_not]
  exact Nat.not_le_of_lt small

/-- Only the bytes behind the last whole block have a sign. -/
theorem digest_signed_eq_unsigned (seed : BitVec 64)
    (small : ∀ byte ∈ key.drop (16 * (key.length / 16)), byte < 0x80) :
    digest signed seed key = digest unsigned seed key := by
  unfold digest
  dsimp only
  rw [fallThrough_congr fun index below => ?_]
  refine signed_eq_unsigned (small _ (byteAt_mem_drop ?_))
  have parts := Nat.div_add_mod key.length 16
  omega

theorem toInt_position (word : UInt64) :
    (if word.toInt64 = Int64.minValue then Int64.maxValue else word.toInt64).toInt =
      position word.toBitVec := by
  have least : word.toInt64 = Int64.minValue ↔ word.toBitVec = BitVec.intMin 64 := by
    rw [← Int64.toBitVec_inj, Int64.toBitVec_minValue]
    rfl
  unfold position
  by_cases is : word.toInt64 = Int64.minValue
  · rw [if_pos is, if_pos (least.mp is), Int64.toInt, Int64.toBitVec_maxValue]
  · rw [if_neg is, if_neg (mt least.mpr is)]
    rfl

theorem ofKey_eq (key : List UInt8) :
    Token.ofKey key =
      ⟨if (hash key).toInt64 = Int64.minValue then Int64.maxValue else (hash key).toInt64⟩ :=
  (apply_ite Token.mk _ _ _).symm

/-- The token of a key is the one that the servers give it: that of the hash taken place by place,
with a sign on the bytes behind the last whole block. Where none of these is negative it is that of
the common hash. -/
theorem ofKey_as_servers (key : List UInt8) :
    (Token.ofKey key).value.toInt = position (digest signed 0 key).first ∧
    ((∀ byte ∈ key.drop (16 * (key.length / 16)), byte < 0x80) →
      (Token.ofKey key).value.toInt = position (digest unsigned 0 key).first) := by
  have servers : (Token.ofKey key).value.toInt = position (digest signed 0 key).first := by
    rw [ofKey_eq, toInt_position, toBitVec_hash]
  refine ⟨servers, fun small => ?_⟩
  rw [servers, digest_signed_eq_unsigned 0 small]

def blockAndTail : List UInt8 := List.replicate 16 0xFF ++ [1, 2, 3, 4, 5, 6, 7, 8, 0x7F]

theorem ofKey_blockAndTail :
    (Token.ofKey blockAndTail).value.toInt = position (digest signed 0 blockAndTail).first ∧
    (Token.ofKey blockAndTail).value.toInt = position (digest unsigned 0 blockAndTail).first ∧
    position (digest unsigned 0 blockAndTail).first = -2940282692215399504 := by
  obtain ⟨servers, common⟩ := ofKey_as_servers blockAndTail
  exact ⟨servers, common (by decide +kernel), by decide +kernel⟩

end Murmur
end CqlDriver.Ring

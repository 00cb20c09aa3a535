/-
How many bytes a decoder asks for. While the header is not whole it asks for the rest of the
header, and then for the rest of the body that the header announces. So it never asks for more
than the longest frame that is accepted, and a longer one is refused as soon as it is announced.
-/

import CqlDriver.Proofs.Wire.Decoding

namespace CqlDriver

namespace FrameHeader

def announced (bytes : List UInt8) : Nat := Wire.ofBigEndian ((bytes.drop 5).take 4)

theorem exists_peek {bytes : List UInt8} (whole : size ≤ bytes.length) :
    ∃ header, peek bytes = some header ∧ header.length.toNat = announced bytes := by
  rcases bytes with _ | ⟨b0, _ | ⟨b1, _ | ⟨b2, _ | ⟨b3, _ | ⟨b4, _ | ⟨b5, _ | ⟨b6, _ | ⟨b7, _ |
    ⟨b8, behind⟩⟩⟩⟩⟩⟩⟩⟩⟩
  case cons =>
    refine ⟨_, rfl, ?_⟩
    exact UInt32.toNat_ofNat_of_lt' (Wire.ofBigEndian_lt [b5, b6, b7, b8])
  all_goals exact absurd whole (by simp [size])

theorem peek_of_short {bytes : List UInt8} (short : bytes.length < size) : peek bytes = none := by
  cases peeked : peek bytes with
  | none => rfl
  | some header => exact absurd (size_le_of_peek peeked) (Nat.not_le_of_lt short)

theorem announced_append {bytes : List UInt8} (whole : size ≤ bytes.length) (more : List UInt8) :
    announced (bytes ++ more) = announced bytes := by
  unfold announced size at *
  rw [List.drop_append_of_le_length (by omega),
    List.take_append_of_le_length (by rw [List.length_drop]; omega)]

end FrameHeader

namespace Frame

open FrameHeader

variable {bytes : List UInt8} {missing length : Nat}

/-- How many bytes must be there before the decoder goes on: those of a header, and then those of
the frame that the header announces. -/
def wanted (bytes : List UInt8) : Nat :=
  if bytes.length < size then size else size + announced bytes

theorem wanted_of_short (short : bytes.length < size) : wanted bytes = size := if_pos short

theorem wanted_of_whole (whole : size ≤ bytes.length) : wanted bytes = size + announced bytes :=
  if_neg (Nat.not_lt_of_le whole)

theorem decode_of_short (short : bytes.length < size) :
    decode bytes = .needMore (size - bytes.length) := by
  unfold decode
  rw [peek_of_short short]

theorem decode_of_oversized (whole : size ≤ bytes.length)
    (tooLong : maxBodyLength < announced bytes) : decode bytes = .oversized (announced bytes) := by
  obtain ⟨header, peeked, same⟩ := exists_peek whole
  unfold decode
  rw [peeked]
  dsimp only
  rw [same, if_pos tooLong]

theorem decode_of_partial (whole : size ≤ bytes.length)
    (accepted : announced bytes ≤ maxBodyLength) (short : bytes.length < size + announced bytes) :
    decode bytes = .needMore (size + announced bytes - bytes.length) := by
  obtain ⟨header, peeked, same⟩ := exists_peek whole
  have behind : (bytes.drop size).length = bytes.length - size := List.length_drop
  have few : Wire.holds (announced bytes) (bytes.drop size) = false := by
    rw [← Bool.not_eq_true, Wire.holds_iff, behind]
    omega
  unfold decode
  rw [peeked]
  dsimp only
  rw [same, if_neg (Nat.not_lt_of_le accepted), few, behind]
  change Decoded.needMore _ = _
  congr 1
  omega

/-- A whole frame at the front is taken, whether its operation is known or not. -/
theorem decode_of_complete (accepted : announced bytes ≤ maxBodyLength)
    (complete : size + announced bytes ≤ bytes.length) :
    ∃ received rest, (decode bytes).found? = some (received, rest) := by
  obtain ⟨header, peeked, same⟩ := exists_peek (Nat.le_of_add_right_le complete)
  have there : Wire.holds (announced bytes) (bytes.drop size) = true := by
    rw [Wire.holds_iff, List.length_drop]
    omega
  unfold decode
  rw [peeked]
  dsimp only
  rw [same, if_neg (Nat.not_lt_of_le accepted), there]
  cases header.opcode <;> exact ⟨_, _, rfl⟩

/-- Everything a decoder can do with the bytes that are there. -/
theorem decode_outcome (bytes : List UInt8) :
    (bytes.length < wanted bytes ∧ (size ≤ bytes.length → announced bytes ≤ maxBodyLength) ∧
      decode bytes = .needMore (wanted bytes - bytes.length)) ∨
    (size ≤ bytes.length ∧ maxBodyLength < announced bytes ∧
      decode bytes = .oversized (announced bytes)) ∨
    (wanted bytes ≤ bytes.length ∧ announced bytes ≤ maxBodyLength ∧
      ∃ received rest, (decode bytes).found? = some (received, rest)) := by
  by_cases whole : size ≤ bytes.length
  · rw [wanted_of_whole whole]
    by_cases accepted : announced bytes ≤ maxBodyLength
    · by_cases short : bytes.length < size + announced bytes
      · exact .inl ⟨short, fun _ => accepted, decode_of_partial whole accepted short⟩
      · have complete : size + announced bytes ≤ bytes.length := Nat.le_of_not_lt short
        exact .inr (.inr ⟨complete, accepted, decode_of_complete accepted complete⟩)
    · have tooLong : maxBodyLength < announced bytes := Nat.lt_of_not_le accepted
      exact .inr (.inl ⟨whole, tooLong, decode_of_oversized whole tooLong⟩)
  · have short : bytes.length < size := Nat.lt_of_not_le whole
    rw [wanted_of_short short]
    exact .inl ⟨short, fun there => absurd there whole, decode_of_short short⟩

structure Lacks (bytes : List UInt8) (missing : Nat) : Prop where
  accepted : size ≤ bytes.length → announced bytes ≤ maxBodyLength
  positive : 0 < missing
  total : bytes.length + missing = wanted bytes

theorem decode_eq_needMore_iff : decode bytes = .needMore missing ↔ Lacks bytes missing := by
  rcases decode_outcome bytes with ⟨short, accepted, asked⟩ | ⟨whole, tooLong, refused⟩ |
    ⟨complete, _, received, rest, found⟩
  · rw [asked, Decoded.needMore.injEq]
    constructor
    · rintro rfl
      exact ⟨accepted, by omega, by omega⟩
    · intro lacks
      rw [← lacks.total, Nat.add_sub_cancel_left]
  · refine iff_of_false (fun asked => ?_) fun lacks => ?_
    · rw [refused] at asked
      cases asked
    · exact absurd (lacks.accepted whole) (Nat.not_le_of_lt tooLong)
  · refine iff_of_false (fun asked => ?_) fun lacks => ?_
    · rw [asked] at found
      cases found
    · have positive := lacks.positive
      have total := lacks.total
      omega

theorem decode_eq_oversized_iff :
    decode bytes = .oversized length ↔
      size ≤ bytes.length ∧ announced bytes = length ∧ maxBodyLength < length := by
  constructor
  · intro refusedSo
    rcases decode_outcome bytes with ⟨_, _, asked⟩ | ⟨whole, tooLong, refused⟩ |
      ⟨_, _, received, rest, found⟩
    · rw [asked] at refusedSo
      cases refusedSo
    · rw [refused] at refusedSo
      cases refusedSo
      exact ⟨whole, rfl, tooLong⟩
    · rw [refusedSo] at found
      cases found
  · rintro ⟨whole, rfl, tooLong⟩
    exact decode_of_oversized whole tooLong

theorem Lacks.within (lacks : Lacks bytes missing) :
    bytes.length + missing ≤ size + maxBodyLength := by
  rw [lacks.total]
  by_cases whole : size ≤ bytes.length
  · rw [wanted_of_whole whole]
    exact Nat.add_le_add_left (lacks.accepted whole) size
  · rw [wanted_of_short (Nat.lt_of_not_le whole)]
    exact Nat.le_add_right size maxBodyLength

/-- As long as less comes than is missing, the decoder waits for the same bytes. -/
theorem Lacks.append (lacks : Lacks bytes missing) {more : List UInt8}
    (few : more.length < missing) : Lacks (bytes ++ more) (missing - more.length) := by
  have total := lacks.total
  have longer : (bytes ++ more).length = bytes.length + more.length := List.length_append
  by_cases whole : size ≤ bytes.length
  · have still : size ≤ (bytes ++ more).length := by omega
    rw [wanted_of_whole whole] at total
    constructor
    case accepted =>
      intro _
      rw [announced_append whole]
      exact lacks.accepted whole
    case positive => exact Nat.sub_pos_of_lt few
    case total =>
      rw [wanted_of_whole still, announced_append whole]
      omega
  · rw [wanted_of_short (Nat.lt_of_not_le whole)] at total
    have still : (bytes ++ more).length < size := by omega
    constructor
    case accepted =>
      intro there
      exact absurd there (Nat.not_le_of_lt still)
    case positive => exact Nat.sub_pos_of_lt few
    case total =>
      rw [wanted_of_short still]
      omega

/-- Behind a whole header nothing is missing any more once all has come. -/
theorem Lacks.not_append (lacks : Lacks bytes missing) (whole : size ≤ bytes.length)
    {more : List UInt8} (all : missing ≤ more.length) (again : Nat) :
    ¬Lacks (bytes ++ more) again := by
  intro still
  have longer : (bytes ++ more).length = bytes.length + more.length := List.length_append
  have total := lacks.total
  have totalStill := still.total
  rw [wanted_of_whole whole] at total
  rw [wanted_of_whole (by omega), announced_append whole] at totalStill
  have positive := still.positive
  omega

/-- Where a decoder asks for more bytes it keeps those that it has, and asks for at least one and
never for more than the longest accepted frame has. If fewer come it asks for the rest of them. If
the header is there and all come, it asks for no more. A body that is too long is refused just when
the header that announces it is whole. -/
theorem asks_for_what_is_missing :
    (∀ bytes missing, decode bytes = .needMore missing →
      decodeAll bytes = ([], .needMore missing bytes) ∧
      1 ≤ missing ∧
      bytes.length + missing ≤ FrameHeader.size + maxBodyLength ∧
      (∀ more : List UInt8, more.length < missing →
        decode (bytes ++ more) = .needMore (missing - more.length)) ∧
      (FrameHeader.size ≤ bytes.length → ∀ more : List UInt8, missing ≤ more.length →
        ∀ again, decode (bytes ++ more) ≠ .needMore again)) ∧
    ∀ bytes length, decode bytes = .oversized length ↔
      FrameHeader.size ≤ bytes.length ∧ announced bytes = length ∧ maxBodyLength < length := by
  refine ⟨fun bytes missing asked => ?_, fun _ _ => decode_eq_oversized_iff⟩
  have lacks := decode_eq_needMore_iff.mp asked
  refine ⟨decodeAll_of_needMore asked, lacks.positive, lacks.within, ?fewer, ?enough⟩
  case fewer =>
    intro more few
    exact decode_eq_needMore_iff.mpr (lacks.append few)
  case enough =>
    intro whole more all again askedAgain
    exact lacks.not_append whole all again (decode_eq_needMore_iff.mp askedAgain)

def interruptedResult : List UInt8 := [0x84, 0, 0, 1, 8, 0, 0, 0, 3, 7]

def longResult : List UInt8 := [0x84, 0, 0, 1, 8, 16, 0, 0, 1]

theorem interruptedResult_asks :
    decode interruptedResult = .needMore 2 ∧
    decodeAll interruptedResult = ([], .needMore 2 interruptedResult) ∧
    decode (interruptedResult ++ [9]) = .needMore 1 ∧
    (∀ again, decode (interruptedResult ++ [9, 9, 0x84]) ≠ .needMore again) ∧
    decode longResult = .oversized 268435457 := by
  have asked : decode interruptedResult = .needMore 2 := by rfl
  obtain ⟨asks, refuses⟩ := asks_for_what_is_missing
  obtain ⟨kept, _, _, fewer, enough⟩ := asks interruptedResult 2 asked
  refine ⟨asked, kept, fewer [9] (by decide), enough (by decide) [9, 9, 0x84] (by decide), ?_⟩
  exact (refuses longResult 268435457).mpr ⟨by decide, by decide, by decide⟩

end Frame

end CqlDriver

/-
Decoding frames from a stream of bytes. What the bytes received so far begin with is
settled as soon as it is found: bytes that come later stand behind it and change
nothing. Hence the findings do not depend on how the stream is cut into chunks.
-/

import CqlDriver.Wire.Frame

namespace CqlDriver

theorem FrameHeader.peek_append {front : List UInt8} {header : FrameHeader}
    (peeked : peek front = some header) (back : List UInt8) :
    peek (front ++ back) = some header := by
  unfold peek at peeked
  split at peeked
  · exact peeked
  · cases peeked

theorem FrameHeader.size_le_of_peek {bytes : List UInt8} {header : FrameHeader}
    (peeked : peek bytes = some header) : size ≤ bytes.length := by
  unfold peek at peeked
  split at peeked
  · simp only [List.length_cons, size]
    omega
  · cases peeked

namespace Frame

/-- What a whole frame at the front counts as, and the bytes behind it. -/
def Decoded.found? : Decoded → Option (Received × List UInt8)
  | .frame whole rest => some (.frame whole, rest)
  | .unsupported code stream rest => some (.unsupported code stream, rest)
  | .needMore _ | .oversized _ => none

def Decoded.followedBy (more : List UInt8) : Decoded → Decoded
  | .frame whole rest => .frame whole (rest ++ more)
  | .unsupported code stream rest => .unsupported code stream (rest ++ more)
  | .needMore missing => .needMore missing
  | .oversized length => .oversized length

theorem Decoded.found?_followedBy {decoded : Decoded} {received : Received}
    {rest : List UInt8} (found : decoded.found? = some (received, rest)) (more : List UInt8) :
    (decoded.followedBy more).found? = some (received, rest ++ more) := by
  cases decoded with
  | frame whole behind =>
      cases found
      rfl
  | unsupported code stream behind =>
      cases found
      rfl
  | needMore missing => cases found
  | oversized length => cases found

/-- Only the answer that more bytes are needed can change when more bytes come. -/
theorem decode_append {front : List UInt8} (settled : ∀ missing, decode front ≠ .needMore missing)
    (back : List UInt8) : decode (front ++ back) = (decode front).followedBy back := by
  cases peeked : FrameHeader.peek front with
  | none =>
      have pending : decode front = .needMore (FrameHeader.size - front.length) := by
        unfold decode
        rw [peeked]
      exact absurd pending (settled _)
  | some header =>
      have behind : (front ++ back).drop FrameHeader.size =
          front.drop FrameHeader.size ++ back :=
        List.drop_append_of_le_length (FrameHeader.size_le_of_peek peeked)
      unfold decode at settled ⊢
      rw [peeked] at settled ⊢
      rw [FrameHeader.peek_append peeked back]
      dsimp only at settled ⊢
      rw [behind]
      by_cases tooLong : maxBodyLength < header.length.toNat
      · rw [if_pos tooLong, if_pos tooLong]
        rfl
      · rw [if_neg tooLong] at settled ⊢
        rw [if_neg tooLong]
        by_cases whole : Wire.holds header.length.toNat (front.drop FrameHeader.size) = true
        · have enough := (Wire.holds_iff _ _).mp whole
          have still : Wire.holds header.length.toNat
              (front.drop FrameHeader.size ++ back) = true := by
            rw [Wire.holds_iff, List.length_append]
            omega
          rw [whole, still]
          simp only [Bool.not_true, Bool.false_eq_true, if_false,
            List.take_append_of_le_length enough, List.drop_append_of_le_length enough]
          cases header.opcode <;> rfl
        · rw [Bool.not_eq_true] at whole
          rw [whole] at settled
          exact absurd rfl (settled _)

/-- A finding takes at least the bytes of a header. -/
theorem length_of_found {bytes rest : List UInt8} {received : Received}
    (found : (decode bytes).found? = some (received, rest)) : rest.length < bytes.length := by
  cases peeked : FrameHeader.peek bytes with
  | none =>
      unfold decode at found
      rw [peeked] at found
      cases found
  | some header =>
      have size := FrameHeader.size_le_of_peek peeked
      have positive : 0 < FrameHeader.size := by decide
      have dropped : ∃ length, rest = (bytes.drop FrameHeader.size).drop length := by
        unfold decode at found
        rw [peeked] at found
        dsimp only at found
        split at found
        · cases found
        · split at found
          · cases found
          · split at found
            · cases found
              exact ⟨_, rfl⟩
            · cases found
              exact ⟨_, rfl⟩
      obtain ⟨length, same⟩ := dropped
      rw [same, List.length_drop, List.length_drop]
      omega

theorem decode_cases (bytes : List UInt8) :
    (∃ received rest, (decode bytes).found? = some (received, rest)) ∨
      (∃ missing, decode bytes = .needMore missing) ∨
      ∃ length, decode bytes = .oversized length := by
  cases decode bytes with
  | frame whole rest => exact Or.inl ⟨_, _, rfl⟩
  | unsupported code stream rest => exact Or.inl ⟨_, _, rfl⟩
  | needMore missing => exact Or.inr (Or.inl ⟨missing, rfl⟩)
  | oversized length => exact Or.inr (Or.inr ⟨length, rfl⟩)

theorem decodeSome_of_found {bytes rest : List UInt8} {received : Received}
    (found : (decode bytes).found? = some (received, rest)) (fuel : Nat) :
    decodeSome (fuel + 1) bytes =
      (received :: (decodeSome fuel rest).1, (decodeSome fuel rest).2) := by
  cases decoded : decode bytes with
  | frame whole behind =>
      rw [decoded] at found
      cases found
      rw [decodeSome, decoded]
  | unsupported code stream behind =>
      rw [decoded] at found
      cases found
      rw [decodeSome, decoded]
  | needMore missing =>
      rw [decoded] at found
      cases found
  | oversized length =>
      rw [decoded] at found
      cases found

theorem decodeSome_of_needMore {bytes : List UInt8} {missing : Nat}
    (decoded : decode bytes = .needMore missing) (fuel : Nat) :
    decodeSome (fuel + 1) bytes = ([], .needMore missing bytes) := by
  rw [decodeSome, decoded]

theorem decodeSome_of_oversized {bytes : List UInt8} {length : Nat}
    (decoded : decode bytes = .oversized length) (fuel : Nat) :
    decodeSome (fuel + 1) bytes = ([], .oversized length bytes) := by
  rw [decodeSome, decoded]

/-- A decoder that may take more frames than there are bytes never runs dry. -/
theorem decodeSome_eq_decodeAll (fuel : Nat) {bytes : List UInt8}
    (enough : bytes.length < fuel) : decodeSome fuel bytes = decodeAll bytes := by
  have anyFuel (fuel other : Nat) (bytes : List UInt8) (enough : bytes.length < fuel)
      (alsoEnough : bytes.length < other) : decodeSome fuel bytes = decodeSome other bytes := by
    induction fuel generalizing other bytes with
    | zero => omega
    | succ fuel ih =>
        cases other with
        | zero => omega
        | succ other =>
            rcases decode_cases bytes with ⟨received, rest, found⟩ | ⟨missing, decoded⟩ |
              ⟨length, decoded⟩
            · have shorter := length_of_found found
              rw [decodeSome_of_found found, decodeSome_of_found found,
                ih other rest (by omega) (by omega)]
            · rw [decodeSome_of_needMore decoded, decodeSome_of_needMore decoded]
            · rw [decodeSome_of_oversized decoded, decodeSome_of_oversized decoded]
  exact anyFuel fuel (bytes.length + 1) bytes enough (Nat.lt_succ_self _)

theorem decodeAll_of_found {bytes rest : List UInt8} {received : Received}
    (found : (decode bytes).found? = some (received, rest)) :
    decodeAll bytes = (received :: (decodeAll rest).1, (decodeAll rest).2) := by
  have same : decodeAll bytes =
      (received :: (decodeSome bytes.length rest).1, (decodeSome bytes.length rest).2) :=
    decodeSome_of_found found bytes.length
  rw [same, decodeSome_eq_decodeAll bytes.length (length_of_found found)]

theorem decodeAll_of_needMore {bytes : List UInt8} {missing : Nat}
    (decoded : decode bytes = .needMore missing) :
    decodeAll bytes = ([], .needMore missing bytes) :=
  decodeSome_of_needMore decoded bytes.length

theorem decodeAll_of_oversized {bytes : List UInt8} {length : Nat}
    (decoded : decode bytes = .oversized length) :
    decodeAll bytes = ([], .oversized length bytes) :=
  decodeSome_of_oversized decoded bytes.length

def continued (progress : List Received × Halt) (more : List UInt8) : List Received × Halt :=
  match progress.2 with
  | .needMore _ _ => feed progress more
  | .oversized length rest => (progress.1, .oversized length (rest ++ more))

theorem continued_cons (received : Received) (progress : List Received × Halt)
    (more : List UInt8) :
    continued (received :: progress.1, progress.2) more =
      (received :: (continued progress more).1, (continued progress more).2) := by
  obtain ⟨found, halt⟩ := progress
  cases halt with
  | needMore missing rest => rfl
  | oversized length rest => rfl

/-- The induction is on the length of the front: each finding in it is also found
with the back behind it, and where the front alone stops the back takes over. -/
theorem decodeAll_append (front back : List UInt8) :
    decodeAll (front ++ back) = continued (decodeAll front) back := by
  induction size : front.length using Nat.strongRecOn generalizing front with
  | ind bound ih =>
      subst size
      rcases decode_cases front with ⟨received, rest, found⟩ | ⟨missing, decoded⟩ |
        ⟨length, decoded⟩
      · have settled : ∀ missing, decode front ≠ .needMore missing := by
          intro missing pending
          rw [pending] at found
          cases found
        have still : (decode (front ++ back)).found? = some (received, rest ++ back) := by
          rw [decode_append settled back]
          exact Decoded.found?_followedBy found back
        rw [decodeAll_of_found found, decodeAll_of_found still, continued_cons,
          ih rest.length (length_of_found found) rest rfl]
      · rw [decodeAll_of_needMore decoded]
        rfl
      · have settled : ∀ missing, decode front ≠ .needMore missing := by
          intro missing pending
          rw [decoded] at pending
          cases pending
        have still := decode_append settled back
        rw [decoded] at still
        rw [decodeAll_of_oversized decoded, decodeAll_of_oversized still]
        rfl

/-- What a decoder fed with chunks has to agree on with one that has the whole. When a
body is too large the first one stops there, with fewer bytes unread behind it. -/
def Agrees (progress whole : List Received × Halt) : Prop :=
  progress.1 = whole.1 ∧
    match whole.2 with
    | .needMore missing rest => progress.2 = .needMore missing rest
    | .oversized length rest => ∃ seen, seen <+: rest ∧ progress.2 = .oversized length seen

theorem agrees_refl (progress : List Received × Halt) : Agrees progress progress := by
  obtain ⟨found, halt⟩ := progress
  cases halt with
  | needMore missing rest => exact ⟨rfl, rfl⟩
  | oversized length rest => exact ⟨rfl, rest, List.prefix_rfl, rfl⟩

theorem feed_agrees {progress : List Received × Halt} {bytes : List UInt8}
    (agrees : Agrees progress (decodeAll bytes)) (chunk : List UInt8) :
    Agrees (feed progress chunk) (decodeAll (bytes ++ chunk)) := by
  rw [decodeAll_append]
  generalize decodeAll bytes = whole at agrees ⊢
  obtain ⟨found, halt⟩ := progress
  obtain ⟨allFound, wholeHalt⟩ := whole
  obtain ⟨sameFound, halted⟩ := agrees
  dsimp only at sameFound
  subst sameFound
  cases wholeHalt with
  | needMore missing rest =>
      dsimp only at halted
      subst halted
      exact agrees_refl _
  | oversized length rest =>
      obtain ⟨seen, isPrefix, stopped⟩ := halted
      dsimp only at stopped
      subst stopped
      exact ⟨rfl, seen, isPrefix.trans (List.prefix_append rest chunk), rfl⟩

theorem foldl_feed_agrees (chunks : List (List UInt8)) {progress : List Received × Halt}
    {bytes : List UInt8} (agrees : Agrees progress (decodeAll bytes)) :
    Agrees (chunks.foldl feed progress) (decodeAll (bytes ++ chunks.flatten)) := by
  induction chunks generalizing progress bytes with
  | nil =>
      rw [List.flatten_nil, List.append_nil]
      exact agrees
  | cons chunk rest ih =>
      rw [List.foldl_cons, List.flatten_cons, ← List.append_assoc]
      exact ih (feed_agrees agrees chunk)

/-- However a byte string is cut into chunks, the same frames and frames of unknown
operation are found in the same order, and the decoder stops for the same reason. If
it stops for want of bytes, the same bytes are left. -/
theorem decodeChunks_eq_whole (chunks : List (List UInt8)) :
    (decodeChunks chunks).1 = (decodeAll chunks.flatten).1 ∧
      match (decodeAll chunks.flatten).2 with
      | .needMore missing rest => (decodeChunks chunks).2 = .needMore missing rest
      | .oversized length rest =>
          ∃ seen, seen <+: rest ∧ (decodeChunks chunks).2 = .oversized length seen := by
  exact foldl_feed_agrees chunks (agrees_refl (decodeAll []))

end Frame

end CqlDriver

/-
How much of a body a reader needs. What it accepts begins with bytes that decide the value: it
reads the same value from them whatever stands behind them, and fails where some are missing.
-/

import CqlDriver.Proofs.Wire.Notation

namespace CqlDriver.Wire

variable {Fault α β : Type} {reader : EStateM Fault (List UInt8) α}
  {next : α → EStateM Fault (List UInt8) β} {bytes front back : List UInt8} {value : α}
  {result : β}

/-- A reader takes just these bytes off the front, and fails where it gets only some of them. -/
structure Spends (reader : EStateM Fault (List UInt8) α) (bytes : List UInt8) (value : α) :
    Prop where
  takes : ∀ behind, reader.run (bytes ++ behind) = .ok value behind
  needs : ∀ cut, cut <+: bytes → cut.length < bytes.length →
    ∃ fault left, reader.run cut = .error fault left

def Measured (reader : EStateM Fault (List UInt8) α) : Prop :=
  ∀ body value left, reader.run body = .ok value left →
    ∃ bytes, body = bytes ++ left ∧ Spends reader bytes value

theorem Spends.bind (first : Spends reader front value)
    (second : Spends (next value) back result) : Spends (reader >>= next) (front ++ back) result := by
  constructor
  · intro behind
    rw [List.append_assoc, Reader.run_bind, first.takes]
    exact second.takes behind
  · intro cut beginning short
    rw [Reader.run_bind]
    by_cases inFront : cut.length < front.length
    · have ofFront : cut <+: front :=
        List.prefix_of_prefix_length_le beginning (List.prefix_append front back)
          (Nat.le_of_lt inFront)
      obtain ⟨fault, left, failed⟩ := first.needs cut ofFront inFront
      exact ⟨fault, left, by rw [failed]⟩
    · obtain ⟨rest, rfl⟩ : front <+: cut :=
        List.prefix_of_prefix_length_le (List.prefix_append front back) beginning
          (Nat.le_of_not_lt inFront)
      rw [List.length_append, List.length_append] at short
      obtain ⟨fault, left, failed⟩ := second.needs rest
        ((List.prefix_append_right_inj front).mp beginning) (Nat.lt_of_add_lt_add_left short)
      refine ⟨fault, left, ?_⟩
      rw [first.takes]
      exact failed

/-- What is taken whatever stands behind it is all that is needed. -/
theorem Measured.spends (measured : Measured reader)
    (takes : ∀ behind, reader.run (bytes ++ behind) = .ok value behind) :
    Spends reader bytes value := by
  obtain ⟨taken, same, spends⟩ := measured _ _ _ (takes [])
  rw [List.append_cancel_right same]
  exact spends

theorem measured_pure (value : α) : Measured (pure value : EStateM Fault (List UInt8) α) := by
  intro body given left read
  cases read
  refine ⟨[], rfl, fun _ => rfl, fun cut _ short => ?_⟩
  exact absurd short (Nat.not_lt_zero _)

theorem measured_throw (fault : Fault) : Measured (throw fault : EStateM Fault (List UInt8) α) := by
  intro body given left read
  cases read

theorem Measured.bind (first : Measured reader) (second : ∀ value, Measured (next value)) :
    Measured (reader >>= next) := by
  intro body result left read
  rw [Reader.run_bind] at read
  cases taken : reader.run body with
  | ok value rest =>
      rw [taken] at read
      obtain ⟨front, rfl, spendsFront⟩ := first body value rest taken
      obtain ⟨back, rfl, spendsBack⟩ := second value rest result left read
      exact ⟨front ++ back, (List.append_assoc front back left).symm, spendsFront.bind spendsBack⟩
  | error fault rest =>
      rw [taken] at read
      cases read

theorem Measured.ite {condition : Prop} [Decidable condition]
    {other : EStateM Fault (List UInt8) α} (first : Measured reader) (second : Measured other) :
    Measured (if condition then reader else other) := by
  split
  · exact first
  · exact second

theorem measured_of_width {reader : EStateM Fault (List UInt8) (List UInt8)} (width : Nat)
    (fault : List UInt8 → Fault)
    (reads : ∀ body, reader.run body =
      if holds width body then .ok (body.take width) (body.drop width)
      else .error (fault body) body) : Measured reader := by
  intro body value left read
  rw [reads] at read
  by_cases enough : holds width body = true
  · rw [if_pos enough] at read
    cases read
    have long : (body.take width).length = width :=
      List.length_take_of_le ((holds_iff width body).mp enough)
    refine ⟨body.take width, (List.take_append_drop width body).symm, ?_, ?_⟩
    · intro behind
      have still : holds width (body.take width ++ behind) = true := by
        rw [holds_iff, List.length_append, long]
        exact Nat.le_add_right width behind.length
      rw [reads, if_pos still, List.take_left' long, List.drop_left' long]
    · intro cut _ short
      have few : ¬holds width cut = true := by
        rw [holds_iff, ← long]
        exact Nat.not_le_of_lt short
      exact ⟨fault cut, cut, by rw [reads, if_neg few]⟩
  · rw [if_neg enough] at read
    cases read

namespace Reader

variable {reader : Reader α}

theorem measured_exactly (what : String) (count : Nat) : Measured (exactly what count) := by
  refine measured_of_width count (fun body => .truncated what count body.length) fun body => ?_
  unfold exactly
  rw [run_bind]
  by_cases enough : holds count body = true
  · rw [if_pos enough, run_ensure what ((holds_iff count body).mp enough)]
    rfl
  · have few : body.length < count := Nat.lt_of_not_le (mt (holds_iff count body).mpr enough)
    rw [if_neg enough, run_ensure_short what few]

theorem measured_byte : Measured byte :=
  (measured_exactly "byte" 1).bind fun _ => measured_pure _

theorem measured_short : Measured short :=
  (measured_exactly "short" 2).bind fun _ => measured_pure _

theorem measured_int : Measured int :=
  (measured_exactly "int" 4).bind fun _ => measured_pure _

theorem measured_text (length : Nat) : Measured (Reader.text length) := by
  refine (measured_exactly "string" length).bind fun bytes => ?_
  cases Text.Utf8.decode bytes with
  | ok text => exact measured_pure text
  | error fault => exact measured_throw (BodyFault.invalidText fault)

theorem measured_string : Measured string :=
  measured_short.bind fun length => measured_text length.toNat

theorem measured_repeatedOnto (each : Measured reader) (count : Nat) (seen : List α) :
    Measured (repeatedOnto reader count seen) := by
  induction count generalizing seen with
  | zero => exact measured_pure seen.reverse
  | succ count ih => exact each.bind fun value => ih (value :: seen)

theorem measured_counted (each : Measured reader) : Measured (counted reader) :=
  measured_short.bind fun count => measured_repeatedOnto each count.toNat []

theorem measured_keyed (each : Measured reader) : Measured (keyed reader) :=
  measured_string.bind fun _ => each.bind fun _ => measured_pure _

theorem measured_stringList : Measured stringList := measured_counted measured_string

theorem measured_stringMultimap : Measured stringMultimap :=
  measured_counted (measured_keyed measured_stringList)

theorem measured_bytes : Measured Reader.bytes :=
  measured_int.bind fun _ => (measured_pure none).ite
    ((measured_exactly "bytes" _).bind fun _ => measured_pure _)

theorem measured_shortBytes : Measured shortBytes :=
  measured_short.bind fun length => measured_exactly "short bytes" length.toNat

theorem measured_ensured (what : String) (count : Nat) {next : List UInt8 → Reader α}
    (behind : ∀ bytes, Measured (next bytes)) :
    Measured (ensure what count >>= fun _ => take count >>= next) := by
  have whole := (measured_exactly what count).bind behind
  unfold exactly at whole
  rw [bind_assoc] at whole
  exact whole

theorem measured_refused (test : Reader β) (fault : BodyFault) :
    Measured (test >>= fun _ => (throw fault : Reader α)) := by
  intro body value left read
  rw [run_bind] at read
  split at read
  · cases read
  · cases read

/-- The address alone is no measured reader: it takes what the test before it has found. -/
theorem measured_host (size : UInt8) :
    Measured (ensure "inet address" size.toNat >>= fun _ => host size) := by
  unfold host
  split
  case isTrue four =>
    subst four
    exact measured_ensured "inet address" 4 fun bytes =>
      measured_pure (IpAddress.v4 (BitVec.ofNat 32 (ofBigEndian bytes)))
  case isFalse =>
    split
    case isTrue sixteen =>
      subst sixteen
      exact measured_ensured "inet address" 16 fun bytes =>
        measured_pure (IpAddress.v6 (BitVec.ofNat 128 (ofBigEndian bytes)))
    case isFalse => exact measured_refused _ (.inetLength size.toNat)

theorem measured_withPort (ip : IpAddress) : Measured (withPort ip) :=
  measured_int.bind fun port => (measured_pure _).ite (measured_throw (BodyFault.inetPort port))

theorem measured_inet : Measured inet := by
  rw [inet_eq]
  refine measured_byte.bind fun size => ?_
  rw [← bind_assoc]
  exact (measured_host size).bind measured_withPort

end Reader

end CqlDriver.Wire

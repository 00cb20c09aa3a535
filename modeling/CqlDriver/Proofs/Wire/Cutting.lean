/-
Bodies that are cut short, and bodies with more behind them. A first part of an accepted body
decides what is read from it: bytes behind this part do not matter, and a body that ends inside
it is refused.
-/

import CqlDriver.Proofs.Wire.Truncation
import CqlDriver.Wire.ErrorBody
import CqlDriver.Wire.EventBody
import CqlDriver.Wire.Reply

namespace CqlDriver

namespace Wire

variable {α β : Type} {parse : List UInt8 → Except BodyFault α}

/-- The first so many bytes of a body are what its value is read from. A body that is cut inside
them has a fault, which is a protocol error to those who wanted the value. -/
structure DecidedBy (parse : List UInt8 → Except BodyFault α) (body : List UInt8) (value : α)
    (size : Nat) : Prop where
  within : size ≤ body.length
  followed : ∀ behind, parse (body.take size ++ behind) = .ok value
  cut : ∀ fewer < size, ∃ fault, parse (body.take fewer) = .error fault

def Decisive (parse : List UInt8 → Except BodyFault α) : Prop :=
  ∀ body value, parse body = .ok value → ∃ size, DecidedBy parse body value size

theorem Measured.decisive {reader : Reader α} (measured : Measured reader) :
    Decisive reader.onBody := by
  intro body value accepted
  obtain ⟨left, read⟩ : ∃ left, reader.run body = .ok value left := by
    unfold Reader.onBody at accepted
    split at accepted
    · cases accepted
      exact ⟨_, ‹_›⟩
    · cases accepted
  obtain ⟨bytes, rfl, spends⟩ := measured body value left read
  refine ⟨bytes.length, ?within, ?followed, ?cut⟩
  case within =>
    rw [List.length_append]
    exact Nat.le_add_right _ _
  case followed =>
    intro behind
    rw [List.take_left' rfl]
    exact Reader.Takes.onBody spends.takes behind
  case cut =>
    intro fewer short
    have long : (bytes.take fewer).length = fewer := List.length_take_of_le (Nat.le_of_lt short)
    obtain ⟨fault, stopped⟩ :=
      spends.needs (bytes.take fewer) (List.take_prefix fewer bytes) (by rw [long]; exact short)
    rw [List.take_append_of_le_length (Nat.le_of_lt short)]
    exact ⟨fault, Reader.Fails.onBody stopped⟩

theorem Decisive.map (decisive : Decisive parse) (make : α → β) :
    Decisive fun body => (parse body).map make := by
  intro body value accepted
  change (parse body).map make = .ok value at accepted
  cases parsed : parse body with
  | ok given =>
      rw [parsed] at accepted
      cases accepted
      obtain ⟨size, decided⟩ := decisive body given parsed
      refine ⟨size, decided.within, fun behind => ?_, fun fewer short => ?_⟩
      · rw [decided.followed behind]
        rfl
      · obtain ⟨fault, refused⟩ := decided.cut fewer short
        refine ⟨fault, ?_⟩
        rw [refused]
        rfl
  | error fault =>
      rw [parsed] at accepted
      cases accepted

end Wire

open Wire

theorem ErrorDetails.measured_read (code : ErrorCode) : Measured (ErrorDetails.read code) := by
  have flagged (make : Bool → ErrorDetails) :
      Measured (Reader.byte >>= fun flag => pure (make (flag != 0))) :=
    Reader.measured_byte.bind fun _ => measured_pure _
  have named (make : WriteType → ErrorDetails) :
      Measured (Reader.string >>= fun name => pure (make (WriteType.parse name))) :=
    Reader.measured_string.bind fun _ => measured_pure _
  cases code with
  | unavailable =>
      exact Reader.measured_short.bind fun _ => Reader.measured_int.bind fun _ =>
        Reader.measured_int.bind fun _ => measured_pure _
  | readTimeout =>
      exact Reader.measured_short.bind fun _ => Reader.measured_int.bind fun _ =>
        Reader.measured_int.bind fun _ => flagged _
  | writeTimeout =>
      exact Reader.measured_short.bind fun _ => Reader.measured_int.bind fun _ =>
        Reader.measured_int.bind fun _ => named _
  | readFailure =>
      exact Reader.measured_short.bind fun _ => Reader.measured_int.bind fun _ =>
        Reader.measured_int.bind fun _ => Reader.measured_int.bind fun _ => flagged _
  | writeFailure =>
      exact Reader.measured_short.bind fun _ => Reader.measured_int.bind fun _ =>
        Reader.measured_int.bind fun _ => Reader.measured_int.bind fun _ => named _
  | functionFailure =>
      exact Reader.measured_string.bind fun _ => Reader.measured_string.bind fun _ =>
        Reader.measured_stringList.bind fun _ => measured_pure _
  | alreadyExists =>
      exact Reader.measured_string.bind fun _ => Reader.measured_string.bind fun _ =>
        measured_pure _
  | unprepared => exact Reader.measured_shortBytes.bind fun _ => measured_pure _
  | _ => exact measured_pure _

theorem ServerError.measured_read : Measured ServerError.read :=
  Reader.measured_int.bind fun _ => Reader.measured_string.bind fun _ =>
    (ErrorDetails.measured_read _).bind fun _ => measured_pure _

namespace ServerEvent

theorem measured_readElement (target : String) : Measured (readElement target) := by
  unfold readElement
  refine (measured_pure _).ite (Measured.ite ?_ ?_)
  · exact Reader.measured_string.bind fun _ => measured_pure _
  · exact Reader.measured_string.bind fun _ => Reader.measured_stringList.bind fun _ =>
      measured_pure _

theorem measured_read : Measured read := by
  refine Reader.measured_string.bind fun kind => Measured.ite ?topology (Measured.ite ?status
    (Measured.ite ?schema (measured_throw (BodyFault.unknownEvent kind))))
  case topology =>
    refine Reader.measured_string.bind fun name => ?_
    cases TopologyChange.parse? name with
    | none => exact measured_throw (BodyFault.unknownTopologyChange name)
    | some change => exact Reader.measured_inet.bind fun _ => measured_pure _
  case status =>
    refine Reader.measured_string.bind fun name => ?_
    cases StatusChange.parse? name with
    | none => exact measured_throw (BodyFault.unknownStatusChange name)
    | some change => exact Reader.measured_inet.bind fun _ => measured_pure _
  case schema =>
    exact Reader.measured_string.bind fun _ => Reader.measured_string.bind fun target =>
      Reader.measured_string.bind fun _ => (measured_readElement target).bind fun _ =>
        measured_pure _

end ServerEvent

namespace Wire

/-- The bodies of errors, of events and of the answers that set up a connection: a first part of
what is accepted decides the value, whatever stands behind it, and a body that ends inside this part
is refused. -/
theorem bodies_decided_by_first_part :
    Decisive ServerError.parse ∧ Decisive ServerEvent.parse ∧ Decisive parseSupported ∧
      Decisive parseAuthenticate ∧ Decisive parseAuthToken :=
  ⟨ServerError.measured_read.decisive, ServerEvent.measured_read.decisive,
    Reader.measured_stringMultimap.decisive.map byKey, Reader.measured_string.decisive,
    Reader.measured_bytes.decisive⟩

/-- A flag that is any byte but zero, argument types behind a name, two entries for one key, a text
of two-byte letters, and a token that is missing; bytes stand behind each. -/
theorem one_of_each_body_decided :
    (∃ size, DecidedBy ServerError.parse
      [0, 0, 18, 0, 0, 4, 115, 108, 111, 119, 0, 4, 0, 0, 0, 1, 0, 0, 0, 2, 7, 0, 0]
      ⟨.readTimeout, "slow", .readTimeout 4 1 2 true⟩ size) ∧
    (∃ size, DecidedBy ServerEvent.parse
      ((ServerEvent.schema "DROPPED" "FUNCTION" "ks" (some "f") ["int", ""]).body ++ [255])
      (.schema "DROPPED" "FUNCTION" "ks" (some "f") ["int", ""]) size) ∧
    (∃ size, DecidedBy parseSupported
      [0, 2, 0, 1, 97, 0, 1, 0, 1, 98, 0, 1, 97, 0, 2, 0, 0, 0, 1, 99, 1] [("a", ["", "c"])] size) ∧
    (∃ size, DecidedBy parseAuthenticate [0, 4, 195, 169, 195, 169, 97] "éé" size) ∧
    ∃ size, DecidedBy parseAuthToken [255, 255, 255, 255, 0] none size := by
  obtain ⟨error, event, supported, authenticate, token⟩ := bodies_decided_by_first_part
  refine ⟨error _ _ ?_, event _ _ ?_, supported _ _ ?_, authenticate _ _ ?_, token _ _ ?_⟩
  · rfl
  · rfl
  · change Except.ok (byKey [("a", ["b"]), ("a", ["", "c"])]) = _
    unfold byKey
    rw [List.mergeSort_of_pairwise (by decide)]
    rfl
  · rfl
  · rfl

end Wire

end CqlDriver

/-
A response is what stands behind the parts that the flags of its frame announce, and tells the
tracing id and the warnings among them. A body that ends inside these parts makes no response.
-/

import CqlDriver.Proofs.Request.Forewords
import CqlDriver.Proofs.Wire.Truncation

namespace CqlDriver

open Wire

/-- What is known of a request before its answer is read. -/
def ExecutionInfo.beforeAnswer (info : ExecutionInfo) : ExecutionInfo :=
  { info with warnings := [], tracingId := none }

namespace Response

theorem measured_ofBody {α : Type} {reader : Reader α} (measured : Measured reader) :
    Measured (ofBody reader) := by
  intro body value left read
  cases taken : reader.run body with
  | ok given rest =>
      rw [run_ofBody_ok taken] at read
      cases read
      obtain ⟨bytes, same, spends⟩ := measured body value left taken
      refine ⟨bytes, same, fun behind => run_ofBody_ok (spends.takes behind), ?_⟩
      intro cut beginning short
      obtain ⟨fault, rest, failed⟩ := spends.needs cut beginning short
      exact ⟨.body fault, rest, run_ofBody_error failed⟩
  | error fault rest =>
      rw [run_ofBody_error taken] at read
      cases read

theorem measured_readTracingId : Measured readTracingId := by
  refine measured_of_width 16 (fun _ => .truncatedTracingId) fun body => ?_
  change (if holds 16 body then _ else _ : PreambleReader (List UInt8)).run body = _
  by_cases enough : holds 16 body = true
  · rw [if_pos enough, if_pos enough]
    rfl
  · rw [if_neg enough, if_neg enough]
    rfl

theorem measured_skipPayload : Measured skipPayload :=
  (Reader.measured_counted (Reader.measured_keyed Reader.measured_bytes)).bind
    fun _ => measured_pure ()

theorem measured_readPreamble (frame : Frame) : Measured (readPreamble frame) := by
  have tracing : Measured (if frame.hasTracing then some <$> readTracingId else pure none) := by
    rw [map_eq_pure_bind]
    exact (measured_readTracingId.bind fun id => measured_pure (some id)).ite (measured_pure none)
  have warned : Measured
      (if frame.hasWarnings then some <$> ofBody Reader.stringList else pure none) := by
    rw [map_eq_pure_bind]
    exact ((measured_ofBody Reader.measured_stringList).bind fun texts =>
      measured_pure (some texts)).ite (measured_pure none)
  have skipped : Measured (if frame.hasCustomPayload then ofBody skipPayload else pure ()) :=
    (measured_ofBody measured_skipPayload).ite (measured_pure ())
  rw [readPreamble_eq]
  exact tracing.bind fun _ => warned.bind fun _ => skipped.bind fun _ => measured_pure _

theorem spends_foreword {frame : Frame} {foreword : Foreword} (fits : foreword.Fits)
    (announced : foreword.AnnouncedBy frame) :
    Spends (readPreamble frame) foreword.encode foreword.preamble :=
  (measured_readPreamble frame).spends (readPreamble_takes fits announced)

/-- Behind all parts that its flags announce, a frame makes a response of the rest of its body,
with the tracing id and the warnings if they are announced. Where the body ends inside these
parts the frame is refused. -/
theorem stripped_or_refused {frame : Frame} {foreword : Foreword} (fits : foreword.Fits)
    (announced : foreword.AnnouncedBy frame) (body : List UInt8) (info : ExecutionInfo) :
    ofFrame (foreword.before frame body) info.beforeAnswer =
        .ok
          { frame := some (foreword.before frame body)
            body
            info :=
              { info with
                warnings := foreword.warnings.getD []
                tracingId := foreword.tracingId } } ∧
      ∀ cut, cut <+: foreword.encode ++ body → cut.length < foreword.encode.length →
        ∃ fault, ofFrame { frame with body := cut } info = .error (.protocol fault) := by
  have stripped := ofFrame_before fits announced body info.beforeAnswer
  rw [show info.beforeAnswer.tracingId = none from rfl, Option.or_none] at stripped
  refine ⟨stripped, fun cut beginning short => ?_⟩
  have inside : cut <+: foreword.encode :=
    List.prefix_of_prefix_length_le beginning (List.prefix_append _ _) (Nat.le_of_lt short)
  obtain ⟨fault, left, failed⟩ := (spends_foreword fits announced).needs cut inside short
  have unread : (readPreamble { frame with body := cut }).run cut = .error fault left := failed
  refine ⟨fault, ?_⟩
  unfold ofFrame
  dsimp only
  rw [unread]

def tracedForeword : Foreword :=
  { tracingId := some (List.replicate 16 7)
    warnings := some ["slow query"]
    payload := some [("hint", none), ("", some [1, 2])] }

def tracedAnswer : Frame :=
  { Frame.response 4 3 .result [] with
    flags := Frame.tracingFlag ||| Frame.warningFlag ||| Frame.customPayloadFlag }

/-- The rest is the four bytes behind the parts. One byte less than the parts is too few. -/
theorem traced_answer_stripped :
    (ofFrame (tracedForeword.before tracedAnswer [0, 0, 0, 1]) {}).toOption.map
        (fun response => (response.body, response.info.warnings, response.info.tracingId)) =
      some ([0, 0, 0, 1], ["slow query"], some (List.replicate 16 7)) ∧
    ∃ fault, ofFrame { tracedAnswer with body := tracedForeword.encode.dropLast } {} =
      .error (.protocol fault) := by
  have fits : tracedForeword.Fits := by
    refine ⟨?_, ?_, ?_⟩
    · intro id same
      cases same
      rfl
    · intro warnings same
      cases same
      decide
    · intro entries same
      cases same
      decide
  have announced : tracedForeword.AnnouncedBy tracedAnswer := ⟨rfl, rfl, rfl⟩
  obtain ⟨stripped, refused⟩ := stripped_or_refused fits announced [0, 0, 0, 1] {}
  refine ⟨?_, refused _ ?_ (by decide)⟩
  · rw [show ({} : ExecutionInfo) = ExecutionInfo.beforeAnswer {} from rfl, stripped]
    rfl
  · exact (List.dropLast_prefix _).trans (List.prefix_append _ _)

end Response

end CqlDriver

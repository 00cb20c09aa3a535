/-
The optional parts in front of the body of an answer, as a server writes them. A response is
what is left behind them, whatever they are. An error answer is read from the very front of its
body: its parts are taken for the error.
-/

import CqlDriver.Proofs.Wire.ErrorBodies
import CqlDriver.Request.Run

namespace CqlDriver

open Wire

/-- The optional parts in front of a body, where a part that is not there is not announced. -/
structure Foreword where
  tracingId : Option (List UInt8) := none
  warnings : Option (List String) := none
  payload : Option (List (String × Option (List UInt8))) := none
  deriving DecidableEq, Repr

namespace Foreword

def payloadImage (entries : List (String × Option (List UInt8))) : List UInt8 :=
  bigEndian 2 entries.length
    ++ entries.flatMap fun entry => Writer.string entry.1 ++ Writer.bytes entry.2

def encode (foreword : Foreword) : List UInt8 :=
  foreword.tracingId.getD [] ++ ((foreword.warnings.map Writer.stringList).getD []
    ++ (foreword.payload.map payloadImage).getD [])

structure Fits (foreword : Foreword) : Prop where
  tracingId : ∀ id ∈ foreword.tracingId, id.length = 16
  warnings : ∀ warnings ∈ foreword.warnings,
    FitsShort warnings.length ∧ ∀ warning ∈ warnings, FitsText warning
  payload : ∀ entries ∈ foreword.payload,
    FitsShort entries.length ∧
      ∀ entry ∈ entries, FitsText entry.1 ∧ ∀ value ∈ entry.2, value.length < 2147483648

structure AnnouncedBy (foreword : Foreword) (frame : Frame) : Prop where
  tracingId : frame.hasTracing = foreword.tracingId.isSome
  warnings : frame.hasWarnings = foreword.warnings.isSome
  payload : frame.hasCustomPayload = foreword.payload.isSome

def preamble (foreword : Foreword) : Response.Preamble :=
  { tracingId := foreword.tracingId, warnings := foreword.warnings }

def before (foreword : Foreword) (frame : Frame) (body : List UInt8) : Frame :=
  { frame with body := foreword.encode ++ body }

end Foreword

namespace Response

variable {α β : Type} {reader : PreambleReader α} {next : α → PreambleReader β}
  {front back bytes : List UInt8} {value : α} {result : β}

/-- A reader takes just these bytes off the front, whatever stands behind them. -/
def PreambleReader.Takes (reader : PreambleReader α) (bytes : List UInt8) (value : α) : Prop :=
  ∀ behind, reader.run (bytes ++ behind) = .ok value behind

theorem PreambleReader.takes_pure (value : α) :
    PreambleReader.Takes (pure value) [] value := fun _ => rfl

theorem PreambleReader.Takes.bind (first : reader.Takes front value)
    (second : (next value).Takes back result) :
    PreambleReader.Takes (reader >>= next) (front ++ back) result := by
  intro behind
  rw [List.append_assoc, Reader.run_bind, first]
  exact second behind

theorem run_ofBody_ok {part : Reader α} {left : List UInt8}
    (taken : part.run bytes = .ok value left) : (ofBody part).run bytes = .ok value left := by
  change ofBody part bytes = _
  unfold ofBody
  rw [taken]

/-- Only the fault is told in another way. -/
theorem run_ofBody_error {part : Reader α} {left : List UInt8} {fault : BodyFault}
    (failed : part.run bytes = .error fault left) :
    (ofBody part).run bytes = .error (.body fault) left := by
  change ofBody part bytes = _
  unfold ofBody
  rw [failed]

theorem ofBody_takes {part : Reader α} (taken : part.Takes bytes value) :
    (ofBody part).Takes bytes value := fun behind => run_ofBody_ok (taken behind)

theorem PreambleReader.Takes.some (taken : reader.Takes bytes value) :
    PreambleReader.Takes (Option.some <$> reader) bytes (Option.some value) := by
  intro behind
  have read := taken behind
  change EStateM.map Option.some reader (bytes ++ behind) = _
  unfold EStateM.run at read
  unfold EStateM.map
  rw [read]

theorem readTracingId_takes {id : List UInt8} (long : id.length = 16) :
    readTracingId.Takes id id := by
  intro behind
  have enough : holds 16 (id ++ behind) = true := by
    rw [holds_iff, List.length_append]
    omega
  change (if holds 16 (id ++ behind) then _ else _ : PreambleReader (List UInt8)).run _ = _
  rw [if_pos enough]
  change EStateM.Result.ok ((id ++ behind).take 16) ((id ++ behind).drop 16) = _
  rw [List.take_left' long, List.drop_left' long]

theorem skipPayload_takes {entries : List (String × Option (List UInt8))}
    (few : FitsShort entries.length)
    (fit : ∀ entry ∈ entries, FitsText entry.1 ∧ ∀ value ∈ entry.2, value.length < 2147483648) :
    skipPayload.Takes (Foreword.payloadImage entries) () := by
  have keyed : ∀ entry ∈ entries, (Reader.keyed Reader.bytes).Takes
      (Writer.string entry.1 ++ Writer.bytes entry.2) entry := by
    intro entry member
    obtain ⟨key, value⟩ := fit entry member
    exact Reader.keyed_takes key (Reader.bytes_takes value)
  exact (Reader.counted_takes few keyed).map fun _ => ()

theorem readPreamble_eq (frame : Frame) :
    readPreamble frame =
      (if frame.hasTracing then some <$> readTracingId else pure none) >>= fun tracingId =>
        (if frame.hasWarnings then some <$> ofBody Reader.stringList
          else pure none) >>= fun warnings =>
          (if frame.hasCustomPayload then ofBody skipPayload else pure ()) >>= fun _ =>
            pure { tracingId, warnings } := by
  unfold readPreamble
  cases frame.hasTracing <;> cases frame.hasWarnings <;> cases frame.hasCustomPayload <;> rfl

theorem readPreamble_takes {frame : Frame} {foreword : Foreword} (fits : foreword.Fits)
    (announced : foreword.AnnouncedBy frame) :
    (readPreamble frame).Takes foreword.encode foreword.preamble := by
  obtain ⟨tracingId, warnings, payload⟩ := foreword
  rw [readPreamble_eq, announced.tracingId, announced.warnings, announced.payload]
  have tracing : PreambleReader.Takes
      (if tracingId.isSome then some <$> readTracingId else pure none) (tracingId.getD [])
      tracingId := by
    cases tracingId with
    | none => exact PreambleReader.takes_pure none
    | some id => exact (readTracingId_takes (fits.tracingId id rfl)).some
  have warned : PreambleReader.Takes
      (if warnings.isSome then some <$> ofBody Reader.stringList else pure none)
      ((warnings.map Writer.stringList).getD []) warnings := by
    cases warnings with
    | none => exact PreambleReader.takes_pure none
    | some texts =>
        obtain ⟨few, fit⟩ := fits.warnings texts rfl
        exact (ofBody_takes (Reader.stringList_takes few fit)).some
  have skipped : PreambleReader.Takes
      (if payload.isSome then ofBody skipPayload else pure ())
      ((payload.map Foreword.payloadImage).getD []) () := by
    cases payload with
    | none => exact PreambleReader.takes_pure ()
    | some entries =>
        obtain ⟨few, fit⟩ := fits.payload entries rfl
        exact ofBody_takes (skipPayload_takes few fit)
  let preamble : Preamble := { tracingId, warnings }
  have last : PreambleReader.Takes
      ((if payload.isSome then ofBody skipPayload else pure ()) >>= fun _ => pure preamble)
      ((payload.map Foreword.payloadImage).getD [] ++ []) preamble :=
    skipped.bind (PreambleReader.takes_pure preamble)
  rw [List.append_nil] at last
  exact tracing.bind (warned.bind last)

theorem ofFrame_before {frame : Frame} {foreword : Foreword} (fits : foreword.Fits)
    (announced : foreword.AnnouncedBy frame) (body : List UInt8) (info : ExecutionInfo) :
    ofFrame (foreword.before frame body) info =
      .ok
        { frame := some (foreword.before frame body)
          body
          info :=
            { info with
              warnings := foreword.warnings.getD info.warnings
              tracingId := foreword.tracingId.or info.tracingId } } := by
  have read : (readPreamble (foreword.before frame body)).run (foreword.before frame body).body =
      .ok foreword.preamble body := readPreamble_takes fits announced body
  unfold ofFrame
  rw [read]
  rfl

end Response

namespace ServerError

theorem code_of_parse {front behind : List UInt8} {number : Int32} {error : ServerError}
    (begins : Reader.int.Takes front number) (read : parse (front ++ behind) = .ok error) :
    error.code.code = number := by
  have coded : (Reader.string >>= fun message =>
      ErrorDetails.read (ErrorCode.ofCode number) >>= fun details =>
        pure { code := ErrorCode.ofCode number, message, details : ServerError }).Gives
      fun error => error.code = ErrorCode.ofCode number :=
    Reader.gives_behind _ fun _ => Reader.gives_behind _ fun _ => Reader.gives_pure rfl
  unfold parse ServerError.read Reader.onBody at read
  rw [Reader.run_bind, begins] at read
  split at read
  · rename_i given rest taken
    cases read
    rw [coded behind error rest taken]
    exact ErrorCode.code_ofCode number
  · cases read

end ServerError

namespace Foreword

theorem announcedBy_none_iff {frame : Frame} :
    AnnouncedBy {} frame ↔
      frame.hasTracing = false ∧ frame.hasWarnings = false ∧ frame.hasCustomPayload = false :=
  ⟨fun bare => ⟨bare.tracingId, bare.warnings, bare.payload⟩,
    fun bare => ⟨bare.1, bare.2.1, bare.2.2⟩⟩

instance (frame : Frame) : Decidable (AnnouncedBy {} frame) :=
  decidable_of_iff' _ announcedBy_none_iff

theorem AnnouncedBy.eq_none {foreword : Foreword} {frame : Frame}
    (announced : foreword.AnnouncedBy frame) (bare : AnnouncedBy {} frame) : foreword = {} := by
  obtain ⟨tracingId, warnings, payload⟩ := foreword
  have noId : tracingId.isSome = false := announced.tracingId.symm.trans bare.tracingId
  have noWarnings : warnings.isSome = false := announced.warnings.symm.trans bare.warnings
  have noPayload : payload.isSome = false := announced.payload.symm.trans bare.payload
  rw [Option.isSome_eq_false_iff, Option.isNone_iff_eq_none] at noId noWarnings noPayload
  rw [noId, noWarnings, noPayload]

/-- Parts for all flags of a frame, with one number all over. -/
def sample (frame : Frame) (number : Nat) : Foreword :=
  { tracingId := if frame.hasTracing then some (List.replicate 16 (UInt8.ofNat number)) else none
    warnings := if frame.hasWarnings then some (List.replicate number "") else none
    payload := if frame.hasCustomPayload then some (List.replicate number ("", none)) else none }

theorem sample_announced (frame : Frame) (number : Nat) :
    (sample frame number).AnnouncedBy frame := by
  unfold sample
  constructor
  · cases frame.hasTracing <;> rfl
  · cases frame.hasWarnings <;> rfl
  · cases frame.hasCustomPayload <;> rfl

theorem fitsText_empty : FitsText "" := by
  unfold FitsText FitsShort
  decide

theorem sample_fits (frame : Frame) {number : Nat} (few : FitsShort number) :
    (sample frame number).Fits := by
  have only {part : Prop} [Decidable part] {α : Type} {given taken : α}
      (member : taken ∈ if part then some given else none) : given = taken := by
    split at member
    · exact Option.some.inj member
    · cases member
  constructor
  · intro id member
    rw [← only member]
    exact List.length_replicate
  · intro warnings member
    rw [← only member]
    refine ⟨?_, fun warning repeated => ?_⟩
    · rw [List.length_replicate]
      exact few
    · rw [List.eq_of_mem_replicate repeated]
      exact fitsText_empty
  · intro entries member
    rw [← only member]
    refine ⟨?_, fun entry repeated => ?_⟩
    · rw [List.length_replicate]
      exact few
    · rw [List.eq_of_mem_replicate repeated]
      exact ⟨fitsText_empty, nofun⟩

def sampleNumber (frame : Frame) (number : Int32) : Int32 :=
  if frame.hasTracing then number * 0x01010101 else number * 0x00010000

theorem sample_begins {frame : Frame} (announces : ¬AnnouncedBy {} frame) :
    (∃ behind, (sample frame 1).encode = Writer.int (sampleNumber frame 1) ++ behind) ∧
      ∃ behind, (sample frame 2).encode = Writer.int (sampleNumber frame 2) ++ behind := by
  unfold sample sampleNumber
  cases tracing : frame.hasTracing with
  | true => exact ⟨⟨_, rfl⟩, ⟨_, rfl⟩⟩
  | false =>
      cases warned : frame.hasWarnings with
      | true => exact ⟨⟨_, rfl⟩, ⟨_, rfl⟩⟩
      | false =>
          cases loaded : frame.hasCustomPayload with
          | true => exact ⟨⟨_, rfl⟩, ⟨_, rfl⟩⟩
          | false => exact absurd ⟨tracing, warned, loaded⟩ announces

theorem sampleNumber_ne (frame : Frame) : sampleNumber frame 1 ≠ sampleNumber frame 2 := by
  unfold sampleNumber
  cases frame.hasTracing with
  | false => decide
  | true => decide

/-- No error is read behind both of these parts: the first bytes are taken for its code. -/
theorem not_parsed_behind_both {frame : Frame} (announces : ¬AnnouncedBy {} frame)
    (body : List UInt8) (error : ServerError)
    (behindFirst : ServerError.parse ((sample frame 1).encode ++ body) = .ok error) :
    ServerError.parse ((sample frame 2).encode ++ body) ≠ .ok error := by
  intro behindSecond
  obtain ⟨⟨first, firstImage⟩, ⟨second, secondImage⟩⟩ := sample_begins announces
  rw [firstImage, List.append_assoc] at behindFirst
  rw [secondImage, List.append_assoc] at behindSecond
  exact sampleNumber_ne frame
    ((ServerError.code_of_parse (Reader.int_takes _) behindFirst).symm.trans
      (ServerError.code_of_parse (Reader.int_takes _) behindSecond))

end Foreword

namespace RequestRun

variable {Outside : Type} {transport : Transport Outside} {state : RunState Outside}
  {attempt : AttemptId} {node : Node}

/-- An attempt fails with the error of a server just if it is read from the front of the body. -/
theorem eventOf_server_iff (known : state.run.execution.nodeOf? attempt = some node)
    (frame : Frame) (refused : frame.opcode = .error) (error : ServerError) :
    (eventOf transport attempt (.ok frame) state).1 =
        .failed attempt (.server node.address error []) ↔
      ServerError.parse frame.body = .ok error := by
  unfold eventOf AttemptAnswer.ofFrame
  simp only [known, if_pos refused]
  cases ServerError.parse frame.body with
  | ok other =>
      dsimp only
      constructor
      · intro same
        cases same
        rfl
      · intro same
        cases same
        rfl
  | error fault => exact ⟨nofun, nofun⟩

/-- For every error that its body is read back as, and every frame of an error answer: its attempt
fails with just this error behind all parts that the flags announce if and only if they announce
none. A response is what is behind the parts that are announced, whatever the answer is. -/
theorem error_read_at_the_front (transport : Transport Outside)
    (known : state.run.execution.nodeOf? attempt = some node)
    (error : ServerError) (readBack : ServerError.parse error.body = .ok error)
    (frame : Frame) (refused : frame.opcode = .error) :
    ((∀ foreword : Foreword, foreword.Fits → foreword.AnnouncedBy frame →
        (eventOf transport attempt (.ok (foreword.before frame error.body)) state).1 =
          .failed attempt (.server node.address error [])) ↔
      frame.hasTracing = false ∧ frame.hasWarnings = false ∧ frame.hasCustomPayload = false) ∧
    ∀ (answer : Frame) (foreword : Foreword), foreword.Fits → foreword.AnnouncedBy answer →
      ∀ body info,
        Response.ofFrame (foreword.before answer body) info =
          .ok
            { frame := some (foreword.before answer body)
              body
              info :=
                { info with
                  warnings := foreword.warnings.getD info.warnings
                  tracingId := foreword.tracingId.or info.tracingId } } := by
  rw [← Foreword.announcedBy_none_iff]
  refine ⟨⟨fun seen => Decidable.byContradiction fun announces => ?_, fun bare => ?_⟩, ?_⟩
  · have parsed (number : Nat) (few : FitsShort number) :
        ServerError.parse ((Foreword.sample frame number).encode ++ error.body) = .ok error :=
      (eventOf_server_iff known ((Foreword.sample frame number).before frame error.body)
        refused error).mp
        (seen _ (Foreword.sample_fits frame few) (Foreword.sample_announced frame number))
    exact Foreword.not_parsed_behind_both announces error.body error
      (parsed 1 (by unfold FitsShort; decide)) (parsed 2 (by unfold FitsShort; decide))
  · intro foreword fits announced
    rw [announced.eq_none bare]
    exact (eventOf_server_iff known (Foreword.before {} frame error.body) refused
      error).mpr readBack
  · intro answer foreword fits announced body info
    exact Response.ofFrame_before fits announced body info

def outOnOneNode : RunState (List AttemptId) :=
  let node : Node :=
    { id := ⟨1⟩, info := { address := ⟨.ofParts 127 0 0 1, 9042, 0⟩ }, distance := .localDc }
  { run :=
      { execution :=
          { plan := [], idempotent := true, speculates := false, phase := .inFlight
            inFlight := [(⟨0⟩, { node, line := 0 })], nextAttempt := 1, retryCounts := [0] }
        outstanding := [⟨0⟩] }
    retry := .script [] none
    outside := [] }

def openRoad : Transport (List AttemptId) :=
  { send := fun _ _ noted => (.ok (), noted), distrust := fun attempt noted => attempt :: noted }

def brokenSyntax : ServerError := { code := .syntaxError, message := "x" }

def warnedError : Frame :=
  { Frame.response 4 0 .error [] with flags := Frame.warningFlag }

theorem warned_error_hides :
    ¬(∀ foreword : Foreword, foreword.Fits → foreword.AnnouncedBy warnedError →
        (eventOf openRoad ⟨0⟩ (.ok (foreword.before warnedError brokenSyntax.body))
          outOnOneNode).1 =
            .failed ⟨0⟩ (.server ⟨.ofParts 127 0 0 1, 9042, 0⟩ brokenSyntax [])) ∧
      (Response.ofFrame (Foreword.before { warnings := some ["w"] }
        { warnedError with opcode := .result } [7]) {}).toOption.map
          (fun response => (response.body, response.info.warnings)) = some ([7], ["w"]) := by
  have known : outOnOneNode.run.execution.nodeOf? ⟨0⟩ = some
      { id := ⟨1⟩, info := { address := ⟨.ofParts 127 0 0 1, 9042, 0⟩ }, distance := .localDc } :=
    rfl
  obtain ⟨hides, shown⟩ :=
    error_read_at_the_front openRoad known brokenSyntax rfl warnedError rfl
  refine ⟨fun seen => absurd (hides.mp seen).2.1 (by decide), ?_⟩
  rw [shown { warnedError with opcode := .result } { warnings := some ["w"] } ?_ ?_ [7] {}]
  · rfl
  · refine ⟨nofun, ?_, nofun⟩
    intro warnings same
    cases same
    unfold FitsShort FitsText FitsShort
    decide
  · exact ⟨rfl, rfl, rfl⟩

/-- Behind a warning a syntax error is taken for a text that is too long, and its channel is
distrusted. -/
theorem warned_error_is_misread :
    let warned := Foreword.before { warnings := some ["w"] } warnedError brokenSyntax.body
    let ended := eventOf openRoad ⟨0⟩ (.ok warned) outOnOneNode
    ended.1 = .failed ⟨0⟩ (.protocol (.body (.truncated "string" 30464 6))) ∧
      ended.1 ≠ .failed ⟨0⟩ (.server ⟨.ofParts 127 0 0 1, 9042, 0⟩ brokenSyntax []) ∧
      ended.2.outside = [⟨0⟩] := by
  intro warned ended
  have misread : ended.1 = .failed ⟨0⟩ (.protocol (.body (.truncated "string" 30464 6))) := rfl
  refine ⟨misread, ?_, rfl⟩
  rw [misread]
  nofun

end RequestRun

end CqlDriver

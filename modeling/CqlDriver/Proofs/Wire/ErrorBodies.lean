/-
Error answers and their bodies. A body is read as an error that can be written, and the
body that is written for such an error is read as this error, whatever stands behind it.
-/

import CqlDriver.Proofs.Wire.Notation
import CqlDriver.Wire.ErrorBody

namespace CqlDriver

open Wire

namespace ErrorCode

def isKnown : ErrorCode → Bool
  | .unknown _ => false
  | _ => true

def Canonical : ErrorCode → Prop
  | .unknown number => ∀ known : ErrorCode, known.isKnown = true → known.code ≠ number
  | _ => True

theorem code_ofCode (number : Int32) : (ofCode number).code = number := by
  unfold ofCode
  repeat'
    refine iteInduction (motive := fun code : ErrorCode => code.code = number)
      (fun same => same.symm) fun _ => ?_
  rfl

theorem ofCode_of_known {code : ErrorCode} (known : code.isKnown = true) :
    ofCode code.code = code := by
  cases code with
  | unknown number => cases known
  | _ => rfl

theorem ofCode_unknown {number other : Int32} (named : ofCode number = .unknown other) :
    number = other := by
  have same := code_ofCode number
  rw [named] at same
  exact same.symm

theorem ofCode_canonical (number : Int32) : (ofCode number).Canonical := by
  cases named : ofCode number with
  | unknown other =>
      intro known isKnown sameNumber
      have found := ofCode_of_known isKnown
      rw [sameNumber, ← ofCode_unknown named, named] at found
      rw [← found] at isKnown
      cases isKnown
  | _ => trivial

theorem Canonical.ofCode_code {code : ErrorCode} (canonical : code.Canonical) :
    ofCode code.code = code := by
  cases code with
  | unknown number =>
      cases named : ofCode number with
      | unknown other => exact ofCode_unknown named ▸ named
      | _ => exact absurd (named ▸ code_ofCode number) (canonical _ rfl)
  | _ => rfl

end ErrorCode

namespace WriteType

def isKnown : WriteType → Bool
  | .other _ => false
  | _ => true

def Canonical : WriteType → Prop
  | .other name => ∀ known : WriteType, known.isKnown = true → known.wireName ≠ name
  | _ => True

theorem wireName_parse (name : String) : (parse name).wireName = name := by
  unfold parse
  repeat'
    refine iteInduction (motive := fun writeType : WriteType => writeType.wireName = name)
      (fun same => same.symm) fun _ => ?_
  rfl

theorem parse_of_known {writeType : WriteType} (known : writeType.isKnown = true) :
    parse writeType.wireName = writeType := by
  cases writeType with
  | other name => cases known
  | _ => rfl

theorem parse_other {name other : String} (named : parse name = .other other) : name = other := by
  have same := wireName_parse name
  rw [named] at same
  exact same.symm

theorem parse_canonical (name : String) : (parse name).Canonical := by
  cases named : parse name with
  | other text =>
      intro known isKnown sameName
      have found := parse_of_known isKnown
      rw [sameName, ← parse_other named, named] at found
      rw [← found] at isKnown
      cases isKnown
  | _ => trivial

theorem Canonical.parse_wireName {writeType : WriteType} (canonical : writeType.Canonical) :
    parse writeType.wireName = writeType := by
  cases writeType with
  | other name =>
      cases named : parse name with
      | other text => exact parse_other named ▸ named
      | _ => exact absurd (named ▸ wireName_parse name) (canonical _ rfl)
  | _ => rfl

end WriteType

namespace ErrorDetails

def owner? : ErrorDetails → Option ErrorCode
  | .none => Option.none
  | .unavailable .. => some .unavailable
  | .readTimeout .. => some .readTimeout
  | .writeTimeout .. => some .writeTimeout
  | .readFailure .. => some .readFailure
  | .writeFailure .. => some .writeFailure
  | .functionFailure .. => some .functionFailure
  | .alreadyExists .. => some .alreadyExists
  | .unprepared .. => some .unprepared

/-- Fields belong to their code, and none belong to a code that has no fields. -/
def BelongTo (code : ErrorCode) (details : ErrorDetails) : Prop :=
  match details.owner? with
  | some owner => code = owner
  | Option.none => ∀ others : ErrorDetails, others.owner? ≠ some code

def Writable : ErrorDetails → Prop
  | .writeTimeout _ _ _ writeType | .writeFailure _ _ _ _ writeType =>
      writeType.Canonical ∧ FitsText writeType.wireName
  | .functionFailure keyspace function argTypes =>
      FitsText keyspace ∧ FitsText function ∧ FitsShort argTypes.length ∧
        ∀ argType ∈ argTypes, FitsText argType
  | .alreadyExists keyspace table => FitsText keyspace ∧ FitsText table
  | .unprepared id => FitsShort id.length
  | _ => True

theorem present_ne_zero (value : Bool) : (present value != 0) = value := by
  cases value with
  | false => rfl
  | true => rfl

theorem read_of_none {code : ErrorCode} (belong : ErrorDetails.none.BelongTo code) :
    read code = pure .none := by
  have noFields (others : ErrorDetails) : others.owner? ≠ some code := belong others
  cases code with
  | unavailable => exact absurd rfl (noFields (.unavailable 0 0 0))
  | readTimeout => exact absurd rfl (noFields (.readTimeout 0 0 0 false))
  | writeTimeout => exact absurd rfl (noFields (.writeTimeout 0 0 0 .simple))
  | readFailure => exact absurd rfl (noFields (.readFailure 0 0 0 0 false))
  | writeFailure => exact absurd rfl (noFields (.writeFailure 0 0 0 0 .simple))
  | functionFailure => exact absurd rfl (noFields (.functionFailure "" "" []))
  | alreadyExists => exact absurd rfl (noFields (.alreadyExists "" ""))
  | unprepared => exact absurd rfl (noFields (.unprepared []))
  | _ => rfl

/-- The fields of an error are read back from their bytes. -/
theorem read_takes {code : ErrorCode} {details : ErrorDetails} (belong : details.BelongTo code)
    (writable : details.Writable) : (read code).Takes details.encode details := by
  cases details with
  | none =>
      rw [read_of_none belong]
      exact Reader.takes_pure ErrorDetails.none
  | unavailable consistency required alive =>
      cases belong
      simp only [encode, List.append_assoc]
      exact (Reader.short_takes consistency).bind
        ((Reader.int_takes required).bind ((Reader.int_takes alive).map _))
  | readTimeout consistency received blockFor dataPresent =>
      cases belong
      have flag := (Reader.byte_takes (present dataPresent)).map fun byte =>
        ErrorDetails.readTimeout consistency received blockFor (byte != 0)
      rw [present_ne_zero] at flag
      simp only [encode, List.append_assoc]
      exact (Reader.short_takes consistency).bind
        ((Reader.int_takes received).bind ((Reader.int_takes blockFor).bind flag))
  | writeTimeout consistency received blockFor writeType =>
      cases belong
      obtain ⟨canonical, fits⟩ := writable
      have kind := (Reader.string_takes fits).map fun name =>
        ErrorDetails.writeTimeout consistency received blockFor (WriteType.parse name)
      rw [canonical.parse_wireName] at kind
      simp only [encode, List.append_assoc]
      exact (Reader.short_takes consistency).bind
        ((Reader.int_takes received).bind ((Reader.int_takes blockFor).bind kind))
  | readFailure consistency received blockFor failures dataPresent =>
      cases belong
      have flag := (Reader.byte_takes (present dataPresent)).map fun byte =>
        ErrorDetails.readFailure consistency received blockFor failures (byte != 0)
      rw [present_ne_zero] at flag
      simp only [encode, List.append_assoc]
      exact (Reader.short_takes consistency).bind ((Reader.int_takes received).bind
        ((Reader.int_takes blockFor).bind ((Reader.int_takes failures).bind flag)))
  | writeFailure consistency received blockFor failures writeType =>
      cases belong
      obtain ⟨canonical, fits⟩ := writable
      have kind := (Reader.string_takes fits).map fun name =>
        ErrorDetails.writeFailure consistency received blockFor failures (WriteType.parse name)
      rw [canonical.parse_wireName] at kind
      simp only [encode, List.append_assoc]
      exact (Reader.short_takes consistency).bind ((Reader.int_takes received).bind
        ((Reader.int_takes blockFor).bind ((Reader.int_takes failures).bind kind)))
  | functionFailure keyspace function argTypes =>
      cases belong
      obtain ⟨keyspaceFits, functionFits, few, fit⟩ := writable
      simp only [encode, List.append_assoc]
      exact (Reader.string_takes keyspaceFits).bind
        ((Reader.string_takes functionFits).bind ((Reader.stringList_takes few fit).map _))
  | alreadyExists keyspace table =>
      cases belong
      obtain ⟨keyspaceFits, tableFits⟩ := writable
      exact (Reader.string_takes keyspaceFits).bind ((Reader.string_takes tableFits).map _)
  | unprepared id =>
      cases belong
      exact (Reader.shortBytes_takes writable).map _

/-- What is read for a code belongs to it and can be written. -/
theorem read_gives (code : ErrorCode) :
    (read code).Gives fun details => details.BelongTo code ∧ details.Writable := by
  have bare (noFields : ∀ others : ErrorDetails, others.owner? ≠ some code) :
      Reader.Gives (pure ErrorDetails.none)
        fun details => details.BelongTo code ∧ details.Writable :=
    Reader.gives_pure ⟨noFields, trivial⟩
  cases code with
  | unavailable =>
      refine Reader.gives_behind _ fun _ => Reader.gives_behind _ fun _ =>
        Reader.gives_behind _ fun _ => Reader.gives_pure ?_
      exact ⟨rfl, trivial⟩
  | readTimeout =>
      refine Reader.gives_behind _ fun _ => Reader.gives_behind _ fun _ =>
        Reader.gives_behind _ fun _ => Reader.gives_behind _ fun _ => Reader.gives_pure ?_
      exact ⟨rfl, trivial⟩
  | writeTimeout =>
      refine Reader.gives_behind _ fun _ => Reader.gives_behind _ fun _ =>
        Reader.gives_behind _ fun _ => Reader.string_gives.bind fun name fits =>
          Reader.gives_pure ?_
      exact ⟨rfl, WriteType.parse_canonical name, (WriteType.wireName_parse name).symm ▸ fits⟩
  | readFailure =>
      refine Reader.gives_behind _ fun _ => Reader.gives_behind _ fun _ =>
        Reader.gives_behind _ fun _ => Reader.gives_behind _ fun _ =>
          Reader.gives_behind _ fun _ => Reader.gives_pure ?_
      exact ⟨rfl, trivial⟩
  | writeFailure =>
      refine Reader.gives_behind _ fun _ => Reader.gives_behind _ fun _ =>
        Reader.gives_behind _ fun _ => Reader.gives_behind _ fun _ =>
          Reader.string_gives.bind fun name fits => Reader.gives_pure ?_
      exact ⟨rfl, WriteType.parse_canonical name, (WriteType.wireName_parse name).symm ▸ fits⟩
  | functionFailure =>
      refine Reader.string_gives.bind fun keyspace keyspaceFits =>
        Reader.string_gives.bind fun function functionFits =>
          Reader.stringList_gives.bind fun argTypes fit => Reader.gives_pure ?_
      exact ⟨rfl, keyspaceFits, functionFits, fit⟩
  | alreadyExists =>
      refine Reader.string_gives.bind fun keyspace keyspaceFits =>
        Reader.string_gives.bind fun table tableFits => Reader.gives_pure ?_
      exact ⟨rfl, keyspaceFits, tableFits⟩
  | unprepared =>
      refine Reader.shortBytes_gives.bind fun id fits => Reader.gives_pure ?_
      exact ⟨rfl, fits⟩
  | _ =>
      refine bare fun others same => ?_
      cases others <;> cases same

end ErrorDetails

namespace ServerError

/-- An error that can be told apart from all others by its body. -/
structure Canonical (error : ServerError) : Prop where
  code : error.code.Canonical
  message : FitsText error.message
  belong : error.details.BelongTo error.code
  writable : error.details.Writable

theorem read_takes {error : ServerError} (canonical : error.Canonical) :
    read.Takes error.body error := by
  have details := ErrorDetails.read_takes canonical.belong canonical.writable
  unfold body
  rw [List.append_assoc]
  refine (Reader.int_takes error.code.code).bind
    ((Reader.string_takes canonical.message).bind ?_)
  rw [canonical.code.ofCode_code]
  exact details.map fun details =>
    ({ code := error.code, message := error.message, details } : ServerError)

theorem read_gives : read.Gives Canonical := by
  refine Reader.gives_behind Reader.int fun number => ?_
  refine Reader.string_gives.bind fun message fits => ?_
  refine (ErrorDetails.read_gives (ErrorCode.ofCode number)).bind fun details written => ?_
  exact Reader.gives_pure
    ⟨ErrorCode.ofCode_canonical number, fits, written.1, written.2⟩

theorem begins_with_code {received : List UInt8} {error : ServerError}
    (parsed : parse received = .ok error) :
    ∃ behind, received = Writer.int error.code.code ++ behind := by
  unfold parse Reader.onBody at parsed
  unfold read at parsed
  rw [Reader.run_bind] at parsed
  cases first : Reader.int.run received with
  | error fault left =>
      rw [first] at parsed
      cases parsed
  | ok number behind =>
      rw [first] at parsed
      have named : ((do
          let message ← Reader.string
          let details ← ErrorDetails.read (ErrorCode.ofCode number)
          return { code := ErrorCode.ofCode number, message, details } :
            Reader ServerError)).Gives fun error => error.code = ErrorCode.ofCode number :=
        Reader.gives_behind Reader.string fun _ =>
          Reader.gives_behind (ErrorDetails.read _) fun _ => Reader.gives_pure rfl
      have code : error.code = ErrorCode.ofCode number := named.onBody parsed
      rw [code, ErrorCode.code_ofCode]
      exact ⟨behind, Reader.int_run first⟩

/-- Writing undoes reading, and reading undoes writing. -/
theorem error_bodies_read_back :
    (∀ (body : List UInt8) (error : ServerError), parse body = .ok error →
      parse error.body = .ok error) ∧
    ∀ error : ServerError, error.Canonical → ∀ behind : List UInt8,
      parse (error.body ++ behind) = .ok error := by
  constructor
  · intro body error read
    have whole := (read_takes (read_gives.onBody read)).onBody []
    rw [List.append_nil] at whole
    exact whole
  · intro error canonical behind
    exact (read_takes canonical).onBody behind

/-- A read timeout whose flag is any byte but zero, and a failed write of a kind that
has no name here, with bytes behind it. -/
theorem timeout_and_failure_read_back :
    parse (ServerError.mk .readTimeout "slow" (.readTimeout 4 1 2 true)).body =
      .ok ⟨.readTimeout, "slow", .readTimeout 4 1 2 true⟩ ∧
    parse ((ServerError.mk .writeFailure "é" (.writeFailure 6 1 3 2 (.other "CAS2"))).body ++
        [255, 0]) = .ok ⟨.writeFailure, "é", .writeFailure 6 1 3 2 (.other "CAS2")⟩ := by
  have slow :
      parse [0, 0, 18, 0, 0, 4, 115, 108, 111, 119, 0, 4, 0, 0, 0, 1, 0, 0, 0, 2, 7] =
        .ok ⟨.readTimeout, "slow", .readTimeout 4 1 2 true⟩ := by
    rfl
  have unnamed : WriteType.Canonical (.other "CAS2") := by
    intro known isKnown
    cases known with
    | other name => cases isKnown
    | _ => decide
  have canonical : Canonical ⟨.writeFailure, "é", .writeFailure 6 1 3 2 (.other "CAS2")⟩ := by
    refine ⟨trivial, ?_, rfl, unnamed, ?_⟩
    · unfold FitsText FitsShort
      decide +kernel
    · unfold FitsText FitsShort
      decide +kernel
  exact ⟨error_bodies_read_back.1 _ _ slow, error_bodies_read_back.2 _ canonical [255, 0]⟩

end ServerError

end CqlDriver

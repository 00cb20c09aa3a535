/-
Pushed events and their bodies. An event that was read is written as a body it is read
back from, unless it is a change at a target that is none of the five named ones: behind
the name of such an element a list of arguments is read, and none is written.
-/

import CqlDriver.Proofs.Wire.Notation
import CqlDriver.Wire.EventBody

namespace CqlDriver

open Wire

theorem TopologyChange.parse?_wireName (change : TopologyChange) :
    parse? change.wireName = some change := by
  cases change <;> rfl

theorem TopologyChange.fits_wireName (change : TopologyChange) : FitsText change.wireName := by
  unfold FitsText FitsShort
  cases change <;> decide +kernel

theorem StatusChange.parse?_wireName (change : StatusChange) :
    parse? change.wireName = some change := by
  cases change <;> rfl

theorem StatusChange.fits_wireName (change : StatusChange) : FitsText change.wireName := by
  unfold FitsText FitsShort
  cases change <;> decide +kernel

namespace ServerEvent

variable {target : String} {name : Option String} {arguments : List String} {event : ServerEvent}

theorem fits_kind {kind : String} (known : kind ∈ kinds) : FitsText kind := by
  have all : ∀ kind ∈ kinds, (Text.Utf8.encode kind).length < 65536 := by decide +kernel
  exact all kind known

/-- Targets of elements that have a name but no arguments. -/
abbrev IsPlain (target : String) : Prop := target = "TABLE" ∨ target = "TYPE"

abbrev IsSigned (target : String) : Prop := target = "FUNCTION" ∨ target = "AGGREGATE"

abbrev IsKnown (target : String) : Prop :=
  target = "KEYSPACE" ∨ IsPlain target ∨ IsSigned target

inductive Element (target : String) : Option String → List String → Prop where
  | keyspace (whole : target = "KEYSPACE") : Element target none []
  | plain {name : String} (isPlain : IsPlain target) (fits : FitsText name) :
      Element target (some name) []
  | listed {name : String} {arguments : List String} (notWhole : target ≠ "KEYSPACE")
      (notPlain : ¬IsPlain target) (fits : FitsText name) (few : FitsShort arguments.length)
      (fit : ∀ argument ∈ arguments, FitsText argument) :
      Element target (some name) arguments

theorem readElement_plain (isPlain : IsPlain target) :
    readElement target = Reader.string >>= fun name => pure (some name, []) := by
  have notWhole : target ≠ "KEYSPACE" := by
    rintro rfl
    revert isPlain
    decide
  unfold readElement
  rw [if_neg notWhole, if_pos isPlain]

theorem readElement_listed (notWhole : target ≠ "KEYSPACE") (notPlain : ¬IsPlain target) :
    readElement target = Reader.string >>= fun name => Reader.stringList >>= fun arguments =>
      pure (some name, arguments) := by
  unfold readElement
  rw [if_neg notWhole, if_neg notPlain]

theorem encodeElement_unsigned (unsigned : ¬IsSigned target) (name : String) :
    encodeElement target (some name) arguments = Writer.string name := by
  unfold encodeElement
  rw [if_neg unsigned, List.append_nil]

theorem encodeElement_signed (signed : IsSigned target) (name : String) :
    encodeElement target (some name) arguments =
      Writer.string name ++ Writer.stringList arguments := by
  unfold encodeElement
  rw [if_pos signed]

theorem readElement_gives (target : String) :
    (readElement target).Gives fun element => Element target element.1 element.2 := by
  by_cases whole : target = "KEYSPACE"
  · unfold readElement
    rw [if_pos whole]
    exact Reader.gives_pure (.keyspace whole)
  by_cases isPlain : IsPlain target
  · rw [readElement_plain isPlain]
    exact Reader.string_gives.bind fun name fits => Reader.gives_pure (.plain isPlain fits)
  · rw [readElement_listed whole isPlain]
    refine Reader.string_gives.bind fun name fits =>
      Reader.stringList_gives.bind fun arguments listed => Reader.gives_pure ?_
    exact .listed whole isPlain fits listed.1 listed.2

theorem readElement_takes (element : Element target name arguments) (known : IsKnown target) :
    (readElement target).Takes (encodeElement target name arguments) (name, arguments) := by
  cases element with
  | keyspace whole =>
      subst whole
      exact Reader.takes_pure _
  | @plain name isPlain fits =>
      have unsigned : ¬IsSigned target := by
        rcases isPlain with rfl | rfl
        · decide
        · decide
      rw [readElement_plain isPlain, encodeElement_unsigned unsigned]
      exact (Reader.string_takes fits).map fun name => (some name, [])
  | @listed name arguments notWhole notPlain fits few fit =>
      have signed : IsSigned target := (known.resolve_left notWhole).resolve_left notPlain
      rw [readElement_listed notWhole notPlain, encodeElement_signed signed]
      exact (Reader.string_takes fits).bind
        ((Reader.stringList_takes few fit).map fun arguments => (some name, arguments))

theorem readElement_fails (element : Element target name arguments) (unknown : ¬IsKnown target) :
    (readElement target).Fails (encodeElement target name arguments)
      (.truncated "short" 2 0) := by
  have unsigned : ¬IsSigned target := fun signed => unknown (.inr (.inr signed))
  cases element with
  | keyspace whole => exact absurd (.inl whole) unknown
  | plain isPlain fits => exact absurd (.inr (.inl isPlain)) unknown
  | @listed name arguments notWhole notPlain fits few fit =>
      rw [readElement_listed notWhole notPlain, encodeElement_unsigned unsigned,
        ← List.append_nil (Writer.string name)]
      refine (Reader.string_takes fits).fails (Reader.Fails.bind ?_ _)
      exact ((Reader.exactly_fails "short" (by decide)).bind _).bind _

/-- An event as it is read: an address has no scope, and every part can be written. -/
def AsRead : ServerEvent → Prop
  | .topology _ address | .status _ address => address.scope = 0
  | .schema change target keyspace name arguments =>
      FitsText change ∧ FitsText target ∧ FitsText keyspace ∧ Element target name arguments

def isNamed : ServerEvent → Bool
  | .schema _ target _ _ _ => decide (IsKnown target)
  | _ => true

theorem read_gives : read.Gives AsRead := by
  refine Reader.gives_behind Reader.string fun kind => ?_
  refine Reader.gives_ite ?topology (Reader.gives_ite ?status
    (Reader.gives_ite ?schema (Reader.gives_throw (.unknownEvent kind))))
  case topology =>
    refine Reader.gives_behind Reader.string fun name => ?_
    cases TopologyChange.parse? name with
    | none => exact Reader.gives_throw (.unknownTopologyChange name)
    | some change =>
        exact Reader.inet_gives.bind fun address plain => Reader.gives_pure plain
  case status =>
    refine Reader.gives_behind Reader.string fun name => ?_
    cases StatusChange.parse? name with
    | none => exact Reader.gives_throw (.unknownStatusChange name)
    | some change =>
        exact Reader.inet_gives.bind fun address plain => Reader.gives_pure plain
  case schema =>
    refine Reader.string_gives.bind fun change changeFits => ?_
    refine Reader.string_gives.bind fun target targetFits => ?_
    refine Reader.string_gives.bind fun keyspace keyspaceFits => ?_
    refine (readElement_gives target).bind fun element given => Reader.gives_pure ?_
    exact ⟨changeFits, targetFits, keyspaceFits, given⟩

theorem read_takes (asRead : event.AsRead) (named : event.isNamed = true) :
    read.Takes event.body event := by
  cases event with
  | topology change address =>
      simp only [body, List.append_assoc]
      refine (Reader.string_takes (fits_kind (by decide))).bind ?_
      rw [if_pos rfl]
      refine (Reader.string_takes change.fits_wireName).bind ?_
      rw [change.parse?_wireName]
      exact (Reader.inet_takes asRead).map (ServerEvent.topology change)
  | status change address =>
      simp only [body, List.append_assoc]
      refine (Reader.string_takes (fits_kind (by decide))).bind ?_
      rw [if_neg (by decide), if_pos rfl]
      refine (Reader.string_takes change.fits_wireName).bind ?_
      rw [change.parse?_wireName]
      exact (Reader.inet_takes asRead).map (ServerEvent.status change)
  | schema change target keyspace name arguments =>
      obtain ⟨changeFits, targetFits, keyspaceFits, element⟩ := asRead
      have last := readElement_takes element (of_decide_eq_true named)
      simp only [body, List.append_assoc]
      refine (Reader.string_takes (fits_kind (by decide))).bind ?_
      rw [if_neg (by decide), if_neg (by decide), if_pos rfl]
      refine (Reader.string_takes changeFits).bind ((Reader.string_takes targetFits).bind
        ((Reader.string_takes keyspaceFits).bind ?_))
      exact last.map fun element =>
        ServerEvent.schema change target keyspace element.1 element.2

theorem read_fails (asRead : event.AsRead) (unnamed : event.isNamed = false) :
    read.Fails event.body (.truncated "short" 2 0) := by
  cases event with
  | topology change address => cases unnamed
  | status change address => cases unnamed
  | schema change target keyspace name arguments =>
      obtain ⟨changeFits, targetFits, keyspaceFits, element⟩ := asRead
      have last := readElement_fails element (of_decide_eq_false unnamed)
      simp only [body, List.append_assoc]
      refine (Reader.string_takes (fits_kind (by decide))).fails ?_
      rw [if_neg (by decide), if_neg (by decide), if_pos rfl]
      refine (Reader.string_takes changeFits).fails ((Reader.string_takes targetFits).fails
        ((Reader.string_takes keyspaceFits).fails (last.bind _)))

/-- An event that was read is read back from its body just if it is no change at an
unnamed target. -/
theorem event_bodies_read_back {received : List UInt8} (parsed : parse received = .ok event) :
    parse event.body =
      if event.isNamed then .ok event else .error (.truncated "short" 2 0) := by
  have asRead : event.AsRead := read_gives.onBody parsed
  cases named : event.isNamed with
  | false =>
      rw [if_neg (by decide)]
      exact (read_fails asRead named).onBody
  | true =>
      have whole := (read_takes asRead named).onBody []
      rw [List.append_nil] at whole
      rw [if_pos rfl]
      exact whole

def droppedFunction : List UInt8 :=
  [0, 13, 83, 67, 72, 69, 77, 65, 95, 67, 72, 65, 78, 71, 69, 0, 7, 68, 82, 79, 80, 80, 69, 68,
    0, 8, 70, 85, 78, 67, 84, 73, 79, 78, 0, 2, 107, 115, 0, 1, 102, 0, 1, 0, 3, 105, 110, 116]

/-- The image of a created index, with the empty list behind its name. -/
def createdIndex : List UInt8 :=
  [0, 13, 83, 67, 72, 69, 77, 65, 95, 67, 72, 65, 78, 71, 69, 0, 7, 67, 82, 69, 65, 84, 69, 68,
    0, 5, 73, 78, 68, 69, 88, 0, 2, 107, 115, 0, 6, 98, 121, 95, 97, 103, 101, 0, 0]

theorem dropped_function_reads_back :
    parse droppedFunction = .ok (.schema "DROPPED" "FUNCTION" "ks" (some "f") ["int"]) ∧
    parse (schema "DROPPED" "FUNCTION" "ks" (some "f") ["int"]).body =
      .ok (.schema "DROPPED" "FUNCTION" "ks" (some "f") ["int"]) := by
  have parsed :
      parse droppedFunction = .ok (.schema "DROPPED" "FUNCTION" "ks" (some "f") ["int"]) := by
    rfl
  exact ⟨parsed, event_bodies_read_back parsed⟩

theorem created_index_is_not_read_back :
    parse createdIndex = .ok (.schema "CREATED" "INDEX" "ks" (some "by_age") []) ∧
    parse (schema "CREATED" "INDEX" "ks" (some "by_age") []).body =
      .error (.truncated "short" 2 0) := by
  constructor
  · rfl
  · rfl

end ServerEvent
end CqlDriver

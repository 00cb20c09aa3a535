/-
Values of several kinds, one behind the other in one buffer. The readers of their kinds, in
the same order, give the same values and leave just what stands behind them, as long as every
length fits its field. A value with a longer part is never read back.
-/

import CqlDriver.Proofs.Wire.Notation
import Mathlib.Data.List.Forall2
import Mathlib.Data.List.Perm.Subperm

namespace CqlDriver.Wire

section Keys

variable {α : Type}

def sortedByKey (entries : List (String × α)) : List (String × α) :=
  entries.mergeSort fun left right => !(right.1 < left.1)

/-- Puts an entry in front of sorted ones, unless the first of them has its key. -/
def unlessRepeated (entry : String × α) : List (String × α) → List (String × α)
  | next :: rest => if next.1 = entry.1 then next :: rest else entry :: next :: rest
  | [] => [entry]

theorem byKey_eq (entries : List (String × α)) :
    byKey entries = (sortedByKey entries).foldr unlessRepeated [] := by
  change (sortedByKey entries).foldr _ [] = _
  congr 1
  funext entry later
  cases later <;> rfl

theorem sortedByKey_sorted (entries : List (String × α)) :
    (sortedByKey entries).Pairwise fun left right => left.1 ≤ right.1 := by
  let below := fun left right : String × α => !(right.1 < left.1)
  have below_iff (left right : String × α) : below left right = true ↔ left.1 ≤ right.1 := by
    rw [Bool.not_eq_true', decide_eq_false_iff_not, String.not_lt]
  have sorted : (sortedByKey entries).Pairwise fun left right => below left right = true := by
    refine List.pairwise_mergeSort ?transitive ?total entries
    case transitive =>
      intro first second third
      rw [below_iff, below_iff, below_iff]
      exact String.le_trans
    case total =>
      intro left right
      rw [Bool.or_eq_true, below_iff, below_iff]
      exact String.le_total left.1 right.1
  exact sorted.imp (below_iff _ _).mp

theorem unlessRepeated_sublist (entry : String × α) (later : List (String × α)) :
    (unlessRepeated entry later).Sublist (entry :: later) := by
  unfold unlessRepeated
  split
  · split
    · exact List.sublist_cons_self _ _
    · exact List.Sublist.refl _
  · exact List.Sublist.refl _

theorem withoutRepeated_sublist (sorted : List (String × α)) :
    (sorted.foldr unlessRepeated []).Sublist sorted := by
  induction sorted with
  | nil => exact List.Sublist.refl []
  | cons entry rest ih =>
      exact (unlessRepeated_sublist entry _).trans (ih.cons_cons entry)

theorem unlessRepeated_increasing {entry : String × α} {later : List (String × α)}
    (least : ∀ other ∈ later, entry.1 ≤ other.1)
    (increasing : later.Pairwise fun left right => left.1 < right.1) :
    (unlessRepeated entry later).Pairwise fun left right => left.1 < right.1 := by
  cases later with
  | nil => exact List.pairwise_singleton _ entry
  | cons next rest =>
      unfold unlessRepeated
      dsimp only
      split
      · exact increasing
      · rename_i different
        have first : entry.1 < next.1 := by
          refine String.not_le.mp fun above => different ?_
          exact String.le_antisymm above (least next List.mem_cons_self)
        refine increasing.cons fun other member => ?_
        rcases List.mem_cons.mp member with same | further
        · exact same ▸ first
        · exact String.lt_trans first (List.rel_of_pairwise_cons increasing further)

theorem withoutRepeated_increasing {sorted : List (String × α)}
    (ordered : sorted.Pairwise fun left right => left.1 ≤ right.1) :
    (sorted.foldr unlessRepeated []).Pairwise fun left right => left.1 < right.1 := by
  induction ordered with
  | nil => exact List.Pairwise.nil
  | @cons entry rest least _ ih =>
      refine unlessRepeated_increasing (fun other kept => ?_) ih
      exact least other ((withoutRepeated_sublist rest).mem kept)

theorem withoutRepeated_of_nodup {sorted : List (String × α)}
    (distinct : (sorted.map Prod.fst).Nodup) : sorted.foldr unlessRepeated [] = sorted := by
  induction sorted with
  | nil => rfl
  | cons entry rest ih =>
      rw [List.map_cons, List.nodup_cons] at distinct
      rw [List.foldr_cons, ih distinct.2]
      cases rest with
      | nil => rfl
      | cons next further =>
          refine if_neg fun same => distinct.1 ?_
          rw [← same]
          exact List.mem_cons_self

theorem byKey_distinct (entries : List (String × α)) : ((byKey entries).map Prod.fst).Nodup := by
  rw [byKey_eq, List.Nodup, List.pairwise_map]
  refine (withoutRepeated_increasing (sortedByKey_sorted entries)).imp fun ordered same => ?_
  rw [same] at ordered
  exact String.lt_irrefl _ ordered

theorem byKey_subperm (entries : List (String × α)) : (byKey entries).Subperm entries := by
  rw [byKey_eq]
  exact (withoutRepeated_sublist _).subperm.trans (List.mergeSort_perm entries _).subperm

theorem byKey_perm {entries : List (String × α)} (distinct : (entries.map Prod.fst).Nodup) :
    (byKey entries).Perm entries := by
  have sorted : (sortedByKey entries).Perm entries := List.mergeSort_perm entries _
  rw [byKey_eq, withoutRepeated_of_nodup ((sorted.map Prod.fst).nodup_iff.mpr distinct)]
  exact sorted

end Keys

inductive Part
  | string (text : String)
  | longString (text : String)
  | stringList (texts : List String)
  | stringMap (entries : List (String × String))
  | bytes (value : Option (List UInt8))
  | inet (address : SocketAddress)
deriving DecidableEq, Repr

inductive Part.Kind
  | string | longString | stringList | stringMap | bytes | inet
deriving DecidableEq, Repr

namespace Part

def kind : Part → Kind
  | .string _ => .string
  | .longString _ => .longString
  | .stringList _ => .stringList
  | .stringMap _ => .stringMap
  | .bytes _ => .bytes
  | .inet _ => .inet

def write : Part → List UInt8
  | .string text => Writer.string text
  | .longString text => Writer.longString text
  | .stringList texts => Writer.stringList texts
  | .stringMap entries => Writer.stringMap entries
  | .bytes value => Writer.bytes value
  | .inet address => Writer.inet address

/-- The reader of a kind. What stands for a map is what it holds by key. -/
def Kind.read : Kind → Reader Part
  | .string => do return .string (← Reader.string)
  | .longString => do return .longString (← Reader.longString)
  | .stringList => do return .stringList (← Reader.stringList)
  | .stringMap => do return .stringMap (byKey (← Reader.stringMap))
  | .bytes => do return .bytes (← Reader.bytes)
  | .inet => do return .inet (← Reader.inet)

def readAll : List Kind → Reader (List Part)
  | [] => pure []
  | kind :: kinds => do
      let part ← kind.read
      let others ← readAll kinds
      return part :: others

/-- Every length fits its field, the keys of a map are distinct, and an address has no scope. -/
def Fits : Part → Prop
  | .string text => FitsText text
  | .longString text => FitsInt (Text.Utf8.encode text).length
  | .stringList texts => FitsShort texts.length ∧ ∀ text ∈ texts, FitsText text
  | .stringMap entries =>
      (entries.map Prod.fst).Nodup ∧ FitsShort entries.length ∧
        ∀ entry ∈ entries, FitsText entry.1 ∧ FitsText entry.2
  | .bytes value => ∀ bytes ∈ value, FitsInt bytes.length
  | .inet address => address.scope = 0

instance : DecidablePred Fits
  | .string text => inferInstanceAs (Decidable (FitsText text))
  | .longString text => inferInstanceAs (Decidable (FitsInt (Text.Utf8.encode text).length))
  | .stringList texts =>
      inferInstanceAs (Decidable (FitsShort texts.length ∧ ∀ text ∈ texts, FitsText text))
  | .stringMap entries =>
      inferInstanceAs (Decidable ((entries.map Prod.fst).Nodup ∧ FitsShort entries.length ∧
        ∀ entry ∈ entries, FitsText entry.1 ∧ FitsText entry.2))
  | .bytes value => inferInstanceAs (Decidable (∀ bytes ∈ value, FitsInt bytes.length))
  | .inet address => inferInstanceAs (Decidable (address.scope = 0))

/-- The same value. The entries of a map stand in no order. -/
def Same : Part → Part → Prop
  | .stringMap entries, .stringMap others => entries.Perm others
  | part, other => part = other

theorem Same.fits {part other : Part} (same : part.Same other) (fits : other.Fits) :
    part.Fits := by
  unfold Same at same
  split at same
  · rename_i entries others
    obtain ⟨distinct, few, fit⟩ := fits
    refine ⟨(same.map Prod.fst).nodup_iff.mpr distinct, ?_, fun entry member => ?_⟩
    · rw [FitsShort, same.length_eq]
      exact few
    · exact fit entry (same.mem_iff.mp member)
  · exact same ▸ fits

theorem Fits.read {part : Part} (fits : part.Fits) :
    ∃ given, part.kind.read.Takes part.write given ∧ part.Same given := by
  cases part with
  | string text => exact ⟨_, (Reader.string_takes fits).map Part.string, rfl⟩
  | longString text => exact ⟨_, (Reader.longString_takes fits).map Part.longString, rfl⟩
  | stringList texts =>
      exact ⟨_, (Reader.stringList_takes fits.1 fits.2).map Part.stringList, rfl⟩
  | stringMap entries =>
      obtain ⟨distinct, few, fit⟩ := fits
      exact ⟨_, (Reader.stringMap_takes few fit).map fun entries => Part.stringMap (byKey entries),
        (byKey_perm distinct).symm⟩
  | bytes value => exact ⟨_, (Reader.bytes_takes fits).map Part.bytes, rfl⟩
  | inet address => exact ⟨_, (Reader.inet_takes fits).map Part.inet, rfl⟩

/-- Whatever stands in a body, what is read from it fits. -/
theorem Kind.read_gives (kind : Kind) : kind.read.Gives Fits := by
  cases kind with
  | string => exact Reader.string_gives.bind fun _ fits => Reader.gives_pure fits
  | longString => exact Reader.longString_gives.bind fun _ fits => Reader.gives_pure fits
  | stringList => exact Reader.stringList_gives.bind fun _ fits => Reader.gives_pure fits
  | stringMap =>
      refine Reader.stringMap_gives.bind fun entries fits => Reader.gives_pure ?_
      have kept := byKey_subperm entries
      exact ⟨byKey_distinct entries, Nat.lt_of_le_of_lt kept.length_le fits.1,
        fun entry member => fits.2 entry (kept.subset member)⟩
  | bytes => exact Reader.bytes_gives.bind fun _ fits => Reader.gives_pure fits
  | inet => exact Reader.inet_gives.bind fun _ fits => Reader.gives_pure fits

theorem readAll_takes {parts : List Part} (fit : ∀ part ∈ parts, part.Fits) :
    ∃ given, (readAll (parts.map kind)).Takes (parts.flatMap write) given ∧
      List.Forall₂ Same parts given := by
  induction parts with
  | nil => exact ⟨[], Reader.takes_pure [], .nil⟩
  | cons part rest ih =>
      obtain ⟨given, taken, same⟩ := (fit part List.mem_cons_self).read
      obtain ⟨others, takenRest, sameRest⟩ :=
        ih fun other member => fit other (List.mem_cons_of_mem part member)
      exact ⟨given :: others, taken.bind (takenRest.map (given :: ·)), .cons same sameRest⟩

/-- Values that fit are read back one after the other, and the reader then stands just behind
the last of them. A value that does not fit is never given, not even for what is written of
it. -/
theorem written_parts_read_back :
    (∀ (parts : List Part) (behind : List UInt8), (∀ part ∈ parts, part.Fits) →
      ∃ given, (readAll (parts.map kind)).run (parts.flatMap write ++ behind) = .ok given behind ∧
        List.Forall₂ Same parts given) ∧
    ∀ (part : Part) (behind : List UInt8), ¬part.Fits →
      ∀ given left, part.kind.read.run (part.write ++ behind) = .ok given left →
        ¬part.Same given := by
  constructor
  · intro parts behind fit
    obtain ⟨given, taken, same⟩ := readAll_takes fit
    exact ⟨given, taken behind, same⟩
  · intro part behind long given left read same
    exact long (same.fits (part.kind.read_gives _ given left read))

def oneOfEachKind : List Part :=
  [.string "clé", .bytes none, .stringMap [("b", "1"), ("a", "")], .stringList ["", "x"],
    .longString "SELECT", .bytes (some []), .inet { ip := .v6 1, port := 9042 }]

def longTextList : Part := .stringList (List.replicate 65536 "")

theorem one_of_each_kind_read_back :
    (∃ given, (readAll (oneOfEachKind.map kind)).run (oneOfEachKind.flatMap write ++ [7, 0]) =
        .ok given [7, 0] ∧ List.Forall₂ Same oneOfEachKind given) ∧
      ∀ given left, longTextList.kind.read.run (longTextList.write ++ [7]) = .ok given left →
        ¬longTextList.Same given := by
  obtain ⟨fitting, long⟩ := written_parts_read_back
  refine ⟨fitting oneOfEachKind [7, 0] (by decide), long longTextList [7] ?_⟩
  intro fits
  have few := fits.1
  rw [FitsShort, List.length_replicate] at few
  exact Nat.lt_irrefl 65536 few

end Part
end CqlDriver.Wire

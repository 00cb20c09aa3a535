/-
The stream ids beside a plain set of numbers. An allocation puts the least number into
the set that is below the capacity and missing, a release takes one number out. The words
with their bits and the count that is kept beside them stand for this set, whatever was
allocated and released before.
-/

import CqlDriver.Proofs.Channel.StreamIds
import Mathlib.Data.Finset.Card
import Mathlib.Order.Bounds.Basic

namespace CqlDriver

inductive StreamIdCall where
  | allocate
  | release (stream : Int16)
  deriving Repr

/-! The set. -/

namespace ReservedIds

def all (capacity : Nat) : Finset Int := (Finset.range capacity).image Int.ofNat

def free (capacity : Nat) (reserved : Finset Int) : Finset Int := all capacity \ reserved

def perform (capacity : Nat) (reserved : Finset Int) : StreamIdCall → Finset Int
  | .allocate =>
      match (List.range capacity).find? fun number => decide (Int.ofNat number ∉ reserved) with
      | some number => insert (Int.ofNat number) reserved
      | none => reserved
  | .release stream => reserved.erase stream.toInt

/-- The numbers that calls leave in the set, which is empty at first. -/
def performAll (capacity : Nat) (calls : List StreamIdCall) : Finset Int :=
  calls.foldl (perform capacity) ∅

theorem mem_all {capacity : Nat} {number : Int} :
    number ∈ all capacity ↔ 0 ≤ number ∧ number < capacity := by
  unfold all
  rw [Finset.mem_image]
  constructor
  · rintro ⟨natural, below, same⟩
    rw [← same]
    exact ⟨Int.natCast_nonneg natural, Int.ofNat_lt.mpr (Finset.mem_range.mp below)⟩
  · rintro ⟨positive, below⟩
    exact ⟨number.toNat, Finset.mem_range.mpr (by omega), Int.toNat_of_nonneg positive⟩

theorem card_all (capacity : Nat) : (all capacity).card = capacity := by
  unfold all
  rw [Finset.card_image_of_injective _ fun _ _ same => Int.ofNat.inj same, Finset.card_range]

theorem mem_free {capacity : Nat} {reserved : Finset Int} {number : Int} :
    number ∈ free capacity reserved ↔ (0 ≤ number ∧ number < capacity) ∧ number ∉ reserved := by
  unfold free
  rw [Finset.mem_sdiff, mem_all]

theorem mem_of_not_free {capacity natural : Nat} {reserved : Finset Int}
    (below : natural < capacity) (notFree : Int.ofNat natural ∉ free capacity reserved) :
    Int.ofNat natural ∈ reserved := by
  apply Decidable.not_not.mp
  intro missing
  exact notFree (mem_free.mpr ⟨⟨Int.natCast_nonneg natural, Int.ofNat_lt.mpr below⟩, missing⟩)

theorem free_eq_empty_iff {capacity : Nat} {reserved : Finset Int}
    (within : reserved ⊆ all capacity) :
    free capacity reserved = ∅ ↔ reserved = all capacity := by
  unfold free
  rw [Finset.sdiff_eq_empty_iff_subset]
  constructor
  · intro covered
    exact within.antisymm covered
  · intro same
    exact same.ge

theorem perform_allocate_of_isLeast {capacity : Nat} {reserved : Finset Int} {number : Int}
    (least : IsLeast (free capacity reserved : Set Int) number) :
    perform capacity reserved .allocate = insert number reserved := by
  obtain ⟨⟨positive, below⟩, missing⟩ := mem_free.mp least.1
  obtain ⟨natural, same⟩ := Int.eq_ofNat_of_zero_le positive
  subst same
  have found : (List.range capacity).find? (fun number => decide (Int.ofNat number ∉ reserved)) =
      some natural := by
    refine List.find?_range_eq_some.mpr ⟨decide_eq_true missing, ?_, ?_⟩
    · exact List.mem_range.mpr (Int.ofNat_lt.mp below)
    · intro lower before
      have taken : Int.ofNat lower ∈ reserved := by
        have inside : lower < capacity := by omega
        apply mem_of_not_free inside
        intro isFree
        have notBefore : (natural : Int) ≤ lower := least.2 isFree
        omega
      simpa using taken
  unfold perform
  rw [found]
  rfl

theorem perform_allocate_of_full {capacity : Nat} {reserved : Finset Int}
    (full : free capacity reserved = ∅) : perform capacity reserved .allocate = reserved := by
  have nothing : (List.range capacity).find? (fun number => decide (Int.ofNat number ∉ reserved)) =
      none := by
    apply List.find?_range_eq_none.mpr
    intro natural below
    have taken : Int.ofNat natural ∈ reserved := by
      apply mem_of_not_free below
      rw [full]
      exact Finset.notMem_empty _
    simpa using taken
  unfold perform
  rw [nothing]

end ReservedIds

namespace StreamIdSet

open ReservedIds (all free)

def perform (ids : StreamIdSet) : StreamIdCall → StreamIdSet
  | .allocate => ids.allocate.2
  | .release stream => (ids.release stream).2

def performAll (ids : StreamIdSet) (calls : List StreamIdCall) : StreamIdSet :=
  calls.foldl perform ids

/-- The bits mark the numbers of a set, and the count is their number. -/
structure StandsFor (ids : StreamIdSet) (capacity : Nat) (reserved : Finset Int) : Prop where
  sound : ids.Sound
  limit : ids.capacity = capacity
  within : reserved ⊆ all capacity
  marked_iff : ∀ id : Nat, hasBit ids.words id = true ↔ (id : Int) ∈ reserved
  counted : ids.inUse = reserved.card

theorem new_standsFor (capacity : Nat) : (new capacity).StandsFor capacity ∅ where
  sound := new_sound capacity
  limit := rfl
  within := Finset.empty_subset _
  marked_iff := by intro id; simp [hasBit_new]
  counted := rfl

theorem release_of_not_contains {ids : StreamIdSet} {stream : Int16}
    (unmarked : ¬ids.contains stream = true) : (ids.release stream).2 = ids := by
  unfold release
  rw [if_neg unmarked]

namespace StandsFor

variable {ids : StreamIdSet} {capacity : Nat} {reserved : Finset Int}

theorem contains_iff (stands : ids.StandsFor capacity reserved) (stream : Int16) :
    ids.contains stream = true ↔ stream.toInt ∈ reserved := by
  rw [stands.sound.contains_iff, stands.marked_iff]
  constructor
  · rintro ⟨positive, marked⟩
    rwa [Int.toNat_of_nonneg positive] at marked
  · intro member
    have positive := (ReservedIds.mem_all.mp (stands.within member)).1
    rw [Int.toNat_of_nonneg positive]
    exact ⟨positive, member⟩

theorem card_le (stands : ids.StandsFor capacity reserved) : reserved.card ≤ capacity := by
  have most := Finset.card_le_card stands.within
  rwa [ReservedIds.card_all] at most

theorem mark (stands : ids.StandsFor capacity reserved) {id : Nat} (below : id < capacity)
    (clear : hasBit ids.words id = false) :
    (ids.mark id).StandsFor capacity (insert (id : Int) reserved) := by
  have inside : id < ids.capacity := stands.limit ▸ below
  have missing : (id : Int) ∉ reserved := by
    rw [← stands.marked_iff, clear]
    exact Bool.false_ne_true
  refine ⟨stands.sound.mark inside, stands.limit, ?_, ?_, ?_⟩
  · intro number member
    rcases Finset.mem_insert.mp member with same | before
    · rw [same]
      exact ReservedIds.mem_all.mpr ⟨Int.natCast_nonneg id, Int.ofNat_lt.mpr below⟩
    · exact stands.within before
  · intro other
    change hasBit (setBit ids.words id) other = true ↔ _
    rw [hasBit_setBit (stands.sound.div_lt inside), Bool.or_eq_true, stands.marked_iff,
      decide_eq_true_eq, Finset.mem_insert, Int.natCast_inj, or_comm]
  · change ids.inUse + 1 = _
    rw [Finset.card_insert_of_notMem missing, stands.counted]

/-- Taking the mark of a number away takes the number out of the set. -/
theorem unmark (stands : ids.StandsFor capacity reserved) {id : Nat}
    (marked : hasBit ids.words id = true) :
    (ids.unmark id).StandsFor capacity (reserved.erase id) := by
  have member := (stands.marked_iff id).mp marked
  refine ⟨stands.sound.unmark marked, stands.limit, ?_, ?_, ?_⟩
  · exact (Finset.erase_subset _ _).trans stands.within
  · intro other
    change hasBit (clearBit ids.words id) other = true ↔ _
    rw [hasBit_clearBit marked, Bool.and_eq_true, stands.marked_iff, decide_eq_true_eq,
      Finset.mem_erase, ne_eq, ne_eq, Int.natCast_inj, and_comm]
  · change ids.inUse - 1 = _
    rw [Finset.card_erase_of_mem member, stands.counted]

theorem isLeast_free (stands : ids.StandsFor capacity reserved) {id : Nat}
    (below : id < capacity) (clear : hasBit ids.words id = false)
    (lower : ∀ other, other < id → hasBit ids.words other = true) :
    IsLeast (free capacity reserved : Set Int) id := by
  constructor
  · apply ReservedIds.mem_free.mpr
    rw [← stands.marked_iff, clear]
    exact ⟨⟨by omega, by omega⟩, Bool.false_ne_true⟩
  · intro number isFree
    obtain ⟨⟨positive, _⟩, missing⟩ := ReservedIds.mem_free.mp isFree
    apply Int.not_lt.mp
    intro before
    have member := (stands.marked_iff number.toNat).mp (lower number.toNat (by omega))
    rw [Int.toNat_of_nonneg positive] at member
    exact missing member

theorem free_eq_empty (stands : ids.StandsFor capacity reserved)
    (full : ∀ id, id < capacity → hasBit ids.words id = true) :
    free capacity reserved = ∅ := by
  apply Finset.eq_empty_of_forall_notMem
  intro number isFree
  obtain ⟨⟨positive, below⟩, missing⟩ := ReservedIds.mem_free.mp isFree
  have member := (stands.marked_iff number.toNat).mp (full number.toNat (by omega))
  rw [Int.toNat_of_nonneg positive] at member
  exact missing member

/-- An allocation hands out the least free number and puts it into the set, or there is
no free number and nothing changes. -/
theorem allocate_cases (stands : ids.StandsFor capacity reserved) (bounded : capacity ≤ 0x8000) :
    (ids.allocate = (none, ids) ∧ free capacity reserved = ∅) ∨
      ∃ stream : Int16, IsLeast (free capacity reserved : Set Int) stream.toInt ∧
        ids.allocate.1 = some stream ∧
        ids.allocate.2.StandsFor capacity (insert stream.toInt reserved) := by
  rcases stands.sound.allocate_cases with ⟨nothing, full⟩ | ⟨id, below, clear, lower, allocated⟩
  · rw [stands.limit] at full
    exact Or.inl ⟨nothing, stands.free_eq_empty full⟩
  · rw [stands.limit] at below
    have small : id < 0x8000 := by omega
    have number : (Int16.ofNat id).toInt = id := Int16.toInt_ofNat_of_lt small
    rw [if_pos small] at allocated
    refine Or.inr ⟨Int16.ofNat id, ?_, ?_, ?_⟩
    · rw [number]
      exact stands.isLeast_free below clear lower
    · rw [allocated]
    · rw [allocated, number]
      exact stands.mark below clear

theorem release (stands : ids.StandsFor capacity reserved) (stream : Int16) :
    (ids.release stream).2.StandsFor capacity (reserved.erase stream.toInt) := by
  by_cases marked : ids.contains stream = true
  · obtain ⟨positive, bit⟩ := stands.sound.contains_iff.mp marked
    have after := stands.unmark bit
    rw [Int.toNat_of_nonneg positive] at after
    unfold StreamIdSet.release
    rw [if_pos marked]
    exact after
  · have missing : stream.toInt ∉ reserved := fun member =>
      marked ((stands.contains_iff stream).mpr member)
    rw [release_of_not_contains marked, Finset.erase_eq_of_notMem missing]
    exact stands

theorem perform (stands : ids.StandsFor capacity reserved) (bounded : capacity ≤ 0x8000)
    (call : StreamIdCall) :
    (ids.perform call).StandsFor capacity (ReservedIds.perform capacity reserved call) := by
  cases call with
  | allocate =>
      rcases stands.allocate_cases bounded with ⟨nothing, full⟩ | ⟨stream, least, _, after⟩
      · rw [ReservedIds.perform_allocate_of_full full]
        change ids.allocate.2.StandsFor capacity reserved
        rw [nothing]
        exact stands
      · rw [ReservedIds.perform_allocate_of_isLeast least]
        exact after
  | release stream => exact stands.release stream

theorem performAll (stands : ids.StandsFor capacity reserved) (bounded : capacity ≤ 0x8000)
    (calls : List StreamIdCall) :
    (ids.performAll calls).StandsFor capacity
      (calls.foldl (ReservedIds.perform capacity) reserved) := by
  induction calls generalizing ids reserved with
  | nil => exact stands
  | cons call rest ih => exact ih (stands.perform bounded call)

theorem allocate_eq_some_iff (stands : ids.StandsFor capacity reserved)
    (bounded : capacity ≤ 0x8000) (stream : Int16) :
    ids.allocate.1 = some stream ↔ IsLeast (free capacity reserved : Set Int) stream.toInt := by
  rcases stands.allocate_cases bounded with ⟨nothing, full⟩ | ⟨given, least, allocated, _⟩
  · rw [nothing, full]
    simp [IsLeast]
  · rw [allocated, Option.some.injEq, ← Int16.toInt_inj]
    constructor
    · intro same
      rwa [← same]
    · exact least.unique

theorem allocate_eq_none_iff (stands : ids.StandsFor capacity reserved)
    (bounded : capacity ≤ 0x8000) :
    ids.allocate.1 = none ↔ reserved = all capacity := by
  rw [← ReservedIds.free_eq_empty_iff stands.within]
  rcases stands.allocate_cases bounded with ⟨nothing, full⟩ | ⟨given, least, allocated, _⟩
  · simp [nothing, full]
  · have nonempty : free capacity reserved ≠ ∅ := Finset.ne_empty_of_mem least.1
    simp [allocated, nonempty]

theorem allocate_of_none (stands : ids.StandsFor capacity reserved) (bounded : capacity ≤ 0x8000)
    (nothing : ids.allocate.1 = none) : ids.allocate.2 = ids := by
  rcases stands.allocate_cases bounded with ⟨refused, _⟩ | ⟨given, _, allocated, _⟩
  · rw [refused]
  · exact absurd (allocated.symm.trans nothing) (Option.some_ne_none given)

theorem available_add_inUse (stands : ids.StandsFor capacity reserved) :
    ids.available + ids.inUse = capacity := by
  have most := stands.card_le
  unfold available
  rw [stands.limit, stands.counted]
  omega

end StandsFor

/-- Whatever was allocated and released, negative and foreign ids included: the next
allocation gives the least number below the capacity that is not reserved, or nothing if
there is none, and then leaves all as it is. A release frees exactly what is reserved and
else leaves all as it is. The set tells what is contained, how many ids are in use and,
as what is left of the capacity, how many are available. -/
theorem behaves_as_finite_set (capacity : Nat) (bounded : capacity ≤ 32768)
    (calls : List StreamIdCall) :
    let ids := (new capacity).performAll calls
    let reserved := ReservedIds.performAll capacity calls
    reserved ⊆ all capacity ∧
      (∀ stream, ids.allocate.1 = some stream ↔
        IsLeast (free capacity reserved : Set Int) stream.toInt) ∧
      (ids.allocate.1 = none ↔ reserved = all capacity) ∧
      (ids.allocate.1 = none → ids.allocate.2 = ids) ∧
      (∀ stream, (ids.release stream).1 = true ↔ stream.toInt ∈ reserved) ∧
      (∀ stream, (ids.release stream).1 = false → (ids.release stream).2 = ids) ∧
      (∀ stream, ids.contains stream = true ↔ stream.toInt ∈ reserved) ∧
      ids.inUse = reserved.card ∧ ids.available + ids.inUse = capacity := by
  intro ids reserved
  have stands : ids.StandsFor capacity reserved :=
    (new_standsFor capacity).performAll bounded calls
  refine ⟨stands.within, stands.allocate_eq_some_iff bounded,
    stands.allocate_eq_none_iff bounded, stands.allocate_of_none bounded, ?_, ?_,
    stands.contains_iff, stands.counted, stands.available_add_inUse⟩
  · intro stream
    rw [release_fst, stands.contains_iff]
  · intro stream refused
    rw [release_fst] at refused
    exact release_of_not_contains (Bool.eq_false_iff.mp refused)

/-- Two words of ids, the second with room for two. All are taken and one more is asked
for; then ids that are negative, out of range or free are released among others. -/
def busyMorning : List StreamIdCall :=
  List.replicate 67 .allocate ++
    [.release (-1), .release 66, .release 64, .release 64, .release 3]

theorem busyMorning_reserved :
    66 ≤ 32768 ∧ ((new 66).performAll busyMorning).allocate.1 = some 3 ∧
      IsLeast (free 66 (ReservedIds.performAll 66 busyMorning) : Set Int) (Int16.toInt 3) ∧
      Int16.toInt 64 ∉ ReservedIds.performAll 66 busyMorning ∧
      Int16.toInt 65 ∈ ReservedIds.performAll 66 busyMorning ∧
      (ReservedIds.performAll 66 busyMorning).card = 64 := by
  obtain ⟨_, least, _, _, _, _, contains, counted, _⟩ :=
    behaves_as_finite_set 66 (by decide) busyMorning
  have given : ((new 66).performAll busyMorning).allocate.1 = some 3 := by decide +kernel
  have last : ((new 66).performAll busyMorning).contains 65 = true := by decide +kernel
  have freed : ¬((new 66).performAll busyMorning).contains 64 = true := by decide +kernel
  have inUse : ((new 66).performAll busyMorning).inUse = 64 := by decide +kernel
  refine ⟨by decide, given, (least 3).mp given, ?_, ?_, counted.symm.trans inUse⟩
  · rw [← contains]
    exact freed
  · rw [← contains]
    exact last

end StreamIdSet

end CqlDriver

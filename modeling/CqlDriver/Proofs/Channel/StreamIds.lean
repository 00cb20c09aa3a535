/-
The stream ids as a set. A word with bits stands for the ids it marks, and the
operations on words are read as operations on that set: an allocation adds the
lowest id that is missing, and a release takes one id away.
-/

import CqlDriver.Channel.StreamIds

namespace CqlDriver.StreamIdSet

theorem testBit_fullWord (bit : Nat) : fullWord.testBit bit = decide (bit < wordSize) := by
  unfold fullWord
  rw [Nat.one_shiftLeft, Nat.testBit_two_pow_sub_one]

theorem testBit_marker (bit other : Nat) : (1 <<< bit).testBit other = decide (bit = other) := by
  rw [Nat.one_shiftLeft, Nat.testBit_two_pow]

theorem eq_of_place_eq {id other : Nat} (samePlace : id / wordSize = other / wordSize)
    (sameBit : id % wordSize = other % wordSize) : id = other := by
  rw [← Nat.div_add_mod id wordSize, ← Nat.div_add_mod other wordSize, samePlace, sameBit]

theorem div_lt_length {words : List Nat} {id : Nat} (marked : hasBit words id = true) :
    id / wordSize < words.length := by
  by_cases inside : id / wordSize < words.length
  · exact inside
  · unfold hasBit at marked
    rw [List.getElem?_eq_none (by omega)] at marked
    simp at marked

theorem hasBit_modify (words : List Nat) (change : Nat → Nat) (id other : Nat) :
    hasBit (words.modify (id / wordSize) change) other =
      if id / wordSize = other / wordSize ∧ other / wordSize < words.length then
        (change (words[other / wordSize]?.getD 0)).testBit (other % wordSize)
      else hasBit words other := by
  unfold hasBit
  rw [List.getElem?_modify]
  by_cases samePlace : id / wordSize = other / wordSize
  · simp only [if_pos samePlace]
    by_cases inside : other / wordSize < words.length
    · rw [if_pos ⟨samePlace, inside⟩, List.getElem?_eq_getElem inside]
      rfl
    · rw [if_neg (fun both => inside both.2), List.getElem?_eq_none (by omega)]
      rfl
  · simp only [if_neg samePlace, if_neg (fun both => samePlace both.1 :
      ¬(id / wordSize = other / wordSize ∧ other / wordSize < words.length)), id_map']

theorem hasBit_setBit {words : List Nat} {id : Nat} (inside : id / wordSize < words.length)
    (other : Nat) :
    hasBit (setBit words id) other = (hasBit words other || decide (other = id)) := by
  unfold setBit
  rw [hasBit_modify]
  by_cases same : other = id
  · subst same
    rw [if_pos ⟨rfl, inside⟩, Nat.testBit_or, testBit_marker, decide_eq_true rfl,
      decide_eq_true rfl, Bool.or_true, Bool.or_true]
  · rw [decide_eq_false same, Bool.or_false]
    by_cases samePlace : id / wordSize = other / wordSize
    · have otherBit : id % wordSize ≠ other % wordSize := fun sameBit =>
        same (eq_of_place_eq samePlace sameBit).symm
      rw [if_pos ⟨samePlace, samePlace ▸ inside⟩, Nat.testBit_or, testBit_marker,
        decide_eq_false otherBit, Bool.or_false]
      rfl
    · rw [if_neg (fun both => samePlace both.1)]

theorem hasBit_clearBit {words : List Nat} {id : Nat} (marked : hasBit words id = true)
    (other : Nat) :
    hasBit (clearBit words id) other = (hasBit words other && decide (other ≠ id)) := by
  have inside := div_lt_length marked
  unfold clearBit
  rw [hasBit_modify]
  by_cases same : other = id
  · subst same
    have bit : (words[other / wordSize]?.getD 0).testBit (other % wordSize) = true := marked
    rw [if_pos ⟨rfl, inside⟩, Nat.testBit_xor, testBit_marker, bit, marked]
    simp
  · have different : decide (other ≠ id) = true := decide_eq_true same
    rw [different, Bool.and_true]
    by_cases samePlace : id / wordSize = other / wordSize
    · have otherBit : id % wordSize ≠ other % wordSize := fun sameBit =>
        same (eq_of_place_eq samePlace sameBit).symm
      rw [if_pos ⟨samePlace, samePlace ▸ inside⟩, Nat.testBit_xor, testBit_marker,
        decide_eq_false otherBit, Bool.xor_false]
      rfl
    · rw [if_neg (fun both => samePlace both.1)]

def Fits (word : Nat) : Prop := ∀ bit, wordSize ≤ bit → word.testBit bit = false

theorem eq_fullWord {word : Nat} (fits : Fits word)
    (full : ∀ bit, bit < wordSize → word.testBit bit = true) : word = fullWord := by
  apply Nat.eq_of_testBit_eq
  intro bit
  rw [testBit_fullWord]
  by_cases inside : bit < wordSize
  · rw [full bit inside, decide_eq_true inside]
  · rw [fits bit (by omega), decide_eq_false inside]

theorem lowestClear_eq_some {word bit : Nat} (found : lowestClear word = some bit) :
    word.testBit bit = false ∧ bit < wordSize ∧ ∀ lower, lower < bit → word.testBit lower = true := by
  obtain ⟨clear, inside, lower⟩ := List.find?_range_eq_some.mp found
  refine ⟨by simpa using clear, List.mem_range.mp inside, ?_⟩
  intro other before
  simpa using lower other before

theorem lowestClear_isSome {word : Nat} (fits : Fits word) (notFull : word ≠ fullWord) :
    ∃ bit, lowestClear word = some bit := by
  cases found : lowestClear word with
  | some bit => exact ⟨bit, rfl⟩
  | none =>
      have full := List.find?_range_eq_none.mp found
      exact absurd (eq_fullWord fits (fun bit inside => by simpa using full bit inside)) notFull

theorem hasBit_cons (word : Nat) (rest : List Nat) (id : Nat) :
    hasBit (word :: rest) id =
      if id < wordSize then word.testBit id else hasBit rest (id - wordSize) := by
  unfold hasBit wordSize
  by_cases inside : id < 64
  · rw [if_pos inside, Nat.div_eq_of_lt inside, Nat.mod_eq_of_lt inside]
    rfl
  · obtain ⟨offset, same⟩ := Nat.exists_eq_add_of_le (Nat.le_of_not_lt inside)
    subst same
    rw [if_neg inside, Nat.add_div_left offset (by decide), Nat.add_mod_left,
      Nat.add_sub_cancel_left]
    rfl

theorem lowestFree_cons_full {word : Nat} (full : word = fullWord) (place : Nat)
    (rest : List Nat) : lowestFree place (word :: rest) = lowestFree (place + 1) rest := by
  rw [lowestFree, if_pos full]

theorem lowestFree_cons_notFull {word : Nat} (notFull : word ≠ fullWord) (place : Nat)
    (rest : List Nat) :
    lowestFree place (word :: rest) =
      (lowestClear word).map fun bit => wordSize * place + bit := by
  rw [lowestFree, if_neg notFull]

theorem hasBit_fullWord_cons {word : Nat} (full : word = fullWord) (rest : List Nat) {id : Nat}
    (behind : wordSize ≤ id → hasBit rest (id - wordSize) = true) :
    hasBit (word :: rest) id = true := by
  rw [hasBit_cons]
  by_cases inside : id < wordSize
  · rw [if_pos inside, full, testBit_fullWord, decide_eq_true inside]
  · rw [if_neg inside]
    exact behind (Nat.le_of_not_lt inside)

/-- The lowest free id is free, and all ids below it are marked. -/
theorem lowestFree_eq_some {words : List Nat} {place id : Nat}
    (found : lowestFree place words = some id) :
    ∃ offset, id = wordSize * place + offset ∧ offset / wordSize < words.length ∧
      hasBit words offset = false ∧ ∀ lower, lower < offset → hasBit words lower = true := by
  induction words generalizing place with
  | nil => cases found
  | cons word rest ih =>
      by_cases full : word = fullWord
      · rw [lowestFree_cons_full full] at found
        obtain ⟨offset, same, inside, free, below⟩ := ih found
        refine ⟨wordSize + offset, ?_, ?_, ?_, ?_⟩
        · rw [same, Nat.mul_add, Nat.mul_one, Nat.add_assoc]
        · rw [Nat.add_div_left offset (by decide), List.length_cons]
          omega
        · rw [hasBit_cons, if_neg (by omega), Nat.add_sub_cancel_left]
          exact free
        · intro lower before
          exact hasBit_fullWord_cons full rest (fun _ => below (lower - wordSize) (by omega))
      · rw [lowestFree_cons_notFull full] at found
        obtain ⟨bit, clear, same⟩ := Option.map_eq_some_iff.mp found
        obtain ⟨free, inside, below⟩ := lowestClear_eq_some clear
        refine ⟨bit, same.symm, ?_, ?_, ?_⟩
        · rw [Nat.div_eq_of_lt inside, List.length_cons]
          omega
        · rw [hasBit_cons, if_pos inside]
          exact free
        · intro lower before
          rw [hasBit_cons, if_pos (by omega)]
          exact below lower before

theorem lowestFree_eq_none {words : List Nat} (fits : ∀ word ∈ words, Fits word) {place : Nat}
    (nothing : lowestFree place words = none) :
    ∀ id, id < wordSize * words.length → hasBit words id = true := by
  induction words generalizing place with
  | nil =>
      intro id inside
      rw [List.length_nil, Nat.mul_zero] at inside
      omega
  | cons word rest ih =>
      intro id inside
      by_cases full : word = fullWord
      · rw [lowestFree_cons_full full] at nothing
        rw [List.length_cons, Nat.mul_add, Nat.mul_one] at inside
        exact hasBit_fullWord_cons full rest (fun _ =>
          ih (fun other member => fits other (List.mem_cons_of_mem word member)) nothing
            (id - wordSize) (by omega))
      · obtain ⟨bit, clear⟩ := lowestClear_isSome (fits word List.mem_cons_self) full
        rw [lowestFree_cons_notFull full, clear] at nothing
        cases nothing

structure Sound (ids : StreamIdSet) : Prop where
  fits : ∀ word ∈ ids.words, Fits word
  roomy : ids.capacity ≤ wordSize * ids.words.length
  within : ∀ id, hasBit ids.words id = true → id < ids.capacity

theorem hasBit_new (capacity id : Nat) : hasBit (new capacity).words id = false := by
  unfold hasBit new
  rw [List.getElem?_replicate]
  split
  · exact Nat.zero_testBit _
  · exact Nat.zero_testBit _

theorem new_sound (capacity : Nat) : (new capacity).Sound := by
  refine ⟨?_, ?_, ?_⟩
  · intro word member bit _
    rw [List.eq_of_mem_replicate member]
    exact Nat.zero_testBit bit
  · change capacity ≤ wordSize * (List.replicate ((capacity + wordSize - 1) / wordSize) 0).length
    rw [List.length_replicate]
    unfold wordSize
    omega
  · intro id marked
    rw [hasBit_new] at marked
    cases marked

theorem fits_modify {words : List Nat} {change : Nat → Nat} (fits : ∀ word ∈ words, Fits word)
    (keeps : ∀ word, Fits word → Fits (change word)) (place : Nat) :
    ∀ word ∈ words.modify place change, Fits word := by
  induction words generalizing place with
  | nil =>
      intro word member
      rw [List.modify_nil] at member
      cases member
  | cons first rest ih =>
      have fitsFirst := fits first List.mem_cons_self
      have fitsRest : ∀ word ∈ rest, Fits word :=
        fun word member => fits word (List.mem_cons_of_mem first member)
      intro word member
      cases place with
      | zero =>
          rw [List.modify_zero_cons] at member
          rcases List.mem_cons.mp member with same | later
          · rw [same]
            exact keeps first fitsFirst
          · exact fitsRest word later
      | succ place =>
          rw [List.modify_succ_cons] at member
          rcases List.mem_cons.mp member with same | later
          · rw [same]
            exact fitsFirst
          · exact ih fitsRest place word later

theorem fits_marker (id : Nat) : Fits (1 <<< (id % wordSize)) := by
  intro bit beyond
  have within := Nat.mod_lt id (show 0 < wordSize by decide)
  rw [testBit_marker]
  exact decide_eq_false (by omega)

def mark (ids : StreamIdSet) (id : Nat) : StreamIdSet :=
  { ids with words := setBit ids.words id, inUse := ids.inUse + 1 }

def unmark (ids : StreamIdSet) (id : Nat) : StreamIdSet :=
  { ids with words := clearBit ids.words id, inUse := ids.inUse - 1 }

variable {ids after : StreamIdSet} {stream : Int16} {id : Nat}

namespace Sound

theorem div_lt (sound : ids.Sound) (below : id < ids.capacity) :
    id / wordSize < ids.words.length := by
  have roomy := sound.roomy
  exact Nat.div_lt_of_lt_mul (by omega)

theorem mark (sound : ids.Sound) (below : id < ids.capacity) : (ids.mark id).Sound := by
  refine ⟨?_, ?_, ?_⟩
  · apply fits_modify sound.fits
    intro word fits bit beyond
    rw [Nat.testBit_or, fits bit beyond, fits_marker id bit beyond]
    rfl
  · change ids.capacity ≤ wordSize * (setBit ids.words id).length
    unfold setBit
    rw [List.length_modify]
    exact sound.roomy
  · intro other marked
    change hasBit (setBit ids.words id) other = true at marked
    rw [hasBit_setBit (sound.div_lt below), Bool.or_eq_true, decide_eq_true_eq] at marked
    rcases marked with before | same
    · exact sound.within other before
    · rw [same]
      exact below

theorem unmark (sound : ids.Sound) (marked : hasBit ids.words id = true) :
    (ids.unmark id).Sound := by
  refine ⟨?_, ?_, ?_⟩
  · apply fits_modify sound.fits
    intro word fits bit beyond
    rw [Nat.testBit_xor, fits bit beyond, fits_marker id bit beyond]
    rfl
  · change ids.capacity ≤ wordSize * (clearBit ids.words id).length
    unfold clearBit
    rw [List.length_modify]
    exact sound.roomy
  · intro other still
    change hasBit (clearBit ids.words id) other = true at still
    rw [hasBit_clearBit marked, Bool.and_eq_true] at still
    exact sound.within other still.1

theorem contains_iff (sound : ids.Sound) :
    ids.contains stream = true ↔
      0 ≤ stream.toInt ∧ hasBit ids.words stream.toInt.toNat = true := by
  unfold contains
  rw [Bool.and_eq_true, Bool.and_eq_true, decide_eq_true_eq, decide_eq_true_eq,
    Int16.le_iff_toInt_le, Int16.toInt_zero]
  constructor
  · rintro ⟨⟨positive, _⟩, marked⟩
    exact ⟨positive, marked⟩
  · rintro ⟨positive, marked⟩
    exact ⟨⟨positive, sound.within _ marked⟩, marked⟩

/-- An allocation finds the lowest free id and marks it. It finds none only if every
id is marked. -/
theorem allocate_cases (sound : ids.Sound) :
    (ids.allocate = (none, ids) ∧ ∀ id, id < ids.capacity → hasBit ids.words id = true) ∨
      ∃ id, id < ids.capacity ∧ hasBit ids.words id = false ∧
        (∀ lower, lower < id → hasBit ids.words lower = true) ∧
        ids.allocate = (if id < 0x8000 then some (Int16.ofNat id) else none, ids.mark id) := by
  cases found : lowestFree 0 ids.words with
  | none =>
      refine Or.inl ⟨?_, ?_⟩
      · unfold allocate
        rw [found]
      · intro id below
        have roomy := sound.roomy
        exact lowestFree_eq_none sound.fits found id (by omega)
  | some free =>
      obtain ⟨offset, same, _, clear, lower⟩ := lowestFree_eq_some found
      rw [Nat.mul_zero, Nat.zero_add] at same
      subst same
      by_cases beyond : ids.capacity ≤ free
      · refine Or.inl ⟨?_, ?_⟩
        · unfold allocate
          rw [found]
          dsimp only
          rw [if_pos beyond]
        · intro id below
          exact lower id (by omega)
      · refine Or.inr ⟨free, by omega, clear, lower, ?_⟩
        unfold allocate
        rw [found]
        dsimp only
        rw [if_neg beyond]
        rfl

end Sound

theorem contains_mark (sound : ids.Sound) (below : id < ids.capacity) :
    (ids.mark id).contains stream = true ↔
      ids.contains stream = true ∨ stream.toInt = id := by
  rw [(sound.mark below).contains_iff, sound.contains_iff]
  change 0 ≤ stream.toInt ∧ hasBit (setBit ids.words id) stream.toInt.toNat = true ↔ _
  rw [hasBit_setBit (sound.div_lt below), Bool.or_eq_true, decide_eq_true_eq]
  constructor
  · rintro ⟨positive, before | same⟩
    · exact Or.inl ⟨positive, before⟩
    · exact Or.inr (by omega)
  · rintro (⟨positive, before⟩ | same)
    · exact ⟨positive, Or.inl before⟩
    · exact ⟨by omega, Or.inr (by omega)⟩

theorem allocate_capacity (ids : StreamIdSet) : ids.allocate.2.capacity = ids.capacity := by
  unfold allocate
  split
  · rfl
  · split
    · rfl
    · rfl

theorem release_fst (ids : StreamIdSet) (stream : Int16) :
    (ids.release stream).1 = ids.contains stream := by
  unfold release
  split
  · rename_i marked
    exact marked.symm
  · rename_i unmarked
    exact (Bool.eq_false_iff.mpr unmarked).symm

theorem release_capacity (ids : StreamIdSet) (stream : Int16) :
    (ids.release stream).2.capacity = ids.capacity := by
  unfold release
  split
  · rfl
  · rfl

/-- What an allocation with a result does: it marks one new id and hands it out. -/
theorem allocate_some (sound : ids.Sound) (allocated : ids.allocate = (some stream, after)) :
    ids.contains stream = false ∧ after.Sound ∧
      (∀ other, after.contains other = true ↔ ids.contains other = true ∨ other = stream) ∧
      after.inUse = ids.inUse + 1 := by
  rcases sound.allocate_cases with ⟨nothing, _⟩ | ⟨free, below, clear, _, marked⟩
  · rw [allocated] at nothing
    cases nothing
  · rw [allocated] at marked
    obtain ⟨given, same⟩ := Prod.mk.inj marked
    subst same
    by_cases small : free < 0x8000
    · rw [if_pos small] at given
      have number : stream.toInt = free := by
        rw [Option.some.inj given]
        exact Int16.toInt_ofNat_of_lt small
      refine ⟨?_, sound.mark below, ?_, rfl⟩
      · rw [Bool.eq_false_iff]
        intro contained
        have bit := (sound.contains_iff.mp contained).2
        rw [number, Int.toNat_natCast, clear] at bit
        cases bit
      · intro other
        rw [contains_mark sound below, ← number, Int16.toInt_inj]
    · rw [if_neg small] at given
      cases given

/-- An allocation without a result changes nothing that a stream can see. Where all
ids are numbers of streams, it means that every id is marked. -/
theorem allocate_none (sound : ids.Sound) (allocated : ids.allocate = (none, after)) :
    after.Sound ∧ (∀ other, after.contains other = true ↔ ids.contains other = true) ∧
      (ids.capacity ≤ 0x8000 →
        after = ids ∧ ∀ id, id < ids.capacity → hasBit ids.words id = true) := by
  rcases sound.allocate_cases with ⟨nothing, full⟩ | ⟨free, below, _, _, marked⟩
  · rw [allocated] at nothing
    cases nothing
    exact ⟨sound, fun _ => Iff.rfl, fun _ => ⟨rfl, full⟩⟩
  · rw [allocated] at marked
    obtain ⟨given, same⟩ := Prod.mk.inj marked
    subst same
    by_cases small : free < 0x8000
    · rw [if_pos small] at given
      cases given
    · refine ⟨sound.mark below, ?_, fun bounded => by omega⟩
      intro other
      rw [contains_mark sound below]
      have bound := Int16.toInt_lt other
      constructor
      · rintro (before | same)
        · exact before
        · omega
      · exact Or.inl

theorem release_marked (sound : ids.Sound) (marked : ids.contains stream = true) :
    (ids.release stream).1 = true ∧ (ids.release stream).2.Sound ∧
      (∀ other, (ids.release stream).2.contains other = true ↔
        ids.contains other = true ∧ other ≠ stream) ∧
      (ids.release stream).2.inUse = ids.inUse - 1 := by
  obtain ⟨positive, bit⟩ := sound.contains_iff.mp marked
  have released : ids.release stream = (true, ids.unmark stream.toInt.toNat) := by
    unfold release
    rw [if_pos marked]
    rfl
  rw [released]
  refine ⟨rfl, sound.unmark bit, ?_, rfl⟩
  intro other
  rw [(sound.unmark bit).contains_iff, sound.contains_iff]
  change 0 ≤ other.toInt ∧ hasBit (clearBit ids.words stream.toInt.toNat) other.toInt.toNat = true ↔ _
  rw [hasBit_clearBit bit, Bool.and_eq_true, decide_eq_true_eq, ne_eq other stream,
    ← Int16.toInt_inj]
  constructor
  · rintro ⟨otherPositive, before, different⟩
    exact ⟨⟨otherPositive, before⟩, by omega⟩
  · rintro ⟨⟨otherPositive, before⟩, different⟩
    exact ⟨otherPositive, before, by omega⟩

end CqlDriver.StreamIdSet

/-
Tables with one entry for a key, kept in the order in which the keys came.
-/

namespace CqlDriver

abbrev Table (Key Value : Type) := List (Key × Value)

namespace Table

variable {Key Value : Type} [DecidableEq Key]

def keys (table : Table Key Value) : List Key := table.map (·.1)

def values (table : Table Key Value) : List Value := table.map (·.2)

def find? (key : Key) : Table Key Value → Option Value
  | [] => none
  | entry :: rest => if entry.1 = key then some entry.2 else find? key rest

/-- Gives a key a value, in its old place or else at the end. -/
def put (key : Key) (value : Value) : Table Key Value → Table Key Value
  | [] => [(key, value)]
  | entry :: rest => if entry.1 = key then (key, value) :: rest else entry :: put key value rest

def erase (key : Key) (table : Table Key Value) : Table Key Value :=
  table.filter fun entry => decide (entry.1 ≠ key)

@[simp] theorem find?_nil (key : Key) : find? key ([] : Table Key Value) = none := rfl

@[simp] theorem find?_put_self (key : Key) (value : Value) (table : Table Key Value) :
    find? key (put key value table) = some value := by
  induction table with
  | nil => simp [put, find?]
  | cons entry rest ih =>
      by_cases same : entry.1 = key
      · simp [put, find?, same]
      · simp [put, find?, same, ih]

theorem find?_put_of_ne {key other : Key} (distinct : other ≠ key) (value : Value)
    (table : Table Key Value) : find? other (put key value table) = find? other table := by
  induction table with
  | nil => simp [put, find?, distinct.symm]
  | cons entry rest ih =>
      by_cases same : entry.1 = key
      · subst same
        simp [put, find?, distinct.symm]
      · by_cases found : entry.1 = other
        · subst found
          simp [put, find?, same]
        · simp [put, find?, same, found, ih]

theorem find?_put (key other : Key) (value : Value) (table : Table Key Value) :
    find? other (put key value table) = if other = key then some value else find? other table := by
  by_cases same : other = key
  · rw [if_pos same, same]
    exact find?_put_self key value table
  · rw [if_neg same]
    exact find?_put_of_ne same value table

@[simp] theorem find?_erase_self (key : Key) (table : Table Key Value) :
    find? key (erase key table) = none := by
  induction table with
  | nil => rfl
  | cons entry rest ih =>
      by_cases same : entry.1 = key
      · simpa [erase, same] using ih
      · simpa [erase, find?, same] using ih

theorem find?_erase_of_ne {key other : Key} (distinct : other ≠ key)
    (table : Table Key Value) : find? other (erase key table) = find? other table := by
  induction table with
  | nil => rfl
  | cons entry rest ih =>
      by_cases same : entry.1 = key
      · simpa [erase, find?, same, distinct.symm] using ih
      · by_cases found : entry.1 = other
        · subst found
          simp [erase, find?, same]
        · simpa [erase, find?, same, found] using ih

theorem find?_erase (key other : Key) (table : Table Key Value) :
    find? other (erase key table) = if other = key then none else find? other table := by
  by_cases same : other = key
  · rw [if_pos same, same]
    exact find?_erase_self key table
  · rw [if_neg same]
    exact find?_erase_of_ne same table

theorem find?_eq_none_iff (key : Key) (table : Table Key Value) :
    find? key table = none ↔ key ∉ keys table := by
  induction table with
  | nil => simp [keys]
  | cons entry rest ih =>
      by_cases same : entry.1 = key
      · simp [find?, keys, same]
      · have other : ¬ key = entry.1 := fun equal => same equal.symm
        have goal : keys (entry :: rest) = entry.1 :: keys rest := rfl
        simp [find?, same, ih, goal, other]

theorem keys_erase (key : Key) (table : Table Key Value) :
    keys (erase key table) = (keys table).filter fun other => decide (other ≠ key) := by
  simp [keys, erase, List.filter_map, Function.comp_def]

theorem find?_isSome_iff (key : Key) (table : Table Key Value) :
    (∃ value, find? key table = some value) ↔ key ∈ keys table := by
  have missing := find?_eq_none_iff key table
  cases found : find? key table with
  | none => simpa using missing.mp found
  | some value =>
      rw [found] at missing
      simpa using missing

theorem mem_of_find? {key : Key} {value : Value} {table : Table Key Value}
    (found : find? key table = some value) : (key, value) ∈ table := by
  induction table with
  | nil => cases found
  | cons entry rest ih =>
      by_cases same : entry.1 = key
      · rw [find?, if_pos same] at found
        have whole : entry = (key, value) := Prod.ext same (Option.some.inj found)
        exact List.mem_cons.mpr (Or.inl whole.symm)
      · rw [find?, if_neg same] at found
        exact List.mem_cons_of_mem _ (ih found)

theorem find?_of_mem {key : Key} {value : Value} {table : Table Key Value}
    (distinct : (keys table).Nodup) (member : (key, value) ∈ table) :
    find? key table = some value := by
  induction table with
  | nil => cases member
  | cons entry rest ih =>
      obtain ⟨fresh, restDistinct⟩ := List.nodup_cons.mp distinct
      rcases List.mem_cons.mp member with atHead | inRest
      · rw [← atHead, find?, if_pos rfl]
      · have other : entry.1 ≠ key := by
          intro same
          exact fresh (List.mem_map.mpr ⟨(key, value), inRest, same.symm⟩)
        rw [find?, if_neg other]
        exact ih restDistinct inRest

theorem mem_put {key : Key} {value : Value} {table : Table Key Value} {entry : Key × Value}
    (member : entry ∈ put key value table) : entry = (key, value) ∨ entry ∈ table := by
  induction table with
  | nil => exact Or.inl (List.mem_singleton.mp member)
  | cons first rest ih =>
      unfold put at member
      by_cases same : first.1 = key
      · rw [if_pos same] at member
        exact (List.mem_cons.mp member).imp_right (List.mem_cons_of_mem first)
      · rw [if_neg same] at member
        rcases List.mem_cons.mp member with front | behind
        · exact Or.inr (List.mem_cons.mpr (Or.inl front))
        · exact (ih behind).imp_right (List.mem_cons_of_mem first)

theorem keys_put (key : Key) (value : Value) (table : Table Key Value) :
    keys (put key value table) =
      if key ∈ keys table then keys table else keys table ++ [key] := by
  induction table with
  | nil => rfl
  | cons entry rest ih =>
      have behind : keys (entry :: rest) = entry.1 :: keys rest := rfl
      by_cases same : entry.1 = key
      · rw [put, if_pos same, behind, same, if_pos List.mem_cons_self]
        rfl
      · have step : keys (put key value (entry :: rest)) = entry.1 :: keys (put key value rest) := by
          rw [put, if_neg same]
          rfl
        rw [step, ih, behind]
        by_cases there : key ∈ keys rest
        · rw [if_pos there, if_pos (List.mem_cons_of_mem _ there)]
        · have absent : key ∉ entry.1 :: keys rest := by
            simp only [List.mem_cons, not_or]
            exact ⟨fun equal => same equal.symm, there⟩
          rw [if_neg there, if_neg absent, List.cons_append]

theorem nodup_keys_put {table : Table Key Value} (distinct : (keys table).Nodup) (key : Key)
    (value : Value) : (keys (put key value table)).Nodup := by
  rw [keys_put]
  by_cases there : key ∈ keys table
  · rw [if_pos there]
    exact distinct
  · rw [if_neg there]
    refine List.nodup_append.mpr ⟨distinct, List.pairwise_singleton _ key, ?_⟩
    intro other member last isLast same
    rw [List.mem_singleton.mp isLast] at same
    rw [same] at member
    exact there member

theorem nodup_keys_erase {table : Table Key Value} (distinct : (keys table).Nodup) (key : Key) :
    (keys (erase key table)).Nodup := by
  rw [keys_erase]
  exact distinct.filter _

theorem put_of_not_mem {key : Key} {table : Table Key Value} (fresh : key ∉ keys table)
    (value : Value) : put key value table = table ++ [(key, value)] := by
  induction table with
  | nil => rfl
  | cons entry rest ih =>
      have separate : key ≠ entry.1 ∧ key ∉ keys rest := by
        simpa [keys] using fresh
      rw [put, if_neg separate.1.symm, ih separate.2, List.cons_append]

theorem perm_erase {key : Key} {value : Value} {table : Table Key Value}
    (distinct : (keys table).Nodup) (found : find? key table = some value) :
    table.Perm ((key, value) :: erase key table) := by
  induction table with
  | nil => cases found
  | cons entry rest ih =>
      obtain ⟨fresh, restDistinct⟩ := List.nodup_cons.mp distinct
      by_cases same : entry.1 = key
      · rw [find?, if_pos same] at found
        have whole : entry = (key, value) := Prod.ext same (Option.some.inj found)
        have others : erase key rest = rest := by
          refine List.filter_eq_self.mpr fun other member => decide_eq_true fun equal => ?_
          exact fresh (List.mem_map.mpr ⟨other, member, equal.trans same.symm⟩)
        have gone : erase key (entry :: rest) = erase key rest :=
          List.filter_cons_of_neg (by simp [same])
        rw [gone, others, whole]
      · rw [find?, if_neg same] at found
        have kept : erase key (entry :: rest) = entry :: erase key rest :=
          List.filter_cons_of_pos (decide_eq_true same)
        rw [kept]
        exact ((ih restDistinct found).cons entry).trans (List.Perm.swap _ _ _)

theorem keys_erase_of_nodup {table : Table Key Value} (distinct : (keys table).Nodup)
    (key : Key) : keys (erase key table) = (keys table).erase key := by
  rw [keys_erase, distinct.erase_eq_filter]
  congr 1
  funext other
  rw [bne, Bool.beq_eq_decide_eq, decide_not]

end Table

end CqlDriver

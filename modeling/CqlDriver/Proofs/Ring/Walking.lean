/-
Walks along the ring, seen by how far each token lies ahead of the one that the walk starts at.
A walk visits the entries by this distance, once around, and the first owners on it are those
whose nearest tokens lie least far ahead.
-/

import Mathlib.Data.List.Basic
import Mathlib.Data.List.Perm.Subperm
import CqlDriver.Proofs.Ring.Building

namespace CqlDriver

/-- How far a token lies ahead of another one, going up and around. -/
def Token.ahead (start token : Token) : Nat :=
  ((token.value.toInt - start.value.toInt) % UInt64.size).toNat

namespace TokenMap

variable {Owner : Type}

def Owns (entries : List (Token × Owner)) (owner : Owner) : Prop :=
  ∃ token, (token, owner) ∈ entries

/-- A token of the one owner lies less far ahead than every token of the other one. -/
def Nearer (entries : List (Token × Owner)) (start : Token) (left right : Owner) : Prop :=
  ∃ token, (token, left) ∈ entries ∧
    ∀ other, (other, right) ∈ entries → start.ahead token < start.ahead other

def AmongFirst (entries : List (Token × Owner)) (start : Token) (count : Nat)
    (owner : Owner) : Prop :=
  Owns entries owner ∧
    ∃ nearer : List Owner, nearer.length < count ∧
      ∀ other, Nearer entries start other owner → other ∈ nearer

variable {entries : List (Token × Owner)} {start : Token} {left right owner : Owner}

/-- Tokens from the start on lie ahead of those that the walk comes to after going around. -/
theorem ahead_lt_of_wrapped {token wrapped : Token} (reached : token.before start = false)
    (behind : wrapped.before start = true) : start.ahead token < start.ahead wrapped := by
  have notBelow := Bool.eq_false_iff.mp reached
  rw [ne_eq, Token.before_iff] at notBelow
  rw [Token.before_iff] at behind
  have lower := wrapped.value.le_toInt
  have upper := token.value.toInt_lt
  unfold Token.ahead UInt64.size
  omega

theorem ahead_lt_of_before {first second : Token} (below : first.before second = true)
    (sameSide : first.before start = second.before start) :
    start.ahead first < start.ahead second := by
  have sides : first.value.toInt < start.value.toInt ↔ second.value.toInt < start.value.toInt := by
    rw [← Token.before_iff, ← Token.before_iff, sameSide]
  rw [Token.before_iff] at below
  have lowerStart := start.value.le_toInt
  have upperStart := start.value.toInt_lt
  have lower := first.value.le_toInt
  have upper := second.value.toInt_lt
  unfold Token.ahead UInt64.size
  omega

theorem walk_perm (ring : TokenMap Owner) (start : Token) :
    (ring.walk start).Perm ring.entries := by
  have split := List.filter_append_perm (fun entry => !entry.1.before start) ring.entries
  simp only [Bool.not_not] at split
  exact split

theorem walk_ascending {ring : TokenMap Owner} (ascending : Ascending ring.entries)
    (start : Token) :
    (ring.walk start).Pairwise fun first second =>
      start.ahead first.1 < start.ahead second.1 := by
  have oneSide : ∀ side : Bool,
      (ring.entries.filter fun entry => entry.1.before start == side).Pairwise
        fun first second => start.ahead first.1 < start.ahead second.1 := by
    intro side
    refine (ascending.filter _).imp_of_mem ?_
    intro first second firstMember secondMember below
    have firstSide := beq_iff_eq.mp (List.mem_filter.mp firstMember).2
    have secondSide := beq_iff_eq.mp (List.mem_filter.mp secondMember).2
    exact ahead_lt_of_before below (firstSide.trans secondSide.symm)
  unfold walk
  refine List.pairwise_append.mpr ⟨?_, ?_, ?_⟩
  · have reached := oneSide false
    simp only [beq_false] at reached
    exact reached
  · have wrapped := oneSide true
    simp only [beq_true] at wrapped
    exact wrapped
  · intro first member second wrapped
    have reached := (List.mem_filter.mp member).2
    rw [Bool.not_eq_true'] at reached
    exact ahead_lt_of_wrapped reached (List.mem_filter.mp wrapped).2

theorem Nearer.asymm (nearer : Nearer entries start left right) :
    ¬Nearer entries start right left := by
  rintro ⟨back, onRing, least⟩
  obtain ⟨token, member, less⟩ := nearer
  have forth := less back onRing
  have again := least token member
  omega

theorem Nearer.ne (nearer : Nearer entries start left right) : left ≠ right := by
  rintro rfl
  exact nearer.asymm nearer

theorem Nearer.perm {walk : List (Token × Owner)} (same : walk.Perm entries)
    (nearer : Nearer walk start left right) : Nearer entries start left right := by
  obtain ⟨token, member, less⟩ := nearer
  exact ⟨token, same.mem_iff.mp member, fun other onRing => less other (same.mem_iff.mpr onRing)⟩

theorem Nearer.owns (nearer : Nearer entries start left right) : Owns entries left := by
  obtain ⟨token, member, _⟩ := nearer
  exact ⟨token, member⟩

theorem nearer_cons {walk : List (Token × Owner)} {token : Token}
    (least : ∀ entry ∈ walk, start.ahead token < start.ahead entry.1) (other : right ≠ left) :
    Nearer ((token, left) :: walk) start left right := by
  refine ⟨token, List.mem_cons_self, fun later member => ?_⟩
  rcases List.mem_cons.mp member with same | onWalk
  · exact absurd (congrArg Prod.snd same) other
  · exact least (later, right) onWalk

section Firsts

variable [DecidableEq Owner]

def besides (first : Owner) (entries : List (Token × Owner)) : List (Token × Owner) :=
  entries.filter fun entry => !entry.2 == first

theorem mem_besides {first : Owner} {entry : Token × Owner} :
    entry ∈ besides first entries ↔ entry ∈ entries ∧ entry.2 ≠ first := by
  simp [besides]

theorem eraseDups_owners_cons (token : Token) (first : Owner) (walk : List (Token × Owner)) :
    (((token, first) :: walk).map (·.2)).eraseDups =
      first :: ((besides first walk).map (·.2)).eraseDups := by
  have owners : (walk.map (·.2)).filter (fun owner => !owner == first) =
      (besides first walk).map (·.2) := List.filter_map ..
  rw [List.map_cons, List.eraseDups_cons, owners]

theorem Nearer.of_besides {walk : List (Token × Owner)} {token : Token} {first : Owner}
    (nearer : Nearer (besides first walk) start left right) (other : right ≠ first) :
    Nearer ((token, first) :: walk) start left right := by
  obtain ⟨nearest, member, less⟩ := nearer
  refine ⟨nearest, List.mem_cons_of_mem _ (mem_besides.mp member).1, fun later onWalk => ?_⟩
  rcases List.mem_cons.mp onWalk with same | behind
  · exact absurd (congrArg Prod.snd same) other
  · exact less later (mem_besides.mpr ⟨behind, other⟩)

/-- The owners on a walk, in the order of their nearest tokens. The induction leaves out the
first owner with all its entries. -/
theorem eraseDups_nearer {walk : List (Token × Owner)}
    (ascending : walk.Pairwise fun first second => start.ahead first.1 < start.ahead second.1) :
    (walk.map (·.2)).eraseDups.Pairwise (Nearer walk start) := by
  induction size : walk.length using Nat.strongRecOn generalizing walk with
  | _ length ih =>
    cases walk with
    | nil => exact List.Pairwise.nil
    | cons entry rest =>
        obtain ⟨token, first⟩ := entry
        obtain ⟨least, restAscending⟩ := List.pairwise_cons.mp ascending
        have fewer : (besides first rest).length < length := by
          rw [← size]
          exact Nat.lt_succ_of_le (List.length_filter_le _ _)
        have later := ih _ fewer (restAscending.filter _) rfl
        have elsewhere : ∀ owner ∈ ((besides first rest).map (·.2)).eraseDups, owner ≠ first := by
          intro owner member
          obtain ⟨entry, kept, same⟩ := List.mem_map.mp (List.mem_eraseDups.mp member)
          rw [← same]
          exact (mem_besides.mp kept).2
        rw [eraseDups_owners_cons]
        refine List.pairwise_cons.mpr ⟨fun owner member => ?_, later.imp_of_mem ?_⟩
        · exact nearer_cons least (elsewhere owner member)
        · intro left right _ member nearer
          exact nearer.of_besides (elsewhere right member)

variable {ring : TokenMap Owner}

theorem firstOwners_nearer (ascending : Ascending ring.entries) (start : Token) (count : Nat) :
    (ring.firstOwners start count).Pairwise (Nearer ring.entries start) := by
  have owners := eraseDups_nearer (walk_ascending ascending start)
  exact (owners.sublist (List.take_sublist _ _)).imp fun nearer =>
    nearer.perm (walk_perm ring start)

theorem mem_owners (ring : TokenMap Owner) (start : Token) (owner : Owner) :
    owner ∈ ((ring.walk start).map (·.2)).eraseDups ↔ Owns ring.entries owner := by
  rw [List.mem_eraseDups, List.mem_map]
  constructor
  · rintro ⟨entry, member, rfl⟩
    exact ⟨entry.1, (walk_perm ring start).mem_iff.mp member⟩
  · rintro ⟨token, member⟩
    exact ⟨(token, owner), (walk_perm ring start).mem_iff.mpr member, rfl⟩

/-- An owner is reached after exactly those that are nearer. -/
theorem mem_firstOwners_iff (ascending : Ascending ring.entries) (start : Token) (count : Nat)
    (owner : Owner) :
    owner ∈ ring.firstOwners start count ↔ AmongFirst ring.entries start count owner := by
  have ordered := (eraseDups_nearer (walk_ascending ascending start)).imp fun nearer =>
    nearer.perm (walk_perm ring start)
  have owns := mem_owners ring start
  unfold firstOwners
  generalize ((ring.walk start).map (·.2)).eraseDups = owners at ordered owns
  by_cases listed : owner ∈ owners
  · obtain ⟨front, back, rfl⟩ := List.append_of_mem listed
    obtain ⟨frontOrdered, backOrdered, across⟩ := List.pairwise_append.mp ordered
    have fresh : owner ∉ front := fun member =>
      (across owner member owner List.mem_cons_self).ne rfl
    have place : owner ∈ (front ++ owner :: back).take count ↔ front.length < count := by
      rw [List.mem_take_iff_idxOf_lt listed, List.idxOf_append_of_notMem fresh,
        List.idxOf_cons_self, Nat.add_zero]
    have inFront : ∀ other, Nearer ring.entries start other owner → other ∈ front := by
      intro other nearer
      rcases List.mem_append.mp ((owns other).mpr nearer.owns) with before | behind
      · exact before
      · rcases List.mem_cons.mp behind with same | after
        · exact absurd same nearer.ne
        · exact absurd nearer ((List.pairwise_cons.mp backOrdered).1 other after).asymm
    rw [place]
    constructor
    · intro early
      exact ⟨(owns owner).mp listed, front, early, inFront⟩
    · rintro ⟨_, nearest, few, all⟩
      have distinct : front.Nodup := frontOrdered.imp Nearer.ne
      have covered : front ⊆ nearest := fun other member =>
        all other (across other member owner List.mem_cons_self)
      exact Nat.lt_of_le_of_lt (List.subperm_of_subset distinct covered).length_le few
  · refine iff_of_false (fun member => listed (List.mem_of_mem_take member)) ?_
    rintro ⟨onRing, _⟩
    exact listed ((owns owner).mpr onRing)

end Firsts

/-- The owner of a token has the nearest token of all. -/
theorem nearest_of_owner? {ring : TokenMap Owner} (ascending : Ascending ring.entries)
    (owned : ring.owner? start = some owner) :
    ∃ token, (token, owner) ∈ ring.entries ∧
      ∀ entry ∈ ring.entries, start.ahead token ≤ start.ahead entry.1 := by
  have same := walk_perm ring start
  have ordered := walk_ascending ascending start
  unfold owner? at owned
  cases walked : ring.walk start with
  | nil =>
      rw [walked] at owned
      cases owned
  | cons first rest =>
      rw [walked] at owned same ordered
      cases owned
      refine ⟨first.1, same.mem_iff.mp List.mem_cons_self, fun entry member => ?_⟩
      rcases List.mem_cons.mp (same.mem_iff.mpr member) with atFirst | inRest
      · exact Nat.le_of_eq (by rw [atFirst])
      · exact Nat.le_of_lt ((List.pairwise_cons.mp ordered).1 entry inRest)

theorem not_nearer_of_owner? {ring : TokenMap Owner} (ascending : Ascending ring.entries)
    (owned : ring.owner? start = some owner) (other : Owner) :
    ¬Nearer ring.entries start other owner := by
  rintro ⟨token, member, less⟩
  obtain ⟨nearest, onRing, least⟩ := nearest_of_owner? ascending owned
  exact Nat.lt_irrefl _ (Nat.lt_of_lt_of_le (less nearest onRing) (least (token, other) member))

end TokenMap

end CqlDriver

/-
What stands on a ring that was built from announcements: each announced token once, in
ascending order, at the owner that announced it last.
-/

import CqlDriver.Ring.TokenMap
import CqlDriver.Table

namespace CqlDriver

namespace Token

theorem before_iff (left right : Token) :
    left.before right = true ↔ left.value.toInt < right.value.toInt := by
  unfold before
  rw [decide_eq_true_iff, Int64.lt_iff_toInt_lt]

theorem eq_of_not_before {left right : Token} (notBelow : ¬left.before right = true)
    (notAbove : ¬right.before left = true) : left = right := by
  rw [before_iff] at notBelow notAbove
  have same : left.value.toInt = right.value.toInt := by omega
  have value := Int64.toInt_inj.mp same
  cases left
  cases right
  cases value
  rfl

theorem ne_of_before {left right : Token} (below : left.before right = true) :
    left ≠ right := by
  intro same
  rw [before_iff, same] at below
  omega

theorem before_trans {left middle right : Token} (first : left.before middle = true)
    (second : middle.before right = true) : left.before right = true := by
  rw [before_iff] at first second ⊢
  omega

end Token

namespace TokenMap

variable {Owner : Type}

def Ascending (entries : List (Token × Owner)) : Prop :=
  entries.Pairwise fun left right => left.1.before right.1 = true

theorem mem_place (token : Token) (owner : Owner) {entries : List (Token × Owner)}
    (ascending : Ascending entries) (entry : Token × Owner) :
    entry ∈ place token owner entries ↔
      entry = (token, owner) ∨ entry.1 ≠ token ∧ entry ∈ entries := by
  induction entries with
  | nil => simp [place]
  | cons first rest ih =>
      obtain ⟨below, restAscending⟩ := List.pairwise_cons.mp ascending
      have later := ih restAscending
      unfold place
      by_cases inFront : token.before first.1 = true
      · rw [if_pos inFront]
        have fresh : entry ∈ first :: rest → entry.1 ≠ token := by
          intro member
          rcases List.mem_cons.mp member with atFirst | inRest
          · rw [atFirst]
            exact (Token.ne_of_before inFront).symm
          · exact (Token.ne_of_before (Token.before_trans inFront (below entry inRest))).symm
        rw [List.mem_cons]
        exact or_congr_right ⟨fun member => ⟨fresh member, member⟩, fun both => both.2⟩
      · rw [if_neg inFront]
        by_cases behind : first.1.before token = true
        · rw [if_pos behind, List.mem_cons, later, List.mem_cons]
          have distinct : entry = first → entry.1 ≠ token := by
            intro atFirst
            rw [atFirst]
            exact Token.ne_of_before behind
          constructor
          · rintro (atFirst | placed | ⟨other, inRest⟩)
            · exact Or.inr ⟨distinct atFirst, Or.inl atFirst⟩
            · exact Or.inl placed
            · exact Or.inr ⟨other, Or.inr inRest⟩
          · rintro (placed | ⟨other, atFirst | inRest⟩)
            · exact Or.inr (Or.inl placed)
            · exact Or.inl atFirst
            · exact Or.inr (Or.inr ⟨other, inRest⟩)
        · rw [if_neg behind, List.mem_cons, List.mem_cons]
          have same : token = first.1 := Token.eq_of_not_before inFront behind
          constructor
          · rintro (placed | inRest)
            · exact Or.inl placed
            · have above := below entry inRest
              rw [← same] at above
              exact Or.inr ⟨(Token.ne_of_before above).symm, Or.inr inRest⟩
          · rintro (placed | ⟨other, atFirst | inRest⟩)
            · exact Or.inl placed
            · rw [atFirst] at other
              exact absurd same.symm other
            · exact Or.inr inRest

theorem ascending_place (token : Token) (owner : Owner) {entries : List (Token × Owner)}
    (ascending : Ascending entries) : Ascending (place token owner entries) := by
  induction entries with
  | nil => exact List.pairwise_singleton _ _
  | cons first rest ih =>
      obtain ⟨below, restAscending⟩ := List.pairwise_cons.mp ascending
      unfold place
      by_cases inFront : token.before first.1 = true
      · rw [if_pos inFront]
        refine List.pairwise_cons.mpr ⟨?_, ascending⟩
        intro entry member
        rcases List.mem_cons.mp member with atFirst | inRest
        · rw [atFirst]
          exact inFront
        · exact Token.before_trans inFront (below entry inRest)
      · rw [if_neg inFront]
        by_cases behind : first.1.before token = true
        · rw [if_pos behind]
          refine List.pairwise_cons.mpr ⟨?_, ih restAscending⟩
          intro entry member
          rcases (mem_place token owner restAscending entry).mp member with placed | ⟨_, inRest⟩
          · rw [placed]
            exact behind
          · exact below entry inRest
        · rw [if_neg behind]
          refine List.pairwise_cons.mpr ⟨?_, restAscending⟩
          intro entry inRest
          have above := below entry inRest
          rw [← Token.eq_of_not_before inFront behind] at above
          exact above

/-- Who announces which token, in the order in which the ring hears of it. -/
def announcements (owners : List (Owner × List Token)) : List (Token × Owner) :=
  owners.flatMap fun announced => announced.2.map fun token => (token, announced.1)

theorem mem_announcements {owners : List (Owner × List Token)} {token : Token} {owner : Owner} :
    (token, owner) ∈ announcements owners ↔ ∃ tokens, (owner, tokens) ∈ owners ∧ token ∈ tokens := by
  unfold announcements
  constructor
  · intro member
    obtain ⟨announced, listed, here⟩ := List.mem_flatMap.mp member
    obtain ⟨found, inTokens, same⟩ := List.mem_map.mp here
    cases same
    exact ⟨announced.2, listed, inTokens⟩
  · rintro ⟨tokens, listed, inTokens⟩
    exact List.mem_flatMap.mpr ⟨(owner, tokens), listed, List.mem_map.mpr ⟨token, inTokens, rfl⟩⟩

def ofLatest (latest : List (Token × Owner)) : TokenMap Owner :=
  latest.foldr (fun entry ring => ring.insert entry.1 entry.2) empty

theorem build_eq_ofLatest (owners : List (Owner × List Token)) :
    build owners = ofLatest (announcements owners).reverse := by
  unfold build ofLatest announcements
  rw [List.foldr_reverse, List.foldl_flatMap]
  simp only [List.foldl_map]

theorem ascending_ofLatest (latest : List (Token × Owner)) :
    Ascending (ofLatest latest).entries := by
  induction latest with
  | nil => exact List.Pairwise.nil
  | cons entry rest ih => exact ascending_place entry.1 entry.2 ih

theorem mem_ofLatest (latest : List (Token × Owner)) (token : Token) (owner : Owner) :
    (token, owner) ∈ (ofLatest latest).entries ↔ Table.find? token latest = some owner := by
  induction latest with
  | nil =>
      constructor
      · intro member
        cases member
      · intro found
        cases found
  | cons entry rest ih =>
      have placed := mem_place entry.1 entry.2 (ascending_ofLatest rest) (token, owner)
      change (token, owner) ∈ place entry.1 entry.2 (ofLatest rest).entries ↔ _
      rw [placed, ih, Table.find?]
      by_cases same : entry.1 = token
      · rw [if_pos same, same]
        constructor
        · rintro (latest | ⟨other, _⟩)
          · cases latest
            rfl
          · exact absurd rfl other
        · intro found
          cases found
          exact Or.inl rfl
      · rw [if_neg same]
        constructor
        · rintro (latest | ⟨_, found⟩)
          · cases latest
            exact absurd rfl same
          · exact found
        · intro found
          exact Or.inr ⟨fun equal => same equal.symm, found⟩

theorem ascending_build (owners : List (Owner × List Token)) :
    Ascending (build owners).entries := by
  rw [build_eq_ofLatest]
  exact ascending_ofLatest _

/-- A token belongs to the owner that announces it last. -/
theorem mem_build (owners : List (Owner × List Token)) (token : Token) (owner : Owner) :
    (token, owner) ∈ (build owners).entries ↔
      Table.find? token (announcements owners).reverse = some owner := by
  rw [build_eq_ofLatest]
  exact mem_ofLatest _ token owner

theorem announced_of_mem_build {owners : List (Owner × List Token)} {token : Token}
    {owner : Owner} (member : (token, owner) ∈ (build owners).entries) :
    ∃ tokens, (owner, tokens) ∈ owners ∧ token ∈ tokens := by
  have found := Table.mem_of_find? ((mem_build owners token owner).mp member)
  exact mem_announcements.mp (List.mem_reverse.mp found)

theorem exists_mem_build {owners : List (Owner × List Token)} {tokens : List Token}
    {token : Token} {owner : Owner} (listed : (owner, tokens) ∈ owners)
    (inTokens : token ∈ tokens) : ∃ last, (token, last) ∈ (build owners).entries := by
  have announced := mem_announcements.mpr ⟨tokens, listed, inTokens⟩
  have isKey : token ∈ Table.keys (announcements owners).reverse :=
    List.mem_map.mpr ⟨(token, owner), List.mem_reverse.mpr announced, rfl⟩
  obtain ⟨last, found⟩ := (Table.find?_isSome_iff token _).mpr isKey
  exact ⟨last, (mem_build owners token last).mpr found⟩

end TokenMap

end CqlDriver

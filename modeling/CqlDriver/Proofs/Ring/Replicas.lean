/-
The answers of a ring, told by the announcements that it was built from. A token belongs to
whoever announces it last. A walk starts at the lowest token that is not below a given one and
goes around once; the owner of the given token is the first one on it, and the replicas are the
owners in the order in which the walk sees them first.
-/

import Mathlib.Data.Finset.Card
import CqlDriver.Proofs.Ring.Walking

namespace CqlDriver

theorem Token.not_before_iff (left right : Token) :
    ¬left.before right = true ↔ right.value ≤ left.value := by
  unfold Token.before
  rw [decide_eq_true_iff, Int64.not_lt]

namespace TokenMap

variable {Owner : Type} {owners : List (Owner × List Token)} {entries : List (Token × Owner)}
  {start token : Token} {owner : Owner}

def AnnouncedLast (owners : List (Owner × List Token)) (token : Token) (owner : Owner) : Prop :=
  ∃ front tokens back, owners = front ++ (owner, tokens) :: back ∧ token ∈ tokens ∧
    ∀ later ∈ back, token ∉ later.2

theorem announcedLast_concat (last : Owner) (tokens : List Token) :
    AnnouncedLast (owners ++ [(last, tokens)]) token owner ↔
      token ∈ tokens ∧ last = owner ∨ token ∉ tokens ∧ AnnouncedLast owners token owner := by
  constructor
  · rintro ⟨front, others, back, same, listed, silent⟩
    rcases List.eq_nil_or_concat' back with rfl | ⟨behind, final, rfl⟩
    · obtain ⟨_, isLast⟩ := List.append_inj' same rfl
      cases isLast
      exact .inl ⟨listed, rfl⟩
    · rw [← List.cons_append, ← List.append_assoc] at same
      obtain ⟨earlier, isLast⟩ := List.append_inj' same rfl
      cases isLast
      exact .inr ⟨silent _ (List.mem_append_right _ List.mem_cons_self), front, others, behind,
        earlier, listed, fun later member => silent later (List.mem_append_left _ member)⟩
  · rintro (⟨listed, rfl⟩ | ⟨unlisted, front, others, back, rfl, listed, silent⟩)
    · exact ⟨owners, tokens, [], rfl, listed, nofun⟩
    · refine ⟨front, others, back ++ [(last, tokens)], by simp, listed, ?_⟩
      intro later member
      rcases List.mem_append.mp member with earlier | isLast
      · exact silent later earlier
      · rw [List.mem_singleton.mp isLast]
        exact unlisted

theorem find?_announced (owner : Owner) (tokens : List Token) (earlier : Table Token Owner) :
    Table.find? token (tokens.map (fun token => (token, owner)) ++ earlier) =
      if token ∈ tokens then some owner else Table.find? token earlier := by
  induction tokens with
  | nil => rfl
  | cons first rest ih =>
      rw [List.map_cons, List.cons_append, Table.find?, ih]
      by_cases here : first = token
      · rw [if_pos here, if_pos (List.mem_cons.mpr (.inl here.symm))]
      · rw [if_neg here]
        simp only [List.mem_cons, Ne.symm here, false_or]

theorem mem_build_iff (owners : List (Owner × List Token)) (token : Token) (owner : Owner) :
    (token, owner) ∈ (build owners).entries ↔ AnnouncedLast owners token owner := by
  rw [mem_build]
  induction owners using List.reverseRecOn with
  | nil =>
      constructor
      · nofun
      · rintro ⟨front, tokens, back, same, _⟩
        cases front with
        | nil => cases same
        | cons => cases same
  | append_singleton earlier last ih =>
      obtain ⟨final, tokens⟩ := last
      have announced : (announcements (earlier ++ [(final, tokens)])).reverse =
          tokens.reverse.map (fun token => (token, final)) ++ (announcements earlier).reverse := by
        unfold announcements
        rw [List.flatMap_append, List.flatMap_singleton, List.reverse_append, List.map_reverse]
      rw [announced, find?_announced, announcedLast_concat, ← ih]
      by_cases listed : token ∈ tokens
      · rw [if_pos (List.mem_reverse.mpr listed), Option.some_inj]
        simp only [listed, true_and, not_true_eq_false, false_and, or_false]
      · rw [if_neg (mt List.mem_reverse.mp listed)]
        simp only [listed, false_and, not_false_eq_true, true_and, false_or]

/-- A walk starts at the lowest entry that is not below the start, or at the lowest of all if
all are below. -/
def StartsAt (entries : List (Token × Owner)) (start : Token) (entry : Token × Owner) : Prop :=
  entry ∈ entries ∧
    ((start.value ≤ entry.1.value ∧
        ∀ other ∈ entries, start.value ≤ other.1.value → entry.1.value ≤ other.1.value) ∨
      ((∀ other ∈ entries, other.1.value < start.value) ∧
        ∀ other ∈ entries, entry.1.value ≤ other.1.value))

theorem startsAt_of_nearest {entry : Token × Owner} (member : entry ∈ entries)
    (nearest : ∀ other ∈ entries, start.ahead entry.1 ≤ start.ahead other.1) :
    StartsAt entries start entry := by
  have lower : ∀ other ∈ entries, entry.1.before start = other.1.before start →
      entry.1.value ≤ other.1.value := by
    intro other onRing sameSide
    rw [← Token.not_before_iff]
    intro below
    have nearer := ahead_lt_of_before below sameSide.symm
    exact Nat.not_le_of_lt nearer (nearest other onRing)
  refine ⟨member, ?_⟩
  cases side : entry.1.before start with
  | false =>
      refine .inl ⟨(Token.not_before_iff _ _).mp (Bool.eq_false_iff.mp side), ?_⟩
      intro other onRing reached
      have otherSide := Bool.eq_false_iff.mpr ((Token.not_before_iff _ _).mpr reached)
      exact lower other onRing (side.trans otherSide.symm)
  | true =>
      have allBelow : ∀ other ∈ entries, other.1.before start = true := by
        intro other onRing
        cases otherSide : other.1.before start with
        | true => rfl
        | false =>
            have nearer := ahead_lt_of_wrapped otherSide side
            exact absurd (nearest other onRing) (Nat.not_le_of_lt nearer)
      refine .inr ⟨fun other onRing => decide_eq_true_iff.mp (allBelow other onRing), ?_⟩
      exact fun other onRing => lower other onRing (side.trans (allBelow other onRing).symm)

theorem StartsAt.value_le {first second : Token × Owner} (starts : StartsAt entries start first)
    (alsoStarts : StartsAt entries start second) : first.1.value ≤ second.1.value := by
  obtain ⟨member, ⟨reached, least⟩ | ⟨below, least⟩⟩ := starts
  · obtain ⟨other, ⟨otherReached, _⟩ | ⟨otherBelow, _⟩⟩ := alsoStarts
    · exact least second other otherReached
    · exact absurd reached (Int64.not_le.mpr (otherBelow first member))
  · exact least second alsoStarts.1

theorem owner?_eq_none_iff (ring : TokenMap Owner) (start : Token) :
    ring.owner? start = none ↔ ring.entries = [] := by
  unfold owner?
  rw [Option.map_eq_none_iff, List.head?_eq_none_iff]
  constructor
  · intro nowhere
    exact (nowhere ▸ walk_perm ring start).nil_eq.symm
  · intro bare
    exact List.perm_nil.mp (bare ▸ walk_perm ring start)

theorem owner?_eq_some_iff (owners : List (Owner × List Token)) (start : Token) (owner : Owner) :
    (build owners).owner? start = some owner ↔
      ∃ token, StartsAt (build owners).entries start (token, owner) := by
  have starts {found : Owner} (owned : (build owners).owner? start = some found) :
      ∃ token, StartsAt (build owners).entries start (token, found) := by
    obtain ⟨token, member, nearest⟩ := nearest_of_owner? (ascending_build owners) owned
    exact ⟨token, startsAt_of_nearest member nearest⟩
  refine ⟨starts, ?_⟩
  rintro ⟨token, atToken⟩
  cases owned : (build owners).owner? start with
  | none =>
      have member := atToken.1
      rw [(owner?_eq_none_iff _ start).mp owned] at member
      cases member
  | some found =>
      obtain ⟨other, atOther⟩ := starts owned
      have same : token.value = other.value :=
        Int64.le_antisymm (atToken.value_le atOther) (atOther.value_le atToken)
      obtain ⟨value⟩ := token
      cases same
      exact ((mem_build owners other found).mp atOther.1).symm.trans
        ((mem_build owners other owner).mp atToken.1)

/-- A walk goes from the start up to the highest token, and on from the lowest one. -/
theorem exists_round {ring : TokenMap Owner} (ascending : Ascending ring.entries) (start : Token) :
    ∃ below above, ring.entries = below ++ above ∧
      (∀ entry ∈ below, entry.1.value < start.value) ∧
      (∀ entry ∈ above, start.value ≤ entry.1.value) ∧ ring.walk start = above ++ below := by
  let below := ring.entries.filter fun entry => entry.1.before start
  let above := ring.entries.filter fun entry => !entry.1.before start
  have isBelow : ∀ entry ∈ below, entry.1.value < start.value := fun entry member =>
    decide_eq_true_iff.mp (List.mem_filter.mp member).2
  have isAbove : ∀ entry ∈ above, start.value ≤ entry.1.value := by
    intro entry member
    have reached := (List.mem_filter.mp member).2
    rw [Bool.not_eq_true', Bool.eq_false_iff] at reached
    exact (Token.not_before_iff _ _).mp reached
  refine ⟨below, above, ?_, isBelow, isAbove, rfl⟩
  have ordered : Ascending (below ++ above) := by
    refine List.pairwise_append.mpr ⟨ascending.filter _, ascending.filter _, ?_⟩
    intro low lowMember high highMember
    rw [Token.before_iff, ← Int64.lt_iff_toInt_lt]
    exact Int64.lt_of_lt_of_le (isBelow low lowMember) (isAbove high highMember)
  refine List.Perm.eq_of_pairwise ?_ ascending ordered (List.filter_append_perm _ _).symm
  intro left right _ _ less greater
  exact absurd (Token.before_trans less greater) (fun circle => Token.ne_of_before circle rfl)

section Replicas

variable [DecidableEq Owner]

/-- Those of a walk who are seen first, each once and in the order in which they are seen. -/
structure FirstSeen (walked : List Owner) (listed : List Owner) : Prop where
  distinct : listed.Nodup
  seen : ∀ owner ∈ listed, owner ∈ walked
  inOrder : listed.Pairwise fun left right => walked.idxOf left < walked.idxOf right
  noneMissed : ∀ owner ∈ walked, ∀ later ∈ listed,
    walked.idxOf owner < walked.idxOf later → owner ∈ listed

theorem eraseDups_concat (front : List Owner) (last : Owner) :
    (front ++ [last]).eraseDups =
      if last ∈ front then front.eraseDups else front.eraseDups ++ [last] := by
  rw [List.eraseDups_append]
  by_cases seen : last ∈ front
  · simp [seen, List.removeAll]
  · simp [seen, List.removeAll, List.eraseDups_cons]

theorem eraseDups_inOrder (walked : List Owner) :
    walked.eraseDups.Pairwise fun left right => walked.idxOf left < walked.idxOf right := by
  induction walked using List.reverseRecOn with
  | nil => exact List.Pairwise.nil
  | append_singleton front last ih =>
      have old : front.eraseDups.Pairwise fun left right =>
          (front ++ [last]).idxOf left < (front ++ [last]).idxOf right := by
        refine ih.imp_of_mem fun left right less => ?_
        rw [List.idxOf_append_of_mem (List.mem_eraseDups.mp left),
          List.idxOf_append_of_mem (List.mem_eraseDups.mp right)]
        exact less
      rw [eraseDups_concat]
      by_cases seen : last ∈ front
      · rw [if_pos seen]
        exact old
      · rw [if_neg seen]
        refine List.pairwise_append.mpr ⟨old, List.pairwise_singleton _ last, ?_⟩
        intro earlier member final isLast
        have known := List.mem_eraseDups.mp member
        rw [List.mem_singleton.mp isLast, List.idxOf_append_of_mem known, List.idxOf_append,
          if_neg seen]
        exact Nat.lt_add_left _ (List.idxOf_lt_length_iff.mpr known)

theorem eraseDups_nodup (walked : List Owner) : walked.eraseDups.Nodup :=
  (eraseDups_inOrder walked).imp fun less same => by
    rw [same] at less
    exact Nat.lt_irrefl _ less

theorem firstSeen_take (walked : List Owner) (count : Nat) :
    FirstSeen walked (walked.eraseDups.take count) := by
  have inOrder := eraseDups_inOrder walked
  have first := List.take_sublist count walked.eraseDups
  refine ⟨(eraseDups_nodup walked).sublist first, fun owner member => ?_,
    inOrder.sublist first, fun owner seen later listed earlier => ?_⟩
  · exact List.mem_eraseDups.mp (List.mem_of_mem_take member)
  · have somewhere := List.mem_eraseDups.mpr seen
    rw [← List.take_append_drop count walked.eraseDups] at somewhere inOrder
    rcases List.mem_append.mp somewhere with isTaken | isLeft
    · exact isTaken
    · have less := (List.pairwise_append.mp inOrder).2.2 later listed owner isLeft
      exact absurd earlier (Nat.lt_asymm less)

theorem length_eraseDups (walked : List Owner) :
    walked.eraseDups.length = walked.toFinset.card := by
  rw [← List.toFinset_card_of_nodup (eraseDups_nodup walked)]
  congr 1
  ext owner
  rw [List.mem_toFinset, List.mem_toFinset, List.mem_eraseDups]

theorem length_firstOwners (ring : TokenMap Owner) (start : Token) (count : Nat) :
    (ring.firstOwners start count).length = min count (ring.entries.map (·.2)).toFinset.card := by
  have same := ((walk_perm ring start).map (·.2))
  unfold firstOwners
  rw [List.length_take, length_eraseDups, List.toFinset_eq_of_perm _ _ same]

theorem head?_firstOwners (ring : TokenMap Owner) (start : Token) {count : Nat}
    (wanted : 1 ≤ count) : (ring.firstOwners start count).head? = ring.owner? start := by
  obtain ⟨fewer, same⟩ := Nat.exists_eq_add_of_le' wanted
  rw [same]
  unfold firstOwners owner?
  cases ring.walk start with
  | nil => rfl
  | cons first rest => rw [List.map_cons, List.eraseDups_cons, List.take_succ_cons]; rfl

/-- For every ring, every start and every number of replicas. Each token is on the ring once, at
whoever announces it last. It is owned by whom the walk starts at. There are no replicas just if
there is no room for as many as are asked for; else they are the first so many owners on the one
round of the walk, no more than there are owners; they begin with the owner, and more of them
begin with the same ones. -/
theorem replicas_follow_the_ring (owners : List (Owner × List Token)) (start : Token)
    (count : Nat) :
    let ring := build owners
    (Ascending ring.entries ∧
      ∀ token owner, (token, owner) ∈ ring.entries ↔ AnnouncedLast owners token owner) ∧
    ((ring.owner? start = none ↔ ring.entries = []) ∧
      ∀ owner, ring.owner? start = some owner ↔
        ∃ token, StartsAt ring.entries start (token, owner)) ∧
    (ring.replicas start count = none ↔ 0x1000000000000000 ≤ count) ∧
    ∀ listed, ring.replicas start count = some listed →
      (∃ below above, ring.entries = below ++ above ∧
        (∀ entry ∈ below, entry.1.value < start.value) ∧
        (∀ entry ∈ above, start.value ≤ entry.1.value) ∧
        FirstSeen ((above ++ below).map (·.2)) listed) ∧
      listed.length = min count (ring.entries.map (·.2)).toFinset.card ∧
      (1 ≤ count → listed.head? = ring.owner? start) ∧
      ∀ more, ring.replicas start (count + 1) = some more → listed <+: more := by
  intro ring
  have ascending := ascending_build owners
  refine ⟨⟨ascending, mem_build_iff owners⟩,
    ⟨owner?_eq_none_iff ring start, owner?_eq_some_iff owners start⟩,
    replicas_eq_none_iff ring start count, ?_⟩
  intro listed found
  rw [eq_of_replicas found]
  refine ⟨?_, length_firstOwners ring start count, head?_firstOwners ring start, ?_⟩
  · obtain ⟨below, above, all, isBelow, isAbove, walked⟩ := exists_round ascending start
    refine ⟨below, above, all, isBelow, isAbove, ?_⟩
    rw [← walked]
    exact firstSeen_take _ count
  · intro more foundMore
    rw [eq_of_replicas foundMore]
    exact List.take_prefix_take_left (Nat.le_succ count)

def twoAround : List (Nat × List Token) := [(1, [⟨10⟩, ⟨30⟩]), (2, [⟨20⟩, ⟨10⟩])]

/-- It is not true that the owners are listed for every number of replicas that a machine word
can hold: with one too many there is no room for two. -/
theorem no_room_for_two : ¬ ∀ (owners : List (Nat × List Token)) (start : Token) (count : Nat),
    count < UInt64.size → ∃ listed, (build owners).replicas start count = some listed ∧
      listed.length = min count ((build owners).entries.map (·.2)).toFinset.card := by
  intro listsAll
  obtain ⟨listed, found, _⟩ := listsAll twoAround ⟨11⟩ 0x1000000000000000 (by decide)
  have crowded : (build twoAround).replicas ⟨11⟩ 0x1000000000000000 = none :=
    (replicas_eq_none_iff _ _ _).mpr (by decide)
  rw [crowded] at found
  cases found

example : (build twoAround).owner? ⟨31⟩ = some 2 ∧
    (build twoAround).replicas ⟨11⟩ 3 = some [2, 1] := by decide

end Replicas

end TokenMap

end CqlDriver

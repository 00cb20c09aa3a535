/-
How the work is shared out among nodes that own nothing of a request's token. Each plan starts one
place further in both of its last groups. In as many plans as a group has nodes, one after the
other, each node of it stands once at each of its places; the owners in front stay where they are.
-/

import CqlDriver.Proofs.Policy.Plans

namespace CqlDriver

section Turning

variable {α : Type} {items : List α} {item : α}

theorem add_mod_round {size base turn : Nat} (first : base < size) (second : turn < size) :
    (base + turn) % size = if base + turn < size then base + turn else base + turn - size := by
  split
  case isTrue within => exact Nat.mod_eq_of_lt within
  case isFalse beyond =>
    rw [Nat.mod_eq_sub_mod (Nat.le_of_not_lt beyond)]
    exact Nat.mod_eq_of_lt (by omega)

theorem existsUnique_turn {size goal : Nat} (reached : goal < size) (base : Nat) :
    ∃! turn, turn < size ∧ (base + turn) % size = goal := by
  have positive : 0 < size := Nat.lt_of_le_of_lt (Nat.zero_le goal) reached
  have start : base % size < size := Nat.mod_lt base positive
  obtain ⟨steps, few, only⟩ :
      ∃ steps < size, ∀ turn < size, (base + turn) % size = goal ↔ turn = steps := by
    refine ⟨if base % size ≤ goal then goal - base % size else goal + size - base % size,
      by split <;> omega, fun turn fewer => ?_⟩
    rw [← Nat.mod_add_mod, add_mod_round start fewer]
    split <;> split <;> omega
  refine ⟨steps, ⟨few, (only steps few).mpr rfl⟩, ?_⟩
  rintro turn ⟨fewer, leads⟩
  exact (only turn fewer).mp leads

/-- A list that is turned once around has each of its items once at each place. -/
theorem existsUnique_rotate (distinct : items.Nodup) (member : item ∈ items) {place : Nat}
    (within : place < items.length) (start : Nat) :
    ∃! turn, turn < items.length ∧ (items.rotate (start + turn))[place]? = some item := by
  obtain ⟨goal, reached, rfl⟩ := List.mem_iff_getElem.mp member
  have stands (turn : Nat) :
      (items.rotate (start + turn))[place]? = some items[goal] ↔
        (place + start + turn) % items.length = goal := by
    have positive : 0 < items.length := Nat.lt_of_le_of_lt (Nat.zero_le place) within
    rw [List.getElem?_rotate within, ← Nat.add_assoc,
      List.getElem?_eq_getElem (Nat.mod_lt _ positive), Option.some_inj]
    exact distinct.getElem_inj_iff
  simp only [stands]
  exact existsUnique_turn reached (place + start)

end Turning

namespace Balancing

variable {snapshot : ClusterSnapshot} {token : Option Token}

/-- The plan that is made when the count of plans is some steps further. -/
def planAfter (balancing : Balancing) (token : Option Token) (snapshot : ClusterSnapshot)
    (turn : Nat) : QueryPlan :=
  ({ balancing with plansMade := balancing.plansMade + UInt64.ofNat turn }.plan token snapshot).1

def plans (token : Option Token) (snapshot : ClusterSnapshot) : Nat → Balancing → List QueryPlan
  | 0, _ => []
  | count + 1, balancing =>
      (balancing.plan token snapshot).1 ::
        plans token snapshot count (balancing.plan token snapshot).2

/-- One plan is one step for those behind it. Where no node can be tried nothing is counted, and
all plans are the same. -/
theorem planAfter_plan (balancing : Balancing) (turn : Nat) :
    planAfter (balancing.plan token snapshot).2 token snapshot turn =
      planAfter balancing token snapshot (turn + 1) := by
  unfold planAfter plan
  by_cases nothing : (snapshot.nodeList.filter Node.isRoutable).isEmpty = true
  · rw [if_pos nothing, if_pos nothing, if_pos nothing]
  · rw [if_neg nothing, if_neg nothing, if_neg nothing]
    dsimp only
    rw [UInt64.add_assoc, Nat.add_comm turn 1, UInt64.ofNat_add]
    rfl

theorem plans_eq (count : Nat) (balancing : Balancing) :
    plans token snapshot count balancing =
      (List.range count).map (planAfter balancing token snapshot) := by
  induction count generalizing balancing with
  | zero => rfl
  | succ count ih =>
      have first : planAfter balancing token snapshot 0 = (balancing.plan token snapshot).1 := by
        unfold planAfter
        rw [show UInt64.ofNat 0 = 0 from rfl, UInt64.add_zero]
      rw [plans, ih, List.range_succ_eq_map, List.map_cons, List.map_map, first]
      congr 1
      exact List.map_congr_left fun turn _ => planAfter_plan balancing turn

open ClusterSnapshot

variable {count place : Nat}

theorem getElem?_localRest (arrangement : snapshot.Arrangement token count) (start : Nat)
    (within : place < arrangement.localRest.length) :
    (arrangement.plan start)[(arrangement.localOwners ++ arrangement.otherOwners).length + place]? =
      (arrangement.localRest.rotate start)[place]? := by
  have turned : place < (arrangement.localRest.rotate start).length := by
    rw [List.length_rotate]
    exact within
  unfold Arrangement.plan
  rw [List.append_assoc (arrangement.localOwners ++ arrangement.otherOwners),
    List.getElem?_append_right (Nat.le_add_right _ _), Nat.add_sub_cancel_left,
    List.getElem?_append_left turned]

/-- A place of a plan in the last of its groups. -/
theorem getElem?_otherRest (arrangement : snapshot.Arrangement token count) (start place : Nat) :
    (arrangement.plan start)[(arrangement.localOwners ++ arrangement.otherOwners).length +
        arrangement.localRest.length + place]? =
      (arrangement.otherRest.rotate start)[place]? := by
  have before : (arrangement.localOwners ++ arrangement.otherOwners ++
      arrangement.localRest.rotate start).length =
        (arrangement.localOwners ++ arrangement.otherOwners).length +
          arrangement.localRest.length := by
    rw [List.length_append, List.length_rotate]
  unfold Arrangement.plan
  rw [← before, List.getElem?_append_right (Nat.le_add_right _ _), Nat.add_sub_cancel_left]

theorem planAfter_eq (indexed : snapshot.Indexed)
    (listed : snapshot.nodeList.Pairwise NumberOrder)
    (ascending : TokenMap.Ascending snapshot.ring.entries) (balancing : Balancing) {turn : Nat}
    (counts : balancing.plansMade.toNat + turn < UInt64.size) :
    planAfter balancing token snapshot turn =
      (arrangement indexed listed ascending balancing.replicas token).plan
        (balancing.plansMade.toNat + turn) := by
  have sum : (balancing.plansMade + UInt64.ofNat turn).toNat =
      balancing.plansMade.toNat + turn := by
    rw [UInt64.toNat_add, UInt64.toNat_ofNat', Nat.add_mod_mod]
    exact Nat.mod_eq_of_lt counts
  unfold planAfter
  rw [plan_eq indexed listed ascending]
  dsimp only
  rw [sum]

/-- In every view that a registry comes to, for every token or none and as long as the count of
plans does not overflow: all plans begin with the same owners. In as many plans, one after the
other, as there are local nodes that are no owners, each of these stands once at each place behind
the owners; and likewise each of the other nodes in as many plans as there are of them, at each
place behind the local ones. -/
theorem each_node_once_at_each_place (operations : List RegistryOperation)
    {ring : TokenMap NodeId}
    (carries : (NodeRegistry.empty.performAll operations).snapshot.Carries ring)
    (balancing : Balancing) (token : Option Token) :
    let snapshot := { (NodeRegistry.empty.performAll operations).snapshot with ring }
    let made := balancing.plansMade.toNat
    (∀ count, plans token snapshot count balancing =
      (List.range count).map (planAfter balancing token snapshot)) ∧
    ∃ arrangement : snapshot.Arrangement token balancing.replicas,
      let owners := arrangement.localOwners ++ arrangement.otherOwners
      let near := arrangement.localRest
      let far := arrangement.otherRest
      (∀ turn, made + turn < UInt64.size →
        planAfter balancing token snapshot turn =
          owners ++ near.rotate (made + turn) ++ far.rotate (made + turn)) ∧
      (made + near.length ≤ UInt64.size → ∀ node ∈ near, ∀ place < near.length,
        ∃! turn, turn < near.length ∧
          (planAfter balancing token snapshot turn)[owners.length + place]? = some node) ∧
      (made + far.length ≤ UInt64.size → ∀ node ∈ far, ∀ place < far.length,
        ∃! turn, turn < far.length ∧
          (planAfter balancing token snapshot turn)[owners.length + near.length + place]? =
            some node) := by
  intro snapshot made
  have sound := (NodeRegistry.sound_empty.performAll operations).snapshot
  have indexed : snapshot.Indexed :=
    ⟨sound.indexed.keyed, sound.indexed.byAddress_iff, sound.indexed.distinctIds,
      sound.indexed.distinctAddresses⟩
  have listed : snapshot.nodeList.Pairwise NumberOrder := NodeRegistry.nodeList_ascending operations
  have planned (turn : Nat) (counts : made + turn < UInt64.size) :
      planAfter balancing token snapshot turn =
        (arrangement indexed listed carries.ascending balancing.replicas token).plan
          (made + turn) :=
    planAfter_eq indexed listed carries.ascending balancing counts
  generalize arrangement indexed listed carries.ascending balancing.replicas token =
    arrangement at planned
  refine ⟨fun count => plans_eq count balancing, arrangement, planned, ?_, ?_⟩
  · intro counts node member place within
    refine (existsUnique_congr fun turn => and_congr_right fun fewer => ?_).mpr
      (existsUnique_rotate (arrangement.localRest_group.nodup numberOrder_asymm) member within made)
    rw [planned turn (by omega), getElem?_localRest arrangement _ within]
  · intro counts node member place within
    refine (existsUnique_congr fun turn => and_congr_right fun fewer => ?_).mpr
      (existsUnique_rotate (arrangement.otherRest_group.nodup numberOrder_asymm) member within made)
    rw [planned turn (by omega), getElem?_otherRest]

def twoBlocks : List RegistryOperation :=
  let address (number : Nat) : SocketAddress := ⟨.ofParts 127 0 0 number, 9042, 0⟩
  [.addNode { address := address 1, tokens := [⟨10⟩, ⟨30⟩] } .localDc,
    .addNode { address := address 2, tokens := [⟨20⟩] } .remote,
    .addNode { address := address 3 } .localDc,
    .addNode { address := address 4 } .localDc,
    .addNode { address := address 5 } .remote,
    .addNode { address := address 6 } .remote,
    .signalUp ⟨1⟩, .signalUp ⟨2⟩, .signalUp ⟨3⟩, .signalUp ⟨4⟩, .signalUp ⟨5⟩, .signalUp ⟨6⟩]

theorem twoBlocks_turns :
    let snapshot := (NodeRegistry.empty.performAll twoBlocks).snapshot
    let balancing : Balancing := { replicas := 1, plansMade := 5 }
    ∃ first second third fourth fifth sixth,
      snapshot.nodeList = [first, second, third, fourth, fifth, sixth] ∧
      plans (some ⟨25⟩) snapshot 3 balancing =
        [[first, fourth, third, sixth, second, fifth], [first, third, fourth, second, fifth, sixth],
          [first, fourth, third, fifth, sixth, second]] ∧
      (∃! turn, turn < 2 ∧ (planAfter balancing (some ⟨25⟩) snapshot turn)[1]? = some third) ∧
      ∃! turn, turn < 3 ∧ (planAfter balancing (some ⟨25⟩) snapshot turn)[5]? = some sixth := by
  intro snapshot balancing
  have sound := (NodeRegistry.sound_empty.performAll twoBlocks).snapshot
  obtain ⟨steps, arrangement, planned, near, far⟩ := each_node_once_at_each_place twoBlocks
    sound.carries balancing (some ⟨25⟩)
  obtain ⟨first, second, third, fourth, fifth, sixth, listed, localOwner, otherOwner, localOnes,
      otherOnes⟩ :
      ∃ first second third fourth fifth sixth,
        snapshot.nodeList = [first, second, third, fourth, fifth, sixth] ∧
        arrangement.localOwners = [first] ∧ arrangement.otherOwners = [] ∧
        arrangement.localRest = [third, fourth] ∧
        arrangement.otherRest = [second, fifth, sixth] := by
    rw [arrangement.unique (Balancing.arrangement sound.indexed
      (NodeRegistry.nodeList_ascending twoBlocks) sound.carries.ascending 1 (some ⟨25⟩))]
    exact ⟨_, _, _, _, _, _, rfl, rfl, rfl, rfl, rfl⟩
  have made : balancing.plansMade.toNat = 5 := rfl
  rw [localOwner, otherOwner, localOnes, otherOnes, made] at planned
  rw [localOwner, otherOwner, localOnes, made] at near
  rw [localOwner, otherOwner, localOnes, otherOnes, made] at far
  refine ⟨first, second, third, fourth, fifth, sixth, listed, ?_, ?_, ?_⟩
  · refine (steps 3).trans ?_
    change [_, _, _] = _
    rw [planned 0 (by decide), planned 1 (by decide), planned 2 (by decide)]
    simp [List.rotate_eq_drop_append_take_mod]
  · exact near (Nat.le_of_ble_eq_true rfl) third List.mem_cons_self 0 Nat.zero_lt_two
  · exact far (Nat.le_of_ble_eq_true rfl) sixth (by simp) 2 (Nat.lt_succ_self 2)

end Balancing

end CqlDriver

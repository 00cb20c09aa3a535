/-
What a query plan contains and in which order. A plan has four groups: the local and the other
ones among the first owners of the token, each in the order of the ring, and then the local and
the other ones of the remaining nodes, each by number from some place on. Each routable node is
in one of them.
-/

import Mathlib.Data.List.Rotate
import CqlDriver.Policy.Balancing
import CqlDriver.Proofs.Cluster.Order
import CqlDriver.Proofs.Ring.Walking

namespace CqlDriver

namespace ClusterSnapshot

def Routable (snapshot : ClusterSnapshot) (node : Node) : Prop :=
  snapshot.get? node.id = some node ∧ node.isRoutable = true

/-- The node is among the first so many owners of the token. -/
def Preferred (snapshot : ClusterSnapshot) (token : Option Token) (count : Nat)
    (node : Node) : Prop :=
  ∃ start, token = some start ∧
    TokenMap.AmongFirst snapshot.ring.entries start count node.id

def RingOrder (snapshot : ClusterSnapshot) (token : Option Token) (left right : Node) : Prop :=
  ∃ start, token = some start ∧
    TokenMap.Nearer snapshot.ring.entries start left.id right.id

def NumberOrder (left right : Node) : Prop := left.id.number < right.id.number

structure Group (snapshot : ClusterSnapshot) (kind : Node → Prop) (order : Node → Node → Prop)
    (group : List Node) : Prop where
  members : ∀ node, node ∈ group ↔ snapshot.Routable node ∧ kind node
  ordered : group.Pairwise order

/-- The routable nodes in four groups. -/
structure Arrangement (snapshot : ClusterSnapshot) (token : Option Token) (count : Nat) where
  localOwners : List Node
  otherOwners : List Node
  localRest : List Node
  otherRest : List Node
  localOwners_group : snapshot.Group
    (fun node => snapshot.Preferred token count node ∧ node.distance = .localDc)
    (snapshot.RingOrder token) localOwners
  otherOwners_group : snapshot.Group
    (fun node => snapshot.Preferred token count node ∧ node.distance ≠ .localDc)
    (snapshot.RingOrder token) otherOwners
  localRest_group : snapshot.Group
    (fun node => ¬snapshot.Preferred token count node ∧ node.distance = .localDc)
    NumberOrder localRest
  otherRest_group : snapshot.Group
    (fun node => ¬snapshot.Preferred token count node ∧ node.distance ≠ .localDc)
    NumberOrder otherRest

def Arrangement.plan {snapshot : ClusterSnapshot} {token : Option Token} {count : Nat}
    (arrangement : snapshot.Arrangement token count) (place : Nat) : QueryPlan :=
  arrangement.localOwners ++ arrangement.otherOwners ++ arrangement.localRest.rotate place ++
    arrangement.otherRest.rotate place

variable {snapshot : ClusterSnapshot} {token : Option Token} {count : Nat}
  {kind other : Node → Prop} {order : Node → Node → Prop} {group : List Node}

theorem Routable.eq_of_id_eq {left right : Node} (routable : snapshot.Routable left)
    (second : snapshot.Routable right) (same : left.id = right.id) : left = right := by
  have found := routable.1
  rw [same, second.1] at found
  exact (Option.some.inj found).symm

theorem Group.filter (whole : snapshot.Group kind order group) {keeps : Node → Bool}
    (decides : ∀ node, snapshot.Routable node → (keeps node = true ↔ other node)) :
    snapshot.Group (fun node => kind node ∧ other node) order (group.filter keeps) := by
  refine ⟨fun node => ?_, whole.ordered.filter keeps⟩
  rw [List.mem_filter, whole.members]
  constructor
  · rintro ⟨⟨routable, isKind⟩, kept⟩
    exact ⟨routable, isKind, (decides node routable).mp kept⟩
  · rintro ⟨routable, isKind, isOther⟩
    exact ⟨⟨routable, isKind⟩, (decides node routable).mpr isOther⟩

theorem Group.nodup (whole : snapshot.Group kind order group)
    (asymmetric : ∀ left right, order left right → ¬order right left) : group.Nodup :=
  whole.ordered.imp fun before same => by
    rw [same] at before
    exact asymmetric _ _ before before

/-- A kind and an order leave no choice. -/
theorem Group.eq {again : List Node} (whole : snapshot.Group kind order group)
    (second : snapshot.Group kind order again)
    (asymmetric : ∀ left right, order left right → ¬order right left) : group = again := by
  have same : group.Perm again := by
    refine (List.perm_ext_iff_of_nodup (whole.nodup asymmetric) (second.nodup asymmetric)).mpr ?_
    intro node
    rw [whole.members, second.members]
  refine same.eq_of_pairwise ?_ whole.ordered second.ordered
  intro left right _ _ before after
  exact absurd after (asymmetric left right before)

theorem Group.apart {later : Node → Node → Prop} {behind : List Node}
    (first : snapshot.Group kind order group) (second : snapshot.Group other later behind)
    (apart : ∀ node, kind node → ¬other node) : ∀ left ∈ group, ∀ right ∈ behind, left ≠ right := by
  rintro node member right secondMember rfl
  exact apart node ((first.members node).mp member).2 ((second.members node).mp secondMember).2

theorem ringOrder_asymm (left right : Node) (before : snapshot.RingOrder token left right) :
    ¬snapshot.RingOrder token right left := by
  rintro ⟨start, wanted, back⟩
  obtain ⟨again, same, nearer⟩ := before
  rw [wanted] at same
  cases same
  exact nearer.asymm back

theorem numberOrder_asymm (left right : Node) (before : NumberOrder left right) :
    ¬NumberOrder right left := by
  unfold NumberOrder at *
  omega

namespace Arrangement

variable (arrangement : snapshot.Arrangement token count)

/-- Each routable node is of one of the four kinds. -/
theorem mem_plan_iff (place : Nat) (node : Node) :
    node ∈ arrangement.plan place ↔ snapshot.Routable node := by
  unfold plan
  simp only [List.mem_append, List.mem_rotate, arrangement.localOwners_group.members,
    arrangement.otherOwners_group.members, arrangement.localRest_group.members,
    arrangement.otherRest_group.members]
  by_cases preferred : snapshot.Preferred token count node
  · by_cases near : node.distance = .localDc
    · simp [preferred, near]
    · simp [preferred, near]
  · by_cases near : node.distance = .localDc
    · simp [preferred, near]
    · simp [preferred, near]

theorem nodup_plan (place : Nat) : (arrangement.plan place).Nodup := by
  have first := arrangement.localOwners_group.nodup ringOrder_asymm
  have second := arrangement.otherOwners_group.nodup ringOrder_asymm
  have third := arrangement.localRest_group.nodup numberOrder_asymm
  have fourth := arrangement.otherRest_group.nodup numberOrder_asymm
  have owners : (arrangement.localOwners ++ arrangement.otherOwners).Nodup := by
    refine List.nodup_append.mpr ⟨first, second, ?_⟩
    exact arrangement.localOwners_group.apart arrangement.otherOwners_group
      fun node near far => far.2 near.2
  have rest : (arrangement.localRest.rotate place ++ arrangement.otherRest.rotate place).Nodup := by
    refine List.nodup_append.mpr ⟨List.nodup_rotate.mpr third, List.nodup_rotate.mpr fourth, ?_⟩
    simp only [List.mem_rotate]
    exact arrangement.localRest_group.apart arrangement.otherRest_group
      fun node near far => far.2 near.2
  unfold plan
  rw [List.append_assoc]
  refine List.nodup_append.mpr ⟨owners, rest, ?_⟩
  simp only [List.mem_append, List.mem_rotate, arrangement.localOwners_group.members,
    arrangement.otherOwners_group.members, arrangement.localRest_group.members,
    arrangement.otherRest_group.members]
  rintro node owner other remaining rfl
  rcases owner with ⟨_, preferred, _⟩ | ⟨_, preferred, _⟩
  · rcases remaining with ⟨_, unwanted, _⟩ | ⟨_, unwanted, _⟩
    · exact unwanted preferred
    · exact unwanted preferred
  · rcases remaining with ⟨_, unwanted, _⟩ | ⟨_, unwanted, _⟩
    · exact unwanted preferred
    · exact unwanted preferred

theorem nodup_ids (place : Nat) : ((arrangement.plan place).map Node.id).Nodup := by
  refine List.Nodup.map_on ?_ (arrangement.nodup_plan place)
  intro left member right second same
  exact ((arrangement.mem_plan_iff place left).mp member).eq_of_id_eq
    ((arrangement.mem_plan_iff place right).mp second) same

theorem unique (second : snapshot.Arrangement token count) : arrangement = second := by
  have localOwners := arrangement.localOwners_group.eq second.localOwners_group ringOrder_asymm
  have otherOwners := arrangement.otherOwners_group.eq second.otherOwners_group ringOrder_asymm
  have localRest := arrangement.localRest_group.eq second.localRest_group numberOrder_asymm
  have otherRest := arrangement.otherRest_group.eq second.otherRest_group numberOrder_asymm
  cases arrangement
  cases second
  cases localOwners
  cases otherOwners
  cases localRest
  cases otherRest
  rfl

theorem plan_unique (second : snapshot.Arrangement token count) (place : Nat) :
    arrangement.plan place = second.plan place := by
  rw [arrangement.unique second]

/-- Nobody is nearer than the owner of the token, so nobody stands before it. -/
theorem head?_plan (place : Nat) {start : Token} {node : Node}
    (ascending : TokenMap.Ascending snapshot.ring.entries) (wanted : token = some start)
    (some_count : 1 ≤ count) (owned : snapshot.ring.owner? start = some node.id)
    (routable : snapshot.Routable node) (near : node.distance = .localDc) :
    (arrangement.plan place).head? = some node := by
  have alone := TokenMap.not_nearer_of_owner? ascending owned
  have preferred : snapshot.Preferred token count node := by
    obtain ⟨nearest, onRing, _⟩ := TokenMap.nearest_of_owner? ascending owned
    exact ⟨start, wanted, ⟨nearest, onRing⟩, [], some_count,
      fun other nearer => absurd nearer (alone other)⟩
  have member := (arrangement.localOwners_group.members node).mpr ⟨routable, preferred, near⟩
  have ordered := arrangement.localOwners_group.ordered
  unfold plan
  cases owners : arrangement.localOwners with
  | nil =>
      rw [owners] at member
      cases member
  | cons first rest =>
      rw [owners] at member ordered
      rcases List.mem_cons.mp member with same | behind
      · rw [same]
        rfl
      · obtain ⟨again, same, nearer⟩ := (List.pairwise_cons.mp ordered).1 node behind
        rw [wanted] at same
        cases same
        exact absurd nearer (alone first.id)

end Arrangement

end ClusterSnapshot

namespace Balancing

open ClusterSnapshot

variable {snapshot : ClusterSnapshot}

theorem isLocal_iff (node : Node) : isLocal node = true ↔ node.distance = .localDc :=
  decide_eq_true_iff

theorem not_isLocal_iff (node : Node) :
    (Bool.not ∘ isLocal) node = true ↔ node.distance ≠ .localDc := by
  rw [Function.comp_apply, Bool.not_eq_true', ← Bool.not_eq_true, isLocal_iff]

theorem rotate_eq {α : Type} (items : List α) (start : Nat) :
    rotate items start = items.rotate start :=
  List.rotate_eq_drop_append_take_mod.symm

/-- The routable nodes among the first owners of a token, in the order of the ring. -/
def preferred (count : Nat) (token : Option Token) (snapshot : ClusterSnapshot) : List Node :=
  match token with
  | none => []
  | some start =>
      ((snapshot.ring.firstOwners start count).filterMap snapshot.get?).filter Node.isRoutable

theorem owners_eq (count : Nat) (token : Option Token) (snapshot : ClusterSnapshot) :
    owners count token snapshot =
      (preferred count token snapshot).filter isLocal ++
        (preferred count token snapshot).filter (Bool.not ∘ isLocal) := by
  cases token with
  | none => rfl
  | some start =>
      change localFirst _ = _
      unfold localFirst
      rw [List.partition_eq_filter_filter]
      rfl

theorem preferred_group (indexed : snapshot.Indexed)
    (ascending : TokenMap.Ascending snapshot.ring.entries) (count : Nat) (token : Option Token) :
    snapshot.Group (snapshot.Preferred token count) (snapshot.RingOrder token)
      (preferred count token snapshot) := by
  cases token with
  | none =>
      refine ⟨fun node => iff_of_false List.not_mem_nil ?_, List.Pairwise.nil⟩
      rintro ⟨_, start, wanted, _⟩
      cases wanted
  | some start =>
      constructor
      · intro node
        unfold preferred
        rw [List.mem_filter, List.mem_filterMap]
        constructor
        · rintro ⟨⟨id, listed, found⟩, routable⟩
          have first := (TokenMap.mem_firstOwners_iff ascending start count id).mp listed
          rw [← indexed.keyed found] at first
          exact ⟨⟨indexed.of_get? found, routable⟩, start, rfl, first⟩
        · rintro ⟨⟨found, routable⟩, again, same, first⟩
          cases same
          exact ⟨⟨node.id, (TokenMap.mem_firstOwners_iff ascending start count _).mpr first, found⟩,
            routable⟩
      · refine List.Pairwise.filter _ ?_
        refine (TokenMap.firstOwners_nearer ascending start count).filterMap _ ?_
        intro left right nearer node found other foundOther
        refine ⟨start, rfl, ?_⟩
        rw [indexed.keyed found, indexed.keyed foundOther]
        exact nearer

theorem routable_group (indexed : snapshot.Indexed)
    (listed : snapshot.nodeList.Pairwise NumberOrder) :
    snapshot.Group (fun _ => True) NumberOrder (snapshot.nodeList.filter Node.isRoutable) := by
  refine ⟨fun node => ?_, listed.filter _⟩
  rw [List.mem_filter, indexed.mem_nodeList]
  exact (and_iff_left trivial).symm

def remaining (count : Nat) (token : Option Token) (snapshot : ClusterSnapshot) : List Node :=
  (snapshot.nodeList.filter Node.isRoutable).filter fun node =>
    !(owners count token snapshot).any fun owner => decide (owner.id = node.id)

theorem any_owner_iff {count : Nat} {token : Option Token}
    (first : snapshot.Group (snapshot.Preferred token count) (snapshot.RingOrder token)
      (preferred count token snapshot)) {node : Node} (routable : snapshot.Routable node) :
    (owners count token snapshot).any (fun owner => decide (owner.id = node.id)) = true ↔
      snapshot.Preferred token count node := by
  have listed : ∀ owner, owner ∈ owners count token snapshot ↔
      owner ∈ preferred count token snapshot := by
    intro owner
    rw [owners_eq]
    exact (List.filter_append_perm isLocal _).mem_iff
  simp only [List.any_eq_true, decide_eq_true_eq, listed, first.members]
  constructor
  · rintro ⟨owner, ⟨second, isPreferred⟩, same⟩
    rw [← second.eq_of_id_eq routable same]
    exact isPreferred
  · intro isPreferred
    exact ⟨node, ⟨routable, isPreferred⟩, rfl⟩

theorem remaining_group (indexed : snapshot.Indexed)
    (listed : snapshot.nodeList.Pairwise NumberOrder)
    (ascending : TokenMap.Ascending snapshot.ring.entries) (count : Nat) (token : Option Token) :
    snapshot.Group (fun node => ¬snapshot.Preferred token count node) NumberOrder
      (remaining count token snapshot) := by
  have first := preferred_group indexed ascending count token
  have others : snapshot.Group (fun node => True ∧ ¬snapshot.Preferred token count node)
      NumberOrder (remaining count token snapshot) := by
    refine (routable_group indexed listed).filter fun node routable => ?_
    rw [Bool.not_eq_true', ← Bool.not_eq_true, any_owner_iff first routable]
  simp only [true_and] at others
  exact others

def arrangement (indexed : snapshot.Indexed) (listed : snapshot.nodeList.Pairwise NumberOrder)
    (ascending : TokenMap.Ascending snapshot.ring.entries) (count : Nat) (token : Option Token) :
    snapshot.Arrangement token count :=
  have first := preferred_group indexed ascending count token
  have rest := remaining_group indexed listed ascending count token
  { localOwners := (preferred count token snapshot).filter isLocal
    otherOwners := (preferred count token snapshot).filter (Bool.not ∘ isLocal)
    localRest := (remaining count token snapshot).filter isLocal
    otherRest := (remaining count token snapshot).filter (Bool.not ∘ isLocal)
    localOwners_group := first.filter fun node _ => isLocal_iff node
    otherOwners_group := first.filter fun node _ => not_isLocal_iff node
    localRest_group := rest.filter fun node _ => isLocal_iff node
    otherRest_group := rest.filter fun node _ => not_isLocal_iff node }

variable (indexed : snapshot.Indexed) (listed : snapshot.nodeList.Pairwise NumberOrder)
  (ascending : TokenMap.Ascending snapshot.ring.entries)

theorem planAt_eq (count : Nat) (token : Option Token) (place : Nat) :
    planAt count token snapshot place =
      (arrangement indexed listed ascending count token).plan place := by
  change _ ++ rotate ((remaining count token snapshot).partition isLocal).1 place ++
    rotate ((remaining count token snapshot).partition isLocal).2 place = _
  rw [List.partition_eq_filter_filter, rotate_eq, rotate_eq, owners_eq]
  rfl

theorem plan_eq (balancing : Balancing) (token : Option Token) :
    (balancing.plan token snapshot).1 =
      (arrangement indexed listed ascending balancing.replicas token).plan
        balancing.plansMade.toNat := by
  rw [← planAt_eq]
  unfold plan
  by_cases nothing : (snapshot.nodeList.filter Node.isRoutable).isEmpty = true
  · rw [if_pos nothing]
    refine (List.eq_nil_iff_forall_not_mem.mpr fun node member => ?_).symm
    rw [planAt_eq indexed listed ascending] at member
    have routable := (Arrangement.mem_plan_iff _ _ node).mp member
    have candidate := ((routable_group indexed listed).members node).mpr ⟨routable, trivial⟩
    rw [List.isEmpty_iff.mp nothing] at candidate
    cases candidate
  · rw [if_neg nothing]

include indexed listed in
theorem plan?_eq_none_iff {balancing : Balancing} {token : Option Token} :
    balancing.plan? token snapshot = none ↔
      (∃ start, token = some start) ∧ (∃ node, snapshot.Routable node) ∧
        0x1000000000000000 ≤ balancing.replicas := by
  have candidates := (routable_group indexed listed).members
  unfold plan?
  by_cases nothing : (snapshot.nodeList.filter Node.isRoutable).isEmpty = true
  · rw [if_pos nothing]
    refine iff_of_false nofun ?_
    rintro ⟨_, ⟨node, routable⟩, _⟩
    have candidate := (candidates node).mpr ⟨routable, trivial⟩
    rw [List.isEmpty_iff.mp nothing] at candidate
    cases candidate
  · rw [if_neg nothing]
    obtain ⟨node, member⟩ := List.exists_mem_of_ne_nil _ (List.isEmpty_iff.not.mp nothing)
    have some : ∃ node, snapshot.Routable node := ⟨node, ((candidates node).mp member).1⟩
    cases token with
    | none =>
        refine iff_of_false nofun ?_
        rintro ⟨⟨_, wanted⟩, _⟩
        cases wanted
    | some start =>
        rw [Option.map_eq_none_iff]
        change (snapshot.ring.replicas start balancing.replicas).map (placed snapshot) = none ↔ _
        rw [Option.map_eq_none_iff, TokenMap.replicas_eq_none_iff]
        constructor
        · intro crowded
          exact ⟨⟨start, rfl⟩, some, crowded⟩
        · rintro ⟨_, _, crowded⟩
          exact crowded

/-- A plan that is made is the one for which room is taken for granted. -/
theorem eq_plan_of_plan? {balancing : Balancing} {token : Option Token}
    {made : QueryPlan × Balancing} (planned : balancing.plan? token snapshot = some made) :
    made = balancing.plan token snapshot := by
  unfold plan? at planned
  unfold plan
  by_cases nothing : (snapshot.nodeList.filter Node.isRoutable).isEmpty = true
  · rw [if_pos nothing] at planned ⊢
    exact (Option.some.inj planned).symm
  · rw [if_neg nothing] at planned ⊢
    obtain ⟨found, isFound, same⟩ := Option.map_eq_some_iff.mp planned
    have listed : found = owners balancing.replicas token snapshot := by
      cases token with
      | none => exact (Option.some.inj isFound).symm
      | some start =>
          obtain ⟨ids, replicas, isPlaced⟩ := Option.map_eq_some_iff.mp isFound
          rw [← isPlaced, TokenMap.eq_of_replicas replicas]
          rfl
    rw [← same, listed]
    rfl

/-- In every view that a registry comes to, with any ring that carries what its nodes announce,
for every token or none and every count of plans. There is no plan just if a node can be tried,
the ring is asked for owners, and it has no room for so many of them. Else the plan has each
routable node once and no other node; it consists of the four groups, which leave no choice; and a
routable local owner of the token comes first, if owners are preferred at all. -/
theorem plan_covers_in_order (operations : List RegistryOperation) {ring : TokenMap NodeId}
    (carries : (NodeRegistry.empty.performAll operations).snapshot.Carries ring)
    (balancing : Balancing) (token : Option Token) :
    let snapshot := { (NodeRegistry.empty.performAll operations).snapshot with ring }
    (balancing.plan? token snapshot = none ↔
      (∃ start, token = some start) ∧
        (∃ node, snapshot.get? node.id = some node ∧ node.isRoutable = true) ∧
        0x1000000000000000 ≤ balancing.replicas) ∧
    ∀ plan next, balancing.plan? token snapshot = some (plan, next) →
      (∀ node, node ∈ plan ↔ snapshot.get? node.id = some node ∧ node.isRoutable = true) ∧
      (plan.map Node.id).Nodup ∧
      (∃ arrangement : snapshot.Arrangement token balancing.replicas,
        plan = arrangement.plan balancing.plansMade.toNat) ∧
      (∀ arrangement : snapshot.Arrangement token balancing.replicas,
        plan = arrangement.plan balancing.plansMade.toNat) ∧
      ∀ start node, token = some start → ring.owner? start = some node.id →
        snapshot.get? node.id = some node → node.isRoutable = true → node.distance = .localDc →
        1 ≤ balancing.replicas → plan.head? = some node := by
  intro snapshot
  have sound := (NodeRegistry.sound_empty.performAll operations).snapshot
  have indexed : snapshot.Indexed :=
    ⟨sound.indexed.keyed, sound.indexed.byAddress_iff, sound.indexed.distinctIds,
      sound.indexed.distinctAddresses⟩
  have listed : snapshot.nodeList.Pairwise NumberOrder := NodeRegistry.nodeList_ascending operations
  refine ⟨plan?_eq_none_iff indexed listed, ?_⟩
  intro plan next planned
  have arranged := plan_eq indexed listed carries.ascending balancing token
  rw [← eq_plan_of_plan? planned] at arranged
  generalize arrangement indexed listed carries.ascending balancing.replicas token =
    arrangement at arranged
  have made : plan = arrangement.plan balancing.plansMade.toNat := arranged
  rw [made]
  refine ⟨arrangement.mem_plan_iff _, arrangement.nodup_ids _, ⟨arrangement, rfl⟩,
    fun second => arrangement.plan_unique second _, ?_⟩
  intro start node wanted owned found routable near wants
  exact arrangement.head?_plan _ carries.ascending wanted wants owned ⟨found, routable⟩ near

def mixedCluster : List RegistryOperation :=
  let address (number : Nat) : SocketAddress := ⟨.ofParts 127 0 0 number, 9042, 0⟩
  [.addNode { address := address 1, tokens := [⟨10⟩, ⟨30⟩] } .localDc,
    .addNode { address := address 2, tokens := [⟨20⟩] } .remote,
    .addNode { address := address 3 } .localDc,
    .addNode { address := address 4, tokens := [⟨40⟩] } .localDc,
    .signalUp ⟨1⟩, .signalUp ⟨2⟩, .signalUp ⟨3⟩]

theorem mixedCluster_plan :
    let snapshot := (NodeRegistry.empty.performAll mixedCluster).snapshot
    ∃ plan next, Balancing.plan? { replicas := 3, plansMade := 5 } (some ⟨25⟩) snapshot =
        some (plan, next) ∧
      (plan.map Node.id).Nodup ∧ plan.map Node.id = [⟨1⟩, ⟨2⟩, ⟨3⟩] ∧
      ∃ node, node.id = ⟨1⟩ ∧ plan.head? = some node := by
  intro snapshot
  have carries := (NodeRegistry.sound_empty.performAll mixedCluster).snapshot.carries
  obtain ⟨plan, next, planned, ids⟩ : ∃ plan next,
      Balancing.plan? { replicas := 3, plansMade := 5 } (some ⟨25⟩) snapshot = some (plan, next) ∧
        plan.map Node.id = [⟨1⟩, ⟨2⟩, ⟨3⟩] := ⟨_, _, rfl, by rfl⟩
  obtain ⟨_, distinct, _, _, primary⟩ := (plan_covers_in_order mixedCluster carries
    { replicas := 3, plansMade := 5 } (some ⟨25⟩)).2 plan next planned
  obtain ⟨node, found, number, routable, near⟩ :
      ∃ node, snapshot.get? ⟨1⟩ = some node ∧ node.id = ⟨1⟩ ∧ node.isRoutable = true ∧
        node.distance = .localDc := ⟨_, rfl, rfl, rfl, rfl⟩
  refine ⟨plan, next, planned, distinct, ids, node, number, ?_⟩
  exact primary ⟨25⟩ node rfl (by rw [number]; rfl) (by rw [number]; exact found) routable near
    (by decide)

/-- It is not true that there is a plan for every number of preferred owners that a machine word
can hold: with one too many, a request for a token gets none although nodes are up. -/
theorem plan_needs_room : ¬ ∀ (operations : List RegistryOperation) (balancing : Balancing)
    (token : Option Token), balancing.replicas < UInt64.size →
    let snapshot := (NodeRegistry.empty.performAll operations).snapshot
    ∃ plan next, balancing.plan? token snapshot = some (plan, next) ∧
      ∀ node, node ∈ plan ↔ snapshot.get? node.id = some node ∧ node.isRoutable = true := by
  intro plansAll
  obtain ⟨plan, next, planned, _⟩ :=
    plansAll mixedCluster { replicas := 0x1000000000000000 } (some ⟨25⟩) (by decide)
  have sound := (NodeRegistry.sound_empty.performAll mixedCluster).snapshot
  obtain ⟨node, found, number, routable⟩ :
      ∃ node, (NodeRegistry.empty.performAll mixedCluster).snapshot.get? ⟨1⟩ = some node ∧
        node.id = ⟨1⟩ ∧ node.isRoutable = true := ⟨_, rfl, rfl, rfl⟩
  have refused : Balancing.plan? { replicas := 0x1000000000000000 } (some ⟨25⟩)
      (NodeRegistry.empty.performAll mixedCluster).snapshot = none := by
    apply (plan?_eq_none_iff sound.indexed (NodeRegistry.nodeList_ascending mixedCluster)).mpr
    exact ⟨⟨_, rfl⟩, ⟨node, by rw [number]; exact found, routable⟩, by decide⟩
  rw [refused] at planned
  cases planned

end Balancing

end CqlDriver

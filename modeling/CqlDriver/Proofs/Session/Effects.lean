/-
What operations on the registry do, seen from each node. A node that is known under a number
stays as it is, is changed in its own way, or goes; and one description, or a whole list of
them, changes each node as far as it is of its address.
-/

import CqlDriver.Proofs.Cluster.Indexes
import CqlDriver.Session.Membership

namespace CqlDriver

def Node.after (distanceOf : NodeInfo → Distance) (node : Node) (info : NodeInfo) : Node :=
  if node.address = info.address then { node with info, distance := distanceOf info } else node

namespace Node

variable {distanceOf : NodeInfo → Distance} {node : Node} {info : NodeInfo}

theorem after_of_eq (here : node.address = info.address) :
    node.after distanceOf info = { node with info, distance := distanceOf info } := if_pos here

theorem after_of_ne (elsewhere : node.address ≠ info.address) :
    node.after distanceOf info = node := if_neg elsewhere

theorem id_after (distanceOf : NodeInfo → Distance) (node : Node) (info : NodeInfo) :
    (node.after distanceOf info).id = node.id := by
  unfold after
  split
  · rfl
  · rfl

theorem state_after (distanceOf : NodeInfo → Distance) (node : Node) (info : NodeInfo) :
    (node.after distanceOf info).state = node.state := by
  unfold after
  split
  · rfl
  · rfl

theorem address_after (distanceOf : NodeInfo → Distance) (node : Node) (info : NodeInfo) :
    (node.after distanceOf info).address = node.address := by
  unfold after
  split
  · rename_i here
    exact here.symm
  · rfl

end Node

def RegistryOperation.isSignal : RegistryOperation → Bool
  | .signalUp _ | .signalDown _ | .forceDown _ | .forceUp _ => true
  | .addNode .. | .refreshNode _ | .removeNode _ | .setDistance .. | .clear => false

namespace NodeRegistry

variable {registry : NodeRegistry} {id : NodeId} {node : Node} {address : SocketAddress}
  {info : NodeInfo}

theorem Sound.perform (sound : registry.Sound) (operation : RegistryOperation) :
    (registry.perform operation).2.Sound := sound.performAll [operation]

theorem Sound.addNode (sound : registry.Sound) (info : NodeInfo) (distance : Distance) :
    (registry.addNode info distance).2.Sound := sound.perform (.addNode info distance)

theorem Sound.removeNode (sound : registry.Sound) (address : SocketAddress) :
    (registry.removeNode address).2.Sound := sound.perform (.removeNode address)

theorem Sound.atAddress?_iff (sound : registry.Sound) :
    registry.atAddress? address = some node ↔
      registry.get? node.id = some node ∧ node.address = address := by
  constructor
  · intro found
    exact sound.snapshot.indexed.of_atAddress? found
  · rintro ⟨found, here⟩
    have leads := (sound.snapshot.indexed.byAddress_iff address node.id).mpr ⟨node, found, here⟩
    exact Option.bind_eq_some_iff.mpr ⟨node.id, leads, found⟩

theorem Sound.id_eq (sound : registry.Sound) (found : registry.get? id = some node) :
    node.id = id := sound.snapshot.indexed.keyed found

theorem Sound.id_eq_iff (sound : registry.Sound) {other : Node}
    (here : registry.atAddress? address = some node) (found : registry.get? id = some other) :
    other.id = node.id ↔ other.address = address := by
  obtain ⟨present, atAddress⟩ := sound.atAddress?_iff.mp here
  constructor
  · intro same
    rw [sound.id_eq found] at same
    rw [same, present] at found
    cases found
    exact atAddress
  · intro same
    rw [sound.snapshot.indexed.eq_of_address_eq found present (same.trans atAddress.symm)]

theorem Sound.address_ne (sound : registry.Sound) (absent : registry.atAddress? address = none)
    (found : registry.get? id = some node) : node.address ≠ address :=
  sound.snapshot.indexed.address_ne_of_absent absent found

/-- What becomes of one node, written as what becomes of all nodes by a rule. -/
theorem Sound.get?_changed (sound : registry.Sound) (present : registry.get? node.id = some node)
    {now : Option Node} {rule : Node → Option Node} (itself : rule node = now)
    (others : ∀ id other, registry.get? id = some other → other.id ≠ node.id →
      rule other = some other) (id : NodeId) :
    (if id = node.id then now else registry.get? id) = (registry.get? id).bind rule := by
  by_cases same : id = node.id
  · rw [if_pos same, same, present, Option.bind_some, itself]
  · rw [if_neg same]
    cases found : registry.get? id with
    | none => rfl
    | some other => exact (others id other found (by rw [sound.id_eq found]; exact same)).symm

theorem get?_itself (present : registry.get? node.id = some node) (id : NodeId) :
    registry.get? id = if id = node.id then some node else registry.get? id := by
  by_cases same : id = node.id
  · rw [if_pos same, same, present]
  · rw [if_neg same]

theorem get?_unchanged {rule : Node → Option Node}
    (same : ∀ id other, registry.get? id = some other → rule other = some other) (id : NodeId) :
    registry.get? id = (registry.get? id).bind rule := by
  cases found : registry.get? id with
  | none => rfl
  | some other => exact (same id other found).symm

theorem Sound.get?_absent (sound : registry.Sound) {target : NodeId}
    (absent : registry.get? target = none) {now : Node → Node} (id : NodeId) :
    registry.get? id =
      (registry.get? id).bind fun node => some (if node.id = target then now node else node) := by
  refine get?_unchanged (fun id other found => ?_) id
  rw [if_neg fun same => ?_]
  rw [sound.id_eq found] at same
  rw [same, absent] at found
  cases found

theorem get?_addNode (absent : registry.atAddress? info.address = none) (distance : Distance)
    (id : NodeId) :
    (registry.addNode info distance).2.get? id =
      if id = ⟨registry.nextNumber⟩ then some (registry.newcomer info distance)
      else registry.get? id := by
  unfold addNode
  rw [absent]
  exact ClusterSnapshot.get?_join registry.snapshot (registry.newcomer info distance) id

theorem Sound.get?_removeNode (sound : registry.Sound) (address : SocketAddress) (id : NodeId) :
    (registry.removeNode address).2.get? id =
      (registry.get? id).bind fun node => if node.address = address then none else some node := by
  unfold NodeRegistry.removeNode
  cases here : registry.atAddress? address with
  | none => exact get?_unchanged (fun id other found => if_neg (sound.address_ne here found)) id
  | some node =>
      obtain ⟨present, atAddress⟩ := sound.atAddress?_iff.mp here
      refine (ClusterSnapshot.get?_leave registry.snapshot address node id).trans
        (sound.get?_changed present (if_pos atAddress) (fun id other found different => ?_) id)
      exact if_neg (mt (sound.id_eq_iff here found).mpr different)

theorem Sound.get?_refreshNode (sound : registry.Sound) (info : NodeInfo) (id : NodeId) :
    (registry.refreshNode info).2.get? id =
      (registry.get? id).bind fun node =>
        some (if node.address = info.address then { node with info } else node) := by
  unfold refreshNode
  cases here : registry.atAddress? info.address with
  | none =>
      refine get?_unchanged (fun id other found => ?_) id
      rw [if_neg (sound.address_ne here found)]
  | some node =>
      obtain ⟨present, atAddress⟩ := sound.atAddress?_iff.mp here
      have others : ∀ id other, registry.get? id = some other → other.id ≠ node.id →
          some (if other.address = info.address then { other with info } else other) =
            some other := by
        intro id other found different
        rw [if_neg (mt (sound.id_eq_iff here found).mpr different)]
      dsimp only
      by_cases same : node.info = info
      · rw [if_pos same]
        exact (get?_itself present id).trans
          (sound.get?_changed present (by rw [if_pos atAddress, ← same]) others id)
      · rw [if_neg same]
        exact (ClusterSnapshot.get?_refresh registry.snapshot node info id).trans
          (sound.get?_changed present (by rw [if_pos atAddress]) others id)

theorem Sound.get?_setDistance (sound : registry.Sound) (target : NodeId) (distance : Distance)
    (id : NodeId) :
    (registry.setDistance target distance).2.get? id =
      (registry.get? id).bind fun node =>
        some (if node.id = target then { node with distance } else node) := by
  unfold setDistance
  cases present : registry.get? target with
  | none => exact sound.get?_absent present id
  | some node =>
      obtain rfl := sound.id_eq present
      have others : ∀ id other, registry.get? id = some other → other.id ≠ node.id →
          some (if other.id = node.id then { other with distance } else other) = some other :=
        fun id other found different => by rw [if_neg different]
      dsimp only
      by_cases same : node.distance = distance
      · rw [if_pos same]
        exact (get?_itself present id).trans
          (sound.get?_changed present (by rw [if_pos rfl, ← same]) others id)
      · rw [if_neg same]
        exact (ClusterSnapshot.get?_putNode registry.snapshot { node with distance } id).trans
          (sound.get?_changed present (by rw [if_pos rfl]) others id)

theorem Sound.get?_transition (sound : registry.Sound) (target : NodeId)
    (allowed : NodeState → Option NodeState) (id : NodeId) :
    (registry.transition target allowed).2.get? id =
      (registry.get? id).bind fun node =>
        some (if node.id = target then { node with state := (allowed node.state).getD node.state }
          else node) := by
  unfold transition
  cases present : registry.get? target with
  | none => exact sound.get?_absent present id
  | some node =>
      obtain rfl := sound.id_eq present
      have others : ∀ id other, registry.get? id = some other → other.id ≠ node.id →
          some (if other.id = node.id then
            { other with state := (allowed other.state).getD other.state } else other) =
              some other :=
        fun id other found different => by rw [if_neg different]
      dsimp only
      cases permitted : allowed node.state with
      | none =>
          exact (get?_itself present id).trans
            (sound.get?_changed present (by rw [if_pos rfl, permitted, Option.getD_none]) others id)
      | some state =>
          dsimp only
          by_cases same : state = node.state
          · rw [if_pos same]
            exact (get?_itself present id).trans (sound.get?_changed present
              (by rw [if_pos rfl, permitted, Option.getD_some, same]) others id)
          · rw [if_neg same]
            exact (ClusterSnapshot.get?_putNode registry.snapshot { node with state } id).trans
              (sound.get?_changed present (by rw [if_pos rfl, permitted, Option.getD_some])
                others id)

def knowledge (registry : NodeRegistry) (id : NodeId) : Option (NodeInfo × Distance) :=
  (registry.get? id).map fun node => (node.info, node.distance)

theorem Sound.knowledge_transition (sound : registry.Sound) (target : NodeId)
    (allowed : NodeState → Option NodeState) (id : NodeId) :
    (registry.transition target allowed).2.knowledge id = registry.knowledge id := by
  unfold knowledge
  rw [sound.get?_transition]
  cases registry.get? id with
  | none => rfl
  | some node =>
      rw [Option.bind_some, Option.map_some, Option.map_some]
      split
      · rfl
      · rfl

theorem knowledge_of_get? (found : registry.get? id = some node) :
    registry.knowledge id = some (node.info, node.distance) := by
  unfold knowledge
  rw [found, Option.map_some]

theorem exists_of_knowledge {distance : Distance}
    (known : registry.knowledge id = some (info, distance)) :
    ∃ node, registry.get? id = some node ∧ node.info = info ∧ node.distance = distance := by
  obtain ⟨node, found, same⟩ := Option.map_eq_some_iff.mp known
  cases same
  exact ⟨node, found, rfl, rfl⟩

theorem Sound.knowledge_signal (sound : registry.Sound) (signal : RegistryOperation)
    (isSignal : signal.isSignal = true) (id : NodeId) :
    (registry.perform signal).2.knowledge id = registry.knowledge id := by
  cases signal with
  | signalUp target => exact sound.knowledge_transition target allowUp id
  | signalDown target => exact sound.knowledge_transition target allowDown id
  | forceDown target => exact sound.knowledge_transition target allowForceDown id
  | forceUp target => exact sound.knowledge_transition target allowForceUp id
  | addNode | refreshNode | removeNode | setDistance | clear => cases isSignal

theorem Sound.get?_applyInfo (sound : registry.Sound) (distanceOf : NodeInfo → Distance)
    (here : registry.atAddress? info.address = some node) (id : NodeId) :
    (registry.applyInfo distanceOf info).get? id =
      (registry.get? id).map fun node => node.after distanceOf info := by
  have refreshed : (registry.refreshNode info).2.Sound := sound.perform (.refreshNode info)
  unfold applyInfo
  dsimp only
  rw [here]
  dsimp only
  rw [refreshed.get?_setDistance, sound.get?_refreshNode]
  cases found : registry.get? id with
  | none => rfl
  | some other =>
      have itself := sound.id_eq_iff here found
      rw [Option.bind_some, Option.bind_some, Option.map_some]
      by_cases there : other.address = info.address
      · rw [if_pos there, if_pos (itself.mpr there), Node.after_of_eq there]
      · rw [if_neg there, if_neg (mt itself.mp there), Node.after_of_ne there]

theorem applyInfo_of_absent (distanceOf : NodeInfo → Distance)
    (absent : registry.atAddress? info.address = none) :
    registry.applyInfo distanceOf info = (registry.addNode info (distanceOf info)).2 := by
  unfold applyInfo
  rw [absent]

theorem Sound.applyInfo (sound : registry.Sound) (distanceOf : NodeInfo → Distance)
    (info : NodeInfo) : (registry.applyInfo distanceOf info).Sound := by
  cases here : registry.atAddress? info.address with
  | none =>
      rw [applyInfo_of_absent distanceOf here]
      exact sound.addNode info (distanceOf info)
  | some node =>
      unfold NodeRegistry.applyInfo
      rw [here]
      exact (sound.perform (.refreshNode info)).perform (.setDistance node.id (distanceOf info))

structure Described (distanceOf : NodeInfo → Distance) (info : NodeInfo) (before : Option Node)
    (node : Node) : Prop where
  told : node.info = info
  placed : node.distance = distanceOf info
  kept : ∀ old ∈ before, node.id = old.id ∧ node.state = old.state
  new : before = none → node.state = .unknown

theorem Sound.described_applyInfo (sound : registry.Sound) (distanceOf : NodeInfo → Distance)
    (info : NodeInfo) :
    ∃ node, (registry.applyInfo distanceOf info).atAddress? info.address = some node ∧
      Described distanceOf info (registry.atAddress? info.address) node := by
  have after := sound.applyInfo distanceOf info
  cases here : registry.atAddress? info.address with
  | none =>
      rw [applyInfo_of_absent distanceOf here] at after ⊢
      refine ⟨registry.newcomer info (distanceOf info), ?_, rfl, rfl, nofun, fun _ => rfl⟩
      refine after.atAddress?_iff.mpr ⟨?_, rfl⟩
      rw [get?_addNode here]
      exact if_pos rfl
  | some old =>
      obtain ⟨present, atAddress⟩ := sound.atAddress?_iff.mp here
      refine ⟨{ old with info, distance := distanceOf info }, ?_, rfl, rfl, ?_, nofun⟩
      · refine after.atAddress?_iff.mpr ⟨?_, rfl⟩
        rw [sound.get?_applyInfo distanceOf here, present, Option.map_some,
          Node.after_of_eq atAddress]
      · intro other same
        cases same
        exact ⟨rfl, rfl⟩

theorem Sound.atAddress?_applyInfo (sound : registry.Sound) (distanceOf : NodeInfo → Distance)
    (info : NodeInfo) :
    ∃ node, (registry.applyInfo distanceOf info).atAddress? info.address = some node ∧
      node.info = info ∧ node.distance = distanceOf info := by
  obtain ⟨node, here, described⟩ := sound.described_applyInfo distanceOf info
  exact ⟨node, here, described.told, described.placed⟩

theorem Sound.removeNode_iff (sound : registry.Sound) (address : SocketAddress) :
    (registry.removeNode address).2.get? id = some node ↔
      registry.get? id = some node ∧ node.address ≠ address := by
  rw [sound.get?_removeNode, Option.bind_eq_some_iff]
  constructor
  · rintro ⟨other, found, kept⟩
    by_cases here : other.address = address
    · rw [if_pos here] at kept
      cases kept
    · rw [if_neg here] at kept
      cases kept
      exact ⟨found, here⟩
  · rintro ⟨found, elsewhere⟩
    exact ⟨node, found, if_neg elsewhere⟩

/-- One of the descriptions is of a node at the address. -/
def Listed (infos : List NodeInfo) (address : SocketAddress) : Prop :=
  ∃ info ∈ infos, info.address = address

theorem listed_iff {infos : List NodeInfo} :
    (infos.any fun info => decide (info.address = address)) = true ↔ Listed infos address := by
  simp only [List.any_eq_true, decide_eq_true_eq, Listed]

/-- Those of some nodes that are not listed go. -/
theorem Sound.removals (sound : registry.Sound) (infos : List NodeInfo) (nodes : List Node) :
    let left := nodes.foldl
      (fun registry node =>
        if infos.any fun info => decide (info.address = node.address) then registry
        else (registry.removeNode node.address).2) registry
    left.Sound ∧ ∀ id node, left.get? id = some node ↔
      registry.get? id = some node ∧
        (Listed infos node.address ∨ ∀ other ∈ nodes, other.address ≠ node.address) := by
  induction nodes generalizing registry with
  | nil => exact ⟨sound, fun id node => by simp⟩
  | cons first rest ih =>
      rw [List.foldl_cons]
      by_cases listed : (infos.any fun info => decide (info.address = first.address)) = true
      · rw [if_pos listed]
        obtain ⟨leftSound, left⟩ := ih sound
        refine ⟨leftSound, fun id node => (left id node).trans (and_congr_right fun _ => ?_)⟩
        rw [List.forall_mem_cons]
        refine ⟨fun stays => ?_, fun stays => stays.imp_right And.right⟩
        by_cases here : first.address = node.address
        · exact .inl (here ▸ listed_iff.mp listed)
        · exact stays.imp_right fun others => ⟨here, others⟩
      · rw [if_neg listed]
        obtain ⟨leftSound, left⟩ := ih (sound.removeNode first.address)
        refine ⟨leftSound, fun id node => (left id node).trans ?_⟩
        rw [sound.removeNode_iff, and_assoc, List.forall_mem_cons]
        refine and_congr_right fun _ => ⟨?_, ?_⟩
        · rintro ⟨elsewhere, stays⟩
          exact stays.imp_right fun others => ⟨elsewhere.symm, others⟩
        · rintro (isListed | ⟨elsewhere, others⟩)
          · refine ⟨fun here => listed ?_, .inl isListed⟩
            rw [here] at isListed
            exact listed_iff.mpr isListed
          · exact ⟨elsewhere.symm, .inr others⟩

theorem Sound.removeMissing (sound : registry.Sound) (infos : List NodeInfo) :
    (registry.removeMissing infos).Sound ∧ ∀ id node,
      (registry.removeMissing infos).get? id = some node ↔
        registry.get? id = some node ∧ Listed infos node.address := by
  obtain ⟨leftSound, left⟩ := sound.removals infos registry.snapshot.nodeList
  refine ⟨leftSound, fun id node => (left id node).trans (and_congr_right fun found => ?_)⟩
  have member : node ∈ registry.snapshot.nodeList :=
    sound.snapshot.indexed.mem_nodeList.mpr (sound.snapshot.indexed.of_get? found)
  exact or_iff_left fun others => others node member rfl

def Holds (registry : NodeRegistry) (address : SocketAddress) : Prop :=
  ∃ id node, registry.get? id = some node ∧ node.address = address

theorem Sound.exists_atAddress? (sound : registry.Sound) (holds : registry.Holds address) :
    ∃ node, registry.atAddress? address = some node := by
  obtain ⟨id, node, found, here⟩ := holds
  exact ⟨node, sound.atAddress?_iff.mpr ⟨sound.snapshot.indexed.of_get? found, here⟩⟩

theorem Sound.not_holds (sound : registry.Sound) (absent : registry.atAddress? address = none) :
    ¬registry.Holds address := by
  rintro ⟨id, node, found, here⟩
  exact sound.address_ne absent found here

theorem addNode_of_present (here : registry.atAddress? info.address = some node)
    (distance : Distance) : (registry.addNode info distance).2 = registry := by
  unfold addNode
  rw [here]

theorem Sound.get?_addNode_old (sound : registry.Sound)
    (absent : registry.atAddress? info.address = none) (distance : Distance)
    (found : registry.get? id = some node) :
    (registry.addNode info distance).2.get? id = some node := by
  have older : id ≠ ⟨registry.nextNumber⟩ := by
    rintro rfl
    exact Nat.lt_irrefl _ (sound.fresh found)
  rw [get?_addNode absent, if_neg older, found]

theorem Sound.holds_addNode (sound : registry.Sound) (info : NodeInfo) (distance : Distance) :
    (registry.addNode info distance).2.Holds info.address ∧
      ∀ {address}, registry.Holds address → (registry.addNode info distance).2.Holds address := by
  cases here : registry.atAddress? info.address with
  | some node =>
      obtain ⟨present, atAddress⟩ := sound.atAddress?_iff.mp here
      rw [addNode_of_present here]
      exact ⟨⟨node.id, node, present, atAddress⟩, fun holds => holds⟩
  | none =>
      refine ⟨⟨⟨registry.nextNumber⟩, registry.newcomer info distance, ?_, rfl⟩, ?_⟩
      · rw [get?_addNode here, if_pos rfl]
      · rintro address ⟨id, node, found, atAddress⟩
        exact ⟨id, node, sound.get?_addNode_old here distance found, atAddress⟩

/-- Descriptions of nodes that are there change each node one after the other. -/
theorem Sound.get?_applyAll (sound : registry.Sound) (distanceOf : NodeInfo → Distance)
    {infos : List NodeInfo} (known : ∀ info ∈ infos, registry.Holds info.address) (id : NodeId) :
    (infos.foldl (fun registry info => registry.applyInfo distanceOf info) registry).get? id =
      (registry.get? id).map fun node => infos.foldl (Node.after distanceOf) node := by
  induction infos generalizing registry with
  | nil => simp
  | cons info rest ih =>
      obtain ⟨first, later⟩ := List.forall_mem_cons.mp known
      obtain ⟨node, here⟩ := sound.exists_atAddress? first
      have changed := sound.get?_applyInfo distanceOf here
      rw [List.foldl_cons, ih (sound.applyInfo distanceOf info) fun other member => ?_,
        changed, Option.map_map]
      · rfl
      · obtain ⟨otherId, present, found, atAddress⟩ := later other member
        refine ⟨otherId, present.after distanceOf info, ?_, ?_⟩
        · rw [changed, found, Option.map_some]
        · rw [Node.address_after, atAddress]

end NodeRegistry

namespace Node

/-- Of several descriptions of a node the last one counts. -/
theorem afterAll_eq (distanceOf : NodeInfo → Distance) (node : Node) (infos : List NodeInfo) :
    infos.foldl (Node.after distanceOf) node =
      match infos.reverse.find? fun info => decide (info.address = node.address) with
      | some info => { node with info, distance := distanceOf info }
      | none => node := by
  induction infos generalizing node with
  | nil => rfl
  | cons info rest ih =>
      rw [List.foldl_cons, ih, address_after, List.reverse_cons, List.find?_append]
      cases rest.reverse.find? fun info => decide (info.address = node.address) with
      | some last =>
          have sameState := state_after distanceOf node info
          have sameId := id_after distanceOf node info
          dsimp only [Option.or]
          rw [sameState, sameId]
      | none =>
          dsimp only [Option.or]
          rw [List.find?_singleton]
          by_cases here : info.address = node.address
          · rw [if_pos (decide_eq_true here)]
            exact after_of_eq here.symm
          · rw [if_neg (by simpa using here)]
            exact after_of_ne fun same => here same.symm

end Node

end CqlDriver

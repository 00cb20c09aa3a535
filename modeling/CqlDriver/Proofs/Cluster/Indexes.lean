/-
The indexes of a view of the cluster agree: nodes stand under their own numbers, the
addresses lead to the nodes that have them, and the ring carries what the nodes announce.
-/

import CqlDriver.Proofs.Cluster.Moves
import CqlDriver.Proofs.Ring.Building

namespace CqlDriver

namespace ClusterSnapshot

structure Indexed (snapshot : ClusterSnapshot) : Prop where
  keyed : ∀ {id : NodeId} {node : Node}, snapshot.get? id = some node → node.id = id
  byAddress_iff : ∀ (address : SocketAddress) (id : NodeId),
    snapshot.byAddress.find? address = some id ↔
      ∃ node, snapshot.get? id = some node ∧ node.address = address
  distinctIds : snapshot.nodes.keys.Nodup
  distinctAddresses : snapshot.byAddress.keys.Nodup

def Announces (snapshot : ClusterSnapshot) (id : NodeId) (token : Token) : Prop :=
  ∃ node, snapshot.get? id = some node ∧ token ∈ node.tokens

structure Carries (snapshot : ClusterSnapshot) (ring : TokenMap NodeId) : Prop where
  ascending : TokenMap.Ascending ring.entries
  announced : ∀ {token : Token} {owner : NodeId},
    (token, owner) ∈ ring.entries → snapshot.Announces owner token
  complete : ∀ {token : Token} {id : NodeId},
    snapshot.Announces id token → ∃ owner, (token, owner) ∈ ring.entries

structure Sound (snapshot : ClusterSnapshot) : Prop where
  indexed : snapshot.Indexed
  carries : snapshot.Carries snapshot.ring

variable {snapshot before after : ClusterSnapshot} {node old : Node}

theorem get?_putNode (snapshot : ClusterSnapshot) (node : Node) (id : NodeId) :
    (snapshot.putNode node).get? id = if id = node.id then some node else snapshot.get? id :=
  Table.find?_put node.id id node snapshot.nodes

theorem get?_erase (snapshot : ClusterSnapshot) (gone : NodeId)
    (byAddress : Table SocketAddress NodeId) (id : NodeId) :
    get? { snapshot with nodes := snapshot.nodes.erase gone, byAddress } id =
      if id = gone then none else snapshot.get? id :=
  Table.find?_erase gone id snapshot.nodes

theorem get?_rebuilt (snapshot : ClusterSnapshot) (upToDate : Prop) [Decidable upToDate]
    (id : NodeId) :
    (if upToDate then snapshot else snapshot.rebuildRing).get? id = snapshot.get? id := by
  by_cases current : upToDate
  · rw [if_pos current]
  · rw [if_neg current]
    rfl

theorem get?_join (snapshot : ClusterSnapshot) (node : Node) (id : NodeId) :
    (snapshot.join node).get? id = if id = node.id then some node else snapshot.get? id := by
  unfold join
  rw [get?_rebuilt]
  exact get?_putNode snapshot node id

theorem get?_refresh (snapshot : ClusterSnapshot) (node : Node) (info : NodeInfo) (id : NodeId) :
    (snapshot.refresh node info).get? id =
      if id = node.id then some { node with info } else snapshot.get? id := by
  unfold refresh
  rw [get?_rebuilt]
  exact get?_putNode snapshot { node with info } id

theorem get?_leave (snapshot : ClusterSnapshot) (address : SocketAddress) (node : Node)
    (id : NodeId) :
    (snapshot.leave address node).get? id = if id = node.id then none else snapshot.get? id := by
  unfold leave
  rw [get?_rebuilt]
  exact get?_erase snapshot node.id _ id

theorem Indexed.of_get? (indexed : snapshot.Indexed) {id : NodeId}
    (found : snapshot.get? id = some node) : snapshot.get? node.id = some node := by
  rw [indexed.keyed found]
  exact found

theorem Indexed.of_atAddress? (indexed : snapshot.Indexed) {address : SocketAddress}
    (found : snapshot.atAddress? address = some node) :
    snapshot.get? node.id = some node ∧ node.address = address := by
  obtain ⟨id, atAddress, present⟩ := Option.bind_eq_some_iff.mp found
  obtain ⟨same, holds, sameAddress⟩ := (indexed.byAddress_iff address id).mp atAddress
  rw [present] at holds
  cases holds
  exact ⟨indexed.of_get? present, sameAddress⟩

/-- No two nodes have one address. -/
theorem Indexed.eq_of_address_eq (indexed : snapshot.Indexed) {first second : NodeId}
    {left right : Node} (foundLeft : snapshot.get? first = some left)
    (foundRight : snapshot.get? second = some right) (same : left.address = right.address) :
    left = right := by
  have atLeft := (indexed.byAddress_iff right.address first).mpr ⟨left, foundLeft, same⟩
  have atRight := (indexed.byAddress_iff right.address second).mpr ⟨right, foundRight, rfl⟩
  rw [atLeft] at atRight
  cases atRight
  rw [foundLeft] at foundRight
  exact Option.some.inj foundRight

theorem Indexed.address_ne_of_absent (indexed : snapshot.Indexed) {address : SocketAddress}
    (absent : snapshot.atAddress? address = none) {id : NodeId}
    (found : snapshot.get? id = some node) : node.address ≠ address := by
  intro same
  have atAddress := (indexed.byAddress_iff address id).mpr ⟨node, found, same⟩
  unfold atAddress? at absent
  rw [atAddress] at absent
  rw [Option.bind_some, found] at absent
  cases absent

theorem Indexed.mem_nodeList (indexed : snapshot.Indexed) :
    node ∈ snapshot.nodeList ↔ snapshot.get? node.id = some node := by
  constructor
  · intro member
    obtain ⟨⟨id, listed⟩, entry, same⟩ := List.mem_map.mp member
    cases same
    exact indexed.of_get? (Table.find?_of_mem indexed.distinctIds entry)
  · intro found
    exact List.mem_map.mpr ⟨(node.id, node), Table.mem_of_find? found, rfl⟩

theorem Indexed.keyed_putNode (indexed : snapshot.Indexed) (node : Node) {id : NodeId}
    {present : Node} (holds : (snapshot.putNode node).get? id = some present) :
    present.id = id := by
  rw [get?_putNode] at holds
  by_cases same : id = node.id
  · rw [if_pos same] at holds
    cases holds
    exact same.symm
  · rw [if_neg same] at holds
    exact indexed.keyed holds

theorem Indexed.putNode (indexed : snapshot.Indexed) (found : snapshot.get? node.id = some old)
    (sameAddress : node.address = old.address) : (snapshot.putNode node).Indexed := by
  refine ⟨indexed.keyed_putNode node, ?_, Table.nodup_keys_put indexed.distinctIds _ _,
    indexed.distinctAddresses⟩
  intro address id
  change snapshot.byAddress.find? address = some id ↔ _
  rw [indexed.byAddress_iff, get?_putNode]
  by_cases same : id = node.id
  · rw [if_pos same, same, found]
    simp only [Option.some.injEq, exists_eq_left', sameAddress]
  · rw [if_neg same]

theorem Indexed.join (indexed : snapshot.Indexed) (fresh : snapshot.get? node.id = none)
    (absent : snapshot.atAddress? node.address = none) :
    Indexed { snapshot.putNode node with
      byAddress := snapshot.byAddress.put node.address node.id } := by
  refine ⟨indexed.keyed_putNode node, ?_, Table.nodup_keys_put indexed.distinctIds _ _,
    Table.nodup_keys_put indexed.distinctAddresses _ _⟩
  intro address id
  change (snapshot.byAddress.put node.address node.id).find? address = some id ↔
    ∃ present, (snapshot.putNode node).get? id = some present ∧ present.address = address
  rw [get?_putNode]
  by_cases here : address = node.address
  · rw [here, Table.find?_put_self]
    by_cases same : id = node.id
    · rw [if_pos same, same]
      exact ⟨fun _ => ⟨node, rfl, rfl⟩, fun _ => rfl⟩
    · rw [if_neg same]
      constructor
      · intro found
        exact absurd (Option.some.inj found).symm same
      · rintro ⟨present, holds, sameAddress⟩
        exact absurd sameAddress (indexed.address_ne_of_absent absent holds)
  · rw [Table.find?_put_of_ne here, indexed.byAddress_iff]
    by_cases same : id = node.id
    · rw [if_pos same, same, fresh]
      constructor
      · rintro ⟨present, holds, _⟩
        cases holds
      · rintro ⟨present, holds, sameAddress⟩
        cases holds
        exact absurd sameAddress.symm here
    · rw [if_neg same]

theorem Indexed.leave (indexed : snapshot.Indexed) (found : snapshot.get? node.id = some node) :
    Indexed { snapshot with
      nodes := snapshot.nodes.erase node.id
      byAddress := snapshot.byAddress.erase node.address } := by
  refine ⟨?_, ?_, Table.nodup_keys_erase indexed.distinctIds _,
    Table.nodup_keys_erase indexed.distinctAddresses _⟩
  · intro id present holds
    rw [get?_erase] at holds
    by_cases same : id = node.id
    · rw [if_pos same] at holds
      cases holds
    · rw [if_neg same] at holds
      exact indexed.keyed holds
  · intro address id
    change (snapshot.byAddress.erase node.address).find? address = some id ↔ _
    rw [get?_erase]
    by_cases here : address = node.address
    · rw [here, Table.find?_erase_self]
      refine ⟨nofun, ?_⟩
      rintro ⟨present, holds, sameAddress⟩
      by_cases same : id = node.id
      · rw [if_pos same] at holds
        cases holds
      · rw [if_neg same] at holds
        have one := indexed.eq_of_address_eq holds found sameAddress
        rw [← indexed.keyed holds, one] at same
        exact absurd rfl same
    · rw [Table.find?_erase_of_ne here, indexed.byAddress_iff]
      by_cases same : id = node.id
      · rw [if_pos same, same, found]
        constructor
        · rintro ⟨present, holds, sameAddress⟩
          cases holds
          exact absurd sameAddress.symm here
        · rintro ⟨present, holds, _⟩
          cases holds
      · rw [if_neg same]

/-- A ring carries the announcements of a view in whatever order its nodes are visited. -/
theorem Indexed.carries_build (indexed : snapshot.Indexed) {visited : List Node}
    (all : visited.Perm snapshot.nodeList) :
    snapshot.Carries (.build (visited.map fun node => (node.id, node.tokens))) := by
  refine ⟨TokenMap.ascending_build _, ?_, ?_⟩
  · intro token owner member
    obtain ⟨tokens, listed, inTokens⟩ := TokenMap.announced_of_mem_build member
    obtain ⟨node, visit, same⟩ := List.mem_map.mp listed
    cases same
    exact ⟨node, indexed.mem_nodeList.mp (all.mem_iff.mp visit), inTokens⟩
  · rintro token id ⟨node, found, inTokens⟩
    have visit := all.mem_iff.mpr (indexed.mem_nodeList.mpr (indexed.of_get? found))
    exact TokenMap.exists_mem_build (List.mem_map.mpr ⟨node, visit, rfl⟩) inTokens

/-- A ring is kept where the announcements stay the same. -/
theorem Carries.keep {ring : TokenMap NodeId} (carries : before.Carries ring)
    (same : ∀ id token, after.Announces id token ↔ before.Announces id token) :
    after.Carries ring :=
  ⟨carries.ascending, fun member => (same _ _).mpr (carries.announced member),
    fun announces => carries.complete ((same _ _).mp announces)⟩

theorem Indexed.sound (indexed : snapshot.Indexed) {upToDate : Prop} [Decidable upToDate]
    (kept : upToDate → snapshot.Carries snapshot.ring) :
    (if upToDate then snapshot else snapshot.rebuildRing).Sound := by
  by_cases current : upToDate
  · rw [if_pos current]
    exact ⟨indexed, kept current⟩
  · rw [if_neg current]
    have carries := indexed.carries_build (List.Perm.refl snapshot.nodeList)
    exact ⟨⟨indexed.keyed, indexed.byAddress_iff, indexed.distinctIds,
      indexed.distinctAddresses⟩, ⟨carries.ascending, carries.announced, carries.complete⟩⟩

theorem announces_putNode (found : snapshot.get? node.id = some old)
    (sameTokens : node.tokens = old.tokens) (id : NodeId) (token : Token) :
    (snapshot.putNode node).Announces id token ↔ snapshot.Announces id token := by
  unfold Announces
  rw [get?_putNode]
  by_cases same : id = node.id
  · rw [if_pos same, same, found]
    simp only [Option.some.injEq, exists_eq_left', sameTokens]
  · rw [if_neg same]

theorem Sound.putNode (sound : snapshot.Sound) (found : snapshot.get? node.id = some old)
    (sameInfo : node.info = old.info) : (snapshot.putNode node).Sound :=
  ⟨sound.indexed.putNode found (congrArg NodeInfo.address sameInfo),
    sound.carries.keep (announces_putNode found (congrArg NodeInfo.tokens sameInfo))⟩

theorem not_announces_of_silent {id : NodeId} (found : snapshot.get? id = some node)
    (silent : node.tokens.isEmpty = true) (token : Token) : ¬snapshot.Announces id token := by
  rintro ⟨present, holds, announced⟩
  rw [found] at holds
  cases holds
  rw [List.isEmpty_iff.mp silent] at announced
  cases announced

theorem not_announces_of_absent {id : NodeId} (absent : snapshot.get? id = none)
    (token : Token) : ¬snapshot.Announces id token := by
  rintro ⟨present, holds, _⟩
  rw [absent] at holds
  cases holds

theorem Sound.join (sound : snapshot.Sound) (fresh : snapshot.get? node.id = none)
    (absent : snapshot.atAddress? node.address = none) : (snapshot.join node).Sound := by
  refine (sound.indexed.join fresh absent).sound fun silent => ?_
  refine sound.carries.keep fun id token => ?_
  change (snapshot.putNode node).Announces id token ↔ snapshot.Announces id token
  have now := get?_putNode snapshot node id
  by_cases same : id = node.id
  · rw [if_pos same] at now
    rw [← same] at fresh
    exact iff_of_false (not_announces_of_silent now silent token)
      (not_announces_of_absent fresh token)
  · rw [if_neg same] at now
    unfold Announces
    rw [now]

theorem Sound.refresh (sound : snapshot.Sound) {info : NodeInfo}
    (found : snapshot.atAddress? info.address = some node) :
    (snapshot.refresh node info).Sound := by
  obtain ⟨present, sameAddress⟩ := sound.indexed.of_atAddress? found
  let refreshed : Node := { node with info }
  have known : snapshot.get? refreshed.id = some node := present
  refine (sound.indexed.putNode known sameAddress.symm).sound fun sameTokens => ?_
  exact sound.carries.keep (announces_putNode known sameTokens.symm)

theorem Sound.leave (sound : snapshot.Sound) {address : SocketAddress}
    (found : snapshot.atAddress? address = some node) :
    (snapshot.leave address node).Sound := by
  obtain ⟨present, sameAddress⟩ := sound.indexed.of_atAddress? found
  rw [← sameAddress]
  refine (sound.indexed.leave present).sound fun silent => ?_
  refine sound.carries.keep fun id token => ?_
  have now := get?_erase snapshot node.id (snapshot.byAddress.erase node.address) id
  by_cases same : id = node.id
  · rw [if_pos same] at now
    rw [← same] at present
    exact iff_of_false (not_announces_of_absent now token)
      (not_announces_of_silent present silent token)
  · rw [if_neg same] at now
    unfold Announces
    rw [now]

theorem sound_empty : Sound {} := by
  refine ⟨⟨nofun, ?_, List.Pairwise.nil, List.Pairwise.nil⟩, ⟨List.Pairwise.nil, nofun, ?_⟩⟩
  · intro address id
    refine ⟨nofun, ?_⟩
    rintro ⟨node, found, _⟩
    cases found
  · rintro token id ⟨node, found, _⟩
    cases found

end ClusterSnapshot

namespace NodeRegistry

/-- The indexes agree, and the next number was never given to a node. -/
structure Sound (registry : NodeRegistry) : Prop where
  snapshot : registry.snapshot.Sound
  fresh : ∀ {id : NodeId} {node : Node},
    registry.get? id = some node → id.number < registry.nextNumber

variable {before after registry : NodeRegistry}

theorem Sound.newcomer_absent (sound : registry.Sound) (info : NodeInfo) (distance : Distance) :
    registry.snapshot.get? (registry.newcomer info distance).id = none := by
  cases found : registry.snapshot.get? (registry.newcomer info distance).id with
  | none => rfl
  | some node => exact absurd (sound.fresh found) (Nat.lt_irrefl registry.nextNumber)

theorem Sound.fresh_at (sound : registry.Sound) {node old : Node}
    (found : registry.get? node.id = some old) {now : Option Node} {id : NodeId} {present : Node}
    (holds : (if id = node.id then now else registry.get? id) = some present) :
    id.number < registry.nextNumber := by
  by_cases same : id = node.id
  · rw [same]
    exact sound.fresh found
  · rw [if_neg same] at holds
    exact sound.fresh holds

theorem Move.sound {event? : Option NodeEvent} (move : before.Move event? after)
    (sound : before.Sound) : after.Sound := by
  cases move with
  | rest => exact sound
  | @join info distance absent =>
      refine ⟨sound.snapshot.join (sound.newcomer_absent info distance) absent, ?_⟩
      intro id node found
      change (before.snapshot.join (before.newcomer info distance)).get? id = some node at found
      change id.number < before.nextNumber + 1
      rw [ClusterSnapshot.get?_join] at found
      by_cases same : id = (before.newcomer info distance).id
      · rw [same]
        exact Nat.lt_succ_self before.nextNumber
      · rw [if_neg same] at found
        exact Nat.lt_succ_of_lt (sound.fresh found)
  | @refresh node info found =>
      have present := (sound.snapshot.indexed.of_atAddress? found).1
      refine ⟨sound.snapshot.refresh found, ?_⟩
      intro id node holds
      exact sound.fresh_at present ((ClusterSnapshot.get?_refresh _ _ _ _).symm.trans holds)
  | leave found =>
      have present := (sound.snapshot.indexed.of_atAddress? found).1
      refine ⟨sound.snapshot.leave found, ?_⟩
      intro id node holds
      exact sound.fresh_at present ((ClusterSnapshot.get?_leave _ _ _ _).symm.trans holds)
  | @redistance node id distance found other =>
      have present := sound.snapshot.indexed.of_get? found
      let moved : Node := { node with distance }
      refine ⟨sound.snapshot.putNode (show before.get? moved.id = some node from present) rfl, ?_⟩
      intro id node holds
      exact sound.fresh_at present ((ClusterSnapshot.get?_putNode _ moved _).symm.trans holds)
  | @restate node id state found allowed =>
      have present := sound.snapshot.indexed.of_get? found
      let changed : Node := { node with state }
      refine ⟨sound.snapshot.putNode (show before.get? changed.id = some node from present) rfl, ?_⟩
      intro id node holds
      exact sound.fresh_at present ((ClusterSnapshot.get?_putNode _ changed _).symm.trans holds)

theorem Sound.performAll (sound : registry.Sound) (operations : List RegistryOperation) :
    (registry.performAll operations).Sound :=
  performAll_keeps Move.sound sound operations

theorem sound_empty : empty.Sound := ⟨ClusterSnapshot.sound_empty, nofun⟩

/-- Whatever is done to a registry, its nodes stand under their own numbers, the addresses
lead exactly to the nodes that have them, and the ring carries exactly the tokens that the
nodes announce, in whatever order they were visited when it was built. -/
theorem indexes_agree (operations : List RegistryOperation) :
    let snapshot := (empty.performAll operations).snapshot
    (∀ id node, snapshot.get? id = some node → node.id = id) ∧
    (∀ address id, snapshot.byAddress.find? address = some id ↔
      ∃ node, snapshot.get? id = some node ∧ node.address = address) ∧
    (∀ first second left right, snapshot.get? first = some left →
      snapshot.get? second = some right → left.address = right.address → left = right) ∧
    snapshot.nodes.keys.Nodup ∧ snapshot.byAddress.keys.Nodup ∧
    snapshot.Carries snapshot.ring ∧
    ∀ visited : List Node, visited.Perm snapshot.nodeList →
      snapshot.Carries (.build (visited.map fun node => (node.id, node.tokens))) := by
  obtain ⟨indexed, carries⟩ := (sound_empty.performAll operations).snapshot
  exact ⟨fun _ _ => indexed.keyed, indexed.byAddress_iff,
    fun _ _ _ _ => indexed.eq_of_address_eq, indexed.distinctIds, indexed.distinctAddresses,
    carries, fun _ => indexed.carries_build⟩

/-- Two nodes announce a token; the one that came first leaves. -/
def sharedToken : List RegistryOperation :=
  [.addNode { address := ⟨.ofParts 127 0 0 1, 1, 0⟩, tokens := [⟨99⟩] } .localDc,
    .addNode { address := ⟨.ofParts 127 0 0 1, 2, 0⟩, tokens := [⟨199⟩, ⟨99⟩] } .localDc,
    .signalUp ⟨2⟩,
    .removeNode ⟨.ofParts 127 0 0 1, 1, 0⟩]

/-- The node that stayed is found both ways and carries the token alone, also when the ring
is built from the nodes backwards. -/
theorem sharedToken_indexes :
    let snapshot := (empty.performAll sharedToken).snapshot
    ∃ node, snapshot.get? ⟨2⟩ = some node ∧ node.id = ⟨2⟩ ∧
      snapshot.byAddress.find? ⟨.ofParts 127 0 0 1, 2, 0⟩ = some ⟨2⟩ ∧
      (∃ owner, (⟨99⟩, owner) ∈ snapshot.ring.entries ∧ snapshot.Announces owner ⟨99⟩) ∧
      snapshot.Carries
        (.build (snapshot.nodeList.reverse.map fun node => (node.id, node.tokens))) := by
  obtain ⟨keyed, byAddress, _, _, _, carries, built⟩ := indexes_agree sharedToken
  obtain ⟨node, present, sameAddress, announced⟩ :
      ∃ node, (empty.performAll sharedToken).snapshot.get? ⟨2⟩ = some node ∧
        node.address = ⟨.ofParts 127 0 0 1, 2, 0⟩ ∧ (⟨99⟩ : Token) ∈ node.tokens :=
    ⟨_, rfl, by decide, by decide⟩
  obtain ⟨owner, onRing⟩ := carries.complete ⟨node, present, announced⟩
  exact ⟨node, present, keyed _ _ present, (byAddress _ _).mpr ⟨node, present, sameAddress⟩,
    ⟨owner, onRing, carries.announced onRing⟩, built _ (List.reverse_perm _)⟩

end NodeRegistry

end CqlDriver

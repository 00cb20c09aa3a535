/-
A registry against the list of all nodes. Seen from an address, the list decides whether a node
is registered there and what is known of it; which node it is, and its health, stay as they were.
A registry that agrees with the list is left alone.
-/

import CqlDriver.Proofs.Session.Refreshing

namespace CqlDriver.NodeRegistry

variable {registry : NodeRegistry} {distanceOf : NodeInfo → Distance} {infos : List NodeInfo}
  {address : SocketAddress} {info : NodeInfo} {node : Node}

theorem Sound.atAddress?_of_get? (sound : registry.Sound) {id : NodeId}
    (found : registry.get? id = some node) : registry.atAddress? node.address = some node :=
  sound.atAddress?_iff.mpr ⟨sound.snapshot.indexed.of_get? found, rfl⟩

/-- Two registries have the same node at an address if they have the same nodes with it. -/
theorem Sound.atAddress?_eq {after : NodeRegistry} (sound : registry.Sound)
    (afterSound : after.Sound)
    (same : ∀ id node, node.address = address →
      (after.get? id = some node ↔ registry.get? id = some node)) :
    after.atAddress? address = registry.atAddress? address := by
  ext node
  rw [afterSound.atAddress?_iff, sound.atAddress?_iff]
  constructor
  · rintro ⟨found, here⟩
    exact ⟨(same _ node here).mp found, here⟩
  · rintro ⟨found, here⟩
    exact ⟨(same _ node here).mpr found, here⟩

theorem Sound.atAddress?_applyInfo_of_ne (sound : registry.Sound)
    (distanceOf : NodeInfo → Distance) (elsewhere : address ≠ info.address) :
    (registry.applyInfo distanceOf info).atAddress? address = registry.atAddress? address := by
  refine sound.atAddress?_eq (sound.applyInfo distanceOf info) fun id node here => ?_
  cases known : registry.atAddress? info.address with
  | none =>
      rw [applyInfo_of_absent distanceOf known, get?_addNode known]
      by_cases isNew : id = ⟨registry.nextNumber⟩
      · rw [if_pos isNew]
        constructor
        · intro same
          cases same
          exact absurd here.symm elsewhere
        · rintro found
          rw [isNew] at found
          exact absurd (sound.fresh found) (Nat.lt_irrefl _)
      · rw [if_neg isNew]
  | some present =>
      rw [sound.get?_applyInfo distanceOf known, Option.map_eq_some_iff]
      constructor
      · rintro ⟨old, found, rfl⟩
        rw [Node.address_after] at here
        rw [Node.after_of_ne fun same => elsewhere (here.symm.trans same)]
        exact found
      · intro found
        exact ⟨node, found, Node.after_of_ne fun same => elsewhere (here.symm.trans same)⟩

theorem Sound.described_applyAll (sound : registry.Sound) (distanceOf : NodeInfo → Distance)
    (distinct : (infos.map NodeInfo.address).Nodup) :
    let after := infos.foldl (fun registry info => registry.applyInfo distanceOf info) registry
    after.Sound ∧
      (∀ info ∈ infos, ∃ node, after.atAddress? info.address = some node ∧
        Described distanceOf info (registry.atAddress? info.address) node) ∧
      ∀ address, ¬Listed infos address →
        after.atAddress? address = registry.atAddress? address := by
  induction infos generalizing registry with
  | nil => exact ⟨sound, nofun, fun _ _ => rfl⟩
  | cons info rest ih =>
      obtain ⟨once, restDistinct⟩ := List.nodup_cons.mp distinct
      have unlisted : ¬Listed rest info.address := fun ⟨other, member, same⟩ =>
        once (List.mem_map.mpr ⟨other, member, same⟩)
      obtain ⟨after, described, others⟩ := ih (sound.applyInfo distanceOf info) restDistinct
      refine ⟨after, fun other member => ?_, fun address absent => ?_⟩
      · rcases List.mem_cons.mp member with rfl | later
        · rw [List.foldl_cons, others _ unlisted]
          exact sound.described_applyInfo distanceOf other
        · have elsewhere : other.address ≠ info.address := fun same =>
            unlisted ⟨other, later, same⟩
          rw [← sound.atAddress?_applyInfo_of_ne distanceOf elsewhere]
          exact described other later
      · have elsewhere : address ≠ info.address := fun same =>
          absent ⟨info, List.mem_cons_self, same.symm⟩
        have restAbsent : ¬Listed rest address := fun ⟨other, member, same⟩ =>
          absent ⟨other, List.mem_cons_of_mem info member, same⟩
        rw [List.foldl_cons, others address restAbsent]
        exact sound.atAddress?_applyInfo_of_ne distanceOf elsewhere

theorem Sound.atAddress?_removeMissing (sound : registry.Sound) (infos : List NodeInfo)
    (address : SocketAddress) :
    (Listed infos address →
      (registry.removeMissing infos).atAddress? address = registry.atAddress? address) ∧
    (¬Listed infos address → (registry.removeMissing infos).atAddress? address = none) := by
  obtain ⟨leftSound, left⟩ := sound.removeMissing infos
  refine ⟨fun listed => ?_, fun unlisted => ?_⟩
  · refine sound.atAddress?_eq leftSound fun id node here => ?_
    rw [left, here]
    exact and_iff_left listed
  · rw [Option.eq_none_iff_forall_not_mem]
    intro node found
    obtain ⟨present, here⟩ := leftSound.atAddress?_iff.mp found
    exact unlisted (here ▸ ((left _ node).mp present).2)

structure Agrees (distanceOf : NodeInfo → Distance) (infos : List NodeInfo)
    (before registry : NodeRegistry) : Prop where
  sound : registry.Sound
  listed : ∀ info ∈ infos, ∃ node, registry.atAddress? info.address = some node ∧
    Described distanceOf info (before.atAddress? info.address) node
  covered : ∀ {id node}, registry.get? id = some node → Listed infos node.address

theorem Sound.agrees_refreshNodes (sound : registry.Sound) (distanceOf : NodeInfo → Distance)
    (distinct : (infos.map NodeInfo.address).Nodup) (told : infos ≠ []) :
    Agrees distanceOf infos registry (registry.refreshNodes distanceOf infos) := by
  unfold refreshNodes
  rw [if_neg (mt List.isEmpty_iff.mp told)]
  obtain ⟨after, described, others⟩ :=
    (sound.removeMissing infos).1.described_applyAll distanceOf distinct
  refine ⟨after, fun info member => ?_, fun {id node} found => ?_⟩
  · have stayed := (sound.atAddress?_removeMissing infos info.address).1 ⟨info, member, rfl⟩
    rw [← stayed]
    exact described info member
  · refine Classical.byContradiction fun unlisted => ?_
    have present := after.atAddress?_of_get? found
    rw [others _ unlisted, (sound.atAddress?_removeMissing infos _).2 unlisted] at present
    cases present

theorem Agrees.holds_iff {before : NodeRegistry} (agrees : Agrees distanceOf infos before registry)
    (address : SocketAddress) : registry.Holds address ↔ Listed infos address := by
  constructor
  · rintro ⟨id, node, found, rfl⟩
    exact agrees.covered found
  · rintro ⟨info, member, rfl⟩
    obtain ⟨node, here, _⟩ := agrees.listed info member
    obtain ⟨found, same⟩ := agrees.sound.atAddress?_iff.mp here
    exact ⟨node.id, node, found, same⟩

theorem Agrees.described {before : NodeRegistry} (agrees : Agrees distanceOf infos before registry)
    {id : NodeId} (found : registry.get? id = some node) :
    ∃ info ∈ infos, info.address = node.address ∧
      Described distanceOf info (before.atAddress? node.address) node := by
  obtain ⟨info, member, same⟩ := agrees.covered found
  obtain ⟨other, here, described⟩ := agrees.listed info member
  rw [same, agrees.sound.atAddress?_of_get? found] at here
  cases here
  rw [same] at described
  exact ⟨info, member, same, described⟩

theorem Agrees.kept {before : NodeRegistry} (agrees : Agrees distanceOf infos before registry)
    (sound : before.Sound) {id : NodeId} {old : Node} (found : before.get? id = some old)
    (listed : Listed infos old.address) :
    ∃ node, registry.get? id = some node ∧ node.address = old.address ∧
      node.state = old.state := by
  obtain ⟨info, member, same⟩ := listed
  obtain ⟨node, here, described⟩ := agrees.listed info member
  rw [same] at here described
  obtain ⟨present, atAddress⟩ := agrees.sound.atAddress?_iff.mp here
  obtain ⟨sameId, sameState⟩ := described.kept old (sound.atAddress?_of_get? found)
  rw [sameId, sound.id_eq found] at present
  exact ⟨node, present, atAddress, sameState⟩

/-- A description that agrees with what is known changes nothing. -/
theorem Sound.applyInfo_eq_self (sound : registry.Sound)
    (here : registry.atAddress? info.address = some node) (sameInfo : node.info = info)
    (sameDistance : node.distance = distanceOf info) :
    registry.applyInfo distanceOf info = registry := by
  have refreshed : (registry.refreshNode info).2 = registry := by
    unfold refreshNode
    rw [here]
    dsimp only
    rw [if_pos sameInfo]
  have placed : (registry.setDistance node.id (distanceOf info)).2 = registry := by
    unfold setDistance
    rw [(sound.atAddress?_iff.mp here).1]
    dsimp only
    rw [if_pos sameDistance]
  unfold NodeRegistry.applyInfo
  rw [here]
  dsimp only
  rw [refreshed, placed]

theorem Agrees.refreshNodes_eq_self {before : NodeRegistry}
    (agrees : Agrees distanceOf infos before registry) :
    registry.refreshNodes distanceOf infos = registry := by
  have nobodyMissing : registry.removeMissing infos = registry := by
    refine List.foldlRecOn (motive := (· = registry)) registry.snapshot.nodeList _ rfl
      fun left same node member => ?_
    have found := agrees.sound.snapshot.indexed.mem_nodeList.mp member
    rw [if_pos (listed_iff.mpr (agrees.covered found))]
    exact same
  have nothingNew : infos.foldl (fun registry info => registry.applyInfo distanceOf info) registry =
      registry := by
    refine List.foldlRecOn (motive := (· = registry)) infos _ rfl
      fun left same info member => ?_
    obtain ⟨node, here, described⟩ := agrees.listed info member
    rw [same]
    exact agrees.sound.applyInfo_eq_self here described.told described.placed
  unfold refreshNodes
  split
  · rfl
  · rw [nobodyMissing, nothingNew]

/-- For every registry and every list that describes no address twice. An empty list changes
nothing. After any other one there are nodes at the listed addresses and nowhere else, each as it
is described and at the distance that the policy gives it. A node whose address was known before
is the same one in the same health, and every other one is of unknown health. To take in the list
again changes nothing and publishes nothing. -/
theorem refresh_reconciles (distanceOf : NodeInfo → Distance)
    (operations : List RegistryOperation) (infos : List NodeInfo)
    (distinct : (infos.map NodeInfo.address).Nodup) :
    let before := empty.performAll operations
    let after := before.refreshNodes distanceOf infos
    (infos = [] → after = before) ∧
    (infos ≠ [] →
      (∀ address, after.Holds address ↔ Listed infos address) ∧
      (∀ id old, before.get? id = some old → Listed infos old.address →
        ∃ node, after.get? id = some node ∧ node.address = old.address ∧
          node.state = old.state) ∧
      (∀ id node, after.get? id = some node →
        node.info ∈ infos ∧ node.distance = distanceOf node.info ∧
          (¬before.Holds node.address → node.state = .unknown))) ∧
    after.refreshNodes distanceOf infos = after := by
  intro before after
  have sound : before.Sound := sound_empty.performAll operations
  by_cases told : infos = []
  · subst told
    exact ⟨fun _ => rfl, fun untold => absurd rfl untold, rfl⟩
  · have agrees : Agrees distanceOf infos before after :=
      sound.agrees_refreshNodes distanceOf distinct told
    refine ⟨fun silent => absurd silent told, fun _ => ⟨agrees.holds_iff, ?_, ?_⟩,
      agrees.refreshNodes_eq_self⟩
    · exact fun id old found listed => agrees.kept sound found listed
    · intro id node found
      obtain ⟨info, member, _, described⟩ := agrees.described found
      refine ⟨described.told ▸ member, described.told ▸ described.placed, fun unknown => ?_⟩
      refine described.new (Option.eq_none_iff_forall_not_mem.mpr fun old here => unknown ?_)
      obtain ⟨present, same⟩ := sound.atAddress?_iff.mp here
      exact ⟨old.id, old, present, same⟩

/-- The first of these hosts was known in another datacenter, and the third one was not known. -/
def movedAndNew : List NodeInfo :=
  [{ address := hostAddress 1, datacenter := some "dc2" },
    { address := hostAddress 3, datacenter := some "dc1" }]

/-- The second host is gone; the first one moved, and stays switched off. -/
theorem moved_and_new_reconciled :
    let before := empty.performAll
      [.addNode { address := hostAddress 1, datacenter := some "dc1" } .localDc,
        .addNode { address := hostAddress 2 } .remote, .signalUp ⟨2⟩, .forceDown ⟨1⟩]
    let after := before.refreshNodes homeDistance movedAndNew
    (movedAndNew.map NodeInfo.address).Nodup ∧ movedAndNew ≠ [] ∧
      ¬after.Holds (hostAddress 2) ∧ after.Holds (hostAddress 3) ∧
      (∃ node, after.get? ⟨1⟩ = some node ∧ node.address = hostAddress 1 ∧
        node.state = .forcedDown ∧ node.distance = homeDistance node.info) ∧
      after.refreshNodes homeDistance movedAndNew = after := by
  intro before after
  have distinct : (movedAndNew.map NodeInfo.address).Nodup := by decide
  have told : movedAndNew ≠ [] := nofun
  obtain ⟨_, reconciled, again⟩ := refresh_reconciles homeDistance
    [.addNode { address := hostAddress 1, datacenter := some "dc1" } .localDc,
      .addNode { address := hostAddress 2 } .remote, .signalUp ⟨2⟩, .forceDown ⟨1⟩]
    movedAndNew distinct
  obtain ⟨holds, kept, described⟩ := reconciled told
  have known : before.get? ⟨1⟩ = some
      { id := ⟨1⟩, info := { address := hostAddress 1, datacenter := some "dc1" }
        state := .forcedDown, distance := .localDc } := by decide
  obtain ⟨node, present, sameAddress, sameState⟩ := kept ⟨1⟩ _ known (listed_iff.mp (by decide))
  refine ⟨distinct, told, ?_, (holds _).mpr (listed_iff.mp (by decide)), ?_, again⟩
  · rw [holds, ← listed_iff]
    decide
  · exact ⟨node, present, sameAddress, sameState, (described ⟨1⟩ node present).2.1⟩

end CqlDriver.NodeRegistry

/-
What the news of a cluster do to a registry, one operation after the other. Whoever is
described comes in or is brought up to date, with the distance of the description. Health
changes on the word of servers and pools only, and never by a node being switched off or on.
-/

import CqlDriver.Proofs.Session.Effects

namespace CqlDriver.NodeRegistry

inductive Updated (distanceOf : NodeInfo → Distance) (leaves : SocketAddress → Prop)
    (registry : NodeRegistry) : NodeRegistry → Prop
  | refl : Updated distanceOf leaves registry registry
  | added {before : NodeRegistry} (updated : Updated distanceOf leaves registry before)
      (info : NodeInfo) : Updated distanceOf leaves registry (before.addNode info (distanceOf info)).2
  | described {before : NodeRegistry} (updated : Updated distanceOf leaves registry before)
      (info : NodeInfo) : Updated distanceOf leaves registry (before.applyInfo distanceOf info)
  | left {before : NodeRegistry} (updated : Updated distanceOf leaves registry before)
      {address : SocketAddress} (gone : leaves address) :
      Updated distanceOf leaves registry (before.removeNode address).2
  | up {before : NodeRegistry} (updated : Updated distanceOf leaves registry before)
      (id : NodeId) : Updated distanceOf leaves registry (before.signalUp id).2
  | down {before : NodeRegistry} (updated : Updated distanceOf leaves registry before)
      (id : NodeId) : Updated distanceOf leaves registry (before.signalDown id).2

variable {distanceOf : NodeInfo → Distance} {leaves : SocketAddress → Prop}
  {registry : NodeRegistry} {infos : List NodeInfo}

theorem updated_removeMissing (gone : ∀ {address}, ¬Listed infos address → leaves address) :
    registry.Updated distanceOf leaves (registry.removeMissing infos) := by
  refine List.foldlRecOn registry.snapshot.nodeList _ .refl fun before updated node _ => ?_
  by_cases listed : (infos.any fun info => decide (info.address = node.address)) = true
  · rw [if_pos listed]
    exact updated
  · rw [if_neg listed]
    exact updated.left (gone (mt listed_iff.mpr listed))

theorem updated_refreshNodes (distanceOf : NodeInfo → Distance) (registry : NodeRegistry)
    (infos : List NodeInfo) :
    registry.Updated distanceOf (fun address => infos ≠ [] ∧ ¬Listed infos address)
      (registry.refreshNodes distanceOf infos) := by
  unfold refreshNodes
  by_cases silent : infos.isEmpty = true
  · rw [if_pos silent]
    exact .refl
  · rw [if_neg silent]
    have told : infos ≠ [] := mt List.isEmpty_iff.mpr silent
    exact List.foldlRecOn infos _ (updated_removeMissing fun unlisted => ⟨told, unlisted⟩)
      fun _ updated info _ => updated.described info

theorem updated_fill (distanceOf : NodeInfo → Distance) (registry : NodeRegistry)
    (reached : SocketAddress) (infos : List NodeInfo) :
    registry.Updated distanceOf (fun _ => False) (registry.fill distanceOf reached infos) := by
  have discovered : registry.Updated distanceOf (fun _ => False)
      (registry.discover distanceOf infos) :=
    List.foldlRecOn infos _ .refl fun _ updated info _ => updated.added info
  unfold fill
  dsimp only
  split
  · exact discovered.up _
  · exact discovered

theorem updated_onEvent (distanceOf : NodeInfo → Distance) (monitor : TopologyMonitor)
    (event : ServerEvent) (registry : NodeRegistry) :
    registry.Updated distanceOf (fun address => event = .topology .removedNode address)
      (registry.onEvent distanceOf monitor event) := by
  cases event with
  | topology change address =>
      cases change with
      | newNode =>
          unfold onEvent onNewNode
          dsimp only
          split
          · exact .added .refl _
          · exact .refl
      | removedNode => exact .left .refl rfl
      | movedNode =>
          unfold onEvent onMovedNode
          dsimp only
          split
          · exact .described .refl _
          · exact .refl
  | status change address =>
      unfold onEvent onStatus
      dsimp only
      split
      · exact .refl
      · cases change with
        | up => exact .up .refl _
        | down => exact .down .refl _
  | schema => exact .refl

end CqlDriver.NodeRegistry

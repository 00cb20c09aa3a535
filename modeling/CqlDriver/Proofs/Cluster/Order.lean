/-
The nodes of a view stand in the order of their numbers, since each newcomer gets the number
that comes next and stands behind all others.
-/

import CqlDriver.Proofs.Cluster.Indexes

namespace CqlDriver

namespace ClusterSnapshot

def InOrder (snapshot : ClusterSnapshot) : Prop :=
  snapshot.nodes.keys.Pairwise fun left right => left.number < right.number

variable {snapshot : ClusterSnapshot} {node old : Node}

theorem nodes_rebuilt (snapshot : ClusterSnapshot) (upToDate : Prop) [Decidable upToDate] :
    (if upToDate then snapshot else snapshot.rebuildRing).nodes = snapshot.nodes := by
  by_cases current : upToDate
  · rw [if_pos current]
  · rw [if_neg current]
    rfl

theorem nodes_join (snapshot : ClusterSnapshot) (node : Node) :
    (snapshot.join node).nodes = snapshot.nodes.put node.id node :=
  nodes_rebuilt _ _

theorem nodes_refresh (snapshot : ClusterSnapshot) (node : Node) (info : NodeInfo) :
    (snapshot.refresh node info).nodes = snapshot.nodes.put node.id { node with info } :=
  nodes_rebuilt _ _

theorem nodes_leave (snapshot : ClusterSnapshot) (address : SocketAddress) (node : Node) :
    (snapshot.leave address node).nodes = snapshot.nodes.erase node.id :=
  nodes_rebuilt _ _

theorem mem_keys_of_get? {id : NodeId} (found : snapshot.get? id = some node) :
    id ∈ snapshot.nodes.keys :=
  (Table.find?_isSome_iff id snapshot.nodes).mp ⟨node, found⟩

theorem keys_put_of_get? {id : NodeId} (found : snapshot.get? id = some old) (node : Node) :
    (snapshot.nodes.put id node).keys = snapshot.nodes.keys := by
  rw [Table.keys_put, if_pos (mem_keys_of_get? found)]

theorem Indexed.nodeList_ids (indexed : snapshot.Indexed) :
    snapshot.nodeList.map Node.id = snapshot.nodes.keys := by
  unfold nodeList Table.values Table.keys
  rw [List.map_map]
  refine List.map_congr_left fun entry member => ?_
  exact indexed.keyed (Table.find?_of_mem indexed.distinctIds member)

end ClusterSnapshot

namespace NodeRegistry

open ClusterSnapshot

variable {before after registry : NodeRegistry}

theorem Move.inOrder {event? : Option NodeEvent} (move : before.Move event? after)
    (sound : before.Sound) (ordered : before.snapshot.InOrder) : after.snapshot.InOrder := by
  unfold InOrder at ordered ⊢
  cases move with
  | rest => exact ordered
  | @join info distance absent =>
      change (before.snapshot.join (before.newcomer info distance)).nodes.keys.Pairwise _
      have fresh := (Table.find?_eq_none_iff _ _).mp (sound.newcomer_absent info distance)
      rw [nodes_join, Table.keys_put, if_neg fresh]
      refine List.pairwise_append.mpr ⟨ordered, List.pairwise_singleton _ _, ?_⟩
      intro id member last isLast
      rw [List.mem_singleton.mp isLast]
      obtain ⟨node, found⟩ := (Table.find?_isSome_iff id before.snapshot.nodes).mpr member
      exact sound.fresh found
  | refresh found =>
      have present := (sound.snapshot.indexed.of_atAddress? found).1
      dsimp only
      rw [nodes_refresh, keys_put_of_get? present]
      exact ordered
  | @leave node address found =>
      change (before.snapshot.leave address node).nodes.keys.Pairwise _
      rw [nodes_leave, Table.keys_erase]
      exact ordered.filter _
  | @redistance node id distance found other =>
      have present := sound.snapshot.indexed.of_get? found
      change (before.snapshot.nodes.put node.id { node with distance }).keys.Pairwise _
      rw [keys_put_of_get? present]
      exact ordered
  | @restate node id state found allowed =>
      have present := sound.snapshot.indexed.of_get? found
      change (before.snapshot.nodes.put node.id { node with state }).keys.Pairwise _
      rw [keys_put_of_get? present]
      exact ordered

theorem performAll_inOrder (operations : List RegistryOperation) :
    (empty.performAll operations).Sound ∧ (empty.performAll operations).snapshot.InOrder := by
  refine performAll_keeps (motive := fun registry => registry.Sound ∧ registry.snapshot.InOrder)
    (fun move both => ⟨move.sound both.1, move.inOrder both.1 both.2⟩) ⟨sound_empty, ?_⟩ operations
  exact List.Pairwise.nil

theorem nodeList_ascending (operations : List RegistryOperation) :
    (empty.performAll operations).snapshot.nodeList.Pairwise fun left right =>
      left.id.number < right.id.number := by
  obtain ⟨sound, ordered⟩ := performAll_inOrder operations
  unfold InOrder at ordered
  rw [← sound.snapshot.indexed.nodeList_ids, List.pairwise_map] at ordered
  exact ordered

end NodeRegistry

end CqlDriver

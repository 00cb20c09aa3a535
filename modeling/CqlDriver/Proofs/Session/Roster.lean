/-
Which nodes have a pool. An event gives a pool to one node or takes one away, and a
comparison leaves exactly the nodes of the snapshot with one. Pools that stay are the same
pools.
-/

import CqlDriver.Proofs.Cluster.Indexes
import CqlDriver.Session.Pools

namespace CqlDriver.PoolTable

variable {plan : PoolPlan} {pools : PoolTable} {node : Node} {id : NodeId} {pool : Pool}
  {snapshot : ClusterSnapshot} {nodes : List Node}

theorem mem_keys (found : pools.find? id = some pool) : id ∈ pools.keys :=
  (Table.find?_isSome_iff id pools).mp ⟨pool, found⟩

theorem provide_of_mem (present : node.id ∈ pools.keys) : provide plan node pools = pools := by
  obtain ⟨pool, found⟩ := (Table.find?_isSome_iff node.id pools).mpr present
  unfold provide
  rw [found]

theorem provide_of_not_mem (absent : node.id ∉ pools.keys) :
    provide plan node pools = pools.put node.id (newPool plan node) := by
  unfold provide
  rw [(Table.find?_eq_none_iff node.id pools).mpr absent]

theorem mem_keys_provide :
    id ∈ (provide plan node pools).keys ↔ id ∈ pools.keys ∨ id = node.id := by
  by_cases present : node.id ∈ pools.keys
  · rw [provide_of_mem present]
    refine ⟨Or.inl, fun either => either.elim (fun member => member) fun same => ?_⟩
    rw [same]
    exact present
  · rw [provide_of_not_mem present, Table.keys_put, if_neg present, List.mem_append,
      List.mem_singleton]

theorem nodup_provide (distinct : pools.keys.Nodup) : (provide plan node pools).keys.Nodup := by
  by_cases present : node.id ∈ pools.keys
  · rw [provide_of_mem present]
    exact distinct
  · rw [provide_of_not_mem present]
    exact Table.nodup_keys_put distinct node.id _

theorem find?_provide (found : (provide plan node pools).find? id = some pool) :
    pools.find? id = some pool ∨ id = node.id ∧ pool = newPool plan node := by
  by_cases present : node.id ∈ pools.keys
  · rw [provide_of_mem present] at found
    exact Or.inl found
  · rw [provide_of_not_mem present, Table.find?_put] at found
    by_cases same : id = node.id
    · rw [if_pos same] at found
      exact Or.inr ⟨same, (Option.some.inj found).symm⟩
    · rw [if_neg same] at found
      exact Or.inl found

def provideAll (plan : PoolPlan) (nodes : List Node) (pools : PoolTable) : PoolTable :=
  nodes.foldl (fun pools node => provide plan node pools) pools

theorem provideAll_cons : provideAll plan (node :: nodes) pools =
    provideAll plan nodes (provide plan node pools) := rfl

theorem mem_keys_provideAll :
    id ∈ (provideAll plan nodes pools).keys ↔
      id ∈ pools.keys ∨ ∃ node ∈ nodes, node.id = id := by
  induction nodes generalizing pools with
  | nil => simp [provideAll]
  | cons node rest ih =>
      rw [provideAll_cons, ih, mem_keys_provide, or_assoc]
      refine or_congr_right ⟨?_, ?_⟩
      · rintro (same | ⟨other, member, same⟩)
        · exact ⟨node, List.mem_cons_self, same.symm⟩
        · exact ⟨other, List.mem_cons_of_mem node member, same⟩
      · rintro ⟨other, member, same⟩
        rcases List.mem_cons.mp member with first | later
        · exact Or.inl (same.symm.trans (congrArg Node.id first))
        · exact Or.inr ⟨other, later, same⟩

theorem nodup_provideAll (distinct : pools.keys.Nodup) :
    (provideAll plan nodes pools).keys.Nodup := by
  induction nodes generalizing pools with
  | nil => exact distinct
  | cons node rest ih => exact ih (nodup_provide distinct)

theorem find?_provideAll (found : (provideAll plan nodes pools).find? id = some pool) :
    pools.find? id = some pool ∨ ∃ node ∈ nodes, node.id = id ∧ pool = newPool plan node := by
  induction nodes generalizing pools with
  | nil => exact Or.inl found
  | cons node rest ih =>
      rcases ih found with earlier | ⟨other, member, new⟩
      · rcases find?_provide earlier with present | ⟨same, new⟩
        · exact Or.inl present
        · exact Or.inr ⟨node, List.mem_cons_self, same.symm, new⟩
      · exact Or.inr ⟨other, List.mem_cons_of_mem node member, new⟩

def isStale (snapshot : ClusterSnapshot) (entry : NodeId × Pool) : Bool :=
  (snapshot.get? entry.1).isNone

def stale (snapshot : ClusterSnapshot) (pools : PoolTable) : List Pool :=
  Table.values (pools.filter (isStale snapshot))

def keep (snapshot : ClusterSnapshot) (pools : PoolTable) : PoolTable :=
  pools.filter fun entry => !isStale snapshot entry

theorem keys_keep : (keep snapshot pools).keys =
    pools.keys.filter fun id => (snapshot.get? id).isSome := by
  have same : (fun entry : NodeId × Pool => !isStale snapshot entry) =
      (fun id => (snapshot.get? id).isSome) ∘ Prod.fst := by
    funext entry
    exact Option.not_isNone _
  unfold keep Table.keys
  rw [same, List.filter_map]

theorem find?_keep (distinct : pools.keys.Nodup)
    (found : (keep snapshot pools).find? id = some pool) :
    pools.find? id = some pool :=
  Table.find?_of_mem distinct (List.mem_filter.mp (Table.mem_of_find? found)).1

theorem find?_of_mem_stale (distinct : pools.keys.Nodup) (member : pool ∈ stale snapshot pools) :
    ∃ id, pools.find? id = some pool ∧ snapshot.get? id = none := by
  obtain ⟨⟨id, _⟩, entry, rfl⟩ := List.mem_map.mp member
  obtain ⟨held, gone⟩ := List.mem_filter.mp entry
  exact ⟨id, Table.find?_of_mem distinct held, Option.isNone_iff_eq_none.mp gone⟩

theorem resync_pools : (resync plan snapshot pools).2 =
    provideAll plan snapshot.nodeList (keep snapshot pools) := rfl

theorem resync_orders : (resync plan snapshot pools).1 =
    (stale snapshot pools).map PoolOrder.close ++
      (snapshot.nodeList.map Node.id).map PoolOrder.resize := by
  unfold stale Table.values
  rw [List.map_map, List.map_map]
  rfl

theorem mem_keys_resync (indexed : snapshot.Indexed) :
    id ∈ (resync plan snapshot pools).2.keys ↔ snapshot.get? id ≠ none := by
  have listed : (∃ node ∈ snapshot.nodeList, node.id = id) ↔ snapshot.get? id ≠ none := by
    constructor
    · rintro ⟨node, member, same⟩ absent
      rw [← same, indexed.mem_nodeList.mp member] at absent
      cases absent
    · intro present
      obtain ⟨node, found⟩ := Option.ne_none_iff_exists'.mp present
      exact ⟨node, indexed.mem_nodeList.mpr (indexed.of_get? found), indexed.keyed found⟩
  rw [resync_pools, mem_keys_provideAll, listed, keys_keep, List.mem_filter]
  refine ⟨fun either => either.elim ?_ fun present => present, Or.inr⟩
  rintro ⟨_, present⟩
  exact Option.isSome_iff_ne_none.mp present

theorem nodup_resync (distinct : pools.keys.Nodup) :
    (resync plan snapshot pools).2.keys.Nodup := by
  have kept : (keep snapshot pools).keys.Nodup := by
    rw [keys_keep]
    exact distinct.filter _
  exact nodup_provideAll kept

theorem find?_resync (indexed : snapshot.Indexed) (distinct : pools.keys.Nodup)
    (found : (resync plan snapshot pools).2.find? id = some pool) :
    pools.find? id = some pool ∨
      ∃ node, snapshot.get? id = some node ∧ node.id = id ∧ pool = newPool plan node := by
  refine (find?_provideAll found).imp (find?_keep distinct) ?_
  rintro ⟨node, member, rfl, new⟩
  exact ⟨node, indexed.mem_nodeList.mp member, rfl, new⟩

end CqlDriver.PoolTable

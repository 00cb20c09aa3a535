/-
The pools follow the nodes. Between a change of the registry and the moment when the
follower acts on it, the two may differ, but only by events that are still ahead. A
follower with nothing ahead has a pool for each node and for nothing else, however often it
lost events on the way.
-/

import CqlDriver.Proofs.Session.Steps

namespace CqlDriver

/-- The nodes that have a pool after the event, if these had one before. -/
def NodeEvent.Grants (keys : List NodeId) (id : NodeId) : NodeEvent → Prop
  | .added node => id ∈ keys ∨ id = node.id
  | .removed node => id ∈ keys ∧ id ≠ node.id
  | .stateChanged .. | .distanceChanged .. => id ∈ keys

namespace Fleet

/-- The node has a pool, or will have one when the comparison is over. -/
def Claims (fleet : Fleet) (id : NodeId) : Prop :=
  match fleet.attention with
  | .comparing snapshot => snapshot.get? id ≠ none
  | .free | .holding _ => id ∈ fleet.pools.keys

/-- The pools and the nodes of the registry differ by what is ahead. -/
structure Followed (fleet : Fleet) : Prop where
  heard : fleet.registry.Heard
  within : fleet.follower.seen ≤ fleet.registry.published.length
  handed : ∀ event, fleet.attention = .holding (.event event) →
    ∃ older, fleet.registry.published = fleet.unseen ++ event :: older
  distinct : fleet.pools.keys.Nodup
  held : ∀ id pool, fleet.pools.find? id = some pool →
    pool.node = id ∧ pool.isClosed = false ∧ id.number < fleet.registry.nextNumber
  retired : ∀ pool ∈ fleet.retired, pool.isClosed = true ∧
    pool.node.number < fleet.registry.nextNumber ∧ fleet.registry.get? pool.node = none
  compared : ∀ snapshot, fleet.attention = .comparing snapshot → snapshot.Indexed ∧
    (∀ id, snapshot.get? id ≠ none → id.number < fleet.registry.nextNumber) ∧
    ∀ id ∈ fleet.pools.keys, snapshot.get? id = none → fleet.registry.get? id = none
  joined : ∀ id, fleet.registry.get? id ≠ none →
    fleet.IsBehind ∨ fleet.Claims id ∨ ∃ node, .added node ∈ fleet.ahead ∧ node.id = id
  left : ∀ id, fleet.registry.get? id = none → fleet.Claims id →
    fleet.IsBehind ∨ ∃ node, .removed node ∈ fleet.ahead ∧ node.id = id

variable {before after fleet : Fleet} {id : NodeId}

theorem claims_congr (attention : after.attention = before.attention)
    (keys : after.pools.keys = before.pools.keys) : after.Claims id ↔ before.Claims id := by
  unfold Claims
  rw [attention, keys]

theorem Besides.ahead_eq (besides : before.Besides after) (followed : before.Followed)
    {newer : List NodeEvent} (since : NodeRegistry.Since before.registry newer after.registry) :
    after.ahead = newer ++ before.ahead := by
  unfold ahead unseen inHand
  rw [besides.follower, besides.attention, Subscription.unread_of_since since followed.within,
    List.append_assoc]

theorem Besides.exists_since (besides : before.Besides after) (followed : before.Followed) :
    ∃ newer, NodeRegistry.Since before.registry newer after.registry := by
  obtain ⟨operations, operated⟩ := besides.registry
  rw [operated]
  exact followed.heard.sound.exists_since operations

theorem Besides.followed (besides : before.Besides after) (followed : before.Followed) :
    after.Followed := by
  obtain ⟨newer, since⟩ := besides.exists_since followed
  have ahead := besides.ahead_eq followed since
  have behind : after.IsBehind ↔ before.IsBehind := by
    unfold IsBehind
    rw [besides.attention]
  have known {id : NodeId} (old : id.number < before.registry.nextNumber) :
      id.number < after.registry.nextNumber :=
    Nat.lt_of_lt_of_le old since.numbered
  constructor
  case heard =>
    obtain ⟨operations, operated⟩ := besides.registry
    rw [operated]
    exact followed.heard.performAll operations
  case within =>
    rw [besides.follower, since.published, List.length_append]
    exact Nat.le_trans followed.within (Nat.le_add_left _ _)
  case handed =>
    intro event holding
    obtain ⟨older, published⟩ := followed.handed event (besides.attention ▸ holding)
    refine ⟨older, ?_⟩
    unfold unseen at published ⊢
    rw [besides.follower, Subscription.unread_of_since since followed.within, since.published,
      List.append_assoc, ← published]
  case distinct =>
    rw [besides.keys]
    exact followed.distinct
  case held =>
    intro id pool found
    obtain ⟨earlier, there, node, isClosed⟩ := besides.pools id pool found
    obtain ⟨own, isOpen, old⟩ := followed.held id earlier there
    exact ⟨node.trans own, isClosed.trans isOpen, known old⟩
  case retired =>
    intro pool member
    obtain ⟨earlier, there, node, isClosed⟩ := besides.retired pool member
    obtain ⟨closed, old, gone⟩ := followed.retired earlier there
    rw [node]
    exact ⟨isClosed.trans closed, known old, since.gone _ old gone⟩
  case compared =>
    intro snapshot comparing
    obtain ⟨indexed, old, gone⟩ := followed.compared snapshot (besides.attention ▸ comparing)
    refine ⟨indexed, fun id there => known (old id there), fun id member absent => ?_⟩
    rw [besides.keys] at member
    obtain ⟨pool, found⟩ := (Table.find?_isSome_iff id _).mpr member
    obtain ⟨_, _, oldId⟩ := followed.held id pool found
    exact since.gone id oldId (gone id member absent)
  case joined =>
    intro id present
    rw [behind, claims_congr besides.attention besides.keys, ahead]
    by_cases earlier : before.registry.get? id = none
    · obtain ⟨node, member, same⟩ := since.joined id earlier present
      exact Or.inr (Or.inr ⟨node, List.mem_append_left _ member, same⟩)
    · refine (followed.joined id earlier).imp_right (Or.imp_right ?_)
      rintro ⟨node, member, same⟩
      exact ⟨node, List.mem_append_right newer member, same⟩
  case left =>
    intro id absent claimed
    rw [claims_congr besides.attention besides.keys] at claimed
    rw [behind, ahead]
    by_cases earlier : before.registry.get? id = none
    · refine (followed.left id earlier claimed).imp_right ?_
      rintro ⟨node, member, same⟩
      exact ⟨node, List.mem_append_right newer member, same⟩
    · obtain ⟨node, member, same⟩ := since.left id earlier absent
      exact Or.inr ⟨node, List.mem_append_left _ member, same⟩

theorem ahead_of_event {event : NodeEvent} (holding : fleet.attention = .holding (.event event)) :
    fleet.ahead = fleet.unseen ++ [event] := by
  unfold ahead inHand
  rw [holding]

theorem ahead_of_free (free : fleet.attention = .free) : fleet.ahead = fleet.unseen := by
  unfold ahead inHand
  rw [free]
  exact List.append_nil _

theorem claims_of_free (free : fleet.attention = .free) :
    fleet.Claims id ↔ id ∈ fleet.pools.keys := by
  unfold Claims
  rw [free]

theorem claims_of_event {event : NodeEvent} (holding : fleet.attention = .holding (.event event)) :
    fleet.Claims id ↔ id ∈ fleet.pools.keys := by
  unfold Claims
  rw [holding]

theorem ahead_of_comparing {snapshot : ClusterSnapshot}
    (comparing : fleet.attention = .comparing snapshot) : fleet.ahead = fleet.unseen := by
  unfold ahead inHand
  rw [comparing]
  exact List.append_nil _

theorem claims_of_comparing {snapshot : ClusterSnapshot}
    (comparing : fleet.attention = .comparing snapshot) :
    fleet.Claims id ↔ snapshot.get? id ≠ none := by
  unfold Claims
  rw [comparing]

theorem not_isBehind_of_free (free : fleet.attention = .free) : ¬fleet.IsBehind := by
  rintro ⟨count, behind⟩
  rw [free] at behind
  cases behind

theorem not_isBehind_of_event {event : NodeEvent}
    (holding : fleet.attention = .holding (.event event)) : ¬fleet.IsBehind := by
  rintro ⟨count, behind⟩
  rw [holding] at behind
  cases behind

theorem Followed.receive (followed : fleet.Followed) : fleet.receive.Followed := by
  unfold Fleet.receive
  split
  case h_1 => exact followed
  case h_2 event follower given =>
    obtain ⟨free, next⟩ := notice?_cases given
    obtain ⟨within, ⟨_, isEvent, unread⟩ | ⟨_, isLag, _⟩⟩ := Subscription.next?_cases next
    · cases isEvent
      have sameAhead : fleet.ahead = follower.unread fleet.registry ++ [event] :=
        (ahead_of_free free).trans unread
      refine { followed with
          within
          handed := ?_
          compared := fun _ comparing => nomatch comparing
          joined := ?_
          left := ?_ }
      · intro other holding
        cases holding
        obtain ⟨older, published⟩ := fleet.follower.exists_unread_append fleet.registry
        rw [unread, List.append_assoc] at published
        exact ⟨older, published⟩
      · intro id present
        rcases followed.joined id present with behind | claimed | told
        · exact absurd behind (not_isBehind_of_free free)
        · exact Or.inr (Or.inl ((claims_of_free free).mp claimed))
        · rw [sameAhead] at told
          exact Or.inr (Or.inr told)
      · intro id absent claimed
        rcases followed.left id absent ((claims_of_free free).mpr claimed) with behind | told
        · exact absurd behind (not_isBehind_of_free free)
        · rw [sameAhead] at told
          exact Or.inr told
    · cases isLag
  case h_3 count follower given =>
    obtain ⟨free, next⟩ := notice?_cases given
    have within := (Subscription.next?_cases next).1
    exact { followed with
            within
            handed := fun _ holding => nomatch holding
            compared := fun _ comparing => nomatch comparing
            joined := fun _ _ => Or.inl ⟨count, rfl⟩
            left := fun _ _ _ => Or.inl ⟨count, rfl⟩ }

theorem Followed.look (followed : fleet.Followed) : fleet.look.Followed := by
  unfold Fleet.look
  split
  case h_1 count behind =>
    have indexed := followed.heard.sound.snapshot.indexed
    refine { followed with
        handed := fun _ holding => nomatch holding
        compared := ?_
        joined := ?_
        left := ?_ }
    · intro snapshot comparing
      cases comparing
      refine ⟨indexed, fun id there => ?_, fun _ _ absent => absent⟩
      obtain ⟨node, found⟩ := Option.ne_none_iff_exists'.mp there
      exact followed.heard.sound.fresh found
    · exact fun id present => Or.inr (Or.inl present)
    · exact fun id absent claimed => absurd absent claimed
  case h_2 => exact followed

theorem Followed.mem_published {event : NodeEvent} (followed : fleet.Followed)
    (holding : fleet.attention = .holding (.event event)) :
    event ∈ fleet.registry.published := by
  obtain ⟨older, published⟩ := followed.handed event holding
  rw [published]
  exact List.mem_append_right _ List.mem_cons_self

/-- A node that has come and gone has its removal still unseen. -/
theorem Followed.removed_unseen {node : Node} (followed : fleet.Followed)
    (holding : fleet.attention = .holding (.event (.added node)))
    (absent : fleet.registry.get? node.id = none) :
    ∃ other, .removed other ∈ fleet.unseen ∧ other.id = node.id := by
  obtain ⟨older, published⟩ := followed.handed _ holding
  have last := followed.heard.lastWord_eq node.id
  rw [absent, published, Option.map_none] at last
  have came : NodeEvent.lastWord node.id (.added node :: older) = some .unknown :=
    NodeEvent.lastWord_of_told rfl rfl
  rcases NodeEvent.lastWord_append none last.symm with earlier | ⟨told, member, here, word⟩
  · exact absurd (came.symm.trans earlier) nofun
  · rw [NodeEvent.eq_removed word] at member
    exact ⟨told.node, member, here⟩

theorem Followed.acted {event : NodeEvent} (followed : before.Followed)
    (holding : before.attention = .holding (.event event))
    (registry : after.registry = before.registry) (follower : after.follower = before.follower)
    (free : after.attention = .free) (distinct : after.pools.keys.Nodup)
    (held : ∀ id pool, after.pools.find? id = some pool →
      pool.node = id ∧ pool.isClosed = false ∧ id.number < before.registry.nextNumber)
    (retired : ∀ pool ∈ after.retired, pool.isClosed = true ∧
      pool.node.number < before.registry.nextNumber ∧ before.registry.get? pool.node = none)
    (keys : ∀ id, id ∈ after.pools.keys ↔ event.Grants before.pools.keys id) :
    after.Followed := by
  have unseen : after.unseen = before.unseen := by
    unfold Fleet.unseen
    rw [registry, follower]
  have ahead : after.ahead = before.unseen := (ahead_of_free free).trans unseen
  have split {told : NodeEvent} (member : told ∈ before.ahead) :
      told ∈ after.ahead ∨ told = event := by
    rw [ahead_of_event holding] at member
    rw [ahead]
    exact (List.mem_append.mp member).imp_right List.mem_singleton.mp
  refine ⟨?_, ?_, ?_, distinct, ?_, ?_, ?_, ?_, ?_⟩
  · rw [registry]
    exact followed.heard
  · rw [registry, follower]
    exact followed.within
  · intro other holds
    rw [free] at holds
    cases holds
  · rw [registry]
    exact held
  · rw [registry]
    exact retired
  · intro snapshot comparing
    rw [free] at comparing
    cases comparing
  · intro id present
    rw [registry] at present
    rw [claims_of_free free, keys]
    rcases followed.joined id present with behind | claimed | ⟨node, member, same⟩
    · exact absurd behind (not_isBehind_of_event holding)
    · have pooled := (claims_of_event holding).mp claimed
      refine Or.inr (Or.inl ?_)
      cases event with
      | added node => exact Or.inl pooled
      | removed node =>
          refine ⟨pooled, fun same => present ?_⟩
          rw [same]
          exact followed.heard.departed node (followed.mem_published holding)
      | stateChanged node old new => exact pooled
      | distanceChanged node old new => exact pooled
    · rcases split member with later | this
      · exact Or.inr (Or.inr ⟨node, later, same⟩)
      · subst this
        exact Or.inr (Or.inl (Or.inr same.symm))
  · intro id absent claimed
    rw [registry] at absent
    rw [claims_of_free free, keys] at claimed
    refine Or.inr ?_
    have earlier (pooled : id ∈ before.pools.keys) :
        ∃ node, NodeEvent.removed node ∈ before.ahead ∧ node.id = id :=
      (followed.left id absent ((claims_of_event holding).mpr pooled)).resolve_left
        (not_isBehind_of_event holding)
    have later (pooled : id ∈ before.pools.keys)
        (other : ∀ node, event = .removed node → id ≠ node.id) :
        ∃ node, NodeEvent.removed node ∈ after.ahead ∧ node.id = id := by
      obtain ⟨node, member, same⟩ := earlier pooled
      rcases split member with later | this
      · exact ⟨node, later, same⟩
      · exact absurd same.symm (other node this.symm)
    cases event with
    | removed node =>
        refine later claimed.1 fun other same => ?_
        cases same
        exact claimed.2
    | stateChanged node old new => exact later claimed nofun
    | distanceChanged node old new => exact later claimed nofun
    | added node =>
        rcases claimed with pooled | same
        · exact later pooled nofun
        · subst same
          obtain ⟨other, member, here⟩ := followed.removed_unseen holding absent
          rw [ahead]
          exact ⟨other, member, here⟩

theorem Followed.act_of_added {node : Node} (followed : fleet.Followed)
    (holding : fleet.attention = .holding (.event (.added node))) : fleet.act.Followed := by
  have known : node.id.number < fleet.registry.nextNumber :=
    followed.heard.numbered (.added node) (followed.mem_published holding)
  rw [Fleet.act_of_added holding]
  refine followed.acted holding rfl rfl rfl (PoolTable.nodup_provide followed.distinct) ?_
    followed.retired fun id => PoolTable.mem_keys_provide
  intro id pool found
  rcases PoolTable.find?_provide found with earlier | ⟨same, new⟩
  · exact followed.held id pool earlier
  · subst same new
    exact ⟨rfl, rfl, known⟩

theorem Followed.act_of_removed {node : Node} (followed : fleet.Followed)
    (holding : fleet.attention = .holding (.event (.removed node))) : fleet.act.Followed := by
  have gone : fleet.registry.get? node.id = none :=
    followed.heard.departed node (followed.mem_published holding)
  cases found : fleet.pools.find? node.id with
  | none =>
      rw [Fleet.act_of_removed_absent holding found]
      refine followed.acted holding rfl rfl rfl followed.distinct followed.held
        followed.retired fun id => ⟨fun pooled => ⟨pooled, ?_⟩, And.left⟩
      rintro rfl
      exact (Table.find?_eq_none_iff node.id fleet.pools).mp found pooled
  | some pool =>
      obtain ⟨own, _, number⟩ := followed.held node.id pool found
      rw [Fleet.act_of_removed holding found]
      refine followed.acted holding rfl rfl rfl
        (Table.nodup_keys_erase followed.distinct node.id) ?_ ?_ ?_
      · intro id other there
        have here := (Table.find?_erase node.id id fleet.pools).symm.trans there
        by_cases same : id = node.id
        · rw [if_pos same] at here
          cases here
        · rw [if_neg same] at here
          exact followed.held id other here
      · intro closed member
        rcases List.mem_cons.mp member with this | earlier
        · subst this
          rw [Pool.close_node, own]
          exact ⟨Pool.close_isClosed pool, number, gone⟩
        · exact followed.retired closed earlier
      · intro id
        change id ∈ (fleet.pools.erase node.id).keys ↔ _
        rw [Table.keys_erase, List.mem_filter, decide_eq_true_iff]
        rfl

/-- An event about a node that stays may be let go. -/
theorem Followed.pass {event : NodeEvent} (followed : fleet.Followed)
    (holding : fleet.attention = .holding (.event event))
    (stays : ∀ node, event ≠ .added node ∧ event ≠ .removed node) :
    Followed { fleet with attention := .free } := by
  refine followed.acted holding rfl rfl rfl followed.distinct followed.held followed.retired ?_
  intro id
  cases event with
  | added node => exact absurd rfl (stays node).1
  | removed node => exact absurd rfl (stays node).2
  | stateChanged node old new => exact Iff.rfl
  | distanceChanged node old new => exact Iff.rfl

theorem Followed.act_of_staying {event : NodeEvent} (followed : fleet.Followed)
    (holding : fleet.attention = .holding (.event event))
    (stays : ∀ node, event ≠ .added node ∧ event ≠ .removed node) : fleet.act.Followed :=
  (besides_act holding stays).followed (followed.pass holding stays)

theorem Followed.act_of_comparing {snapshot : ClusterSnapshot} (followed : fleet.Followed)
    (comparing : fleet.attention = .comparing snapshot) : fleet.act.Followed := by
  obtain ⟨indexed, old, gone⟩ := followed.compared snapshot comparing
  have notBehind : ¬fleet.IsBehind := by
    rintro ⟨count, behind⟩
    exact absurd (comparing.symm.trans behind) nofun
  rw [Fleet.act_of_comparing comparing]
  refine ⟨followed.heard, followed.within, (fun _ holding => nomatch holding),
    PoolTable.nodup_resync followed.distinct, ?_, ?_, (fun _ other => nomatch other), ?_, ?_⟩
  · intro id pool found
    rcases PoolTable.find?_resync indexed followed.distinct found with
      earlier | ⟨node, there, same, new⟩
    · exact followed.held id pool earlier
    · subst new
      exact ⟨same, rfl, old id (by rw [there]; nofun)⟩
  · intro pool member
    rcases List.mem_append.mp member with closed | earlier
    · obtain ⟨stale, listed, rfl⟩ := List.mem_map.mp (List.mem_reverse.mp closed)
      obtain ⟨id, found, absent⟩ := PoolTable.find?_of_mem_stale followed.distinct listed
      obtain ⟨own, _, number⟩ := followed.held id stale found
      rw [Pool.close_node, own]
      exact ⟨Pool.close_isClosed stale, number, gone id (PoolTable.mem_keys found) absent⟩
    · exact followed.retired pool earlier
  · intro id present
    rcases followed.joined id present with behind | claimed | told
    · exact absurd behind notBehind
    · rw [claims_of_comparing comparing] at claimed
      exact Or.inr (Or.inl ((PoolTable.mem_keys_resync indexed).mpr claimed))
    · rw [ahead_of_comparing comparing] at told
      exact Or.inr (Or.inr (by rwa [ahead_of_free rfl]))
  · intro id absent pooled
    have claimed : fleet.Claims id :=
      (claims_of_comparing comparing).mpr ((PoolTable.mem_keys_resync indexed).mp pooled)
    rcases followed.left id absent claimed with behind | told
    · exact absurd behind notBehind
    · rw [ahead_of_comparing comparing] at told
      exact Or.inr (by rwa [ahead_of_free rfl])

theorem Followed.act (followed : fleet.Followed) : fleet.act.Followed := by
  cases attention : fleet.attention with
  | free =>
      rw [act_of_idle (Or.inl attention)]
      exact followed
  | comparing snapshot => exact followed.act_of_comparing attention
  | holding notice =>
      cases notice with
      | lagged count =>
          rw [act_of_idle (Or.inr ⟨count, attention⟩)]
          exact followed
      | event event =>
          cases event with
          | added node => exact followed.act_of_added attention
          | removed node => exact followed.act_of_removed attention
          | stateChanged node old new =>
              exact followed.act_of_staying attention fun _ => ⟨nofun, nofun⟩
          | distanceChanged node old new =>
              exact followed.act_of_staying attention fun _ => ⟨nofun, nofun⟩

theorem Followed.perform (followed : fleet.Followed) (action : FleetAction) :
    (fleet.perform action).Followed := by
  by_cases own : action = .receive ∨ action = .look ∨ action = .act
  · rcases own with rfl | rfl | rfl
    · exact followed.receive
    · exact followed.look
    · exact followed.act
  · simp only [not_or] at own
    exact (perform_stepped own).besides.followed followed

/-- The first pools are those that a comparison gives where there are none. -/
theorem start_pools (plan : PoolPlan) (operations : List RegistryOperation) :
    (start plan operations).pools =
      (PoolTable.resync plan (NodeRegistry.empty.performAll operations).snapshot []).2 := rfl

theorem followed_start (plan : PoolPlan) (operations : List RegistryOperation) :
    (start plan operations).Followed := by
  have heard := NodeRegistry.heard_empty.performAll operations
  have indexed := heard.sound.snapshot.indexed
  have none : (Table.keys ([] : PoolTable)).Nodup := List.nodup_nil
  have keys (id : NodeId) : id ∈ (start plan operations).pools.keys ↔
      (start plan operations).registry.get? id ≠ Option.none := by
    rw [start_pools]
    exact PoolTable.mem_keys_resync indexed
  constructor
  case heard => exact heard
  case within => exact Nat.zero_le _
  case handed => exact fun event holding => nomatch holding
  case distinct =>
    rw [start_pools]
    exact PoolTable.nodup_resync none
  case held =>
    intro id pool found
    rw [start_pools] at found
    rcases PoolTable.find?_resync indexed none found with earlier | ⟨node, there, same, new⟩
    · cases earlier
    · subst new
      exact ⟨same, rfl, heard.sound.fresh there⟩
  case retired => exact fun pool member => absurd member List.not_mem_nil
  case compared => exact fun snapshot comparing => nomatch comparing
  case joined => exact fun id present => Or.inr (Or.inl ((keys id).mpr present))
  case left => exact fun id absent pooled => absurd absent ((keys id).mp pooled)

theorem Followed.performAll (followed : fleet.Followed) (actions : List FleetAction) :
    (fleet.performAll actions).Followed := by
  induction actions generalizing fleet with
  | nil => exact followed
  | cons action rest ih => exact ih (followed.perform action)

theorem Followed.keys_iff (followed : fleet.Followed) (current : fleet.isCurrent = true) :
    id ∈ fleet.pools.keys ↔ fleet.registry.get? id ≠ none := by
  obtain ⟨free, nothing⟩ := isCurrent_cases current
  have ahead : fleet.ahead = [] := (ahead_of_free free).trans nothing
  constructor
  · intro pooled absent
    rcases followed.left id absent ((claims_of_free free).mpr pooled) with behind | ⟨_, told, _⟩
    · exact not_isBehind_of_free free behind
    · rw [ahead] at told
      cases told
  · intro present
    rcases followed.joined id present with behind | claimed | ⟨_, told, _⟩
    · exact absurd behind (not_isBehind_of_free free)
    · exact (claims_of_free free).mp claimed
    · rw [ahead] at told
      cases told

def plainPlan : PoolPlan :=
  { config := { localSize := 1 }, policy := .constant (.ofSecs 1) }

def nearAddress (part : Nat) : SocketAddress := ⟨.ofParts 10 0 0 part, 9042, 0⟩

def joining (part : Nat) : RegistryOperation := .addNode { address := nearAddress part } .localDc

def leaving (part : Nat) : RegistryOperation := .removeNode (nearAddress part)

def nearNode (state : NodeState) : Node :=
  { id := ⟨1⟩, info := { address := nearAddress 1 }, state, distance := .localDc }

end Fleet

end CqlDriver

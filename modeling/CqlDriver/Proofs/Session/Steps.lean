/-
What the steps of a fleet leave as it is. Only the follower takes pools in or out, and only
it moves on in what was published. What it does at once is put in one equation each.
-/

import CqlDriver.Proofs.Session.Fleet
import CqlDriver.Proofs.Session.Roster

namespace CqlDriver

namespace PoolEffect

variable {channels : Table ChannelId ChannelView} {channel : ChannelId}

end PoolEffect

namespace Subscription

variable {registry : NodeRegistry} {before after : Subscription} {notice : Notice}

/-- A notice is the oldest of the unread events, or all but the kept ones are given up. -/
theorem next?_cases (given : before.next? registry = some (notice, after)) :
    after.seen ≤ registry.published.length ∧
      ((∃ event, notice = .event event ∧
          before.unread registry = after.unread registry ++ [event]) ∨
        ∃ count, notice = .lagged count ∧
          before.unread registry =
            after.unread registry ++ (before.unread registry).drop capacity) := by
  unfold next? at given
  dsimp only at given
  unfold unread
  by_cases current : registry.published.length - before.seen = 0
  · rw [if_pos current] at given
    cases given
  rw [if_neg current] at given
  by_cases far : capacity < registry.published.length - before.seen
  · rw [if_pos far] at given
    cases given
    refine ⟨Nat.sub_le _ _, Or.inr ⟨_, rfl, ?_⟩⟩
    have kept : registry.published.length - (registry.published.length - capacity) =
        min capacity (registry.published.length - before.seen) := by
      omega
    dsimp only
    rw [kept, ← List.take_take, List.take_append_drop]
  · rw [if_neg far] at given
    obtain ⟨event, found, same⟩ := Option.map_eq_some_iff.mp given
    cases same
    refine ⟨by dsimp only; omega, Or.inl ⟨event, rfl, ?_⟩⟩
    have one : registry.published.length - before.seen =
        registry.published.length - (before.seen + 1) + 1 := by
      omega
    have here :
        registry.published[registry.published.length - (before.seen + 1)]? = some event := by
      rw [← found, one, Nat.add_sub_cancel]
    dsimp only
    rw [one, List.take_add_one, here]
    rfl

theorem exists_unread_append (subscription : Subscription) (registry : NodeRegistry) :
    ∃ older, registry.published = subscription.unread registry ++ older :=
  ⟨_, (List.take_append_drop _ registry.published).symm⟩

theorem unread_of_since {earlier later : NodeRegistry} {newer : List NodeEvent}
    (since : NodeRegistry.Since earlier newer later)
    (within : before.seen ≤ earlier.published.length) :
    before.unread later = newer ++ before.unread earlier := by
  unfold unread
  rw [since.published, List.length_append, Nat.add_sub_assoc within, List.take_length_add_append]

end Subscription

namespace Fleet

structure Besides (before after : Fleet) : Prop where
  registry : ∃ operations, after.registry = before.registry.performAll operations
  plan : after.plan = before.plan
  follower : after.follower = before.follower
  attention : after.attention = before.attention
  lost : after.lost = before.lost
  keys : after.pools.keys = before.pools.keys
  pools : ∀ id pool, after.pools.find? id = some pool → ∃ earlier,
    before.pools.find? id = some earlier ∧ pool.node = earlier.node ∧
      pool.isClosed = earlier.isClosed
  retired : ∀ pool ∈ after.retired, ∃ earlier ∈ before.retired, pool.node = earlier.node ∧
    pool.isClosed = earlier.isClosed

variable {before middle after fleet : Fleet} {id : NodeId} {task : PoolTask}

structure Alike (before after : Fleet) : Prop where
  plan : after.plan = before.plan
  registry : after.registry = before.registry
  follower : after.follower = before.follower
  attention : after.attention = before.attention
  lost : after.lost = before.lost
  pools : after.pools = before.pools
  retired : after.retired = before.retired
  resizes : after.resizes = before.resizes

theorem Alike.refl (fleet : Fleet) : fleet.Alike fleet := ⟨rfl, rfl, rfl, rfl, rfl, rfl, rfl, rfl⟩

/-- The follower knows that it lost events and has not yet looked. -/
def IsBehind (fleet : Fleet) : Prop := ∃ count, fleet.attention = .holding (.lagged count)

theorem Besides.refl (fleet : Fleet) : fleet.Besides fleet :=
  ⟨⟨[], rfl⟩, rfl, rfl, rfl, rfl, rfl, fun _ pool found => ⟨pool, found, rfl, rfl⟩,
    fun pool member => ⟨pool, member, rfl, rfl⟩⟩

theorem besides_of_resizes (fleet : Fleet) (resizes : List (NodeId × ResizeCaller)) :
    fleet.Besides { fleet with resizes } :=
  { Besides.refl fleet with registry := ⟨[], rfl⟩ }

theorem Alike.besides (alike : before.Alike after) : before.Besides after := by
  refine ⟨⟨[], alike.registry⟩, alike.plan, alike.follower, alike.attention, alike.lost,
    congrArg Table.keys alike.pools, ?_, ?_⟩
  · intro id pool found
    rw [alike.pools] at found
    exact ⟨pool, found, rfl, rfl⟩
  · intro pool member
    rw [alike.retired] at member
    exact ⟨pool, member, rfl, rfl⟩

theorem Besides.trans (first : before.Besides middle) (second : middle.Besides after) :
    before.Besides after := by
  obtain ⟨earlier, toMiddle⟩ := first.registry
  obtain ⟨later, toAfter⟩ := second.registry
  refine ⟨⟨earlier ++ later, ?_⟩, second.plan.trans first.plan,
    second.follower.trans first.follower, second.attention.trans first.attention,
    second.lost.trans first.lost, second.keys.trans first.keys, ?_, ?_⟩
  · rw [toAfter, toMiddle, NodeRegistry.performAll_append]
  · intro id pool found
    obtain ⟨between, foundBetween, node, isClosed⟩ := second.pools id pool found
    obtain ⟨first, foundFirst, nodeFirst, isClosedFirst⟩ := first.pools id between foundBetween
    exact ⟨first, foundFirst, node.trans nodeFirst, isClosed.trans isClosedFirst⟩
  · intro pool member
    obtain ⟨between, inMiddle, node, isClosed⟩ := second.retired pool member
    obtain ⟨first, inBefore, nodeFirst, isClosedFirst⟩ := first.retired between inMiddle
    exact ⟨first, inBefore, node.trans nodeFirst, isClosed.trans isClosedFirst⟩

theorem work_of_absent (absent : fleet.pools.find? id = none) (task : PoolTask) :
    fleet.work id task = fleet := by
  unfold work
  rw [absent]

theorem work_of_present {pool : Pool} (found : fleet.pools.find? id = some pool)
    (task : PoolTask) :
    fleet.work id task =
      { fleet with
        pools := fleet.pools.put id (pool.undertake (fleet.view id) task).2 }.carryOut id
        (pool.undertake (fleet.view id) task).1 := by
  unfold work
  rw [found]

theorem besides_work (fleet : Fleet) (id : NodeId) (task : PoolTask) :
    fleet.Besides (fleet.work id task) := by
  cases found : fleet.pools.find? id with
  | none =>
      rw [work_of_absent found]
      exact .refl fleet
  | some pool =>
      have kept := Pool.undertake_keeps id (fleet.view id) task pool
      rw [work_of_present found]
      refine ⟨⟨_, rfl⟩, rfl, rfl, rfl, rfl, ?_, ?_, fun pool member => ⟨pool, member, rfl, rfl⟩⟩
      · exact (Table.keys_put _ _ _).trans (if_pos (PoolTable.mem_keys found))
      · intro other present here
        have there := (Table.find?_put id other _ fleet.pools).symm.trans here
        by_cases same : other = id
        · rw [if_pos same] at there
          cases there
          exact ⟨pool, same ▸ found, kept.node, kept.isClosed⟩
        · rw [if_neg same] at there
          exact ⟨present, there, rfl, rfl⟩

theorem besides_workLate (fleet : Fleet) (place : Nat) (task : PoolTask) :
    fleet.Besides (fleet.workLate place task) := by
  unfold workLate
  cases found : fleet.retired[place]? with
  | none => exact .refl fleet
  | some pool =>
      have kept := Pool.undertake_keeps pool.node (fleet.view pool.node) task pool
      refine ⟨⟨_, rfl⟩, rfl, rfl, rfl, rfl, rfl, fun id pool found => ⟨pool, found, rfl, rfl⟩, ?_⟩
      intro other member
      rcases List.mem_or_eq_of_mem_set member with earlier | worked
      · exact ⟨other, earlier, rfl, rfl⟩
      · subst worked
        exact ⟨pool, List.mem_of_getElem? found, kept.node, kept.isClosed⟩

inductive Stepped (fleet : Fleet) : Fleet → Prop
  | aside {after : Fleet} (alike : fleet.Alike after) : Stepped fleet after
  | operate (operation : RegistryOperation) :
      Stepped fleet { fleet with registry := (fleet.registry.perform operation).2 }
  | work {between : Fleet} (alike : fleet.Alike between) (id : NodeId) (task : PoolTask) :
      Stepped fleet (between.work id task)
  | begin {place : Nat} {id : NodeId} {caller : ResizeCaller}
      (taken : fleet.resizes[place]? = some (id, caller)) :
      Stepped fleet
        ({ fleet with resizes := fleet.resizes.eraseIdx place }.work id (.resize caller))
  | late (place : Nat) (task : PoolTask) : Stepped fleet (fleet.workLate place task)

theorem connect_stepped (fleet : Fleet) (id : NodeId) (place : Nat)
    (failure : Option DriverError) : fleet.Stepped (fleet.connect id place failure) := by
  unfold connect
  split
  · cases failure with
    | some error => exact .work (.refl fleet) id _
    | none =>
        apply Stepped.work
        exact ⟨rfl, rfl, rfl, rfl, rfl, rfl, rfl, rfl⟩
  · exact .aside (.refl fleet)

theorem drain_stepped (fleet : Fleet) (id : NodeId) (channel : ChannelId) :
    fleet.Stepped (fleet.drain id channel) := by
  unfold drain
  split
  · apply Stepped.work
    exact ⟨rfl, rfl, rfl, rfl, rfl, rfl, rfl, rfl⟩
  · exact .aside (.refl fleet)

theorem lose_stepped (fleet : Fleet) (id : NodeId) (channel : ChannelId) :
    fleet.Stepped (fleet.lose id channel) := by
  unfold lose
  split
  · exact .work (.refl fleet) id _
  · exact .aside (.refl fleet)

theorem wake_stepped (fleet : Fleet) (id : NodeId) : fleet.Stepped (fleet.wake id) := by
  unfold wake
  split
  · apply Stepped.work
    exact ⟨rfl, rfl, rfl, rfl, rfl, rfl, rfl, rfl⟩
  · exact .aside (.refl fleet)

theorem change_stepped (fleet : Fleet) (channel : ChannelId) (view : ChannelView) :
    fleet.Stepped (fleet.change channel view) := by
  unfold Fleet.change
  split
  · exact .aside (.refl fleet)
  · exact .aside ⟨rfl, rfl, rfl, rfl, rfl, rfl, rfl, rfl⟩

theorem begin_stepped (fleet : Fleet) (place : Nat) : fleet.Stepped (fleet.begin place) := by
  unfold begin
  cases taken : fleet.resizes[place]? with
  | none => exact .aside (.refl fleet)
  | some resize => exact .begin taken

theorem perform_stepped {action : FleetAction} (other : action ≠ .receive ∧ action ≠ .look ∧
    action ≠ .act) : fleet.Stepped (fleet.perform action) := by
  cases action with
  | receive => exact absurd rfl other.1
  | look => exact absurd rfl other.2.1
  | act => exact absurd rfl other.2.2
  | operate operation => exact .operate operation
  | begin place => exact begin_stepped fleet place
  | resume id => exact .work (.refl fleet) id .resume
  | connected id place failure => exact connect_stepped fleet id place failure
  | drained id channel => exact drain_stepped fleet id channel
  | lose id channel => exact lose_stepped fleet id channel
  | wake id => exact wake_stepped fleet id
  | late place task => exact .late place task
  | change channel view => exact change_stepped fleet channel view

theorem Stepped.besides (stepped : fleet.Stepped after) : fleet.Besides after := by
  cases stepped with
  | aside alike => exact alike.besides
  | operate operation => exact { Besides.refl fleet with registry := ⟨[operation], rfl⟩ }
  | work alike id task => exact alike.besides.trans (besides_work _ id task)
  | begin taken => exact (besides_of_resizes fleet _).trans (besides_work _ _ _)
  | late place task => exact besides_workLate fleet place task

theorem retire_eq (pool : Pool) (fleet : Fleet) :
    fleet.retire pool = { fleet with
      retired := pool.close.2 :: fleet.retired
      channels := pool.close.1.foldl PoolEffect.alter fleet.channels } := by
  unfold retire carryOut
  dsimp only
  rw [Pool.close_silent, Pool.close_unalarmed, List.map_nil, List.append_nil]
  rfl

theorem foldl_close (pools : List Pool) (fleet : Fleet) :
    (pools.map PoolOrder.close).foldl follow fleet = { fleet with
      retired := (pools.map fun pool => pool.close.2).reverse ++ fleet.retired
      channels := (pools.flatMap fun pool => pool.close.1).foldl PoolEffect.alter
        fleet.channels } := by
  induction pools generalizing fleet with
  | nil => rfl
  | cons pool rest ih =>
      rw [List.map_cons, List.foldl_cons, ih]
      rw [show fleet.follow (.close pool) = _ from retire_eq pool fleet]
      simp only [List.map_cons, List.reverse_cons, List.append_assoc, List.flatMap_cons,
        List.foldl_append]
      rfl

theorem foldl_resize (ids : List NodeId) (fleet : Fleet) :
    (ids.map PoolOrder.resize).foldl follow fleet =
      { fleet with resizes := fleet.resizes ++ ids.map fun id => (id, .background) } := by
  induction ids generalizing fleet with
  | nil => simp
  | cons id rest ih =>
      rw [List.map_cons, List.foldl_cons, ih]
      simp [follow]

theorem act_of_comparing {snapshot : ClusterSnapshot}
    (comparing : fleet.attention = .comparing snapshot) :
    fleet.act = { fleet with
      attention := .free
      pools := (fleet.pools.resync fleet.plan snapshot).2
      retired := ((PoolTable.stale snapshot fleet.pools).map fun pool => pool.close.2).reverse ++
        fleet.retired
      channels := ((PoolTable.stale snapshot fleet.pools).flatMap fun pool =>
        pool.close.1).foldl PoolEffect.alter fleet.channels
      resizes := fleet.resizes ++
        (snapshot.nodeList.map Node.id).map fun id => (id, .background) } := by
  unfold act settle
  rw [comparing]
  dsimp only
  rw [PoolTable.resync_orders, List.foldl_append, foldl_close, foldl_resize]

theorem act_of_added {node : Node} (holding : fleet.attention = .holding (.event (.added node))) :
    fleet.act = { fleet with
      attention := .free
      pools := PoolTable.provide fleet.plan node fleet.pools
      resizes := fleet.resizes ++ [(node.id, .background)] } := by
  unfold act
  rw [holding]
  rfl

theorem act_of_removed_absent {node : Node}
    (holding : fleet.attention = .holding (.event (.removed node)))
    (absent : fleet.pools.find? node.id = none) :
    fleet.act = { fleet with attention := .free } := by
  unfold act
  rw [holding]
  dsimp only [PoolTable.onEvent]
  rw [absent]
  rfl

theorem act_of_removed {node : Node} {pool : Pool}
    (holding : fleet.attention = .holding (.event (.removed node)))
    (found : fleet.pools.find? node.id = some pool) :
    fleet.act = { fleet with
      attention := .free
      pools := fleet.pools.erase node.id
      retired := pool.close.2 :: fleet.retired
      channels := pool.close.1.foldl PoolEffect.alter fleet.channels } := by
  unfold act
  rw [holding]
  dsimp only [PoolTable.onEvent]
  rw [found]
  exact retire_eq pool _

/-- Acting on an event about a node that stays: where there is a pool, it is resized, or
treated as that of a node that is down. -/
theorem act_cases_of_staying {event : NodeEvent}
    (holding : fleet.attention = .holding (.event event))
    (stays : ∀ node, event ≠ .added node ∧ event ≠ .removed node) :
    fleet.pools.find? event.node.id = none ∧ fleet.act = { fleet with attention := .free } ∨
      event.health? ≠ some (some .down) ∧ fleet.act = { fleet with
        attention := .free
        resizes := fleet.resizes ++ [(event.node.id, .background)] } ∨
      event.health? = some (some .down) ∧
        fleet.act = { fleet with attention := .free }.work event.node.id .nodeDown := by
  unfold act
  rw [holding]
  cases event with
  | added node => exact absurd rfl (stays node).1
  | removed node => exact absurd rfl (stays node).2
  | distanceChanged node old new =>
      dsimp only [PoolTable.onEvent]
      cases found : fleet.pools.find? node.id with
      | none => exact Or.inl ⟨found, rfl⟩
      | some pool => exact Or.inr (Or.inl ⟨nofun, rfl⟩)
  | stateChanged node old new =>
      dsimp only [PoolTable.onEvent]
      cases found : fleet.pools.find? node.id with
      | none => exact Or.inl ⟨found, rfl⟩
      | some pool =>
          cases new with
          | down => exact Or.inr (Or.inr ⟨rfl, rfl⟩)
          | up => exact Or.inr (Or.inl ⟨nofun, rfl⟩)
          | forcedDown => exact Or.inr (Or.inl ⟨nofun, rfl⟩)
          | unknown => exact Or.inr (Or.inl ⟨nofun, rfl⟩)

theorem besides_act {event : NodeEvent} (holding : fleet.attention = .holding (.event event))
    (stays : ∀ node, event ≠ .added node ∧ event ≠ .removed node) :
    Besides { fleet with attention := .free } fleet.act := by
  rcases act_cases_of_staying holding stays with ⟨_, same⟩ | ⟨_, same⟩ | ⟨_, same⟩
  · rw [same]
    exact .refl _
  · rw [same]
    exact besides_of_resizes { fleet with attention := .free } _
  · rw [same]
    exact besides_work _ _ _

theorem act_of_idle (idle : fleet.attention = .free ∨ fleet.IsBehind) : fleet.act = fleet := by
  unfold act
  rcases idle with free | ⟨count, behind⟩
  · rw [free]
  · rw [behind]

theorem receive_pools (fleet : Fleet) : fleet.receive.pools = fleet.pools := by
  unfold receive
  split
  · rfl
  · rfl
  · rfl

theorem look_pools (fleet : Fleet) : fleet.look.pools = fleet.pools := by
  unfold look
  split
  · rfl
  · rfl

theorem isCurrent_cases (current : fleet.isCurrent = true) :
    fleet.attention = .free ∧ fleet.unseen = [] := by
  unfold isCurrent at current
  split at current
  case h_1 free =>
    refine ⟨free, ?_⟩
    unfold unseen Subscription.unread
    rw [Nat.sub_eq_zero_of_le (of_decide_eq_true current), List.take_zero]
  case h_2 => cases current

theorem notice?_cases {notice : Notice} {follower : Subscription}
    (given : fleet.notice? = some (notice, follower)) :
    fleet.attention = .free ∧ fleet.follower.next? fleet.registry = some (notice, follower) := by
  unfold notice? at given
  split at given
  case h_1 free =>
    by_cases filled : fleet.isFilled = true
    · rw [if_pos filled] at given
      exact ⟨free, given⟩
    · rw [if_neg filled] at given
      cases given
  case h_2 => cases given

end Fleet

end CqlDriver

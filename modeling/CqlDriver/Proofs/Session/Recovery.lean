/-
What is left behind when everybody has done their work. Then each node has a pool of its
size, and a node that is still said to be down is one whose going down the follower was
never told of: the event was lost, and the comparison that stands in for lost events only
looks at the size of the pool, which is as it shall be.
-/

import CqlDriver.Proofs.Pool.Tending
import CqlDriver.Proofs.Session.Following

namespace CqlDriver

theorem PoolConfig.target_eq_of_view (config : PoolConfig) {first second : Option Node}
    (same : first.map Node.view = second.map Node.view) :
    config.target first = config.target second := by
  cases first with
  | none =>
      cases second with
      | none => rfl
      | some node => cases same
  | some before =>
      cases second with
      | none => cases same
      | some after =>
          have views : before.view = after.view := Option.some.inj same
          have states : before.state = after.state := congrArg NodeView.state views
          have distances : before.distance = after.distance := congrArg NodeView.distance views
          unfold PoolConfig.target
          dsimp only
          rw [states, distances]

namespace NodeRegistry

theorem state_of_signalUp {registry : NodeRegistry} {id : NodeId} {node after : Node}
    (sound : registry.Sound) (found : registry.get? id = some node) (isDown : node.state = .down)
    (present : (registry.signalUp id).2.get? id = some after) : after.state = .up := by
  have own := sound.snapshot.indexed.keyed found
  unfold signalUp transition at present
  rw [found] at present
  dsimp only at present
  rw [isDown] at present
  have put : (registry.snapshot.putNode { node with state := .up }).get? id = some after := present
  rw [ClusterSnapshot.get?_putNode, if_pos own.symm] at put
  rw [← Option.some.inj put]

end NodeRegistry

theorem PoolTable.newPool_tended (plan : PoolPlan) (node : Node) (target : Nat) {awaited : Prop}
    (asked : awaited) : (PoolTable.newPool plan node).Tended target awaited :=
  ⟨rfl, nofun, fun _ => Or.inr (Or.inl asked), nofun⟩

namespace Fleet

/-- A resize of the node's pool is still to come: it is asked for, or it will be when the
follower acts on what is ahead. -/
def Awaits (fleet : Fleet) (id : NodeId) : Prop :=
  (∃ event ∈ fleet.ahead, event.node.id = id) ∨ fleet.IsBehind ∨
    (∃ snapshot, fleet.attention = .comparing snapshot) ∨ ∃ caller, (id, caller) ∈ fleet.resizes

/-- A node that is down has no channels, or the word of its going down is ahead or was lost. -/
def Told (fleet : Fleet) (id : NodeId) (pool : Pool) : Prop :=
  ∀ node, fleet.registry.get? id = some node → node.state = .down →
    pool.channels = [] ∨ ∃ event ∈ fleet.ahead ++ fleet.lost, event.TellsDown id

structure Serves (fleet : Fleet) (id : NodeId) (pool : Pool) : Prop where
  tended : pool.Tended (fleet.target id) (fleet.Awaits id)
  told : fleet.Told id pool

structure Staffed (fleet : Fleet) : Prop where
  followed : fleet.Followed
  serves : ∀ id pool, fleet.pools.find? id = some pool → fleet.Serves id pool

variable {before after fleet : Fleet} {id : NodeId} {pool : Pool} {task : PoolTask}

theorem target_of_since {newer : List NodeEvent} (plan : after.plan = before.plan)
    (since : NodeRegistry.Since before.registry newer after.registry)
    (other : after.target id ≠ before.target id) : ∃ event ∈ newer, event.node.id = id := by
  by_cases heard : ∃ event ∈ newer, event.node.id = id
  · exact heard
  · have same := since.unheard id fun event member here => heard ⟨event, member, here⟩
    refine absurd ?_ other
    unfold target
    rw [plan]
    exact PoolConfig.target_eq_of_view _ same

theorem Besides.awaits (besides : before.Besides after) {newer : List NodeEvent}
    (ahead : after.ahead = newer ++ before.ahead)
    (resizes : ∀ caller, (id, caller) ∈ before.resizes → (id, caller) ∈ after.resizes)
    (awaits : before.Awaits id) : after.Awaits id := by
  rcases awaits with
    ⟨event, member, here⟩ | ⟨count, behind⟩ | ⟨snapshot, comparing⟩ | ⟨caller, asked⟩
  · rw [Awaits, ahead]
    exact Or.inl ⟨event, List.mem_append_right newer member, here⟩
  · exact Or.inr (Or.inl ⟨count, besides.attention.trans behind⟩)
  · exact Or.inr (Or.inr (Or.inl ⟨snapshot, besides.attention.trans comparing⟩))
  · exact Or.inr (Or.inr (Or.inr ⟨caller, resizes caller asked⟩))

/-- A node that is down after a change was down before, or its going down is ahead. -/
theorem Besides.down_cases (besides : before.Besides after) (followed : before.Followed)
    {newer : List NodeEvent} (since : NodeRegistry.Since before.registry newer after.registry)
    {node : Node} (found : after.registry.get? id = some node) (isDown : node.state = .down) :
    (∃ earlier, before.registry.get? id = some earlier ∧ earlier.state = .down) ∨
      ∃ event ∈ after.ahead ++ after.lost, event.TellsDown id := by
  have later := (besides.followed followed).heard
  refine (followed.heard.down_cases later since found isDown).imp_right ?_
  rintro ⟨event, member, tells⟩
  refine ⟨event, List.mem_append_left _ ?_, tells⟩
  rw [besides.ahead_eq followed since]
  exact List.mem_append_left _ member

theorem Besides.mem_told (besides : before.Besides after) {newer : List NodeEvent}
    (ahead : after.ahead = newer ++ before.ahead) {event : NodeEvent}
    (member : event ∈ before.ahead ++ before.lost) : event ∈ after.ahead ++ after.lost := by
  rw [ahead, besides.lost, List.append_assoc]
  exact List.mem_append_right newer member

/-- A change of the registry brings its own event, so what has to be said of a node that is
down is only what had to be said before. -/
theorem Besides.serves_of_told (besides : before.Besides after) (followed : before.Followed)
    (resizes : ∀ caller, (id, caller) ∈ before.resizes → (id, caller) ∈ after.resizes)
    (tended : pool.Tended (before.target id) (before.Awaits id))
    (told : ∀ earlier node, before.registry.get? id = some earlier → earlier.state = .down →
      after.registry.get? id = some node → node.state = .down →
      pool.channels = [] ∨ ∃ event ∈ before.ahead ++ before.lost, event.TellsDown id) :
    after.Serves id pool := by
  obtain ⟨newer, since⟩ := besides.exists_since followed
  have ahead := besides.ahead_eq followed since
  refine ⟨tended.change (fun other => ?_) (besides.awaits ahead resizes), ?_⟩
  · obtain ⟨event, member, here⟩ := target_of_since besides.plan since other
    rw [Awaits, ahead]
    exact Or.inl ⟨event, List.mem_append_left _ member, here⟩
  · intro node found isDown
    rcases besides.down_cases followed since found isDown with ⟨earlier, there, wasDown⟩ | tells
    · refine (told earlier node there wasDown found isDown).imp_right ?_
      rintro ⟨event, member, tells⟩
      exact ⟨event, besides.mem_told ahead member, tells⟩
    · exact Or.inr tells

theorem Besides.serves (besides : before.Besides after) (followed : before.Followed)
    (resizes : ∀ caller, (id, caller) ∈ before.resizes → (id, caller) ∈ after.resizes)
    (serves : before.Serves id pool) : after.Serves id pool :=
  besides.serves_of_told followed resizes serves.tended fun earlier _ there wasDown _ _ =>
    serves.told earlier there wasDown

theorem work_resizes (fleet : Fleet) (id : NodeId) (task : PoolTask) :
    (fleet.work id task).resizes = fleet.resizes := by
  cases found : fleet.pools.find? id with
  | none => rw [work_of_absent found]
  | some pool =>
      rw [work_of_present found]
      rfl

/-- The work on one pool. Channels come to a pool that had none only with the word that its
node is up, and a node that is down is not so any more then. -/
theorem Followed.serves_work (followed : fleet.Followed)
    (found : fleet.pools.find? id = some pool)
    (tended : (pool.undertake (fleet.view id) task).2.Tended (fleet.target id) (fleet.Awaits id))
    (told : (pool.undertake (fleet.view id) task).2.channels = [] ∨ fleet.Told id pool) :
    (fleet.work id task).Serves id (pool.undertake (fleet.view id) task).2 := by
  have besides := besides_work fleet id task
  have kept := Pool.undertake_keeps id (fleet.view id) task pool
  have registry : (fleet.work id task).registry =
      fleet.registry.performAll (Pool.signals id (pool.undertake (fleet.view id) task).1) := by
    rw [work_of_present found]
    rfl
  have resizes (caller : ResizeCaller) (asked : (id, caller) ∈ fleet.resizes) :
      (id, caller) ∈ (fleet.work id task).resizes := by rwa [work_resizes]
  refine besides.serves_of_told followed resizes tended ?_
  intro earlier node there wasDown now isDown
  rcases told with none | told
  · exact Or.inl none
  rcases told earlier there wasDown with none | word
  · refine (kept.announced none).imp_right fun signals => ?_
    rw [registry, signals] at now
    have isUp := NodeRegistry.state_of_signalUp followed.heard.sound there wasDown now
    exact absurd (isUp.symm.trans isDown) nofun
  · exact Or.inr word

theorem Followed.staffed_work (followed : fleet.Followed)
    (others : ∀ other pool, other ≠ id → fleet.pools.find? other = some pool →
      fleet.Serves other pool)
    (own : ∀ pool, fleet.pools.find? id = some pool →
      (pool.undertake (fleet.view id) task).2.Tended (fleet.target id) (fleet.Awaits id) ∧
        ((pool.undertake (fleet.view id) task).2.channels = [] ∨ fleet.Told id pool)) :
    (fleet.work id task).Staffed := by
  have besides := besides_work fleet id task
  refine ⟨besides.followed followed, fun other now found => ?_⟩
  have untouched {earlier : Pool} (there : fleet.pools.find? other = some earlier)
      (elsewhere : other ≠ id) : (fleet.work id task).Serves other earlier := by
    refine besides.serves followed (fun caller asked => ?_) (others other earlier elsewhere there)
    rwa [work_resizes]
  cases present : fleet.pools.find? id with
  | none =>
      rw [work_of_absent present] at found
      refine untouched found ?_
      rintro rfl
      exact absurd (present.symm.trans found) nofun
  | some pool =>
      have placed : (fleet.pools.put id (pool.undertake (fleet.view id) task).2).find? other =
          some now := by
        rw [work_of_present present] at found
        exact found
      rw [Table.find?_put] at placed
      by_cases same : other = id
      · rw [if_pos same] at placed
        subst same
        obtain ⟨tended, told⟩ := own pool present
        rw [← Option.some.inj placed]
        exact followed.serves_work present tended told
      · rw [if_neg same] at placed
        exact untouched placed same

theorem Staffed.work (staffed : fleet.Staffed) (id : NodeId) (task : PoolTask) :
    (fleet.work id task).Staffed := by
  refine staffed.followed.staffed_work (fun other pool _ => staffed.serves other pool) ?_
  intro pool found
  have serves := staffed.serves id pool found
  have tended : pool.Tended (fleet.view id).target (fleet.Awaits id) := serves.tended
  exact ⟨Pool.undertake_tended tended task, Or.inr serves.told⟩

theorem Staffed.besides (staffed : before.Staffed) (besides : before.Besides after)
    (pools : after.pools = before.pools) (resizes : after.resizes = before.resizes) :
    after.Staffed := by
  refine ⟨besides.followed staffed.followed, fun id pool found => ?_⟩
  rw [pools] at found
  refine besides.serves staffed.followed (fun caller asked => ?_) (staffed.serves id pool found)
  rwa [resizes]

theorem mem_eraseIdx_of_ne {Item : Type} {items : List Item} {place : Nat} {taken item : Item}
    (found : items[place]? = some taken) (other : item ≠ taken) (member : item ∈ items) :
    item ∈ items.eraseIdx place := by
  obtain ⟨index, within, same⟩ := List.mem_iff_getElem.mp member
  refine List.mem_eraseIdx_iff_getElem?.mpr ⟨index, ?_, ?_⟩
  · rintro rfl
    rw [List.getElem?_eq_getElem within, same] at found
    exact other (Option.some.inj found)
  · rw [List.getElem?_eq_getElem within, same]

theorem Staffed.begin (staffed : fleet.Staffed) {place : Nat} {caller : ResizeCaller}
    (taken : fleet.resizes[place]? = some (id, caller)) :
    ({ fleet with resizes := fleet.resizes.eraseIdx place }.work id (.resize caller)).Staffed := by
  have besides := besides_of_resizes fleet (fleet.resizes.eraseIdx place)
  refine (besides.followed staffed.followed).staffed_work ?_ ?_
  · intro other pool elsewhere found
    refine besides.serves staffed.followed (fun asking asked => ?_)
      (staffed.serves other pool found)
    refine mem_eraseIdx_of_ne taken (fun same => ?_) asked
    exact elsewhere (congrArg Prod.fst same)
  · intro pool found
    have serves := staffed.serves id pool found
    have tended : pool.Tended (fleet.view id).target (fleet.Awaits id) := serves.tended
    exact ⟨Pool.ensureSize_tended tended caller _, Or.inr serves.told⟩

theorem Staffed.stepped (staffed : fleet.Staffed) (stepped : fleet.Stepped after) :
    after.Staffed := by
  have besides := stepped.besides
  cases stepped with
  | aside alike => exact staffed.besides besides alike.pools alike.resizes
  | operate operation => exact staffed.besides besides rfl rfl
  | work alike id task =>
      exact (staffed.besides alike.besides alike.pools alike.resizes).work id task
  | begin taken => exact staffed.begin taken
  | late place task =>
      have kept : (fleet.workLate place task).pools = fleet.pools ∧
          (fleet.workLate place task).resizes = fleet.resizes := by
        unfold workLate
        split
        · exact ⟨rfl, rfl⟩
        · exact ⟨rfl, rfl⟩
      exact staffed.besides besides kept.1 kept.2

theorem Serves.of_follower (serves : before.Serves id pool)
    (registry : after.registry = before.registry) (plan : after.plan = before.plan)
    (awaits : before.Awaits id → after.Awaits id)
    (told : ∀ event ∈ before.ahead ++ before.lost, event.TellsDown id →
      event ∈ after.ahead ++ after.lost) : after.Serves id pool := by
  have target : after.target id = before.target id := by
    unfold Fleet.target
    rw [registry, plan]
  refine ⟨serves.tended.change (fun other => absurd target other) awaits, ?_⟩
  intro node found isDown
  rw [registry] at found
  refine (serves.told node found isDown).imp_right ?_
  rintro ⟨event, member, tells⟩
  exact ⟨event, told event member tells, tells⟩

theorem Staffed.receive (staffed : fleet.Staffed) : fleet.receive.Staffed := by
  refine ⟨staffed.followed.receive, fun id pool found => ?_⟩
  rw [receive_pools] at found
  have serves := staffed.serves id pool found
  unfold Fleet.receive
  split
  case h_1 => exact serves
  case h_2 event follower given =>
    obtain ⟨free, next⟩ := notice?_cases given
    obtain ⟨_, ⟨_, isEvent, unread⟩ | ⟨_, isLag, _⟩⟩ := Subscription.next?_cases next
    · cases isEvent
      have sameAhead : fleet.ahead = follower.unread fleet.registry ++ [event] :=
        (ahead_of_free free).trans unread
      refine serves.of_follower rfl rfl ?_ ?_
      · rintro (ahead | behind | ⟨_, comparing⟩ | asked)
        · rw [sameAhead] at ahead
          exact Or.inl ahead
        · exact absurd behind (not_isBehind_of_free free)
        · exact absurd (free.symm.trans comparing) nofun
        · exact Or.inr (Or.inr (Or.inr asked))
      · intro told member _
        rw [sameAhead] at member
        exact member
    · cases isLag
  case h_3 count follower given =>
    obtain ⟨free, next⟩ := notice?_cases given
    obtain ⟨_, ⟨_, isEvent, _⟩ | ⟨_, _, unread⟩⟩ := Subscription.next?_cases next
    · cases isEvent
    · refine serves.of_follower rfl rfl (fun _ => Or.inr (Or.inl ⟨count, rfl⟩)) ?_
      intro told member _
      have parted : fleet.ahead =
          follower.unread fleet.registry ++ fleet.unseen.drop Subscription.capacity :=
        (ahead_of_free free).trans unread
      rw [parted, List.append_assoc] at member
      change told ∈ (follower.unread fleet.registry ++ []) ++
        (fleet.unseen.drop Subscription.capacity ++ fleet.lost)
      rwa [List.append_nil]

theorem Staffed.look (staffed : fleet.Staffed) : fleet.look.Staffed := by
  refine ⟨staffed.followed.look, fun id pool found => ?_⟩
  rw [look_pools] at found
  have serves := staffed.serves id pool found
  unfold Fleet.look
  split
  case h_1 count behind =>
    have sameAhead : fleet.ahead = fleet.unseen ++ [] := by
      unfold ahead inHand
      rw [behind]
    refine serves.of_follower rfl rfl (fun _ => Or.inr (Or.inr (Or.inl ⟨_, rfl⟩))) ?_
    intro told member _
    rw [sameAhead] at member
    exact member
  case h_2 => exact serves

/-- After an event was acted on, a pool is served as before if the event was about another
node, or if a resize is asked for instead. -/
theorem Serves.acted {event : NodeEvent} (serves : before.Serves id pool)
    (holding : before.attention = .holding (.event event))
    (registry : after.registry = before.registry) (plan : after.plan = before.plan)
    (follower : after.follower = before.follower) (free : after.attention = .free)
    (lost : after.lost = before.lost)
    (resizes : ∀ caller, (id, caller) ∈ before.resizes → (id, caller) ∈ after.resizes)
    (answered : event.node.id = id →
      (∃ caller, (id, caller) ∈ after.resizes) ∧ event.health? ≠ some (some .down)) :
    after.Serves id pool := by
  have sameAhead : before.ahead = after.ahead ++ [event] := by
    rw [ahead_of_event holding, ahead_of_free free]
    unfold unseen
    rw [registry, follower]
  refine serves.of_follower registry plan ?_ ?_
  · rintro (⟨told, member, here⟩ | behind | ⟨_, comparing⟩ | ⟨caller, asked⟩)
    · rw [sameAhead] at member
      rcases List.mem_append.mp member with later | this
      · exact Or.inl ⟨told, later, here⟩
      · rw [List.mem_singleton.mp this] at here
        exact Or.inr (Or.inr (Or.inr (answered here).1))
    · exact absurd behind (not_isBehind_of_event holding)
    · exact absurd (holding.symm.trans comparing) nofun
    · exact Or.inr (Or.inr (Or.inr ⟨caller, resizes caller asked⟩))
  · intro told member tells
    rw [sameAhead, List.append_assoc] at member
    rw [lost]
    rcases List.mem_append.mp member with later | rest
    · exact List.mem_append_left _ later
    · rcases List.mem_cons.mp rest with this | earlier
      · subst this
        exact absurd tells.2 (answered tells.1).2
      · exact List.mem_append_right _ earlier

theorem mem_resizes_append {ids : List NodeId} (listed : id ∈ ids)
    (resizes : List (NodeId × ResizeCaller)) :
    (id, ResizeCaller.background) ∈ resizes ++ ids.map fun id => (id, ResizeCaller.background) :=
  List.mem_append_right _ (List.mem_map_of_mem listed)

theorem newPool_serves {node : Node} (awaits : fleet.Awaits id) :
    fleet.Serves id (PoolTable.newPool fleet.plan node) :=
  ⟨PoolTable.newPool_tended fleet.plan node _ awaits, fun _ _ _ => Or.inl rfl⟩

theorem Staffed.act_of_comparing {snapshot : ClusterSnapshot} (staffed : fleet.Staffed)
    (comparing : fleet.attention = .comparing snapshot) : fleet.act.Staffed := by
  refine ⟨staffed.followed.act, fun id pool found => ?_⟩
  obtain ⟨indexed, _, _⟩ := staffed.followed.compared snapshot comparing
  rw [Fleet.act_of_comparing comparing] at found ⊢
  have there := (PoolTable.mem_keys_resync indexed).mp (PoolTable.mem_keys found)
  obtain ⟨node, present⟩ := Option.ne_none_iff_exists'.mp there
  have listed : id ∈ snapshot.nodeList.map Node.id :=
    List.mem_map.mpr
      ⟨node, indexed.mem_nodeList.mpr (indexed.of_get? present), indexed.keyed present⟩
  have asked := mem_resizes_append listed fleet.resizes
  rcases PoolTable.find?_resync indexed staffed.followed.distinct found with
    earlier | ⟨_, _, _, new⟩
  · refine (staffed.serves id pool earlier).of_follower rfl rfl
      (fun _ => Or.inr (Or.inr (Or.inr ⟨_, asked⟩))) ?_
    intro told member _
    rw [ahead_of_comparing comparing] at member
    rwa [ahead_of_free rfl]
  · subst new
    exact newPool_serves (Or.inr (Or.inr (Or.inr ⟨_, asked⟩)))

theorem Staffed.act_of_added {node : Node} (staffed : fleet.Staffed)
    (holding : fleet.attention = .holding (.event (.added node))) : fleet.act.Staffed := by
  refine ⟨staffed.followed.act, fun id pool found => ?_⟩
  rw [Fleet.act_of_added holding] at found ⊢
  have asked := mem_resizes_append (List.mem_singleton_self node.id) fleet.resizes
  rcases PoolTable.find?_provide found with earlier | ⟨rfl, rfl⟩
  · refine (staffed.serves id pool earlier).acted holding rfl rfl rfl rfl rfl
      (fun _ => List.mem_append_left _) ?_
    rintro rfl
    exact ⟨⟨_, asked⟩, nofun⟩
  · exact newPool_serves (Or.inr (Or.inr (Or.inr ⟨_, asked⟩)))

theorem Staffed.act_of_removed {node : Node} (staffed : fleet.Staffed)
    (holding : fleet.attention = .holding (.event (.removed node))) : fleet.act.Staffed := by
  refine ⟨staffed.followed.act, fun id pool found => ?_⟩
  cases present : fleet.pools.find? node.id with
  | none =>
      rw [act_of_removed_absent holding present] at found ⊢
      refine (staffed.serves id pool found).acted holding rfl rfl rfl rfl rfl
        (fun _ asked => asked) ?_
      rintro rfl
      exact absurd (present.symm.trans found) nofun
  | some gone =>
      rw [Fleet.act_of_removed holding present] at found ⊢
      have kept := (Table.find?_erase node.id id fleet.pools).symm.trans found
      by_cases same : id = node.id
      · rw [if_pos same] at kept
        cases kept
      · rw [if_neg same] at kept
        exact (staffed.serves id pool kept).acted holding rfl rfl rfl rfl rfl
          (fun _ asked => asked) fun here => absurd here.symm same

theorem Staffed.act_of_staying {event : NodeEvent} (staffed : fleet.Staffed)
    (holding : fleet.attention = .holding (.event event))
    (stays : ∀ node, event ≠ .added node ∧ event ≠ .removed node) : fleet.act.Staffed := by
  rcases act_cases_of_staying holding stays with ⟨absent, same⟩ | ⟨other, same⟩ | ⟨_, same⟩
  · refine ⟨staffed.followed.act, fun id pool found => ?_⟩
    rw [same] at found ⊢
    refine (staffed.serves id pool found).acted holding rfl rfl rfl rfl rfl
      (fun _ asked => asked) ?_
    rintro rfl
    exact absurd (absent.symm.trans found) nofun
  · refine ⟨staffed.followed.act, fun id pool found => ?_⟩
    rw [same] at found ⊢
    refine (staffed.serves id pool found).acted holding rfl rfl rfl rfl rfl
      (fun _ => List.mem_append_left _) ?_
    rintro rfl
    exact ⟨⟨_, mem_resizes_append (List.mem_singleton_self event.node.id) fleet.resizes⟩, other⟩
  · rw [same]
    refine (staffed.followed.pass holding stays).staffed_work ?_ ?_
    · intro id pool elsewhere found
      exact (staffed.serves id pool found).acted holding rfl rfl rfl rfl rfl
        (fun _ asked => asked) fun here => absurd here.symm elsewhere
    · intro pool found
      have emptied := Pool.scheduleReconnect_quiet pool.node { pool with channels := [] }
      have tended := (staffed.serves event.node.id pool found).tended
      exact ⟨Pool.onNodeDown_tended tended _, Or.inl emptied.channels⟩

theorem Staffed.act (staffed : fleet.Staffed) : fleet.act.Staffed := by
  cases attention : fleet.attention with
  | free =>
      rw [act_of_idle (Or.inl attention)]
      exact staffed
  | comparing snapshot => exact staffed.act_of_comparing attention
  | holding notice =>
      cases notice with
      | lagged count =>
          rw [act_of_idle (Or.inr ⟨count, attention⟩)]
          exact staffed
      | event event =>
          cases event with
          | added node => exact staffed.act_of_added attention
          | removed node => exact staffed.act_of_removed attention
          | stateChanged node old new =>
              exact staffed.act_of_staying attention fun _ => ⟨nofun, nofun⟩
          | distanceChanged node old new =>
              exact staffed.act_of_staying attention fun _ => ⟨nofun, nofun⟩

theorem Staffed.perform (staffed : fleet.Staffed) (action : FleetAction) :
    (fleet.perform action).Staffed := by
  by_cases own : action = .receive ∨ action = .look ∨ action = .act
  · rcases own with rfl | rfl | rfl
    · exact staffed.receive
    · exact staffed.look
    · exact staffed.act
  · simp only [not_or] at own
    exact staffed.stepped (perform_stepped own)

theorem Staffed.performAll (staffed : fleet.Staffed) (actions : List FleetAction) :
    (fleet.performAll actions).Staffed := by
  induction actions generalizing fleet with
  | nil => exact staffed
  | cons action rest ih => exact ih (staffed.perform action)

theorem staffed_start (plan : PoolPlan) (operations : List RegistryOperation) :
    (start plan operations).Staffed := by
  have followed := followed_start plan operations
  refine ⟨followed, fun id pool found => ?_⟩
  have indexed := followed.heard.sound.snapshot.indexed
  have none : (Table.keys ([] : PoolTable)).Nodup := List.nodup_nil
  rw [start_pools] at found
  rcases PoolTable.find?_resync indexed none found with earlier | ⟨node, there, rfl, rfl⟩
  · cases earlier
  · have asked : (node.id, ResizeCaller.session) ∈ (start plan operations).resizes :=
      List.mem_map.mpr ⟨node, indexed.mem_nodeList.mpr there, rfl⟩
    exact newPool_serves (Or.inr (Or.inr (Or.inr ⟨_, asked⟩)))

/-- Nobody has anything left to do: all that was published is acted on, no resize is asked
for or at work, and no loop runs. -/
def isAtRest (fleet : Fleet) : Bool :=
  fleet.isCurrent && fleet.resizes.isEmpty && fleet.pools.values.all fun pool =>
    pool.resizing.isNone && pool.queue.isEmpty && pool.schedule.isNone

theorem isAtRest_cases (rest : fleet.isAtRest = true) :
    fleet.isCurrent = true ∧ fleet.resizes = [] ∧ ∀ id pool, fleet.pools.find? id = some pool →
      pool.resizing = none ∧ pool.queue = [] ∧ pool.schedule = none := by
  simp only [isAtRest, Bool.and_eq_true, List.all_eq_true, List.isEmpty_iff,
    Option.isNone_iff_eq_none] at rest
  obtain ⟨⟨current, resizes⟩, idle⟩ := rest
  refine ⟨current, resizes, fun id pool found => ?_⟩
  obtain ⟨⟨resizing, queue⟩, schedule⟩ :=
    idle pool (List.mem_map.mpr ⟨_, Table.mem_of_find? found, rfl⟩)
  exact ⟨resizing, queue, schedule⟩

/-- Whatever happened to the registry, the channels and the follower: once nobody has anything
left to do, each node that shall have channels has a pool with that many, and it is not down,
unless one of the events that the follower lost said that it went down. -/
theorem down_at_rest (plan : PoolPlan) (operations : List RegistryOperation)
    (actions : List FleetAction) :
    let fleet := (start plan operations).performAll actions
    fleet.isAtRest = true → ∀ id node, fleet.registry.get? id = some node → 0 < fleet.target id →
      ∃ pool, fleet.pools.find? id = some pool ∧ fleet.target id ≤ pool.channels.length ∧
        (node.state = .down → ∃ event ∈ fleet.lost, event.TellsDown id) := by
  intro fleet rest id node found positive
  have staffed : fleet.Staffed := (staffed_start plan operations).performAll actions
  obtain ⟨current, resizes, idle⟩ := isAtRest_cases rest
  obtain ⟨free, nothing⟩ := isCurrent_cases current
  have ahead : fleet.ahead = [] := (ahead_of_free free).trans nothing
  have pooled : id ∈ fleet.pools.keys := by
    refine (staffed.followed.keys_iff current).mpr ?_
    rw [found]
    nofun
  obtain ⟨pool, there⟩ := (Table.find?_isSome_iff id _).mpr pooled
  obtain ⟨resizing, queue, schedule⟩ := idle id pool there
  obtain ⟨tended, told⟩ := staffed.serves id pool there
  have unawaited : ¬fleet.Awaits id := by
    rintro (⟨event, member, _⟩ | behind | ⟨_, comparing⟩ | ⟨_, asked⟩)
    · rw [ahead] at member
      cases member
    · exact not_isBehind_of_free free behind
    · exact absurd (free.symm.trans comparing) nofun
    · rw [resizes] at asked
      cases asked
  have enough : fleet.target id ≤ pool.channels.length := by
    refine Nat.le_of_not_lt fun few => ?_
    rcases tended.short few with growing | awaits | running | waiting
    · unfold Pool.isGrowing at growing
      rw [resizing] at growing
      cases growing
    · exact unawaited awaits
    · exact running schedule
    · exact waiting queue
  refine ⟨pool, there, enough, fun isDown => ?_⟩
  rcases told node found isDown with none | word
  · rw [none, List.length_nil] at enough
    omega
  · rwa [ahead, List.nil_append] at word

def filling : List FleetAction :=
  [.begin 0, .connected ⟨1⟩ 0 none, .begin 0, .connected ⟨2⟩ 0 none] ++
    (List.replicate 4 [.receive, .act]).flatten ++ List.replicate 4 (.begin 0)

/-- The first node is said to be down. Before the follower hears of it, the second one goes far
and comes near so often that the word is lost, and leaves. -/
def losing : List FleetAction :=
  .operate (.signalDown ⟨1⟩) :: (List.replicate 128
    [.operate (.setDistance ⟨2⟩ .remote), .operate (.setDistance ⟨2⟩ .localDc)]).flatten ++
    [.operate (leaving 2)]

def catchingUp : List FleetAction :=
  [.receive, .look, .act, .begin 0] ++ (List.replicate 256 [.receive, .act]).flatten

def forgetful : Fleet :=
  (start plainPlan [joining 1, joining 2]).performAll (filling ++ losing ++ catchingUp)

theorem forgetful_lost_word :
    forgetful.isAtRest = true ∧ forgetful.registry.get? ⟨1⟩ = some (nearNode .down) ∧
      0 < forgetful.target ⟨1⟩ ∧
      ∃ pool, forgetful.pools.find? ⟨1⟩ = some pool ∧
        forgetful.target ⟨1⟩ ≤ pool.channels.length ∧
        ∃ event ∈ forgetful.lost, event.TellsDown ⟨1⟩ := by
  have facts : forgetful.isAtRest = true ∧
      forgetful.registry.get? ⟨1⟩ = some (nearNode .down) ∧ 0 < forgetful.target ⟨1⟩ := by
    decide +kernel
  obtain ⟨rest, found, positive⟩ := facts
  obtain ⟨pool, there, enough, lost⟩ := down_at_rest plainPlan [joining 1, joining 2]
    (filling ++ losing ++ catchingUp) rest ⟨1⟩ (nearNode .down) found positive
  exact ⟨rest, found, positive, pool, there, enough, lost rfl⟩

/-- With all work done and no attempt failed, a node that has its open channel is still down. -/
theorem full_pool_stays_down :
    forgetful.isAtRest = true ∧
      (forgetful.registry.get? ⟨1⟩).map Node.state = some .down ∧ forgetful.target ⟨1⟩ = 1 ∧
      (forgetful.pools.find? ⟨1⟩).map Pool.channels = some [⟨0⟩] ∧
      forgetful.channelView ⟨0⟩ = .fresh := by
  decide +kernel

end Fleet

end CqlDriver

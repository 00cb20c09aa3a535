/-
Closing channels on the word of an event. The follower closes the channels of a node when it
acts on an event that says that the node went down, and the registry says so as well, unless
a newer event about the node is already published. Then the channels may be healthy.
-/

import CqlDriver.Proofs.Session.Following

namespace CqlDriver

namespace PoolEffect

variable {channels : Table ChannelId ChannelView} {channel : ChannelId}

theorem closes_of_alter {effect : PoolEffect}
    (isOpen : (ChannelView.of channels channel).isClosed = false)
    (closed : (ChannelView.of (alter channels effect) channel).isClosed = true) :
    ∃ reason, effect = .close channel reason := by
  have untouched (same : alter channels effect = channels) : False := by
    rw [same, isOpen] at closed
    cases closed
  cases effect with
  | close other reason =>
      unfold alter ChannelView.of at closed
      rw [Table.find?_put] at closed
      by_cases same : channel = other
      · exact ⟨reason, by rw [same]⟩
      · rw [if_neg same] at closed
        exact absurd (isOpen.symm.trans closed) nofun
  | drain other =>
      unfold alter ChannelView.of at closed
      rw [Table.find?_put] at closed
      by_cases same : channel = other
      · rw [if_pos same, ← same] at closed
        exact absurd (isOpen.symm.trans closed) nofun
      · rw [if_neg same] at closed
        exact absurd (isOpen.symm.trans closed) nofun
  | connect place => exact (untouched rfl).elim
  | watch channel => exact (untouched rfl).elim
  | signalUp => exact (untouched rfl).elim
  | signalDown => exact (untouched rfl).elim
  | wakeAfter delay => exact (untouched rfl).elim
  | resume => exact (untouched rfl).elim
  | resized caller result => exact (untouched rfl).elim

/-- Only what is to be closed gets closed. -/
theorem mem_of_foldl_alter {effects : List PoolEffect}
    (isOpen : (ChannelView.of channels channel).isClosed = false)
    (closed : (ChannelView.of (effects.foldl alter channels) channel).isClosed = true) :
    ∃ reason, .close channel reason ∈ effects := by
  induction effects generalizing channels with
  | nil => exact absurd (isOpen.symm.trans closed) nofun
  | cons effect rest ih =>
      cases now : (ChannelView.of (alter channels effect) channel).isClosed with
      | true =>
          obtain ⟨reason, this⟩ := closes_of_alter isOpen now
          exact ⟨reason, this ▸ List.mem_cons_self⟩
      | false =>
          obtain ⟨reason, member⟩ := ih now closed
          exact ⟨reason, List.mem_cons_of_mem effect member⟩

end PoolEffect

theorem Pool.mem_of_onNodeDown {pool : Pool} {channel : ChannelId} {reason : String}
    (member : .close channel reason ∈ pool.onNodeDown.1) : channel ∈ pool.channels := by
  unfold onNodeDown closeChannels scheduleReconnect at member
  rcases List.mem_append.mp member with closing | looping
  · obtain ⟨held, there, same⟩ := List.mem_map.mp closing
    cases same
    exact there
  · split at looping
    · cases looping
    · cases List.mem_singleton.mp looping

namespace Fleet

variable {fleet : Fleet}

/-- Acting on a change of health closes channels only where the event says that the node went
down, and only those of its pool. -/
theorem closes_of_act {node : Node} {old new : NodeState} {channel : ChannelId}
    (holding : fleet.attention = .holding (.event (.stateChanged node old new)))
    (isOpen : (fleet.channelView channel).isClosed = false)
    (closed : (fleet.act.channelView channel).isClosed = true) :
    new = .down ∧ ∃ pool, fleet.pools.find? node.id = some pool ∧ channel ∈ pool.channels := by
  have unchanged (same : fleet.act.channels = fleet.channels) : False := by
    unfold channelView at isOpen closed
    rw [same, isOpen] at closed
    cases closed
  rcases act_cases_of_staying holding fun _ => ⟨nofun, nofun⟩ with
    ⟨_, same⟩ | ⟨_, same⟩ | ⟨down, same⟩
  · rw [same] at unchanged
    exact (unchanged rfl).elim
  · rw [same] at unchanged
    exact (unchanged rfl).elim
  · refine ⟨Option.some.inj (Option.some.inj down), ?_⟩
    cases found : fleet.pools.find? node.id with
    | none =>
        have absent : ({ fleet with attention := .free } : Fleet).pools.find? node.id =
            none := found
        rw [same, show (NodeEvent.stateChanged node old new).node.id = node.id from rfl,
          work_of_absent absent] at unchanged
        exact (unchanged rfl).elim
    | some pool =>
        have present : ({ fleet with attention := .free } : Fleet).pools.find? node.id =
            some pool := found
        rw [same, show (NodeEvent.stateChanged node old new).node.id = node.id from rfl,
          work_of_present present] at closed
        obtain ⟨reason, member⟩ := PoolEffect.mem_of_foldl_alter isOpen closed
        exact ⟨pool, rfl, Pool.mem_of_onNodeDown member⟩

/-- As long as nothing newer is published about a node, its health is what the event in hand
says. -/
theorem Followed.state_of_event (followed : fleet.Followed) {node : Node} {old new : NodeState}
    (holding : fleet.attention = .holding (.event (.stateChanged node old new)))
    (quiet : ∀ event ∈ fleet.unseen, ¬event.Overtakes node.id) :
    ∃ present, fleet.registry.get? node.id = some present ∧ present.state = new := by
  obtain ⟨older, published⟩ := followed.handed _ holding
  have word := followed.heard.lastWord_eq node.id
  rw [published, NodeEvent.lastWord_append_of_quiet quiet] at word
  have said : NodeEvent.lastWord node.id (.stateChanged node old new :: older) = some new :=
    NodeEvent.lastWord_of_told rfl rfl
  exact Option.map_eq_some_iff.mp (word.trans said)

/-- Whenever the follower closes a channel because of a change of health, the event says that
the node went down, the channel is one of its pool, and the node is down, unless an event that
the follower has not seen yet says something newer. -/
theorem closes_on_word_of_down (plan : PoolPlan) (operations : List RegistryOperation)
    (actions : List FleetAction) :
    let fleet := (start plan operations).performAll actions
    ∀ node old new channel,
      fleet.attention = .holding (.event (.stateChanged node old new)) →
      (fleet.channelView channel).isClosed = false →
      (fleet.act.channelView channel).isClosed = true →
      new = .down ∧
        (∃ pool, fleet.pools.find? node.id = some pool ∧ channel ∈ pool.channels) ∧
        ((∃ present, fleet.registry.get? node.id = some present ∧ present.state = .down) ∨
          ∃ event ∈ fleet.unseen, event.Overtakes node.id) := by
  intro fleet node old new channel holding isOpen closed
  have followed : fleet.Followed := (followed_start plan operations).performAll actions
  obtain ⟨rfl, pooled⟩ := closes_of_act holding isOpen closed
  refine ⟨rfl, pooled, ?_⟩
  by_cases overtaken : ∃ event ∈ fleet.unseen, event.Overtakes node.id
  · exact Or.inr overtaken
  · exact Or.inl (followed.state_of_event holding fun event member word =>
      overtaken ⟨event, member, word⟩)

theorem saidDown_closes :
    let fleet := (start plainPlan [joining 1]).performAll
      [.begin 0, .connected ⟨1⟩ 0 none, .receive, .act, .receive, .act, .operate (.signalDown ⟨1⟩),
        .receive]
    fleet.attention = .holding (.event (.stateChanged (nearNode .down) .up .down)) ∧
      (fleet.channelView ⟨0⟩).isClosed = false ∧ (fleet.act.channelView ⟨0⟩).isClosed = true ∧
      (∃ pool, fleet.pools.find? ⟨1⟩ = some pool ∧ ⟨0⟩ ∈ pool.channels) ∧
      (fleet.registry.get? ⟨1⟩).map Node.state = some .down := by
  intro fleet
  have holding : fleet.attention =
      .holding (.event (.stateChanged (nearNode .down) .up .down)) := rfl
  have isOpen : (fleet.channelView ⟨0⟩).isClosed = false := rfl
  have closed : (fleet.act.channelView ⟨0⟩).isClosed = true := rfl
  obtain ⟨_, pooled, _⟩ := closes_on_word_of_down plainPlan [joining 1]
    [.begin 0, .connected ⟨1⟩ 0 none, .receive, .act, .receive, .act, .operate (.signalDown ⟨1⟩),
      .receive] (nearNode .down) .up .down ⟨0⟩ holding isOpen closed
  exact ⟨holding, isOpen, closed, pooled, rfl⟩

/-- The first attempt fails and the second one succeeds before anybody follows the registry.
The word of the failure then closes the open channel of a node that is up. -/
theorem lateWord_closes_healthy :
    let fleet := (start plainPlan [joining 1]).performAll
      [.begin 0, .connected ⟨1⟩ 0 (some (.io "refused")), .wake ⟨1⟩, .connected ⟨1⟩ 0 none,
        .receive, .act, .receive]
    fleet.attention = .holding (.event (.stateChanged (nearNode .down) .unknown .down)) ∧
      (fleet.registry.get? ⟨1⟩).map Node.state = some .up ∧
      fleet.channelView ⟨0⟩ = .fresh ∧ (fleet.act.channelView ⟨0⟩).isClosed = true :=
  ⟨rfl, rfl, rfl, rfl⟩

end Fleet

end CqlDriver

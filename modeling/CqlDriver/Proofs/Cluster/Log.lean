/-
The published events tell the history of the registry: whoever starts from the nodes that
are there and follows the events knows the address, the health and the distance of each
node afterwards.
-/

import CqlDriver.Proofs.Cluster.Indexes

namespace CqlDriver

structure NodeView where
  address : SocketAddress
  state : NodeState
  distance : Distance
  deriving DecidableEq

def Node.view (node : Node) : NodeView := ⟨node.address, node.state, node.distance⟩

abbrev ClusterView := NodeId → Option NodeView

def ClusterView.set (view : ClusterView) (id : NodeId) (now : Option NodeView) : ClusterView :=
  fun other => if other = id then now else view other

theorem ClusterView.set_self (view : ClusterView) (id : NodeId) (now : Option NodeView) :
    view.set id now id = now :=
  if_pos rfl

def ClusterSnapshot.view (snapshot : ClusterSnapshot) : ClusterView :=
  fun id => (snapshot.get? id).map Node.view

theorem ClusterSnapshot.view_of_get? {snapshot : ClusterSnapshot} {id : NodeId}
    {node? : Option Node} (found : snapshot.get? id = node?) :
    snapshot.view id = node?.map Node.view :=
  congrArg (Option.map Node.view) found

namespace NodeEvent

/-- What a follower makes of an event. Of a changed node only the new value is read. -/
def follow (view : ClusterView) : NodeEvent → ClusterView
  | .added node => view.set node.id (some node.view)
  | .removed node => view.set node.id none
  | .stateChanged node _ new =>
      view.set node.id ((view node.id).map fun known => { known with state := new })
  | .distanceChanged node _ new =>
      view.set node.id ((view node.id).map fun known => { known with distance := new })

/-- The event is true of the views right before and right after it. A changed node is
carried as it is afterwards; before, it was the same but for the old value. -/
def Describes (event : NodeEvent) (before after : ClusterSnapshot) : Prop :=
  (∀ id, id ≠ event.node.id → after.get? id = before.get? id) ∧
  match event with
  | .added node =>
      before.get? node.id = none ∧ after.get? node.id = some node ∧ node.state = .unknown
  | .removed node => before.get? node.id = some node ∧ after.get? node.id = none
  | .stateChanged node old new =>
      before.get? node.id = some { node with state := old } ∧
        after.get? node.id = some node ∧ node.state = new ∧ old.canBecome new = true
  | .distanceChanged node old new =>
      before.get? node.id = some { node with distance := old } ∧
        after.get? node.id = some node ∧ node.distance = new ∧ old ≠ new

variable {before after : ClusterSnapshot}

theorem Describes.follow_eq {event : NodeEvent} (describes : event.Describes before after) :
    event.follow before.view = after.view := by
  obtain ⟨others, change⟩ := describes
  funext id
  by_cases here : id = event.node.id
  · rw [here]
    cases event with
    | added node =>
        obtain ⟨_, present, _⟩ := change
        exact (before.view.set_self _ _).trans (ClusterSnapshot.view_of_get? present).symm
    | removed node =>
        obtain ⟨_, absent⟩ := change
        exact (before.view.set_self _ _).trans (ClusterSnapshot.view_of_get? absent).symm
    | stateChanged node old new =>
        obtain ⟨earlier, present, same, _⟩ := change
        refine (before.view.set_self _ _).trans ?_
        rw [ClusterSnapshot.view_of_get? earlier, ← same]
        exact (ClusterSnapshot.view_of_get? present).symm
    | distanceChanged node old new =>
        obtain ⟨earlier, present, same, _⟩ := change
        refine (before.view.set_self _ _).trans ?_
        rw [ClusterSnapshot.view_of_get? earlier, ← same]
        exact (ClusterSnapshot.view_of_get? present).symm
  · have unheard : event.follow before.view id = before.view id := by
      cases event with
      | _ => exact if_neg here
    rw [unheard]
    exact (congrArg (Option.map Node.view) (others id here)).symm

end NodeEvent

namespace NodeRegistry

def NoChange (registry : NodeRegistry) : RegistryAnswer → Prop
  | .node node => registry.get? node.id = some node
  | .removed node => node = none
  | .changed changed => changed = false
  | .done => False

inductive History : NodeRegistry → List NodeEvent → NodeRegistry → Prop
  | rest (registry : NodeRegistry) : History registry [] registry
  | silent {before after : NodeRegistry} {events : List NodeEvent}
      (operation : RegistryOperation)
      (unpublished : (before.perform operation).2.published = before.published)
      (sameView : (before.perform operation).2.snapshot.view = before.snapshot.view)
      (later : History (before.perform operation).2 events after) : History before events after
  | told {before after : NodeRegistry} {events : List NodeEvent}
      (operation : RegistryOperation) {event : NodeEvent}
      (published : (before.perform operation).2.published = event :: before.published)
      (describes : event.Describes before.snapshot (before.perform operation).2.snapshot)
      (later : History (before.perform operation).2 events after) :
      History before (event :: events) after

variable {before after registry : NodeRegistry}

theorem History.published_eq {events : List NodeEvent} (history : History before events after) :
    after.published = events.reverse ++ before.published := by
  induction history with
  | rest registry => rfl
  | silent operation unpublished sameView later ih => rw [ih, unpublished]
  | told operation published describes later ih =>
      rw [ih, published, List.reverse_cons, List.append_assoc, List.singleton_append]

theorem History.follow_eq {events : List NodeEvent} (history : History before events after) :
    events.foldl NodeEvent.follow before.snapshot.view = after.snapshot.view := by
  induction history with
  | rest registry => rfl
  | silent operation unpublished sameView later ih => rw [← sameView, ih]
  | told operation published describes later ih => rw [List.foldl_cons, describes.follow_eq, ih]

theorem Move.describes {event : NodeEvent} (sound : before.Sound)
    (move : before.Move (some event) after) : event.Describes before.snapshot after.snapshot := by
  cases move with
  | join distance absent =>
      refine ⟨fun id other => ?_, sound.newcomer_absent _ _, ?_, rfl⟩
      · exact (ClusterSnapshot.get?_join _ _ _).trans (if_neg other)
      · exact (ClusterSnapshot.get?_join _ _ _).trans (if_pos rfl)
  | leave found =>
      refine ⟨fun id other => ?_, (sound.snapshot.indexed.of_atAddress? found).1, ?_⟩
      · exact (ClusterSnapshot.get?_leave _ _ _ _).trans (if_neg other)
      · exact (ClusterSnapshot.get?_leave _ _ _ _).trans (if_pos rfl)
  | redistance found other =>
      refine ⟨fun id elsewhere => ?_, sound.snapshot.indexed.of_get? found, ?_, rfl, other⟩
      · exact (ClusterSnapshot.get?_putNode _ _ _).trans (if_neg elsewhere)
      · exact (ClusterSnapshot.get?_putNode _ _ _).trans (if_pos rfl)
  | restate found allowed =>
      refine ⟨fun id elsewhere => ?_, sound.snapshot.indexed.of_get? found, ?_, rfl, allowed⟩
      · exact (ClusterSnapshot.get?_putNode _ _ _).trans (if_neg elsewhere)
      · exact (ClusterSnapshot.get?_putNode _ _ _).trans (if_pos rfl)

theorem Move.view_eq (sound : before.Sound) (move : before.Move none after) :
    after.snapshot.view = before.snapshot.view := by
  cases move with
  | rest => rfl
  | @refresh node info found =>
      obtain ⟨present, sameAddress⟩ := sound.snapshot.indexed.of_atAddress? found
      funext id
      change ((before.snapshot.refresh node info).get? id).map Node.view = _
      rw [ClusterSnapshot.get?_refresh]
      unfold ClusterSnapshot.view
      by_cases here : id = node.id
      · rw [if_pos here, here, present]
        simp only [Option.map_some, Node.view, sameAddress]
        rfl
      · rw [if_neg here]

theorem exists_history (sound : registry.Sound) (operations : List RegistryOperation) :
    ∃ events, History registry events (registry.performAll operations) := by
  obtain ⟨singles, single, same⟩ := exists_single_operations registry operations
  rw [same]
  clear same
  induction singles generalizing registry with
  | nil => exact ⟨[], .rest registry⟩
  | cons operation rest ih =>
      obtain ⟨first, others⟩ := List.forall_mem_cons.mp single
      obtain ⟨event?, move⟩ := (perform_performed registry first).move
      obtain ⟨events, later⟩ := ih (move.sound sound) others
      cases event? with
      | none => exact ⟨events, .silent operation move.published_eq (move.view_eq sound) later⟩
      | some event =>
          exact ⟨event :: events,
            .told operation move.published_eq (move.describes sound) later⟩

theorem Performed.unchanged {operation : RegistryOperation} {answer : RegistryAnswer}
    (sound : registry.Sound) (performed : registry.Performed operation answer after)
    (noChange : registry.NoChange answer) : after = registry := by
  cases performed with
  | present found => rfl
  | @added info distance after move =>
      have absent := sound.newcomer_absent info distance
      exact absurd (absent.symm.trans noChange) nofun
  | known => rfl
  | refreshed move => cases noChange
  | missing => rfl
  | removed move => cases noChange
  | ignored adjusts => rfl
  | adjusted adjusts move => cases noChange

theorem Performed.told {operation : RegistryOperation} {answer : RegistryAnswer}
    (sound : registry.Sound) (performed : registry.Performed operation answer after)
    (change : ¬registry.NoChange answer) (reports : ∀ info, operation ≠ .refreshNode info) :
    ∃ event, registry.Move (some event) after := by
  cases performed with
  | present found => exact absurd (sound.snapshot.indexed.of_atAddress? found).1 change
  | added move => exact ⟨_, move⟩
  | known => exact absurd rfl (reports _)
  | refreshed move => exact absurd rfl (reports _)
  | missing => exact absurd rfl change
  | removed move => exact ⟨_, move⟩
  | ignored adjusts => exact absurd rfl change
  | adjusted adjusts move => exact ⟨_, move⟩

/-- From every state that a registry reaches, the events that are published from then on
lead a follower to the later view, and each of them is true of the views right before and
right after it. An operation that answers that nothing changed changes and publishes
nothing; any other one publishes one event, but for the two that may publish none or many. -/
theorem events_tell_history (earlier later : List RegistryOperation) :
    let before := empty.performAll earlier
    let after := before.performAll later
    (∃ events, History before events after ∧
      after.published = events.reverse ++ before.published ∧
      events.foldl NodeEvent.follow before.snapshot.view = after.snapshot.view) ∧
    ∀ operation, let outcome := before.perform operation
      (before.NoChange outcome.1 → outcome.2 = before) ∧
      (¬before.NoChange outcome.1 → operation ≠ .clear →
        (∀ info, operation ≠ .refreshNode info) →
        ∃ event, outcome.2.published = event :: before.published ∧
          event.Describes before.snapshot outcome.2.snapshot) := by
  intro before after
  have sound : before.Sound := sound_empty.performAll earlier
  constructor
  · obtain ⟨events, history⟩ := exists_history sound later
    exact ⟨events, history, history.published_eq, history.follow_eq⟩
  · intro operation outcome
    by_cases clears : operation = .clear
    · subst clears
      exact ⟨False.elim, fun _ single => absurd rfl single⟩
    · have performed := perform_performed before clears
      refine ⟨performed.unchanged sound, fun change _ reports => ?_⟩
      obtain ⟨event, move⟩ := performed.told sound change reports
      exact ⟨event, move.published_eq, move.describes sound⟩

/-- A node that is up is switched off by hand and forgotten. Before that, hearing that it is
up says nothing new, and hearing that it is down does. -/
theorem upNode_history :
    let before := empty.performAll
      [.addNode { address := ⟨.ofParts 127 0 0 1, 1, 0⟩, tokens := [⟨99⟩] } .localDc,
        .signalUp ⟨1⟩]
    (∃ events, History before events (before.performAll [.forceDown ⟨1⟩, .signalUp ⟨1⟩, .clear]) ∧
      events.foldl NodeEvent.follow before.snapshot.view =
        (before.performAll [.forceDown ⟨1⟩, .signalUp ⟨1⟩, .clear]).snapshot.view) ∧
    (before.perform (.signalUp ⟨1⟩)).2 = before ∧
    ∃ event, (before.perform (.signalDown ⟨1⟩)).2.published = event :: before.published ∧
      event.Describes before.snapshot (before.perform (.signalDown ⟨1⟩)).2.snapshot := by
  obtain ⟨⟨events, history, _, followed⟩, outcomes⟩ := events_tell_history
    [.addNode { address := ⟨.ofParts 127 0 0 1, 1, 0⟩, tokens := [⟨99⟩] } .localDc,
      .signalUp ⟨1⟩]
    [.forceDown ⟨1⟩, .signalUp ⟨1⟩, .clear]
  refine ⟨⟨events, history, followed⟩, (outcomes (.signalUp ⟨1⟩)).1 rfl, ?_⟩
  exact (outcomes (.signalDown ⟨1⟩)).2 nofun nofun nofun

end NodeRegistry

end CqlDriver

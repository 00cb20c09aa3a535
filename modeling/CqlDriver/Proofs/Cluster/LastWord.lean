/-
What the published events say about one node. Its health is the latest word about it, and
from one state of a registry to a later one it comes, goes or changes only with an event
about it. A node that has left never comes back under its number.
-/

import CqlDriver.Proofs.Cluster.Log

namespace CqlDriver

namespace NodeEvent

/-- What the event says of the health of its node: nothing, that there is none any more, or
what it is. -/
def health? : NodeEvent → Option (Option NodeState)
  | .added _ => some (some .unknown)
  | .removed _ => some none
  | .stateChanged _ _ new => some (some new)
  | .distanceChanged .. => none

def lastWord (id : NodeId) : List NodeEvent → Option NodeState
  | [] => none
  | event :: earlier =>
      if event.node.id = id then event.health?.getD (lastWord id earlier)
      else lastWord id earlier

def Overtakes (id : NodeId) (event : NodeEvent) : Prop :=
  event.node.id = id ∧ event.health? ≠ none

def TellsDown (id : NodeId) (event : NodeEvent) : Prop :=
  event.node.id = id ∧ event.health? = some (some .down)

variable {id : NodeId} {event : NodeEvent} {newer older : List NodeEvent}
  {health : Option NodeState}

theorem lastWord_of_told (here : event.node.id = id) (told : event.health? = some health) :
    lastWord id (event :: older) = health := by
  rw [lastWord, if_pos here, told, Option.getD_some]

theorem lastWord_of_quiet (quiet : ¬event.Overtakes id) :
    lastWord id (event :: older) = lastWord id older := by
  rw [lastWord]
  by_cases here : event.node.id = id
  · have silent : event.health? = none := Decidable.byContradiction fun told => quiet ⟨here, told⟩
    rw [if_pos here, silent, Option.getD_none]
  · exact if_neg here

theorem lastWord_append_of_quiet (quiet : ∀ event ∈ newer, ¬event.Overtakes id) :
    lastWord id (newer ++ older) = lastWord id older := by
  induction newer with
  | nil => rfl
  | cons event rest ih =>
      obtain ⟨first, others⟩ := List.forall_mem_cons.mp quiet
      rw [List.cons_append, lastWord_of_quiet first]
      exact ih others

/-- A word that was not the last one before came with one of the newer events. -/
theorem lastWord_append (health : Option NodeState)
    (last : lastWord id (newer ++ older) = health) :
    lastWord id older = health ∨
      ∃ event ∈ newer, event.node.id = id ∧ event.health? = some health := by
  induction newer with
  | nil => exact Or.inl last
  | cons event rest ih =>
      rw [List.cons_append] at last
      by_cases overtakes : event.Overtakes id
      · obtain ⟨here, told⟩ := overtakes
        obtain ⟨said, word⟩ := Option.ne_none_iff_exists'.mp told
        rw [lastWord_of_told here word] at last
        rw [last] at word
        exact Or.inr ⟨event, List.mem_cons_self, here, word⟩
      · rw [lastWord_of_quiet overtakes] at last
        refine (ih last).imp_right ?_
        rintro ⟨told, member, tells⟩
        exact ⟨told, List.mem_cons_of_mem event member, tells⟩

theorem eq_removed (said : event.health? = some none) : event = .removed event.node := by
  cases event with
  | removed node => rfl
  | added node => cases said
  | stateChanged node old new => cases said
  | distanceChanged node old new => cases said

end NodeEvent

namespace NodeRegistry

variable {registry before between after : NodeRegistry} {id : NodeId}
  {newer latest : List NodeEvent}

theorem Move.nextNumber_le {event? : Option NodeEvent} (move : before.Move event? after) :
    before.nextNumber ≤ after.nextNumber := by
  cases move with
  | join distance absent => exact Nat.le_succ before.nextNumber
  | rest | refresh found | leave found | redistance found other | restate found allowed =>
      exact Nat.le_refl before.nextNumber

/-- No event about a node, no change of what a follower knows of it. -/
theorem Move.view_of_other {event? : Option NodeEvent} (move : before.Move event? after)
    (sound : before.Sound) (unheard : ∀ event, event? = some event → event.node.id ≠ id) :
    after.snapshot.view id = before.snapshot.view id := by
  cases event? with
  | none => rw [move.view_eq sound]
  | some event =>
      have same := (move.describes sound).1 id (unheard event rfl).symm
      exact congrArg (Option.map Node.view) same

theorem get?_eq_none_iff_view : registry.get? id = none ↔ registry.snapshot.view id = none :=
  Option.map_eq_none_iff.symm

theorem state_eq_of_view (same : after.snapshot.view id = before.snapshot.view id) :
    (after.get? id).map Node.state = (before.get? id).map Node.state := by
  have states (one : NodeRegistry) :
      (one.get? id).map Node.state = (one.snapshot.view id).map NodeView.state :=
    (Option.map_map NodeView.state Node.view (one.get? id)).symm
  rw [states, states, same]

structure Since (before : NodeRegistry) (newer : List NodeEvent) (after : NodeRegistry) :
    Prop where
  published : after.published = newer ++ before.published
  numbered : before.nextNumber ≤ after.nextNumber
  joined : ∀ id, before.get? id = none → after.get? id ≠ none →
    ∃ node, NodeEvent.added node ∈ newer ∧ node.id = id
  left : ∀ id, before.get? id ≠ none → after.get? id = none →
    ∃ node, NodeEvent.removed node ∈ newer ∧ node.id = id
  unheard : ∀ id, (∀ event ∈ newer, event.node.id ≠ id) →
    after.snapshot.view id = before.snapshot.view id
  gone : ∀ id, id.number < before.nextNumber → before.get? id = none → after.get? id = none

theorem Since.refl (registry : NodeRegistry) : Since registry [] registry where
  published := rfl
  numbered := Nat.le_refl registry.nextNumber
  joined := fun _ absent present => absurd absent present
  left := fun _ present absent => absurd absent present
  unheard := fun _ _ => rfl
  gone := fun _ _ absent => absent

theorem Since.trans (first : Since before newer between) (second : Since between latest after) :
    Since before (latest ++ newer) after where
  published := by rw [second.published, first.published, List.append_assoc]
  numbered := Nat.le_trans first.numbered second.numbered
  joined := by
    intro id absent present
    by_cases midway : between.get? id = none
    · obtain ⟨node, member, same⟩ := second.joined id midway present
      exact ⟨node, List.mem_append_left newer member, same⟩
    · obtain ⟨node, member, same⟩ := first.joined id absent midway
      exact ⟨node, List.mem_append_right latest member, same⟩
  left := by
    intro id present absent
    by_cases midway : between.get? id = none
    · obtain ⟨node, member, same⟩ := first.left id present midway
      exact ⟨node, List.mem_append_right latest member, same⟩
    · obtain ⟨node, member, same⟩ := second.left id midway absent
      exact ⟨node, List.mem_append_left newer member, same⟩
  unheard := by
    intro id silent
    rw [second.unheard id fun event member => silent event (List.mem_append_left newer member),
      first.unheard id fun event member => silent event (List.mem_append_right latest member)]
  gone := by
    intro id old absent
    exact second.gone id (Nat.lt_of_lt_of_le old first.numbered) (first.gone id old absent)

theorem Move.since {event? : Option NodeEvent} (move : before.Move event? after)
    (sound : before.Sound) : Since before event?.toList after := by
  have others : ∀ id, (∀ event ∈ event?.toList, event.node.id ≠ id) →
      after.snapshot.view id = before.snapshot.view id := by
    intro id silent
    exact move.view_of_other sound fun event told =>
      silent event (Option.mem_toList.mpr told)
  have heard (id : NodeId) (changed : after.snapshot.view id ≠ before.snapshot.view id) :
      ∃ event, event? = some event ∧ event.node.id = id := by
    cases event? with
    | none => exact absurd (others id fun _ member => nomatch member) changed
    | some event =>
        refine ⟨event, rfl, Decidable.byContradiction fun other => changed ?_⟩
        exact others id fun told member => by
          rw [List.mem_singleton.mp member]
          exact other
  have joined : ∀ id, before.get? id = none → after.get? id ≠ none →
      ∃ node, NodeEvent.added node ∈ event?.toList ∧ node.id = id := by
    intro id absent present
    obtain ⟨event, told, here⟩ := heard id fun same =>
      present (get?_eq_none_iff_view.mpr (same.trans (get?_eq_none_iff_view.mp absent)))
    subst told here
    obtain ⟨_, change⟩ := move.describes sound
    cases event with
    | added node => exact ⟨node, List.mem_cons_self, rfl⟩
    | removed node => exact absurd (absent.symm.trans change.1) nofun
    | stateChanged node old new => exact absurd (absent.symm.trans change.1) nofun
    | distanceChanged node old new => exact absurd (absent.symm.trans change.1) nofun
  refine ⟨move.published_eq, move.nextNumber_le, joined, ?_, others, ?_⟩
  · intro id present absent
    obtain ⟨event, told, here⟩ := heard id fun same =>
      present (get?_eq_none_iff_view.mpr (same.symm.trans (get?_eq_none_iff_view.mp absent)))
    subst told here
    obtain ⟨_, change⟩ := move.describes sound
    cases event with
    | removed node => exact ⟨node, List.mem_cons_self, rfl⟩
    | added node => exact absurd (absent.symm.trans change.2.1) nofun
    | stateChanged node old new => exact absurd (absent.symm.trans change.2.1) nofun
    | distanceChanged node old new => exact absurd (absent.symm.trans change.2.1) nofun
  · intro id old absent
    refine Decidable.byContradiction fun present => ?_
    obtain ⟨node, member, same⟩ := joined id absent present
    cases event? with
    | none => cases member
    | some event =>
        cases move with
        | join distance absentThere =>
            cases List.mem_singleton.mp member
            rw [← same] at old
            exact Nat.lt_irrefl before.nextNumber old
        | leave found => cases List.mem_singleton.mp member
        | redistance found other => cases List.mem_singleton.mp member
        | restate found allowed => cases List.mem_singleton.mp member

structure Heard (registry : NodeRegistry) : Prop where
  sound : registry.Sound
  lastWord_eq : ∀ id, (registry.get? id).map Node.state =
    NodeEvent.lastWord id registry.published
  numbered : ∀ event ∈ registry.published, event.node.id.number < registry.nextNumber
  departed : ∀ node, NodeEvent.removed node ∈ registry.published → registry.get? node.id = none

theorem heard_empty : empty.Heard :=
  ⟨sound_empty, fun _ => rfl, fun _ member => absurd member List.not_mem_nil,
    fun _ member => absurd member List.not_mem_nil⟩

theorem Move.lastWord_eq {event : NodeEvent} (move : before.Move (some event) after)
    (heard : before.Heard) (id : NodeId) :
    (after.get? id).map Node.state = NodeEvent.lastWord id (event :: before.published) := by
  obtain ⟨others, change⟩ := move.describes heard.sound
  by_cases here : event.node.id = id
  · subst here
    cases event with
    | added node =>
        obtain ⟨_, present, fresh⟩ := change
        rw [NodeEvent.lastWord_of_told rfl rfl, ← fresh]
        exact congrArg (Option.map Node.state) present
    | removed node =>
        rw [NodeEvent.lastWord_of_told rfl rfl]
        exact congrArg (Option.map Node.state) change.2
    | stateChanged node old new =>
        obtain ⟨_, present, isNew, _⟩ := change
        rw [NodeEvent.lastWord_of_told rfl rfl, ← isNew]
        exact congrArg (Option.map Node.state) present
    | distanceChanged node old new =>
        obtain ⟨earlier, present, _⟩ := change
        rw [NodeEvent.lastWord_of_quiet fun word => word.2 rfl, ← heard.lastWord_eq]
        exact (congrArg (Option.map Node.state) present).trans
          (congrArg (Option.map Node.state) earlier).symm
  · rw [NodeEvent.lastWord_of_quiet fun word => here word.1, ← heard.lastWord_eq]
    exact congrArg (Option.map Node.state) (others id (Ne.symm here))

theorem Move.heard {event? : Option NodeEvent} (move : before.Move event? after)
    (heard : before.Heard) : after.Heard := by
  have sound := move.sound heard.sound
  have since := move.since heard.sound
  have older : ∀ event ∈ before.published, event.node.id.number < after.nextNumber :=
    fun event member => Nat.lt_of_lt_of_le (heard.numbered event member) since.numbered
  have departed : ∀ node, NodeEvent.removed node ∈ before.published →
      after.get? node.id = none :=
    fun node member => since.gone node.id (heard.numbered _ member) (heard.departed node member)
  cases event? with
  | none =>
      have same : after.published = before.published := move.published_eq
      refine ⟨sound, ?_, ?_, ?_⟩
      · intro id
        rw [same, ← heard.lastWord_eq]
        exact state_eq_of_view (move.view_of_other heard.sound fun _ told => nomatch told)
      · rw [same]
        exact older
      · rw [same]
        exact departed
  | some event =>
      have published : after.published = event :: before.published := move.published_eq
      obtain ⟨_, change⟩ := move.describes heard.sound
      refine ⟨sound, ?_, ?_, ?_⟩
      · intro id
        rw [published]
        exact move.lastWord_eq heard id
      · rw [published]
        refine List.forall_mem_cons.mpr ⟨?_, older⟩
        cases event with
        | added node => exact sound.fresh change.2.1
        | removed node =>
            exact Nat.lt_of_lt_of_le (heard.sound.fresh change.1) since.numbered
        | stateChanged node old new => exact sound.fresh change.2.1
        | distanceChanged node old new => exact sound.fresh change.2.1
      · intro node member
        rw [published] at member
        rcases List.mem_cons.mp member with latest | earlier
        · subst latest
          exact change.2
        · exact departed node earlier

theorem Heard.performAll (heard : registry.Heard) (operations : List RegistryOperation) :
    (registry.performAll operations).Heard :=
  performAll_keeps Move.heard heard operations

theorem Sound.exists_since (sound : registry.Sound) (operations : List RegistryOperation) :
    ∃ newer, Since registry newer (registry.performAll operations) := by
  have both : (registry.performAll operations).Sound ∧
      ∃ newer, Since registry newer (registry.performAll operations) := by
    refine performAll_keeps
      (motive := fun later => later.Sound ∧ ∃ newer, Since registry newer later) ?_
      ⟨sound, [], Since.refl registry⟩ operations
    rintro before after event? move ⟨soundBefore, newer, since⟩
    exact ⟨move.sound soundBefore, _, since.trans (move.since soundBefore)⟩
  exact both.2

/-- What made a node be down is the latest word about it. -/
theorem Heard.down_cases (heard : before.Heard) (later : after.Heard)
    (since : Since before newer after) {node : Node} (found : after.get? id = some node)
    (isDown : node.state = .down) :
    (∃ earlier, before.get? id = some earlier ∧ earlier.state = .down) ∨
      ∃ event ∈ newer, event.TellsDown id := by
  have word := later.lastWord_eq id
  rw [found, since.published, Option.map_some, isDown] at word
  refine (NodeEvent.lastWord_append _ word.symm).imp_left fun earlier => ?_
  exact Option.map_eq_some_iff.mp ((heard.lastWord_eq id).trans earlier)

end NodeRegistry

end CqlDriver

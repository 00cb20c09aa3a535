/-
A node that was switched off by hand stays off through everything that happens by itself:
events that servers push, lists of nodes, and what pools say about their connections. The
one way out, besides switching it on, is that the node is taken out of the registry: what
is added under its address afterwards is another node.
-/

import CqlDriver.Proofs.Session.Updates

namespace CqlDriver

/-- What happens to the registry of a session without a call of its user. Where a monitor
takes its time to answer, the description is taken in later, by itself. -/
inductive Occurrence where
  | pushed (distanceOf : NodeInfo → Distance) (monitor : TopologyMonitor) (event : ServerEvent)
  | listed (distanceOf : NodeInfo → Distance) (infos : List NodeInfo)
  | announced (info : NodeInfo) (distance : Distance)
  | described (distanceOf : NodeInfo → Distance) (info : NodeInfo)
  | reached (id : NodeId)
  | lost (id : NodeId)

/-- The node at the address is taken out of the registry: an event says so, or a list of
nodes is without it. -/
def Occurrence.removes (address : SocketAddress) : Occurrence → Bool
  | .pushed _ _ (.topology .removedNode other) => other = address
  | .listed _ infos => !infos.isEmpty && !infos.any fun info => decide (info.address = address)
  | _ => false

namespace NodeRegistry

def undergo (registry : NodeRegistry) : Occurrence → NodeRegistry
  | .pushed distanceOf monitor event => registry.onEvent distanceOf monitor event
  | .listed distanceOf infos => registry.refreshNodes distanceOf infos
  | .announced info distance => (registry.addNode info distance).2
  | .described distanceOf info => registry.applyInfo distanceOf info
  | .reached id => (registry.signalUp id).2
  | .lost id => (registry.signalDown id).2

def undergoAll (registry : NodeRegistry) (occurrences : List Occurrence) : NodeRegistry :=
  occurrences.foldl undergo registry

structure SwitchedOff (address : SocketAddress) (id : NodeId) (registry : NodeRegistry) :
    Prop where
  sound : registry.Sound
  off : ∃ node, registry.get? id = some node ∧ node.address = address ∧ node.state = .forcedDown

variable {registry : NodeRegistry} {address : SocketAddress} {id : NodeId}

namespace SwitchedOff

theorem atAddress? (kept : registry.SwitchedOff address id) :
    ∃ node, registry.atAddress? address = some node ∧ node.id = id ∧
      node.state = .forcedDown := by
  obtain ⟨node, found, here, off⟩ := kept.off
  have itself := kept.sound.id_eq found
  rw [← itself] at found
  exact ⟨node, kept.sound.atAddress?_iff.mpr ⟨found, here⟩, itself, off⟩

theorem addNode (kept : registry.SwitchedOff address id) (info : NodeInfo)
    (distance : Distance) : (registry.addNode info distance).2.SwitchedOff address id := by
  cases present : registry.atAddress? info.address with
  | some node =>
      rw [addNode_of_present present]
      exact kept
  | none =>
      obtain ⟨node, found, stays⟩ := kept.off
      exact ⟨kept.sound.addNode info distance, node,
        kept.sound.get?_addNode_old present distance found, stays⟩

theorem removeNode (kept : registry.SwitchedOff address id) {gone : SocketAddress}
    (elsewhere : gone ≠ address) : (registry.removeNode gone).2.SwitchedOff address id := by
  obtain ⟨node, found, here, off⟩ := kept.off
  refine ⟨kept.sound.removeNode gone, node, ?_, here, off⟩
  exact (kept.sound.removeNode_iff gone).mpr ⟨found, here ▸ elsewhere.symm⟩

theorem transition (kept : registry.SwitchedOff address id) (other : NodeId)
    {allowed : NodeState → Option NodeState}
    (sound : (registry.transition other allowed).2.Sound)
    (confined : allowed .forcedDown = none) :
    (registry.transition other allowed).2.SwitchedOff address id := by
  obtain ⟨node, found, here, off⟩ := kept.off
  refine ⟨sound, node, ?_, here, off⟩
  rw [kept.sound.get?_transition, found, Option.bind_some, off, confined, Option.getD_none, ← off]
  exact congrArg some (ite_self node)

theorem signalUp (kept : registry.SwitchedOff address id) (other : NodeId) :
    (registry.signalUp other).2.SwitchedOff address id :=
  kept.transition other (kept.sound.perform (.signalUp other)) rfl

theorem signalDown (kept : registry.SwitchedOff address id) (other : NodeId) :
    (registry.signalDown other).2.SwitchedOff address id :=
  kept.transition other (kept.sound.perform (.signalDown other)) rfl

theorem applyInfo (kept : registry.SwitchedOff address id) (distanceOf : NodeInfo → Distance)
    (info : NodeInfo) : (registry.applyInfo distanceOf info).SwitchedOff address id := by
  cases present : registry.atAddress? info.address with
  | none =>
      rw [applyInfo_of_absent distanceOf present]
      exact kept.addNode info (distanceOf info)
  | some described =>
      obtain ⟨node, found, here, off⟩ := kept.off
      refine ⟨kept.sound.applyInfo distanceOf info, node.after distanceOf info, ?_, ?_, ?_⟩
      · rw [kept.sound.get?_applyInfo distanceOf present, found, Option.map_some]
      · rw [node.address_after, here]
      · rw [node.state_after, off]

theorem updated (kept : registry.SwitchedOff address id) {distanceOf : NodeInfo → Distance}
    {leaves : SocketAddress → Prop} {after : NodeRegistry}
    (updated : registry.Updated distanceOf leaves after) (stays : ¬leaves address) :
    after.SwitchedOff address id := by
  induction updated with
  | refl => exact kept
  | added _ info ih => exact ih.addNode info (distanceOf info)
  | described _ info ih => exact ih.applyInfo distanceOf info
  | left _ gone ih =>
      refine ih.removeNode ?_
      rintro rfl
      exact stays gone
  | up _ other ih => exact ih.signalUp other
  | down _ other ih => exact ih.signalDown other

theorem undergo (kept : registry.SwitchedOff address id) {occurrence : Occurrence}
    (unremoved : occurrence.removes address = false) :
    (registry.undergo occurrence).SwitchedOff address id := by
  cases occurrence with
  | pushed distanceOf monitor event =>
      refine kept.updated (updated_onEvent distanceOf monitor event registry) ?_
      rintro rfl
      exact of_decide_eq_false unremoved rfl
  | listed distanceOf infos =>
      refine kept.updated (updated_refreshNodes distanceOf registry infos) ?_
      rintro ⟨told, unlisted⟩
      simp [Occurrence.removes, told, mt listed_iff.mp unlisted] at unremoved
  | announced info distance => exact kept.addNode info distance
  | described distanceOf info => exact kept.applyInfo distanceOf info
  | reached other => exact kept.signalUp other
  | lost other => exact kept.signalDown other

theorem undergoAll (kept : registry.SwitchedOff address id) {occurrences : List Occurrence}
    (unremoved : ∀ occurrence ∈ occurrences, occurrence.removes address = false) :
    (registry.undergoAll occurrences).SwitchedOff address id := by
  induction occurrences generalizing registry with
  | nil => exact kept
  | cons occurrence rest ih =>
      obtain ⟨first, later⟩ := List.forall_mem_cons.mp unremoved
      exact ih (kept.undergo first) later

end SwitchedOff

/-- In every state that a registry comes to, a node that is off stays there and stays off
through all that happens without a call of the user, as long as the node is not taken out;
no other node has its address meanwhile. -/
theorem off_until_taken_out {operations : List RegistryOperation} {address : SocketAddress}
    {node : Node} (found : (empty.performAll operations).atAddress? address = some node)
    (off : node.state = .forcedDown) {occurrences : List Occurrence}
    (unremoved : ∀ occurrence ∈ occurrences, occurrence.removes address = false) :
    let later := (empty.performAll operations).undergoAll occurrences
    (∃ present, later.atAddress? address = some present ∧ present.id = node.id ∧
      present.state = .forcedDown) ∧
    ∀ id present, later.get? id = some present → present.address = address →
      present.state = .forcedDown := by
  intro later
  have sound := sound_empty.performAll operations
  obtain ⟨there, here⟩ := sound.snapshot.indexed.of_atAddress? found
  have kept : later.SwitchedOff address node.id :=
    SwitchedOff.undergoAll ⟨sound, node, there, here, off⟩ unremoved
  refine ⟨kept.atAddress?, ?_⟩
  intro id present holds atAddress
  obtain ⟨offNode, leads, itsAddress, stillOff⟩ := kept.off
  have one := kept.sound.snapshot.indexed.eq_of_address_eq holds leads
    (atAddress.trans itsAddress.symm)
  rw [one]
  exact stillOff

def offAddress : SocketAddress := { ip := .ofParts 10 0 0 1, port := 9042 }

def switchingOff : List RegistryOperation :=
  [.addNode { address := offAddress } .localDc, .signalUp ⟨1⟩, .forceDown ⟨1⟩]

def allLocal : NodeInfo → Distance := fun _ => .localDc

def openMonitor : TopologyMonitor := NodeDirectory.monitor {}

def offNode : Node :=
  { id := ⟨1⟩, info := { address := offAddress }, state := .forcedDown, distance := .localDc }

/-- The servers say that the node moved and that it is up, a list names it, its pool has
opened a connection, and it is announced once more. -/
def rumours : List Occurrence :=
  [.pushed allLocal openMonitor (.topology .movedNode offAddress),
    .pushed allLocal openMonitor (.status .up offAddress),
    .listed allLocal [{ address := offAddress, rack := some "r1" }],
    .reached ⟨1⟩,
    .pushed allLocal openMonitor (.topology .newNode offAddress)]

theorem off_through_rumours :
    (empty.performAll switchingOff).atAddress? offAddress = some offNode ∧
      ∃ present,
        ((empty.performAll switchingOff).undergoAll rumours).atAddress? offAddress =
            some present ∧
          present.state = .forcedDown := by
  have found : (empty.performAll switchingOff).atAddress? offAddress = some offNode := rfl
  have unremoved : ∀ occurrence ∈ rumours, occurrence.removes offAddress = false := by decide
  obtain ⟨⟨present, there, _, off⟩, _⟩ := off_until_taken_out found rfl unremoved
  exact ⟨found, present, there, off⟩

/-- A node that was off and is reported removed and new is another node, and up as soon as
its pool has a connection, although nobody switched it on. -/
theorem replaced_node_is_up :
    let before := empty.performAll switchingOff
    let removedAndNew : List Occurrence :=
      [.pushed allLocal openMonitor (.topology .removedNode offAddress),
        .pushed allLocal openMonitor (.topology .newNode offAddress), .reached ⟨2⟩]
    (before.atAddress? offAddress).map Node.state = some .forcedDown ∧
      ((before.undergoAll removedAndNew).atAddress? offAddress).map Node.state = some .up :=
  ⟨rfl, rfl⟩

end NodeRegistry

end CqlDriver

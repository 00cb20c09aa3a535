/-
What can happen to the registry. Every operation but the clearing is one move: nothing, or
one node that joins, leaves, becomes known better, or changes its distance or its health.
A move says in full what it does and which event it publishes. The clearing is a series of
removals.
-/

import CqlDriver.Cluster.Registry

namespace CqlDriver

/-- The changes of health. A node that was switched off by hand is not heard of until it
is switched on by hand. -/
def NodeState.canBecome : NodeState → NodeState → Bool
  | .unknown, .up | .down, .up => true
  | .up, .down | .unknown, .down => true
  | .unknown, .forcedDown | .up, .forcedDown | .down, .forcedDown => true
  | .forcedDown, .unknown => true
  | _, _ => false

inductive RegistryOperation where
  | addNode (info : NodeInfo) (distance : Distance)
  | refreshNode (info : NodeInfo)
  | removeNode (address : SocketAddress)
  | setDistance (id : NodeId) (distance : Distance)
  | signalUp (id : NodeId)
  | signalDown (id : NodeId)
  | forceDown (id : NodeId)
  | forceUp (id : NodeId)
  | clear

def RegistryOperation.adjusts : RegistryOperation → Bool
  | .setDistance .. | .signalUp _ | .signalDown _ | .forceDown _ | .forceUp _ => true
  | .addNode .. | .refreshNode _ | .removeNode _ | .clear => false

inductive RegistryAnswer where
  | node (node : Node)
  | removed (node : Option Node)
  | changed (changed : Bool)
  | done

namespace NodeRegistry

def perform (registry : NodeRegistry) : RegistryOperation → RegistryAnswer × NodeRegistry
  | .addNode info distance =>
      let (node, registry) := registry.addNode info distance
      (.node node, registry)
  | .refreshNode info =>
      let (changed, registry) := registry.refreshNode info
      (.changed changed, registry)
  | .removeNode address =>
      let (node, registry) := registry.removeNode address
      (.removed node, registry)
  | .setDistance id distance =>
      let (changed, registry) := registry.setDistance id distance
      (.changed changed, registry)
  | .signalUp id =>
      let (changed, registry) := registry.signalUp id
      (.changed changed, registry)
  | .signalDown id =>
      let (changed, registry) := registry.signalDown id
      (.changed changed, registry)
  | .forceDown id =>
      let (changed, registry) := registry.forceDown id
      (.changed changed, registry)
  | .forceUp id =>
      let (changed, registry) := registry.forceUp id
      (.changed changed, registry)
  | .clear => (.done, registry.clear)

def performAll (registry : NodeRegistry) (operations : List RegistryOperation) : NodeRegistry :=
  operations.foldl (fun registry operation => (registry.perform operation).2) registry

inductive Move (registry : NodeRegistry) : Option NodeEvent → NodeRegistry → Prop
  | rest : Move registry none registry
  | join {info : NodeInfo} (distance : Distance)
      (absent : registry.atAddress? info.address = none) :
      Move registry (some (.added (registry.newcomer info distance)))
        ({ registry with nextNumber := registry.nextNumber + 1 }.publish
          (registry.snapshot.join (registry.newcomer info distance))
          (.added (registry.newcomer info distance)))
  | refresh {node : Node} {info : NodeInfo}
      (found : registry.atAddress? info.address = some node) :
      Move registry none { registry with snapshot := registry.snapshot.refresh node info }
  | leave {node : Node} {address : SocketAddress}
      (found : registry.atAddress? address = some node) :
      Move registry (some (.removed node))
        (registry.publish (registry.snapshot.leave address node) (.removed node))
  | redistance {node : Node} {id : NodeId} {distance : Distance}
      (found : registry.get? id = some node) (other : node.distance ≠ distance) :
      Move registry (some (.distanceChanged { node with distance } node.distance distance))
        (registry.publish (registry.snapshot.putNode { node with distance })
          (.distanceChanged { node with distance } node.distance distance))
  | restate {node : Node} {id : NodeId} {state : NodeState}
      (found : registry.get? id = some node) (allowed : node.state.canBecome state = true) :
      Move registry (some (.stateChanged { node with state } node.state state))
        (registry.publish (registry.snapshot.putNode { node with state })
          (.stateChanged { node with state } node.state state))

inductive Performed (registry : NodeRegistry) :
    RegistryOperation → RegistryAnswer → NodeRegistry → Prop
  | present {info : NodeInfo} {distance : Distance} {existing : Node}
      (found : registry.atAddress? info.address = some existing) :
      Performed registry (.addNode info distance) (.node existing) registry
  | added {info : NodeInfo} {distance : Distance} {after : NodeRegistry}
      (move : registry.Move (some (.added (registry.newcomer info distance))) after) :
      Performed registry (.addNode info distance) (.node (registry.newcomer info distance)) after
  | known {info : NodeInfo} : Performed registry (.refreshNode info) (.changed false) registry
  | refreshed {info : NodeInfo} {after : NodeRegistry} (move : registry.Move none after) :
      Performed registry (.refreshNode info) (.changed true) after
  | missing {address : SocketAddress} :
      Performed registry (.removeNode address) (.removed none) registry
  | removed {address : SocketAddress} {node : Node} {after : NodeRegistry}
      (move : registry.Move (some (.removed node)) after) :
      Performed registry (.removeNode address) (.removed (some node)) after
  | ignored {operation : RegistryOperation} (adjusts : operation.adjusts = true) :
      Performed registry operation (.changed false) registry
  | adjusted {operation : RegistryOperation} (adjusts : operation.adjusts = true)
      {event : NodeEvent} {after : NodeRegistry} (move : registry.Move (some event) after) :
      Performed registry operation (.changed true) after

variable {registry after : NodeRegistry}

theorem Move.published_eq {event? : Option NodeEvent} (move : registry.Move event? after) :
    after.published = event?.toList ++ registry.published := by
  cases move with
  | rest => rfl
  | join distance absent => rfl
  | refresh found => rfl
  | leave found => rfl
  | redistance found other => rfl
  | restate found allowed => rfl

theorem Performed.move {operation : RegistryOperation} {answer : RegistryAnswer}
    (performed : registry.Performed operation answer after) :
    ∃ event?, registry.Move event? after := by
  cases performed with
  | present found => exact ⟨none, .rest⟩
  | added move => exact ⟨_, move⟩
  | known => exact ⟨none, .rest⟩
  | refreshed move => exact ⟨none, move⟩
  | missing => exact ⟨none, .rest⟩
  | removed move => exact ⟨_, move⟩
  | ignored adjusts => exact ⟨none, .rest⟩
  | adjusted adjusts move => exact ⟨_, move⟩

theorem addNode_performed (registry : NodeRegistry) (info : NodeInfo) (distance : Distance) :
    registry.Performed (.addNode info distance) (.node (registry.addNode info distance).1)
      (registry.addNode info distance).2 := by
  unfold addNode
  cases found : registry.atAddress? info.address with
  | some existing => exact .present found
  | none => exact .added (.join distance found)

theorem refreshNode_performed (registry : NodeRegistry) (info : NodeInfo) :
    registry.Performed (.refreshNode info) (.changed (registry.refreshNode info).1)
      (registry.refreshNode info).2 := by
  unfold refreshNode
  cases found : registry.atAddress? info.address with
  | none => exact .known
  | some current =>
      dsimp only
      by_cases same : current.info = info
      · rw [if_pos same]
        exact .known
      · rw [if_neg same]
        exact .refreshed (.refresh found)

theorem removeNode_performed (registry : NodeRegistry) (address : SocketAddress) :
    registry.Performed (.removeNode address) (.removed (registry.removeNode address).1)
      (registry.removeNode address).2 := by
  unfold removeNode
  cases found : registry.atAddress? address with
  | none => exact .missing
  | some node => exact .removed (.leave found)

theorem setDistance_performed (registry : NodeRegistry) (id : NodeId) (distance : Distance) :
    registry.Performed (.setDistance id distance) (.changed (registry.setDistance id distance).1)
      (registry.setDistance id distance).2 := by
  unfold setDistance
  cases found : registry.get? id with
  | none => exact .ignored rfl
  | some current =>
      dsimp only
      by_cases same : current.distance = distance
      · rw [if_pos same]
        exact .ignored rfl
      · rw [if_neg same]
        exact .adjusted rfl (.redistance found same)

theorem transition_performed (registry : NodeRegistry) (id : NodeId)
    {operation : RegistryOperation} (adjusts : operation.adjusts = true)
    {allowed : NodeState → Option NodeState}
    (lawful : ∀ {old new}, allowed old = some new → new ≠ old → old.canBecome new = true) :
    registry.Performed operation (.changed (registry.transition id allowed).1)
      (registry.transition id allowed).2 := by
  unfold transition
  cases found : registry.get? id with
  | none => exact .ignored adjusts
  | some current =>
      dsimp only
      cases permitted : allowed current.state with
      | none => exact .ignored adjusts
      | some state =>
          dsimp only
          by_cases same : state = current.state
          · rw [if_pos same]
            exact .ignored adjusts
          · rw [if_neg same]
            exact .adjusted adjusts (.restate found (lawful permitted same))

theorem canBecome_of_allowUp {old new : NodeState} (allowed : allowUp old = some new) :
    old.canBecome new = true := by
  cases old with
  | unknown | down =>
      cases allowed
      rfl
  | up | forcedDown => cases allowed

theorem canBecome_of_allowDown {old new : NodeState} (allowed : allowDown old = some new) :
    old.canBecome new = true := by
  cases old with
  | unknown | up =>
      cases allowed
      rfl
  | down | forcedDown => cases allowed

theorem canBecome_of_allowForceDown {old new : NodeState}
    (allowed : allowForceDown old = some new) (other : new ≠ old) :
    old.canBecome new = true := by
  cases allowed
  cases old with
  | unknown | up | down => rfl
  | forcedDown => exact absurd rfl other

theorem canBecome_of_allowForceUp {old new : NodeState} (allowed : allowForceUp old = some new) :
    old.canBecome new = true := by
  cases old with
  | forcedDown =>
      cases allowed
      rfl
  | unknown | up | down => cases allowed

theorem perform_performed (registry : NodeRegistry) {operation : RegistryOperation}
    (single : operation ≠ .clear) :
    registry.Performed operation (registry.perform operation).1 (registry.perform operation).2 := by
  cases operation with
  | addNode info distance => exact addNode_performed registry info distance
  | refreshNode info => exact refreshNode_performed registry info
  | removeNode address => exact removeNode_performed registry address
  | setDistance id distance => exact setDistance_performed registry id distance
  | signalUp id =>
      exact transition_performed registry id rfl fun allowed _ => canBecome_of_allowUp allowed
  | signalDown id =>
      exact transition_performed registry id rfl fun allowed _ => canBecome_of_allowDown allowed
  | forceDown id => exact transition_performed registry id rfl canBecome_of_allowForceDown
  | forceUp id =>
      exact transition_performed registry id rfl fun allowed _ => canBecome_of_allowForceUp allowed
  | clear => exact absurd rfl single

theorem performAll_append (registry : NodeRegistry) (first second : List RegistryOperation) :
    registry.performAll (first ++ second) = (registry.performAll first).performAll second :=
  List.foldl_append

def removals (registry : NodeRegistry) : List RegistryOperation :=
  registry.snapshot.nodeList.map fun node => .removeNode node.address

theorem clear_eq_removals (registry : NodeRegistry) :
    registry.clear = registry.performAll registry.removals := by
  unfold clear performAll removals
  rw [List.foldl_map]
  rfl

/-- A run does the same with the removals in the place of each clearing. -/
theorem exists_single_operations (registry : NodeRegistry) (operations : List RegistryOperation) :
    ∃ singles, (∀ operation ∈ singles, operation ≠ .clear) ∧
      registry.performAll operations = registry.performAll singles := by
  induction operations generalizing registry with
  | nil => exact ⟨[], nofun, rfl⟩
  | cons operation rest ih =>
      obtain ⟨singles, single, same⟩ := ih (registry.perform operation).2
      by_cases clears : operation = .clear
      · refine ⟨registry.removals ++ singles, ?_, ?_⟩
        · intro operation member
          rcases List.mem_append.mp member with removal | later
          · obtain ⟨node, _, isRemoval⟩ := List.mem_map.mp removal
            rw [← isRemoval]
            nofun
          · exact single operation later
        · rw [performAll_append, ← clear_eq_removals]
          rw [clears] at same ⊢
          exact same
      · refine ⟨operation :: singles, ?_, same⟩
        intro other member
        rcases List.mem_cons.mp member with first | later
        · rw [first]
          exact clears
        · exact single other later

/-- What every move keeps, operations keep. -/
theorem performAll_keeps {motive : NodeRegistry → Prop}
    (keeps : ∀ {before after : NodeRegistry} {event? : Option NodeEvent},
      before.Move event? after → motive before → motive after)
    (start : motive registry) (operations : List RegistryOperation) :
    motive (registry.performAll operations) := by
  obtain ⟨singles, single, same⟩ := exists_single_operations registry operations
  rw [same]
  clear same
  induction singles generalizing registry with
  | nil => exact start
  | cons operation rest ih =>
      obtain ⟨first, later⟩ := List.forall_mem_cons.mp single
      obtain ⟨event?, move⟩ := (perform_performed registry first).move
      exact ih (keeps move start) later

end NodeRegistry

end CqlDriver

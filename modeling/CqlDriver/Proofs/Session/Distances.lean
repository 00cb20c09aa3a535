/-
How near the nodes of a session are. A distance is set where a description comes in, by a
policy that is told of its datacenter before the first node is known and never again. So
each node has the distance of its latest description, whatever happens and in whatever order.
-/

import CqlDriver.Proofs.Session.Updates

namespace CqlDriver

/-- What touches the nodes of a session: how it begins, what servers and pools say, what its
user does, and the plans it makes. Where a monitor takes its time to answer, the description
is taken in later, by itself. -/
inductive SessionOperation where
  | discovered (reached : SocketAddress) (infos : List NodeInfo)
  | pushed (monitor : TopologyMonitor) (event : ServerEvent)
  | announced (info : NodeInfo)
  | described (info : NodeInfo)
  | listed (infos : List NodeInfo)
  | connected (id : NodeId)
  | lost (id : NodeId)
  | switchedOff (address : SocketAddress)
  | switchedOn (address : SocketAddress)
  | forgotten (address : SocketAddress)
  | planned (token : Option Token)

namespace NodeRegistry

def signalAt (address : SocketAddress) (signal : NodeId → RegistryOperation)
    (registry : NodeRegistry) : NodeRegistry :=
  match registry.atAddress? address with
  | none => registry
  | some node => (registry.perform (signal node.id)).2

/-- A plan is made from the registry, and changes nothing in it. -/
def operate (distanceOf : NodeInfo → Distance) (registry : NodeRegistry) :
    SessionOperation → NodeRegistry
  | .discovered reached infos => registry.fill distanceOf reached (withReached reached infos)
  | .pushed monitor event => registry.onEvent distanceOf monitor event
  | .announced info => (registry.addNode info (distanceOf info)).2
  | .described info => registry.applyInfo distanceOf info
  | .listed infos => registry.refreshNodes distanceOf infos
  | .connected id => (registry.signalUp id).2
  | .lost id => (registry.signalDown id).2
  | .switchedOff address => registry.signalAt address .forceDown
  | .switchedOn address => registry.signalAt address .forceUp
  | .forgotten address => (registry.removeNode address).2
  | .planned _ => registry

variable {registry : NodeRegistry} {distanceOf : NodeInfo → Distance} {info : NodeInfo}

structure Placed (distanceOf : NodeInfo → Distance) (registry : NodeRegistry) : Prop where
  sound : registry.Sound
  right : ∀ {id node}, registry.get? id = some node → node.distance = distanceOf node.info

theorem placed_empty (distanceOf : NodeInfo → Distance) : empty.Placed distanceOf :=
  ⟨sound_empty, nofun⟩

namespace Placed

theorem signal (placed : registry.Placed distanceOf) (signal : RegistryOperation)
    (isSignal : signal.isSignal = true) : (registry.perform signal).2.Placed distanceOf := by
  refine ⟨placed.sound.perform signal, fun {id node} found => ?_⟩
  have known := placed.sound.knowledge_signal signal isSignal id
  rw [knowledge_of_get? found] at known
  obtain ⟨old, before, sameInfo, sameDistance⟩ := exists_of_knowledge known.symm
  rw [← sameDistance, ← sameInfo]
  exact placed.right before

theorem signalAt (placed : registry.Placed distanceOf) (address : SocketAddress)
    {signal : NodeId → RegistryOperation} (isSignal : ∀ id, (signal id).isSignal = true) :
    (registry.signalAt address signal).Placed distanceOf := by
  unfold NodeRegistry.signalAt
  split
  · exact placed
  · exact placed.signal _ (isSignal _)

theorem addNode (placed : registry.Placed distanceOf) (info : NodeInfo) :
    (registry.addNode info (distanceOf info)).2.Placed distanceOf := by
  refine ⟨placed.sound.addNode info (distanceOf info), fun {id node} found => ?_⟩
  cases here : registry.atAddress? info.address with
  | some present =>
      rw [addNode_of_present here] at found
      exact placed.right found
  | none =>
      rw [get?_addNode here] at found
      by_cases isNew : id = ⟨registry.nextNumber⟩
      · rw [if_pos isNew] at found
        cases found
        rfl
      · rw [if_neg isNew] at found
        exact placed.right found

theorem removeNode (placed : registry.Placed distanceOf) (address : SocketAddress) :
    (registry.removeNode address).2.Placed distanceOf :=
  ⟨placed.sound.removeNode address,
    fun found => placed.right ((placed.sound.removeNode_iff address).mp found).1⟩

theorem applyInfo (placed : registry.Placed distanceOf) (info : NodeInfo) :
    (registry.applyInfo distanceOf info).Placed distanceOf := by
  cases here : registry.atAddress? info.address with
  | none =>
      rw [applyInfo_of_absent distanceOf here]
      exact placed.addNode info
  | some present =>
      refine ⟨placed.sound.applyInfo distanceOf info, fun {id node} found => ?_⟩
      rw [placed.sound.get?_applyInfo distanceOf here] at found
      obtain ⟨old, before, rfl⟩ := Option.map_eq_some_iff.mp found
      by_cases itself : old.address = info.address
      · rw [Node.after_of_eq itself]
      · rw [Node.after_of_ne itself]
        exact placed.right before

theorem updated (placed : registry.Placed distanceOf) {leaves : SocketAddress → Prop}
    {after : NodeRegistry} (updated : registry.Updated distanceOf leaves after) :
    after.Placed distanceOf := by
  induction updated with
  | refl => exact placed
  | added _ info ih => exact ih.addNode info
  | described _ info ih => exact ih.applyInfo info
  | left _ gone ih => exact ih.removeNode _
  | up _ id ih => exact ih.signal (.signalUp id) rfl
  | down _ id ih => exact ih.signal (.signalDown id) rfl

theorem operate (placed : registry.Placed distanceOf) (operation : SessionOperation) :
    (registry.operate distanceOf operation).Placed distanceOf := by
  cases operation with
  | discovered reached infos =>
      exact placed.updated (updated_fill distanceOf registry reached (withReached reached infos))
  | pushed monitor event => exact placed.updated (updated_onEvent distanceOf monitor event registry)
  | announced info => exact placed.addNode info
  | described info => exact placed.applyInfo info
  | listed infos => exact placed.updated (updated_refreshNodes distanceOf registry infos)
  | connected id => exact placed.signal (.signalUp id) rfl
  | lost id => exact placed.signal (.signalDown id) rfl
  | switchedOff address => exact placed.signalAt address fun _ => rfl
  | switchedOn address => exact placed.signalAt address fun _ => rfl
  | forgotten address => exact placed.removeNode address
  | planned token => exact placed

end Placed

end NodeRegistry

theorem Balancing.distance_plan (balancing : Balancing) (token : Option Token)
    (snapshot : ClusterSnapshot) :
    (balancing.plan token snapshot).2.distance = balancing.distance := by
  unfold plan
  split
  · rfl
  · rfl

structure Membership where
  balancing : Balancing
  registry : NodeRegistry

namespace Membership

def start (balancing : Balancing) (datacenter : Option String) : Membership :=
  ⟨balancing.init datacenter, .empty⟩

def perform (membership : Membership) (operation : SessionOperation) : Membership :=
  { balancing :=
      match operation with
      | .planned token => (membership.balancing.plan token membership.registry.snapshot).2
      | _ => membership.balancing
    registry := membership.registry.operate membership.balancing.distance operation }

def performAll (membership : Membership) (operations : List SessionOperation) : Membership :=
  operations.foldl perform membership

theorem distance_perform (membership : Membership) (operation : SessionOperation) :
    (membership.perform operation).balancing.distance = membership.balancing.distance := by
  unfold perform
  cases operation with
  | planned token => exact membership.balancing.distance_plan token membership.registry.snapshot
  | _ => rfl

theorem placed_performAll {membership : Membership} {distanceOf : NodeInfo → Distance}
    (policy : membership.balancing.distance = distanceOf)
    (placed : membership.registry.Placed distanceOf) (operations : List SessionOperation) :
    (membership.performAll operations).balancing.distance = distanceOf ∧
      (membership.performAll operations).registry.Placed distanceOf := by
  induction operations generalizing membership with
  | nil => exact ⟨policy, placed⟩
  | cons operation rest ih =>
      refine ih ((distance_perform membership operation).trans policy) ?_
      subst policy
      exact placed.operate operation

/-- In every session the distances are those that its policy gives to what is known of the
nodes now, and a description that comes in counts at once. The policy itself stays as it was
at the start. -/
theorem distances_are_current (balancing : Balancing) (datacenter : Option String)
    (operations : List SessionOperation) :
    let session := (start balancing datacenter).performAll operations
    session.balancing.distance = (balancing.init datacenter).distance ∧
    (∀ id node, session.registry.get? id = some node →
      node.distance = session.balancing.distance node.info) ∧
    ∀ info, ∃ node,
      (session.perform (.described info)).registry.atAddress? info.address = some node ∧
        node.info = info ∧ node.distance = session.balancing.distance info := by
  intro session
  have told : (start balancing datacenter).balancing.distance =
      (balancing.init datacenter).distance := rfl
  obtain ⟨policy, placed⟩ := placed_performAll told (NodeRegistry.placed_empty _) operations
  refine ⟨policy, fun id node found => ?_, fun info => ?_⟩
  · exact (placed.right found).trans (congrFun policy.symm node.info)
  · exact placed.sound.atAddress?_applyInfo session.balancing.distance info

def movingAddress : SocketAddress := ⟨.ofParts 10 0 0 1, 9042, 0⟩

/-- A node of the first datacenter moves to the second one. Its pool gains and loses its
connections around that, and a plan is made in between. -/
def movingHouse : List SessionOperation :=
  let moved : NodeInfo := { address := movingAddress, datacenter := some "dc2" }
  [.discovered movingAddress [{ address := movingAddress, datacenter := some "dc1" }],
    .connected ⟨1⟩, .planned none,
    .pushed ⟨fun _ => none, fun _ => some moved⟩ (.topology .movedNode movingAddress),
    .lost ⟨1⟩]

theorem moved_node_is_remote :
    let session := (start {} (some "dc1")).performAll movingHouse
    let node : Node :=
      { id := ⟨1⟩, info := { address := movingAddress, datacenter := some "dc2" }, state := .down
        distance := .remote }
    session.registry.get? ⟨1⟩ = some node ∧
      node.distance = session.balancing.distance node.info ∧
      session.balancing.distance node.info = .remote := by
  intro session node
  have found : session.registry.get? ⟨1⟩ = some node := by decide
  obtain ⟨policy, current, _⟩ := distances_are_current {} (some "dc1") movingHouse
  exact ⟨found, current ⟨1⟩ node found, by rw [policy]; rfl⟩

end Membership

end CqlDriver

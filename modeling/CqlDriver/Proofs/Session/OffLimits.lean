/-
Nodes to which no connection is opened: those that are switched off by hand, and those that are
ignored. A pool of such a node shall have no channels, and a search for a control connection
passes the node by, also where no node is up and the plan names nobody.
-/

import CqlDriver.Proofs.Policy.Plans
import CqlDriver.Proofs.Pool.Emptying
import CqlDriver.Proofs.Session.ControlSearch

namespace CqlDriver

theorem Node.isEnabled_eq_false {node : Node} :
    node.isEnabled = false ↔ node.state = .forcedDown ∨ node.distance = .ignored := by
  simp only [isEnabled, decide_eq_false_iff_not]
  tauto

theorem Node.isEnabled_of_isRoutable {node : Node} (routable : node.isRoutable = true) :
    node.isEnabled = true := by
  simp only [isRoutable, isEnabled, decide_eq_true_eq] at routable ⊢
  simp [routable]

theorem PoolConfig.target_of_disabled {node : Node} (disabled : node.isEnabled = false)
    (config : PoolConfig) : config.target (some node) = 0 := by
  unfold target
  dsimp only
  rcases Node.isEnabled_eq_false.mp disabled with off | ignored
  · rw [off]
  · rw [ignored]
    cases node.state with
    | up | down | forcedDown | unknown => rfl

namespace NodeRegistry

open Simulation

/-- The candidates for a control connection are addresses of nodes that are enabled. -/
theorem exists_of_mem_controlCandidates {operations : List RegistryOperation}
    {balancing : Balancing} {address : SocketAddress}
    (candidate : address ∈
      (controlCandidates balancing (empty.performAll operations).snapshot).1) :
    ∃ node, (empty.performAll operations).get? node.id = some node ∧ node.isEnabled = true ∧
      node.address = address := by
  have sound := (sound_empty.performAll operations).snapshot
  have listed := nodeList_ascending operations
  have planned := Balancing.plan_eq sound.indexed listed sound.carries.ascending balancing none
  unfold controlCandidates at candidate
  generalize balancing.plan none _ = outcome at planned candidate
  obtain ⟨plan, counted⟩ := outcome
  cases plan with
  | nil =>
      obtain ⟨node, member, here⟩ := List.mem_map.mp candidate
      obtain ⟨known, allowed⟩ := List.mem_filter.mp member
      refine ⟨node, sound.indexed.mem_nodeList.mp known, ?_, here⟩
      simp only [Bool.and_eq_true, decide_eq_true_eq] at allowed
      simpa [Node.isEnabled] using allowed
  | cons first rest =>
      obtain ⟨node, member, here⟩ := List.mem_map.mp candidate
      have within : node ∈ first :: rest := member
      dsimp only at planned
      rw [planned] at within
      obtain ⟨known, routable⟩ := (ClusterSnapshot.Arrangement.mem_plan_iff _ _ node).mp within
      exact ⟨node, known, Node.isEnabled_of_isRoutable routable, here⟩

theorem not_mem_controlCandidates {operations : List RegistryOperation} {id : NodeId} {node : Node}
    (known : (empty.performAll operations).get? id = some node)
    (disabled : node.isEnabled = false) (balancing : Balancing) :
    node.address ∉ (controlCandidates balancing (empty.performAll operations).snapshot).1 := by
  intro candidate
  obtain ⟨other, found, enabled, here⟩ := exists_of_mem_controlCandidates candidate
  have indexed := (sound_empty.performAll operations).snapshot.indexed
  have same : other = node := indexed.eq_of_address_eq found known here
  rw [same, disabled] at enabled
  cases enabled

/-- A node that is switched off or ignored is left alone. A pool that reads so of its node begins
no attempt to open a channel. A resize that begins then takes all channels away from the requests;
each is closed already, or it is drained, and with the end of its drain it is closed. A search for
a control connection that begins then never comes to the node. -/
theorem disabled_node_left_alone (operations : List RegistryOperation) {id : NodeId} {node : Node}
    (known : (empty.performAll operations).get? id = some node)
    (disabled : node.state = .forcedDown ∨ node.distance = .ignored) :
    let registry := empty.performAll operations
    (∀ (address : SocketAddress) (config : PoolConfig) (policy : ReconnectionPolicy)
      (channelConfig : ChannelConfig) (target : Nat) (earlier : List PoolMove),
      let site := ((PoolSite.start id address config policy channelConfig target).performAll
        earlier).perform (.retarget (config.target (registry.get? id)))
      ∀ move : PoolMove, (site.perform move).attempts = site.attempts ∧
        ∀ caller : ResizeCaller, site.beginner? move = some caller →
          let after := site.perform move
          after.pool.channels = [] ∧
          (∀ channel, (after.view.channel channel).isOpen = false) ∧
          ∀ (later : List PoolMove) (channel : ChannelId), channel.number < site.channels.length →
            let final := after.performAll later
            ((final.view.channel channel).isClosed = true ∨
              final.pool.isDraining channel = true) ∧
            ((final.perform (.drained channel)).view.channel channel).isClosed = true) ∧
    ∀ (world : World) (schedule : ReconnectionSchedule), world.registry = registry →
      (world.searchControl schedule).servers.find? node.address =
        world.servers.find? node.address ∧
      ∀ later, World.Search world schedule later → later.tries? ≠ some node.address ∧
        ∀ result, (later.controlDecided result).servers.find? node.address =
          later.servers.find? node.address := by
  have isOff : node.isEnabled = false := Node.isEnabled_eq_false.mpr disabled
  constructor
  · intro address config policy channelConfig target earlier site move
    have accounted : site.Accounted :=
      ((PoolSite.start_accounted id address config policy channelConfig target).performAll
        earlier).perform _
    have none : site.target = 0 := by
      change config.target ((empty.performAll operations).get? id) = 0
      rw [known]
      exact PoolConfig.target_of_disabled isOff config
    refine ⟨PoolSite.attempts_perform accounted none move, fun caller begins => ?_⟩
    obtain ⟨emptied, shut, fading⟩ := PoolSite.fading_of_beginner? accounted none begins
    refine ⟨emptied, shut, fun later channel opened => ?_⟩
    have faded := fading.performAll later
    exact ⟨faded.fades channel opened, (faded.finishDrain channel).2 opened⟩
  · intro world schedule reads
    have unlisted : node.address ∉
        (controlCandidates world.balancing world.registry.snapshot).1 := by
      rw [reads]
      exact not_mem_controlCandidates known isOff world.balancing
    refine ⟨(World.pursues_searchControl schedule world).others _ unlisted, fun later search => ?_⟩
    have spared : node.address ∉ later.controlStage.candidates := fun member =>
      unlisted (search.candidates.subset member)
    refine ⟨fun tried => spared (List.mem_of_head? tried), fun result => ?_⟩
    exact (World.pursues_controlDecided result later).others _ spared

def firstSwitchedOff : List RegistryOperation :=
  [.addNode { address := ⟨.ofParts 127 0 0 1, 9042, 0⟩ } .localDc,
    .addNode { address := ⟨.ofParts 127 0 0 2, 9042, 0⟩ } .localDc, .forceDown ⟨1⟩]

/-- One of two channels is opened; there is a pause before the next attempt at the other. -/
def halfFilled : List PoolMove :=
  [.ask (.caller 0), .connected 0 (.ok ([], 3)), .connected 1 (.error (.requestTimeout .zero []))]

def firstSwitchedOffWorld : World :=
  { servers := [(⟨.ofParts 127 0 0 1, 9042, 0⟩, {}), (⟨.ofParts 127 0 0 2, 9042, 0⟩, {})]
    registry := empty.performAll firstSwitchedOff
    channelConfig := (PoolSite.small 0).channelConfig
    config := default
    reconnection := .constant (.ofSecs 1)
    retry := .fixed (.careful false)
    speculation := .never }

theorem firstSwitchedOff_left_alone :
    let off : SocketAddress := ⟨.ofParts 127 0 0 1, 9042, 0⟩
    let other : SocketAddress := ⟨.ofParts 127 0 0 2, 9042, 0⟩
    let site := ((PoolSite.small 2).performAll halfFilled).perform
      (.retarget (PoolConfig.target {} ((empty.performAll firstSwitchedOff).get? ⟨1⟩)))
    let after := site.perform (.ask (.caller 1))
    let search := firstSwitchedOffWorld.searchControl { policy := .constant (.ofSecs 1) }
    (site.pausing = 1 ∧ site.attempts = 2 ∧ (site.perform .wake).attempts = 2) ∧
      (site.pool.channels = [⟨0⟩] ∧ after.pool.channels = [] ∧
        (site.view.channel ⟨0⟩).isOpen = true ∧ (after.view.channel ⟨0⟩).isOpen = false ∧
        ((after.perform (.drained ⟨0⟩)).view.channel ⟨0⟩).isClosed = true) ∧
      (search.tries? = some other ∧ search.tries? ≠ some off ∧
        (search.servers.find? other).map MockNode.accepted = some 1 ∧
        (search.servers.find? off).map MockNode.accepted = some 0) := by
  intro off other site after search
  obtain ⟨node, known, here, disabled⟩ : ∃ node,
      (empty.performAll firstSwitchedOff).get? ⟨1⟩ = some node ∧ node.address = off ∧
        (node.state = .forcedDown ∨ node.distance = .ignored) :=
    ⟨_, rfl, rfl, .inl rfl⟩
  obtain ⟨pools, searches⟩ := disabled_node_left_alone firstSwitchedOff known disabled
  have quiet := pools (PoolSite.small 2).pool.address {} (.constant (.ofSecs 1))
    (PoolSite.small 2).channelConfig 2 halfFilled
  obtain ⟨emptied, shut, gone⟩ := (quiet (.ask (.caller 1))).2 (.caller 1) rfl
  obtain ⟨spared, passed⟩ := searches firstSwitchedOffWorld { policy := .constant (.ofSecs 1) } rfl
  rw [here] at spared passed
  have full : 0 < site.channels.length := by decide
  refine ⟨⟨rfl, rfl, (quiet .wake).1⟩, ⟨rfl, emptied, rfl, shut ⟨0⟩, (gone [] ⟨0⟩ full).2⟩, ?_⟩
  refine ⟨rfl, (passed search .begins).1, rfl, ?_⟩
  rw [spared]
  rfl

end NodeRegistry

end CqlDriver

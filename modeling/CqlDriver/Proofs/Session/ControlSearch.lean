/-
The search for a new control connection. It tries the candidates with which it begins one after
the other, and connects to nobody else; whatever happens meanwhile adds no candidate.
-/

import CqlDriver.Simulation.Sessions

namespace CqlDriver

namespace Simulation

def ControlStage.candidates : ControlStage → List SocketAddress
  | .connecting candidates _ => candidates
  | .idle | .listening | .pausing _ => []

namespace World

variable {world before after start : World}

def tries? (world : World) : Option SocketAddress := world.controlStage.candidates.head?

/-- How far the search for a control connection is, and the servers with the connections that
they accepted. -/
def standing (world : World) : ControlStage × Table SocketAddress MockNode :=
  (world.controlStage, world.servers)

theorem standing_rearrange (agenda : Agenda Job) (world : World) :
    { world with agenda }.standing = world.standing := rfl

@[simp] theorem standing_push (job : Job) (world : World) :
    (world.push job).standing = world.standing :=
  standing_rearrange _ world

@[simp] theorem standing_schedule (due : Nat) (job : Job) (world : World) :
    (world.schedule due job).standing = world.standing :=
  standing_rearrange _ world

@[simp] theorem standing_after (span : Span) (job : Job) (world : World) :
    (world.after span job).standing = world.standing :=
  standing_schedule _ job world

@[simp] theorem standing_writeToServer (id : ChannelId) (bytes : List UInt8) (world : World) :
    (world.writeToServer id bytes).standing = world.standing := by
  unfold writeToServer
  split
  · rfl
  · rw [standing_push]
    unfold modifyLink
    split
    · rfl
    · rfl

@[simp] theorem standing_deliver (id : ChannelId) (outcomes : List Outcome) (world : World) :
    (world.deliver id outcomes).standing = world.standing := by
  unfold deliver
  induction outcomes generalizing world with
  | nil => rfl
  | cons outcome rest ih =>
      rw [List.foldl_cons, ih]
      dsimp only
      split
      · rfl
      · rfl
      · rfl

@[simp] theorem standing_takeEvents (channel : Channel) (events : List ServerEvent) (world : World) :
    (world.takeEvents channel events).standing = world.standing := by
  unfold takeEvents
  split
  · rfl
  · exact standing_push _ _

@[simp] theorem standing_followChannel (id : ChannelId) (first last : Channel) (world : World) :
    (world.followChannel id first last).standing = world.standing := by
  unfold followChannel
  dsimp only
  split
  · split
    · simp [apply_ite standing]
    · simp [apply_ite standing]
  · simp [apply_ite standing]

@[simp] theorem standing_stepChannel (id : ChannelId) (step : Channel → ChannelOutput × Channel)
    (world : World) : (world.stepChannel id step).standing = world.standing := by
  unfold stepChannel
  split
  · rfl
  · dsimp only
    rw [standing_followChannel, standing_takeEvents, standing_deliver]
    rfl

@[simp] theorem standing_takeRegistry (registry : NodeRegistry) (world : World) :
    (world.takeRegistry registry).standing = world.standing := by
  unfold takeRegistry
  dsimp only
  split
  · exact standing_push _ _
  · rfl

theorem standing_endControl (world : World) :
    world.endControl.standing = (.idle, world.servers) := by
  unfold endControl
  dsimp only
  rw [standing_push]
  split
  · exact standing_stepChannel _ _ _
  · rfl

theorem standing_openChannel (address : SocketAddress) (config : ChannelConfig) (asker : Asker)
    (world : World) : ∃ servers : Table SocketAddress MockNode,
      (world.openChannel address config asker).standing = (world.controlStage, servers) ∧
        ∀ other ≠ address, servers.find? other = world.servers.find? other := by
  unfold openChannel
  split
  · exact ⟨world.servers, standing_push _ world, fun _ _ => rfl⟩
  · refine ⟨_, (standing_writeToServer _ _ _).trans (standing_after _ _ _), ?_⟩
    intro other distinct
    dsimp only
    split
    · exact Table.find?_put_of_ne distinct _ _
    · rfl

/-- A step of the search that leaves no more than an end of these candidates, and connects to
nobody else. -/
structure Pursues (candidates : List SocketAddress) (before after : World) : Prop where
  left : after.controlStage.candidates <:+ candidates
  others : ∀ address ∉ candidates, after.servers.find? address = before.servers.find? address

theorem Pursues.of_standing {candidates : List SocketAddress} {stage : ControlStage}
    {servers : Table SocketAddress MockNode} (standing : after.standing = (stage, servers))
    (left : stage.candidates <:+ candidates)
    (others : ∀ address ∉ candidates, servers.find? address = before.servers.find? address) :
    Pursues candidates before after := by
  have stands : after.controlStage = stage := congrArg Prod.fst standing
  have serving : after.servers = servers := congrArg Prod.snd standing
  constructor
  · rw [stands]
    exact left
  · rw [serving]
    exact others

theorem pursues_tryControl (candidates : List SocketAddress) (schedule : ReconnectionSchedule)
    (world : World) : Pursues candidates world (world.tryControl candidates schedule) := by
  cases candidates with
  | nil =>
      change Pursues [] world (world.pauseControl schedule)
      unfold pauseControl
      split
      · exact .of_standing (standing_endControl world) List.nil_suffix fun _ _ => rfl
      · exact .of_standing (standing_after _ _ _) List.nil_suffix fun _ _ => rfl
  | cons address rest =>
      obtain ⟨servers, standing, others⟩ :=
        standing_openChannel address world.controlConfig .control
          { world with controlStage := .connecting (address :: rest) schedule }
      apply Pursues.of_standing standing
      · exact List.suffix_rfl
      · intro other unlisted
        exact others other (List.ne_of_not_mem_cons unlisted)

theorem pursues_searchControl (schedule : ReconnectionSchedule) (world : World) :
    Pursues (NodeRegistry.controlCandidates world.balancing world.registry.snapshot).1 world
      (world.searchControl schedule) := by
  unfold searchControl
  generalize NodeRegistry.controlCandidates world.balancing world.registry.snapshot = found
  obtain ⟨candidates, balancing⟩ := found
  obtain ⟨left, others⟩ := pursues_tryControl candidates schedule { world with balancing }
  exact ⟨left, others⟩

theorem pursues_controlDecided (result : Except DriverError ChannelId) (world : World) :
    Pursues world.controlStage.candidates world (world.controlDecided result) := by
  unfold controlDecided
  split
  · apply Pursues.of_standing ((standing_push _ _).trans (standing_takeRegistry _ _))
    · exact List.nil_suffix
    · exact fun _ _ => rfl
  · rename_i candidates schedule _ connecting
    rw [connecting]
    obtain ⟨left, others⟩ := pursues_tryControl (candidates.drop 1) schedule world
    constructor
    · exact left.trans (List.drop_suffix 1 candidates)
    · intro address unlisted
      exact others address fun member => unlisted (List.mem_of_mem_drop member)
  · exact ⟨List.suffix_rfl, fun _ _ => rfl⟩

inductive Search (start : World) (schedule : ReconnectionSchedule) : World → Prop
  | begins : Search start schedule (start.searchControl schedule)
  | waits {before after : World} (search : Search start schedule before)
      (same : after.controlStage = before.controlStage) : Search start schedule after
  | decides {before : World} (search : Search start schedule before)
      (result : Except DriverError ChannelId) : Search start schedule (before.controlDecided result)

theorem Search.candidates {schedule : ReconnectionSchedule}
    (search : Search start schedule world) :
    world.controlStage.candidates <:+
      (NodeRegistry.controlCandidates start.balancing start.registry.snapshot).1 := by
  induction search with
  | begins => exact (pursues_searchControl schedule start).left
  | waits _ same ih =>
      rw [same]
      exact ih
  | decides _ result ih => exact (pursues_controlDecided result _).left.trans ih

end World

end Simulation

end CqlDriver

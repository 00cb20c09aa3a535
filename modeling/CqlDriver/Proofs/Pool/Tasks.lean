/-
The work on a pool, task by task. Short of closing it, whatever is done leaves a pool with
its node, and open or closed as it is. A pool without channels gets some only with the word
that its node is up.
-/

import CqlDriver.Pool.Pool
import CqlDriver.Proofs.Cluster.Moves

namespace CqlDriver

inductive PoolTask where
  | resize (caller : ResizeCaller)
  | resume
  | connected (place : Nat) (result : Except DriverError ChannelId)
  | drained (channel : ChannelId)
  | lost (channel : ChannelId)
  | wake
  | nodeDown

def ChannelView.gone : ChannelView := { isOpen := false, isClosed := true, streamsInUse := 0 }

def PoolEffect.signal? (id : NodeId) : PoolEffect → Option RegistryOperation
  | .signalUp => some (.signalUp id)
  | .signalDown => some (.signalDown id)
  | _ => none

def PoolEffect.isAlarm : PoolEffect → Bool
  | .wakeAfter _ => true
  | _ => false

namespace Pool

def callers (pool : Pool) : List ResizeCaller :=
  pool.resizing.toList.map Prod.fst ++ pool.queue

def isUndecided (place : Nat) (pool : Pool) : Bool :=
  match pool.resizing with
  | some (_, .connecting _ results) => results[place]?.any Option.isNone
  | _ => false

def isDraining (channel : ChannelId) (pool : Pool) : Bool :=
  match pool.resizing with
  | some (_, .draining left) => decide (channel ∈ left)
  | _ => false

def undertake (view : PoolView) (task : PoolTask) (pool : Pool) : List PoolEffect × Pool :=
  match task with
  | .resize caller => pool.ensureSize view caller
  | .resume => pool.resume view
  | .connected place result => pool.connected view place result
  | .drained channel => pool.drained view channel
  | .lost channel => pool.lost view channel
  | .wake => pool.wake view
  | .nodeDown => pool.onNodeDown

def signals (id : NodeId) (effects : List PoolEffect) : List RegistryOperation :=
  effects.filterMap (PoolEffect.signal? id)

structure Quiet (id : NodeId) (before : Pool) (outcome : List PoolEffect × Pool) : Prop where
  silent : signals id outcome.1 = []
  node : outcome.2.node = before.node
  isClosed : outcome.2.isClosed = before.isClosed
  channels : outcome.2.channels = before.channels

/-- Still a pool of the same node, as open as before. Where channels come to a pool that
had none, the node is said to be up, and nothing else is said. -/
structure Keeps (id : NodeId) (before : Pool) (outcome : List PoolEffect × Pool) : Prop where
  node : outcome.2.node = before.node
  isClosed : outcome.2.isClosed = before.isClosed
  announced : before.channels = [] →
    outcome.2.channels = [] ∨ signals id outcome.1 = [.signalUp id]

variable {view : PoolView} {id : NodeId} {before middle pool : Pool}
  {first second : List PoolEffect} {outcome : List PoolEffect × Pool}

@[simp] theorem signals_append :
    signals id (first ++ second) = signals id first ++ signals id second :=
  List.filterMap_append

theorem signals_map {Item : Type} {effect : Item → PoolEffect}
    (silent : ∀ item, (effect item).signal? id = none) (items : List Item) :
    signals id (items.map effect) = [] := by
  unfold signals
  rw [List.filterMap_map, List.filterMap_eq_nil_iff]
  exact fun item _ => silent item

theorem Quiet.refl (pool : Pool) : Quiet id pool ([], pool) := ⟨rfl, rfl, rfl, rfl⟩

theorem Quiet.keeps (quiet : Quiet id before outcome) : Keeps id before outcome :=
  ⟨quiet.node, quiet.isClosed, fun none => Or.inl (quiet.channels.trans none)⟩

theorem Keeps.then_quiet (kept : Keeps id before (first, middle))
    (quiet : Quiet id middle outcome) : Keeps id before (first ++ outcome.1, outcome.2) := by
  refine ⟨quiet.node.trans kept.node, quiet.isClosed.trans kept.isClosed, fun none => ?_⟩
  rw [signals_append, quiet.silent, List.append_nil, quiet.channels]
  exact kept.announced none

theorem scheduleReconnect_quiet (id : NodeId) (pool : Pool) :
    Quiet id pool pool.scheduleReconnect := by
  unfold scheduleReconnect
  by_cases running : (pool.isClosed || pool.isReconnecting) = true
  · rw [if_pos running]
    exact Quiet.refl pool
  · rw [if_neg running]
    exact ⟨rfl, rfl, rfl, rfl⟩

theorem continueLoop_quiet (id : NodeId) (pool : Pool) : Quiet id pool pool.continueLoop := by
  unfold continueLoop
  split
  · exact ⟨rfl, rfl, rfl, rfl⟩
  · exact ⟨rfl, rfl, rfl, rfl⟩

theorem report_quiet (id : NodeId) (view : PoolView) (caller : ResizeCaller)
    (result : Except DriverError Nat) (pool : Pool) :
    Quiet id pool (pool.report view caller result) := by
  cases caller with
  | caller number | session | background => exact ⟨rfl, rfl, rfl, rfl⟩
  | loop =>
      cases result with
      | error error => exact continueLoop_quiet id pool
      | ok size =>
          change Quiet id pool
            (if view.target ≤ size then ([], pool.endLoop) else pool.continueLoop)
          by_cases enough : view.target ≤ size
          · rw [if_pos enough]
            exact ⟨rfl, rfl, rfl, rfl⟩
          · rw [if_neg enough]
            exact continueLoop_quiet id pool

theorem finishResize_of_alone (alone : pool.queue = []) (caller : ResizeCaller)
    (result : Except DriverError Nat) :
    pool.finishResize view caller result =
      { pool with resizing := none }.report view caller result := by
  unfold finishResize
  rw [alone]
  rfl

theorem finishResize_of_waiting {next : ResizeCaller} {rest : List ResizeCaller}
    (waiting : pool.queue = next :: rest) (caller : ResizeCaller)
    (result : Except DriverError Nat) :
    let turned := { pool with resizing := some (next, .granted), queue := rest }
    pool.finishResize view caller result =
      (.resume :: (turned.report view caller result).1, (turned.report view caller result).2) := by
  unfold finishResize
  rw [waiting]
  rfl

theorem finishResize_quiet (caller : ResizeCaller) (result : Except DriverError Nat)
    (pool : Pool) : Quiet id pool (pool.finishResize view caller result) := by
  cases waiting : pool.queue with
  | nil =>
      rw [finishResize_of_alone waiting]
      have told := report_quiet id view caller result
        { pool with resizing := none }
      exact ⟨told.silent, told.node, told.isClosed, told.channels⟩
  | cons next rest =>
      rw [finishResize_of_waiting waiting]
      have told := report_quiet id view caller result
        { pool with resizing := some (next, .granted), queue := rest }
      exact ⟨told.silent, told.node, told.isClosed, told.channels⟩

theorem beginResize_keeps (caller : ResizeCaller) (pool : Pool) :
    Keeps id pool (pool.beginResize view caller) := by
  unfold beginResize
  by_cases closed : pool.isClosed = true
  · rw [if_pos closed]
    exact (finishResize_quiet caller _ pool).keeps
  · rw [if_neg closed]
    have fewer (channels : List ChannelId) (effects : List PoolEffect)
        (resizing : Option (ResizeCaller × ResizeStage))
        (within : pool.channels = [] → channels = []) :
        Keeps id pool (effects, { pool with channels, resizing }) :=
      ⟨rfl, rfl, fun none => Or.inl (within none)⟩
    have held_nil (none : pool.channels = []) :
        (pool.channels.filter fun channel => !(view.channel channel).isClosed) = [] := by
      rw [none]
      rfl
    dsimp only
    split
    · refine fewer _ _ _ fun none => ?_
      rw [held_nil none]
      simp [busiestFirst]
    · split
      · have dropped := fewer _ [] pool.resizing held_nil
        exact dropped.then_quiet (finishResize_quiet caller _ _)
      · exact fewer _ _ _ held_nil

theorem ensureSize_keeps (caller : ResizeCaller) (pool : Pool) :
    Keeps id pool (pool.ensureSize view caller) := by
  unfold ensureSize
  split
  · exact ⟨rfl, rfl, Or.inl⟩
  · exact beginResize_keeps caller pool

theorem resume_keeps (pool : Pool) : Keeps id pool (pool.resume view) := by
  unfold resume
  split
  · exact beginResize_keeps _ pool
  · exact (Quiet.refl pool).keeps

theorem drained_keeps (channel : ChannelId) (pool : Pool) :
    Keeps id pool (pool.drained view channel) := by
  unfold drained
  split
  · split
    · exact (finishResize_quiet _ _ pool).keeps
    · exact ⟨rfl, rfl, Or.inl⟩
  · exact (Quiet.refl pool).keeps

theorem closeChannels_silent (reason : String) (pool : Pool) :
    signals id (pool.closeChannels reason).1 = [] :=
  signals_map (fun _ => rfl) pool.channels

def seekMore (target : Nat) (pool : Pool) : List PoolEffect × Pool :=
  if pool.channels.length < target then pool.scheduleReconnect else ([], pool)

theorem seekMore_quiet (id : NodeId) (target : Nat) (pool : Pool) :
    Quiet id pool (pool.seekMore target) := by
  unfold seekMore
  split
  · exact scheduleReconnect_quiet id pool
  · exact Quiet.refl pool

theorem close_of_open (isOpen : pool.isClosed = false) :
    pool.close = (pool.channels.map fun channel => .close channel closedReason,
      { pool with isClosed := true, channels := [] }) := by
  unfold close
  rw [if_neg (by rw [isOpen]; nofun)]
  rfl

theorem mem_close {channel : ChannelId} (isOpen : pool.isClosed = false)
    (held : channel ∈ pool.channels) : .close channel closedReason ∈ pool.close.1 := by
  rw [close_of_open isOpen]
  exact List.mem_map_of_mem held

theorem close_node (pool : Pool) : pool.close.2.node = pool.node := by
  unfold close
  split
  · rfl
  · rfl

theorem close_isClosed (pool : Pool) : pool.close.2.isClosed = true := by
  unfold close
  split
  · assumption
  · rfl

theorem close_silent (pool : Pool) : signals id pool.close.1 = [] := by
  unfold close
  split
  · rfl
  · exact closeChannels_silent _ _

theorem close_unalarmed (pool : Pool) : pool.close.1.filter PoolEffect.isAlarm = [] := by
  unfold close
  split
  · rfl
  · refine List.filter_eq_nil_iff.mpr fun effect member => ?_
    obtain ⟨channel, _, rfl⟩ := List.mem_map.mp member
    nofun

def SameBesidesLoop (before after : Pool) : Prop :=
  ∃ isReconnecting schedule, after = { before with isReconnecting, schedule }

namespace SameBesidesLoop

variable {after : Pool}

theorem refl (pool : Pool) : SameBesidesLoop pool pool :=
  ⟨pool.isReconnecting, pool.schedule, rfl⟩

theorem channels (same : SameBesidesLoop before after) : after.channels = before.channels := by
  obtain ⟨_, _, rfl⟩ := same
  rfl

theorem resizing (same : SameBesidesLoop before after) : after.resizing = before.resizing := by
  obtain ⟨_, _, rfl⟩ := same
  rfl

theorem isClosed (same : SameBesidesLoop before after) : after.isClosed = before.isClosed := by
  obtain ⟨_, _, rfl⟩ := same
  rfl

theorem queue (same : SameBesidesLoop before after) : after.queue = before.queue := by
  obtain ⟨_, _, rfl⟩ := same
  rfl

theorem callers (same : SameBesidesLoop before after) : after.callers = before.callers := by
  obtain ⟨_, _, rfl⟩ := same
  rfl

end SameBesidesLoop

theorem scheduleReconnect_same (pool : Pool) : SameBesidesLoop pool pool.scheduleReconnect.2 := by
  unfold scheduleReconnect
  split
  · exact .refl pool
  · exact ⟨true, _, rfl⟩

theorem seekMore_same (target : Nat) (pool : Pool) :
    SameBesidesLoop pool (pool.seekMore target).2 := by
  unfold seekMore
  split
  · exact scheduleReconnect_same pool
  · exact .refl pool

theorem continueLoop_same (pool : Pool) : SameBesidesLoop pool pool.continueLoop.2 := by
  unfold continueLoop
  split
  · exact ⟨pool.isReconnecting, _, rfl⟩
  · exact ⟨pool.isReconnecting, _, rfl⟩

theorem report_same (view : PoolView) (caller : ResizeCaller) (result : Except DriverError Nat)
    (pool : Pool) : SameBesidesLoop pool (pool.report view caller result).2 := by
  unfold report
  split
  · split
    · exact ⟨false, none, rfl⟩
    · exact continueLoop_same pool
  · exact continueLoop_same pool
  · exact .refl pool

theorem finishResize_callers (caller : ResizeCaller) (result : Except DriverError Nat)
    (pool : Pool) : (pool.finishResize view caller result).2.callers = pool.queue := by
  cases waiting : pool.queue with
  | nil =>
      rw [finishResize_of_alone waiting, (report_same view caller result _).callers]
      exact waiting
  | cons next rest =>
      rw [finishResize_of_waiting waiting]
      exact (report_same view caller result _).callers

def without (gone : ChannelId) (pool : Pool) : Pool :=
  { pool with channels := pool.channels.filter fun held => decide (held ≠ gone) }

theorem without_of_not_mem {gone : ChannelId} (absent : gone ∉ pool.channels) :
    pool.without gone = pool := by
  have all : (pool.channels.filter fun held => decide (held ≠ gone)) = pool.channels := by
    refine List.filter_eq_self.mpr fun held member => decide_eq_true ?_
    rintro rfl
    exact absent member
  unfold without
  rw [all]

/-- A pool that learns of a closed channel has it no more. It makes up for the loss unless it
did not hold the channel, or is closed itself. -/
theorem lost_cases (view : PoolView) (gone : ChannelId) (pool : Pool) :
    pool.lost view gone = ([], pool.without gone) ∨
    ∃ signals, (signals = [] ∨ signals = [PoolEffect.signalDown]) ∧
      let sought := (pool.without gone).seekMore view.target
      pool.lost view gone = (signals ++ sought.1, sought.2) := by
  unfold lost
  split
  · rename_i absent
    rw [without_of_not_mem absent]
    exact .inl rfl
  · dsimp only
    split
    · exact .inl rfl
    · refine .inr ⟨_, ?_, rfl⟩
      split
      · exact .inr rfl
      · exact .inl rfl

def grownBy (results : List (Except DriverError ChannelId)) (pool : Pool) : Pool :=
  { pool with channels := pool.channels ++ opened results }

/-- How an open pool grows: it takes the new channels in, sees to it that the missing ones
are tried again, and ends the resize. Its node is said to be up if there are new channels, and
down if there are no channels at all because of an error. -/
theorem grown_parts (view : PoolView) (isOpen : pool.isClosed = false) (caller : ResizeCaller)
    (target : Nat) (results : List (Except DriverError ChannelId)) :
    ∃ upward downward result,
      let sought := (pool.grownBy results).seekMore target
      let ending := sought.2.finishResize view caller result
      pool.grown view caller target results =
          ((opened results).map .watch ++ upward ++ sought.1 ++ downward ++ ending.1, ending.2) ∧
        upward = (if (opened results).isEmpty then [] else [.signalUp]) ∧
        (downward = [] ∧ result = .ok (pool.grownBy results).channels.length ∨
          downward = [.signalDown] ∧ (pool.grownBy results).channels = [] ∧
            ∃ error, result = .error error) := by
  unfold grown
  rw [if_neg (by rw [isOpen]; nofun)]
  dsimp only
  split
  case h_1 error empty failed =>
    have gone : (pool.grownBy results).channels = [] := List.length_eq_zero_iff.mp empty
    exact ⟨_, [.signalDown], .error error, rfl, rfl, .inr ⟨rfl, gone, error, rfl⟩⟩
  case h_2 =>
    refine ⟨_, [], .ok (pool.grownBy results).channels.length, ?_, rfl, .inl ⟨rfl, rfl⟩⟩
    rw [List.append_nil]
    rfl

theorem grown_of_open (id : NodeId) (view : PoolView) (isOpen : pool.isClosed = false)
    (caller : ResizeCaller) (target : Nat) (results : List (Except DriverError ChannelId)) :
    ∃ effects result,
      let sought := ((pool.grownBy results).seekMore target).2
      pool.grown view caller target results =
          (effects ++ (sought.finishResize view caller result).1,
            (sought.finishResize view caller result).2) ∧
        (result = .ok (pool.grownBy results).channels.length ∨ ∃ error, result = .error error) ∧
        (opened results ≠ [] → signals id effects = [.signalUp id]) := by
  have watching : signals id ((opened results).map PoolEffect.watch) = [] :=
    signals_map (fun _ => rfl) _
  have seeking : signals id ((pool.grownBy results).seekMore target).1 = [] :=
    (seekMore_quiet id target _).silent
  obtain ⟨upward, downward, result, same, up, ended⟩ := grown_parts view isOpen caller target results
  refine ⟨_, result, same, ended.imp And.right fun empty => empty.2.2, fun more => ?_⟩
  rcases ended with ⟨rfl, _⟩ | ⟨_, empty, _⟩
  · rw [if_neg fun none => more (List.isEmpty_iff.mp none)] at up
    rw [List.append_nil, signals_append, signals_append, watching, seeking, up]
    rfl
  · exact absurd (List.append_eq_nil_iff.mp empty).2 more

theorem grown_keeps (caller : ResizeCaller) (target : Nat)
    (results : List (Except DriverError ChannelId)) (pool : Pool) :
    Keeps id pool (pool.grown view caller target results) := by
  cases isOpen : pool.isClosed with
  | true =>
      unfold grown
      rw [if_pos isOpen]
      have closing : Keeps id pool
          ((opened results).map .watch ++ (closeChannels closedReason (pool.grownBy results)).1,
            (closeChannels closedReason (pool.grownBy results)).2) :=
        ⟨rfl, rfl, fun _ => Or.inl rfl⟩
      exact closing.then_quiet (finishResize_quiet caller _ _)
  | false =>
      obtain ⟨effects, result, same, _, announced⟩ :=
        grown_of_open id view isOpen caller target results
      rw [same]
      have seeking := seekMore_quiet id target (pool.grownBy results)
      refine Keeps.then_quiet ⟨seeking.node, seeking.isClosed, fun none => ?_⟩
        (finishResize_quiet caller result _)
      by_cases more : opened results = []
      · left
        rw [seeking.channels]
        exact List.append_eq_nil_iff.mpr ⟨none, more⟩
      · exact Or.inr (announced more)

theorem connected_keeps (place : Nat) (result : Except DriverError ChannelId) (pool : Pool) :
    Keeps id pool (pool.connected view place result) := by
  unfold connected
  split
  · dsimp only
    split
    · exact grown_keeps _ _ _ pool
    · exact ⟨rfl, rfl, Or.inl⟩
  · exact (Quiet.refl pool).keeps

theorem lost_keeps (channel : ChannelId) (pool : Pool) :
    Keeps id pool (pool.lost view channel) := by
  unfold lost
  split
  · exact (Quiet.refl pool).keeps
  · rename_i held
    have some : pool.channels ≠ [] := fun none => held (none ▸ List.not_mem_nil)
    dsimp only
    split
    · exact ⟨rfl, rfl, fun none => absurd none some⟩
    · have seeking := seekMore_quiet id view.target
        { pool with channels := pool.channels.filter fun other => decide (other ≠ channel) }
      exact ⟨seeking.node, seeking.isClosed, fun none => absurd none some⟩

theorem wake_keeps (pool : Pool) : Keeps id pool (pool.wake view) := by
  unfold wake
  split
  · exact (Quiet.refl pool).keeps
  · split
    · exact ⟨rfl, rfl, Or.inl⟩
    · split
      · exact ⟨rfl, rfl, Or.inl⟩
      · exact ensureSize_keeps .loop pool

theorem onNodeDown_keeps (pool : Pool) : Keeps id pool pool.onNodeDown := by
  have looping := scheduleReconnect_quiet id
    (closeChannels "node reported down" pool).2
  exact ⟨looping.node, looping.isClosed, fun _ => Or.inl looping.channels⟩

theorem undertake_keeps (id : NodeId) (view : PoolView) (task : PoolTask) (pool : Pool) :
    Keeps id pool (pool.undertake view task) := by
  cases task with
  | resize caller => exact ensureSize_keeps caller pool
  | resume => exact resume_keeps pool
  | connected place result => exact connected_keeps place result pool
  | drained channel => exact drained_keeps channel pool
  | lost channel => exact lost_keeps channel pool
  | wake => exact wake_keeps pool
  | nodeDown => exact onNodeDown_keeps pool

end Pool

end CqlDriver

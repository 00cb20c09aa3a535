/-
The parts of a resize of an open pool: what it begins with, what it does with each end that it
waits for, and all that it asks for when its attempts to open channels are over.
-/

import CqlDriver.Proofs.Pool.Fitting

namespace CqlDriver

def PoolEffect.answer? : PoolEffect → Option (ResizeCaller × Except DriverError Nat)
  | .resized caller result => some (caller, result)
  | _ => none

namespace Pool

variable {view : PoolView} {pool : Pool}

def reaches (target : Nat) : Except DriverError Nat → Bool
  | .ok size => decide (target ≤ size)
  | .error _ => false

theorem allDecided_map_some {Value : Type} (values : List Value) :
    allDecided (values.map some) = some values := by
  induction values with
  | nil => rfl
  | cons value rest ih =>
      simp only [List.map_cons, allDecided]
      rw [ih]
      rfl

theorem allDecided_of_undecided {Value : Type} {places : List (Option Value)}
    (undecided : none ∈ places) : allDecided places = none := by
  cases decided : allDecided places with
  | none => rfl
  | some values =>
      rw [allDecided_eq_some decided] at undecided
      simp at undecided

theorem exists_of_decided {Value : Type} {places : List (Option Value)}
    (decided : none ∉ places) : ∃ values : List Value, places = values.map some := by
  induction places with
  | nil => exact ⟨[], rfl⟩
  | cons place rest ih =>
      obtain ⟨first, others⟩ := not_or.mp fun member => decided (List.mem_cons.mpr member)
      obtain ⟨values, same⟩ := ih others
      cases place with
      | none => exact absurd rfl first
      | some value => exact ⟨value :: values, by rw [same]; rfl⟩

/-- What a resize gives that has tried to open channels, with the number of channels then. -/
def growthResult (size : Nat) (results : List (Except DriverError ChannelId)) :
    Except DriverError Nat :=
  match size, lastError results with
  | 0, some error => .error error
  | size, _ => .ok size

theorem lastError_eq_none_iff {results : List (Except DriverError ChannelId)} :
    lastError results = none ↔ ∀ result ∈ results, result.isOk = true := by
  unfold lastError
  rw [List.getLast?_eq_none_iff, List.filterMap_eq_nil_iff]
  apply forall₂_congr
  intro result member
  cases result with
  | ok channel => simp [Except.isOk, Except.toBool]
  | error error => simp [Except.isOk, Except.toBool]

theorem growthResult_isOk (size : Nat) (results : List (Except DriverError ChannelId)) :
    (growthResult size results).isOk = false ↔ (∃ result ∈ results, result.isOk = false) ∧
      size = 0 := by
  have failed : (∃ result ∈ results, result.isOk = false) ↔ lastError results ≠ none := by
    rw [ne_eq, lastError_eq_none_iff]
    simp
  unfold growthResult
  rw [failed]
  cases lastError results with
  | none => simp [Except.isOk, Except.toBool]
  | some error =>
      cases size with
      | zero => simp [Except.isOk, Except.toBool]
      | succ size => simp [Except.isOk, Except.toBool]

def growthAsked (target : Nat) (results : List (Except DriverError ChannelId)) (pool : Pool) :
    List PoolEffect :=
  let grown := pool.grownBy results
  (opened results).map .watch ++ (if (opened results).isEmpty then [] else [.signalUp]) ++
    (grown.seekMore target).1 ++
      (if (growthResult grown.channels.length results).isOk then [] else [.signalDown])

/-- The whole of what an open pool does when it grows. -/
theorem grown_eq (isOpen : pool.isClosed = false) (caller : ResizeCaller) (target : Nat)
    (results : List (Except DriverError ChannelId)) :
    let grown := pool.grownBy results
    let ending := (grown.seekMore target).2.finishResize view caller
      (growthResult grown.channels.length results)
    pool.grown view caller target results =
      (pool.growthAsked target results ++ ending.1, ending.2) := by
  unfold grown growthAsked
  rw [if_neg (by rw [isOpen]; nofun)]
  dsimp only
  split
  case h_1 error empty failed =>
    have returned : growthResult (pool.grownBy results).channels.length results =
        .error error := by
      have none : (pool.grownBy results).channels.length = 0 := empty
      unfold growthResult
      rw [none, failed]
      rfl
    rw [returned]
    rfl
  case h_2 size other =>
    have returned : growthResult (pool.grownBy results).channels.length results =
        .ok (pool.grownBy results).channels.length := by
      unfold growthResult
      split
      · rename_i error empty failed
        exact absurd failed (other error empty)
      · rfl
    have silent : (if (Except.ok (pool.grownBy results).channels.length :
        Except DriverError Nat).isOk then [] else [PoolEffect.signalDown]) = [] := rfl
    rw [returned, silent, List.append_nil]
    rfl

def unclosed (view : PoolView) (pool : Pool) : List ChannelId :=
  pool.channels.filter fun id => !(view.channel id).isClosed

theorem mem_unclosed {id : ChannelId} :
    id ∈ pool.unclosed view ↔ id ∈ pool.channels ∧ (view.channel id).isClosed = false := by
  simp [unclosed]

theorem beginResize_of_more (isOpen : pool.isClosed = false)
    (more : view.target < (pool.unclosed view).length) (caller : ResizeCaller) :
    let sorted := busiestFirst view (pool.unclosed view)
    pool.beginResize view caller =
      ((sorted.drop view.target).map .drain,
        { pool with
          channels := sorted.take view.target
          resizing := some (caller, .draining (sorted.drop view.target)) }) := by
  unfold beginResize
  rw [if_neg (by rw [isOpen]; nofun)]
  exact if_pos more

theorem beginResize_of_enough (isOpen : pool.isClosed = false)
    (enough : (pool.unclosed view).length = view.target) (caller : ResizeCaller) :
    pool.beginResize view caller =
      { pool with channels := pool.unclosed view }.finishResize view caller (.ok view.target) := by
  unfold beginResize
  rw [if_neg (by rw [isOpen]; nofun)]
  exact (if_neg (by exact Nat.not_lt.mpr (Nat.le_of_eq enough))).trans (if_pos enough)

theorem beginResize_of_fewer (isOpen : pool.isClosed = false)
    (fewer : (pool.unclosed view).length < view.target) (caller : ResizeCaller) :
    let missing := view.target - (pool.unclosed view).length
    pool.beginResize view caller =
      ((List.range missing).map .connect,
        { pool with
          channels := pool.unclosed view
          resizing := some (caller, .connecting view.target (List.replicate missing none)) }) := by
  unfold beginResize
  rw [if_neg (by rw [isOpen]; nofun)]
  exact (if_neg (by exact Nat.not_lt.mpr (Nat.le_of_lt fewer))).trans
    (if_neg (Nat.ne_of_lt fewer))

/-- Of the channels by their load, those that stay have no fewer streams in use than the rest. -/
theorem busiestFirst_split (view : PoolView) (channels : List ChannelId) (count : Nat) :
    ∀ kept ∈ (busiestFirst view channels).take count,
      ∀ other ∈ (busiestFirst view channels).drop count,
        (view.channel other).streamsInUse ≤ (view.channel kept).streamsInUse := by
  have sorted : (busiestFirst view channels).Pairwise fun left right =>
      decide ((view.channel right).streamsInUse ≤ (view.channel left).streamsInUse) = true := by
    apply List.pairwise_mergeSort
    · intro first second third before after
      simp only [decide_eq_true_eq] at before after ⊢
      omega
    · intro first second
      simp only [Bool.or_eq_true, decide_eq_true_eq]
      omega
  rw [← List.take_append_drop count (busiestFirst view channels), List.pairwise_append] at sorted
  intro kept stays other goes
  exact of_decide_eq_true (sorted.2.2 kept stays other goes)

theorem finishResize_of_target {other : PoolView} (same : view.target = other.target)
    (caller : ResizeCaller) (result : Except DriverError Nat) (pool : Pool) :
    pool.finishResize view caller result = pool.finishResize other caller result := by
  unfold finishResize report
  rw [same]

theorem seekMore_isReconnecting (isOpen : pool.isClosed = false) (target : Nat) :
    (pool.seekMore target).2.isReconnecting =
      (pool.isReconnecting || decide (pool.channels.length < target)) := by
  unfold seekMore scheduleReconnect
  rw [isOpen, Bool.false_or]
  by_cases few : pool.channels.length < target
  · rw [if_pos few, decide_eq_true few, Bool.or_true]
    cases running : pool.isReconnecting with
    | true => exact running
    | false => rfl
  · rw [if_neg few, decide_eq_false few, Bool.or_false]

theorem seekMore_alarms (isOpen : pool.isClosed = false) (target : Nat) :
    (pool.seekMore target).1.countP PoolEffect.isAlarm =
      if pool.channels.length < target ∧ pool.isReconnecting = false then 1 else 0 := by
  unfold seekMore scheduleReconnect
  rw [isOpen, Bool.false_or]
  by_cases few : pool.channels.length < target
  · cases running : pool.isReconnecting with
    | true => simp [few]
    | false => simp [few, PoolEffect.isAlarm]
  · simp [few]

theorem seekMore_isAlarm (target : Nat) (pool : Pool) :
    ∀ effect ∈ (pool.seekMore target).1, effect.isAlarm = true := by
  unfold seekMore scheduleReconnect
  split
  · split
    · simp
    · simp [PoolEffect.isAlarm]
  · simp

theorem connected_of_last {caller : ResizeCaller} {target place : Nat}
    {places : List (Option (Except DriverError ChannelId))} {result : Except DriverError ChannelId}
    {results : List (Except DriverError ChannelId)}
    (growing : pool.resizing = some (caller, .connecting target places))
    (last : allDecided (places.set place (some result)) = some results) :
    pool.connected view place result = pool.grown view caller target results := by
  unfold connected
  simp only [growing, last]

theorem connected_of_pending {caller : ResizeCaller} {target place : Nat}
    {places : List (Option (Except DriverError ChannelId))} {result : Except DriverError ChannelId}
    (growing : pool.resizing = some (caller, .connecting target places))
    (pending : allDecided (places.set place (some result)) = none) :
    pool.connected view place result = ([], { pool with
      resizing := some (caller, .connecting target (places.set place (some result))) }) := by
  unfold connected
  simp only [growing, pending]

theorem drained_of_last {caller : ResizeCaller} {id : ChannelId} {left : List ChannelId}
    (draining : pool.resizing = some (caller, .draining left)) (last : left.erase id = []) :
    pool.drained view id = pool.finishResize view caller (.ok (pool.size view)) := by
  unfold drained
  simp only [draining, last]

theorem drained_of_pending {caller : ResizeCaller} {id next : ChannelId}
    {left others : List ChannelId} (draining : pool.resizing = some (caller, .draining left))
    (pending : left.erase id = next :: others) :
    pool.drained view id =
      ([], { pool with resizing := some (caller, .draining (next :: others)) }) := by
  unfold drained
  simp only [draining, pending]

theorem length_opened_eq (results : List (Except DriverError ChannelId)) :
    (opened results).length = (results.map Except.isOk).countP id := by
  unfold opened
  induction results with
  | nil => rfl
  | cons result rest ih =>
      rw [List.filterMap_cons, List.map_cons, List.countP_cons, ← ih]
      cases result with
      | ok channel => rfl
      | error error => rfl

section

variable (target : Nat) (results : List (Except DriverError ChannelId)) (pool : Pool)

theorem signalUp_mem_growthAsked :
    .signalUp ∈ pool.growthAsked target results ↔ opened results ≠ [] := by
  have seeking : .signalUp ∉ ((pool.grownBy results).seekMore target).1 := fun member =>
    nomatch seekMore_isAlarm target _ _ member
  unfold growthAsked
  cases opened results with
  | nil => simp [seeking]
  | cons channel others => simp

theorem signalDown_mem_growthAsked :
    .signalDown ∈ pool.growthAsked target results ↔
      (growthResult (pool.grownBy results).channels.length results).isOk = false := by
  have seeking : .signalDown ∉ ((pool.grownBy results).seekMore target).1 := fun member =>
    nomatch seekMore_isAlarm target _ _ member
  unfold growthAsked
  cases returned : (growthResult (pool.grownBy results).channels.length results).isOk with
  | true => simp [seeking, returned]
  | false => simp [returned]

theorem mem_growthAsked {effect : PoolEffect} (asked : effect ∈ pool.growthAsked target results) :
    (∃ channel, effect = .watch channel) ∨ effect.isAside = true := by
  unfold growthAsked at asked
  simp only [List.mem_append] at asked
  rcases asked with ((watching | upward) | seeking) | downward
  · obtain ⟨channel, _, same⟩ := List.mem_map.mp watching
    exact .inl ⟨channel, same.symm⟩
  · split at upward
    · cases upward
    · cases List.mem_singleton.mp upward
      exact .inr rfl
  · exact .inr (seekMore_aside target _ effect seeking)
  · split at downward
    · cases downward
    · cases List.mem_singleton.mp downward
      exact .inr rfl

theorem countP_isAttempt_growthAsked :
    (pool.growthAsked target results).countP PoolEffect.isAttempt = 0 := by
  rw [List.countP_eq_zero]
  intro effect member
  cases mem_growthAsked target results pool member with
  | inl watching =>
      obtain ⟨channel, rfl⟩ := watching
      exact Bool.false_ne_true
  | inr aside => simp [PoolEffect.isAttempt_of_isAside aside]

theorem countP_isAlarm_growthAsked (isOpen : pool.isClosed = false) :
    (pool.growthAsked target results).countP PoolEffect.isAlarm =
      if (pool.grownBy results).channels.length < target ∧ pool.isReconnecting = false then 1
      else 0 := by
  have watching : ((opened results).map PoolEffect.watch).countP PoolEffect.isAlarm = 0 := by
    simp [List.countP_eq_zero, PoolEffect.isAlarm]
  have upward : (if (opened results).isEmpty then []
      else [PoolEffect.signalUp]).countP PoolEffect.isAlarm = 0 := by
    split <;> rfl
  have downward : (if (growthResult (pool.grownBy results).channels.length results).isOk then []
      else [PoolEffect.signalDown]).countP PoolEffect.isAlarm = 0 := by
    split <;> rfl
  have stillOpen : (pool.grownBy results).isClosed = false := isOpen
  unfold growthAsked
  simp only [List.countP_append, watching, upward, downward]
  rw [seekMore_alarms stillOpen, Nat.zero_add, Nat.add_zero]
  rfl

theorem answers_growthAsked :
    (pool.growthAsked target results).filterMap PoolEffect.answer? = [] := by
  have seeking : ∀ effect ∈ ((pool.grownBy results).seekMore target).1,
      effect.answer? = none := by
    intro effect member
    have alarm := seekMore_isAlarm target _ effect member
    cases effect with
    | wakeAfter delay => rfl
    | _ => cases alarm
  rw [List.filterMap_eq_nil_iff]
  intro effect member
  simp only [growthAsked, List.mem_append] at member
  rcases member with ((watching | upward) | sought) | downward
  · obtain ⟨channel, _, rfl⟩ := List.mem_map.mp watching
    rfl
  · split at upward
    · cases upward
    · cases List.mem_singleton.mp upward
      rfl
  · exact seeking effect sought
  · split at downward
    · cases downward
    · cases List.mem_singleton.mp downward
      rfl

end

section

variable (view : PoolView) (caller : ResizeCaller) (result : Except DriverError Nat) (pool : Pool)

theorem continueLoop_told : pool.continueLoop.1.filterMap PoolEffect.answer? = [] ∧
    pool.continueLoop.2.isReconnecting = pool.isReconnecting := by
  unfold continueLoop
  split
  · exact ⟨rfl, rfl⟩
  · exact ⟨rfl, rfl⟩

theorem report_cases :
    (caller ≠ .loop ∧ pool.report view caller result = ([.resized caller result], pool)) ∨
    (caller = .loop ∧ reaches view.target result = true ∧
      pool.report view caller result = ([], pool.endLoop)) ∨
    (caller = .loop ∧ reaches view.target result = false ∧
      pool.report view caller result = pool.continueLoop) := by
  cases caller with
  | caller number | session | background => exact .inl ⟨nofun, rfl⟩
  | loop =>
      cases result with
      | error error => exact .inr (.inr ⟨rfl, rfl, rfl⟩)
      | ok size =>
          by_cases enough : view.target ≤ size
          · exact .inr (.inl ⟨rfl, decide_eq_true enough, if_pos enough⟩)
          · exact .inr (.inr ⟨rfl, decide_eq_false enough, if_neg enough⟩)

/-- The caller is told the result. The loop is told nothing, and ends if the result is that the
pool has its size. -/
theorem report_told :
    (pool.report view caller result).1.filterMap PoolEffect.answer? =
        (if caller = .loop then [] else [(caller, result)]) ∧
      (pool.report view caller result).2.isReconnecting =
        (pool.isReconnecting && (decide (caller ≠ .loop) || !reaches view.target result)) := by
  rcases report_cases view caller result pool with
    ⟨asked, same⟩ | ⟨rfl, reached, same⟩ | ⟨rfl, missed, same⟩
  · rw [same, if_neg asked, decide_eq_true asked]
    exact ⟨rfl, (Bool.and_true _).symm⟩
  · rw [same, reached]
    exact ⟨rfl, (Bool.and_false _).symm⟩
  · rw [same, missed]
    obtain ⟨silent, running⟩ := continueLoop_told pool
    exact ⟨silent, running.trans (Bool.and_true _).symm⟩

theorem finishResize_told :
    (pool.finishResize view caller result).1.filterMap PoolEffect.answer? =
        (if caller = .loop then [] else [(caller, result)]) ∧
      (pool.finishResize view caller result).2.isReconnecting =
        (pool.isReconnecting && (decide (caller ≠ .loop) || !reaches view.target result)) := by
  cases waiting : pool.queue with
  | nil =>
      rw [finishResize_of_alone waiting]
      exact report_told view caller result _
  | cons next rest =>
      rw [finishResize_of_waiting waiting]
      exact report_told view caller result _

end

end Pool

namespace PoolEffect

theorem touch_of_aside {effect : PoolEffect} (aside : effect.isAside = true)
    (channels : List Channel) : touch channels effect = channels := by
  cases effect with
  | drain | close => cases aside
  | connect | watch | signalUp | signalDown | wakeAfter | resume | resized => rfl

theorem foldl_touch_of_idle {effects : List PoolEffect}
    (idle : ∀ effect ∈ effects, ∀ channels, touch channels effect = channels)
    (channels : List Channel) : effects.foldl touch channels = channels := by
  induction effects with
  | nil => rfl
  | cons effect rest ih =>
      rw [List.foldl_cons, idle effect List.mem_cons_self]
      exact ih fun other member => idle other (List.mem_cons_of_mem effect member)

end PoolEffect

end CqlDriver

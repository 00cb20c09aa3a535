/-
A pool below its size is seen to. As long as every change of its target comes with a resize
that is still to be asked for, a pool that is too small is being resized, will be resized, or
has its loop running. No task of the pool loses sight of this.
-/

import CqlDriver.Proofs.Pool.Tasks

namespace CqlDriver.Pool

/-- The resize at work will count the channels anew, or has begun to open the missing ones. -/
def isGrowing (pool : Pool) : Bool :=
  match pool.resizing with
  | some (_, .granted) | some (_, .connecting ..) => true
  | some (_, .draining _) | none => false

/-- Somebody will resize the pool later: one who has not asked yet, the loop, or one who waits
for the turn. -/
def Follows (awaited : Prop) (pool : Pool) : Prop :=
  awaited ∨ pool.schedule ≠ none ∨ pool.queue ≠ []

structure Tended (target : Nat) (awaited : Prop) (pool : Pool) : Prop where
  isOpen : pool.isClosed = false
  looping : pool.isReconnecting = true → pool.schedule ≠ none
  short : pool.channels.length < target → pool.isGrowing = true ∨ pool.Follows awaited
  outgrown : ∀ caller aim results, pool.resizing = some (caller, .connecting aim results) →
    aim < target → pool.Follows awaited

variable {view : PoolView} {awaited later : Prop} {target : Nat} {pool : Pool}

theorem Tended.change {other : Nat} (tended : pool.Tended target awaited)
    (told : other ≠ target → later) (kept : awaited → later) : pool.Tended other later := by
  have follows (before : pool.Follows awaited) : pool.Follows later := before.imp_left kept
  refine ⟨tended.isOpen, tended.looping, fun few => ?_, fun caller aim results growing few => ?_⟩
  · by_cases same : other = target
    · rw [same] at few
      exact (tended.short few).imp_right follows
    · exact Or.inr (Or.inl (told same))
  · by_cases same : other = target
    · rw [same] at few
      exact follows (tended.outgrown caller aim results growing few)
    · exact Or.inl (told same)

theorem scheduleReconnect_eq (pool : Pool) (isOpen : pool.isClosed = false)
    (looping : pool.isReconnecting = true → pool.schedule ≠ none) :
    ∃ isReconnecting schedule,
      pool.scheduleReconnect.2 = { pool with isReconnecting, schedule } ∧ schedule ≠ none := by
  unfold scheduleReconnect
  by_cases busy : (pool.isClosed || pool.isReconnecting) = true
  · have running : pool.isReconnecting = true := by rwa [isOpen, Bool.false_or] at busy
    rw [if_pos busy]
    exact ⟨pool.isReconnecting, pool.schedule, rfl, looping running⟩
  · rw [if_neg busy]
    exact ⟨true, _, rfl, nofun⟩

theorem continueLoop_eq (isOpen : pool.isClosed = false) : ∃ schedule,
    pool.continueLoop.2 = { pool with schedule } ∧ (pool.schedule ≠ none → schedule ≠ none) := by
  unfold continueLoop
  rw [isOpen]
  cases running : pool.schedule with
  | none => exact ⟨none, rfl, fun some => some⟩
  | some schedule => exact ⟨some schedule.next.2, rfl, nofun⟩

/-- The one who is told of a resize changes nothing but the loop, which ends only with a pool
that has its size. -/
theorem report_eq (view : PoolView) (isOpen : pool.isClosed = false)
    (looping : pool.isReconnecting = true → pool.schedule ≠ none) (caller : ResizeCaller)
    {result : Except DriverError Nat}
    (counted : ∀ size, result = .ok size → size ≤ pool.channels.length) :
    ∃ isReconnecting schedule,
      (pool.report view caller result).2 = { pool with isReconnecting, schedule } ∧
        (isReconnecting = true → schedule ≠ none) ∧
        (pool.channels.length < view.target → pool.schedule ≠ none → schedule ≠ none) := by
  have goesOn : ∃ isReconnecting schedule,
      pool.continueLoop.2 = { pool with isReconnecting, schedule } ∧
        (isReconnecting = true → schedule ≠ none) ∧
        (pool.channels.length < view.target → pool.schedule ≠ none → schedule ≠ none) := by
    obtain ⟨schedule, same, kept⟩ := continueLoop_eq isOpen
    exact ⟨pool.isReconnecting, schedule, same, fun running => kept (looping running),
      fun _ => kept⟩
  have untouched : ∃ isReconnecting schedule,
      pool = { pool with isReconnecting, schedule } ∧
        (isReconnecting = true → schedule ≠ none) ∧
        (pool.channels.length < view.target → pool.schedule ≠ none → schedule ≠ none) :=
    ⟨pool.isReconnecting, pool.schedule, rfl, looping, fun _ kept => kept⟩
  cases caller with
  | caller number => exact untouched
  | session => exact untouched
  | background => exact untouched
  | loop =>
      cases result with
      | error error => exact goesOn
      | ok size =>
          change ∃ isReconnecting schedule,
            (if view.target ≤ size then ([], pool.endLoop) else pool.continueLoop).2 =
              { pool with isReconnecting, schedule } ∧ _
          by_cases enough : view.target ≤ size
          · rw [if_pos enough]
            refine ⟨false, none, rfl, nofun, fun few => ?_⟩
            have held := counted size rfl
            omega
          · rw [if_neg enough]
            exact goesOn

theorem report_tended (isOpen : pool.isClosed = false)
    (looping : pool.isReconnecting = true → pool.schedule ≠ none) (caller : ResizeCaller)
    {result : Except DriverError Nat}
    (counted : ∀ size, result = .ok size → size ≤ pool.channels.length)
    (short : pool.channels.length < view.target → pool.isGrowing = true ∨ pool.Follows awaited)
    (idle : ∀ caller aim results, pool.resizing ≠ some (caller, .connecting aim results)) :
    (pool.report view caller result).2.Tended view.target awaited := by
  obtain ⟨isReconnecting, schedule, same, alive, kept⟩ :=
    report_eq view isOpen looping caller counted
  rw [same]
  refine ⟨isOpen, alive, fun few => ?_, fun caller aim results growing => ?_⟩
  · exact (short few).imp_right (Or.imp_right (Or.imp_left (kept few)))
  · exact absurd growing (idle caller aim results)

/-- The end of a resize. A pool that is then too small is followed up, by the one whose turn
comes if by nobody else. -/
theorem finishResize_tended (isOpen : pool.isClosed = false)
    (looping : pool.isReconnecting = true → pool.schedule ≠ none) (caller : ResizeCaller)
    {result : Except DriverError Nat}
    (counted : ∀ size, result = .ok size → size ≤ pool.channels.length)
    (short : pool.channels.length < view.target → pool.Follows awaited) :
    (pool.finishResize view caller result).2.Tended view.target awaited := by
  cases waiting : pool.queue with
  | nil =>
      rw [finishResize_of_alone waiting]
      apply report_tended
      · exact isOpen
      · exact looping
      · exact counted
      · exact fun few => Or.inr (short few)
      · nofun
  | cons next rest =>
      rw [finishResize_of_waiting waiting]
      apply report_tended
      · exact isOpen
      · exact looping
      · exact counted
      · exact fun _ => Or.inl rfl
      · nofun

/-- A resize that begins looks at the target as it is now, whatever was awaited before. -/
theorem beginResize_tended (isOpen : pool.isClosed = false)
    (looping : pool.isReconnecting = true → pool.schedule ≠ none) (caller : ResizeCaller)
    (awaited : Prop) : (pool.beginResize view caller).2.Tended view.target awaited := by
  unfold beginResize
  rw [if_neg (by rw [isOpen]; nofun)]
  dsimp only
  split
  case isTrue many =>
    refine ⟨isOpen, looping, fun few => ?_, nofun⟩
    have cut : ((busiestFirst view (pool.channels.filter fun channel =>
        !(view.channel channel).isClosed)).take view.target).length = view.target := by
      rw [List.length_take, busiestFirst, List.length_mergeSort]
      omega
    dsimp only at few
    omega
  case isFalse few =>
    split
    case isTrue enough =>
      apply finishResize_tended
      · exact isOpen
      · exact looping
      · intro size same
        cases same
        exact Nat.le_of_eq enough.symm
      · intro fewer
        dsimp only at fewer
        omega
    case isFalse other =>
      refine ⟨isOpen, looping, fun _ => Or.inl rfl, ?_⟩
      intro caller aim results growing fewer
      cases growing
      omega

theorem ensureSize_tended (tended : pool.Tended view.target awaited) (caller : ResizeCaller)
    (later : Prop) : (pool.ensureSize view caller).2.Tended view.target later := by
  unfold ensureSize
  split
  · have queued : pool.queue ++ [caller] ≠ [] := List.append_ne_nil_of_right_ne_nil _ nofun
    exact ⟨tended.isOpen, tended.looping, fun _ => Or.inr (Or.inr (Or.inr queued)),
      fun _ _ _ _ _ => Or.inr (Or.inr queued)⟩
  · exact beginResize_tended tended.isOpen tended.looping caller later

theorem resume_tended (tended : pool.Tended view.target awaited) :
    (pool.resume view).2.Tended view.target awaited := by
  unfold resume
  split
  · exact beginResize_tended tended.isOpen tended.looping _ awaited
  · exact tended

theorem size_le_length (view : PoolView) (pool : Pool) : pool.size view ≤ pool.channels.length :=
  List.countP_le_length

theorem drained_tended (tended : pool.Tended view.target awaited) (channel : ChannelId) :
    (pool.drained view channel).2.Tended view.target awaited := by
  unfold drained
  split
  case h_1 caller left draining =>
    have followed (few : pool.channels.length < view.target) : pool.Follows awaited := by
      refine (tended.short few).resolve_left fun growing => ?_
      unfold isGrowing at growing
      rw [draining] at growing
      cases growing
    split
    · apply finishResize_tended
      · exact tended.isOpen
      · exact tended.looping
      · intro size same
        cases same
        exact size_le_length view pool
      · exact followed
    · exact ⟨tended.isOpen, tended.looping, fun few => Or.inr (followed few), nofun⟩
  case h_2 => exact tended

theorem seekMore_eq (pool : Pool) (aim : Nat) (isOpen : pool.isClosed = false)
    (looping : pool.isReconnecting = true → pool.schedule ≠ none) :
    ∃ isReconnecting schedule,
      (pool.seekMore aim).2 = { pool with isReconnecting, schedule } ∧
        (isReconnecting = true → schedule ≠ none) ∧ (pool.schedule ≠ none → schedule ≠ none) ∧
        (pool.channels.length < aim → schedule ≠ none) := by
  unfold seekMore
  by_cases few : pool.channels.length < aim
  · rw [if_pos few]
    obtain ⟨isReconnecting, schedule, same, running⟩ := scheduleReconnect_eq pool isOpen looping
    exact ⟨isReconnecting, schedule, same, fun _ => running, fun _ => running, fun _ => running⟩
  · rw [if_neg few]
    exact ⟨pool.isReconnecting, pool.schedule, rfl, looping, fun kept => kept,
      fun fewer => absurd fewer few⟩

theorem grown_tended (tended : pool.Tended view.target awaited) {caller : ResizeCaller}
    {aim : Nat} {places : List (Option (Except DriverError ChannelId))}
    (growing : pool.resizing = some (caller, .connecting aim places))
    (results : List (Except DriverError ChannelId)) :
    (pool.grown view caller aim results).2.Tended view.target awaited := by
  obtain ⟨effects, result, same, counted, _⟩ :=
    grown_of_open pool.node view tended.isOpen caller aim results
  obtain ⟨isReconnecting, schedule, sought, alive, kept, started⟩ :=
    seekMore_eq (pool.grownBy results) aim tended.isOpen tended.looping
  rw [same, sought]
  apply finishResize_tended
  · exact tended.isOpen
  · exact alive
  · intro size isSize
    rcases counted with whole | ⟨error, failed⟩
    · exact Nat.le_of_eq (Except.ok.inj (isSize.symm.trans whole))
    · exact absurd (isSize.symm.trans failed) nofun
  · intro few
    by_cases fewer : (pool.grownBy results).channels.length < aim
    · exact Or.inr (Or.inl (started fewer))
    · have outgrown : aim < view.target := by
        dsimp only at few
        omega
      exact (tended.outgrown caller aim places growing outgrown).imp_right (Or.imp_left kept)

theorem connected_tended (tended : pool.Tended view.target awaited) (place : Nat)
    (result : Except DriverError ChannelId) :
    (pool.connected view place result).2.Tended view.target awaited := by
  unfold connected
  split
  case h_1 caller aim places growing =>
    dsimp only
    split
    · exact grown_tended tended growing _
    · refine ⟨tended.isOpen, tended.looping, fun _ => Or.inl rfl, ?_⟩
      intro other size results same few
      cases same
      exact tended.outgrown _ _ places growing few
  case h_2 => exact tended

theorem lost_tended (tended : pool.Tended view.target awaited) (channel : ChannelId) :
    (pool.lost view channel).2.Tended view.target awaited := by
  unfold lost
  split
  · exact tended
  · dsimp only
    rw [if_neg (by rw [tended.isOpen]; nofun)]
    obtain ⟨isReconnecting, schedule, sought, alive, kept, started⟩ :=
      seekMore_eq
        { pool with channels := pool.channels.filter fun held => decide (held ≠ channel) }
        view.target tended.isOpen tended.looping
    unfold seekMore at sought
    rw [sought]
    exact ⟨tended.isOpen, alive, fun few => Or.inr (Or.inr (Or.inl (started few))),
      fun caller aim results growing few =>
        (tended.outgrown caller aim results growing few).imp_right (Or.imp_left kept)⟩

theorem wake_tended (tended : pool.Tended view.target awaited) :
    (pool.wake view).2.Tended view.target awaited := by
  unfold wake
  split
  · exact tended
  · rw [if_neg (by rw [tended.isOpen]; nofun)]
    by_cases none : view.target = 0
    · rw [if_pos none]
      refine ⟨tended.isOpen, nofun, fun few => ?_, fun _ _ _ _ few => ?_⟩
      · omega
      · omega
    · rw [if_neg none]
      exact ensureSize_tended tended .loop awaited

/-- A loop that runs is enough for any shortage. -/
theorem scheduleReconnect_tended (isOpen : pool.isClosed = false)
    (looping : pool.isReconnecting = true → pool.schedule ≠ none) (target : Nat) (later : Prop) :
    pool.scheduleReconnect.2.Tended target later := by
  obtain ⟨isReconnecting, schedule, same, running⟩ := scheduleReconnect_eq pool isOpen looping
  rw [same]
  exact ⟨isOpen, fun _ => running, fun _ => Or.inr (Or.inr (Or.inl running)),
    fun _ _ _ _ _ => Or.inr (Or.inl running)⟩

theorem onNodeDown_tended (tended : pool.Tended target awaited) (later : Prop) :
    pool.onNodeDown.2.Tended target later := by
  let emptied : Pool := { pool with channels := [] }
  have isOpen : emptied.isClosed = false := tended.isOpen
  exact scheduleReconnect_tended isOpen tended.looping target later

theorem undertake_tended (tended : pool.Tended view.target awaited) (task : PoolTask) :
    (pool.undertake view task).2.Tended view.target awaited := by
  cases task with
  | resize caller => exact ensureSize_tended tended caller awaited
  | resume => exact resume_tended tended
  | connected place result => exact connected_tended tended place result
  | drained channel => exact drained_tended tended channel
  | lost channel => exact lost_tended tended channel
  | wake => exact wake_tended tended
  | nodeDown => exact onNodeDown_tended tended awaited

end CqlDriver.Pool

/-
A pool that shall have no channels. None of its steps begins an attempt to open one. A resize that
begins then takes away from the requests all channels that the pool holds; each channel that was
ever opened is closed, or it is drained, and the end of its drain closes it.
-/

import CqlDriver.Proofs.Pool.Leaving

namespace CqlDriver

namespace Pool

/-- No attempt to open a channel is begun. -/
def Unattempted (effects : List PoolEffect) : Prop :=
  ∀ effect ∈ effects, effect.isAttempt = false

variable {view : PoolView} {pool : Pool} {id : ChannelId}

theorem Unattempted.of_aside {effects : List PoolEffect}
    (aside : ∀ effect ∈ effects, effect.isAside = true) : Unattempted effects :=
  fun effect member => PoolEffect.isAttempt_of_isAside (aside effect member)

theorem Unattempted.append {first second : List PoolEffect} (before : Unattempted first)
    (after : Unattempted second) : Unattempted (first ++ second) := by
  intro effect member
  exact (List.mem_append.mp member).elim (before effect) (after effect)

theorem finishResize_unattempted (caller : ResizeCaller) (result : Except DriverError Nat)
    (pool : Pool) : Unattempted (pool.finishResize view caller result).1 :=
  .of_aside (finishResize_aside caller result pool)

theorem closeChannels_unattempted (reason : String) (pool : Pool) :
    Unattempted (pool.closeChannels reason).1 := by
  simp [Unattempted, closeChannels, PoolEffect.isAttempt]

/-- A resize that is to leave no channels. -/
theorem beginResize_empties (none : view.target = 0)
    (vacant : pool.isClosed = true → pool.channels = []) (caller : ResizeCaller) :
    let outcome := pool.beginResize view caller
    Unattempted outcome.1 ∧ outcome.2.channels = [] ∧
      ∀ id ∈ pool.channels, (view.channel id).isClosed = true ∨
        .drain id ∈ outcome.1 ∧ outcome.2.isDraining id = true := by
  intro outcome
  have shape : outcome = pool.beginResize view caller := rfl
  unfold beginResize at shape
  rw [none] at shape
  dsimp only at shape
  have held (id : ChannelId) (member : id ∈ pool.channels) :
      (view.channel id).isClosed = true ∨
        id ∈ pool.channels.filter fun id => !(view.channel id).isClosed := by
    cases closed : (view.channel id).isClosed with
    | true => exact .inl rfl
    | false => exact .inr (by simp [member, closed])
  split at shape
  · rename_i isClosed
    rw [shape]
    refine ⟨finishResize_unattempted caller _ pool, ?_, ?_⟩
    · rw [finishResize_channels]
      exact vacant isClosed
    · simp [vacant isClosed]
  · split at shape
    · rw [shape]
      refine ⟨by simp [Unattempted, PoolEffect.isAttempt], by simp, fun id member => ?_⟩
      refine (held id member).imp_right fun still => ?_
      have sorted : id ∈ busiestFirst view
          (pool.channels.filter fun id => !(view.channel id).isClosed) :=
        (List.mergeSort_perm _ _).mem_iff.mpr still
      simp [isDraining, sorted]
    · rename_i few
      have nothing : (pool.channels.filter fun id => !(view.channel id).isClosed) = [] := by
        apply List.eq_nil_of_length_eq_zero
        omega
      rw [nothing] at held shape
      rw [shape]
      refine ⟨finishResize_unattempted caller _ _, ?_, fun id member => ?_⟩
      · exact finishResize_channels caller _ _
      · exact .inl ((held id member).resolve_right List.not_mem_nil)

theorem grown_unattempted (caller : ResizeCaller) (target : Nat)
    (results : List (Except DriverError ChannelId)) (pool : Pool) :
    Unattempted (pool.grown view caller target results).1 := by
  have watching : Unattempted ((opened results).map .watch) := by
    simp [Unattempted, PoolEffect.isAttempt]
  cases isClosed : pool.isClosed with
  | true =>
      unfold grown
      rw [if_pos isClosed]
      apply (watching.append (closeChannels_unattempted _ _)).append
      exact finishResize_unattempted _ _ _
  | false =>
      obtain ⟨upward, downward, result, same, up, ended⟩ :=
        grown_parts view isClosed caller target results
      have signalUp : Unattempted upward := by
        rw [up]
        split
        · simp [Unattempted]
        · simp [Unattempted, PoolEffect.isAttempt]
      have signalDown : Unattempted downward := by
        rcases ended with ⟨rfl, _⟩ | ⟨rfl, _⟩
        · simp [Unattempted]
        · simp [Unattempted, PoolEffect.isAttempt]
      have seeking := Unattempted.of_aside (seekMore_aside target (pool.grownBy results))
      rw [same]
      exact (((watching.append signalUp).append seeking).append signalDown).append
        (finishResize_unattempted _ _ _)

theorem lost_unattempted (gone : ChannelId) (pool : Pool) :
    Unattempted (pool.lost view gone).1 := by
  rcases pool.lost_cases view gone with same | ⟨signals, word, same⟩
  · rw [same]
    exact nofun
  · have signalling : Unattempted signals := by
      rcases word with rfl | rfl
      · simp [Unattempted]
      · simp [Unattempted, PoolEffect.isAttempt]
    rw [same]
    exact signalling.append (.of_aside (seekMore_aside _ _))

theorem undertake_unattempted (none : view.target = 0)
    (vacant : pool.isClosed = true → pool.channels = []) (task : PoolTask) :
    Unattempted (pool.undertake view task).1 := by
  have nothing : Unattempted [] := nofun
  cases task with
  | resize caller =>
      change Unattempted (pool.ensureSize view caller).1
      unfold ensureSize
      split
      · exact nothing
      · exact (beginResize_empties none vacant caller).1
  | resume =>
      change Unattempted (pool.resume view).1
      unfold resume
      split
      · exact (beginResize_empties none vacant _).1
      · exact nothing
  | connected place result =>
      change Unattempted (pool.connected view place result).1
      unfold connected
      split
      · dsimp only
        split
        · exact grown_unattempted _ _ _ pool
        · exact nothing
      · exact nothing
  | drained id =>
      change Unattempted (pool.drained view id).1
      unfold drained
      split
      · split
        · exact finishResize_unattempted _ _ pool
        · exact nothing
      · exact nothing
  | lost id =>
      exact lost_unattempted id pool
  | wake =>
      change Unattempted (pool.wake view).1
      unfold wake
      rw [if_pos none]
      split
      · exact nothing
      · split
        · exact nothing
        · exact nothing
  | nodeDown =>
      exact (closeChannels_unattempted _ pool).append (.of_aside (scheduleReconnect_aside _))

theorem isDraining_of_resizing {after : Pool} (same : after.resizing = pool.resizing)
    (draining : pool.isDraining id = true) : after.isDraining id = true := by
  unfold isDraining at draining ⊢
  rw [same]
  exact draining

theorem isDraining_undertake (draining : pool.isDraining id = true) {task : PoolTask}
    (goesOn : task ≠ .drained id) : (pool.undertake view task).2.isDraining id = true := by
  obtain ⟨caller, left, resizing, among⟩ : ∃ caller left,
      pool.resizing = some (caller, .draining left) ∧ id ∈ left := by
    unfold isDraining at draining
    split at draining
    · exact ⟨_, _, by assumption, of_decide_eq_true draining⟩
    · cases draining
  have kept {after : Pool} (same : after.resizing = pool.resizing) :
      after.isDraining id = true := isDraining_of_resizing same draining
  cases task with
  | resize caller =>
      apply kept
      change (pool.ensureSize view caller).2.resizing = _
      unfold ensureSize
      rw [resizing]
  | resume =>
      apply kept
      change (pool.resume view).2.resizing = _
      unfold resume
      rw [resizing]
      exact resizing
  | connected place result =>
      apply kept
      change (pool.connected view place result).2.resizing = _
      unfold connected
      rw [resizing]
      exact resizing
  | drained other =>
      have different : id ≠ other := fun same => goesOn (by rw [same])
      have still := (List.mem_erase_of_ne different).mpr among
      change (pool.drained view other).2.isDraining id = true
      unfold drained
      rw [resizing]
      dsimp only
      split
      · rename_i none
        rw [none] at still
        cases still
      · exact decide_eq_true still
  | lost gone =>
      apply kept
      change (pool.lost view gone).2.resizing = _
      rcases pool.lost_cases view gone with same | ⟨_, _, same⟩
      · rw [same]
        rfl
      · rw [same]
        exact ((pool.without gone).seekMore_same view.target).resizing
  | wake =>
      apply kept
      change (pool.wake view).2.resizing = _
      unfold wake
      split
      · rfl
      · split
        · rfl
        · split
          · rfl
          · unfold ensureSize
            rw [resizing]
  | nodeDown =>
      apply kept
      exact (closeChannels "node reported down" pool).2.scheduleReconnect_same.resizing

end Pool

namespace ChannelView

variable {channels : List Channel} {id : ChannelId} {change : Channel → Channel}

theorem isOpen_among :
    (among channels id).isOpen = false ↔
      ∀ channel, channels[id.number]? = some channel → channel.isOpen = false := by
  unfold among
  cases channels[id.number]? with
  | none => exact ⟨fun _ => nofun, fun _ => rfl⟩
  | some channel => simp [Channel.view]

theorem isOpen_of_isClosed (closed : (among channels id).isClosed = true) :
    (among channels id).isOpen = false := by
  rw [isClosed_among] at closed
  rw [isOpen_among]
  intro channel found
  have shut : channel.table.closed.isSome = true := closed channel found
  simp [Channel.isOpen, StreamTable.isOpen, Option.isNone_eq_false_iff.mpr shut]

theorem isOpen_modify
    (lasting : ∀ channel, channel.isOpen = false → (change channel).isOpen = false)
    (shut : (among channels id).isOpen = false) (place : Nat) :
    (among (channels.modify place change) id).isOpen = false := by
  rw [isOpen_among] at shut ⊢
  intro channel found
  rw [List.getElem?_modify] at found
  obtain ⟨before, present, same⟩ := Option.map_eq_some_iff.mp found
  rw [← same]
  split
  · exact lasting before (shut before present)
  · exact shut before present

end ChannelView

namespace Channel

theorem isOpen_drain (channel : Channel) : channel.drain.isOpen = false := by
  simp [Channel.drain, Channel.isOpen, StreamTable.drain, StreamTable.isOpen]

theorem isOpen_close (reason : String) (channel : Channel) :
    (channel.close reason).2.isOpen = false := by
  have shut : (channel.close reason).2.table.closed.isSome = true := channel.isClosed_close reason
  simp [Channel.isOpen, StreamTable.isOpen, Option.isNone_eq_false_iff.mpr shut]

end Channel

namespace PoolEffect

variable {channels : List Channel} {effects : List PoolEffect} {id : ChannelId}

theorem isOpen_foldl_touch (shut : (ChannelView.among channels id).isOpen = false)
    (effects : List PoolEffect) :
    (ChannelView.among (effects.foldl touch channels) id).isOpen = false := by
  induction effects generalizing channels with
  | nil => exact shut
  | cons effect rest ih =>
      apply ih
      cases effect with
      | drain other =>
          exact ChannelView.isOpen_modify (fun channel _ => channel.isOpen_drain) shut _
      | close other reason =>
          exact ChannelView.isOpen_modify (fun channel _ => channel.isOpen_close reason) shut _
      | _ => exact shut

theorem isOpen_foldl_drain (member : .drain id ∈ effects) :
    (ChannelView.among (effects.foldl touch channels) id).isOpen = false := by
  obtain ⟨earlier, later, rfl⟩ := List.append_of_mem member
  rw [List.foldl_append, List.foldl_cons]
  apply isOpen_foldl_touch
  rw [ChannelView.isOpen_among]
  intro channel found
  unfold touch at found
  rw [List.getElem?_modify] at found
  obtain ⟨before, _, same⟩ := Option.map_eq_some_iff.mp found
  rw [← same, if_pos rfl]
  exact before.isOpen_drain

end PoolEffect

namespace PoolSite

variable {site : PoolSite} {move : PoolMove} {id : ChannelId}

/-- Where a pool shall have no channels, no move begins an attempt to open one. -/
theorem attempts_perform (accounted : site.Accounted) (none : site.target = 0) (move : PoolMove) :
    (site.perform move).attempts = site.attempts := by
  have quiet {outcome : List PoolEffect × Pool} (unattempted : Pool.Unattempted outcome.1) :
      outcome.1.countP PoolEffect.isAttempt = 0 := by
    rw [List.countP_eq_zero]
    intro effect member
    simp [unattempted effect member]
  have moved := site.perform_moved move
  generalize site.perform move = after at moved
  cases moved with
  | idle | channel | retarget => rfl
  | @task _ channels watched pausing task known =>
      exact congrArg (site.attempts + ·)
        (quiet (Pool.undertake_unattempted none accounted.emptied task))
  | reconnect =>
      exact congrArg (site.attempts + ·) (quiet (.of_aside (Pool.scheduleReconnect_aside _)))
  | close =>
      refine congrArg (site.attempts + ·) (quiet ?_)
      unfold Pool.close
      split
      · exact nofun
      · exact Pool.closeChannels_unattempted _ _

/-- The resize that begins with a move, and looks at the target. The loop asks for none where
there shall be no channels. -/
def beginner? (site : PoolSite) : PoolMove → Option ResizeCaller
  | .ask caller => if caller = .loop ∨ site.pool.resizing.isSome then none else some caller
  | .resume =>
      match site.pool.resizing with
      | some (caller, .granted) => some caller
      | _ => none
  | _ => none

theorem perform_of_beginner? {caller : ResizeCaller} (begins : site.beginner? move = some caller) :
    site.pool.inHand = [] ∧
      site.perform move = site.carryOut (site.pool.beginResize site.view caller) := by
  cases move with
  | ask other =>
      unfold beginner? at begins
      dsimp only at begins
      split at begins
      · cases begins
      · rename_i free
        cases begins
        simp only [not_or, Bool.not_eq_true, Option.isSome_eq_false_iff,
          Option.isNone_iff_eq_none] at free
        obtain ⟨notLoop, idle⟩ := free
        constructor
        · unfold Pool.inHand
          rw [idle]
        · change site.ask caller = _
          unfold PoolSite.ask work Pool.undertake Pool.ensureSize
          rw [if_neg notLoop, idle]
  | resume =>
      unfold beginner? at begins
      dsimp only at begins
      split at begins
      · rename_i granted
        cases begins
        constructor
        · unfold Pool.inHand
          rw [granted]
        · change site.work .resume = _
          unfold work Pool.undertake Pool.resume
          rw [granted]
      · cases begins
  | connected | drained | tell | wake | nodeDown | reconnect | close | channel | retarget =>
      cases begins

structure Fading (bound : Nat) (site : PoolSite) : Prop where
  within : bound ≤ site.channels.length
  fades : ∀ id : ChannelId, id.number < bound →
    (site.view.channel id).isClosed = true ∨ site.pool.isDraining id = true

variable {bound : Nat}

theorem Fading.work (fading : site.Fading bound) {channels : List Channel}
    {watched : List ChannelId} {pausing : Nat} {task : PoolTask}
    (more : bound ≤ channels.length)
    (lasting : ∀ id : ChannelId, id.number < bound → (site.view.channel id).isClosed = true →
      (ChannelView.among channels id).isClosed = true)
    (drained : ∀ id, task = .drained id → (ChannelView.among channels id).isClosed = true) :
    ({ site with channels, watched, pausing }.work task).Fading bound := by
  constructor
  · unfold PoolSite.work
    rw [length_carryOut]
    exact more
  · intro id known
    by_cases ends : task = .drained id
    · exact .inl (isClosed_carryOut (drained id ends))
    · refine (fading.fades id known).imp (fun closed => ?_) fun draining => ?_
      · exact isClosed_carryOut (lasting id known closed)
      · exact Pool.isDraining_undertake draining ends

theorem Fading.task (fading : site.Fading bound) {task : PoolTask}
    (other : ∀ id, task ≠ .drained id) : (site.work task).Fading bound :=
  fading.work fading.within (fun _ _ closed => closed) fun id same => absurd same (other id)

theorem Fading.carryOut (fading : site.Fading bound) {outcome : List PoolEffect × Pool}
    (resizing : outcome.2.resizing = site.pool.resizing) :
    (site.carryOut outcome).Fading bound := by
  constructor
  · rw [length_carryOut]
    exact fading.within
  · intro id known
    exact (fading.fades id known).imp isClosed_carryOut (Pool.isDraining_of_resizing resizing)

theorem Fading.connect (fading : site.Fading bound) (place : Nat)
    (outcome : Except DriverError (List UInt8 × Nat)) :
    (site.connect place outcome).Fading bound := by
  unfold PoolSite.connect
  split
  · split
    · exact fading.task nofun
    · apply fading.work
      · rw [List.length_append]
        exact Nat.le_add_right_of_le fading.within
      · intro id known closed
        have earlier : id.number ≠ site.channels.length :=
          Nat.ne_of_lt (Nat.lt_of_lt_of_le known fading.within)
        rw [ChannelView.among_append_of_ne _ earlier]
        exact closed
      · exact nofun
  · exact fading

theorem Fading.finishDrain (fading : site.Fading bound) (id : ChannelId) :
    (site.finishDrain id).Fading bound ∧
      (id.number < bound → ((site.finishDrain id).view.channel id).isClosed = true) := by
  have shuts (channel : Channel) : (channel.close Channel.drainedReason).2.isClosed = true :=
    channel.isClosed_close Channel.drainedReason
  unfold PoolSite.finishDrain
  split
  · constructor
    · apply fading.work
      · rw [List.length_modify]
        exact fading.within
      · intro other _ closed
        exact ChannelView.isClosed_modify (fun channel _ => shuts channel) closed id.number
      · intro other same
        cases same
        exact ChannelView.isClosed_modify_self shuts
    · intro _
      exact isClosed_carryOut (ChannelView.isClosed_modify_self shuts)
  · rename_i ended
    exact ⟨fading, fun known => (fading.fades id known).resolve_right ended⟩

theorem Fading.perform (fading : site.Fading bound) (move : PoolMove) :
    (site.perform move).Fading bound := by
  cases move with
  | ask caller =>
      change (site.ask caller).Fading bound
      unfold ask
      split
      · exact fading
      · exact fading.task nofun
  | resume => exact fading.task nofun
  | connected place outcome => exact fading.connect place outcome
  | drained id => exact (fading.finishDrain id).1
  | tell id =>
      change (site.tell id).Fading bound
      unfold tell
      split
      · exact fading.work fading.within (fun _ _ closed => closed) nofun
      · exact fading
  | wake =>
      change site.wake.Fading bound
      unfold wake
      split
      · exact fading
      · exact fading.work fading.within (fun _ _ closed => closed) nofun
  | nodeDown => exact fading.task nofun
  | reconnect => exact fading.carryOut site.pool.scheduleReconnect_same.resizing
  | close =>
      apply fading.carryOut
      unfold Pool.close
      split
      · rfl
      · rfl
  | channel id move =>
      constructor
      · exact Nat.le_trans fading.within (Nat.le_of_eq (List.length_modify _ _ _).symm)
      · intro other known
        refine (fading.fades other known).imp_left fun closed => ?_
        exact ChannelView.isClosed_modify (fun _ already => move.isClosed_perform already) closed _
  | retarget target => exact ⟨fading.within, fading.fades⟩

theorem Fading.performAll (fading : site.Fading bound) (moves : List PoolMove) :
    (site.performAll moves).Fading bound := by
  induction moves generalizing site with
  | nil => exact fading
  | cons move rest ih => exact ih (fading.perform move)

theorem fading_of_beginner? (accounted : site.Accounted) (none : site.target = 0)
    {caller : ResizeCaller} (begins : site.beginner? move = some caller) :
    let after := site.perform move
    after.pool.channels = [] ∧ (∀ id, (after.view.channel id).isOpen = false) ∧
      after.Fading site.channels.length := by
  intro after
  obtain ⟨free, same⟩ := perform_of_beginner? begins
  have untargeted : site.view.target = 0 := none
  obtain ⟨_, emptied, handled⟩ := Pool.beginResize_empties untargeted accounted.emptied caller
  have begun : after = site.carryOut (site.pool.beginResize site.view caller) := same
  have covered (id : ChannelId) : (site.view.channel id).isClosed = true ∨
      .drain id ∈ (site.pool.beginResize site.view caller).1 ∧
        (site.pool.beginResize site.view caller).2.isDraining id = true := by
    rcases accounted.covered id with held | closed
    · unfold Pool.Holds at held
      rw [free] at held
      exact handled id (held.resolve_right List.not_mem_nil)
    · exact .inl closed
  rw [begun]
  refine ⟨emptied, fun id => ?_, Nat.le_of_eq (length_carryOut _ _).symm, fun id _ => ?_⟩
  · rcases covered id with closed | ⟨drained, _⟩
    · exact ChannelView.isOpen_of_isClosed (isClosed_carryOut closed)
    · exact PoolEffect.isOpen_foldl_drain drained
  · exact (covered id).imp isClosed_carryOut fun drained => drained.2

end PoolSite

end CqlDriver

/-
The loop of a pool. An open pool has at most one, and says so exactly as long as it has it:
the loop pauses, or the resize that it asked for is not over. Only a pool that was not said to
have a loop gets one.
-/

import CqlDriver.Proofs.Pool.Tasks

namespace CqlDriver.Pool

/-- With so many loops that pause, and with these callers whose resizes are not over, the pool
has one loop if it says that it tries again, and none otherwise. -/
structure OneLoop (pausing : Nat) (callers : List ResizeCaller) (pool : Pool) : Prop where
  scheduled : pool.schedule.isSome = pool.isReconnecting
  alive : pausing + callers.count .loop = pool.isReconnecting.toNat

def alarms (effects : List PoolEffect) : Nat := effects.countP PoolEffect.isAlarm

def Loops (pausing : Nat) (outcome : List PoolEffect × Pool) : Prop :=
  outcome.2.OneLoop (pausing + alarms outcome.1) outcome.2.callers

variable {view : PoolView} {pool : Pool} {pausing : Nat} {callers : List ResizeCaller}

@[simp] theorem alarms_append (first second : List PoolEffect) :
    alarms (first ++ second) = alarms first + alarms second :=
  List.countP_append

theorem alarms_map {Item : Type} {effect : Item → PoolEffect}
    (calm : ∀ item, (effect item).isAlarm = false) (items : List Item) :
    alarms (items.map effect) = 0 := by
  unfold alarms
  rw [List.countP_eq_zero]
  intro other member
  obtain ⟨item, _, rfl⟩ := List.mem_map.mp member
  rw [calm item]
  nofun

theorem OneLoop.scheduleReconnect (one : pool.OneLoop pausing callers)
    (isOpen : pool.isClosed = false) :
    pool.scheduleReconnect.2.OneLoop (pausing + alarms pool.scheduleReconnect.1) callers := by
  unfold Pool.scheduleReconnect
  rw [isOpen, Bool.false_or]
  cases running : pool.isReconnecting with
  | true => exact one
  | false =>
      have none := one.alive
      rw [running, Bool.toNat_false] at none
      refine ⟨rfl, ?_⟩
      change pausing + 1 + callers.count .loop = 1
      omega

theorem OneLoop.seekMore (one : pool.OneLoop pausing callers) (isOpen : pool.isClosed = false)
    (target : Nat) :
    (pool.seekMore target).2.OneLoop (pausing + alarms (pool.seekMore target).1) callers := by
  unfold Pool.seekMore
  split
  · exact one.scheduleReconnect isOpen
  · exact one

theorem OneLoop.running (one : pool.OneLoop pausing (.loop :: callers)) :
    pool.isReconnecting = true ∧ pausing + callers.count .loop = 0 := by
  have alive := one.alive
  rw [List.count_cons_self] at alive
  cases flag : pool.isReconnecting with
  | true =>
      rw [flag, Bool.toNat_true] at alive
      exact ⟨rfl, by omega⟩
  | false =>
      rw [flag, Bool.toNat_false] at alive
      omega

theorem OneLoop.continueLoop (one : pool.OneLoop pausing (.loop :: callers))
    (isOpen : pool.isClosed = false) :
    pool.continueLoop.2.OneLoop (pausing + alarms pool.continueLoop.1) callers := by
  obtain ⟨running, others⟩ := one.running
  obtain ⟨schedule, found⟩ := Option.isSome_iff_exists.mp (one.scheduled.trans running)
  unfold Pool.continueLoop
  rw [isOpen, found]
  refine ⟨running.symm, ?_⟩
  change pausing + 1 + callers.count .loop = pool.isReconnecting.toNat
  rw [running, Bool.toNat_true]
  omega

theorem OneLoop.endLoop (one : pool.OneLoop pausing (.loop :: callers)) :
    pool.endLoop.OneLoop pausing callers :=
  ⟨rfl, one.running.2⟩

theorem OneLoop.report {caller : ResizeCaller} (one : pool.OneLoop pausing (caller :: callers))
    (isOpen : pool.isClosed = false) (result : Except DriverError Nat) :
    (pool.report view caller result).2.OneLoop
      (pausing + alarms (pool.report view caller result).1) callers := by
  have unheard (other : caller ≠ .loop) : pool.OneLoop pausing callers := by
    refine ⟨one.scheduled, ?_⟩
    rw [← one.alive, List.count_cons_of_ne other]
  cases caller with
  | caller number => exact unheard nofun
  | session => exact unheard nofun
  | background => exact unheard nofun
  | loop =>
      cases result with
      | error error => exact one.continueLoop isOpen
      | ok size =>
          unfold Pool.report
          dsimp only
          split
          · exact one.endLoop
          · exact one.continueLoop isOpen

theorem loops_finishResize {caller : ResizeCaller}
    (one : pool.OneLoop pausing (caller :: pool.queue)) (isOpen : pool.isClosed = false)
    (result : Except DriverError Nat) : Loops pausing (pool.finishResize view caller result) := by
  unfold Loops
  rw [finishResize_callers]
  cases waiting : pool.queue with
  | nil =>
      rw [waiting] at one
      rw [finishResize_of_alone waiting]
      have turned : { pool with resizing := none }.OneLoop pausing [caller] :=
        ⟨one.scheduled, one.alive⟩
      exact turned.report isOpen result
  | cons next rest =>
      rw [waiting] at one
      rw [finishResize_of_waiting waiting]
      have turned : { pool with resizing := some (next, .granted), queue := rest }.OneLoop pausing
          (caller :: next :: rest) :=
        ⟨one.scheduled, one.alive⟩
      exact turned.report isOpen result

theorem loops_beginResize {caller : ResizeCaller}
    (one : pool.OneLoop pausing (caller :: pool.queue)) (isOpen : pool.isClosed = false) :
    Loops pausing (pool.beginResize view caller) := by
  have working (stage : ResizeStage) {effects : List PoolEffect} (calm : alarms effects = 0)
      (channels : List ChannelId) :
      Loops pausing (effects, { pool with channels, resizing := some (caller, stage) }) := by
    unfold Loops
    rw [calm]
    exact ⟨one.scheduled, one.alive⟩
  unfold beginResize
  rw [if_neg (by rw [isOpen]; nofun)]
  dsimp only
  split
  · exact working _ (alarms_map (fun _ => rfl) _) _
  · split
    · apply loops_finishResize
      · exact ⟨one.scheduled, one.alive⟩
      · exact isOpen
    · exact working _ (alarms_map (fun _ => rfl) _) _

theorem callers_of_resizing {caller : ResizeCaller} {stage : ResizeStage}
    (working : pool.resizing = some (caller, stage)) : pool.callers = caller :: pool.queue := by
  unfold callers
  rw [working]
  rfl

theorem loops_ensureSize {caller : ResizeCaller}
    (one : pool.OneLoop pausing (caller :: pool.callers)) (isOpen : pool.isClosed = false) :
    Loops pausing (pool.ensureSize view caller) := by
  unfold ensureSize
  split
  · have last : ({ pool with queue := pool.queue ++ [caller] } : Pool).callers =
        pool.callers ++ [caller] :=
      (List.append_assoc _ _ _).symm
    refine ⟨one.scheduled, ?_⟩
    rw [last, ((List.perm_append_singleton caller pool.callers).count_eq ResizeCaller.loop)]
    exact one.alive
  · rename_i idle
    have alone : pool.callers = pool.queue := by
      unfold callers
      rw [idle]
      rfl
    rw [alone] at one
    exact loops_beginResize one isOpen

theorem loops_resume (one : pool.OneLoop pausing pool.callers) (isOpen : pool.isClosed = false) :
    Loops pausing (pool.resume view) := by
  unfold resume
  split
  · rename_i caller turn
    rw [callers_of_resizing turn] at one
    exact loops_beginResize one isOpen
  · exact one

theorem loops_grown {caller : ResizeCaller} (one : pool.OneLoop pausing (caller :: pool.queue))
    (isOpen : pool.isClosed = false) (target : Nat)
    (results : List (Except DriverError ChannelId)) :
    Loops pausing (pool.grown view caller target results) := by
  obtain ⟨upward, downward, result, same, up, ended⟩ :=
    grown_parts view isOpen caller target results
  have grownOne : (pool.grownBy results).OneLoop pausing (caller :: pool.queue) :=
    ⟨one.scheduled, one.alive⟩
  have kept := (pool.grownBy results).seekMore_same target
  have sought := grownOne.seekMore isOpen target
  have stillOpen : ((pool.grownBy results).seekMore target).2.isClosed = false :=
    kept.isClosed.trans isOpen
  rw [show pool.queue = ((pool.grownBy results).seekMore target).2.queue from kept.queue.symm]
    at sought
  have ending : Loops _ (Pool.finishResize view caller result _) :=
    loops_finishResize sought stillOpen result
  have calm : alarms ((opened results).map .watch) = 0 := alarms_map (fun _ => rfl) _
  have calmUp : alarms upward = 0 := by
    rw [up]
    split <;> rfl
  have calmDown : alarms downward = 0 := by
    rcases ended with ⟨rfl, _⟩ | ⟨rfl, _⟩ <;> rfl
  rw [same]
  unfold Loops at ending ⊢
  dsimp only
  simp only [alarms_append, calm, calmUp, calmDown, Nat.zero_add, Nat.add_zero]
  rw [← Nat.add_assoc]
  exact ending

theorem loops_connected (one : pool.OneLoop pausing pool.callers) (isOpen : pool.isClosed = false)
    (place : Nat) (result : Except DriverError ChannelId) :
    Loops pausing (pool.connected view place result) := by
  unfold connected
  split
  · rename_i caller target places growing
    rw [callers_of_resizing growing] at one
    dsimp only
    split
    · exact loops_grown one isOpen _ _
    · exact ⟨one.scheduled, one.alive⟩
  · exact one

theorem loops_lost (one : pool.OneLoop pausing pool.callers) (isOpen : pool.isClosed = false)
    (gone : ChannelId) : Loops pausing (pool.lost view gone) := by
  have fewer : (pool.without gone).OneLoop pausing pool.callers := ⟨one.scheduled, one.alive⟩
  have sought := fewer.seekMore isOpen view.target
  have kept := ((pool.without gone).seekMore_same view.target).callers
  rcases pool.lost_cases view gone with same | ⟨signals, word, same⟩
  · rw [same]
    exact fewer
  · have calm : alarms signals = 0 := by
      rcases word with rfl | rfl <;> rfl
    rw [same]
    unfold Loops
    dsimp only
    rw [alarms_append, calm, Nat.zero_add, kept]
    exact sought

theorem loops_wake (one : pool.OneLoop (pausing + 1) pool.callers)
    (isOpen : pool.isClosed = false) : Loops pausing (pool.wake view) := by
  have up : pool.OneLoop pausing (.loop :: pool.callers) := by
    refine ⟨one.scheduled, ?_⟩
    rw [← one.alive, List.count_cons_self]
    omega
  obtain ⟨schedule, running⟩ := Option.isSome_iff_exists.mp (one.scheduled.trans up.running.1)
  unfold wake
  rw [if_neg (by rw [running]; nofun), if_neg (by rw [isOpen]; nofun)]
  split
  · exact up.endLoop
  · exact loops_ensureSize up isOpen

theorem loops_onNodeDown (one : pool.OneLoop pausing pool.callers)
    (isOpen : pool.isClosed = false) : Loops pausing pool.onNodeDown := by
  have emptied : { pool with channels := [] }.OneLoop pausing pool.callers :=
    ⟨one.scheduled, one.alive⟩
  have sought := emptied.scheduleReconnect isOpen
  have kept := ({ pool with channels := [] } : Pool).scheduleReconnect_same.callers
  have calm : alarms (pool.closeChannels "node reported down").1 = 0 :=
    alarms_map (fun _ => rfl) _
  unfold Loops onNodeDown
  dsimp only
  rw [alarms_append, calm, Nat.zero_add]
  change Pool.OneLoop _ ({ pool with channels := [] } : Pool).scheduleReconnect.2.callers _
  rw [kept]
  exact sought

end CqlDriver.Pool

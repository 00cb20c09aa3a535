/-
A pool that is short of channels, while its target stays the same and it is not closed. From
the first time that it is asked for its size, or told to try again, somebody sees to what is
missing: the loop, or a resize. Otherwise a channel that it holds is closed, and the word of
that is on its way.
-/

import CqlDriver.Proofs.Pool.Fitting
import CqlDriver.Proofs.Pool.Looping
import CqlDriver.Proofs.Pool.Tending

namespace CqlDriver

namespace PoolMove

/-- The pool stays open, its target stays as it is, and nobody but the pool drains a channel. -/
def isOrdinary : PoolMove → Bool
  | .close | .retarget _ => false
  | .channel _ move => !move.isDrain
  | _ => true

def summons : PoolMove → Bool
  | .ask caller => decide (caller ≠ .loop)
  | .nodeDown | .reconnect => true
  | _ => false

end PoolMove

namespace PoolSite

structure Attended (awaited : Prop) (site : PoolSite) : Prop where
  tended : site.pool.Tended site.view.target awaited
  looping : site.pool.OneLoop site.pausing site.pool.callers
  fits : site.pool.Fits site.view.target
  watching : ∀ id ∈ site.pool.channels, id ∈ site.watched
  willing : ∀ channel ∈ site.channels, channel.table.draining = false

variable {site : PoolSite} {awaited later : Prop}

theorem start_attended (node : NodeId) (address : SocketAddress) (config : PoolConfig)
    (policy : ReconnectionPolicy) (channelConfig : ChannelConfig) (target : Nat) :
    (start node address config policy channelConfig target).Attended True where
  tended := ⟨rfl, nofun, fun _ => .inr (.inl trivial), nofun⟩
  looping := ⟨rfl, rfl⟩
  fits := ⟨Nat.zero_le _, nofun⟩
  watching := nofun
  willing := nofun

/-- What the pool does with the channels it had, of which each is still watched. -/
theorem attended_carryOut {channels : List Channel} {watched held : List ChannelId}
    {pausing : Nat} {outcome : List PoolEffect × Pool}
    (tended : outcome.2.Tended site.view.target later) (looping : Pool.Loops pausing outcome)
    (steady : Pool.Steady site.view.target held outcome) (watching : ∀ id ∈ held, id ∈ watched)
    (willing : ∀ channel ∈ channels, channel.table.draining = false) :
    ({ site with channels, watched, pausing }.carryOut outcome).Attended later where
  tended := tended
  looping := looping
  fits := steady.fits
  watching := fun id member => by
    rcases steady.watching id member with before | isNew
    · exact List.mem_append_left _ (watching id before)
    · exact List.mem_append_right _ (List.mem_filterMap.mpr ⟨_, isNew, rfl⟩)
  willing := PoolEffect.draining_foldl_touch steady.undrained willing

namespace Attended

theorem ask (attended : site.Attended awaited) {caller : ResizeCaller} (other : caller ≠ .loop)
    (later : Prop) : (site.ask caller).Attended later := by
  have isOpen := attended.tended.isOpen
  have asked : site.pool.OneLoop site.pausing (caller :: site.pool.callers) := by
    refine ⟨attended.looping.scheduled, ?_⟩
    rw [List.count_cons_of_ne other]
    exact attended.looping.alive
  unfold PoolSite.ask
  rw [if_neg other]
  exact attended_carryOut (Pool.ensureSize_tended attended.tended caller later)
    (Pool.loops_ensureSize asked isOpen) (Pool.ensureSize_steady attended.fits isOpen caller)
    attended.watching attended.willing

theorem nodeDown (attended : site.Attended awaited) (later : Prop) :
    (site.work .nodeDown).Attended later :=
  attended_carryOut (Pool.onNodeDown_tended attended.tended later)
    (Pool.loops_onNodeDown attended.looping attended.tended.isOpen)
    (Pool.onNodeDown_steady attended.fits) nofun attended.willing

theorem reconnect (attended : site.Attended awaited) (later : Prop) :
    (site.carryOut site.pool.scheduleReconnect).Attended later := by
  have isOpen := attended.tended.isOpen
  have looping : Pool.Loops site.pausing site.pool.scheduleReconnect := by
    unfold Pool.Loops
    rw [site.pool.scheduleReconnect_same.callers]
    exact attended.looping.scheduleReconnect isOpen
  exact attended_carryOut
    (Pool.scheduleReconnect_tended isOpen attended.tended.looping site.target later) looping
    (Pool.scheduleReconnect_steady attended.fits) attended.watching attended.willing

theorem connect (attended : site.Attended awaited) (place : Nat)
    (outcome : Except DriverError (List UInt8 × Nat)) :
    (site.connect place outcome).Attended awaited := by
  have isOpen := attended.tended.isOpen
  have works {channels : List Channel} (result : Except DriverError ChannelId)
      (willing : ∀ channel ∈ channels, channel.table.draining = false) :
      ({ site with channels }.work (.connected place result)).Attended awaited := by
    have tended : site.pool.Tended { site with channels }.view.target awaited := attended.tended
    exact attended_carryOut (Pool.connected_tended tended place result)
      (Pool.loops_connected attended.looping isOpen place result)
      (Pool.connected_steady attended.fits isOpen place result) attended.watching willing
  unfold PoolSite.connect
  split
  · split
    · exact works _ attended.willing
    · refine works _ fun channel member => ?_
      rcases List.mem_append.mp member with before | isNew
      · exact attended.willing channel before
      · cases List.mem_singleton.mp isNew
        rfl
  · exact attended

theorem finishDrain (attended : site.Attended awaited) (id : ChannelId) :
    (site.finishDrain id).Attended awaited := by
  unfold PoolSite.finishDrain
  split
  · rename_i claimed
    unfold Pool.isDraining at claimed
    split at claimed
    · rename_i caller left draining
      exact absurd draining (attended.fits.undrained caller left)
    · cases claimed
  · exact attended

theorem tell (attended : site.Attended awaited) (id : ChannelId) :
    (site.tell id).Attended awaited := by
  unfold PoolSite.tell
  split
  · refine attended_carryOut (Pool.lost_tended attended.tended id)
      (Pool.loops_lost attended.looping attended.tended.isOpen id)
      (Pool.lost_steady attended.fits id) (fun other held => ?_) attended.willing
    obtain ⟨before, differs⟩ := List.mem_filter.mp held
    exact (List.mem_erase_of_ne (of_decide_eq_true differs)).mpr (attended.watching other before)
  · exact attended

theorem wake (attended : site.Attended awaited) : site.wake.Attended awaited := by
  have looping := attended.looping
  have isOpen := attended.tended.isOpen
  unfold PoolSite.wake
  split
  · exact attended
  · rename_i pausing more
    rw [more] at looping
    exact attended_carryOut (Pool.wake_tended attended.tended) (Pool.loops_wake looping isOpen)
      (Pool.wake_steady attended.fits isOpen) attended.watching attended.willing

theorem perform (attended : site.Attended awaited) {move : PoolMove}
    (ordinary : move.isOrdinary = true) : (site.perform move).Attended awaited := by
  have isOpen := attended.tended.isOpen
  cases move with
  | ask caller =>
      by_cases isLoop : caller = .loop
      · change (site.ask caller).Attended awaited
        unfold PoolSite.ask
        rw [if_pos isLoop]
        exact attended
      · exact attended.ask isLoop awaited
  | resume =>
      exact attended_carryOut (Pool.resume_tended attended.tended)
        (Pool.loops_resume attended.looping isOpen) (Pool.resume_steady attended.fits isOpen)
        attended.watching attended.willing
  | connected place outcome => exact attended.connect place outcome
  | drained id => exact attended.finishDrain id
  | tell id => exact attended.tell id
  | wake => exact attended.wake
  | nodeDown => exact attended.nodeDown awaited
  | reconnect => exact attended.reconnect awaited
  | close => cases ordinary
  | channel id move =>
      refine ⟨attended.tended, attended.looping, attended.fits, attended.watching, ?_⟩
      refine forall_mem_modify attended.willing (fun channel same => ?_) id.number
      exact (move.draining_perform (Bool.not_eq_true' _ ▸ ordinary) channel).trans same
  | retarget target => cases ordinary

theorem performAll (attended : site.Attended awaited) {moves : List PoolMove}
    (ordinary : ∀ move ∈ moves, move.isOrdinary = true) :
    (site.performAll moves).Attended awaited := by
  induction moves generalizing site with
  | nil => exact attended
  | cons move rest ih =>
      have first := attended.perform (ordinary move List.mem_cons_self)
      exact ih first fun other member => ordinary other (List.mem_cons_of_mem _ member)

/-- From a move on that summons it, the pool waits for nobody. -/
theorem summoned (attended : site.Attended awaited) {move : PoolMove}
    (summons : move.summons = true) : (site.perform move).Attended False := by
  cases move with
  | ask caller => exact attended.ask (of_decide_eq_true summons) False
  | nodeDown => exact attended.nodeDown False
  | reconnect => exact attended.reconnect False
  | _ => cases summons

end Attended

theorem target_perform {move : PoolMove} (ordinary : move.isOrdinary = true) (site : PoolSite) :
    (site.perform move).target = site.target := by
  have moved := site.perform_moved move
  generalize site.perform move = after at moved
  cases moved with
  | retarget => cases ordinary
  | idle | task | reconnect | close | channel => rfl

theorem target_performAll {moves : List PoolMove}
    (ordinary : ∀ move ∈ moves, move.isOrdinary = true) (site : PoolSite) :
    (site.performAll moves).target = site.target := by
  induction moves generalizing site with
  | nil => rfl
  | cons move rest ih =>
      have first := target_perform (ordinary move List.mem_cons_self) site
      have others := fun other member => ordinary other (List.mem_cons_of_mem move member)
      exact (ih others (site.perform move)).trans first

/-- Among channels of which none turns its callers away, one that takes no requests is closed. -/
theorem isClosed_of_not_open (willing : ∀ channel ∈ site.channels, channel.table.draining = false)
    {id : ChannelId} (shut : (site.view.channel id).isOpen = false) :
    (site.view.channel id).isClosed = true := by
  refine ChannelView.isClosed_among.mpr fun channel found => ?_
  have view : site.view.channel id = channel.view := by
    change ((site.channels[id.number]?).map Channel.view).getD .gone = _
    rw [found]
    rfl
  have notOpen : (channel.table.closed.isNone && !channel.table.draining) = false := by
    rw [view] at shut
    exact shut
  rw [willing channel (List.mem_of_getElem? found), Bool.not_false, Bool.and_true] at notOpen
  change channel.table.closed.isSome = true
  rw [← Option.not_isNone, notOpen]
  rfl

/-- Somebody sees to what the pool is short of: its loop, or a resize; or it is still to be
told that a channel is closed which it holds. -/
def SeenTo (site : PoolSite) : Prop :=
  0 < site.loops ∨ site.pool.callers ≠ [] ∨
    ∃ id ∈ site.pool.channels, (site.view.channel id).isClosed = true ∧ id ∈ site.watched

theorem Attended.seenTo (attended : site.Attended False)
    (short : site.pool.size site.view < site.target) : site.SeenTo := by
  obtain ⟨tended, looping, -, watching, willing⟩ := attended
  by_cases few : site.pool.channels.length < site.target
  · have working (stage : site.pool.resizing ≠ none) : site.pool.callers ≠ [] :=
      fun nobody => stage (Pool.resizing_of_nobody nobody)
    rcases tended.short few with growing | impossible | running | waiting
    · refine .inr (.inl (working fun idle => ?_))
      unfold Pool.isGrowing at growing
      rw [idle] at growing
      cases growing
    · exact impossible.elim
    · left
      have flag := looping.scheduled.symm.trans (Option.isSome_iff_ne_none.mpr running)
      change 0 < site.pausing + site.pool.callers.count .loop
      rw [looping.alive, flag]
      exact Nat.zero_lt_one
    · exact .inr (.inl (List.append_ne_nil_of_right_ne_nil _ waiting))
  · have some : ∃ id ∈ site.pool.channels, (site.view.channel id).isOpen = false := by
      by_contra none
      have all : ∀ id ∈ site.pool.channels, (site.view.channel id).isOpen = true := by
        intro id member
        cases shut : (site.view.channel id).isOpen with
        | true => rfl
        | false => exact absurd ⟨id, member, shut⟩ none
      have whole : site.pool.size site.view = site.pool.channels.length :=
        List.countP_eq_length.mpr all
      omega
    obtain ⟨id, member, shut⟩ := some
    exact .inr (.inr ⟨id, member, isClosed_of_not_open willing shut, watching id member⟩)

/-- No shortage is forgotten. While the pool stays open and its target is the same, a pool that
was asked for its size, or told to try again, and that has fewer open channels than it shall
have is seen to. Whatever its target is, it says that it tries again exactly as long as it has a
loop, and it never has two. -/
theorem shortage_is_seen_to (node : NodeId) (address : SocketAddress) (config : PoolConfig)
    (policy : ReconnectionPolicy) (channelConfig : ChannelConfig) (target : Nat)
    (moves : List PoolMove) (ordinary : ∀ move ∈ moves, move.isOrdinary = true) :
    let site := (start node address config policy channelConfig target).performAll moves
    ((∃ move ∈ moves, move.summons = true) → site.pool.size site.view < target → site.SeenTo) ∧
      (site.pool.isReconnecting = true ↔ site.loops = 1) ∧ site.loops ≤ 1 := by
  intro site
  have begun := start_attended node address config policy channelConfig target
  have loops : site.loops = site.pool.isReconnecting.toNat :=
    (begun.performAll ordinary).looping.alive
  refine ⟨?_, ?_, loops ▸ Bool.toNat_le _⟩
  · rintro ⟨move, member, summons⟩ short
    obtain ⟨before, after, rfl⟩ := List.append_of_mem member
    obtain ⟨early, rest⟩ := List.forall_mem_append.mp ordinary
    have summoned := (begun.performAll early).summoned summons
    have attended : site.Attended False := by
      have whole := summoned.performAll fun other member =>
        rest other (List.mem_cons_of_mem move member)
      change Attended False (performAll _ (before ++ move :: after))
      rw [performAll_append]
      exact whole
    have same : site.target = target := target_performAll ordinary _
    exact attended.seenTo (same.symm ▸ short)
  · rw [loops]
    cases site.pool.isReconnecting with
    | true => exact ⟨fun _ => rfl, fun _ => rfl⟩
    | false => exact ⟨nofun, nofun⟩

/-- The channel that a pool has opened is closed, and the pool does not know yet. -/
def unnoticedLoss : List PoolMove :=
  [.ask (.caller 0), .connected 0 (.ok ([], 3)), .channel ⟨0⟩ (.whole (.close "reset"))]

def afterUnnoticedLoss : PoolSite := (small 1).performAll unnoticedLoss

theorem unnoticed_loss_is_seen_to :
    (∀ move ∈ unnoticedLoss, move.isOrdinary = true) ∧
      (∃ move ∈ unnoticedLoss, move.summons = true) ∧
      afterUnnoticedLoss.pool.size afterUnnoticedLoss.view < 1 ∧
      afterUnnoticedLoss.loops = 0 ∧ afterUnnoticedLoss.pool.callers = [] ∧
      afterUnnoticedLoss.SeenTo ∧ afterUnnoticedLoss.pool.isReconnecting = false := by
  have ordinary : ∀ move ∈ unnoticedLoss, move.isOrdinary = true := by
    simp [unnoticedLoss, PoolMove.isOrdinary, ChannelMove.isDrain]
  have summons : ∃ move ∈ unnoticedLoss, move.summons = true :=
    ⟨.ask (.caller 0), List.mem_cons_self, rfl⟩
  have short : afterUnnoticedLoss.pool.size afterUnnoticedLoss.view < 1 := by decide
  have seen := shortage_is_seen_to ⟨1⟩ (small 1).pool.address {} (.constant (.ofSecs 1))
    (small 1).channelConfig 1 unnoticedLoss ordinary
  exact ⟨ordinary, summons, short, rfl, rfl, seen.1 summons short, rfl⟩

end PoolSite

end CqlDriver

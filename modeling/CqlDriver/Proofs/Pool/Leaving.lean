/-
The end of a pool. A pool that is closed begins no attempt to open a channel any more. Once
those who had asked for resizes have their answers, it has no channel, every channel that it
ever opened is closed, and it never opens another one.
-/

import CqlDriver.Proofs.Pool.Holdings

namespace CqlDriver

namespace PoolSite

structure Accounted (site : PoolSite) : Prop where
  covered : ∀ id, site.pool.Holds id ∨ (site.view.channel id).isClosed = true
  emptied : site.pool.isClosed = true → site.pool.channels = []

variable {site : PoolSite} {id : ChannelId} {outcome : List PoolEffect × Pool}

theorem isClosed_carryOut (closed : (site.view.channel id).isClosed = true) :
    ((site.carryOut outcome).view.channel id).isClosed = true :=
  PoolEffect.isClosed_foldl_touch closed outcome.1

theorem length_carryOut (site : PoolSite) (outcome : List PoolEffect × Pool) :
    (site.carryOut outcome).channels.length = site.channels.length :=
  PoolEffect.length_foldl_touch site.channels outcome.1

theorem covered_carryOut {held : ChannelId → Prop}
    (accounts : Pool.Accounts site.view held outcome)
    (covered : ∀ id, held id ∨ (site.view.channel id).isClosed = true) (id : ChannelId) :
    (site.carryOut outcome).pool.Holds id ∨
      ((site.carryOut outcome).view.channel id).isClosed = true := by
  rcases covered id with member | closed
  · rcases accounts id member with still | closed | ⟨reason, closing⟩
    · exact .inl still
    · exact .inr (isClosed_carryOut closed)
    · exact .inr (PoolEffect.isClosed_foldl_close closing)
  · exact .inr (isClosed_carryOut closed)

theorem start_accounted (node : NodeId) (address : SocketAddress) (config : PoolConfig)
    (policy : ReconnectionPolicy) (channelConfig : ChannelConfig) (target : Nat) :
    (start node address config policy channelConfig target).Accounted :=
  ⟨fun _ => .inr rfl, fun _ => rfl⟩

theorem vacant_of_closed (accounted : site.Accounted) (isClosed : site.pool.isClosed = true) :
    site.pool.Vacant :=
  ⟨isClosed, accounted.emptied isClosed⟩

theorem isClosed_work (site : PoolSite) (task : PoolTask) :
    (site.work task).pool.isClosed = site.pool.isClosed :=
  (Pool.undertake_keeps site.pool.node site.view task site.pool).isClosed

namespace Accounted

theorem work {channels : List Channel} {watched : List ChannelId} {pausing : Nat}
    (accounted : site.Accounted) {task : PoolTask} {held : ChannelId → Prop} :
    let ready := { site with channels, watched, pausing }
    Pool.Accounts ready.view held (site.pool.undertake ready.view task) →
    (∀ id, held id ∨ (ready.view.channel id).isClosed = true) → (ready.work task).Accounted := by
  intro ready accounts covered
  refine ⟨covered_carryOut accounts covered, fun isClosed => ?_⟩
  have before : site.pool.isClosed = true := (isClosed_work ready task).symm.trans isClosed
  exact ((vacant_of_closed accounted before).undertake task).1.channels

theorem ask (accounted : site.Accounted) (caller : ResizeCaller) : (site.ask caller).Accounted := by
  unfold PoolSite.ask
  split
  · exact accounted
  · exact accounted.work (Pool.ensureSize_accounts caller site.pool) accounted.covered

theorem connect (accounted : site.Accounted) (place : Nat)
    (outcome : Except DriverError (List UInt8 × Nat)) : (site.connect place outcome).Accounted := by
  unfold PoolSite.connect
  split
  · rename_i undecided
    split
    · rename_i error
      exact accounted.work (Pool.connected_accounts undecided _) fun id =>
        (accounted.covered id).imp_left .inl
    · rename_i unread now
      refine accounted.work (Pool.connected_accounts undecided _) fun id => ?_
      by_cases isNew : id.number = site.channels.length
      · refine .inl (.inr ?_)
        rw [← isNew]
      · refine (accounted.covered id).imp .inl fun closed => ?_
        exact (congrArg _ (ChannelView.among_append_of_ne _ isNew)).trans closed
  · exact accounted

theorem finishDrain (accounted : site.Accounted) (id : ChannelId) :
    (site.finishDrain id).Accounted := by
  have shuts : ∀ channel : Channel, (channel.close Channel.drainedReason).2.isClosed = true :=
    fun channel => channel.isClosed_close Channel.drainedReason
  unfold PoolSite.finishDrain
  split
  · refine accounted.work (Pool.drained_accounts ?_ site.pool) fun other => ?_
    · exact ChannelView.isClosed_modify_self shuts
    · refine (accounted.covered other).imp_right fun closed => ?_
      exact ChannelView.isClosed_modify (fun channel _ => shuts channel) closed id.number
  · exact accounted

theorem tell (accounted : site.Accounted) (id : ChannelId) : (site.tell id).Accounted := by
  unfold PoolSite.tell
  split
  · rename_i due
    exact accounted.work (Pool.lost_accounts due.2 site.pool) accounted.covered
  · exact accounted

theorem wake (accounted : site.Accounted) : site.wake.Accounted := by
  unfold PoolSite.wake
  split
  · exact accounted
  · exact accounted.work (Pool.wake_accounts site.pool) accounted.covered

theorem reconnect (accounted : site.Accounted) :
    (site.carryOut site.pool.scheduleReconnect).Accounted := by
  have same := site.pool.scheduleReconnect_same
  refine ⟨covered_carryOut (Pool.accounts_of_same same.channels same.resizing)
    accounted.covered, fun isClosed => ?_⟩
  exact same.channels.trans (accounted.emptied (same.isClosed.symm.trans isClosed))

theorem close (accounted : site.Accounted) : (site.carryOut site.pool.close).Accounted := by
  refine ⟨covered_carryOut site.pool.close_accounts accounted.covered, fun _ => ?_⟩
  change site.pool.close.2.channels = []
  cases isOpen : site.pool.isClosed with
  | true =>
      rw [Pool.close_of_closed isOpen]
      exact accounted.emptied isOpen
  | false => rw [Pool.close_of_open isOpen]

theorem channel (accounted : site.Accounted) (id : ChannelId) (move : ChannelMove) :
    (site.perform (.channel id move)).Accounted := by
  refine ⟨fun other => (accounted.covered other).imp_right fun closed => ?_, accounted.emptied⟩
  exact ChannelView.isClosed_modify (fun _ already => move.isClosed_perform already) closed _

theorem perform (accounted : site.Accounted) (move : PoolMove) : (site.perform move).Accounted := by
  cases move with
  | ask caller => exact accounted.ask caller
  | resume => exact accounted.work (Pool.resume_accounts site.pool) accounted.covered
  | connected place outcome => exact accounted.connect place outcome
  | drained id => exact accounted.finishDrain id
  | tell id => exact accounted.tell id
  | wake => exact accounted.wake
  | nodeDown => exact accounted.work (Pool.onNodeDown_accounts site.pool) accounted.covered
  | reconnect => exact accounted.reconnect
  | close => exact accounted.close
  | channel id move => exact accounted.channel id move
  | retarget target => exact ⟨accounted.covered, accounted.emptied⟩

theorem performAll (accounted : site.Accounted) (moves : List PoolMove) :
    (site.performAll moves).Accounted := by
  induction moves generalizing site with
  | nil => exact accounted
  | cons move rest ih => exact ih (accounted.perform move)

end Accounted

/-- The channels of a pool of which nothing is held are all closed. -/
theorem Accounted.all_closed (accounted : site.Accounted) (empty : site.pool.channels = [])
    (nobody : site.pool.callers = []) : ∀ channel ∈ site.channels, channel.isClosed = true := by
  intro channel member
  obtain ⟨place, found⟩ := List.mem_iff_getElem?.mp member
  have idle := Pool.resizing_of_nobody nobody
  rcases accounted.covered ⟨place⟩ with (held | inHand) | closed
  · rw [empty] at held
    cases held
  · unfold Pool.inHand at inHand
    rw [idle] at inHand
    cases inHand
  · exact ChannelView.isClosed_among.mp closed channel found

/-- The pool stays closed and without channels, and no attempt was begun. -/
def Idles (before after : PoolSite) : Prop :=
  after.pool.Vacant ∧ after.attempts = before.attempts

theorem idles_of_vacant {channels : List Channel} {watched : List ChannelId} {pausing : Nat}
    {outcome : List PoolEffect × Pool} (stays : Pool.StaysVacant outcome) :
    site.Idles ({ site with channels, watched, pausing }.carryOut outcome) := by
  have none : outcome.1.countP PoolEffect.isAttempt = 0 := by
    rw [List.countP_eq_zero]
    intro effect member
    rw [stays.2 effect member]
    nofun
  refine ⟨stays.1, ?_⟩
  change site.attempts + outcome.1.countP PoolEffect.isAttempt = site.attempts
  rw [none, Nat.add_zero]

theorem perform_idles (vacant : site.pool.Vacant) (move : PoolMove) :
    site.Idles (site.perform move) := by
  have moved := site.perform_moved move
  generalize site.perform move = after at moved
  cases moved with
  | idle => exact ⟨vacant, rfl⟩
  | task task known => exact idles_of_vacant (vacant.undertake task)
  | reconnect =>
      apply idles_of_vacant
      rw [Pool.scheduleReconnect_of_closed vacant.isClosed]
      exact vacant.idle
  | close =>
      apply idles_of_vacant
      rw [Pool.close_of_closed vacant.isClosed]
      exact vacant.idle
  | channel same => exact ⟨vacant, rfl⟩
  | retarget => exact ⟨vacant, rfl⟩

theorem performAll_idles (vacant : site.pool.Vacant) (moves : List PoolMove) :
    site.Idles (site.performAll moves) := by
  induction moves generalizing site with
  | nil => exact ⟨vacant, rfl⟩
  | cons move rest ih =>
      obtain ⟨still, same⟩ := perform_idles vacant move
      obtain ⟨later, sameLater⟩ := ih still
      exact ⟨later, sameLater.trans same⟩

def Rests (before after : PoolSite) : Prop :=
  after.pool.callers = [] ∧ after.channels.length = before.channels.length

theorem perform_rests (vacant : site.pool.Vacant) (nobody : site.pool.callers = [])
    (move : PoolMove) : site.Rests (site.perform move) := by
  have resting := Pool.resizing_of_nobody nobody
  have decided (place : Nat) : site.pool.isUndecided place ≠ true := by
    unfold Pool.isUndecided
    rw [resting]
    nofun
  have moved := site.perform_moved move
  generalize site.perform move = after at moved
  cases moved with
  | idle => exact ⟨nobody, rfl⟩
  | task task known =>
      have same := known.resolve_right fun ⟨place, undecided⟩ => decided place undecided
      exact ⟨vacant.callers_undertake nobody task, (length_carryOut _ _).trans same⟩
  | reconnect =>
      exact ⟨site.pool.scheduleReconnect_same.callers.trans nobody, length_carryOut _ _⟩
  | close =>
      refine ⟨?_, length_carryOut _ _⟩
      change site.pool.close.2.callers = []
      rw [Pool.close_of_closed vacant.isClosed]
      exact nobody
  | channel same => exact ⟨nobody, same⟩
  | retarget => exact ⟨nobody, rfl⟩

theorem performAll_rests (vacant : site.pool.Vacant) (nobody : site.pool.callers = [])
    (moves : List PoolMove) : site.Rests (site.performAll moves) := by
  induction moves generalizing site with
  | nil => exact ⟨nobody, rfl⟩
  | cons move rest ih =>
      obtain ⟨still, same⟩ := perform_rests vacant nobody move
      obtain ⟨later, sameLater⟩ := ih (perform_idles vacant move).1 still
      exact ⟨later, sameLater.trans same⟩

/-- A pool that was closed begins no attempt to open a channel any more. Once nobody waits
for a resize, its channels are all closed, those that were being opened or drained when it
was closed as well as the others; and whatever is asked of it later, it opens none. -/
theorem nothing_outlives_close (node : NodeId) (address : SocketAddress) (config : PoolConfig)
    (policy : ReconnectionPolicy) (channelConfig : ChannelConfig) (target : Nat)
    (moves : List PoolMove) (closing : .close ∈ moves) :
    let site := (start node address config policy channelConfig target).performAll moves
    (∀ later, (site.performAll later).attempts = site.attempts) ∧
      (site.pool.callers = [] → ∀ later, let after := site.performAll later
        after.pool.channels = [] ∧ (∀ channel ∈ after.channels, channel.isClosed = true) ∧
          after.channels.length = site.channels.length) := by
  intro site
  have accounted : site.Accounted :=
    (start_accounted node address config policy channelConfig target).performAll moves
  have vacant : site.pool.Vacant := by
    obtain ⟨before, rest, whole⟩ := List.append_of_mem closing
    let shut := ((start node address config policy channelConfig target).performAll before).perform
      .close
    have accountedShut : shut.Accounted := ((start_accounted node address config policy
      channelConfig target).performAll before).perform .close
    have isClosed : shut.pool.isClosed = true := Pool.close_isClosed _
    have same : site = shut.performAll rest := by
      change performAll _ moves = _
      rw [whole, performAll_append]
      rfl
    rw [same]
    exact (performAll_idles (vacant_of_closed accountedShut isClosed) rest).1
  refine ⟨fun later => (performAll_idles vacant later).2, fun nobody later => ?_⟩
  have empty := (performAll_idles vacant later).1.channels
  obtain ⟨still, same⟩ := performAll_rests vacant nobody later
  exact ⟨empty, (accounted.performAll later).all_closed empty still, same⟩

/-- Two channels are being opened when the pool is closed. One attempt has succeeded before,
the other one succeeds only then. -/
def lateConnect : List PoolMove :=
  [.ask (.caller 0), .connected 0 (.ok ([], 3)), .close, .connected 1 (.ok ([], 5))]

def afterLateConnect : PoolSite := (small 2).performAll lateConnect

theorem late_connection_is_closed :
    .close ∈ lateConnect ∧ afterLateConnect.pool.callers = [] ∧
      afterLateConnect.channels.length = 2 ∧
      (∀ channel ∈ afterLateConnect.channels, channel.isClosed = true) ∧
      (afterLateConnect.performAll [.ask (.caller 1)]).attempts = 2 := by
  have closing : .close ∈ lateConnect := by simp [lateConnect]
  obtain ⟨unattempted, settled⟩ := nothing_outlives_close ⟨1⟩ (small 2).pool.address {}
    (.constant (.ofSecs 1)) (small 2).channelConfig 2 lateConnect closing
  exact ⟨closing, rfl, rfl, (settled rfl []).2.1, unattempted [.ask (.caller 1)]⟩

end PoolSite

end CqlDriver

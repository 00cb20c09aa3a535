/-
A pool and all that goes on around it, in any order: those who ask for resizes, the attempts
to open channels, what happens to the channels, the word that a channel is closed, and the
loop that wakes after its pauses. Between two of these steps nothing is half done.
-/

import CqlDriver.Proofs.Channel.Lasting
import CqlDriver.Proofs.Pool.Tasks

namespace CqlDriver

structure PoolSite where
  pool : Pool
  target : Nat
  channelConfig : ChannelConfig
  /-- All channels that the pool ever opened, each at the place of its number. -/
  channels : List Channel := []
  /-- The channels of which the pool is still to be told when they are closed. -/
  watched : List ChannelId := []
  pausing : Nat := 0
  attempts : Nat := 0

inductive PoolMove where
  /-- Somebody asks for a resize. The loop asks for its own when it wakes. -/
  | ask (caller : ResizeCaller)
  | resume
  /-- An attempt to open a channel ends, at best with bytes received behind the agreement
  and at a time. -/
  | connected (place : Nat) (outcome : Except DriverError (List UInt8 × Nat))
  | drained (id : ChannelId)
  | tell (id : ChannelId)
  | wake
  | nodeDown
  | reconnect
  | close
  | channel (id : ChannelId) (move : ChannelMove)
  | retarget (target : Nat)

def ChannelView.among (channels : List Channel) (id : ChannelId) : ChannelView :=
  (channels[id.number]?.map Channel.view).getD .gone

namespace PoolEffect

def touch (channels : List Channel) : PoolEffect → List Channel
  | .drain id => channels.modify id.number Channel.drain
  | .close id reason => channels.modify id.number fun channel => (channel.close reason).2
  | _ => channels

def watched? : PoolEffect → Option ChannelId
  | .watch id => some id
  | _ => none

def isAttempt : PoolEffect → Bool
  | .connect _ => true
  | _ => false

end PoolEffect

namespace PoolSite

def start (node : NodeId) (address : SocketAddress) (config : PoolConfig)
    (policy : ReconnectionPolicy) (channelConfig : ChannelConfig) (target : Nat) : PoolSite :=
  { pool := { node, address, config, policy }, target, channelConfig }

def small (target : Nat) : PoolSite :=
  start ⟨1⟩ { ip := .ofParts 10 0 0 1, port := 9042 } {} (.constant (.ofSecs 1))
    { version := .v4
      connectTimeout := .ofMillis 500
      heartbeatInterval := .ofSecs 30
      heartbeatTimeout := .ofSecs 5
      maxRequests := 4
      maxOrphans := 0 } target

def view (site : PoolSite) : PoolView :=
  { target := site.target, channel := ChannelView.among site.channels }

def carryOut (site : PoolSite) (outcome : List PoolEffect × Pool) : PoolSite :=
  { site with
    pool := outcome.2
    channels := outcome.1.foldl PoolEffect.touch site.channels
    watched := site.watched ++ outcome.1.filterMap PoolEffect.watched?
    pausing := site.pausing + outcome.1.countP PoolEffect.isAlarm
    attempts := site.attempts + outcome.1.countP PoolEffect.isAttempt }

def work (site : PoolSite) (task : PoolTask) : PoolSite :=
  site.carryOut (site.pool.undertake site.view task)

def ask (site : PoolSite) (caller : ResizeCaller) : PoolSite :=
  if caller = .loop then site else site.work (.resize caller)

def connect (site : PoolSite) (place : Nat) (outcome : Except DriverError (List UInt8 × Nat)) :
    PoolSite :=
  if site.pool.isUndecided place then
    match outcome with
    | .error error => site.work (.connected place (.error error))
    | .ok (unread, now) =>
        let channel := Channel.start site.pool.address site.channelConfig unread now
        { site with channels := site.channels ++ [channel] }.work
          (.connected place (.ok ⟨site.channels.length⟩))
  else site

def finishDrain (site : PoolSite) (id : ChannelId) : PoolSite :=
  if site.pool.isDraining id then
    { site with
      channels := site.channels.modify id.number fun channel =>
        (channel.close Channel.drainedReason).2 }.work (.drained id)
  else site

def tell (site : PoolSite) (id : ChannelId) : PoolSite :=
  if id ∈ site.watched ∧ (site.view.channel id).isClosed = true then
    { site with watched := site.watched.erase id }.work (.lost id)
  else site

def wake (site : PoolSite) : PoolSite :=
  match site.pausing with
  | 0 => site
  | pausing + 1 => { site with pausing }.work .wake

def perform (site : PoolSite) : PoolMove → PoolSite
  | .ask caller => site.ask caller
  | .resume => site.work .resume
  | .connected place outcome => site.connect place outcome
  | .drained id => site.finishDrain id
  | .tell id => site.tell id
  | .wake => site.wake
  | .nodeDown => site.work .nodeDown
  | .reconnect => site.carryOut site.pool.scheduleReconnect
  | .close => site.carryOut site.pool.close
  | .channel id move =>
      { site with
        channels := site.channels.modify id.number fun channel => (move.perform channel).2 }
  | .retarget target => { site with target }

def performAll (site : PoolSite) (moves : List PoolMove) : PoolSite := moves.foldl perform site

/-- How many loops are alive: they pause, or their resize is not over. -/
def loops (site : PoolSite) : Nat := site.pausing + site.pool.callers.count .loop

theorem performAll_append (site : PoolSite) (moves more : List PoolMove) :
    site.performAll (moves ++ more) = (site.performAll moves).performAll more :=
  List.foldl_append

inductive Moved (site : PoolSite) : PoolMove → PoolSite → Prop
  | idle {move : PoolMove} : Moved site move site
  | task {move : PoolMove} {channels : List Channel} {watched : List ChannelId} {pausing : Nat}
      (task : PoolTask) (known : channels.length = site.channels.length ∨
        ∃ place, site.pool.isUndecided place = true) :
      Moved site move ({ site with channels, watched, pausing }.work task)
  | reconnect : Moved site .reconnect (site.carryOut site.pool.scheduleReconnect)
  | close : Moved site .close (site.carryOut site.pool.close)
  | channel {id : ChannelId} {move : ChannelMove} {channels : List Channel}
      (same : channels.length = site.channels.length) :
      Moved site (.channel id move) { site with channels }
  | retarget {target : Nat} : Moved site (.retarget target) { site with target }

theorem perform_moved (site : PoolSite) (move : PoolMove) : site.Moved move (site.perform move) := by
  cases move with
  | ask caller =>
      change site.Moved _ (site.ask caller)
      unfold ask
      split
      · exact .idle
      · exact .task (.resize caller) (.inl rfl)
  | resume => exact .task .resume (.inl rfl)
  | connected place outcome =>
      change site.Moved _ (site.connect place outcome)
      unfold connect
      split
      · rename_i undecided
        split
        · exact .task (.connected place _) (.inl rfl)
        · exact .task (.connected place _) (.inr ⟨place, undecided⟩)
      · exact .idle
  | drained id =>
      change site.Moved _ (site.finishDrain id)
      unfold finishDrain
      split
      · exact .task (.drained id) (.inl (List.length_modify _ _ _))
      · exact .idle
  | tell id =>
      change site.Moved _ (site.tell id)
      unfold tell
      split
      · exact .task (.lost id) (.inl rfl)
      · exact .idle
  | wake =>
      change site.Moved _ site.wake
      unfold wake
      split
      · exact .idle
      · exact .task .wake (.inl rfl)
  | nodeDown => exact .task .nodeDown (.inl rfl)
  | reconnect => exact .reconnect
  | close => exact .close
  | channel id move => exact .channel (List.length_modify _ _ _)
  | retarget target => exact .retarget

end PoolSite

namespace ChannelView

variable {channels : List Channel} {id : ChannelId} {change : Channel → Channel}

theorem isClosed_among :
    (among channels id).isClosed = true ↔
      ∀ channel, channels[id.number]? = some channel → channel.isClosed = true := by
  unfold among
  cases channels[id.number]? with
  | none => exact ⟨fun _ => nofun, fun _ => rfl⟩
  | some channel =>
      refine ⟨fun closed other same => ?_, fun all => all channel rfl⟩
      rw [← Option.some.inj same]
      exact closed

theorem among_append_of_ne (channel : Channel) (other : id.number ≠ channels.length) :
    among (channels ++ [channel]) id = among channels id := by
  unfold among
  by_cases within : id.number < channels.length
  · rw [List.getElem?_append_left within]
  · rw [List.getElem?_eq_none (by rw [List.length_append, List.length_singleton]; omega),
      List.getElem?_eq_none (by omega)]

theorem isClosed_modify
    (lasting : ∀ channel, channel.isClosed = true → (change channel).isClosed = true)
    (closed : (among channels id).isClosed = true) (place : Nat) :
    (among (channels.modify place change) id).isClosed = true := by
  rw [isClosed_among] at closed ⊢
  intro channel found
  rw [List.getElem?_modify] at found
  obtain ⟨before, present, same⟩ := Option.map_eq_some_iff.mp found
  rw [← same]
  split
  · exact lasting before (closed before present)
  · exact closed before present

theorem isClosed_modify_self (shuts : ∀ channel, (change channel).isClosed = true) :
    (among (channels.modify id.number change) id).isClosed = true := by
  rw [isClosed_among]
  intro channel found
  rw [List.getElem?_modify] at found
  obtain ⟨before, _, same⟩ := Option.map_eq_some_iff.mp found
  rw [← same, if_pos rfl]
  exact shuts before

end ChannelView

theorem forall_mem_modify {Item : Type} {items : List Item} {change : Item → Item}
    {Holds : Item → Prop} (all : ∀ item ∈ items, Holds item)
    (kept : ∀ item, Holds item → Holds (change item)) (place : Nat) :
    ∀ item ∈ items.modify place change, Holds item := by
  intro item member
  obtain ⟨index, found⟩ := List.mem_iff_getElem?.mp member
  rw [List.getElem?_modify] at found
  obtain ⟨before, present, same⟩ := Option.map_eq_some_iff.mp found
  have held := all before (List.mem_of_getElem? present)
  rw [← same]
  split
  · exact kept before held
  · exact held

namespace PoolEffect

variable {channels : List Channel} {effects : List PoolEffect} {id : ChannelId}

def isAside : PoolEffect → Bool
  | .connect _ | .drain _ | .watch _ | .close _ _ => false
  | .signalUp | .signalDown | .wakeAfter _ | .resume | .resized _ _ => true

theorem isAttempt_of_isAside {effect : PoolEffect} (aside : effect.isAside = true) :
    effect.isAttempt = false := by
  cases effect with
  | connect place => cases aside
  | _ => rfl

theorem length_foldl_touch (channels : List Channel) (effects : List PoolEffect) :
    (effects.foldl touch channels).length = channels.length := by
  induction effects generalizing channels with
  | nil => rfl
  | cons effect rest ih =>
      rw [List.foldl_cons, ih]
      cases effect with
      | drain other => exact List.length_modify _ _ _
      | close other reason => exact List.length_modify _ _ _
      | _ => rfl

theorem isClosed_touch (closed : (ChannelView.among channels id).isClosed = true)
    (effect : PoolEffect) : (ChannelView.among (touch channels effect) id).isClosed = true := by
  cases effect with
  | drain other =>
      have lasting : ∀ channel : Channel, channel.isClosed = true →
          channel.drain.isClosed = true := fun _ already => already
      exact ChannelView.isClosed_modify lasting closed _
  | close other reason =>
      exact ChannelView.isClosed_modify (fun channel _ => channel.isClosed_close reason) closed _
  | _ => exact closed

theorem isClosed_foldl_touch (closed : (ChannelView.among channels id).isClosed = true)
    (effects : List PoolEffect) :
    (ChannelView.among (effects.foldl touch channels) id).isClosed = true := by
  induction effects generalizing channels with
  | nil => exact closed
  | cons effect rest ih => exact ih (isClosed_touch closed effect)

theorem isClosed_foldl_close {reason : String} (member : .close id reason ∈ effects) :
    (ChannelView.among (effects.foldl touch channels) id).isClosed = true := by
  obtain ⟨earlier, later, rfl⟩ := List.append_of_mem member
  rw [List.foldl_append, List.foldl_cons]
  refine isClosed_foldl_touch ?_ later
  exact ChannelView.isClosed_modify_self fun channel => channel.isClosed_close reason

/-- Without a drain all channels take requests as before, or are closed. -/
theorem draining_foldl_touch (undrained : ∀ id, .drain id ∉ effects)
    (willing : ∀ channel ∈ channels, channel.table.draining = false) :
    ∀ channel ∈ effects.foldl touch channels, channel.table.draining = false := by
  induction effects generalizing channels with
  | nil => exact willing
  | cons effect rest ih =>
      refine ih (fun id member => undrained id (List.mem_cons_of_mem _ member)) ?_
      cases effect with
      | drain id => exact absurd List.mem_cons_self (undrained id)
      | close id reason =>
          refine forall_mem_modify willing (fun channel same => ?_) id.number
          exact (Channel.draining_close reason channel).trans same
      | _ => exact willing

end PoolEffect

namespace Pool

variable {view : PoolView} {pool : Pool}

theorem scheduleReconnect_aside (pool : Pool) :
    ∀ effect ∈ pool.scheduleReconnect.1, effect.isAside = true := by
  unfold scheduleReconnect
  split
  · simp
  · simp [PoolEffect.isAside]

theorem seekMore_aside (target : Nat) (pool : Pool) :
    ∀ effect ∈ (pool.seekMore target).1, effect.isAside = true := by
  unfold seekMore
  split
  · exact scheduleReconnect_aside pool
  · simp

theorem continueLoop_aside (pool : Pool) :
    ∀ effect ∈ pool.continueLoop.1, effect.isAside = true := by
  unfold continueLoop
  split
  · simp [PoolEffect.isAside]
  · simp

theorem report_aside (caller : ResizeCaller) (result : Except DriverError Nat) (pool : Pool) :
    ∀ effect ∈ (pool.report view caller result).1, effect.isAside = true := by
  unfold report
  split
  · split
    · simp
    · exact continueLoop_aside pool
  · exact continueLoop_aside pool
  · simp [PoolEffect.isAside]

theorem finishResize_aside (caller : ResizeCaller) (result : Except DriverError Nat)
    (pool : Pool) : ∀ effect ∈ (pool.finishResize view caller result).1, effect.isAside = true := by
  cases waiting : pool.queue with
  | nil =>
      rw [finishResize_of_alone waiting]
      exact report_aside caller result _
  | cons next rest =>
      rw [finishResize_of_waiting waiting]
      exact List.forall_mem_cons.mpr ⟨rfl, report_aside caller result _⟩

end Pool

end CqlDriver

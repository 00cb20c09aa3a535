/-
The channels to one node. A pool is brought to its size by resizes, which take
turns: one that comes while another is at work waits for it. A pool that stays
below its size has a loop that tries again after growing delays.
-/

import CqlDriver.Channel.Channel
import CqlDriver.Pool.Target
import CqlDriver.Policy.Reconnection

namespace CqlDriver

structure ChannelView where
  isOpen : Bool
  isClosed : Bool
  streamsInUse : Nat
  deriving DecidableEq, Repr, Inhabited

def Channel.view (channel : Channel) : ChannelView :=
  { isOpen := channel.isOpen
    isClosed := channel.isClosed
    streamsInUse := channel.streamsInUse }

/-- What a pool sees around it: the number of channels that it shall have, and the
channels. -/
structure PoolView where
  target : Nat
  channel : ChannelId → ChannelView

inductive ResizeCaller where
  | caller (number : Nat)
  | session
  /-- The session, because something changed; nobody waits for the result. -/
  | background
  | loop
  deriving DecidableEq, Repr, Inhabited

inductive ResizeStage where
  | granted
  | draining (left : List ChannelId)
  /-- It waits for new channels, each of which may be decided already. -/
  | connecting (target : Nat) (results : List (Option (Except DriverError ChannelId)))

inductive PoolEffect where
  | connect (place : Nat)
  | drain (channel : ChannelId)
  | watch (channel : ChannelId)
  | close (channel : ChannelId) (reason : String)
  | signalUp
  | signalDown
  | wakeAfter (delay : Span)
  | resume
  | resized (caller : ResizeCaller) (result : Except DriverError Nat)

structure Pool where
  node : NodeId
  address : SocketAddress
  config : PoolConfig
  policy : ReconnectionPolicy
  channels : List ChannelId := []
  isClosed : Bool := false
  isReconnecting : Bool := false
  schedule : Option ReconnectionSchedule := none
  resizing : Option (ResizeCaller × ResizeStage) := none
  queue : List ResizeCaller := []

namespace Pool

def size (view : PoolView) (pool : Pool) : Nat :=
  pool.channels.countP fun channel => (view.channel channel).isOpen

def isUsable (view : PoolView) (pool : Pool) : Bool :=
  pool.channels.any fun channel => (view.channel channel).isOpen

/-- The first of the channels with the fewest streams in use. -/
def leastLoaded (view : PoolView) : List ChannelId → Option ChannelId
  | [] => none
  | channel :: rest =>
      match leastLoaded view rest with
      | none => some channel
      | some other =>
          if (view.channel other).streamsInUse < (view.channel channel).streamsInUse then
            some other
          else some channel

def pick (view : PoolView) (pool : Pool) : Except DriverError ChannelId :=
  match leastLoaded view (pool.channels.filter fun channel => (view.channel channel).isOpen) with
  | some channel => .ok channel
  | none => .error (.nodeUnavailable pool.address)

def scheduleReconnect (pool : Pool) : List PoolEffect × Pool :=
  if pool.isClosed || pool.isReconnecting then ([], pool)
  else
    let (delay, schedule) := pool.policy.newSchedule.next
    ([.wakeAfter delay], { pool with isReconnecting := true, schedule := some schedule })

def endLoop (pool : Pool) : Pool := { pool with isReconnecting := false, schedule := none }

/-- The loop waits for its next turn. In a closed pool it ends instead. -/
def continueLoop (pool : Pool) : List PoolEffect × Pool :=
  match pool.isClosed, pool.schedule with
  | false, some schedule =>
      let (delay, schedule) := schedule.next
      ([.wakeAfter delay], { pool with schedule := some schedule })
  | _, _ => ([], { pool with schedule := none })

/-- Tells the one who asked for a resize how it ended. The loop goes on until the
pool has its size. -/
def report (view : PoolView) (caller : ResizeCaller) (result : Except DriverError Nat)
    (pool : Pool) : List PoolEffect × Pool :=
  match caller, result with
  | .loop, .ok size => if view.target ≤ size then ([], pool.endLoop) else pool.continueLoop
  | .loop, .error _ => pool.continueLoop
  | caller, result => ([.resized caller result], pool)

/-- Ends the resize at work and gives the turn to the next one. -/
def finishResize (view : PoolView) (caller : ResizeCaller) (result : Except DriverError Nat)
    (pool : Pool) : List PoolEffect × Pool :=
  let (turn, pool) : List PoolEffect × Pool :=
    match pool.queue with
    | [] => ([], { pool with resizing := none })
    | next :: rest => ([.resume], { pool with resizing := some (next, .granted), queue := rest })
  let (told, pool) := pool.report view caller result
  (turn ++ told, pool)

/-- The channels with the most streams in use first; among equals the order stays. -/
def busiestFirst (view : PoolView) (channels : List ChannelId) : List ChannelId :=
  channels.mergeSort fun left right =>
    decide ((view.channel right).streamsInUse ≤ (view.channel left).streamsInUse)

/-- Begins a resize. Closed channels are dropped. If more are left than there shall
be, the busiest stay and the others are drained; if fewer, the missing ones are
opened. -/
def beginResize (view : PoolView) (caller : ResizeCaller) (pool : Pool) :
    List PoolEffect × Pool :=
  if pool.isClosed then pool.finishResize view caller (.ok 0)
  else
    let held := pool.channels.filter fun channel => !(view.channel channel).isClosed
    let target := view.target
    if target < held.length then
      let sorted := busiestFirst view held
      let excess := sorted.drop target
      (excess.map .drain,
        { pool with channels := sorted.take target, resizing := some (caller, .draining excess) })
    else
      let pool := { pool with channels := held }
      if held.length = target then pool.finishResize view caller (.ok target)
      else
        let missing := target - held.length
        ((List.range missing).map .connect,
          { pool with
            resizing := some (caller, .connecting target (List.replicate missing none)) })

/-- Asks for a resize. It begins at once if no other is at work. -/
def ensureSize (view : PoolView) (caller : ResizeCaller) (pool : Pool) :
    List PoolEffect × Pool :=
  match pool.resizing with
  | some _ => ([], { pool with queue := pool.queue ++ [caller] })
  | none => pool.beginResize view caller

/-- Begins the resize whose turn has come. -/
def resume (view : PoolView) (pool : Pool) : List PoolEffect × Pool :=
  match pool.resizing with
  | some (caller, .granted) => pool.beginResize view caller
  | _ => ([], pool)

def closeChannels (reason : String) (pool : Pool) : List PoolEffect × Pool :=
  (pool.channels.map fun channel => .close channel reason, { pool with channels := [] })

def closedReason : String := "pool closed"

def drained (view : PoolView) (channel : ChannelId) (pool : Pool) : List PoolEffect × Pool :=
  match pool.resizing with
  | some (caller, .draining left) =>
      match left.erase channel with
      | [] => pool.finishResize view caller (.ok (pool.size view))
      | left => ([], { pool with resizing := some (caller, .draining left) })
  | _ => ([], pool)

def opened (results : List (Except DriverError ChannelId)) : List ChannelId :=
  results.filterMap fun
    | .ok channel => some channel
    | .error _ => none

/-- The last error among the results. -/
def lastError (results : List (Except DriverError ChannelId)) : Option DriverError :=
  (results.filterMap fun
    | .ok _ => none
    | .error error => some error).getLast?

/-- All new channels are decided: those that could be opened are taken in. -/
def grown (view : PoolView) (caller : ResizeCaller) (target : Nat)
    (results : List (Except DriverError ChannelId)) (pool : Pool) : List PoolEffect × Pool :=
  let channels := opened results
  let watched := channels.map PoolEffect.watch
  let pool := { pool with channels := pool.channels ++ channels }
  if pool.isClosed then
    let (closing, pool) := pool.closeChannels closedReason
    let (ending, pool) := pool.finishResize view caller (.ok 0)
    (watched ++ closing ++ ending, pool)
  else
    let size := pool.channels.length
    let signals := if channels.isEmpty then [] else [PoolEffect.signalUp]
    let (looping, pool) := if size < target then pool.scheduleReconnect else ([], pool)
    match size, lastError results with
    | 0, some error =>
        let (ending, pool) := pool.finishResize view caller (.error error)
        (watched ++ signals ++ looping ++ [.signalDown] ++ ending, pool)
    | size, _ =>
        let (ending, pool) := pool.finishResize view caller (.ok size)
        (watched ++ signals ++ looping ++ ending, pool)

def allDecided {α : Type} : List (Option α) → Option (List α)
  | [] => some []
  | none :: _ => none
  | some value :: rest => (allDecided rest).map (value :: ·)

def connected (view : PoolView) (place : Nat) (result : Except DriverError ChannelId)
    (pool : Pool) : List PoolEffect × Pool :=
  match pool.resizing with
  | some (caller, .connecting target results) =>
      let results := results.set place (some result)
      match allDecided results with
      | some results => pool.grown view caller target results
      | none => ([], { pool with resizing := some (caller, .connecting target results) })
  | _ => ([], pool)

def lost (view : PoolView) (channel : ChannelId) (pool : Pool) : List PoolEffect × Pool :=
  if channel ∉ pool.channels then ([], pool)
  else
    let pool := { pool with channels := pool.channels.filter fun held => decide (held ≠ channel) }
    if pool.isClosed then ([], pool)
    else
      let signals := if pool.channels.isEmpty then [PoolEffect.signalDown] else []
      let (looping, pool) :=
        if pool.channels.length < view.target then pool.scheduleReconnect else ([], pool)
      (signals ++ looping, pool)

/-- A delay of the loop is over. A pool that shall have no channels ends the loop. -/
def wake (view : PoolView) (pool : Pool) : List PoolEffect × Pool :=
  if pool.schedule.isNone then ([], pool)
  else if pool.isClosed then ([], { pool with schedule := none })
  else if view.target = 0 then ([], pool.endLoop)
  else pool.ensureSize view .loop

/-- The node is said to be down. -/
def onNodeDown (pool : Pool) : List PoolEffect × Pool :=
  let (closing, pool) := pool.closeChannels "node reported down"
  let (looping, pool) := pool.scheduleReconnect
  (closing ++ looping, pool)

def close (pool : Pool) : List PoolEffect × Pool :=
  if pool.isClosed then ([], pool)
  else { pool with isClosed := true }.closeChannels closedReason

end Pool

end CqlDriver

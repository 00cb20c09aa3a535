/-
Pools in the world: carrying out what they want to be done.
-/

import CqlDriver.Simulation.Channels

namespace CqlDriver.Simulation.World

/-- What a pool sees of a channel; one that is gone is closed. -/
def channelView (world : World) (id : ChannelId) : ChannelView :=
  match world.channels.find? id with
  | some channel => channel.view
  | none => { isOpen := false, isClosed := true, streamsInUse := 0 }

def poolView (world : World) (node : NodeId) : PoolView :=
  { target := world.config.pool.target (world.registry.get? node)
    channel := world.channelView }

def pool? (world : World) (node : NodeId) : Option Pool :=
  match world.pools.find? node with
  | some pool => some pool
  | none => world.retired.find? node

def putPool (node : NodeId) (pool : Pool) (world : World) : World :=
  if (world.pools.find? node).isSome then
    { world with pools := world.pools.put node pool }
  else { world with retired := world.retired.put node pool }

def tellResized (caller : ResizeCaller) (result : Except DriverError Nat) (world : World) :
    World :=
  match caller, world.stage with
  | .caller number, _ => { world with sized := world.sized ++ [(number, result)] }
  | .session, .filling left =>
      let world := { world with stage := .filling (left - 1) }
      if left ≤ 1 then world.push .filled else world
  | _, _ => world

def doPoolEffect (pool : Pool) (world : World) (effect : PoolEffect) : World :=
  match effect with
  | .connect place =>
      world.openChannel pool.address world.channelConfig (.pool pool.node place)
  | .drain channel => world.startDrain channel pool.config.drainTimeout (.pool pool.node)
  | .watch channel =>
      let world := { world with watched := world.watched.put channel pool.node }
      if (world.channelView channel).isClosed then world.push (.lost channel) else world
  | .close channel reason => world.closeChannel channel reason
  | .signalUp => (world.changeNodes fun registry => registry.signalUp pool.node).2
  | .signalDown => (world.changeNodes fun registry => registry.signalDown pool.node).2
  | .wakeAfter delay => world.after delay (.wake pool.node)
  | .resume => world.push (.resume pool.node)
  | .resized caller result => world.tellResized caller result

def stepPool (node : NodeId) (step : PoolView → Pool → List PoolEffect × Pool)
    (world : World) : World :=
  match world.pool? node with
  | none => world
  | some pool =>
      let (effects, pool) := step (world.poolView node) pool
      effects.foldl (doPoolEffect pool) (world.putPool node pool)

/-- Closes the drained channels, and tells those who wait. -/
def drain (id : ChannelId) (world : World) : World :=
  let (finished, left) := world.splitDrains id
  finished.foldl
    (fun world drain =>
      let world := world.closeChannel id Channel.drainedReason
      match drain.drainer with
      | .caller => { world with drainsDone := world.drainsDone + 1 }
      | .pool node => world.stepPool node fun view pool => pool.drained view id)
    { world with drains := left }

def lose (id : ChannelId) (world : World) : World :=
  match world.watched.find? id with
  | none => world
  | some node =>
      { world with watched := world.watched.erase id }.stepPool node fun view pool =>
        pool.lost view id

def doPoolOrder (world : World) (order : PoolOrder) : World :=
  match order with
  | .resize node => world.push (.resize node .background)
  | .nodeDown node => world.stepPool node fun _ pool => pool.onNodeDown
  | .close pool =>
      { world with retired := world.retired.put pool.node pool }.stepPool pool.node
        fun _ pool => pool.close

def poolPlan (world : World) : PoolPlan :=
  { config := world.config.pool, policy := world.reconnection }

def followSome : Nat → World → World
  | 0, world => world
  | fuel + 1, world =>
      match world.follower.bind fun follower => follower.next? world.registry with
      | none => world
      | some (notice, follower) =>
          let (orders, pools) :=
            world.pools.onNotice world.poolPlan world.registry.snapshot notice
          followSome fuel
            (orders.foldl doPoolOrder { world with follower := some follower, pools })

/-- Lets the pools follow all notices of the registry. There are no more notices than
published events. -/
def followNodes (world : World) : World :=
  followSome (world.registry.published.length + 1) world

def closePools (world : World) : World :=
  let pools := world.pools
  pools.foldl (fun world entry => world.doPoolOrder (.close entry.2)) { world with pools := [] }

end CqlDriver.Simulation.World

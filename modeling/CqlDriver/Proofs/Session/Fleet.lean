/-
The pools of a session and the one who looks after them, step by step. The registry may
change between any two steps, and the work on the pools goes on in any order. The follower
of the registry takes a notice and acts on it later; after a lag it first takes a snapshot.
-/

import CqlDriver.Proofs.Cluster.LastWord
import CqlDriver.Proofs.Pool.Tasks
import CqlDriver.Session.Pools

namespace CqlDriver

inductive Attention where
  | free
  | holding (notice : Notice)
  /-- It has lost events and compares the pools with the nodes of a snapshot. -/
  | comparing (snapshot : ClusterSnapshot)

structure Fleet where
  plan : PoolPlan
  registry : NodeRegistry
  follower : Subscription := ⟨0⟩
  attention : Attention := .free
  pools : PoolTable
  retired : List Pool := []
  channels : Table ChannelId ChannelView := []
  nextChannel : Nat := 0
  resizes : List (NodeId × ResizeCaller)
  alarms : List NodeId := []
  /-- The events that the follower was never given. -/
  lost : List NodeEvent := []

inductive FleetAction where
  | operate (operation : RegistryOperation)
  | receive
  | look
  | act
  | begin (place : Nat)
  | resume (id : NodeId)
  | connected (id : NodeId) (place : Nat) (failure : Option DriverError)
  | drained (id : NodeId) (channel : ChannelId)
  | lose (id : NodeId) (channel : ChannelId)
  | wake (id : NodeId)
  | late (place : Nat) (task : PoolTask)
  | change (channel : ChannelId) (view : ChannelView)

def ChannelView.fresh : ChannelView := { isOpen := true, isClosed := false, streamsInUse := 0 }

def ChannelView.of (channels : Table ChannelId ChannelView) (channel : ChannelId) : ChannelView :=
  (channels.find? channel).getD .gone

namespace PoolEffect

def alter (channels : Table ChannelId ChannelView) : PoolEffect → Table ChannelId ChannelView
  | .drain channel => channels.put channel { ChannelView.of channels channel with isOpen := false }
  | .close channel _ =>
      channels.put channel
        { ChannelView.of channels channel with isOpen := false, isClosed := true }
  | _ => channels

end PoolEffect

def Subscription.unread (subscription : Subscription) (registry : NodeRegistry) :
    List NodeEvent :=
  registry.published.take (registry.published.length - subscription.seen)

namespace Fleet

/-- All nodes have a pool, and the first resizes are asked for. The follower has read
nothing since the registry was empty. -/
def start (plan : PoolPlan) (operations : List RegistryOperation) : Fleet :=
  let registry := NodeRegistry.empty.performAll operations
  let nodes := registry.snapshot.nodeList
  { plan
    registry
    pools := nodes.foldl (fun pools node => PoolTable.provide plan node pools) []
    resizes := nodes.map fun node => (node.id, .session) }

def channelView (fleet : Fleet) : ChannelId → ChannelView := ChannelView.of fleet.channels

def target (fleet : Fleet) (id : NodeId) : Nat :=
  fleet.plan.config.target (fleet.registry.get? id)

def view (fleet : Fleet) (id : NodeId) : PoolView :=
  { target := fleet.target id, channel := fleet.channelView }

/-- The first resizes are over; before that nobody follows the registry. -/
def isFilled (fleet : Fleet) : Bool :=
  (fleet.resizes.map Prod.snd ++ fleet.pools.values.flatMap Pool.callers).all fun caller =>
    decide (caller ≠ .session)

def carryOut (id : NodeId) (effects : List PoolEffect) (fleet : Fleet) : Fleet :=
  { fleet with
    registry := fleet.registry.performAll (Pool.signals id effects)
    channels := effects.foldl PoolEffect.alter fleet.channels
    alarms := fleet.alarms ++ (effects.filter PoolEffect.isAlarm).map fun _ => id }

def work (id : NodeId) (task : PoolTask) (fleet : Fleet) : Fleet :=
  match fleet.pools.find? id with
  | none => fleet
  | some pool =>
      let (effects, pool) := pool.undertake (fleet.view id) task
      { fleet with pools := fleet.pools.put id pool }.carryOut id effects

/-- A pool that was taken out works on. What it still does with channels is no matter of
the others. -/
def workLate (place : Nat) (task : PoolTask) (fleet : Fleet) : Fleet :=
  match fleet.retired[place]? with
  | none => fleet
  | some pool =>
      let (effects, after) := pool.undertake (fleet.view pool.node) task
      { fleet with
        retired := fleet.retired.set place after
        registry := fleet.registry.performAll (Pool.signals pool.node effects) }

def retire (pool : Pool) (fleet : Fleet) : Fleet :=
  let (effects, closed) := pool.close
  { fleet with retired := closed :: fleet.retired }.carryOut pool.node effects

def follow (fleet : Fleet) (order : PoolOrder) : Fleet :=
  match order with
  | .resize id => { fleet with resizes := fleet.resizes ++ [(id, .background)] }
  | .nodeDown id => fleet.work id .nodeDown
  | .close pool => fleet.retire pool

def settle (outcome : List PoolOrder × PoolTable) (fleet : Fleet) : Fleet :=
  outcome.1.foldl follow { fleet with attention := .free, pools := outcome.2 }

def unseen (fleet : Fleet) : List NodeEvent := fleet.follower.unread fleet.registry

def notice? (fleet : Fleet) : Option (Notice × Subscription) :=
  match fleet.attention with
  | .free => if fleet.isFilled then fleet.follower.next? fleet.registry else none
  | _ => none

/-- Takes the next notice. With a notice of a lag, the oldest events are lost. -/
def receive (fleet : Fleet) : Fleet :=
  match fleet.notice? with
  | none => fleet
  | some (.event event, follower) =>
      { fleet with follower, attention := .holding (.event event) }
  | some (.lagged count, follower) =>
      { fleet with
        follower
        attention := .holding (.lagged count)
        lost := fleet.unseen.drop Subscription.capacity ++ fleet.lost }

def look (fleet : Fleet) : Fleet :=
  match fleet.attention with
  | .holding (.lagged _) => { fleet with attention := .comparing fleet.registry.snapshot }
  | _ => fleet

def act (fleet : Fleet) : Fleet :=
  match fleet.attention with
  | .holding (.event event) => fleet.settle (fleet.pools.onEvent fleet.plan event)
  | .comparing snapshot => fleet.settle (fleet.pools.resync fleet.plan snapshot)
  | .holding (.lagged _) | .free => fleet

def begin (place : Nat) (fleet : Fleet) : Fleet :=
  match fleet.resizes[place]? with
  | none => fleet
  | some (id, caller) =>
      { fleet with resizes := fleet.resizes.eraseIdx place }.work id (.resize caller)

def connect (id : NodeId) (place : Nat) (failure : Option DriverError) (fleet : Fleet) : Fleet :=
  if (fleet.pools.find? id).any (Pool.isUndecided place) then
    match failure with
    | some error => fleet.work id (.connected place (.error error))
    | none =>
        let channel : ChannelId := ⟨fleet.nextChannel⟩
        { fleet with
          nextChannel := fleet.nextChannel + 1
          channels := fleet.channels.put channel .fresh }.work id (.connected place (.ok channel))
  else fleet

def drain (id : NodeId) (channel : ChannelId) (fleet : Fleet) : Fleet :=
  if (fleet.pools.find? id).any (Pool.isDraining channel) then
    { fleet with channels := fleet.channels.put channel .gone }.work id (.drained channel)
  else fleet

def lose (id : NodeId) (channel : ChannelId) (fleet : Fleet) : Fleet :=
  if (fleet.channelView channel).isClosed then fleet.work id (.lost channel) else fleet

def wake (id : NodeId) (fleet : Fleet) : Fleet :=
  if id ∈ fleet.alarms then { fleet with alarms := fleet.alarms.erase id }.work id .wake
  else fleet

def change (channel : ChannelId) (view : ChannelView) (fleet : Fleet) : Fleet :=
  if (fleet.channelView channel).isClosed then fleet
  else { fleet with channels := fleet.channels.put channel view }

def perform (fleet : Fleet) : FleetAction → Fleet
  | .operate operation => { fleet with registry := (fleet.registry.perform operation).2 }
  | .receive => fleet.receive
  | .look => fleet.look
  | .act => fleet.act
  | .begin place => fleet.begin place
  | .resume id => fleet.work id .resume
  | .connected id place failure => fleet.connect id place failure
  | .drained id channel => fleet.drain id channel
  | .lose id channel => fleet.lose id channel
  | .wake id => fleet.wake id
  | .late place task => fleet.workLate place task
  | .change channel view => fleet.change channel view

def performAll (fleet : Fleet) (actions : List FleetAction) : Fleet := actions.foldl perform fleet

def inHand (fleet : Fleet) : List NodeEvent :=
  match fleet.attention with
  | .holding (.event event) => [event]
  | _ => []

/-- The events that are still to be acted on, the latest first. -/
def ahead (fleet : Fleet) : List NodeEvent := fleet.unseen ++ fleet.inHand

/-- The follower has acted on all that was published. -/
def isCurrent (fleet : Fleet) : Bool :=
  match fleet.attention with
  | .free => fleet.follower.isCurrent fleet.registry
  | _ => false

end Fleet

end CqlDriver

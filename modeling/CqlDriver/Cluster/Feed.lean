/-
Following what the registry publishes. A follower that has fallen behind by more
than the feed keeps is told once how many changes it has lost, and goes on with
the oldest that is kept.
-/

import CqlDriver.Cluster.Registry

namespace CqlDriver

inductive Notice where
  | event (event : NodeEvent)
  | lagged (lost : Nat)
  deriving DecidableEq, Repr

/-- A follower: how many of the published events it has seen or lost. -/
structure Subscription where
  seen : Nat
  deriving DecidableEq, Repr, Inhabited

namespace Subscription

/-- The number of events that are kept for followers. -/
def capacity : Nat := 256

def start (registry : NodeRegistry) : Subscription := ⟨registry.published.length⟩

def isCurrent (subscription : Subscription) (registry : NodeRegistry) : Bool :=
  registry.published.length ≤ subscription.seen

def next? (subscription : Subscription) (registry : NodeRegistry) :
    Option (Notice × Subscription) :=
  let total := registry.published.length
  let behind := total - subscription.seen
  if behind = 0 then none
  else if capacity < behind then
    some (.lagged (behind - capacity), ⟨total - capacity⟩)
  else
    (registry.published[behind - 1]?).map fun event => (.event event, ⟨subscription.seen + 1⟩)

def drain (subscription : Subscription) (registry : NodeRegistry) :
    List Notice × Subscription :=
  let total := registry.published.length
  let behind := total - subscription.seen
  let kept := ((registry.published.take (min behind capacity)).reverse).map Notice.event
  ((if capacity < behind then .lagged (behind - capacity) :: kept else kept), ⟨total⟩)

end Subscription

end CqlDriver

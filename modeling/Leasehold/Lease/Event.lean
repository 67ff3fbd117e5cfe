import Leasehold.Lease.Basic

/-!
# Lease events

What subscribers hear of the registry, and the feed that brings it to them.
The feed keeps a bounded number of events; a subscriber that falls further
behind loses the oldest and is told how many.
-/

set_option autoImplicit false

namespace Leasehold

/-- A lease under the number that the container gave it, so that leases with equal contents stay
apart. -/
structure LeaseInstance where
  serial : Nat
  lease : Lease
  deriving Repr, Inhabited

inductive RemovalReason where
  | revoked
  | expired
  | dropped
  deriving DecidableEq, Repr

inductive LeaseEvent where
  | registered (lease : LeaseInstance)
  | renewed (lease : LeaseInstance)
  | rotated (previous current : LeaseInstance)
  | removed (lease : LeaseInstance) (reason : RemovalReason)
  deriving Repr

def LeaseEvent.lease : LeaseEvent → LeaseInstance
  | .registered l => l
  | .renewed l => l
  | .rotated _ current => current
  | .removed l _ => l

structure EventFeed where
  keeps : Nat
  sent : List LeaseEvent := []

/-- A subscription: how many events the subscriber has heard of or was too early for. -/
abbrev Subscription := Nat

namespace EventFeed

/-- The least power of two that is at least `n`, found from `k` up within a number of doublings. -/
def powerFrom (n : Nat) : Nat → Nat → Nat
  | 0, k => k
  | doublings + 1, k => if n ≤ k then k else powerFrom n doublings (2 * k)

/-- A feed for a wished capacity: at least one event, and a power of two. -/
def ofCapacity (capacity : Nat) : EventFeed := { keeps := powerFrom capacity 64 1 }

def send (f : EventFeed) (e : LeaseEvent) : EventFeed := { f with sent := f.sent ++ [e] }

def subscribe (f : EventFeed) : Subscription := f.sent.length

def lost (f : EventFeed) (s : Subscription) : Nat := f.sent.length - f.keeps - s

def available (f : EventFeed) (s : Subscription) : List LeaseEvent := f.sent.drop (s + f.lost s)

end EventFeed

end Leasehold

import Leasehold.Config
import Leasehold.Lease.Event
import Leasehold.Metrics
import Leasehold.Schedule

/-!
# Lease container

The registry of the leases in use and the work in the background that keeps
them alive.  A managed lease has one timer, set for its renewal; a renewal that
fails or grants too little leads to a rotation, in which the path is read again
and the new lease takes the place of the old one.  An unmanaged lease has a
timer for its expiry.  Work on a lease counts only while that very instance is
registered.

A container is moved on by events.  An event is all that a call or a task does at
one instant, from one point at which it waits to the next, so threads that take
turns inside an event are outside the model.
-/

set_option autoImplicit false

namespace Leasehold

inductive LeaseTask where
  | renewal (l : LeaseInstance)
  | expiry (l : LeaseInstance)
  deriving Repr

namespace LeaseTask

def lease : LeaseTask → LeaseInstance
  | .renewal l => l
  | .expiry l => l

def of (managed : Bool) (l : LeaseInstance) : LeaseTask :=
  if managed then .renewal l else .expiry l

@[simp] theorem lease_of (managed : Bool) (l : LeaseInstance) : (of managed l).lease = l := by
  cases managed <;> rfl

end LeaseTask

namespace Container

/-- A registered lease.  The entry holds the handle of its task. -/
structure Entry where
  lease : LeaseInstance
  managed : Bool
  task : Option Nat
  deriving Repr

inductive CycleStage where
  | renewing
  | rotating
  deriving DecidableEq, Repr

structure Cycle where
  lease : LeaseInstance
  stage : CycleStage

inductive CycleCall where
  | renew (l : Lease)
  | read (path : String)

def firstCall (l : Lease) : CycleStage × CycleCall :=
  if l.renewable then (.renewing, .renew l) else (.rotating, .read l.path)

inductive Event where
  | openCall
  | readReply (reply : Outcome Secret)
  | revokeReply (id : String) (reply : Outcome Unit)
  | register (l : Lease)
  | drop (id : String)
  | shutdown
  | ring (t : Timer LeaseTask)
  | renewalReply (cycle : Nat) (reply : Outcome Lease)
  | rotationReply (cycle : Nat) (reply : Outcome Secret)

/-- What an event is answered with: a ring with the number and the first call of the cycle that it
started, the renewal of a cycle with the path that the cycle reads next.  An instant beyond the
clock ends the call or the cycle that needs it. -/
abbrev Event.Answer : Event → Type
  | .openCall => Except VaultError Unit
  | .readReply _ => Outcome (Json × Option LeaseInstance)
  | .revokeReply _ _ => Outcome Unit
  | .register _ => Outcome LeaseInstance
  | .drop _ => Except VaultError LeaseInstance
  | .shutdown => Unit
  | .ring _ => Option (Nat × CycleCall)
  | .renewalReply _ _ => Except InstantOverflow (Option String)
  | .rotationReply _ _ => Except InstantOverflow Unit

end Container

/-- A container of leases; `cycles` are those in flight, `serials` the number of leases taken in. -/
structure Container where
  config : LeaseConfig
  entries : Dictionary Container.Entry := []
  shutDown : Bool := false
  timers : Schedule LeaseTask := .empty
  cycles : Numbered Container.Cycle := .empty
  feed : EventFeed
  tally : LeaseTally := {}
  serials : Nat := 0

namespace Container

structure Change (α : Type) where
  container : Container
  result : α
  timer : Option (Timer LeaseTask) := none

def new (config : LeaseConfig) : Container :=
  { config, feed := EventFeed.ofCapacity config.eventCapacity }

/-! ## Views -/

def get? (c : Container) (id : String) : Option LeaseInstance :=
  (c.entries.get? id).map Entry.lease

/-- Whether the lease registered under an identifier is renewed and rotated. -/
def managed (c : Container) (id : String) : Bool :=
  match c.entries.get? id with
  | some e => e.managed
  | none => false

def leases (c : Container) : List LeaseInstance := c.entries.values.map Entry.lease

def size (c : Container) : Nat := c.entries.length

def current (c : Container) (l : LeaseInstance) : Bool :=
  !c.shutDown &&
    match c.get? l.lease.id with
    | some m => m.serial == l.serial
    | none => false

def description (c : Container) : String :=
  "SecretLeaseContainer \x7b leases: " ++ toString c.size ++ ", trigger: " ++
    c.config.window.description ++ ", .. \x7d"

/-! ## Timers -/

def renewalDelay (c : Container) (now : Instant) (l : Lease) (floor : Duration) :
    Except InstantOverflow (Option Duration) :=
  (c.config.window.delay l.issued l.validity now).map fun delay => delay.map (max · floor)

def expiryDelay (now : Instant) (l : Lease) : Except InstantOverflow (Option Duration) :=
  l.expiry.map fun expiry => expiry.map (·.since now)

structure Prepared where
  container : Container
  entry : Entry
  timer : Option (Timer LeaseTask)

def prepare (c : Container) (now : Instant) (l : Lease) (managed : Bool)
    (delay : Option Duration) : Prepared :=
  let new : LeaseInstance := ⟨c.serials, l⟩
  let planned := c.timers.planIf now delay (.of managed new)
  { container := { c with timers := planned.1, serials := c.serials + 1 }
    entry := ⟨new, managed, planned.2.map Timer.task⟩
    timer := planned.2 }

/-- Gives up a handle, which cancels its task unless it has started. -/
def giveUp (c : Container) (handle : Option Nat) : Container :=
  { c with timers := c.timers.cancel handle }

def handle (c : Container) (id : String) : Option Nat := (c.entries.get? id).bind Entry.task

def bind (c : Container) (id : String) (e : Entry) : Container :=
  { c.giveUp (c.handle id) with entries := c.entries.put id e }

def unbind (c : Container) (id : String) : Container :=
  { c.giveUp (c.handle id) with entries := c.entries.erase id }

/-! ## Events and tallies -/

/-- The calls on the metrics that go with an event, when the registry had these entries before it.
A lease counts as one more only under a new identifier, and as one less when a rotation displaces
another. -/
def marksOf (before : Dictionary Entry) : LeaseEvent → List LeaseTally.Mark
  | .registered l => if (before.get? l.lease.id).isSome then [] else [.up]
  | .renewed _ => [.renewal]
  | .rotated previous current =>
      if ((before.erase previous.lease.id).get? current.lease.id).isSome then [.down, .rotation]
      else [.rotation]
  | .removed _ _ => [.removal, .down]

def report (c : Container) (before : Dictionary Entry) (e : LeaseEvent) : Container :=
  { c with tally := c.tally.markAll (marksOf before e), feed := c.feed.send e }

def forget (c : Container) (id : String) (e : Entry) (reason : RemovalReason) : Container :=
  (c.unbind id).report c.entries (.removed e.lease reason)

def remove (c : Container) (id : String) (reason : RemovalReason) :
    Container × Option LeaseInstance :=
  match c.entries.get? id with
  | none => (c, none)
  | some e => (c.forget id e reason, some e.lease)

namespace Prepared

def discarded (p : Prepared) : Container := p.container.giveUp p.entry.task

def registered (p : Prepared) : Container :=
  (p.container.bind p.entry.lease.lease.id p.entry).report p.container.entries
    (.registered p.entry.lease)

def renewed (p : Prepared) (previous : LeaseInstance) : Container :=
  (p.container.bind previous.lease.id p.entry).report p.container.entries (.renewed p.entry.lease)

/-- The container with a lease that has been read again in place of the one before.  It may displace
another lease that has its identifier. -/
def rotated (p : Prepared) (previous : LeaseInstance) : Container :=
  let c := p.container.unbind previous.lease.id
  (c.bind p.entry.lease.lease.id p.entry).report p.container.entries
    (.rotated previous p.entry.lease)

end Prepared

def removeIfCurrent (c : Container) (l : LeaseInstance) (reason : RemovalReason) : Container :=
  if c.current l then (c.remove l.lease.id reason).1 else c

/-! ## Operations of the application -/

def firstDelay (c : Container) (now : Instant) (l : Lease) :
    Except InstantOverflow (Option Duration) :=
  if c.config.manages l.path then c.renewalDelay now l .zero else expiryDelay now l

/-- Takes a lease into the registry, in place of one with the same identifier.  When the instant of
its renewal or expiry lies beyond the clock nothing changes. -/
def register (c : Container) (now : Instant) (l : Lease) : Change (Outcome LeaseInstance) :=
  match c.firstDelay now l with
  | .error _ => { container := c, result := .error .overflow }
  | .ok delay =>
      let p := c.prepare now l (c.config.manages l.path) delay
      if c.shutDown then
        { container := p.discarded, result := .error (.error .shutdown), timer := p.timer }
      else { container := p.registered, result := .ok p.entry.lease, timer := p.timer }

def openCall (c : Container) : Except VaultError Unit :=
  if c.shutDown then .error .shutdown else .ok ()

def readReply (c : Container) (now : Instant) (reply : Outcome Secret) :
    Change (Outcome (Json × Option LeaseInstance)) :=
  match reply with
  | .error fault => { container := c, result := .error fault }
  | .ok ⟨data, none⟩ => { container := c, result := .ok (data, none) }
  | .ok ⟨data, some lease⟩ =>
      let change := c.register now lease
      { container := change.container
        result := change.result.map fun l => (data, some l)
        timer := change.timer }

/-- The revocation of a lease ends.  The lease leaves the registry whatever the server answered. -/
def revokeReply (c : Container) (id : String) (reply : Outcome Unit) : Change (Outcome Unit) :=
  match reply with
  | .error .overflow => { container := c, result := reply }
  | _ => { container := (c.remove id .revoked).1, result := reply }

def drop (c : Container) (id : String) : Change (Except VaultError LeaseInstance) :=
  match c.remove id .dropped with
  | (c, some l) => { container := c, result := .ok l }
  | (c, none) => { container := c, result := .error (.leaseNotFound id) }

def shutdown (c : Container) : Container :=
  { c with
    timers := c.timers.cancelAll (c.entries.values.filterMap Entry.task)
    shutDown := true
    entries := []
    tally := c.tally.mark .cleared }

/-! ## Cycles -/

def beginCycle (c : Container) (l : LeaseInstance) : Container :=
  { c with cycles := c.cycles.add ⟨l, (firstCall l.lease).1⟩ }

def start (c : Container) (task : Nat) : Container := { c with timers := c.timers.remove task }

/-- A timer rings: the lease expires, or a cycle begins, if the lease is still the registered
one. -/
def ring (c : Container) (t : Timer LeaseTask) : Change (Option (Nat × CycleCall)) :=
  let c := c.start t.task
  match t.work with
  | .expiry l => { container := c.removeIfCurrent l .expired, result := none }
  | .renewal l =>
      if c.current l then
        { container := c.beginCycle l, result := some (c.cycles.issued, (firstCall l.lease).2) }
      else { container := c, result := none }

def endCycle (c : Container) (id : Nat) : Container := { c with cycles := c.cycles.remove id }

def exhausted (old new : Lease) : Except InstantOverflow Bool := do
  new.validity.exhausted new.issued (← old.expiry)

/-- A renewed lease takes the place of the one before, if that is still registered; if not its task
is cancelled at once. -/
def commitRenewal (c : Container) (now : Instant) (previous : LeaseInstance) (renewed : Lease) :
    Change (Except InstantOverflow Unit) :=
  match c.renewalDelay now renewed pauseBetweenCycles with
  | .error e => { container := c, result := .error e }
  | .ok delay =>
      let p := c.prepare now renewed true delay
      { container := if c.current previous then p.renewed previous else p.discarded
        result := .ok ()
        timer := p.timer }

def commitRotation (c : Container) (now : Instant) (previous : LeaseInstance)
    (replacement : Lease) : Change (Except InstantOverflow Unit) :=
  match c.renewalDelay now replacement pauseBetweenCycles with
  | .error e => { container := c, result := .error e }
  | .ok delay =>
      let p := c.prepare now replacement true delay
      { container := if c.current previous then p.rotated previous else p.discarded
        result := .ok ()
        timer := p.timer }

def turnToRotation (c : Container) (id : Nat) : Container :=
  { c with cycles := c.cycles.change id fun d => { d with stage := .rotating } }

/-- The renewal of a cycle ends; the result is the path to read if the cycle goes on with a
rotation. -/
def renewalReply (c : Container) (now : Instant) (id : Nat) (reply : Outcome Lease) :
    Change (Except InstantOverflow (Option String)) :=
  match c.cycles.find? id with
  | none => { container := c, result := .ok none }
  | some cycle =>
      let previous := cycle.lease
      let rotating : Change (Except InstantOverflow (Option String)) :=
        { container := c.turnToRotation id, result := .ok (some previous.lease.path) }
      match reply with
      | .error .overflow => { container := c.endCycle id, result := .error {} }
      | .error (.error _) => rotating
      | .ok renewed =>
          match exhausted previous.lease renewed with
          | .error e => { container := c.endCycle id, result := .error e }
          | .ok true => rotating
          | .ok false =>
              let change := (c.endCycle id).commitRenewal now previous renewed
              { container := change.container
                result := change.result.map fun _ => none
                timer := change.timer }

def rotationReply (c : Container) (now : Instant) (id : Nat) (reply : Outcome Secret) :
    Change (Except InstantOverflow Unit) :=
  match c.cycles.find? id with
  | none => { container := c, result := .ok () }
  | some cycle =>
      let c := c.endCycle id
      match reply with
      | .error .overflow => { container := c, result := .error {} }
      | .ok ⟨_, some lease⟩ => c.commitRotation now cycle.lease lease
      | _ => { container := c.removeIfCurrent cycle.lease .expired, result := .ok () }

/-! ## Events -/

def step (c : Container) (now : Instant) : (e : Event) → Change e.Answer
  | .openCall => { container := c, result := c.openCall }
  | .readReply reply => c.readReply now reply
  | .revokeReply id reply => c.revokeReply id reply
  | .register l => c.register now l
  | .drop id => c.drop id
  | .shutdown => { container := c.shutdown, result := () }
  | .ring t => c.ring t
  | .renewalReply cycle reply => c.renewalReply now cycle reply
  | .rotationReply cycle reply => c.rotationReply now cycle reply

end Container

end Leasehold

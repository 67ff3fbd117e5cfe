import Leasehold.Session.Renewing
import Leasehold.Session.Simple

/-!
# Session manager

Either kind of session, moved on by the same events.
-/

set_option autoImplicit false

namespace Leasehold.Session

inductive Manager where
  | simple (s : Simple)
  | renewing (s : Renewing)

namespace Manager

def ofConfig (c : SessionConfig) : Manager :=
  if c.enabled then .renewing { window := c.window } else .simple {}

def status : Manager → Status
  | .simple s => s.status
  | .renewing s => s.status

def tally : Manager → SessionTally
  | .simple s => s.tally
  | .renewing s => s.tally

def hasTimer? : Manager → Option Bool
  | .simple _ => none
  | .renewing s => some s.hasTimer

def live (m : Manager) (task : Nat) : Bool :=
  match m with
  | .simple _ => false
  | .renewing s => s.timers.holds task

def step (m : Manager) (now : Instant) (e : Event) : Change Manager e.Answer :=
  match m with
  | .simple s => (s.step e).within .simple
  | .renewing s => (s.step now e).within .renewing

def shutdown (m : Manager) : Manager :=
  match m with
  | .simple s => .simple s.shutdown
  | .renewing s => .renewing s.shutdown

end Manager

end Leasehold.Session

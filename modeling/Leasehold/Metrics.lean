/-!
# Metrics

Counters and gauges of 64 bits and their text exposition: a help line, a type
line and the value.  A counter and an incremented gauge wrap around; a
decremented gauge stops at zero.
-/

set_option autoImplicit false

namespace Leasehold

structure Series where
  name : String
  help : String
  kind : String
  value : UInt64
  deriving DecidableEq, Repr

def Series.render (s : Series) : String :=
  "# HELP " ++ s.name ++ " " ++ s.help ++ "\n" ++
  "# TYPE " ++ s.name ++ " " ++ s.kind ++ "\n" ++
  s.name ++ " " ++ toString s.value.toNat ++ "\n"

/-- A number that only grows, modulo `2 ^ 64`. -/
structure Counter where
  name : String
  help : String
  value : UInt64 := 0
  deriving DecidableEq, Repr

namespace Counter

def inc (c : Counter) : Counter := { c with value := c.value + 1 }

def incBy (c : Counter) (n : Nat) : Counter := { c with value := c.value + n.toUInt64 }

def render (c : Counter) : String := Series.render ⟨c.name, c.help, "counter", c.value⟩

end Counter

structure Gauge where
  name : String
  help : String
  value : UInt64 := 0
  deriving DecidableEq, Repr

namespace Gauge

def set (g : Gauge) (v : UInt64) : Gauge := { g with value := v }

def inc (g : Gauge) : Gauge := { g with value := g.value + 1 }

/-- One less, unless the gauge is already at zero. -/
def dec (g : Gauge) : Gauge := { g with value := if g.value = 0 then 0 else g.value - 1 }

def incBy (g : Gauge) (n : Nat) : Gauge := { g with value := g.value + n.toUInt64 }

def decBy (g : Gauge) (n : Nat) : Gauge := { g with value := (g.value.toNat - n).toUInt64 }

def render (g : Gauge) : String := Series.render ⟨g.name, g.help, "gauge", g.value⟩

end Gauge

structure SessionTally where
  logins : UInt64 := 0
  tokenRenewals : UInt64 := 0
  failures : UInt64 := 0
  deriving DecidableEq, Repr, Inhabited

structure LeaseTally where
  renewals : UInt64 := 0
  rotations : UInt64 := 0
  removals : UInt64 := 0
  active : UInt64 := 0
  deriving DecidableEq, Repr, Inhabited

namespace LeaseTally

inductive Mark where
  | up
  | down
  | renewal
  | rotation
  | removal
  | cleared
  deriving DecidableEq, Repr

def mark (t : LeaseTally) : Mark → LeaseTally
  | .up => { t with active := t.active + 1 }
  | .down => { t with active := if t.active = 0 then 0 else t.active - 1 }
  | .renewal => { t with renewals := t.renewals + 1 }
  | .rotation => { t with rotations := t.rotations + 1 }
  | .removal => { t with removals := t.removals + 1 }
  | .cleared => { t with active := 0 }

def markAll (t : LeaseTally) (marks : List Mark) : LeaseTally := marks.foldl mark t

end LeaseTally

structure LifecycleMetrics where
  logins : Counter
  tokenRenewals : Counter
  sessionFailures : Counter
  leaseRenewals : Counter
  leaseRotations : Counter
  leaseRemovals : Counter
  activeLeases : Gauge

namespace LifecycleMetrics

def new (space : String) : LifecycleMetrics where
  logins := ⟨space ++ "_logins_total", "Successful Vault logins", 0⟩
  tokenRenewals := ⟨space ++ "_token_renewals_total", "Successful token renewals", 0⟩
  sessionFailures :=
    ⟨space ++ "_session_failures_total", "Renewal cycles that could neither renew nor log in", 0⟩
  leaseRenewals := ⟨space ++ "_lease_renewals_total", "Successful lease renewals", 0⟩
  leaseRotations :=
    ⟨space ++ "_lease_rotations_total", "Leases replaced by re-reading their path", 0⟩
  leaseRemovals := ⟨space ++ "_lease_removals_total", "Leases removed from the registry", 0⟩
  activeLeases := ⟨space ++ "_active_leases", "Leases currently tracked", 0⟩

def showing (m : LifecycleMetrics) (s : SessionTally) (l : LeaseTally) : LifecycleMetrics where
  logins := { m.logins with value := s.logins }
  tokenRenewals := { m.tokenRenewals with value := s.tokenRenewals }
  sessionFailures := { m.sessionFailures with value := s.failures }
  leaseRenewals := { m.leaseRenewals with value := l.renewals }
  leaseRotations := { m.leaseRotations with value := l.rotations }
  leaseRemovals := { m.leaseRemovals with value := l.removals }
  activeLeases := { m.activeLeases with value := l.active }

def render (m : LifecycleMetrics) : String :=
  m.logins.render ++ m.tokenRenewals.render ++ m.sessionFailures.render ++
  m.leaseRenewals.render ++ m.leaseRotations.render ++ m.leaseRemovals.render ++
  m.activeLeases.render

end LifecycleMetrics

end Leasehold

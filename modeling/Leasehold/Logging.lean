/-!
# Logging

How events are logged: which ones, and in which format.  A process has one log,
which the first who asks for it sets up.
-/

set_option autoImplicit false

namespace Leasehold

inductive LogFormat where
  | pretty
  | json
  deriving DecidableEq, Repr

def LogFormat.name : LogFormat → String
  | .pretty => "pretty"
  | .json => "json"

structure LogConfig where
  filter : String := "info"
  format : LogFormat := .pretty
  deriving DecidableEq, Repr

abbrev ProcessLog := Option LogConfig

namespace LogConfig

/-- Sets the log up unless somebody has done so before; tells whether it did. -/
def install (c : LogConfig) (log : ProcessLog) : ProcessLog × Bool :=
  match log with
  | none => (some c, true)
  | some _ => (log, false)

def alreadyInstalled : String := "a global tracing subscriber is already installed"

def require (c : LogConfig) (log : ProcessLog) : Except String ProcessLog :=
  match c.install log with
  | (log, true) => .ok log
  | (_, false) => .error alreadyInstalled

end LogConfig

end Leasehold

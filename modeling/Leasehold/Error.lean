import Leasehold.Time

/-!
# Errors

Every way in which a call to the server, or the lifecycle around it, can fail.
`VaultError.message` is the one place that words them.  Whether an error may be
retried and whether it rejects the credentials are properties of its
constructor.
-/

set_option autoImplicit false

namespace Leasehold

inductive PlatformError where
  | http
  | unavailable (reason : String)
  | rateLimited
  | timeout (reason : String)
  | invalidInput (reason : String)
  deriving DecidableEq, Repr, Inhabited

namespace PlatformError

def retryable : PlatformError → Bool
  | .invalidInput _ => false
  | _ => true

def message : PlatformError → Option String
  | .http => none
  | .unavailable r => some ("Service unavailable: " ++ r)
  | .rateLimited => some "Rate limited"
  | .timeout r => some ("Operation timed out: " ++ r)
  | .invalidInput r => some ("Invalid input: " ++ r)

end PlatformError

inductive VaultError where
  | unavailable (reason : String)
  | http
  | rateLimited
  | authenticationFailed (reason : String)
  | permissionDenied (reason : String)
  | secretNotFound (path : String)
  | invalidRequest (reason : String)
  | leaseRenewalFailed (leaseId reason : String)
  | leaseNotRenewable (leaseId : String)
  | leaseNotFound (leaseId : String)
  | rotationFailed (path reason : String)
  | serialization
  | invalidConfig (reason : String)
  | shutdown
  | platform (e : PlatformError)
  deriving DecidableEq, Repr, Inhabited

namespace VaultError

/-- Only failures of the transport may be tried again; what the server answered stands. -/
def retryable : VaultError → Bool
  | .unavailable _ | .rateLimited | .http => true
  | .platform e => e.retryable
  | _ => false

def rejectsCredentials : VaultError → Bool
  | .authenticationFailed _ | .permissionDenied _ => true
  | _ => false

/-- The text of the error; the HTTP library and the JSON reader word their own. -/
def message : VaultError → Option String
  | .unavailable r => some ("Vault unavailable: " ++ r)
  | .http => none
  | .rateLimited => some "Rate limited"
  | .authenticationFailed r => some ("Authentication failed: " ++ r)
  | .permissionDenied r => some ("Permission denied: " ++ r)
  | .secretNotFound p => some ("Secret not found at path: " ++ p)
  | .invalidRequest r => some ("Invalid request: " ++ r)
  | .leaseRenewalFailed l r => some ("Lease renewal failed for " ++ l ++ ": " ++ r)
  | .leaseNotRenewable l => some ("Lease is not renewable: " ++ l)
  | .leaseNotFound l => some ("Lease not found: " ++ l)
  | .rotationFailed p r => some ("Rotation failed for " ++ p ++ ": " ++ r)
  | .serialization => none
  | .invalidConfig r => some ("Invalid configuration: " ++ r)
  | .shutdown => some "Lifecycle component has been shut down"
  | .platform e => e.message

end VaultError

/-- How a call ends when it does not succeed: with an error, or because an instant that it needs
lies beyond the range of the clock.  The latter ends the task that made the call. -/
inductive Fault where
  | error (e : VaultError)
  | overflow
  deriving DecidableEq, Repr, Inhabited

abbrev Outcome (α : Type) := Except Fault α

namespace Outcome

def ofError {α : Type} : Except VaultError α → Outcome α
  | .ok a => .ok a
  | .error e => .error (.error e)

def ofInstant {α : Type} : Except InstantOverflow α → Outcome α
  | .ok a => .ok a
  | .error _ => .error .overflow

end Outcome

end Leasehold

import Leasehold.Validity

/-!
# Tokens

A session token with its validity.  A token never changes: a login or a renewal
makes another one that takes its place.
-/

set_option autoImplicit false

namespace Leasehold

structure Token where
  value : String
  issued : Instant
  validity : Validity
  renewable : Bool
  deriving DecidableEq, Repr, Inhabited

namespace Token

def expiry (t : Token) : Except InstantOverflow (Option Instant) := t.validity.expiry t.issued

def expired (t : Token) (now : Instant) : Except InstantOverflow Bool :=
  t.validity.elapsed t.issued now

/-- A description for logs, which withholds the value. -/
def description (t : Token) : String :=
  "Token \x7b token: [REDACTED], issued_at: " ++ toString t.issued.nanos ++ ", renewable: " ++
    toString t.renewable ++ " \x7d"

end Token

end Leasehold

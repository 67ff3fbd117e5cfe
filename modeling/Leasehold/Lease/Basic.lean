import Leasehold.Json.Value
import Leasehold.Validity

/-!
# Leases

A lease on a secret: where the secret was read, what it holds, and how long the
lease stays valid.
-/

set_option autoImplicit false

namespace Leasehold

structure Lease where
  id : String
  path : String
  data : Json
  issued : Instant
  validity : Validity
  renewable : Bool
  deriving Repr, Inhabited

namespace Lease

def renewed (l : Lease) (issued : Instant) (validity : Validity) (renewable : Bool) : Lease :=
  { l with issued, validity, renewable }

def expiry (l : Lease) : Except InstantOverflow (Option Instant) := l.validity.expiry l.issued

/-- A description for logs, which withholds the payload. -/
def description (l : Lease) : String :=
  "Lease \x7b lease_id: " ++ l.id ++ ", path: " ++ l.path ++ ", issued_at: " ++
    toString l.issued.nanos ++ ", renewable: " ++ toString l.renewable ++ ", .. \x7d"

end Lease

structure Secret where
  data : Json
  lease : Option Lease
  deriving Repr, Inhabited

end Leasehold

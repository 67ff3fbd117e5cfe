import Leasehold.Lease.Service
import Leasehold.Session.Service
import Leasehold.Vault.Client
import Leasehold.WorkerPool

/-!
# Lifecycle

The whole stack: a client that is answered on a timeline, its calls bound to
the token of a session, and a session and a lease container that are shut down
together.
-/

set_option autoImplicit false

namespace Leasehold

open Http (Query)

structure Connection (σ J : Type) where
  client : Client
  answer : (q : Query) → Activity σ J (Query.Answer q)

namespace Connection

variable {σ J α : Type}

def run (c : Connection σ J) (call : Call α) : Activity σ J (Except VaultError α) :=
  Dialogue.through c.answer call.run

def auth (c : Connection σ J) : Session.AuthBackend σ J where
  login := c.run c.client.login
  renewToken token := c.run (c.client.renewToken token)

/-- A call with the token of the session.  When the server refuses the token the session is
invalidated. -/
def authenticated (c : Connection σ J) (session : Session.Service σ J) (call : Token → Call α) :
    Activity σ J (Outcome α) := do
  match ← session.obtain .current with
  | .error fault => return .error fault
  | .ok token =>
      match ← c.run (call token) with
      | .ok a => return .ok a
      | .error e =>
          if e.rejectsCredentials then session.happen .invalidate
          return .error (.error e)

def secrets (c : Connection σ J) (session : Session.Service σ J) : SecretBackend σ J where
  read path := c.authenticated session fun token => c.client.read token.value path
  renewLease lease := c.authenticated session fun token => c.client.renewLease token.value lease
  revokeLease id := c.authenticated session fun token => c.client.revokeLease token.value id

end Connection

structure Lifecycle where
  session : Session.Manager
  leases : Container

namespace Lifecycle

def connect (c : Config) : Except VaultError Lifecycle := do
  c.validate
  let _ ← WorkerPool.start c.pool
  let _ ← Client.ofConfig c
  return ⟨.ofConfig c.session, .new c.lease⟩

/-- Ends both for good, unless the container has been shut down before. -/
def shutdown (l : Lifecycle) : Lifecycle :=
  if l.leases.shutDown then l else ⟨l.session.shutdown, l.leases.shutdown⟩

def metrics (l : Lifecycle) (space : String) : LifecycleMetrics :=
  (LifecycleMetrics.new space).showing l.session.tally l.leases.tally

def description (l : Lifecycle) : String :=
  "VaultLifecycle \x7b session: " ++ l.session.status.name ++ ", leases: " ++
    l.leases.description ++ ", .. \x7d"

end Lifecycle

end Leasehold

import Leasehold.Lease.Container
import Leasehold.Timeline

/-!
# Lease service

A lease container on a timeline.  The service runs the calls of the application
and the cycles of the container as tasks: it lets the events happen to the
container in the shared state, sets the timer that each change asks for, and
takes the calls to the server in between.
-/

set_option autoImplicit false

namespace Leasehold

structure SecretBackend (σ J : Type) where
  read : String → Activity σ J (Outcome Secret)
  renewLease : Lease → Activity σ J (Outcome Lease)
  revokeLease : String → Activity σ J (Outcome Unit)

/-- Where the container stands in the shared state, which job runs a timer, who answers for the
server, and whether timers honour the cancellation of their tasks. -/
structure LeaseService (σ J : Type) where
  get : σ → Container
  put : Container → σ → σ
  job : Timer LeaseTask → J
  backend : SecretBackend σ J
  cancels : Bool := true

namespace LeaseService

variable {σ J : Type}

def happen (h : LeaseService σ J) (e : Container.Event) : Activity σ J e.Answer := do
  let c ← Activity.act fun now s =>
    let c := (h.get s).step now e
    (h.put c.container s, c)
  match c.timer with
  | some t => Activity.spawn (h.job t)
  | none => pure ()
  return c.result

def starts (h : LeaseService σ J) (task : Nat) : Activity σ J Bool :=
  Activity.act fun _ s => (s, (h.get s).timers.holds task || !h.cancels)

def read (h : LeaseService σ J) (path : String) :
    Activity σ J (Outcome (Json × Option LeaseInstance)) := do
  match ← h.happen .openCall with
  | .error e => return .error (.error e)
  | .ok () =>
      let reply ← h.backend.read path
      h.happen (.readReply reply)

def register (h : LeaseService σ J) (l : Lease) : Activity σ J (Outcome LeaseInstance) :=
  h.happen (.register l)

/-- Revokes a lease at the server and removes it whatever the server says. -/
def revoke (h : LeaseService σ J) (id : String) : Activity σ J (Outcome Unit) := do
  match ← h.happen .openCall with
  | .error e => return .error (.error e)
  | .ok () =>
      let reply ← h.backend.revokeLease id
      h.happen (.revokeReply id reply)

def drop (h : LeaseService σ J) (id : String) : Activity σ J (Except VaultError LeaseInstance) :=
  h.happen (.drop id)

def shutdown (h : LeaseService σ J) : Activity σ J Unit := h.happen .shutdown

def rotate (h : LeaseService σ J) (cycle : Nat) (path : String) : Activity σ J Unit := do
  let reply ← h.backend.read path
  let _ ← h.happen (.rotationReply cycle reply)

def runTimer (h : LeaseService σ J) (t : Timer LeaseTask) : Activity σ J Unit := do
  Activity.sleep t.delay
  if ← h.starts t.task then
    match ← h.happen (.ring t) with
    | none => return ()
    | some (cycle, .read path) => h.rotate cycle path
    | some (cycle, .renew lease) =>
        let reply ← h.backend.renewLease lease
        match ← h.happen (.renewalReply cycle reply) with
        | .ok (some path) => h.rotate cycle path
        | _ => return ()

end LeaseService

end Leasehold

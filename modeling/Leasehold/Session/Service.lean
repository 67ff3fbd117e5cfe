import Leasehold.Session.Manager
import Leasehold.Timeline

/-!
# Session service

A session on a timeline.  The service runs the callers and the cycles of a
session as tasks: it lets the events happen to the session in the shared state,
sets the timers and wakes the callers that each change asks for, and takes the
calls to the server in between.
-/

set_option autoImplicit false

namespace Leasehold.Session

structure AuthBackend (σ J : Type) where
  login : Activity σ J (Except VaultError Token)
  renewToken : Token → Activity σ J (Except VaultError Token)

/-- Where the session stands in the shared state, which job runs a timer, who answers for the
server, and whether timers honour the cancellation of their tasks. -/
structure Service (σ J : Type) where
  get : σ → Manager
  put : Manager → σ → σ
  job : Timer Unit → J
  auth : AuthBackend σ J
  cancels : Bool := true

namespace Service

variable {σ J : Type}

/-- Lets an event happen, with its effects: the timer first, then the caller that goes on. -/
def happen (h : Service σ J) (e : Event) : Activity σ J e.Answer := do
  let c ← Activity.act fun now s =>
    let c := (h.get s).step now e
    (h.put c.session s, c)
  match c.timer with
  | some t => Activity.spawn (h.job t)
  | none => pure ()
  match c.woken with
  | some caller => Activity.wake caller
  | none => pure ()
  return c.result

def starts (h : Service σ J) (task : Nat) : Activity σ J Bool :=
  Activity.act fun _ s => (s, (h.get s).live task || !h.cancels)

/-- A caller asks for a token: it gets one at once, waits for its turn, or logs in. -/
def obtain (h : Service σ J) (demand : Demand) : Activity σ J (Outcome Token) := do
  let (caller, turn?) ← h.happen (.begin demand)
  let turn ←
    match turn? with
    | some turn => pure turn
    | none => do
        Activity.park caller
        h.happen (.attempt caller)
  match turn with
  | .answered r => return r.map TokenInstance.token
  | .login =>
      let reply ← h.auth.login
      let r ← h.happen (.loginReply caller reply)
      return r.map TokenInstance.token

def cycleLogin (h : Service σ J) (cycle : Nat) : Activity σ J Unit := do
  let reply ← h.auth.login
  let _ ← h.happen (.cycleLoginReply cycle reply)

def runTimer (h : Service σ J) (t : Timer Unit) : Activity σ J Unit := do
  Activity.sleep t.delay
  if ← h.starts t.task then
    match ← h.happen (.ring t.task) with
    | none => return ()
    | some (cycle, .login) => h.cycleLogin cycle
    | some (cycle, .renew token) =>
        let reply ← h.auth.renewToken token
        match ← h.happen (.renewalReply cycle reply) with
        | .ok true => h.cycleLogin cycle
        | _ => return ()

end Service

end Leasehold.Session

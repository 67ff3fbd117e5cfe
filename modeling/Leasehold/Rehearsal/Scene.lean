import Leasehold.Lifecycle
import Leasehold.Rehearsal.Secrets
import Leasehold.Rehearsal.Server
import Leasehold.Scheduler

/-!
# Scene

Everything that a rehearsal shares: the lifecycle under test, the stand-ins it
talks to, and the log of their calls.  The stand-ins act on the scene as the
backends that the lifecycle expects.
-/

set_option autoImplicit false

namespace Leasehold.Rehearsal

open Http (Query Request Response)

inductive Occurrence where
  | login
  | renewToken (value : String)
  | read (path : String)
  | renewLease (id : String)
  | revokeLease (id : String)
  | create (method : String)
  | execute (r : Request)
  | started (name : String)
  | ended (name : String)

structure Note where
  time : Instant
  event : Occurrence

inductive Result where
  | nothing
  | done
  | fault (f : Fault)
  | token (t : Token)
  | lease (l : Lease)
  | noLease
  | secret (data : Json) (lease : Option Lease)
  | flag (b : Bool)
  | leases (ls : List Lease)
  | events (lost : Nat) (es : List LeaseEvent)
  | text (s : String)

namespace Result

variable {α : Type}

def ofOutcome (f : α → Result) : Outcome α → Result
  | .ok a => f a
  | .error e => .fault e

def ofExcept (f : α → Result) : Except VaultError α → Result
  | .ok a => f a
  | .error e => .fault (.error e)

end Result

structure Errand where
  name : String
  work : Option Duration

structure Handle where
  task : Nat
  cancelled : Bool := false

structure Scene where
  session : Session.Manager := .simple {}
  leases : Container := .new {}
  auth : AuthScript := {}
  authDouble : AuthDouble := { validity := .infinite }
  secrets : SecretScript := {}
  secretDouble : SecretDouble := {}
  server : Server := {}
  files : Files := {}
  subscriptions : Dictionary Subscription := []
  errands : Scheduler Errand := .empty
  handles : Dictionary Handle := []
  log : List Note := []
  finished : List (Nat × Result) := []

namespace Scene

def note (s : Scene) (now : Instant) (event : Occurrence) : Scene :=
  { s with log := s.log ++ [⟨now, event⟩] }

def forget (s : Scene) (name : String) : Scene :=
  match s.handles.get? name with
  | none => s
  | some h => { s with errands := s.errands.dropHandle h.task }

def lifecycle (s : Scene) : Lifecycle := ⟨s.session, s.leases⟩

variable {J α : Type}

/-- A scripted call: it is logged, takes its time, and has its outcome as of the end. -/
def play (event : Occurrence) (take : Scene → Scene × Cue (Instant → α)) :
    Activity Scene J (Except VaultError α) := do
  let cue ← Activity.act fun now s =>
    let (s, cue) := take s
    (s.note now event, cue)
  if !cue.delay.isZero then Activity.sleep cue.delay
  Activity.act fun now s => (s, cue.outcome.map (· now))

def scriptedAuth : Session.AuthBackend Scene J where
  login := play .login fun s =>
    let (auth, cue) := s.auth.login
    ({ s with auth }, cue)
  renewToken t := play (.renewToken t.value) fun s =>
    let (auth, cue) := s.auth.renewal t
    ({ s with auth }, cue)

def simpleAuth : Session.AuthBackend Scene J where
  login := Activity.act fun now s =>
    let (d, r) := s.authDouble.login now
    ({ s with authDouble := d }, r)
  renewToken t := Activity.act fun now s =>
    let (d, r) := s.authDouble.renewal t now
    ({ s with authDouble := d }, r)

def scriptedSecrets : SecretBackend Scene J where
  read path := do
    let r ← play (.read path) fun s =>
      let (secrets, cue) := s.secrets.read path
      ({ s with secrets }, cue)
    return .ofError r
  renewLease l := do
    let r ← play (.renewLease l.id) fun s =>
      let (secrets, cue) := s.secrets.renewal l
      ({ s with secrets }, cue)
    return .ofError r
  revokeLease id := do
    let r ← play (.revokeLease id) fun s =>
      let (secrets, cue) := s.secrets.revocation id
      ({ s with secrets }, cue)
    return .ofError r

def simpleSecrets : SecretBackend Scene J where
  read path := Activity.act fun now s =>
    let (d, r) := s.secretDouble.read path now
    ({ s with secretDouble := d }, .ofError r)
  renewLease l := do
    let delay ← Activity.act fun _ s =>
      let (d, delay) := s.secretDouble.beginRenewal
      ({ s with secretDouble := d }, delay)
    if !delay.isZero then Activity.sleep delay
    Activity.act fun now s =>
      (s, .ofError (s.secretDouble.endRenewal l now))
  revokeLease id := Activity.act fun _ s =>
    let (d, r) := s.secretDouble.revocation id
    ({ s with secretDouble := d }, .ofError r)

def answer : (q : Query) → Activity Scene J (Query.Answer q)
  | .create method _ => do
      let cue ← Activity.act fun now s =>
        match s.server.creation with
        | (_, none) => (s, none)
        | (server, some cue) => ({ s with server }.note now (.create method), some cue)
      match cue with
      | none => return .ok ()
      | some cue =>
          if !cue.delay.isZero then Activity.sleep cue.delay
          return cue.outcome
  | .execute request =>
      play (.execute request) fun s =>
        let (server, cue) := s.server.response request
        ({ s with server }, cue.map fun r _ => r)
  | .clock => Activity.act fun now s => (s, now)
  | .readText file => Activity.act fun _ s => (s, s.files.read file)

end Scene

end Leasehold.Rehearsal

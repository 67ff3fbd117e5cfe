import Leasehold.Rehearsal.Scene

/-!
# Stage

Rehearsals on a timeline.  A rehearsal is a list of steps, each of which may
change what the stand-ins do and then performs one action.  An action is
started as a task of its own; what it ends with may be seen in a later step.
After every step there is one observation.
-/

set_option autoImplicit false

namespace Leasehold.Rehearsal

inductive Setting where
  | logins (cues : List (Cue LoginGrant))
  | renewals (cues : List (Cue RenewalGrant))
  | reads (path : String) (cues : List (Cue ReadGrant))
  | leaseRenewals (id : String) (cues : List (Cue LeaseRenewalGrant))
  | revokes (id : String) (cues : List (Cue Unit))
  | responses (target : String) (cues : List (Cue Http.Response))
  | creations (cues : List (Cue Unit))
  | authDouble (change : AuthDouble → AuthDouble)
  | secretDouble (change : SecretDouble → SecretDouble)

def Setting.apply (s : Scene) : Setting → Scene
  | .logins cues => { s with auth := { s.auth with logins := cues } }
  | .renewals cues => { s with auth := { s.auth with renewals := cues } }
  | .reads path cues =>
      { s with secrets := { s.secrets with reads := s.secrets.reads.put path cues } }
  | .leaseRenewals id cues =>
      { s with secrets := { s.secrets with renewals := s.secrets.renewals.put id cues } }
  | .revokes id cues =>
      { s with secrets := { s.secrets with revokes := s.secrets.revokes.put id cues } }
  | .responses target cues =>
      { s with server := { s.server with responses := s.server.responses.put target cues } }
  | .creations cues => { s with server := { s.server with creations := cues } }
  | .authDouble change => { s with authDouble := change s.authDouble }
  | .secretDouble change => { s with secretDouble := change s.secretDouble }

inductive Action where
  | advance (d : Duration)
  | idle
  | obtain (d : Session.Demand)
  | invalidate
  | endSession
  | endLeases
  | endLifecycle
  | read (path : String)
  | register (grant : LeaseGrant)
  | revoke (id : String)
  | drop (id : String)
  | get (id : String)
  | isManaged (id : String)
  | leases
  | isEmpty
  | isShutDown
  | subscribe (name : String)
  | events (name : String)
  | metrics (space : String)
  | describe
  | schedule (e : Errand) (delay : Duration)
  | cancel (name : String)
  | forget (name : String)

structure Step where
  settings : List Setting := []
  action : Action := .idle

inductive Job where
  | step (k : Nat) (a : Action)
  | renewal (t : Timer Unit)
  | lease (t : Timer LeaseTask)
  | errand (t : Timer Errand)

/-- Who plays against the session and the container, and whether the scheduler honours the
cancellation of tasks. -/
structure Cast where
  auth : Session.AuthBackend Scene Job
  secrets : SecretBackend Scene Job
  cancels : Bool := true

namespace Cast

def sessionOf (auth : Session.AuthBackend Scene Job) (cancels : Bool) :
    Session.Service Scene Job where
  get := Scene.session
  put m s := { s with session := m }
  job := .renewal
  auth := auth
  cancels := cancels

def session (c : Cast) : Session.Service Scene Job := sessionOf c.auth c.cancels

def leases (c : Cast) : LeaseService Scene Job where
  get := Scene.leases
  put l s := { s with leases := l }
  job := .lease
  backend := c.secrets
  cancels := c.cancels

def ofClient (client : Client) (cancels : Bool) : Cast :=
  let connection : Connection Scene Job := { client, answer := Scene.answer }
  { auth := connection.auth
    secrets := connection.secrets (sessionOf connection.auth cancels)
    cancels }

def look (f : Scene → Result) : Activity Scene Job Result := Activity.act fun _ s => (s, f s)

def alter (f : Scene → Scene) : Activity Scene Job Result :=
  Activity.act fun _ s => (f s, .nothing)

def heard (s : Scene) (since : Subscription) : Nat × List LeaseEvent :=
  (s.leases.feed.lost since, s.leases.feed.available since)

def perform (c : Cast) : Action → Activity Scene Job Result
  | .advance _ | .idle => return .nothing
  | .obtain demand => do return .ofOutcome .token (← c.session.obtain demand)
  | .invalidate => do
      c.session.happen .invalidate
      return .nothing
  | .endSession => do
      c.session.happen .shutdown
      return .nothing
  | .endLeases => do
      c.leases.shutdown
      return .nothing
  | .endLifecycle => alter fun s =>
      let l := s.lifecycle.shutdown
      { s with session := l.session, leases := l.leases }
  | .read path => do
      let r ← c.leases.read path
      return .ofOutcome (fun (data, l) => .secret data (l.map LeaseInstance.lease)) r
  | .register grant => do
      let now ← Activity.act fun now s => (s, now)
      let r ← c.leases.register (grant.lease "" "" .null now)
      return .ofOutcome (fun l => .lease l.lease) r
  | .revoke id => do return .ofOutcome (fun _ => .done) (← c.leases.revoke id)
  | .drop id => do return .ofExcept (fun l => .lease l.lease) (← c.leases.drop id)
  | .get id => look fun s =>
      match s.leases.get? id with
      | some l => .lease l.lease
      | none => .noLease
  | .isManaged id => look fun s => .flag (s.leases.managed id)
  | .leases => look fun s =>
      .leases ((s.leases.leases.map LeaseInstance.lease).mergeSort fun a b => decide (a.id ≤ b.id))
  | .isEmpty => look fun s => .flag (s.leases.size == 0)
  | .isShutDown => look fun s => .flag s.leases.shutDown
  | .subscribe name => alter fun s =>
      { s with subscriptions := s.subscriptions.put name s.leases.feed.subscribe }
  | .events name => Activity.act fun _ s =>
      match s.subscriptions.get? name with
      | none => (s, .nothing)
      | some since =>
          let (lost, events) := heard s since
          ({ s with subscriptions := s.subscriptions.put name s.leases.feed.subscribe },
            .events lost events)
  | .metrics space => look fun s => .text (s.lifecycle.metrics space).render
  | .describe => look fun s => .text s.lifecycle.description
  | .schedule errand delay => do
      let timer ← Activity.act fun _ s =>
        ({ s with errands := s.errands.schedule delay errand },
          (⟨s.errands.issued, delay, errand⟩ : Timer Errand))
      Activity.spawn (.errand timer)
      alter fun s =>
        { s.forget errand.name with handles := s.handles.put errand.name { task := timer.task } }
  | .cancel name => alter fun s =>
      match s.handles.get? name with
      | none => s
      | some h =>
          { s with
            errands := s.errands.cancelTask h.task
            handles := s.handles.put name { h with cancelled := true } }
  | .forget name => alter fun s => { s.forget name with handles := s.handles.erase name }

def pollErrand (t : Timer Errand) : Activity Scene Job Polled :=
  Activity.act fun now s =>
    let polled := s.errands.polled now t.task
    let s := { s with errands := s.errands.poll now t.task }
    (if polled = .starts then s.note now (.started t.work.name) else s, polled)

def workOn (e : Errand) : Activity Scene Job Unit :=
  match e.work with
  | none => return ()
  | some d => do
      Activity.sleep d
      Activity.act fun now s => (s.note now (.ended e.name), ())

/-- The task of an errand: it is polled at once, and if it has to wait then when its timer rings. -/
def runErrand (t : Timer Errand) : Activity Scene Job Unit := do
  let first ← pollErrand t
  let polled ←
    if first = .waits then do
      Activity.sleep t.delay
      pollErrand t
    else pure first
  if polled = .starts then workOn t.work

def code (c : Cast) : Job → Activity Scene Job Unit
  | .step k action => do
      let r ← c.perform action
      Activity.act fun _ s => ({ s with finished := s.finished ++ [(k, r)] }, ())
  | .renewal t => c.session.runTimer t
  | .lease t => c.leases.runTimer t
  | .errand t => runErrand t

end Cast

structure Observation where
  time : Instant
  action : Action
  result : Option Result
  completed : List (Nat × Result)
  log : List Note
  events : Nat × List LeaseEvent
  scene : Scene

def runStep (c : Cast) (k : Nat) (step : Step) (b : Bench Scene Job) :
    Observation × Bench Scene Job :=
  let scene := step.settings.foldl Setting.apply b.state
  let b := { b with state := { scene with log := [], finished := [] } }
  let since := b.state.leases.feed.subscribe
  let b :=
    match step.action with
    | .advance d => b.advance c.code d
    | action => b.start c.code (.step k action)
  ({ time := b.clock
     action := step.action
     result := (b.state.finished.find? fun f => f.1 == k).map Prod.snd
     completed :=
      (b.state.finished.filter fun f => f.1 != k).mergeSort fun f g => decide (f.1 ≤ g.1)
     log := b.state.log
     events := Cast.heard b.state since
     scene := b.state }, b)

def run (c : Cast) (steps : List Step) (b : Bench Scene Job) : List Observation :=
  go 0 steps b
where
  go (k : Nat) : List Step → Bench Scene Job → List Observation
    | [], _ => []
    | step :: rest, b =>
        let (o, b) := runStep c k step b
        o :: go (k + 1) rest b

end Leasehold.Rehearsal

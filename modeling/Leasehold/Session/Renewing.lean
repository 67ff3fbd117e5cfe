import Leasehold.Session.Basic

/-!
# Renewing session

A session that renews its token in the background and logs in anew when the
token cannot be renewed any further.  One timer at a time is set for the next
renewal; when it rings a cycle begins, which asks the server once or twice and
then installs what it got, unless the session has been invalidated or shut down
meanwhile.  A cycle that fails leaves the token in place, marks the session as
degraded and records the error for the application.

An event is all that a call, a caller or a cycle does at one instant, from one
point at which it waits to the next.  Threads that take turns inside an event are
outside the model, and only they could end the session between the two looks for
an end that an event takes: one before it puts a token in place, and one when it
sets the timer (`setTimer`).
-/

set_option autoImplicit false

namespace Leasehold.Session

/-- How far a caller in flight has come: in the queue, given the lock, or logging in since the
generation that it remembers. -/
inductive CallStage where
  | waiting
  | granted
  | loggingIn (generation : UInt64)
  deriving DecidableEq, Repr

structure Caller where
  id : Nat
  stage : CallStage
  deriving DecidableEq, Repr

inductive CycleStage where
  | renewing
  | loggingIn
  deriving DecidableEq, Repr

structure Cycle where
  generation : UInt64
  start : TokenInstance
  stage : CycleStage
  deriving DecidableEq, Repr

/-- A session with renewal.  `slot` is the task whose handle the session holds; `calls` and
`cycles` are those in flight. -/
structure Renewing where
  window : RenewalWindow
  token : Option TokenInstance := none
  recorded : Option VaultError := none
  timers : Schedule Unit := .empty
  slot : Option Nat := none
  lock : Lock := {}
  calls : List Caller := []
  cycles : Numbered Cycle := .empty
  generation : UInt64 := 0
  degraded : Bool := false
  terminated : Bool := false
  tally : SessionTally := {}
  serials : Nat := 0
  callers : Nat := 0

namespace Renewing

variable {α : Type}

def status (s : Renewing) : Status :=
  if s.terminated then .terminated
  else if s.token.isNone then .uninitialized
  else if s.degraded then .degraded
  else .active

/-- Whether the session holds the handle of a task that it has not cancelled. -/
def hasTimer (s : Renewing) : Bool := s.slot.isSome

/-! ## Timers and installation -/

def dropTimer (s : Renewing) : Renewing := { s with slot := none, timers := s.timers.cancel s.slot }

/-- Sets the timer of the next cycle in place of the one before.  A session that has ended cancels
the new one at once. -/
def setTimer (s : Renewing) (now : Instant) (delay : Duration) : Change Renewing Unit :=
  let (timers, timer) := s.timers.plan now delay ()
  { session :=
      if s.terminated then { s with timers := timers.remove timer.task }
      else { s with timers := timers.cancel s.slot, slot := some timer.task }
    result := ()
    timer := some timer }

/-- Puts a token in place and sets the timer of its renewal, not sooner than `floor` from now.  When
the instant of the renewal lies beyond the clock the token stays in place without a timer. -/
def install (s : Renewing) (now : Instant) (t : TokenInstance) (floor : Duration) :
    Change Renewing (Except InstantOverflow Unit) :=
  let s := { s with token := some t, degraded := false }
  match s.window.delay t.token.issued t.token.validity now with
  | .error e => { session := s, result := .error e }
  | .ok none => { session := s.dropTimer, result := .ok () }
  | .ok (some delay) =>
      let c := s.setTimer now (max delay floor)
      { session := c.session, result := .ok (), timer := c.timer }

def takeIn (s : Renewing) (t : Token) : Renewing × TokenInstance :=
  ({ s with serials := s.serials + 1 }, ⟨s.serials, t⟩)

def countLogin (s : Renewing) : Renewing :=
  { s with tally := { s.tally with logins := s.tally.logins + 1 } }

def countRenewal (s : Renewing) : Renewing :=
  { s with tally := { s.tally with tokenRenewals := s.tally.tokenRenewals + 1 } }

/-! ## Callers -/

def usable (s : Renewing) (now : Instant) : Except InstantOverflow (Option TokenInstance) :=
  match s.token with
  | none => .ok none
  | some t => (t.token.expired now).map fun expired => if expired then none else some t

def setStage (calls : List Caller) (id : Nat) (stage : CallStage) : List Caller :=
  calls.map fun c => if c.id = id then { c with stage } else c

def arrive (s : Renewing) : Renewing := { s with callers := s.callers + 1 }

def tell (s : Renewing) : Renewing := { s with recorded := none }

def enter (s : Renewing) (id : Nat) (stage : CallStage) : Renewing :=
  { s with lock := s.lock.request id, calls := s.calls ++ [⟨id, stage⟩] }

def beginLogin (s : Renewing) (id : Nat) : Renewing :=
  { s with calls := setStage s.calls id (.loggingIn s.generation) }

def without (s : Renewing) (id : Nat) : Renewing :=
  let lock := s.lock.release
  let calls := s.calls.filter fun c => c.id != id
  { s with
    lock
    calls :=
      match lock.holder with
      | some next => setStage calls next .granted
      | none => calls }

def leave (s : Renewing) (id : Nat) (result : α) : Change Renewing α :=
  { session := s.without id, result, woken := s.lock.release.holder }

def attempt (s : Renewing) (now : Instant) (id : Nat) : Change Renewing Turn :=
  if s.terminated then s.leave id (.answered (.error (.error .shutdown)))
  else
    match s.usable now with
    | .error _ => s.leave id (.answered (.error .overflow))
    | .ok (some t) => s.leave id (.answered (.ok t))
    | .ok none =>
        { session := s.beginLogin id, result := .login }

def tokenOrLogin (s : Renewing) (now : Instant) (id : Nat) : Change Renewing (Option Turn) :=
  match s.usable now with
  | .error _ => { session := s, result := some (.answered (.error .overflow)) }
  | .ok (some t) => { session := s, result := some (.answered (.ok t)) }
  | .ok none =>
      if s.lock.holder.isSome then { session := s.enter id .waiting, result := none }
      else { session := s.enter id (.loggingIn s.generation), result := some .login }

/-- A caller asks for a token; the number is the caller's, and no turn means that it waits. -/
def begin (s : Renewing) (now : Instant) (demand : Demand) : Change Renewing (Nat × Option Turn) :=
  let id := s.callers
  if s.terminated then
    { session := s.arrive, result := (id, some (.answered (.error (.error .shutdown)))) }
  else
    match demand, s.recorded with
    | .token, some e =>
        { session := s.arrive.tell, result := (id, some (.answered (.error (.error e)))) }
    | _, _ =>
        let c := s.arrive.tokenOrLogin now id
        { session := c.session, result := (id, c.result) }

def loginGeneration (s : Renewing) (id : Nat) : Option UInt64 :=
  s.calls.findSome? fun c =>
    match c.stage with
    | .loggingIn g => if c.id = id then some g else none
    | _ => none

/-- The login of the caller that holds the lock ends.  Its token is installed unless the session has
been invalidated since the login began; the caller gets it in any case. -/
def loginReply (s : Renewing) (now : Instant) (id : Nat) (reply : Except VaultError Token) :
    Change Renewing (Outcome TokenInstance) :=
  match reply with
  | .error e => s.leave id (.error (.error e))
  | .ok t =>
      if s.terminated then s.leave id (.error (.error .shutdown))
      else
        let unchanged := s.loginGeneration id = some s.generation
        let (s, new) := s.countLogin.takeIn t
        if unchanged then
          let c := s.install now new .zero
          let result : Outcome TokenInstance :=
            match c.result with
            | .ok _ => .ok new
            | .error _ => .error .overflow
          { c.session.leave id result with timer := c.timer }
        else s.leave id (.ok new)

/-! ## Cycles -/

def firstCall (t : Token) : CycleStage × CycleCall :=
  if t.renewable then (.renewing, .renew t) else (.loggingIn, .login)

def start (s : Renewing) (task : Nat) : Renewing := { s with timers := s.timers.remove task }

def beginCycle (s : Renewing) (t : TokenInstance) : Renewing :=
  { s with cycles := s.cycles.add ⟨s.generation, t, (firstCall t.token).1⟩ }

def ring (s : Renewing) (task : Nat) : Change Renewing (Option (Nat × CycleCall)) :=
  if s.terminated then { session := s.start task, result := none }
  else
    match s.token with
    | none => { session := s.start task, result := none }
    | some t =>
        { session := (s.start task).beginCycle t
          result := some (s.cycles.issued, (firstCall t.token).2) }

def pauseAfterFailure (s : Renewing) : Duration := max s.window.interval pauseBetweenCycles

def endCycle (s : Renewing) (id : Nat) : Renewing := { s with cycles := s.cycles.remove id }

def degrade (s : Renewing) (e : VaultError) : Renewing :=
  { s with
    tally := { s.tally with failures := s.tally.failures + 1 }
    degraded := true
    recorded := some e }

/-- A cycle ends with a token or an error, which counts only in the generation that it began in. -/
def conclude (s : Renewing) (now : Instant) (id : Nat) (c : Cycle)
    (outcome : Except VaultError Token) : Change Renewing (Except InstantOverflow Unit) :=
  let s := s.endCycle id
  if s.terminated ∨ s.generation ≠ c.generation then { session := s, result := .ok () }
  else
    match outcome with
    | .ok t =>
        let (s, new) := s.takeIn t
        s.install now new pauseBetweenCycles
    | .error e =>
        let change := (s.degrade e).setTimer now s.pauseAfterFailure
        { session := change.session, result := .ok (), timer := change.timer }

def exhausted (old new : Token) : Except InstantOverflow Bool := do
  new.validity.exhausted new.issued (← old.expiry)

def turnToLogin (s : Renewing) (id : Nat) : Renewing :=
  { s with cycles := s.cycles.change id fun c => { c with stage := .loggingIn } }

/-- The server answers the renewal of a cycle; the result tells whether the cycle logs in next. -/
def renewalReply (s : Renewing) (now : Instant) (id : Nat) (reply : Except VaultError Token) :
    Change Renewing (Except InstantOverflow Bool) :=
  match s.cycles.find? id with
  | none => { session := s, result := .ok false }
  | some c =>
      match reply with
      | .error _ => { session := s.turnToLogin id, result := .ok true }
      | .ok t =>
          match exhausted c.start.token t with
          | .error e => { session := s.endCycle id, result := .error e }
          | .ok true => { session := s.turnToLogin id, result := .ok true }
          | .ok false =>
              let change := s.countRenewal.conclude now id c (.ok t)
              { session := change.session
                result := change.result.map fun _ => false
                timer := change.timer }

def cycleLoginReply (s : Renewing) (now : Instant) (id : Nat) (reply : Except VaultError Token) :
    Change Renewing (Except InstantOverflow Unit) :=
  match s.cycles.find? id with
  | none => { session := s, result := .ok () }
  | some c =>
      let s :=
        match reply with
        | .ok _ => s.countLogin
        | .error _ => s
      s.conclude now id c reply

/-! ## The application -/

/-- Discards the token and the timer, and disowns every login and every cycle in flight. -/
def invalidate (s : Renewing) : Renewing :=
  { s.dropTimer with generation := s.generation + 1, degraded := false, token := none }

def shutdown (s : Renewing) : Renewing :=
  { s.dropTimer with terminated := true, token := none, recorded := none }

/-! ## Events -/

def step (s : Renewing) (now : Instant) : (e : Event) → Change Renewing e.Answer
  | .begin demand => s.begin now demand
  | .attempt caller => s.attempt now caller
  | .loginReply caller reply => s.loginReply now caller reply
  | .ring task => s.ring task
  | .renewalReply cycle reply => s.renewalReply now cycle reply
  | .cycleLoginReply cycle reply => s.cycleLoginReply now cycle reply
  | .invalidate => { session := s.invalidate, result := () }
  | .shutdown => { session := s.shutdown, result := () }

end Renewing

end Leasehold.Session

import Leasehold.Session.Basic

/-!
# Simple session

A session that logs in once and keeps the token until it is invalidated.  It
neither renews the token nor looks at its expiry.
-/

set_option autoImplicit false

namespace Leasehold.Session

structure Simple where
  token : Option TokenInstance := none
  lock : Lock := {}
  terminated : Bool := false
  tally : SessionTally := {}
  serials : Nat := 0
  callers : Nat := 0

namespace Simple

variable {α : Type}

def status (s : Simple) : Status :=
  if s.terminated then .terminated
  else if s.token.isSome then .active
  else .uninitialized

def leave (s : Simple) (result : α) : Change Simple α :=
  { session := { s with lock := s.lock.release }, result, woken := s.lock.release.holder }

def attempt (s : Simple) : Change Simple Turn :=
  if s.terminated then s.leave (.answered (.error (.error .shutdown)))
  else
    match s.token with
    | some t => s.leave (.answered (.ok t))
    | none => { session := s, result := .login }

def begin (s : Simple) : Change Simple (Nat × Option Turn) :=
  let id := s.callers
  let s := { s with callers := id + 1 }
  if s.terminated then
    { session := s, result := (id, some (.answered (.error (.error .shutdown)))) }
  else
    match s.token with
    | some t => { session := s, result := (id, some (.answered (.ok t))) }
    | none =>
        let waits := s.lock.holder.isSome
        let s := { s with lock := s.lock.request id }
        { session := s, result := (id, if waits then none else some .login) }

def loginReply (s : Simple) (reply : Except VaultError Token) :
    Change Simple (Outcome TokenInstance) :=
  match reply with
  | .error e => s.leave (.error (.error e))
  | .ok t =>
      if s.terminated then s.leave (.error (.error .shutdown))
      else
        let new : TokenInstance := ⟨s.serials, t⟩
        { s with
          token := some new
          serials := s.serials + 1
          tally := { s.tally with logins := s.tally.logins + 1 } }.leave (.ok new)

def invalidate (s : Simple) : Simple := { s with token := none }

def shutdown (s : Simple) : Simple := { s with terminated := true, token := none }

def step (s : Simple) : (e : Event) → Change Simple e.Answer
  | .begin _ => s.begin
  | .attempt _ => s.attempt
  | .loginReply _ reply => s.loginReply reply
  | .ring _ => { session := s, result := none }
  | .renewalReply _ _ => { session := s, result := .ok false }
  | .cycleLoginReply _ _ => { session := s, result := .ok () }
  | .invalidate => { session := s.invalidate, result := () }
  | .shutdown => { session := s.shutdown, result := () }

end Simple

end Leasehold.Session

import Leasehold.Proofs.Session.Installation

/-!
# What a session is asked and what it asks

Events in the terms of an observer: an event begins the call of a caller,
returns a result to one, makes a request to the server, or replies to one.  The
state of a session tells which requests are in flight, and what the answers say
is read off the state in which an event finds the session.
-/

set_option autoImplicit false

namespace Leasehold.Session

/-- A call to the server: the login of a caller, or the renewal or the login of a cycle. -/
inductive Request where
  | callerLogin (caller : Nat)
  | renewal (cycle : Nat)
  | cycleLogin (cycle : Nat)
  deriving DecidableEq, Repr

namespace Event

def begins? : (e : Event) → e.Answer → Option Nat
  | .begin _, answer => some answer.1
  | _, _ => none

def returns? : (e : Event) → e.Answer → Option (Nat × Outcome TokenInstance)
  | .begin _, (id, some (.answered r)) => some (id, r)
  | .attempt id, .answered r => some (id, r)
  | .loginReply id _, r => some (id, r)
  | _, _ => none

def asks? : (e : Event) → e.Answer → Option Request
  | .begin _, (id, some .login) => some (.callerLogin id)
  | .attempt id, .login => some (.callerLogin id)
  | .ring _, some (n, .renew _) => some (.renewal n)
  | .ring _, some (n, .login) => some (.cycleLogin n)
  | .renewalReply n _, .ok true => some (.cycleLogin n)
  | _, _ => none

def replies? : Event → Option (Request × Except VaultError Token)
  | .loginReply id reply => some (.callerLogin id, reply)
  | .renewalReply n reply => some (.renewal n, reply)
  | .cycleLoginReply n reply => some (.cycleLogin n, reply)
  | _ => none

end Event

namespace Renewing

variable {s s' : Renewing} {now : Instant} {e : Event} {r : Request}

/-- Whether a request is in flight. -/
def Pending (s : Renewing) : Request → Prop
  | .callerLogin id => ∃ generation, ⟨id, .loggingIn generation⟩ ∈ s.calls
  | .renewal n => ∃ c, (n, c) ∈ s.cycles.items ∧ c.stage = .renewing
  | .cycleLogin n => ∃ c, (n, c) ∈ s.cycles.items ∧ c.stage = .loggingIn

/-- Whether a session is ready for an event.  A caller goes on after it has been let in, and a reply
belongs to a request in flight; anything else may happen at any time. -/
def Awaits (s : Renewing) : Event → Prop
  | .attempt id => ⟨id, .granted⟩ ∈ s.calls
  | .loginReply id _ => s.Pending (.callerLogin id)
  | .renewalReply n _ => s.Pending (.renewal n)
  | .cycleLoginReply n _ => s.Pending (.cycleLogin n)
  | _ => True

theorem Awaits.pending (awaits : s.Awaits e) {reply : Except VaultError Token}
    (replies : e.replies? = some (r, reply)) : s.Pending r := by
  cases e <;> cases replies <;> exact awaits

theorem Awaits.flying (awaits : s.Awaits e) {n : Nat} (answers : e.cycle? = some n) :
    ∃ c, (n, c) ∈ s.cycles.items := by
  cases e with
  | renewalReply m reply =>
      cases answers
      obtain ⟨c, flying, _⟩ := awaits
      exact ⟨c, flying⟩
  | cycleLoginReply m reply =>
      cases answers
      obtain ⟨c, flying, _⟩ := awaits
      exact ⟨c, flying⟩
  | _ => cases answers

/-! ## Answers -/

/-- What is served from the session is the token in place, and it is usable. -/
def Serves (s : Renewing) (now : Instant) (result : Outcome TokenInstance) : Prop :=
  ∀ t, result = .ok t → s.usable now = .ok (some t)

theorem serves_error (s : Renewing) (now : Instant) (fault : Fault) :
    s.Serves now (.error fault) := by
  intro t served
  cases served

theorem serves_usable {t : TokenInstance} (usable : s.usable now = .ok (some t)) :
    s.Serves now (.ok t) := by
  intro t served
  cases served
  exact usable

theorem usable_eq_some {t : TokenInstance} (usable : s.usable now = .ok (some t)) :
    s.token = some t ∧ t.token.expired now = .ok false := by
  unfold Renewing.usable at usable
  split at usable
  · cases usable
  · rename_i t' installed
    cases expired : t'.token.expired now with
    | error beyond =>
        rw [expired] at usable
        cases usable
    | ok elapsed =>
        rw [expired] at usable
        cases elapsed with
        | true => cases usable
        | false =>
            cases usable
            exact ⟨installed, expired⟩

inductive Begun (s : Renewing) (now : Instant) : Nat × Option Turn → Renewing → Prop
  | answered (result : Outcome TokenInstance) (s' : Renewing)
      (same : s' = s.arrive ∨ s' = s.arrive.tell) (serves : s.Serves now result) :
      Begun s now (s.callers, some (.answered result)) s'
  | queued : Begun s now (s.callers, none) (s.arrive.enter s.callers .waiting)
  | admitted :
      Begun s now (s.callers, some .login) (s.arrive.enter s.callers (.loggingIn s.generation))

inductive Resumed (s : Renewing) (now : Instant) (id : Nat) : Turn → Renewing → Prop
  | answered (result : Outcome TokenInstance) (serves : s.Serves now result) :
      Resumed s now id (.answered result) (s.without id)
  | login : Resumed s now id .login (s.beginLogin id)

theorem begin_begun (s : Renewing) (now : Instant) (demand : Demand) :
    Begun s now (s.begin now demand).result (s.begin now demand).session := by
  unfold Renewing.begin
  dsimp only
  split
  · exact .answered _ _ (Or.inl rfl) (serves_error s now _)
  · split
    · exact .answered _ _ (Or.inr rfl) (serves_error s now _)
    · have same : s.arrive.usable now = s.usable now := rfl
      simp only [tokenOrLogin, same]
      split
      · exact .answered _ _ (Or.inl rfl) (serves_error s now _)
      · rename_i t usable
        exact .answered _ _ (Or.inl rfl) (serves_usable usable)
      · split
        · exact .queued
        · exact .admitted

theorem begin_number (s : Renewing) (now : Instant) (demand : Demand) :
    (s.begin now demand).result.1 = s.callers := by
  have begun := begin_begun s now demand
  generalize (s.begin now demand).result = answer at *
  generalize (s.begin now demand).session = after at *
  cases begun with
  | answered result => rfl
  | queued => rfl
  | admitted => rfl

theorem attempt_resumed (s : Renewing) (now : Instant) (id : Nat) :
    Resumed s now id (s.attempt now id).result (s.attempt now id).session := by
  unfold Renewing.attempt
  split
  · exact .answered _ (serves_error s now _)
  · split
    · exact .answered _ (serves_error s now _)
    · rename_i t usable
      exact .answered _ (serves_usable usable)
    · exact .login

theorem loginReply_returns {id : Nat} {reply : Except VaultError Token} {t : TokenInstance}
    (returned : (s.loginReply now id reply).result = .ok t) :
    reply = .ok t.token ∧ t.serial = s.serials ∧
      (s.loginReply now id reply).session.serials = s.serials + 1 := by
  cases reply with
  | error e => cases returned
  | ok token =>
      unfold loginReply at returned ⊢
      dsimp only at returned ⊢
      split at returned
      · cases returned
      · rename_i serving
        rw [if_neg serving]
        split at returned
        · rename_i unchanged
          rw [if_pos unchanged]
          obtain ⟨timers, slot, same, _⟩ :=
            install_spec (s.countLogin.takeIn token).1 now (s.countLogin.takeIn token).2 .zero
          refine ⟨?_, ?_, congrArg Renewing.serials same⟩
          all_goals
            simp only [leave] at returned
            split at returned
            · cases returned
              rfl
            · cases returned
        · rename_i changed
          rw [if_neg changed]
          cases returned
          exact ⟨rfl, rfl, rfl⟩

end Renewing

end Leasehold.Session

import Leasehold.Rehearsal.Script
import Leasehold.Token

/-!
# Stand-ins for the issuer of tokens

A scripted issuer, which answers logins and renewals as its lists say, and a
simple one, which grants one validity until it is told to fail.
-/

set_option autoImplicit false

namespace Leasehold.Rehearsal

def before (now : Instant) (ago : Duration) : Instant := ⟨now.nanos - ago.nanos⟩

structure LoginGrant where
  value : Option String := none
  validity : Validity := .infinite
  renewable : Bool := true
  issuedAgo : Duration := .zero

def LoginGrant.token (g : LoginGrant) (n : Nat) (now : Instant) : Token :=
  ⟨g.value.getD ("login-" ++ toString n), before now g.issuedAgo, g.validity, g.renewable⟩

/-- What a scripted renewal grants; what it leaves out stays as it was. -/
structure RenewalGrant where
  value : Option String := none
  validity : Option Validity := none
  renewable : Option Bool := none
  issuedAgo : Duration := .zero

def RenewalGrant.token (g : RenewalGrant) (old : Token) (now : Instant) : Token :=
  ⟨g.value.getD old.value, before now g.issuedAgo, g.validity.getD old.validity,
    g.renewable.getD old.renewable⟩

structure AuthScript where
  logins : List (Cue LoginGrant) := []
  renewals : List (Cue RenewalGrant) := []
  loginCalls : Nat := 0

namespace AuthScript

def login (s : AuthScript) : AuthScript × Cue (Instant → Token) :=
  let n := s.loginCalls + 1
  let (cue, logins) := Cue.take s.logins
  ({ s with logins, loginCalls := n }, (cue.getD .unscripted).map (·.token n))

def renewal (s : AuthScript) (old : Token) : AuthScript × Cue (Instant → Token) :=
  let (cue, renewals) := Cue.take s.renewals
  ({ s with renewals }, (cue.getD .unscripted).map (·.token old))

end AuthScript

structure AuthDouble where
  validity : Validity
  renewedValidity : Option Validity := none
  renewable : Bool := true
  available : Bool := true
  loginFailures : Nat := 0
  renewalFailures : Nat := 0
  logins : Nat := 0
  loginAttempts : Nat := 0
  renewals : Nat := 0

namespace AuthDouble

def refused : VaultError := .unavailable "connection refused"

def login (d : AuthDouble) (now : Instant) : AuthDouble × Except VaultError Token :=
  let d := { d with loginAttempts := d.loginAttempts + 1 }
  if !d.available then (d, .error refused)
  else if 0 < d.loginFailures then
    ({ d with loginFailures := d.loginFailures - 1 }, .error (.unavailable "login failed"))
  else
    let n := d.logins + 1
    ({ d with logins := n }, .ok ⟨"s.login-" ++ toString n, now, d.validity, d.renewable⟩)

def renewal (d : AuthDouble) (old : Token) (now : Instant) :
    AuthDouble × Except VaultError Token :=
  if !d.available then (d, .error refused)
  else if 0 < d.renewalFailures then
    ({ d with renewalFailures := d.renewalFailures - 1 },
      .error (.authenticationFailed "token expired"))
  else
    ({ d with renewals := d.renewals + 1 },
      .ok ⟨old.value, now, d.renewedValidity.getD d.validity, old.renewable⟩)

end AuthDouble

end Leasehold.Rehearsal

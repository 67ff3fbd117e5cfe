import Leasehold.Lease.Basic
import Leasehold.Rehearsal.Auth

/-!
# Stand-ins for the server of secrets

A scripted server, which answers reads, renewals and revocations as its lists
say, and a simple one, which hands out numbered secrets until it is told to
fail.
-/

set_option autoImplicit false

namespace Leasehold.Rehearsal

/-- A lease that a script describes; what it leaves out follows from the call. -/
structure LeaseGrant where
  id : Option String := none
  path : Option String := none
  data : Option Json := none
  validity : Validity := .infinite
  renewable : Bool := true
  issuedAgo : Duration := .zero

def LeaseGrant.lease (g : LeaseGrant) (id path : String) (data : Json) (now : Instant) : Lease :=
  ⟨g.id.getD id, g.path.getD path, g.data.getD data, before now g.issuedAgo, g.validity,
    g.renewable⟩

structure ReadGrant where
  data : Option Json := none
  lease : Option LeaseGrant := none

def ReadGrant.secret (g : ReadGrant) (n : Nat) (path : String) (now : Instant) : Secret :=
  let data := g.data.getD (.ofMembers [("n", .ofNat n)])
  ⟨data, g.lease.map fun l => l.lease (path ++ "/" ++ toString n) path data now⟩

/-- What a scripted renewal of a lease answers; what it leaves out stays as it was. -/
structure LeaseRenewalGrant where
  id : Option String := none
  validity : Option Validity := none
  renewable : Option Bool := none
  issuedAgo : Duration := .zero

def LeaseRenewalGrant.lease (g : LeaseRenewalGrant) (old : Lease) (now : Instant) : Lease :=
  { old.renewed (before now g.issuedAgo) (g.validity.getD old.validity)
      (g.renewable.getD old.renewable) with
    id := g.id.getD old.id }

structure SecretScript where
  reads : Script ReadGrant := []
  renewals : Script LeaseRenewalGrant := []
  revokes : Script Unit := []
  readCalls : Nat := 0

namespace SecretScript

def read (s : SecretScript) (path : String) : SecretScript × Cue (Instant → Secret) :=
  let n := s.readCalls + 1
  let (cue, reads) := s.reads.take [path, "*"]
  let cue := cue.getD { outcome := .error (.secretNotFound path) }
  ({ s with reads, readCalls := n }, cue.map (·.secret n path))

def renewal (s : SecretScript) (old : Lease) : SecretScript × Cue (Instant → Lease) :=
  let (cue, renewals) := s.renewals.take [old.id, "*"]
  ({ s with renewals }, (cue.getD .unscripted).map (·.lease old))

def revocation (s : SecretScript) (id : String) : SecretScript × Cue (Instant → Unit) :=
  let (cue, revokes) := s.revokes.take [id, "*"]
  let cue := cue.getD { outcome := .ok () }
  ({ s with revokes }, cue.map fun _ _ => ())

end SecretScript

inductive RenewalHabit where
  | extend
  | fail
  | grant (v : Validity)

structure Shelf where
  validity : Validity := .infinite
  renewable : Bool := false
  leased : Bool := false

structure SecretDouble where
  shelves : Dictionary Shelf := []
  habit : RenewalHabit := .extend
  renewalDelay : Duration := .zero
  readsAvailable : Bool := true
  revokeFails : Bool := false
  issued : Nat := 0
  reads : Nat := 0
  renewals : Nat := 0
  revoked : List String := []

namespace SecretDouble

def read (d : SecretDouble) (path : String) (now : Instant) :
    SecretDouble × Except VaultError Secret :=
  let d := { d with reads := d.reads + 1 }
  if !d.readsAvailable then (d, .error (.unavailable "Vault is sealed"))
  else
    match d.shelves.get? path with
    | none => (d, .error (.secretNotFound path))
    | some shelf =>
        let n := d.issued + 1
        let data : Json :=
          .ofMembers
            [("username", .string ("user-" ++ toString n)),
              ("password", .string ("pw-" ++ toString n))]
        let lease : Lease :=
          ⟨path ++ "/" ++ toString n, path, data, now, shelf.validity, shelf.renewable⟩
        ({ d with issued := n }, .ok ⟨data, if shelf.leased then some lease else none⟩)

def beginRenewal (d : SecretDouble) : SecretDouble × Duration :=
  ({ d with renewals := d.renewals + 1 }, d.renewalDelay)

def endRenewal (d : SecretDouble) (old : Lease) (now : Instant) : Except VaultError Lease :=
  match d.habit with
  | .extend => .ok (old.renewed now old.validity old.renewable)
  | .fail =>
      .error (.invalidRequest ("lease not found or lease is not renewable: " ++ old.id))
  | .grant v => .ok (old.renewed now v old.renewable)

def revocation (d : SecretDouble) (id : String) : SecretDouble × Except VaultError Unit :=
  ({ d with revoked := d.revoked ++ [id] },
    if d.revokeFails then .error (.unavailable "connection reset") else .ok ())

end SecretDouble

end Leasehold.Rehearsal

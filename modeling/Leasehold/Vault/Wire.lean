import Leasehold.Json.Printer
import Leasehold.Json.Record
import Leasehold.Validity

/-!
# Messages of the server's API

The bodies of requests, as compact JSON with their fields in a fixed order, and
what the client reads out of the bodies of responses.
-/

set_option autoImplicit false

namespace Leasehold.Wire

open Json (Tree orDefault)

/-! ## Responses -/

structure Grant where
  clientToken : String := ""
  leaseDuration : Nat := 0
  renewable : Bool := false
  deriving DecidableEq, Repr

def Grant.ofTree? (t : Tree) : Option Grant := do
  match ← t.fields? ["client_token", "lease_duration", "renewable"] with
  | [token, duration, renewable] =>
      return ⟨← orDefault Tree.text? "" token, ← orDefault Tree.natural? 0 duration,
        ← orDefault Tree.truth? false renewable⟩
  | _ => none

def required? (name : String) (t : Tree) : Option Tree := do
  match ← t.fields? [name] with
  | [field] => field
  | _ => none

def auth? (t : Tree) : Option Grant := (required? "auth" t).bind Grant.ofTree?

structure Lookup where
  ttl : Nat := 0
  renewable : Bool := false
  deriving DecidableEq, Repr

def lookup? (t : Tree) : Option Lookup := do
  match ← (← required? "data" t).fields? ["ttl", "renewable"] with
  | [ttl, renewable] =>
      return ⟨← orDefault Tree.natural? 0 ttl, ← orDefault Tree.truth? false renewable⟩
  | _ => none

structure Read where
  leaseId : String := ""
  leaseDuration : Nat := 0
  renewable : Bool := false
  data : Json := .null
  deriving Repr

/-- The payload stands one level below the record, which takes a level of nesting itself. -/
def read? (t : Tree) : Option Read := do
  match ← t.fields? ["lease_id", "lease_duration", "renewable", "data"] with
  | [id, duration, renewable, data] =>
      return ⟨← orDefault Tree.text? "" id, ← orDefault Tree.natural? 0 duration,
        ← orDefault Tree.truth? false renewable,
        ← orDefault (Tree.value? (Json.maxDepth - 1)) .null data⟩
  | _ => none

structure Renewal where
  leaseId : String := ""
  leaseDuration : Nat := 0
  renewable : Bool := false
  deriving DecidableEq, Repr

def renewal? (t : Tree) : Option Renewal := do
  match ← t.fields? ["lease_id", "lease_duration", "renewable"] with
  | [id, duration, renewable] =>
      return ⟨← orDefault Tree.text? "" id, ← orDefault Tree.natural? 0 duration,
        ← orDefault Tree.truth? false renewable⟩
  | _ => none

def errors? (t : Tree) : Option (List String) := do
  match ← t.fields? ["errors"] with
  | [errors] => orDefault Tree.texts? [] errors
  | _ => none

/-! ## Requests -/

def objectText (members : List (String × Json)) : String :=
  String.ofList ('\x7b' :: Json.printMembers members)

/-- The body that asks for the renewal of a lease: by its validity in whole seconds, if it ends. -/
def renewBody (leaseId : String) (validity : Validity) : String :=
  objectText
    (("lease_id", .string leaseId) ::
      match validity.duration? with
      | some d => [("increment", .ofNat d.secs)]
      | none => [])

def revokeBody (leaseId : String) : String := objectText [("lease_id", .string leaseId)]

def loginBody (role jwt : String) : String :=
  objectText [("role", .string role), ("jwt", .string jwt)]

def emptyBody : String := objectText []

end Leasehold.Wire

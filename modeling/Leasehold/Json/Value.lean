import Leasehold.Dictionary

/-!
# JSON values

Numbers are integers of 64 bits or binary64 numbers, the latter kept as their
bits so that values can be told apart.  The members of an object are kept in
the order of their names and no name occurs twice.
-/

set_option autoImplicit false

namespace Leasehold

/-- A JSON number.  An integer lies between `-2 ^ 63` and `2 ^ 64 - 1`. -/
inductive Json.Number where
  | integer (i : Int)
  | real (bits : UInt64)
  deriving DecidableEq, Repr, Inhabited

inductive Json where
  | null
  | bool (b : Bool)
  | number (n : Json.Number)
  | string (s : String)
  | array (items : List Json)
  | object (members : List (String × Json))
  deriving Repr, Inhabited

namespace Json

def ofMembers (written : List (String × Json)) : Json := .object (Dictionary.ofList written)

def ofNat (n : Nat) : Json := .number (.integer n)

def ofInt (i : Int) : Json := .number (.integer i)

def member? (name : String) : Json → Option Json
  | .object members => Dictionary.get? name members
  | _ => none

end Json

end Leasehold

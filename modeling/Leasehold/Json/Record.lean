import Leasehold.Json.Tree

/-!
# JSON records

Reading a record of known fields.  A record is an object, in which every known
field stands at most once and unknown ones are skipped, or an array of the
fields in their order, of which trailing ones may be missing.  A field is read
from its tree, so what is skipped need not denote a value.
-/

set_option autoImplicit false

namespace Leasehold.Json

namespace Tree

/-- The only member with a name; `none` when there are several. -/
def memberOnce? (name : String) (members : List (String × Tree)) : Option (Option Tree) :=
  match members.filter (fun m => m.1 == name) with
  | [] => some none
  | [m] => some (some m.2)
  | _ => none

/-- The trees of the fields of a record, in the order of their names. -/
def fields? (names : List String) : Tree → Option (List (Option Tree))
  | .object written => do
      let members ← written.mapM fun m => m.1.map fun n => (n, m.2)
      names.mapM fun n => memberOnce? n members
  | .array items =>
      if items.length ≤ names.length then
        some (items.map some ++ List.replicate (names.length - items.length) none)
      else none
  | _ => none

def text? : Tree → Option String
  | .string s => s
  | _ => none

def truth? : Tree → Option Bool
  | .bool b => some b
  | _ => none

/-- A natural number of 64 bits, written without fraction and exponent. -/
def natural? : Tree → Option Nat
  | .numeral n =>
      match n.number? with
      | some (.integer i) => if 0 ≤ i then some i.toNat else none
      | _ => none
  | _ => none

def texts? : Tree → Option (List String)
  | .array items => items.mapM text?
  | _ => none

end Tree

def orDefault {α : Type} (read : Tree → Option α) (default : α) : Option Tree → Option α
  | none => some default
  | some t => read t

end Leasehold.Json

import Leasehold.Text.Digits
import Leasehold.Text.Trim

/-!
# Tables of characters

A property of characters as rows, each of which starts at a code and holds for
all codes up to the next row.  Rows are written as words: the code in
hexadecimal digits, a colon, and the value.  A word without a code starts right
behind the start of the word before it.  The tables of this library follow
version 17 of the Unicode character database.
-/

set_option autoImplicit false

namespace Leasehold.Text

structure CodeTable (α : Type) where
  rows : Array (Nat × α)

namespace CodeTable

variable {α : Type}

/-- The rows before it and one more, which a word writes; `next` is its code if it names none. -/
def addWord (read : List Char → α) : Array (Nat × α) × Nat → List Char → Array (Nat × α) × Nat
  | (rows, next), w =>
      match splitAt ':' w with
      | [code, value] => (rows.push (hexValue code, read value), hexValue code + 1)
      | _ => (rows.push (next, read w), next + 1)

def ofLines (read : List Char → α) (lines : List String) : CodeTable α :=
  ⟨((lines.flatMap fun l => splitAt ' ' l.toList).foldl (addWord read) (#[], 0)).1⟩

/-- Where the last row that starts at or below a code stands among the rows from `low` up to
`high`, or `low` if none does. -/
def place (rows : Array (Nat × α)) (code low high : Nat) : Nat :=
  if high ≤ low + 1 then low
  else
    let middle := (low + high) / 2
    if (rows[middle]?).any (·.1 ≤ code) then place rows code middle high
    else place rows code low middle
  termination_by high - low

def row? (t : CodeTable α) (code : Nat) : Option (Nat × α) :=
  (t.rows[place t.rows code 0 t.rows.size]?).filter (·.1 ≤ code)

def value (t : CodeTable α) (other : α) (c : Char) : α :=
  ((t.row? c.toNat).map Prod.snd).getD other

end CodeTable

end Leasehold.Text

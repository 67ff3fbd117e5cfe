import Leasehold.Json.Numeral
import Leasehold.Text.Digits

/-!
# JSON texts

A JSON text is read into the tree of what is written, and a value is what a
tree denotes.  The two are kept apart because a reader that skips a part of a
text asks less of it: skipped strings may hold unpaired surrogates or octets
that are no UTF-8, skipped numerals may be out of range and skipped parts may
be nested to any depth.

The text comes as the units of `Utf8.scan`: `none` is a run of octets that is
no UTF-8.
-/

set_option autoImplicit false

namespace Leasehold.Json

/-- What is written: a string is `none` when it denotes no text. -/
inductive Tree where
  | null
  | bool (b : Bool)
  | numeral (n : Numeral)
  | string (s : Option String)
  | array (items : List Tree)
  | object (members : List (Option String × Tree))
  deriving Repr, Inhabited

inductive Piece where
  | char (c : Char)
  | unit (code : Nat)
  | broken
  deriving DecidableEq, Repr

/-- The text of pieces: the code units of escapes pair up to characters. -/
def Piece.text : List Piece → Option (List Char)
  | [] => some []
  | .char c :: rest => (text rest).map (c :: ·)
  | .unit n :: rest =>
      if n < 0xD800 ∨ 0xDFFF < n then (text rest).map (Char.ofNat n :: ·)
      else if 0xDC00 ≤ n then none
      else
        match rest with
        | .unit m :: rest =>
            if 0xDC00 ≤ m ∧ m ≤ 0xDFFF then
              (text rest).map (Char.ofNat (0x10000 + (n - 0xD800) * 1024 + (m - 0xDC00)) :: ·)
            else none
        | _ => none
  | .broken :: _ => none

abbrev Source := List (Option Char)

namespace Tree

def skipBlank : Source → Source
  | some c :: rest =>
      if c = ' ' ∨ c = '\n' ∨ c = '\t' ∨ c = '\r' then skipBlank rest else some c :: rest
  | s => s

def word : List Char → Source → Option Source
  | [], s => some s
  | c :: cs, some d :: rest => if c = d then word cs rest else none
  | _ :: _, _ => none

def digit? : Option Char → Option Nat
  | some c => if '0' ≤ c ∧ c ≤ '9' then some (c.toNat - '0'.toNat) else none
  | none => none

def digits : Source → List Nat × Source
  | [] => ([], [])
  | c :: rest =>
      match digit? c with
      | some d =>
          let (ds, r) := digits rest
          (d :: ds, r)
      | none => ([], c :: rest)

def digits1 (s : Source) : Option (List Nat × Source) :=
  match digits s with
  | ([], _) => none
  | r => some r

/-- The whole part of a numeral: one zero, or digits that do not start with zero. -/
def wholeDigits (s : Source) : Option (List Nat × Source) :=
  match digits1 s with
  | some (0 :: _ :: _, _) => none
  | r => r

def exponentPart (s : Source) : Option (Option (Bool × List Nat) × Source) :=
  match s with
  | some 'e' :: rest | some 'E' :: rest =>
      let (below, rest) :=
        match rest with
        | some '+' :: r => (false, r)
        | some '-' :: r => (true, r)
        | r => (false, r)
      (digits1 rest).map fun (ds, r) => (some (below, ds), r)
  | s => some (none, s)

def fractionPart (s : Source) : Option (Option (List Nat) × Source) :=
  match s with
  | some '.' :: rest => (digits1 rest).map fun (ds, r) => (some ds, r)
  | s => some (none, s)

def numeralFrom (negative : Bool) (s : Source) : Option (Tree × Source) := do
  let (whole, s) ← wholeDigits s
  let (fraction, s) ← fractionPart s
  let (exponent, s) ← exponentPart s
  return (.numeral ⟨negative, whole, fraction, exponent⟩, s)

def escape? : Char → Option Char
  | '"' => some '"'
  | '\\' => some '\\'
  | '/' => some '/'
  | 'b' => some '\x08'
  | 'f' => some '\x0c'
  | 'n' => some '\n'
  | 'r' => some '\r'
  | 't' => some '\t'
  | _ => none

def pieces : Source → Option (List Piece × Source)
  | [] => none
  | none :: rest => (pieces rest).map fun (ps, r) => (.broken :: ps, r)
  | some '"' :: rest => some ([], rest)
  | some '\\' :: some 'u' :: a :: b :: c :: d :: rest =>
      match a.bind Text.hexDigit?, b.bind Text.hexDigit?, c.bind Text.hexDigit?,
        d.bind Text.hexDigit? with
      | some a, some b, some c, some d =>
          (pieces rest).map fun (ps, r) => (.unit (((a * 16 + b) * 16 + c) * 16 + d) :: ps, r)
      | _, _, _, _ => none
  | some '\\' :: some e :: rest =>
      match escape? e with
      | some c => (pieces rest).map fun (ps, r) => (.char c :: ps, r)
      | none => none
  | some '\\' :: _ => none
  | some c :: rest =>
      if c.toNat < 0x20 then none
      else (pieces rest).map fun (ps, r) => (.char c :: ps, r)

def stringFrom (s : Source) : Option (Option String × Source) :=
  (pieces s).map fun (ps, r) => ((Piece.text ps).map String.ofList, r)

mutual

/-- One value, which may stand behind blanks. -/
def value : Nat → Source → Option (Tree × Source)
  | 0, _ => none
  | fuel + 1, s =>
      match skipBlank s with
      | some 'n' :: rest => (word ['u', 'l', 'l'] rest).map fun r => (.null, r)
      | some 't' :: rest => (word ['r', 'u', 'e'] rest).map fun r => (.bool true, r)
      | some 'f' :: rest => (word ['a', 'l', 's', 'e'] rest).map fun r => (.bool false, r)
      | some '"' :: rest => (stringFrom rest).map fun (t, r) => (.string t, r)
      | some '-' :: rest => numeralFrom true rest
      | some '[' :: rest =>
          match skipBlank rest with
          | some ']' :: r => some (.array [], r)
          | r => (items fuel r).map fun (ts, r) => (.array ts, r)
      | some '{' :: rest =>
          match skipBlank rest with
          | some '}' :: r => some (.object [], r)
          | r => (members fuel r).map fun (ms, r) => (.object ms, r)
      | s => numeralFrom false s

def items : Nat → Source → Option (List Tree × Source)
  | 0, _ => none
  | fuel + 1, s => do
      let (t, s) ← value fuel s
      match skipBlank s with
      | some ']' :: r => return ([t], r)
      | some ',' :: r =>
          let (ts, r) ← items fuel r
          return (t :: ts, r)
      | _ => none

def members : Nat → Source → Option (List (Option String × Tree) × Source)
  | 0, _ => none
  | fuel + 1, s => do
      match skipBlank s with
      | some '"' :: r =>
          let (name, s) ← stringFrom r
          match skipBlank s with
          | some ':' :: r =>
              let (t, s) ← value fuel r
              match skipBlank s with
              | some '}' :: r => return ([(name, t)], r)
              | some ',' :: r =>
                  let (ms, r) ← members fuel r
                  return ((name, t) :: ms, r)
              | _ => none
          | _ => none
      | _ => none

end

/-- The tree of a whole text: one value, and blanks around it.  Each step of the reader either
reads a unit or descends once more, so twice the length is fuel enough. -/
def ofSource? (s : Source) : Option Tree := do
  let (t, rest) ← value (2 * s.length + 2) s
  if (skipBlank rest).isEmpty then some t else none

end Tree

def maxDepth : Nat := 127

mutual

def Tree.value? : Nat → Tree → Option Json
  | _, .null => some .null
  | _, .bool b => some (.bool b)
  | _, .numeral n => n.number?.map .number
  | _, .string s => s.map .string
  | room, .array ts =>
      match room with
      | 0 => none
      | room + 1 => (Tree.values? room ts).map .array
  | room, .object ms =>
      match room with
      | 0 => none
      | room + 1 => (Tree.memberValues? room ms).map ofMembers

def Tree.values? : Nat → List Tree → Option (List Json)
  | _, [] => some []
  | room, t :: ts => do return (← Tree.value? room t) :: (← Tree.values? room ts)

def Tree.memberValues? : Nat → List (Option String × Tree) → Option (List (String × Json))
  | _, [] => some []
  | room, (name, t) :: ms => do
      let n ← name
      return (n, ← Tree.value? room t) :: (← Tree.memberValues? room ms)

end

def ofSource? (s : Source) : Option Json := do
  (← Tree.ofSource? s).value? maxDepth

end Leasehold.Json

import Leasehold.Json.Value
import Leasehold.Decimal.Shortest

/-!
# Printing JSON

The compact text of a value: no blanks, members in their order, and in strings
only the quote, the backslash and control characters escaped.
-/

set_option autoImplicit false

namespace Leasehold.Json

def hexChar (n : Nat) : Char := if n < 10 then Char.ofNat (48 + n) else Char.ofNat (87 + n)

def escapeChar (c : Char) : List Char :=
  match c with
  | '"' => ['\\', '"']
  | '\\' => ['\\', '\\']
  | '\x08' => ['\\', 'b']
  | '\x0c' => ['\\', 'f']
  | '\n' => ['\\', 'n']
  | '\r' => ['\\', 'r']
  | '\t' => ['\\', 't']
  | c =>
      if c.toNat < 0x20 then ['\\', 'u', '0', '0', hexChar (c.toNat / 16), hexChar (c.toNat % 16)]
      else [c]

def quote (s : List Char) : List Char := '"' :: s.flatMap escapeChar ++ ['"']

def realDigits (digits : List Char) (point : Int) : List Char :=
  let n : Int := digits.length
  if n ≤ point ∧ point ≤ 16 then
    digits ++ List.replicate (point - n).toNat '0' ++ ['.', '0']
  else if 0 < point ∧ point ≤ 16 then
    digits.take point.toNat ++ '.' :: digits.drop point.toNat
  else if -5 < point ∧ point ≤ 0 then
    '0' :: '.' :: List.replicate (-point).toNat '0' ++ digits
  else
    let sign := if 1 ≤ point then ['+'] else []
    let exponent := 'e' :: sign ++ (toString (point - 1)).toList
    match digits with
    | [d] => d :: exponent
    | d :: ds => d :: '.' :: ds ++ exponent
    | [] => exponent

/-- A real number has the fewest digits that read back; one that is not finite is written `null`. -/
def realText (bits : UInt64) : List Char :=
  match Decimal.Magnitude.ofBits? bits with
  | none => ['n', 'u', 'l', 'l']
  | some v =>
      let sign := if 9223372036854775808 ≤ bits.toNat then ['-'] else []
      if v.m = 0 then sign ++ ['0', '.', '0']
      else
        let (k, d) := v.shortest
        let all := (toString k).toList
        let digits := (all.reverse.dropWhile (· == '0')).reverse
        sign ++ realDigits digits (d + all.length)

def numberText : Number → List Char
  | .integer i => (toString i).toList
  | .real bits => realText bits

mutual

def print : Json → List Char
  | .null => ['n', 'u', 'l', 'l']
  | .bool true => ['t', 'r', 'u', 'e']
  | .bool false => ['f', 'a', 'l', 's', 'e']
  | .number n => numberText n
  | .string s => quote s.toList
  | .array items => '[' :: printItems items
  | .object members => '{' :: printMembers members

def printItems : List Json → List Char
  | [] => [']']
  | [v] => print v ++ [']']
  | v :: vs => print v ++ ',' :: printItems vs

def printMembers : List (String × Json) → List Char
  | [] => ['}']
  | [(n, v)] => quote n.toList ++ ':' :: print v ++ ['}']
  | (n, v) :: ms => quote n.toList ++ ':' :: print v ++ ',' :: printMembers ms

end

def render (v : Json) : String := String.ofList v.print

end Leasehold.Json

import Leasehold.Json.Value

/-!
# JSON numerals

A numeral as it is written, and the number it denotes: an integer when it has
neither fraction nor exponent and fits 64 bits, else a binary64 number.  Minus
zero is the binary64 number.  A numeral above the largest binary64 number
denotes nothing.

The binary64 number of a numeral is its first digits, as many as fit 64 bits,
times or divided by a power of ten; each of the two steps rounds.
-/

set_option autoImplicit false

namespace Leasehold.Json

structure Numeral where
  negative : Bool
  whole : List Nat
  fraction : Option (List Nat) := none
  exponent : Option (Bool × List Nat) := none
  deriving DecidableEq, Repr

namespace Numeral

/-- Digits taken into a number below `2 ^ 64`: the number and the digits that no longer fit. -/
def take64 : Nat → List Nat → Nat × List Nat
  | n, [] => (n, [])
  | n, d :: rest =>
      if n * 10 + d < 18446744073709551616 then take64 (n * 10 + d) rest else (n, d :: rest)

/-- The value of the digits of an exponent, unless it exceeds 31 bits. -/
def exponentValue : Nat → List Nat → Option Nat
  | n, [] => some n
  | n, d :: rest => if n * 10 + d < 2147483648 then exponentValue (n * 10 + d) rest else none

/-- `f` scaled by a power of ten; a result beyond the largest binary64 number is refused. -/
def scaleFloat : Nat → Float → Int → Option Float
  | 0, f, _ => some f
  | fuel + 1, f, e =>
      if e.natAbs ≤ 308 then
        if 0 ≤ e then
          let r := f * Float.ofScientific 1 false e.natAbs
          if r.isInf then none else some r
        else some (f / Float.ofScientific 1 false e.natAbs)
      else if f == 0.0 then some f
      else if 0 ≤ e then none
      else scaleFloat fuel (f / Float.ofScientific 1 false 308) (e + 308)

def clampExponent (e : Int) : Int := max (-2147483648) (min e 2147483647)

/-- The magnitude of a numeral with a fraction or an exponent, or of an integer that is too long. -/
def magnitude (n : Numeral) : Option Float :=
  let (significand, dropped) := take64 0 n.whole
  let (significand, used) :=
    match n.fraction with
    | none => (significand, 0)
    | some digits =>
        let (s, left) := take64 significand digits
        (s, digits.length - left.length)
  let base : Int := (dropped.length : Int) - used
  match n.exponent with
  | none => scaleFloat 3 significand.toUInt64.toFloat base
  | some (below, digits) =>
      match exponentValue 0 digits with
      | none => if significand ≠ 0 ∧ !below then none else some 0.0
      | some e =>
          scaleFloat 3 significand.toUInt64.toFloat
            (clampExponent (if below then base - e else base + e))

def number? (n : Numeral) : Option Number :=
  let (value, rest) := take64 0 n.whole
  let asReal : Option Number :=
    n.magnitude.map fun f => .real (if n.negative then -f else f).toBits
  if n.fraction.isSome || n.exponent.isSome || !rest.isEmpty then asReal
  else if !n.negative then some (.integer value)
  else if value = 0 ∨ 9223372036854775808 < value then some (.real (-value.toUInt64.toFloat).toBits)
  else some (.integer (-(value : Int)))

end Numeral

end Leasehold.Json

/-!
# Punycode

A label of a domain name in letters, digits and hyphens.  Its ASCII characters
come first; every other character follows as the distance, in a number system
whose digits adapt to the distances seen, from the character placed before it.
-/

set_option autoImplicit false

namespace Leasehold.Punycode

def digitChar (d : Nat) : Char := if d < 26 then Char.ofNat (97 + d) else Char.ofNat (22 + d)

def digitValue? (c : Char) : Option Nat :=
  if 'a' ≤ c ∧ c ≤ 'z' then some (c.toNat - 97)
  else if 'A' ≤ c ∧ c ≤ 'Z' then some (c.toNat - 65)
  else if '0' ≤ c ∧ c ≤ '9' then some (c.toNat - 22)
  else none

/-- The least digit at position `k` that is not the last one of its number. -/
def threshold (k bias : Nat) : Nat :=
  if k ≤ bias then 1 else if bias + 26 ≤ k then 26 else k - bias

theorem one_le_threshold (k bias : Nat) : 1 ≤ threshold k bias := by
  unfold threshold
  split
  · omega
  · split <;> omega

theorem threshold_le (k bias : Nat) : threshold k bias ≤ 26 := by
  unfold threshold
  split
  · omega
  · split <;> omega

/-- A distance divided down to at most 455, and thirty-six for every division. -/
def dampen (delta k : Nat) : Nat × Nat :=
  if 455 < delta then dampen (delta / 35) (k + 36) else (delta, k)
  termination_by delta
  decreasing_by exact Nat.div_lt_self (by omega) (by omega)

/-- The bias for the next number, after a distance `delta` and with `count` characters placed. -/
def adapt (delta count : Nat) (first : Bool) : Nat :=
  let d := if first then delta / 700 else delta / 2
  let (d, k) := dampen (d + d / count) 0
  k + 36 * d / (d + 38)

def distanceDigits (bias k q : Nat) : List Char :=
  let t := threshold k bias
  if q < t then [digitChar q]
  else digitChar (t + (q - t) % (36 - t)) :: distanceDigits bias (k + 36) ((q - t) / (36 - t))
  termination_by q
  decreasing_by
    have h1 := one_le_threshold k bias
    have h2 := threshold_le k bias
    calc (q - threshold k bias) / (36 - threshold k bias)
        ≤ q - threshold k bias := Nat.div_le_self _ _
      _ < q := by omega

structure Encoder where
  out : List Char
  delta : Nat
  bias : Nat
  placed : Nat

def Encoder.pass (basic code : Nat) (e : Encoder) (c : Char) : Encoder :=
  if c.toNat < code then { e with delta := e.delta + 1 }
  else if c.toNat = code then
    { out := e.out ++ distanceDigits e.bias 36 e.delta
      delta := 0
      bias := adapt e.delta (e.placed + 1) (e.placed == basic)
      placed := e.placed + 1 }
  else e

/-- Places the codes in ascending order, the search starting at `code`. -/
def encodeCodes (label : List Char) (basic : Nat) : List Nat → Nat → Encoder → Encoder
  | [], _, e => e
  | next :: rest, code, e =>
      let e := { e with delta := e.delta + (next - code) * (e.placed + 1) }
      let e := label.foldl (Encoder.pass basic next) e
      encodeCodes label basic rest (next + 1) { e with delta := e.delta + 1 }

def encode (label : List Char) : List Char :=
  let basic := label.filter (·.toNat < 128)
  let codes := ((label.filter (128 ≤ ·.toNat)).map Char.toNat).mergeSort.eraseDups
  let start : Encoder := ⟨[], 0, 72, basic.length⟩
  basic ++ (if basic.isEmpty then [] else ['-']) ++
    (encodeCodes label basic.length codes 128 start).out

def readDistance (bias : Nat) : Nat → Nat → Nat → List Char → Option (Nat × List Char)
  | _, _, _, [] => none
  | k, w, n, c :: rest =>
      (digitValue? c).bind fun d =>
        let t := threshold k bias
        let n := n + d * w
        if d < t then some (n, rest) else readDistance bias (k + 36) (w * (36 - t)) n rest

def insertCodes : Nat → List Char → (code i bias : Nat) → List Char → Option (List Char)
  | _, [], _, _, _, out => some out
  | 0, _ :: _, _, _, _, _ => none
  | fuel + 1, digits, code, i, bias, out => do
      let (j, rest) ← readDistance bias 36 1 i digits
      let count := out.length + 1
      let bias := adapt (j - i) count (i == 0)
      let code := code + j / count
      let place := j % count
      if 0x10FFFF < code ∨ (0xD800 ≤ code ∧ code ≤ 0xDFFF) then none
      insertCodes fuel rest code (place + 1) bias
        (out.take place ++ Char.ofNat code :: out.drop place)

/-- The label that a Punycode text writes.  The last hyphen ends the ASCII characters of the label
unless there are none in front of it. -/
def decode? (s : List Char) : Option (List Char) :=
  let tail := (s.reverse.takeWhile (· != '-')).reverse
  let basic := s.take (s.length - tail.length - 1)
  if basic.any (128 ≤ ·.toNat) then none
  else if basic.isEmpty then insertCodes s.length s 128 0 72 []
  else insertCodes tail.length tail 128 0 72 basic

end Leasehold.Punycode

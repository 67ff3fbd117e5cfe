/-!
# UTF-8

Octets are read as a list of units: a character, or `none` for each maximal run
of octets that begins a character and does not complete it, and for each octet
that begins none.  The text of octets shows such a unit as U+FFFD.  `encode`
writes characters.
-/

set_option autoImplicit false

namespace Leasehold.Utf8

/-- A character begun: the octets still owed, the bounds of the next one, and the bits so far. -/
structure Begun where
  owed : Nat
  low : Nat
  high : Nat
  bits : Nat

inductive Lead where
  | whole (c : Char)
  | part (b : Begun)
  | broken

def lead (o : Nat) : Lead :=
  if o ≤ 0x7F then .whole (Char.ofNat o)
  else if o < 0xC2 then .broken
  else if o ≤ 0xDF then .part ⟨1, 0x80, 0xBF, o - 0xC0⟩
  else if o = 0xE0 then .part ⟨2, 0xA0, 0xBF, 0⟩
  else if o = 0xED then .part ⟨2, 0x80, 0x9F, 0xD⟩
  else if o ≤ 0xEF then .part ⟨2, 0x80, 0xBF, o - 0xE0⟩
  else if o = 0xF0 then .part ⟨3, 0x90, 0xBF, 0⟩
  else if o ≤ 0xF3 then .part ⟨3, 0x80, 0xBF, o - 0xF0⟩
  else if o = 0xF4 then .part ⟨3, 0x80, 0x8F, 4⟩
  else .broken

def start (o : Nat) : List (Option Char) × Option Begun :=
  match lead o with
  | .whole c => ([some c], none)
  | .part b => ([], some b)
  | .broken => ([none], none)

/-- One octet: the units it completes, and the character begun after it. -/
def feed : Option Begun → Nat → List (Option Char) × Option Begun
  | none, o => start o
  | some b, o =>
      if b.low ≤ o ∧ o ≤ b.high then
        let bits := b.bits * 64 + (o - 0x80)
        if b.owed ≤ 1 then ([some (Char.ofNat bits)], none)
        else ([], some ⟨b.owed - 1, 0x80, 0xBF, bits⟩)
      else
        let (units, next) := start o
        (none :: units, next)

def scanFrom : Option Begun → List UInt8 → List (Option Char)
  | none, [] => []
  | some _, [] => [none]
  | b, o :: rest =>
      let (units, next) := feed b o.toNat
      units ++ scanFrom next rest

def scan (octets : List UInt8) : List (Option Char) := scanFrom none octets

/-- The text of octets, U+FFFD standing for what is no UTF-8. -/
def decodeLossy (octets : List UInt8) : String :=
  String.ofList ((scan octets).map (·.getD '\uFFFD'))

/-- The text of octets, when all of them are UTF-8. -/
def decode? (octets : List UInt8) : Option String :=
  (scan octets).mapM id |>.map String.ofList

def encodeChar (c : Char) : List UInt8 :=
  let n := c.toNat
  if n < 0x80 then [n.toUInt8]
  else if n < 0x800 then [(0xC0 + n / 64).toUInt8, (0x80 + n % 64).toUInt8]
  else if n < 0x10000 then
    [(0xE0 + n / 4096).toUInt8, (0x80 + n / 64 % 64).toUInt8, (0x80 + n % 64).toUInt8]
  else
    [(0xF0 + n / 262144).toUInt8, (0x80 + n / 4096 % 64).toUInt8, (0x80 + n / 64 % 64).toUInt8,
      (0x80 + n % 64).toUInt8]

def encode (s : List Char) : List UInt8 := s.flatMap encodeChar

def ofString (s : String) : List UInt8 := encode s.toList

end Leasehold.Utf8

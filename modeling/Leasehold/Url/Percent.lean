import Leasehold.Text.Digits
import Leasehold.Text.Utf8

/-!
# Percent-encoding

Which characters each part of a URL may not hold, and the escapes that stand
for them: a percent sign and two upper-case digits for every octet.  A
character outside ASCII is always escaped, a percent sign never, so text that
is encoded once is not changed by encoding it again.
-/

set_option autoImplicit false

namespace Leasehold.Percent

def inControls (c : Char) : Bool := c.toNat < 0x20 || 0x7E < c.toNat

def inFragment (c : Char) : Bool := inControls c || [' ', '"', '<', '>', '\x60'].contains c

def inQuery (c : Char) : Bool := inControls c || [' ', '"', '#', '<', '>'].contains c

def inSpecialQuery (c : Char) : Bool := inQuery c || c == '\''

def inPath (c : Char) : Bool := inFragment c || ['#', '?', '\x7b', '\x7d'].contains c

def inUserinfo (c : Char) : Bool :=
  inPath c || ['/', ':', ';', '=', '@', '[', '\\', ']', '^', '|'].contains c

def hexDigit (n : Nat) : Char := if n < 10 then Char.ofNat (48 + n) else Char.ofNat (55 + n)

def escape (o : UInt8) : List Char := ['%', hexDigit (o.toNat / 16), hexDigit (o.toNat % 16)]

def encodeChar (set : Char → Bool) (c : Char) : List Char :=
  if set c then (Utf8.encodeChar c).flatMap escape else [c]

def encode (set : Char → Bool) (s : List Char) : List Char := s.flatMap (encodeChar set)

def escaped? (a b : UInt8) : Option UInt8 :=
  match Text.hexDigit? (Char.ofNat a.toNat), Text.hexDigit? (Char.ofNat b.toNat) with
  | some x, some y => some (x * 16 + y).toUInt8
  | _, _ => none

/-- The octets of a text in which escapes stand for octets; any other percent sign is kept. -/
def decodeOctets : List UInt8 → List UInt8
  | o :: a :: b :: tail =>
      if o = 37 then
        match escaped? a b with
        | some x => x :: decodeOctets tail
        | none => o :: decodeOctets (a :: b :: tail)
      else o :: decodeOctets (a :: b :: tail)
  | os => os

def decode (s : List Char) : List UInt8 := decodeOctets (Utf8.encode s)

end Leasehold.Percent

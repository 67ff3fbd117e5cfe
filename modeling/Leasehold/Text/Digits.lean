/-!
# Digits

The numbers that digits of a radix write, letters of either case being digits
from ten on.
-/

set_option autoImplicit false

namespace Leasehold.Text

def digitValue? (radix : Nat) (c : Char) : Option Nat :=
  let v :=
    if '0' ≤ c ∧ c ≤ '9' then c.toNat - 48
    else if 'a' ≤ c ∧ c ≤ 'f' then c.toNat - 87
    else if 'A' ≤ c ∧ c ≤ 'F' then c.toNat - 55
    else 16
  if v < radix then some v else none

def number? (radix : Nat) (s : List Char) : Option Nat :=
  s.foldlM (fun n c => (digitValue? radix c).map (n * radix + ·)) 0

def hexDigit? (c : Char) : Option Nat := digitValue? 16 c

def hexValue (s : List Char) : Nat := (number? 16 s).getD 0

end Leasehold.Text

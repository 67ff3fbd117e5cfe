/-!
# Shortest decimals

The decimal with the fewest digits that reads back as a given binary64 number,
and of those the one nearest to the number.  A finite number is `m * 2 ^ q`; the
decimals that read back as it lie between the midpoints to its neighbours, the
midpoints included when `m` is even.
-/

set_option autoImplicit false

namespace Leasehold.Decimal

/-- A finite magnitude `m * 2 ^ q`.  `narrow` says that the neighbour below is half as far away as
the neighbour above. -/
structure Magnitude where
  m : Nat
  q : Int
  narrow : Bool
  deriving DecidableEq, Repr

def hiddenBit : Nat := 4503599627370496

def Magnitude.ofBits? (bits : UInt64) : Option Magnitude :=
  let biased : Nat := bits.toNat / hiddenBit % 2048
  let fraction : Nat := bits.toNat % hiddenBit
  if biased = 2047 then none
  else if biased = 0 then some ⟨fraction, -1074, false⟩
  else some ⟨hiddenBit + fraction, (biased : Int) - 1075, fraction == 0 && biased != 1⟩

def compareScaled (n : Nat) (e : Int) (k : Nat) (d : Int) : Ordering :=
  compare (n * Nat.pow 2 e.toNat * Nat.pow 10 (-d).toNat)
    (k * Nat.pow 10 d.toNat * Nat.pow 2 (-e).toNat)

def wholePart (n : Nat) (e d : Int) : Nat :=
  (n * Nat.pow 2 e.toNat * Nat.pow 10 (-d).toNat) / (Nat.pow 10 d.toNat * Nat.pow 2 (-e).toNat)

namespace Magnitude

def reads (v : Magnitude) (k : Nat) (d : Int) : Bool :=
  let low := compareScaled (4 * v.m - (if v.narrow then 1 else 2)) (v.q - 2) k d
  let high := compareScaled (4 * v.m + 2) (v.q - 2) k d
  if v.m % 2 = 0 then low != .gt && high != .lt else low == .lt && high == .gt

/-- The multiple of `10 ^ d` that reads back as the magnitude and is nearest to it; of two equally
near ones the even one. -/
def onGrid? (v : Magnitude) (d : Int) : Option Nat :=
  let below := wholePart v.m v.q d
  match v.reads below d, v.reads (below + 1) d with
  | true, true =>
      match compareScaled (2 * v.m) v.q (2 * below + 1) d with
      | .lt => some below
      | .eq => some (below + below % 2)
      | .gt => some (below + 1)
  | true, false => some below
  | false, true => some (below + 1)
  | false, false => none

/-- The first grid, from the coarse to the fine, with a multiple that reads back. -/
def firstGrid (v : Magnitude) : Nat → Int → Nat × Int
  | 0, d => (wholePart v.m v.q d, d)
  | steps + 1, d =>
      match v.onGrid? d with
      | some k => (k, d)
      | none => firstGrid v steps (d - 1)

/-- The decimal exponent of the leading digit, or one more. -/
def leading (v : Magnitude) : Int :=
  -- 30103 / 100000 lies just above the logarithm of two.
  ((v.m.log2 : Int) + v.q + 1) * 30103 / 100000 + 1

/-- The shortest decimal of a magnitude above zero, as digits and a power of ten.  No binary64
number needs more than seventeen digits. -/
def shortest (v : Magnitude) : Nat × Int := v.firstGrid 20 v.leading

end Magnitude

end Leasehold.Decimal

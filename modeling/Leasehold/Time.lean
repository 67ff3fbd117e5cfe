/-!
# Time

Durations and instants in whole nanoseconds.  An instant is counted from the
origin of a monotonic clock whose seconds are a signed 64-bit number, so adding
a duration to an instant may leave the range of the clock; `Instant.plus` says
when.
-/

set_option autoImplicit false

namespace Leasehold

structure Duration where
  nanos : Nat
  deriving DecidableEq, Repr, Inhabited

namespace Duration

instance : LE Duration := ⟨fun a b => a.nanos ≤ b.nanos⟩
instance : LT Duration := ⟨fun a b => a.nanos < b.nanos⟩
instance (a b : Duration) : Decidable (a ≤ b) := inferInstanceAs (Decidable (a.nanos ≤ b.nanos))
instance (a b : Duration) : Decidable (a < b) := inferInstanceAs (Decidable (a.nanos < b.nanos))
instance : Max Duration := maxOfLe
instance : Min Duration := minOfLe

def zero : Duration := ⟨0⟩

def ofMillis (n : Nat) : Duration := ⟨n * 1000000⟩

def ofSecs (n : Nat) : Duration := ⟨n * 1000000000⟩

def secs (d : Duration) : Nat := d.nanos / 1000000000

def subsecNanos (d : Duration) : Nat := d.nanos % 1000000000

def minus (d margin : Duration) : Duration := ⟨d.nanos - margin.nanos⟩

def isZero (d : Duration) : Bool := d.nanos == 0

/-- A fraction below one as digits after a point: `places` places without trailing zeros, and
nothing at all for zero. -/
def fractionText (n places : Nat) : String :=
  let digits := (toString n).toList
  let padded := List.replicate (places - digits.length) '0' ++ digits
  let kept := (padded.reverse.dropWhile (· == '0')).reverse
  if kept.isEmpty then "" else String.ofList ('.' :: kept)

def description (d : Duration) : String :=
  let n := d.nanos
  if 1000000000 ≤ n then toString (n / 1000000000) ++ fractionText (n % 1000000000) 9 ++ "s"
  else if 1000000 ≤ n then toString (n / 1000000) ++ fractionText (n % 1000000) 6 ++ "ms"
  else if 1000 ≤ n then toString (n / 1000) ++ fractionText (n % 1000) 3 ++ "µs"
  else toString n ++ "ns"

theorem le_iff {a b : Duration} : a ≤ b ↔ a.nanos ≤ b.nanos := Iff.rfl

theorem lt_iff {a b : Duration} : a < b ↔ a.nanos < b.nanos := Iff.rfl

@[simp] theorem nanos_max (a b : Duration) : (max a b).nanos = max a.nanos b.nanos := by
  change (if a ≤ b then b else a).nanos = _
  by_cases h : a.nanos ≤ b.nanos
  · rw [if_pos (le_iff.2 h), Nat.max_eq_right h]
  · rw [if_neg (fun h' => h (le_iff.1 h')), Nat.max_eq_left (by omega)]

@[simp] theorem nanos_minus (a b : Duration) : (a.minus b).nanos = a.nanos - b.nanos := rfl

end Duration

structure Instant where
  nanos : Nat
  deriving DecidableEq, Repr, Inhabited

structure InstantOverflow where
  deriving DecidableEq, Repr

def InstantOverflow.message : String := "overflow when adding duration to instant"

namespace Instant

instance : LE Instant := ⟨fun a b => a.nanos ≤ b.nanos⟩
instance : LT Instant := ⟨fun a b => a.nanos < b.nanos⟩
instance (a b : Instant) : Decidable (a ≤ b) := inferInstanceAs (Decidable (a.nanos ≤ b.nanos))
instance (a b : Instant) : Decidable (a < b) := inferInstanceAs (Decidable (a.nanos < b.nanos))
instance : Max Instant := maxOfLe

/-- Nanoseconds at and above this number cannot be shown: their seconds exceed `2 ^ 63 - 1`. -/
def limit : Nat := 9223372036854775808 * 1000000000

def plus (i : Instant) (d : Duration) : Except InstantOverflow Instant :=
  if i.nanos + d.nanos < limit then .ok ⟨i.nanos + d.nanos⟩ else .error {}

def since (i earlier : Instant) : Duration := ⟨i.nanos - earlier.nanos⟩

theorem le_iff {a b : Instant} : a ≤ b ↔ a.nanos ≤ b.nanos := Iff.rfl

theorem lt_iff {a b : Instant} : a < b ↔ a.nanos < b.nanos := Iff.rfl

@[simp] theorem nanos_max (a b : Instant) : (max a b).nanos = max a.nanos b.nanos := by
  change (if a ≤ b then b else a).nanos = _
  by_cases h : a.nanos ≤ b.nanos
  · rw [if_pos (le_iff.2 h), Nat.max_eq_right h]
  · rw [if_neg (fun h' => h (le_iff.1 h')), Nat.max_eq_left (by omega)]

@[simp] theorem nanos_since (a b : Instant) : (a.since b).nanos = a.nanos - b.nanos := rfl

theorem plus_eq_ok_iff {i j : Instant} {d : Duration} :
    i.plus d = .ok j ↔ i.nanos + d.nanos < limit ∧ j = ⟨i.nanos + d.nanos⟩ := by
  unfold plus
  split
  · rename_i h
    simp [h, eq_comm]
  · rename_i h
    simp [h]

theorem plus_eq_error_iff {i : Instant} {d : Duration} :
    i.plus d = .error {} ↔ limit ≤ i.nanos + d.nanos := by
  unfold plus
  split
  · rename_i within
    simp [within]
  · rename_i beyond
    simpa using beyond

end Instant

end Leasehold

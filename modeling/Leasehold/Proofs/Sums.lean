import Leasehold.Validity
import Leasehold.RenewalWindow

/-!
# Sums within the clock

The instants of renewals and expiries are sums that may lie beyond the clock.
They exist for an instant up to a horizon if they do for the horizon itself, and
for a time to live if they do for a longer one.
-/

set_option autoImplicit false

namespace Leasehold

/-! ## Sums -/

section Sums

variable {v : Validity} {horizon issued now : Instant} {d : Duration} {w : RenewalWindow}

theorem Instant.plus_ok (le : issued ≤ horizon) (fits : horizon.nanos + d.nanos < Instant.limit) :
    ∃ sum, issued.plus d = .ok sum := by
  rw [Instant.le_iff] at le
  exact ⟨_, Instant.plus_eq_ok_iff.mpr ⟨by omega, rfl⟩⟩

theorem Validity.expiry_ok (le : issued ≤ horizon)
    (fits : ∀ d, v = .finite d → horizon.nanos + d.nanos < Instant.limit) :
    ∃ last, v.expiry issued = .ok last := by
  cases v with
  | infinite => exact ⟨none, rfl⟩
  | finite d =>
      obtain ⟨sum, found⟩ := Instant.plus_ok le (fits d rfl)
      exact ⟨some sum, by simp only [expiry, found, Except.map]⟩

theorem Validity.fits_of_expiry {last : Option Instant} (found : v.expiry issued = .ok last)
    (ends : v = .finite d) : issued.nanos + d.nanos < Instant.limit := by
  subst ends
  cases sum : issued.plus d with
  | error beyond => simp [expiry, sum, Except.map] at found
  | ok last => exact (Instant.plus_eq_ok_iff.mp sum).1

theorem RenewalWindow.delay_ok (now : Instant) (le : issued ≤ horizon)
    (fits : ∀ d, v = .finite d →
      horizon.nanos + d.nanos < Instant.limit ∧ horizon.nanos + w.interval.nanos < Instant.limit) :
    ∃ delay, w.delay issued v now = .ok delay := by
  cases v with
  | infinite => exact ⟨none, rfl⟩
  | finite d =>
      obtain ⟨ends, next⟩ := fits d rfl
      obtain ⟨before, first⟩ := Instant.plus_ok (d := d.minus w.margin) le (by
        rw [Duration.nanos_minus]
        omega)
      obtain ⟨after, second⟩ := Instant.plus_ok le next
      exact ⟨_, by simp only [delay, due, first, second, bind, Except.bind]; rfl⟩

theorem RenewalWindow.fits_of_delay {delay : Option Duration}
    (found : w.delay issued v now = .ok delay) (ends : v = .finite d) :
    issued.nanos + w.interval.nanos < Instant.limit := by
  subst ends
  cases first : issued.plus (d.minus w.margin) with
  | error beyond => simp [RenewalWindow.delay, due, first, bind, Except.bind, Except.map] at found
  | ok before =>
      cases second : issued.plus w.interval with
      | error beyond =>
          simp [RenewalWindow.delay, due, first, second, bind, Except.bind, Except.map] at found
      | ok after => exact (Instant.plus_eq_ok_iff.mp second).1

/-- A grant of nothing is exhausted before any sum is needed. -/
theorem Validity.exhausted_ok (previous : Option Instant) (le : issued ≤ horizon)
    (fits : ∀ d, v = .finite d → d.isZero = false → horizon.nanos + d.nanos < Instant.limit) :
    ∃ spent, v.exhausted issued previous = .ok spent := by
  cases v with
  | infinite => exact ⟨false, rfl⟩
  | finite d =>
      cases granted : d.isZero with
      | true => exact ⟨true, by simp only [exhausted, granted, if_true]⟩
      | false =>
          cases previous with
          | none => exact ⟨false, by simp [exhausted, granted]⟩
          | some last =>
              obtain ⟨sum, found⟩ := Instant.plus_ok le (fits d rfl granted)
              exact ⟨_, by simp [exhausted, granted, found, Except.map]; rfl⟩

end Sums

/-! ## Times to live -/

def Validity.AtMost (most : Nat) (v : Validity) : Prop :=
  ∀ d, v = .finite d → most ≠ 0 ∧ d.nanos ≤ (Duration.ofSecs most).nanos

theorem Validity.atMost_ofSecs {k most : Nat} (le : k ≤ most) (some : k ≠ 0) :
    AtMost most (.finite (.ofSecs k)) := by
  rintro d ⟨⟩
  exact ⟨by omega, Nat.mul_le_mul_right _ le⟩

theorem Validity.atMost_ofTtlSecs {k most : Nat} (le : k ≤ most) :
    AtMost most (.ofTtlSecs k) := by
  by_cases none : k = 0
  · rw [ofTtlSecs, if_pos none]
    exact nofun
  · rw [ofTtlSecs, if_neg none]
    exact atMost_ofSecs le none

theorem Validity.ofTtlSecs_of_ne_zero {k : Nat} (some : k ≠ 0) :
    ofTtlSecs k = .finite (.ofSecs k) := if_neg some

end Leasehold

import Leasehold.Proofs.Sums
import Leasehold.Timeline

/-!
# When timers ring

A timer rings at the first whole millisecond that is not too early
(`ringAt_bounds`).  A renewal that is due at an instant rings then, or when a
pause is over that has to pass before (`RenewalWindow.delay_due`).
-/

set_option autoImplicit false

namespace Leasehold

theorem roundUp_bounds (n : Nat) :
    n ≤ (n + 999999) / 1000000 * 1000000 ∧ (n + 999999) / 1000000 * 1000000 < n + 1000000 := by
  omega

theorem ringAt_bounds {now due : Instant} {d : Duration} (sum : now.plus d = .ok due) :
    due ≤ ringAt now d ∧ (ringAt now d).nanos < due.nanos + 1000000 := by
  unfold ringAt
  rw [sum]
  exact roundUp_bounds due.nanos

/-- A timer whose end lies beyond the clock rings in thirty years. -/
theorem ringAt_beyond {now : Instant} {d : Duration} {beyond : InstantOverflow}
    (sum : now.plus d = .error beyond) : now.nanos + farFuture.nanos ≤ (ringAt now d).nanos := by
  unfold ringAt
  rw [sum]
  exact (roundUp_bounds _).1

theorem le_ringAt (now : Instant) {d pause : Duration} (pauses : pause ≤ d)
    (short : pause ≤ farFuture) : now.nanos + pause.nanos ≤ (ringAt now d).nanos := by
  unfold ringAt
  cases sum : now.plus d with
  | ok due =>
      obtain ⟨_, rfl⟩ := Instant.plus_eq_ok_iff.mp sum
      exact Nat.le_trans (Nat.add_le_add_left pauses _) (roundUp_bounds _).1
  | error beyond =>
      have bound := ringAt_beyond sum
      unfold ringAt at bound
      rw [sum] at bound
      exact Nat.le_trans (Nat.add_le_add_left short _) bound

namespace RenewalWindow

variable {w : RenewalWindow} {renewedAt now due : Instant} {d : Duration} {v : Validity}

theorem due_of_delay (planned : w.delay renewedAt v now = .ok (some d)) :
    ∃ due, w.due renewedAt v = .ok (some due) ∧ d = due.since now := by
  unfold delay at planned
  cases found : w.due renewedAt v with
  | error beyond =>
      rw [found] at planned
      cases planned
  | ok last =>
      rw [found] at planned
      obtain ⟨due, rfl, same⟩ := Option.map_eq_some_iff.mp (Except.ok.inj planned)
      exact ⟨due, rfl, same.symm⟩

/-- A renewal is due a margin before the end, but not before the interval has passed; both instants
are within the clock. -/
theorem due_finite (found : w.due renewedAt (.finite d) = .ok (some due)) :
    due.nanos = renewedAt.nanos + (max (d.minus w.margin) w.interval).nanos ∧
      due.nanos < Instant.limit := by
  unfold RenewalWindow.due at found
  dsimp only at found
  cases before : renewedAt.plus (d.minus w.margin) with
  | error beyond =>
      rw [before] at found
      cases found
  | ok beforeExpiry =>
      cases after : renewedAt.plus w.interval with
      | error beyond =>
          rw [before, after] at found
          cases found
      | ok earliest =>
          rw [before, after] at found
          cases found
          obtain ⟨first, rfl⟩ := Instant.plus_eq_ok_iff.mp before
          obtain ⟨second, rfl⟩ := Instant.plus_eq_ok_iff.mp after
          simp only [Duration.nanos_max, Instant.nanos_max]
          omega

/-- A timer with the delay of a renewal, or with a pause if that is longer, is due when both are
over. -/
theorem delay_due (now due : Instant) (pause : Duration) :
    now.nanos + (max (due.since now) pause).nanos = (max ⟨now.nanos + pause.nanos⟩ due).nanos := by
  simp only [Duration.nanos_max, Instant.nanos_max, Instant.nanos_since]
  omega

theorem plus_delay {pause : Duration} (fits : now.nanos + pause.nanos < Instant.limit)
    (within : due.nanos < Instant.limit) :
    now.plus (max (due.since now) pause) = .ok (max ⟨now.nanos + pause.nanos⟩ due) := by
  have sum := delay_due now due pause
  apply Instant.plus_eq_ok_iff.mpr
  rw [sum]
  refine ⟨?_, rfl⟩
  rw [Instant.nanos_max]
  exact Nat.max_lt.mpr ⟨fits, within⟩

end RenewalWindow

end Leasehold

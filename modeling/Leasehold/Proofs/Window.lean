import Leasehold.Proofs.Punctuality

/-!
# The renewal window

The instant of the next renewal as a function of the window and of the validity.
It is the later of two instants, a margin before the end and an interval after
the last renewal, and exists if the clock can show both (`due_eq_ok`,
`due_eq_error_iff`).  What the window promises follows from that: the renewal
keeps the interval, comes before the end unless the interval does not, and moves
on with the validity and back with the margin (`due_within_window`).
-/

set_option autoImplicit false

namespace Leasehold.RenewalWindow

variable {w : RenewalWindow} {renewedAt now due : Instant} {d : Duration}

theorem due_eq_ok (before : renewedAt.nanos + (d.nanos - w.margin.nanos) < Instant.limit)
    (after : renewedAt.nanos + w.interval.nanos < Instant.limit) :
    w.due renewedAt (.finite d) =
      .ok (some (max ⟨renewedAt.nanos + (d.nanos - w.margin.nanos)⟩
        ⟨renewedAt.nanos + w.interval.nanos⟩)) := by
  have margin : renewedAt.plus (d.minus w.margin) = .ok _ :=
    Instant.plus_eq_ok_iff.mpr ⟨before, rfl⟩
  have interval : renewedAt.plus w.interval = .ok _ := Instant.plus_eq_ok_iff.mpr ⟨after, rfl⟩
  simp only [RenewalWindow.due, margin, interval]
  rfl

/-- There is none exactly if the clock cannot show one of the bounds, be it the later or not. -/
theorem due_eq_error_iff :
    w.due renewedAt (.finite d) = .error {} ↔
      Instant.limit ≤ renewedAt.nanos + (d.nanos - w.margin.nanos) ∨
        Instant.limit ≤ renewedAt.nanos + w.interval.nanos := by
  constructor
  · intro failed
    apply Decidable.byContradiction
    intro fits
    rw [not_or, Nat.not_le, Nat.not_le] at fits
    rw [due_eq_ok fits.1 fits.2] at failed
    cases failed
  · rintro (beyond | beyond)
    · have margin : renewedAt.plus (d.minus w.margin) = .error {} :=
        Instant.plus_eq_error_iff.mpr beyond
      simp only [RenewalWindow.due, margin]
      rfl
    · have interval : renewedAt.plus w.interval = .error {} :=
        Instant.plus_eq_error_iff.mpr beyond
      simp only [RenewalWindow.due, interval]
      cases renewedAt.plus (d.minus w.margin) <;> rfl

theorem delay_of_due (found : w.due renewedAt (.finite d) = .ok (some due)) (now : Instant) :
    w.delay renewedAt (.finite d) now = .ok (some (due.since now)) := by
  simp only [delay, found]
  rfl

theorem plus_since (shown : now.nanos < Instant.limit) (within : due.nanos < Instant.limit) :
    now.plus (due.since now) = .ok (max now due) := by
  have sum : now.nanos + (due.since now).nanos = (max now due).nanos := by
    rw [Instant.nanos_since, Instant.nanos_max]
    omega
  refine Instant.plus_eq_ok_iff.mpr ⟨?_, ?_⟩
  · rw [sum, Instant.nanos_max]
    omega
  · rw [sum]

/-- A validity that never ends has no renewal.  For one that ends, the clock has to show the instant
a margin before the end, not earlier than the last renewal, and the instant an interval after the
last renewal, and if it can, then the next renewal is due at the later of the two.  So it keeps the
interval; it is not due after the end if the interval is over by then, and else exactly when the
interval is over; a longer validity does not bring it forward, nor does a longer margin put it off;
and the delay from any instant leads to it, or is nothing when it has passed. -/
theorem due_within_window (w : RenewalWindow) (renewedAt : Instant) :
    (∀ now, w.due renewedAt .infinite = .ok none ∧ w.delay renewedAt .infinite now = .ok none) ∧
    ∀ d : Duration,
      (w.due renewedAt (.finite d) = .error {} ↔
        Instant.limit ≤ renewedAt.nanos + (d.nanos - w.margin.nanos) ∨
          Instant.limit ≤ renewedAt.nanos + w.interval.nanos) ∧
      (renewedAt.nanos + (d.nanos - w.margin.nanos) < Instant.limit →
        renewedAt.nanos + w.interval.nanos < Instant.limit →
        ∃ due, w.due renewedAt (.finite d) = .ok (some due) ∧
          due.nanos = renewedAt.nanos + max (d.nanos - w.margin.nanos) w.interval.nanos ∧
          renewedAt.nanos + w.interval.nanos ≤ due.nanos ∧
          (w.interval ≤ d → due.nanos ≤ renewedAt.nanos + d.nanos) ∧
          (d ≤ w.interval → due.nanos = renewedAt.nanos + w.interval.nanos) ∧
          (∀ longer later, d ≤ longer →
            w.due renewedAt (.finite longer) = .ok (some later) → due ≤ later) ∧
          (∀ wider earlier, w.margin ≤ wider →
            RenewalWindow.due ⟨w.interval, wider⟩ renewedAt (.finite d) = .ok (some earlier) →
              earlier ≤ due) ∧
          ∀ now, now.nanos < Instant.limit →
            ∃ delay, w.delay renewedAt (.finite d) now = .ok (some delay) ∧
              now.plus delay = .ok (max now due)) := by
  refine ⟨fun now => ⟨rfl, rfl⟩, fun d => ⟨due_eq_error_iff, fun before after => ?_⟩⟩
  have found := due_eq_ok before after
  refine ⟨_, found, ?_⟩
  generalize (max _ _ : Instant) = due at found ⊢
  obtain ⟨sum, within⟩ := due_finite found
  rw [Duration.nanos_max, Duration.nanos_minus] at sum
  refine ⟨sum, ?_, ?_, ?_, ?_, ?_, ?_⟩
  · omega
  · intro fits
    rw [Duration.le_iff] at fits
    omega
  · intro short
    rw [Duration.le_iff] at short
    omega
  · intro longer later le found'
    obtain ⟨sum', -⟩ := due_finite found'
    rw [Duration.nanos_max, Duration.nanos_minus] at sum'
    rw [Duration.le_iff] at le
    rw [Instant.le_iff]
    omega
  · intro wider earlier le found'
    obtain ⟨sum', -⟩ := due_finite found'
    rw [Duration.nanos_max, Duration.nanos_minus] at sum'
    rw [Duration.le_iff] at le
    rw [Instant.le_iff]
    dsimp only at sum'
    omega
  · intro now shown
    exact ⟨_, delay_of_due found now, plus_since shown within⟩

/-- A minute from ten seconds on, with a margin of half a minute and an interval of ten seconds: due
at forty seconds, also when it is asked for late. -/
theorem due_within_window_minute :
    let w : RenewalWindow := ⟨.ofSecs 10, .ofSecs 30⟩
    let renewedAt : Instant := ⟨10000000000⟩
    ∃ due, w.due renewedAt (.finite (.ofSecs 60)) = .ok (some due) ∧
      due.nanos = 40000000000 ∧
      (⟨50000000000⟩ : Instant).nanos < Instant.limit ∧
      ∃ delay, w.delay renewedAt (.finite (.ofSecs 60)) ⟨50000000000⟩ = .ok (some delay) ∧
        Instant.plus ⟨50000000000⟩ delay = .ok (max ⟨50000000000⟩ due) := by
  intro w renewedAt
  obtain ⟨-, ends⟩ := due_within_window w renewedAt
  obtain ⟨-, fits⟩ := ends (.ofSecs 60)
  obtain ⟨due, found, sum, -, -, -, -, -, waits⟩ := fits (by decide) (by decide)
  refine ⟨due, found, ?_, by decide, waits _ (by decide)⟩
  rw [sum]
  decide

end Leasehold.RenewalWindow

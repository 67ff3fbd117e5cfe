import Leasehold.Scheduler

/-!
# Polls of a task

What a poll makes of a task, and what it comes to: one case for each way in
which it can go (`polls`).
-/

set_option autoImplicit false

namespace Leasehold.ScheduledTask

variable {α : Type} {t : ScheduledTask α} {now ring : Instant}

/-- When the timer of a task rings that has neither ended nor started; a new one sets it now. -/
def ring? (t : ScheduledTask α) (now : Instant) : Option Instant :=
  match t.progress with
  | .new => some (ringAt now t.delay)
  | .waiting ring => some ring
  | .started => none
  | .ended => none

theorem ring?_eq_none_iff : t.ring? now = none ↔ t.progress = .started ∨ t.progress = .ended := by
  unfold ring?
  cases t.progress <;> simp

theorem unfinished_of_rings (rings : t.ring? now = some ring) :
    t.progress ≠ .started ∧ t.progress ≠ .ended := by
  apply not_or.mp
  intro past
  cases rings.symm.trans (ring?_eq_none_iff.mpr past)

inductive Polls (t : ScheduledTask α) (now : Instant) : ScheduledTask α × Polled → Prop
  | works (started : t.progress = .started) : Polls t now (t, .works)
  | ended (past : t.progress = .ended) : Polls t now (t, .ended)
  | calledOff (ring : Instant) (rings : t.ring? now = some ring)
      (called : t.signal.arrival? ≠ none) : Polls t now ({ t with progress := .ended }, .ended)
  | starts (ring : Instant) (rings : t.ring? now = some ring) (silent : t.signal.arrival? = none)
      (rung : ring ≤ now) : Polls t now ({ t with progress := .started }, .starts)
  | waits (ring : Instant) (rings : t.ring? now = some ring) (silent : t.signal.arrival? = none)
      (early : ¬ ring ≤ now) : Polls t now ({ t with progress := .waiting ring }, .waits)

theorem polls_select (rings : t.ring? now = some ring) : Polls t now (t.select now ring) := by
  unfold select
  cases arrives : t.signal.arrival? with
  | some arrival => exact .calledOff ring rings (by rw [arrives]; nofun)
  | none =>
      by_cases rung : ring ≤ now
      · simp only [rung, if_true]
        exact .starts ring rings arrives rung
      · simp only [rung, if_false]
        exact .waits ring rings arrives rung

theorem polls (t : ScheduledTask α) (now : Instant) : Polls t now (t.poll now) := by
  unfold poll
  cases at_ : t.progress with
  | new => exact polls_select (by simp only [ring?, at_])
  | waiting ring => exact polls_select (by simp only [ring?, at_])
  | started => exact .works at_
  | ended => exact .ended at_

theorem poll_starts_iff :
    (t.poll now).2 = .starts ↔
      t.signal.arrival? = none ∧ ∃ ring, t.ring? now = some ring ∧ ring ≤ now := by
  have polls := t.polls now
  generalize t.poll now = outcome at polls
  cases polls with
  | works started => simp [ring?_eq_none_iff.mpr (Or.inl started)]
  | ended past => simp [ring?_eq_none_iff.mpr (Or.inr past)]
  | calledOff ring rings called => simp [called]
  | starts ring rings silent rung => simp [silent, rings, rung]
  | waits ring rings silent early => simp [rings, early]

theorem poll_keeps (t : ScheduledTask α) (now : Instant) :
    (t.poll now).1.delay = t.delay ∧ (t.poll now).1.signal = t.signal := by
  have polls := t.polls now
  generalize t.poll now = outcome at polls
  cases polls <;> exact ⟨rfl, rfl⟩

theorem arrival?_cancel (t : ScheduledTask α) : t.cancel.signal.arrival? ≠ none := by
  simp [cancel, Signal.arrival?]

theorem arrival?_giveUp (t : ScheduledTask α) : t.giveUp.signal.arrival? ≠ none := by
  cases raised : t.signal.raised <;> simp [giveUp, Signal.arrival?, raised]

def Wanted (t : ScheduledTask α) : Prop :=
  t.signal.arrival? = none ∧ t.progress ≠ .started ∧ t.progress ≠ .ended

theorem wanted_poll_iff : (t.poll now).1.Wanted ↔ t.Wanted ∧ (t.poll now).2 ≠ .starts := by
  have polls := t.polls now
  generalize t.poll now = outcome at polls
  cases polls with
  | works started => simp
  | ended past => simp
  | calledOff ring rings called => simp [Wanted, called]
  | starts ring rings silent rung => simp [Wanted]
  | waits ring rings silent early => simp [Wanted, silent, unfinished_of_rings rings]

def ready (t : ScheduledTask α) (now : Instant) : Bool :=
  match t.progress with
  | .new => true
  | .waiting ring => t.signal.arrival?.isSome || decide (ring ≤ now)
  | .started => false
  | .ended => false

end Leasehold.ScheduledTask

import Leasehold.Proofs.Scheduler.Fate
import Leasehold.Schedule

/-!
# Live tasks

A schedule keeps the tasks that are live and no more of a scheduler: a task goes
when it is called off and when it starts.  Whoever asks for it when a timer
rings starts the same work as the scheduler (`polled_starts_iff_live`).
-/

set_option autoImplicit false

namespace Leasehold.Scheduler

variable {α : Type} {n : Nat} {now : Instant}

def Event.onLive (s : Scheduler α) (live : Schedule α) (now : Instant) : Event α → Schedule α
  | .schedule delay work => (live.plan now delay work).1
  | .cancel n => live.remove n
  | .drop n => live.remove n
  | .poll n => if s.polled now n = .starts then live.remove n else live
  | .tick => live

def nextBoth (b : Scheduler α × Schedule α) (now : Instant) (e : Event α) :
    Scheduler α × Schedule α := (b.1.next now e, e.onLive b.1 b.2 now)

def runBoth (h : History (Event α)) : Scheduler α × Schedule α :=
  History.after nextBoth (.empty, .empty) h

/-- The live tasks are those that are waited for and have not been called off. -/
structure Mirrors (s : Scheduler α) (live : Schedule α) : Prop where
  issued : live.issued = s.issued
  holds (n : Nat) : live.holds n = true ↔ ∃ t, s.find? n = some t ∧ t.Wanted

theorem Mirrors.next {s : Scheduler α} {live : Schedule α} (mirrors : Mirrors s live)
    (now : Instant) (e : Event α) : Mirrors (s.next now e) (e.onLive s live now) where
  issued := by
    cases e with
    | schedule delay work => exact congrArg Nat.succ mirrors.issued
    | poll m =>
        dsimp only [Event.onLive]
        split <;> exact mirrors.issued
    | cancel m | drop m | tick => exact mirrors.issued
  holds n := by
    have same := mirrors.holds n
    rw [find?_next]
    cases e with
    | tick =>
        simp only [Event.onLive, Event.task?, Event.onTask, Option.none_or, Option.map_id', same]
    | schedule delay work =>
        simp only [Event.onLive, Schedule.plan, Numbered.holds_add, same, mirrors.issued,
          Event.task?, Event.onTask, Option.map_id']
        by_cases new : n = s.issued
        · simp [new, ScheduledTask.Wanted, Signal.arrival?]
        · simp [new]
    | cancel m | drop m =>
        simp only [Event.onLive, Numbered.holds_remove, same, Event.task?, Event.onTask,
          Option.none_or]
        by_cases here : n = m
        · simp [here, ScheduledTask.Wanted, ScheduledTask.arrival?_cancel,
            ScheduledTask.arrival?_giveUp]
        · simp [here]
    | poll m =>
        simp only [Event.onLive, Event.task?, Event.onTask, Option.none_or]
        by_cases here : n = m
        · subst here
          cases found : s.find? n with
          | none => simp [polled, found, same]
          | some t =>
              have poll := polled_of_find? found now
              by_cases starts : (t.poll now).2 = .starts
              · simp [poll, starts, ScheduledTask.wanted_poll_iff, Numbered.holds_remove_self]
              · simp [poll, starts, ScheduledTask.wanted_poll_iff, same, found]
        · by_cases starts : s.polled now m = .starts
          · simp [starts, here, Numbered.holds_remove, same]
          · simp [starts, here, same]

theorem runBoth_fst (h : History (Event α)) : (runBoth h).1 = run h := by
  have same (b : Scheduler α × Schedule α) :
      (History.after nextBoth b h).1 = History.after next b.1 h := by
    induction h generalizing b with
    | nil => rfl
    | cons event rest ih => exact ih (nextBoth b event.1 event.2)
  exact same (.empty, .empty)

theorem mirrors_runBoth (h : History (Event α)) : Mirrors (runBoth h).1 (runBoth h).2 := by
  refine History.invariant_after (I := fun b : Scheduler α × Schedule α => Mirrors b.1 b.2) ?_ h ?_
  · exact fun b now e mirrors => mirrors.next now e
  · exact ⟨rfl, fun n => iff_of_false nofun (by rintro ⟨t, ⟨⟩, -⟩)⟩

/-- A task starts exactly if it is live and its timer has rung, so whoever keeps the live tasks and
asks for them when a timer rings starts the same work at the same time. -/
theorem polled_starts_iff_live (h : History (Event α)) (n : Nat) (now : Instant) :
    (run h).polled now n = .starts ↔ (runBoth h).2.holds n = true ∧
      ∃ t ring, (run h).find? n = some t ∧ t.ring? now = some ring ∧ ring ≤ now := by
  rw [(mirrors_runBoth h).holds n, runBoth_fst, polled_starts_iff]
  constructor
  · rintro ⟨t, found, starts⟩
    obtain ⟨silent, ring, rings, rung⟩ := ScheduledTask.poll_starts_iff.mp starts
    have waits := mt ScheduledTask.ring?_eq_none_iff.mpr (by rw [rings]; nofun)
    exact ⟨⟨t, found, silent, not_or.mp waits⟩, t, ring, found, rings, rung⟩
  · rintro ⟨⟨t, found, silent, -⟩, t', ring, found', rings, rung⟩
    cases found.symm.trans found'
    exact ⟨t, found, ScheduledTask.poll_starts_iff.mpr ⟨silent, ring, rings, rung⟩⟩

end Leasehold.Scheduler

import Leasehold.Proofs.History
import Leasehold.Proofs.Scheduler.Task

/-!
# The fate of a task

A history of a scheduler is any order in which tasks are scheduled, handles are
cancelled or given up, tasks are polled and the clock moves.  What an event does
to a task depends on the task and the event alone (`find?_next`).  What is known
of a task at a place of a history is its `Fate`, which each event carries on
(`Fate.next`).
-/

set_option autoImplicit false

namespace Leasehold.Scheduler

variable {α : Type}

/-! ## Histories -/

/-- What happens to a scheduler and its tasks.  Nothing happens when the clock moves. -/
inductive Event (α : Type) where
  | schedule (delay : Duration) (work : α)
  | cancel (n : Nat)
  | drop (n : Nat)
  | poll (n : Nat)
  | tick

def next (s : Scheduler α) (now : Instant) : Event α → Scheduler α
  | .schedule delay work => s.schedule delay work
  | .cancel n => s.cancelTask n
  | .drop n => s.dropHandle n
  | .poll n => s.poll now n
  | .tick => s

def run (h : History (Event α)) : Scheduler α := History.after next .empty h

def Event.onTask (n : Nat) (now : Instant) (t : ScheduledTask α) : Event α → ScheduledTask α
  | .schedule _ _ => t
  | .cancel m => if n = m then t.cancel else t
  | .drop m => if n = m then t.giveUp else t
  | .poll m => if n = m then (t.poll now).1 else t
  | .tick => t

def Event.Touches (n : Nat) : Event α → Prop
  | .schedule _ _ => False
  | .cancel m => n = m
  | .drop m => n = m
  | .poll m => n = m
  | .tick => False

theorem Event.onTask_of_not_touches {e : Event α} {n : Nat} (apart : ¬ e.Touches n) (now : Instant)
    (t : ScheduledTask α) : e.onTask n now t = t := by
  cases e with
  | schedule delay work => rfl
  | tick => rfl
  | cancel m | drop m | poll m => exact if_neg apart

def Event.task? (issued n : Nat) : Event α → Option (ScheduledTask α)
  | .schedule delay work => if n = issued then some { delay, work } else none
  | _ => none

theorem find?_next (s : Scheduler α) (n : Nat) (now : Instant) (e : Event α) :
    (s.next now e).find? n =
      (e.task? s.issued n).or ((s.find? n).map (e.onTask n now)) := by
  cases e with
  | schedule delay work =>
      simp only [next, schedule, Event.task?, Event.onTask, Numbered.find?_add]
      split <;> simp
  | tick => simp [next, Event.task?, Event.onTask]
  | cancel m | drop m | poll m =>
      simp only [next, cancelTask, dropHandle, poll, Event.task?, Event.onTask,
        Numbered.find?_change, Option.none_or]
      split <;> simp

theorem find?_next_of_some {s : Scheduler α} {n : Nat} {t : ScheduledTask α} (now : Instant)
    (e : Event α) (found : s.find? n = some t) :
    (s.next now e).find? n = some (e.onTask n now t) := by
  have older : n ≠ s.issued :=
    Nat.ne_of_lt (Numbered.lt_issued (Numbered.find?_eq_some_iff.mp found))
  have none_ : e.task? s.issued n = none := by
    cases e <;> simp [Event.task?, older]
  rw [find?_next, none_, found]
  rfl

theorem polled_of_find? {s : Scheduler α} {n : Nat} {t : ScheduledTask α}
    (found : s.find? n = some t) (now : Instant) : s.polled now n = (t.poll now).2 := by
  unfold polled
  rw [found]

theorem polled_starts_iff {s : Scheduler α} {now : Instant} {n : Nat} :
    s.polled now n = .starts ↔ ∃ t, s.find? n = some t ∧ (t.poll now).2 = .starts := by
  unfold polled
  cases s.find? n with
  | none => simp
  | some t => simp

/-! ## Places -/

section Places

variable (h : History (Event α)) (n k : Nat)

def ScheduledAt (delay : Duration) (since : Instant) : Prop :=
  (run (h.take k)).issued = n ∧ ∃ work, h[k]? = some (since, .schedule delay work)

def StartsAt (i : Nat) (now : Instant) : Prop :=
  h[i]? = some (now, .poll n) ∧ (run (h.take i)).polled now n = .starts

def FirstPoll (j : Nat) (now : Instant) : Prop :=
  k < j ∧ h[j]? = some (now, .poll n) ∧ ∀ p later, k < p → p < j → h[p]? ≠ some (later, .poll n)

def CallsOff (j : Nat) : Prop :=
  ∃ now, h[j]? = some (now, .cancel n) ∨ h[j]? = some (now, .drop n)

def CalledOff (i : Nat) : Prop := ∃ j, k < j ∧ j < i ∧ CallsOff h n j

def StartedBefore (i : Nat) : Prop := ∃ p now, p < i ∧ StartsAt h n p now

/-- How a task has come as far as it has before a place. -/
def Came (delay : Duration) (i : Nat) : Progress → Prop
  | .new => ∀ p now, k < p → p < i → h[p]? ≠ some (now, .poll n)
  | .waiting ring => ∃ j first, j < i ∧ FirstPoll h n k j first ∧ ring = ringAt first delay
  | .started => StartedBefore h n i
  | .ended => ∃ p now, p < i ∧ k < p ∧ h[p]? = some (now, .poll n) ∧ CalledOff h n k p

structure Fate (delay : Duration) (i : Nat) (t : ScheduledTask α) : Prop where
  sets : t.delay = delay
  silent : t.signal.arrival? = none ↔ ¬ CalledOff h n k i
  came : Came h n k delay i t.progress
  started : StartedBefore h n i → t.progress = .started

end Places

variable {h : History (Event α)} {n k i : Nat} {now : Instant} {e : Event α}
  {delay : Duration} {since : Instant} {t : ScheduledTask α}

theorem calledOff_succ (behind : k < i) :
    CalledOff h n k (i + 1) ↔ CalledOff h n k i ∨ CallsOff h n i := by
  constructor
  · rintro ⟨j, after, before, calls⟩
    rcases Nat.lt_or_eq_of_le (Nat.le_of_lt_succ before) with earlier | rfl
    · exact Or.inl ⟨j, after, earlier, calls⟩
    · exact Or.inr calls
  · rintro (⟨j, after, before, calls⟩ | calls)
    · exact ⟨j, after, Nat.lt_succ_of_lt before, calls⟩
    · exact ⟨i, behind, Nat.lt_succ_self i, calls⟩

theorem CalledOff.mono {i' : Nat} (called : CalledOff h n k i) (le : i ≤ i') :
    CalledOff h n k i' := by
  obtain ⟨j, after, before, calls⟩ := called
  exact ⟨j, after, Nat.lt_of_lt_of_le before le, calls⟩

theorem callsOff_iff (here : h[i]? = some (now, e)) :
    CallsOff h n i ↔ e = .cancel n ∨ e = .drop n := by
  constructor
  · rintro ⟨later, cancels | drops⟩
    · cases here.symm.trans cancels
      exact Or.inl rfl
    · cases here.symm.trans drops
      exact Or.inr rfl
  · rintro (rfl | rfl)
    · exact ⟨now, Or.inl here⟩
    · exact ⟨now, Or.inr here⟩

theorem startedBefore_succ :
    StartedBefore h n (i + 1) ↔ StartedBefore h n i ∨ ∃ now, StartsAt h n i now := by
  constructor
  · rintro ⟨p, now, before, starts⟩
    rcases Nat.lt_or_eq_of_le (Nat.le_of_lt_succ before) with earlier | rfl
    · exact Or.inl ⟨p, now, earlier, starts⟩
    · exact Or.inr ⟨now, starts⟩
  · rintro (⟨p, now, before, starts⟩ | ⟨now, starts⟩)
    · exact ⟨p, now, Nat.lt_succ_of_lt before, starts⟩
    · exact ⟨i, now, Nat.lt_succ_self i, starts⟩

theorem eq_poll_of_startsAt {later : Instant} (here : h[i]? = some (now, e))
    (starts : StartsAt h n i later) : e = .poll n := by
  cases here.symm.trans starts.1
  rfl

theorem startsAt_iff (found : (run (h.take i)).find? n = some t)
    (here : h[i]? = some (now, .poll n)) (later : Instant) :
    StartsAt h n i later ↔ later = now ∧ (t.poll now).2 = .starts := by
  have polled := polled_of_find? found now
  constructor
  · rintro ⟨place, starts⟩
    cases here.symm.trans place
    exact ⟨rfl, polled.symm.trans starts⟩
  · rintro ⟨rfl, starts⟩
    exact ⟨here, polled.trans starts⟩

/-! ## What each event makes of it -/

/-- What a task has come to stays so; only a new task has to be polled no more. -/
theorem Came.succ {progress : Progress} (came : Came h n k delay i progress)
    (here : h[i]? = some (now, e)) (still : progress = .new → e ≠ .poll n) :
    Came h n k delay (i + 1) progress := by
  cases progress with
  | new =>
      intro p later after before
      rcases Nat.lt_or_eq_of_le (Nat.le_of_lt_succ before) with earlier | rfl
      · exact came p later after earlier
      · intro polled
        cases here.symm.trans polled
        exact still rfl rfl
  | waiting ring =>
      obtain ⟨j, first, before, polls⟩ := came
      exact ⟨j, first, Nat.lt_succ_of_lt before, polls⟩
  | started => exact startedBefore_succ.mpr (Or.inl came)
  | ended =>
      obtain ⟨p, now, before, polled⟩ := came
      exact ⟨p, now, Nat.lt_succ_of_lt before, polled⟩

theorem Fate.unpolled {t' : ScheduledTask α} (fate : Fate h n k delay i t)
    (here : h[i]? = some (now, e)) (other : e ≠ .poll n)
    (same : t'.delay = t.delay ∧ t'.progress = t.progress)
    (silent : t'.signal.arrival? = none ↔ ¬ CalledOff h n k (i + 1)) :
    Fate h n k delay (i + 1) t' where
  sets := same.1.trans fate.sets
  silent := silent
  came := by
    rw [same.2]
    exact fate.came.succ here fun _ => other
  started := by
    rw [same.2, startedBefore_succ]
    rintro (started | ⟨later, starts⟩)
    · exact fate.started started
    · exact absurd (eq_poll_of_startsAt here starts) other

theorem Fate.untouched (fate : Fate h n k delay i t) (behind : k < i)
    (here : h[i]? = some (now, e)) (apart : ¬ e.Touches n) : Fate h n k delay (i + 1) t := by
  refine fate.unpolled here ?_ ⟨rfl, rfl⟩ ?_
  · rintro rfl
    exact apart rfl
  · have quiet : ¬ CallsOff h n i := by
      rw [callsOff_iff here]
      rintro (rfl | rfl) <;> exact apart rfl
    rw [calledOff_succ behind, or_iff_left quiet]
    exact fate.silent

theorem Fate.calledOff {t' : ScheduledTask α} (fate : Fate h n k delay i t) (behind : k < i)
    (here : h[i]? = some (now, e)) (calls : e = .cancel n ∨ e = .drop n)
    (same : t'.delay = t.delay ∧ t'.progress = t.progress) (hears : t'.signal.arrival? ≠ none) :
    Fate h n k delay (i + 1) t' := by
  refine fate.unpolled here ?_ same ?_
  · rcases calls with rfl | rfl <;> exact nofun
  · have called := (calledOff_succ behind).mpr (Or.inr ((callsOff_iff here).mpr calls))
    exact iff_of_false hears (not_not_intro called)

/-- The timer of a task that is polled was set at its first poll, which may be this one. -/
theorem Fate.rings (fate : Fate h n k delay i t) (behind : k < i)
    (here : h[i]? = some (now, .poll n)) {ring : Instant} (rings : t.ring? now = some ring) :
    ∃ j first, j ≤ i ∧ FirstPoll h n k j first ∧ ring = ringAt first delay := by
  have came := fate.came
  unfold ScheduledTask.ring? at rings
  cases at_ : t.progress with
  | new =>
      rw [at_] at rings came
      cases rings
      exact ⟨i, now, Nat.le_refl i, ⟨behind, here, came⟩, by rw [fate.sets]⟩
  | waiting set =>
      rw [at_] at rings came
      cases rings
      obtain ⟨j, first, before, polls, same⟩ := came
      exact ⟨j, first, Nat.le_of_lt before, polls, same⟩
  | started | ended =>
      rw [at_] at rings
      cases rings

theorem Fate.polled (fate : Fate h n k delay i t) (behind : k < i)
    (found : (run (h.take i)).find? n = some t) (here : h[i]? = some (now, .poll n)) :
    Fate h n k delay (i + 1) (t.poll now).1 := by
  obtain ⟨sets, signal⟩ := t.poll_keeps now
  have starts := startsAt_iff found here
  have quiet : ¬ CallsOff h n i := by
    rw [callsOff_iff here]
    rintro (calls | calls) <;> cases calls
  refine ⟨sets.trans fate.sets, ?_, ?_, ?_⟩
  · rw [signal, calledOff_succ behind, or_iff_left quiet]
    exact fate.silent
  · have polls := t.polls now
    generalize t.poll now = outcome at polls starts
    cases polls with
    | works started => exact fate.came.succ here fun new => by cases new.symm.trans started
    | ended past => exact fate.came.succ here fun new => by cases new.symm.trans past
    | calledOff ring rings called =>
        have called := Classical.not_not.mp fun not => called (fate.silent.mpr not)
        exact ⟨i, now, Nat.lt_succ_self i, behind, here, called⟩
    | starts ring rings silent rung =>
        exact ⟨i, now, Nat.lt_succ_self i, (starts now).mpr ⟨rfl, rfl⟩⟩
    | waits ring rings silent early =>
        obtain ⟨j, first, le, polls, same⟩ := fate.rings behind here rings
        exact ⟨j, first, Nat.lt_succ_of_le le, polls, same⟩
  · rw [startedBefore_succ]
    have polls := t.polls now
    generalize t.poll now = outcome at polls starts
    rintro (started | ⟨later, started⟩)
    · have started := fate.started started
      cases polls with
      | works _ => exact started
      | ended past => exact started
      | starts ring rings _ _ => rfl
      | calledOff ring rings _ | waits ring rings _ _ =>
          exact absurd started (ScheduledTask.unfinished_of_rings rings).1
    · obtain ⟨-, started⟩ := (starts later).mp started
      cases polls with
      | starts ring rings _ _ => rfl
      | works _ | ended _ | calledOff _ _ _ | waits _ _ _ _ => cases started

theorem Fate.next (fate : Fate h n k delay i t) (behind : k < i)
    (found : (run (h.take i)).find? n = some t) (here : h[i]? = some (now, e)) :
    Fate h n k delay (i + 1) (e.onTask n now t) := by
  by_cases touches : e.Touches n
  · cases e with
    | schedule delay work => cases touches
    | tick => cases touches
    | cancel m =>
        cases touches
        simp only [Event.onTask, if_true]
        exact fate.calledOff behind here (Or.inl rfl) ⟨rfl, rfl⟩ t.arrival?_cancel
    | drop m =>
        cases touches
        simp only [Event.onTask, if_true]
        exact fate.calledOff behind here (Or.inr rfl) ⟨rfl, rfl⟩ t.arrival?_giveUp
    | poll m =>
        cases touches
        simp only [Event.onTask, if_true]
        exact fate.polled behind found here
  · rw [Event.onTask_of_not_touches touches]
    exact fate.untouched behind here touches

theorem issued_le_next (s : Scheduler α) (now : Instant) (e : Event α) :
    s.issued ≤ (s.next now e).issued := by
  cases e with
  | schedule delay work => exact Nat.le_succ s.issued
  | cancel m | drop m | poll m | tick => exact Nat.le_refl s.issued

theorem lt_of_startsAt {p : Nat} {later : Instant} (scheduled : ScheduledAt h n k delay since)
    (starts : StartsAt h n p later) : k < p := by
  obtain ⟨issued, work, here⟩ := scheduled
  obtain ⟨place, starts⟩ := starts
  apply Nat.lt_of_not_le
  intro le
  rcases Nat.lt_or_eq_of_le le with before | rfl
  · have grown : (run (h.take p)).issued ≤ (run (h.take k)).issued := by
      unfold run
      refine History.invariant_later
        (I := fun s : Scheduler α => (run (h.take p)).issued ≤ s.issued) ?_ le ?_
      · exact fun s now e low => Nat.le_trans low (issued_le_next s now e)
      · exact Nat.le_refl _
    obtain ⟨t, found, -⟩ := polled_starts_iff.mp starts
    have lower := Numbered.lt_issued (Numbered.find?_eq_some_iff.mp found)
    omega
  · cases here.symm.trans place

theorem run_take_succ (here : h[i]? = some (now, e)) :
    run (h.take (i + 1)) = (run (h.take i)).next now e :=
  History.after_take_succ here

theorem fate (scheduled : ScheduledAt h n k delay since) (behind : k < i) (within : i ≤ h.length) :
    ∃ t, (run (h.take i)).find? n = some t ∧ Fate h n k delay i t := by
  refine History.holds_between (P := fun i => ∃ t, (run (h.take i)).find? n = some t ∧
    Fate h n k delay i t) behind within ?_ ?_
  · obtain ⟨issued, work, here⟩ := scheduled
    refine ⟨{ delay, work }, ?_, rfl, ?_, ?_, ?_⟩
    · rw [run_take_succ here, find?_next]
      simp only [Event.task?, issued, if_true, Option.some_or]
    · refine iff_of_true rfl ?_
      rintro ⟨j, after, before, -⟩
      omega
    · intro p later after before
      omega
    · rintro ⟨p, later, before, starts⟩
      have after := lt_of_startsAt ⟨issued, work, here⟩ starts
      omega
  · rintro p later e after before here ⟨t, found, fate⟩
    refine ⟨e.onTask n later t, ?_, fate.next after found here⟩
    rw [run_take_succ here]
    exact find?_next_of_some later e found

end Leasehold.Scheduler

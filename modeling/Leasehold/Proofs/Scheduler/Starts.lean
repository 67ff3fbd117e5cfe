import Leasehold.Proofs.Punctuality
import Leasehold.Proofs.Scheduler.Fate

/-!
# When tasks start

A scheduled task starts at most once, when it is polled with its timer rung and
its handle silent; from then on nothing stops it
(`starts_once_unless_called_off`).
-/

set_option autoImplicit false

namespace Leasehold

theorem self_le_ringAt (now : Instant) (d : Duration) : now ≤ ringAt now d :=
  le_ringAt now (Nat.zero_le _ : Duration.zero ≤ d) (Nat.zero_le _)

namespace Scheduler

variable {α : Type} {h : History (Event α)} {n k i : Nat} {now : Instant} {e : Event α}
  {delay : Duration} {since : Instant} {t : ScheduledTask α}

/-! ## Starts -/

theorem FirstPoll.unique {j j' : Nat} {first first' : Instant} (one : FirstPoll h n k j first)
    (other : FirstPoll h n k j' first') : j = j' ∧ first = first' := by
  obtain ⟨after, here, none_⟩ := one
  obtain ⟨after', here', none_'⟩ := other
  have same : j = j' := by
    rcases Nat.lt_trichotomy j j' with before | same | before
    · exact absurd here (none_' j first after before)
    · exact same
    · exact absurd here' (none_ j' first' after' before)
  subst same
  cases here.symm.trans here'
  exact ⟨rfl, rfl⟩

/-- A task that starts has not been called off, and the timer that its first poll set has rung. -/
theorem startsAt_inversion (scheduled : ScheduledAt h n k delay since)
    (starts : StartsAt h n i now) :
    ∃ t ring, (run (h.take i)).find? n = some t ∧ Fate h n k delay i t ∧
      t.signal.arrival? = none ∧ t.ring? now = some ring ∧ ring ≤ now := by
  have here := starts.1
  have behind := lt_of_startsAt scheduled starts
  obtain ⟨t, found, fate⟩ := fate scheduled behind (Nat.le_of_lt (History.lt_length_of_place here))
  obtain ⟨-, started⟩ := (startsAt_iff found here now).mp starts
  obtain ⟨silent, ring, rings, rung⟩ := ScheduledTask.poll_starts_iff.mp started
  exact ⟨t, ring, found, fate, silent, rings, rung⟩

theorem started_of_startsAt {j : Nat} (scheduled : ScheduledAt h n k delay since)
    (starts : StartsAt h n i now) (before : i < j) (within : j ≤ h.length) :
    ∃ t, (run (h.take j)).find? n = some t ∧ t.progress = .started := by
  have behind := lt_of_startsAt scheduled starts
  obtain ⟨t, found, fate⟩ := fate scheduled (Nat.lt_trans behind before) within
  exact ⟨t, found, fate.started ⟨i, now, before, starts⟩⟩

theorem startsAt_once {j : Nat} {later : Instant} (scheduled : ScheduledAt h n k delay since)
    (first : StartsAt h n i now) (second : StartsAt h n j later) : i = j := by
  have apart {i j : Nat} {now later : Instant} (first : StartsAt h n i now)
      (second : StartsAt h n j later) : ¬ i < j := by
    intro before
    obtain ⟨t, ring, found, -, -, rings, -⟩ := startsAt_inversion scheduled second
    obtain ⟨t', found', started⟩ := started_of_startsAt scheduled first before
      (Nat.le_of_lt (History.lt_length_of_place second.1))
    cases found.symm.trans found'
    cases rings.symm.trans (ScheduledTask.ring?_eq_none_iff.mpr (Or.inl started))
  have before := apart first second
  have behind := apart second first
  omega

theorem polled_of_startsAt {j : Nat} {later : Instant} (scheduled : ScheduledAt h n k delay since)
    (starts : StartsAt h n i now) (before : i < j) (here : h[j]? = some (later, .poll n)) :
    (run (h.take j)).polled later n = .works := by
  obtain ⟨t, found, started⟩ := started_of_startsAt scheduled starts before
    (Nat.le_of_lt (History.lt_length_of_place here))
  simp only [polled_of_find? found, ScheduledTask.poll, started]

theorem not_calledOff_of_startsAt (scheduled : ScheduledAt h n k delay since)
    (starts : StartsAt h n i now) : ¬ CalledOff h n k i := by
  obtain ⟨t, -, -, fate, silent, -, -⟩ := startsAt_inversion scheduled starts
  exact fate.silent.mp silent

theorem rung_of_startsAt (scheduled : ScheduledAt h n k delay since) (starts : StartsAt h n i now) :
    ∃ j first, j ≤ i ∧ FirstPoll h n k j first ∧ ringAt first delay ≤ now := by
  obtain ⟨t, ring, -, fate, -, rings, rung⟩ := startsAt_inversion scheduled starts
  obtain ⟨j, first, le, polls, rfl⟩ := fate.rings (lt_of_startsAt scheduled starts) starts.1 rings
  exact ⟨j, first, le, polls, rung⟩

theorem starts_of_rung {j : Nat} {first : Instant} (scheduled : ScheduledAt h n k delay since)
    (here : h[i]? = some (now, .poll n)) (polls : FirstPoll h n k j first) (le : j ≤ i)
    (rung : ringAt first delay ≤ now) (wanted : ¬ CalledOff h n k i) :
    ∃ p started, p ≤ i ∧ StartsAt h n p started := by
  have behind : k < i := Nat.lt_of_lt_of_le polls.1 le
  obtain ⟨t, found, fate⟩ := fate scheduled behind (Nat.le_of_lt (History.lt_length_of_place here))
  cases rings : t.ring? now with
  | some ring =>
      obtain ⟨j', first', -, polls', rfl⟩ := fate.rings behind here rings
      obtain ⟨-, rfl⟩ := polls.unique polls'
      refine ⟨i, now, Nat.le_refl i, (startsAt_iff found here now).mpr ⟨rfl, ?_⟩⟩
      exact ScheduledTask.poll_starts_iff.mpr ⟨fate.silent.mpr wanted, _, rings, rung⟩
  | none =>
      have came := fate.came
      rcases ScheduledTask.ring?_eq_none_iff.mp rings with past | past <;> rw [past] at came
      · obtain ⟨p, started, before, starts⟩ := came
        exact ⟨p, started, Nat.le_of_lt before, starts⟩
      · obtain ⟨p, later, before, -, -, called⟩ := came
        exact absurd (called.mono (Nat.le_of_lt before)) wanted

/-! ## Prompt polls -/

def Idle (s : Scheduler α) (now : Instant) : Prop := ∀ b ∈ s.items, b.2.ready now = false

/-- Time passes only when no poll would get any task further. -/
def Prompt (h : History (Event α)) : Prop :=
  ∀ q < h.length, ∀ last ∈ h[q]?, ∀ later ∈ h[q + 1]?,
    last.1 < later.1 → Idle (run (h.take (q + 1))) last.1

instance (s : Scheduler α) (now : Instant) : Decidable (Idle s now) :=
  inferInstanceAs (Decidable (∀ b ∈ s.items, _))

instance (h : History (Event α)) : Decidable (Prompt h) :=
  inferInstanceAs (Decidable (∀ q < h.length, ∀ last ∈ h[q]?, ∀ later ∈ h[q + 1]?,
    last.1 < later.1 → Idle (run (h.take (q + 1))) last.1))

theorem Idle.not_ready {s : Scheduler α} (idle : Idle s now) (found : s.find? n = some t) :
    t.ready now = false :=
  idle (n, t) (Numbered.find?_eq_some_iff.mp found)

theorem Prompt.passes (prompt : Prompt h) (ordered : h.InOrder) {p : Nat} {v w : Instant}
    {e e' : Event α} (early : h[p]? = some (v, e)) (late : h[i]? = some (w, e')) (apart : v < w) :
    ∃ q u, p ≤ q ∧ q < i ∧ v ≤ u ∧ Idle (run (h.take (q + 1))) u := by
  induction i generalizing w e' with
  | zero =>
      have le := ordered.le (Nat.zero_le p) late early
      exact absurd apart (Nat.not_lt_of_le le)
  | succ q ih =>
      have within := Nat.lt_of_succ_lt (History.lt_length_of_place late)
      have here : h[q]? = some (h[q].1, h[q].2) := List.getElem?_eq_getElem within
      generalize h[q].1 = u at here
      have le : u ≤ w := ordered.le (Nat.le_succ q) here late
      rcases Nat.lt_or_eq_of_le le with moves | same
      · have before : p ≤ q := by
          apply Nat.le_of_not_lt
          intro behind
          exact Nat.not_lt_of_le (ordered.le behind late early) apart
        exact ⟨q, u, before, Nat.lt_succ_self q, ordered.le before early here,
          prompt q within _ here _ late moves⟩
      · have same : u.nanos = w.nanos := same
        obtain ⟨q', u', after, before, le, idle⟩ :=
          ih here (Nat.lt_of_lt_of_eq apart same.symm)
        exact ⟨q', u', after, Nat.lt_succ_of_lt before, le, idle⟩

theorem Fate.new_of_unpolled (fate : Fate h n k delay i t)
    (scheduled : ScheduledAt h n k delay since)
    (unpolled : ∀ p now, k < p → p < i → h[p]? ≠ some (now, .poll n)) : t.progress = .new := by
  have came := fate.came
  cases at_ : t.progress with
  | new => rfl
  | waiting ring =>
      rw [at_] at came
      obtain ⟨j, first, before, ⟨after, here, -⟩, -⟩ := came
      exact absurd here (unpolled j first after before)
  | started =>
      rw [at_] at came
      obtain ⟨p, now, before, starts⟩ := came
      exact absurd starts.1 (unpolled p now (lt_of_startsAt scheduled starts) before)
  | ended =>
      rw [at_] at came
      obtain ⟨p, now, before, after, here, -⟩ := came
      exact absurd here (unpolled p now after before)

theorem Prompt.first (prompt : Prompt h) (ordered : h.InOrder) {j : Nat} {first : Instant}
    (scheduled : ScheduledAt h n k delay since) (polls : FirstPoll h n k j first) :
    first = since := by
  obtain ⟨after, here, unpolled⟩ := polls
  obtain ⟨-, work, place⟩ := id scheduled
  have le : since ≤ first := ordered.le (Nat.le_of_lt after) place here
  have within := Nat.le_of_lt (History.lt_length_of_place here)
  rcases Nat.lt_or_eq_of_le le with apart | same
  · obtain ⟨q, u, behind, before, -, idle⟩ := prompt.passes ordered place here apart
    obtain ⟨t, found, fate⟩ :=
      fate scheduled (Nat.lt_succ_of_le behind) (Nat.le_trans before within)
    have new := fate.new_of_unpolled scheduled fun p now later earlier =>
      unpolled p now later (Nat.lt_of_lt_of_le earlier before)
    have unready := idle.not_ready found
    simp [ScheduledTask.ready, new] at unready
  · exact congrArg Instant.mk same.symm

/-- A task that is wanted and whose timer has rung is started, or there is a poll to make. -/
theorem started_of_idle (prompt : Prompt h) (ordered : h.InOrder)
    (scheduled : ScheduledAt h n k delay since) (behind : k < i) (within : i ≤ h.length)
    (idle : Idle (run (h.take i)) now) (rung : ringAt since delay ≤ now)
    (wanted : ¬ CalledOff h n k i) : ∃ p started, p < i ∧ StartsAt h n p started := by
  obtain ⟨t, found, fate⟩ := fate scheduled behind within
  have unready := idle.not_ready found
  have came := fate.came
  cases at_ : t.progress with
  | new => simp [ScheduledTask.ready, at_] at unready
  | waiting ring =>
      rw [at_] at came
      obtain ⟨j, first, before, polls, rfl⟩ := came
      obtain rfl := prompt.first ordered scheduled polls
      simp [ScheduledTask.ready, at_, rung] at unready
  | started =>
      rw [at_] at came
      exact came
  | ended =>
      rw [at_] at came
      obtain ⟨p, later, before, -, -, called⟩ := came
      exact absurd (called.mono (Nat.le_of_lt before)) wanted

/-- A task starts at the first time at which anything happens once its timer has rung. -/
theorem Prompt.on_time (prompt : Prompt h) (ordered : h.InOrder)
    (scheduled : ScheduledAt h n k delay since) (starts : StartsAt h n i now) {p : Nat}
    {later : Instant} (there : h[p]? = some (later, e)) (rung : ringAt since delay ≤ later) :
    now ≤ later := by
  obtain ⟨-, work, place⟩ := id scheduled
  have here := starts.1
  have behind := lt_of_startsAt scheduled starts
  have within := Nat.le_of_lt (History.lt_length_of_place here)
  have wanted := not_calledOff_of_startsAt scheduled starts
  apply Nat.le_of_not_lt
  intro late
  -- The later of the two places is one behind the scheduling at which the timer has rung.
  obtain ⟨m, v, e', after, moment, rung, apart⟩ : ∃ m v e', k ≤ m ∧ h[m]? = some (v, e') ∧
      ringAt since delay ≤ v ∧ v < now := by
    rcases Nat.le_total k p with after | before
    · exact ⟨p, later, e, after, there, rung, late⟩
    · have le : later ≤ since := ordered.le before there place
      have early : since ≤ later := Nat.le_trans (self_le_ringAt since delay) rung
      exact ⟨k, since, _, Nat.le_refl k, place, Nat.le_trans rung le, Nat.lt_of_le_of_lt early late⟩
  obtain ⟨q, u, from_, before, le, idle⟩ := prompt.passes ordered moment here apart
  obtain ⟨p', started, earlier, starts'⟩ := started_of_idle prompt ordered scheduled
    (Nat.lt_succ_of_le (Nat.le_trans after from_)) (Nat.le_trans before within) idle
    (Nat.le_trans rung le) fun called => wanted (called.mono before)
  have same := startsAt_once scheduled starts starts'
  omega

/-! ## Delays -/

/-- A task that starts has waited for its delay, or for thirty years if its delay would end beyond
the range of the clock. -/
theorem waited_of_startsAt (ordered : h.InOrder) (scheduled : ScheduledAt h n k delay since)
    (starts : StartsAt h n i now) :
    ∃ j first, j ≤ i ∧ FirstPoll h n k j first ∧
      (∀ due, first.plus delay = .ok due → since.nanos + delay.nanos ≤ now.nanos) ∧
      ∀ beyond, first.plus delay = .error beyond →
        since.nanos + farFuture.nanos ≤ now.nanos := by
  obtain ⟨j, first, le, polls, rung⟩ := rung_of_startsAt scheduled starts
  obtain ⟨-, work, place⟩ := scheduled
  have after : since ≤ first := ordered.le (Nat.le_of_lt polls.1) place polls.2.1
  rw [Instant.le_iff] at rung after
  refine ⟨j, first, le, polls, ?_, ?_⟩
  · intro due sum
    have bound := (ringAt_bounds sum).1
    obtain ⟨-, rfl⟩ := Instant.plus_eq_ok_iff.mp sum
    rw [Instant.le_iff] at bound
    dsimp only at bound
    omega
  · intro beyond sum
    have bound := ringAt_beyond sum
    omega

/-! ## Other tasks -/

def Event.callsOff (m : Nat) : Event α → Bool
  | .cancel n => n == m
  | .drop n => n == m
  | .schedule _ _ => false
  | .poll _ => false
  | .tick => false

def sparing (m : Nat) (h : History (Event α)) : History (Event α) :=
  h.map fun (now, e) => (now, if e.callsOff m then .tick else e)

/-- Two schedulers that do not differ in one task. -/
def Agree (n : Nat) (s s' : Scheduler α) : Prop := s.issued = s'.issued ∧ s.find? n = s'.find? n

theorem Agree.next {s s' : Scheduler α} (agree : Agree n s s') (now : Instant) (e : Event α) :
    Agree n (s.next now e) (s'.next now e) := by
  obtain ⟨issued, same⟩ := agree
  refine ⟨?_, by rw [find?_next, find?_next, issued, same]⟩
  cases e with
  | schedule delay work => exact congrArg Nat.succ issued
  | cancel p | drop p | poll p | tick => exact issued

theorem agree_callsOff {m : Nat} (other : n ≠ m) (s : Scheduler α) (now : Instant)
    (calls : e.callsOff m = true) : Agree n (s.next now e) s := by
  have apart : ¬ e.Touches n := by
    rintro touches
    cases e with
    | cancel p | drop p =>
        obtain rfl : n = p := touches
        exact other (beq_iff_eq.mp calls)
    | schedule delay work | poll p | tick => cases calls
  refine ⟨?_, ?_⟩
  · cases e with
    | schedule delay work => cases calls
    | cancel p | drop p | poll p | tick => rfl
  · have none_ : e.task? s.issued n = none := by
      cases e with
      | schedule delay work => cases calls
      | cancel p | drop p | poll p | tick => rfl
    have still : e.onTask n now = id := funext fun t => Event.onTask_of_not_touches apart now t
    rw [find?_next, none_, still, Option.none_or, Option.map_id]
    rfl

theorem Agree.trans {s s' s'' : Scheduler α} (first : Agree n s s') (second : Agree n s' s'') :
    Agree n s s'' := ⟨first.1.trans second.1, first.2.trans second.2⟩

theorem Agree.next_sparing {m : Nat} {s s' : Scheduler α} (agree : Agree n s s') (other : n ≠ m)
    (now : Instant) (e : Event α) :
    Agree n (s.next now e) (s'.next now (if e.callsOff m then .tick else e)) := by
  cases calls : e.callsOff m with
  | true => exact (agree_callsOff other s now calls).trans agree
  | false => exact agree.next now e

theorem find?_run_sparing {m : Nat} (h : History (Event α)) (other : n ≠ m) :
    (run (sparing m h)).find? n = (run h).find? n := by
  have agree (s s' : Scheduler α) (agree : Agree n s s') :
      Agree n (History.after next s h) (History.after next s' (sparing m h)) := by
    induction h generalizing s s' with
    | nil => exact agree
    | cons event rest ih => exact ih _ _ (agree.next_sparing other event.1 event.2)
  exact (agree .empty .empty ⟨rfl, rfl⟩).2.symm

/-! ## All tasks -/

/-- A scheduled task starts at most once: not when its handle has been cancelled or given up before,
also at the time at which it is due, and not before it has waited for its delay, where a delay that
would end beyond the range of the clock counts as thirty years.  A task that is wanted starts when
it is polled with its timer rung; if whatever can be polled is polled before time passes, that is at
the first time from then on.  Once it has started no handle stops it, and the handles of other
tasks never make a difference. -/
theorem starts_once_unless_called_off (ordered : h.InOrder)
    (scheduled : ScheduledAt h n k delay since) :
    (∀ i j now later, StartsAt h n i now → StartsAt h n j later → i = j) ∧
    (∀ i now, StartsAt h n i now →
      k < i ∧ ¬ CalledOff h n k i ∧
      (∃ j first, j ≤ i ∧ FirstPoll h n k j first ∧
        (∀ due, first.plus delay = .ok due → since.nanos + delay.nanos ≤ now.nanos) ∧
        ∀ beyond, first.plus delay = .error beyond →
          since.nanos + farFuture.nanos ≤ now.nanos) ∧
      ∀ j later, i < j → h[j]? = some (later, .poll n) →
        (run (h.take j)).polled later n = .works) ∧
    (∀ i now j first, h[i]? = some (now, .poll n) → j ≤ i → FirstPoll h n k j first →
      ringAt first delay ≤ now → ¬ CalledOff h n k i →
      ∃ p started, p ≤ i ∧ StartsAt h n p started) ∧
    (Prompt h → ∀ i now, k < i → i ≤ h.length → Idle (run (h.take i)) now →
      ringAt since delay ≤ now → ¬ CalledOff h n k i →
      ∃ p started, p < i ∧ StartsAt h n p started ∧
        ∀ (q : Nat) (later : Instant) (e : Event α), h[q]? = some (later, e) →
          ringAt since delay ≤ later → started ≤ later) ∧
    ∀ m ≠ n, ∀ i, (run ((sparing m h).take i)).find? n = (run (h.take i)).find? n := by
  refine ⟨?_, ?_, ?_, ?_, ?_⟩
  · intro i j now later first second
    exact startsAt_once scheduled first second
  · intro i now starts
    refine ⟨lt_of_startsAt scheduled starts, not_calledOff_of_startsAt scheduled starts,
      waited_of_startsAt ordered scheduled starts, ?_⟩
    intro j later before here
    exact polled_of_startsAt scheduled starts before here
  · intro i now j first here le polls rung wanted
    exact starts_of_rung scheduled here polls le rung wanted
  · intro prompt i now behind within idle rung wanted
    obtain ⟨p, started, before, starts⟩ :=
      started_of_idle prompt ordered scheduled behind within idle rung wanted
    refine ⟨p, started, before, starts, ?_⟩
    intro q later e there rung
    exact prompt.on_time ordered scheduled starts there rung
  · intro m other i
    have cut : (sparing m h).take i = sparing m (h.take i) := List.map_take.symm
    rw [cut]
    exact find?_run_sparing (h.take i) (Ne.symm other)

/-- Two tasks: the first one starts after five seconds and is cancelled later, and the handle of the
second is given up when it is due, before it is polled. -/
def keptAndGivenUp : History (Event String) :=
  [(⟨0⟩, .schedule (.ofSecs 5) "kept"), (⟨0⟩, .schedule (.ofSecs 1) "given up"),
    (⟨0⟩, .poll 0), (⟨0⟩, .poll 1), (⟨1000000000⟩, .drop 1), (⟨1000000000⟩, .poll 1),
    (⟨5000000000⟩, .poll 0), (⟨6000000000⟩, .cancel 0), (⟨6000000000⟩, .poll 0)]

theorem starts_once_unless_called_off_keptAndGivenUp :
    Prompt keptAndGivenUp ∧ ScheduledAt keptAndGivenUp 0 0 (.ofSecs 5) ⟨0⟩ ∧
      ScheduledAt keptAndGivenUp 1 1 (.ofSecs 1) ⟨0⟩ ∧
      StartsAt keptAndGivenUp 0 6 ⟨5000000000⟩ ∧
      (∃ p started, p < 7 ∧ StartsAt keptAndGivenUp 0 p started ∧ started ≤ ⟨5000000000⟩) ∧
      (run (keptAndGivenUp.take 8)).polled ⟨6000000000⟩ 0 = .works ∧
      ¬ StartsAt keptAndGivenUp 1 5 ⟨1000000000⟩ := by
  have ordered : keptAndGivenUp.InOrder := by decide
  have prompt : Prompt keptAndGivenUp := by decide +kernel
  have first : ScheduledAt keptAndGivenUp 0 0 (.ofSecs 5) ⟨0⟩ := ⟨rfl, _, rfl⟩
  have second : ScheduledAt keptAndGivenUp 1 1 (.ofSecs 1) ⟨0⟩ := ⟨rfl, _, rfl⟩
  have starts : StartsAt keptAndGivenUp 0 6 ⟨5000000000⟩ := ⟨rfl, by decide +kernel⟩
  obtain ⟨-, kept, -, prompts, -⟩ := starts_once_unless_called_off ordered first
  obtain ⟨-, wanted, -, works⟩ := kept 6 _ starts
  refine ⟨prompt, first, second, starts, ?_, works 8 _ (by decide) rfl, ?_⟩
  · have still : ¬ CalledOff keptAndGivenUp 0 0 7 := by
      rw [calledOff_succ (by decide)]
      rintro (called | calls)
      · exact wanted called
      · rcases (callsOff_iff starts.1).mp calls with other | other <;> cases other
    obtain ⟨p, started, before, starts, soon⟩ :=
      prompts prompt 7 ⟨5000000000⟩ (by decide) (by decide) (by decide +kernel) (by decide +kernel)
        still
    exact ⟨p, started, before, starts, soon 6 _ _ rfl (by decide +kernel)⟩
  · intro late
    obtain ⟨-, givenUp, -⟩ := starts_once_unless_called_off ordered second
    obtain ⟨-, wanted, -⟩ := givenUp 5 _ late
    exact wanted ⟨4, by decide, by decide, _, Or.inr rfl⟩

def beyondTheClock : History (Event String) :=
  [(⟨0⟩, .schedule (.ofSecs 18446744073709551615) "never"), (⟨0⟩, .poll 0),
    (⟨946080000000000000⟩, .poll 0)]

/-- A delay that would end beyond the range of the clock is over after thirty years. -/
theorem starts_before_delay :
    ¬ ∀ (h : History (Event String)) (n k i : Nat) (delay : Duration) (since now : Instant),
      h.InOrder → ScheduledAt h n k delay since → StartsAt h n i now →
      since.nanos + delay.nanos ≤ now.nanos := by
  intro waits
  have scheduled : ScheduledAt beyondTheClock 0 0 (.ofSecs 18446744073709551615) ⟨0⟩ :=
    ⟨rfl, _, rfl⟩
  have starts : StartsAt beyondTheClock 0 2 ⟨946080000000000000⟩ := ⟨rfl, by decide +kernel⟩
  have waited := waits beyondTheClock 0 0 2 _ _ _ (by decide) scheduled starts
  exact absurd waited (by decide)

end Scheduler

end Leasehold

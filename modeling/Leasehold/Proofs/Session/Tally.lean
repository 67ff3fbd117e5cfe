import Mathlib.Data.Finset.Card
import Leasehold.Proofs.Session.Outcomes
import Leasehold.Proofs.Session.Reports

/-!
# The metrics of a session

An event raises at most one counter of a session in service, by one (`Booking`):
that of the logins when a login succeeds, be it of use or not; that of the
renewals when a cycle renews its token and not in vain; and that of the failures
when the login of a cycle fails which the session has not disowned.  So each
counter has counted the places of the history at which such a thing has happened,
and since a cycle fails at one place only, the failures are cycles
(`tally_counts`).
-/

set_option autoImplicit false

namespace Leasehold.Session

def Event.logsIn : Event → Bool
  | .loginReply _ (.ok _) => true
  | .cycleLoginReply _ (.ok _) => true
  | _ => false

namespace Renewing

variable {s s' : Renewing} {window : RenewalWindow} {h : History Event} {now : Instant} {e : Event}
  {i k m n : Nat} {c : Cycle} {outcome : Except VaultError Token} {P Q : Nat → Prop}
  {counter : UInt64}

/-! ## Counters -/

/-- A counter has counted the numbers that have a property, and starts again after the greatest that
it can show. -/
def Numbers (counter : UInt64) (P : Nat → Prop) : Prop :=
  ∃ those : Finset Nat, (∀ i, i ∈ those ↔ P i) ∧ counter.toNat = those.card % UInt64.size

theorem numbers_zero (none : ∀ i, ¬ P i) : Numbers 0 P := by
  refine ⟨∅, fun i => ?_, rfl⟩
  simp [none i]

theorem Numbers.congr (numbers : Numbers counter P) (same : ∀ i, Q i ↔ P i) :
    Numbers counter Q := by
  obtain ⟨those, holds, counts⟩ := numbers
  exact ⟨those, fun i => (holds i).trans (same i).symm, counts⟩

theorem Numbers.more (numbers : Numbers counter P) (fresh : ¬ P k)
    (more : ∀ i, Q i ↔ P i ∨ i = k) : Numbers (counter + 1) Q := by
  obtain ⟨those, holds, counts⟩ := numbers
  refine ⟨insert k those, fun i => ?_, ?_⟩
  · rw [Finset.mem_insert, holds, more, or_comm]
  · rw [Finset.card_insert_of_notMem (fun member => fresh ((holds k).mp member)),
      UInt64.toNat_add, counts]
    simp

theorem Numbers.next (numbers : Numbers counter fun i => i < m ∧ P i) :
    (P m → Numbers (counter + 1) fun i => i < m + 1 ∧ P i) ∧
      (¬ P m → Numbers counter fun i => i < m + 1 ∧ P i) := by
  constructor
  · intro holds
    apply numbers.more (k := m)
    · simp
    · intro i
      rw [Nat.lt_succ_iff_lt_or_eq, or_and_right]
      exact or_congr_right (and_iff_left_of_imp fun same => same ▸ holds)
  · intro fails
    apply numbers.congr
    intro i
    rw [Nat.lt_succ_iff_lt_or_eq, or_and_right]
    exact or_iff_left fun last => fails (last.1 ▸ last.2)

/-! ## Events -/

def Gains (s : Renewing) (e : Event) : Prop :=
  ∃ n c new, e = .renewalReply n (.ok new) ∧ s.cycles.find? n = some c ∧
    exhausted c.start.token new = .ok false

inductive Booking (s : Renewing) (e : Event) (s' : Renewing) : Prop
  | still (logs : e.logsIn = false) (gains : ¬ s.Gains e) (fails : ∀ error, ¬ s.Fails e error)
      (tally : s'.tally = s.tally)
  | login (logs : e.logsIn = true) (gains : ¬ s.Gains e) (fails : ∀ error, ¬ s.Fails e error)
      (tally : s'.tally = s.countLogin.tally)
  | renewal (logs : e.logsIn = false) (gains : s.Gains e) (fails : ∀ error, ¬ s.Fails e error)
      (tally : s'.tally = s.countRenewal.tally)
  | failure (error : VaultError) (logs : e.logsIn = false) (gains : ¬ s.Gains e)
      (fails : s.Fails e error) (tally : s'.tally = (s.degrade error).tally)

theorem not_gains (other : ∀ n reply, e ≠ .renewalReply n reply) : ¬ s.Gains e := by
  rintro ⟨n, c, new, same, _⟩
  exact other n _ same

theorem not_fails (other : ∀ n reply, e ≠ .cycleLoginReply n (.error reply)) (error : VaultError) :
    ¬ s.Fails e error := by
  rintro ⟨n, c, same, _⟩
  exact other n _ same

theorem Booking.of_aside (aside : e.cycle? = none) (logs : e.logsIn = false)
    (tally : s'.tally = s.tally) : Booking s e s' := by
  refine .still logs (not_gains ?_) (not_fails ?_) tally
  · rintro n reply rfl
    cases aside
  · rintro n error rfl
    cases aside

/-- A reply that ends a cycle, and is not the failure of one that counts, is counted as what it
is. -/
theorem Booking.of_outcome (answers : e.cycle? = some n) (found : s.cycles.find? n = some c)
    (ends : c.outcome? e = some outcome) (fails : ∀ error, ¬ s.Fails e error)
    (tally : s'.tally = (s.counted e).tally) : Booking s e s' := by
  cases e with
  | renewalReply m reply =>
      cases answers
      obtain ⟨new, rfl, _, gain⟩ := outcome_of_renewal ends
      exact .renewal rfl ⟨n, c, new, rfl, found, gain⟩ fails tally
  | cycleLoginReply m reply =>
      cases reply with
      | ok new => exact .login rfl (not_gains nofun) fails tally
      | error error => exact .still rfl (not_gains nofun) fails tally
  | _ => cases answers

theorem tally_renew (s : Renewing) (now : Instant) (t : Token) (floor : Duration) :
    (s.renew now t floor).tally = s.tally := by
  obtain ⟨timers, slot, same, _⟩ := renew_spec s now t floor
  rw [same]

theorem Effect.booking (effect : Effect s now e s') (awaits : s.Awaits e)
    (serving : s.terminated = false) : Booking s e s' := by
  cases effect with
  | unheard e n answers unknown =>
      obtain ⟨c, flying⟩ := awaits.flying answers
      cases unknown.symm.trans (Numbered.find?_eq_some_iff.mpr flying)
  | answered _ | told _ | queued _ | admitted _ | gone _ | resumed _ | missed _ | began _ _
  | invalidated | shutdown => exact .of_aside rfl rfl rfl
  | refused id reply lost =>
      rcases lost with ended | ⟨error, rfl⟩
      · cases serving.symm.trans ended
      · exact .of_aside rfl rfl rfl
  | outdated id t => exact .login rfl (not_gains nofun) (not_fails nofun) rfl
  | loggedIn id t =>
      have tally := tally_renew s.countLogin now t .zero
      exact .login rfl (not_gains nofun) (not_fails nofun) tally
  | turned n reply c found failed =>
      refine .still rfl ?_ (not_fails nofun) rfl
      rintro ⟨_, d, new, same, twin, gain⟩
      cases same
      cases found.symm.trans twin
      cases gain.symm.trans (failed new rfl)
  | broken n t c found beyond =>
      refine .still rfl ?_ (not_fails nofun) rfl
      rintro ⟨_, d, new, same, twin, gain⟩
      cases same
      cases found.symm.trans twin
      exact beyond false gain
  | discarded e n c outcome answers found ends stale =>
      refine .of_outcome answers found ends ?_ rfl
      rintro error ⟨_, d, rfl, twin, counts⟩
      cases answers
      cases found.symm.trans twin
      exact stale counts
  | renewed e n c t answers found ends counts =>
      refine .of_outcome answers found ends ?_ (tally_renew _ now t pauseBetweenCycles)
      rintro error ⟨_, d, rfl, _⟩
      cases ends
  | failed e n c error answers found ends counts =>
      cases e with
      | renewalReply m reply =>
          obtain ⟨_, _, none, _⟩ := outcome_of_renewal ends
          cases none
      | cycleLoginReply m reply =>
          cases answers
          cases ends
          obtain ⟨timers, slot, same, _⟩ := fail_spec (s.endCycle n) now error
          refine .failure error rfl (not_gains nofun) ⟨n, c, rfl, found, counts⟩ ?_
          change ((s.endCycle n).fail now error).tally = _
          rw [same]
          rfl
      | _ => cases answers

/-! ## Places -/

def LogsInAt (h : History Event) (i : Nat) : Prop :=
  ∃ now e, h[i]? = some (now, e) ∧ e.logsIn = true

def GainsAt (s : Renewing) (h : History Event) (i : Nat) : Prop :=
  ∃ now n new p old, h[i]? = some (now, .renewalReply n (.ok new)) ∧ Rings s h p n ∧
    (s.found h p).token = some old ∧ ¬ Futile old.token (.ok new)

/-- At a place of a history the login of a cycle fails that has not been disowned since it began. -/
def MissesAt (s : Renewing) (h : History Event) (i n : Nat) : Prop :=
  ∃ now error p, h[i]? = some (now, .cycleLoginReply n (.error error)) ∧ Rings s h p n ∧
    ¬ Disowned ((h.take i).drop (p + 1))

theorem logsInAt_iff (here : h[i]? = some (now, e)) : LogsInAt h i ↔ e.logsIn = true := by
  constructor
  · rintro ⟨_, _, there, logs⟩
    cases here.symm.trans there
    exact logs
  · exact fun logs => ⟨now, e, here, logs⟩

/-- A cycle counts until it is disowned. -/
theorem Rings.counts_iff (rings : Rings s h k n) (before : k < i)
    (same : (s.found h k).generation = c.generation) :
    (s.found h i).Counts c ↔ ¬ Disowned ((h.take i).drop (k + 1)) := by
  obtain ⟨serving, task, t, _, next⟩ := rings.began
  rw [found_run s h before, next]
  exact counts_run_iff (s := ((s.found h k).start task).beginCycle t) serving same _

section Cycles

variable (awaited : Awaited { window } h) (here : h[i]? = some (now, e))

include awaited here

theorem gainsAt_iff (clock : WithinClock { window } h) :
    GainsAt { window } h i ↔ (found { window } h i).Gains e := by
  constructor
  · rintro ⟨_, n, new, p, old, there, rings, starts, gain⟩
    cases here.symm.trans there
    obtain ⟨_, c, found, rfl, _⟩ := rings.awaits starts awaited here rfl
    obtain ⟨spent, compared⟩ := not_broken found (clock.at_place here)
    refine ⟨n, c, new, rfl, found, ?_⟩
    cases spent with
    | true => exact absurd ((exhausted_iff compared).mp rfl) gain
    | false => exact compared
  · rintro ⟨n, c, new, rfl, found, gain⟩
    obtain ⟨p, _, rings, _, starts⟩ :=
      cycle_found (Nat.le_of_lt (History.lt_length_of_place here))
        (Numbered.find?_eq_some_iff.mp found)
    refine ⟨now, n, new, p, c.start, here, rings, starts, fun vain => ?_⟩
    cases (exhausted_iff gain).mpr vain

theorem missesAt_iff : MissesAt { window } h i n ↔
    ∃ error, e = .cycleLoginReply n (.error error) ∧ (found { window } h i).Fails e error := by
  have within := Nat.le_of_lt (History.lt_length_of_place here)
  constructor
  · rintro ⟨_, error, p, there, rings, owned⟩
    cases here.symm.trans there
    obtain ⟨_, _, t, starts, _⟩ := rings.began
    obtain ⟨before, c, found, _, generation⟩ := rings.awaits starts awaited here rfl
    exact ⟨error, rfl, n, c, rfl, found, (rings.counts_iff before generation.symm).mpr owned⟩
  · rintro ⟨error, rfl, _, c, same, found, counts⟩
    cases same
    obtain ⟨p, before, rings, generation, _⟩ :=
      cycle_found within (Numbered.find?_eq_some_iff.mp found)
    exact ⟨now, error, p, here, rings, (rings.counts_iff before generation).mp counts⟩

end Cycles

/-- After its login has failed a cycle is not heard of any more. -/
theorem MissesAt.unique (awaited : Awaited { window } h) (misses : MissesAt { window } h i n)
    (again : MissesAt { window } h k n) : i = k := by
  have apart {i k : Nat} (first : MissesAt { window } h i n) (second : MissesAt { window } h k n) :
      ¬ i < k := by
    intro before
    obtain ⟨now, error, _, here, _⟩ := first
    obtain ⟨_, _, _, there, _⟩ := second
    obtain ⟨c, flying⟩ := (awaited.at_place here).flying rfl
    obtain ⟨d, later⟩ := (awaited.at_place there).flying rfl
    have gone := not_flying_of_ends (e := .cycleLoginReply n (.error error)) now rfl
      (Numbered.find?_eq_some_iff.mpr flying) rfl
    rw [← found_succ here] at gone
    have begun := Nat.lt_of_lt_of_le (Numbered.lt_issued flying)
      (begun_le_found { window } h (Nat.le_succ i))
    obtain ⟨b, still⟩ := flying_between before begun later
    exact gone b still
  have ge := Nat.le_of_not_lt (apart misses again)
  exact Nat.le_antisymm (Nat.le_of_not_lt (apart again misses)) ge

/-! ## Every history -/

theorem serving_found (lasts : ends h = false) (i : Nat) :
    (found { window } h i).terminated = false := by
  unfold found
  rw [terminated_run, Bool.false_or, ends, List.any_eq_false]
  exact fun event early => List.any_eq_false.mp lasts event (List.mem_of_mem_take early)

structure Tallied (s : Renewing) (h : History Event) (m : Nat) : Prop where
  logins : Numbers (s.found h m).tally.logins fun i => i < m ∧ LogsInAt h i
  tokenRenewals : Numbers (s.found h m).tally.tokenRenewals fun i => i < m ∧ GainsAt s h i
  failures : Numbers (s.found h m).tally.failures fun n => ∃ i, i < m ∧ MissesAt s h i n

theorem Tallied.next (awaited : Awaited { window } h) (clock : WithinClock { window } h)
    (lasts : ends h = false) (here : h[m]? = some (now, e)) (tallied : Tallied { window } h m) :
    Tallied { window } h (m + 1) := by
  have booking := (step_effect _ now e).booking (awaited.at_place here) (serving_found lasts m)
  rw [← found_succ here] at booking
  have logs := logsInAt_iff here
  have gains := gainsAt_iff awaited here clock
  have unlogged (unlogged : e.logsIn = false) : ¬ LogsInAt h m := by
    rw [logs, unlogged]
    exact Bool.false_ne_true
  have unfailed (spared : ∀ error, ¬ (found { window } h m).Fails e error) :
      Numbers (found { window } h m).tally.failures
        fun n => ∃ i, i < m + 1 ∧ MissesAt { window } h i n := by
    refine tallied.failures.congr fun n => ?_
    rw [Nat.exists_lt_succ_right, missesAt_iff awaited here]
    exact or_iff_left fun ⟨error, _, fails⟩ => spared error fails
  cases booking with
  | still logsIn gain fails tally =>
      refine ⟨?_, ?_, ?_⟩ <;> rw [tally]
      · exact tallied.logins.next.2 (unlogged logsIn)
      · exact tallied.tokenRenewals.next.2 (mt gains.mp gain)
      · exact unfailed fails
  | login logsIn gain fails tally =>
      refine ⟨?_, ?_, ?_⟩ <;> rw [tally]
      · exact tallied.logins.next.1 (logs.mpr logsIn)
      · exact tallied.tokenRenewals.next.2 (mt gains.mp gain)
      · exact unfailed fails
  | renewal logsIn gain fails tally =>
      refine ⟨?_, ?_, ?_⟩ <;> rw [tally]
      · exact tallied.logins.next.2 (unlogged logsIn)
      · exact tallied.tokenRenewals.next.1 (gains.mpr gain)
      · exact unfailed fails
  | failure error logsIn gain fails tally =>
      have ⟨n, c, same, _⟩ := fails
      have misses := (missesAt_iff awaited here).mpr ⟨error, same, fails⟩
      refine ⟨?_, ?_, ?_⟩ <;> rw [tally]
      · exact tallied.logins.next.2 (unlogged logsIn)
      · exact tallied.tokenRenewals.next.2 (mt gains.mp gain)
      · refine tallied.failures.more (k := n) ?_ fun k => ?_
        · rintro ⟨i, before, again⟩
          exact Nat.ne_of_lt before (again.unique awaited misses)
        · rw [Nat.exists_lt_succ_right, missesAt_iff awaited here]
          refine or_congr_right ⟨?_, ?_⟩
          · rintro ⟨_, twin, _⟩
            cases same.symm.trans twin
            rfl
          · rintro rfl
            exact ⟨error, same, fails⟩

/-- As long as a session is in service and no instant lies beyond the clock, its counters have
counted the logins that have succeeded, the renewals that have not been in vain, and the cycles
whose login has failed in the generation in which they began, all of them modulo the size of the
counters. -/
theorem tally_counts (window : RenewalWindow) (h : History Event) (serving : ends h = false)
    (awaited : Awaited { window } h) (clock : WithinClock { window } h) :
    Numbers (run { window } h).tally.logins (LogsInAt h) ∧
    Numbers (run { window } h).tally.tokenRenewals (GainsAt { window } h) ∧
    Numbers (run { window } h).tally.failures fun n => ∃ i, MissesAt { window } h i n := by
  have start : Tallied { window } h 0 :=
    ⟨numbers_zero nofun, numbers_zero nofun, numbers_zero nofun⟩
  have tallied : Tallied { window } h h.length :=
    History.holds_at start (fun m now e here => Tallied.next awaited clock serving here) _
      (Nat.le_refl _)
  have whole : found { window } h h.length = run { window } h := by
    rw [found, List.take_length]
  obtain ⟨logins, renewals, failures⟩ := tallied
  rw [whole] at logins renewals failures
  refine ⟨logins.congr fun i => ?_, renewals.congr fun i => ?_, failures.congr fun n => ?_⟩
  · exact (and_iff_right_of_imp fun ⟨_, _, here, _⟩ => History.lt_length_of_place here).symm
  · exact (and_iff_right_of_imp fun ⟨_, _, _, _, _, here, _⟩ =>
      History.lt_length_of_place here).symm
  · refine exists_congr fun i => ?_
    exact (and_iff_right_of_imp fun ⟨_, _, _, here, _⟩ => History.lt_length_of_place here).symm

def failedAt63 : History Event :=
  loggedInAt0 ++ [(⟨30000000000⟩, .ring 0),
    (⟨31000000000⟩, .renewalReply 0 (.ok (minute "renewed" 31))),
    (⟨61000000000⟩, .ring 1),
    (⟨62000000000⟩, .renewalReply 1 (.error .rateLimited)),
    (⟨63000000000⟩, .cycleLoginReply 1 (.error .rateLimited))]

theorem awaited_failedAt63 : Awaited { window := halfMinute } failedAt63 :=
  ⟨trivial, ⟨0, List.mem_cons_self⟩, trivial, ⟨_, List.mem_cons_self, rfl⟩, trivial,
    ⟨_, List.mem_cons_self, rfl⟩, ⟨_, List.mem_cons_self, rfl⟩, trivial⟩

theorem tally_counts_failedAt63 :
    let s : Renewing := { window := halfMinute }
    ends failedAt63 = false ∧ Awaited s failedAt63 ∧ WithinClock s failedAt63 ∧
      (s.run failedAt63).tally = ⟨1, 1, 1⟩ ∧
      Numbers (s.run failedAt63).tally.logins (LogsInAt failedAt63) ∧
      Numbers (s.run failedAt63).tally.tokenRenewals (GainsAt s failedAt63) ∧
      Numbers (s.run failedAt63).tally.failures fun n => ∃ i, MissesAt s failedAt63 i n := by
  have clock : WithinClock { window := halfMinute } failedAt63 :=
    ⟨rfl, rfl, rfl, rfl, rfl, rfl, rfl, trivial⟩
  exact ⟨rfl, awaited_failedAt63, clock, rfl,
    tally_counts halfMinute failedAt63 rfl awaited_failedAt63 clock⟩

end Renewing

end Leasehold.Session

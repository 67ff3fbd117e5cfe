import Leasehold.Proofs.Punctuality
import Leasehold.Proofs.Session.Clock
import Leasehold.Proofs.Session.Endless
import Leasehold.Proofs.Session.Reports

/-!
# Timers of a session

A session sets a timer when a token with an end comes into place and when a
cycle fails (`Arms`, `step_timer`).  The task of that timer takes the place
of any other (`Handed.live_iff`), and it stays live until it rings, unless the
session sets another timer or gives it up (`Effect.untouched`).  The number of
a task tells where its timer was set (`SetsAt.of_task`).
-/

set_option autoImplicit false

namespace Leasehold.Session

def Event.pause (e : Event) : Duration :=
  if e.cycle?.isSome then pauseBetweenCycles else .zero

namespace Renewing

variable {s s' : Renewing} {window : RenewalWindow} {h : History Event} {now set : Instant}
  {e : Event} {i j k n : Nat} {t : TokenInstance} {u : Timer Unit} {d floor : Duration}

/-- What sets the timer of the next cycle, and its delay: an event that puts a token with an end in
place, or a cycle that fails. -/
inductive Arms (s : Renewing) (now : Instant) (e : Event) : Duration → Prop
  | placed (t : Token) (delay : Duration)
      (installed : (s.next now e).token = some ⟨s.serials, t⟩)
      (counted : (s.next now e).serials = s.serials + 1)
      (planned : s.window.delay t.issued t.validity now = .ok (some delay)) :
      Arms s now e (max delay e.pause)
  | failed (error : VaultError) (fails : s.Fails e error) : Arms s now e s.pauseAfterFailure

/-- The task of a timer has taken the place of the one before. -/
structure Handed (timers : Schedule Unit) (slot : Option Nat) (now : Instant) (u : Timer Unit)
    (timers' : Schedule Unit) (slot' : Option Nat) : Prop where
  task : u.task = timers.issued
  timers : timers' = (timers.add ⟨⟨now.nanos + u.delay.nanos⟩, ()⟩).cancel slot
  slot : slot' = some u.task

/-! ## Operations -/

theorem setTimer_handed (serving : s.terminated = false) (now : Instant) (d : Duration) :
    Handed s.timers s.slot now ⟨s.timers.issued, d, ()⟩ (s.setTimer now d).session.timers
      (s.setTimer now d).session.slot := by
  unfold setTimer
  dsimp only
  rw [if_neg (Bool.eq_false_iff.mp serving)]
  exact ⟨rfl, rfl, rfl⟩

theorem install_timer_iff :
    (s.install now t floor).timer = some u ↔ ∃ delay,
      s.window.delay t.token.issued t.token.validity now = .ok (some delay) ∧
      u = ⟨s.timers.issued, max delay floor, ()⟩ := by
  unfold install
  dsimp only
  split
  · rename_i beyond planned
    rw [planned]
    exact ⟨nofun, nofun⟩
  · rename_i planned
    rw [planned]
    exact ⟨nofun, nofun⟩
  · rename_i delay planned
    rw [planned]
    constructor
    · rintro ⟨⟩
      exact ⟨delay, rfl, rfl⟩
    · rintro ⟨_, ⟨⟩, rfl⟩
      rfl

theorem install_handed (serving : s.terminated = false)
    (timer : (s.install now t floor).timer = some u) :
    Handed s.timers s.slot now u (s.install now t floor).session.timers
      (s.install now t floor).session.slot := by
  obtain ⟨delay, planned, rfl⟩ := install_timer_iff.mp timer
  unfold install
  dsimp only
  rw [planned]
  exact setTimer_handed (s := { s with token := some t, degraded := false }) serving now _

theorem cycle_concludes (now : Instant) {c : Cycle} {outcome : Except VaultError Token}
    (answers : e.cycle? = some n) (found : s.cycles.find? n = some c)
    (ends : c.outcome? e = some outcome) :
    (s.step now e).timer = ((s.counted e).conclude now n c outcome).timer ∧
      s.next now e = ((s.counted e).conclude now n c outcome).session := by
  cases e with
  | renewalReply m reply =>
      cases answers
      change (s.renewalReply now n reply).timer = _ ∧ (s.renewalReply now n reply).session = _
      unfold renewalReply
      rw [found]
      cases reply with
      | error error => cases ends
      | ok t =>
          dsimp only [Cycle.outcome?] at ends ⊢
          split at ends
          · rename_i gain
            cases ends
            rw [gain]
            exact ⟨rfl, rfl⟩
          · cases ends
  | cycleLoginReply m reply =>
      cases answers
      cases ends
      change (s.cycleLoginReply now n outcome).timer = _ ∧
        (s.cycleLoginReply now n outcome).session = _
      unfold cycleLoginReply
      rw [found]
      cases outcome <;> exact ⟨rfl, rfl⟩
  | _ => cases answers

theorem cycle_timer (answers : e.cycle? = some n) (timer : (s.step now e).timer = some u) :
    ∃ c outcome, s.cycles.find? n = some c ∧ c.outcome? e = some outcome := by
  cases e with
  | renewalReply m reply =>
      cases answers
      change (s.renewalReply now n reply).timer = _ at timer
      unfold renewalReply at timer
      split at timer
      · cases timer
      · rename_i c found
        cases reply with
        | error error => cases timer
        | ok t =>
            dsimp only at timer
            split at timer
            · cases timer
            · cases timer
            · rename_i gain
              exact ⟨c, .ok t, found, by simp only [Cycle.outcome?, gain]⟩
  | cycleLoginReply m reply =>
      cases answers
      change (s.cycleLoginReply now n reply).timer = _ at timer
      unfold cycleLoginReply at timer
      split at timer
      · cases timer
      · rename_i c found
        exact ⟨c, reply, found, rfl⟩
  | _ => cases answers

theorem loginReply_timer {id : Nat} {reply : Except VaultError Token}
    (timer : (s.loginReply now id reply).timer = some u) :
    ∃ t, reply = .ok t ∧ s.terminated = false ∧ s.loginGeneration id = some s.generation ∧
      ((s.countLogin.takeIn t).1.install now (s.countLogin.takeIn t).2 .zero).timer = some u := by
  cases reply with
  | error error => cases timer
  | ok t =>
      unfold loginReply at timer
      dsimp only at timer
      split at timer
      · cases timer
      · rename_i serving
        split at timer
        · rename_i unchanged
          exact ⟨t, rfl, Bool.eq_false_iff.mpr serving, unchanged, timer⟩
        · cases timer

theorem loginReply_takesIn {id : Nat} {t : Token} (serving : s.terminated = false)
    (unchanged : s.loginGeneration id = some s.generation) :
    (s.loginReply now id (.ok t)).timer =
        ((s.countLogin.takeIn t).1.install now (s.countLogin.takeIn t).2 .zero).timer ∧
      (s.loginReply now id (.ok t)).session =
        ((s.countLogin.takeIn t).1.install now (s.countLogin.takeIn t).2 .zero).session.without
          id := by
  unfold loginReply
  dsimp only
  rw [if_neg (Bool.eq_false_iff.mp serving), if_pos unchanged]
  exact ⟨rfl, rfl⟩

theorem begin_timer (demand : Demand) : (s.begin now demand).timer = none := by
  unfold Renewing.begin
  dsimp only
  split
  · rfl
  · split <;> rfl

theorem attempt_timer (id : Nat) : (s.attempt now id).timer = none := by
  unfold attempt
  split
  · rfl
  · split <;> rfl

theorem ring_timer (task : Nat) : (s.ring task).timer = none := by
  unfold ring
  split
  · rfl
  · split <;> rfl

theorem renew_places (s : Renewing) (now : Instant) (t : Token) (floor : Duration) :
    (s.renew now t floor).token = some ⟨s.serials, t⟩ ∧
      (s.renew now t floor).serials = s.serials + 1 := by
  obtain ⟨timers, slot, same, _⟩ := renew_spec s now t floor
  rw [same]
  exact ⟨rfl, rfl⟩

theorem conclude_timer {c : Cycle} {outcome : Except VaultError Token}
    (timer : (s.conclude now n c outcome).timer = some u) :
    s.Counts c ∧
      Handed s.timers s.slot now u (s.conclude now n c outcome).session.timers
        (s.conclude now n c outcome).session.slot ∧
      ((∃ t delay, outcome = .ok t ∧
          s.window.delay t.issued t.validity now = .ok (some delay) ∧
          u.delay = max delay pauseBetweenCycles ∧
          (s.conclude now n c outcome).session.token = some ⟨s.serials, t⟩ ∧
          (s.conclude now n c outcome).session.serials = s.serials + 1) ∨
        ∃ error, outcome = .error error ∧ u.delay = s.pauseAfterFailure) := by
  by_cases counts : s.Counts c
  · refine ⟨counts, ?_⟩
    cases outcome with
    | ok t =>
        rw [conclude_renews counts] at timer ⊢
        obtain ⟨delay, planned, rfl⟩ := install_timer_iff.mp timer
        have placed := renew_places (s.endCycle n) now t pauseBetweenCycles
        exact ⟨install_handed (s := ((s.endCycle n).takeIn t).1) counts.1 timer,
          Or.inl ⟨t, delay, rfl, planned, rfl, placed.1, placed.2⟩⟩
    | error error =>
        rw [conclude_fails counts] at timer ⊢
        cases timer
        exact ⟨setTimer_handed (s := (s.endCycle n).degrade error) counts.1 now _,
          Or.inr ⟨error, rfl, rfl⟩⟩
  · rw [conclude_discards counts] at timer
    cases timer

/-! ## Events -/

/-- A timer is set by what puts a token with an end in place or ends a cycle with an error, and
its task takes the place of the one before. -/
theorem step_timer (timer : (s.step now e).timer = some u) :
    s.terminated = false ∧ Arms s now e u.delay ∧
      Handed s.timers s.slot now u (s.next now e).timers (s.next now e).slot := by
  have cycle {n : Nat} (answers : e.cycle? = some n) : s.terminated = false ∧
      Arms s now e u.delay ∧
      Handed s.timers s.slot now u (s.next now e).timers (s.next now e).slot := by
    obtain ⟨c, outcome, found, ends⟩ := cycle_timer answers timer
    obtain ⟨same, next⟩ := cycle_concludes now answers found ends
    obtain ⟨tally, counted⟩ := counted_spec s e
    rw [counted] at same next
    obtain ⟨counts, handed, brings⟩ := conclude_timer (same.symm.trans timer)
    rw [← next] at handed brings
    refine ⟨counts.1, ?_, handed⟩
    rcases brings with ⟨t, delay, rfl, planned, delays, installed, more⟩ | ⟨error, rfl, delays⟩
    · have pause : e.pause = pauseBetweenCycles := by
        unfold Event.pause
        rw [answers]
        rfl
      rw [delays, ← pause]
      exact .placed t delay installed more planned
    · rw [delays]
      exact .failed error ⟨n, c, Cycle.login_of_error answers ends, found, counts⟩
  cases e with
  | begin demand => cases (begin_timer demand).symm.trans timer
  | attempt id => cases (attempt_timer id).symm.trans timer
  | ring task => cases (ring_timer task).symm.trans timer
  | invalidate => cases timer
  | shutdown => cases timer
  | renewalReply m reply => exact cycle rfl
  | cycleLoginReply m reply => exact cycle rfl
  | loginReply id reply =>
      obtain ⟨t, rfl, serving, unchanged, installs⟩ := loginReply_timer timer
      obtain ⟨delay, planned, rfl⟩ := install_timer_iff.mp installs
      have next : s.next now (.loginReply id (.ok t)) =
          (s.countLogin.renew now t .zero).without id := (loginReply_takesIn serving unchanged).2
      have placed := renew_places s.countLogin now t .zero
      have handed := install_handed (s := (s.countLogin.takeIn t).1) serving installs
      rw [next]
      refine ⟨serving, .placed t delay ?_ ?_ planned, handed⟩
      · rw [next]
        exact placed.1
      · rw [next]
        exact placed.2

theorem takeIn_timer {token : Token} {v : Duration}
    (done : ((s.takeIn token).1.install now (s.takeIn token).2 floor).result = .ok ())
    (finite : token.validity = .finite v) :
    ∃ delay, s.window.delay token.issued token.validity now = .ok (some delay) ∧
      ((s.takeIn token).1.install now (s.takeIn token).2 floor).timer =
        some ⟨s.timers.issued, max delay floor, ()⟩ := by
  unfold takeIn install at done ⊢
  dsimp only at done ⊢
  split at done
  · cases done
  · rename_i planned
    cases finite.symm.trans ((RenewalWindow.delay_eq_none_iff planned).mp rfl)
  · rename_i delay planned
    exact ⟨delay, planned, rfl⟩

theorem installed_timer {v : Duration} (installed : (s.next now e).token = some t)
    (new : s.token ≠ some t) (finite : t.token.validity = .finite v)
    (within : e.overflows (s.step now e).result = false) :
    ∃ delay, s.window.delay t.token.issued t.token.validity now = .ok (some delay) ∧
      (s.step now e).timer = some ⟨s.timers.issued, max delay e.pause, ()⟩ := by
  have effect := step_effect s now e
  generalize s.next now e = after at installed effect
  cases effect with
  | loggedIn id token serving unchanged =>
      have placed := renew_places s.countLogin now token .zero
      obtain rfl := Option.some.inj (placed.1.symm.trans installed)
      obtain ⟨delay, planned, timer⟩ :=
        takeIn_timer (loginReply_within serving unchanged within) finite
      exact ⟨delay, planned, (loginReply_takesIn serving unchanged).1.trans timer⟩
  | renewed e id c token answers found ends counts =>
      have done := renewed_within answers found ends counts within
      have timer := (cycle_concludes now answers found ends).1
      have pause : e.pause = pauseBetweenCycles := by
        unfold Event.pause
        rw [answers]
        rfl
      obtain ⟨tally, counted⟩ := counted_spec s e
      obtain ⟨_, _, _, same, _⟩ := renewed_spec s now e id token
      rw [same] at installed
      cases installed
      rw [counted] at done timer
      rw [conclude_renews (s := { s with tally }) counts] at timer
      obtain ⟨delay, planned, sets⟩ :=
        takeIn_timer (s := Renewing.endCycle { s with tally } id) done finite
      refine ⟨delay, planned, ?_⟩
      rw [timer, pause]
      exact sets
  | discarded e id c outcome =>
      obtain ⟨tally, same⟩ := discarded_spec s e id
      rw [same] at installed
      exact absurd installed new
  | failed e id c error =>
      obtain ⟨tally, timers, slot, same, _⟩ := failed_spec s now e id error
      rw [same] at installed
      exact absurd installed new
  | invalidated | shutdown => cases installed
  | _ => exact absurd installed new

theorem Fails.timer {error : VaultError} (fails : s.Fails e error) (now : Instant) :
    (s.step now e).timer = some ⟨s.timers.issued, s.pauseAfterFailure, ()⟩ := by
  obtain ⟨n, c, rfl, found, counts⟩ := fails
  rw [(cycle_concludes _ rfl found rfl).1]
  exact congrArg Change.timer (conclude_fails counts now n error)

theorem Fails.token_kept {error : VaultError} (fails : s.Fails e error) :
    (s.next now e).token = s.token := by
  obtain ⟨n, c, rfl, found, counts⟩ := fails
  have next := (cycle_concludes (e := .cycleLoginReply n (.error error)) now rfl found
    rfl).2
  have concluded : s.next now (.cycleLoginReply n (.error error)) = (s.endCycle n).fail now error :=
    next.trans (congrArg Change.session (conclude_fails counts now n error))
  obtain ⟨_, _, same, _⟩ := fail_spec (s.endCycle n) now error
  rw [concluded, same]
  rfl

/-! ## Live tasks -/

/-- The task of a timer that has just been set is the only one that is live. -/
theorem Handed.live_iff {timers timers' : Schedule Unit} {slot slot' : Option Nat}
    (handed : Handed timers slot now u timers' slot') (sole : Sole timers slot)
    (numbered : ∀ k, slot = some k → k < timers.issued) :
    timers'.holds n = true ↔ n = u.task := by
  rw [handed.timers, Numbered.holds_iff, handed.task]
  constructor
  · rintro ⟨work, member⟩
    obtain ⟨there, other⟩ := Numbered.mem_cancel.mp member
    rcases Numbered.mem_add.mp there with before | ⟨number, _⟩
    · exact absurd (sole n work before) other
    · exact number
  · rintro rfl
    refine ⟨_, Numbered.mem_cancel.mpr ⟨Numbered.mem_add.mpr (Or.inr ⟨rfl, rfl⟩), ?_⟩⟩
    exact fun held => Nat.lt_irrefl _ (numbered _ held)

theorem Handed.issued {timers timers' : Schedule Unit} {slot slot' : Option Nat}
    (handed : Handed timers slot now u timers' slot') : timers'.issued = u.task + 1 := by
  rw [handed.timers, Numbered.issued_cancel, handed.task]
  rfl

theorem holds_remove_iff {tasks : Schedule Unit} {m : Nat} :
    (tasks.remove m).holds n = true ↔ tasks.holds n = true ∧ n ≠ m := by
  by_cases same : n = m
  · subst same
    simp [Numbered.holds_remove_self]
  · simp [Numbered.holds_remove_of_ne same, same]

/-- Whether an event takes the place of the timer that is set: it puts another token in place, it
ends a cycle with an error, or it takes the token away. -/
def Replaces (s : Renewing) (now : Instant) (e : Event) : Prop :=
  e.invalidates = true ∨ e.ends = true ∨ (∃ error, s.Fails e error) ∨
    ∃ t, (s.next now e).token = some t ∧ s.token ≠ some t

/-- Any other event leaves the token and the timer, unless it is the ring of the timer itself. -/
theorem untouched (numbering : Numbering s) (spares : ¬ s.Replaces now e) :
    (s.next now e).token = s.token ∧ (s.next now e).terminated = s.terminated ∧
      ∀ n, (s.next now e).timers.holds n = true ↔
        s.timers.holds n = true ∧ ∀ task, e = .ring task → n ≠ task := by
  have effect := step_effect s now e
  have fresh (token : Token) : s.token ≠ some ⟨s.serials, token⟩ := by
    intro installed
    exact Nat.lt_irrefl _ (numbering.token_lt _ installed)
  have aside (rests : ∀ task, e ≠ .ring task) (n : Nat) : s.timers.holds n = true ↔
      s.timers.holds n = true ∧ ∀ task, e = .ring task → n ≠ task :=
    ⟨fun live => ⟨live, fun task rings => absurd rings (rests task)⟩, And.left⟩
  have rung (task n : Nat) : (s.timers.remove task).holds n = true ↔
      s.timers.holds n = true ∧ ∀ other, Event.ring task = .ring other → n ≠ other := by
    rw [holds_remove_iff]
    constructor
    · rintro ⟨live, other⟩
      exact ⟨live, by rintro _ ⟨⟩; exact other⟩
    · rintro ⟨live, others⟩
      exact ⟨live, others task rfl⟩
  unfold Replaces at spares
  generalize s.next now e = after at spares effect ⊢
  cases effect with
  | loggedIn id token =>
      refine absurd (Or.inr (Or.inr (Or.inr ⟨_, ?_, fresh token⟩))) spares
      exact (renew_places s.countLogin now token .zero).1
  | renewed e id c token =>
      obtain ⟨tally, timers, slot, same, _⟩ := renewed_spec s now e id token
      refine absurd (Or.inr (Or.inr (Or.inr ⟨_, ?_, fresh token⟩))) spares
      rw [same]
  | failed e id c error answers found ends counts =>
      have login := Cycle.login_of_error answers ends
      exact absurd (Or.inr (Or.inr (Or.inl ⟨error, id, c, login, found, counts⟩))) spares
  | invalidated => exact absurd (Or.inl rfl) spares
  | shutdown => exact absurd (Or.inr (Or.inl rfl)) spares
  | missed task => exact ⟨rfl, rfl, rung task⟩
  | began task t => exact ⟨rfl, rfl, rung task⟩
  | unheard e id answers =>
      refine ⟨rfl, rfl, aside ?_⟩
      rintro task rfl
      cases answers
  | discarded e id c outcome answers =>
      obtain ⟨tally, same⟩ := discarded_spec s e id
      rw [same]
      refine ⟨rfl, rfl, aside ?_⟩
      rintro task rfl
      cases answers
  | _ => exact ⟨rfl, rfl, aside nofun⟩

/-! ## One history -/

def SetsAt (s : Renewing) (h : History Event) (i : Nat) (set : Instant) (u : Timer Unit) : Prop :=
  ∃ e, h[i]? = some (set, e) ∧ ((s.found h i).step set e).timer = some u

theorem planned_le_found (s : Renewing) (h : History Event) (le : i ≤ k) :
    (s.found h i).timers.issued ≤ (s.found h k).timers.issued := by
  refine History.invariant_later
    (I := fun s' : Renewing => (s.found h i).timers.issued ≤ s'.timers.issued)
    (fun s' now e held => ?_) le (Nat.le_refl _)
  exact Nat.le_trans held (step_effect s' now e).onward.handover.issued_le

theorem SetsAt.number (sets : s.SetsAt h j set u) : u.task = (s.found h j).timers.issued ∧
    (s.found h (j + 1)).timers.issued = u.task + 1 := by
  obtain ⟨e, here, timer⟩ := sets
  obtain ⟨_, _, handed⟩ := step_timer timer
  rw [found_succ here]
  exact ⟨handed.task, handed.issued⟩

theorem SetsAt.of_task {late : Instant} {other : Timer Unit} (first : s.SetsAt h j set u)
    (second : s.SetsAt h k late other) (same : u.task = other.task) :
    j = k ∧ set = late ∧ u = other := by
  have number := first.number
  have twin := second.number
  have place : j = k := by
    rcases Nat.lt_trichotomy j k with before | equal | after
    · have later := planned_le_found s h (show j + 1 ≤ k from before)
      omega
    · exact equal
    · have later := planned_le_found s h (show k + 1 ≤ j from after)
      omega
  subst place
  obtain ⟨e, here, timer⟩ := first
  obtain ⟨_, there, others⟩ := second
  cases here.symm.trans there
  exact ⟨rfl, rfl, Option.some.inj (timer.symm.trans others)⟩

end Renewing

end Leasehold.Session

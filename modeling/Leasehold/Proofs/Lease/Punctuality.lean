import Leasehold.Proofs.Lease.Clock
import Leasehold.Proofs.Lease.Overlap
import Leasehold.Proofs.Lease.Stages
import Leasehold.Proofs.Punctuality

/-!
# When cycles begin

A lease that has been taken in waits for a timer whose delay is counted from the
instant at which it came (`TakesIn.due`), and its task stays live as long as the
entry is there (`Effect.live`).  So over punctual timers its cycle begins when it
is due, or the entry has left before (`begins_when_due`).  The lease has to stand
under its own identifier: under another one no cycle begins for it at all
(`Installs.kept`).
-/

set_option autoImplicit false

namespace Leasehold

namespace Schedule

variable {α : Type} {s : Schedule α} {now : Instant} {delay : Option Duration} {work : α} {n : Nat}

theorem holds_planIf_of_lt (lower : n < s.issued) :
    (s.planIf now delay work).1.holds n = s.holds n := by
  cases delay with
  | none => rfl
  | some d => exact Numbered.holds_add_of_lt lower

theorem holds_planIf (handed : (s.planIf now delay work).2.map Timer.task = some n) :
    n = s.issued ∧ (s.planIf now delay work).1.holds n = true := by
  cases delay with
  | none => cases handed
  | some d =>
      cases handed
      exact ⟨rfl, Numbered.holds_iff.mpr ⟨_, Numbered.mem_add.mpr (Or.inr ⟨rfl, rfl⟩)⟩⟩

end Schedule

namespace Container

variable {c c' : Container} {now set : Instant} {e e' : Event} {config : LeaseConfig}
  {h : History Event} {i j k n : Nat} {id : String} {entry : Entry} {l : LeaseInstance}
  {lease : Lease} {managed : Bool} {delay : Option Duration} {v : Duration} {t : Timer LeaseTask}

/-! ## When a lease is due -/

/-- How long the lease that an event brings waits at least. -/
def Event.pause (e : Event) : Duration :=
  if e.cycle?.isSome then pauseBetweenCycles else .zero

/-- When the cycle of a lease is due that an event has brought at an instant: not before the pause
is over, and not before the window of its validity opens. -/
def cycleDue (w : RenewalWindow) (set : Instant) (pause : Duration) (l : Lease) (v : Duration) :
    Instant :=
  max ⟨set.nanos + pause.nanos⟩ ⟨l.issued.nanos + (max (v.minus w.margin) w.interval).nanos⟩

theorem floor_le_renewalDelay {d floor : Duration}
    (due : c.renewalDelay now lease floor = .ok (some d)) : floor ≤ d := by
  unfold renewalDelay at due
  cases planned : c.config.window.delay lease.issued lease.validity now with
  | error beyond =>
      rw [planned] at due
      cases due
  | ok left =>
      rw [planned] at due
      obtain ⟨time, _, rfl⟩ := Option.map_eq_some_iff.mp (Except.ok.inj due)
      rw [Duration.le_iff, Duration.nanos_max]
      exact Nat.le_max_right _ _

theorem renewalDelay_due {d floor : Duration}
    (due : c.renewalDelay now lease floor = .ok (some d)) (finite : lease.validity = .finite v) :
    now.nanos + d.nanos = (cycleDue c.config.window now floor lease v).nanos := by
  unfold renewalDelay at due
  cases planned : c.config.window.delay lease.issued lease.validity now with
  | error beyond =>
      rw [planned] at due
      cases due
  | ok left =>
      rw [planned] at due
      obtain ⟨time, rfl, rfl⟩ := Option.map_eq_some_iff.mp (Except.ok.inj due)
      obtain ⟨ends, found, rfl⟩ := RenewalWindow.due_of_delay planned
      rw [finite] at found
      rw [RenewalWindow.delay_due, Instant.nanos_max, (RenewalWindow.due_finite found).1]
      exact (Instant.nanos_max _ _).symm

theorem TakesIn.pause_le {d : Duration} (takes : TakesIn c now e lease managed (some d)) :
    e.pause ≤ d := by
  unfold Event.pause
  cases takes with
  | fresh _ _ brought unasked due =>
      rw [unasked]
      exact Nat.zero_le _
  | replacing n start _ _ answers found brought due =>
      rw [answers]
      exact floor_le_renewalDelay due

theorem TakesIn.due (takes : TakesIn c now e lease managed delay) (manages : managed = true)
    (finite : lease.validity = .finite v) : ∃ d, delay = some d ∧
      now.nanos + d.nanos = (cycleDue c.config.window now e.pause lease v).nanos := by
  have waits {floor : Duration} (due : c.renewalDelay now lease floor = .ok delay)
      (same : e.pause = floor) : ∃ d, delay = some d ∧
        now.nanos + d.nanos = (cycleDue c.config.window now e.pause lease v).nanos := by
    cases delay with
    | none => cases finite.symm.trans ((renewalDelay_eq_none_iff due).mp rfl)
    | some d =>
        rw [same]
        exact ⟨d, rfl, renewalDelay_due due finite⟩
  cases takes with
  | fresh _ _ brought unasked due =>
      unfold firstDelay at due
      rw [if_pos manages] at due
      exact waits due (by simp [Event.pause, unasked])
  | replacing n start _ _ answers found brought due =>
      exact waits due (by simp [Event.pause, answers])

/-! ## The world outside -/

def SetsAt (c : Container) (h : History Event) (i : Nat) (set : Instant) (t : Timer LeaseTask) :
    Prop :=
  ∃ e, h[i]? = some (set, e) ∧ ((c.found h i).step set e).timer = some t

/-- Timers are punctual: what rings has been set, and rings at the first whole millisecond from when
it is due, and no time passes beyond that while the task of a timer is still live. -/
structure Punctual (c : Container) (h : History Event) : Prop where
  rings : ∀ i now t, h[i]? = some (now, .ring t) →
    ∃ j < i, ∃ set, c.SetsAt h j set t ∧ now = ringAt set t.delay
  prompt : ∀ i now e j set t, h[i]? = some (now, e) → j < i → c.SetsAt h j set t →
    (c.found h i).timers.holds t.task = true → now ≤ ringAt set t.delay

theorem SetsAt.sets (sets : c.SetsAt h i set t) : c.Sets h i t := by
  obtain ⟨e, here, timer⟩ := sets
  exact ⟨set, e, here, timer⟩

/-- An entry comes into the registry by the event at a place. -/
def Installs (c : Container) (h : History Event) (j : Nat) (id : String) (entry : Entry) : Prop :=
  (c.found h j).entries.get? id ≠ some entry ∧ (c.found h (j + 1)).entries.get? id = some entry

theorem Installs.takes (installs : Installs c h j id entry) (here : h[j]? = some (set, e)) :
    ∃ delay, Takes (c.found h j) set e entry.lease.lease entry.managed delay ∧
      entry = ((c.found h j).prepare set entry.lease.lease entry.managed delay).entry := by
  obtain ⟨absent, bound⟩ := installs
  rw [found_succ here] at bound
  rcases step_takes (c.found h j) set e with rests | ⟨l, managed, delay, takes⟩
  · exact absurd (rests.entries id entry bound) absent
  · rcases takes.entries id entry bound with before | rfl
    · exact absurd before absent
    · exact ⟨delay, takes, rfl⟩

theorem config_found (config : LeaseConfig) (h : History Event) (k : Nat) :
    ((new config).found h k).config = config := by
  refine History.invariant_after (I := fun c : Container => c.config = config) ?_ _ rfl
  exact fun c now e held => (step_effect c now e).settings.trans held

theorem Takes.sets {d : Duration} (here : h[j]? = some (set, e))
    (takes : Takes (c.found h j) set e entry.lease.lease entry.managed (some d))
    (made : entry = ((c.found h j).prepare set entry.lease.lease entry.managed (some d)).entry) :
    ∃ t, c.SetsAt h j set t ∧ t.delay = d ∧ t.work = entry.job ∧ entry.task = some t.task := by
  refine ⟨_, ⟨e, here, takes.timer⟩, rfl, ?_, congrArg Entry.task made⟩
  change LeaseTask.of entry.managed _ = LeaseTask.of entry.managed entry.lease
  exact congrArg (LeaseTask.of entry.managed) (congrArg Entry.lease made).symm

theorem Installs.timer (installs : Installs (new config) h j id entry)
    (here : h[j]? = some (set, e)) (manages : entry.managed = true)
    (finite : entry.lease.lease.validity = .finite v) :
    ∃ t, (new config).SetsAt h j set t ∧ t.work = .renewal entry.lease ∧
      entry.task = some t.task ∧ set.nanos + t.delay.nanos =
        (cycleDue config.window set e.pause entry.lease.lease v).nanos := by
  obtain ⟨delay, takes, made⟩ := installs.takes here
  obtain ⟨d, rfl, due⟩ := takes.takes.due manages finite
  obtain ⟨t, sets, rfl, job, handed⟩ := takes.sets here made
  rw [config_found] at due
  rw [Entry.job, manages] at job
  exact ⟨t, sets, job, handed, due⟩

theorem Installs.serial (installs : Installs c h j id entry) (here : h[j]? = some (set, e)) :
    entry.lease.serial = (c.found h j).serials ∧
      (c.found h (j + 1)).serials = entry.lease.serial + 1 := by
  obtain ⟨delay, takes, made⟩ := installs.takes here
  have serial : entry.lease.serial = (c.found h j).serials :=
    congrArg (LeaseInstance.serial ∘ Entry.lease) made
  refine ⟨serial, ?_⟩
  rw [serial, found_succ here]
  exact takes.counted

/-! ## Cycles begin on time -/

theorem Installs.place (installs : Installs (new config) h j id entry)
    (here : h[j]? = some (set, e)) {late : Instant} (sets : (new config).SetsAt h k late t)
    (same : t.work.lease.serial = entry.lease.serial) : k = j ∧ late = set := by
  obtain ⟨e', there, timer⟩ := sets
  obtain ⟨l, managed, d, takes, rfl⟩ := timer_takes timer
  obtain ⟨delay, brings, _⟩ := installs.takes here
  rw [LeaseTask.lease_of] at same
  obtain rfl := takes.place there here brings (same.trans (installs.serial here).1)
  cases here.symm.trans there
  exact ⟨rfl, rfl⟩

theorem Installs.begins_at (installs : Installs (new config) h j id entry)
    (here : h[j]? = some (set, e)) (punctual : Punctual (new config) h)
    (begins : Begins (new config) h i n entry.lease) (there : h[i]? = some (now, e')) :
    ∃ t, (new config).SetsAt h j set t ∧ t.work = .renewal entry.lease ∧
      now = ringAt set t.delay := by
  obtain ⟨_, t, rung, work, _⟩ := begins
  cases there.symm.trans rung
  obtain ⟨k, _, late, sets, instant⟩ := punctual.rings i now t rung
  obtain ⟨rfl, rfl⟩ :=
    installs.place here sets (congrArg (LeaseInstance.serial ∘ LeaseTask.lease) work)
  exact ⟨t, sets, work, instant⟩

theorem SetsAt.unique {other : Timer LeaseTask} (first : c.SetsAt h j set t)
    (second : c.SetsAt h j set other) : t = other := by
  obtain ⟨e, here, timer⟩ := first
  obtain ⟨_, there, twin⟩ := second
  cases here.symm.trans there
  exact Option.some.inj (timer.symm.trans twin)

theorem Installs.begins_on_time (installs : Installs (new config) h j id entry)
    (here : h[j]? = some (set, e)) (punctual : Punctual (new config) h)
    (manages : entry.managed = true) (finite : entry.lease.lease.validity = .finite v)
    (fits : (cycleDue config.window set e.pause entry.lease.lease v).nanos < Instant.limit)
    (begins : Begins (new config) h i n entry.lease) (there : h[i]? = some (now, e')) :
    cycleDue config.window set e.pause entry.lease.lease v ≤ now ∧
      now.nanos < (cycleDue config.window set e.pause entry.lease.lease v).nanos + 1000000 := by
  obtain ⟨t, sets, _, _, due⟩ := installs.timer here manages finite
  obtain ⟨other, twin, _, rfl⟩ := installs.begins_at here punctual begins there
  obtain rfl := sets.unique twin
  apply ringAt_bounds
  apply Instant.plus_eq_ok_iff.mpr
  rw [due]
  exact ⟨fits, rfl⟩

theorem Installs.begins_after_pause (installs : Installs (new config) h j id entry)
    (here : h[j]? = some (set, e)) (punctual : Punctual (new config) h) {m : Nat}
    (answers : e.cycle? = some m) (begins : Begins (new config) h i n entry.lease)
    (there : h[i]? = some (now, e')) : set.nanos + pauseBetweenCycles.nanos ≤ now.nanos := by
  obtain ⟨t, ⟨_, same, timer⟩, _, rfl⟩ := installs.begins_at here punctual begins there
  cases here.symm.trans same
  obtain ⟨lease, managed, d, takes, rfl⟩ := timer_takes timer
  have pauses := takes.takes.pause_le
  unfold Event.pause at pauses
  rw [answers] at pauses
  exact le_ringAt _ pauses (by decide)

/-! ## Cycles begin at all -/

theorem Numbering.handle_ne (numbering : Numbering c) (bound : c.entries.get? id = some entry)
    (handed : entry.task = some n) {other : String} (elsewhere : id ≠ other) :
    c.handle other ≠ some n := by
  intro held
  obtain ⟨twin, found, shared⟩ := Option.bind_eq_some_iff.mp held
  exact elsewhere (numbering.apart id entry other twin n bound found handed shared)

theorem Numbering.handle_ne_issued (numbering : Numbering c) (other : String) :
    c.handle other ≠ some c.timers.issued := by
  intro held
  exact Nat.lt_irrefl _ (numbering.handle_lt other _ held)

theorem handle_erase_ne {old own : String} (other : c.handle own ≠ some n) :
    ((c.entries.erase old).get? own).bind Entry.task ≠ some n := by
  intro held
  obtain ⟨twin, found, shared⟩ := Option.bind_eq_some_iff.mp held
  exact other (Option.bind_eq_some_iff.mpr ⟨twin, kept_erase old c.entries own twin found, shared⟩)

/-- The task of an entry stays live as long as the entry is there, until its timer rings. -/
theorem Effect.live (effect : Effect c now e c') (numbering : Numbering c)
    (bound : c'.entries.get? id = some entry) (handed : entry.task = some n)
    (unrung : ∀ t, e = .ring t → n ≠ t.task)
    (before : c.entries.get? id = some entry → c.timers.holds n = true) :
    c'.timers.holds n = true := by
  have spared {other : String} (erased : (c.entries.erase other).get? id = some entry)
      {tasks : Schedule LeaseTask} (live : tasks.holds n = c.timers.holds n) :
      (tasks.cancel (c.handle other)).holds n = true := by
    obtain ⟨elsewhere, held⟩ := Dictionary.get?_erase_eq_some erased
    rw [Numbered.holds_cancel_of_ne (numbering.handle_ne held handed elsewhere), live, before held]
  have bound_live {now : Instant} {delay : Option Duration} {own : String} {new : Entry}
      {work : LeaseTask}
      (made : new.task = (c.timers.planIf now delay work).2.map Timer.task)
      (bound : (c.entries.put own new).get? id = some entry) :
      ((c.timers.planIf now delay work).1.cancel (c.handle own)).holds n = true := by
    rcases Dictionary.get?_put_eq_some bound with ⟨_, rfl⟩ | ⟨elsewhere, held⟩
    · obtain ⟨rfl, live⟩ := Schedule.holds_planIf (made.symm.trans handed)
      rw [Numbered.holds_cancel_of_ne (numbering.handle_ne_issued own), live]
    · rw [Numbered.holds_cancel_of_ne (numbering.handle_ne held handed elsewhere),
        Schedule.holds_planIf_of_lt (numbering.task_lt id entry n held handed), before held]
  cases effect with
  | nothing | turned _ _ _ | broken _ _ _ | ended _ _ _ => exact before bound
  | refused _ l delay =>
      rw [Numbered.holds, Numbered.find?, live_discarded]
      exact before bound
  | discarded _ m d l delay =>
      rw [Numbered.holds, Numbered.find?, live_discarded (c.endCycle m)]
      exact before bound
  | registered _ l delay => exact bound_live rfl bound
  | removed _ other reason old => exact spared bound rfl
  | shutdown => cases bound
  | missed t => exact (Numbered.holds_remove_of_ne (unrung t rfl)).trans (before bound)
  | began t l => exact (Numbered.holds_remove_of_ne (unrung t rfl)).trans (before bound)
  | expired t l old => exact spared bound (Numbered.holds_remove_of_ne (unrung t rfl))
  | lapsed m reply d old => exact spared bound rfl
  | renewed m d l delay => exact bound_live rfl bound
  | rotated m d data l delay =>
      change (((c.timers.planIf now delay _).1.cancel (c.handle d.lease.lease.id)).cancel
        (((c.entries.erase d.lease.lease.id).get? l.id).bind Entry.task)).holds n = true
      rcases Dictionary.get?_put_eq_some bound with ⟨_, rfl⟩ | ⟨other, erased⟩
      · obtain ⟨number, live⟩ := Schedule.holds_planIf handed
        have number : n = c.timers.issued := number
        subst number
        rw [Numbered.holds_cancel_of_ne (handle_erase_ne (numbering.handle_ne_issued l.id)),
          Numbered.holds_cancel_of_ne (numbering.handle_ne_issued _)]
        exact live
      · have elsewhere : id ≠ l.id := other
        have held : c.entries.get? id = some entry := (Dictionary.get?_erase_eq_some erased).2
        have older := numbering.task_lt id entry n held handed
        rw [Numbered.holds_cancel_of_ne
          (handle_erase_ne (numbering.handle_ne held handed elsewhere))]
        exact spared erased (Schedule.holds_planIf_of_lt older)

theorem planned_le_found (c : Container) (h : History Event) (le : i ≤ k) :
    (c.found h i).timers.issued ≤ (c.found h k).timers.issued := by
  refine History.invariant_later
    (I := fun c' : Container => (c.found h i).timers.issued ≤ c'.timers.issued)
    (fun c' now e held => ?_) le (Nat.le_refl _)
  exact Nat.le_trans held (step_effect c' now e).issued_le

theorem SetsAt.number (sets : c.SetsAt h j set t) :
    t.task = (c.found h j).timers.issued ∧ (c.found h (j + 1)).timers.issued = t.task + 1 := by
  obtain ⟨e, here, timer⟩ := sets
  obtain ⟨l, managed, d, takes, rfl⟩ := timer_takes timer
  refine ⟨rfl, ?_⟩
  rw [found_succ here, takes.planned]
  rfl

theorem SetsAt.of_task {late : Instant} {u : Timer LeaseTask} (first : c.SetsAt h j set t)
    (second : c.SetsAt h k late u) (same : t.task = u.task) : set = late ∧ t = u := by
  have number := first.number
  have other := second.number
  have place : j = k := by
    rcases Nat.lt_trichotomy j k with before | equal | after
    · have later := planned_le_found c h (show j + 1 ≤ k from before)
      omega
    · exact equal
    · have later := planned_le_found c h (show k + 1 ≤ j from after)
      omega
  subst place
  obtain ⟨e, here, timer⟩ := first
  obtain ⟨_, there, twin⟩ := second
  cases here.symm.trans there
  exact ⟨rfl, Option.some.inj (timer.symm.trans twin)⟩

/-- A task that is not live any more does not come back: its number is not handed out again. -/
theorem Effect.spent (effect : Effect c now e c') (older : n < c.timers.issued)
    (spent : c.timers.holds n = false) : c'.timers.holds n = false := by
  apply Bool.eq_false_iff.mpr
  intro held
  obtain ⟨u, live⟩ := Numbered.holds_iff.mp held
  rcases effect.task_origin live with before | ⟨number, _⟩
  · cases spent.symm.trans (Numbered.holds_iff.mpr ⟨u, before⟩)
  · omega

theorem SetsAt.spent (sets : c.SetsAt h j set t) (after : j < i) (before : i < k)
    (rung : h[i]? = some (now, .ring t)) : (c.found h k).timers.holds t.task = false := by
  have older : t.task < (c.found h (i + 1)).timers.issued := by
    have number := sets.number.2
    have later := planned_le_found c h (show j + 1 ≤ i + 1 by omega)
    omega
  have gone : (c.found h (i + 1)).timers.holds t.task = false := by
    rw [found_succ rung]
    apply Bool.eq_false_iff.mpr
    intro held
    obtain ⟨u, live⟩ := Numbered.holds_iff.mp held
    exact ring_spends live rfl
  refine (History.invariant_later
    (I := fun c : Container => t.task < c.timers.issued ∧ c.timers.holds t.task = false)
    (fun c now e held => ?_) (show i + 1 ≤ k from before) ⟨older, gone⟩).2
  have effect := step_effect c now e
  exact ⟨Nat.lt_of_lt_of_le held.1 effect.issued_le, effect.spent held.1 held.2⟩

theorem SetsAt.prompt (sets : c.SetsAt h j set t) (ordered : h.InOrder) (after : j < i)
    (rung : h[i]? = some (ringAt set t.delay, .ring t)) (there : h[k]? = some (now, e))
    (live : (c.found h k).timers.holds t.task = true) : now ≤ ringAt set t.delay := by
  rcases Nat.lt_or_ge i k with passed | before
  · cases (sets.spent after passed rung).symm.trans live
  · exact ordered.le before there rung

theorem Installs.after (installs : Installs (new config) h j id entry)
    (here : h[j]? = some (set, e))
    (bound : ((new config).found h k).entries.get? id = some entry) : j < k := by
  apply Nat.lt_of_not_le
  intro before
  have younger := (numbering_found config h k).serial_lt id entry bound
  have later := serials_le_found (new config) h before
  have serial := (installs.serial here).1
  omega

theorem Installs.meanwhile (installs : Installs (new config) h j id entry)
    (here : h[j]? = some (set, e)) (within : k ≤ h.length)
    (bound : ((new config).found h k).entries.get? id = some entry) (after : j < i)
    (le : i ≤ k) : ((new config).found h i).entries.get? id = some entry := by
  refine bound_before le within ?_ bound
  have later := serials_le_found (new config) h (show j + 1 ≤ i from after)
  have serial := (installs.serial here).2
  omega

theorem current_of_own (own : entry.lease.lease.id = id)
    (bound : ((new config).found h k).entries.get? id = some entry) :
    ((new config).found h k).current entry.lease = true := by
  refine current_iff.mpr ⟨?_, entry, by rwa [own], rfl⟩
  apply Bool.eq_false_iff.mpr
  intro closed
  rw [emptied_found config h k closed] at bound
  cases bound

theorem Installs.rung_by (installs : Installs (new config) h j id entry)
    (here : h[j]? = some (set, e)) (punctual : Punctual (new config) h)
    (sets : (new config).SetsAt h j set t) (handed : entry.task = some t.task)
    (there : h[k]? = some (now, e')) (late : ringAt set t.delay < now)
    (still : ((new config).found h k).entries.get? id = some entry) :
    ∃ i instant, j < i ∧ i < k ∧ h[i]? = some (instant, .ring t) := by
  have after := installs.after here still
  have within := Nat.le_of_lt (History.lt_length_of_place there)
  have bound (q : Nat) (since : j < q) (until_ : q ≤ k) :=
    installs.meanwhile here within still since until_
  have live_or_rung : ((new config).found h k).timers.holds t.task = true ∨
      ∃ i instant, j < i ∧ i < k ∧ h[i]? = some (instant, .ring t) := by
    refine History.holds_between
      (P := fun q => ((new config).found h q).timers.holds t.task = true ∨
        ∃ i instant, j < i ∧ i < q ∧ h[i]? = some (instant, .ring t)) after within ?_ ?_
    · apply Or.inl
      have placed := bound (j + 1) (Nat.lt_succ_self j) after
      rw [found_succ here] at placed ⊢
      refine (step_effect _ set e).live (numbering_found config h j) placed handed ?_ ?_
      · rintro u rfl
        obtain ⟨_, takes, _⟩ := installs.takes here
        cases takes.takes.brought
      · exact fun before => absurd before installs.1
    · rintro p instant event since last at_ (live | ⟨i, past, first, second, rang⟩)
      · by_cases rings : ∃ u, event = .ring u ∧ t.task = u.task
        · obtain ⟨u, rfl, same⟩ := rings
          obtain ⟨_, _, then_, twin, _⟩ := punctual.rings p instant u at_
          obtain ⟨_, rfl⟩ := sets.of_task twin same
          exact Or.inr ⟨p, instant, since, Nat.lt_succ_self p, at_⟩
        · apply Or.inl
          have placed := bound (p + 1) (Nat.lt_succ_of_lt since) last
          rw [found_succ at_] at placed ⊢
          refine (step_effect _ instant event).live (numbering_found config h p) placed handed ?_ ?_
          · intro u ring same
            exact rings ⟨u, ring, same⟩
          · exact fun _ => live
      · exact Or.inr ⟨i, past, first, Nat.lt_succ_of_lt second, rang⟩
  rcases live_or_rung with live | rung
  · have early := punctual.prompt k now e' j set t there after sets live
    exact absurd (Nat.lt_of_lt_of_le late early) (Nat.lt_irrefl _)
  · exact rung

/-- A lease that is still there after its timer should have rung has had its cycle. -/
theorem Installs.begins_by (installs : Installs (new config) h j id entry)
    (here : h[j]? = some (set, e)) (punctual : Punctual (new config) h)
    (own : entry.lease.lease.id = id) (sets : (new config).SetsAt h j set t)
    (work : t.work = .renewal entry.lease) (handed : entry.task = some t.task)
    (there : h[k]? = some (now, e')) (late : ringAt set t.delay < now)
    (still : ((new config).found h k).entries.get? id = some entry) :
    ∃ i n, j < i ∧ i < k ∧ Begins (new config) h i n entry.lease := by
  obtain ⟨i, instant, since, before, rung⟩ :=
    installs.rung_by here punctual sets handed there late still
  have within := Nat.le_of_lt (History.lt_length_of_place there)
  have bound := installs.meanwhile here within still since (Nat.le_of_lt before)
  exact ⟨i, _, since, before, instant, t, rung, work,
    ring_result work (current_of_own own bound)⟩

/-- No cycle begins for a lease under an identifier that is not its own. -/
theorem Installs.kept (installs : Installs (new config) h j id entry)
    (here : h[j]? = some (set, e)) (punctual : Punctual (new config) h)
    (other : entry.lease.lease.id ≠ id) : ¬ Begins (new config) h i n entry.lease := by
  intro begins
  have ⟨now, ring, rung, work, _⟩ := begins
  obtain ⟨k, before, late, sets, _⟩ := punctual.rings i now ring rung
  obtain ⟨rfl, rfl⟩ :=
    installs.place here sets (congrArg (LeaseInstance.serial ∘ LeaseTask.lease) work)
  have place := History.lt_length_of_place rung
  obtain ⟨_, twin, bound, same⟩ := current_iff.mp begins.current
  have serial := (installs.serial here).2
  have since : ((new config).found h (k + 1)).entries.get? entry.lease.lease.id = some twin := by
    refine bound_before (show k + 1 ≤ i from before) (Nat.le_of_lt place) ?_ bound
    omega
  exact other ((numbering_found config h (k + 1)).serial_once _ twin _ entry since installs.2 same)

theorem Installs.own (installs : Installs c h j id entry) (here : h[j]? = some (set, e))
    (keeps : (c.found h j).KeepsIdentifier e) : entry.lease.lease.id = id := by
  obtain ⟨absent, bound⟩ := installs
  rw [found_succ here] at bound
  have effect := step_effect (c.found h j) set e
  generalize (c.found h j).next set e = after at bound effect
  generalize c.found h j = before at absent keeps effect
  have kept {other : String} (erased : (before.entries.erase other).get? id = some entry) :
      ∀ {P : Prop}, P := absurd (kept_erase other _ id entry erased) absent
  cases effect with
  | nothing | refused _ _ _ | missed _ | began _ _ | turned _ _ _ | broken _ _ _ | ended _ _ _
  | discarded _ _ _ _ _ => exact absurd bound absent
  | shutdown => cases bound
  | removed _ other reason old => exact kept bound
  | expired t l old => exact kept bound
  | lapsed m reply d old => exact kept bound
  | registered _ l delay =>
      rcases Dictionary.get?_put_eq_some bound with ⟨rfl, rfl⟩ | ⟨_, held⟩
      · rfl
      · exact absurd held absent
  | renewed m d l delay found =>
      rcases Dictionary.get?_put_eq_some bound with ⟨rfl, rfl⟩ | ⟨_, held⟩
      · exact keeps d found
      · exact absurd held absent
  | rotated m d data l delay =>
      rcases Dictionary.get?_put_eq_some bound with ⟨rfl, rfl⟩ | ⟨_, erased⟩
      · rfl
      · exact kept erased

/-- Over punctual timers every cycle of a managed lease with an end begins when the lease is due,
within a millisecond; and it does begin, unless the lease has left before, if the renewal by which
it came, if it came by one, has kept the identifier.  Under an identifier that is not its own no
cycle begins for a lease at all.  What a cycle has brought has no cycle for a second. -/
theorem begins_when_due (config : LeaseConfig) (h : History Event)
    (punctual : Punctual (new config) h) (j : Nat) (set : Instant) (e : Event)
    (here : h[j]? = some (set, e)) (id : String) (entry : Entry)
    (installs : Installs (new config) h j id entry) :
    (∀ v, entry.managed = true → entry.lease.lease.validity = .finite v →
      (cycleDue config.window set e.pause entry.lease.lease v).nanos < Instant.limit →
      (∀ i n now e', h[i]? = some (now, e') → Begins (new config) h i n entry.lease →
        cycleDue config.window set e.pause entry.lease.lease v ≤ now ∧
        now.nanos < (cycleDue config.window set e.pause entry.lease.lease v).nanos + 1000000) ∧
      (((new config).found h j).KeepsIdentifier e → ∀ k now e', h[k]? = some (now, e') →
        (cycleDue config.window set e.pause entry.lease.lease v).nanos + 1000000 ≤ now.nanos →
        ((new config).found h k).entries.get? id = some entry →
        ∃ i n, j < i ∧ i < k ∧ Begins (new config) h i n entry.lease)) ∧
    (entry.lease.lease.id ≠ id → ∀ i n, ¬ Begins (new config) h i n entry.lease) ∧
    ∀ m, e.cycle? = some m → ∀ i n now e', h[i]? = some (now, e') →
      Begins (new config) h i n entry.lease →
      set.nanos + pauseBetweenCycles.nanos ≤ now.nanos := by
  refine ⟨?_, fun other i n => installs.kept here punctual other, ?_⟩
  · intro v manages finite fits
    refine ⟨?_, ?_⟩
    · intro i n now e' there begins
      exact installs.begins_on_time here punctual manages finite fits begins there
    · intro keeps k now e' there passed still
      obtain ⟨t, sets, work, handed, due⟩ := installs.timer here manages finite
      have sum : set.plus t.delay =
          .ok (cycleDue config.window set e.pause entry.lease.lease v) := by
        apply Instant.plus_eq_ok_iff.mpr
        rw [due]
        exact ⟨fits, rfl⟩
      refine installs.begins_by here punctual (installs.own here keeps) sets work handed there ?_
        still
      rw [Instant.lt_iff]
      have rings := (ringAt_bounds sum).2
      omega
  · intro m answers i n now e' there begins
    exact installs.begins_after_pause here punctual answers begins there

/-! ## A lease that is renewed once -/

/-- A lease that a renewal has brought, under an identifier, and that nobody looks after any
more. -/
def renewedAs (id : String) : History Event :=
  [(⟨0⟩, .register (twoMinutes "a" 0)),
    (⟨60000000000⟩, .ring ⟨0, .ofSecs 60, .renewal ⟨0, twoMinutes "a" 0⟩⟩),
    (⟨60000000000⟩, .renewalReply 0 (.ok (twoMinutes id 60000000000))),
    (⟨120000000000⟩, .ring ⟨1, .ofSecs 60, .renewal ⟨1, twoMinutes id 60000000000⟩⟩),
    (⟨180000000000⟩, .openCall)]

theorem renewedAs_sets (one : id = "a" ∨ id = "b") :
    (new {}).SetsAt (renewedAs id) 0 ⟨0⟩ ⟨0, .ofSecs 60, .renewal ⟨0, twoMinutes "a" 0⟩⟩ ∧
      (new {}).SetsAt (renewedAs id) 2 ⟨60000000000⟩
        ⟨1, .ofSecs 60, .renewal ⟨1, twoMinutes id 60000000000⟩⟩ := by
  rcases one with rfl | rfl
  · exact ⟨⟨_, rfl, rfl⟩, ⟨_, rfl, rfl⟩⟩
  · exact ⟨⟨_, rfl, rfl⟩, ⟨_, rfl, rfl⟩⟩

theorem renewedAs_rests (one : id = "a" ∨ id = "b") :
    (((new {}).found (renewedAs id) 1).step ⟨60000000000⟩
        (.ring ⟨0, .ofSecs 60, .renewal ⟨0, twoMinutes "a" 0⟩⟩)).timer = none ∧
      (((new {}).found (renewedAs id) 3).step ⟨120000000000⟩
        (.ring ⟨1, .ofSecs 60, .renewal ⟨1, twoMinutes id 60000000000⟩⟩)).timer = none := by
  rcases one with rfl | rfl
  · exact ⟨rfl, rfl⟩
  · exact ⟨rfl, rfl⟩

theorem renewedAs_punctual (one : id = "a" ∨ id = "b") : Punctual (new {}) (renewedAs id) := by
  obtain ⟨first, second⟩ := renewedAs_sets one
  have ordered : (renewedAs id).InOrder := by rcases one with rfl | rfl <;> decide
  have minute : ringAt ⟨0⟩ (.ofSecs 60) = ⟨60000000000⟩ := by decide
  have two_minutes : ringAt ⟨60000000000⟩ (.ofSecs 60) = ⟨120000000000⟩ := by decide
  refine ⟨?_, ?_⟩
  · intro i now t here
    obtain _ | _ | _ | _ | _ | i := i
    · cases here
    · cases here
      exact ⟨0, by decide, _, first, minute.symm⟩
    · cases here
    · cases here
      exact ⟨2, by decide, _, second, two_minutes.symm⟩
    · cases here
    · cases here
  · intro i now e j set t here before sets live
    have ⟨event, there, timer⟩ := sets
    obtain _ | _ | _ | _ | _ | j := j
    · cases there
      obtain rfl := first.unique sets
      exact sets.prompt ordered (show 0 < 1 by decide) (by rw [minute]; rfl) here live
    · cases there
      cases (renewedAs_rests one).1.symm.trans timer
    · cases there
      obtain rfl := second.unique sets
      exact sets.prompt ordered (show 2 < 3 by decide) (by rw [two_minutes]; rfl) here live
    · cases there
      cases (renewedAs_rests one).2.symm.trans timer
    · cases there
      cases timer
    · cases there

theorem renewedAs_installs (one : id = "a" ∨ id = "b") :
    Installs (new {}) (renewedAs id) 2 "a"
      ⟨⟨1, twoMinutes id 60000000000⟩, true, some 1⟩ := by
  have before : ((new {}).found (renewedAs id) 2).entries.get? "a" =
      some ⟨⟨0, twoMinutes "a" 0⟩, true, some 0⟩ := by
    rcases one with rfl | rfl
    · rfl
    · rfl
  have after : ((new {}).found (renewedAs id) 3).entries.get? "a" =
      some ⟨⟨1, twoMinutes id 60000000000⟩, true, some 1⟩ := by
    rcases one with rfl | rfl
    · rfl
    · rfl
  refine ⟨fun bound => ?_, after⟩
  cases before.symm.trans bound

theorem begins_when_due_renewedAsA :
    (∃ i n, 2 < i ∧ i < 4 ∧
      Begins (new {}) (renewedAs "a") i n ⟨1, twoMinutes "a" 60000000000⟩) ∧
    ∀ i n now e', (renewedAs "a")[i]? = some (now, e') →
      Begins (new {}) (renewedAs "a") i n ⟨1, twoMinutes "a" 60000000000⟩ →
      120000000000 ≤ now.nanos ∧ now.nanos < 120001000000 := by
  obtain ⟨due, _, _⟩ := begins_when_due {} (renewedAs "a") (renewedAs_punctual (.inl rfl)) 2 _ _ rfl
    "a" _ (renewedAs_installs (.inl rfl))
  obtain ⟨on_time, begins⟩ := due (.ofSecs 120) rfl rfl (by decide)
  refine ⟨begins (fun d found => ?_) 4 _ _ rfl (by decide) rfl, ?_⟩
  · have flying : ((new {}).found (renewedAs "a") 2).cycles.find? 0 =
        some ⟨⟨0, twoMinutes "a" 0⟩, .renewing⟩ := rfl
    cases flying.symm.trans found
    rfl
  · intro i n now e' there began
    exact on_time i n now e' there began

/-- A lease under an identifier that is not its own stays there and is not renewed. -/
theorem not_begun_renewedAsB : ¬ ∀ (config : LeaseConfig) (h : History Event),
    Punctual (new config) h → ∀ (j : Nat) (set : Instant) (e : Event), h[j]? = some (set, e) →
    ∀ (id : String) (entry : Entry), Installs (new config) h j id entry →
    ∀ v, entry.managed = true → entry.lease.lease.validity = .finite v →
      (cycleDue config.window set e.pause entry.lease.lease v).nanos < Instant.limit →
      ∀ k now e', h[k]? = some (now, e') →
        (cycleDue config.window set e.pause entry.lease.lease v).nanos + 1000000 ≤ now.nanos →
        ((new config).found h k).entries.get? id = some entry →
        ∃ i n, j < i ∧ i < k ∧ Begins (new config) h i n entry.lease := by
  intro claim
  have installs := renewedAs_installs (.inr rfl)
  obtain ⟨i, n, _, _, begins⟩ := claim {} (renewedAs "b") (renewedAs_punctual (.inr rfl)) 2 _ _ rfl
    "a" _ installs (.ofSecs 120) rfl rfl (by decide) 4 _ _ rfl (by decide) rfl
  exact installs.kept rfl (renewedAs_punctual (.inr rfl)) (by decide) begins

end Container

end Leasehold

import Leasehold.Proofs.Lease.Extension
import Leasehold.Proofs.Lease.Outcomes
import Leasehold.Proofs.Lease.Punctuality

/-!
# Leases that are only kept

A lease that is registered and not managed is kept until it expires.  No cycle
ever works for it (`Installs.asks_for_others`).  Whatever takes it out of the
registry is its own timer or the application, which gives it up, or another
lease under its identifier (`Effect.departs`, `Installs.leaves`): the timer of a
lease that was there before does not touch it, since a number belongs to one
lease.
-/

set_option autoImplicit false

namespace Leasehold

namespace Container

variable {c c' : Container} {now set : Instant} {e e' : Event} {config : LeaseConfig}
  {h : History Event} {i j k n : Nat} {id : String} {entry : Entry} {l : LeaseInstance}
  {lease : Lease} {managed : Bool} {delay : Option Duration} {v : Duration} {t : Timer LeaseTask}

/-! ## When a lease expires -/

/-- When a lease is removed that nobody looks after: at its end, or when it has come if that is
later. -/
def expiryDue (set : Instant) (l : Lease) (v : Duration) : Instant :=
  max set ⟨l.issued.nanos + v.nanos⟩

theorem expiryDelay_due (due : expiryDelay now lease = .ok delay)
    (finite : lease.validity = .finite v) (fits : now.nanos < Instant.limit) :
    ∃ d, delay = some d ∧ now.plus d = .ok (expiryDue now lease v) := by
  unfold expiryDelay Lease.expiry at due
  rw [finite, Validity.expiry] at due
  cases ends : lease.issued.plus v with
  | error beyond =>
      rw [ends] at due
      cases due
  | ok last =>
      rw [ends] at due
      cases due
      obtain ⟨within, rfl⟩ := Instant.plus_eq_ok_iff.mp ends
      refine ⟨_, rfl, Instant.plus_eq_ok_iff.mpr ?_⟩
      have sum : now.nanos + (Instant.since ⟨lease.issued.nanos + v.nanos⟩ now).nanos =
          (expiryDue now lease v).nanos := by
        simp only [expiryDue, Instant.nanos_max, Instant.nanos_since]
        omega
      rw [sum]
      refine ⟨?_, rfl⟩
      rw [expiryDue, Instant.nanos_max]
      exact Nat.max_lt.mpr ⟨fits, within⟩

theorem TakesIn.expires (takes : TakesIn c now e lease managed delay)
    (unmanaged : managed = false) (finite : lease.validity = .finite v)
    (fits : now.nanos < Instant.limit) :
    ∃ d, delay = some d ∧ now.plus d = .ok (expiryDue now lease v) := by
  cases takes with
  | fresh _ _ brought unasked due =>
      unfold firstDelay at due
      rw [unmanaged, if_neg Bool.false_ne_true] at due
      exact expiryDelay_due due finite fits
  | replacing n start _ _ answers found brought due => cases unmanaged

theorem TakesIn.managed_eq (takes : TakesIn c now e lease managed delay)
    (unasked : e.cycle? = none) : managed = c.config.manages lease.path := by
  cases takes with
  | fresh => rfl
  | replacing n start _ _ answers => cases unasked.symm.trans answers

theorem Installs.job (installs : Installs (new config) h j id entry)
    (here : h[j]? = some (set, e)) {late : Instant} (sets : (new config).SetsAt h k late t)
    (same : t.work.lease.serial = entry.lease.serial) :
    (new config).SetsAt h j set t ∧ t.work = entry.job := by
  obtain ⟨rfl, rfl⟩ := installs.place here sets same
  refine ⟨sets, ?_⟩
  obtain ⟨delay, takes, made⟩ := installs.takes here
  cases delay with
  | none =>
      obtain ⟨e', there, timer⟩ := sets
      cases here.symm.trans there
      cases takes.timer.symm.trans timer
  | some d =>
      obtain ⟨u, other, _, job, _⟩ := takes.sets here made
      rwa [sets.unique other]

theorem Installs.timer_of_unmanaged (installs : Installs (new config) h j id entry)
    (here : h[j]? = some (set, e)) (unmanaged : entry.managed = false)
    (finite : entry.lease.lease.validity = .finite v) (fits : set.nanos < Instant.limit) :
    ∃ t, (new config).SetsAt h j set t ∧ t.work = .expiry entry.lease ∧
      entry.task = some t.task ∧ set.plus t.delay = .ok (expiryDue set entry.lease.lease v) := by
  obtain ⟨delay, takes, made⟩ := installs.takes here
  obtain ⟨d, rfl, due⟩ := takes.takes.expires unmanaged finite fits
  obtain ⟨t, sets, rfl, job, handed⟩ := takes.sets here made
  rw [Entry.job, unmanaged] at job
  exact ⟨t, sets, job, handed, due⟩

/-! ## No cycle -/

section Unmanaged

variable (installs : Installs (new config) h j id entry) (here : h[j]? = some (set, e))
  (punctual : Punctual (new config) h) (unmanaged : entry.managed = false)

include installs here punctual unmanaged

theorem Installs.unbegun (begins : Begins (new config) h i n l) :
    l.serial ≠ entry.lease.serial := by
  intro same
  obtain ⟨now, t, rung, work, _⟩ := begins
  obtain ⟨k, _, late, sets, _⟩ := punctual.rings i now t rung
  obtain ⟨_, job⟩ := installs.job here sets (by rw [work]; exact same)
  rw [work, Entry.job, unmanaged] at job
  cases job

theorem Installs.asks_for_others {call : CycleCall} (asks : Asks (new config) h i n call) :
    ∃ p ≤ i, ∃ l, Begins (new config) h p n l ∧ l.serial ≠ entry.lease.serial := by
  rcases asks.origin with ⟨l, begins, _⟩ | ⟨now, reply, path, rung, result, _⟩
  · exact ⟨i, Nat.le_refl i, l, begins, installs.unbegun here punctual unmanaged begins⟩
  · obtain ⟨d, found, _⟩ := renewalReply_asks result
    have flying := Numbered.find?_eq_some_iff.mp found
    obtain ⟨p, before, begins⟩ :=
      cycle_begun (Nat.le_of_lt (History.lt_length_of_place rung)) flying rfl
    exact ⟨p, Nat.le_of_lt before, d.lease, begins,
      installs.unbegun here punctual unmanaged begins⟩

end Unmanaged

/-! ## How entries leave -/

def Leaves (c : Container) (h : History Event) (i : Nat) (id : String) (entry : Entry) : Prop :=
  (c.found h i).entries.get? id = some entry ∧
    (c.found h (i + 1)).entries.get? id ≠ some entry

/-- An event takes away what stood under an identifier otherwise than by its end: the application
gives the identifier up or shuts the container down, or another lease comes in its place. -/
inductive Ousts (c' : Container) (id : String) : Event → Prop
  | givenUp (e : Event) (reason : RemovalReason) (asked : e.removal? = some (id, reason)) :
      Ousts c' id e
  | shutdown : Ousts c' id .shutdown
  | replaced (e : Event) (other : Entry) (bound : c'.entries.get? id = some other) :
      Ousts c' id e

/-- A lease is removed, and reported as expired. -/
structure Lapses (c c' : Container) (id : String) (l : LeaseInstance) : Prop where
  entries : c'.entries = c.entries.erase id
  feed : c'.feed.sent = c.feed.sent ++ [.removed l .expired]

/-- An entry that leaves is ousted, or a timer for the expiry of its lease rings, or a cycle of its
lease ends. -/
theorem Effect.departs (effect : Effect c now e c') (bound : c.entries.get? id = some entry)
    (left : c'.entries.get? id ≠ some entry) :
    Ousts c' id e ∨
      (∃ t l, e = .ring t ∧ t.work = .expiry l ∧ l.serial = entry.lease.serial ∧
        Lapses c c' id entry.lease) ∨
      ∃ n d, e.cycle? = some n ∧ c.cycles.find? n = some d ∧
        d.lease.serial = entry.lease.serial := by
  have erased {own : String} (left : (c.entries.erase own).get? id ≠ some entry) : id = own := by
    apply Classical.byContradiction
    intro elsewhere
    rw [Dictionary.get?_erase_of_ne elsewhere] at left
    exact left bound
  have own {l : LeaseInstance} (current : c.current l = true) (same : id = l.lease.id) :
      l.serial = entry.lease.serial := by
    obtain ⟨_, owner, found, serial⟩ := current_iff.mp current
    rw [← same, bound] at found
    cases found
    exact serial.symm
  cases effect with
  | nothing | refused _ _ _ | missed _ | began _ _ | turned _ _ _ | broken _ _ _ | ended _ _ _
  | discarded _ _ _ _ _ => exact absurd bound left
  | shutdown => exact Or.inl .shutdown
  | removed _ own reason old asked =>
      obtain rfl := erased left
      exact Or.inl (.givenUp e reason asked)
  | registered _ l delay =>
      by_cases same : id = l.id
      · subst same
        exact Or.inl (.replaced e _ (Dictionary.get?_put_self _ _ _))
      · exact absurd ((Dictionary.get?_put_of_ne same _ _).trans bound) left
  | expired t l old work current found =>
      obtain rfl := erased left
      cases bound.symm.trans found
      exact Or.inr (Or.inl ⟨t, l, rfl, work, own current rfl, rfl, rfl⟩)
  | lapsed n reply d old found without current =>
      exact Or.inr (Or.inr ⟨n, d, rfl, found, own current (erased left)⟩)
  | renewed n d l delay found gain due current =>
      by_cases same : id = d.lease.lease.id
      · exact Or.inr (Or.inr ⟨n, d, rfl, found, own current same⟩)
      · exact absurd ((Dictionary.get?_put_of_ne same _ _).trans bound) left
  | rotated n d data l delay found due current =>
      by_cases same : id = l.id
      · subst same
        exact Or.inl (.replaced _ _ (Dictionary.get?_put_self _ _ _))
      · refine Or.inr (Or.inr ⟨n, d, rfl, found, own current (erased fun still => left ?_)⟩)
        exact (Dictionary.get?_put_of_ne same _ _).trans still

theorem ring_expires (work : t.work = .expiry l) (current : c.current l = true) :
    (c.ring t).container.entries.get? l.lease.id = none := by
  have started : (c.start t.task).current l = true := current
  obtain ⟨entry, _, removed⟩ := removeIfCurrent_of_current l .expired started
  simp only [ring, work, removed]
  exact Dictionary.get?_erase_self _ _

theorem Installs.left_before (installs : Installs c h j id entry) (after : j < k)
    (within : k ≤ h.length) (left : (c.found h k).entries.get? id ≠ some entry) :
    ∃ i, j < i ∧ i < k ∧ Leaves c h i id entry := by
  have kept_or_left : (c.found h k).entries.get? id = some entry ∨
      ∃ i, j < i ∧ i < k ∧ Leaves c h i id entry := by
    refine History.holds_between (P := fun q => (c.found h q).entries.get? id = some entry ∨
      ∃ i, j < i ∧ i < q ∧ Leaves c h i id entry) after within (Or.inl installs.2) ?_
    rintro q now e since _ _ (bound | ⟨i, first, second, leaves⟩)
    · by_cases still : (c.found h (q + 1)).entries.get? id = some entry
      · exact Or.inl still
      · exact Or.inr ⟨q, since, Nat.lt_succ_self q, bound, still⟩
    · exact Or.inr ⟨i, first, Nat.lt_succ_of_lt second, leaves⟩
  exact kept_or_left.resolve_left left

section Unmanaged

variable (installs : Installs (new config) h j id entry) (here : h[j]? = some (set, e))
  (punctual : Punctual (new config) h) (unmanaged : entry.managed = false)

include installs here punctual unmanaged

theorem Installs.leaves (leaves : Leaves (new config) h i id entry)
    (there : h[i]? = some (now, e')) :
    Ousts ((new config).found h (i + 1)) id e' ∨
      ∃ t, e' = .ring t ∧ t.work = .expiry entry.lease ∧ (new config).SetsAt h j set t ∧
        now = ringAt set t.delay ∧
        Lapses ((new config).found h i) ((new config).found h (i + 1)) id entry.lease := by
  obtain ⟨bound, left⟩ := leaves
  rw [found_succ there] at left ⊢
  rcases (step_effect ((new config).found h i) now e').departs bound left with
    ousts | ⟨t, l, rfl, work, same, lapses⟩ | ⟨n, d, answers, found, same⟩
  · exact Or.inl ousts
  · obtain ⟨k, _, late, sets, instant⟩ := punctual.rings i now t there
    have serial : t.work.lease.serial = entry.lease.serial := by rw [work]; exact same
    obtain ⟨rfl, rfl⟩ := installs.place here sets serial
    obtain ⟨_, job⟩ := installs.job here sets serial
    rw [Entry.job, unmanaged] at job
    exact Or.inr ⟨t, rfl, job, sets, instant, lapses⟩
  · obtain ⟨p, _, begins⟩ := cycle_begun (Nat.le_of_lt (History.lt_length_of_place there))
      (Numbered.find?_eq_some_iff.mp found) rfl
    exact absurd same (installs.unbegun here punctual unmanaged begins)

end Unmanaged

/-! ## Kept until the end -/

theorem Installs.gone_by (installs : Installs (new config) h j id entry)
    (here : h[j]? = some (set, e)) (punctual : Punctual (new config) h)
    (own : entry.lease.lease.id = id) (sets : (new config).SetsAt h j set t)
    (work : t.work = .expiry entry.lease) (handed : entry.task = some t.task)
    (there : h[k]? = some (now, e')) (late : ringAt set t.delay < now) :
    ((new config).found h k).entries.get? id ≠ some entry := by
  intro still
  obtain ⟨i, instant, since, before, rung⟩ :=
    installs.rung_by here punctual sets handed there late still
  have within := Nat.le_of_lt (History.lt_length_of_place there)
  have bound := installs.meanwhile here within still since (Nat.le_of_lt before)
  have after := installs.meanwhile here within still (Nat.lt_succ_of_lt since) before
  rw [found_succ rung] at after
  have gone := ring_expires work (current_of_own own bound)
  rw [own] at gone
  cases gone.symm.trans after

/-- A registered lease that is not managed is only kept.  Every call in the background is made for
another lease.  If it has an end it leaves the registry by that at the latest, within a millisecond:
its own timer removes it then and reports it as expired, and nothing removes it before, unless it is
given up, replaced or gone with the whole container.  If it has no end, that is the only way in
which it leaves. -/
theorem kept_until_expiry (config : LeaseConfig) (h : History Event)
    (punctual : Punctual (new config) h) (j : Nat) (set : Instant) (e : Event)
    (here : h[j]? = some (set, e)) (unasked : e.cycle? = none) (id : String) (entry : Entry)
    (installs : Installs (new config) h j id entry)
    (unmanaged : config.manages entry.lease.lease.path = false) :
    (∀ i n call, Asks (new config) h i n call →
      ∃ p ≤ i, ∃ l, Begins (new config) h p n l ∧ l.serial ≠ entry.lease.serial) ∧
    (∀ v, entry.lease.lease.validity = .finite v → set.nanos < Instant.limit →
      (∀ i now e', h[i]? = some (now, e') → Leaves (new config) h i id entry →
        Ousts ((new config).found h (i + 1)) id e' ∨
          (∃ t, e' = .ring t ∧ t.work = .expiry entry.lease) ∧
            Lapses ((new config).found h i) ((new config).found h (i + 1)) id entry.lease ∧
            expiryDue set entry.lease.lease v ≤ now ∧
            now.nanos < (expiryDue set entry.lease.lease v).nanos + 1000000) ∧
      ∀ k now e', j < k → h[k]? = some (now, e') →
        (expiryDue set entry.lease.lease v).nanos + 1000000 ≤ now.nanos →
        ((new config).found h k).entries.get? id ≠ some entry ∧
          ∃ i, j < i ∧ i < k ∧ Leaves (new config) h i id entry) ∧
    (entry.lease.lease.validity = .infinite → ∀ i now e', h[i]? = some (now, e') →
      Leaves (new config) h i id entry → Ousts ((new config).found h (i + 1)) id e') := by
  obtain ⟨_, takes, _⟩ := installs.takes here
  have managed := takes.takes.managed_eq unasked
  rw [config_found, unmanaged] at managed
  refine ⟨fun i n call => installs.asks_for_others here punctual managed, ?_, ?_⟩
  · intro v finite fits
    obtain ⟨t, sets, work, handed, sum⟩ :=
      installs.timer_of_unmanaged here managed finite fits
    have rings := ringAt_bounds sum
    refine ⟨?_, ?_⟩
    · intro i now e' there leaves
      rcases installs.leaves here punctual managed leaves there with
        ousts | ⟨other, rfl, expiry, twin, rfl, lapses⟩
      · exact Or.inl ousts
      · obtain rfl := sets.unique twin
        exact Or.inr ⟨⟨t, rfl, work⟩, lapses, rings⟩
    · intro k now e' after there passed
      have keeps : ((new config).found h j).KeepsIdentifier e := by
        cases e with
        | renewalReply n reply => cases unasked
        | _ => trivial
      have late : ringAt set t.delay < now := by
        rw [Instant.lt_iff]
        omega
      have gone := installs.gone_by here punctual (installs.own here keeps) sets work handed there
        late
      have within := Nat.le_of_lt (History.lt_length_of_place there)
      exact ⟨gone, installs.left_before after within gone⟩
  · intro infinite i now e' there leaves
    rcases installs.leaves here punctual managed leaves there with
      ousts | ⟨t, _, work, sets, _, _⟩
    · exact ousts
    · have finite := sets.sets.finite
      rw [work] at finite
      exact absurd infinite finite

/-! ## A lease that is registered twice -/

/-- A lease that comes again after a minute.  The timer that was set first rings too. -/
def keptTwice : History Event :=
  [(⟨0⟩, .register (twoMinutes "a" 0)),
    (⟨60000000000⟩, .register (twoMinutes "a" 60000000000)),
    (⟨120000000000⟩, .ring ⟨0, .ofSecs 120, .expiry ⟨0, twoMinutes "a" 0⟩⟩),
    (⟨180000000000⟩, .ring ⟨1, .ofSecs 120, .expiry ⟨1, twoMinutes "a" 60000000000⟩⟩),
    (⟨181000000000⟩, .openCall)]

abbrev onlyKept : LeaseConfig := { enabled := false }

theorem keptTwice_sets :
    (new onlyKept).SetsAt keptTwice 0 ⟨0⟩ ⟨0, .ofSecs 120, .expiry ⟨0, twoMinutes "a" 0⟩⟩ ∧
      (new onlyKept).SetsAt keptTwice 1 ⟨60000000000⟩
        ⟨1, .ofSecs 120, .expiry ⟨1, twoMinutes "a" 60000000000⟩⟩ :=
  ⟨⟨_, rfl, rfl⟩, ⟨_, rfl, rfl⟩⟩

theorem keptTwice_punctual : Punctual (new onlyKept) keptTwice := by
  obtain ⟨first, second⟩ := keptTwice_sets
  have ordered : keptTwice.InOrder := by decide
  have two_minutes : ringAt ⟨0⟩ (.ofSecs 120) = ⟨120000000000⟩ := by decide
  have three_minutes : ringAt ⟨60000000000⟩ (.ofSecs 120) = ⟨180000000000⟩ := by decide
  refine ⟨?_, ?_⟩
  · intro i now t here
    obtain _ | _ | _ | _ | _ | i := i
    · cases here
    · cases here
    · cases here
      exact ⟨0, by decide, _, first, two_minutes.symm⟩
    · cases here
      exact ⟨1, by decide, _, second, three_minutes.symm⟩
    · cases here
    · cases here
  · intro i now e j set t here before sets live
    have ⟨event, there, timer⟩ := sets
    obtain _ | _ | _ | _ | _ | j := j
    · cases there
      obtain rfl := first.unique sets
      exact sets.prompt ordered (show 0 < 2 by decide) (by rw [two_minutes]; rfl) here live
    · cases there
      obtain rfl := second.unique sets
      exact sets.prompt ordered (show 1 < 3 by decide) (by rw [three_minutes]; rfl) here live
    · cases there
      cases timer
    · cases there
      cases timer
    · cases there
      cases timer
    · cases there

theorem keptTwice_installs :
    Installs (new onlyKept) keptTwice 1 "a"
      ⟨⟨1, twoMinutes "a" 60000000000⟩, false, some 1⟩ := by
  refine ⟨?_, rfl⟩
  intro bound
  cases bound

/-- The lease that has come again leaves by its own end, three minutes after the first. -/
theorem kept_until_expiry_keptTwice :
    ∃ i, 1 < i ∧ i < 4 ∧
      Leaves (new onlyKept) keptTwice i "a" ⟨⟨1, twoMinutes "a" 60000000000⟩, false, some 1⟩ ∧
      ∀ now e, keptTwice[i]? = some (now, e) →
        Ousts ((new onlyKept).found keptTwice (i + 1)) "a" e ∨ 180000000000 ≤ now.nanos := by
  obtain ⟨_, due, _⟩ := kept_until_expiry onlyKept keptTwice keptTwice_punctual 1 _ _ rfl rfl "a" _
    keptTwice_installs rfl
  obtain ⟨leaves, leaves_by⟩ := due (.ofSecs 120) rfl (by decide)
  obtain ⟨_, i, after, before, place⟩ := leaves_by 4 _ _ (by decide) rfl (by decide)
  refine ⟨i, after, before, place, ?_⟩
  intro now e here
  rcases leaves i now e here place with ousts | ⟨_, _, late, _⟩
  · exact Or.inl ousts
  · exact Or.inr late

end Container

end Leasehold

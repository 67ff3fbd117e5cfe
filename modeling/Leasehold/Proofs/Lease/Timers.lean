import Leasehold.Proofs.Lease.Calls

/-!
# Timers and the leases they are set for

A lease is taken in under a new number, and its timer is set by the same event
(`step_takes`); nothing else sets a timer or brings an entry into the registry.
So a number belongs to one lease (`Issued.unique`), and wherever it turns up, in
the registry, in a timer or in a cycle, it stands for that lease, as long as no
timer rings that has not been set.
-/

set_option autoImplicit false

namespace Leasehold.Container

variable {c c' : Container} {now : Instant} {e : Event} {config : LeaseConfig} {h : History Event}
  {i j k n : Nat} {l m : LeaseInstance} {lease : Lease} {managed : Bool} {delay : Option Duration}

/-! ## The world outside -/

def Sets (c : Container) (h : History Event) (i : Nat) (t : Timer LeaseTask) : Prop :=
  ∃ now e, h[i]? = some (now, e) ∧ ((c.found h i).step now e).timer = some t

/-- No timer rings that has not been set.  It may ring although its task has been cancelled. -/
def RingsAreSet (c : Container) (h : History Event) : Prop :=
  ∀ i now t, h[i]? = some (now, .ring t) → ∃ j < i, c.Sets h j t

theorem Sets.before_or_now {t : Timer LeaseTask} {j : Nat} (sets : c.Sets h j t) (le : j < i + 1)
    (here : h[i]? = some (now, e)) : j < i ∨ ((c.found h i).step now e).timer = some t := by
  rcases Nat.lt_succ_iff_lt_or_eq.mp le with before | rfl
  · exact Or.inl before
  · obtain ⟨_, _, there, timer⟩ := sets
    cases here.symm.trans there
    exact Or.inr timer

/-! ## Taking leases in -/

/-- The lease that an event takes in, whether it is managed, and the delay until its task: a lease
that comes by itself as the settings say, one that a cycle has brought always to be renewed, and not
without a pause. -/
inductive TakesIn (c : Container) (now : Instant) (e : Event) :
    Lease → Bool → Option Duration → Prop
  | fresh (l : Lease) (delay : Option Duration) (brought : e.lease? = some l)
      (unasked : e.cycle? = none) (due : c.firstDelay now l = .ok delay) :
      TakesIn c now e l (c.config.manages l.path) delay
  | replacing (n : Nat) (d : Cycle) (l : Lease) (delay : Option Duration)
      (answers : e.cycle? = some n) (found : c.cycles.find? n = some d)
      (brought : e.lease? = some l)
      (due : c.renewalDelay now l pauseBetweenCycles = .ok delay) : TakesIn c now e l true delay

/-- An event takes a lease in: the timer that it sets is the timer of that lease, and so is the only
entry that is new. -/
structure Takes (c : Container) (now : Instant) (e : Event) (l : Lease) (managed : Bool)
    (delay : Option Duration) : Prop where
  takes : TakesIn c now e l managed delay
  timer : (c.step now e).timer = (c.prepare now l managed delay).timer
  counted : (c.next now e).serials = c.serials + 1
  planned : (c.next now e).timers.issued = (c.prepare now l managed delay).container.timers.issued
  entries : ∀ id entry, (c.next now e).entries.get? id = some entry →
    c.entries.get? id = some entry ∨ entry = (c.prepare now l managed delay).entry

/-- An event takes no lease in. -/
structure Rests (c : Container) (now : Instant) (e : Event) : Prop where
  timer : (c.step now e).timer = none
  entries : ∀ id entry, (c.next now e).entries.get? id = some entry →
    c.entries.get? id = some entry

theorem rests_of_same (timer : (c.step now e).timer = none)
    (entries : (c.next now e).entries = c.entries) : Rests c now e := by
  refine ⟨timer, ?_⟩
  rw [entries]
  exact fun _ _ bound => bound

theorem TakesIn.brought (takes : TakesIn c now e lease managed delay) : e.lease? = some lease := by
  cases takes <;> assumption

theorem kept_put {base : Dictionary Entry} {own : String} {new : Entry}
    (kept : ∀ id entry, base.get? id = some entry → c.entries.get? id = some entry) :
    ∀ id entry, (base.put own new).get? id = some entry →
      c.entries.get? id = some entry ∨ entry = new := by
  intro id entry bound
  rcases Dictionary.get?_put_eq_some bound with ⟨_, rfl⟩ | ⟨_, before⟩
  · exact Or.inr rfl
  · exact Or.inl (kept id entry before)

theorem kept_remove (id : String) (reason : RemovalReason) :
    ∀ other entry, (c.remove id reason).1.entries.get? other = some entry →
      c.entries.get? other = some entry := by
  intro other entry bound
  unfold remove at bound
  split at bound
  · exact bound
  · exact kept_erase id c.entries other entry bound

theorem kept_removeIfCurrent (reason : RemovalReason) :
    ∀ other entry, (c.removeIfCurrent l reason).entries.get? other = some entry →
      c.entries.get? other = some entry := by
  intro other entry bound
  unfold removeIfCurrent at bound
  split at bound
  · exact kept_remove l.lease.id reason other entry bound
  · exact bound

theorem register_takes (e : Event) (brought : e.lease? = some lease) (unasked : e.cycle? = none)
    (timer : (c.step now e).timer = (c.register now lease).timer)
    (container : c.next now e = (c.register now lease).container) :
    Rests c now e ∨ ∃ managed delay, Takes c now e lease managed delay := by
  unfold register at timer container
  cases due : c.firstDelay now lease with
  | error beyond =>
      rw [due] at timer container
      exact Or.inl (rests_of_same timer (congrArg entries container))
  | ok delay =>
      rw [due] at timer container
      refine Or.inr ⟨_, delay, .fresh lease delay brought unasked due, ?_, ?_, ?_, ?_⟩
      · rw [timer]
        dsimp only
        split <;> rfl
      · rw [container]
        dsimp only
        split <;> rfl
      · rw [container]
        dsimp only
        split <;> simp
      · rw [container]
        dsimp only
        split
        · exact fun _ _ bound => Or.inl bound
        · exact kept_put fun _ _ bound => bound

theorem commit_takes {d : Cycle} (commit : Prepared → Container) (answers : e.cycle? = some n)
    (found : c.cycles.find? n = some d) (brought : e.lease? = some lease)
    (broken : ∀ beyond, c.renewalDelay now lease pauseBetweenCycles = .error beyond →
      (c.step now e).timer = none ∧ c.next now e = c.endCycle n)
    (committed : ∀ delay, c.renewalDelay now lease pauseBetweenCycles = .ok delay →
      (c.step now e).timer = (c.prepare now lease true delay).timer ∧
        c.next now e = if c.current d.lease then
          commit ((c.endCycle n).prepare now lease true delay)
          else ((c.endCycle n).prepare now lease true delay).discarded)
    (counted : ∀ p, (commit p).serials = p.container.serials)
    (planned : ∀ p, (commit p).timers.issued = p.container.timers.issued)
    (entered : ∀ delay id entry,
      (commit ((c.endCycle n).prepare now lease true delay)).entries.get? id = some entry →
      c.entries.get? id = some entry ∨ entry = (c.prepare now lease true delay).entry) :
    Rests c now e ∨ ∃ managed delay, Takes c now e lease managed delay := by
  cases due : c.renewalDelay now lease pauseBetweenCycles with
  | error beyond =>
      obtain ⟨timer, container⟩ := broken beyond due
      have same : (c.endCycle n).entries = c.entries := rfl
      exact Or.inl (rests_of_same timer ((congrArg entries container).trans same))
  | ok delay =>
      obtain ⟨timer, container⟩ := committed delay due
      refine Or.inr ⟨true, delay, .replacing n d lease delay answers found brought due, timer, ?_,
        ?_, ?_⟩
      · rw [container]
        split
        · exact counted _
        · rfl
      · rw [container]
        split
        · exact planned _
        · exact Prepared.issued_discarded _
      · rw [container]
        split
        · exact entered delay
        · exact fun _ _ bound => Or.inl bound

theorem commitRenewal_takes {d : Cycle} (found : c.cycles.find? n = some d)
    (gain : exhausted d.lease.lease lease = .ok false) :
    Rests c now (.renewalReply n (.ok lease)) ∨
      ∃ managed delay, Takes c now (.renewalReply n (.ok lease)) lease managed delay := by
  have same : (c.endCycle n).renewalDelay now lease pauseBetweenCycles =
      c.renewalDelay now lease pauseBetweenCycles := rfl
  refine commit_takes (fun p => p.renewed d.lease) rfl found rfl ?_ ?_ (fun _ => rfl) ?_ ?_
  · intro beyond due
    simp [next, step, renewalReply, found, gain, commitRenewal, same, due]
  · intro delay due
    simp only [next, step, renewalReply, found, gain, commitRenewal, same, due]
    exact ⟨rfl, rfl⟩
  · simp
  · exact fun delay => kept_put fun _ _ bound => bound

theorem commitRotation_takes {d : Cycle} {data : Json} (found : c.cycles.find? n = some d) :
    Rests c now (.rotationReply n (.ok ⟨data, some lease⟩)) ∨
      ∃ managed delay,
        Takes c now (.rotationReply n (.ok ⟨data, some lease⟩)) lease managed delay := by
  have same : (c.endCycle n).renewalDelay now lease pauseBetweenCycles =
      c.renewalDelay now lease pauseBetweenCycles := rfl
  refine commit_takes (fun p => p.rotated d.lease) rfl found rfl ?_ ?_ (fun _ => rfl) ?_ ?_
  · intro beyond due
    simp [next, step, rotationReply, found, commitRotation, same, due]
  · intro delay due
    simp only [next, step, rotationReply, found, commitRotation, same, due]
    exact ⟨rfl, rfl⟩
  · simp
  · exact fun delay => kept_put (kept_erase d.lease.lease.id c.entries)

theorem renewalReply_takes (reply : Outcome Lease) :
    Rests c now (.renewalReply n reply) ∨
      ∃ l managed delay, Takes c now (.renewalReply n reply) l managed delay := by
  have rests {x : Container} (r : Except InstantOverflow (Option String))
      (kept : x.entries = c.entries)
      (same : c.renewalReply now n reply = { container := x, result := r }) :
      Rests c now (.renewalReply n reply) :=
    rests_of_same (congrArg Change.timer same)
      ((congrArg (entries ∘ Change.container) same).trans kept)
  have turned : (c.turnToRotation n).entries = c.entries := rfl
  have ended : (c.endCycle n).entries = c.entries := rfl
  cases found : c.cycles.find? n with
  | none => exact Or.inl (rests (.ok none) rfl (by simp only [renewalReply, found]))
  | some d =>
      cases reply with
      | error fault =>
          cases fault with
          | overflow => exact Or.inl (rests (.error {}) ended (by simp only [renewalReply, found]))
          | error error =>
              refine Or.inl (rests (.ok (some d.lease.lease.path)) turned ?_)
              simp only [renewalReply, found]
      | ok l =>
          cases gain : exhausted d.lease.lease l with
          | error beyond =>
              refine Or.inl (rests (.error beyond) ended ?_)
              simp only [renewalReply, found, gain]
          | ok spent =>
              cases spent with
              | true =>
                  refine Or.inl (rests (.ok (some d.lease.lease.path)) turned ?_)
                  simp only [renewalReply, found, gain]
              | false => exact (commitRenewal_takes found gain).imp_right fun some => ⟨l, some⟩

theorem rotationReply_takes (reply : Outcome Secret) :
    Rests c now (.rotationReply n reply) ∨
      ∃ l managed delay, Takes c now (.rotationReply n reply) l managed delay := by
  have rests {x : Container} (r : Except InstantOverflow Unit)
      (kept : ∀ id entry, x.entries.get? id = some entry → c.entries.get? id = some entry)
      (same : c.rotationReply now n reply = { container := x, result := r }) :
      Rests c now (.rotationReply n reply) := by
    have container : c.next now (.rotationReply n reply) = x := congrArg Change.container same
    refine ⟨congrArg Change.timer same, ?_⟩
    rwa [container]
  have ended : ∀ id entry, (c.endCycle n).entries.get? id = some entry →
      c.entries.get? id = some entry := fun _ _ bound => bound
  cases found : c.cycles.find? n with
  | none =>
      refine Or.inl (rests (.ok ()) (fun _ _ bound => bound) ?_)
      simp only [rotationReply, found]
  | some d =>
      have lapsed : ∀ id entry, ((c.endCycle n).removeIfCurrent d.lease .expired).entries.get? id =
          some entry → c.entries.get? id = some entry := kept_removeIfCurrent .expired
      cases reply with
      | error fault =>
          cases fault with
          | overflow => exact Or.inl (rests (.error {}) ended (by simp only [rotationReply, found]))
          | error error =>
              exact Or.inl (rests (.ok ()) lapsed (by simp only [rotationReply, found]))
      | ok secret =>
          obtain ⟨data, lease⟩ := secret
          cases lease with
          | none => exact Or.inl (rests (.ok ()) lapsed (by simp only [rotationReply, found]))
          | some l => exact (commitRotation_takes found).imp_right fun some => ⟨l, some⟩

theorem ring_rests (t : Timer LeaseTask) : Rests c now (.ring t) := by
  constructor
  · change (c.ring t).timer = none
    unfold ring
    split
    · rfl
    · dsimp only
      split <;> rfl
  · intro id entry bound
    change (c.ring t).container.entries.get? id = some entry at bound
    unfold ring at bound
    split at bound
    · exact kept_removeIfCurrent (c := c.start t.task) .expired id entry bound
    · dsimp only at bound
      split at bound <;> exact bound

theorem step_takes (c : Container) (now : Instant) (e : Event) :
    Rests c now e ∨ ∃ l managed delay, Takes c now e l managed delay := by
  match e with
  | .openCall | .readReply (.error fault) | .readReply (.ok ⟨data, none⟩) =>
      exact Or.inl ⟨rfl, fun _ _ bound => bound⟩
  | .shutdown => exact Or.inl ⟨rfl, fun _ _ bound => nomatch bound⟩
  | .readReply (.ok ⟨data, some l⟩) =>
      exact (register_takes _ rfl rfl rfl rfl).imp_right fun some => ⟨l, some⟩
  | .register l => exact (register_takes _ rfl rfl rfl rfl).imp_right fun some => ⟨l, some⟩
  | .drop id =>
      refine Or.inl ⟨?_, ?_⟩
      · change (c.drop id).timer = none
        unfold drop
        split <;> rfl
      · intro other entry bound
        change (c.drop id).container.entries.get? other = some entry at bound
        have removed : (c.drop id).container = (c.remove id .dropped).1 := by
          unfold drop
          split <;> rename_i taken <;> rw [taken]
        rw [removed] at bound
        exact kept_remove id .dropped other entry bound
  | .revokeReply id reply =>
      refine Or.inl ⟨?_, ?_⟩
      · change (c.revokeReply id reply).timer = none
        unfold revokeReply
        split <;> rfl
      · intro other entry bound
        change (c.revokeReply id reply).container.entries.get? other = some entry at bound
        unfold revokeReply at bound
        split at bound
        · exact bound
        · exact kept_remove id .revoked other entry bound
  | .ring t => exact Or.inl (ring_rests t)
  | .renewalReply n reply => exact renewalReply_takes reply
  | .rotationReply n reply => exact rotationReply_takes reply

theorem timer_takes {t : Timer LeaseTask} (set : (c.step now e).timer = some t) :
    ∃ l managed d, Takes c now e l managed (some d) ∧
      t = ⟨c.timers.issued, d, .of managed ⟨c.serials, l⟩⟩ := by
  rcases step_takes c now e with rests | ⟨l, managed, delay, takes⟩
  · cases rests.timer.symm.trans set
  · have timer := takes.timer.symm.trans set
    cases delay with
    | none => cases timer
    | some d =>
        cases timer
        exact ⟨l, managed, d, takes, rfl⟩

/-! ## Numbers and leases -/

/-- A lease has been taken in under its number before a place. -/
def Issued (config : LeaseConfig) (h : History Event) (i : Nat) (l : LeaseInstance) : Prop :=
  ∃ j < i, ∃ now e managed delay, h[j]? = some (now, e) ∧
    Takes ((new config).found h j) now e l.lease managed delay ∧
    l.serial = ((new config).found h j).serials

theorem Issued.later (issued : Issued config h i l) (le : i ≤ k) : Issued config h k l := by
  obtain ⟨j, before, rest⟩ := issued
  exact ⟨j, Nat.lt_of_lt_of_le before le, rest⟩

theorem Takes.serials_lt (takes : Takes ((new config).found h j) now e lease managed delay)
    (here : h[j]? = some (now, e)) (after : j < k) :
    ((new config).found h j).serials < ((new config).found h k).serials := by
  have counted := takes.counted
  rw [← found_succ here] at counted
  have later := serials_le_found (new config) h (show j + 1 ≤ k from after)
  omega

theorem Takes.place {now' : Instant} {e' : Event} {lease' : Lease} {managed' : Bool}
    {delay' : Option Duration} (here : h[j]? = some (now, e)) (there : h[k]? = some (now', e'))
    (takes : Takes ((new config).found h j) now e lease managed delay)
    (twin : Takes ((new config).found h k) now' e' lease' managed' delay')
    (same : ((new config).found h j).serials = ((new config).found h k).serials) : j = k := by
  rcases Nat.lt_trichotomy j k with before | equal | after
  · have lower := takes.serials_lt here before
    omega
  · exact equal
  · have lower := twin.serials_lt there after
    omega

theorem Issued.unique (first : Issued config h i l) (second : Issued config h k m)
    (same : l.serial = m.serial) : l = m := by
  obtain ⟨j, _, now, e, managed, delay, here, takes, serial⟩ := first
  obtain ⟨j', _, now', e', managed', delay', there, takes', serial'⟩ := second
  obtain rfl := takes.place here there takes' (serial.symm.trans (same.trans serial'))
  cases here.symm.trans there
  have lease := takes.takes.brought.symm.trans takes'.takes.brought
  cases l
  cases m
  cases lease
  cases same
  rfl

theorem Sets.issued {t : Timer LeaseTask} (sets : (new config).Sets h j t) :
    Issued config h (j + 1) t.work.lease := by
  obtain ⟨now, e, here, timer⟩ := sets
  obtain ⟨l, managed, d, takes, rfl⟩ := timer_takes timer
  refine ⟨j, Nat.lt_succ_self j, now, e, managed, some d, here, ?_, ?_⟩
  · simpa using takes
  · simp

theorem issued_of_bound (le : i ≤ h.length) (id : String) (entry : Entry)
    (bound : ((new config).found h i).entries.get? id = some entry) :
    Issued config h i entry.lease := by
  refine History.holds_at (P := fun i => ∀ id entry,
    ((new config).found h i).entries.get? id = some entry → Issued config h i entry.lease)
    ?_ ?_ i le id entry bound
  · intro id entry bound
    cases bound
  · intro i now e here issued id entry bound
    rw [found_succ here] at bound
    rcases step_takes ((new config).found h i) now e with rests | ⟨l, managed, delay, takes⟩
    · exact (issued id entry (rests.entries id entry bound)).later (Nat.le_succ i)
    · rcases takes.entries id entry bound with before | rfl
      · exact (issued id entry before).later (Nat.le_succ i)
      · exact ⟨i, Nat.lt_succ_self i, now, e, managed, delay, here, takes, rfl⟩

theorem Begins.issued (begins : Begins (new config) h i n l) (set : (new config).RingsAreSet h) :
    Issued config h i l := by
  obtain ⟨now, t, here, work, _⟩ := begins
  obtain ⟨j, before, sets⟩ := set i now t here
  have issued := sets.issued.later (show j + 1 ≤ i from before)
  rwa [work] at issued

theorem Begins.entry_lease (begins : Begins (new config) h i n l)
    (set : (new config).RingsAreSet h) (le : k ≤ h.length) {id : String} {entry : Entry}
    (bound : ((new config).found h k).entries.get? id = some entry)
    (same : entry.lease.serial = l.serial) : entry.lease = l :=
  (issued_of_bound le id entry bound).unique (begins.issued set) same

theorem bound_before (le : i ≤ k) (within : k ≤ h.length) {id : String} {entry : Entry}
    (older : entry.lease.serial < ((new config).found h i).serials)
    (bound : ((new config).found h k).entries.get? id = some entry) :
    ((new config).found h i).entries.get? id = some entry := by
  refine History.holds_between (P := fun k =>
    ((new config).found h k).entries.get? id = some entry →
      ((new config).found h i).entries.get? id = some entry) le within (fun bound => bound) ?_ bound
  intro p now e since _ here earlier bound
  rw [found_succ here] at bound
  obtain ⟨added, gains⟩ := (step_effect ((new config).found h p) now e).gains
  rcases gains.old id entry bound with before | arrived
  · exact earlier before
  · have serial := (gains.new id entry arrived).serial
    have lower := serials_le_found (new config) h since
    omega

end Leasehold.Container

import Leasehold.Proofs.Lease.Effect

/-!
# The registry under events

What an effect can leave in a container: every entry and every cycle was there
before or has come under a number that had not been given (`Effect.gains`,
`Effect.cycle_origin`).  From that, three facts about
every history.  Numbers are below the next one and given once (`Numbering`), a
container that has been shut down is empty (`Emptied`), and, while the server
keeps the identifiers of renewed leases, every entry stands under the identifier
of its own lease (`Keyed`).
-/

set_option autoImplicit false

namespace Leasehold.Container

variable {c c' : Container} {now : Instant} {e : Event}

def Registers (c : Container) (l : LeaseInstance) : Prop :=
  ∃ id entry, c.entries.get? id = some entry ∧ entry.lease.serial = l.serial

theorem registers_of_current {l : LeaseInstance} (current : c.current l = true) :
    c.Registers l := by
  obtain ⟨_, entry, bound, same⟩ := current_iff.mp current
  exact ⟨l.lease.id, entry, bound, same⟩

/-! ## Tasks -/

theorem live_discarded (c : Container) (now : Instant) (l : Lease) (managed : Bool)
    (delay : Option Duration) :
    (c.prepare now l managed delay).discarded.timers.items = c.timers.items := by
  cases delay with
  | none => rfl
  | some d => exact Numbered.items_remove_add c.timers _

@[simp] theorem issued_start (c : Container) (task : Nat) :
    (c.start task).timers.issued = c.timers.issued := rfl

@[simp] theorem issued_endCycle (c : Container) (id : Nat) :
    (c.endCycle id).timers.issued = c.timers.issued := rfl

@[simp] theorem issued_forget (c : Container) (id : String) (entry : Entry)
    (reason : RemovalReason) : (c.forget id entry reason).timers.issued = c.timers.issued :=
  Numbered.issued_cancel _ _

@[simp] theorem issued_shutdown (c : Container) : c.shutdown.timers.issued = c.timers.issued :=
  Numbered.issued_cancelAll _ _

namespace Prepared

variable (p : Prepared) (previous : LeaseInstance)

@[simp] theorem issued_discarded : p.discarded.timers.issued = p.container.timers.issued :=
  Numbered.issued_cancel _ _

@[simp] theorem issued_registered : p.registered.timers.issued = p.container.timers.issued :=
  Numbered.issued_cancel _ _

@[simp] theorem issued_renewed : (p.renewed previous).timers.issued = p.container.timers.issued :=
  Numbered.issued_cancel _ _

@[simp] theorem issued_rotated : (p.rotated previous).timers.issued = p.container.timers.issued :=
  (Numbered.issued_cancel _ _).trans (Numbered.issued_cancel _ _)

end Prepared

theorem issued_le_prepare (c : Container) (now : Instant) (l : Lease) (managed : Bool)
    (delay : Option Duration) :
    c.timers.issued ≤ (c.prepare now l managed delay).container.timers.issued := by
  cases delay with
  | none => exact Nat.le_refl _
  | some d => exact Nat.le_succ _

/-! ## Where entries and cycles come from -/

/-- An entry is new in a container: its lease has the next serial and its task the next number. -/
structure Arrives (serials tasks : Nat) (c' : Container) (entry : Entry) : Prop where
  serial : entry.lease.serial = serials
  counted : c'.serials = serials + 1
  task : ∀ n, entry.task = some n → n = tasks ∧ c'.timers.issued = tasks + 1

theorem prepare_arrives (c : Container) (now : Instant) (l : Lease) (managed : Bool)
    (delay : Option Duration) :
    Arrives c.serials c.timers.issued (c.prepare now l managed delay).container
      (c.prepare now l managed delay).entry where
  serial := rfl
  counted := rfl
  task := by
    intro n handed
    cases delay with
    | none => cases handed
    | some d =>
        cases handed
        exact ⟨rfl, rfl⟩

theorem Arrives.onward {serials tasks : Nat} {after : Container} {entry : Entry}
    (arrives : Arrives serials tasks c' entry) (counted : after.serials = c'.serials)
    (issued : after.timers.issued = c'.timers.issued) : Arrives serials tasks after entry where
  serial := arrives.serial
  counted := counted.trans arrives.counted
  task := fun n handed => ⟨(arrives.task n handed).1, issued.trans (arrives.task n handed).2⟩

/-- What a container has of another: entries from there, and at most one that is new. -/
structure Gains (c c' : Container) (added : Option (String × Entry)) : Prop where
  new : ∀ id entry, added = some (id, entry) → Arrives c.serials c.timers.issued c' entry
  old : ∀ id entry, c'.entries.get? id = some entry →
    c.entries.get? id = some entry ∨ added = some (id, entry)

theorem gains_none
    (kept : ∀ id entry, c'.entries.get? id = some entry → c.entries.get? id = some entry) :
    ∃ added, Gains c c' added := by
  refine ⟨none, ?_, ?_⟩
  · intro id entry absurd
    cases absurd
  · intro id entry bound
    exact Or.inl (kept id entry bound)

theorem gains_one {base : Dictionary Entry} {own : String} {new : Entry}
    (kept : ∀ id entry, base.get? id = some entry → c.entries.get? id = some entry)
    (arrives : Arrives c.serials c.timers.issued c' new) (put : c'.entries = base.put own new) :
    ∃ added, Gains c c' added := by
  refine ⟨some (own, new), ?_, ?_⟩
  · rintro id entry ⟨⟩
    exact arrives
  · intro id entry bound
    rw [put] at bound
    rcases Dictionary.get?_put_eq_some bound with ⟨rfl, rfl⟩ | ⟨_, before⟩
    · exact Or.inr rfl
    · exact Or.inl (kept id entry before)

theorem kept_erase (own : String) (entries : Dictionary Entry) :
    ∀ id entry, (entries.erase own).get? id = some entry → entries.get? id = some entry :=
  fun _ _ bound => (Dictionary.get?_erase_eq_some bound).2

/-- Every entry was there before, but for at most one, which is new. -/
theorem Effect.gains (effect : Effect c now e c') : ∃ added, Gains c c' added := by
  have kept : ∀ id entry, c.entries.get? id = some entry → c.entries.get? id = some entry :=
    fun _ _ bound => bound
  cases effect with
  | nothing => exact gains_none kept
  | refused e l delay => exact gains_none kept
  | registered e l delay =>
      have arrives := prepare_arrives c now l (c.config.manages l.path) delay
      exact gains_one kept (arrives.onward rfl (by simp)) rfl
  | removed e id reason entry => exact gains_none (kept_erase id c.entries)
  | shutdown => exact gains_none fun _ _ bound => nomatch bound
  | missed t => exact gains_none kept
  | expired t l entry => exact gains_none (kept_erase l.lease.id c.entries)
  | began t l => exact gains_none kept
  | turned id reply d => exact gains_none kept
  | broken e id d => exact gains_none kept
  | ended e id d => exact gains_none kept
  | discarded e id d l delay => exact gains_none kept
  | lapsed id reply d entry => exact gains_none (kept_erase d.lease.lease.id c.entries)
  | renewed id d l delay =>
      have arrives := prepare_arrives (c.endCycle id) now l true delay
      exact gains_one kept (arrives.onward rfl (by simp)) rfl
  | rotated id d data l delay =>
      have arrives := prepare_arrives (c.endCycle id) now l true delay
      exact gains_one (kept_erase d.lease.lease.id c.entries) (arrives.onward rfl (by simp)) rfl

theorem Effect.serials_le (effect : Effect c now e c') : c.serials ≤ c'.serials := by
  cases effect <;> first | exact Nat.le_refl _ | exact Nat.le_succ _

theorem Effect.begun_le (effect : Effect c now e c') : c.cycles.issued ≤ c'.cycles.issued := by
  cases effect <;> first | exact Nat.le_refl _ | exact Nat.le_succ _

theorem Effect.issued_le (effect : Effect c now e c') : c.timers.issued ≤ c'.timers.issued := by
  cases effect with
  | nothing => exact Nat.le_refl _
  | refused e l delay => simpa using issued_le_prepare c now l _ delay
  | registered e l delay => simpa using issued_le_prepare c now l _ delay
  | removed e id reason entry => simp
  | shutdown => simp
  | missed t => exact Nat.le_refl _
  | expired t l entry => simp
  | began t l => exact Nat.le_refl _
  | turned id reply d => exact Nat.le_refl _
  | broken e id d => exact Nat.le_refl _
  | ended e id d => exact Nat.le_refl _
  | discarded e id d l delay => simpa using issued_le_prepare (c.endCycle id) now l true delay
  | lapsed id reply d entry => simp
  | renewed id d l delay => simpa using issued_le_prepare (c.endCycle id) now l true delay
  | rotated id d data l delay => simpa using issued_le_prepare (c.endCycle id) now l true delay

inductive CycleOrigin (c : Container) : Event → Nat → Cycle → Prop
  | same {e : Event} {n : Nat} {d : Cycle} (there : (n, d) ∈ c.cycles.items) :
      CycleOrigin c e n d
  | began (t : Timer LeaseTask) (l : LeaseInstance) (work : t.work = .renewal l)
      (current : c.current l = true) :
      CycleOrigin c (.ring t) c.cycles.issued ⟨l, (firstCall l.lease).1⟩
  | turned {n : Nat} {d : Cycle} (reply : Outcome Lease) (there : (n, d) ∈ c.cycles.items) :
      CycleOrigin c (.renewalReply n reply) n { d with stage := .rotating }

theorem Effect.cycle_origin (effect : Effect c now e c') {n : Nat} {d : Cycle}
    (flying : (n, d) ∈ c'.cycles.items) : CycleOrigin c e n d := by
  cases effect with
  | nothing | refused _ _ _ | registered _ _ _ | removed _ _ _ _ | shutdown | missed _
  | expired _ _ _ => exact .same flying
  | began t l work current =>
      rcases Numbered.mem_add.mp flying with before | ⟨rfl, rfl⟩
      · exact .same before
      · exact .began t l work current
  | turned id reply start =>
      obtain ⟨before, member, changed⟩ := Numbered.mem_change.mp flying
      by_cases same : n = id
      · subst same
        rw [if_pos rfl] at changed
        rw [← changed]
        exact .turned reply member
      · rw [if_neg same] at changed
        exact .same (changed ▸ member)
  | broken _ _ _ | ended _ _ _ | discarded _ _ _ _ _ | lapsed _ _ _ _ | renewed _ _ _ _
  | rotated _ _ _ _ _ => exact .same (Numbered.mem_remove.mp flying).1

theorem CycleOrigin.lease {n : Nat} {d : Cycle} (origin : CycleOrigin c e n d) :
    (∃ before, (n, before) ∈ c.cycles.items ∧ before.lease = d.lease) ∨
      n = c.cycles.issued ∧ c.current d.lease = true := by
  cases origin with
  | same there => exact Or.inl ⟨d, there, rfl⟩
  | began t l work current => exact Or.inr ⟨rfl, current⟩
  | turned reply there => exact Or.inl ⟨_, there, rfl⟩

/-! ## Numbers -/

def Apart (entries : Dictionary Entry) : Prop :=
  ∀ id entry other twin n, entries.get? id = some entry → entries.get? other = some twin →
    entry.task = some n → twin.task = some n → id = other

def HandlesBelow (entries : Dictionary Entry) (bound : Nat) : Prop :=
  ∀ id entry n, entries.get? id = some entry → entry.task = some n → n < bound

/-- Every number is below the next one, and no two entries share one. -/
structure Numbering (c : Container) : Prop where
  serial_lt : ∀ id entry, c.entries.get? id = some entry → entry.lease.serial < c.serials
  task_lt : HandlesBelow c.entries c.timers.issued
  cycle_lt : ∀ n d, (n, d) ∈ c.cycles.items → d.lease.serial < c.serials
  serial_once : ∀ id entry other twin, c.entries.get? id = some entry →
    c.entries.get? other = some twin → entry.lease.serial = twin.lease.serial → id = other
  apart : Apart c.entries

theorem HandlesBelow.erase {entries : Dictionary Entry} {bound : Nat}
    (below : HandlesBelow entries bound) (id : String) :
    HandlesBelow (entries.erase id) bound := by
  intro other entry n found handed
  exact below other entry n (kept_erase id entries other entry found) handed

theorem HandlesBelow.handle {entries : Dictionary Entry} {bound : Nat}
    (below : HandlesBelow entries bound) (id : String) (n : Nat)
    (held : (entries.get? id).bind Entry.task = some n) : n < bound := by
  obtain ⟨entry, found, handed⟩ := Option.bind_eq_some_iff.mp held
  exact below id entry n found handed

theorem Apart.erase {entries : Dictionary Entry} (apart : Apart entries) (id : String) :
    Apart (entries.erase id) := by
  intro first entry second twin n bound found
  exact apart first entry second twin n (kept_erase id entries first entry bound)
    (kept_erase id entries second twin found)

theorem Effect.numbering (effect : Effect c now e c') (numbering : Numbering c) :
    Numbering c' := by
  obtain ⟨added, gains⟩ := effect.gains
  have serials_le := effect.serials_le
  have issued_le := effect.issued_le
  refine ⟨?_, ?_, ?_, ?_, ?_⟩
  · intro id entry bound
    rcases gains.old id entry bound with before | new
    · exact Nat.lt_of_lt_of_le (numbering.serial_lt id entry before) serials_le
    · have arrives := gains.new id entry new
      have first := arrives.serial
      have next := arrives.counted
      omega
  · intro id entry n bound handed
    rcases gains.old id entry bound with before | new
    · exact Nat.lt_of_lt_of_le (numbering.task_lt id entry n before handed) issued_le
    · obtain ⟨first, next⟩ := (gains.new id entry new).task n handed
      omega
  · intro n d flying
    rcases (effect.cycle_origin flying).lease with ⟨before, member, same⟩ | ⟨_, current⟩
    · rw [← same]
      exact Nat.lt_of_lt_of_le (numbering.cycle_lt n before member) serials_le
    · obtain ⟨_, entry, bound, same⟩ := current_iff.mp current
      rw [← same]
      exact Nat.lt_of_lt_of_le (numbering.serial_lt _ entry bound) serials_le
  · intro id entry other twin bound found same
    rcases gains.old id entry bound with before | new <;>
      rcases gains.old other twin found with past | fresh
    · exact numbering.serial_once id entry other twin before past same
    · have lower := numbering.serial_lt id entry before
      have first := (gains.new other twin fresh).serial
      omega
    · have lower := numbering.serial_lt other twin past
      have first := (gains.new id entry new).serial
      omega
    · cases new.symm.trans fresh
      rfl
  · intro id entry other twin n bound found handed shared
    rcases gains.old id entry bound with before | new <;>
      rcases gains.old other twin found with past | fresh
    · exact numbering.apart id entry other twin n before past handed shared
    · have lower := numbering.task_lt id entry n before handed
      have first := ((gains.new other twin fresh).task n shared).1
      omega
    · have lower := numbering.task_lt other twin n past shared
      have first := ((gains.new id entry new).task n handed).1
      omega
    · cases new.symm.trans fresh
      rfl

theorem numbering_run (config : LeaseConfig) (h : History Event) :
    Numbering ((new config).run h) := by
  refine History.invariant_after (fun c now e numbering => ?_) h ?_
  · exact (step_effect c now e).numbering numbering
  · refine ⟨?_, ?_, ?_, ?_, ?_⟩
    · intro id entry bound
      cases bound
    · intro id entry n bound
      cases bound
    · intro n d flying
      cases flying
    · intro id entry other twin bound
      cases bound
    · intro id entry other twin n bound
      cases bound

/-! ## The end of a container -/

def Emptied (c : Container) : Prop := c.shutDown = true → c.entries = []

theorem Effect.emptied (effect : Effect c now e c') (emptied : Emptied c) : Emptied c' := by
  intro closed
  cases effect with
  | nothing => exact emptied closed
  | refused e l delay => exact emptied closed
  | registered e l delay brought unasked due serving =>
      cases serving.symm.trans closed
  | removed e id reason entry asked bound =>
      rw [emptied closed] at bound
      cases bound
  | shutdown => rfl
  | missed t => exact emptied closed
  | expired t l entry work current bound =>
      rw [emptied closed] at bound
      cases bound
  | began t l => exact emptied closed
  | turned id reply d => exact emptied closed
  | broken e id d => exact emptied closed
  | ended e id d => exact emptied closed
  | discarded e id d l delay => exact emptied closed
  | lapsed id reply d entry found without current bound =>
      rw [emptied closed] at bound
      cases bound
  | renewed id d l delay found gain due current =>
      cases (current_iff.mp current).1.symm.trans closed
  | rotated id d data l delay found due current =>
      cases (current_iff.mp current).1.symm.trans closed

/-! ## Identifiers -/

def Keyed (entries : Dictionary Entry) : Prop :=
  ∀ id entry, entries.get? id = some entry → entry.lease.lease.id = id

theorem Keyed.put {entries : Dictionary Entry} {entry : Entry} {id : String}
    (keyed : Keyed entries) (own : entry.lease.lease.id = id) : Keyed (entries.put id entry) := by
  intro other twin bound
  rcases Dictionary.get?_put_eq_some bound with ⟨same, rfl⟩ | ⟨_, before⟩
  · exact own.trans same.symm
  · exact keyed other twin before

theorem Keyed.erase {entries : Dictionary Entry} (keyed : Keyed entries) (id : String) :
    Keyed (entries.erase id) := by
  intro other twin bound
  exact keyed other twin (Dictionary.get?_erase_eq_some bound).2

theorem Effect.keyed (effect : Effect c now e c') (keeps : c.KeepsIdentifier e)
    (keyed : Keyed c.entries) : Keyed c'.entries := by
  cases effect with
  | nothing => exact keyed
  | refused e l delay => exact keyed
  | registered e l delay => exact keyed.put rfl
  | removed e id reason entry => exact keyed.erase id
  | shutdown => exact fun _ _ bound => nomatch bound
  | missed t => exact keyed
  | expired t l entry => exact keyed.erase l.lease.id
  | began t l => exact keyed
  | turned id reply d => exact keyed
  | broken e id d => exact keyed
  | ended e id d => exact keyed
  | discarded e id d l delay => exact keyed
  | lapsed id reply d entry => exact keyed.erase d.lease.lease.id
  | renewed id d l delay found => exact keyed.put (keeps d found)
  | rotated id d data l delay => exact (keyed.erase d.lease.lease.id).put rfl

end Leasehold.Container

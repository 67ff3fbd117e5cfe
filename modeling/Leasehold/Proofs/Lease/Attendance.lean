import Leasehold.Proofs.Lease.Registry

/-!
# Every lease is attended to

An entry of finite validity waits for its task or has a cycle in flight, an
entry of infinite validity has neither, and every live task is owned by an
entry (`Attended`).  An operation of a container may leave one instance
unattended for a moment, the gap, which the next operation closes: it unbinds
the instance, binds a new one in its place, or begins a cycle for it.
-/

set_option autoImplicit false

namespace Leasehold.Container

def Entry.job (entry : Entry) : LeaseTask := .of entry.managed entry.lease

def Flies (cycles : Numbered Cycle) (n : Nat) (l : LeaseInstance) : Prop :=
  ∃ d, (n, d) ∈ cycles.items ∧ d.lease = l

theorem Flies.unique {cycles : Numbered Cycle} {n : Nat} {l m : LeaseInstance}
    (first : Flies cycles n l) (second : Flies cycles n m) : l = m := by
  obtain ⟨d, flying, rfl⟩ := first
  obtain ⟨twin, other, rfl⟩ := second
  rw [Numbered.eq_of_mem flying other]

def Idle (cycles : Numbered Cycle) (l : LeaseInstance) : Prop :=
  ∀ n m, Flies cycles n m → m.serial ≠ l.serial

theorem Idle.remove {cycles : Numbered Cycle} {l : LeaseInstance} (idle : Idle cycles l)
    (n : Nat) : Idle (cycles.remove n) l := by
  rintro m k ⟨d, flying, same⟩
  exact idle m k ⟨d, (Numbered.mem_remove.mp flying).1, same⟩

/-- How an entry is attended to: it waits for its task, its task has started a cycle, or it never
ends and needs no attention. -/
inductive Attention (tasks : Schedule LeaseTask) (cycles : Numbered Cycle) (entry : Entry) : Prop
  | waits (n : Nat) (finite : entry.lease.lease.validity ≠ .infinite)
      (handed : entry.task = some n) (live : tasks.holds n = true)
      (idle : Idle cycles entry.lease)
  | works (n : Nat) (finite : entry.lease.lease.validity ≠ .infinite)
      (started : ∀ m, entry.task = some m → tasks.holds m = false)
      (flying : Flies cycles n entry.lease)
      (only : ∀ m l, Flies cycles m l → l.serial = entry.lease.serial → m = n)
  | rests (infinite : entry.lease.lease.validity = .infinite) (handed : entry.task = none)
      (idle : Idle cycles entry.lease)

theorem Attention.congr {tasks other : Schedule LeaseTask} {cycles flights : Numbered Cycle}
    {entry : Entry} (attention : Attention tasks cycles entry)
    (live : ∀ n, entry.task = some n → other.holds n = tasks.holds n)
    (flying : ∀ n l, l.serial = entry.lease.serial → (Flies flights n l ↔ Flies cycles n l)) :
    Attention other flights entry := by
  have idle_congr (idle : Idle cycles entry.lease) : Idle flights entry.lease := by
    intro n l flies same
    exact idle n l ((flying n l same).mp flies) same
  cases attention with
  | waits n finite handed held idle =>
      exact .waits n finite handed ((live n handed).trans held) (idle_congr idle)
  | works n finite started flies only =>
      refine .works n finite ?_ ((flying n entry.lease rfl).mpr flies) ?_
      · intro m handed
        exact (live m handed).trans (started m handed)
      · intro m l other same
        exact only m l ((flying m l same).mp other) same
  | rests infinite handed idle => exact .rests infinite handed (idle_congr idle)

/-- Every live task is owned by an entry, and every entry is attended to, but for that of the
instance in the gap. -/
structure Attended (entries : Dictionary Entry) (tasks : Schedule LeaseTask)
    (cycles : Numbered Cycle) (gap : Option Nat) : Prop where
  owned : ∀ n t, (n, t) ∈ tasks.items →
    ∃ id entry, entries.get? id = some entry ∧ entry.job = t.work ∧ entry.task = some n
  attended : ∀ id entry, entries.get? id = some entry → gap ≠ some entry.lease.serial →
    Attention tasks cycles entry

namespace Attended

variable {entries : Dictionary Entry} {tasks : Schedule LeaseTask} {cycles : Numbered Cycle}
  {gap : Option Nat}

theorem closed (a : Attended entries tasks cycles gap)
    (absent : ∀ id entry, entries.get? id = some entry → gap ≠ some entry.lease.serial) :
    Attended entries tasks cycles none where
  owned := a.owned
  attended := fun id entry bound _ => a.attended id entry bound (absent id entry bound)

theorem live_congr {other : Schedule LeaseTask} (a : Attended entries tasks cycles gap)
    (same : other.items = tasks.items) : Attended entries other cycles gap where
  owned := fun n t live => a.owned n t (same ▸ live)
  attended := by
    intro id entry bound outside
    refine (a.attended id entry bound outside).congr ?_ fun _ _ _ => Iff.rfl
    intro n _
    simp only [Numbered.holds, Numbered.find?, same]

theorem turned (a : Attended entries tasks cycles gap) (n : Nat) (stage : CycleStage) :
    Attended entries tasks (cycles.change n fun d => { d with stage }) gap where
  owned := a.owned
  attended := by
    intro id entry bound outside
    refine (a.attended id entry bound outside).congr (fun _ _ => rfl) ?_
    intro m l _
    constructor
    · rintro ⟨d, flying, rfl⟩
      obtain ⟨before, member, rfl⟩ := Numbered.mem_change.mp flying
      exact ⟨before, member, by split <;> rfl⟩
    · rintro ⟨d, flying, rfl⟩
      exact ⟨_, Numbered.mem_change.mpr ⟨d, flying, rfl⟩, by split <;> rfl⟩

theorem unbound (a : Attended entries tasks cycles gap) (apart : Apart entries) (id : String) :
    Attended (entries.erase id) (tasks.cancel ((entries.get? id).bind Entry.task)) cycles gap where
  owned := by
    intro n t live
    obtain ⟨before, kept⟩ := Numbered.mem_cancel.mp live
    obtain ⟨other, entry, bound, job, handed⟩ := a.owned n t before
    have elsewhere : other ≠ id := by
      rintro rfl
      rw [bound] at kept
      exact kept handed
    exact ⟨other, entry, by rwa [Dictionary.get?_erase_of_ne elsewhere], job, handed⟩
  attended := by
    intro other entry bound outside
    obtain ⟨elsewhere, before⟩ := Dictionary.get?_erase_eq_some bound
    refine (a.attended other entry before outside).congr ?_ fun _ _ _ => Iff.rfl
    intro n handed
    refine Numbered.holds_cancel_of_ne ?_
    intro given
    obtain ⟨twin, found, shared⟩ := Option.bind_eq_some_iff.mp given
    exact elsewhere (apart other entry id twin n before found handed shared)

/-- A new instance is bound to an identifier that has been unbound, with its task scheduled if it
is of finite validity. -/
theorem bound {id : String} {new : Entry} {now : Instant} {delay : Option Duration}
    (a : Attended (entries.erase id) tasks cycles none) (fresh : Idle cycles new.lease)
    (older : HandlesBelow entries tasks.issued)
    (due : delay = none ↔ new.lease.lease.validity = .infinite)
    (handed : new.task = (tasks.planIf now delay new.job).2.map Timer.task) :
    Attended (entries.put id new) (tasks.planIf now delay new.job).1 cycles none where
  owned := by
    intro n t live
    have before : (n, t) ∈ tasks.items → ∃ other entry,
        (entries.put id new).get? other = some entry ∧ entry.job = t.work ∧
          entry.task = some n := by
      intro member
      obtain ⟨other, entry, bound, job, task⟩ := a.owned n t member
      obtain ⟨elsewhere, found⟩ := Dictionary.get?_erase_eq_some bound
      exact ⟨other, entry, by rwa [Dictionary.get?_put_of_ne elsewhere], job, task⟩
    cases delay with
    | none => exact before live
    | some d =>
        rcases Numbered.mem_add.mp live with member | ⟨rfl, rfl⟩
        · exact before member
        · exact ⟨id, new, Dictionary.get?_put_self id new entries, rfl, handed⟩
  attended := by
    intro other entry bound _
    rcases Dictionary.get?_put_eq_some bound with ⟨_, rfl⟩ | ⟨elsewhere, before⟩
    · cases delay with
      | none => exact .rests (due.mp rfl) handed fresh
      | some d =>
          have finite : entry.lease.lease.validity ≠ .infinite := fun infinite =>
            nomatch due.mpr infinite
          refine .waits tasks.issued finite handed ?_ fresh
          exact Numbered.holds_iff.mpr ⟨_, Numbered.mem_add.mpr (Or.inr ⟨rfl, rfl⟩)⟩
    · have found : (entries.erase id).get? other = some entry := by
        rwa [Dictionary.get?_erase_of_ne elsewhere]
      refine (a.attended other entry found nofun).congr ?_ fun _ _ _ => Iff.rfl
      intro n task
      cases delay with
      | none => rfl
      | some d => exact Numbered.holds_add_of_lt (older other entry n before task)

/-- A new instance takes the place of whatever stands under its identifier, the gap included. -/
theorem installed {id : String} {new : Entry} {now : Instant} {delay : Option Duration}
    (a : Attended entries tasks cycles gap) (apart : Apart entries)
    (older : HandlesBelow entries tasks.issued)
    (absent : ∀ other entry, (entries.erase id).get? other = some entry →
      gap ≠ some entry.lease.serial)
    (fresh : Idle cycles new.lease)
    (due : delay = none ↔ new.lease.lease.validity = .infinite)
    (handed : new.task = (tasks.planIf now delay new.job).2.map Timer.task) :
    Attended (entries.put id new)
      ((tasks.planIf now delay new.job).1.cancel ((entries.get? id).bind Entry.task))
      cycles none := by
  rw [Schedule.cancel_planIf (older.handle id)]
  refine ((a.unbound apart id).closed absent).bound fresh ?_ due ?_
  · rw [Numbered.issued_cancel]
    exact older
  · rw [Schedule.task_planIf_cancel]
    exact handed

theorem ended (a : Attended entries tasks cycles none) {n : Nat} {l : LeaseInstance}
    (flying : Flies cycles n l) :
    Attended entries tasks (cycles.remove n) (some l.serial) where
  owned := a.owned
  attended := by
    intro id entry bound outside
    refine (a.attended id entry bound nofun).congr (fun _ _ => rfl) ?_
    intro m k same
    constructor
    · rintro ⟨d, member, rfl⟩
      exact ⟨d, (Numbered.mem_remove.mp member).1, rfl⟩
    · rintro ⟨d, member, rfl⟩
      refine ⟨d, Numbered.mem_remove.mpr ⟨member, ?_⟩, rfl⟩
      rintro rfl
      rw [flying.unique ⟨d, member, rfl⟩] at outside
      exact outside (congrArg some same)

theorem started (a : Attended entries tasks cycles none) (apart : Apart entries) {n : Nat}
    {t : LiveTask LeaseTask} (live : (n, t) ∈ tasks.items) :
    Attended entries (tasks.remove n) cycles (some t.work.lease.serial) where
  owned := fun m u kept => a.owned m u (Numbered.mem_remove.mp kept).1
  attended := by
    intro id entry bound outside
    refine (a.attended id entry bound nofun).congr ?_ fun _ _ _ => Iff.rfl
    intro m handed
    refine Numbered.holds_remove_of_ne ?_
    rintro rfl
    obtain ⟨other, owner, found, job, shared⟩ := a.owned m t live
    cases apart id entry other owner m bound found handed shared
    cases bound.symm.trans found
    refine outside (congrArg some ?_)
    rw [← job, Entry.job, LeaseTask.lease_of]

theorem begun {l : LeaseInstance} (a : Attended entries tasks cycles (some l.serial))
    (finite : l.lease.validity ≠ .infinite) (idle : Idle cycles l) (stage : CycleStage)
    (owner : ∀ id entry, entries.get? id = some entry → entry.lease.serial = l.serial →
      entry.lease = l ∧ ∀ m, entry.task = some m → tasks.holds m = false) :
    Attended entries tasks (cycles.add ⟨l, stage⟩) none where
  owned := a.owned
  attended := by
    have flies_add : ∀ m k, Flies (cycles.add ⟨l, stage⟩) m k ↔
        Flies cycles m k ∨ m = cycles.issued ∧ k = l := by
      intro m k
      constructor
      · rintro ⟨d, member, rfl⟩
        rcases Numbered.mem_add.mp member with before | ⟨number, rfl⟩
        · exact Or.inl ⟨d, before, rfl⟩
        · exact Or.inr ⟨number, rfl⟩
      · rintro (⟨d, member, rfl⟩ | ⟨rfl, rfl⟩)
        · exact ⟨d, Numbered.mem_add.mpr (Or.inl member), rfl⟩
        · exact ⟨_, Numbered.mem_add.mpr (Or.inr ⟨rfl, rfl⟩), rfl⟩
    intro id entry bound _
    by_cases own : entry.lease.serial = l.serial
    · obtain ⟨rfl, spent⟩ := owner id entry bound own
      refine .works cycles.issued finite spent ((flies_add _ _).mpr (Or.inr ⟨rfl, rfl⟩)) ?_
      intro m k flying same
      rcases (flies_add m k).mp flying with before | ⟨number, _⟩
      · exact absurd same (idle m k before)
      · exact number
    · have outside : some l.serial ≠ some entry.lease.serial := fun same =>
        own (Option.some.inj same).symm
      refine (a.attended id entry bound outside).congr (fun _ _ => rfl) ?_
      intro m k same
      rw [flies_add]
      refine or_iff_left ?_
      rintro ⟨_, rfl⟩
      exact own same.symm

theorem shutdown (a : Attended entries tasks cycles none) :
    Attended [] (tasks.cancelAll (entries.values.filterMap Entry.task)) cycles none where
  owned := by
    intro n t live
    obtain ⟨before, kept⟩ := Numbered.mem_cancelAll.mp live
    obtain ⟨id, entry, bound, _, handed⟩ := a.owned n t before
    exact absurd (List.mem_filterMap.mpr ⟨entry, Dictionary.mem_values bound, handed⟩) kept
  attended := by
    intro id entry bound
    cases bound

end Attended

/-! ## Delays -/

variable {c c' : Container} {now : Instant} {e : Event}

theorem renewalDelay_eq_none_iff {l : Lease} {floor : Duration} {delay : Option Duration}
    (due : c.renewalDelay now l floor = .ok delay) :
    delay = none ↔ l.validity = .infinite := by
  unfold renewalDelay at due
  cases planned : c.config.window.delay l.issued l.validity now with
  | error beyond =>
      rw [planned] at due
      cases due
  | ok left =>
      rw [planned] at due
      cases due
      rw [← RenewalWindow.delay_eq_none_iff planned]
      exact Option.map_eq_none_iff

theorem expiryDelay_eq_none_iff {l : Lease} {delay : Option Duration}
    (due : expiryDelay now l = .ok delay) : delay = none ↔ l.validity = .infinite := by
  unfold expiryDelay at due
  cases ends : l.expiry with
  | error beyond =>
      rw [ends] at due
      cases due
  | ok expiry =>
      rw [ends] at due
      cases due
      rw [← Validity.expiry_eq_none_iff ends]
      exact Option.map_eq_none_iff

theorem firstDelay_eq_none_iff {l : Lease} {delay : Option Duration}
    (due : c.firstDelay now l = .ok delay) : delay = none ↔ l.validity = .infinite := by
  unfold firstDelay at due
  split at due
  · exact renewalDelay_eq_none_iff due
  · exact expiryDelay_eq_none_iff due

/-! ## Effects -/

abbrev Attends (c : Container) : Prop := Attended c.entries c.timers c.cycles none

theorem Numbering.idle (numbering : Numbering c) (l : Lease) : Idle c.cycles ⟨c.serials, l⟩ := by
  rintro n m ⟨d, flying, rfl⟩ same
  have lower := numbering.cycle_lt n d flying
  simp only at same
  omega

theorem Numbering.handle_lt (numbering : Numbering c) (id : String) (n : Nat)
    (held : c.handle id = some n) : n < c.timers.issued :=
  numbering.task_lt.handle id n held

theorem Numbering.absent_erase (numbering : Numbering c) {l : LeaseInstance}
    (current : c.current l = true) (other : String) (entry : Entry)
    (bound : (c.entries.erase l.lease.id).get? other = some entry) :
    some l.serial ≠ some entry.lease.serial := by
  obtain ⟨_, owner, found, same⟩ := current_iff.mp current
  obtain ⟨elsewhere, before⟩ := Dictionary.get?_erase_eq_some bound
  intro shared
  have twins : entry.lease.serial = owner.lease.serial :=
    (Option.some.inj shared).symm.trans same.symm
  exact elsewhere (numbering.serial_once other entry l.lease.id owner before found twins)

theorem current_of_bound (keyed : Keyed c.entries) (emptied : Emptied c) {id : String}
    {entry : Entry} (bound : c.entries.get? id = some entry) : c.current entry.lease = true := by
  refine current_iff.mpr ⟨?_, entry, ?_, rfl⟩
  · rw [Bool.eq_false_iff]
    intro closed
    rw [emptied closed] at bound
    cases bound
  · rwa [keyed id entry bound]

/-- A cycle whose instance is not the registered one works for no entry. -/
theorem Attended.absent_of_gone (a : Attends c) (keyed : Keyed c.entries) (emptied : Emptied c)
    {n : Nat} {l : LeaseInstance} (flying : Flies c.cycles n l) (gone : c.current l = false)
    (id : String) (entry : Entry) (bound : c.entries.get? id = some entry) :
    some l.serial ≠ some entry.lease.serial := by
  intro shared
  have same : l.serial = entry.lease.serial := Option.some.inj shared
  cases a.attended id entry bound nofun with
  | waits m finite handed live idle => exact idle n l flying same
  | rests infinite handed idle => exact idle n l flying same
  | works m finite started flies only =>
      obtain rfl := only n l flying same
      rw [flying.unique flies, current_of_bound keyed emptied bound] at gone
      cases gone

theorem Attended.owner (a : Attends c) {n : Nat} {t : LiveTask LeaseTask}
    (live : (n, t) ∈ c.timers.items) :
    ∃ id entry, c.entries.get? id = some entry ∧ entry.job = t.work ∧ entry.task = some n ∧
      entry.lease = t.work.lease := by
  obtain ⟨id, entry, bound, job, handed⟩ := a.owned n t live
  exact ⟨id, entry, bound, job, handed, by rw [← job, Entry.job, LeaseTask.lease_of]⟩

theorem Attended.waiting (a : Attends c) {n : Nat} {id : String} {entry : Entry}
    (bound : c.entries.get? id = some entry) (handed : entry.task = some n)
    (live : c.timers.holds n = true) :
    entry.lease.lease.validity ≠ .infinite ∧ Idle c.cycles entry.lease := by
  cases a.attended id entry bound nofun with
  | waits m finite other held idle => exact ⟨finite, idle⟩
  | works m finite started =>
      rw [started n handed] at live
      cases live
  | rests infinite without =>
      rw [without] at handed
      cases handed

theorem Attended.relieved (a : Attends c) (numbering : Numbering c) {n : Nat}
    {t : LiveTask LeaseTask} (live : (n, t) ∈ c.timers.items) (stage : CycleStage) :
    Attended c.entries (c.timers.remove n) (c.cycles.add ⟨t.work.lease, stage⟩) none := by
  obtain ⟨id, entry, bound, job, handed, lease⟩ := a.owner live
  obtain ⟨finite, idle⟩ := a.waiting bound handed (Numbered.holds_iff.mpr ⟨t, live⟩)
  rw [lease] at finite idle
  refine (a.started numbering.apart live).begun finite idle stage ?_
  intro other twin found same
  rw [← lease] at same
  cases numbering.serial_once other twin id entry found bound same
  cases found.symm.trans bound
  refine ⟨lease, ?_⟩
  intro m shared
  cases handed.symm.trans shared
  exact Numbered.holds_remove_self c.timers n

theorem Effect.attended (effect : Effect c now e c') (numbering : Numbering c)
    (keyed : Keyed c.entries) (emptied : Emptied c) (starts : c.StartsLiveTask e)
    (within : ¬ c.Overflows now e) (a : Attends c) : Attends c' := by
  have flies {n : Nat} {d : Cycle} (found : c.cycles.find? n = some d) :
      Flies c.cycles n d.lease := ⟨d, Numbered.find?_eq_some_iff.mp found, rfl⟩
  have finished {n : Nat} {d : Cycle} (found : c.cycles.find? n = some d)
      (gone : c.current d.lease = false) : Attends (c.endCycle n) :=
    (a.ended (flies found)).closed (a.absent_of_gone keyed emptied (flies found) gone)
  cases effect with
  | nothing => exact a
  | refused e l delay => exact a.live_congr (live_discarded c now l _ delay)
  | registered e l delay brought unasked due =>
      exact a.installed numbering.apart numbering.task_lt nofun (numbering.idle l)
        (firstDelay_eq_none_iff due) rfl
  | removed e id reason entry => exact a.unbound numbering.apart id
  | shutdown => exact a.shutdown
  | missed t gone =>
      obtain ⟨u, found, work⟩ := starts
      obtain ⟨id, entry, bound, _, _, lease⟩ := a.owner (Numbered.find?_eq_some_iff.mp found)
      rw [← work, ← lease, current_of_bound keyed emptied bound] at gone
      cases gone
  | expired t l entry work current =>
      obtain ⟨u, found, same⟩ := starts
      have started := a.started numbering.apart (Numbered.find?_eq_some_iff.mp found)
      rw [same, work] at started
      exact (started.unbound numbering.apart l.lease.id).closed (numbering.absent_erase current)
  | began t l work =>
      obtain ⟨u, found, same⟩ := starts
      have relieved := a.relieved numbering (Numbered.find?_eq_some_iff.mp found)
        (firstCall l.lease).1
      rw [same, work] at relieved
      exact relieved
  | turned id reply d => exact a.turned id .rotating
  | broken e id d answers found overflow => exact absurd overflow within
  | ended e id d answers found gone => exact finished found gone
  | discarded e id d l delay answers found brought due gone =>
      exact (finished found gone).live_congr (live_discarded (c.endCycle id) now l true delay)
  | lapsed id reply d entry found without current =>
      exact ((a.ended (flies found)).unbound numbering.apart d.lease.lease.id).closed
        (numbering.absent_erase current)
  | renewed id d l delay found gain due current =>
      exact (a.ended (flies found)).installed numbering.apart numbering.task_lt
        (numbering.absent_erase current) ((numbering.idle l).remove id)
        (renewalDelay_eq_none_iff due) rfl
  | rotated id d data l delay found due current =>
      -- The lease before leaves first, as if its task had been cancelled before the new one came.
      have left := ((a.ended (flies found)).unbound numbering.apart d.lease.lease.id).closed
        (numbering.absent_erase current)
      let old := c.handle d.lease.lease.id
      have below := numbering.task_lt.erase d.lease.lease.id
      rw [← Numbered.issued_cancel c.timers old] at below
      change Attended _ (((c.timers.planIf now delay _).1.cancel old).cancel _) _ _
      rw [Schedule.cancel_planIf (numbering.handle_lt d.lease.lease.id)]
      exact left.installed (numbering.apart.erase _) below nofun ((numbering.idle l).remove id)
        (renewalDelay_eq_none_iff due) (Schedule.task_planIf_cancel _ _ _ _ _).symm

/-! ## Every history -/

def pending (c : Container) (l : LeaseInstance) : List (Nat × LiveTask LeaseTask) :=
  c.timers.items.filter fun t => t.2.work.lease.serial == l.serial

def inFlight (c : Container) (l : LeaseInstance) : List (Nat × Cycle) :=
  c.cycles.items.filter fun d => d.2.lease.serial == l.serial

/-- An entry of finite validity has one live task, which is there for what the entry needs, or one
cycle in flight; an entry of infinite validity has neither. -/
def AttendsTo (c : Container) (entry : Entry) : Prop :=
  match entry.lease.lease.validity with
  | .finite _ =>
      (∃ n due, c.pending entry.lease = [(n, ⟨due, entry.job⟩)] ∧
        c.inFlight entry.lease = []) ∨
      c.pending entry.lease = [] ∧
        ∃ n stage, c.inFlight entry.lease = [(n, ⟨entry.lease, stage⟩)]
  | .infinite => c.pending entry.lease = [] ∧ c.inFlight entry.lease = []

theorem Idle.inFlight_eq_nil {l : LeaseInstance} (idle : Idle c.cycles l) :
    c.inFlight l = [] := by
  refine List.filter_eq_nil_iff.mpr ?_
  rintro ⟨n, d⟩ flying same
  exact idle n d.lease ⟨d, flying, rfl⟩ (by simpa using same)

theorem Attended.own_task (a : Attends c) (numbering : Numbering c) {id : String} {entry : Entry}
    (bound : c.entries.get? id = some entry) {n : Nat} {t : LiveTask LeaseTask}
    (live : (n, t) ∈ c.timers.items) (same : t.work.lease.serial = entry.lease.serial) :
    entry.task = some n ∧ entry.job = t.work := by
  obtain ⟨other, owner, found, job, handed, lease⟩ := a.owner live
  rw [← lease] at same
  cases numbering.serial_once other owner id entry found bound same
  cases found.symm.trans bound
  exact ⟨handed, job⟩

theorem Attended.attendsTo (a : Attends c) (numbering : Numbering c) {id : String} {entry : Entry}
    (bound : c.entries.get? id = some entry) : c.AttendsTo entry := by
  have unattended (without : ∀ n t, (n, t) ∈ c.timers.items → entry.task ≠ some n) :
      c.pending entry.lease = [] := by
    refine List.filter_eq_nil_iff.mpr ?_
    rintro ⟨n, t⟩ live same
    exact without n t live (a.own_task numbering bound live (by simpa using same)).1
  unfold AttendsTo
  cases a.attended id entry bound nofun with
  | waits n finite handed held idle =>
      obtain ⟨t, live⟩ := Numbered.holds_iff.mp held
      obtain ⟨other, owner, found, job, shared⟩ := a.owned n t live
      cases numbering.apart other owner id entry n found bound shared handed
      cases found.symm.trans bound
      have one : c.pending entry.lease = [(n, t)] := by
        refine Numbered.filter_eq_singleton live (by simp [← job, Entry.job]) ?_
        intro m u twin same
        have task := (a.own_task numbering bound twin (by simpa using same)).1
        exact Option.some.inj (task.symm.trans handed)
      cases validity : entry.lease.lease.validity with
      | infinite => exact absurd validity finite
      | finite d => exact Or.inl ⟨n, t.due, by rw [one, job], idle.inFlight_eq_nil⟩
  | works n finite started flying only =>
      obtain ⟨d, member, lease⟩ := flying
      have one : c.inFlight entry.lease = [(n, d)] := by
        refine Numbered.filter_eq_singleton member (by simp [lease]) ?_
        intro m twin other same
        exact only m twin.lease ⟨twin, other, rfl⟩ (by simpa using same)
      have none : c.pending entry.lease = [] := by
        refine unattended fun m t live handed => ?_
        cases (started m handed).symm.trans (Numbered.holds_iff.mpr ⟨t, live⟩)
      cases validity : entry.lease.lease.validity with
      | infinite => exact absurd validity finite
      | finite span => exact Or.inr ⟨none, n, d.stage, by rw [one, ← lease]⟩
  | rests infinite handed idle =>
      rw [infinite]
      refine ⟨unattended fun m t live held => ?_, idle.inFlight_eq_nil⟩
      rw [handed] at held
      cases held

/-- What the world around a container keeps to: a scheduler that starts live tasks only, a server
that renews a lease under its own identifier, and instants within the clock. -/
structure Trusted (c : Container) (now : Instant) (e : Event) : Prop where
  starts : c.StartsLiveTask e
  keeps : c.KeepsIdentifier e
  within : ¬ c.Overflows now e

theorem attends_run (config : LeaseConfig) (h : History Event)
    (trusted : History.Keeps next Trusted (new config) h) : Attends ((new config).run h) := by
  have all : Numbering ((new config).run h) ∧ Keyed ((new config).run h).entries ∧
      Emptied ((new config).run h) ∧ Attends ((new config).run h) := by
    refine History.invariant_after_keeping
      (I := fun c => Numbering c ∧ Keyed c.entries ∧ Emptied c ∧ Attends c) ?_ ?_ trusted
    · rintro c now e ⟨numbering, keyed, emptied, attends⟩ trust
      have effect := step_effect c now e
      exact ⟨effect.numbering numbering, effect.keyed trust.keeps keyed, effect.emptied emptied,
        effect.attended numbering keyed emptied trust.starts trust.within attends⟩
    · refine ⟨numbering_run config [], ?_, nofun, ?_, ?_⟩
      · intro id entry bound
        cases bound
      · intro n t live
        cases live
      · intro id entry bound
        cases bound
  exact all.2.2.2

/-- In a world that can be trusted every registered lease is attended to at every moment, and every
live task works on a lease that is registered. -/
theorem attendsTo_run (config : LeaseConfig) (h : History Event)
    (trusted : History.Keeps next Trusted (new config) h) :
    (∀ id entry, ((new config).run h).entries.get? id = some entry →
      ((new config).run h).AttendsTo entry) ∧
    ∀ n t, (n, t) ∈ ((new config).run h).timers.items →
      ∃ id entry, ((new config).run h).entries.get? id = some entry ∧
        entry.lease = t.work.lease := by
  have attends := attends_run config h trusted
  refine ⟨fun id entry bound => attends.attendsTo (numbering_run config h) bound, ?_⟩
  intro n t live
  obtain ⟨id, entry, bound, _, _, lease⟩ := attends.owner live
  exact ⟨id, entry, bound, lease⟩

def renewals : History Event :=
  [(⟨0⟩, .register (twoMinutes "a" 0)),
    (⟨0⟩, .register (twoMinutes "b" 0)),
    (⟨60⟩, .ring ⟨0, .ofSecs 60, .renewal ⟨0, twoMinutes "a" 0⟩⟩),
    (⟨61⟩, .renewalReply 0 (.ok (twoMinutes "a" 61))),
    (⟨62⟩, .ring ⟨1, .ofSecs 60, .renewal ⟨1, twoMinutes "b" 0⟩⟩)]

theorem attendsTo_run_renewals :
    (∀ id entry, ((new {}).run renewals).entries.get? id = some entry →
      ((new {}).run renewals).AttendsTo entry) ∧
    ∀ n t, (n, t) ∈ ((new {}).run renewals).timers.items →
      ∃ id entry, ((new {}).run renewals).entries.get? id = some entry ∧
        entry.lease = t.work.lease := by
  refine attendsTo_run {} renewals ⟨⟨trivial, trivial, nofun⟩, ⟨trivial, trivial, nofun⟩,
    ⟨⟨_, rfl, rfl⟩, trivial, id⟩, ⟨trivial, ?_, nofun⟩, ⟨⟨_, rfl, rfl⟩, trivial, id⟩, trivial⟩
  rintro d ⟨⟩
  rfl

end Leasehold.Container

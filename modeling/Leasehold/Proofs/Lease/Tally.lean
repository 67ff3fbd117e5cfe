import Leasehold.Proofs.Lease.Calls
import Leasehold.Proofs.Lease.EventLog

/-!
# The metrics of a container

The tally is kept up to date one call at a time: the gauge of active leases goes
up or down by one, or a counter goes up (`Mark`).  An event changes the registry,
the tally and the feed together (`Booking`), and the calls that go with what
subscribers hear are all the calls that it makes.  So the counters count the
events that have been sent, and, as long as the number of entries fits into the
gauge, that is what the gauge shows; in particular it is never taken down from
zero (`tally_exact`).
-/

set_option autoImplicit false

namespace Leasehold

/-! ## Calls on the metrics -/

namespace LeaseTally

/-- The tally after a call, unless the call takes the gauge down that is at zero already. -/
def mark? (t : LeaseTally) (m : Mark) : Option LeaseTally :=
  if m = .down ∧ t.active = 0 then none else some (t.mark m)

variable {t : LeaseTally}

theorem mark?_down (positive : t.active ≠ 0) : t.mark? .down = some (t.mark .down) :=
  if_neg fun floor => positive floor.2

theorem toNat_active_up {n : Nat} (active : t.active.toNat = n) (fits : n + 1 < UInt64.size) :
    (t.mark .up).active.toNat = n + 1 := by
  change (t.active + 1).toNat = n + 1
  rw [UInt64.toNat_add, active]
  exact Nat.mod_eq_of_lt fits

theorem toNat_active_down {n : Nat} (active : t.active.toNat = n + 1) :
    (t.mark .down).active.toNat = n := by
  have positive : t.active ≠ 0 := by
    intro zero
    rw [zero] at active
    cases active
  have least : (1 : UInt64) ≤ t.active := by
    rw [UInt64.le_iff_toNat_le, active]
    exact Nat.le_add_left 1 n
  change (if t.active = 0 then 0 else t.active - 1).toNat = n
  rw [if_neg positive, UInt64.toNat_sub_of_le _ _ least, active]
  rfl

end LeaseTally

namespace LeaseEvent

def renews : LeaseEvent → Bool
  | .renewed _ => true
  | _ => false

def rotates : LeaseEvent → Bool
  | .rotated _ _ => true
  | _ => false

def removes : LeaseEvent → Bool
  | .removed _ _ => true
  | _ => false

end LeaseEvent

namespace Container

variable {c c' : Container} {now : Instant} {e : Event}

open LeaseTally (Mark)

def emitted (c : Container) (now : Instant) (e : Event) : List LeaseEvent :=
  (c.next now e).feed.sent.drop c.feed.sent.length

def marks (c : Container) (now : Instant) : Event → List Mark
  | .shutdown => [.cleared]
  | e => (c.emitted now e).flatMap (marksOf c.entries)

structure Reported (c : Container) (l : LeaseEvent) (c' : Container) : Prop where
  tally : c'.tally = c.tally.markAll (marksOf c.entries l)
  sent : c'.feed.sent = c.feed.sent ++ [l]

inductive Booking (c : Container) (e : Event) (c' : Container) : Prop
  | still (entries : c'.entries = c.entries) (tally : c'.tally = c.tally)
      (sent : c'.feed.sent = c.feed.sent)
  | registered (new : Entry) (serving : c.shutDown = false)
      (entries : c'.entries = c.entries.put new.lease.lease.id new)
      (reported : Reported c (.registered new.lease) c')
  | renewed (id : String) (old new : Entry) (bound : c.entries.get? id = some old)
      (entries : c'.entries = c.entries.put id new) (reported : Reported c (.renewed new.lease) c')
  | rotated (previous : LeaseInstance) (old new : Entry)
      (bound : c.entries.get? previous.lease.id = some old)
      (entries : c'.entries =
        (c.entries.erase previous.lease.id).put new.lease.lease.id new)
      (reported : Reported c (.rotated previous new.lease) c')
  | removed (id : String) (old : Entry) (reason : RemovalReason)
      (bound : c.entries.get? id = some old) (entries : c'.entries = c.entries.erase id)
      (reported : Reported c (.removed old.lease reason) c')
  | closed (ends : e = .shutdown) (entries : c'.entries = [])
      (tally : c'.tally = c.tally.mark .cleared) (sent : c'.feed.sent = c.feed.sent)

theorem Effect.booking (effect : Effect c now e c') : Booking c e c' := by
  cases effect with
  | registered e l delay brought unasked due serving =>
      exact .registered _ serving rfl ⟨rfl, rfl⟩
  | removed e id reason entry asked bound => exact .removed id entry reason bound rfl ⟨rfl, rfl⟩
  | shutdown => exact .closed rfl rfl rfl rfl
  | expired t l entry work current bound =>
      exact .removed _ entry .expired bound rfl ⟨rfl, rfl⟩
  | lapsed id reply d entry found without current bound =>
      exact .removed _ entry .expired bound rfl ⟨rfl, rfl⟩
  | renewed id d l delay found gain due current =>
      obtain ⟨_, old, bound, _⟩ := current_iff.mp current
      exact .renewed d.lease.lease.id old _ bound rfl ⟨rfl, rfl⟩
  | rotated id d data l delay found due current =>
      obtain ⟨_, old, bound, _⟩ := current_iff.mp current
      exact .rotated d.lease old _ bound rfl ⟨rfl, rfl⟩
  | nothing _ | refused _ _ _ | missed _ | began _ _ | turned _ _ _ | broken _ _ _ | ended _ _ _
  | discarded _ _ _ _ _ => exact .still rfl rfl rfl

/-! ## Counters -/

structure Counted (c : Container) : Prop where
  renewals : c.tally.renewals = UInt64.ofNat (c.feed.sent.countP LeaseEvent.renews)
  rotations : c.tally.rotations = UInt64.ofNat (c.feed.sent.countP LeaseEvent.rotates)
  removals : c.tally.removals = UInt64.ofNat (c.feed.sent.countP LeaseEvent.removes)

/-- The calls that go with an event raise the counter of its kind by one, and no other. -/
theorem counters_markAll (t : LeaseTally) (before : Dictionary Entry) (l : LeaseEvent) :
    (t.markAll (marksOf before l)).renewals = t.renewals + (if l.renews then 1 else 0) ∧
    (t.markAll (marksOf before l)).rotations = t.rotations + (if l.rotates then 1 else 0) ∧
    (t.markAll (marksOf before l)).removals = t.removals + (if l.removes then 1 else 0) := by
  have none (n : UInt64) : n = n + 0 := (UInt64.add_zero n).symm
  cases l with
  | registered l =>
      have marks :
          marksOf before (.registered l) = [] ∨ marksOf before (.registered l) = [.up] := by
        simp only [marksOf]
        split
        · exact Or.inl rfl
        · exact Or.inr rfl
      rcases marks with same | same <;> rw [same] <;> exact ⟨none _, none _, none _⟩
  | renewed l => exact ⟨rfl, none _, none _⟩
  | rotated previous current =>
      have marks : marksOf before (.rotated previous current) = [.down, .rotation] ∨
          marksOf before (.rotated previous current) = [.rotation] := by
        simp only [marksOf]
        split
        · exact Or.inl rfl
        · exact Or.inr rfl
      rcases marks with same | same <;> rw [same] <;> exact ⟨none _, rfl, none _⟩
  | removed l reason => exact ⟨none _, none _, rfl⟩

theorem Counted.reported (counted : Counted c) {l : LeaseEvent} (reported : Reported c l c') :
    Counted c' := by
  have more : ∀ p : LeaseEvent → Bool, UInt64.ofNat (c'.feed.sent.countP p) =
      UInt64.ofNat (c.feed.sent.countP p) + if p l then 1 else 0 := by
    intro p
    rw [reported.sent, List.countP_append, List.countP_singleton, UInt64.ofNat_add]
    cases p l <;> rfl
  obtain ⟨renewals, rotations, removals⟩ := counters_markAll c.tally c.entries l
  refine ⟨?_, ?_, ?_⟩
  · rw [more, reported.tally, renewals, counted.renewals]
  · rw [more, reported.tally, rotations, counted.rotations]
  · rw [more, reported.tally, removals, counted.removals]

theorem Booking.counted (booking : Booking c e c') (counted : Counted c) : Counted c' := by
  cases booking with
  | still entries tally sent =>
      constructor <;> rw [tally, sent]
      · exact counted.renewals
      · exact counted.rotations
      · exact counted.removals
  | registered new serving entries reported => exact counted.reported reported
  | renewed id old new bound entries reported => exact counted.reported reported
  | rotated previous old new bound entries reported => exact counted.reported reported
  | removed id old reason bound entries reported => exact counted.reported reported
  | closed ends entries tally sent =>
      constructor <;> rw [tally, sent]
      · exact counted.renewals
      · exact counted.rotations
      · exact counted.removals

theorem counted_run (config : LeaseConfig) (h : History Event) : Counted ((new config).run h) :=
  History.invariant_after (fun c now e => (step_effect c now e).booking.counted) h ⟨rfl, rfl, rfl⟩

/-! ## The gauge -/

structure Gauged (c : Container) : Prop where
  ordered : Dictionary.Ordered c.entries
  active : c.tally.active.toNat = c.size

theorem Gauged.active_ne_zero (gauged : Gauged c) {id : String} {entry : Entry}
    (bound : c.entries.get? id = some entry) : c.tally.active ≠ 0 := by
  intro zero
  have active := gauged.active
  have length := gauged.ordered.length_erase bound
  rw [zero] at active
  change 0 = c.entries.length at active
  omega

theorem Booking.gauged (booking : Booking c e c') (fits : c'.size < UInt64.size)
    (gauged : Gauged c) : Gauged c' := by
  have active : c.tally.active.toNat = c.entries.length := gauged.active
  change c'.entries.length < UInt64.size at fits
  suffices both : Dictionary.Ordered c'.entries ∧ c'.tally.active.toNat = c'.entries.length from
    ⟨both.1, both.2⟩
  cases booking with
  | still entries tally sent =>
      rw [entries, tally]
      exact ⟨gauged.ordered, active⟩
  | registered new serving entries reported =>
      have length := gauged.ordered.length_put new.lease.lease.id new
      rw [entries] at fits ⊢
      refine ⟨gauged.ordered.put _ _, ?_⟩
      rw [length] at fits ⊢
      rw [reported.tally, marksOf]
      split
      · exact active
      · rename_i fresh
        rw [if_neg fresh] at fits
        exact LeaseTally.toNat_active_up active fits
  | renewed id old new bound entries reported =>
      have length := gauged.ordered.length_put id new
      rw [bound] at length
      rw [entries]
      refine ⟨gauged.ordered.put _ _, ?_⟩
      rw [reported.tally, length]
      exact active
  | rotated previous old new bound entries reported =>
      have ordered := gauged.ordered.erase previous.lease.id
      have shorter := gauged.ordered.length_erase bound
      have length := ordered.length_put new.lease.lease.id new
      rw [entries]
      refine ⟨ordered.put _ _, ?_⟩
      rw [reported.tally, length, marksOf]
      split
      · exact LeaseTally.toNat_active_down (active.trans shorter.symm)
      · exact active.trans shorter.symm
  | removed id old reason bound entries reported =>
      have shorter := gauged.ordered.length_erase bound
      rw [entries, reported.tally]
      refine ⟨gauged.ordered.erase id, ?_⟩
      exact LeaseTally.toNat_active_down (active.trans shorter.symm)
  | closed ends entries tally sent =>
      rw [entries, tally]
      exact ⟨List.Pairwise.nil, rfl⟩

theorem gauged_found {config : LeaseConfig} {h : History Event} {i : Nat} (le : i ≤ h.length)
    (fits : ∀ k ≤ h.length, ((new config).found h k).size < UInt64.size) :
    Gauged ((new config).found h i) := by
  refine History.holds_at (P := fun i => Gauged ((new config).found h i))
    ⟨List.Pairwise.nil, rfl⟩ ?_ i le
  intro i now e here gauged
  have after := fits (i + 1) (History.lt_length_of_place here)
  rw [found_succ here] at after ⊢
  exact (step_effect _ now e).booking.gauged after gauged

/-! ## All calls -/

theorem marks_of_sent {news : List LeaseEvent} (lasts : e ≠ .shutdown)
    (sent : (c.next now e).feed.sent = c.feed.sent ++ news) :
    c.marks now e = news.flatMap (marksOf c.entries) := by
  have heard : c.emitted now e = news := by
    rw [emitted, sent, List.drop_left]
  rw [← heard]
  cases e with
  | shutdown => exact absurd rfl lasts
  | _ => rfl

/-- The calls of an event make the tally what it is afterwards, and none takes the gauge down from
zero. -/
theorem foldlM_marks (gauged : Gauged c) (now : Instant) (e : Event) :
    (c.marks now e).foldlM LeaseTally.mark? c.tally = some (c.next now e).tally := by
  by_cases ends : e = .shutdown
  · subst ends
    rfl
  · cases (step_effect c now e).booking with
    | still entries tally sent =>
        have silent : (c.next now e).feed.sent = c.feed.sent ++ [] :=
          sent.trans (List.append_nil _).symm
        rw [marks_of_sent ends silent, tally]
        rfl
    | registered new serving entries reported =>
        rw [marks_of_sent ends reported.sent, reported.tally, List.flatMap_singleton, marksOf]
        split <;> rfl
    | renewed id old new bound entries reported =>
        rw [marks_of_sent ends reported.sent, reported.tally]
        rfl
    | rotated previous old new bound entries reported =>
        rw [marks_of_sent ends reported.sent, reported.tally, List.flatMap_singleton, marksOf]
        split
        · rw [List.foldlM_cons, LeaseTally.mark?_down (gauged.active_ne_zero bound)]
          rfl
        · rfl
    | removed id old reason bound entries reported =>
        have positive : (c.tally.mark .removal).active ≠ 0 := gauged.active_ne_zero bound
        rw [marks_of_sent ends reported.sent, reported.tally, List.flatMap_singleton]
        change LeaseTally.mark? (c.tally.mark .removal) .down >>= pure = _
        rw [LeaseTally.mark?_down positive]
        rfl
    | closed shut => exact absurd shut ends

/-- The counters of a container are the numbers of events of their kinds that it has sent.  As long
as it has never held `2 ^ 64` leases at a time, for which no memory has room, its gauge is the
number of its entries, and the calls by which each event makes the tally what it is next never take
the gauge down from zero. -/
theorem tally_exact (config : LeaseConfig) (h : History Event) :
    let c := (new config).run h
    c.tally.renewals.toNat = c.feed.sent.countP LeaseEvent.renews % UInt64.size ∧
    c.tally.rotations.toNat = c.feed.sent.countP LeaseEvent.rotates % UInt64.size ∧
    c.tally.removals.toNat = c.feed.sent.countP LeaseEvent.removes % UInt64.size ∧
    ((∀ i ≤ h.length, ((new config).found h i).size < UInt64.size) →
      c.tally.active.toNat = c.size ∧
      ∀ i now e, h[i]? = some (now, e) →
        (((new config).found h i).marks now e).foldlM LeaseTally.mark?
            ((new config).found h i).tally =
          some ((new config).found h (i + 1)).tally) := by
  intro c
  obtain ⟨renewals, rotations, removals⟩ := counted_run config h
  refine ⟨?_, ?_, ?_, ?_⟩
  · rw [renewals, UInt64.toNat_ofNat']
  · rw [rotations, UInt64.toNat_ofNat']
  · rw [removals, UInt64.toNat_ofNat']
  · intro fits
    refine ⟨?_, ?_⟩
    · have gauged := gauged_found (Nat.le_refl h.length) fits
      have whole : (new config).found h h.length = c := congrArg (run _) List.take_length
      exact (whole ▸ gauged).active
    · intro i now e here
      rw [found_succ here]
      exact foldlM_marks (gauged_found (Nat.le_of_lt (History.lt_length_of_place here)) fits) now e

/-- The rotation displaces a lease, so the gauge goes down before the rotation is counted. -/
theorem tally_exact_displacement :
    let c := (new {}).run displacement
    (∀ i ≤ 7, ((new {}).found displacement i).size < UInt64.size) ∧
    c.tally.renewals.toNat = 1 ∧ c.tally.rotations.toNat = 1 ∧ c.tally.active.toNat = 1 ∧
    [Mark.down, .rotation].foldlM LeaseTally.mark? ((new {}).found displacement 6).tally =
      some c.tally := by
  have fits : ∀ i ≤ 7, ((new {}).found displacement i).size < UInt64.size := by decide
  obtain ⟨renewals, rotations, _, gauge⟩ := tally_exact {} displacement
  obtain ⟨active, strict⟩ := gauge fits
  exact ⟨fits, renewals, rotations, active, strict 6 _ _ rfl⟩

end Container

end Leasehold

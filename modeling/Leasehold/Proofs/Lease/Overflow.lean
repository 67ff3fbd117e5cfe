import Leasehold.Proofs.Lease.Stages
import Leasehold.Proofs.Lease.Supersession
import Leasehold.Proofs.Window

/-!
# Leases beyond the clock

The task of a new lease is set for an instant, and if the clock cannot show that
instant, the call that brought the lease fails before it has changed anything:
only the cycle that it answered, if it was one, has ended (`onlyEnds_of_overflow`).
A container in which a cycle has ended goes on as it would have with the cycle
still in flight, as long as nothing answers that cycle (`step_endCycle`).  Hence
everything that comes later finds the same registry and is answered the same
(`overflow_leaves_registry`).
-/

set_option autoImplicit false

namespace Leasehold.Container

variable {c : Container} {now : Instant} {e : Event} {h : History Event} {n m : Nat} {l : Lease}
  {managed : Bool}

/-! ## A container and the one in which a cycle has ended -/

def Change.ending {α : Type} (change : Change α) (n : Nat) : Change α :=
  { change with container := change.container.endCycle n }

theorem register_endCycle : (c.endCycle n).register now l = (c.register now l).ending n := by
  have sameDelay : (c.endCycle n).firstDelay now l = c.firstDelay now l := rfl
  have sameEnd : (c.endCycle n).shutDown = c.shutDown := rfl
  unfold register
  rw [sameDelay, sameEnd]
  cases c.firstDelay now l with
  | error beyond => rfl
  | ok delay => cases c.shutDown <;> rfl

theorem readReply_endCycle (reply : Outcome Secret) :
    (c.endCycle n).readReply now reply = (c.readReply now reply).ending n := by
  match reply with
  | .error fault => rfl
  | .ok ⟨data, none⟩ => rfl
  | .ok ⟨data, some lease⟩ =>
      simp only [readReply, register_endCycle]
      rfl

theorem remove_endCycle (id : String) (reason : RemovalReason) :
    (c.endCycle n).remove id reason =
      ((c.remove id reason).1.endCycle n, (c.remove id reason).2) := by
  have same : (c.endCycle n).entries = c.entries := rfl
  unfold remove
  rw [same]
  cases c.entries.get? id <;> rfl

theorem removeIfCurrent_endCycle (k : LeaseInstance) (reason : RemovalReason) :
    (c.endCycle n).removeIfCurrent k reason = (c.removeIfCurrent k reason).endCycle n := by
  have same : (c.endCycle n).current k = c.current k := rfl
  unfold removeIfCurrent
  rw [same, remove_endCycle]
  cases c.current k <;> rfl

theorem revokeReply_endCycle (id : String) (reply : Outcome Unit) :
    (c.endCycle n).revokeReply id reply = (c.revokeReply id reply).ending n := by
  match reply with
  | .error .overflow => rfl
  | .error (.error fault) =>
      simp only [revokeReply, remove_endCycle]
      rfl
  | .ok () =>
      simp only [revokeReply, remove_endCycle]
      rfl

theorem drop_endCycle (id : String) : (c.endCycle n).drop id = (c.drop id).ending n := by
  unfold drop
  rw [remove_endCycle]
  rcases c.remove id .dropped with ⟨c', removed⟩
  cases removed <;> rfl

theorem beginCycle_endCycle (begun : n < c.cycles.issued) (k : LeaseInstance) :
    (c.endCycle n).beginCycle k = (c.beginCycle k).endCycle n := by
  simp only [beginCycle, endCycle, Numbered.remove_add_of_lt begun]

theorem ring_endCycle (begun : n < c.cycles.issued) (t : Timer LeaseTask) :
    (c.endCycle n).ring t = (c.ring t).ending n := by
  have started : (c.endCycle n).start t.task = (c.start t.task).endCycle n := rfl
  unfold ring
  rw [started]
  cases t.work with
  | expiry k =>
      simp only [removeIfCurrent_endCycle]
      rfl
  | renewal k =>
      have same : ((c.start t.task).endCycle n).current k = (c.start t.task).current k := rfl
      have before : n < (c.start t.task).cycles.issued := begun
      simp only [same, beginCycle_endCycle before]
      cases (c.start t.task).current k <;> rfl

theorem endCycle_comm : (c.endCycle n).endCycle m = (c.endCycle m).endCycle n := by
  simp only [endCycle, Numbered.remove_remove_comm c.cycles n m]

theorem turnToRotation_endCycle :
    (c.endCycle n).turnToRotation m = (c.turnToRotation m).endCycle n := by
  simp only [turnToRotation, endCycle, Numbered.change_remove_comm]

theorem commitRenewal_endCycle (previous : LeaseInstance) :
    (c.endCycle n).commitRenewal now previous l = (c.commitRenewal now previous l).ending n := by
  have sameDelay : (c.endCycle n).renewalDelay now l pauseBetweenCycles =
      c.renewalDelay now l pauseBetweenCycles := rfl
  have sameCurrent : (c.endCycle n).current previous = c.current previous := rfl
  unfold commitRenewal
  rw [sameDelay, sameCurrent]
  cases c.renewalDelay now l pauseBetweenCycles with
  | error beyond => rfl
  | ok delay => cases c.current previous <;> rfl

theorem commitRotation_endCycle (previous : LeaseInstance) :
    (c.endCycle n).commitRotation now previous l = (c.commitRotation now previous l).ending n := by
  have sameDelay : (c.endCycle n).renewalDelay now l pauseBetweenCycles =
      c.renewalDelay now l pauseBetweenCycles := rfl
  have sameCurrent : (c.endCycle n).current previous = c.current previous := rfl
  unfold commitRotation
  rw [sameDelay, sameCurrent]
  cases c.renewalDelay now l pauseBetweenCycles with
  | error beyond => rfl
  | ok delay => cases c.current previous <;> rfl

theorem renewalReply_endCycle (other : m ≠ n) (reply : Outcome Lease) :
    (c.endCycle n).renewalReply now m reply = (c.renewalReply now m reply).ending n := by
  have same : (c.endCycle n).cycles.find? m = c.cycles.find? m :=
    Numbered.find?_remove_of_ne other
  unfold renewalReply
  rw [same, endCycle_comm, turnToRotation_endCycle]
  cases c.cycles.find? m with
  | none => rfl
  | some d =>
      match reply with
      | .error .overflow => rfl
      | .error (.error fault) => rfl
      | .ok renewed =>
          dsimp only
          cases exhausted d.lease.lease renewed with
          | error beyond => rfl
          | ok spent =>
              cases spent with
              | true => rfl
              | false =>
                  simp only [commitRenewal_endCycle]
                  rfl

theorem rotationReply_endCycle (other : m ≠ n) (reply : Outcome Secret) :
    (c.endCycle n).rotationReply now m reply = (c.rotationReply now m reply).ending n := by
  have same : (c.endCycle n).cycles.find? m = c.cycles.find? m :=
    Numbered.find?_remove_of_ne other
  unfold rotationReply
  rw [same, endCycle_comm]
  cases c.cycles.find? m with
  | none => rfl
  | some d =>
      match reply with
      | .error .overflow => rfl
      | .error (.error fault) =>
          simp only [removeIfCurrent_endCycle]
          rfl
      | .ok ⟨data, none⟩ =>
          simp only [removeIfCurrent_endCycle]
          rfl
      | .ok ⟨data, some lease⟩ =>
          simp only [commitRotation_endCycle]

theorem step_endCycle (begun : n < c.cycles.issued) (other : e.cycle? ≠ some n) :
    (c.endCycle n).step now e = (c.step now e).ending n := by
  cases e with
  | openCall => rfl
  | readReply reply => exact readReply_endCycle reply
  | revokeReply id reply => exact revokeReply_endCycle id reply
  | register l => exact register_endCycle
  | drop id => exact drop_endCycle id
  | shutdown => rfl
  | ring t => exact ring_endCycle begun t
  | renewalReply m reply =>
      exact renewalReply_endCycle (fun same => other (congrArg some same)) reply
  | rotationReply m reply =>
      exact rotationReply_endCycle (fun same => other (congrArg some same)) reply

/-! ## When the task of a lease lies beyond the clock -/

/-- An instant that the task of a lease needs lies beyond the clock: for a renewal the one that the
margin leaves or the one of the shortest interval, without renewals the instant of its expiry. -/
def Beyond (w : RenewalWindow) (l : Lease) : Bool → Prop
  | true => ∃ d, l.validity = .finite d ∧
      (Instant.limit ≤ l.issued.nanos + (d.minus w.margin).nanos ∨
        Instant.limit ≤ l.issued.nanos + w.interval.nanos)
  | false => ∃ d, l.validity = .finite d ∧ Instant.limit ≤ l.issued.nanos + d.nanos

/-- An event brings a lease for which a task has to be set: one that is registered, by itself or
with a secret that has been read, as the settings say; one that has been renewed with a gain, or
read again, to be renewed. -/
inductive Commits (c : Container) : Event → Lease → Bool → Prop
  | register (l : Lease) : Commits c (.register l) l (c.config.manages l.path)
  | read (data : Json) (l : Lease) :
      Commits c (.readReply (.ok ⟨data, some l⟩)) l (c.config.manages l.path)
  | renewal (n : Nat) (d : Cycle) (l : Lease) (found : c.cycles.find? n = some d)
      (gain : exhausted d.lease.lease l = .ok false) : Commits c (.renewalReply n (.ok l)) l true
  | rotation (n : Nat) (d : Cycle) (data : Json) (l : Lease) (found : c.cycles.find? n = some d) :
      Commits c (.rotationReply n (.ok ⟨data, some l⟩)) l true

theorem due_eq_error_iff {w : RenewalWindow} :
    w.due l.issued l.validity = .error {} ↔ Beyond w l true := by
  unfold Beyond
  cases l.validity with
  | infinite => exact ⟨nofun, nofun⟩
  | finite d =>
      simp only [Validity.finite.injEq, exists_eq_left', Duration.nanos_minus,
        RenewalWindow.due_eq_error_iff]

theorem renewalDelay_eq_error_iff (now : Instant) (floor : Duration) :
    c.renewalDelay now l floor = .error {} ↔ Beyond c.config.window l true := by
  rw [← due_eq_error_iff]
  unfold renewalDelay RenewalWindow.delay
  cases c.config.window.due l.issued l.validity with
  | error beyond => exact ⟨fun _ => rfl, fun _ => rfl⟩
  | ok due => exact ⟨nofun, nofun⟩

theorem expiryDelay_eq_error_iff (now : Instant) (w : RenewalWindow) :
    expiryDelay now l = .error {} ↔ Beyond w l false := by
  unfold expiryDelay Lease.expiry Validity.expiry Beyond
  cases l.validity with
  | infinite => exact ⟨nofun, nofun⟩
  | finite d =>
      simp only [Validity.finite.injEq, exists_eq_left', ← Instant.plus_eq_error_iff]
      cases l.issued.plus d with
      | error beyond => exact ⟨fun _ => rfl, fun _ => rfl⟩
      | ok last => exact ⟨nofun, nofun⟩

theorem firstDelay_eq_error_iff (now : Instant) :
    c.firstDelay now l = .error {} ↔ Beyond c.config.window l (c.config.manages l.path) := by
  unfold firstDelay
  cases c.config.manages l.path with
  | true => exact renewalDelay_eq_error_iff now .zero
  | false => exact expiryDelay_eq_error_iff now _

theorem register_overflows_iff :
    (c.register now l).result = .error .overflow ↔
      Beyond c.config.window l (c.config.manages l.path) := by
  rw [← firstDelay_eq_error_iff now]
  unfold register
  cases c.firstDelay now l with
  | error beyond => exact ⟨fun _ => rfl, fun _ => rfl⟩
  | ok delay =>
      refine ⟨?_, nofun⟩
      cases closed : c.shutDown <;> exact nofun

theorem commitRenewal_fails_iff {previous : LeaseInstance} :
    (c.commitRenewal now previous l).result = .error {} ↔ Beyond c.config.window l true := by
  rw [← renewalDelay_eq_error_iff now pauseBetweenCycles]
  unfold commitRenewal
  cases c.renewalDelay now l pauseBetweenCycles with
  | error beyond => exact ⟨fun _ => rfl, fun _ => rfl⟩
  | ok delay => exact ⟨nofun, nofun⟩

theorem commitRotation_fails_iff {previous : LeaseInstance} :
    (c.commitRotation now previous l).result = .error {} ↔ Beyond c.config.window l true := by
  rw [← renewalDelay_eq_error_iff now pauseBetweenCycles]
  unfold commitRotation
  cases c.renewalDelay now l pauseBetweenCycles with
  | error beyond => exact ⟨fun _ => rfl, fun _ => rfl⟩
  | ok delay => exact ⟨nofun, nofun⟩

theorem map_eq_error_iff {ε α β : Type} {r : Except ε α} {f : α → β} {e : ε} :
    r.map f = .error e ↔ r = .error e := by
  cases r with
  | error other => simp [Except.map]
  | ok a => exact ⟨nofun, nofun⟩

theorem Commits.overflows_iff (commits : Commits c e l managed) :
    c.Overflows now e ↔ Beyond c.config.window l managed := by
  cases commits with
  | register => exact register_overflows_iff
  | read data => exact map_eq_error_iff.trans register_overflows_iff
  | renewal n d _ found gain =>
      have ending : (c.renewalReply now n (.ok l)).result =
          ((c.endCycle n).commitRenewal now d.lease l).result.map fun _ => none := by
        simp only [renewalReply, found, gain]
      change (c.renewalReply now n (.ok l)).result = .error {} ↔ _
      rw [ending, map_eq_error_iff]
      exact commitRenewal_fails_iff
  | rotation n d data _ found =>
      have ending : (c.rotationReply now n (.ok ⟨data, some l⟩)).result =
          ((c.endCycle n).commitRotation now d.lease l).result := by
        simp only [rotationReply, found]
      change (c.rotationReply now n (.ok ⟨data, some l⟩)).result = .error {} ↔ _
      rw [ending]
      exact commitRotation_fails_iff

/-! ## What an overflow leaves -/

def without (c : Container) : Option Nat → Container
  | none => c
  | some n => c.endCycle n

/-- An event ends the cycle that it answers, if there is one in flight, and does nothing else. -/
structure OnlyEnds (c : Container) (now : Instant) (e : Event) : Prop where
  container : c.next now e = c.without e.cycle?
  timer : (c.step now e).timer = none
  begun : ∀ n, e.cycle? = some n → n < c.cycles.issued

structure Change.Leaves {α : Type} (change : Change α) (c : Container) : Prop where
  container : change.container = c
  timer : change.timer = none

theorem OnlyEnds.of_call (call : e.cycle? = none) (leaves : (c.step now e).Leaves c) :
    OnlyEnds c now e where
  container := by
    rw [call]
    exact leaves.container
  timer := leaves.timer
  begun := by
    rw [call]
    exact nofun

theorem OnlyEnds.of_answer {d : Cycle} (answer : e.cycle? = some n)
    (found : c.cycles.find? n = some d) (leaves : (c.step now e).Leaves (c.endCycle n)) :
    OnlyEnds c now e where
  container := by
    rw [answer]
    exact leaves.container
  timer := leaves.timer
  begun := by
    rw [answer]
    rintro _ ⟨⟩
    exact Numbered.lt_issued (Numbered.find?_eq_some_iff.mp found)

theorem register_leaves (overflow : (c.register now l).result = .error .overflow) :
    (c.register now l).Leaves c := by
  unfold register at overflow ⊢
  cases due : c.firstDelay now l with
  | error beyond => exact ⟨rfl, rfl⟩
  | ok delay =>
      rw [due] at overflow
      cases closed : c.shutDown with
      | true =>
          simp only [closed, if_true] at overflow
          cases overflow
      | false =>
          simp only [closed] at overflow
          cases overflow

theorem commitRenewal_leaves {previous : LeaseInstance}
    (overflow : (c.commitRenewal now previous l).result = .error {}) :
    (c.commitRenewal now previous l).Leaves c := by
  unfold commitRenewal at overflow ⊢
  cases due : c.renewalDelay now l pauseBetweenCycles with
  | error beyond => exact ⟨rfl, rfl⟩
  | ok delay =>
      rw [due] at overflow
      cases overflow

theorem commitRotation_leaves {previous : LeaseInstance}
    (overflow : (c.commitRotation now previous l).result = .error {}) :
    (c.commitRotation now previous l).Leaves c := by
  unfold commitRotation at overflow ⊢
  cases due : c.renewalDelay now l pauseBetweenCycles with
  | error beyond => exact ⟨rfl, rfl⟩
  | ok delay =>
      rw [due] at overflow
      cases overflow

theorem readReply_leaves {reply : Outcome Secret} (overflow : c.Overflows now (.readReply reply)) :
    (c.readReply now reply).Leaves c := by
  match reply with
  | .error fault => exact ⟨rfl, rfl⟩
  | .ok ⟨data, none⟩ => exact ⟨rfl, rfl⟩
  | .ok ⟨data, some lease⟩ =>
      have same : (c.register now lease).result.map (fun k => (data, some k)) = .error .overflow :=
        overflow
      have leaves := register_leaves (map_eq_error_iff.mp same)
      exact ⟨leaves.container, leaves.timer⟩

theorem revokeReply_leaves {id : String} {reply : Outcome Unit}
    (overflow : c.Overflows now (.revokeReply id reply)) : (c.revokeReply id reply).Leaves c := by
  match reply with
  | .error .overflow => exact ⟨rfl, rfl⟩
  | .error (.error fault) => cases overflow
  | .ok () => cases overflow

theorem renewalReply_leaves {d : Cycle} {reply : Outcome Lease}
    (found : c.cycles.find? n = some d)
    (overflow : (c.renewalReply now n reply).result = .error {}) :
    (c.renewalReply now n reply).Leaves (c.endCycle n) := by
  unfold renewalReply at overflow ⊢
  rw [found] at overflow ⊢
  match reply with
  | .error .overflow => exact ⟨rfl, rfl⟩
  | .error (.error fault) => cases overflow
  | .ok renewed =>
      dsimp only at overflow ⊢
      cases gain : exhausted d.lease.lease renewed with
      | error beyond => exact ⟨rfl, rfl⟩
      | ok spent =>
          rw [gain] at overflow
          cases spent with
          | true => cases overflow
          | false =>
              have leaves := commitRenewal_leaves (map_eq_error_iff.mp overflow)
              exact ⟨leaves.container, leaves.timer⟩

theorem rotationReply_leaves {d : Cycle} {reply : Outcome Secret}
    (found : c.cycles.find? n = some d)
    (overflow : (c.rotationReply now n reply).result = .error {}) :
    (c.rotationReply now n reply).Leaves (c.endCycle n) := by
  unfold rotationReply at overflow ⊢
  rw [found] at overflow ⊢
  match reply with
  | .error .overflow => exact ⟨rfl, rfl⟩
  | .error (.error fault) => cases overflow
  | .ok ⟨data, none⟩ => cases overflow
  | .ok ⟨data, some lease⟩ => exact commitRotation_leaves overflow

theorem onlyEnds_of_overflow (overflow : c.Overflows now e) : OnlyEnds c now e := by
  cases e with
  | openCall | drop id | shutdown | ring t => exact overflow.elim
  | register l => exact .of_call rfl (register_leaves overflow)
  | readReply reply => exact .of_call rfl (readReply_leaves overflow)
  | revokeReply id reply => exact .of_call rfl (revokeReply_leaves overflow)
  | renewalReply m reply =>
      cases found : c.cycles.find? m with
      | none =>
          have ignored : (c.renewalReply now m reply).result = .ok none := by
            simp only [renewalReply, found]
          cases ignored.symm.trans overflow
      | some d => exact .of_answer rfl found (renewalReply_leaves found overflow)
  | rotationReply m reply =>
      cases found : c.cycles.find? m with
      | none =>
          have ignored : (c.rotationReply now m reply).result = .ok () := by
            simp only [rotationReply, found]
          cases ignored.symm.trans overflow
      | some d => exact .of_answer rfl found (rotationReply_leaves found overflow)

/-! ## What comes later -/

/-- As long as nothing answers a cycle, a history leads to the same with the cycle as without. -/
theorem run_endCycle (begun : n < c.cycles.issued)
    (others : ∀ x ∈ h, x.2.cycle? ≠ some n) : (c.endCycle n).run h = (c.run h).endCycle n := by
  induction h generalizing c with
  | nil => rfl
  | cons event rest ih =>
      obtain ⟨now, e⟩ := event
      have here : (c.endCycle n).next now e = (c.next now e).endCycle n :=
        congrArg Change.container (step_endCycle begun (others _ List.mem_cons_self))
      change run ((c.endCycle n).next now e) rest = (run (c.next now e) rest).endCycle n
      rw [here]
      exact ih (Nat.lt_of_lt_of_le begun (step_effect c now e).begun_le)
        fun x later => others x (List.mem_cons_of_mem _ later)

def Event.Elsewhere (cycle : Option Nat) (e : Event) : Prop :=
  e.cycle? = none ∨ e.cycle? ≠ cycle

/-- Two containers answer an event alike and set the same timer. -/
structure Alike (c c' : Container) (now : Instant) (e : Event) : Prop where
  result : (c'.step now e).result = (c.step now e).result
  timer : (c'.step now e).timer = (c.step now e).timer

section Without

variable {cycle : Option Nat}

theorem unmoved_without (c : Container) (cycle : Option Nat) : Unmoved c (c.without cycle) := by
  cases cycle <;> exact ⟨rfl, rfl, rfl, rfl⟩

theorem Event.Elsewhere.ne (other : e.Elsewhere (some n)) : e.cycle? ≠ some n := by
  rcases other with none | different
  · rw [none]
    exact nofun
  · exact different

theorem alike_without (begun : ∀ n, cycle = some n → n < c.cycles.issued)
    (other : e.Elsewhere cycle) : Alike c (c.without cycle) now e := by
  cases cycle with
  | none => exact ⟨rfl, rfl⟩
  | some n =>
      have same : (c.endCycle n).step now e = (c.step now e).ending n :=
        step_endCycle (begun n rfl) other.ne
      refine ⟨?_, ?_⟩
      · change ((c.endCycle n).step now e).result = _
        rw [same]
        rfl
      · change ((c.endCycle n).step now e).timer = _
        rw [same]
        rfl

theorem run_without (begun : ∀ n, cycle = some n → n < c.cycles.issued)
    (others : ∀ x ∈ h, x.2.Elsewhere cycle) :
    (c.without cycle).run h = (c.run h).without cycle := by
  cases cycle with
  | none => rfl
  | some n => exact run_endCycle (begun n rfl) fun x member => (others x member).ne

end Without

/-- What ends a call or a cycle that brings a lease is that an instant which its task needs lies
beyond the clock, and then nothing has changed: the registry, the tallies, the events and the tasks
are as before, and no timer has been set.  Whatever comes later, but an answer to the cycle that has
ended, is answered as it would have been, sets the same timer, and leads to the same container. -/
theorem overflow_leaves_registry (c : Container) (now : Instant) (e : Event) :
    (∀ l managed, Commits c e l managed →
      (c.Overflows now e ↔ Beyond c.config.window l managed)) ∧
    (c.Overflows now e →
      Unmoved c (c.next now e) ∧ (c.step now e).timer = none ∧
        c.next now e = c.without e.cycle? ∧
        ∀ later, (∀ x ∈ later, x.2.Elsewhere e.cycle?) →
          Unmoved (c.run later) ((c.next now e).run later) ∧
          (c.next now e).run later = (c.run later).without e.cycle? ∧
          ∀ now' e', e'.Elsewhere e.cycle? →
            Alike (c.run later) ((c.next now e).run later) now' e') := by
  refine ⟨fun l managed commits => commits.overflows_iff, fun overflow => ?_⟩
  have ends := onlyEnds_of_overflow overflow
  rw [ends.container]
  refine ⟨unmoved_without c _, ends.timer, rfl, fun later others => ?_⟩
  rw [run_without ends.begun others]
  refine ⟨unmoved_without _ _, rfl, fun now' e' other => alike_without ?_ other⟩
  intro n answers
  have within := begun_le_found c later (Nat.zero_le later.length)
  rw [found_length] at within
  exact Nat.lt_of_lt_of_le (ends.begun n answers) within

/-- The renewal of one of two leases fails, and its path is to be read again. -/
def toBeReadAgain : History Event :=
  [(⟨0⟩, .register (twoMinutes "a" 0)),
    (⟨0⟩, .register (twoMinutes "b" 0)),
    (⟨60⟩, .ring ⟨0, .ofSecs 60, .renewal ⟨0, twoMinutes "a" 0⟩⟩),
    (⟨61⟩, .renewalReply 0 (.error (.error .shutdown)))]

/-- A lease that is to be renewed when the clock has come to its end. -/
def ages : Lease := { twoMinutes "c" 62 with validity := .finite (.ofSecs 9223372036854775868) }

theorem overflow_leaves_registry_toBeReadAgain :
    let c := (new {}).run toBeReadAgain
    let reply : Event := .rotationReply 0 (.ok ⟨.null, some ages⟩)
    Beyond c.config.window ages true ∧ c.Overflows ⟨62⟩ reply ∧ Unmoved c (c.next ⟨62⟩ reply) ∧
      Alike c (c.next ⟨62⟩ reply) ⟨63⟩ (.drop "b") := by
  intro c reply
  obtain ⟨sites, leaves⟩ := overflow_leaves_registry c ⟨62⟩ reply
  have beyond : Beyond c.config.window ages true := ⟨_, rfl, Or.inl (by decide)⟩
  have overflow : c.Overflows ⟨62⟩ reply := (sites ages true (.rotation 0 _ _ _ rfl)).mpr beyond
  obtain ⟨unmoved, _, _, after⟩ := leaves overflow
  exact ⟨beyond, overflow, unmoved, (after [] nofun).2.2 ⟨63⟩ (.drop "b") (Or.inl rfl)⟩

end Leasehold.Container

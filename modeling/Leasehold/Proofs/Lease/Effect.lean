import Leasehold.Lease.Container
import Leasehold.Proofs.History

/-!
# Effects of events on a container

`Effect` lists what an event can do to a container, each with the conditions
under which it does so, and `step_effect` says that nothing else happens.  What
an event carries (a lease, the number of a cycle, a removal) is read off it by
the functions before, and the conditions that the world around a container
keeps to are stated with them: a scheduler that starts live tasks only, a server
that keeps the identifier of a lease, and instants within the clock.
-/

set_option autoImplicit false

namespace Leasehold.Container

def next (c : Container) (now : Instant) (e : Event) : Container := (c.step now e).container

abbrev run (c : Container) (h : History Event) : Container := History.after next c h

def Event.lease? : Event → Option Lease
  | .readReply (.ok ⟨_, lease⟩) => lease
  | .register l => some l
  | .renewalReply _ (.ok l) => some l
  | .rotationReply _ (.ok ⟨_, lease⟩) => lease
  | _ => none

def Event.cycle? : Event → Option Nat
  | .renewalReply id _ => some id
  | .rotationReply id _ => some id
  | _ => none

def Event.removal? : Event → Option (String × RemovalReason)
  | .revokeReply _ (.error .overflow) => none
  | .revokeReply id _ => some (id, .revoked)
  | .drop id => some (id, .dropped)
  | _ => none

def Event.Overflowed : (e : Event) → e.Answer → Prop
  | .readReply _, answer => answer = .error .overflow
  | .revokeReply _ _, answer => answer = .error .overflow
  | .register _, answer => answer = .error .overflow
  | .renewalReply _ _, answer => answer = .error {}
  | .rotationReply _ _, answer => answer = .error {}
  | .openCall, _ | .drop _, _ | .shutdown, _ | .ring _, _ => False

def Overflows (c : Container) (now : Instant) (e : Event) : Prop :=
  e.Overflowed (c.step now e).result

/-- A timer rings only for a live task, and for the work that it was set for. -/
def StartsLiveTask (c : Container) : Event → Prop
  | .ring t => ∃ u, c.timers.find? t.task = some u ∧ u.work = t.work
  | _ => True

def KeepsIdentifier (c : Container) : Event → Prop
  | .renewalReply id (.ok renewed) =>
      ∀ d, c.cycles.find? id = some d → renewed.id = d.lease.lease.id
  | _ => True

/-- What an event can do to a container. -/
inductive Effect (c : Container) (now : Instant) : Event → Container → Prop
  | nothing (e : Event) : Effect c now e c
  | refused (e : Event) (l : Lease) (delay : Option Duration)
      (brought : e.lease? = some l) (unasked : e.cycle? = none)
      (due : c.firstDelay now l = .ok delay) (closed : c.shutDown = true) :
      Effect c now e (c.prepare now l (c.config.manages l.path) delay).discarded
  | registered (e : Event) (l : Lease) (delay : Option Duration)
      (brought : e.lease? = some l) (unasked : e.cycle? = none)
      (due : c.firstDelay now l = .ok delay) (serving : c.shutDown = false) :
      Effect c now e (c.prepare now l (c.config.manages l.path) delay).registered
  | removed (e : Event) (id : String) (reason : RemovalReason) (entry : Entry)
      (asked : e.removal? = some (id, reason)) (bound : c.entries.get? id = some entry) :
      Effect c now e (c.forget id entry reason)
  | shutdown : Effect c now .shutdown c.shutdown
  | missed (t : Timer LeaseTask) (gone : c.current t.work.lease = false) :
      Effect c now (.ring t) (c.start t.task)
  | expired (t : Timer LeaseTask) (l : LeaseInstance) (entry : Entry) (work : t.work = .expiry l)
      (current : c.current l = true) (bound : c.entries.get? l.lease.id = some entry) :
      Effect c now (.ring t) ((c.start t.task).forget l.lease.id entry .expired)
  | began (t : Timer LeaseTask) (l : LeaseInstance) (work : t.work = .renewal l)
      (current : c.current l = true) :
      Effect c now (.ring t) ((c.start t.task).beginCycle l)
  | turned (id : Nat) (reply : Outcome Lease) (d : Cycle) (found : c.cycles.find? id = some d)
      (failed : ∀ l, reply = .ok l → exhausted d.lease.lease l = .ok true) :
      Effect c now (.renewalReply id reply) (c.turnToRotation id)
  | broken (e : Event) (id : Nat) (d : Cycle) (answers : e.cycle? = some id)
      (found : c.cycles.find? id = some d) (overflow : c.Overflows now e) :
      Effect c now e (c.endCycle id)
  | ended (e : Event) (id : Nat) (d : Cycle) (answers : e.cycle? = some id)
      (found : c.cycles.find? id = some d) (gone : c.current d.lease = false) :
      Effect c now e (c.endCycle id)
  | discarded (e : Event) (id : Nat) (d : Cycle) (l : Lease) (delay : Option Duration)
      (answers : e.cycle? = some id) (found : c.cycles.find? id = some d)
      (brought : e.lease? = some l)
      (due : c.renewalDelay now l pauseBetweenCycles = .ok delay)
      (gone : c.current d.lease = false) :
      Effect c now e ((c.endCycle id).prepare now l true delay).discarded
  | lapsed (id : Nat) (reply : Outcome Secret) (d : Cycle) (entry : Entry)
      (found : c.cycles.find? id = some d) (without : (Event.rotationReply id reply).lease? = none)
      (current : c.current d.lease = true)
      (bound : c.entries.get? d.lease.lease.id = some entry) :
      Effect c now (.rotationReply id reply)
        ((c.endCycle id).forget d.lease.lease.id entry .expired)
  | renewed (id : Nat) (d : Cycle) (l : Lease) (delay : Option Duration)
      (found : c.cycles.find? id = some d) (gain : exhausted d.lease.lease l = .ok false)
      (due : c.renewalDelay now l pauseBetweenCycles = .ok delay)
      (current : c.current d.lease = true) :
      Effect c now (.renewalReply id (.ok l))
        (((c.endCycle id).prepare now l true delay).renewed d.lease)
  | rotated (id : Nat) (d : Cycle) (data : Json) (l : Lease) (delay : Option Duration)
      (found : c.cycles.find? id = some d)
      (due : c.renewalDelay now l pauseBetweenCycles = .ok delay)
      (current : c.current d.lease = true) :
      Effect c now (.rotationReply id (.ok ⟨data, some l⟩))
        (((c.endCycle id).prepare now l true delay).rotated d.lease)

variable {c : Container} {now : Instant}

/-! ## Nothing else happens -/

theorem current_iff {l : LeaseInstance} :
    c.current l = true ↔ c.shutDown = false ∧
      ∃ entry, c.entries.get? l.lease.id = some entry ∧ entry.lease.serial = l.serial := by
  unfold current get?
  cases bound : c.entries.get? l.lease.id <;> simp

theorem register_effect (e : Event) (l : Lease) (brought : e.lease? = some l)
    (unasked : e.cycle? = none) : Effect c now e (c.register now l).container := by
  unfold register
  split
  · exact .nothing e
  · rename_i delay due
    dsimp only
    split
    · rename_i closed
      exact .refused e l delay brought unasked due closed
    · rename_i serving
      exact .registered e l delay brought unasked due (by simpa using serving)

theorem readReply_effect (reply : Outcome Secret) :
    Effect c now (.readReply reply) (c.readReply now reply).container := by
  match reply with
  | .error fault => exact .nothing _
  | .ok ⟨data, none⟩ => exact .nothing _
  | .ok ⟨data, some lease⟩ => exact register_effect _ lease rfl rfl

theorem remove_effect (e : Event) (id : String) (reason : RemovalReason)
    (asked : e.removal? = some (id, reason)) : Effect c now e (c.remove id reason).1 := by
  cases bound : c.entries.get? id with
  | none =>
      simp only [remove, bound]
      exact .nothing e
  | some entry =>
      simp only [remove, bound]
      exact .removed e id reason entry asked bound

theorem drop_effect (id : String) : Effect c now (.drop id) (c.drop id).container := by
  have removed : (c.drop id).container = (c.remove id .dropped).1 := by
    unfold drop
    split <;> rename_i taken <;> rw [taken]
  rw [removed]
  exact remove_effect _ id .dropped rfl

theorem revokeReply_effect (id : String) (reply : Outcome Unit) :
    Effect c now (.revokeReply id reply) (c.revokeReply id reply).container := by
  match reply with
  | .error .overflow => exact .nothing _
  | .error (.error fault) => exact remove_effect _ id .revoked rfl
  | .ok () => exact remove_effect _ id .revoked rfl

theorem removeIfCurrent_of_current (l : LeaseInstance) (reason : RemovalReason)
    (current : c.current l = true) :
    ∃ entry, c.entries.get? l.lease.id = some entry ∧
      c.removeIfCurrent l reason = c.forget l.lease.id entry reason := by
  obtain ⟨_, entry, bound, _⟩ := current_iff.mp current
  exact ⟨entry, bound, by simp only [removeIfCurrent, current, if_true, remove, bound]⟩

theorem removeIfCurrent_of_gone (l : LeaseInstance) (reason : RemovalReason)
    (gone : c.current l = false) : c.removeIfCurrent l reason = c := by
  simp [removeIfCurrent, gone]

theorem ring_effect (t : Timer LeaseTask) : Effect c now (.ring t) (c.ring t).container := by
  have same : ∀ l, (c.start t.task).current l = c.current l := fun _ => rfl
  cases work : t.work with
  | expiry l =>
      simp only [ring, work]
      cases current : c.current l with
      | true =>
          obtain ⟨entry, bound, removed⟩ :=
            removeIfCurrent_of_current (c := c.start t.task) l .expired (same l ▸ current)
          rw [removed]
          exact .expired t l entry work current bound
      | false =>
          rw [removeIfCurrent_of_gone l .expired (same l ▸ current)]
          exact .missed t (by rwa [work])
  | renewal l =>
      simp only [ring, work, same]
      cases current : c.current l with
      | true => exact .began t l work current
      | false => exact .missed t (by rwa [work])

theorem commitRenewal_effect (id : Nat) (d : Cycle) (l : Lease) (found : c.cycles.find? id = some d)
    (gain : exhausted d.lease.lease l = .ok false) :
    Effect c now (.renewalReply id (.ok l))
      ((c.endCycle id).commitRenewal now d.lease l).container := by
  have sameDelay : (c.endCycle id).renewalDelay now l pauseBetweenCycles =
      c.renewalDelay now l pauseBetweenCycles := rfl
  have sameCurrent : (c.endCycle id).current d.lease = c.current d.lease := rfl
  cases due : c.renewalDelay now l pauseBetweenCycles with
  | error beyond =>
      have overflow : c.Overflows now (.renewalReply id (.ok l)) := by
        simp [Overflows, Event.Overflowed, step, renewalReply, found, gain, commitRenewal,
          sameDelay, due, Except.map]
      simp only [commitRenewal, sameDelay, due]
      exact .broken _ id d rfl found overflow
  | ok delay =>
      simp only [commitRenewal, sameDelay, sameCurrent, due]
      cases current : c.current d.lease with
      | true => exact .renewed id d l delay found gain due current
      | false => exact .discarded _ id d l delay rfl found rfl due current

theorem renewalReply_effect (id : Nat) (reply : Outcome Lease) :
    Effect c now (.renewalReply id reply) (c.renewalReply now id reply).container := by
  cases found : c.cycles.find? id with
  | none =>
      simp only [renewalReply, found]
      exact .nothing _
  | some d =>
      match reply with
      | .error .overflow =>
          have overflow : c.Overflows now (.renewalReply id (.error .overflow)) := by
            simp [Overflows, Event.Overflowed, step, renewalReply, found]
          simp only [renewalReply, found]
          exact .broken _ id d rfl found overflow
      | .error (.error fault) =>
          simp only [renewalReply, found]
          exact .turned id _ d found (by simp)
      | .ok l =>
          cases gain : exhausted d.lease.lease l with
          | error beyond =>
              have overflow : c.Overflows now (.renewalReply id (.ok l)) := by
                simp [Overflows, Event.Overflowed, step, renewalReply, found, gain]
              simp only [renewalReply, found, gain]
              exact .broken _ id d rfl found overflow
          | ok spent =>
              cases spent with
              | true =>
                  simp only [renewalReply, found, gain]
                  exact .turned id _ d found (by rintro _ ⟨⟩; exact gain)
              | false =>
                  simp only [renewalReply, found, gain]
                  exact commitRenewal_effect id d l found gain

theorem commitRotation_effect (id : Nat) (d : Cycle) (data : Json) (l : Lease)
    (found : c.cycles.find? id = some d) :
    Effect c now (.rotationReply id (.ok ⟨data, some l⟩))
      ((c.endCycle id).commitRotation now d.lease l).container := by
  have sameDelay : (c.endCycle id).renewalDelay now l pauseBetweenCycles =
      c.renewalDelay now l pauseBetweenCycles := rfl
  have sameCurrent : (c.endCycle id).current d.lease = c.current d.lease := rfl
  cases due : c.renewalDelay now l pauseBetweenCycles with
  | error beyond =>
      have overflow : c.Overflows now (.rotationReply id (.ok ⟨data, some l⟩)) := by
        simp [Overflows, Event.Overflowed, step, rotationReply, found, commitRotation, sameDelay,
          due]
      simp only [commitRotation, sameDelay, due]
      exact .broken _ id d rfl found overflow
  | ok delay =>
      simp only [commitRotation, sameDelay, sameCurrent, due]
      cases current : c.current d.lease with
      | true => exact .rotated id d data l delay found due current
      | false => exact .discarded _ id d l delay rfl found rfl due current

theorem lapse_effect (id : Nat) (reply : Outcome Secret) (d : Cycle)
    (found : c.cycles.find? id = some d)
    (without : (Event.rotationReply id reply).lease? = none) :
    Effect c now (.rotationReply id reply)
      ((c.endCycle id).removeIfCurrent d.lease .expired) := by
  have same : (c.endCycle id).current d.lease = c.current d.lease := rfl
  cases current : c.current d.lease with
  | true =>
      obtain ⟨entry, bound, removed⟩ :=
        removeIfCurrent_of_current (c := c.endCycle id) d.lease .expired (same ▸ current)
      rw [removed]
      exact .lapsed id reply d entry found without current bound
  | false =>
      rw [removeIfCurrent_of_gone d.lease .expired (same ▸ current)]
      exact .ended _ id d rfl found current

theorem rotationReply_effect (id : Nat) (reply : Outcome Secret) :
    Effect c now (.rotationReply id reply) (c.rotationReply now id reply).container := by
  cases found : c.cycles.find? id with
  | none =>
      simp only [rotationReply, found]
      exact .nothing _
  | some d =>
      match reply with
      | .error .overflow =>
          have overflow : c.Overflows now (.rotationReply id (.error .overflow)) := by
            simp [Overflows, Event.Overflowed, step, rotationReply, found]
          simp only [rotationReply, found]
          exact .broken _ id d rfl found overflow
      | .error (.error fault) =>
          simp only [rotationReply, found]
          exact lapse_effect id _ d found rfl
      | .ok ⟨data, none⟩ =>
          simp only [rotationReply, found]
          exact lapse_effect id _ d found rfl
      | .ok ⟨data, some l⟩ =>
          simp only [rotationReply, found]
          exact commitRotation_effect id d data l found

theorem step_effect (c : Container) (now : Instant) (e : Event) :
    Effect c now e (c.next now e) := by
  cases e with
  | openCall => exact .nothing _
  | readReply reply => exact readReply_effect reply
  | revokeReply id reply => exact revokeReply_effect id reply
  | register l => exact register_effect _ l rfl rfl
  | drop id => exact drop_effect id
  | shutdown => exact .shutdown
  | ring t => exact ring_effect t
  | renewalReply id reply => exact renewalReply_effect id reply
  | rotationReply id reply => exact rotationReply_effect id reply

/-! ## A lease for runs on fixed inputs -/

def twoMinutes (id : String) (issued : Nat) : Lease where
  id := id
  path := "database/creds/app"
  data := .null
  issued := ⟨issued⟩
  validity := .finite (.ofSecs 120)
  renewable := true

end Leasehold.Container

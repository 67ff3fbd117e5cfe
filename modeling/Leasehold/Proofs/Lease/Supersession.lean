import Leasehold.Proofs.Lease.Registry

/-!
# Superseded leases

The registry and a cycle in flight agree by instance, not by identifier or
contents.  Once the lease of a cycle has left the registry, whichever way it
went, the cycle is without effect for the rest of its life (`superseded_reply`):
a lease that has been dropped and registered again is another instance.
-/

set_option autoImplicit false

namespace Leasehold.Container

variable {c c' : Container} {now : Instant} {e : Event}

/-- Whatever the world can see of a container is as it was: registry, tallies, events and tasks. -/
structure Unmoved (c c' : Container) : Prop where
  entries : c'.entries = c.entries
  tally : c'.tally = c.tally
  feed : c'.feed = c.feed
  live : c'.timers.items = c.timers.items

/-- A number that stands for a cycle whose lease has left the registry.  The cycle need not be in
flight any more. -/
structure Superseded (c : Container) (n : Nat) (l : LeaseInstance) : Prop where
  absent : ¬ c.Registers l
  taken : l.serial < c.serials
  begun : n < c.cycles.issued
  lease : ∀ d, (n, d) ∈ c.cycles.items → d.lease = l

theorem Effect.absent (effect : Effect c now e c') {l : LeaseInstance}
    (taken : l.serial < c.serials) (absent : ¬ c.Registers l) : ¬ c'.Registers l := by
  rintro ⟨id, entry, bound, same⟩
  obtain ⟨added, gains⟩ := effect.gains
  rcases gains.old id entry bound with before | new
  · exact absent ⟨id, entry, before, same⟩
  · have next := (gains.new id entry new).serial
    omega

theorem Effect.superseded (effect : Effect c now e c') {n : Nat} {l : LeaseInstance}
    (superseded : Superseded c n l) : Superseded c' n l where
  absent := effect.absent superseded.taken superseded.absent
  taken := Nat.lt_of_lt_of_le superseded.taken effect.serials_le
  begun := Nat.lt_of_lt_of_le superseded.begun effect.begun_le
  lease := by
    intro d flying
    rcases (effect.cycle_origin flying).lease with ⟨before, member, same⟩ | ⟨number, _⟩
    · rw [← same]
      exact superseded.lease before member
    · have lower := superseded.begun
      omega

theorem Event.removal?_of_cycle? {n : Nat} (answers : e.cycle? = some n) : e.removal? = none := by
  cases e <;> first | rfl | cases answers

theorem Effect.unmoved (effect : Effect c now e c') {n : Nat} (answers : e.cycle? = some n)
    (gone : ∀ d, c.cycles.find? n = some d → c.current d.lease = false) : Unmoved c c' := by
  have still : Unmoved c c := ⟨rfl, rfl, rfl, rfl⟩
  have contrary : ∀ d, c.cycles.find? n = some d → c.current d.lease = true → Unmoved c c' := by
    intro d found current
    cases current.symm.trans (gone d found)
  cases effect with
  | nothing => exact still
  | refused e l delay brought unasked => cases unasked.symm.trans answers
  | registered e l delay brought unasked => cases unasked.symm.trans answers
  | removed e id reason entry asked =>
      cases (Event.removal?_of_cycle? answers).symm.trans asked
  | shutdown => cases answers
  | missed t => cases answers
  | expired t l entry => cases answers
  | began t l => cases answers
  | turned id reply d => exact ⟨rfl, rfl, rfl, rfl⟩
  | broken e id d => exact ⟨rfl, rfl, rfl, rfl⟩
  | ended e id d => exact ⟨rfl, rfl, rfl, rfl⟩
  | discarded e id d l delay =>
      exact ⟨rfl, rfl, rfl, live_discarded (c.endCycle id) now l true delay⟩
  | lapsed id reply d entry found without current =>
      cases answers
      exact contrary d found current
  | renewed id d l delay found gain due current =>
      cases answers
      exact contrary d found current
  | rotated id d data l delay found due current =>
      cases answers
      exact contrary d found current

/-- Once the lease of a cycle in flight has left the registry, whatever happens afterwards and
whatever the server answers, no reply to the cycle moves anything. -/
theorem superseded_reply (config : LeaseConfig) (before meanwhile : History Event) (n : Nat)
    (d : Cycle) (flying : ((new config).run before).cycles.find? n = some d)
    (left : ¬ ((new config).run before).Registers d.lease) (now : Instant) (e : Event)
    (answers : e.cycle? = some n) :
    Unmoved ((new config).run (before ++ meanwhile))
      (((new config).run (before ++ meanwhile)).next now e) := by
  have member := Numbered.find?_eq_some_iff.mp flying
  have numbering := numbering_run config before
  have start : Superseded ((new config).run before) n d.lease :=
    { absent := left
      taken := numbering.cycle_lt n d member
      begun := Numbered.lt_issued member
      lease := fun twin other => congrArg Cycle.lease (Numbered.eq_of_mem other member) }
  have superseded : Superseded ((new config).run (before ++ meanwhile)) n d.lease := by
    rw [run, History.after_append]
    exact History.invariant_after (fun c now e before => (step_effect c now e).superseded before)
      meanwhile start
  refine (step_effect _ now e).unmoved answers ?_
  intro twin found
  have same := superseded.lease twin (Numbered.find?_eq_some_iff.mp found)
  rw [same]
  exact Bool.eq_false_iff.mpr fun current => superseded.absent (registers_of_current current)

def droppedInFlight : History Event :=
  [(⟨0⟩, .register (twoMinutes "a" 0)),
    (⟨60⟩, .ring ⟨0, .ofSecs 60, .renewal ⟨0, twoMinutes "a" 0⟩⟩),
    (⟨61⟩, .drop "a")]

/-- An equal lease is registered in its place before the renewal ends. -/
theorem superseded_reply_readmitted :
    let c := (new {}).run (droppedInFlight ++ [(⟨62⟩, .register (twoMinutes "a" 0))])
    Unmoved c (c.next ⟨63⟩ (.renewalReply 0 (.ok (twoMinutes "a" 63)))) := by
  refine superseded_reply {} _ _ 0 ⟨⟨0, twoMinutes "a" 0⟩, .renewing⟩ rfl ?_ ⟨63⟩ _ rfl
  rintro ⟨id, entry, bound, _⟩
  cases bound

end Leasehold.Container

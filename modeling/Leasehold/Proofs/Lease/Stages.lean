import Leasehold.Proofs.Lease.Timers

/-!
# The stages of a cycle

A cycle begins once, for one lease, and has that lease as long as it is in
flight (`Begins.unique`, `Begins.flying`).  From stage to stage it only goes
forward (`Effect.stages`): it waits for its renewal first, if the lease can be
renewed, and then for the read.  Its lease, if it is in the registry at all, is
the registered one (`Begins.current_of_registers`).
-/

set_option autoImplicit false

namespace Leasehold.Container

variable {c c' : Container} {now : Instant} {e : Event} {config : LeaseConfig} {h : History Event}
  {i k n p q : Nat} {l m : LeaseInstance} {d : Cycle}

/-! ## The way of a cycle -/

theorem begun_le_found (c : Container) (h : History Event) (le : i ≤ k) :
    (c.found h i).cycles.issued ≤ (c.found h k).cycles.issued := by
  refine History.invariant_later
    (I := fun c' : Container => (c.found h i).cycles.issued ≤ c'.cycles.issued)
    (fun c' now e held => ?_) le (Nat.le_refl _)
  exact Nat.le_trans held (step_effect c' now e).begun_le

theorem Begins.number (begins : Begins c h i n l) :
    n = (c.found h i).cycles.issued ∧ (c.found h (i + 1)).cycles.issued = n + 1 := by
  obtain ⟨now, t, here, _, result⟩ := begins
  obtain ⟨_, _, _, number, _, container⟩ := ring_begins result
  refine ⟨number, ?_⟩
  rw [found_succ here]
  change ((c.found h i).ring t).container.cycles.issued = n + 1
  rw [container, number]
  rfl

theorem Begins.unique (first : Begins c h i n l) (second : Begins c h k n m) : i = k ∧ l = m := by
  have place : i = k := by
    rcases Nat.lt_trichotomy i k with before | equal | after
    · have later := begun_le_found c h (show i + 1 ≤ k from before)
      have first := first.number
      have second := second.number
      omega
    · exact equal
    · have later := begun_le_found c h (show k + 1 ≤ i from after)
      have first := first.number
      have second := second.number
      omega
  subst place
  obtain ⟨now, t, here, work, _⟩ := first
  obtain ⟨_, _, there, other, _⟩ := second
  cases here.symm.trans there
  cases work.symm.trans other
  exact ⟨rfl, rfl⟩

theorem Begins.flying (begins : Begins (new config) h p n l) (le : k ≤ h.length)
    (flying : (n, d) ∈ ((new config).found h k).cycles.items) : p < k ∧ d.lease = l := by
  obtain ⟨i, earlier, began⟩ := cycle_begun le flying rfl
  obtain ⟨rfl, same⟩ := began.unique begins
  exact ⟨earlier, same⟩

def Stages (n : Nat) (S : CycleStage → Prop) (c : Container) : Prop :=
  n < c.cycles.issued ∧ ∀ d, (n, d) ∈ c.cycles.items → S d.stage

/-- A cycle does not go back to the renewal. -/
theorem Effect.stages {S : CycleStage → Prop} (effect : Effect c now e c')
    (onward : ∀ s, S s → S .rotating) (stages : Stages n S c) : Stages n S c' := by
  refine ⟨Nat.lt_of_lt_of_le stages.1 effect.begun_le, ?_⟩
  intro d flying
  cases effect.cycle_origin flying with
  | same there => exact stages.2 d there
  | began t l work current => exact absurd stages.1 (Nat.lt_irrefl _)
  | turned reply there => exact onward _ (stages.2 _ there)

theorem stages_between {S : CycleStage → Prop} (onward : ∀ s, S s → S .rotating) (le : i ≤ k)
    (stages : Stages n S (c.found h i)) : Stages n S (c.found h k) := by
  refine History.invariant_later (I := Stages n S) (fun c now e held => ?_) le stages
  exact (step_effect c now e).stages onward held

/-- A cycle renews only what can be renewed. -/
def RenewsRenewable (c : Container) : Prop :=
  ∀ n d, (n, d) ∈ c.cycles.items → d.stage = .renewing → d.lease.lease.renewable = true

theorem Effect.renewsRenewable (effect : Effect c now e c') (held : RenewsRenewable c) :
    RenewsRenewable c' := by
  intro n d flying stage
  cases effect.cycle_origin flying with
  | same there => exact held n d there stage
  | began t l work current =>
      unfold firstCall at stage
      cases renewable : l.lease.renewable with
      | true => rfl
      | false =>
          rw [renewable] at stage
          cases stage
  | turned reply there => cases stage

theorem renewsRenewable_found (config : LeaseConfig) (h : History Event) (k : Nat) :
    RenewsRenewable ((new config).found h k) := by
  refine History.invariant_after (I := RenewsRenewable) (fun c now e held => ?_) _ nofun
  exact (step_effect c now e).renewsRenewable held

theorem emptied_found (config : LeaseConfig) (h : History Event) (k : Nat) :
    Emptied ((new config).found h k) := by
  refine History.invariant_after (I := Emptied) (fun c now e held => ?_) _ nofun
  exact (step_effect c now e).emptied held

theorem Begins.current_of_registers (begins : Begins (new config) h p n l) (le : p ≤ k)
    (within : k ≤ h.length) (registers : ((new config).found h k).Registers l) :
    ((new config).found h k).current l = true := by
  obtain ⟨id, entry, bound, same⟩ := registers
  have numbering := numbering_found config h p
  have younger := numbering.current_lt begins.current
  obtain ⟨_, owner, place, own⟩ := current_iff.mp begins.current
  have since := bound_before le within (same ▸ younger) bound
  cases numbering.serial_once id entry l.lease.id owner since place (same.trans own.symm)
  refine current_iff.mpr ⟨?_, entry, bound, same⟩
  apply Bool.eq_false_iff.mpr
  intro closed
  rw [emptied_found config h k closed] at bound
  cases bound

/-! ## Replies -/

/-- A reply comes only to the call that its cycle waits for. -/
def Awaits (c : Container) : Event → Prop
  | .renewalReply n _ => ∃ l, (n, ⟨l, .renewing⟩) ∈ c.cycles.items
  | .rotationReply n _ => ∃ l, (n, ⟨l, .rotating⟩) ∈ c.cycles.items
  | _ => True

theorem Awaits.flying (awaits : c.Awaits e) (answers : e.cycle? = some n) :
    ∃ d, (n, d) ∈ c.cycles.items := by
  cases e with
  | renewalReply m reply =>
      cases answers
      obtain ⟨l, flying⟩ := awaits
      exact ⟨_, flying⟩
  | rotationReply m reply =>
      cases answers
      obtain ⟨l, flying⟩ := awaits
      exact ⟨_, flying⟩
  | _ => cases answers

def RepliesAreAwaited (c : Container) (h : History Event) : Prop :=
  History.Keeps next (fun c _ e => c.Awaits e) c h

theorem RepliesAreAwaited.at_place (awaits : c.RepliesAreAwaited h) (here : h[i]? = some (now, e)) :
    (c.found h i).Awaits e :=
  History.Keeps.at_place awaits here

section Replies

variable (begins : Begins (new config) h p n l) (awaits : (new config).RepliesAreAwaited h)

include begins awaits

theorem Begins.awaited (here : h[q]? = some (now, e)) (answers : e.cycle? = some n) :
    p < q ∧ ∃ d, ((new config).found h q).cycles.find? n = some d ∧ d.lease = l := by
  obtain ⟨d, flying⟩ := (awaits.at_place here).flying answers
  obtain ⟨later, lease⟩ := begins.flying (Nat.le_of_lt (History.lt_length_of_place here)) flying
  exact ⟨later, d, Numbered.find?_eq_some_iff.mpr flying, lease⟩

theorem Begins.renewable_of_reply {reply : Outcome Lease}
    (here : h[q]? = some (now, .renewalReply n reply)) : l.lease.renewable = true := by
  obtain ⟨m, flying⟩ := awaits.at_place here
  obtain ⟨_, rfl⟩ := begins.flying (Nat.le_of_lt (History.lt_length_of_place here)) flying
  exact renewsRenewable_found config h q n _ flying rfl

end Replies

end Leasehold.Container

import Leasehold.Proofs.Lease.Calls

/-!
# Overlapping renewals of leases

An instance has one live task or one cycle in flight and never both
(`Separate`), so its own renewals do not overlap.  An identifier passes from
instance to instance, however, and the cycle of the one before may still be in
flight when the renewal of the next one begins.  That is the only way in which
two renewals under one identifier come to be in flight (`overlap_iff`).
-/

set_option autoImplicit false

namespace Leasehold.Container

variable {c c' : Container} {now : Instant} {e : Event} {config : LeaseConfig} {h : History Event}
  {i n m : Nat} {l k : LeaseInstance}

def Renews (c : Container) (n : Nat) (l : LeaseInstance) : Prop :=
  (n, ⟨l, .renewing⟩) ∈ c.cycles.items

def Overlap (c : Container) : Prop :=
  ∃ n m l k, n ≠ m ∧ c.Renews n l ∧ c.Renews m k ∧ l.lease.id = k.lease.id

/-- At a place of a history the renewal of a lease begins while that of another one under the same
identifier is in flight, which is no longer the registered one. -/
def Interleaves (c : Container) (h : History Event) (i : Nat) : Prop :=
  ∃ now t l m n k, h[i]? = some (now, .ring t) ∧ t.work = .renewal l ∧
    ((c.found h i).ring t).result = some (m, .renew l.lease) ∧ (c.found h i).Renews n k ∧
    k.lease.id = l.lease.id ∧ (c.found h i).current k = false

/-- Live tasks and cycles in flight are for different instances. -/
structure Separate (c : Container) : Prop where
  task_lt : ∀ n t, (n, t) ∈ c.timers.items → t.work.lease.serial < c.serials
  tasks : ∀ n t m u, (n, t) ∈ c.timers.items → (m, u) ∈ c.timers.items →
    t.work.lease.serial = u.work.lease.serial → n = m
  cycles : ∀ n d m b, (n, d) ∈ c.cycles.items → (m, b) ∈ c.cycles.items →
    d.lease.serial = b.lease.serial → n = m
  apart : ∀ n t m d, (n, t) ∈ c.timers.items → (m, d) ∈ c.cycles.items →
    t.work.lease.serial ≠ d.lease.serial

/-! ## Where the live tasks come from -/

theorem mem_prepare {lease : Lease} {managed : Bool} {delay : Option Duration}
    {t : LiveTask LeaseTask}
    (live : (n, t) ∈ (c.prepare now lease managed delay).container.timers.items) :
    (n, t) ∈ c.timers.items ∨ n = c.timers.issued ∧ t.work.lease.serial = c.serials := by
  cases delay with
  | none => exact Or.inl live
  | some d =>
      rcases Numbered.mem_add.mp live with before | ⟨rfl, rfl⟩
      · exact Or.inl before
      · refine Or.inr ⟨rfl, ?_⟩
        simp only [LeaseTask.lease_of]

theorem Effect.task_origin (effect : Effect c now e c') {t : LiveTask LeaseTask}
    (live : (n, t) ∈ c'.timers.items) : (n, t) ∈ c.timers.items ∨
      n = c.timers.issued ∧ t.work.lease.serial = c.serials ∧ c'.serials = c.serials + 1 := by
  have new {serials : Nat} (counted : serials = c.serials + 1)
      (origin : (n, t) ∈ c.timers.items ∨
        n = c.timers.issued ∧ t.work.lease.serial = c.serials) :
      (n, t) ∈ c.timers.items ∨
        n = c.timers.issued ∧ t.work.lease.serial = c.serials ∧ serials = c.serials + 1 :=
    origin.imp_right fun first => ⟨first.1, first.2, counted⟩
  cases effect with
  | nothing => exact Or.inl live
  | refused e l delay =>
      rw [live_discarded] at live
      exact Or.inl live
  | registered e l delay => exact new rfl (mem_prepare (Numbered.mem_cancel.mp live).1)
  | removed e id reason entry => exact Or.inl (Numbered.mem_cancel.mp live).1
  | shutdown => exact Or.inl (Numbered.mem_cancelAll.mp live).1
  | missed t => exact Or.inl (Numbered.mem_remove.mp live).1
  | expired t l entry =>
      exact Or.inl (Numbered.mem_remove.mp (Numbered.mem_cancel.mp live).1).1
  | began t l => exact Or.inl (Numbered.mem_remove.mp live).1
  | turned id reply d => exact Or.inl live
  | broken e id d => exact Or.inl live
  | ended e id d => exact Or.inl live
  | discarded e id d l delay =>
      rw [live_discarded] at live
      exact Or.inl live
  | lapsed id reply d entry => exact Or.inl (Numbered.mem_cancel.mp live).1
  | renewed id d l delay =>
      exact new rfl (mem_prepare (c := c.endCycle id) (Numbered.mem_cancel.mp live).1)
  | rotated id d data l delay =>
      have before := Numbered.mem_cancel.mp (Numbered.mem_cancel.mp live).1
      exact new rfl (mem_prepare (c := c.endCycle id) before.1)

theorem ring_spends {t : Timer LeaseTask} {u : LiveTask LeaseTask}
    (live : (n, u) ∈ (c.ring t).container.timers.items) : n ≠ t.task := by
  have spent (kept : (n, u) ∈ (c.start t.task).timers.items) : n ≠ t.task :=
    (Numbered.mem_remove.mp kept).2
  unfold ring at live
  cases work : t.work with
  | expiry l =>
      simp only [work] at live
      cases current : (c.start t.task).current l with
      | false =>
          rw [removeIfCurrent_of_gone l .expired current] at live
          exact spent live
      | true =>
          obtain ⟨entry, _, removed⟩ := removeIfCurrent_of_current l .expired current
          rw [removed] at live
          exact spent (Numbered.mem_cancel.mp live).1
  | renewal l =>
      simp only [work] at live
      split at live
      · exact spent live
      · exact spent live

/-! ## Instances -/

theorem Separate.idle (separate : Separate c) {t : Timer LeaseTask}
    (starts : c.StartsLiveTask (.ring t)) (work : t.work = .renewal l) {d : Cycle}
    (flying : (n, d) ∈ c.cycles.items) : l.serial ≠ d.lease.serial := by
  obtain ⟨u, found, same⟩ := starts
  have apart := separate.apart t.task u n d (Numbered.find?_eq_some_iff.mp found) flying
  rw [same, work] at apart
  exact apart

theorem Separate.tasks_next (separate : Separate c) {t u : LiveTask LeaseTask}
    (live : (n, t) ∈ (c.next now e).timers.items) (other : (m, u) ∈ (c.next now e).timers.items)
    (same : t.work.lease.serial = u.work.lease.serial) : n = m := by
  have effect := step_effect c now e
  rcases effect.task_origin live with before | ⟨number, serial, _⟩ <;>
    rcases effect.task_origin other with past | ⟨twin, fresh, _⟩
  · exact separate.tasks n t m u before past same
  · have below := separate.task_lt n t before
    omega
  · have below := separate.task_lt m u past
    omega
  · omega

theorem Separate.cycles_next (separate : Separate c) (starts : c.StartsLiveTask e) {d b : Cycle}
    (flying : (n, d) ∈ (c.next now e).cycles.items) (other : (m, b) ∈ (c.next now e).cycles.items)
    (same : d.lease.serial = b.lease.serial) : n = m := by
  have effect := step_effect c now e
  cases effect.cycle_origin flying with
  | same there =>
      cases effect.cycle_origin other with
      | same past => exact separate.cycles n d m b there past same
      | began t l work current => exact absurd same.symm (separate.idle starts work there)
      | turned reply past => exact separate.cycles n d _ _ there past same
  | began t l work current =>
      cases effect.cycle_origin other with
      | same past => exact absurd same (separate.idle starts work past)
      | began => rfl
  | turned reply there =>
      cases effect.cycle_origin other with
      | same past => exact separate.cycles _ _ m b there past same
      | turned _ past => exact separate.cycles _ _ _ _ there past same

theorem Separate.apart_next (separate : Separate c) (numbering : Numbering c)
    (starts : c.StartsLiveTask e) {t : LiveTask LeaseTask} {d : Cycle}
    (live : (n, t) ∈ (c.next now e).timers.items) (flying : (m, d) ∈ (c.next now e).cycles.items) :
    t.work.lease.serial ≠ d.lease.serial := by
  intro same
  have effect := step_effect c now e
  rcases effect.task_origin live with before | ⟨_, serial, _⟩
  · cases effect.cycle_origin flying with
    | same there => exact separate.apart n t m d before there same
    | began timer l work current =>
        obtain ⟨u, found, twin⟩ := starts
        have rung := Numbered.find?_eq_some_iff.mp found
        have lease : u.work.lease.serial = l.serial := by rw [twin, work]; rfl
        have one := separate.tasks n t timer.task u before rung (same.trans lease.symm)
        exact ring_spends live one
    | turned reply there => exact separate.apart n t _ _ before there same
  -- A new task is for a new instance, which is younger than that of any cycle.
  · rcases (effect.cycle_origin flying).lease with ⟨start, there, lease⟩ | ⟨_, current⟩
    · have below := numbering.cycle_lt m start there
      rw [lease] at below
      omega
    · have below := numbering.current_lt current
      omega

theorem Separate.next (separate : Separate c) (numbering : Numbering c)
    (starts : c.StartsLiveTask e) : Separate (c.next now e) where
  task_lt n t live := by
    have effect := step_effect c now e
    have lower := effect.serials_le
    rcases effect.task_origin live with before | ⟨_, serial, counted⟩
    · have below := separate.task_lt n t before
      omega
    · omega
  tasks _ _ _ _ := separate.tasks_next
  cycles _ _ _ _ := separate.cycles_next starts
  apart _ _ _ _ := separate.apart_next numbering starts

theorem separate_found (live : History.Keeps next (fun c _ e => c.StartsLiveTask e) (new config) h)
    (i : Nat) : Separate ((new config).found h i) := by
  have start : Separate (new config) := ⟨nofun, nofun, nofun, nofun⟩
  refine (History.invariant_between (I := fun c => Numbering c ∧ Separate c)
    (fun c now e held starts => ?_) live (Nat.zero_le i)
    ⟨numbering_run config [], start⟩).2
  exact ⟨(step_effect c now e).numbering held.1, held.2.next held.1 starts⟩

/-! ## Identifiers -/

/-- When the renewal of a lease begins, no cycle in flight under its identifier is that of the
registered lease. -/
theorem Separate.superseded (separate : Separate c) {t : Timer LeaseTask}
    (starts : c.StartsLiveTask (.ring t)) (work : t.work = .renewal l)
    (current : c.current l = true) (renews : c.Renews n k) (same : k.lease.id = l.lease.id) :
    c.current k = false := by
  apply Bool.eq_false_iff.mpr
  intro registered
  obtain ⟨_, entry, bound, serial⟩ := current_iff.mp current
  obtain ⟨_, twin, other, number⟩ := current_iff.mp registered
  rw [same, bound] at other
  cases other
  exact separate.idle starts work renews (serial.symm.trans number)

theorem Renews.origin (renews : (c.next now e).Renews n l) : c.Renews n l ∨
    ∃ t, e = .ring t ∧ t.work = .renewal l ∧ n = c.cycles.issued ∧ c.current l = true ∧
      (c.ring t).result = some (n, .renew l.lease) := by
  have origin := (step_effect c now e).cycle_origin renews
  generalize made : (⟨l, .renewing⟩ : Cycle) = d at origin
  cases origin with
  | same there =>
      subst made
      exact Or.inl there
  | began t lease work current =>
      obtain ⟨rfl, stage⟩ := Cycle.mk.inj made
      refine Or.inr ⟨t, rfl, work, rfl, current, (ring_result work current).trans ?_⟩
      unfold firstCall at stage ⊢
      cases renewable : l.lease.renewable with
      | true => rfl
      | false =>
          rw [renewable] at stage
          cases stage
  | turned reply there => cases (Cycle.mk.inj made).2

theorem overlap_begins (clear : ¬ c.Overlap) (overlap : (c.next now e).Overlap) :
    ∃ t l m n k, e = .ring t ∧ t.work = .renewal l ∧ c.current l = true ∧
      (c.ring t).result = some (m, .renew l.lease) ∧ c.Renews n k ∧
      k.lease.id = l.lease.id := by
  obtain ⟨n, m, l, k, different, first, second, same⟩ := overlap
  rcases first.origin with before | ⟨t, rfl, work, number, current, result⟩
  · rcases second.origin with past | ⟨t, rfl, work, number, current, result⟩
    · exact absurd ⟨n, m, l, k, different, before, past, same⟩ clear
    · exact ⟨t, k, m, n, l, rfl, work, current, result, before, same⟩
  · rcases second.origin with past | ⟨_, _, _, twin, _⟩
    · exact ⟨t, l, n, m, k, rfl, work, current, result, past, same.symm⟩
    · exact absurd (number.trans twin.symm) different

theorem Interleaves.overlap (interleaves : Interleaves c h i) : (c.found h (i + 1)).Overlap := by
  obtain ⟨now, t, l, m, n, k, here, work, result, renews, same, _⟩ := interleaves
  obtain ⟨lease, other, _, number, call, container⟩ := ring_begins result
  cases work.symm.trans other
  rw [found_succ here]
  change ((c.found h i).ring t).container.Overlap
  rw [container]
  have stage : (firstCall l.lease).1 = .renewing := by
    unfold firstCall at call ⊢
    split at call
    · rename_i renewable
      rw [if_pos renewable]
    · cases call
  refine ⟨n, m, k, l, ?_, ?_, ?_, same⟩
  · rw [number]
    exact Nat.ne_of_lt (Numbered.lt_issued renews)
  · exact Numbered.mem_add.mpr (Or.inl renews)
  · exact Numbered.mem_add.mpr (Or.inr ⟨number, by rw [stage]⟩)

/-- Two renewals under one identifier are in flight at some place exactly if one begins at some
place while that of a superseded lease is in flight. -/
theorem overlap_iff (live : History.Keeps next (fun c _ e => c.StartsLiveTask e) (new config) h) :
    (∃ i ≤ h.length, ((new config).found h i).Overlap) ↔ ∃ i, Interleaves (new config) h i := by
  constructor
  · rintro ⟨i, le, overlap⟩
    apply Classical.byContradiction
    intro apart
    refine History.holds_at (P := fun i => ¬ ((new config).found h i).Overlap) ?_ ?_ i le overlap
    · rintro ⟨n, m, l, k, _, renews, _⟩
      cases renews
    · intro i now e here clear overlap
      rw [found_succ here] at overlap
      obtain ⟨t, l, m, n, k, rfl, work, current, result, renews, same⟩ :=
        overlap_begins clear overlap
      have gone := (separate_found live i).superseded (live.at_place here) work current renews same
      exact apart ⟨i, now, t, l, m, n, k, here, work, result, renews, same, gone⟩
  · rintro ⟨i, interleaves⟩
    have ⟨now, t, _, _, _, _, here, _⟩ := interleaves
    exact ⟨i + 1, History.lt_length_of_place here, interleaves.overlap⟩

end Leasehold.Container

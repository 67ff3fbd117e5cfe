import Leasehold.Proofs.Lease.Supersession

/-!
# Calls on behalf of a lease

A cycle calls the server once or twice: when it begins, and again when its
renewal has been in vain.  Whether its lease is still the registered one is
looked up before the first call only.  Since a lease that has left the registry
does not come back (`gone_between`), the second call is made for a registered
lease exactly if the lease has been registered ever since the cycle began
(`asks_registered_iff`); otherwise a path is read for a lease that is gone
(`reads_after_drop`).
-/

set_option autoImplicit false

namespace Leasehold.Container

variable {c c' : Container} {now : Instant} {e : Event} {config : LeaseConfig} {h : History Event}
  {i j k n : Nat} {l : LeaseInstance} {d : Cycle}

def Event.asks? : (e : Event) → e.Answer → Option (Nat × CycleCall)
  | .ring _, answer => answer
  | .renewalReply n _, .ok (some path) => some (n, .read path)
  | _, _ => none

/-! ## Places of a history -/

def found (c : Container) (h : History Event) (i : Nat) : Container := c.run (h.take i)

def Begins (c : Container) (h : History Event) (i n : Nat) (l : LeaseInstance) : Prop :=
  ∃ now t, h[i]? = some (now, .ring t) ∧ t.work = .renewal l ∧
    ((c.found h i).ring t).result = some (n, (firstCall l.lease).2)

theorem found_succ (here : h[i]? = some (now, e)) :
    c.found h (i + 1) = (c.found h i).next now e := History.after_take_succ here

theorem found_length (c : Container) (h : History Event) : c.found h h.length = c.run h :=
  congrArg (run c) List.take_length

theorem numbering_found (config : LeaseConfig) (h : History Event) (i : Nat) :
    Numbering ((new config).found h i) := numbering_run config (h.take i)

theorem serials_le_found (c : Container) (h : History Event) (le : i ≤ k) :
    (c.found h i).serials ≤ (c.found h k).serials := by
  refine History.invariant_later (I := fun c' : Container => (c.found h i).serials ≤ c'.serials)
    (fun c' now e held => ?_) le (Nat.le_refl _)
  exact Nat.le_trans held (step_effect c' now e).serials_le

/-! ## Leases that have gone -/

theorem Effect.serving_before (effect : Effect c now e c') (serving : c'.shutDown = false) :
    c.shutDown = false := by
  cases effect <;> first | exact serving | cases serving

theorem Effect.gone (effect : Effect c now e c') (taken : l.serial < c.serials)
    (gone : c.current l = false) : c'.current l = false := by
  apply Bool.eq_false_iff.mpr
  intro current
  obtain ⟨serving, entry, bound, same⟩ := current_iff.mp current
  obtain ⟨added, gains⟩ := effect.gains
  rcases gains.old l.lease.id entry bound with before | new
  · have still : c.current l = true :=
      current_iff.mpr ⟨effect.serving_before serving, entry, before, same⟩
    rw [gone] at still
    cases still
  · have next := (gains.new l.lease.id entry new).serial
    omega

theorem gone_between (le : i ≤ k) (taken : l.serial < (c.found h i).serials)
    (gone : (c.found h i).current l = false) : (c.found h k).current l = false := by
  have both : l.serial < (c.found h k).serials ∧ (c.found h k).current l = false := by
    refine History.invariant_later
      (I := fun c : Container => l.serial < c.serials ∧ c.current l = false)
      (fun c now e held => ?_) le ⟨taken, gone⟩
    have effect := step_effect c now e
    exact ⟨Nat.lt_of_lt_of_le held.1 effect.serials_le, effect.gone held.1 held.2⟩
  exact both.2

theorem Numbering.current_lt (numbering : Numbering c) (current : c.current l = true) :
    l.serial < c.serials := by
  obtain ⟨_, entry, bound, same⟩ := current_iff.mp current
  have lower := numbering.serial_lt l.lease.id entry bound
  omega

theorem current_between (le : i ≤ j) (le' : j ≤ k)
    (first : ((new config).found h i).current l = true)
    (last : ((new config).found h k).current l = true) :
    ((new config).found h j).current l = true := by
  apply Bool.not_eq_false _ |>.mp
  intro gone
  have taken := (numbering_found config h i).current_lt first
  have later := Nat.lt_of_lt_of_le taken (serials_le_found (new config) h le)
  have lost := gone_between le' later gone
  rw [last] at lost
  cases lost

/-! ## Cycles and their calls -/

theorem ring_begins {t : Timer LeaseTask} {call : CycleCall}
    (rings : (c.ring t).result = some (n, call)) :
    ∃ l, t.work = .renewal l ∧ c.current l = true ∧ n = c.cycles.issued ∧
      call = (firstCall l.lease).2 ∧ (c.ring t).container = (c.start t.task).beginCycle l := by
  have same : ∀ l, (c.start t.task).current l = c.current l := fun _ => rfl
  unfold ring at rings ⊢
  cases work : t.work with
  | expiry l =>
      simp only [work] at rings
      cases rings
  | renewal l =>
      simp only [work, same] at rings ⊢
      cases current : c.current l with
      | false =>
          rw [current] at rings
          cases rings
      | true =>
          rw [current] at rings
          cases rings
          exact ⟨l, rfl, current, rfl, rfl, rfl⟩

theorem ring_result {t : Timer LeaseTask} (work : t.work = .renewal l)
    (current : c.current l = true) :
    (c.ring t).result = some (c.cycles.issued, (firstCall l.lease).2) := by
  have same : (c.start t.task).current l = true := current
  simp only [ring, work, same, if_true]
  rfl

theorem Begins.current (begins : Begins c h i n l) : (c.found h i).current l = true := by
  obtain ⟨now, t, _, work, result⟩ := begins
  obtain ⟨m, other, current, _⟩ := ring_begins result
  cases work.symm.trans other
  exact current

/-- A cycle in flight began at an earlier place, for the lease that it carries. -/
theorem cycle_begun (le : i ≤ h.length) (flying : (n, d) ∈ (c.found h i).cycles.items)
    (idle : c.cycles.items = []) : ∃ p < i, Begins c h p n d.lease := by
  refine History.holds_at (P := fun i => ∀ n d, (n, d) ∈ (c.found h i).cycles.items →
    ∃ p < i, Begins c h p n d.lease) ?_ ?_ i le n d flying
  · intro n d flying
    change (n, d) ∈ c.cycles.items at flying
    rw [idle] at flying
    cases flying
  · intro i now e here begun n d flying
    rw [found_succ here] at flying
    cases (step_effect (c.found h i) now e).cycle_origin flying with
    | same there =>
        obtain ⟨p, earlier, begins⟩ := begun n d there
        exact ⟨p, Nat.lt_succ_of_lt earlier, begins⟩
    | began t l work current =>
        exact ⟨i, Nat.lt_succ_self i, now, t, here, work, ring_result work current⟩
    | turned reply there =>
        obtain ⟨p, earlier, begins⟩ := begun n _ there
        exact ⟨p, Nat.lt_succ_of_lt earlier, begins⟩

/-- A renewal in vain makes its cycle read the path of its lease, whatever the registry holds. -/
theorem renewalReply_asks {reply : Outcome Lease} {path : String}
    (asks : (c.renewalReply now n reply).result = .ok (some path)) :
    ∃ d, c.cycles.find? n = some d ∧ path = d.lease.lease.path ∧
      (c.renewalReply now n reply).container = c.turnToRotation n := by
  unfold renewalReply at asks ⊢
  cases flying : c.cycles.find? n with
  | none =>
      rw [flying] at asks
      cases asks
  | some d =>
      rw [flying] at asks
      dsimp only at asks ⊢
      match reply with
      | .error .overflow => cases asks
      | .error (.error fault) =>
          cases asks
          exact ⟨d, rfl, rfl, rfl⟩
      | .ok renewed =>
          dsimp only at asks ⊢
          cases gain : exhausted d.lease.lease renewed with
          | error beyond =>
              rw [gain] at asks
              cases asks
          | ok spent =>
              rw [gain] at asks
              cases spent with
              | true =>
                  cases asks
                  exact ⟨d, rfl, rfl, rfl⟩
              | false =>
                  dsimp only at asks
                  cases change : ((c.endCycle n).commitRenewal now d.lease renewed).result with
                  | error beyond =>
                      rw [change] at asks
                      cases asks
                  | ok done =>
                      rw [change] at asks
                      cases asks

theorem Event.asks_renewalReply {m : Nat} {reply : Outcome Lease} {call : CycleCall}
    {answer : (Event.renewalReply m reply).Answer}
    (asks : Event.asks? (.renewalReply m reply) answer = some (n, call)) :
    ∃ path, answer = .ok (some path) ∧ m = n ∧ call = .read path := by
  match answer with
  | .error _ => cases asks
  | .ok none => cases asks
  | .ok (some path) =>
      cases asks
      exact ⟨path, rfl, rfl, rfl⟩

theorem turnToRotation_find (flying : c.cycles.find? n = some d) :
    (c.turnToRotation n).cycles.find? n = some { d with stage := .rotating } := by
  apply Numbered.find?_eq_some_iff.mpr
  apply Numbered.mem_change.mpr
  exact ⟨d, Numbered.find?_eq_some_iff.mp flying, if_pos rfl⟩

/-- Every call that a cycle makes is made for the lease for which the cycle began.  The first one is
made while that is registered; the other one is so exactly if the lease has been the registered one
at every place since. -/
theorem asks_registered_iff (config : LeaseConfig) (h : History Event) (i n : Nat) (now : Instant)
    (e : Event) (call : CycleCall) (here : h[i]? = some (now, e))
    (asks : e.asks? (((new config).found h i).step now e).result = some (n, call)) :
    ∃ d p, ((new config).found h (i + 1)).cycles.find? n = some d ∧ p ≤ i ∧
      Begins (new config) h p n d.lease ∧
      (p = i ∧ call = (firstCall d.lease.lease).2 ∧
          ((new config).found h i).current d.lease = true ∨
        p < i ∧ call = .read d.lease.lease.path ∧
          (((new config).found h i).current d.lease = true ↔
            ∀ j, p ≤ j → j ≤ i → ((new config).found h j).current d.lease = true)) := by
  rw [found_succ here]
  cases e with
  | ring t =>
      change (((new config).found h i).ring t).result = some (n, call) at asks
      change ∃ d p, (((new config).found h i).ring t).container.cycles.find? n = some d ∧ _
      obtain ⟨l, work, current, rfl, rfl, container⟩ := ring_begins asks
      rw [container]
      refine ⟨_, i, Numbered.find?_eq_some_iff.mpr (Numbered.mem_add.mpr (Or.inr ⟨rfl, rfl⟩)),
        Nat.le_refl i, ?_, ?_⟩
      · exact ⟨now, t, here, work, ring_result work current⟩
      · exact Or.inl ⟨rfl, rfl, current⟩
  | renewalReply m reply =>
      obtain ⟨path, result, rfl, rfl⟩ := Event.asks_renewalReply asks
      obtain ⟨d, flying, rfl, container⟩ := renewalReply_asks result
      have member := Numbered.find?_eq_some_iff.mp flying
      obtain ⟨p, earlier, begins⟩ :=
        cycle_begun (Nat.le_of_lt (History.lt_length_of_place here)) member rfl
      change ∃ d p, (((new config).found h i).renewalReply now m reply).container.cycles.find? m =
        some d ∧ _
      rw [container]
      refine ⟨{ d with stage := .rotating }, p, turnToRotation_find flying, Nat.le_of_lt earlier,
        begins, Or.inr ⟨earlier, rfl, ?_⟩⟩
      constructor
      · intro last j since until_
        exact current_between since until_ begins.current last
      · intro always
        exact always i (Nat.le_of_lt earlier) (Nat.le_refl i)
  | _ => cases asks

def failedAfterDrop : History Event :=
  droppedInFlight ++ [(⟨65⟩, .renewalReply 0 (.error (.error (.permissionDenied "renew"))))]

theorem asks_registered_iff_failedAfterDrop :
    let found := (new {}).found failedAfterDrop
    ∃ d p, (found 4).cycles.find? 0 = some d ∧ p ≤ 3 ∧
      Begins (new {}) failedAfterDrop p 0 d.lease ∧
      (p = 3 ∧ CycleCall.read "database/creds/app" = (firstCall d.lease.lease).2 ∧
          (found 3).current d.lease = true ∨
        p < 3 ∧ CycleCall.read "database/creds/app" = .read d.lease.lease.path ∧
          ((found 3).current d.lease = true ↔
            ∀ j, p ≤ j → j ≤ 3 → (found j).current d.lease = true)) :=
  asks_registered_iff {} failedAfterDrop 3 0 ⟨65⟩ _ _ rfl rfl

/-- A path is read for a lease that has been dropped. -/
theorem reads_after_drop :
    ¬ ∀ (config : LeaseConfig) (h : History Event) (now : Instant) (e : Event) (n : Nat)
      (call : CycleCall) (d : Cycle),
      e.asks? (((new config).run h).step now e).result = some (n, call) →
        (((new config).run h).next now e).cycles.find? n = some d →
        ((new config).run h).current d.lease = true := by
  intro registered
  have current := registered {} droppedInFlight ⟨65⟩
    (.renewalReply 0 (.error (.error (.permissionDenied "renew")))) 0
    (.read "database/creds/app") ⟨⟨0, twoMinutes "a" 0⟩, .rotating⟩ rfl rfl
  cases current

end Leasehold.Container

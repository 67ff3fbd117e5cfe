import Leasehold.Proofs.Session.Barrier

/-!
# Upkeep of the token

A session that has a token to renew is never left without a renewal: its timer
is set or a cycle of its generation is in flight (`Attended`).  At most one task
is set, that of the handle which the session holds (`Sole`), and none is set
while there is no token (`Vacant`).  The last needs that a cycle which still
counts finds a token in place (`Counts.token_found`): since it began there has
been neither an invalidation nor the shutdown, and nothing else takes a token
away.
-/

set_option autoImplicit false

namespace Leasehold.Session

def Event.overflows : (e : Event) → e.Answer → Bool
  | .begin _, (_, some (.answered (.error .overflow))) => true
  | .attempt _, .answered (.error .overflow) => true
  | .loginReply _ _, .error .overflow => true
  | .renewalReply _ _, .error _ => true
  | .cycleLoginReply _ _, .error _ => true
  | _, _ => false

namespace Renewing

variable {s s' : Renewing} {window : RenewalWindow} {h : History Event} {now : Instant} {e : Event}
  {i n : Nat} {c : Cycle}

def WithinClock (s : Renewing) (h : History Event) : Prop :=
  History.Keeps next (fun s now e => e.overflows (s.step now e).result = false) s h

/-- A token that expires is looked after: its renewal is set, or a cycle in flight sees to it. -/
def Attended (s : Renewing) : Prop :=
  s.terminated = false → ∀ t, s.token = some t → t.token.validity ≠ .infinite →
    s.timers.items ≠ [] ∨ ∃ n c, (n, c) ∈ s.cycles.items ∧ c.generation = s.generation

def Vacant (s : Renewing) : Prop := s.token = none → s.timers.items = []

/-! ## Timers that are set -/

theorem setTimer_live (numbered : ∀ k, s.slot = some k → k < s.timers.issued)
    (serving : s.terminated = false) (delay : Duration) :
    (s.setTimer now delay).session.timers.items ≠ [] := by
  have fresh : s.slot ≠ some s.timers.issued := fun held => Nat.lt_irrefl _ (numbered _ held)
  have there (task : LiveTask Unit) :
      (s.timers.issued, task) ∈ ((s.timers.add task).cancel s.slot).items :=
    Numbered.mem_cancel.mpr ⟨Numbered.mem_add.mpr (Or.inr ⟨rfl, rfl⟩), fresh⟩
  unfold setTimer
  dsimp only
  rw [if_neg (Bool.eq_false_iff.mp serving)]
  exact List.ne_nil_of_mem (there _)

theorem renew_live {t : Token} {floor : Duration}
    (numbered : ∀ k, s.slot = some k → k < s.timers.issued) (serving : s.terminated = false)
    (finite : t.validity ≠ .infinite)
    (done : ((s.takeIn t).1.install now (s.takeIn t).2 floor).result = .ok ()) :
    (s.renew now t floor).timers.items ≠ [] := by
  unfold renew
  unfold install at done ⊢
  dsimp only at done ⊢
  split
  · rename_i beyond planned
    rw [planned] at done
    cases done
  · rename_i planned
    exact absurd ((RenewalWindow.delay_eq_none_iff planned).mp rfl) finite
  · exact setTimer_live
      (s := { (s.takeIn t).1 with token := some (s.takeIn t).2, degraded := false }) numbered
      serving _

theorem fail_live (numbered : ∀ k, s.slot = some k → k < s.timers.issued)
    (serving : s.terminated = false) (error : VaultError) :
    (s.fail now error).timers.items ≠ [] :=
  setTimer_live (s := s.degrade error) numbered serving s.pauseAfterFailure

/-! ## Results within the clock -/

theorem loginReply_within {id : Nat} {t : Token} (serving : s.terminated = false)
    (unchanged : s.loginGeneration id = some s.generation)
    (within :
      Event.overflows (.loginReply id (.ok t)) (s.loginReply now id (.ok t)).result = false) :
    ((s.countLogin.takeIn t).1.install now (s.countLogin.takeIn t).2 .zero).result = .ok () := by
  unfold loginReply at within
  dsimp only at within
  rw [if_neg (Bool.eq_false_iff.mp serving), if_pos unchanged] at within
  cases result :
      ((s.countLogin.takeIn t).1.install now (s.countLogin.takeIn t).2 .zero).result with
  | ok done => rfl
  | error beyond =>
      rw [result] at within
      cases within

/-! How a cycle ends that counts, with a token or with an error, and one that does not. -/

theorem Counts.current (counts : s.Counts c) :
    ¬ ((s.endCycle n).terminated = true ∨ (s.endCycle n).generation ≠ c.generation) := by
  rintro (ended | changed)
  · exact Bool.eq_false_iff.mp counts.1 ended
  · exact changed counts.2

theorem conclude_renews (counts : s.Counts c) (now : Instant) (n : Nat) (t : Token) :
    s.conclude now n c (.ok t) = ((s.endCycle n).takeIn t).1.install now
      ((s.endCycle n).takeIn t).2 pauseBetweenCycles := by
  unfold conclude
  dsimp only
  rw [if_neg counts.current]

theorem conclude_fails (counts : s.Counts c) (now : Instant) (n : Nat) (error : VaultError) :
    s.conclude now n c (.error error) =
      { session := (s.endCycle n).fail now error
        result := .ok ()
        timer := some ⟨s.timers.issued, s.pauseAfterFailure, ()⟩ } := by
  unfold conclude
  dsimp only
  rw [if_neg counts.current]
  rfl

theorem conclude_discards (stale : ¬ s.Counts c) (now : Instant) (n : Nat)
    (outcome : Except VaultError Token) :
    s.conclude now n c outcome = { session := s.endCycle n, result := .ok () } := by
  unfold conclude
  dsimp only
  rw [if_pos]
  by_cases ended : s.terminated = true
  · exact Or.inl ended
  · exact Or.inr fun same => stale ⟨Bool.eq_false_iff.mpr ended, same⟩

theorem renewed_within {t : Token} (answers : e.cycle? = some n)
    (found : s.cycles.find? n = some c) (ends : c.outcome? e = some (.ok t)) (counts : s.Counts c)
    (within : e.overflows (s.step now e).result = false) :
    ((((s.counted e).endCycle n).takeIn t).1.install now
      (((s.counted e).endCycle n).takeIn t).2 pauseBetweenCycles).result = .ok () := by
  cases e with
  | renewalReply id reply =>
      cases answers
      cases reply with
      | error error => cases ends
      | ok gained =>
          cases gain : exhausted c.start.token gained with
          | error beyond => simp [Cycle.outcome?, gain] at ends
          | ok spent =>
              cases spent with
              | true => simp [Cycle.outcome?, gain] at ends
              | false =>
                  obtain rfl : gained = t := by simpa [Cycle.outcome?, gain] using ends
                  change Event.overflows (.renewalReply n (.ok gained))
                    (s.renewalReply now n (.ok gained)).result = false at within
                  simp only [renewalReply, found, gain] at within
                  rw [conclude_renews (s := s.countRenewal) counts] at within
                  cases result : (((s.countRenewal.endCycle n).takeIn gained).1.install now
                      ((s.countRenewal.endCycle n).takeIn gained).2 pauseBetweenCycles).result with
                  | ok done => exact result
                  | error beyond =>
                      rw [result] at within
                      cases within
  | cycleLoginReply id reply =>
      cases answers
      cases ends
      change Event.overflows (.cycleLoginReply n (.ok t))
        (s.cycleLoginReply now n (.ok t)).result = false at within
      simp only [cycleLoginReply, found] at within
      rw [conclude_renews (s := s.countLogin) counts] at within
      cases result : (((s.countLogin.endCycle n).takeIn t).1.install now
          ((s.countLogin.endCycle n).takeIn t).2 pauseBetweenCycles).result with
      | ok done => exact result
      | error beyond =>
          rw [result] at within
          cases within
  | _ => cases answers

theorem not_broken {t : Token} (found : s.cycles.find? n = some c)
    (within : Event.overflows (.renewalReply n (.ok t)) (s.renewalReply now n (.ok t)).result =
      false) : ∃ spent, exhausted c.start.token t = .ok spent := by
  cases gain : exhausted c.start.token t with
  | ok spent => exact ⟨spent, rfl⟩
  | error beyond =>
      simp only [renewalReply, found, gain] at within
      cases within

/-! ## Events -/

theorem Effect.attended (effect : Effect s now e s') (numbering : Numbering s)
    (within : e.overflows (s.step now e).result = false) (attended : Attended s) :
    Attended s' := by
  cases effect with
  | unheard _ _ | answered _ | told _ | queued _ | admitted _ | gone _ | refused _ _ | resumed _
  | outdated _ _ => exact attended
  | loggedIn id t serving unchanged =>
      intro _ new installed finite
      obtain ⟨timers, slot, same, _⟩ := renew_spec s.countLogin now t .zero
      have token : (s.countLogin.renew now t .zero).token = some ⟨s.serials, t⟩ := by rw [same]; rfl
      cases token.symm.trans installed
      exact Or.inl (renew_live numbering.slot_lt serving finite
        (loginReply_within serving unchanged within))
  | missed task idle =>
      intro serving t installed
      rcases idle with terminated | none
      · cases terminated.symm.trans serving
      · cases none.symm.trans installed
  | began task t =>
      intro _ _ _ _
      exact Or.inr ⟨_, _, Numbered.mem_add.mpr (Or.inr ⟨rfl, rfl⟩), rfl⟩
  | turned id reply d =>
      intro serving t installed finite
      rcases attended serving t installed finite with live | ⟨n, c, flying, generation⟩
      · exact Or.inl live
      · refine Or.inr ⟨n, _, Numbered.mem_change.mpr ⟨c, flying, rfl⟩, ?_⟩
        split <;> exact generation
  | broken id t d found beyond =>
      obtain ⟨spent, gain⟩ := not_broken found within
      exact absurd gain (beyond spent)
  | discarded e id d outcome answers found ends stale =>
      obtain ⟨tally, same⟩ := discarded_spec s e id
      rw [same]
      intro serving t installed finite
      rcases attended serving t installed finite with live | ⟨n, c, flying, generation⟩
      · exact Or.inl live
      · -- The cycle that looks after the token is not the stale one.
        refine Or.inr ⟨n, c, Numbered.mem_remove.mpr ⟨flying, ?_⟩, generation⟩
        rintro rfl
        obtain rfl := Numbered.eq_of_mem flying (Numbered.find?_eq_some_iff.mp found)
        exact stale ⟨serving, generation.symm⟩
  | renewed e id d t answers found ends counts =>
      intro _ new installed finite
      have live := renewed_within answers found ends counts within
      obtain ⟨tally, counted⟩ := counted_spec s e
      rw [counted] at installed live ⊢
      obtain ⟨timers, slot, same, _⟩ :=
        renew_spec ({ s with tally }.endCycle id) now t pauseBetweenCycles
      have token := congrArg Renewing.token same
      cases token.symm.trans installed
      exact Or.inl (renew_live numbering.slot_lt counts.1 finite live)
  | failed e id d error answers found ends counts =>
      intro _ _ _ _
      obtain ⟨tally, counted⟩ := counted_spec s e
      rw [counted]
      refine Or.inl (fail_live ?_ ?_ error)
      · exact numbering.slot_lt
      · exact counts.1
  | invalidated =>
      intro _ t installed
      cases installed
  | shutdown =>
      intro _ t installed
      cases installed

theorem Effect.vacant (effect : Effect s now e s') (sole : Sole s.timers s.slot)
    (kept : ∀ n c, (n, c) ∈ s.cycles.items → s.Counts c → s.token ≠ none) (vacant : Vacant s) :
    Vacant s' := by
  cases effect with
  | unheard _ _ | answered _ | told _ | queued _ | admitted _ | gone _ | refused _ _ | resumed _
  | outdated _ _ | turned _ _ _ | broken _ _ _ => exact vacant
  | loggedIn id t =>
      intro none
      obtain ⟨timers, slot, same, _⟩ := renew_spec s.countLogin now t .zero
      rw [same] at none
      cases none
  | missed task =>
      intro none
      change s.timers.items.filter _ = []
      rw [vacant none]
      rfl
  | began task t serving installed =>
      intro none
      cases installed.symm.trans none
  | discarded e id d outcome =>
      obtain ⟨tally, same⟩ := discarded_spec s e id
      rw [same]
      exact vacant
  | renewed e id d t =>
      obtain ⟨tally, timers, slot, same, _⟩ := renewed_spec s now e id t
      rw [same]
      exact nofun
  | failed e id d error answers found ends counts =>
      obtain ⟨tally, timers, slot, same, _⟩ := failed_spec s now e id error
      rw [same]
      exact fun none => absurd none (kept id d (Numbered.find?_eq_some_iff.mp found) counts)
  | invalidated => exact fun _ => sole.cancel
  | shutdown => exact fun _ => sole.cancel

/-! ## Every history -/

theorem attended_run (within : WithinClock { window } h) : Attended (run { window } h) := by
  have start : Attended { window } := nofun
  refine (History.invariant_after_keeping (I := fun s => Numbering s ∧ Attended s)
    (fun s now e held within => ?_) ⟨numbering_run window [], start⟩ within).2
  have effect := step_effect s now e
  exact ⟨effect.onward.numbering held.1, effect.attended held.1 within held.2⟩

/-- Only an invalidation or the shutdown takes a token away. -/
theorem token_kept_run (h : History Event) (calm : invalidations h = 0) (serving : ends h = false)
    (installed : s.token ≠ none) : (s.run h).token ≠ none := by
  induction h generalizing s with
  | nil => exact installed
  | cons event rest ih =>
      obtain ⟨still, later⟩ : event.2.invalidates = false ∧ invalidations rest = 0 := by
        unfold invalidations at calm ⊢
        rw [List.countP_cons] at calm
        cases raises : event.2.invalidates with
        | true => simp [raises] at calm
        | false => exact ⟨rfl, by omega⟩
      obtain ⟨lasts, last⟩ := Bool.or_eq_false_iff.mp serving
      refine ih (s := s.next event.1 event.2) later last ?_
      rcases (step_effect s event.1 event.2).onward.token with
        same | ⟨_, gone | gone⟩ | ⟨t, placed, _⟩
      · rwa [same]
      · cases still.symm.trans gone
      · cases lasts.symm.trans gone
      · rw [placed]
        exact nofun

/-- A cycle that counts finds a token in place. -/
theorem Counts.token_found (few : invalidations h < UInt64.size) (le : i ≤ h.length)
    (flying : (n, c) ∈ (found { window } h i).cycles.items)
    (counts : (found { window } h i).Counts c) : (found { window } h i).token ≠ none := by
  obtain ⟨p, earlier, _, generation, installed⟩ := cycle_found le flying
  obtain ⟨serving, same⟩ := counts
  have path := found_run { window } h (Nat.le_of_lt earlier)
  rw [path] at serving same ⊢
  rw [terminated_run] at serving
  rw [generation_run, ← generation, add_ofNat_eq_self_iff] at same
  -- The generation is the old one again after a whole round only, so it has not moved at all.
  have calm := Nat.eq_zero_of_dvd_of_lt same (Nat.lt_of_le_of_lt (invalidations_le h p i) few)
  refine token_kept_run _ calm (Bool.or_eq_false_iff.mp serving).2 ?_
  rw [installed]
  exact nofun

theorem vacant_found (few : invalidations h < UInt64.size) (le : i ≤ h.length) :
    Vacant (found { window } h i) := by
  refine History.holds_at (P := fun i => Vacant (found { window } h i)) (fun _ => rfl) ?_ i le
  intro i now e here vacant
  have le := Nat.le_of_lt (History.lt_length_of_place here)
  rw [found_succ here]
  exact (step_effect _ now e).vacant (sole_run window (h.take i))
    (fun n c flying counts => counts.token_found few le flying) vacant

/-- A session in service that holds a token with an end has its renewal set or a cycle of its
generation in flight; never are two renewals set, and none is set without a token, until the
generations have come round. -/
theorem keeps_renewal (window : RenewalWindow) (h : History Event)
    (within : WithinClock { window } h) :
    ((run { window } h).terminated = false → ∀ t, (run { window } h).token = some t →
      t.token.validity ≠ .infinite → (run { window } h).timers.items ≠ [] ∨
        ∃ n c, (n, c) ∈ (run { window } h).cycles.items ∧
          c.generation = (run { window } h).generation) ∧
    (run { window } h).timers.items.length ≤ 1 ∧
    (invalidations h < UInt64.size → (run { window } h).token = none →
      (run { window } h).timers.items = []) := by
  refine ⟨attended_run within, (sole_run window h).length_le, ?_⟩
  intro few none
  have whole : found { window } h h.length = run { window } h := by
    unfold found
    rw [List.take_length]
  rw [← whole] at none ⊢
  exact vacant_found few (Nat.le_refl _) none

def failedAt32 : History Event :=
  loggedInAt0 ++ [(⟨30000000000⟩, .ring 0),
    (⟨31000000000⟩, .renewalReply 0 (.error .rateLimited)),
    (⟨32000000000⟩, .cycleLoginReply 0 (.error .rateLimited))]

theorem keeps_renewal_failedAt32 :
    let s := run { window := halfMinute } failedAt32
    (s.terminated = false → ∀ t, s.token = some t → t.token.validity ≠ .infinite →
      s.timers.items ≠ [] ∨ ∃ n c, (n, c) ∈ s.cycles.items ∧ c.generation = s.generation) ∧
    s.timers.items.length ≤ 1 ∧
    (invalidations failedAt32 < UInt64.size → s.token = none → s.timers.items = []) :=
  keeps_renewal halfMinute failedAt32 ⟨rfl, rfl, rfl, rfl, rfl, trivial⟩

/-! ## Generations that come round -/

def invalidatedTimes (now : Instant) (n : Nat) : History Event :=
  List.replicate n (now, .invalidate)

theorem cycles_invalidatedTimes (s : Renewing) (now : Instant) (n : Nat) :
    (s.run (invalidatedTimes now n)).cycles = s.cycles := by
  induction n generalizing s with
  | zero => rfl
  | succ n ih => exact ih s.invalidate

theorem token_invalidatedTimes (s : Renewing) (now : Instant) {n : Nat} (some : 0 < n) :
    (s.run (invalidatedTimes now n)).token = none := by
  induction n generalizing s with
  | zero => cases some
  | succ n ih =>
      cases n with
      | zero => rfl
      | succ n => exact ih s.invalidate (Nat.succ_pos n)

theorem within_invalidatedTimes (s : Renewing) (now : Instant) (n : Nat) :
    WithinClock s (invalidatedTimes now n) := by
  induction n generalizing s with
  | zero => trivial
  | succ n ih => exact ⟨rfl, ih s.invalidate⟩

/-- A cycle that counts counts again when the generations have come round. -/
theorem Counts.round (counts : s.Counts c) (now : Instant) (whole : UInt64.size ∣ n) :
    (s.run (invalidatedTimes now n)).Counts c := by
  have lasts : ends (invalidatedTimes now n) = false := by
    simp [ends, invalidatedTimes, Event.ends]
  have raised : invalidations (invalidatedTimes now n) = n := by
    unfold invalidations invalidatedTimes
    rw [List.countP_replicate]
    rfl
  constructor
  · rw [terminated_run, lasts, counts.1]
    rfl
  · rw [generation_run, raised, (add_ofNat_eq_self_iff _ _).mpr whole]
    exact counts.2

theorem next_cycleLoginReply (flying : s.cycles.find? i = some c) (counts : s.Counts c)
    (now : Instant) (error : VaultError) :
    s.next now (.cycleLoginReply i (.error error)) = (s.endCycle i).fail now error := by
  show (s.cycleLoginReply now i (.error error)).session = _
  simp only [cycleLoginReply, flying]
  rw [conclude_fails counts]

/-- If it fails then, it sets a task although the token is gone. -/
theorem fails_after_round (within : WithinClock { window } h)
    (flying : (run { window } h).cycles.find? i = some c) (counts : (run { window } h).Counts c)
    (whole : UInt64.size ∣ n) (some : 0 < n) (now later : Instant) (error : VaultError) :
    let round := h ++ invalidatedTimes now n ++ [(later, .cycleLoginReply i (.error error))]
    WithinClock { window } round ∧ (run { window } round).terminated = false ∧
      (run { window } round).token = none ∧ (run { window } round).timers.items ≠ [] := by
  intro round
  have path : run { window } (h ++ invalidatedTimes now n) =
      (run { window } h).run (invalidatedTimes now n) := History.after_append _ _ _
  have gone := token_invalidatedTimes (run { window } h) now some
  have again := counts.round now whole
  have numbering := numbering_run window (h ++ invalidatedTimes now n)
  rw [← cycles_invalidatedTimes _ now n] at flying
  rw [← path] at flying gone again
  generalize before : run { window } (h ++ invalidatedTimes now n) = s
    at flying gone again numbering
  have last : run { window } round = (s.endCycle i).fail later error := by
    rw [← next_cycleLoginReply flying again later error, ← before]
    exact History.after_append _ _ _
  obtain ⟨timers, slot, same, _⟩ := fail_spec (s.endCycle i) later error
  refine ⟨(within.append (within_invalidatedTimes _ now n)).append ⟨?_, trivial⟩, ?_, ?_, ?_⟩
  · have ended : (s.cycleLoginReply later i (.error error)).result = .ok () := by
      simp only [cycleLoginReply, flying]
      rw [conclude_fails again]
    show Event.overflows (.cycleLoginReply i (.error error))
      ((run { window } (h ++ invalidatedTimes now n)).cycleLoginReply later i
        (.error error)).result = false
    rw [before, ended]
    rfl
  · rw [last, same]
    exact again.1
  · rw [last, same]
    exact gone
  · rw [last]
    exact fail_live (s := s.endCycle i) numbering.slot_lt again.1 error

def loggingInAt31 : History Event :=
  loggedInAt0 ++ [(⟨30000000000⟩, .ring 0), (⟨31000000000⟩, .renewalReply 0 (.error .rateLimited))]

/-- The session is invalidated as often as there are generations while a cycle is in flight, whose
login fails then. -/
theorem timer_without_token : ¬ ∀ (window : RenewalWindow) (h : History Event),
    WithinClock { window } h → (run { window } h).terminated = false →
    (run { window } h).token = none → (run { window } h).timers.items = [] := by
  intro vacant
  have before : WithinClock { window := halfMinute } loggingInAt31 := ⟨rfl, rfl, rfl, rfl, trivial⟩
  obtain ⟨c, flying, counts⟩ : ∃ c,
      (run { window := halfMinute } loggingInAt31).cycles.find? 0 = some c ∧
        (run { window := halfMinute } loggingInAt31).Counts c := ⟨_, rfl, rfl, rfl⟩
  obtain ⟨within, serving, gone, live⟩ := fails_after_round before flying counts
    (Nat.dvd_refl UInt64.size) (by decide) ⟨31000000000⟩ ⟨32000000000⟩ .rateLimited
  exact live (vacant halfMinute _ within serving gone)

end Renewing

end Leasehold.Session

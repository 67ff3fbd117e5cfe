import Leasehold.Proofs.Session.Installation

/-!
# Cycles and newer tokens

A cycle compares generations when it ends, and only an invalidation begins a new
one.  So it spares a newer session if the session has been invalidated or shut
down since the cycle began, but not if a caller has logged in meanwhile because
the token had expired (`spares_newer_iff`, `overwrites_newer`).
-/

set_option autoImplicit false

namespace Leasehold.Session.Renewing

variable {s s' : Renewing} {now : Instant} {e : Event}

/-- What a cycle may change is as it was: the installed token, the degraded flag, the recorded error
and the scheduled renewal. -/
structure Unaltered (s s' : Renewing) : Prop where
  token : s'.token = s.token
  degraded : s'.degraded = s.degraded
  recorded : s'.recorded = s.recorded
  slot : s'.slot = s.slot
  live : s'.timers.items = s.timers.items

theorem Effect.unaltered_iff (effect : Effect s now e s') (numbering : Numbering s) {n : Nat}
    {c : Cycle} (answers : e.cycle? = some n) (found : s.cycles.find? n = some c) :
    Unaltered s s' ↔ c.outcome? e = none ∨ ¬ s.Counts c := by
  have effective {outcome : Except VaultError Token} (ends : c.outcome? e = some outcome)
      (counts : s.Counts c) : ¬ (c.outcome? e = none ∨ ¬ s.Counts c) := by
    rintro (none | stale)
    · cases none.symm.trans ends
    · exact stale counts
  cases effect with
  | unheard e id other unknown =>
      cases answers.symm.trans other
      cases found.symm.trans unknown
  | answered demand => cases answers
  | told error => cases answers
  | queued demand => cases answers
  | admitted demand => cases answers
  | gone id => cases answers
  | refused id reply => cases answers
  | resumed id => cases answers
  | outdated id t => cases answers
  | loggedIn id t => cases answers
  | missed task => cases answers
  | began task t => cases answers
  | turned id reply d held failed =>
      cases answers
      cases found.symm.trans held
      refine iff_of_true ⟨rfl, rfl, rfl, rfl, rfl⟩ (Or.inl ?_)
      cases reply with
      | error error => rfl
      | ok t => simp [Cycle.outcome?, failed t rfl]
  | broken id t d held beyond =>
      cases answers
      cases found.symm.trans held
      refine iff_of_true ⟨rfl, rfl, rfl, rfl, rfl⟩ (Or.inl ?_)
      cases gain : exhausted c.start.token t with
      | error overflow => simp [Cycle.outcome?, gain]
      | ok spent => exact absurd gain (beyond spent)
  | discarded e id d outcome other held ends stale =>
      cases answers.symm.trans other
      cases found.symm.trans held
      obtain ⟨tally, counted⟩ := counted_spec s e
      rw [counted]
      exact iff_of_true ⟨rfl, rfl, rfl, rfl, rfl⟩ (Or.inr stale)
  | renewed e id d t other held ends counts =>
      cases answers.symm.trans other
      cases found.symm.trans held
      refine iff_of_false (fun unaltered => ?_) (effective ends counts)
      obtain ⟨tally, counted⟩ := counted_spec s e
      obtain ⟨timers, slot, same, _⟩ :=
        renew_spec ({ s with tally }.endCycle n) now t pauseBetweenCycles
      rw [counted, same] at unaltered
      exact Nat.lt_irrefl _ (numbering.token_lt _ unaltered.token.symm)
  | failed e id d error other held ends counts =>
      cases answers.symm.trans other
      cases found.symm.trans held
      refine iff_of_false (fun unaltered => ?_) (effective ends counts)
      obtain ⟨tally, counted⟩ := counted_spec s e
      obtain ⟨timers, slot, same, _, set⟩ := fail_spec ({ s with tally }.endCycle n) now error
      rw [counted, same] at unaltered
      have handed : s.slot = some s.timers.issued := unaltered.slot.symm.trans (set counts.1)
      exact Nat.lt_irrefl _ (numbering.slot_lt _ handed)
  | invalidated => cases answers
  | shutdown => cases answers

/-- A flight in which its cycle is disowned: the session is shut down, or it is invalidated and the
generation is not the old one again. -/
def Disowned (flight : History Event) : Prop :=
  ends flight = true ∨ ¬ UInt64.size ∣ invalidations flight

instance (flight : History Event) : Decidable (Disowned flight) :=
  inferInstanceAs (Decidable (_ ∨ _))

theorem add_ofNat_eq_self_iff (a : UInt64) (k : Nat) :
    a + UInt64.ofNat k = a ↔ UInt64.size ∣ k := by
  rw [UInt64.add_eq_left, UInt64.ofNat_eq_iff_mod_eq_toNat, UInt64.toNat_zero,
    Nat.dvd_iff_mod_eq_zero]

theorem counts_run_iff {c : Cycle} (serving : s.terminated = false)
    (same : s.generation = c.generation) (flight : History Event) :
    (s.run flight).Counts c ↔ ¬ Disowned flight := by
  unfold Counts Disowned
  rw [terminated_run, generation_run, serving, Bool.false_or, ← same, add_ofNat_eq_self_iff,
    not_or, Decidable.not_not, Bool.not_eq_true]

theorem token_run_iff {t : TokenInstance} (below : t.serial < s.serials)
    (installed : s.token = some t) (h : History Event) :
    (s.run h).token = some t ↔
      History.Keeps next (fun s now e => (s.next now e).token = s.token) s h := by
  induction h generalizing s with
  | nil => exact iff_of_true installed trivial
  | cons event rest ih =>
      have onward := (step_effect s event.1 event.2).onward
      have later := Nat.lt_of_lt_of_le below onward.serials_le
      by_cases stays : (s.next event.1 event.2).token = s.token
      · have still := ih later (stays.trans installed)
        exact still.trans (and_iff_right stays).symm
      · refine iff_of_false (token_gone_run rest later ?_) fun keeps => stays keeps.1
        rwa [← installed]

/-- A reply to a cycle touches the token, the degraded flag, the recorded error and the scheduled
renewal only if the token from which the cycle started is still in place, exactly if it is not the
last reply, the session has disowned the cycle, or no step since it began has moved the token. -/
theorem spares_newer_iff (window : RenewalWindow) (before flight : History Event)
    (began now : Instant) (task n : Nat) (call : CycleCall) (c : Cycle) (e : Event)
    (rings : ((run { window } before).ring task).result = some (n, call))
    (flying :
      (((run { window } before).next began (.ring task)).run flight).cycles.find? n = some c)
    (answers : e.cycle? = some n) :
    (run { window } before).token = some c.start ∧
    ((¬ Unaltered (((run { window } before).next began (.ring task)).run flight)
          ((((run { window } before).next began (.ring task)).run flight).next now e) →
        (((run { window } before).next began (.ring task)).run flight).token = some c.start) ↔
      c.outcome? e = none ∨ Disowned flight ∨
        History.Keeps next (fun s now e => (s.next now e).token = s.token)
          ((run { window } before).next began (.ring task)) flight) := by
  have numbering := numbering_run window before
  generalize run { window } before = s at *
  obtain ⟨serving, rfl, t, installed, rung⟩ := ring_begins rings
  have start : s.next began (.ring task) = (s.start task).beginCycle t := rung
  rw [start] at flying ⊢
  have fresh : ∀ d, (s.cycles.issued, d) ∈ ((s.start task).beginCycle t).cycles.items →
      d.generation = s.generation ∧ d.start = t := by
    intro d member
    rcases Numbered.mem_add.mp member with old | ⟨_, rfl⟩
    · exact absurd (Numbered.lt_issued old) (Nat.lt_irrefl _)
    · exact ⟨rfl, rfl⟩
  obtain ⟨generation, rfl⟩ := cycle_run flight (Nat.lt_succ_self _) fresh c flying
  refine ⟨installed, ?_⟩
  have numbered : Numbering (((s.start task).beginCycle c.start).run flight) := by
    refine History.invariant_after (fun s now e held => ?_) flight
      ⟨numbering.token_lt, numbering.slot_lt⟩
    exact (step_effect s now e).onward.numbering held
  have unaltered := (step_effect _ now e).unaltered_iff numbered answers flying
  have counts := counts_run_iff (s := (s.start task).beginCycle c.start) serving
    generation.symm flight
  have stays := token_run_iff (s := (s.start task).beginCycle c.start)
    (numbering.token_lt _ installed) installed flight
  rw [unaltered, counts, Decidable.not_not, stays, ← or_assoc]
  exact Decidable.or_iff_not_imp_left.symm

/-- Renewals are due half a minute before expiry, but not sooner than ten seconds after issue. -/
def halfMinute : RenewalWindow := ⟨.ofSecs 10, .ofSecs 30⟩

def minute (value : String) (issued : Nat) : Token where
  value := value
  issued := ⟨issued * 1000000000⟩
  validity := .finite (.ofSecs 60)
  renewable := true

def loggedInAt0 : History Event :=
  [(⟨0⟩, .begin .token), (⟨0⟩, .loginReply 0 (.ok (minute "first" 0)))]

def loggedInAt61 : History Event :=
  [(⟨61000000000⟩, .begin .token),
    (⟨61000000000⟩, .loginReply 1 (.ok (minute "second" 61)))]

theorem spares_newer_iff_loggedInAt61 :
    let start := (run { window := halfMinute } loggedInAt0).next ⟨30000000000⟩ (.ring 0)
    let s := start.run loggedInAt61
    (run { window := halfMinute } loggedInAt0).token = some ⟨0, minute "first" 0⟩ ∧
    ((¬ Unaltered s (s.next ⟨70000000000⟩ (.renewalReply 0 (.ok (minute "stale" 70)))) →
        s.token = some ⟨0, minute "first" 0⟩) ↔
      Cycle.outcome? ⟨0, ⟨0, minute "first" 0⟩, .renewing⟩
          (.renewalReply 0 (.ok (minute "stale" 70))) = none ∨
        Disowned loggedInAt61 ∨
        History.Keeps next (fun s now e => (s.next now e).token = s.token) start loggedInAt61) :=
  spares_newer_iff halfMinute loggedInAt0 loggedInAt61 ⟨30000000000⟩ ⟨70000000000⟩ 0 0
    (.renew (minute "first" 0)) ⟨0, ⟨0, minute "first" 0⟩, .renewing⟩ _ rfl rfl rfl

/-- The renewal of an expired token takes the place of the token of a later login. -/
theorem overwrites_newer :
    ¬ ∀ (window : RenewalWindow) (h : History Event) (n : Nat) (c : Cycle) (now : Instant)
      (e : Event), (run { window } h).cycles.find? n = some c → e.cycle? = some n →
        ¬ Unaltered (run { window } h) ((run { window } h).next now e) →
        (run { window } h).token = some c.start := by
  intro spares
  have installed := spares halfMinute (loggedInAt0 ++ (⟨30000000000⟩, .ring 0) :: loggedInAt61) 0
    ⟨0, ⟨0, minute "first" 0⟩, .renewing⟩ ⟨70000000000⟩
    (.renewalReply 0 (.ok (minute "stale" 70))) rfl rfl
    (fun unaltered => nomatch unaltered.token)
  cases installed

end Leasehold.Session.Renewing

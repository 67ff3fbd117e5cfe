import Leasehold.Proofs.Session.Provenance

/-!
# Errors of failed cycles

A cycle that fails records its error for the application.  What is recorded is
the error of the latest cycle that has failed and counted, as long as neither
the application has asked for a token nor the session has ended since
(`recorded_found`).  All other events happen in the same way whatever is
recorded, and leave it (`step_withRecorded`).
-/

set_option autoImplicit false

namespace Leasehold.Session

def Event.clears : Event → Bool
  | .begin .token => true
  | .shutdown => true
  | _ => false

namespace Renewing

variable {s : Renewing} {window : RenewalWindow} {h : History Event} {now : Instant} {e : Event}
  {i m : Nat} {error : VaultError}

def Fails (s : Renewing) (e : Event) (error : VaultError) : Prop :=
  ∃ n c, e = .cycleLoginReply n (.error error) ∧ s.cycles.find? n = some c ∧ s.Counts c

def FailsAt (s : Renewing) (h : History Event) (i : Nat) (error : VaultError) : Prop :=
  ∃ now e, h[i]? = some (now, e) ∧ (s.found h i).Fails e error

/-- The latest cycle that has failed before a place did so at place `k` with this error, and nothing
has cleared the error since. -/
def Due (s : Renewing) (h : History Event) (k m : Nat) (error : VaultError) : Prop :=
  k < m ∧ FailsAt s h k error ∧ ∀ j, k < j → j < m →
    (∀ now e, h[j]? = some (now, e) → e.clears = false) ∧ ∀ later, ¬ FailsAt s h j later

/-! ## Whatever is recorded -/

section Recorded

variable {r : Option VaultError}

def withRecorded (s : Renewing) (r : Option VaultError) : Renewing := { s with recorded := r }

@[simp] theorem withRecorded_terminated (s : Renewing) :
    (s.withRecorded r).terminated = s.terminated := rfl

@[simp] theorem withRecorded_token (s : Renewing) : (s.withRecorded r).token = s.token := rfl

@[simp] theorem withRecorded_cycles (s : Renewing) : (s.withRecorded r).cycles = s.cycles := rfl

@[simp] theorem withRecorded_usable (s : Renewing) (now : Instant) :
    (s.withRecorded r).usable now = s.usable now := rfl

@[simp] theorem withRecorded_arrive (s : Renewing) :
    (s.withRecorded r).arrive = s.arrive.withRecorded r := rfl

@[simp] theorem withRecorded_countLogin (s : Renewing) :
    (s.withRecorded r).countLogin = s.countLogin.withRecorded r := rfl

@[simp] theorem withRecorded_countRenewal (s : Renewing) :
    (s.withRecorded r).countRenewal = s.countRenewal.withRecorded r := rfl

@[simp] theorem withRecorded_takeIn (s : Renewing) (t : Token) :
    (s.withRecorded r).takeIn t = ((s.takeIn t).1.withRecorded r, (s.takeIn t).2) := rfl

@[simp] theorem withRecorded_endCycle (s : Renewing) (id : Nat) :
    (s.withRecorded r).endCycle id = (s.endCycle id).withRecorded r := rfl

theorem setTimer_withRecorded (s : Renewing) (now : Instant) (delay : Duration) :
    (s.withRecorded r).setTimer now delay = (s.setTimer now delay).within (·.withRecorded r) := by
  unfold setTimer Change.within withRecorded
  dsimp only
  split
  · rfl
  · rfl

theorem install_withRecorded (s : Renewing) (now : Instant) (t : TokenInstance)
    (floor : Duration) :
    (s.withRecorded r).install now t floor =
      (s.install now t floor).within (·.withRecorded r) := by
  have window : (s.withRecorded r).window = s.window := rfl
  unfold install
  dsimp only
  rw [window]
  rcases s.window.delay t.token.issued t.token.validity now with beyond | _ | delay
  · rfl
  · rfl
  · have timed := setTimer_withRecorded (r := r) { s with token := some t, degraded := false } now
      (max delay floor)
    refine Eq.trans ?_ (congrArg (fun c : Change Renewing Unit =>
      (⟨c.session, .ok (), c.timer, none⟩ : Change Renewing (Except InstantOverflow Unit))) timed)
    rfl

theorem begin_withRecorded (s : Renewing) (now : Instant) :
    (s.withRecorded r).begin now .current = (s.begin now .current).within (·.withRecorded r) := by
  have held : (s.arrive.withRecorded r).lock = s.arrive.lock := rfl
  unfold Renewing.begin tokenOrLogin
  dsimp only
  rw [withRecorded_terminated, withRecorded_arrive, withRecorded_usable, held]
  by_cases ended : s.terminated = true
  · simp only [if_pos ended]
    rfl
  · simp only [if_neg ended]
    rcases s.arrive.usable now with beyond | _ | t
    · rfl
    · dsimp only
      split
      · rfl
      · rfl
    · rfl

theorem attempt_withRecorded (s : Renewing) (now : Instant) (id : Nat) :
    (s.withRecorded r).attempt now id = (s.attempt now id).within (·.withRecorded r) := by
  unfold attempt
  rw [withRecorded_terminated, withRecorded_usable]
  by_cases ended : s.terminated = true
  · simp only [if_pos ended]
    rfl
  · simp only [if_neg ended]
    rcases s.usable now with beyond | _ | t
    · rfl
    · rfl
    · rfl

theorem loginReply_withRecorded (s : Renewing) (now : Instant) (id : Nat)
    (reply : Except VaultError Token) :
    (s.withRecorded r).loginReply now id reply =
      (s.loginReply now id reply).within (·.withRecorded r) := by
  have unchanged : ((s.withRecorded r).loginGeneration id = some (s.withRecorded r).generation) =
      (s.loginGeneration id = some s.generation) := rfl
  cases reply with
  | error error => rfl
  | ok t =>
      unfold loginReply
      simp only [withRecorded_terminated, withRecorded_countLogin, withRecorded_takeIn, unchanged,
        install_withRecorded]
      split
      · rfl
      · split
        · rfl
        · rfl

theorem ring_withRecorded (s : Renewing) (task : Nat) :
    (s.withRecorded r).ring task = (s.ring task).within (·.withRecorded r) := by
  unfold ring
  rw [withRecorded_terminated, withRecorded_token]
  by_cases ended : s.terminated = true
  · simp only [if_pos ended]
    rfl
  · simp only [if_neg ended]
    cases s.token with
    | none => rfl
    | some t => rfl

theorem conclude_withRecorded (s : Renewing) (now : Instant) (id : Nat) (c : Cycle)
    (outcome : Except VaultError Token) (spares : ∀ error, outcome = .error error → ¬ s.Counts c) :
    (s.withRecorded r).conclude now id c outcome =
      (s.conclude now id c outcome).within (·.withRecorded r) := by
  have stale : (((s.endCycle id).withRecorded r).generation ≠ c.generation) =
      ((s.endCycle id).generation ≠ c.generation) := rfl
  unfold conclude
  simp only [withRecorded_endCycle, withRecorded_terminated, stale]
  split
  · rfl
  · rename_i fresh
    cases outcome with
    | ok t => exact install_withRecorded ((s.endCycle id).takeIn t).1 now _ pauseBetweenCycles
    | error error =>
        obtain ⟨serving, same⟩ := not_or.mp fresh
        have counts : s.Counts c := ⟨Bool.eq_false_iff.mpr serving, Decidable.not_not.mp same⟩
        exact absurd counts (spares error rfl)

theorem renewalReply_withRecorded (s : Renewing) (now : Instant) (id : Nat)
    (reply : Except VaultError Token) :
    (s.withRecorded r).renewalReply now id reply =
      (s.renewalReply now id reply).within (·.withRecorded r) := by
  unfold renewalReply
  rw [withRecorded_cycles]
  cases s.cycles.find? id with
  | none => rfl
  | some c =>
      cases reply with
      | error error => rfl
      | ok t =>
          dsimp only
          rw [withRecorded_countRenewal, conclude_withRecorded _ now id c (.ok t) nofun]
          rcases exhausted c.start.token t with beyond | _ | _
          · rfl
          · rfl
          · rfl

theorem cycleLoginReply_withRecorded (s : Renewing) (now : Instant) (id : Nat)
    (reply : Except VaultError Token)
    (spares : ∀ error, ¬ s.Fails (.cycleLoginReply id reply) error) :
    (s.withRecorded r).cycleLoginReply now id reply =
      (s.cycleLoginReply now id reply).within (·.withRecorded r) := by
  unfold cycleLoginReply
  rw [withRecorded_cycles]
  cases found : s.cycles.find? id with
  | none => rfl
  | some c =>
      cases reply with
      | ok t => exact conclude_withRecorded s.countLogin now id c (.ok t) nofun
      | error error =>
          refine conclude_withRecorded s now id c (.error error) ?_
          rintro other ⟨⟩ counts
          exact spares error ⟨id, c, rfl, found, counts⟩

theorem step_withRecorded (s : Renewing) (now : Instant) (e : Event) (r : Option VaultError)
    (leaves : e.clears = false) (spares : ∀ error, ¬ s.Fails e error) :
    (s.withRecorded r).step now e = (s.step now e).within (·.withRecorded r) := by
  cases e with
  | begin demand =>
      cases demand with
      | token => cases leaves
      | current => exact begin_withRecorded s now
  | attempt id => exact attempt_withRecorded s now id
  | loginReply id reply => exact loginReply_withRecorded s now id reply
  | ring task => exact ring_withRecorded s task
  | renewalReply id reply => exact renewalReply_withRecorded s now id reply
  | cycleLoginReply id reply => exact cycleLoginReply_withRecorded s now id reply spares
  | invalidate => rfl
  | shutdown => cases leaves

theorem recorded_next (leaves : e.clears = false) (spares : ∀ error, ¬ s.Fails e error) :
    (s.next now e).recorded = s.recorded := by
  have same := step_withRecorded s now e s.recorded leaves spares
  exact congrArg (fun c => c.session.recorded) same

end Recorded

/-! ## What one event records, clears and tells -/

theorem Fails.recorded (fails : s.Fails e error) : (s.next now e).recorded = some error := by
  obtain ⟨n, c, rfl, found, counts⟩ := fails
  have effect := step_effect s now (.cycleLoginReply n (.error error))
  generalize s.next now (.cycleLoginReply n (.error error)) = after at *
  cases effect with
  | unheard _ id answers unknown =>
      cases answers
      cases found.symm.trans unknown
  | discarded _ id d outcome answers found' ends stale =>
      cases answers
      cases found.symm.trans found'
      exact absurd counts stale
  | renewed _ id d t answers found' ends => cases ends
  | failed _ id d other answers found' ends =>
      cases ends
      obtain ⟨tally, timers, slot, same, _⟩ :=
        failed_spec s now (.cycleLoginReply n (.error error)) id error
      rw [same]

theorem Fails.unique {other : VaultError} (fails : s.Fails e error) (also : s.Fails e other) :
    error = other := by
  obtain ⟨n, c, rfl, _⟩ := fails
  obtain ⟨_, _, same, _⟩ := also
  cases same
  rfl

theorem begin_token (serving : s.terminated = false) (none : s.recorded = none) :
    s.begin now .token = s.begin now .current := by
  unfold Renewing.begin
  rw [serving, none]

/-- Nothing is recorded in a session that has ended. -/
def Silent (s : Renewing) : Prop := s.terminated = true → s.recorded = none

theorem begin_token_recorded (silent : s.Silent) :
    (s.begin now .token).session.recorded = none := by
  cases terminated : s.terminated with
  | true =>
      unfold Renewing.begin
      rw [if_pos terminated]
      exact silent terminated
  | false =>
      cases recorded : s.recorded with
      | none =>
          rw [begin_token terminated recorded, ← recorded]
          exact recorded_next (e := .begin .current) rfl nofun
      | some error =>
          unfold Renewing.begin
          rw [if_neg (Bool.eq_false_iff.mp terminated), recorded]
          rfl

theorem Silent.recorded_clears (silent : s.Silent) (clears : e.clears = true) :
    (s.next now e).recorded = none := by
  cases e with
  | begin demand =>
      cases demand with
      | token => exact begin_token_recorded silent
      | current => cases clears
  | shutdown => rfl
  | _ => cases clears

theorem recorded_next_iff (silent : s.Silent) :
    (s.next now e).recorded = some error ↔
      s.Fails e error ∨
        s.recorded = some error ∧ e.clears = false ∧ ∀ later, ¬ s.Fails e later := by
  by_cases fails : ∃ later, s.Fails e later
  · obtain ⟨later, fails⟩ := fails
    rw [fails.recorded]
    constructor
    · rintro ⟨⟩
      exact Or.inl fails
    · rintro (also | ⟨_, _, spares⟩)
      · rw [fails.unique also]
      · exact absurd fails (spares later)
  · have spares : ∀ later, ¬ s.Fails e later := not_exists.mp fails
    cases clears : e.clears with
    | true =>
        rw [silent.recorded_clears clears]
        constructor
        · nofun
        · rintro (also | ⟨_, leaves, _⟩)
          · exact absurd also (spares error)
          · cases leaves
    | false =>
        rw [recorded_next clears spares]
        constructor
        · intro recorded
          exact Or.inr ⟨recorded, rfl, spares⟩
        · rintro (also | ⟨recorded, _⟩)
          · exact absurd also (spares error)
          · exact recorded

theorem Silent.next (silent : s.Silent) : (s.next now e).Silent := by
  intro terminated
  cases recorded : (s.next now e).recorded with
  | none => rfl
  | some error =>
      have onward := (step_effect s now e).onward.terminated
      -- A cycle that counts ends before the session does, and an error recorded before was in a
      -- session that had not ended.
      rcases (recorded_next_iff silent).mp recorded with
        ⟨n, c, rfl, _, counts⟩ | ⟨before, leaves, _⟩
      · rw [terminated, counts.1] at onward
        cases onward
      · have lasting : e.ends = false := by
          cases e with
          | shutdown => cases leaves
          | _ => rfl
        rw [terminated, lasting, Bool.or_false] at onward
        rw [silent onward.symm] at before
        cases before

theorem silent_found (window : RenewalWindow) (h : History Event) (i : Nat) :
    (found { window } h i).Silent :=
  History.invariant_after (fun _ _ _ silent => silent.next) (h.take i) nofun

theorem begin_token_reports (s : Renewing) (now : Instant) (error : VaultError) :
    (s.begin now .token).result.2 = some (.answered (.error (.error error))) ↔
      s.terminated = true ∧ error = .shutdown ∨ s.terminated = false ∧ s.recorded = some error := by
  unfold Renewing.begin
  cases terminated : s.terminated with
  | true =>
      simp only [if_true, true_and, Bool.true_eq_false, false_and, or_false]
      constructor
      · rintro ⟨⟩
        rfl
      · rintro rfl
        rfl
  | false =>
      simp only [Bool.false_eq_true, if_false, false_and, true_and, false_or]
      cases recorded : s.recorded with
      | some other =>
          constructor
          · rintro ⟨⟩
            rfl
          · rintro ⟨⟩
            rfl
      | none =>
          constructor
          · intro result
            unfold tokenOrLogin at result
            dsimp only at result
            split at result
            · cases result
            · cases result
            · split at result
              · cases result
              · cases result
          · nofun

/-! ## Every history -/

theorem due_succ_iff (here : h[i]? = some (now, e)) :
    (∃ k, Due s h k (i + 1) error) ↔ (s.found h i).Fails e error ∨
      (∃ k, Due s h k i error) ∧ e.clears = false ∧ ∀ later, ¬ (s.found h i).Fails e later := by
  have failsAt (later : VaultError) : FailsAt s h i later ↔ (s.found h i).Fails e later := by
    constructor
    · rintro ⟨_, _, there, fails⟩
      cases here.symm.trans there
      exact fails
    · exact fun fails => ⟨now, e, here, fails⟩
  constructor
  · rintro ⟨k, before, fails, since⟩
    rcases Nat.lt_succ_iff_lt_or_eq.mp before with earlier | rfl
    · obtain ⟨leaves, spares⟩ := since i earlier (Nat.lt_succ_self i)
      refine Or.inr ⟨⟨k, earlier, fails, ?_⟩, leaves now e here, ?_⟩
      · exact fun j after until_ => since j after (Nat.lt_succ_of_lt until_)
      · exact fun later => mt (failsAt later).mpr (spares later)
    · exact Or.inl ((failsAt error).mp fails)
  · rintro (fails | ⟨⟨k, before, fails, since⟩, leaves, spares⟩)
    · exact ⟨i, Nat.lt_succ_self i, (failsAt error).mpr fails, fun j after until_ => by omega⟩
    · refine ⟨k, Nat.lt_succ_of_lt before, fails, ?_⟩
      intro j after until_
      rcases Nat.lt_succ_iff_lt_or_eq.mp until_ with earlier | rfl
      · exact since j after earlier
      · refine ⟨?_, fun later => mt (failsAt later).mp (spares later)⟩
        intro now' e' there
        cases here.symm.trans there
        exact leaves

theorem recorded_found (window : RenewalWindow) (le : m ≤ h.length) :
    (found { window } h m).recorded = some error ↔ ∃ k, Due { window } h k m error := by
  refine History.holds_at (P := fun m => (found { window } h m).recorded = some error ↔
    ∃ k, Due { window } h k m error) ?_ ?_ m le
  · constructor
    · nofun
    · rintro ⟨k, before, _⟩
      cases before
  · intro i now e here same
    rw [found_succ here, recorded_next_iff (silent_found window h i), same, due_succ_iff here]

/-- The application is told an error exactly if the session has ended, or the error is due. -/
theorem reports_iff (window : RenewalWindow) (here : h[m]? = some (now, .begin .token)) :
    ((found { window } h m).begin now .token).result.2 =
        some (.answered (.error (.error error))) ↔
      ends (h.take m) = true ∧ error = .shutdown ∨ ∃ k, Due { window } h k m error := by
  have le := Nat.le_of_lt (History.lt_length_of_place here)
  have closed : (found { window } h m).terminated = ends (h.take m) := terminated_run _ _
  rw [begin_token_reports, closed, ← recorded_found window le]
  constructor
  · rintro (ended | ⟨_, recorded⟩)
    · exact Or.inl ended
    · exact Or.inr recorded
  · rintro (ended | recorded)
    · exact Or.inl ended
    · refine Or.inr ⟨?_, recorded⟩
      apply Bool.eq_false_iff.mpr
      intro ended
      rw [silent_found window h m (closed.trans ended)] at recorded
      cases recorded

theorem Due.heard {k m' : Nat} {other : VaultError} (due : Due s h k m error)
    (here : h[m]? = some (now, .begin .token)) (later : m < m') : ¬ Due s h k m' other := by
  rintro ⟨_, _, since⟩
  have leaves := (since m due.1 later).1 now _ here
  cases leaves

end Renewing

end Leasehold.Session

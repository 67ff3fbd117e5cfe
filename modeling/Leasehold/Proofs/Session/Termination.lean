import Leasehold.Proofs.Session.Installation
import Leasehold.Session.Manager

/-!
# The end of a session

Either kind of session stays ended once it has been shut down (`ended_run`): no
event puts a token or a timer in place again or records an error, and no caller
is given a token, whether it comes later, has been let in only now, or hears how
its login ended (`shutdown_absorbing`).
-/

set_option autoImplicit false

namespace Leasehold.Session

/-! ## Sessions with renewal -/

namespace Renewing

variable {s s' : Renewing} {now : Instant} {e : Event}

/-- What is left of a session after its end. -/
structure Ended (s : Renewing) : Prop where
  terminated : s.terminated = true
  token : s.token = none
  recorded : s.recorded = none
  slot : s.slot = none
  live : s.timers.items = []

theorem shutdown_ended (sole : Sole s.timers s.slot) : Ended s.shutdown where
  terminated := rfl
  token := rfl
  recorded := rfl
  slot := rfl
  live := sole.cancel

theorem Ended.dropTimer (ended : Ended s) : Ended s.dropTimer where
  terminated := ended.terminated
  token := ended.token
  recorded := ended.recorded
  slot := rfl
  live := by
    change (s.timers.cancel s.slot).items = []
    rw [ended.slot]
    exact ended.live

theorem Effect.ended (effect : Effect s now e s') (ended : Ended s) : Ended s' := by
  have past {P : Prop} (serving : s.terminated = false) : P :=
    nomatch serving.symm.trans ended.terminated
  cases effect with
  | unheard _ _ => exact ended
  | answered _ | gone _ | refused _ _ | turned _ _ _ | broken _ _ _ => exact { ended with }
  | told error recorded serving => exact past serving
  | queued demand held serving => exact past serving
  | admitted demand free serving => exact past serving
  | resumed id serving => exact past serving
  | outdated id t serving => exact past serving
  | loggedIn id t serving => exact past serving
  | missed task =>
      refine { ended with live := ?_ }
      change s.timers.items.filter _ = []
      rw [ended.live]
      rfl
  | began task t serving => exact past serving
  | discarded e id c outcome =>
      obtain ⟨tally, same⟩ := discarded_spec s e id
      rw [same]
      exact { ended with }
  | renewed e id c t answers found ends counts => exact past counts.1
  | failed e id c error answers found ends counts => exact past counts.1
  | invalidated => exact { ended.dropTimer with token := rfl }
  | shutdown => exact { ended.dropTimer with terminated := rfl, token := rfl, recorded := rfl }

theorem Ended.begin (ended : Ended s) (now : Instant) (demand : Demand) :
    (s.begin now demand).result = (s.callers, some (.answered (.error (.error .shutdown)))) := by
  unfold Renewing.begin
  dsimp only
  rw [if_pos ended.terminated]

theorem Ended.attempt (ended : Ended s) (now : Instant) (id : Nat) :
    (s.attempt now id).result = .answered (.error (.error .shutdown)) := by
  unfold Renewing.attempt
  rw [if_pos ended.terminated]
  rfl

theorem Ended.loginReply (ended : Ended s) (now : Instant) (id : Nat) (t : Token) :
    (s.loginReply now id (.ok t)).result = .error (.error .shutdown) := by
  unfold Renewing.loginReply
  dsimp only
  rw [if_pos ended.terminated]
  rfl

end Renewing

/-! ## Sessions without renewal -/

namespace Simple

variable {s : Simple}

structure Ended (s : Simple) : Prop where
  terminated : s.terminated = true
  token : s.token = none

theorem Ended.begin (ended : Ended s) :
    s.begin.result = (s.callers, some (.answered (.error (.error .shutdown)))) := by
  unfold Simple.begin
  dsimp only
  rw [if_pos ended.terminated]

theorem Ended.attempt (ended : Ended s) :
    s.attempt.result = .answered (.error (.error .shutdown)) := by
  unfold Simple.attempt
  rw [if_pos ended.terminated]
  rfl

theorem Ended.loginReply (ended : Ended s) (t : Token) :
    (s.loginReply (.ok t)).result = .error (.error .shutdown) := by
  unfold Simple.loginReply
  dsimp only
  rw [if_pos ended.terminated]
  rfl

theorem Ended.step (ended : Ended s) (e : Event) : Ended (s.step e).session := by
  cases e with
  | begin demand =>
      change Ended s.begin.session
      unfold Simple.begin
      dsimp only
      rw [if_pos ended.terminated]
      exact { ended with }
  | attempt caller =>
      change Ended s.attempt.session
      unfold Simple.attempt
      rw [if_pos ended.terminated]
      exact { ended with }
  | loginReply caller reply =>
      cases reply with
      | error error => exact { ended with }
      | ok t =>
          change Ended (s.loginReply (.ok t)).session
          unfold Simple.loginReply
          dsimp only
          rw [if_pos ended.terminated]
          exact { ended with }
  | ring task => exact ended
  | renewalReply cycle reply => exact ended
  | cycleLoginReply cycle reply => exact ended
  | invalidate => exact { ended with token := rfl }
  | shutdown => exact ⟨rfl, rfl⟩

end Simple

/-! ## Either kind -/

namespace Manager

variable {m : Manager} {now : Instant}

def next (m : Manager) (now : Instant) (e : Event) : Manager := (m.step now e).session

abbrev run (m : Manager) (h : History Event) : Manager := History.after next m h

def token : Manager → Option TokenInstance
  | .simple s => s.token
  | .renewing s => s.token

def recorded : Manager → Option VaultError
  | .simple _ => none
  | .renewing s => s.recorded

def Ended : Manager → Prop
  | .simple s => s.Ended
  | .renewing s => s.Ended

theorem run_simple (s : Simple) (h : History Event) :
    ∃ s', run (.simple s) h = .simple s' := by
  induction h generalizing s with
  | nil => exact ⟨s, rfl⟩
  | cons event rest ih => exact ih (s.step event.2).session

theorem run_renewing (s : Renewing) (h : History Event) :
    run (.renewing s) h = .renewing (s.run h) := by
  induction h generalizing s with
  | nil => rfl
  | cons event rest ih => exact ih (s.next event.1 event.2)

theorem Ended.next (ended : m.Ended) (now : Instant) (e : Event) : (m.next now e).Ended := by
  cases m with
  | simple s => exact Simple.Ended.step ended e
  | renewing s => exact (Renewing.step_effect s now e).ended ended

theorem next_shutdown (m : Manager) (now : Instant) : m.next now .shutdown = m.shutdown := by
  cases m with
  | simple s => rfl
  | renewing s => rfl

theorem shutdown_ended (c : SessionConfig) (before : History Event) :
    (run (ofConfig c) before).shutdown.Ended := by
  unfold ofConfig
  split
  · rw [run_renewing]
    exact Renewing.shutdown_ended (Renewing.sole_run c.window before)
  · obtain ⟨s, same⟩ := run_simple {} before
    rw [same]
    exact ⟨rfl, rfl⟩

theorem ended_run (c : SessionConfig) (before after : History Event) (now : Instant) :
    (run (ofConfig c) (before ++ (now, .shutdown) :: after)).Ended := by
  have start : (next (run (ofConfig c) before) now .shutdown).Ended := by
    rw [next_shutdown]
    exact shutdown_ended c before
  rw [run, History.after_append]
  exact History.invariant_after (fun _ now e ended => ended.next now e) after start

/-! ## What an ended session shows -/

theorem Ended.status (ended : m.Ended) : m.status = .terminated := by
  cases m with
  | simple s => exact if_pos (Simple.Ended.terminated ended)
  | renewing s => exact if_pos (Renewing.Ended.terminated ended)

theorem Ended.token (ended : m.Ended) : m.token = none := by
  cases m with
  | simple s => exact Simple.Ended.token ended
  | renewing s => exact Renewing.Ended.token ended

theorem Ended.recorded (ended : m.Ended) : m.recorded = none := by
  cases m with
  | simple s => rfl
  | renewing s => exact Renewing.Ended.recorded ended

theorem Ended.idle (ended : m.Ended) :
    m.hasTimer? ≠ some true ∧ ∀ task, m.live task = false := by
  cases m with
  | simple s => exact ⟨nofun, fun _ => rfl⟩
  | renewing s =>
      obtain ⟨_, _, _, slot, live⟩ := ended
      refine ⟨?_, ?_⟩
      · simp [hasTimer?, Renewing.hasTimer, slot]
      · intro task
        refine Bool.eq_false_iff.mpr fun held => ?_
        obtain ⟨work, there⟩ := Numbered.holds_iff.mp held
        rw [live] at there
        cases there

theorem Ended.begin (ended : m.Ended) (now : Instant) (demand : Demand) :
    (m.step now (.begin demand)).result.2 = some (.answered (.error (.error .shutdown))) := by
  cases m with
  | simple s => exact congrArg Prod.snd (Simple.Ended.begin ended)
  | renewing s => exact congrArg Prod.snd (Renewing.Ended.begin ended now demand)

theorem Ended.attempt (ended : m.Ended) (now : Instant) (id : Nat) :
    (m.step now (.attempt id)).result = .answered (.error (.error .shutdown)) := by
  cases m with
  | simple s => exact Simple.Ended.attempt ended
  | renewing s => exact Renewing.Ended.attempt ended now id

theorem Ended.loginReply (ended : m.Ended) (now : Instant) (id : Nat) (t : Token) :
    (m.step now (.loginReply id (.ok t))).result = .error (.error .shutdown) := by
  cases m with
  | simple s => exact Simple.Ended.loginReply ended t
  | renewing s => exact Renewing.Ended.loginReply ended now id t

theorem loginReply_error (m : Manager) (now : Instant) (id : Nat) (error : VaultError) :
    (m.step now (.loginReply id (.error error))).result = .error (.error error) := by
  cases m with
  | simple s => rfl
  | renewing s => rfl

/-- Whatever happens after the shutdown of either kind of session, it is terminated, without a
token, a recorded error or a task that is set; callers that come are told of the shutdown at once,
as are those that waited for the lock and those whose login has succeeded, and those whose login has
failed are told its error. -/
theorem shutdown_absorbing (c : SessionConfig) (before after : History Event) (end_ : Instant) :
    let m := run (ofConfig c) (before ++ (end_, .shutdown) :: after)
    m.status = .terminated ∧ m.token = none ∧ m.recorded = none ∧
    (m.hasTimer? ≠ some true ∧ ∀ task, m.live task = false) ∧
    ∀ now : Instant,
      (∀ demand, (m.step now (.begin demand)).result.2 =
        some (.answered (.error (.error .shutdown)))) ∧
      (∀ id, (m.step now (.attempt id)).result = .answered (.error (.error .shutdown))) ∧
      (∀ id t, (m.step now (.loginReply id (.ok t))).result = .error (.error .shutdown)) ∧
      ∀ id error, (m.step now (.loginReply id (.error error))).result = .error (.error error) := by
  intro m
  have ended : m.Ended := ended_run c before after end_
  refine ⟨ended.status, ended.token, ended.recorded, ended.idle, fun now => ?_⟩
  exact ⟨ended.begin now, ended.attempt now, ended.loginReply now, m.loginReply_error now⟩

end Manager

end Leasehold.Session

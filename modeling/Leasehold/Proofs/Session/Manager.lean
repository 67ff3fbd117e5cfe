import Leasehold.Proofs.Session.Provenance
import Leasehold.Proofs.Session.Termination

/-!
# Sessions of either kind

What a caller finds is told in the same words of both kinds of session.  A
session is in service as long as it holds a token and has not ended; only an
invalidation or the shutdown puts it out of service (`InService.next`), and as
long as the token lasts everybody who goes on is given it (`InService.attempt`).
-/

set_option autoImplicit false

namespace Leasehold.Session

/-! ## Sessions without renewal -/

namespace Simple

variable {s : Simple}

theorem begin_spec (s : Simple) :
    ∃ lock, s.begin.session = { s with callers := s.callers + 1, lock } := by
  unfold Simple.begin
  dsimp only
  split
  · exact ⟨s.lock, rfl⟩
  · split
    · exact ⟨s.lock, rfl⟩
    · exact ⟨_, rfl⟩

theorem attempt_spec (s : Simple) : ∃ lock, s.attempt.session = { s with lock } := by
  unfold Simple.attempt
  split
  · exact ⟨_, rfl⟩
  · split
    · exact ⟨_, rfl⟩
    · exact ⟨s.lock, rfl⟩

theorem loginReply_spec (s : Simple) (t : Token) (serving : s.terminated = false) :
    (s.loginReply (.ok t)).session.terminated = false ∧
      (s.loginReply (.ok t)).session.token = some ⟨s.serials, t⟩ := by
  unfold Simple.loginReply
  dsimp only
  rw [if_neg (Bool.eq_false_iff.mp serving)]
  exact ⟨serving, rfl⟩

theorem loginReply_terminated (s : Simple) (reply : Except VaultError Token) :
    (s.loginReply reply).session.terminated = s.terminated := by
  unfold Simple.loginReply
  split
  · rfl
  · split <;> rfl

theorem step_terminated (s : Simple) (e : Event) :
    (s.step e).session.terminated = (s.terminated || e.ends) := by
  cases e with
  | begin demand =>
      obtain ⟨lock, same⟩ := begin_spec s
      change s.begin.session.terminated = (s.terminated || false)
      rw [same, Bool.or_false]
  | attempt id =>
      obtain ⟨lock, same⟩ := attempt_spec s
      change s.attempt.session.terminated = (s.terminated || false)
      rw [same, Bool.or_false]
  | loginReply id reply =>
      change (s.loginReply reply).session.terminated = (s.terminated || false)
      rw [loginReply_terminated, Bool.or_false]
  | shutdown => exact (Bool.or_true _).symm
  | _ => exact (Bool.or_false _).symm

theorem step_token {e : Event} (steady : e.invalidates = false) (lasts : e.ends = false)
    (installed : s.token ≠ none) : (s.step e).session.token ≠ none := by
  cases e with
  | begin demand =>
      obtain ⟨lock, same⟩ := begin_spec s
      change s.begin.session.token ≠ none
      rwa [same]
  | attempt id =>
      obtain ⟨lock, same⟩ := attempt_spec s
      change s.attempt.session.token ≠ none
      rwa [same]
  | loginReply id reply =>
      change (s.loginReply reply).session.token ≠ none
      unfold Simple.loginReply
      split
      · exact installed
      · split
        · exact installed
        · exact nofun
  | invalidate => cases steady
  | shutdown => cases lasts
  | _ => exact installed

end Simple

/-! ## Either kind of session -/

theorem Event.asks_begin {demand : Demand} {answer : (Event.begin demand).Answer} {id : Nat}
    (asks : Event.asks? (.begin demand) answer = some (.callerLogin id)) :
    answer = (id, some .login) := by
  obtain ⟨caller, turn⟩ := answer
  cases turn with
  | none => cases asks
  | some turn =>
      cases turn with
      | answered result => cases asks
      | login =>
          cases asks
          rfl

theorem Event.asks_attempt {caller : Nat} {answer : (Event.attempt caller).Answer} {id : Nat} :
    Event.asks? (.attempt caller) answer = some (.callerLogin id) ↔
      caller = id ∧ answer = .login := by
  cases answer with
  | answered result => exact ⟨nofun, fun both => nomatch both.2⟩
  | login =>
      constructor
      · rintro ⟨⟩
        exact ⟨rfl, rfl⟩
      · rintro ⟨rfl, _⟩
        rfl

theorem Event.asks_callerLogin {e : Event} {answer : e.Answer} {id : Nat}
    (asks : e.asks? answer = some (.callerLogin id)) :
    (∃ demand, e = .begin demand) ∨ e = .attempt id := by
  cases e with
  | begin demand => exact Or.inl ⟨demand, rfl⟩
  | attempt caller =>
      obtain ⟨rfl, _⟩ := asks_attempt.mp asks
      exact Or.inr rfl
  | ring task =>
      obtain ⟨_, _, _, other | other⟩ := Renewing.ring_asks asks
      · cases other
      · cases other
  | renewalReply n reply => cases Renewing.renewalReply_asks asks
  | _ => cases asks

namespace Manager

variable {m : Manager} {now : Instant} {e : Event} {id : Nat}

def terminated : Manager → Bool
  | .simple s => s.terminated
  | .renewing s => s.terminated

def callers : Manager → Nat
  | .simple s => s.callers
  | .renewing s => s.callers

def usable (m : Manager) (now : Instant) : Except InstantOverflow (Option TokenInstance) :=
  match m with
  | .simple s => .ok s.token
  | .renewing s => s.usable now

/-- The token in place has not expired; a session without renewal does not look. -/
def Lasts (m : Manager) (now : Instant) : Prop :=
  match m with
  | .simple _ => True
  | .renewing s => ∀ t, s.token = some t → t.token.expired now = .ok false

structure InService (m : Manager) : Prop where
  serving : m.terminated = false
  token : m.token ≠ none

theorem attempt_result (m : Manager) (now : Instant) (id : Nat) :
    (m.step now (.attempt id)).result =
      if m.terminated then .answered (.error (.error .shutdown))
      else
        match m.usable now with
        | .error _ => .answered (.error .overflow)
        | .ok (some t) => .answered (.ok t)
        | .ok none => .login := by
  cases m with
  | simple s =>
      change s.attempt.result = _
      unfold Simple.attempt
      cases terminated : s.terminated with
      | true => simp [Manager.terminated, terminated, Simple.leave]
      | false =>
          cases token : s.token with
          | none => simp [Manager.terminated, Manager.usable, terminated, token]
          | some t => simp [Manager.terminated, Manager.usable, terminated, token, Simple.leave]
  | renewing s =>
      change (s.attempt now id).result = _
      unfold Renewing.attempt
      cases terminated : s.terminated with
      | true => simp [Manager.terminated, terminated, Renewing.leave]
      | false =>
          rcases usable : s.usable now with beyond | _ | t
          · simp [Manager.terminated, Manager.usable, terminated, usable, Renewing.leave]
          · simp [Manager.terminated, Manager.usable, terminated, usable]
          · simp [Manager.terminated, Manager.usable, terminated, usable, Renewing.leave]

theorem attempt_login_iff (m : Manager) (now : Instant) (id : Nat) :
    (m.step now (.attempt id)).result = .login ↔
      m.terminated = false ∧ m.usable now = .ok none := by
  rw [attempt_result]
  cases m.terminated with
  | true => simp
  | false => rcases m.usable now with beyond | _ | t <;> simp

theorem InService.attempt (service : m.InService) (lasts : m.Lasts now) (id : Nat) :
    ∃ t, m.token = some t ∧ (m.step now (.attempt id)).result = .answered (.ok t) := by
  obtain ⟨t, installed⟩ := Option.ne_none_iff_exists'.mp service.token
  have usable : m.usable now = .ok (some t) := by
    cases m with
    | simple s => exact congrArg Except.ok installed
    | renewing s =>
        have expired : t.token.expired now = .ok false := lasts t installed
        have token : s.token = some t := installed
        change s.usable now = _
        unfold Renewing.usable
        rw [token]
        change (t.token.expired now).map _ = _
        rw [expired]
        rfl
  refine ⟨t, installed, ?_⟩
  rw [attempt_result, service.serving, usable]
  rfl

theorem status_terminated_iff : m.status = .terminated ↔ m.terminated = true := by
  cases m with
  | simple s =>
      change s.status = .terminated ↔ s.terminated = true
      unfold Simple.status
      cases s.terminated with
      | true => simp
      | false => cases s.token <;> simp
  | renewing s =>
      change s.status = .terminated ↔ s.terminated = true
      unfold Renewing.status
      cases s.terminated with
      | true => simp
      | false => cases s.token <;> cases s.degraded <;> simp

theorem begin_terminated (ended : m.terminated = true) (now : Instant) (demand : Demand) :
    (m.step now (.begin demand)).result =
      (m.callers, some (.answered (.error (.error .shutdown)))) := by
  cases m with
  | simple s =>
      change s.begin.result = _
      unfold Simple.begin
      dsimp only
      rw [if_pos (show s.terminated = true from ended)]
      rfl
  | renewing s =>
      change (s.begin now demand).result = _
      unfold Renewing.begin
      dsimp only
      rw [if_pos (show s.terminated = true from ended)]
      rfl

theorem serving_of_asks (asks : e.asks? (m.step now e).result = some (.callerLogin id)) :
    m.terminated = false := by
  apply Bool.eq_false_iff.mpr
  intro ended
  rcases Event.asks_callerLogin asks with ⟨demand, rfl⟩ | rfl
  · rw [begin_terminated ended] at asks
    cases asks
  · rw [attempt_result, ended] at asks
    cases asks

theorem terminated_shutdown (m : Manager) : m.shutdown.terminated = true := by
  cases m with
  | simple s => rfl
  | renewing s => rfl

theorem terminated_next (m : Manager) (now : Instant) (e : Event) :
    (m.next now e).terminated = (m.terminated || e.ends) := by
  cases m with
  | simple s => exact Simple.step_terminated s e
  | renewing s => exact (Renewing.step_effect s now e).onward.terminated

theorem InService.next (service : m.InService) (steady : e.invalidates = false)
    (lasts : e.ends = false) : (m.next now e).InService where
  serving := by rw [terminated_next, service.serving, lasts, Bool.or_false]
  token := by
    cases m with
    | simple s => exact Simple.step_token steady lasts service.token
    | renewing s =>
        change (s.next now e).token ≠ none
        have installed : s.token ≠ none := service.token
        rcases (Renewing.step_effect s now e).onward.token with
          same | ⟨_, gone | gone⟩ | ⟨t, placed, _⟩
        · rwa [same]
        · cases steady.symm.trans gone
        · cases lasts.symm.trans gone
        · rw [placed]
          exact nofun

theorem begin_number (m : Manager) (now : Instant) (demand : Demand) :
    (m.step now (.begin demand)).result.1 = m.callers := by
  cases m with
  | simple s =>
      change s.begin.result.1 = s.callers
      unfold Simple.begin
      dsimp only
      split
      · rfl
      · split <;> rfl
  | renewing s => exact Renewing.begin_number s now demand

end Manager

namespace Renewing

variable {s : Renewing} {id : Nat}

theorem Made.loginGeneration {generation : UInt64}
    (made : Made s generation (.callerLogin id)) (pending : s.Pending (.callerLogin id)) :
    s.loginGeneration id = some generation := by
  obtain ⟨began, there⟩ := pending
  cases found : s.loginGeneration id with
  | none =>
      have nowhere := List.findSome?_eq_none_iff.mp found _ there
      simp at nowhere
  | some g =>
      have stage := made.2 _ (mem_of_loginGeneration found) rfl
      exact congrArg some (CallStage.loggingIn.inj stage)

theorem loginReply_installs (now : Instant) (t : Token) (serving : s.terminated = false)
    (unchanged : s.loginGeneration id = some s.generation) :
    (s.loginReply now id (.ok t)).session.token = some ⟨s.serials, t⟩ := by
  obtain ⟨timers, slot, same, _⟩ := renew_spec s.countLogin now t .zero
  unfold Renewing.loginReply
  dsimp only
  rw [if_neg (Bool.eq_false_iff.mp serving), if_pos unchanged]
  change (s.countLogin.renew now t .zero).token = _
  rw [same]
  rfl

end Renewing

end Leasehold.Session

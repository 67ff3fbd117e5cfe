import Leasehold.Proofs.Crowd
import Leasehold.Proofs.Reports
import Leasehold.Proofs.Session.Manager
import Leasehold.Proofs.Vault.Requests

/-!
# Calls that the server rejects

The client that is bound to a session fetches its token, makes the call, and
invalidates the session when the server rejects the credentials.  The three steps
are apart, and the session may have moved on meanwhile.  Which token is in place
when the rejection comes makes no difference: the session is invalidated, also
when a login or a renewal has brought a newer token (`rejection_invalidates`).
-/

set_option autoImplicit false

namespace Leasehold

open Activity (Always Leads)
open Session (Event Manager Service TokenInstance)

/-! ## What a move does to the session -/

namespace Session.Service

variable {σ J α : Type} {session : Service σ J}

def Untouched (session : Service σ J) (m : Move σ) : Prop :=
  session.get m.after = session.get m.before

def Undergoes (session : Service σ J) (e : Event) (m : Move σ) : Prop :=
  session.get m.after = (session.get m.before).next m.now e

/-- A move that invalidates nothing: nothing happens to the session, or something else. -/
def Retains (session : Service σ J) (m : Move σ) : Prop :=
  session.Untouched m ∨ ∃ e : Event, e.invalidates = false ∧ session.Undergoes e m

def effects {ρ : Type} (session : Service σ J) (c : Change Manager ρ) : Activity σ J ρ := do
  match c.timer with
  | some t => Activity.spawn (session.job t)
  | none => pure ()
  match c.woken with
  | some caller => Activity.wake caller
  | none => pure ()
  return c.result

theorem happen_eq (session : Service σ J) (e : Event) :
    session.happen e = (Activity.act fun now s =>
      let c := (session.get s).step now e
      (session.put c.session s, c)).bind session.effects := rfl

theorem effects_retains {ρ : Type} (session : Service σ J) (c : Change Manager ρ) :
    Always session.Retains (session.effects c) := by
  have idle (now : Instant) (s : σ) : session.Retains ⟨now, s, s⟩ := Or.inl rfl
  obtain ⟨after, result, timer, woken⟩ := c
  have wakes (caller : Nat) : Always session.Retains
      ((Activity.wake caller : Activity σ J Unit).bind fun _ => .done result) :=
    (Activity.always_idle idle fun _ _ => ⟨none, rfl⟩).bind fun _ => Activity.always_done result
  have spawns (t : Timer Unit) (p : Activity σ J ρ) (rest : Always session.Retains p) :
      Always session.Retains ((Activity.spawn (session.job t)).bind fun _ => p) :=
    (Activity.always_idle idle fun _ _ => ⟨_, rfl⟩).bind fun _ => rest
  cases timer with
  | none =>
      cases woken with
      | none => exact Activity.always_done result
      | some caller => exact wakes caller
  | some t =>
      cases woken with
      | none => exact spawns t _ (Activity.always_done result)
      | some caller => exact spawns t _ (wakes caller)

theorem happen_retains (lawful : session.Lawful) {e : Event} (steady : e.invalidates = false) :
    Always session.Retains (session.happen e) := by
  rw [happen_eq]
  refine (Activity.always_act ?_).bind (effects_retains session)
  exact fun now s => Or.inr ⟨e, steady, lawful.get_put _ _⟩

theorem obtain_retains (lawful : session.Lawful)
    (login : Always session.Untouched session.auth.login) :
    Always session.Retains (session.obtain .current) := by
  have idle (now : Instant) (s : σ) : session.Retains ⟨now, s, s⟩ := Or.inl rfl
  refine (happen_retains lawful (e := .begin .current) rfl).bind ?_
  rintro ⟨caller, turn⟩
  have logsIn : Always session.Retains (do
      let reply ← session.auth.login
      let r ← session.happen (.loginReply caller reply)
      return r.map TokenInstance.token) := by
    refine (login.mono fun _ => Or.inl).bind fun reply => ?_
    exact (happen_retains lawful (e := .loginReply caller reply) rfl).bind fun _ =>
      Activity.always_done _
  cases turn with
  | some turn =>
      cases turn with
      | answered result => exact Activity.always_done _
      | login => exact logsIn
  | none =>
      refine (Activity.always_idle idle fun _ _ => ⟨none, rfl⟩).bind fun _ => ?_
      refine (happen_retains lawful (e := .attempt caller) rfl).bind ?_
      intro turn
      cases turn with
      | answered result => exact Activity.always_done _
      | login => exact logsIn

/-- An invalidation is one move, whatever token is in place, and leaves none there. -/
theorem invalidates_first (lawful : session.Lawful) {f : Unit → Activity σ J α}
    {moves : List (Move σ)} {q : Activity σ J α}
    (leads : Leads ((session.happen .invalidate).bind f) moves q) :
    moves = [] ∨ ∃ m rest, moves = m :: rest ∧ session.Undergoes .invalidate m ∧
      (session.get m.after).token = none ∧ Leads (f ()) rest q := by
  have effect (m : Manager) (now : Instant) : (m.next now .invalidate).token = none ∧
      session.effects (m.step now .invalidate) = .done () := by
    cases m with
    | simple s => exact ⟨rfl, rfl⟩
    | renewing s => exact ⟨rfl, rfl⟩
  rw [happen_eq, Dialogue.bind_assoc] at leads
  cases leads with
  | here => exact Or.inl rfl
  | @move _ _ _ now s s' job moves goes later =>
      cases goes
      obtain ⟨gone, idle⟩ := effect (session.get s) now
      refine Or.inr ⟨_, moves, rfl, lawful.get_put _ _, ?_, ?_⟩
      · exact (congrArg Manager.token (lawful.get_put _ _)).trans gone
      · change Leads ((session.effects ((session.get s).step now .invalidate)).bind f) moves q
          at later
        rwa [idle] at later

end Session.Service

/-! ## One call -/

namespace Connection

variable {σ J α : Type} {c : Connection σ J} {session : Service σ J}

def settle (session : Service σ J) : Except VaultError α → Activity σ J (Outcome α)
  | .ok a => .done (.ok a)
  | .error e => do
      if e.rejectsCredentials then session.happen .invalidate
      return .error (.error e)

def proceed (c : Connection σ J) (session : Service σ J) (op : Token → Call α) :
    Outcome Token → Activity σ J (Outcome α)
  | .error fault => .done (.error fault)
  | .ok token => (c.run (op token)).bind (settle session)

theorem authenticated_eq (c : Connection σ J) (session : Service σ J) (op : Token → Call α) :
    c.authenticated session op = (session.obtain .current).bind (c.proceed session op) := by
  unfold authenticated
  change Dialogue.bind _ _ = _
  congr 1

theorem settle_accepted {e : VaultError} (accepts : e.rejectsCredentials = false) :
    settle session (.error e : Except VaultError α) = .done (.error (.error e)) := by
  unfold settle
  dsimp only
  rw [accepts]
  rfl

theorem settle_rejected {e : VaultError} (rejects : e.rejectsCredentials = true) :
    settle session (.error e : Except VaultError α) =
      (session.happen .invalidate).bind fun _ => .done (.error (.error e)) := by
  unfold settle
  dsimp only
  rw [if_pos rejects]
  rfl

theorem run_untouched (answers : ∀ q, Always session.Untouched (c.answer q)) (call : Call α) :
    Always session.Untouched (c.run call) :=
  Always.through answers (fun _ _ => rfl) call.run

end Connection

/-- A call that is bound to a session, among any others, invalidates nothing as long as it asks for
its token, and leaves the session alone from there on until it is answered.  When its credentials
are rejected, it invalidates the session next, whichever token is in place by then, and leaves none;
when it is answered anything else, it does nothing more to the session. -/
theorem rejection_invalidates {σ J α : Type} (c : Connection σ J) (session : Service σ J)
    (lawful : session.Lawful) (answers : ∀ q, Always session.Untouched (c.answer q))
    (login : Always session.Untouched session.auth.login) (op : Token → Call α)
    (finish : Outcome α → Activity σ J Unit) (code : J → Activity σ J Unit) (crowd : Crowd σ J)
    (h : History Nat) (n : Nat)
    (bound : crowd.tasks[n]? = some ((c.authenticated session op).bind finish))
    (asking calling later : List (Move σ))
    (parts : crowd.moves code n h = asking ++ (calling ++ later)) :
    (∀ p, Leads (session.obtain .current) asking p → ∀ m ∈ asking, session.Retains m) ∧
    ∀ token, Leads (session.obtain .current) asking (.done (.ok token)) →
      (∀ p, Leads (c.run (op token)) calling p → ∀ m ∈ calling, session.Untouched m) ∧
      (∀ a, Leads (c.run (op token)) calling (.done (.ok a)) →
        ∃ q, Leads (finish (.ok a)) later q) ∧
      ∀ e, Leads (c.run (op token)) calling (.done (.error e)) →
        (e.rejectsCredentials = false → ∃ q, Leads (finish (.error (.error e))) later q) ∧
        (e.rejectsCredentials = true → later = [] ∨ ∃ m rest, later = m :: rest ∧
          session.Undergoes .invalidate m ∧ (session.get m.after).token = none ∧
          ∃ q, Leads (finish (.error (.error e))) rest q) := by
  obtain ⟨q, leads⟩ := Crowd.leads code crowd h bound
  rw [parts, Connection.authenticated_eq, Dialogue.bind_assoc] at leads
  refine ⟨Session.Service.obtain_retains lawful login asking, ?_⟩
  intro token given
  have called := given.after_bind leads
  change Leads (((c.run (op token)).bind _).bind finish) _ q at called
  rw [Dialogue.bind_assoc] at called
  refine ⟨Connection.run_untouched answers (op token) calling, ?_, ?_⟩
  · intro a replied
    exact ⟨q, replied.after_bind called⟩
  · intro e replied
    have settled := replied.after_bind called
    change Leads ((Connection.settle session (.error e)).bind finish) later q at settled
    refine ⟨?_, ?_⟩
    · intro accepts
      rw [Connection.settle_accepted accepts] at settled
      exact ⟨q, settled⟩
    · intro rejects
      rw [Connection.settle_rejected rejects, Dialogue.bind_assoc] at settled
      rcases Session.Service.invalidates_first lawful settled with
        idle | ⟨m, rest, first, undergoes, gone, leads⟩
      · exact Or.inl idle
      · exact Or.inr ⟨m, rest, first, undergoes, gone, q, leads⟩

/-! ## Two calls with one token -/

/-- A server that takes a second to answer, and forbids everything. -/
def forbidding : Connection Manager (Timer Unit) where
  client := Client.ofTeam
  answer
    | .create _ _ => .done (.ok ())
    | .execute _ => (Activity.sleep (.ofSecs 1)).bind fun _ => .done (.ok ⟨403, []⟩)
    | .clock => Activity.act fun now m => (m, now)
    | .readText _ => .done (.ok "jwt")

def issuedAt (nanos : Nat) : Token := ⟨"s.token", ⟨nanos⟩, .infinite, false⟩

/-- A session that has the shared state for itself, and whose logins take no time. -/
def issuing : Service Manager (Timer Unit) where
  get m := m
  put m _ := m
  job t := t
  auth :=
    { login := Activity.act fun now m => (m, .ok (issuedAt now.nanos))
      renewToken := fun token => .done (.ok token) }

theorem issuing_lawful : issuing.Lawful := ⟨fun _ _ => rfl, fun _ _ _ => rfl⟩

theorem forbidding_untouched (q : Http.Query) :
    Always issuing.Untouched (forbidding.answer q) := by
  cases q with
  | create method url => exact Activity.always_done _
  | execute request =>
      exact (Activity.always_idle (fun _ _ => rfl) fun _ _ => ⟨none, rfl⟩).bind fun _ =>
        Activity.always_done _
  | clock => exact Activity.always_act fun _ _ => rfl
  | readText file => exact Activity.always_done _

theorem issuing_untouched : Always issuing.Untouched issuing.auth.login :=
  Activity.always_act fun _ _ => rfl

def denied : VaultError := .permissionDenied "sys/leases/revoke: "

def forbidden (token : Token) : Activity Manager (Timer Unit) (Except VaultError Unit) :=
  match Client.ofTeam.headers (some token.value) with
  | .error e => .done (.error e)
  | .ok _ => (Activity.sleep (.ofSecs 1)).bind fun _ => .done (.error denied)

theorem run_revokeLease (token : Token) :
    forbidding.run (Client.ofTeam.revokeLease token.value "a") = forbidden token := by
  have url : Client.ofTeam.endpoint.apiUrl "sys/leases/revoke" = .ok Client.revocation.url :=
    eq_ok_of_toOption (by decide +kernel)
  unfold Client.revokeLease Client.send forbidden
  rw [url]
  cases Client.ofTeam.headers (some token.value) with
  | error e => rfl
  | ok headers => rfl

def revoking : Activity Manager (Timer Unit) (Outcome Unit) :=
  (issuing.obtain .current).bind fun
    | .error fault => .done (.error fault)
    | .ok token => (forbidden token).bind (Connection.settle issuing)

theorem revokeLease_eq : (forbidding.secrets issuing).revokeLease "a" = revoking := by
  refine (Connection.authenticated_eq _ _ _).trans (congrArg _ (funext fun answer => ?_))
  cases answer with
  | error fault => rfl
  | ok token => exact congrArg (Dialogue.bind · (Connection.settle issuing)) (run_revokeLease token)

/-- Two calls that are bound to one session, and a caller of the application. -/
def rivals : Crowd Manager (Timer Unit) where
  state := .simple {}
  tasks :=
    [revoking.bind fun _ => .done (), revoking.bind fun _ => .done (),
      (issuing.obtain .token).bind fun _ => .done ()]

theorem rivals_first : rivals.tasks[0]? =
    some (((forbidding.secrets issuing).revokeLease "a").bind fun _ => .done ()) := by
  rw [revokeLease_eq]
  rfl

/-- Both calls are made with the token of the first login; one rejection invalidates that, and the
other comes after the application has logged in again. -/
def rejectedTwice : History Nat :=
  [(⟨0⟩, 0), (⟨0⟩, 0), (⟨0⟩, 0), (⟨0⟩, 1), (⟨1000000000⟩, 1), (⟨1000000000⟩, 1),
    (⟨2000000000⟩, 2), (⟨2000000000⟩, 2), (⟨2000000000⟩, 2), (⟨3000000000⟩, 0), (⟨3000000000⟩, 0)]

theorem moves_rejectedTwice :
    ∃ asking calling m, rivals.moves issuing.runTimer 0 rejectedTwice = asking ++ (calling ++ [m]) ∧
      Leads (issuing.obtain .current) asking (.done (.ok (issuedAt 0))) ∧
      Leads (forbidding.run (Client.ofTeam.revokeLease (issuedAt 0).value "a")) calling
        (.done (.error denied)) ∧
      m.before.token = some ⟨1, issuedAt 2000000000⟩ ∧ m.after.token = none := by
  refine ⟨_, [_], _, rfl, .move rfl (.move rfl (.move rfl (.here _))), ?_, rfl, rfl⟩
  rw [run_revokeLease]
  exact .move rfl (.here _)

/-- The late rejection of the first token invalidates the session with the second one. -/
theorem rejection_invalidates_rejectedTwice :
    ∃ asking calling m, rivals.moves issuing.runTimer 0 rejectedTwice = asking ++ (calling ++ [m]) ∧
      Leads (issuing.obtain .current) asking (.done (.ok (issuedAt 0))) ∧
      m.before.token = some ⟨1, issuedAt 2000000000⟩ ∧ issuing.Undergoes .invalidate m ∧
      m.after.token = none := by
  obtain ⟨asking, calling, m, parts, given, replied, newer, _⟩ := moves_rejectedTwice
  obtain ⟨_, calls⟩ := rejection_invalidates forbidding issuing issuing_lawful
    forbidding_untouched issuing_untouched
    (fun token => Client.ofTeam.revokeLease token.value "a") _ issuing.runTimer rivals rejectedTwice
    0 rivals_first asking calling [m] parts
  obtain ⟨_, _, settles⟩ := calls _ given
  rcases (settles denied replied).2 rfl with idle | ⟨_, _, same, undergoes, gone, _⟩
  · cases idle
  · cases same
    exact ⟨asking, calling, m, parts, given, newer, undergoes, gone⟩

/-- A rejection does not look whether its token is still the one in place. -/
theorem loses_newer_token :
    ¬ ∀ (c : Connection Manager (Timer Unit)) (session : Service Manager (Timer Unit)),
      session.Lawful → (∀ q, Always session.Untouched (c.answer q)) →
      Always session.Untouched session.auth.login →
      ∀ (code : Timer Unit → Activity Manager (Timer Unit) Unit)
        (crowd : Crowd Manager (Timer Unit)) (h : History Nat) (n : Nat) (id : String)
        (finish : Outcome Unit → Activity Manager (Timer Unit) Unit),
      crowd.tasks[n]? = some (((c.secrets session).revokeLease id).bind finish) →
      ∀ (asking calling later : List (Move Manager)) (m : Move Manager) (token : Token)
        (e : VaultError), crowd.moves code n h = asking ++ (calling ++ m :: later) →
      Leads (session.obtain .current) asking (.done (.ok token)) →
      Leads (c.run (c.client.revokeLease token.value id)) calling (.done (.error e)) →
      e.rejectsCredentials = true →
      (session.get m.before).token.map TokenInstance.token ≠ some token →
      session.Untouched m := by
  intro claim
  obtain ⟨asking, calling, m, parts, given, replied, newer, gone⟩ := moves_rejectedTwice
  have other : m.before.token.map TokenInstance.token ≠ some (issuedAt 0) := by
    rw [newer]
    decide
  have kept : m.after = m.before :=
    claim forbidding issuing issuing_lawful forbidding_untouched issuing_untouched issuing.runTimer
      rivals rejectedTwice 0 "a" _ rivals_first asking calling [] m _ denied parts given replied rfl
      other
  rw [kept, newer] at gone
  cases gone

end Leasehold

import Leasehold.Lifecycle
import Leasehold.Proofs.Session.Reports
import Leasehold.Proofs.Session.Upkeep

/-!
# Who hears of failed cycles

The error of a failed cycle is for the application alone.  A task that shares
the state with the session overlooks the recorded error if each of its acts has
the same result and the same effect whatever is recorded, and leaves that as it
is (`Overlooks`).  Every operation of the client that is bound to the session
does so, wherever it is interrupted; what the application is told, and that it
is told so once, is the main statement (`reported_once`).
-/

set_option autoImplicit false

namespace Leasehold

open Session (Event Renewing Manager Service)
open Http (Query)

/-! ## Either kind of session -/

namespace Session.Manager

def withRecorded (m : Manager) (r : Option VaultError) : Manager :=
  match m with
  | .simple s => .simple s
  | .renewing s => .renewing (s.withRecorded r)

theorem step_withRecorded (m : Manager) (now : Instant) (e : Event) (r : Option VaultError)
    (leaves : e.clears = false) (caller : e.cycle? = none) :
    (m.withRecorded r).step now e = (m.step now e).within (·.withRecorded r) := by
  cases m with
  | simple s => rfl
  | renewing s =>
      have spares : ∀ error, ¬ s.Fails e error := by
        rintro error ⟨n, c, rfl, _⟩
        cases caller
      have same := Renewing.step_withRecorded s now e r leaves spares
      exact congrArg (Change.within Manager.renewing) same

end Session.Manager

/-! ## Tasks -/

namespace Session.Service

variable {σ J α β : Type} {session : Service σ J}

def recording (session : Service σ J) (r : Option VaultError) (state : σ) : σ :=
  session.put ((session.get state).withRecorded r) state

/-- The session stands somewhere in the shared state: what is put there is found there, and takes
the place of what was there before. -/
structure Lawful (session : Service σ J) : Prop where
  get_put : ∀ m state, session.get (session.put m state) = m
  put_put : ∀ m m' state, session.put m (session.put m' state) = session.put m state

/-- A task goes on in the same way whatever error the session has recorded, and leaves that error as
it is, whatever happens to the shared state while the task waits. -/
inductive Overlooks (session : Service σ J) : Activity σ J α → Prop
  | done (a : α) : Overlooks session (.done a)
  | act {ρ : Type} (run : Instant → σ → σ × ρ) (next : ρ → Activity σ J α)
      (leaves : ∀ now state r,
        (run now (session.recording r state)).1 = session.recording r (run now state).1)
      (same : ∀ now state r,
        next (run now (session.recording r state)).2 = next (run now state).2)
      (rest : ∀ now state, Overlooks session (next (run now state).2)) :
      Overlooks session (.ask (.act run) next)
  | spawn (job : J) (next : Unit → Activity σ J α) (rest : Overlooks session (next ())) :
      Overlooks session (.ask (.spawn job) next)
  | park (gate : Nat) (next : Unit → Activity σ J α) (rest : Overlooks session (next ())) :
      Overlooks session (.ask (.park gate) next)
  | wake (gate : Nat) (next : Unit → Activity σ J α) (rest : Overlooks session (next ())) :
      Overlooks session (.ask (.wake gate) next)
  | pause (d : Duration) (next : Unit → Activity σ J α) (rest : Overlooks session (next ())) :
      Overlooks session (.pause d next)

theorem Overlooks.bind {p : Activity σ J α} {f : α → Activity σ J β}
    (first : Overlooks session p) (then_ : ∀ a, Overlooks session (f a)) :
    Overlooks session (p >>= f) := by
  change Overlooks session (p.bind f)
  induction first with
  | done a => exact then_ a
  | act run next leaves same rest ih =>
      refine .act run (fun r => (next r).bind f) leaves ?_ ih
      exact fun now state r => congrArg (Dialogue.bind · f) (same now state r)
  | spawn job next rest ih => exact .spawn job _ ih
  | park gate next rest ih => exact .park gate _ ih
  | wake gate next rest ih => exact .wake gate _ ih
  | pause d next rest ih => exact .pause d _ ih

theorem Overlooks.through {answer : (q : Query) → Activity σ J (Query.Answer q)}
    (answers : ∀ q, Overlooks session (answer q)) (p : Http.Exchange α) :
    Overlooks session (p.through answer) := by
  induction p with
  | done a => exact .done a
  | ask q next ih => exact (answers q).bind ih
  | pause d next ih => exact .pause d _ (ih ())

/-- Until it waits or ends, a task that overlooks the recorded error does the same to everything
else on its timeline. -/
theorem Overlooks.run {task : Activity σ J Unit} (overlooks : Overlooks session task)
    (code : J → Activity σ J Unit) (r : Option VaultError) (b : Bench σ J) :
    Bench.run code task { b with state := session.recording r b.state } =
      { Bench.run code task b with
        state := session.recording r (Bench.run code task b).state } := by
  induction overlooks generalizing b with
  | done a => rfl
  | act run next leaves same rest ih =>
      have later := ih b.clock b.state { b with state := (run b.clock b.state).1 }
      unfold Bench.run
      dsimp only
      rw [leaves, same]
      exact later
  | spawn job next rest ih => exact ih { b with ready := b.ready ++ [code job] }
  | park gate next rest ih => rfl
  | wake gate next rest ih => exact ih (b.openGate gate)
  | pause d next rest ih =>
      by_cases due : ringAt b.clock d ≤ b.clock
      · have runs (b' : Bench σ J) (same : b'.clock = b.clock) :
            Bench.run code (.pause d next) b' = Bench.run code (next ()) b' := by
          rw [Bench.run, same, if_pos due]
        rw [runs { b with state := session.recording r b.state } rfl, runs b rfl]
        exact ih b
      · have sleeps (b' : Bench σ J) (same : b'.clock = b.clock) :
            Bench.run code (.pause d next) b' =
              { b' with sleepers := b'.sleepers ++ [⟨ringAt b.clock d, next ()⟩] } := by
          rw [Bench.run, same, if_neg due]
        rw [sleeps { b with state := session.recording r b.state } rfl, sleeps b rfl]

theorem happen_overlooks (lawful : session.Lawful) (e : Event) (leaves : e.clears = false)
    (caller : e.cycle? = none) : Overlooks session (session.happen e) := by
  have step (now : Instant) (state : σ) (r : Option VaultError) :
      (session.get (session.recording r state)).step now e =
        ((session.get state).step now e).within (·.withRecorded r) := by
    rw [recording, lawful.get_put]
    exact Manager.step_withRecorded _ now e r leaves caller
  -- After the change only its timer, its woken caller and its result are looked at.
  refine .act _ _ ?_ ?_ ?_
  · intro now state r
    dsimp only
    rw [step, recording, recording, lawful.put_put, lawful.put_put, lawful.get_put]
    rfl
  · intro now state r
    dsimp only
    rw [step]
    rfl
  · intro now state
    generalize (session.get state).step now e = c
    obtain ⟨after, result, timer, woken⟩ := c
    cases woken with
    | none =>
        cases timer with
        | none => exact .done result
        | some t => exact .spawn (session.job t) _ (.done result)
    | some caller =>
        have wakes : Overlooks session (Activity.wake caller >>= fun _ => pure result) :=
          .wake caller _ (.done result)
        cases timer with
        | none => exact wakes
        | some t => exact .spawn (session.job t) _ wakes

theorem obtain_overlooks (lawful : session.Lawful) (login : Overlooks session session.auth.login) :
    Overlooks session (session.obtain .current) := by
  have happens (e : Event) (leaves : e.clears = false) (caller : e.cycle? = none) :=
    happen_overlooks lawful e leaves caller
  refine (happens (.begin .current) rfl rfl).bind ?_
  rintro ⟨id, turn⟩
  have logsIn : Overlooks session (do
      let reply ← session.auth.login
      let r ← session.happen (.loginReply id reply)
      return r.map Session.TokenInstance.token) := by
    refine login.bind fun reply => ?_
    exact (happens (.loginReply id reply) rfl rfl).bind fun _ => .done _
  cases turn with
  | some turn =>
      cases turn with
      | answered result => exact .done _
      | login => exact logsIn
  | none =>
      refine .park id _ ((happens (.attempt id) rfl rfl).bind ?_)
      intro turn
      cases turn with
      | answered result => exact .done _
      | login => exact logsIn

end Session.Service

open Session.Service (Overlooks)

/-- A call with the token of the session overlooks what the server's answers overlook. -/
theorem Connection.authenticated_overlooks {σ J α : Type} {session : Service σ J}
    (c : Connection σ J) (lawful : session.Lawful) (answers : ∀ q, Overlooks session (c.answer q))
    (login : Overlooks session session.auth.login) (call : Token → Call α) :
    Overlooks session (c.authenticated session call) := by
  refine (Session.Service.obtain_overlooks lawful login).bind ?_
  intro token
  cases token with
  | error fault => exact .done _
  | ok token =>
      refine (Overlooks.through answers (call token).run).bind ?_
      intro reply
      cases reply with
      | ok a => exact .done _
      | error e =>
          dsimp only
          split
          · have invalidates := Session.Service.happen_overlooks lawful .invalidate rfl rfl
            exact invalidates.bind fun _ => .done _
          · exact .done _

/-! ## Every history -/

/-- When the application asks for a token it is told that the session has ended, or the error of the
latest cycle that has failed and counted, if it has not asked since; each such error it is told
once.  All other events happen in the same way whatever is recorded, and leave that as it is, and so
do the operations of the client that is bound to the session. -/
theorem reported_once (window : RenewalWindow) (h : History Event) :
    (∀ m now error, h[m]? = some (now, .begin .token) →
      (((Renewing.found { window } h m).begin now .token).result.2 =
          some (.answered (.error (.error error))) ↔
        Renewing.ends (h.take m) = true ∧ error = .shutdown ∨
          ∃ k, Renewing.Due { window } h k m error)) ∧
    (∀ k m m' now error later, h[m]? = some (now, .begin .token) →
      Renewing.Due { window } h k m error → m < m' → ¬ Renewing.Due { window } h k m' later) ∧
    (∀ (s : Renewing) (now : Instant) (e : Event) (r : Option VaultError), e.clears = false →
      (∀ error, ¬ s.Fails e error) →
      (s.withRecorded r).step now e = (s.step now e).within (·.withRecorded r)) ∧
    ∀ (σ J : Type) (c : Connection σ J) (session : Service σ J), session.Lawful →
      (∀ q, Overlooks session (c.answer q)) → Overlooks session session.auth.login →
      (∀ path, Overlooks session ((c.secrets session).read path)) ∧
      (∀ lease, Overlooks session ((c.secrets session).renewLease lease)) ∧
      ∀ id, Overlooks session ((c.secrets session).revokeLease id) := by
  refine ⟨?_, ?_, ?_, ?_⟩
  · intro m now error here
    exact Renewing.reports_iff window here
  · intro k m m' now error later here due after
    exact due.heard here after
  · intro s now e r leaves spares
    exact Renewing.step_withRecorded s now e r leaves spares
  · intro σ J c session lawful answers login
    refine ⟨?_, ?_, ?_⟩
    · exact fun path => c.authenticated_overlooks lawful answers login _
    · exact fun lease => c.authenticated_overlooks lawful answers login _
    · exact fun id => c.authenticated_overlooks lawful answers login _

/-- Lease work asks for the token after a failed cycle, and finds it rejected, before the
application asks twice. -/
def askedAt34 : History Event :=
  Renewing.failedAt32 ++ [(⟨33000000000⟩, .begin .current), (⟨33000000000⟩, .invalidate),
    (⟨34000000000⟩, .begin .token), (⟨35000000000⟩, .begin .token)]

def unreachable : Connection Manager (Timer Unit) where
  client := { endpoint := {}, authentication := .token "root", transport := .plain }
  answer
    | .create _ _ => .done (.ok ())
    | .execute _ => .done (.error .http)
    | .clock => Activity.act fun now m => (m, now)
    | .readText _ => .done (.ok "jwt")

def unshared : Service Manager (Timer Unit) where
  get m := m
  put m _ := m
  job t := t
  auth := unreachable.auth

theorem unreachable_overlooks (q : Query) : Overlooks unshared (unreachable.answer q) := by
  cases q with
  | create method url => exact .done _
  | execute request => exact .done _
  | clock => exact .act _ _ (fun _ _ _ => rfl) (fun _ _ _ => rfl) fun _ _ => .done _
  | readText file => exact .done _

theorem reported_once_askedAt34 :
    let s : Renewing := { window := Renewing.halfMinute }
    (((s.found askedAt34 7).begin ⟨34000000000⟩ .token).result.2 =
        some (.answered (.error (.error .rateLimited))) ↔
      Renewing.ends (askedAt34.take 7) = true ∧ VaultError.rateLimited = .shutdown ∨
        ∃ k, Renewing.Due s askedAt34 k 7 .rateLimited) ∧
    (∃ k, Renewing.Due s askedAt34 k 7 .rateLimited ∧
      ¬ Renewing.Due s askedAt34 k 8 .rateLimited) ∧
    ((s.found askedAt34 5).withRecorded none).step ⟨33000000000⟩ (.begin .current) =
      ((s.found askedAt34 5).step ⟨33000000000⟩ (.begin .current)).within (·.withRecorded none) ∧
    (∀ path, Overlooks unshared ((unreachable.secrets unshared).read path)) ∧
    (∀ lease, Overlooks unshared ((unreachable.secrets unshared).renewLease lease)) ∧
    ∀ id, Overlooks unshared ((unreachable.secrets unshared).revokeLease id) := by
  obtain ⟨reports, once, same, operations⟩ := reported_once Renewing.halfMinute askedAt34
  have asked : askedAt34[7]? = some (⟨34000000000⟩, .begin .token) := rfl
  have reported := reports 7 ⟨34000000000⟩ .rateLimited asked
  have found := (reported.mp rfl).resolve_left nofun
  obtain ⟨k, due⟩ := found
  have heard := once k 7 8 ⟨34000000000⟩ .rateLimited .rateLimited asked due (by decide)
  have login : Overlooks unshared unshared.auth.login :=
    Overlooks.through unreachable_overlooks _
  exact ⟨reported, ⟨k, due, heard⟩, same _ _ (.begin .current) none rfl nofun,
    operations _ _ unreachable unshared ⟨fun _ _ => rfl, fun _ _ _ => rfl⟩ unreachable_overlooks
      login⟩

end Leasehold

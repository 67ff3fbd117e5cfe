import Leasehold.Proofs.Transcript
import Leasehold.Vault.Client

/-!
# The requests of an operation

An operation of the client stands for one call of the server's API, and whatever
the world answers it executes one request for that call and no other: at the
URL of the path, with the token and the namespace as its only header fields
(`Composes`).  It is executed again after a failed execution that may be retried,
never after a response, and at most as often as the policy allows
(`executes_one_request`).  What cannot be composed is not executed at all.
-/

set_option autoImplicit false

namespace Leasehold

open Dialogue (Answered Reaches Open)
open Http (Exchange Query Request Response Transport)
open RetryPolicy (Attempts EndsWith)

/-! ## What was executed -/

def executions (told : List (Answered Query.Answer)) :
    List (Request × Except VaultError Response) :=
  told.filterMap fun
    | ⟨.execute request, outcome⟩ => some (request, outcome)
    | _ => none

@[simp] theorem executions_nil : executions [] = [] := rfl

@[simp] theorem executions_append (first last : List (Answered Query.Answer)) :
    executions (first ++ last) = executions first ++ executions last :=
  List.filterMap_append

def created (method : String) (url : Url) (outcome : Except VaultError Unit) :
    Answered Query.Answer := ⟨.create method url, outcome⟩

def executed (request : Request) (outcome : Except VaultError Response) :
    Answered Query.Answer := ⟨.execute request, outcome⟩

theorem executions_created (method : String) (url : Url)
    (outcomes : List (Except VaultError Unit)) :
    executions (outcomes.map (created method url)) = [] := by
  induction outcomes with
  | nil => rfl
  | cons o rest ih => exact ih

theorem executions_executed (request : Request) (outcomes : List (Except VaultError Response)) :
    executions (outcomes.map (executed request)) = outcomes.map (Prod.mk request) := by
  induction outcomes with
  | nil => rfl
  | cons o rest ih => exact congrArg ((request, o) :: ·) ih

theorem asksOnce_create (method : String) (url : Url) :
    Dialogue.AsksOnce (Transport.plain.create method url) (created method url) :=
  Dialogue.asksOnce_question _

theorem asksOnce_execute (request : Request) :
    Dialogue.AsksOnce (Transport.plain.execute request) (executed request) :=
  Dialogue.asksOnce_question _

namespace Call

variable {α β : Type}

/-- A call that executes nothing, whatever it is told. -/
def Quiet (x : Call α) : Prop := ∀ told left, x.run.Reaches told left → executions told = []

theorem run_bind (x : Call α) (f : α → Call β) :
    (x >>= f).run = x.run.bind fun
      | .ok a => (f a).run
      | .error e => .done (.error e) := by
  show Dialogue.bind x.run _ = _
  congr 1
  funext outcome
  cases outcome <;> rfl

theorem pure_bind (a : α) (f : α → Call β) : (pure a >>= f) = f a := rfl

theorem throw_bind (e : VaultError) (f : α → Call β) : (throw e >>= f) = throw e := rfl

theorem reaches_bind {x : Call α} {f : α → Call β} {told : List (Answered Query.Answer)}
    {left : Exchange (Except VaultError β)} (reached : (x >>= f).run.Reaches told left) :
    (∃ rest, x.run.Reaches told rest ∧ rest.Open ∧ left.Open) ∨
      (∃ e, x.run.Reaches told (.done (.error e)) ∧ left = .done (.error e)) ∨
      ∃ first a last, told = first ++ last ∧ x.run.Reaches first (.done (.ok a)) ∧
        (f a).run.Reaches last left := by
  rw [run_bind] at reached
  rcases Dialogue.reaches_bind reached with
    ⟨rest, before, more, rfl⟩ | ⟨first, a | a, last, rfl, before, after⟩
  · exact Or.inl ⟨rest, before, more, Dialogue.open_bind _ more⟩
  · obtain ⟨rfl, rfl⟩ := Dialogue.reaches_done after
    exact Or.inr (Or.inl ⟨a, by rwa [List.append_nil], rfl⟩)
  · exact Or.inr (Or.inr ⟨first, a, last, rfl, before, after⟩)

theorem quiet_pure (a : α) : Quiet (pure a) := by
  intro told left reached
  obtain ⟨rfl, -⟩ := Dialogue.reaches_done reached
  rfl

theorem quiet_throw (e : VaultError) : Quiet (throw e : Call α) := by
  intro told left reached
  obtain ⟨rfl, -⟩ := Dialogue.reaches_done reached
  rfl

theorem Quiet.bind {x : Call α} {f : α → Call β} (quiet : Quiet x) (next : ∀ a, Quiet (f a)) :
    Quiet (x >>= f) := by
  intro told left reached
  rcases reaches_bind reached with
    ⟨rest, before, -, -⟩ | ⟨e, before, -⟩ | ⟨first, a, last, rfl, before, after⟩
  · exact quiet told rest before
  · exact quiet told _ before
  · rw [executions_append, quiet first _ before, next a last left after, List.append_nil]

end Call

namespace Client

theorem quiet_clock : clock.Quiet := by
  intro told left reached
  cases reached with
  | here => rfl
  | ask later =>
      obtain ⟨rfl, -⟩ := Dialogue.reaches_done later
      rfl

theorem quiet_decode {α : Type} (read : Json.Tree → Option α) (r : Response) :
    (decode read r).Quiet := by
  unfold decode
  split
  · exact Call.quiet_pure _
  · exact Call.quiet_throw _

end Client

/-! ## Calls of the API -/

structure ApiCall where
  method : String
  path : String
  token : Option String
  body : Option String

namespace Client

variable {α β : Type} {policy : RetryPolicy} {c : Client} {call : ApiCall}

def underPolicy (c : Client) (policy : RetryPolicy) : Client :=
  { c with transport := Transport.plain.withRetries policy }

/-- A policy without attempts allows one, as no policy does. -/
theorem underPolicy_transport (c : Client) (policy : RetryPolicy) :
    (c.underPolicy policy).transport = Transport.plain.retrying policy := by
  obtain ⟨attempts, backoff⟩ := policy
  cases attempts with
  | zero => rfl
  | succ n =>
      unfold underPolicy Transport.withRetries
      rw [if_pos (show RetryPolicy.enabled ⟨n + 1, backoff⟩ = true from decide_eq_true n.succ_pos)]

/-- The request for a call: at the URL of the path, with the token and the namespace as its only
header fields. -/
structure Composes (c : Client) (call : ApiCall) (request : Request) : Prop where
  method : request.method = call.method
  url : c.endpoint.apiUrl call.path = .ok request.url
  token : ∀ t ∈ call.token, Http.validHeaderValue t = true
  namespace_ : ∀ n ∈ c.namespace_, Http.validHeaderValue n = true
  headers : request.headers =
    (c.namespace_.map (Prod.mk "x-vault-namespace")).toList ++
      (call.token.map (Prod.mk "x-vault-token")).toList
  body : request.body = call.body

/-- What is executed for a call until the dialogue has come to what is left of it: the request for
the call, under the policy.  A dialogue that has ended had no more to execute, and it has a result
only if the last response is a success. -/
structure Executes (c : Client) (policy : RetryPolicy) (call : ApiCall)
    (told : List (Answered Query.Answer)) (left : Exchange (Except VaultError α))
    (request : Request) (outcomes : List (Except VaultError Response)) : Prop where
  composed : c.Composes call request
  executed : executions told = outcomes.map (Prod.mk request)
  some : outcomes ≠ []
  attempts : Attempts policy.maxAttempts VaultError.retryable outcomes
  ends : ∀ result, left = .done result →
    ∃ o, EndsWith policy.maxAttempts VaultError.retryable outcomes o ∧
      ∀ a, result = .ok a → ∃ r, o = .ok r ∧ r.success = true

/-- What keeps the request for a call from being executed. -/
inductive Hinders (c : Client) (call : ApiCall) (told : List (Answered Query.Answer)) : Prop
  | url (e : VaultError) (unresolved : c.endpoint.apiUrl call.path = .error e)
  | token (t : String) (given : t ∈ call.token) (invalid : Http.validHeaderValue t = false)
  | namespace_ (n : String) (given : n ∈ c.namespace_) (invalid : Http.validHeaderValue n = false)
  | create (url : Url) (e : VaultError)
      (failed : told.getLast? = some (created call.method url (.error e)))

/-- Nothing is executed, and a dialogue that has ended was hindered and has failed, or the request
for the call is executed. -/
def Sends (c : Client) (policy : RetryPolicy) (call : ApiCall)
    (told : List (Answered Query.Answer)) (left : Exchange (Except VaultError α)) : Prop :=
  (executions told = [] ∧
      ∀ result, left = .done result → (∃ e, result = .error e) ∧ c.Hinders call told) ∨
    ∃ request outcomes, c.Executes policy call told left request outcomes

def AlwaysSends (c : Client) (policy : RetryPolicy) (call : ApiCall) (x : Call α) : Prop :=
  ∀ told left, x.run.Reaches told left → c.Sends policy call told left

theorem Hinders.behind {first last : List (Answered Query.Answer)}
    (hinders : c.Hinders call last) : c.Hinders call (first ++ last) := by
  cases hinders with
  | url e unresolved => exact .url e unresolved
  | token t given invalid => exact .token t given invalid
  | namespace_ n given invalid => exact .namespace_ n given invalid
  | create url e failed => exact .create url e (by rw [List.getLast?_append, failed]; rfl)

theorem Sends.behind {first last : List (Answered Query.Answer)}
    {left : Exchange (Except VaultError α)} (quiet : executions first = [])
    (sends : c.Sends policy call last left) : c.Sends policy call (first ++ last) left := by
  have same : executions (first ++ last) = executions last := by
    rw [executions_append, quiet, List.nil_append]
  rcases sends with ⟨silent, failed⟩ | ⟨request, outcomes, executes⟩
  · exact Or.inl ⟨same.trans silent, fun result ended => (failed result ended).imp_right .behind⟩
  · exact Or.inr ⟨request, outcomes, { executes with executed := same.trans executes.executed }⟩

theorem alwaysSends_quiet_bind {x : Call α} {f : α → Call β} (quiet : x.Quiet)
    (fails : ∀ told e, x.run.Reaches told (.done (.error e)) → c.Hinders call told)
    (next : ∀ told a, x.run.Reaches told (.done (.ok a)) → c.AlwaysSends policy call (f a)) :
    c.AlwaysSends policy call (x >>= f) := by
  intro told left reached
  rcases Call.reaches_bind reached with
    ⟨rest, before, -, more⟩ | ⟨e, before, rfl⟩ | ⟨first, a, last, rfl, before, after⟩
  · exact Or.inl ⟨quiet told rest before, fun result ended => absurd ended (more result)⟩
  · refine Or.inl ⟨quiet told _ before, ?_⟩
    rintro _ ⟨⟩
    exact ⟨⟨e, rfl⟩, fails told e before⟩
  · exact .behind (quiet first _ before) (next first a before last left after)

theorem AlwaysSends.bind_quiet {x : Call α} {f : α → Call β}
    (sends : c.AlwaysSends policy call x) (next : ∀ a, (f a).Quiet) :
    c.AlwaysSends policy call (x >>= f) := by
  intro told left reached
  rcases Call.reaches_bind reached with
    ⟨rest, before, -, more⟩ | ⟨e, before, rfl⟩ | ⟨first, a, last, rfl, before, after⟩
  · rcases sends told rest before with ⟨silent, -⟩ | ⟨request, outcomes, executes⟩
    · exact Or.inl ⟨silent, fun result ended => absurd ended (more result)⟩
    · exact Or.inr ⟨request, outcomes,
        { executes with ends := fun result ended => absurd ended (more result) }⟩
  · rcases sends told _ before with ⟨silent, failed⟩ | ⟨request, outcomes, executes⟩
    · refine Or.inl ⟨silent, ?_⟩
      rintro _ ⟨⟩
      exact ⟨⟨e, rfl⟩, (failed _ rfl).2⟩
    · obtain ⟨o, ends, -⟩ := executes.ends _ rfl
      refine Or.inr ⟨request, outcomes, { executes with ends := ?_ }⟩
      rintro _ ⟨⟩
      exact ⟨o, ends, nofun⟩
  · rcases sends first _ before with ⟨-, failed⟩ | ⟨request, outcomes, executes⟩
    · obtain ⟨⟨e, ⟨⟩⟩, -⟩ := failed _ rfl
    · obtain ⟨o, ends, answered⟩ := executes.ends _ rfl
      refine Or.inr ⟨request, outcomes, { executes with executed := ?_, ends := ?_ }⟩
      · rw [executions_append, next a last left after, List.append_nil, executes.executed]
      · exact fun _ _ => ⟨o, ends, fun _ _ => answered a rfl⟩

theorem quiet_liftExcept (r : Except VaultError α) : (send.liftExcept r).Quiet := by
  intro told left reached
  obtain ⟨rfl, -⟩ := Dialogue.reaches_done reached
  rfl

theorem quiet_create (policy : RetryPolicy) (method : String) (url : Url) :
    Call.Quiet (ExceptT.mk ((Transport.plain.retrying policy).create method url)) := by
  intro told left reached
  obtain ⟨outcomes, rfl, -⟩ :=
    RetryPolicy.run_reaches (asksOnce_create method url) policy reached
  exact executions_created method url outcomes

theorem hinders_of_create {url : Url} {told : List (Answered Query.Answer)} {e : VaultError}
    (failed : ((Transport.plain.retrying policy).create call.method url).Reaches told
      (.done (.error e))) : c.Hinders call told := by
  obtain ⟨outcomes, rfl, -, ends⟩ :=
    RetryPolicy.run_reaches (asksOnce_create call.method url) policy failed
  exact .create url e (by rw [List.getLast?_map, (ends _ rfl).last]; rfl)

theorem headers_of_valid {token : Option String}
    (validToken : ∀ t ∈ token, Http.validHeaderValue t = true)
    (validName : ∀ n ∈ c.namespace_, Http.validHeaderValue n = true) :
    c.headers token = .ok ((c.namespace_.map (Prod.mk "x-vault-namespace")).toList ++
      (token.map (Prod.mk "x-vault-token")).toList) := by
  unfold headers
  cases token with
  | none =>
      cases named : c.namespace_ with
      | none => rfl
      | some n => simp only [validName n named]; rfl
  | some t =>
      simp only [validToken t rfl]
      cases named : c.namespace_ with
      | none => rfl
      | some n => simp only [validName n named]; rfl

theorem headers_eq_ok {token : Option String} {h : Http.Headers} (ok : c.headers token = .ok h) :
    (∀ t ∈ token, Http.validHeaderValue t = true) ∧
      ∀ n ∈ c.namespace_, Http.validHeaderValue n = true := by
  have validToken : ∀ t ∈ token, Http.validHeaderValue t = true := by
    rintro t rfl
    cases valid : Http.validHeaderValue t with
    | true => rfl
    | false =>
        unfold headers at ok
        simp only [valid] at ok
        cases ok
  refine ⟨validToken, fun n named => ?_⟩
  cases valid : Http.validHeaderValue n with
  | true => rfl
  | false =>
      unfold headers at ok
      cases token with
      | none => simp only [Option.mem_def.mp named, valid] at ok; cases ok
      | some t => simp only [Option.mem_def.mp named, valid, validToken t rfl] at ok; cases ok

theorem hinders_of_headers {told : List (Answered Query.Answer)} {e : VaultError}
    (failed : c.headers call.token = .error e) : c.Hinders call told := by
  by_cases validToken : ∀ t ∈ call.token, Http.validHeaderValue t = true
  · by_cases validName : ∀ n ∈ c.namespace_, Http.validHeaderValue n = true
    · rw [headers_of_valid validToken validName] at failed
      cases failed
    · obtain ⟨n, named, invalid⟩ : ∃ n ∈ c.namespace_, Http.validHeaderValue n = false := by
        simpa using validName
      exact .namespace_ n named invalid
  · obtain ⟨t, given, invalid⟩ : ∃ t ∈ call.token, Http.validHeaderValue t = false := by
      simpa using validToken
    exact .token t given invalid

theorem success_of_statusError?_eq_none {path : String} {r : Response}
    (sound : statusError? path r = none) : r.success = true := by
  cases failed : r.success with
  | true => rfl
  | false =>
      simp only [statusError?, failed, Bool.false_eq_true, if_false] at sound
      repeat' split at sound
      all_goals cases sound

/-- The request is executed under the policy, and what the status says of the last response is the
outcome. -/
theorem alwaysSends_execute {request : Request} (composed : c.Composes call request) :
    c.AlwaysSends policy call (do
      let response ← ExceptT.mk ((Transport.plain.retrying policy).execute request)
      match statusError? call.path response with
      | some e => throw e
      | none => return response) := by
  intro told left reached
  have run {told : List (Answered Query.Answer)} {left : Exchange (Except VaultError Response)}
      (reached : ((Transport.plain.retrying policy).execute request).Reaches told left) :=
    RetryPolicy.run_reaches (asksOnce_execute request) policy reached
  rcases Call.reaches_bind reached with
    ⟨rest, before, -, more⟩ | ⟨e, before, rfl⟩ | ⟨first, response, last, rfl, before, after⟩
  · obtain ⟨outcomes, rfl, attempts, -⟩ := run before
    cases outcomes with
    | nil => exact Or.inl ⟨rfl, fun result ended => absurd ended (more result)⟩
    | cons o later =>
        exact Or.inr ⟨request, o :: later, composed, executions_executed request _,
          List.cons_ne_nil o later, attempts, fun result ended => absurd ended (more result)⟩
  · obtain ⟨outcomes, rfl, attempts, ends⟩ := run before
    have stands := ends _ rfl
    refine Or.inr ⟨request, outcomes, composed, executions_executed request _,
      stands.ne_nil, attempts, ?_⟩
    rintro _ ⟨⟩
    exact ⟨.error e, stands, nofun⟩
  · obtain ⟨outcomes, rfl, attempts, ends⟩ := run before
    have stands := ends _ rfl
    have settled : last = [] ∧ ∀ result, left = .done result →
        ∀ a, result = .ok a → response.success = true := by
      split at after
      · obtain ⟨rfl, rfl⟩ := Dialogue.reaches_done after
        exact ⟨rfl, by rintro _ ⟨⟩ _ ⟨⟩⟩
      · obtain ⟨rfl, rfl⟩ := Dialogue.reaches_done after
        exact ⟨rfl, fun _ _ _ _ => success_of_statusError?_eq_none ‹_›⟩
    obtain ⟨rfl, sound⟩ := settled
    rw [List.append_nil]
    exact Or.inr ⟨request, outcomes, composed, executions_executed request _,
      stands.ne_nil, attempts, fun result ended =>
        ⟨.ok response, stands, fun a ok => ⟨response, rfl, sound result ended a ok⟩⟩⟩

theorem alwaysSends_send (c : Client) (policy : RetryPolicy) (method path : String)
    (token body : Option String) :
    c.AlwaysSends policy ⟨method, path, token, body⟩
      ((c.underPolicy policy).send method path token body) := by
  unfold send
  rw [underPolicy_transport]
  refine alwaysSends_quiet_bind (quiet_liftExcept _) (fun _ e unresolved => ?_)
    fun _ url resolved => ?_
  · exact .url e (Dialogue.done.inj (Dialogue.reaches_done unresolved).2).symm
  refine alwaysSends_quiet_bind (quiet_create policy method url)
    (fun _ _ failed => hinders_of_create failed) fun _ _ _ => ?_
  refine alwaysSends_quiet_bind (quiet_liftExcept _) (fun _ e invalid => ?_)
    fun _ headers composed => ?_
  · exact hinders_of_headers (Dialogue.done.inj (Dialogue.reaches_done invalid).2).symm
  have headers_ok := (Dialogue.done.inj (Dialogue.reaches_done composed).2).symm
  obtain ⟨validToken, validName⟩ := headers_eq_ok headers_ok
  exact alwaysSends_execute
    { method := rfl
      url := (Dialogue.done.inj (Dialogue.reaches_done resolved).2).symm
      token := validToken
      namespace_ := validName
      headers := Except.ok.inj (headers_ok.symm.trans (headers_of_valid validToken validName))
      body := rfl }

/-! ## Operations -/

end Client

inductive Operation where
  | login
  | renewToken (t : Token)
  | read (token path : String)
  | renewLease (token : String) (l : Lease)
  | revokeLease (token leaseId : String)

namespace Operation

abbrev Result : Operation → Type
  | .login | .renewToken _ => Token
  | .read _ _ => Secret
  | .renewLease _ _ => Lease
  | .revokeLease _ _ => Unit

/-- The call of the API that an operation stands for.  A login with a service account sends what was
read of its file; it has no token yet. -/
inductive Calls : Authentication → Operation → List (Answered Query.Answer) → ApiCall → Prop
  | lookup (value : String) (told : List (Answered Query.Answer)) :
      Calls (.token value) .login told ⟨"GET", "auth/token/lookup-self", some value, none⟩
  | login (role jwtPath mount jwt : String) (told : List (Answered Query.Answer))
      (read : ⟨.readText jwtPath, .ok jwt⟩ ∈ told) :
      Calls (.kubernetes role jwtPath mount) .login told
        ⟨"POST", Client.loginPath mount, none, some (Wire.loginBody role (Text.trimmed jwt))⟩
  | renewToken (auth : Authentication) (t : Token) (told : List (Answered Query.Answer)) :
      Calls auth (.renewToken t) told
        ⟨"POST", "auth/token/renew-self", some t.value, some Wire.emptyBody⟩
  | read (auth : Authentication) (token path : String) (told : List (Answered Query.Answer)) :
      Calls auth (.read token path) told ⟨"GET", Client.secretPath path, some token, none⟩
  | renewLease (auth : Authentication) (token : String) (l : Lease)
      (told : List (Answered Query.Answer)) :
      Calls auth (.renewLease token l) told
        ⟨"PUT", "sys/leases/renew", some token, some (Wire.renewBody l.id l.validity)⟩
  | revokeLease (auth : Authentication) (token leaseId : String)
      (told : List (Answered Query.Answer)) :
      Calls auth (.revokeLease token leaseId) told
        ⟨"PUT", "sys/leases/revoke", some token, some (Wire.revokeBody leaseId)⟩

/-- What makes an operation fail before there is a call. -/
inductive Refused : Authentication → Operation → List (Answered Query.Answer) → Prop
  | login (role jwtPath mount reason : String) (told : List (Answered Query.Answer))
      (unreadable : ⟨.readText jwtPath, .error reason⟩ ∈ told) :
      Refused (.kubernetes role jwtPath mount) .login told
  | renewLease (auth : Authentication) (token : String) (l : Lease)
      (told : List (Answered Query.Answer)) (final : l.renewable = false) :
      Refused auth (.renewLease token l) told

end Operation

namespace Client

variable {policy : RetryPolicy} {c : Client}

def perform (c : Client) : (op : Operation) → Call op.Result
  | .login => c.login
  | .renewToken t => c.renewToken t
  | .read token path => c.read token path
  | .renewLease token l => c.renewLease token l
  | .revokeLease token leaseId => c.revokeLease token leaseId

theorem alwaysSends_read (c : Client) (policy : RetryPolicy) (token path : String) :
    c.AlwaysSends policy ⟨"GET", secretPath path, some token, none⟩
      ((c.underPolicy policy).read token path) :=
  (alwaysSends_send c policy _ _ _ _).bind_quiet fun response =>
    (quiet_decode Wire.read? response).bind fun _ =>
      quiet_clock.bind fun _ => Call.quiet_pure _

theorem alwaysSends_lookupSelf (c : Client) (policy : RetryPolicy) (token : String) :
    c.AlwaysSends policy ⟨"GET", "auth/token/lookup-self", some token, none⟩
      ((c.underPolicy policy).lookupSelf token) :=
  (alwaysSends_send c policy _ _ _ _).bind_quiet fun response =>
    (quiet_decode Wire.lookup? response).bind fun _ =>
      quiet_clock.bind fun _ => Call.quiet_pure _

theorem alwaysSends_renewToken (c : Client) (policy : RetryPolicy) (t : Token) :
    c.AlwaysSends policy ⟨"POST", "auth/token/renew-self", some t.value, some Wire.emptyBody⟩
      ((c.underPolicy policy).renewToken t) :=
  (alwaysSends_send c policy _ _ _ _).bind_quiet fun response =>
    (quiet_decode Wire.auth? response).bind fun _ =>
      quiet_clock.bind fun _ => Call.quiet_pure _

theorem alwaysSends_revokeLease (c : Client) (policy : RetryPolicy) (token leaseId : String) :
    c.AlwaysSends policy
      ⟨"PUT", "sys/leases/revoke", some token, some (Wire.revokeBody leaseId)⟩
      ((c.underPolicy policy).revokeLease token leaseId) :=
  (alwaysSends_send c policy _ _ _ _).bind_quiet fun _ => Call.quiet_pure _

theorem alwaysSends_renewLease (c : Client) (policy : RetryPolicy) (token : String) {l : Lease}
    (renewable : l.renewable = true) :
    c.AlwaysSends policy
      ⟨"PUT", "sys/leases/renew", some token, some (Wire.renewBody l.id l.validity)⟩
      ((c.underPolicy policy).renewLease token l) := by
  unfold renewLease
  rw [renewable]
  exact (alwaysSends_send c policy _ _ _ _).bind_quiet fun response =>
    (quiet_decode Wire.renewal? response).bind fun _ =>
      quiet_clock.bind fun _ => Call.quiet_pure _

theorem renewLease_refuses (c : Client) (token : String) {l : Lease} (final : l.renewable = false) :
    (c.renewLease token l).run = .done (.error (.leaseNotRenewable l.id)) := by
  unfold renewLease
  rw [final]
  rfl

theorem readText_reaches {file : String} {told : List (Answered Query.Answer)}
    {left : Exchange (Except VaultError (Except String String))}
    (reached : (ExceptT.lift (readText file) : Call (Except String String)).run.Reaches told left) :
    (told = [] ∧ left.Open) ∨ ∃ r, told = [⟨.readText file, r⟩] ∧ left = .done (.ok r) := by
  cases reached with
  | here => exact Or.inl ⟨rfl, nofun⟩
  | @ask _ r _ _ _ later =>
      obtain ⟨rfl, rfl⟩ := Dialogue.reaches_done later
      exact Or.inr ⟨r, rfl, rfl⟩

theorem kubernetesLogin_begins {role jwtPath mount : String}
    {told : List (Answered Query.Answer)} {left : Exchange (Except VaultError Token)}
    (reached : ((c.underPolicy policy).kubernetesLogin role jwtPath mount).run.Reaches told left) :
    (executions told = [] ∧ ∀ result, left = .done result →
        (∃ e, result = .error e) ∧ ∃ reason, ⟨.readText jwtPath, .error reason⟩ ∈ told) ∨
      ∃ jwt, told.head? = some ⟨.readText jwtPath, .ok jwt⟩ ∧
        c.Sends policy
          ⟨"POST", loginPath mount, none, some (Wire.loginBody role (Text.trimmed jwt))⟩
          told left := by
  unfold kubernetesLogin at reached
  rcases Call.reaches_bind reached with
    ⟨rest, before, open_, more⟩ | ⟨e, before, rfl⟩ | ⟨first, read, last, rfl, before, after⟩
  · rcases readText_reaches before with ⟨rfl, -⟩ | ⟨r, rfl, -⟩
    · exact Or.inl ⟨rfl, fun result ended => absurd ended (more result)⟩
    · exact Or.inl ⟨rfl, fun result ended => absurd ended (more result)⟩
  · rcases readText_reaches before with ⟨-, more⟩ | ⟨r, -, ⟨⟩⟩
    exact absurd rfl (more _)
  · rcases readText_reaches before with ⟨-, more⟩ | ⟨_, rfl, ⟨⟩⟩
    · exact absurd rfl (more _)
    · cases read with
      | error reason =>
          simp only [Call.throw_bind] at after
          obtain ⟨rfl, rfl⟩ := Dialogue.reaches_done after
          refine Or.inl ⟨rfl, ?_⟩
          rintro _ ⟨⟩
          exact ⟨⟨_, rfl⟩, reason, List.mem_cons_self⟩
      | ok jwt =>
          simp only [Call.pure_bind] at after
          refine Or.inr ⟨jwt, rfl, .behind rfl ?_⟩
          refine (alwaysSends_send c policy _ _ _ _).bind_quiet (fun response => ?_) last left after
          refine (quiet_decode Wire.auth? response).bind fun grant => ?_
          split
          · exact (Call.quiet_throw _).bind fun _ => quiet_clock.bind fun _ => Call.quiet_pure _
          · exact quiet_clock.bind fun _ => Call.quiet_pure _

theorem kubernetesLogin_sends {role jwtPath mount : String}
    {told : List (Answered Query.Answer)} {left : Exchange (Except VaultError Token)}
    (reached : ((c.underPolicy policy).kubernetesLogin role jwtPath mount).run.Reaches told left) :
    (executions told = [] ∧ ∀ result, left = .done result →
        (∃ e, result = .error e) ∧ ∃ reason, ⟨.readText jwtPath, .error reason⟩ ∈ told) ∨
      ∃ jwt, ⟨.readText jwtPath, .ok jwt⟩ ∈ told ∧
        c.Sends policy
          ⟨"POST", loginPath mount, none, some (Wire.loginBody role (Text.trimmed jwt))⟩
          told left :=
  (kubernetesLogin_begins reached).imp_right fun ⟨jwt, begins, sends⟩ =>
    ⟨jwt, List.mem_of_head? begins, sends⟩

/-- Whatever the world answers, an operation executes the request for the call that it stands for,
under the policy; or it executes nothing, and if it ends so, then with an error for which it was
refused or its request hindered. -/
theorem executes_one_request (c : Client) (policy : RetryPolicy) (op : Operation)
    {told : List (Answered Query.Answer)} {left : Exchange (Except VaultError op.Result)}
    (reached : ((c.underPolicy policy).perform op).run.Reaches told left) :
    (executions told = [] ∧ ∀ result, left = .done result → (∃ e, result = .error e) ∧
        (op.Refused c.authentication told ∨
          ∃ call, op.Calls c.authentication told call ∧ c.Hinders call told)) ∨
      ∃ call request outcomes, op.Calls c.authentication told call ∧
        c.Executes policy call told left request outcomes := by
  have found {call : ApiCall} (calls : op.Calls c.authentication told call)
      (sends : c.Sends policy call told left) :
      (executions told = [] ∧ ∀ result, left = .done result → (∃ e, result = .error e) ∧
        (op.Refused c.authentication told ∨
          ∃ call, op.Calls c.authentication told call ∧ c.Hinders call told)) ∨
      ∃ call request outcomes, op.Calls c.authentication told call ∧
        c.Executes policy call told left request outcomes := by
    rcases sends with ⟨silent, failed⟩ | ⟨request, outcomes, executes⟩
    · exact Or.inl ⟨silent, fun result ended =>
        (failed result ended).imp_right fun hinders => Or.inr ⟨call, calls, hinders⟩⟩
    · exact Or.inr ⟨call, request, outcomes, calls, executes⟩
  cases op with
  | login =>
      unfold perform login at reached
      have same : (c.underPolicy policy).authentication = c.authentication := rfl
      rw [same] at reached
      cases auth : c.authentication with
      | token value =>
          rw [auth] at reached found
          exact found (.lookup value told) (alwaysSends_lookupSelf c policy value told left reached)
      | kubernetes role jwtPath mount =>
          rw [auth] at reached found
          rcases kubernetesLogin_sends reached with ⟨silent, failed⟩ | ⟨jwt, read, sends⟩
          · refine Or.inl ⟨silent, fun result ended => (failed result ended).imp_right ?_⟩
            rintro ⟨reason, unreadable⟩
            exact Or.inl (.login role jwtPath mount reason told unreadable)
          · exact found (.login role jwtPath mount jwt told read) sends
  | renewToken t =>
      exact found (.renewToken _ t told) (alwaysSends_renewToken c policy t told left reached)
  | read token path =>
      exact found (.read _ token path told) (alwaysSends_read c policy token path told left reached)
  | renewLease token l =>
      cases renewable : l.renewable with
      | true =>
          exact found (.renewLease _ token l told)
            (alwaysSends_renewLease c policy token renewable told left reached)
      | false =>
          unfold perform at reached
          rw [renewLease_refuses _ token renewable] at reached
          obtain ⟨rfl, rfl⟩ := Dialogue.reaches_done reached
          refine Or.inl ⟨rfl, ?_⟩
          rintro _ ⟨⟩
          exact ⟨⟨_, rfl⟩, Or.inl (.renewLease _ token l [] renewable)⟩
  | revokeLease token leaseId =>
      exact found (.revokeLease _ token leaseId told)
        (alwaysSends_revokeLease c policy token leaseId told left reached)

def ofTeam : Client where
  endpoint := { host := "127.0.0.1" }
  namespace_ := some "team"
  authentication := .token "s.token"
  transport := Transport.plain

def revocation : Request where
  method := "PUT"
  url :=
    { scheme := "https"
      host := some (.ipv4 2130706433)
      port := some 8200
      path := .segments ["v1", "sys", "leases", "revoke"] }
  headers := [("x-vault-namespace", "team"), ("x-vault-token", "s.token")]
  body := some (Wire.revokeBody "lease")

def timedOutThenLimited : List (Answered Query.Answer) :=
  [created "PUT" revocation.url (.ok ()), executed revocation (.error (.unavailable "timed out")),
    executed revocation (.ok ⟨429, []⟩)]

/-- The time-out is followed by another attempt, the refusal by none. -/
theorem executes_one_request_limited :
    ((ofTeam.underPolicy {}).perform (.revokeLease "s.token" "lease")).run.Reaches
        timedOutThenLimited (.done (.error .rateLimited)) ∧
      (executions timedOutThenLimited).length = 2 ∧
      ∃ call request outcomes,
        Operation.Calls ofTeam.authentication (.revokeLease "s.token" "lease")
            timedOutThenLimited call ∧
          ofTeam.Executes {} call timedOutThenLimited
            (.done (.error .rateLimited) : Exchange (Except VaultError Unit)) request outcomes := by
  have url : (ofTeam.underPolicy {}).endpoint.apiUrl "sys/leases/revoke" = .ok revocation.url :=
    eq_ok_of_toOption (by decide +kernel)
  have headers : (ofTeam.underPolicy {}).headers (some "s.token") = .ok revocation.headers :=
    headers_of_valid (by decide) (by decide)
  have reached :
      ((ofTeam.underPolicy {}).perform (.revokeLease "s.token" "lease")).run.Reaches
        timedOutThenLimited (.done (.error .rateLimited)) := by
    show ((ofTeam.underPolicy {}).revokeLease "s.token" "lease").run.Reaches _ _
    unfold revokeLease send
    rw [url, headers]
    exact .ask (.ask (.pause (.ask (.here _))))
  refine ⟨reached, rfl, ?_⟩
  rcases executes_one_request ofTeam {} (.revokeLease "s.token" "lease") reached with
    ⟨silent, -⟩ | executes
  · cases silent
  · exact executes

end Client

end Leasehold

import Leasehold.Rehearsal.Stage

/-!
# Conversations

Rehearsals of one call after another, on a timeline of their own: the
operations of a client, the use of a transport, and an operation under a retry
policy.
-/

set_option autoImplicit false

namespace Leasehold.Rehearsal

abbrev Line (α : Type) := Activity Scene Empty α

/-! ## Client -/

inductive ClientCall where
  | login
  | renewToken (t : LoginGrant)
  | read (token path : String)
  | renewLease (token : String) (lease : LeaseGrant)
  | revokeLease (token id : String)
  | baseUrl
  | leaksToken
  | idle

def ClientCall.perform (client : Client) : ClientCall → Line Result
  | .login => do return .ofExcept .token (← run client.login)
  | .renewToken grant => do
      let now ← Activity.act fun now s => (s, now)
      return .ofExcept .token (← run (client.renewToken (grant.token 0 now)))
  | .read token path => do
      return .ofExcept (fun r => .secret r.data r.lease) (← run (client.read token path))
  | .renewLease token grant => do
      let now ← Activity.act fun now s => (s, now)
      return .ofExcept .lease
        (← run (client.renewLease token (grant.lease "" "" .null now)))
  | .revokeLease token id => do
      return .ofExcept (fun _ => .done) (← run (client.revokeLease token id))
  | .baseUrl => return .text client.endpoint.baseUrl
  | .leaksToken =>
      match client.authentication with
      | .token value => return .flag ((client.description.splitOn value).length != 1)
      | .kubernetes .. => return .flag false
  | .idle => return .nothing
where
  run {α : Type} (call : Call α) : Line (Except VaultError α) :=
    Connection.run { client, answer := Scene.answer } call

structure Exchanged where
  time : Instant
  result : Result
  log : List Note

def converse (client : Client) :
    List (List Setting × ClientCall) → Instant → Scene → List Exchanged
  | [], _, _ => []
  | (settings, call) :: rest, now, s =>
      let s := { settings.foldl Setting.apply s with log := [] }
      let (result, now, s) := (call.perform client).alone now s
      ⟨now, result, s.log⟩ :: converse client rest now s

/-! ## Transport -/

structure Transported (σ : Type) where
  created : Except VaultError Unit
  runs : List (Except VaultError Http.Response × Instant)
  time : Instant
  state : σ

def transport {σ : Type} (answer : (q : Http.Query) → Activity σ Empty (Http.Query.Answer q))
    (t : Http.Transport) (request : Http.Request) (executions : Nat) (now : Instant) (s : σ) :
    Transported σ :=
  let (created, now, s) := (ask (t.create request.method request.url)).alone now s
  match created with
  | .error _ => ⟨created, [], now, s⟩
  | .ok _ =>
      let (runs, now, s) := (execute executions).alone now s
      ⟨created, runs, now, s⟩
where
  ask {α : Type} (e : Http.Exchange α) : Activity σ Empty α := Dialogue.through answer e
  execute : Nat → Activity σ Empty (List (Except VaultError Http.Response × Instant))
    | 0 => return []
    | left + 1 => do
        let r ← ask (t.execute request)
        let now ← Activity.act fun now s => (s, now)
        return (r, now) :: (← execute left)

/-! ## Retrying -/

structure Retried (ε α : Type) where
  outcome : Except ε α
  attempts : List Instant
  time : Instant

/-- Runs an operation that has the outcomes of a list, of which the last one stays, and the outcome
`default` if there is none. -/
def retried {ε α : Type} (policy : RetryPolicy) (retryable : ε → Bool) (default : Except ε α)
    (outcomes : List (Except ε α)) (now : Instant) : Retried ε α :=
  let operation : Activity (List (Except ε α) × List Instant) Empty (Except ε α) :=
    Activity.act fun now (left, attempts) =>
      match left with
      | [] => ((left, attempts ++ [now]), default)
      | [last] => ((left, attempts ++ [now]), last)
      | first :: rest => ((rest, attempts ++ [now]), first)
  let task : Activity (List (Except ε α) × List Instant) Empty (Except ε α) :=
    policy.run retryable operation
  let (outcome, now, (_, attempts)) := task.alone now (outcomes, [])
  ⟨outcome, attempts, now⟩

end Leasehold.Rehearsal

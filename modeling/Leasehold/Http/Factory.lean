import Leasehold.Http.Transport

/-!
# Request objects

A factory creates requests, and a request can be looked at, given header fields
and a body, and executed any number of times.  What an object is, and what it
says to the world in each of these, is left to the factory.  The retrying
factory repeats the creation and gives out objects that repeat each execution of
the object within; everything else they hand on to it.  A user of a factory
knows its objects by the order in which they were created.
-/

set_option autoImplicit false

universe u

namespace Leasehold.Http

/-- A maker of requests with bodies `B`.  Changing the header fields tells what they were. -/
structure Factory (B : Type) (Q : Type u) (R : Q → Type) where
  Object : Type
  create : String → Url → Dialogue Q R (Except VaultError Object)
  target : Object → Dialogue Q R (String × Url)
  headers : (Headers → Headers) → Object → Dialogue Q R (Headers × Object)
  setBody : B → Object → Dialogue Q R Object
  execute : Object → Dialogue Q R (Except VaultError Response)

structure Retrying (ρ : Type) where
  delegate : ρ
  policy : RetryPolicy

inductive Deed (B : Type) where
  | target
  | headers (change : Headers → Headers)
  | setBody (body : B)
  | execute

abbrev Deed.Answer {B : Type} : Deed B → Type
  | .target => String × Url
  | .headers _ => Headers
  | .setBody _ => Unit
  | .execute => Except VaultError Response

inductive Use (B : Type) where
  | create (method : String) (url : Url)
  | on (n : Nat) (deed : Deed B)

/-- A new object is known by its number; where there is no object, there is no answer. -/
abbrev Use.Answer {B : Type} : Use B → Type
  | .create _ _ => Except VaultError Nat
  | .on _ deed => Option deed.Answer

namespace Factory

variable {B : Type} {Q : Type u} {R : Q → Type} {α : Type}

def ofTransport (t : Transport) : Factory String Query Query.Answer where
  Object := Request
  create method url :=
    (t.create method url).bind fun created =>
      .done (created.map fun _ => { method, url })
  target request := .done (request.method, request.url)
  headers change request :=
    .done (request.headers, { request with headers := change request.headers })
  setBody body request := .done { request with body := some body }
  execute := t.execute

def retrying (f : Factory B Q R) (policy : RetryPolicy) : Factory B Q R where
  Object := Retrying f.Object
  create method url :=
    (policy.run VaultError.retryable (f.create method url)).bind fun created =>
      .done (created.map fun o => ⟨o, policy⟩)
  target o := f.target o.delegate
  headers change o :=
    (f.headers change o.delegate).bind fun r => .done (r.1, { o with delegate := r.2 })
  setBody body o :=
    (f.setBody body o.delegate).bind fun changed => .done { o with delegate := changed }
  execute o := o.policy.run VaultError.retryable (f.execute o.delegate)

def withRetries (f : Factory B Q R) (policy : RetryPolicy) : Factory B Q R :=
  if policy.enabled then f.retrying policy else f

/-- Something done with a request, and the request behind it. -/
def act (f : Factory B Q R) : (deed : Deed B) → f.Object → Dialogue Q R (deed.Answer × f.Object)
  | .target, o => (f.target o).bind fun seen => .done (seen, o)
  | .headers change, o => f.headers change o
  | .setBody body, o => (f.setBody body o).bind fun changed => .done ((), changed)
  | .execute, o => (f.execute o).bind fun outcome => .done (outcome, o)

def noted {ρ : Type} (held : List ρ) : Except VaultError ρ → Except VaultError Nat × List ρ
  | .ok o => (.ok held.length, held ++ [o])
  | .error e => (.error e, held)

def use (f : Factory B Q R) (held : List f.Object) :
    (q : Use B) → Dialogue Q R (q.Answer × List f.Object)
  | .create method url =>
      (f.create method url).bind fun created => .done (noted held created)
  | .on n deed =>
      match held[n]? with
      | some o => (f.act deed o).bind fun r => .done (some r.1, held.set n r.2)
      | none => .done (none, held)

def serve (f : Factory B Q R) : List f.Object → Dialogue (Use B) Use.Answer α → Dialogue Q R α
  | _, .done a => .done a
  | held, .ask q next => (f.use held q).bind fun r => f.serve r.2 (next r.1)
  | held, .pause d next => .pause d fun u => f.serve held (next u)

end Factory

end Leasehold.Http

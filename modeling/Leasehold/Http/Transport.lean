import Leasehold.Http.Message
import Leasehold.Retry

/-!
# Transport

A transport creates requests and executes them.  What happens between the two
is asked of the outside world: `Query` lists the questions, and a transport is
a pair of dialogues over them.  The retrying transport repeats the creation and
each execution on their own; a transport without retries is left as it is.
-/

set_option autoImplicit false

namespace Leasehold.Http

inductive Query where
  | create (method : String) (url : Url)
  | execute (request : Request)
  | clock
  | readText (file : String)

abbrev Query.Answer : Query → Type
  | .create _ _ => Except VaultError Unit
  | .execute _ => Except VaultError Response
  | .clock => Instant
  | .readText _ => Except String String

abbrev Exchange (α : Type) := Dialogue Query Query.Answer α

structure Transport where
  create : String → Url → Exchange (Except VaultError Unit)
  execute : Request → Exchange (Except VaultError Response)

namespace Transport

def plain : Transport where
  create method url := Dialogue.question (R := Query.Answer) (Query.create method url)
  execute request := Dialogue.question (R := Query.Answer) (Query.execute request)

/-- The creation and each execution under the policy, every one with all attempts of its own. -/
def retrying (t : Transport) (policy : RetryPolicy) : Transport where
  create method url := policy.run VaultError.retryable (t.create method url)
  execute request := policy.run VaultError.retryable (t.execute request)

def withRetries (t : Transport) (policy : RetryPolicy) : Transport :=
  if policy.enabled then t.retrying policy else t

end Transport

end Leasehold.Http

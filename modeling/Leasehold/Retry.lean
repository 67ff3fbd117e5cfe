import Leasehold.Dialogue

/-!
# Retrying

An operation is repeated while it fails with an error that may be retried and
attempts are left, with a pause of fixed length between two attempts.  The
outcome of the last attempt is the outcome of the whole.
-/

set_option autoImplicit false

universe u

namespace Leasehold

/-- How often an operation is attempted, the first attempt included, and how long to wait between
two attempts.  No attempts at all means that retrying is switched off. -/
structure RetryPolicy where
  attempts : Nat := 6
  backoff : Duration := .ofSecs 1
  deriving DecidableEq, Repr

namespace RetryPolicy

def disabled : RetryPolicy := ⟨0, .zero⟩

def enabled (p : RetryPolicy) : Bool := 0 < p.attempts

def maxAttempts (p : RetryPolicy) : Nat := max p.attempts 1

def retries (p : RetryPolicy) (retryable : Bool) (made : Nat) : Bool :=
  made < p.maxAttempts && retryable

variable {Q : Type u} {R : Q → Type} {ε α : Type}

/-- At most `left` more attempts after the one that is made now. -/
def attempt (backoff : Duration) (retryable : ε → Bool) (operation : Dialogue Q R (Except ε α)) :
    Nat → Dialogue Q R (Except ε α)
  | 0 => operation
  | left + 1 =>
      operation.bind fun outcome =>
        match outcome with
        | .ok a => .done (.ok a)
        | .error e =>
            if retryable e then
              .pause backoff fun _ => attempt backoff retryable operation left
            else .done (.error e)

def run (p : RetryPolicy) (retryable : ε → Bool) (operation : Dialogue Q R (Except ε α)) :
    Dialogue Q R (Except ε α) :=
  attempt p.backoff retryable operation (p.maxAttempts - 1)

end RetryPolicy

end Leasehold

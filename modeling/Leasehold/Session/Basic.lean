import Leasehold.Config
import Leasehold.Lock
import Leasehold.Metrics
import Leasehold.Schedule
import Leasehold.Token

/-!
# Sessions

What the two kinds of session have in common.  A session holds at most one
token; callers ask it for a token, and when there is none one of them at a time
logs in.  A session is moved on by events, each a change of its state at one
instant; a `Change` also says what the event is answered with and what has to
happen outside: which timer to set and which waiting caller goes on.
-/

set_option autoImplicit false

namespace Leasehold.Session

inductive Status where
  | uninitialized
  | active
  | degraded
  | terminated
  deriving DecidableEq, Repr

def Status.name : Status → String
  | .uninitialized => "Uninitialized"
  | .active => "Active"
  | .degraded => "Degraded"
  | .terminated => "Terminated"

/-- What a caller asks for.  Only the application, which asks for a `token`, hears of an error
that a renewal in the background met. -/
inductive Demand where
  | token
  | current
  deriving DecidableEq, Repr

/-- A token under the number that the session gave it, so that equal tokens of different origin
stay apart. -/
structure TokenInstance where
  serial : Nat
  token : Token
  deriving DecidableEq, Repr, Inhabited

inductive Turn where
  | answered (r : Outcome TokenInstance)
  | login
  deriving Repr

structure Change (M α : Type) where
  session : M
  result : α
  timer : Option (Timer Unit) := none
  woken : Option Nat := none

def Change.within {M N α : Type} (f : M → N) (c : Change M α) : Change N α :=
  ⟨f c.session, c.result, c.timer, c.woken⟩

inductive CycleCall where
  | renew (t : Token)
  | login
  deriving Repr

inductive Event where
  | begin (demand : Demand)
  | attempt (caller : Nat)
  | loginReply (caller : Nat) (reply : Except VaultError Token)
  | ring (task : Nat)
  | renewalReply (cycle : Nat) (reply : Except VaultError Token)
  | cycleLoginReply (cycle : Nat) (reply : Except VaultError Token)
  | invalidate
  | shutdown

/-- What an event is answered with: a new caller with its number and its turn, if it need not wait;
a ring with the number and the first call of the cycle that it started; the renewal of a cycle with
whether the cycle logs in next.  An instant beyond the clock ends the call or the cycle that needs
it. -/
abbrev Event.Answer : Event → Type
  | .begin _ => Nat × Option Turn
  | .attempt _ => Turn
  | .loginReply _ _ => Outcome TokenInstance
  | .ring _ => Option (Nat × CycleCall)
  | .renewalReply _ _ => Except InstantOverflow Bool
  | .cycleLoginReply _ _ => Except InstantOverflow Unit
  | .invalidate => Unit
  | .shutdown => Unit

end Leasehold.Session

/-!
# Lock

A lock that is handed over in the order of arrival: whoever releases it leaves
it to the first of those who wait, and nobody who comes later can be faster.
-/

set_option autoImplicit false

namespace Leasehold

/-- Who holds the lock, and who waits for it, first come first. -/
structure Lock where
  holder : Option Nat := none
  queue : List Nat := []
  deriving DecidableEq, Repr, Inhabited

namespace Lock

def request (l : Lock) (who : Nat) : Lock :=
  match l.holder with
  | none => { l with holder := some who }
  | some _ => { l with queue := l.queue ++ [who] }

def release (l : Lock) : Lock := ⟨l.queue.head?, l.queue.tail⟩

end Lock

end Leasehold

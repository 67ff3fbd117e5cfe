import Leasehold.Config

/-!
# Worker pool

The workers that run tasks in the background, named by their number.  Work that
does not bring a pool of its own runs on the pool that is current, if there is
one.
-/

set_option autoImplicit false

namespace Leasehold

structure WorkerPool where
  workers : List String
  deriving DecidableEq, Repr

namespace WorkerPool

def start (c : PoolConfig) : Except VaultError WorkerPool := do
  c.validate
  return ⟨(List.range c.size).map fun n => c.nameStart ++ toString (n + 1)⟩

def next? (p : WorkerPool) : Option String := p.workers.head?

def current : Option WorkerPool → Except VaultError WorkerPool
  | some p => .ok p
  | none => .error (.invalidConfig "no worker pool is running")

def description (_ : WorkerPool) : String := "TokioScheduler \x7b dedicated: true, .. \x7d"

end WorkerPool

end Leasehold

import Leasehold.Numbered
import Leasehold.Time

/-!
# Schedule

Work that starts after a delay.  A task is live from the time it is scheduled
until it starts or its handle is cancelled or given up, whichever comes first;
only a live task starts, so each starts at most once.
-/

set_option autoImplicit false

namespace Leasehold

structure Timer (α : Type) where
  task : Nat
  delay : Duration
  work : α
  deriving Repr

structure LiveTask (α : Type) where
  due : Instant
  work : α
  deriving Repr

abbrev Schedule (α : Type) := Numbered (LiveTask α)

namespace Schedule

variable {α : Type}

def plan (s : Schedule α) (now : Instant) (delay : Duration) (work : α) : Schedule α × Timer α :=
  (s.add ⟨⟨now.nanos + delay.nanos⟩, work⟩, ⟨s.issued, delay, work⟩)

def planIf (s : Schedule α) (now : Instant) (delay : Option Duration) (work : α) :
    Schedule α × Option (Timer α) :=
  match delay with
  | none => (s, none)
  | some d => ((s.plan now d work).1, some (s.plan now d work).2)

theorem cancel_planIf {s : Schedule α} {now : Instant} {delay : Option Duration} {work : α}
    {handle : Option Nat} (older : ∀ n, handle = some n → n < s.issued) :
    (s.planIf now delay work).1.cancel handle =
      (Schedule.planIf (s.cancel handle) now delay work).1 := by
  cases delay with
  | none => rfl
  | some d =>
      cases handle with
      | none => rfl
      | some n => exact Numbered.remove_add_of_lt (older n rfl)

@[simp] theorem task_planIf_cancel (s : Schedule α) (now : Instant) (delay : Option Duration)
    (work : α) (handle : Option Nat) :
    (Schedule.planIf (s.cancel handle) now delay work).2.map Timer.task =
      (s.planIf now delay work).2.map Timer.task := by
  cases delay with
  | none => rfl
  | some d => exact congrArg some (Numbered.issued_cancel s handle)

end Schedule

end Leasehold

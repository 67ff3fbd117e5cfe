import Leasehold.Numbered
import Leasehold.Timeline

/-!
# Scheduler

Work that starts after a delay unless it is called off before.  A task and its
handle share a signal, which the handle raises to cancel the task and closes
when it is given up.  A task moves only when it is polled, and a poll is one
step: the first one sets the timer, and each looks at the signal before it looks
at the timer, so a task that is called off when it is due does not start.  From
its start on a task is its work, which looks at neither.
-/

set_option autoImplicit false

namespace Leasehold

structure Signal where
  raised : Bool := false
  closed : Bool := false
  deriving DecidableEq, Repr

namespace Signal

inductive Arrival where
  | raised
  | closed
  deriving DecidableEq, Repr

def arrival? (s : Signal) : Option Arrival :=
  if s.raised then some .raised else if s.closed then some .closed else none

end Signal

inductive Progress where
  | new
  | waiting (ring : Instant)
  | started
  | ended
  deriving DecidableEq, Repr

inductive Polled where
  | waits
  | starts
  | works
  | ended
  deriving DecidableEq, Repr

structure ScheduledTask (α : Type) where
  delay : Duration
  work : α
  signal : Signal := {}
  progress : Progress := .new
  deriving Repr

namespace ScheduledTask

variable {α : Type}

/-- Waits for the signal or the timer, the signal first. -/
def select (t : ScheduledTask α) (now ring : Instant) : ScheduledTask α × Polled :=
  match t.signal.arrival? with
  | some _ => ({ t with progress := .ended }, .ended)
  | none =>
      if ring ≤ now then ({ t with progress := .started }, .starts)
      else ({ t with progress := .waiting ring }, .waits)

/-- The delay counts from the first poll, which sets the timer. -/
def poll (t : ScheduledTask α) (now : Instant) : ScheduledTask α × Polled :=
  match t.progress with
  | .new => t.select now (ringAt now t.delay)
  | .waiting ring => t.select now ring
  | .started => (t, .works)
  | .ended => (t, .ended)

def cancel (t : ScheduledTask α) : ScheduledTask α :=
  { t with signal := { t.signal with raised := true } }

def giveUp (t : ScheduledTask α) : ScheduledTask α :=
  { t with signal := { t.signal with closed := true } }

end ScheduledTask

abbrev Scheduler (α : Type) := Numbered (ScheduledTask α)

namespace Scheduler

variable {α : Type}

def schedule (s : Scheduler α) (delay : Duration) (work : α) : Scheduler α := s.add { delay, work }

def cancelTask (s : Scheduler α) (n : Nat) : Scheduler α := s.change n ScheduledTask.cancel

def dropHandle (s : Scheduler α) (n : Nat) : Scheduler α := s.change n ScheduledTask.giveUp

def polled (s : Scheduler α) (now : Instant) (n : Nat) : Polled :=
  match s.find? n with
  | some t => (t.poll now).2
  | none => .ended

def poll (s : Scheduler α) (now : Instant) (n : Nat) : Scheduler α :=
  s.change n fun t => (t.poll now).1

end Scheduler

end Leasehold

import Leasehold.Dialogue

/-!
# Timeline

Concurrent tasks on one clock.  A task is a dialogue whose questions are
`Command`s on a shared state; a `Bench` holds the tasks that are ready, asleep
or parked.  Ready tasks run one after another until each of them blocks;
the clock moves only when none is ready, and then to the next sleeper.  Timers
count in whole milliseconds, and what is due at the same time runs in the order
in which it began to sleep.
-/

set_option autoImplicit false

namespace Leasehold

inductive Command (σ J : Type) : Type 1 where
  | act {ρ : Type} (run : Instant → σ → σ × ρ)
  | spawn (job : J)
  | park (gate : Nat)
  | wake (gate : Nat)

def Command.Answer {σ J : Type} : Command σ J → Type
  | @Command.act _ _ ρ _ => ρ
  | .spawn _ => Unit
  | .park _ => Unit
  | .wake _ => Unit

abbrev Activity (σ J α : Type) := Dialogue (Command σ J) Command.Answer α

namespace Activity

variable {σ J ρ : Type}

def act (run : Instant → σ → σ × ρ) : Activity σ J ρ := .ask (.act run) .done

def spawn (job : J) : Activity σ J Unit := .ask (.spawn job) .done

def park (gate : Nat) : Activity σ J Unit := .ask (.park gate) .done

def wake (gate : Nat) : Activity σ J Unit := .ask (.wake gate) .done

def sleep (d : Duration) : Activity σ J Unit := .pause d .done

end Activity

structure Sleeper (σ J : Type) : Type 1 where
  wakeAt : Instant
  rest : Activity σ J Unit

structure Parked (σ J : Type) : Type 1 where
  gate : Nat
  rest : Activity σ J Unit

structure Bench (σ J : Type) : Type 1 where
  clock : Instant
  state : σ
  ready : List (Activity σ J Unit) := []
  sleepers : List (Sleeper σ J) := []
  parked : List (Parked σ J) := []

/-- How far a timer is set whose end lies beyond the range of the clock: thirty years. -/
def farFuture : Duration := .ofSecs 946080000

/-- When a timer set at `now` rings: at the first whole millisecond that is not too early. -/
def ringAt (now : Instant) (d : Duration) : Instant :=
  let deadline :=
    match now.plus d with
    | .ok i => i.nanos
    | .error _ => now.nanos + farFuture.nanos
  ⟨(deadline + 999999) / 1000000 * 1000000⟩

namespace Bench

variable {σ J : Type}

def openGate (b : Bench σ J) (gate : Nat) : Bench σ J :=
  { b with
    ready := b.ready ++ (b.parked.filter (fun p => p.gate == gate)).map Parked.rest
    parked := b.parked.filter (fun p => p.gate != gate) }

def run (code : J → Activity σ J Unit) : Activity σ J Unit → Bench σ J → Bench σ J
  | .done _, b => b
  | .ask (.act f) next, b =>
      let (state, r) := f b.clock b.state
      run code (next r) { b with state }
  | .ask (.spawn job) next, b => run code (next ()) { b with ready := b.ready ++ [code job] }
  | .ask (.park gate) next, b => { b with parked := b.parked ++ [⟨gate, next ()⟩] }
  | .ask (.wake gate) next, b => run code (next ()) (b.openGate gate)
  | .pause d next, b =>
      let wakeAt := ringAt b.clock d
      if wakeAt ≤ b.clock then run code (next ()) b
      else { b with sleepers := b.sleepers ++ [⟨wakeAt, next ()⟩] }

def settle (code : J → Activity σ J Unit) : Nat → Bench σ J → Bench σ J
  | 0, b => b
  | turns + 1, b =>
      match b.ready with
      | [] => b
      | task :: rest => settle code turns (run code task { b with ready := rest })

/-- More turns than any rehearsal takes between two moves of the clock. -/
def manyTurns : Nat := 1000000

def start (code : J → Activity σ J Unit) (job : J) (b : Bench σ J) : Bench σ J :=
  settle code manyTurns { b with ready := b.ready ++ [code job] }

def nextWake (b : Bench σ J) : Option Instant :=
  b.sleepers.foldl
    (fun earliest s =>
      match earliest with
      | none => some s.wakeAt
      | some e => some (if s.wakeAt < e then s.wakeAt else e))
    none

def moveTo (code : J → Activity σ J Unit) (i : Instant) (b : Bench σ J) : Bench σ J :=
  settle code manyTurns
    { b with
      clock := i
      ready := b.ready ++ (b.sleepers.filter (fun s => decide (s.wakeAt ≤ i))).map Sleeper.rest
      sleepers := b.sleepers.filter (fun s => decide (¬ s.wakeAt ≤ i)) }

def advanceWithin (code : J → Activity σ J Unit) (target : Instant) : Nat → Bench σ J → Bench σ J
  | 0, b => b
  | moves + 1, b =>
      match b.nextWake with
      | none => b
      | some i =>
          if i ≤ target then advanceWithin code target moves (b.moveTo code i) else b

/-- No timer is set further than thirty years.  They ring at whole milliseconds, so there are no
more moves than milliseconds. -/
def advance (code : J → Activity σ J Unit) (d : Duration) (b : Bench σ J) : Bench σ J :=
  let way := min d farFuture
  let target : Instant := ⟨b.clock.nanos + way.nanos⟩
  { advanceWithin code target (way.nanos / 1000000 + 1) b with clock := target }

end Bench

/-- Runs a task that is alone on its timeline, where the clock moves only by its own sleep. -/
def Activity.alone {σ J α : Type} : Activity σ J α → Instant → σ → α × Instant × σ
  | .done a, now, s => (a, now, s)
  | .ask (.act f) next, now, s =>
      let (s, r) := f now s
      alone (next r) now s
  | .ask (.spawn _) next, now, s => alone (next ()) now s
  | .ask (.park _) next, now, s => alone (next ()) now s
  | .ask (.wake _) next, now, s => alone (next ()) now s
  | .pause d next, now, s => alone (next ()) (max now (ringAt now d)) s

end Leasehold

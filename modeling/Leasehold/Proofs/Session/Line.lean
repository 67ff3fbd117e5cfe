import Leasehold.Proofs.Session.Manager

/-!
# The line of callers as it is observed

Whoever watches a session, of either kind, sees callers arrive, be woken, log in
and leave: from what the session answers, and from whom it wakes, an observer
keeps a line of those in flight (`Line.hear`, `Line.wake`).  `Line.Moved` lists
what one event does to such a line when everything is in order.
-/

set_option autoImplicit false

namespace Leasehold.Session

/-- How far a caller in line has come. -/
inductive Phase where
  | waiting
  | woken
  | loggingIn
  deriving DecidableEq, Repr

abbrev Line := List (Nat × Phase)

namespace Line

def turn (line : Line) (id : Nat) (phase : Phase) : Line :=
  line.map fun c => if c.1 = id then (c.1, phase) else c

def leave (line : Line) (id : Nat) : Line := line.filter fun c => c.1 != id

def hear (line : Line) : (e : Event) → e.Answer → Line
  | .begin _, (id, none) => line ++ [(id, .waiting)]
  | .begin _, (id, some .login) => line ++ [(id, .loggingIn)]
  | .attempt id, .login => line.turn id .loggingIn
  | .attempt id, .answered _ => line.leave id
  | .loginReply id _, _ => line.leave id
  | _, _ => line

def wake (line : Line) : Option Nat → Line
  | some id => line.turn id .woken
  | none => line

def waiters (queue : List Nat) : Line := queue.map (·, .waiting)

def letIn : List Nat → Line
  | [] => []
  | id :: rest => (id, .woken) :: waiters rest

def logins (line : Line) : Line := line.filter fun c => c.2 == .loggingIn

end Line

/-- What an event does to a line.  Whoever has been woken and whoever logs in stands at its head. -/
inductive Line.Moved : Line → (e : Event) → e.Answer → Line → Prop
  | still (line : Line) (e : Event) (answer : e.Answer) (aside : e.ofCaller = false) :
      Moved line e answer line
  | answered (line : Line) (demand : Demand) (id : Nat) (r : Outcome TokenInstance) :
      Moved line (.begin demand) (id, some (.answered r)) line
  | queued (line : Line) (demand : Demand) (id : Nat) (behind : line ≠ []) :
      Moved line (.begin demand) (id, none) (line ++ [(id, .waiting)])
  | admitted (demand : Demand) (id : Nat) :
      Moved [] (.begin demand) (id, some .login) [(id, .loggingIn)]
  | started (id : Nat) (queue : List Nat) :
      Moved ((id, .woken) :: Line.waiters queue) (.attempt id) .login
        ((id, .loggingIn) :: Line.waiters queue)
  | served (id : Nat) (queue : List Nat) (r : Outcome TokenInstance) :
      Moved ((id, .woken) :: Line.waiters queue) (.attempt id) (.answered r)
        (Line.letIn queue)
  | ended (id : Nat) (queue : List Nat) (reply : Except VaultError Token)
      (r : Outcome TokenInstance) :
      Moved ((id, .loggingIn) :: Line.waiters queue) (.loginReply id reply) r
        (Line.letIn queue)

namespace Line

variable {line line' : Line} {e : Event} {answer : e.Answer} {u v id : Nat} {tail : List Nat}

theorem eq_of_woken (woken : (v, .woken) ∈ letIn (u :: tail)) : v = u := by
  rcases List.mem_cons.mp woken with head | behind
  · exact (Prod.mk.inj head).1
  · obtain ⟨_, _, other⟩ := List.mem_map.mp behind
    cases other

theorem Moved.stays (moved : Moved line e answer line') (front : line = letIn (u :: tail))
    (others : ∀ v, e ≠ .attempt v) : ∃ more, line' = letIn (u :: (tail ++ more)) := by
  cases moved with
  | still _ _ _ aside =>
      refine ⟨[], ?_⟩
      rwa [List.append_nil]
  | answered _ demand id r =>
      refine ⟨[], ?_⟩
      rwa [List.append_nil]
  | queued _ demand id behind =>
      refine ⟨[id], ?_⟩
      change _ = (u, Phase.woken) :: waiters (tail ++ [id])
      unfold waiters
      rw [front, List.map_append]
      rfl
  | admitted demand id => cases front
  | started id queue => exact absurd rfl (others id)
  | served id queue r => exact absurd rfl (others id)
  | ended id queue reply r => cases (List.cons.inj front).1

theorem Moved.serves {r : Outcome TokenInstance}
    (moved : Moved line (.attempt v) (.answered r) line') (front : line = letIn (u :: tail)) :
    v = u ∧ line' = letIn tail := by
  cases moved with
  | still _ _ _ aside => cases aside
  | served id queue r =>
      obtain ⟨head, behind⟩ := List.cons.inj front
      have same : queue = tail := by
        refine (List.map_inj_right ?_).mp behind
        exact fun x y pairs => (Prod.mk.inj pairs).1
      rw [same]
      exact ⟨(Prod.mk.inj head).1, rfl⟩

theorem Moved.ends {reply : Except VaultError Token} {r : Outcome TokenInstance}
    (moved : Moved line (.loginReply id reply) r line') :
    ∃ queue, line = (id, .loggingIn) :: waiters queue ∧ line' = letIn queue := by
  cases moved with
  | still _ _ _ aside => cases aside
  | ended id queue reply r => exact ⟨queue, rfl, rfl⟩

end Line

/-! ## Watching a session -/

/-- A session and the line as its observer has it. -/
structure Watched where
  manager : Manager
  line : Line

namespace Manager

def Flying (m : Manager) (n : Nat) (stage : CycleStage) : Prop :=
  match m with
  | .simple _ => False
  | .renewing s => ∃ c, (n, c) ∈ s.cycles.items ∧ c.stage = stage

end Manager

namespace Watched

def ofConfig (c : SessionConfig) : Watched := ⟨.ofConfig c, []⟩

def next (w : Watched) (now : Instant) (e : Event) : Watched :=
  let c := w.manager.step now e
  ⟨c.session, (w.line.hear e c.result).wake c.woken⟩

/-- The part of the world outside: whoever has been woken goes on, and a reply belongs to a request
in flight. -/
def Awaits (w : Watched) : Event → Prop
  | .attempt id => (id, .woken) ∈ w.line
  | .loginReply id _ => (id, .loggingIn) ∈ w.line
  | .renewalReply n _ => w.manager.Flying n .renewing
  | .cycleLoginReply n _ => w.manager.Flying n .loggingIn
  | _ => True

def Awaited (w : Watched) (h : History Event) : Prop :=
  History.Keeps next (fun w _ e => w.Awaits e) w h

def found (w : Watched) (h : History Event) (i : Nat) : Watched := History.after next w (h.take i)

end Watched

end Leasehold.Session

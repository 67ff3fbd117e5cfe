import Leasehold.Proofs.History
import Leasehold.Timeline
import Mathlib.Data.List.Perm.Basic
import Mathlib.Algebra.Order.Group.Multiset

/-!
# Crowds

Any number of tasks that share a state, and go on in any order.  A crowd leaves
open when a task wakes up: every event of its history is one step of some task,
at some instant.  Whatever the others do meanwhile, the moves of each task lead
through its own procedure (`Crowd.leads`), so what holds of a procedure in every
surrounding holds of every task of a crowd.  A bench is one way in which a crowd
goes on: to whatever it comes when a job is started or the clock moves, the crowd
comes as well (`Covers.start`, `Covers.advance`).
-/

set_option autoImplicit false

namespace Leasehold

variable {σ J α β : Type}

/-! ## The moves of one task -/

structure Move (σ : Type) where
  now : Instant
  before : σ
  after : σ

namespace Activity

/-- How a task goes on: what is left of it, the state, and the job that it starts.  A task that has
ended does not. -/
def move? (now : Instant) (s : σ) : Activity σ J α → Option (Activity σ J α × σ × Option J)
  | .done _ => none
  | .ask (.act run) next => some (next (run now s).2, (run now s).1, none)
  | .ask (.spawn job) next => some (next (), s, some job)
  | .ask (.park _) next => some (next (), s, none)
  | .ask (.wake _) next => some (next (), s, none)
  | .pause _ next => some (next (), s, none)

/-- The moves of a task lead from one procedure to the rest of it, whatever state each of them
finds. -/
inductive Leads : Activity σ J α → List (Move σ) → Activity σ J α → Prop
  | here (p : Activity σ J α) : Leads p [] p
  | move {p q r : Activity σ J α} {now : Instant} {s s' : σ} {job : Option J}
      {moves : List (Move σ)} (goes : p.move? now s = some (q, s', job)) (later : Leads q moves r) :
      Leads p (⟨now, s, s'⟩ :: moves) r

variable {p q r : Activity σ J α} {f : α → Activity σ J β} {now : Instant} {s : σ}
  {moves later : List (Move σ)}

theorem move?_eq_none (stays : p.move? now s = none) : ∃ a, p = .done a := by
  cases p with
  | done a => exact ⟨a, rfl⟩
  | pause d next => cases stays
  | ask q next => cases q <;> cases stays

theorem move?_bind {s' : σ} {job : Option J} (goes : p.move? now s = some (q, s', job)) :
    move? now s (p.bind f) = some (q.bind f, s', job) := by
  cases p with
  | done a => cases goes
  | pause d next =>
      cases goes
      rfl
  | ask q next =>
      cases q with
      | act run =>
          cases goes
          rfl
      | spawn job | park gate | wake gate =>
          cases goes
          rfl

theorem Leads.of_bind {r : Activity σ J β} (leads : Leads (p.bind f) moves r) :
    (∃ q, Leads p moves q ∧ r = q.bind f) ∨
      ∃ a first last, moves = first ++ last ∧ Leads p first (.done a) ∧ Leads (f a) last r := by
  generalize whole : p.bind f = b at leads
  induction leads generalizing p with
  | here b => exact Or.inl ⟨p, .here p, whole.symm⟩
  | @move _ _ _ now s _ _ moves goes later ih =>
      subst whole
      cases first : p.move? now s with
      | none =>
          obtain ⟨a, rfl⟩ := move?_eq_none first
          exact Or.inr ⟨a, [], _, rfl, .here _, .move goes later⟩
      | some step =>
          obtain ⟨p', s', job⟩ := step
          obtain ⟨⟩ := (move?_bind first).symm.trans goes
          rcases ih rfl with ⟨q, leads, rfl⟩ | ⟨a, front, last, rfl, leads, rest⟩
          · exact Or.inl ⟨q, .move first leads, rfl⟩
          · exact Or.inr ⟨a, ⟨now, s, _⟩ :: front, last, rfl, .move first leads, rest⟩

theorem Leads.after_bind {r : Activity σ J β} (first : Leads p moves q)
    (leads : Leads (p.bind f) (moves ++ later) r) : Leads (q.bind f) later r := by
  induction first with
  | here p => exact leads
  | move goes rest ih =>
      cases leads with
      | move also on =>
          cases (move?_bind goes).symm.trans also
          exact ih on

/-- Whatever states the moves of a procedure find, all of them are of a kind. -/
def Always (kind : Move σ → Prop) (p : Activity σ J α) : Prop :=
  ∀ moves q, Leads p moves q → ∀ m ∈ moves, kind m

variable {kind wider : Move σ → Prop}

theorem always_done (a : α) : Always kind (.done a : Activity σ J α) := by
  intro moves q leads m member
  cases leads with
  | here => cases member
  | move goes later => cases goes

theorem Always.of_move (first : ∀ now s q s' job, p.move? now s = some (q, s', job) →
    kind ⟨now, s, s'⟩ ∧ Always kind q) : Always kind p := by
  intro moves q leads m member
  cases leads with
  | here => cases member
  | move goes later =>
      obtain ⟨own, rest⟩ := first _ _ _ _ _ goes
      rcases List.mem_cons.mp member with rfl | member
      · exact own
      · exact rest _ _ later m member

theorem Always.mono (always : Always kind p) (wide : ∀ m, kind m → wider m) : Always wider p :=
  fun moves q leads m member => wide m (always moves q leads m member)

theorem Always.bind (first : Always kind p) (then_ : ∀ a, Always kind (f a)) :
    Always kind (p.bind f) := by
  intro moves r leads m member
  rcases leads.of_bind with ⟨q, leads, _⟩ | ⟨a, front, last, rfl, leads, rest⟩
  · exact first _ _ leads m member
  · rcases List.mem_append.mp member with member | member
    · exact first _ _ leads m member
    · exact then_ a _ _ rest m member

theorem always_act {ρ : Type} {run : Instant → σ → σ × ρ}
    (own : ∀ now s, kind ⟨now, s, (run now s).1⟩) : Always kind (act run : Activity σ J ρ) := by
  refine Always.of_move fun now s q s' job goes => ?_
  cases goes
  exact ⟨own now s, always_done _⟩

theorem always_idle {p : Activity σ J Unit} (idle : ∀ now s, kind ⟨now, s, s⟩)
    (waits : ∀ now s, ∃ job, p.move? now s = some (.done (), s, job)) : Always kind p := by
  refine Always.of_move fun now s q s' job goes => ?_
  obtain ⟨_, same⟩ := waits now s
  cases same.symm.trans goes
  exact ⟨idle now s, always_done ()⟩

/-- A dialogue makes no other moves than those that its questions are answered by, if its pauses
are of the kind. -/
theorem Always.through {Q : Type} {R : Q → Type} {answer : (q : Q) → Activity σ J (R q)}
    (answers : ∀ q, Always kind (answer q)) (idle : ∀ now s, kind ⟨now, s, s⟩)
    (p : Dialogue Q R α) : Always kind (p.through answer) := by
  induction p with
  | done a => exact always_done a
  | ask q next ih => exact (answers q).bind ih
  | pause d next ih =>
      refine Always.of_move fun now s q s' job goes => ?_
      cases goes
      exact ⟨idle now s, ih ()⟩

end Activity

open Activity (Leads)

/-! ## The moves of many tasks -/

structure Crowd (σ J : Type) : Type 1 where
  state : σ
  tasks : List (Activity σ J Unit)

namespace Crowd

variable {crowd : Crowd σ J} {code : J → Activity σ J Unit} {n k : Nat} {now : Instant}
  {p : Activity σ J Unit}

def move? (crowd : Crowd σ J) (now : Instant) (n : Nat) :
    Option (Activity σ J Unit × σ × Option J) :=
  crowd.tasks[n]?.bind (Activity.move? now crowd.state)

/-- The task of a number goes on by one step.  A job that it starts becomes the last task. -/
def next (code : J → Activity σ J Unit) (crowd : Crowd σ J) (now : Instant) (n : Nat) : Crowd σ J :=
  match crowd.move? now n with
  | none => crowd
  | some (rest, state, job) =>
      { state, tasks := crowd.tasks.set n rest ++ (job.map code).toList }

abbrev after (code : J → Activity σ J Unit) (crowd : Crowd σ J) (h : History Nat) : Crowd σ J :=
  History.after (next code) crowd h

def moves (code : J → Activity σ J Unit) (n : Nat) : Crowd σ J → History Nat → List (Move σ)
  | _, [] => []
  | crowd, (now, k) :: rest =>
      let later := moves code n (crowd.next code now k) rest
      match if k = n then crowd.move? now k else none with
      | none => later
      | some (_, s', _) => ⟨now, crowd.state, s'⟩ :: later

theorem task_next (there : crowd.tasks[n]? = some p) (other : k ≠ n ∨ crowd.move? now k = none) :
    (crowd.next code now k).tasks[n]? = some p := by
  unfold next
  cases goes : crowd.move? now k with
  | none => exact there
  | some step =>
      obtain ⟨q, s', job⟩ := step
      have apart : k ≠ n := other.resolve_right (by simp [goes])
      have within : n < (crowd.tasks.set k q).length := by
        rw [List.length_set]
        exact (List.getElem?_eq_some_iff.mp there).1
      dsimp only
      rw [List.getElem?_append_left within, List.getElem?_set_ne apart, there]

theorem task_next_self {q : Activity σ J Unit} {s' : σ} {job : Option J}
    (goes : crowd.move? now n = some (q, s', job)) :
    (crowd.next code now n).tasks[n]? = some q := by
  obtain ⟨p, there, _⟩ := Option.bind_eq_some_iff.mp goes
  have within : n < crowd.tasks.length := (List.getElem?_eq_some_iff.mp there).1
  have still : n < (crowd.tasks.set n q).length := by rwa [List.length_set]
  unfold next
  rw [goes]
  dsimp only
  rw [List.getElem?_append_left still, List.getElem?_set_self within]

/-- In every history the moves of a task lead through its own procedure, to what the crowd has of
it then. -/
theorem leads_after (code : J → Activity σ J Unit) (crowd : Crowd σ J) (h : History Nat)
    (there : crowd.tasks[n]? = some p) :
    ∃ q, (crowd.after code h).tasks[n]? = some q ∧ Leads p (crowd.moves code n h) q := by
  induction h generalizing crowd p with
  | nil => exact ⟨p, there, .here p⟩
  | cons event rest ih =>
      obtain ⟨now, k⟩ := event
      unfold moves
      dsimp only
      by_cases own : k = n
      · subst own
        rw [if_pos rfl]
        cases goes : crowd.move? now k with
        | none => exact ih _ (task_next there (Or.inr goes))
        | some step =>
            obtain ⟨q, s', job⟩ := step
            obtain ⟨r, left, leads⟩ := ih _ (task_next_self goes)
            have moves : p.move? now crowd.state = some (q, s', job) := by
              rwa [Crowd.move?, there] at goes
            exact ⟨r, left, .move moves leads⟩
      · rw [if_neg own]
        exact ih _ (task_next there (Or.inl own))

theorem leads (code : J → Activity σ J Unit) (crowd : Crowd σ J) (h : History Nat)
    (there : crowd.tasks[n]? = some p) : ∃ q, Leads p (crowd.moves code n h) q := by
  obtain ⟨q, _, leads⟩ := leads_after code crowd h there
  exact ⟨q, leads⟩

end Crowd

/-! ## Benches -/

namespace Bench

def tasks (b : Bench σ J) : Multiset (Activity σ J Unit) :=
  ↑b.ready + ↑(b.sleepers.map Sleeper.rest) + ↑(b.parked.map Parked.rest)

theorem tasks_ready (b : Bench σ J) (l : List (Activity σ J Unit)) :
    tasks { b with ready := b.ready ++ l } = ↑l + b.tasks := by
  unfold tasks
  rw [← Multiset.coe_add]
  ac_rfl

theorem tasks_sleepers (b : Bench σ J) (sleeper : Sleeper σ J) :
    tasks { b with sleepers := b.sleepers ++ [sleeper] } = {sleeper.rest} + b.tasks := by
  unfold tasks
  rw [List.map_append, ← Multiset.coe_add]
  change _ + (_ + {sleeper.rest}) + _ = _
  ac_rfl

theorem tasks_parked (b : Bench σ J) (parked : Parked σ J) :
    tasks { b with parked := b.parked ++ [parked] } = {parked.rest} + b.tasks := by
  unfold tasks
  rw [List.map_append, ← Multiset.coe_add]
  change _ + _ + (_ + {parked.rest}) = _
  ac_rfl

theorem coe_filter_map {γ : Type 1} (f : γ → Activity σ J Unit) (p : γ → Bool) (l : List γ) :
    (↑((l.filter p).map f) + ↑((l.filter (!p ·)).map f) : Multiset (Activity σ J Unit)) =
      ↑(l.map f) := by
  rw [Multiset.coe_add, ← List.map_append]
  exact Multiset.coe_eq_coe.mpr ((List.filter_append_perm p l).map f)

theorem tasks_openGate (b : Bench σ J) (gate : Nat) : (b.openGate gate).tasks = b.tasks := by
  have parked := coe_filter_map Parked.rest (fun p => p.gate == gate) b.parked
  unfold openGate tasks
  dsimp only [bne]
  rw [← parked, ← Multiset.coe_add]
  ac_rfl

end Bench

namespace Crowd

variable {crowd : Crowd σ J} {code : J → Activity σ J Unit} {b b' : Bench σ J}
  {task rest : Activity σ J Unit} {running : Multiset (Activity σ J Unit)}

/-- A crowd stands where a bench does: it has the bench's state and tasks, those that the bench is
just running, and those that have ended. -/
def Covers (crowd : Crowd σ J) (running : Multiset (Activity σ J Unit)) (b : Bench σ J) : Prop :=
  crowd.state = b.state ∧ ∃ ended : Multiset (Activity σ J Unit),
    (∀ p ∈ ended, p = .done ()) ∧ ↑crowd.tasks = running + b.tasks + ended

theorem coe_set {tasks : List (Activity σ J Unit)} {n : Nat} (there : tasks[n]? = some task) :
    (↑(tasks.set n rest) + {task} : Multiset (Activity σ J Unit)) = ↑tasks + {rest} := by
  obtain ⟨within, rfl⟩ := List.getElem?_eq_some_iff.mp there
  have replaced : (↑(tasks.set n rest) : Multiset (Activity σ J Unit)) =
      {rest} + ↑(tasks.eraseIdx n) :=
    Multiset.coe_eq_coe.mpr (List.set_perm_cons_eraseIdx within rest)
  have whole : ({tasks[n]} + ↑(tasks.eraseIdx n) : Multiset (Activity σ J Unit)) = ↑tasks :=
    Multiset.coe_eq_coe.mpr (List.getElem_cons_eraseIdx_perm within)
  rw [replaced, ← whole]
  ac_rfl

theorem Covers.step {job : Option J} (covers : crowd.Covers {task} b)
    (goes : task.move? b.clock b.state = some (rest, b'.state, job))
    (same : running + b'.tasks = {rest} + ↑(job.map code).toList + b.tasks) :
    ∃ n, (crowd.next code b.clock n).Covers running b' := by
  obtain ⟨state, ended, done, tasks⟩ := covers
  have among : task ∈ crowd.tasks := by
    rw [← Multiset.mem_coe, tasks, add_assoc, Multiset.singleton_add]
    exact Multiset.mem_cons_self _ _
  obtain ⟨n, there⟩ := List.mem_iff_getElem?.mp among
  have moves : crowd.move? b.clock n = some (rest, b'.state, job) := by
    rwa [Crowd.move?, there, state]
  have replaced : (↑(crowd.tasks.set n rest) : Multiset (Activity σ J Unit)) =
      {rest} + b.tasks + ended := by
    apply add_right_cancel (b := {task})
    rw [coe_set there, tasks]
    ac_rfl
  refine ⟨n, ?_⟩
  unfold next
  rw [moves]
  refine ⟨rfl, ended, done, ?_⟩
  dsimp only
  rw [← Multiset.coe_add, replaced, same]
  ac_rfl

/-- Some history leads a crowd to where a bench stands that has run its tasks. -/
def Reaches (code : J → Activity σ J Unit) (crowd : Crowd σ J) (b : Bench σ J) : Prop :=
  ∃ h, (crowd.after code h).Covers 0 b

theorem Covers.reaches (covers : crowd.Covers 0 b) : crowd.Reaches code b := ⟨[], covers⟩

theorem Reaches.trans (first : crowd.Reaches code b)
    (later : ∀ {crowd : Crowd σ J}, crowd.Covers 0 b → crowd.Reaches code b') :
    crowd.Reaches code b' := by
  obtain ⟨h, covers⟩ := first
  obtain ⟨rest, covers⟩ := later covers
  refine ⟨h ++ rest, ?_⟩
  rwa [after, History.after_append]

theorem Covers.onward {job : Option J} {last : Bench σ J} (covers : crowd.Covers {task} b)
    (b' : Bench σ J) (goes : task.move? b.clock b.state = some (rest, b'.state, job))
    (same : {rest} + b'.tasks = {rest} + ↑(job.map code).toList + b.tasks)
    (later : ∀ {crowd : Crowd σ J}, crowd.Covers {rest} b' → crowd.Reaches code last) :
    crowd.Reaches code last := by
  obtain ⟨n, on⟩ := covers.step goes same
  obtain ⟨h, covers⟩ := later on
  exact ⟨(b.clock, n) :: h, covers⟩

theorem Covers.waits (covers : crowd.Covers {task} b)
    (goes : task.move? b.clock b.state = some (rest, b'.state, none))
    (same : b'.tasks = {rest} + b.tasks) : crowd.Reaches code b' := by
  have idle : 0 + b'.tasks = {rest} + ↑(Option.map code none).toList + b.tasks := by
    rw [zero_add, same]
    rfl
  obtain ⟨n, on⟩ := covers.step goes idle
  exact ⟨[(b.clock, n)], on⟩

/-- Until it waits or ends, the task that a bench runs makes its moves in the crowd as well. -/
theorem Covers.run (code : J → Activity σ J Unit) (covers : crowd.Covers {task} b) :
    crowd.Reaches code (Bench.run code task b) := by
  induction task generalizing crowd b with
  | done a =>
      obtain ⟨state, ended, done, tasks⟩ := covers
      refine Covers.reaches ⟨state, {.done a} + ended, ?_, ?_⟩
      · intro p member
        rcases Multiset.mem_add.mp member with last | before
        · exact Multiset.mem_singleton.mp last
        · exact done p before
      · rw [Bench.run, tasks]
        ac_rfl
  | pause d next ih =>
      unfold Bench.run
      dsimp only
      split
      · exact covers.onward b rfl rfl (ih ())
      · exact covers.waits rfl (Bench.tasks_sleepers b _)
  | ask q next ih =>
      cases q with
      | act run => exact covers.onward { b with state := (run b.clock b.state).1 } rfl rfl (ih _)
      | spawn job =>
          refine covers.onward { b with ready := b.ready ++ [code job] } rfl ?_ (ih ())
          rw [Bench.tasks_ready, add_assoc]
          rfl
      | park gate => exact covers.waits rfl (Bench.tasks_parked b _)
      | wake gate =>
          refine covers.onward (b.openGate gate) rfl ?_ (ih ())
          rw [Bench.tasks_openGate]
          rfl

theorem Covers.settle (code : J → Activity σ J Unit) (turns : Nat) (covers : crowd.Covers 0 b) :
    crowd.Reaches code (Bench.settle code turns b) := by
  induction turns generalizing crowd b with
  | zero => exact covers.reaches
  | succ turns ih =>
      unfold Bench.settle
      split
      · exact covers.reaches
      · rename_i task rest ready
        have runs : crowd.Covers {task} { b with ready := rest } := by
          obtain ⟨state, ended, done, tasks⟩ := covers
          refine ⟨state, ended, done, ?_⟩
          have first : (↑(task :: rest) : Multiset (Activity σ J Unit)) = {task} + ↑rest := rfl
          rw [tasks, zero_add, Bench.tasks, Bench.tasks, ready, first]
          ac_rfl
        exact (runs.run code).trans ih

theorem Covers.of_same (covers : crowd.Covers running b) (state : b'.state = b.state)
    (tasks : b'.tasks = b.tasks) : crowd.Covers running b' := by
  obtain ⟨same, ended, done, all⟩ := covers
  exact ⟨same.trans state.symm, ended, done, tasks ▸ all⟩

theorem Covers.moveTo (code : J → Activity σ J Unit) (i : Instant) (covers : crowd.Covers 0 b) :
    crowd.Reaches code (b.moveTo code i) := by
  refine Covers.settle code _ (covers.of_same rfl ?_)
  have sleepers := Bench.coe_filter_map Sleeper.rest (fun s => decide (s.wakeAt ≤ i)) b.sleepers
  unfold Bench.tasks
  simp only [decide_not]
  rw [← sleepers, ← Multiset.coe_add]
  ac_rfl

theorem Covers.advanceWithin (code : J → Activity σ J Unit) (target : Instant) (moves : Nat)
    (covers : crowd.Covers 0 b) : crowd.Reaches code (b.advanceWithin code target moves) := by
  induction moves generalizing crowd b with
  | zero => exact covers.reaches
  | succ moves ih =>
      unfold Bench.advanceWithin
      split
      · exact covers.reaches
      · split
        · exact (covers.moveTo code _).trans ih
        · exact covers.reaches

theorem Covers.advance (code : J → Activity σ J Unit) (d : Duration) (covers : crowd.Covers 0 b) :
    crowd.Reaches code (b.advance code d) := by
  let way := min d farFuture
  have moved := covers.advanceWithin code ⟨b.clock.nanos + way.nanos⟩ (way.nanos / 1000000 + 1)
  exact moved.trans fun last => (last.of_same rfl rfl).reaches

theorem Covers.start (code : J → Activity σ J Unit) (job : J) (covers : crowd.Covers 0 b) :
    Reaches code { crowd with tasks := crowd.tasks ++ [code job] } (b.start code job) := by
  obtain ⟨state, ended, done, tasks⟩ := covers
  refine Covers.settle code _ ⟨state, ended, done, ?_⟩
  rw [Bench.tasks_ready, ← Multiset.coe_add, tasks]
  ac_rfl

end Crowd

end Leasehold

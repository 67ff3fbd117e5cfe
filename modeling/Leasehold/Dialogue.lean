import Leasehold.Time

/-!
# Dialogues

A procedure that asks questions and goes on with the answers.  `Q` is the type
of questions and `R q` the type of answers to `q`; a dialogue may also pause.
Who answers, and what passes meanwhile, is left to whoever runs the dialogue,
so one procedure runs against a scripted server as well as in a proof.
-/

set_option autoImplicit false

universe u v

namespace Leasehold

/-- A procedure with questions `Q` and their answers `R`, which ends with an `α`. -/
inductive Dialogue (Q : Type u) (R : Q → Type) (α : Type) : Type u where
  | done (a : α)
  | ask (q : Q) (next : R q → Dialogue Q R α)
  | pause (d : Duration) (next : Unit → Dialogue Q R α)

namespace Dialogue

variable {Q : Type u} {R : Q → Type} {α β : Type}

def bind : Dialogue Q R α → (α → Dialogue Q R β) → Dialogue Q R β
  | .done a, f => f a
  | .ask q next, f => .ask q fun r => (next r).bind f
  | .pause d next, f => .pause d fun u => (next u).bind f

instance : Monad (Dialogue Q R) where
  pure := .done
  bind := bind

def question (q : Q) : Dialogue Q R (R q) := .ask q .done

def through {P : Type v} {S : P → Type} (ask : (q : Q) → Dialogue P S (R q)) :
    Dialogue Q R α → Dialogue P S α
  | .done a => .done a
  | .ask q next => (ask q).bind fun r => (next r).through ask
  | .pause d next => .pause d fun u => (next u).through ask

@[simp] theorem done_bind (a : α) (f : α → Dialogue Q R β) : (done a).bind f = f a := rfl

@[simp] theorem ask_bind (q : Q) (next : R q → Dialogue Q R α) (f : α → Dialogue Q R β) :
    (ask q next).bind f = .ask q fun r => (next r).bind f := rfl

@[simp] theorem pause_bind (d : Duration) (next : Unit → Dialogue Q R α)
    (f : α → Dialogue Q R β) :
    (pause d next).bind f = .pause d fun u => (next u).bind f := rfl

theorem bind_done (p : Dialogue Q R α) : p.bind .done = p := by
  induction p with
  | done a => rfl
  | ask q next ih => simp [ih]
  | pause d next ih => simp [ih]

theorem bind_assoc {γ : Type} (p : Dialogue Q R α) (f : α → Dialogue Q R β)
    (g : β → Dialogue Q R γ) : (p.bind f).bind g = p.bind fun a => (f a).bind g := by
  induction p with
  | done a => rfl
  | ask q next ih => simp [ih]
  | pause d next ih => simp [ih]

end Dialogue

end Leasehold

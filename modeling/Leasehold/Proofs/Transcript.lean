import Leasehold.Http.Transport

/-!
# Transcripts

What a dialogue has been told so far: the questions that it asked, each with its
answer, in order, and the dialogue that is left.  Nothing is said of who answers
and how, so what holds of every transcript holds against every world.  A pause
leaves no trace.  The transcript of a sequence is one of its first part, or a
whole one of the first part and one of what follows (`reaches_bind`); an
operation under a policy is attempted again after errors that may be retried and
after nothing else (`run_reaches`).
-/

set_option autoImplicit false

universe u

namespace Leasehold

namespace Dialogue

variable {Q : Type u} {R : Q → Type} {α β : Type}

abbrev Answered (R : Q → Type) := (q : Q) × R q

/-- The answers lead a dialogue to what is left of it. -/
inductive Reaches : Dialogue Q R α → List (Answered R) → Dialogue Q R α → Prop
  | here (p : Dialogue Q R α) : Reaches p [] p
  | ask {q : Q} {r : R q} {next : R q → Dialogue Q R α} {told : List (Answered R)}
      {left : Dialogue Q R α} (later : Reaches (next r) told left) :
      Reaches (.ask q next) (⟨q, r⟩ :: told) left
  | pause {d : Duration} {next : Unit → Dialogue Q R α} {told : List (Answered R)}
      {left : Dialogue Q R α} (later : Reaches (next ()) told left) :
      Reaches (.pause d next) told left

def Open (p : Dialogue Q R α) : Prop := ∀ a, p ≠ .done a

theorem open_bind {p : Dialogue Q R α} (f : α → Dialogue Q R β) (more : p.Open) :
    (p.bind f).Open := by
  cases p with
  | done a => exact absurd rfl (more a)
  | ask q next => exact nofun
  | pause d next => exact nofun

theorem reaches_done {a : α} {told : List (Answered R)} {left : Dialogue Q R α}
    (reached : Reaches (.done a) told left) : told = [] ∧ left = .done a := by
  cases reached with
  | here => exact ⟨rfl, rfl⟩

theorem reaches_bind {p : Dialogue Q R α} {f : α → Dialogue Q R β} {told : List (Answered R)}
    {left : Dialogue Q R β} (reached : (p.bind f).Reaches told left) :
    (∃ rest, p.Reaches told rest ∧ rest.Open ∧ left = rest.bind f) ∨
      ∃ first a last,
        told = first ++ last ∧ p.Reaches first (.done a) ∧ (f a).Reaches last left := by
  induction p generalizing told with
  | done a => exact Or.inr ⟨[], a, told, rfl, .here _, reached⟩
  | ask q next ih =>
      cases reached with
      | here => exact Or.inl ⟨_, .here _, nofun, rfl⟩
      | ask later =>
          rcases ih _ later with ⟨rest, before, more, rfl⟩ | ⟨first, a, last, rfl, before, after⟩
          · exact Or.inl ⟨rest, .ask before, more, rfl⟩
          · exact Or.inr ⟨_ :: first, a, last, rfl, .ask before, after⟩
  | pause d next ih =>
      cases reached with
      | here => exact Or.inl ⟨_, .here _, nofun, rfl⟩
      | pause later =>
          rcases ih _ later with ⟨rest, before, more, rfl⟩ | ⟨first, a, last, rfl, before, after⟩
          · exact Or.inl ⟨rest, .pause before, more, rfl⟩
          · exact Or.inr ⟨first, a, last, rfl, .pause before, after⟩

theorem Reaches.bind {p : Dialogue Q R α} {f : α → Dialogue Q R β} {a : α}
    {first last : List (Answered R)} {left : Dialogue Q R β} (before : p.Reaches first (.done a))
    (after : (f a).Reaches last left) : (p.bind f).Reaches (first ++ last) left := by
  induction p generalizing first with
  | done b =>
      obtain ⟨rfl, same⟩ := reaches_done before
      cases same
      exact after
  | ask q next ih =>
      cases before with
      | ask later => exact .ask (ih _ later)
  | pause d next ih =>
      cases before with
      | pause later => exact .pause (ih _ later)

def AsksOnce (p : Dialogue Q R α) (answered : α → Answered R) : Prop :=
  ∀ told left, p.Reaches told left →
    told = [] ∧ left.Open ∨ ∃ a, told = [answered a] ∧ left = .done a

theorem asksOnce_question (q : Q) : AsksOnce (question (R := R) q) (Sigma.mk q) := by
  intro told left reached
  cases reached with
  | here => exact Or.inl ⟨rfl, nofun⟩
  | @ask _ r _ _ _ later =>
      obtain ⟨rfl, rfl⟩ := reaches_done later
      exact Or.inr ⟨r, rfl, rfl⟩

end Dialogue

namespace RetryPolicy

open Dialogue (Answered AsksOnce)

variable {Q : Type u} {R : Q → Type} {ε α : Type} {retryable : ε → Bool} {most : Nat}
  {o : Except ε α} {outcomes : List (Except ε α)}

def again (retryable : ε → Bool) : Except ε α → Bool
  | .ok _ => false
  | .error e => retryable e

/-- Outcomes of attempts, in order: there are at most so many, and behind each but the last one the
operation was attempted again. -/
structure Attempts (most : Nat) (retryable : ε → Bool) (outcomes : List (Except ε α)) : Prop where
  count : outcomes.length ≤ most
  repeated : ∀ o ∈ outcomes.dropLast, again retryable o = true

/-- The attempts end with an outcome: none is left, or this one calls for no other. -/
structure EndsWith (most : Nat) (retryable : ε → Bool) (outcomes : List (Except ε α))
    (o : Except ε α) : Prop where
  last : outcomes.getLast? = some o
  stands : outcomes.length = most ∨ again retryable o = false

theorem attempts_nil : Attempts most retryable ([] : List (Except ε α)) :=
  ⟨Nat.zero_le most, nofun⟩

theorem attempts_single : Attempts (most + 1) retryable [o] :=
  ⟨Nat.succ_le_succ (Nat.zero_le most), nofun⟩

theorem Attempts.cons (attempts : Attempts most retryable outcomes)
    (calls : again retryable o = true) : Attempts (most + 1) retryable (o :: outcomes) := by
  refine ⟨Nat.succ_le_succ attempts.count, ?_⟩
  intro p member
  cases outcomes with
  | nil => cases member
  | cons next rest =>
      rcases List.mem_cons.mp member with rfl | later
      · exact calls
      · exact attempts.repeated p later

theorem EndsWith.cons {first : Except ε α} (ends : EndsWith most retryable outcomes o) :
    EndsWith (most + 1) retryable (first :: outcomes) o := by
  refine ⟨?_, ends.stands.imp_left (congrArg Nat.succ)⟩
  rw [List.getLast?_cons, ends.last]
  rfl

theorem EndsWith.ne_nil (ends : EndsWith most retryable outcomes o) : outcomes ≠ [] := by
  rintro rfl
  cases ends.last

theorem attempt_reaches {operation : Dialogue Q R (Except ε α)}
    {answered : Except ε α → Answered R} (once : AsksOnce operation answered)
    {backoff : Duration} {left : Nat} {told : List (Answered R)}
    {rest : Dialogue Q R (Except ε α)}
    (reached : (attempt backoff retryable operation left).Reaches told rest) :
    ∃ outcomes, told = outcomes.map answered ∧ Attempts (left + 1) retryable outcomes ∧
      ∀ o, rest = .done o → EndsWith (left + 1) retryable outcomes o := by
  induction left generalizing told with
  | zero =>
      rcases once told rest reached with ⟨rfl, more⟩ | ⟨o, rfl, rfl⟩
      · exact ⟨[], rfl, attempts_nil, fun o ended => absurd ended (more o)⟩
      · refine ⟨[o], rfl, attempts_single, ?_⟩
        rintro _ ⟨⟩
        exact ⟨rfl, Or.inl rfl⟩
  | succ left ih =>
      rcases Dialogue.reaches_bind reached with
        ⟨rest, before, more, rfl⟩ | ⟨first, o, last, rfl, before, after⟩
      · rcases once told rest before with ⟨rfl, _⟩ | ⟨o, _, rfl⟩
        · exact ⟨[], rfl, attempts_nil, fun o ended => absurd ended (Dialogue.open_bind _ more o)⟩
        · exact absurd rfl (more o)
      · rcases once first (.done o) before with ⟨_, more⟩ | ⟨_, rfl, ⟨⟩⟩
        · exact absurd rfl (more o)
        · -- The first attempt has ended: with an outcome that stands, or to be repeated.
          cases o with
          | ok a =>
              obtain ⟨rfl, rfl⟩ := Dialogue.reaches_done after
              refine ⟨[.ok a], rfl, attempts_single, ?_⟩
              rintro _ ⟨⟩
              exact ⟨rfl, Or.inr rfl⟩
          | error e =>
              cases calls : retryable e with
              | false =>
                  simp only [calls] at after
                  obtain ⟨rfl, rfl⟩ := Dialogue.reaches_done after
                  refine ⟨[.error e], rfl, attempts_single, ?_⟩
                  rintro _ ⟨⟩
                  exact ⟨rfl, Or.inr calls⟩
              | true =>
                  simp only [calls, if_true] at after
                  cases after with
                  | here => exact ⟨[.error e], rfl, attempts_single, nofun⟩
                  | pause later =>
                      obtain ⟨outcomes, rfl, attempts, ends⟩ := ih later
                      exact ⟨.error e :: outcomes, rfl, attempts.cons calls,
                        fun o ended => (ends o ended).cons⟩

/-- An operation under a policy is attempted at most as often as the policy allows, again only after
an error that may be retried; it ends with the outcome of the last attempt, and not before one
stands or none is left. -/
theorem run_reaches {operation : Dialogue Q R (Except ε α)} {answered : Except ε α → Answered R}
    (once : AsksOnce operation answered) (p : RetryPolicy) {told : List (Answered R)}
    {rest : Dialogue Q R (Except ε α)} (reached : (p.run retryable operation).Reaches told rest) :
    ∃ outcomes, told = outcomes.map answered ∧ Attempts p.maxAttempts retryable outcomes ∧
      ∀ o, rest = .done o → EndsWith p.maxAttempts retryable outcomes o := by
  have some : p.maxAttempts - 1 + 1 = p.maxAttempts := Nat.sub_add_cancel (Nat.le_max_right _ 1)
  have found := attempt_reaches once reached
  rwa [some] at found

theorem attempt_open {operation : Dialogue Q R (Except ε α)} {answered : Except ε α → Answered R}
    (once : AsksOnce operation answered) {backoff : Duration} {left : Nat}
    {told : List (Answered R)} {rest : Dialogue Q R (Except ε α)}
    (reached : (attempt backoff retryable operation left).Reaches told rest) (more : rest.Open) :
    ∃ outcomes : List (Except ε α),
      told = outcomes.map answered ∧ ∀ o ∈ outcomes, again retryable o = true := by
  induction left generalizing told with
  | zero =>
      rcases once told rest reached with ⟨rfl, _⟩ | ⟨o, _, rfl⟩
      · exact ⟨[], rfl, nofun⟩
      · exact absurd rfl (more o)
  | succ left ih =>
      rcases Dialogue.reaches_bind reached with
        ⟨rest, before, still, rfl⟩ | ⟨first, o, last, rfl, before, after⟩
      · rcases once told rest before with ⟨rfl, _⟩ | ⟨o, _, rfl⟩
        · exact ⟨[], rfl, nofun⟩
        · exact absurd rfl (still o)
      · rcases once first (.done o) before with ⟨_, still⟩ | ⟨_, rfl, ⟨⟩⟩
        · exact absurd rfl (still o)
        · -- The operation goes on behind an outcome only if that calls for another attempt.
          cases o with
          | ok a => exact absurd (Dialogue.reaches_done after).2 (more _)
          | error e =>
              cases calls : retryable e with
              | false =>
                  simp only [calls] at after
                  exact absurd (Dialogue.reaches_done after).2 (more _)
              | true =>
                  simp only [calls, if_true] at after
                  cases after with
                  | here => exact ⟨[.error e], rfl, by simpa [again] using calls⟩
                  | pause later =>
                      obtain ⟨outcomes, rfl, repeated⟩ := ih later
                      exact ⟨.error e :: outcomes, rfl, by simpa [again, calls] using repeated⟩

theorem run_open {operation : Dialogue Q R (Except ε α)} {answered : Except ε α → Answered R}
    (once : AsksOnce operation answered) (p : RetryPolicy) {told : List (Answered R)}
    {rest : Dialogue Q R (Except ε α)} (reached : (p.run retryable operation).Reaches told rest)
    (more : rest.Open) :
    ∃ outcomes : List (Except ε α),
      told = outcomes.map answered ∧ ∀ o ∈ outcomes, again retryable o = true :=
  attempt_open once reached more

theorem run_succeeds {operation : Dialogue Q R (Except ε α)} (p : RetryPolicy) {a : α}
    {told : List (Answered R)} (reached : operation.Reaches told (.done (.ok a))) :
    (p.run retryable operation).Reaches told (.done (.ok a)) := by
  unfold run
  cases p.maxAttempts - 1 with
  | zero => exact reached
  | succ left =>
      have ended : (attempt p.backoff retryable operation (left + 1)).Reaches (told ++ [])
          (.done (.ok a)) := reached.bind (.here _)
      rwa [List.append_nil] at ended

end RetryPolicy

end Leasehold

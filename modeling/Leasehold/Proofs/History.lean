import Leasehold.Time

/-!
# Histories

A history is a list of events, each with the instant at which it happens.  It
is all that an outside observer decides: the order in which calls, timers and
replies reach a machine.  `after` is the state that a history leads to, `Keeps`
says that every event finds the machine as a condition demands, and
`invariant_after` carries what each step preserves to the end of a history.
Where several moments of one history are compared, an event is named by its
place: what it finds is what the events before it have led to.
-/

set_option autoImplicit false

universe u

namespace Leasehold

abbrev History (ε : Type) := List (Instant × ε)

namespace History

variable {σ : Type u} {ε : Type} (next : σ → Instant → ε → σ)

def after (s : σ) : History ε → σ
  | [] => s
  | (now, e) :: rest => after (next s now e) rest

/-- Every event of a history finds the state as a condition demands. -/
def Keeps (condition : σ → Instant → ε → Prop) (s : σ) : History ε → Prop
  | [] => True
  | (now, e) :: rest => condition s now e ∧ Keeps condition (next s now e) rest

variable {next} {condition : σ → Instant → ε → Prop}

theorem after_append (s : σ) (first last : History ε) :
    after next s (first ++ last) = after next (after next s first) last := by
  induction first generalizing s with
  | nil => rfl
  | cons event rest ih => exact ih (next s event.1 event.2)

theorem Keeps.append {s : σ} {first last : History ε} (before : Keeps next condition s first)
    (behind : Keeps next condition (after next s first) last) :
    Keeps next condition s (first ++ last) := by
  induction first generalizing s with
  | nil => exact behind
  | cons event rest ih => exact ⟨before.1, ih before.2 behind⟩

theorem invariant_after_keeping {I : σ → Prop}
    (step : ∀ s now e, I s → condition s now e → I (next s now e))
    {s : σ} {h : History ε} (start : I s) (keeps : Keeps next condition s h) :
    I (after next s h) := by
  induction h generalizing s with
  | nil => exact start
  | cons event rest ih => exact ih (step s event.1 event.2 start keeps.1) keeps.2

theorem invariant_after {I : σ → Prop} (step : ∀ s now e, I s → I (next s now e))
    {s : σ} (h : History ε) (start : I s) : I (after next s h) := by
  induction h generalizing s with
  | nil => exact start
  | cons event rest ih => exact ih (step s event.1 event.2 start)

/-! ## Places -/

variable {s : σ} {h : History ε} {i k : Nat} {now : Instant} {e : ε}

theorem lt_length_of_place (here : h[i]? = some (now, e)) : i < h.length :=
  (List.getElem?_eq_some_iff.mp here).1

theorem after_take_succ (here : h[i]? = some (now, e)) :
    after next s (h.take (i + 1)) = next (after next s (h.take i)) now e := by
  rw [List.take_add_one, here, after_append]
  rfl

/-- Between two places only the events between them count. -/
theorem after_take_of_le (s : σ) (h : History ε) (le : i ≤ k) :
    after next s (h.take k) = after next (after next s (h.take i)) ((h.take k).drop i) := by
  have cut : (h.take k).take i = h.take i := by rw [List.take_take, Nat.min_eq_left le]
  rw [← after_append, ← cut, List.take_append_drop]

theorem invariant_later {I : σ → Prop} (step : ∀ s now e, I s → I (next s now e)) (le : i ≤ k)
    (held : I (after next s (h.take i))) : I (after next s (h.take k)) := by
  rw [after_take_of_le s h le]
  exact invariant_after step _ held

theorem Keeps.at_place (keeps : Keeps next condition s h) (here : h[i]? = some (now, e)) :
    condition (after next s (h.take i)) now e := by
  induction h generalizing s i with
  | nil => cases here
  | cons event rest ih =>
      cases i with
      | zero =>
          cases here
          exact keeps.1
      | succ i => exact ih keeps.2 here

theorem keeps_of_places (holds : ∀ i now e, h[i]? = some (now, e) →
    condition (after next s (h.take i)) now e) : Keeps next condition s h := by
  induction h generalizing s with
  | nil => trivial
  | cons event rest ih =>
      exact ⟨holds 0 event.1 event.2 rfl, ih fun i now e here => holds (i + 1) now e here⟩

theorem invariant_between {I : σ → Prop}
    (step : ∀ s now e, I s → condition s now e → I (next s now e))
    (keeps : Keeps next condition s h) (le : i ≤ k) (held : I (after next s (h.take i))) :
    I (after next s (h.take k)) := by
  induction le with
  | refl => exact held
  | @step k _ ih =>
      cases here : h[k]? with
      | none =>
          rwa [List.take_add_one, here, Option.toList_none, List.append_nil]
      | some event =>
          rw [after_take_succ here]
          exact step _ event.1 event.2 ih (keeps.at_place here)

/-- What holds at one place, and between that and a later one passes from each place to the next,
holds at the later one. -/
theorem holds_between {P : Nat → Prop} (le : i ≤ k) (within : k ≤ h.length) (start : P i)
    (step : ∀ p now e, i ≤ p → p < k → h[p]? = some (now, e) → P p → P (p + 1)) : P k := by
  induction le with
  | refl => exact start
  | @step k after ih =>
      have here : h[k]? = some (h[k].1, h[k].2) := List.getElem?_eq_getElem within
      have held : P k := by
        refine ih (Nat.le_of_lt within) ?_
        exact fun p now e first last => step p now e first (Nat.lt_succ_of_lt last)
      exact step k _ _ after (Nat.lt_succ_self k) here held

/-- What holds at the first place, and at each place if it holds at the one before, holds at every
place. -/
theorem holds_at {P : Nat → Prop} (start : P 0)
    (step : ∀ i now e, h[i]? = some (now, e) → P i → P (i + 1)) : ∀ m ≤ h.length, P m :=
  fun m le => holds_between (Nat.zero_le m) le start fun p now e _ _ => step p now e

/-! ## The clock -/

/-- Time does not go back. -/
def InOrder (h : History ε) : Prop := h.Pairwise fun first last => first.1 ≤ last.1

theorem InOrder.le {later : Instant} {e' : ε} (ordered : InOrder h) (le : i ≤ k)
    (here : h[i]? = some (now, e)) (there : h[k]? = some (later, e')) : now ≤ later := by
  rcases Nat.lt_or_eq_of_le le with before | rfl
  · obtain ⟨first, same⟩ := List.getElem?_eq_some_iff.mp here
    obtain ⟨last, other⟩ := List.getElem?_eq_some_iff.mp there
    have instants := List.pairwise_iff_getElem.mp ordered i k first last before
    rwa [same, other] at instants
  · cases here.symm.trans there
    exact Nat.le_refl _

instance (h : History ε) : Decidable h.InOrder :=
  inferInstanceAs (Decidable (List.Pairwise _ h))

end History

end Leasehold

import Leasehold.Time

/-!
# Validity

How long a token or a lease stays valid after it was issued, and when a renewal
counts as exhausted: it grants nothing, or it ends before the validity it was
meant to extend.
-/

set_option autoImplicit false

namespace Leasehold

inductive Validity where
  | finite (d : Duration)
  | infinite
  deriving DecidableEq, Repr, Inhabited

namespace Validity

/-- A time to live in seconds as the server reports it, where zero means "does not expire". -/
def ofTtlSecs (secs : Nat) : Validity :=
  if secs = 0 then .infinite else .finite (.ofSecs secs)

def duration? : Validity → Option Duration
  | .finite d => some d
  | .infinite => none

def isInfinite : Validity → Bool
  | .finite _ => false
  | .infinite => true

def expiry (v : Validity) (issued : Instant) : Except InstantOverflow (Option Instant) :=
  match v with
  | .finite d => (issued.plus d).map some
  | .infinite => .ok none

theorem expiry_eq_none_iff {v : Validity} {issued : Instant} {last : Option Instant}
    (ends : v.expiry issued = .ok last) : last = none ↔ v = .infinite := by
  cases v with
  | infinite =>
      cases ends
      exact ⟨fun _ => rfl, fun _ => rfl⟩
  | finite d =>
      have sum : (issued.plus d).map some = .ok last := ends
      cases ending : issued.plus d with
      | error beyond =>
          rw [ending] at sum
          cases sum
      | ok instant =>
          rw [ending] at sum
          cases sum
          exact ⟨nofun, nofun⟩

def elapsed (v : Validity) (issued now : Instant) : Except InstantOverflow Bool := do
  match ← v.expiry issued with
  | some e => return decide (e ≤ now)
  | none => return false

theorem elapsed_eq_false_iff {v : Validity} {issued now : Instant} :
    v.elapsed issued now = .ok false ↔
      ∃ last, v.expiry issued = .ok last ∧ ∀ i, last = some i → now < i := by
  unfold elapsed
  cases v.expiry issued with
  | error beyond => exact ⟨nofun, nofun⟩
  | ok last =>
      cases last with
      | none => exact ⟨fun _ => ⟨none, rfl, nofun⟩, fun _ => rfl⟩
      | some i =>
          have reached : (i ≤ now ↔ ¬ now < i) := by
            rw [Instant.le_iff, Instant.lt_iff, Nat.not_lt]
          constructor
          · intro lasting
            have early : ¬ i ≤ now := of_decide_eq_false (Except.ok.inj lasting)
            refine ⟨some i, rfl, ?_⟩
            rintro _ ⟨⟩
            exact Decidable.not_not.mp fun late => early (reached.mpr late)
          · rintro ⟨_, ⟨⟩, early⟩
            exact congrArg Except.ok (decide_eq_false fun late => reached.mp late (early i rfl))

/-- Whether a grant of `v` at `renewedAt` failed to extend a validity that ends at `previous`. -/
def exhausted (v : Validity) (renewedAt : Instant) (previous : Option Instant) :
    Except InstantOverflow Bool :=
  match v, previous with
  | .infinite, _ => .ok false
  | .finite granted, previous =>
      if granted.isZero then
        .ok true
      else
        match previous with
        | none => .ok false
        | some p => (renewedAt.plus granted).map (fun e => decide (e < p))

theorem exhausted_iff {v : Validity} {renewedAt : Instant} {previous : Option Instant}
    {spent : Bool} (compared : v.exhausted renewedAt previous = .ok spent) :
    spent = true ↔ v = .finite .zero ∨ ∃ last, previous = some last ∧
      ∃ ending, v.expiry renewedAt = .ok (some ending) ∧ ending < last := by
  cases v with
  | infinite =>
      cases compared
      simp [expiry]
  | finite granted =>
      unfold exhausted at compared
      by_cases nothing : granted = .zero
      · subst nothing
        cases compared
        simp
      · have something : granted.isZero = false := by
          cases granted
          simpa [Duration.isZero, Duration.zero] using nothing
        dsimp only at compared
        rw [something, if_neg Bool.false_ne_true] at compared
        cases previous with
        | none =>
            cases compared
            simp [nothing]
        | some last =>
            cases sum : renewedAt.plus granted with
            | error beyond =>
                rw [sum] at compared
                cases compared
            | ok ending =>
                rw [sum] at compared
                cases compared
                simp [expiry, nothing, sum, Except.map]

theorem lasts_of_gain {v : Validity} {renewedAt previous : Instant}
    (gain : v.exhausted renewedAt (some previous) = .ok false) :
    ∃ last, v.expiry renewedAt = .ok last ∧ ∀ i, last = some i → previous ≤ i := by
  have known : ∃ last, v.expiry renewedAt = .ok last := by
    cases v with
    | infinite => exact ⟨none, rfl⟩
    | finite granted =>
        unfold exhausted at gain
        unfold expiry
        dsimp only at gain ⊢
        cases sum : renewedAt.plus granted with
        | ok last => exact ⟨some last, rfl⟩
        | error beyond =>
            rw [sum] at gain
            split at gain <;> cases gain
  obtain ⟨last, ends⟩ := known
  refine ⟨last, ends, ?_⟩
  rintro i rfl
  apply Nat.le_of_not_lt
  intro sooner
  cases (exhausted_iff gain).mpr (Or.inr ⟨previous, rfl, i, ends, sooner⟩)

end Validity

end Leasehold

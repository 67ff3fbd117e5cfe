import Leasehold.Proofs.Session.Overtaking
import Leasehold.Proofs.Session.Provenance

/-!
# Tokens that callers get

A caller gets the token in place while it is usable, or the token of its own
login at the moment at which that ends (`Returns.served`).  Since serials are
not given twice, a token that has been replaced is never handed out again
(`serves_current`).
-/

set_option autoImplicit false

namespace Leasehold.Session.Renewing

variable {s : Renewing} {window : RenewalWindow} {h : History Event} {now : Instant} {e : Event}
  {i k l m id : Nat} {t : TokenInstance}

/-! ## What a caller gets -/

/-- An event that hands out a token either hands out the usable one, which it leaves in place, or
takes in the reply to the login of the caller. -/
theorem step_returns (returned : e.returns? (s.step now e).result = some (id, .ok t)) :
    (s.usable now = .ok (some t) ∧ (s.next now e).token = s.token) ∨
      e.replies? = some (.callerLogin id, .ok t.token) ∧ t.serial = s.serials ∧
        (s.next now e).serials = s.serials + 1 := by
  cases e with
  | begin demand =>
      change Event.returns? (.begin demand) (s.begin now demand).result = _ at returned
      change _ ∧ (s.begin now demand).session.token = _ ∨ _
      have begun := begin_begun s now demand
      generalize (s.begin now demand).result = answer at *
      generalize (s.begin now demand).session = after at *
      cases begun with
      | answered result _ same serves =>
          cases returned
          refine Or.inl ⟨serves t rfl, ?_⟩
          rcases same with rfl | rfl <;> rfl
      | queued => cases returned
      | admitted => cases returned
  | attempt caller =>
      change Event.returns? (.attempt caller) (s.attempt now caller).result = _ at returned
      change _ ∧ (s.attempt now caller).session.token = _ ∨ _
      have resumed := attempt_resumed s now caller
      generalize (s.attempt now caller).result = answer at *
      generalize (s.attempt now caller).session = after at *
      cases resumed with
      | answered result serves =>
          cases returned
          exact Or.inl ⟨serves t rfl, rfl⟩
      | login => cases returned
  | loginReply caller reply =>
      obtain ⟨rfl, ok⟩ := Prod.mk.inj (Option.some.inj returned)
      obtain ⟨rfl, serial, more⟩ := loginReply_returns ok
      exact Or.inr ⟨rfl, serial, more⟩
  | _ => cases returned

theorem Returns.served (returned : Returns s h m now id (.ok t)) :
    ((s.found h m).usable now = .ok (some t) ∧
      (s.found h (m + 1)).token = (s.found h m).token) ∨
      Obtains s h m (.callerLogin id) t := by
  obtain ⟨e, here, result⟩ := returned
  rcases step_returns result with ⟨usable, same⟩ | ⟨replies, serial, more⟩
  · refine Or.inl ⟨usable, ?_⟩
    rwa [found_succ here]
  · refine Or.inr ⟨now, e, here, replies, serial, ?_⟩
    rwa [found_succ here]

/-! ## Who makes a call -/

theorem caller_began (awaited : Awaited { window } h) (le : i ≤ h.length)
    (counted : id < (found { window } h i).callers) : ∃ l < i, Begins { window } h l id := by
  refine History.holds_at (P := fun i => id < (found { window } h i).callers →
    ∃ l < i, Begins { window } h l id) nofun ?_ i le counted
  intro i now e here began counted
  rw [found_succ here] at counted
  have older (before : id < (found { window } h i).callers) :
      ∃ l < i + 1, Begins { window } h l id := by
    obtain ⟨l, earlier, begins⟩ := began before
    exact ⟨l, Nat.lt_succ_of_lt earlier, begins⟩
  rcases ((step_effect _ now e).moves (awaited.at_place here)).callers with
    same | ⟨⟨demand, rfl⟩, more⟩
  · exact older (same ▸ counted)
  · rw [more] at counted
    rcases Nat.lt_succ_iff_lt_or_eq.mp counted with before | rfl
    · exact older before
    · exact ⟨i, Nat.lt_succ_self i, now, _, here, congrArg some (begin_number _ now demand)⟩

/-- A login is the caller's own: the call of the caller began when the login did, or before. -/
theorem Opens.caller_began (awaited : Awaited { window } h)
    (opens : Opens { window } h i (.callerLogin id)) : ∃ l ≤ i, Begins { window } h l id := by
  have made := Starts.made (r := .callerLogin id) awaited opens
  obtain ⟨now, e, here, _⟩ := opens
  obtain ⟨l, earlier, begins⟩ :=
    Renewing.caller_began awaited (History.lt_length_of_place here) made.1
  exact ⟨l, Nat.le_of_lt_succ earlier, begins⟩

theorem Begins.number (begins : Begins s h l id) : (s.found h l).callers = id := by
  obtain ⟨now, e, here, number⟩ := begins
  cases e with
  | begin demand => exact (begin_number _ now demand).symm.trans (Option.some.inj number)
  | _ => cases number

theorem Returns.counted {result : Outcome TokenInstance} (awaited : Awaited { window } h)
    (returned : Returns { window } h m now id result) :
    id < (found { window } h (m + 1)).callers := by
  obtain ⟨e, here, result⟩ := returned
  have line := inLine_found awaited m
  have awaits := awaited.at_place here
  have counted := callers_le_found awaited (Nat.le_succ m)
  cases e with
  | begin demand =>
      rw [found_succ here]
      change Event.returns? (.begin demand) ((found { window } h m).begin now demand).result = _
        at result
      change _ < ((found { window } h m).begin now demand).session.callers
      have begun := begin_begun (found { window } h m) now demand
      generalize ((found { window } h m).begin now demand).result = answer at *
      generalize ((found { window } h m).begin now demand).session = after at *
      cases begun with
      | answered result _ same =>
          cases result
          rcases same with rfl | rfl <;> exact Nat.lt_succ_self _
      | queued => cases result
      | admitted => cases result
  | attempt caller =>
      have same : caller = id := by
        change Event.returns? (.attempt caller)
          ((found { window } h m).attempt now caller).result = _ at result
        generalize ((found { window } h m).attempt now caller).result = answer at *
        cases answer with
        | answered outcome => exact (Prod.mk.inj (Option.some.inj result)).1
        | login => cases result
      subst same
      exact Nat.lt_of_lt_of_le (line.below _ awaits) counted
  | loginReply caller reply =>
      obtain ⟨rfl, _⟩ := Prod.mk.inj (Option.some.inj result)
      obtain ⟨generation, there⟩ := awaits
      exact Nat.lt_of_lt_of_le (line.below _ there) counted
  | _ => cases result

/-! ## Tokens in place -/

/-- A token that was in place at two places was in place between them. -/
theorem token_between (le : k ≤ l) (le' : l ≤ m) (first : (found { window } h k).token = some t)
    (last : (found { window } h m).token = some t) : (found { window } h l).token = some t := by
  refine Decidable.byContradiction fun gone => ?_
  have below := Nat.lt_of_lt_of_le ((numbering_found window h k).token_lt t first)
    (serials_le_found { window } h le)
  exact token_gone_found le' below gone last

/-- Whatever a caller gets is the token in place, and it has not expired, or the token of a login
that the caller has made itself and that ends at this moment; and it has not been replaced by any
event before. -/
theorem serves_current (window : RenewalWindow) (h : History Event)
    (awaited : Awaited { window } h) (m id : Nat) (now : Instant) (t : TokenInstance)
    (returned : Returns { window } h m now id (.ok t)) :
    (((found { window } h m).token = some t ∧ (found { window } h (m + 1)).token = some t ∧
        ∃ expiry, t.token.expiry = .ok expiry ∧ ∀ last, expiry = some last → now < last) ∨
      ∃ l i, l ≤ i ∧ i < m ∧ Begins { window } h l id ∧
        Opens { window } h i (.callerLogin id) ∧ Obtains { window } h m (.callerLogin id) t) ∧
    ∀ k < m, (found { window } h k).token = some t →
      (found { window } h (k + 1)).token = some t := by
  rcases returned.served with ⟨usable, same⟩ | obtains
  · obtain ⟨installed, lasting⟩ := usable_eq_some usable
    refine ⟨Or.inl ⟨installed, same.trans installed, ?_⟩, ?_⟩
    · exact Validity.elapsed_eq_false_iff.mp lasting
    · intro k earlier first
      exact token_between (Nat.le_succ k) earlier first installed
  · refine ⟨Or.inr ?_, ?_⟩
    · obtain ⟨i, earlier, opens⟩ := obtains.opened awaited
      obtain ⟨l, first, begins⟩ := opens.caller_began awaited
      exact ⟨l, i, first, earlier, begins, opens, obtains⟩
    · -- A new token has not been in place before.
      intro k earlier first
      obtain ⟨_, _, _, _, serial, _⟩ := obtains
      have below := (numbering_found window h k).token_lt t first
      have later := serials_le_found { window } h (Nat.le_of_lt earlier)
      omega

/-- The second caller waits for the login of the first, and the third comes after a renewal. -/
def renewedAt31 : History Event :=
  [(⟨0⟩, .begin .token), (⟨0⟩, .begin .current),
    (⟨0⟩, .loginReply 0 (.ok (minute "first" 0))), (⟨0⟩, .attempt 1), (⟨30000000000⟩, .ring 0),
    (⟨31000000000⟩, .renewalReply 0 (.ok (minute "renewed" 31))),
    (⟨32000000000⟩, .begin .current)]

theorem awaited_renewedAt31 : Awaited { window := halfMinute } renewedAt31 :=
  ⟨trivial, trivial, ⟨0, List.mem_cons_self⟩, List.mem_cons_self, trivial,
    ⟨_, List.mem_cons_self, rfl⟩, trivial, trivial⟩

theorem serves_current_renewedAt31 :
    let found := found { window := halfMinute } renewedAt31
    let renewed : TokenInstance := ⟨1, minute "renewed" 31⟩
    (((found 6).token = some renewed ∧ (found 7).token = some renewed ∧
        ∃ expiry, renewed.token.expiry = .ok expiry ∧
          ∀ last, expiry = some last → (⟨32000000000⟩ : Instant) < last) ∨
      ∃ l i, l ≤ i ∧ i < 6 ∧ Begins { window := halfMinute } renewedAt31 l 2 ∧
        Opens { window := halfMinute } renewedAt31 i (.callerLogin 2) ∧
        Obtains { window := halfMinute } renewedAt31 6 (.callerLogin 2) renewed) ∧
    ∀ k < 6, (found k).token = some renewed → (found (k + 1)).token = some renewed :=
  serves_current halfMinute renewedAt31 awaited_renewedAt31 6 2 ⟨32000000000⟩ _
    ⟨.begin .current, rfl, rfl⟩

end Leasehold.Session.Renewing

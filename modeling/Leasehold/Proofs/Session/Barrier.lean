import Leasehold.Proofs.Session.Serving

/-!
# Invalidation as a barrier

While fewer invalidations happen than there are generations, the generations
before and after an invalidation differ (`generation_apart`).  So nothing that
was begun before it puts a token in place after it (`Obtains.barred`), and
callers that come after it get only what was begun after it as well
(`invalidation_bars`).
-/

set_option autoImplicit false

namespace Leasehold.Session.Renewing

variable {s : Renewing} {window : RenewalWindow} {h : History Event} {now then_ : Instant}
  {r : Request} {i j k l m p id : Nat} {t : TokenInstance}

/-! ## Generations -/

theorem invalidations_between (invalidated : h[j]? = some (then_, .invalidate)) (le : p ≤ j)
    (lt : j < k) : 0 < invalidations ((h.take k).drop p) := by
  have place : ((h.take k).drop p)[j - p]? = some (then_, .invalidate) := by
    rw [List.getElem?_drop, Nat.add_sub_cancel' le, List.getElem?_take_of_lt lt]
    exact invalidated
  exact List.countP_pos_iff.mpr ⟨_, List.mem_of_getElem? place, rfl⟩

theorem invalidations_le (h : History Event) (p k : Nat) :
    invalidations ((h.take k).drop p) ≤ invalidations h :=
  ((List.drop_sublist p _).trans (List.take_sublist k h)).countP_le

theorem generation_apart (few : invalidations h < UInt64.size)
    (invalidated : h[j]? = some (then_, .invalidate)) (le : p ≤ j) (lt : j < k) :
    (s.found h k).generation ≠ (s.found h p).generation := by
  rw [found_run s h (Nat.le_of_lt (Nat.lt_of_le_of_lt le lt)), generation_run]
  intro same
  have whole := Nat.le_of_dvd (invalidations_between invalidated le lt)
    ((add_ofNat_eq_self_iff _ _).mp same)
  have part := invalidations_le h p k
  omega

/-! ## Requests from before -/

theorem token_invalidated (invalidated : h[j]? = some (then_, .invalidate)) :
    (s.found h (j + 1)).token = none := by
  rw [found_succ invalidated]
  rfl

/-- The token of a request that was begun before an invalidation is not in place at any place
after it. -/
theorem Obtains.barred (awaited : Awaited { window } h) (few : invalidations h < UInt64.size)
    (invalidated : h[j]? = some (then_, .invalidate)) (older : p ≤ j) (earlier : i ≤ j)
    (made : Made (found { window } h (i + 1)) (found { window } h p).generation r)
    (obtains : Obtains { window } h k r t) (later : j < m) :
    (found { window } h m).token ≠ some t := by
  obtain ⟨now, e, here, replies, serial, more⟩ := obtains
  have fresh : (found { window } h k).token ≠ some t := by
    intro installed
    exact Nat.ne_of_lt ((numbering_found window h k).token_lt t installed) serial
  by_cases before : k ≤ j
  · -- The invalidation takes the token away.
    have counted : (found { window } h (k + 1)).serials ≤ (found { window } h (j + 1)).serials :=
      serials_le_found { window } h (Nat.succ_le_succ before)
    refine token_gone_found (i := j + 1) later (by omega) ?_
    rw [token_invalidated invalidated]
    exact nofun
  · -- The reply comes in another generation.
    have lt : j < k := Nat.lt_of_not_le before
    have still := made_found awaited (Nat.succ_le_of_lt (Nat.lt_of_le_of_lt earlier lt)) made
    have kept : (found { window } h (k + 1)).token = (found { window } h k).token := by
      rw [found_succ here]
      rcases (step_effect _ now e).token_or_generation replies still with same | same
      · exact same
      · exact absurd same (generation_apart few invalidated older lt)
    by_cases le : k + 1 ≤ m
    · refine token_gone_found le (by omega) ?_
      rwa [kept]
    · intro installed
      have below := (numbering_found window h m).token_lt t installed
      have counted := serials_le_found { window } h (Nat.le_of_lt_succ (Nat.lt_of_not_le le))
      omega

/-! ## Callers from after -/

/-- A caller that begins after an invalidation is returned a token only if a request obtained it
that opened after the invalidation too, as part of a login or of a cycle that began after it; and
nothing that was begun before obtained it. -/
theorem invalidation_bars (window : RenewalWindow) (h : History Event)
    (awaited : Awaited { window } h) (few : invalidations h < UInt64.size) (j l m id : Nat)
    (then_ now : Instant) (t : TokenInstance) (invalidated : h[j]? = some (then_, .invalidate))
    (later : j < l) (begins : Begins { window } h l id)
    (returned : Returns { window } h m now id (.ok t)) :
    (∃ p i k r, j < p ∧ p ≤ i ∧ i < k ∧ k ≤ m ∧ Starts { window } h p r ∧
      Opens { window } h i r ∧ Obtains { window } h k r t) ∧
    ∀ i k r, Starts { window } h i r ∨ Opens { window } h i r → Obtains { window } h k r t →
      j < i := by
  have number := begins.number
  have after : l ≤ m := by
    refine Nat.le_of_not_lt fun before => ?_
    have counted := returned.counted awaited
    have fewer : (found { window } h (m + 1)).callers ≤ (found { window } h l).callers :=
      callers_le_found awaited before
    omega
  have bars : ∀ i k r, Starts { window } h i r ∨ Opens { window } h i r →
      Obtains { window } h k r t → j < i := by
    intro i k r begun obtains
    refine Nat.lt_of_not_le fun earlier => ?_
    have made : ∃ p ≤ j, Made (found { window } h (i + 1)) (found { window } h p).generation r := by
      rcases begun with starts | opens
      · exact ⟨i, earlier, starts.made awaited⟩
      · obtain ⟨p, older, _, made⟩ := opens.started awaited
        exact ⟨p, Nat.le_trans older earlier, made⟩
    obtain ⟨p, older, made⟩ := made
    rcases returned.served with ⟨usable, _⟩ | own
    · have lt : j < m := Nat.lt_of_lt_of_le later after
      exact obtains.barred awaited few invalidated older earlier made lt (usable_eq_some usable).1
    · obtain ⟨rfl, rfl⟩ := obtains.unique own
      have counted : (found { window } h (i + 1)).callers ≤ (found { window } h l).callers :=
        callers_le_found awaited (Nat.lt_of_le_of_lt earlier later)
      have below : id < (found { window } h (i + 1)).callers := made.1
      omega
  refine ⟨?_, bars⟩
  have obtained : ∃ k ≤ m, ∃ r, Obtains { window } h k r t := by
    rcases returned.served with ⟨usable, _⟩ | own
    · obtain ⟨e, here, _⟩ := returned
      obtain ⟨k, before, r, obtains⟩ :=
        token_obtained (Nat.le_of_lt (History.lt_length_of_place here)) (usable_eq_some usable).1
      exact ⟨k, Nat.le_of_lt before, r, obtains⟩
    · exact ⟨m, Nat.le_refl m, _, own⟩
  obtain ⟨k, before, r, obtains⟩ := obtained
  obtain ⟨i, earlier, opens⟩ := obtains.opened awaited
  obtain ⟨p, first, starts, _⟩ := opens.started awaited
  exact ⟨p, i, k, r, bars p k r (Or.inl starts) obtains, first, earlier, before, starts, opens,
    obtains⟩

/-- The session is invalidated while a caller logs in, and the next one waits for it. -/
def invalidatedAt1 : History Event :=
  [(⟨0⟩, .begin .token), (⟨1000000000⟩, .invalidate), (⟨1000000000⟩, .begin .current),
    (⟨2000000000⟩, .loginReply 0 (.ok (minute "old" 2))), (⟨2000000000⟩, .attempt 1),
    (⟨3000000000⟩, .loginReply 1 (.ok (minute "new" 3)))]

theorem awaited_invalidatedAt1 : Awaited { window := halfMinute } invalidatedAt1 :=
  ⟨trivial, trivial, trivial, ⟨0, List.mem_cons_self⟩, List.mem_cons_self,
    ⟨1, List.mem_cons_self⟩, trivial⟩

theorem invalidation_bars_invalidatedAt1 :
    let s : Renewing := { window := halfMinute }
    let h := invalidatedAt1
    let new : TokenInstance := ⟨1, minute "new" 3⟩
    (∃ p i k r, 1 < p ∧ p ≤ i ∧ i < k ∧ k ≤ 5 ∧ Starts s h p r ∧ Opens s h i r ∧
      Obtains s h k r new) ∧
    ∀ i k r, Starts s h i r ∨ Opens s h i r → Obtains s h k r new → 1 < i :=
  invalidation_bars halfMinute invalidatedAt1 awaited_invalidatedAt1 (by decide) 1 2 5 1
    ⟨1000000000⟩ ⟨3000000000⟩ _ rfl (by decide) ⟨_, _, rfl, rfl⟩ ⟨_, rfl, rfl⟩

end Leasehold.Session.Renewing

import Leasehold.Proofs.Session.Overlap
import Leasehold.Proofs.Session.Upkeep

/-!
# Tokens that never expire

No renewal is set for a token without an end when it is put in place.  A cycle
that fails does set the next one without a look at the token in place, and this
is the only way in which such a token comes to be renewed (`needless_iff`).  A
caller must have logged in while a cycle was in flight for that.
-/

set_option autoImplicit false

namespace Leasehold.Session.Renewing

variable {s s' : Renewing} {window : RenewalWindow} {h : History Event} {now : Instant} {e : Event}
  {i n : Nat}

/-- A renewal is set although the token in place never expires. -/
def Needless (s : Renewing) : Prop :=
  ∃ t, s.token = some t ∧ t.token.validity = .infinite ∧ s.timers.items ≠ []

def RenewsEndless (s : Renewing) (h : History Event) (i : Nat) : Prop :=
  ∃ n t, Rings s h i n ∧ (s.found h i).token = some t ∧ t.token.validity = .infinite

/-- At a place of a history a cycle that is to renew a token which expires fails, and counts, while
a token that never expires is in place. -/
def FailsOver (s : Renewing) (h : History Event) (i : Nat) : Prop :=
  ∃ now n error c t, h[i]? = some (now, .cycleLoginReply n (.error error)) ∧
    (s.found h i).cycles.find? n = some c ∧ (s.found h i).Counts c ∧
    c.start.token.validity ≠ .infinite ∧ (s.found h i).token = some t ∧
    t.token.validity = .infinite

/-! ## Events -/

theorem renew_spares (now : Instant) (t : Token) (floor : Duration) (sole : Sole s.timers s.slot) :
    ¬ Needless (s.renew now t floor) := by
  rintro ⟨new, installed, endless, set⟩
  obtain ⟨timers, slot, same, _⟩ := renew_spec s now t floor
  have placed : new = ⟨s.serials, t⟩ := by
    rw [same] at installed
    exact (Option.some.inj installed).symm
  subst placed
  have planned : s.window.delay t.issued t.validity now = .ok none := by
    rw [show t.validity = .infinite from endless]
    rfl
  refine set ?_
  unfold renew install takeIn
  dsimp only
  rw [planned]
  exact sole.cancel

theorem Needless.of_start {task : Nat} (needless : Needless (s.start task)) : Needless s := by
  obtain ⟨t, installed, endless, set⟩ := needless
  refine ⟨t, installed, endless, fun idle => set ?_⟩
  change s.timers.items.filter _ = []
  rw [idle]
  rfl

theorem Cycle.login_of_error {c : Cycle} {error : VaultError} (answers : e.cycle? = some n)
    (ends : c.outcome? e = some (.error error)) : e = .cycleLoginReply n (.error error) := by
  cases e with
  | cycleLoginReply m reply =>
      cases answers
      cases ends
      rfl
  | renewalReply m reply =>
      cases reply with
      | error error => cases ends
      | ok token =>
          simp only [Cycle.outcome?] at ends
          split at ends
          · cases ends
          · cases ends
  | _ => cases answers

/-- Only a cycle that fails sets a renewal of a token that never expires. -/
theorem Effect.needless (effect : Effect s now e s') (sole : Sole s.timers s.slot)
    (needless : Needless s') :
    Needless s ∨ ∃ n error c t, e = .cycleLoginReply n (.error error) ∧
      s.cycles.find? n = some c ∧ s.Counts c ∧ s.token = some t ∧
      t.token.validity = .infinite := by
  cases effect with
  | unheard _ _ | answered _ | told _ | queued _ | admitted _ | gone _ | refused _ _ | resumed _
  | outdated _ _ | turned _ _ _ | broken _ _ _ => exact Or.inl needless
  | loggedIn id token => exact absurd needless (renew_spares (s := s.countLogin) now _ _ sole)
  | missed task => exact Or.inl needless.of_start
  | began task start => exact Or.inl (Needless.of_start (s := s) needless)
  | discarded e id c outcome =>
      obtain ⟨tally, same⟩ := discarded_spec s e id
      rw [same] at needless
      exact Or.inl needless
  | renewed e id c token =>
      obtain ⟨tally, counted⟩ := counted_spec s e
      rw [counted] at needless
      have still : Sole ({ s with tally }.endCycle id).timers ({ s with tally }.endCycle id).slot :=
        sole
      exact absurd needless (renew_spares now _ _ still)
  | failed e id c error answers found ends counts =>
      obtain ⟨t, installed, endless, _⟩ := needless
      obtain ⟨_, _, _, same, _⟩ := failed_spec s now e id error
      rw [same] at installed
      exact Or.inr ⟨id, error, c, t, Cycle.login_of_error answers ends, found, counts, installed,
        endless⟩
  | invalidated =>
      obtain ⟨_, installed, _⟩ := needless
      cases installed
  | shutdown =>
      obtain ⟨_, installed, _⟩ := needless
      cases installed

theorem fails_needless {error : VaultError} {c : Cycle} {t : TokenInstance}
    (numbering : Numbering s) (found : s.cycles.find? n = some c) (counts : s.Counts c)
    (installed : s.token = some t) (endless : t.token.validity = .infinite) :
    Needless (s.next now (.cycleLoginReply n (.error error))) := by
  have effect := step_effect s now (.cycleLoginReply n (.error error))
  generalize s.next now (.cycleLoginReply n (.error error)) = after at *
  cases effect with
  | unheard _ id answers unknown =>
      cases answers
      cases found.symm.trans unknown
  | discarded _ id d outcome answers other ends stale =>
      cases answers
      cases found.symm.trans other
      exact absurd counts stale
  | renewed _ id d token answers other ends => cases ends
  | failed _ id d other answers found' ends =>
      cases ends
      obtain ⟨_, _, _, same, _⟩ :=
        failed_spec s now (.cycleLoginReply n (.error error)) id error
      have live : ((s.endCycle id).fail now error).timers.items ≠ [] :=
        fail_live (s := s.endCycle id) numbering.slot_lt counts.1 error
      refine ⟨t, ?_, endless, live⟩
      rw [same]
      exact installed

/-- While one cycle is in flight, no event but the login of a caller puts a token in place. -/
theorem Effect.token_kept (effect : Effect s now e s')
    (only : ∀ m d, (m, d) ∈ s.cycles.items → m = n) (stays : ∃ d, (n, d) ∈ s'.cycles.items) :
    s'.token = s.token ∨ s'.token = none ∨ ∃ id t, e = .loginReply id (.ok t) ∧
      s'.token = some ⟨s.serials, t⟩ ∧ s'.serials = s.serials + 1 := by
  cases effect with
  | loggedIn id t =>
      obtain ⟨_, _, same, _⟩ := renew_spec s.countLogin now t .zero
      refine Or.inr (Or.inr ⟨id, t, rfl, ?_, ?_⟩)
      · rw [same]
        rfl
      · rw [same]
        rfl
  | renewed e id d t answers found =>
      obtain ⟨_, _, _, same, _⟩ := renewed_spec s now e id t
      obtain ⟨b, there⟩ := stays
      rw [same] at there
      have one := only id d (Numbered.find?_eq_some_iff.mp found)
      exact absurd one.symm (Numbered.mem_remove.mp there).2
  | discarded e id d outcome =>
      obtain ⟨_, same⟩ := discarded_spec s e id
      rw [same]
      exact Or.inl rfl
  | failed e id d error =>
      obtain ⟨_, _, _, same, _⟩ := failed_spec s now e id error
      rw [same]
      exact Or.inl rfl
  | invalidated | shutdown => exact Or.inr (Or.inl rfl)
  | _ => exact Or.inl rfl

/-! ## Every history -/

theorem RenewsEndless.needless
    (live : History.Keeps next (fun s _ e => s.StartsLiveTask e) { window } h)
    (renews : RenewsEndless { window } h i) : Needless (found { window } h i) := by
  obtain ⟨n, t, ⟨now, task, call, here, _⟩, installed, endless⟩ := renews
  obtain ⟨work, there⟩ := Numbered.holds_iff.mp (live.at_place here)
  exact ⟨t, installed, endless, List.ne_nil_of_mem there⟩

theorem spared_found (live : History.Keeps next (fun s _ e => s.StartsLiveTask e) { window } h)
    (never : ∀ i, ¬ FailsOver { window } h i) :
    ∀ i ≤ h.length, ∀ j ≤ i, ¬ Needless (found { window } h j) := by
  refine History.holds_at (P := fun i => ∀ j ≤ i, ¬ Needless (found { window } h j)) ?_ ?_
  · rintro j first ⟨t, installed, _⟩
    rw [Nat.le_zero.mp first] at installed
    cases installed
  · intro i now e here spared j le needless
    rcases Nat.le_or_eq_of_le_succ le with earlier | rfl
    · exact spared j earlier needless
    · rw [found_succ here] at needless
      rcases (step_effect _ now e).needless (sole_run window (h.take i)) needless with
        before | ⟨n, error, c, t, rfl, known, counts, installed, endless⟩
      · exact spared i (Nat.le_refl i) before
      · obtain ⟨p, earlier, rings, _, start⟩ :=
          cycle_found (Nat.le_of_lt (History.lt_length_of_place here))
            (Numbered.find?_eq_some_iff.mp known)
        by_cases lasting : c.start.token.validity = .infinite
        · -- The cycle should not have begun.
          have began : RenewsEndless { window } h p := ⟨n, c.start, rings, start, lasting⟩
          exact spared p (Nat.le_of_lt earlier) (began.needless live)
        · exact never i ⟨now, n, error, c, t, here, known, counts, lasting, installed, endless⟩

theorem start_found {p k : Nat} {c : Cycle} (le : k ≤ h.length)
    (clear : ∀ j ≤ k, ¬ (found { window } h j).Overlap)
    (quiet : ∀ j < k, (found { window } h j).cycles.items ≠ [] → ¬ Installs { window } h j)
    (rings : Rings { window } h p n) (earlier : p < k)
    (start : (found { window } h p).token = some c.start)
    (flying : (n, c) ∈ (found { window } h k).cycles.items) :
    (found { window } h k).token = some c.start ∨ (found { window } h k).token = none := by
  have there (j : Nat) (after : p < j) (before : j ≤ k) :
      ∃ d, (n, d) ∈ (found { window } h j).cycles.items :=
    flying_between before (Nat.lt_of_lt_of_le rings.made.1 (begun_le_found { window } h after))
      flying
  refine History.holds_between (P := fun j => (found { window } h j).token = some c.start ∨
    (found { window } h j).token = none) earlier le ?_ ?_
  · obtain ⟨now, task, call, here, result⟩ := rings
    obtain ⟨_, _, t, placed, session⟩ := ring_begins result
    left
    rw [found_succ here]
    change ((found { window } h p).ring task).session.token = _
    rw [session]
    exact start
  · intro j now e after before here kept
    obtain ⟨d, flies⟩ := there j after (Nat.le_of_lt before)
    have only : ∀ m b, (m, b) ∈ (found { window } h j).cycles.items → m = n := by
      intro m b other
      apply Classical.byContradiction
      intro different
      exact clear j (Nat.le_of_lt before) ⟨m, n, b, d, different, other, flies⟩
    have stays := there (j + 1) (Nat.lt_succ_of_lt after) before
    rw [found_succ here] at stays ⊢
    rcases (step_effect _ now e).token_kept only stays with same | gone | ⟨id, t, rfl, token, more⟩
    · rwa [same]
    · exact Or.inr gone
    · rw [← found_succ here] at token more
      have installs : Installs { window } h j :=
        ⟨id, ⟨(found { window } h j).serials, t⟩, ⟨_, _, here, rfl, rfl, more⟩, token⟩
      exact absurd installs (quiet j before (List.ne_nil_of_mem flies))

/-- Before a cycle fails over another token a caller has logged in while a cycle was in flight. -/
theorem FailsOver.overtaken
    (live : History.Keeps next (fun s _ e => s.StartsLiveTask e) { window } h)
    (fails : FailsOver { window } h i) :
    ∃ j < i, (found { window } h j).cycles.items ≠ [] ∧ Installs { window } h j := by
  apply Classical.byContradiction
  intro never
  have quiet : ∀ j < i, (found { window } h j).cycles.items ≠ [] → ¬ Installs { window } h j :=
    fun j before flying installs => never ⟨j, before, flying, installs⟩
  obtain ⟨now, n, error, c, t, here, known, _, expires, installed, endless⟩ := fails
  have le := Nat.le_of_lt (History.lt_length_of_place here)
  have flying := Numbered.find?_eq_some_iff.mp known
  have apart : ∀ k < i, ¬ Interleaves { window } h k := by
    rintro k before ⟨_, _, _, _, m, b, _, _, flies, p, j, after, sooner, rings, installs⟩
    have begun := Nat.lt_of_lt_of_le rings.made.1 (begun_le_found { window } h after)
    obtain ⟨d, there⟩ := flying_between (Nat.le_of_lt sooner) begun flies
    exact quiet j (Nat.lt_trans sooner before) (List.ne_nil_of_mem there) installs
  obtain ⟨p, earlier, rings, _, start⟩ := cycle_found le flying
  rcases start_found le (clear_until live le apart) quiet rings earlier start flying with
    same | gone
  · cases same.symm.trans installed
    exact expires endless
  · cases gone.symm.trans installed

/-- A renewal is set, or a cycle begins, for a token that never expires exactly if a cycle for a
token that expires fails, and counts, while one that never expires is in place; and before that a
caller's login has put a token in place while a cycle was in flight. -/
theorem needless_iff (live : History.Keeps next (fun s _ e => s.StartsLiveTask e) { window } h) :
    (((∃ i ≤ h.length, Needless (found { window } h i)) ∨ ∃ i, RenewsEndless { window } h i) ↔
      ∃ i, FailsOver { window } h i) ∧
    ∀ i, FailsOver { window } h i →
      ∃ j < i, (found { window } h j).cycles.items ≠ [] ∧ Installs { window } h j := by
  refine ⟨⟨?_, ?_⟩, fun i fails => fails.overtaken live⟩
  · intro needless
    obtain ⟨i, le, needless⟩ : ∃ i ≤ h.length, Needless (found { window } h i) := by
      rcases needless with set | ⟨i, renews⟩
      · exact set
      · have ⟨_, _, ⟨_, _, _, here, _⟩, _⟩ := renews
        exact ⟨i, Nat.le_of_lt (History.lt_length_of_place here), renews.needless live⟩
    apply Classical.byContradiction
    intro never
    exact spared_found live (not_exists.mp never) i le i (Nat.le_refl i) needless
  · rintro ⟨i, now, n, error, c, t, here, known, counts, _, installed, endless⟩
    refine Or.inl ⟨i + 1, History.lt_length_of_place here, ?_⟩
    rw [found_succ here]
    exact fails_needless (numbering_found window h i) known counts installed endless

def endless (value : String) (issued : Nat) : Token where
  value := value
  issued := ⟨issued * 1000000000⟩
  validity := .infinite
  renewable := true

/-- The first token expires while its renewal is in flight, a caller logs in and gets a token that
never expires, and then the renewal fails, and the login that it falls back to as well. -/
def endlessAt61 : History Event :=
  loggedInAt0 ++ [(⟨30000000000⟩, .ring 0), (⟨61000000000⟩, .begin .token),
    (⟨61000000000⟩, .loginReply 1 (.ok (endless "second" 61))),
    (⟨70000000000⟩, .renewalReply 0 (.error .rateLimited)),
    (⟨70000000000⟩, .cycleLoginReply 0 (.error .rateLimited)), (⟨80000000000⟩, .ring 1)]

theorem endlessAt61_live : History.Keeps next (fun s _ e => s.StartsLiveTask e)
    { window := halfMinute } endlessAt61 :=
  ⟨trivial, trivial, rfl, trivial, trivial, trivial, trivial, rfl, trivial⟩

theorem needless_iff_endlessAt61 :
    let s : Renewing := { window := halfMinute }
    (((∃ i ≤ endlessAt61.length, Needless (s.found endlessAt61 i)) ∨
        ∃ i, RenewsEndless s endlessAt61 i) ↔ ∃ i, FailsOver s endlessAt61 i) ∧
    ∀ i, FailsOver s endlessAt61 i →
      ∃ j < i, (s.found endlessAt61 j).cycles.items ≠ [] ∧ Installs s endlessAt61 j :=
  needless_iff endlessAt61_live

/-- A token that never expires is renewed all the same. -/
theorem renews_endless :
    ¬ ∀ (window : RenewalWindow) (h : History Event),
      History.Keeps next (fun s _ e => s.StartsLiveTask e) { window } h →
        (∀ i ≤ h.length, ¬ Needless (found { window } h i)) ∧
          ∀ i, ¬ RenewsEndless { window } h i := by
  intro spared
  obtain ⟨unset, unrenewed⟩ := spared halfMinute endlessAt61 endlessAt61_live
  exact unrenewed 7 ⟨1, ⟨1, endless "second" 61⟩, ⟨⟨80000000000⟩, 1, _, rfl, rfl⟩, rfl, rfl⟩

end Leasehold.Session.Renewing

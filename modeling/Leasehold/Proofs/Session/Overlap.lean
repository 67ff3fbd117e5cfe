import Leasehold.Proofs.Session.Provenance

/-!
# Overlapping cycles of a session

When a cycle begins its task is spent, and no other is set before it ends
(`unset_between`), unless a caller whose login has put another token in place
sets one.  That is the only way in which two cycles come to be in flight
(`overlap_iff`).
-/

set_option autoImplicit false

namespace Leasehold.Session.Renewing

variable {s s' : Renewing} {window : RenewalWindow} {h : History Event} {now : Instant} {e : Event}
  {i j k n m p : Nat} {c : Cycle}

def StartsLiveTask (s : Renewing) : Event → Prop
  | .ring task => s.timers.holds task = true
  | _ => True

def Overlap (s : Renewing) : Prop :=
  ∃ n m c d, n ≠ m ∧ (n, c) ∈ s.cycles.items ∧ (m, d) ∈ s.cycles.items

def Installs (s : Renewing) (h : History Event) (i : Nat) : Prop :=
  ∃ id t, Obtains s h i (.callerLogin id) t ∧ (s.found h (i + 1)).token = some t

/-- At a place of a history a cycle begins while another one is in flight, since whose beginning a
caller's login has put a token in place. -/
def Interleaves (s : Renewing) (h : History Event) (i : Nat) : Prop :=
  ∃ now task m call n c, h[i]? = some (now, .ring task) ∧
    ((s.found h i).ring task).result = some (m, call) ∧ (n, c) ∈ (s.found h i).cycles.items ∧
    ∃ p j, p < j ∧ j < i ∧ Rings s h p n ∧ Installs s h j

/-! ## Cycles in flight -/

theorem begun_le_found (s : Renewing) (h : History Event) (le : i ≤ k) :
    (s.found h i).cycles.issued ≤ (s.found h k).cycles.issued := by
  refine History.invariant_later
    (I := fun s' : Renewing => (s.found h i).cycles.issued ≤ s'.cycles.issued)
    (fun s' now e held => ?_) le (Nat.le_refl _)
  exact Nat.le_trans held (step_effect s' now e).onward.begun_le

theorem Rings.unique (first : Rings s h i n) (second : Rings s h k n) : i = k := by
  have apart {i k : Nat} (first : Rings s h i n) (second : Rings s h k n) : ¬ i < k := by
    intro before
    have begun := Nat.lt_of_lt_of_le first.made.1 (begun_le_found s h before)
    obtain ⟨now, task, call, here, result⟩ := second
    rw [(ring_begins result).2.1] at begun
    exact Nat.lt_irrefl _ begun
  have ge := Nat.le_of_not_lt (apart first second)
  exact Nat.le_antisymm (Nat.le_of_not_lt (apart second first)) ge

theorem flying_between (le : i ≤ k) (begun : n < (s.found h i).cycles.issued)
    (flying : (n, c) ∈ (s.found h k).cycles.items) :
    ∃ d, (n, d) ∈ (s.found h i).cycles.items := by
  apply Classical.byContradiction
  intro absent
  have gone : n < (s.found h k).cycles.issued ∧
      ¬ ∃ d, (n, d) ∈ (s.found h k).cycles.items := by
    refine History.invariant_later
      (I := fun s : Renewing => n < s.cycles.issued ∧ ¬ ∃ d, (n, d) ∈ s.cycles.items)
      (fun s now e held => ?_) le ⟨begun, absent⟩
    have onward := (step_effect s now e).onward
    refine ⟨Nat.lt_of_lt_of_le held.1 onward.begun_le, ?_⟩
    rintro ⟨d, there⟩
    rcases onward.cycle n d there with ⟨before, old, _⟩ | ⟨number, _⟩
    · exact held.2 ⟨before, old⟩
    · exact absurd number (Nat.ne_of_lt held.1)
  exact gone.2 ⟨c, flying⟩

/-- The first overlap comes about when a timer rings. -/
theorem overlap_begins (clear : ¬ s.Overlap) (overlap : (s.next now e).Overlap) :
    ∃ task m call n c, e = .ring task ∧ (s.ring task).result = some (m, call) ∧
      (n, c) ∈ s.cycles.items := by
  have origin : ∀ {n c}, (n, c) ∈ (s.next now e).cycles.items →
      (∃ before, (n, before) ∈ s.cycles.items) ∨ ∃ task call, e = .ring task ∧
        n = s.cycles.issued ∧ (s.ring task).result = some (n, call) := by
    intro n c flying
    cases (step_effect s now e).cycle_origin flying with
    | same there => exact Or.inl ⟨c, there⟩
    | began task t serving installed =>
        exact Or.inr ⟨task, _, rfl, rfl, ring_result task serving installed⟩
    | turned reply there => exact Or.inl ⟨_, there⟩
  obtain ⟨n, m, c, d, different, first, second⟩ := overlap
  rcases origin first with ⟨before, there⟩ | ⟨task, call, rfl, number, result⟩
  · rcases origin second with ⟨past, here⟩ | ⟨task, call, rfl, _, result⟩
    · exact absurd ⟨n, m, before, past, different, there, here⟩ clear
    · exact ⟨task, m, call, n, before, rfl, result, there⟩
  · rcases origin second with ⟨past, here⟩ | ⟨_, _, _, twin, _⟩
    · exact ⟨task, n, call, m, past, rfl, result, here⟩
    · exact absurd (number.trans twin.symm) different

/-! ## Tasks that are set -/

/-- While one cycle is in flight, no event but the login of a caller sets a task. -/
theorem Effect.unset (effect : Effect s now e s') (idle : s.timers.items = [])
    (only : ∀ m d, (m, d) ∈ s.cycles.items → m = n) (stays : ∃ d, (n, d) ∈ s'.cycles.items) :
    s'.timers.items = [] ∨ ∃ id t, e = .loginReply id (.ok t) ∧
      s'.token = some ⟨s.serials, t⟩ ∧ s'.serials = s.serials + 1 := by
  have cancelled (handle : Option Nat) : (s.timers.cancel handle).items = [] := by
    apply List.eq_nil_iff_forall_not_mem.mpr
    rintro ⟨k, task⟩ member
    have before := (Numbered.mem_cancel.mp member).1
    rw [idle] at before
    cases before
  have rung (task : Nat) : (s.timers.remove task).items = [] := cancelled (some task)
  have ends {id : Nat} {d : Cycle} {P : Prop} (found : s.cycles.find? id = some d)
      (cycles : s'.cycles = s.cycles.remove id) : P := by
    obtain ⟨b, there⟩ := stays
    have one := only id d (Numbered.find?_eq_some_iff.mp found)
    rw [cycles] at there
    exact absurd one.symm (Numbered.mem_remove.mp there).2
  cases effect with
  | unheard _ _ | answered _ | told _ | queued _ | admitted _ | gone _ | refused _ _ | resumed _
  | outdated _ _ | turned _ _ _ | broken _ _ _ => exact Or.inl idle
  | loggedIn id t =>
      obtain ⟨timers, slot, same, _⟩ := renew_spec s.countLogin now t .zero
      refine Or.inr ⟨id, t, rfl, ?_, ?_⟩
      · rw [same]
        rfl
      · rw [same]
        rfl
  | missed task => exact Or.inl (rung task)
  | began task t => exact Or.inl (rung task)
  | discarded e id d outcome =>
      obtain ⟨tally, same⟩ := discarded_spec s e id
      rw [same]
      exact Or.inl idle
  | renewed e id d t answers found =>
      obtain ⟨tally, timers, slot, same, _⟩ := renewed_spec s now e id t
      exact ends found (by rw [same])
  | failed e id d error answers found =>
      obtain ⟨tally, timers, slot, same, _⟩ := failed_spec s now e id error
      exact ends found (by rw [same])
  | invalidated => exact Or.inl (cancelled s.slot)
  | shutdown => exact Or.inl (cancelled s.slot)

theorem Rings.unset (rings : Rings { window } h i n)
    (live : History.Keeps next (fun s _ e => s.StartsLiveTask e) { window } h) :
    (found { window } h (i + 1)).timers.items = [] ∧
      n < (found { window } h (i + 1)).cycles.issued := by
  have begun := rings.made.1
  obtain ⟨now, task, call, here, result⟩ := rings
  obtain ⟨_, _, t, _, session⟩ := ring_begins result
  have sole : Sole (found { window } h i).timers (found { window } h i).slot :=
    sole_run window (h.take i)
  obtain ⟨work, there⟩ := Numbered.holds_iff.mp (live.at_place here)
  refine ⟨?_, begun⟩
  rw [found_succ here]
  change ((found { window } h i).ring task).session.timers.items = []
  rw [session]
  have handle := sole task work there
  have spent := sole.cancel
  rw [handle] at spent
  exact spent

theorem unset_between (live : History.Keeps next (fun s _ e => s.StartsLiveTask e) { window } h)
    (clear : ∀ j ≤ k, ¬ (found { window } h j).Overlap) (le : k ≤ h.length)
    (rings : Rings { window } h p n) (flying : (n, c) ∈ (found { window } h k).cycles.items)
    (quiet : ∀ j, p < j → j < k → ¬ Installs { window } h j) (lt : p < k) :
    (found { window } h k).timers.items = [] := by
  obtain ⟨start, begun⟩ := rings.unset live
  have there (j : Nat) (after : p < j) (before : j ≤ k) :
      ∃ d, (n, d) ∈ (found { window } h j).cycles.items :=
    flying_between before (Nat.lt_of_lt_of_le begun (begun_le_found { window } h after)) flying
  refine History.holds_between (P := fun j => (found { window } h j).timers.items = []) lt le start
    ?_
  intro j now e after before here idle
  obtain ⟨d, flies⟩ := there j after (Nat.le_of_lt before)
  have only : ∀ m b, (m, b) ∈ (found { window } h j).cycles.items → m = n := by
    intro m b other
    apply Classical.byContradiction
    intro different
    exact clear j (Nat.le_of_lt before) ⟨m, n, b, d, different, other, flies⟩
  have stays := there (j + 1) (Nat.lt_succ_of_lt after) before
  rw [found_succ here] at stays ⊢
  rcases (step_effect _ now e).unset idle only stays with unset | ⟨id, t, rfl, token, more⟩
  · exact unset
  · rw [← found_succ here] at token more
    have obtains : Obtains { window } h j (.callerLogin id)
        ⟨(found { window } h j).serials, t⟩ := ⟨_, _, here, rfl, rfl, more⟩
    exact absurd ⟨id, _, obtains, token⟩ (quiet j after before)

/-! ## Every history -/

theorem Interleaves.overlap (interleaves : Interleaves s h i) : (s.found h (i + 1)).Overlap := by
  obtain ⟨now, task, m, call, n, c, here, result, flying, _⟩ := interleaves
  obtain ⟨_, number, t, _, session⟩ := ring_begins result
  rw [found_succ here]
  change ((s.found h i).ring task).session.Overlap
  rw [session]
  refine ⟨n, m, c, _, ?_, Numbered.mem_add.mpr (Or.inl flying),
    Numbered.mem_add.mpr (Or.inr ⟨number, rfl⟩)⟩
  rw [number]
  exact Nat.ne_of_lt (Numbered.lt_issued flying)

/-- No two cycles are in flight as long as none begins in the way of `Interleaves`. -/
theorem clear_until (live : History.Keeps next (fun s _ e => s.StartsLiveTask e) { window } h)
    (le : i ≤ h.length) (apart : ∀ k < i, ¬ Interleaves { window } h k) :
    ∀ j ≤ i, ¬ (found { window } h j).Overlap := by
  refine History.holds_between (P := fun i => ∀ j ≤ i, ¬ (found { window } h j).Overlap)
    (Nat.zero_le i) le ?_ ?_
  · rintro j before ⟨n, m, c, d, _, flying, _⟩
    rw [Nat.le_zero.mp before] at flying
    cases flying
  · intro k now e _ last here clear j before overlap
    rcases Nat.le_or_eq_of_le_succ before with earlier | rfl
    · exact clear j earlier overlap
    · rw [found_succ here] at overlap
      obtain ⟨task, m, call, n, c, rfl, result, flying⟩ :=
        overlap_begins (clear k (Nat.le_refl k)) overlap
      have lower := Nat.le_of_lt (History.lt_length_of_place here)
      obtain ⟨p, earlier, rings, _⟩ := cycle_found lower flying
      have quiet : ∀ j, p < j → j < k → ¬ Installs { window } h j := by
        intro j after sooner installs
        exact apart k last ⟨now, task, m, call, n, c, here, result, flying, p, j, after, sooner,
          rings, installs⟩
      have set : (found { window } h k).timers.holds task = true := live.at_place here
      obtain ⟨work, there⟩ := Numbered.holds_iff.mp set
      rw [unset_between live clear lower rings flying quiet earlier] at there
      cases there

/-- Two cycles are in flight at some place exactly if one begins at some place while another is in
flight that a caller's login has overtaken. -/
theorem overlap_iff (live : History.Keeps next (fun s _ e => s.StartsLiveTask e) { window } h) :
    (∃ i ≤ h.length, (found { window } h i).Overlap) ↔ ∃ i, Interleaves { window } h i := by
  constructor
  · rintro ⟨i, le, overlap⟩
    apply Classical.byContradiction
    intro apart
    exact clear_until live le (fun k _ interleaves => apart ⟨k, interleaves⟩) i (Nat.le_refl i)
      overlap
  · rintro ⟨i, interleaves⟩
    have ⟨now, task, _, _, _, _, here, _⟩ := interleaves
    exact ⟨i + 1, History.lt_length_of_place here, interleaves.overlap⟩

end Leasehold.Session.Renewing

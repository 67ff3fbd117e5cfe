import Leasehold.Proofs.Session.Effect

/-!
# Tokens, generations and cycles of a session

What effects leave of the state that a cycle looks at.  A token that comes into
place has a serial that no token had before, so one that has gone does not come
back (`token_gone_run`); the generation counts the invalidations
(`generation_run`); and a cycle in flight keeps the token and the generation in
which it began (`cycle_run`).
-/

set_option autoImplicit false

namespace Leasehold.Session.Renewing

variable {s s' : Renewing} {now : Instant} {e : Event}

/-! ## Operations -/

def Sole (timers : Schedule Unit) (slot : Option Nat) : Prop :=
  ∀ n task, (n, task) ∈ timers.items → slot = some n

theorem Sole.cancel {timers : Schedule Unit} {slot : Option Nat} (sole : Sole timers slot) :
    (timers.cancel slot).items = [] := by
  rw [List.eq_nil_iff_forall_not_mem]
  rintro ⟨n, task⟩ member
  obtain ⟨there, other⟩ := Numbered.mem_cancel.mp member
  exact other (sole n task there)

theorem Sole.length_le {timers : Schedule Unit} {slot : Option Nat} (sole : Sole timers slot) :
    timers.items.length ≤ 1 := by
  cases items : timers.items with
  | nil => exact Nat.zero_le 1
  | cons first rest =>
      have only : ∀ n ∈ timers.items.map Prod.fst, n = first.1 := by
        intro n member
        obtain ⟨b, there, rfl⟩ := List.mem_map.mp member
        have head : first ∈ timers.items := items ▸ List.mem_cons_self
        exact Option.some.inj ((sole b.1 b.2 there).symm.trans (sole first.1 first.2 head))
      have head : first.1 ∈ timers.items.map Prod.fst := by
        rw [items]
        exact List.mem_cons_self
      have one := Numbered.eq_singleton_of_nodup timers.distinct head only
      rw [← items, ← List.length_map (f := Prod.fst), one]
      exact Nat.le_refl 1

/-- What may become of the timers of a session: numbers are not given back, the handle is the one
before or that of a new task, and no task is set but that of the handle. -/
structure Handover (timers : Schedule Unit) (slot : Option Nat) (timers' : Schedule Unit)
    (slot' : Option Nat) : Prop where
  issued_le : timers.issued ≤ timers'.issued
  handle : ∀ k, slot' = some k →
    slot = some k ∨ k = timers.issued ∧ timers.issued < timers'.issued
  sole : Sole timers slot → Sole timers' slot'

theorem Handover.dropped (timers : Schedule Unit) (slot : Option Nat) :
    Handover timers slot (timers.cancel slot) none where
  issued_le := Nat.le_of_eq (Numbered.issued_cancel _ _).symm
  handle := nofun
  sole := by
    intro sole n task member
    rw [sole.cancel] at member
    cases member

theorem setTimer_spec (s : Renewing) (now : Instant) (delay : Duration) :
    ∃ timers slot, (s.setTimer now delay).session = { s with timers, slot } ∧
      Handover s.timers s.slot timers slot ∧
      (s.terminated = false → slot = some s.timers.issued) := by
  unfold setTimer
  dsimp only
  split
  · rename_i ended
    refine ⟨_, s.slot, rfl, ⟨Nat.le_succ _, fun k held => Or.inl held, ?_⟩, ?_⟩
    · intro sole n task member
      have kept : (n, task) ∈ s.timers.items := by
        rwa [← Numbered.items_remove_add s.timers]
      exact sole n task kept
    · intro serving
      rw [serving] at ended
      cases ended
  · refine ⟨_, _, rfl, ⟨?_, ?_, ?_⟩, fun _ => rfl⟩
    · rw [Numbered.issued_cancel]
      exact Nat.le_succ _
    · rintro k ⟨⟩
      rw [Numbered.issued_cancel]
      exact Or.inr ⟨rfl, Nat.lt_succ_self _⟩
    · intro sole n task member
      obtain ⟨there, other⟩ := Numbered.mem_cancel.mp member
      rcases Numbered.mem_add.mp there with before | ⟨rfl, _⟩
      · exact absurd (sole n task before) other
      · rfl

theorem install_spec (s : Renewing) (now : Instant) (t : TokenInstance) (floor : Duration) :
    ∃ timers slot, (s.install now t floor).session =
        { s with token := some t, degraded := false, timers, slot } ∧
      Handover s.timers s.slot timers slot := by
  unfold install
  dsimp only
  split
  · exact ⟨s.timers, s.slot, rfl, Nat.le_refl _, fun k held => Or.inl held, id⟩
  · exact ⟨_, none, rfl, Handover.dropped s.timers s.slot⟩
  · rename_i delay planned
    obtain ⟨timers, slot, same, handover, _⟩ :=
      setTimer_spec { s with token := some t, degraded := false } now (max delay floor)
    exact ⟨timers, slot, same, handover⟩

theorem renew_spec (s : Renewing) (now : Instant) (t : Token) (floor : Duration) :
    ∃ timers slot, s.renew now t floor =
        { s with
          serials := s.serials + 1
          token := some ⟨s.serials, t⟩
          degraded := false
          timers
          slot } ∧
      Handover s.timers s.slot timers slot :=
  install_spec (s.takeIn t).1 now (s.takeIn t).2 floor

theorem fail_spec (s : Renewing) (now : Instant) (error : VaultError) :
    ∃ timers slot, s.fail now error = { s.degrade error with timers, slot } ∧
      Handover s.timers s.slot timers slot ∧ (s.terminated = false → slot = some s.timers.issued) :=
  setTimer_spec (s.degrade error) now s.pauseAfterFailure

theorem counted_spec (s : Renewing) (e : Event) : ∃ tally, s.counted e = { s with tally } := by
  unfold counted
  split
  · exact ⟨_, rfl⟩
  · exact ⟨_, rfl⟩
  · exact ⟨s.tally, rfl⟩

/-! What a cycle leaves that ends without effect, with a token or with an error. -/

theorem discarded_spec (s : Renewing) (e : Event) (id : Nat) :
    ∃ tally, (s.counted e).endCycle id = { s with tally, cycles := s.cycles.remove id } := by
  obtain ⟨tally, counted⟩ := counted_spec s e
  rw [counted]
  exact ⟨tally, rfl⟩

theorem renewed_spec (s : Renewing) (now : Instant) (e : Event) (id : Nat) (t : Token) :
    ∃ tally timers slot, ((s.counted e).endCycle id).renew now t pauseBetweenCycles =
        { s with
          tally
          cycles := s.cycles.remove id
          serials := s.serials + 1
          token := some ⟨s.serials, t⟩
          degraded := false
          timers
          slot } ∧
      Handover s.timers s.slot timers slot := by
  obtain ⟨tally, counted⟩ := counted_spec s e
  obtain ⟨timers, slot, same, handover⟩ :=
    renew_spec ({ s with tally }.endCycle id) now t pauseBetweenCycles
  rw [counted]
  exact ⟨tally, timers, slot, same, handover⟩

theorem failed_spec (s : Renewing) (now : Instant) (e : Event) (id : Nat) (error : VaultError) :
    ∃ tally timers slot, ((s.counted e).endCycle id).fail now error =
        { s with
          tally
          cycles := s.cycles.remove id
          degraded := true
          recorded := some error
          timers
          slot } ∧
      Handover s.timers s.slot timers slot := by
  obtain ⟨tally, counted⟩ := counted_spec s e
  obtain ⟨timers, slot, same, handover, _⟩ := fail_spec ({ s with tally }.endCycle id) now error
  rw [counted]
  exact ⟨_, timers, slot, same, handover⟩

theorem ring_begins {task n : Nat} {call : CycleCall}
    (rings : (s.ring task).result = some (n, call)) :
    s.terminated = false ∧ n = s.cycles.issued ∧
      ∃ t, s.token = some t ∧ (s.ring task).session = (s.start task).beginCycle t := by
  unfold ring at rings ⊢
  split at rings
  · cases rings
  · rename_i serving
    split at rings
    · cases rings
    · rename_i t installed
      cases rings
      rw [if_neg serving, installed]
      exact ⟨Bool.eq_false_iff.mpr serving, rfl, t, rfl, rfl⟩

/-! ## What an event leaves -/

/-- What an event leaves of the state that cycles look at: a token that comes into place has the
next serial, a cycle keeps the token and the generation in which it began, and only an invalidation
raises the generation. -/
structure Onward (s : Renewing) (e : Event) (s' : Renewing) : Prop where
  token : s'.token = s.token ∨ s'.token = none ∧ (e.invalidates = true ∨ e.ends = true) ∨
    ∃ t, s'.token = some t ∧ t.serial = s.serials ∧ s'.serials = s.serials + 1
  serials_le : s.serials ≤ s'.serials
  cycle : ∀ n c, (n, c) ∈ s'.cycles.items →
    (∃ before, (n, before) ∈ s.cycles.items ∧ before.generation = c.generation ∧
      before.start = c.start) ∨
    n = s.cycles.issued ∧ c.generation = s.generation ∧ s.token = some c.start
  begun_le : s.cycles.issued ≤ s'.cycles.issued
  handover : Handover s.timers s.slot s'.timers s'.slot
  generation : s'.generation = s.generation + UInt64.ofNat e.invalidates.toNat
  terminated : s'.terminated = (s.terminated || e.ends)

/-- Nothing has moved but callers, tasks that start and cycles that end. -/
structure Calm (s s' : Renewing) : Prop where
  token : s'.token = s.token := by rfl
  serials : s.serials ≤ s'.serials := by first | exact Nat.le_refl _ | exact Nat.le_succ _
  issued : s'.timers.issued = s.timers.issued := by rfl
  slot : s'.slot = s.slot := by rfl
  live : ∀ b, b ∈ s'.timers.items → b ∈ s.timers.items := by exact fun _ member => member
  cycles : ∀ b, b ∈ s'.cycles.items → b ∈ s.cycles.items := by exact fun _ member => member
  begun : s'.cycles.issued = s.cycles.issued := by rfl
  generation : s'.generation = s.generation := by rfl
  terminated : s'.terminated = s.terminated := by rfl

theorem Calm.onward (calm : Calm s s') (steady : e.invalidates = false) (ends : e.ends = false) :
    Onward s e s' where
  token := Or.inl calm.token
  serials_le := calm.serials
  cycle := fun n c flying => Or.inl ⟨c, calm.cycles (n, c) flying, rfl, rfl⟩
  begun_le := Nat.le_of_eq calm.begun.symm
  handover :=
    { issued_le := Nat.le_of_eq calm.issued.symm
      handle := fun k held => Or.inl (calm.slot ▸ held)
      sole := fun sole n task member => calm.slot.trans (sole n task (calm.live _ member)) }
  generation := by simp [steady, calm.generation]
  terminated := by rw [ends, calm.terminated, Bool.or_false]

theorem onward_renew (id : Option Nat) (tally : SessionTally) (t : Token) (floor : Duration)
    (steady : e.invalidates = false) (ends : e.ends = false) :
    Onward s e (Renewing.renew { s with tally, cycles := s.cycles.cancel id } now t floor) := by
  obtain ⟨timers, slot, same, handover⟩ :=
    renew_spec { s with tally, cycles := s.cycles.cancel id } now t floor
  rw [same]
  exact
    { token := Or.inr (Or.inr ⟨_, rfl, rfl, rfl⟩)
      serials_le := Nat.le_succ _
      cycle := fun n c flying => Or.inl ⟨c, (Numbered.mem_cancel.mp flying).1, rfl, rfl⟩
      begun_le := Nat.le_of_eq (Numbered.issued_cancel _ _).symm
      handover := handover
      generation := by simp [steady]
      terminated := by rw [ends, Bool.or_false] }

theorem Effect.onward (effect : Effect s now e s') : Onward s e s' := by
  cases effect with
  | unheard e id answers =>
      have steady := Event.steady_of_cycle? answers
      exact Calm.onward {} steady.1 steady.2
  | answered demand => exact Calm.onward {} rfl rfl
  | told error => exact Calm.onward {} rfl rfl
  | queued demand => exact Calm.onward {} rfl rfl
  | admitted demand => exact Calm.onward {} rfl rfl
  | gone id => exact Calm.onward {} rfl rfl
  | refused id reply => exact Calm.onward {} rfl rfl
  | resumed id => exact Calm.onward {} rfl rfl
  | outdated id t => exact Calm.onward {} rfl rfl
  | loggedIn id t =>
      have onward : Onward s (.loginReply id (.ok t)) (s.countLogin.renew now t .zero) :=
        onward_renew none s.countLogin.tally t .zero rfl rfl
      exact { onward with }
  | missed task =>
      exact Calm.onward { live := fun _ member => (List.mem_filter.mp member).1 } rfl rfl
  | began task t serving installed =>
      have onward : Onward s (.ring task) (s.start task) :=
        Calm.onward { live := fun _ member => (List.mem_filter.mp member).1 } rfl rfl
      refine { onward with cycle := ?_, begun_le := Nat.le_succ _ }
      intro n c flying
      rcases Numbered.mem_add.mp flying with before | ⟨number, rfl⟩
      · exact Or.inl ⟨c, before, rfl, rfl⟩
      · exact Or.inr ⟨number, rfl, installed⟩
  | turned id reply d =>
      have onward : Onward s (.renewalReply id reply) s := Calm.onward {} rfl rfl
      refine { onward with cycle := ?_ }
      intro n c flying
      obtain ⟨before, member, rfl⟩ := Numbered.mem_change.mp flying
      exact Or.inl ⟨before, member, by split <;> rfl, by split <;> rfl⟩
  | broken id t c =>
      exact Calm.onward { cycles := fun _ member => (List.mem_filter.mp member).1 } rfl rfl
  | discarded e id c outcome answers =>
      obtain ⟨tally, counted⟩ := counted_spec s e
      have steady := Event.steady_of_cycle? answers
      rw [counted]
      exact Calm.onward { cycles := fun _ member => (List.mem_filter.mp member).1 } steady.1
        steady.2
  | renewed e id c t answers =>
      obtain ⟨tally, counted⟩ := counted_spec s e
      have steady := Event.steady_of_cycle? answers
      rw [counted]
      exact onward_renew (some id) tally t pauseBetweenCycles steady.1 steady.2
  | failed e id c error answers =>
      obtain ⟨tally, counted⟩ := counted_spec s e
      obtain ⟨timers, slot, same, handover, _⟩ :=
        fail_spec ({ s with tally }.endCycle id) now error
      have steady := Event.steady_of_cycle? answers
      have onward : Onward s e (s.endCycle id) :=
        Calm.onward { cycles := fun _ member => (List.mem_filter.mp member).1 } steady.1 steady.2
      rw [counted, same]
      exact { onward with handover := handover }
  | invalidated =>
      exact
        { token := Or.inr (Or.inl ⟨rfl, Or.inl rfl⟩)
          serials_le := Nat.le_refl _
          cycle := fun n c flying => Or.inl ⟨c, flying, rfl, rfl⟩
          begun_le := Nat.le_refl _
          handover := Handover.dropped s.timers s.slot
          generation := rfl
          terminated := (Bool.or_false _).symm }
  | shutdown =>
      exact
        { token := Or.inr (Or.inl ⟨rfl, Or.inr rfl⟩)
          serials_le := Nat.le_refl _
          cycle := fun n c flying => Or.inl ⟨c, flying, rfl, rfl⟩
          begun_le := Nat.le_refl _
          handover := Handover.dropped s.timers s.slot
          generation := by simp [Event.invalidates, Renewing.shutdown, dropTimer]
          terminated := (Bool.or_true _).symm }

/-! ## Every history -/

structure Numbering (s : Renewing) : Prop where
  token_lt : ∀ t, s.token = some t → t.serial < s.serials
  slot_lt : ∀ k, s.slot = some k → k < s.timers.issued

theorem Onward.numbering (onward : Onward s e s') (numbering : Numbering s) : Numbering s' where
  token_lt := by
    intro t installed
    rcases onward.token with same | ⟨none, _⟩ | ⟨new, placed, serial, counted⟩
    · exact Nat.lt_of_lt_of_le (numbering.token_lt t (same ▸ installed)) onward.serials_le
    · rw [none] at installed
      cases installed
    · cases placed.symm.trans installed
      omega
  slot_lt := by
    intro k held
    rcases onward.handover.handle k held with before | ⟨rfl, lower⟩
    · exact Nat.lt_of_lt_of_le (numbering.slot_lt k before) onward.handover.issued_le
    · exact lower

theorem numbering_run (window : RenewalWindow) (h : History Event) :
    Numbering (run { window } h) := by
  refine History.invariant_after (fun s now e numbering => ?_) h ⟨nofun, nofun⟩
  exact (step_effect s now e).onward.numbering numbering

/-- No task is set but the one whose handle the session holds. -/
theorem sole_run (window : RenewalWindow) (h : History Event) :
    Sole (run { window } h).timers (run { window } h).slot := by
  refine History.invariant_after (I := fun s : Renewing => Sole s.timers s.slot)
    (fun s now e sole => ?_) h nofun
  exact (step_effect s now e).onward.handover.sole sole

theorem token_gone_run {t : TokenInstance} (h : History Event) (below : t.serial < s.serials)
    (gone : s.token ≠ some t) : (s.run h).token ≠ some t := by
  have both : t.serial < (s.run h).serials ∧ (s.run h).token ≠ some t := by
    refine History.invariant_after
      (I := fun s : Renewing => t.serial < s.serials ∧ s.token ≠ some t)
      (fun s now e held => ?_) h ⟨below, gone⟩
    have onward := (step_effect s now e).onward
    refine ⟨Nat.lt_of_lt_of_le held.1 onward.serials_le, ?_⟩
    rcases onward.token with same | ⟨none, _⟩ | ⟨new, installed, serial, _⟩
    · exact same ▸ held.2
    · exact fun placed => nomatch none.symm.trans placed
    · intro placed
      cases (Option.some.inj (placed.symm.trans installed)).symm
      exact Nat.ne_of_lt held.1 serial
  exact both.2

def invalidations (h : History Event) : Nat := h.countP fun event => event.2.invalidates

def ends (h : History Event) : Bool := h.any fun event => event.2.ends

theorem generation_run (s : Renewing) (h : History Event) :
    (s.run h).generation = s.generation + UInt64.ofNat (invalidations h) := by
  induction h generalizing s with
  | nil => simp [invalidations, run, History.after]
  | cons event rest ih =>
      have step := (step_effect s event.1 event.2).onward.generation
      have rise : invalidations (event :: rest) =
          event.2.invalidates.toNat + invalidations rest := by
        cases raises : event.2.invalidates <;> simp [invalidations, raises, Nat.add_comm]
      rw [rise, UInt64.ofNat_add, ← UInt64.add_assoc, ← step]
      exact ih (s.next event.1 event.2)

theorem terminated_run (s : Renewing) (h : History Event) :
    (s.run h).terminated = (s.terminated || ends h) := by
  induction h generalizing s with
  | nil => exact (Bool.or_false _).symm
  | cons event rest ih =>
      have step := (step_effect s event.1 event.2).onward.terminated
      refine (ih (s.next event.1 event.2)).trans ?_
      rw [step, Bool.or_assoc]
      rfl

theorem cycle_run {n : Nat} {generation : UInt64} {t : TokenInstance} (h : History Event)
    (begun : n < s.cycles.issued)
    (same : ∀ c, (n, c) ∈ s.cycles.items → c.generation = generation ∧ c.start = t) (c : Cycle)
    (flying : (s.run h).cycles.find? n = some c) : c.generation = generation ∧ c.start = t := by
  have both : n < (s.run h).cycles.issued ∧
      ∀ c, (n, c) ∈ (s.run h).cycles.items → c.generation = generation ∧ c.start = t := by
    refine History.invariant_after (I := fun s : Renewing => n < s.cycles.issued ∧
      ∀ c, (n, c) ∈ s.cycles.items → c.generation = generation ∧ c.start = t)
      (fun s now e held => ?_) h ⟨begun, same⟩
    have onward := (step_effect s now e).onward
    refine ⟨Nat.lt_of_lt_of_le held.1 onward.begun_le, ?_⟩
    intro c member
    rcases onward.cycle n c member with ⟨before, old, generation, start⟩ | ⟨number, _⟩
    · rw [← generation, ← start]
      exact held.2 before old
    · exact absurd number (Nat.ne_of_lt held.1)
  exact both.2 c (Numbered.find?_eq_some_iff.mp flying)

end Leasehold.Session.Renewing

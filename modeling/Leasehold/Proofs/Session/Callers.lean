import Leasehold.Proofs.Session.Requests

/-!
# Callers in line

The callers in flight stand in line in the order of their arrival.  The first of
them holds the lock; it has been let in or is logging in.  The others wait, in
the order of the lock's queue.  This holds of every history in which the world
outside keeps to its part (`Awaits`): it goes on with a caller that has been let
in, and replies to calls that are in flight.
-/

set_option autoImplicit false

namespace Leasehold.Session

def Event.ofCaller : Event → Bool
  | .begin _ => true
  | .attempt _ => true
  | .loginReply _ _ => true
  | _ => false

theorem Event.aside_of_cycle? {e : Event} {id : Nat} (answers : e.cycle? = some id) :
    e.ofCaller = false := by
  cases e <;> first | rfl | cases answers

namespace Renewing

variable {s s' : Renewing} {now : Instant} {e : Event}

def waiter (id : Nat) : Caller := ⟨id, .waiting⟩

/-- Nobody is in flight, or the first in line holds the lock and the queue waits behind it. -/
inductive Standing : Lock → List Caller → Prop
  | free : Standing {} []
  | held (first : Caller) (queue : List Nat) (admitted : first.stage ≠ .waiting) :
      Standing ⟨some first.id, queue⟩ (first :: queue.map waiter)

structure InLine (s : Renewing) : Prop where
  standing : Standing s.lock s.calls
  ascending : (s.calls.map Caller.id).Pairwise (· < ·)
  below : ∀ c ∈ s.calls, c.id < s.callers

structure SameLine (s s' : Renewing) : Prop where
  lock : s'.lock = s.lock := by rfl
  calls : s'.calls = s.calls := by rfl
  callers : s'.callers = s.callers := by rfl

theorem InLine.congr (line : InLine s) (same : SameLine s s') : InLine s' where
  standing := by
    rw [same.lock, same.calls]
    exact line.standing
  ascending := by
    rw [same.calls]
    exact line.ascending
  below := by
    intro c member
    rw [same.calls] at member
    rw [same.callers]
    exact line.below c member

theorem SameLine.without (same : SameLine s s') (id : Nat) :
    SameLine (s.without id) (s'.without id) where
  lock := by
    change s'.lock.release = s.lock.release
    rw [same.lock]
  calls := by
    unfold Renewing.without
    dsimp only
    rw [same.lock, same.calls]
  callers := same.callers

/-! ## Operations -/

theorem map_id_waiter (queue : List Nat) : (queue.map waiter).map Caller.id = queue := by
  induction queue with
  | nil => rfl
  | cons id rest ih => simp only [List.map_cons, ih, waiter]

theorem mem_setStage {calls : List Caller} {id : Nat} {stage : CallStage} {d : Caller} :
    d ∈ setStage calls id stage ↔
      d ∈ calls ∧ d.id ≠ id ∨ d = ⟨id, stage⟩ ∧ ∃ c ∈ calls, c.id = id := by
  unfold setStage
  rw [List.mem_map]
  constructor
  · rintro ⟨c, member, rfl⟩
    by_cases same : c.id = id
    · refine Or.inr ⟨?_, c, member, same⟩
      rw [if_pos same, same]
    · refine Or.inl ⟨?_, ?_⟩
      · rwa [if_neg same]
      · rwa [if_neg same]
  · rintro (⟨member, other⟩ | ⟨rfl, c, member, rfl⟩)
    · exact ⟨d, member, if_neg other⟩
    · exact ⟨c, member, if_pos rfl⟩

theorem setStage_of_absent {calls : List Caller} {id : Nat} {stage : CallStage}
    (absent : ∀ c ∈ calls, c.id ≠ id) : setStage calls id stage = calls := by
  have same : ∀ c ∈ calls, (if c.id = id then { c with stage } else c) = c :=
    fun c member => if_neg (absent c member)
  exact (List.map_congr_left same).trans (List.map_id calls)

theorem InLine.first (line : InLine s) {c : Caller} (member : c ∈ s.calls)
    (admitted : c.stage ≠ .waiting) :
    s.lock.holder = some c.id ∧ s.calls = c :: s.lock.queue.map waiter := by
  have standing := line.standing
  generalize s.lock = lock at *
  generalize s.calls = calls at *
  cases standing with
  | free => cases member
  | held first queue =>
      rcases List.mem_cons.mp member with rfl | behind
      · exact ⟨rfl, rfl⟩
      · obtain ⟨id, _, rfl⟩ := List.mem_map.mp behind
        exact absurd rfl admitted

/-- Whoever asks for the lock goes to the end of the line, which is its beginning if the lock is
free. -/
theorem InLine.enter (line : InLine s) {stage : CallStage}
    (turn : if s.lock.holder.isSome then stage = .waiting else stage ≠ .waiting) :
    InLine (s.arrive.enter s.callers stage) := by
  have standing := line.standing
  refine ⟨?_, ?_, ?_⟩
  · change Standing (s.lock.request s.callers) (s.calls ++ [⟨s.callers, stage⟩])
    generalize s.lock = lock at *
    generalize s.calls = calls at *
    cases standing with
    | free => exact .held ⟨s.callers, stage⟩ [] turn
    | held first queue admitted =>
        have waits : stage = .waiting := turn
        have shape : first :: queue.map waiter ++ [⟨s.callers, stage⟩] =
            first :: (queue ++ [s.callers]).map waiter := by
          rw [waits, List.map_append]
          rfl
        rw [shape]
        exact .held first _ admitted
  · change List.Pairwise (· < ·) ((s.calls ++ [(⟨s.callers, stage⟩ : Caller)]).map Caller.id)
    rw [List.map_append, List.pairwise_append]
    refine ⟨line.ascending, List.pairwise_singleton _ _, ?_⟩
    intro older there newer here
    obtain ⟨c, member, rfl⟩ := List.mem_map.mp there
    rw [List.mem_singleton.mp here]
    exact line.below c member
  · intro c member
    rcases List.mem_append.mp member with there | here
    · exact Nat.lt_succ_of_lt (line.below c there)
    · rw [List.mem_singleton.mp here]
      exact Nat.lt_succ_self _

theorem InLine.beginLogin_calls (line : InLine s) {id : Nat} (let_in : ⟨id, .granted⟩ ∈ s.calls) :
    (s.beginLogin id).calls = ⟨id, .loggingIn s.generation⟩ :: s.lock.queue.map waiter := by
  obtain ⟨_, calls⟩ := line.first let_in nofun
  have behind : ∀ c ∈ s.lock.queue.map waiter, c.id ≠ id := by
    intro c member
    have order := line.ascending
    rw [calls, List.map_cons, List.pairwise_cons] at order
    exact Nat.ne_of_gt (order.1 c.id (List.mem_map_of_mem member))
  change setStage s.calls id _ = _
  rw [calls]
  have rest : setStage (s.lock.queue.map waiter) id (.loggingIn s.generation) = _ :=
    setStage_of_absent behind
  unfold setStage at rest ⊢
  rw [List.map_cons, rest, if_pos rfl]

theorem InLine.beginLogin (line : InLine s) {id : Nat} (let_in : ⟨id, .granted⟩ ∈ s.calls) :
    InLine (s.beginLogin id) := by
  obtain ⟨holder, _⟩ := line.first let_in nofun
  have ids : (s.beginLogin id).calls.map Caller.id = s.calls.map Caller.id := by
    change (setStage s.calls id _).map Caller.id = _
    unfold setStage
    rw [List.map_map]
    apply List.map_congr_left
    intro c _
    simp only [Function.comp]
    split <;> rfl
  refine ⟨?_, ?_, ?_⟩
  · have lock : (s.beginLogin id).lock = ⟨some id, s.lock.queue⟩ := by
      rw [← holder]
      rfl
    rw [line.beginLogin_calls let_in, lock]
    exact .held ⟨id, _⟩ _ nofun
  · rw [ids]
    exact line.ascending
  · intro c member
    have numbered : c.id ∈ s.calls.map Caller.id := by
      rw [← ids]
      exact List.mem_map_of_mem member
    obtain ⟨d, old, same⟩ := List.mem_map.mp numbered
    rw [← same]
    exact line.below d old

theorem InLine.without_calls (line : InLine s) {c : Caller} (member : c ∈ s.calls)
    (admitted : c.stage ≠ .waiting) :
    (s.without c.id).calls =
      match s.lock.queue with
      | [] => []
      | next :: rest => ⟨next, .granted⟩ :: rest.map waiter := by
  obtain ⟨_, calls⟩ := line.first member admitted
  have order := line.ascending
  rw [calls, List.map_cons, map_id_waiter, List.pairwise_cons] at order
  -- Whoever waits has come later than the first, so the filter spares all of them.
  have left : s.calls.filter (fun d => d.id != c.id) = s.lock.queue.map waiter := by
    have kept : (s.lock.queue.map waiter).filter (fun d => d.id != c.id) =
        s.lock.queue.map waiter := by
      rw [List.filter_eq_self]
      intro d behind
      obtain ⟨id, queued, rfl⟩ := List.mem_map.mp behind
      exact bne_iff_ne.mpr (Nat.ne_of_gt (order.1 id queued))
    rw [calls, List.filter_cons_of_neg (by simp), kept]
  unfold Renewing.without
  dsimp only
  rw [left]
  unfold Lock.release
  cases queue : s.lock.queue with
  | nil => rfl
  | cons next rest =>
      rw [queue, List.pairwise_cons] at order
      have behind : ∀ d ∈ rest.map waiter, d.id ≠ next := by
        intro d there
        obtain ⟨id, queued, rfl⟩ := List.mem_map.mp there
        exact Nat.ne_of_gt (order.2.1 id queued)
      have others : setStage (rest.map waiter) next .granted = _ := setStage_of_absent behind
      have head : (if (waiter next).id = next then { waiter next with stage := .granted }
          else waiter next) = ⟨next, .granted⟩ := if_pos rfl
      change setStage (waiter next :: rest.map waiter) next .granted = _
      unfold setStage at others ⊢
      rw [List.map_cons, others, head]

theorem InLine.without (line : InLine s) {c : Caller} (member : c ∈ s.calls)
    (admitted : c.stage ≠ .waiting) : InLine (s.without c.id) := by
  have shape := line.without_calls member admitted
  obtain ⟨_, calls⟩ := line.first member admitted
  have order := line.ascending
  rw [calls, List.map_cons, map_id_waiter, List.pairwise_cons] at order
  have ids : (s.without c.id).calls.map Caller.id = s.lock.queue := by
    rw [shape]
    cases s.lock.queue with
    | nil => rfl
    | cons next rest => rw [List.map_cons, map_id_waiter]
  refine ⟨?_, ?_, ?_⟩
  · change Standing s.lock.release _
    rw [shape]
    unfold Lock.release
    cases s.lock.queue with
    | nil => exact .free
    | cons next rest => exact .held ⟨next, .granted⟩ rest nofun
  · rw [ids]
    exact order.2
  · intro d there
    have queued : d.id ∈ s.lock.queue := by
      rw [← ids]
      exact List.mem_map_of_mem there
    have waits : waiter d.id ∈ s.calls := by
      rw [calls]
      exact List.mem_cons_of_mem _ (List.mem_map_of_mem queued)
    exact line.below (waiter d.id) waits

theorem InLine.mem_without (line : InLine s) {c d : Caller} (member : c ∈ s.calls)
    (admitted : c.stage ≠ .waiting) (there : d ∈ (s.without c.id).calls) :
    waiter d.id ∈ s.calls ∧ (d.stage = .granted ∨ d.stage = .waiting) := by
  obtain ⟨_, calls⟩ := line.first member admitted
  rw [line.without_calls member admitted] at there
  rw [calls]
  cases queue : s.lock.queue with
  | nil =>
      rw [queue] at there
      cases there
  | cons next rest =>
      rw [queue] at there
      rcases List.mem_cons.mp there with rfl | behind
      · exact ⟨List.mem_cons_of_mem _ List.mem_cons_self, Or.inl rfl⟩
      · obtain ⟨id, queued, rfl⟩ := List.mem_map.mp behind
        have later : waiter id ∈ (next :: rest).map waiter :=
          List.mem_map_of_mem (List.mem_cons_of_mem _ queued)
        exact ⟨List.mem_cons_of_mem _ later, Or.inr rfl⟩

/-! ## Events -/

inductive Moves (s : Renewing) : Event → Renewing → Prop
  | still {e : Event} {s' : Renewing} (same : SameLine s s') : Moves s e s'
  | arrived {demand : Demand} {s' : Renewing} (same : SameLine s.arrive s') :
      Moves s (.begin demand) s'
  | joined {demand : Demand} {s' : Renewing} (stage : CallStage)
      (turn : if s.lock.holder.isSome then stage = .waiting else stage = .loggingIn s.generation)
      (same : SameLine (s.arrive.enter s.callers stage) s') : Moves s (.begin demand) s'
  | started {id : Nat} {s' : Renewing} (let_in : ⟨id, .granted⟩ ∈ s.calls)
      (same : SameLine (s.beginLogin id) s') : Moves s (.attempt id) s'
  | left {e : Event} {s' : Renewing} (c : Caller) (member : c ∈ s.calls)
      (admitted : c.stage ≠ .waiting) (same : SameLine (s.without c.id) s') : Moves s e s'

theorem sameLine_renew (s : Renewing) (now : Instant) (t : Token) (floor : Duration) :
    SameLine s (s.renew now t floor) := by
  obtain ⟨timers, slot, same, _⟩ := renew_spec s now t floor
  rw [same]
  exact {}

theorem Effect.sameLine (effect : Effect s now e s') (aside : e.ofCaller = false) :
    SameLine s s' := by
  cases effect with
  | unheard _ _ | missed _ | began _ _ | turned _ _ _ | broken _ _ _ | invalidated | shutdown =>
      exact {}
  | discarded e id c outcome =>
      obtain ⟨tally, same⟩ := discarded_spec s e id
      rw [same]
      exact {}
  | renewed e id c t =>
      obtain ⟨tally, timers, slot, same, _⟩ := renewed_spec s now e id t
      rw [same]
      exact {}
  | failed e id c error =>
      obtain ⟨tally, timers, slot, same, _⟩ := failed_spec s now e id error
      rw [same]
      exact {}
  | _ => cases aside

theorem Effect.moves (effect : Effect s now e s') (awaits : s.Awaits e) : Moves s e s' := by
  have still := effect.sameLine
  cases effect with
  | unheard e id answers => exact .still (still (Event.aside_of_cycle? answers))
  | discarded e id c outcome answers => exact .still (still (Event.aside_of_cycle? answers))
  | renewed e id c t answers => exact .still (still (Event.aside_of_cycle? answers))
  | failed e id c error answers => exact .still (still (Event.aside_of_cycle? answers))
  | missed _ | began _ _ | turned _ _ _ | broken _ _ _ | invalidated | shutdown =>
      exact .still (still rfl)
  | answered demand => exact .arrived {}
  | told error => exact .arrived {}
  | queued demand held =>
      refine .joined .waiting ?_ {}
      rw [if_pos held]
  | admitted demand free =>
      refine .joined (.loggingIn s.generation) ?_ {}
      rw [free]
      rfl
  | gone id => exact .left _ awaits nofun {}
  | refused id reply =>
      obtain ⟨generation, there⟩ := awaits
      exact .left _ there nofun {}
  | resumed id => exact .started awaits {}
  | outdated id t =>
      obtain ⟨generation, there⟩ := awaits
      exact .left _ there nofun {}
  | loggedIn id t =>
      obtain ⟨generation, there⟩ := awaits
      have same := (sameLine_renew s.countLogin now t .zero).without id
      exact .left _ there nofun { same with }

theorem Moves.inLine (moves : Moves s e s') (line : InLine s) : InLine s' := by
  cases moves with
  | still same => exact line.congr same
  | arrived same =>
      have arrived : InLine s.arrive :=
        ⟨line.standing, line.ascending, fun c member => Nat.lt_succ_of_lt (line.below c member)⟩
      exact arrived.congr same
  | joined stage turn same =>
      refine (line.enter ?_).congr same
      cases held : s.lock.holder.isSome with
      | true => simpa [held] using turn
      | false =>
          have logging : stage = .loggingIn s.generation := by simpa [held] using turn
          simp [logging]
  | started let_in same => exact (line.beginLogin let_in).congr same
  | left c member admitted same => exact (line.without member admitted).congr same

theorem Moves.callers (moves : Moves s e s') :
    s'.callers = s.callers ∨ (∃ demand, e = .begin demand) ∧ s'.callers = s.callers + 1 := by
  cases moves with
  | still same => exact Or.inl same.callers
  | arrived same => exact Or.inr ⟨⟨_, rfl⟩, same.callers⟩
  | joined stage turn same => exact Or.inr ⟨⟨_, rfl⟩, same.callers⟩
  | started let_in same => exact Or.inl same.callers
  | left c member admitted same => exact Or.inl same.callers

theorem Moves.callers_le (moves : Moves s e s') : s.callers ≤ s'.callers := by
  rcases moves.callers with same | ⟨_, more⟩
  · exact Nat.le_of_eq same.symm
  · rw [more]
    exact Nat.le_succ _

inductive Origin (s : Renewing) (d : Caller) : Prop
  | same (there : d ∈ s.calls)
  | new (number : d.id = s.callers)
  | next (waited : waiter d.id ∈ s.calls) (stage : d.stage = .granted)
  | began (let_in : ⟨d.id, .granted⟩ ∈ s.calls) (stage : d.stage = .loggingIn s.generation)

theorem Moves.origin (moves : Moves s e s') (line : InLine s) {d : Caller} (there : d ∈ s'.calls) :
    Origin s d := by
  cases moves with
  | still same => exact .same (same.calls ▸ there)
  | arrived same => exact .same (same.calls ▸ there)
  | joined stage turn same =>
      rw [same.calls] at there
      rcases List.mem_append.mp there with older | new
      · exact .same older
      · rw [List.mem_singleton.mp new]
        exact .new rfl
  | started let_in same =>
      rw [same.calls] at there
      rcases mem_setStage.mp there with ⟨older, _⟩ | ⟨rfl, _⟩
      · exact .same older
      · exact .began let_in rfl
  | left c member admitted same =>
      rw [same.calls] at there
      obtain ⟨waited, granted | waits⟩ := line.mem_without member admitted there
      · exact .next waited granted
      · have whole : d = waiter d.id := by
          rw [waiter, ← waits]
        exact .same (whole ▸ waited)

def Awaited (s : Renewing) (h : History Event) : Prop :=
  History.Keeps next (fun s _ e => s.Awaits e) s h

theorem inLine_new (window : RenewalWindow) : InLine { window } := ⟨.free, List.Pairwise.nil, nofun⟩

theorem InLine.next (line : InLine s) (awaits : s.Awaits e) : InLine (s.next now e) :=
  ((step_effect s now e).moves awaits).inLine line

end Renewing

end Leasehold.Session

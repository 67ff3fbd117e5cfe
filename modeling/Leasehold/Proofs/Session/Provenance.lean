import Leasehold.Proofs.Session.Callers

/-!
# Where the tokens of a session come from

One history is looked at in several places.  A request opens at one place, its
reply is taken in as a token at another, and a caller that began at a third is
given that token at a fourth.  Every token in place was obtained by a request
that opened earlier (`token_obtained`, `Obtains.opened`), and a request belongs
to the generation in which the login or the cycle that makes it has started
(`Opens.started`): only in that generation is its token put in place
(`Effect.token_or_generation`).
-/

set_option autoImplicit false

namespace Leasehold.Session.Renewing

variable {s s' : Renewing} {now : Instant} {e : Event} {r : Request} {generation : UInt64}
  {h : History Event} {i k : Nat}

/-! ## Places of a history -/

def found (s : Renewing) (h : History Event) (i : Nat) : Renewing := s.run (h.take i)

def Begins (s : Renewing) (h : History Event) (i id : Nat) : Prop :=
  ∃ now e, h[i]? = some (now, e) ∧ e.begins? ((s.found h i).step now e).result = some id

def Returns (s : Renewing) (h : History Event) (i : Nat) (now : Instant) (id : Nat)
    (result : Outcome TokenInstance) : Prop :=
  ∃ e, h[i]? = some (now, e) ∧ e.returns? ((s.found h i).step now e).result = some (id, result)

def Opens (s : Renewing) (h : History Event) (i : Nat) (r : Request) : Prop :=
  ∃ now e, h[i]? = some (now, e) ∧ e.asks? ((s.found h i).step now e).result = some r

def Rings (s : Renewing) (h : History Event) (i n : Nat) : Prop :=
  ∃ now task call, h[i]? = some (now, .ring task) ∧
    ((s.found h i).ring task).result = some (n, call)

/-- At a place of a history begins what a request is made for: the login of a caller, or the whole
cycle. -/
def Starts (s : Renewing) (h : History Event) (i : Nat) : Request → Prop
  | .callerLogin id => Opens s h i (.callerLogin id)
  | .renewal n | .cycleLogin n => Rings s h i n

def Obtains (s : Renewing) (h : History Event) (i : Nat) (r : Request) (t : TokenInstance) : Prop :=
  ∃ now e, h[i]? = some (now, e) ∧ e.replies? = some (r, .ok t.token) ∧
    t.serial = (s.found h i).serials ∧ (s.found h (i + 1)).serials = (s.found h i).serials + 1

theorem found_succ (here : h[i]? = some (now, e)) :
    s.found h (i + 1) = (s.found h i).next now e := History.after_take_succ here

theorem found_run (s : Renewing) (h : History Event) (le : i ≤ k) :
    s.found h k = (s.found h i).run ((h.take k).drop i) := History.after_take_of_le s h le

theorem serials_le_found (s : Renewing) (h : History Event) (le : i ≤ k) :
    (s.found h i).serials ≤ (s.found h k).serials := by
  refine History.invariant_later (I := fun s' : Renewing => (s.found h i).serials ≤ s'.serials)
    (fun s' now e held => ?_) le (Nat.le_refl _)
  exact Nat.le_trans held (step_effect s' now e).onward.serials_le

theorem token_gone_found {t : TokenInstance} (le : i ≤ k) (below : t.serial < (s.found h i).serials)
    (gone : (s.found h i).token ≠ some t) : (s.found h k).token ≠ some t := by
  rw [found_run s h le]
  exact token_gone_run _ below gone

/-! ## Requests in flight -/

inductive CycleOrigin (s : Renewing) (now : Instant) : Event → Nat → Cycle → Prop
  | same {e : Event} {n : Nat} {c : Cycle} (there : (n, c) ∈ s.cycles.items) :
      CycleOrigin s now e n c
  | began (task : Nat) (t : TokenInstance) (serving : s.terminated = false)
      (installed : s.token = some t) :
      CycleOrigin s now (.ring task) s.cycles.issued ⟨s.generation, t, (firstCall t.token).1⟩
  | turned {n : Nat} {c : Cycle} (reply : Except VaultError Token)
      (there : (n, c) ∈ s.cycles.items) (turns : (s.renewalReply now n reply).result = .ok true) :
      CycleOrigin s now (.renewalReply n reply) n { c with stage := .loggingIn }

theorem Effect.cycle_origin (effect : Effect s now e s') {n : Nat} {c : Cycle}
    (flying : (n, c) ∈ s'.cycles.items) : CycleOrigin s now e n c := by
  cases effect with
  | began task t serving installed =>
      rcases Numbered.mem_add.mp flying with before | ⟨rfl, rfl⟩
      · exact .same before
      · exact .began task t serving installed
  | turned id reply d found failed =>
      obtain ⟨before, member, changed⟩ := Numbered.mem_change.mp flying
      by_cases same : n = id
      · subst same
        rw [if_pos rfl] at changed
        rw [← changed]
        refine .turned reply member ?_
        cases reply with
        | error error => simp only [renewalReply, found]
        | ok t => simp only [renewalReply, found, failed t rfl]
      · rw [if_neg same] at changed
        exact .same (changed ▸ member)
  | loggedIn id t =>
      obtain ⟨timers, slot, same, _⟩ := renew_spec s.countLogin now t .zero
      rw [same] at flying
      exact .same flying
  | broken id t d => exact .same (List.mem_filter.mp flying).1
  | discarded e id d outcome =>
      obtain ⟨tally, same⟩ := discarded_spec s e id
      rw [same] at flying
      exact .same (List.mem_filter.mp flying).1
  | renewed e id d t =>
      obtain ⟨tally, timers, slot, same, _⟩ := renewed_spec s now e id t
      rw [same] at flying
      exact .same (List.mem_filter.mp flying).1
  | failed e id d error =>
      obtain ⟨tally, timers, slot, same, _⟩ := failed_spec s now e id error
      rw [same] at flying
      exact .same (List.mem_filter.mp flying).1
  | unheard _ _ | answered _ | told _ | queued _ | admitted _ | gone _ | refused _ _ | resumed _
  | outdated _ _ | missed _ | invalidated | shutdown => exact .same flying

theorem callerLogin_next {id : Nat} (line : InLine s) (awaits : s.Awaits e)
    (pending : (s.next now e).Pending (.callerLogin id)) :
    s.Pending (.callerLogin id) ∨ e.asks? (s.step now e).result = some (.callerLogin id) := by
  obtain ⟨generation, there⟩ := pending
  have moves := (step_effect s now e).moves awaits
  have origin := moves.origin line there
  cases e with
  | begin demand =>
      change Caller.mk id _ ∈ (s.begin now demand).session.calls at there
      change _ ∨ Event.asks? (.begin demand) (s.begin now demand).result = _
      have begun := begin_begun s now demand
      generalize (s.begin now demand).result = answer at *
      generalize (s.begin now demand).session = after at *
      cases begun with
      | answered result _ same =>
          refine Or.inl ⟨generation, ?_⟩
          rcases same with rfl | rfl <;> exact there
      | queued =>
          rcases List.mem_append.mp there with before | new
          · exact Or.inl ⟨generation, before⟩
          · cases List.mem_singleton.mp new
      | admitted =>
          rcases List.mem_append.mp there with before | new
          · exact Or.inl ⟨generation, before⟩
          · cases List.mem_singleton.mp new
            exact Or.inr rfl
  | attempt caller =>
      change Caller.mk id _ ∈ (s.attempt now caller).session.calls at there
      change _ ∨ Event.asks? (.attempt caller) (s.attempt now caller).result = _
      have resumed := attempt_resumed s now caller
      generalize (s.attempt now caller).result = answer at *
      generalize (s.attempt now caller).session = after at *
      cases resumed with
      | answered result =>
          obtain ⟨_, granted | waits⟩ := line.mem_without awaits nofun there
          · cases granted
          · cases waits
      | login =>
          rcases mem_setStage.mp there with ⟨before, _⟩ | ⟨new, _⟩
          · exact Or.inl ⟨generation, before⟩
          · cases new
            exact Or.inr rfl
  | _ =>
      cases moves with
      | still same => exact Or.inl ⟨generation, same.calls ▸ there⟩
      | left c member admitted same =>
          rw [same.calls] at there
          obtain ⟨_, granted | waits⟩ := line.mem_without member admitted there
          · cases granted
          · cases waits

theorem ring_result (task : Nat) {t : TokenInstance} (serving : s.terminated = false)
    (installed : s.token = some t) :
    (s.ring task).result = some (s.cycles.issued, (firstCall t.token).2) := by
  unfold ring
  rw [if_neg (Bool.eq_false_iff.mp serving), installed]

theorem pending_next (line : InLine s) (awaits : s.Awaits e) (pending : (s.next now e).Pending r) :
    s.Pending r ∨ e.asks? (s.step now e).result = some r := by
  have rung (task : Nat) {t : TokenInstance} (serving : s.terminated = false)
      (installed : s.token = some t) :
      Event.asks? (.ring task) (s.step now (.ring task)).result =
        Event.asks? (.ring task) (some (s.cycles.issued, (firstCall t.token).2)) :=
    congrArg (Event.asks? (.ring task)) (ring_result task serving installed)
  cases r with
  | callerLogin id => exact callerLogin_next line awaits pending
  | renewal n =>
      obtain ⟨c, flying, stage⟩ := pending
      cases (step_effect s now e).cycle_origin flying with
      | same there => exact Or.inl ⟨c, there, stage⟩
      | began task t serving installed =>
          refine Or.inr ((rung task serving installed).trans ?_)
          unfold firstCall at stage ⊢
          cases renewable : t.token.renewable with
          | true => rfl
          | false =>
              rw [renewable] at stage
              cases stage
      | turned reply there turns => cases stage
  | cycleLogin n =>
      obtain ⟨c, flying, stage⟩ := pending
      cases (step_effect s now e).cycle_origin flying with
      | same there => exact Or.inl ⟨c, there, stage⟩
      | began task t serving installed =>
          refine Or.inr ((rung task serving installed).trans ?_)
          unfold firstCall at stage ⊢
          cases renewable : t.token.renewable with
          | true =>
              rw [renewable] at stage
              cases stage
          | false => rfl
      | turned reply there turns =>
          refine Or.inr ?_
          change Event.asks? (.renewalReply n reply) (s.renewalReply now n reply).result = _
          rw [turns]
          rfl

/-! ## Requests and generations -/

/-- A request that has been made is not made again, and while it is in flight it belongs to one
generation. -/
def Made (s : Renewing) (generation : UInt64) : Request → Prop
  | .callerLogin id => id < s.callers ∧ ∀ c ∈ s.calls, c.id = id → c.stage = .loggingIn generation
  | .renewal n | .cycleLogin n =>
      n < s.cycles.issued ∧ ∀ c, (n, c) ∈ s.cycles.items → c.generation = generation

theorem Made.next (made : Made s generation r) (line : InLine s) (awaits : s.Awaits e) :
    Made (s.next now e) generation r := by
  have effect := step_effect s now e
  have cycles : ∀ n, (n < s.cycles.issued ∧
      ∀ c, (n, c) ∈ s.cycles.items → c.generation = generation) →
      n < (s.next now e).cycles.issued ∧
        ∀ c, (n, c) ∈ (s.next now e).cycles.items → c.generation = generation := by
    rintro n ⟨below, same⟩
    refine ⟨Nat.lt_of_lt_of_le below effect.onward.begun_le, ?_⟩
    intro c flying
    rcases effect.onward.cycle n c flying with ⟨before, older, began, _⟩ | ⟨number, _⟩
    · exact began.symm.trans (same before older)
    · exact absurd number (Nat.ne_of_lt below)
  cases r with
  | callerLogin id =>
      obtain ⟨below, logging⟩ := made
      refine ⟨Nat.lt_of_lt_of_le below (effect.moves awaits).callers_le, ?_⟩
      intro c there number
      cases (effect.moves awaits).origin line there with
      | same before => exact logging c before number
      | new last => omega
      | next waited stage => cases logging _ waited number
      | began let_in stage => cases logging _ let_in number
  | renewal n => exact cycles n made
  | cycleLogin n => exact cycles n made

theorem begin_made (line : InLine s) {demand : Demand}
    (asks : Event.asks? (.begin demand) (s.begin now demand).result = some r) :
    ∃ id, r = .callerLogin id ∧ Made (s.begin now demand).session s.generation r := by
  have begun := begin_begun s now demand
  generalize (s.begin now demand).result = answer at *
  generalize (s.begin now demand).session = after at *
  cases begun with
  | answered result _ same => cases asks
  | queued => cases asks
  | admitted =>
      cases asks
      refine ⟨_, rfl, Nat.lt_succ_self _, ?_⟩
      intro c there number
      rcases List.mem_append.mp there with before | new
      · exact absurd number (Nat.ne_of_lt (line.below c before))
      · rw [List.mem_singleton.mp new]

theorem attempt_made (line : InLine s) {id : Nat} (let_in : ⟨id, .granted⟩ ∈ s.calls)
    (asks : Event.asks? (.attempt id) (s.attempt now id).result = some r) :
    r = .callerLogin id ∧ Made (s.attempt now id).session s.generation r := by
  have resumed := attempt_resumed s now id
  generalize (s.attempt now id).result = answer at *
  generalize (s.attempt now id).session = after at *
  cases resumed with
  | answered result => cases asks
  | login =>
      cases asks
      refine ⟨rfl, line.below _ let_in, ?_⟩
      intro c there number
      rcases mem_setStage.mp there with ⟨_, other⟩ | ⟨rfl, _⟩
      · exact absurd number other
      · rfl

theorem ring_made {task n : Nat} {call : CycleCall}
    (rings : (s.ring task).result = some (n, call)) :
    n < (s.ring task).session.cycles.issued ∧
      ∀ c, (n, c) ∈ (s.ring task).session.cycles.items → c.generation = s.generation := by
  obtain ⟨_, rfl, t, _, session⟩ := ring_begins rings
  rw [session]
  refine ⟨Nat.lt_succ_self _, ?_⟩
  intro c flying
  rcases Numbered.mem_add.mp flying with before | ⟨_, rfl⟩
  · exact absurd (Numbered.lt_issued before) (Nat.lt_irrefl _)
  · rfl

theorem ring_asks {task : Nat} {answer : Option (Nat × CycleCall)}
    (asks : Event.asks? (.ring task) answer = some r) :
    ∃ n call, answer = some (n, call) ∧ (r = .renewal n ∨ r = .cycleLogin n) := by
  cases answer with
  | none => cases asks
  | some first =>
      obtain ⟨n, call⟩ := first
      refine ⟨n, call, rfl, ?_⟩
      cases call with
      | renew token => exact Or.inl (Option.some.inj asks).symm
      | login => exact Or.inr (Option.some.inj asks).symm

theorem renewalReply_asks {n : Nat} {reply : Except VaultError Token}
    {answer : Except InstantOverflow Bool}
    (asks : Event.asks? (.renewalReply n reply) answer = some r) : r = .cycleLogin n := by
  cases answer with
  | error beyond => cases asks
  | ok turns =>
      cases turns with
      | false => cases asks
      | true => exact (Option.some.inj asks).symm

/-! ## Tokens and replies -/

theorem mem_of_loginGeneration {id : Nat} (logging : s.loginGeneration id = some generation) :
    ⟨id, .loggingIn generation⟩ ∈ s.calls := by
  obtain ⟨c, member, found⟩ := List.exists_of_findSome?_eq_some logging
  obtain ⟨number, stage⟩ := c
  cases stage with
  | waiting => cases found
  | granted => cases found
  | loggingIn began =>
      dsimp only at found
      split at found
      · rename_i same
        cases found
        rwa [← same]
      · cases found

theorem Effect.token_or_generation (effect : Effect s now e s') {reply : Except VaultError Token}
    (replies : e.replies? = some (r, reply)) (made : Made s generation r) :
    s'.token = s.token ∨ s.generation = generation := by
  cases effect with
  | unheard e id => exact Or.inl rfl
  | refused id reply => exact Or.inl rfl
  | outdated id t => exact Or.inl rfl
  | loggedIn id t serving unchanged =>
      cases replies
      have stage := made.2 _ (mem_of_loginGeneration unchanged) rfl
      exact Or.inr (CallStage.loggingIn.inj stage)
  | turned id reply c => exact Or.inl rfl
  | broken id t c => exact Or.inl rfl
  | discarded e id c outcome =>
      obtain ⟨tally, same⟩ := discarded_spec s e id
      rw [same]
      exact Or.inl rfl
  | renewed e id c t answers found ends counts =>
      have flying := Numbered.find?_eq_some_iff.mp found
      have same : c.generation = generation := by
        cases e with
        | renewalReply n reply =>
            cases answers
            cases replies
            exact made.2 c flying
        | cycleLoginReply n reply =>
            cases answers
            cases replies
            exact made.2 c flying
        | _ => cases answers
      exact Or.inr (counts.2.trans same)
  | failed e id c error =>
      obtain ⟨tally, timers, slot, same, _⟩ := failed_spec s now e id error
      rw [same]
      exact Or.inl rfl
  | _ => cases replies

/-- A token that comes into place is the reply to a request. -/
theorem Effect.token_origin (effect : Effect s now e s') {t : TokenInstance}
    (installed : s'.token = some t) : s.token = some t ∨
      ∃ r, e.replies? = some (r, .ok t.token) ∧ t.serial = s.serials ∧
        s'.serials = s.serials + 1 := by
  cases effect with
  | loggedIn id token =>
      obtain ⟨timers, slot, same, _⟩ := renew_spec s.countLogin now token .zero
      rw [same] at installed ⊢
      cases installed
      exact Or.inr ⟨.callerLogin id, rfl, rfl, rfl⟩
  | renewed e id c token answers found ends =>
      obtain ⟨tally, timers, slot, same, _⟩ := renewed_spec s now e id token
      rw [same] at installed ⊢
      cases installed
      cases e with
      | renewalReply n reply =>
          cases reply with
          | error error => cases ends
          | ok gained =>
              simp only [Cycle.outcome?] at ends
              split at ends
              · cases ends
                exact Or.inr ⟨.renewal n, rfl, rfl, rfl⟩
              · cases ends
      | cycleLoginReply n reply =>
          cases ends
          exact Or.inr ⟨.cycleLogin n, rfl, rfl, rfl⟩
      | _ => cases answers
  | discarded e id c outcome =>
      obtain ⟨tally, same⟩ := discarded_spec s e id
      rw [same] at installed
      exact Or.inl installed
  | failed e id c error =>
      obtain ⟨tally, timers, slot, same, _⟩ := failed_spec s now e id error
      rw [same] at installed
      exact Or.inl installed
  | invalidated => cases installed
  | shutdown => cases installed
  | _ => exact Or.inl installed

/-! ## One history -/

section Places

variable {window : RenewalWindow} {t : TokenInstance}

theorem Awaited.at_place (awaited : Awaited s h) (here : h[i]? = some (now, e)) :
    (s.found h i).Awaits e := History.Keeps.at_place awaited here

theorem inLine_found (awaited : Awaited { window } h) (i : Nat) : InLine (found { window } h i) :=
  History.invariant_between (I := InLine) (fun _ _ _ line awaits => line.next awaits) awaited
    (Nat.zero_le i) (inLine_new window)

theorem numbering_found (window : RenewalWindow) (h : History Event) (i : Nat) :
    Numbering (found { window } h i) := numbering_run window (h.take i)

theorem callers_le_found (awaited : Awaited { window } h) (le : i ≤ k) :
    (found { window } h i).callers ≤ (found { window } h k).callers :=
  History.invariant_between
    (I := fun s : Renewing => (found { window } h i).callers ≤ s.callers)
    (fun s now e held awaits =>
      Nat.le_trans held ((step_effect s now e).moves awaits).callers_le)
    awaited le (Nat.le_refl _)

theorem made_found (awaited : Awaited { window } h) (le : i ≤ k)
    (made : Made (found { window } h i) generation r) :
    Made (found { window } h k) generation r :=
  (History.invariant_between (I := fun s => InLine s ∧ Made s generation r)
    (fun _ _ _ held awaits => ⟨held.1.next awaits, held.2.next held.1 awaits⟩) awaited le
    ⟨inLine_found awaited i, made⟩).2

/-- A cycle in flight began at an earlier place, in the generation and with the token that it
carries. -/
theorem cycle_found {n : Nat} {c : Cycle} (le : i ≤ h.length)
    (flying : (n, c) ∈ (found { window } h i).cycles.items) :
    ∃ p < i, Rings { window } h p n ∧ (found { window } h p).generation = c.generation ∧
      (found { window } h p).token = some c.start := by
  refine History.holds_at (P := fun i => ∀ n c, (n, c) ∈ (found { window } h i).cycles.items →
    ∃ p < i, Rings { window } h p n ∧ (found { window } h p).generation = c.generation ∧
      (found { window } h p).token = some c.start) nofun ?_ i le n c flying
  intro i now e here began n c flying
  rw [found_succ here] at flying
  cases (step_effect (found { window } h i) now e).cycle_origin flying with
  | same there =>
      obtain ⟨p, earlier, same⟩ := began n c there
      exact ⟨p, Nat.lt_succ_of_lt earlier, same⟩
  | began task t serving installed =>
      refine ⟨i, Nat.lt_succ_self i, ?_, rfl, installed⟩
      exact ⟨now, task, _, here, ring_result task serving installed⟩
  | @turned n c reply there =>
      obtain ⟨p, earlier, same⟩ := began n c there
      exact ⟨p, Nat.lt_succ_of_lt earlier, same⟩

theorem Rings.made {n : Nat} (rings : Rings s h i n) : n < (s.found h (i + 1)).cycles.issued ∧
    ∀ c, (n, c) ∈ (s.found h (i + 1)).cycles.items → c.generation = (s.found h i).generation := by
  obtain ⟨now, task, call, here, result⟩ := rings
  rw [found_succ here]
  exact ring_made result

theorem Rings.began {n : Nat} (rings : Rings s h i n) : (s.found h i).terminated = false ∧
    ∃ task t, (s.found h i).token = some t ∧
      s.found h (i + 1) = ((s.found h i).start task).beginCycle t := by
  obtain ⟨now, task, call, here, result⟩ := rings
  obtain ⟨serving, _, t, installed, session⟩ := ring_begins result
  exact ⟨serving, task, t, installed, (found_succ here).trans session⟩

/-- A request is made when the work for it starts or later, and belongs to the generation in which
the work has started. -/
theorem Opens.started (awaited : Awaited { window } h) (opens : Opens { window } h i r) :
    ∃ p ≤ i, Starts { window } h p r ∧
      Made (found { window } h (i + 1)) (found { window } h p).generation r := by
  have whole := opens
  obtain ⟨now, e, here, asks⟩ := opens
  have line := inLine_found awaited i
  have awaits := awaited.at_place here
  cases e with
  | begin demand =>
      obtain ⟨id, rfl, made⟩ := begin_made line asks
      refine ⟨i, Nat.le_refl i, whole, ?_⟩
      rwa [found_succ here]
  | attempt id =>
      obtain ⟨rfl, made⟩ := attempt_made line awaits asks
      refine ⟨i, Nat.le_refl i, whole, ?_⟩
      rwa [found_succ here]
  | ring task =>
      obtain ⟨n, call, rings, cycle⟩ := ring_asks asks
      have rung : Rings { window } h i n := ⟨now, task, call, here, rings⟩
      rcases cycle with rfl | rfl
      · exact ⟨i, Nat.le_refl i, rung, rung.made⟩
      · exact ⟨i, Nat.le_refl i, rung, rung.made⟩
  | renewalReply n reply =>
      obtain rfl := renewalReply_asks asks
      obtain ⟨c, flying, _⟩ := awaits
      obtain ⟨p, earlier, rung, generation, _⟩ :=
        cycle_found (Nat.le_of_lt (History.lt_length_of_place here)) flying
      have made : Made (found { window } h i) c.generation (.cycleLogin n) :=
        ⟨Numbered.lt_issued flying, fun d other => congrArg _ (Numbered.eq_of_mem other flying)⟩
      -- The cycle turns to the login, but it remains in the generation that it began in.
      refine ⟨p, Nat.le_of_lt earlier, rung, ?_⟩
      rw [found_succ here, generation]
      exact made.next line (awaited.at_place here)
  | _ => cases asks

theorem Starts.made (awaited : Awaited { window } h) (starts : Starts { window } h i r) :
    Made (found { window } h (i + 1)) (found { window } h i).generation r := by
  cases r with
  | renewal n => exact Rings.made starts
  | cycleLogin n => exact Rings.made starts
  | callerLogin id =>
      obtain ⟨now, e, here, asks⟩ := starts
      have line := inLine_found awaited i
      rw [found_succ here]
      cases e with
      | begin demand =>
          obtain ⟨_, _, made⟩ := begin_made line asks
          exact made
      | attempt id => exact (attempt_made line (awaited.at_place here) asks).2
      | ring task =>
          obtain ⟨n, call, _, other | other⟩ := ring_asks asks
          · cases other
          · cases other
      | renewalReply n reply => cases renewalReply_asks asks
      | _ => cases asks

theorem pending_opened (awaited : Awaited { window } h) (le : i ≤ h.length)
    (pending : (found { window } h i).Pending r) :
    ∃ p < i, Opens { window } h p r := by
  refine History.holds_at (P := fun i => (found { window } h i).Pending r →
    ∃ p < i, Opens { window } h p r) ?_ ?_ i le pending
  · intro pending
    cases r <;> exact absurd pending nofun
  · intro i now e here opened pending
    rw [found_succ here] at pending
    rcases pending_next (inLine_found awaited i) (awaited.at_place here) pending with before | asks
    · obtain ⟨p, earlier, opens⟩ := opened before
      exact ⟨p, Nat.lt_succ_of_lt earlier, opens⟩
    · exact ⟨i, Nat.lt_succ_self i, now, e, here, asks⟩

theorem Obtains.opened (awaited : Awaited { window } h) (obtains : Obtains { window } h k r t) :
    ∃ i < k, Opens { window } h i r := by
  obtain ⟨now, e, here, replies, _⟩ := obtains
  exact pending_opened awaited (Nat.le_of_lt (History.lt_length_of_place here))
    ((awaited.at_place here).pending replies)

theorem token_obtained (le : i ≤ h.length) (installed : (found { window } h i).token = some t) :
    ∃ k < i, ∃ r, Obtains { window } h k r t := by
  refine History.holds_at (P := fun i => (found { window } h i).token = some t →
    ∃ k < i, ∃ r, Obtains { window } h k r t) nofun ?_ i le installed
  intro i now e here obtained installed
  rw [found_succ here] at installed
  rcases (step_effect _ now e).token_origin installed with before | ⟨r, replies, serial, more⟩
  · obtain ⟨k, earlier, r, obtains⟩ := obtained before
    exact ⟨k, Nat.lt_succ_of_lt earlier, r, obtains⟩
  · refine ⟨i, Nat.lt_succ_self i, r, now, e, here, replies, serial, ?_⟩
    rw [found_succ here]
    exact more

theorem Obtains.unique {r' : Request} (first : Obtains s h i r t) (second : Obtains s h k r' t) :
    i = k ∧ r = r' := by
  obtain ⟨_, _, here, replies, serial, more⟩ := first
  obtain ⟨_, _, here', replies', serial', more'⟩ := second
  have same : i = k := by
    rcases Nat.lt_trichotomy i k with before | same | after
    · have counted : (s.found h (i + 1)).serials ≤ (s.found h k).serials :=
        serials_le_found s h before
      omega
    · exact same
    · have counted : (s.found h (k + 1)).serials ≤ (s.found h i).serials :=
        serials_le_found s h after
      omega
  subst same
  cases here.symm.trans here'
  cases replies.symm.trans replies'
  exact ⟨rfl, rfl⟩

end Places

end Leasehold.Session.Renewing

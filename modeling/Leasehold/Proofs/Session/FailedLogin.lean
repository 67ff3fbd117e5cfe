import Leasehold.Proofs.Session.SingleFlight
import Leasehold.Proofs.Session.Timers

/-!
# Logins that fail

A call whose own login fails has done nothing to the session but to stand in
line: each of its events leaves everything else as it found it
(`Manager.Spares`), since a call that has ended does not come back
(`away_between`), and one that was told the recorded error never logged in.
Nor is the failure kept: whoever comes next and finds no usable token logs in,
or stands behind one who does or is about to look
(`failed_login_spares_session`).
-/

set_option autoImplicit false

namespace Leasehold.Session

def Event.caller? : (e : Event) → e.Answer → Option Nat
  | .begin _, answer => some answer.1
  | .attempt id, _ => some id
  | .loginReply id _, _ => some id
  | _, _ => none

/-! ## What a call leaves as it is -/

namespace Manager

/-- A session that differs in nothing but its callers: their number, those in flight, the lock. -/
inductive Untouched : Manager → Manager → Prop
  | simple (s : Simple) (lock : Lock) (callers : Nat) :
      Untouched (.simple s) (.simple { s with lock, callers })
  | renewing (s : Renewing) (lock : Lock) (calls : List Caller) (callers : Nat) :
      Untouched (.renewing s) (.renewing { s with lock, calls, callers })

structure Spares (m : Manager) (now : Instant) (e : Event) : Prop where
  session : Untouched m (m.next now e)
  timer : (m.step now e).timer = none

theorem attempt_spares (m : Manager) (now : Instant) (id : Nat) : m.Spares now (.attempt id) := by
  cases m with
  | simple s =>
      obtain ⟨lock, same⟩ := Simple.attempt_spec s
      refine ⟨?_, ?_⟩
      · change Untouched (.simple s) (.simple s.attempt.session)
        rw [same]
        exact .simple s lock s.callers
      · change s.attempt.timer = none
        unfold Simple.attempt
        split
        · rfl
        · split <;> rfl
  | renewing s =>
      refine ⟨?_, Renewing.attempt_timer id⟩
      change Untouched (.renewing s) (.renewing (s.attempt now id).session)
      have resumed := Renewing.attempt_resumed s now id
      generalize (s.attempt now id).result = answer at *
      generalize (s.attempt now id).session = after at *
      cases resumed with
      | answered result => exact .renewing s _ _ s.callers
      | login => exact .renewing s s.lock _ s.callers

theorem refused_spares (m : Manager) (now : Instant) (id : Nat) (error : VaultError) :
    m.Spares now (.loginReply id (.error error)) := by
  cases m with
  | simple s => exact ⟨.simple s _ s.callers, rfl⟩
  | renewing s => exact ⟨.renewing s _ _ s.callers, rfl⟩

theorem begin_spares (m : Manager) (now : Instant) (demand : Demand)
    (open_ : ∀ r, (m.step now (.begin demand)).result.2 ≠ some (.answered r)) :
    m.Spares now (.begin demand) := by
  cases m with
  | simple s =>
      obtain ⟨lock, same⟩ := Simple.begin_spec s
      refine ⟨?_, ?_⟩
      · change Untouched (.simple s) (.simple s.begin.session)
        rw [same]
        exact .simple s lock _
      · change s.begin.timer = none
        unfold Simple.begin
        dsimp only
        split
        · rfl
        · split <;> rfl
  | renewing s =>
      refine ⟨?_, Renewing.begin_timer demand⟩
      change ∀ r, (s.begin now demand).result.2 ≠ some (.answered r) at open_
      change Untouched (.renewing s) (.renewing (s.begin now demand).session)
      have begun := Renewing.begin_begun s now demand
      generalize (s.begin now demand).result = answer at *
      generalize (s.begin now demand).session = after at *
      cases begun with
      | answered result => exact absurd rfl (open_ result)
      | queued => exact .renewing s _ _ _
      | admitted => exact .renewing s _ _ _

theorem begin_callers (m : Manager) (now : Instant) (demand : Demand) :
    (m.next now (.begin demand)).callers = m.callers + 1 := by
  cases m with
  | simple s =>
      obtain ⟨lock, same⟩ := Simple.begin_spec s
      exact congrArg Simple.callers same
  | renewing s =>
      change (s.begin now demand).session.callers = s.callers + 1
      have begun := Renewing.begin_begun s now demand
      generalize (s.begin now demand).result = answer at *
      generalize (s.begin now demand).session = after at *
      cases begun with
      | answered result _ same => rcases same with rfl | rfl <;> rfl
      | queued => rfl
      | admitted => rfl

/-- A call that looks for a usable token, and finds none. -/
inductive FindsNone (m : Manager) (now : Instant) : Event → Prop
  | begin (demand : Demand) (serving : m.terminated = false)
      (unheard : demand = .token → m.recorded = none) (none : m.usable now = .ok none) :
      FindsNone m now (.begin demand)
  | attempt (id : Nat) (serving : m.terminated = false) (none : m.usable now = .ok none) :
      FindsNone m now (.attempt id)

theorem FindsNone.not_answered {m : Manager} {now : Instant} {demand : Demand}
    (finds : m.FindsNone now (.begin demand)) (r : Outcome TokenInstance) :
    (m.step now (.begin demand)).result.2 ≠ some (.answered r) := by
  cases finds with
  | begin _ serving unheard none =>
      cases m with
      | simple s =>
          have serves : s.terminated = false := serving
          have empty : s.token = Option.none := Except.ok.inj none
          change s.begin.result.2 ≠ _
          unfold Simple.begin
          simp only [serves, empty]
          cases s.lock.holder.isSome <;> exact nofun
      | renewing s =>
          have serves : s.terminated = false := serving
          have unusable : s.arrive.usable now = .ok Option.none := none
          have looks : (s.begin now demand).result.2 =
              (s.arrive.tokenOrLogin now s.callers).result := by
            unfold Renewing.begin
            dsimp only
            rw [if_neg (Bool.eq_false_iff.mp serves)]
            cases demand with
            | current => rfl
            | token =>
                have silent : s.recorded = Option.none := unheard rfl
                rw [silent]
          change (s.begin now demand).result.2 ≠ _
          rw [looks]
          unfold Renewing.tokenOrLogin
          rw [unusable]
          cases s.arrive.lock.holder.isSome with
          | true => simp
          | false => simp

end Manager

/-! ## The line of callers -/

namespace Line

variable {line line' : Line} {e : Event} {answer : e.Answer} {v : Nat} {phase : Phase}
  {queue : List Nat}

theorem mem_waiters (there : (v, phase) ∈ waiters queue) : v ∈ queue ∧ phase = .waiting := by
  obtain ⟨u, queued, same⟩ := List.mem_map.mp there
  cases same
  exact ⟨queued, rfl⟩

theorem mem_letIn (there : (v, phase) ∈ letIn queue) : v ∈ queue ∧ phase ≠ .loggingIn := by
  cases queue with
  | nil => cases there
  | cons u rest =>
      rcases List.mem_cons.mp there with head | behind
      · cases head
        exact ⟨List.mem_cons_self, nofun⟩
      · obtain ⟨queued, rfl⟩ := mem_waiters behind
        exact ⟨List.mem_cons_of_mem _ queued, nofun⟩

theorem mem_of_queued {first : Nat × Phase} (queued : v ∈ queue) :
    (v, .waiting) ∈ first :: waiters queue :=
  List.mem_cons_of_mem _ (List.mem_map_of_mem queued)

theorem Moved.older (moved : Moved line e answer line') (there : (v, phase) ∈ line') :
    (∃ before, (v, before) ∈ line) ∨ e.begins? answer = some v := by
  cases moved with
  | still _ _ _ aside => exact Or.inl ⟨phase, there⟩
  | answered _ demand id r => exact Or.inl ⟨phase, there⟩
  | queued _ demand id behind =>
      rcases List.mem_append.mp there with older | new
      · exact Or.inl ⟨phase, older⟩
      · cases List.mem_singleton.mp new
        exact Or.inr rfl
  | admitted demand id =>
      cases List.mem_singleton.mp there
      exact Or.inr rfl
  | started id queue =>
      rcases List.mem_cons.mp there with head | behind
      · cases head
        exact Or.inl ⟨.woken, List.mem_cons_self⟩
      · exact Or.inl ⟨phase, List.mem_cons_of_mem _ behind⟩
  | served id queue r => exact Or.inl ⟨.waiting, mem_of_queued (mem_letIn there).1⟩
  | ended id queue reply r => exact Or.inl ⟨.waiting, mem_of_queued (mem_letIn there).1⟩

theorem Moved.logs (moved : Moved line e answer line') (there : (v, .loggingIn) ∈ line') :
    (v, .loggingIn) ∈ line ∨ e.asks? answer = some (.callerLogin v) := by
  cases moved with
  | still _ _ _ aside => exact Or.inl there
  | answered _ demand id r => exact Or.inl there
  | queued _ demand id behind =>
      rcases List.mem_append.mp there with older | new
      · exact Or.inl older
      · cases List.mem_singleton.mp new
  | admitted demand id =>
      cases List.mem_singleton.mp there
      exact Or.inr rfl
  | started id queue =>
      rcases List.mem_cons.mp there with head | behind
      · cases head
        exact Or.inr rfl
      · cases (mem_waiters behind).2
  | served id queue r => exact absurd rfl (mem_letIn there).2
  | ended id queue reply r => exact absurd rfl (mem_letIn there).2

theorem Moved.answers {demand : Demand} {r : Outcome TokenInstance}
    (moved : Moved line (.begin demand) (v, some (.answered r)) line') : line' = line := by
  cases moved with
  | still _ _ _ aside => cases aside
  | answered _ demand id r => rfl

theorem Moved.joins {demand : Demand} (moved : Moved line (.begin demand) (v, none) line') :
    line ≠ [] ∧ line' = line ++ [(v, .waiting)] := by
  cases moved with
  | still _ _ _ aside => cases aside
  | queued _ demand id behind => exact ⟨behind, rfl⟩

end Line

namespace Watched

variable {w : Watched} {c : SessionConfig} {h : History Event} {now : Instant} {e : Event}
  {i j k p v id : Nat} {error : VaultError}

theorem Lined.ascending (lined : Lined w) : (w.line.map Prod.fst).Pairwise (· < ·) := by
  have numbers (calls : List Caller) : (seen calls).map Prod.fst = calls.map Caller.id := by
    unfold seen
    rw [List.map_map]
    rfl
  cases lined with
  | renewing s line =>
      change ((seen s.calls).map Prod.fst).Pairwise (· < ·)
      rw [numbers]
      exact line.ascending
  | simple s calls line =>
      change ((seen calls).map Prod.fst).Pairwise (· < ·)
      rw [numbers]
      exact line.ascending

/-! ## Calls that have ended -/

structure Away (w : Watched) (id : Nat) : Prop where
  numbered : id < w.manager.callers
  absent : ∀ phase, (id, phase) ∉ w.line

theorem begins_number {m : Manager} (begins : e.begins? (m.step now e).result = some id) :
    id = m.callers := by
  cases e with
  | begin demand =>
      have number := Manager.begin_number m now demand
      exact (Option.some.inj begins).symm.trans number
  | _ => cases begins

theorem away_succ (awaited : (ofConfig c).Awaited h) (here : h[p]? = some (now, e))
    (away : Away ((ofConfig c).found h p) id) : Away ((ofConfig c).found h (p + 1)) id where
  numbered := by
    rw [found_succ here]
    exact Nat.lt_of_lt_of_le away.numbered (Manager.callers_le _ now e)
  absent := by
    intro phase there
    rcases (moved_found awaited here).older there with ⟨before, older⟩ | begins
    · exact away.absent before older
    · exact Nat.ne_of_lt away.numbered (begins_number begins)

theorem away_between (awaited : (ofConfig c).Awaited h) (le : i ≤ k) (within : k ≤ h.length)
    (away : Away ((ofConfig c).found h i) id) : Away ((ofConfig c).found h k) id :=
  History.holds_between (P := fun p => Away ((ofConfig c).found h p) id) le within away
    fun _ _ _ _ _ here => away_succ awaited here

theorem away_of_reply {reply : Except VaultError Token} (awaited : (ofConfig c).Awaited h)
    (here : h[k]? = some (now, .loginReply id reply)) : Away ((ofConfig c).found h (k + 1)) id := by
  obtain ⟨queue, before, after⟩ := (moved_found awaited here).ends
  have numbered : id < ((ofConfig c).found h k).manager.callers :=
    (lined_found awaited k).below (awaited.at_place here)
  refine ⟨?_, fun phase there => ?_⟩
  · rw [found_succ here]
    exact Nat.lt_of_lt_of_le numbered (Manager.callers_le _ now _)
  · rw [after] at there
    have order := (lined_found awaited k).ascending
    rw [before, List.map_cons, List.pairwise_cons] at order
    have later := order.1 id (List.mem_map_of_mem (List.mem_map_of_mem (Line.mem_letIn there).1))
    exact Nat.lt_irrefl id later

theorem away_of_answer {demand : Demand} {r : Outcome TokenInstance}
    (awaited : (ofConfig c).Awaited h) (here : h[p]? = some (now, .begin demand))
    (answered : (((ofConfig c).found h p).manager.step now (.begin demand)).result =
      (id, some (.answered r))) : Away ((ofConfig c).found h (p + 1)) id := by
  have number : id = ((ofConfig c).found h p).manager.callers := by
    have given := Manager.begin_number ((ofConfig c).found h p).manager now demand
    rwa [answered] at given
  have same : ((ofConfig c).found h (p + 1)).line = ((ofConfig c).found h p).line := by
    have moved := moved_found awaited here
    rw [answered] at moved
    exact moved.answers
  refine ⟨?_, fun phase there => ?_⟩
  · rw [found_succ here]
    change id < (((ofConfig c).found h p).manager.next now (.begin demand)).callers
    rw [Manager.begin_callers, number]
    exact Nat.lt_succ_self _
  · rw [same] at there
    exact Nat.ne_of_lt ((lined_found awaited p).below there) number

/-! ## Calls whose login fails -/

section Failed

variable (awaited : (ofConfig c).Awaited h)
  (failed : h[k]? = some (now, .loginReply id (.error error)))

include awaited failed in
theorem not_away (le : p ≤ k) (away : Away ((ofConfig c).found h p) id) : False := by
  have later := away_between awaited le (Nat.le_of_lt (History.lt_length_of_place failed)) away
  exact later.absent .loggingIn (awaited.at_place failed)

include awaited failed in
theorem away_after (lt : k < p) (within : p ≤ h.length) : Away ((ofConfig c).found h p) id :=
  away_between awaited lt within (away_of_reply awaited failed)

include awaited failed in
/-- Whatever belongs to a call whose login fails touches the callers only. -/
theorem spares_of_failed {now' : Instant} (here : h[p]? = some (now', e))
    (own : e.caller? (((ofConfig c).found h p).manager.step now' e).result = some id) :
    ((ofConfig c).found h p).manager.Spares now' e := by
  have within := Nat.le_of_lt (History.lt_length_of_place here)
  rcases Nat.lt_trichotomy p k with before | rfl | after
  · cases e with
    | begin demand =>
        refine Manager.begin_spares _ now' demand fun r answered => ?_
        have result : (((ofConfig c).found h p).manager.step now' (.begin demand)).result =
            (id, some (.answered r)) := Prod.ext (Option.some.inj own) answered
        exact not_away awaited failed before (away_of_answer awaited here result)
    | attempt caller => exact Manager.attempt_spares _ now' caller
    | loginReply caller reply =>
        cases own
        exact (not_away awaited failed before (away_of_reply awaited here)).elim
    | _ => cases own
  · cases here.symm.trans failed
    exact Manager.refused_spares _ _ id error
  · -- The call has ended, so nothing of it comes now.
    have away := away_after awaited failed after within
    cases e with
    | begin demand =>
        exact absurd (begins_number (e := .begin demand) own) (Nat.ne_of_lt away.numbered)
    | attempt caller =>
        cases own
        exact absurd (awaited.at_place here) (away.absent .woken)
    | loginReply caller reply =>
        cases own
        exact absurd (awaited.at_place here) (away.absent .loggingIn)
    | _ => cases own

/-! ## What comes next -/

include awaited in
theorem opens_of_attempt {now' : Instant} (here : h[j]? = some (now', .attempt v))
    (finds : ((ofConfig c).found h j).manager.FindsNone now' (.attempt v)) :
    Opens (ofConfig c) h j v := by
  cases finds with
  | attempt _ serving none => exact (opens_iff awaited here).mpr ⟨serving, none⟩

include awaited failed in
/-- Whoever logs in after a login has failed has begun to do so since. -/
theorem opened_since (lt : k < j) (within : j ≤ h.length)
    (there : (v, .loggingIn) ∈ ((ofConfig c).found h j).line) :
    ∃ q, k < q ∧ q < j ∧ Opens (ofConfig c) h q v := by
  refine History.holds_between (P := fun j => ∀ v, (v, .loggingIn) ∈ ((ofConfig c).found h j).line →
    ∃ q, k < q ∧ q < j ∧ Opens (ofConfig c) h q v) lt within ?_ ?_ v there
  · intro v there
    obtain ⟨queue, _, after⟩ := (moved_found awaited failed).ends
    rw [after] at there
    exact absurd rfl (Line.mem_letIn there).2
  · intro q now' e after _ here earlier v there
    rcases (moved_found awaited here).logs there with before | asks
    · obtain ⟨q', first, last, opens⟩ := earlier v before
      exact ⟨q', first, Nat.lt_succ_of_lt last, opens⟩
    · exact ⟨q, after, Nat.lt_succ_self q, now', e, here, asks⟩

include awaited failed in
/-- Whoever begins after a login has failed, and finds no usable token, logs in, or waits behind a
caller who has been let in or has begun a login since. -/
theorem opens_or_waits {now' : Instant} {demand : Demand} (lt : k < j)
    (here : h[j]? = some (now', .begin demand))
    (begins : (((ofConfig c).found h j).manager.step now' (.begin demand)).result.1 = v)
    (finds : ((ofConfig c).found h j).manager.FindsNone now' (.begin demand)) :
    Opens (ofConfig c) h j v ∨ (v, .waiting) ∈ ((ofConfig c).found h (j + 1)).line ∧
      ∃ u, (u, .woken) ∈ ((ofConfig c).found h j).line ∨
        ∃ q, k < q ∧ q < j ∧ Opens (ofConfig c) h q u := by
  have open_ := finds.not_answered
  have moved := moved_found awaited here
  cases result : (((ofConfig c).found h j).manager.step now' (.begin demand)).result with
  | mk caller turn =>
      rw [result] at begins open_ moved
      cases begins
      cases turn with
      | some turn =>
          cases turn with
          | answered r => exact absurd rfl (open_ r)
          | login =>
              refine Or.inl ⟨now', .begin demand, here, ?_⟩
              rw [result]
              rfl
      | none =>
          obtain ⟨behind, joined⟩ := moved.joins
          refine Or.inr ⟨?_, ?_⟩
          · rw [joined]
            exact List.mem_append_right _ (List.mem_singleton.mpr rfl)
          · rcases (lined_found awaited j).shape with none | ⟨u, phase, queue, admitted, whole⟩
            · exact absurd none behind
            · have first : (u, phase) ∈ ((ofConfig c).found h j).line := whole ▸ List.mem_cons_self
              cases phase with
              | waiting => exact absurd rfl admitted
              | woken => exact ⟨u, Or.inl first⟩
              | loggingIn =>
                  have within := Nat.le_of_lt (History.lt_length_of_place here)
                  exact ⟨u, Or.inr (opened_since awaited failed lt within first)⟩

end Failed

/-- The login of a call fails, in whatever state and order of events: the call returns that failure,
and none of its events has touched the token in place, its timer, the marks of a failed renewal and
the recorded error, the generation or a tally, or anything else but the line of callers.  After it,
a caller who finds no usable token when it is his turn logs in; one who comes and finds none logs in
at once, unless he stands behind one who has been let in, or who has begun a login since. -/
theorem failed_login_spares_session (c : SessionConfig) (h : History Event)
    (awaited : (ofConfig c).Awaited h) (k id : Nat) (now : Instant) (error : VaultError)
    (failed : h[k]? = some (now, .loginReply id (.error error))) :
    let w := ofConfig c
    ((w.found h k).manager.step now (.loginReply id (.error error))).result =
        .error (.error error) ∧
    (∀ p now' e, h[p]? = some (now', e) →
      e.caller? ((w.found h p).manager.step now' e).result = some id →
      (w.found h p).manager.Spares now' e) ∧
    (∀ j now' v, h[j]? = some (now', .attempt v) →
      (w.found h j).manager.FindsNone now' (.attempt v) → Opens w h j v) ∧
    ∀ j now' demand v, k < j → h[j]? = some (now', .begin demand) →
      ((w.found h j).manager.step now' (.begin demand)).result.1 = v →
      (w.found h j).manager.FindsNone now' (.begin demand) →
      Opens w h j v ∨ (v, .waiting) ∈ (w.found h (j + 1)).line ∧
        ∃ u, (u, .woken) ∈ (w.found h j).line ∨ ∃ q, k < q ∧ q < j ∧ Opens w h q u := by
  intro w
  refine ⟨?_, ?_, ?_, ?_⟩
  · cases (w.found h k).manager <;> rfl
  · exact fun p now' e here own => spares_of_failed awaited failed here own
  · exact fun j now' v here finds => opens_of_attempt awaited here finds
  · exact fun j now' demand v lt here begins finds =>
      opens_or_waits awaited failed lt here begins finds

/-- A renewal has failed and the token has expired; the logins of two callers fail, the second of
whom has waited, and a third comes. -/
def failedTwice : History Event :=
  Renewing.failedAt32 ++ [(⟨70000000000⟩, .begin .current), (⟨70000000000⟩, .begin .current),
    (⟨71000000000⟩, .loginReply 1 (.error .rateLimited)), (⟨71000000000⟩, .attempt 2),
    (⟨72000000000⟩, .loginReply 2 (.error .rateLimited)), (⟨73000000000⟩, .begin .current)]

theorem failed_login_spares_session_failedTwice :
    let w := ofConfig watchful
    failedTwice[9]? = some (⟨72000000000⟩, .loginReply 2 (.error .rateLimited)) ∧
    (w.found failedTwice 9).manager.status = .degraded ∧
    (w.found failedTwice 6).manager.Spares ⟨70000000000⟩ (.begin .current) ∧
    (w.found failedTwice 8).manager.Spares ⟨71000000000⟩ (.attempt 2) ∧
    (w.found failedTwice 9).manager.Spares ⟨72000000000⟩ (.loginReply 2 (.error .rateLimited)) ∧
    Opens w failedTwice 8 2 ∧
    (Opens w failedTwice 10 3 ∨ (3, .waiting) ∈ (w.found failedTwice 11).line ∧
      ∃ u, (u, .woken) ∈ (w.found failedTwice 10).line ∨
        ∃ q, 9 < q ∧ q < 10 ∧ Opens w failedTwice q u) := by
  have awaited : (ofConfig watchful).Awaited failedTwice :=
    ⟨trivial, List.mem_cons_self, trivial, ⟨_, List.mem_cons_self, rfl⟩,
      ⟨_, List.mem_cons_self, rfl⟩, trivial, trivial, List.mem_cons_self, List.mem_cons_self,
      List.mem_cons_self, trivial, trivial⟩
  obtain ⟨_, spares, resumed, next⟩ :=
    failed_login_spares_session watchful failedTwice awaited 9 2 ⟨72000000000⟩ .rateLimited rfl
  refine ⟨rfl, rfl, spares 6 _ _ rfl rfl, spares 8 _ _ rfl rfl, spares 9 _ _ rfl rfl, ?_, ?_⟩
  · exact resumed 8 _ 2 rfl (.attempt 2 rfl rfl)
  · exact next 10 _ .current 3 (by decide) rfl rfl (.begin .current rfl nofun rfl)

end Watched

end Leasehold.Session

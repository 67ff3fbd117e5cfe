import Leasehold.Proofs.Session.Line

/-!
# The line of a session

What the observer of a session keeps is the line in which its callers stand
(`Heard.line`).  A session without renewal moves its line as one with renewal
would (`Simple.step_heard`), so in both kinds one caller has been woken or is
logging in and the others wait behind, and an event moves the line as listed
(`Lined.moved`).
-/

set_option autoImplicit false

namespace Leasehold.Session

def CallStage.phase : CallStage → Phase
  | .waiting => .waiting
  | .granted => .woken
  | .loggingIn _ => .loggingIn

def seen (calls : List Caller) : Line := calls.map fun c => (c.id, c.stage.phase)

/-! ## One event -/

namespace Renewing

variable {s s' : Renewing} {now : Instant} {e : Event} {id : Nat}

/-- How an event is answered and whom it wakes, with what becomes of the line. -/
inductive Heard (s : Renewing) : (e : Event) → e.Answer → Option Nat → Renewing → Prop
  | still {e : Event} {answer : e.Answer} {s' : Renewing} (aside : e.ofCaller = false)
      (same : SameLine s s') :
      Heard s e answer none s'
  | answered {demand : Demand} {s' : Renewing} (r : Outcome TokenInstance)
      (same : SameLine s.arrive s') :
      Heard s (.begin demand) (s.callers, some (.answered r)) none s'
  | queued {demand : Demand} {s' : Renewing} (held : s.lock.holder.isSome = true)
      (same : SameLine (s.arrive.enter s.callers .waiting) s') :
      Heard s (.begin demand) (s.callers, none) none s'
  | admitted {demand : Demand} {s' : Renewing} (free : s.lock.holder.isSome = false)
      (same : SameLine (s.arrive.enter s.callers (.loggingIn s.generation)) s') :
      Heard s (.begin demand) (s.callers, some .login) none s'
  | started {id : Nat} {s' : Renewing} (same : SameLine (s.beginLogin id) s') :
      Heard s (.attempt id) .login none s'
  | served {id : Nat} {s' : Renewing} (r : Outcome TokenInstance)
      (same : SameLine (s.without id) s') :
      Heard s (.attempt id) (.answered r) s.lock.release.holder s'
  | ended {id : Nat} {s' : Renewing} (reply : Except VaultError Token) (r : Outcome TokenInstance)
      (same : SameLine (s.without id) s') :
      Heard s (.loginReply id reply) r s.lock.release.holder s'

theorem seen_setStage (calls : List Caller) (id : Nat) (stage : CallStage) :
    seen (setStage calls id stage) = (seen calls).turn id stage.phase := by
  unfold seen setStage Line.turn
  rw [List.map_map, List.map_map]
  apply List.map_congr_left
  intro c _
  simp only [Function.comp]
  split <;> rfl

theorem seen_waiters (queue : List Nat) : seen (queue.map waiter) = Line.waiters queue := by
  unfold seen Line.waiters
  rw [List.map_map]
  rfl

theorem seen_without (s : Renewing) (id : Nat) :
    seen (s.without id).calls = ((seen s.calls).leave id).wake s.lock.release.holder := by
  have left : seen (s.calls.filter fun c => c.id != id) = (seen s.calls).leave id := by
    unfold seen Line.leave
    rw [List.filter_map]
    rfl
  unfold Renewing.without Line.wake
  dsimp only
  rw [← left]
  cases s.lock.release.holder with
  | none => rfl
  | some next => exact seen_setStage _ next .granted

theorem Heard.line {answer : e.Answer} {woken : Option Nat} (heard : Heard s e answer woken s') :
    seen s'.calls = ((seen s.calls).hear e answer).wake woken := by
  cases heard with
  | still aside same =>
      rw [same.calls]
      cases e <;> first | rfl | cases aside
  | answered r same =>
      rw [same.calls]
      rfl
  | queued held same =>
      rw [same.calls]
      exact List.map_append
  | admitted free same =>
      rw [same.calls]
      exact List.map_append
  | started same =>
      rw [same.calls]
      exact seen_setStage s.calls _ (.loggingIn s.generation)
  | served r same =>
      rw [same.calls]
      exact seen_without s _
  | ended reply r same =>
      rw [same.calls]
      exact seen_without s _

theorem Heard.callers_le {answer : e.Answer} {woken : Option Nat}
    (heard : Heard s e answer woken s') : s.callers ≤ s'.callers := by
  cases heard with
  | still aside same => exact Nat.le_of_eq same.callers.symm
  | answered r same => exact same.callers ▸ Nat.le_succ s.callers
  | queued held same => exact same.callers ▸ Nat.le_succ s.callers
  | admitted free same => exact same.callers ▸ Nat.le_succ s.callers
  | started same => exact Nat.le_of_eq same.callers.symm
  | served r same => exact Nat.le_of_eq same.callers.symm
  | ended reply r same => exact Nat.le_of_eq same.callers.symm

theorem Heard.moves {answer : e.Answer} {woken : Option Nat} (heard : Heard s e answer woken s')
    (awaits : s.Awaits e) : Moves s e s' := by
  cases heard with
  | still aside same => exact .still same
  | answered r same => exact .arrived same
  | queued held same =>
      refine .joined .waiting ?_ same
      rw [if_pos held]
  | admitted free same =>
      refine .joined (.loggingIn s.generation) ?_ same
      rw [free]
      rfl
  | started same => exact .started awaits same
  | served r same => exact .left _ awaits nofun same
  | ended reply r same =>
      obtain ⟨generation, there⟩ := awaits
      exact .left _ there nofun same

theorem seen_leaving (line : InLine s) {c : Caller} (member : c ∈ s.calls)
    (admitted : c.stage ≠ .waiting) : seen (s.without c.id).calls = Line.letIn s.lock.queue := by
  rw [line.without_calls member admitted]
  cases s.lock.queue with
  | nil => rfl
  | cons next rest => exact congrArg ((next, Phase.woken) :: ·) (seen_waiters rest)

theorem seen_calls (line : InLine s) {c : Caller} (member : c ∈ s.calls)
    (admitted : c.stage ≠ .waiting) :
    seen s.calls = (c.id, c.stage.phase) :: Line.waiters s.lock.queue := by
  rw [(line.first member admitted).2]
  exact congrArg ((c.id, c.stage.phase) :: ·) (seen_waiters s.lock.queue)

theorem Heard.moved {answer : e.Answer} {woken : Option Nat} (heard : Heard s e answer woken s')
    (line : InLine s) (awaits : s.Awaits e) :
    Line.Moved (seen s.calls) e answer (seen s'.calls) := by
  cases heard with
  | still aside same =>
      rw [same.calls]
      exact .still _ e answer aside
  | answered r same =>
      rw [same.calls]
      exact .answered (seen s.calls) _ s.callers r
  | queued held same =>
      rw [same.calls]
      change Line.Moved (seen s.calls) _ _ (seen (s.calls ++ [waiter s.callers]))
      unfold seen
      rw [List.map_append]
      refine .queued _ _ s.callers ?_
      have standing := line.standing
      generalize s.lock = lock at *
      generalize s.calls = calls at *
      cases standing with
      | free => cases held
      | held first queue => exact nofun
  | admitted free same =>
      rw [same.calls]
      change Line.Moved (seen s.calls) _ _
        (seen (s.calls ++ [⟨s.callers, .loggingIn s.generation⟩]))
      have standing := line.standing
      generalize s.lock = lock at *
      generalize s.calls = calls at *
      cases standing with
      | free => exact .admitted _ s.callers
      | held first queue => cases free
  | started same =>
      rw [same.calls, line.beginLogin_calls awaits, seen_calls line awaits nofun]
      change Line.Moved _ _ _ ((_, Phase.loggingIn) :: seen (s.lock.queue.map waiter))
      rw [seen_waiters]
      exact .started _ s.lock.queue
  | served r same =>
      have left := seen_leaving line awaits nofun
      rw [same.calls, seen_calls line awaits nofun, left]
      exact .served _ s.lock.queue r
  | ended reply r same =>
      obtain ⟨generation, there⟩ := awaits
      have left := seen_leaving line there nofun
      rw [same.calls, seen_calls line there nofun, left]
      exact .ended _ s.lock.queue reply r

theorem begin_heard (s : Renewing) (now : Instant) (demand : Demand) :
    Heard s (.begin demand) (s.begin now demand).result (s.begin now demand).woken
      (s.begin now demand).session := by
  unfold Renewing.begin
  dsimp only
  split
  · exact .answered _ {}
  · split
    · exact .answered _ {}
    · have same : s.arrive.lock = s.lock := rfl
      unfold tokenOrLogin
      rw [same]
      split
      · exact .answered _ {}
      · exact .answered _ {}
      · split
        · rename_i held
          exact .queued held {}
        · rename_i free
          exact .admitted (Bool.eq_false_iff.mpr free) {}

theorem attempt_heard (s : Renewing) (now : Instant) (id : Nat) :
    Heard s (.attempt id) (s.attempt now id).result (s.attempt now id).woken
      (s.attempt now id).session := by
  unfold attempt
  split
  · exact .served _ {}
  · split
    · exact .served _ {}
    · exact .served _ {}
    · exact .started {}

theorem loginReply_heard (s : Renewing) (now : Instant) (id : Nat)
    (reply : Except VaultError Token) :
    Heard s (.loginReply id reply) (s.loginReply now id reply).result
      (s.loginReply now id reply).woken (s.loginReply now id reply).session := by
  cases reply with
  | error e => exact .ended _ _ {}
  | ok t =>
      unfold loginReply
      dsimp only
      split
      · exact .ended _ _ {}
      · split
        · have same := sameLine_renew s.countLogin now t .zero
          change Heard s _ _ (s.countLogin.renew now t .zero).lock.release.holder
            ((s.countLogin.renew now t .zero).without id)
          rw [same.lock]
          exact .ended _ _ { same.without id with }
        · exact .ended _ _ {}

/-! Work in the background wakes nobody. -/

theorem install_woken (s : Renewing) (now : Instant) (t : TokenInstance) (floor : Duration) :
    (s.install now t floor).woken = none := by
  unfold install
  dsimp only
  split
  · rfl
  · rfl
  · rfl

theorem conclude_woken (s : Renewing) (now : Instant) (n : Nat) (c : Cycle)
    (outcome : Except VaultError Token) : (s.conclude now n c outcome).woken = none := by
  unfold conclude
  dsimp only
  split
  · rfl
  · split
    · exact install_woken _ now _ pauseBetweenCycles
    · rfl

theorem step_woken (s : Renewing) (now : Instant) (aside : e.ofCaller = false) :
    (s.step now e).woken = none := by
  cases e with
  | ring task =>
      change (s.ring task).woken = none
      unfold ring
      split
      · rfl
      · split <;> rfl
  | renewalReply n reply =>
      change (s.renewalReply now n reply).woken = none
      unfold renewalReply
      split
      · rfl
      · split
        · rfl
        · split <;> rfl
  | cycleLoginReply n reply =>
      change (s.cycleLoginReply now n reply).woken = none
      unfold cycleLoginReply
      split
      · rfl
      · exact conclude_woken _ now n _ reply
  | invalidate => rfl
  | shutdown => rfl
  | _ => cases aside

theorem step_heard (s : Renewing) (now : Instant) (e : Event) :
    Heard s e (s.step now e).result (s.step now e).woken (s.next now e) := by
  cases aside : e.ofCaller with
  | false =>
      rw [step_woken s now aside]
      exact .still aside ((step_effect s now e).sameLine aside)
  | true =>
      cases e with
      | begin demand => exact begin_heard s now demand
      | attempt id => exact attempt_heard s now id
      | loginReply id reply => exact loginReply_heard s now id reply
      | _ => cases aside

end Renewing

/-! ## Sessions without renewal -/

namespace Simple

/-- A session without renewal moves its line as one with renewal does that has this line. -/
def mirror (s : Simple) (calls : List Caller) : Renewing where
  window := ⟨.zero, .zero⟩
  lock := s.lock
  calls := calls
  callers := s.callers

open Renewing (Heard SameLine)

theorem step_heard (s : Simple) (e : Event) (calls : List Caller) :
    ∃ calls', Heard (s.mirror calls) e (s.step e).result (s.step e).woken
      ((s.step e).session.mirror calls') := by
  cases e with
  | begin demand =>
      change ∃ calls', Heard (s.mirror calls) (.begin demand) s.begin.result s.begin.woken
        (s.begin.session.mirror calls')
      unfold Simple.begin
      dsimp only
      split
      · exact ⟨calls, .answered _ {}⟩
      · split
        · exact ⟨calls, .answered _ {}⟩
        · cases held : s.lock.holder.isSome with
          | true => exact ⟨_, .queued held {}⟩
          | false => exact ⟨_, .admitted held {}⟩
  | attempt id =>
      change ∃ calls', Heard (s.mirror calls) (.attempt id) s.attempt.result s.attempt.woken
        (s.attempt.session.mirror calls')
      unfold Simple.attempt
      split
      · exact ⟨_, .served _ {}⟩
      · split
        · exact ⟨_, .served _ {}⟩
        · exact ⟨_, .started {}⟩
  | loginReply id reply =>
      change ∃ calls', Heard (s.mirror calls) (.loginReply id reply) (s.loginReply reply).result
        (s.loginReply reply).woken ((s.loginReply reply).session.mirror calls')
      unfold Simple.loginReply
      split
      · exact ⟨_, .ended _ _ {}⟩
      · split
        · exact ⟨_, .ended _ _ {}⟩
        · exact ⟨_, .ended _ _ {}⟩
  | ring task => exact ⟨calls, .still rfl {}⟩
  | renewalReply n reply => exact ⟨calls, .still rfl {}⟩
  | cycleLoginReply n reply => exact ⟨calls, .still rfl {}⟩
  | invalidate => exact ⟨calls, .still rfl {}⟩
  | shutdown => exact ⟨calls, .still rfl {}⟩

end Simple

/-! ## Sessions of either kind -/

namespace Watched

open Renewing (InLine)

variable {w : Watched} {now : Instant} {e : Event}

/-- The observer has the line of the session, which stands in order. -/
inductive Lined : Watched → Prop
  | renewing (s : Renewing) (line : InLine s) : Lined ⟨.renewing s, seen s.calls⟩
  | simple (s : Simple) (calls : List Caller) (line : InLine (s.mirror calls)) :
      Lined ⟨.simple s, seen calls⟩

theorem lined_ofConfig (c : SessionConfig) : Lined (ofConfig c) := by
  unfold ofConfig Manager.ofConfig
  split
  · exact .renewing { window := c.window } (Renewing.inLine_new c.window)
  · exact .simple {} [] (Renewing.inLine_new ⟨.zero, .zero⟩)

theorem mem_seen {calls : List Caller} {id : Nat} {phase : Phase} :
    (id, phase) ∈ seen calls ↔ ∃ stage, ⟨id, stage⟩ ∈ calls ∧ stage.phase = phase := by
  unfold seen
  rw [List.mem_map]
  constructor
  · rintro ⟨⟨id, stage⟩, member, ⟨⟩⟩
    exact ⟨stage, member, rfl⟩
  · rintro ⟨stage, member, rfl⟩
    exact ⟨⟨id, stage⟩, member, rfl⟩

theorem granted_of_woken {calls : List Caller} {id : Nat} (woken : (id, .woken) ∈ seen calls) :
    ⟨id, .granted⟩ ∈ calls := by
  obtain ⟨stage, member, phase⟩ := mem_seen.mp woken
  cases stage with
  | granted => exact member
  | waiting => cases phase
  | loggingIn generation => cases phase

theorem began_of_loggingIn {calls : List Caller} {id : Nat}
    (logging : (id, .loggingIn) ∈ seen calls) :
    ∃ generation, ⟨id, .loggingIn generation⟩ ∈ calls := by
  obtain ⟨stage, member, phase⟩ := mem_seen.mp logging
  cases stage with
  | loggingIn generation => exact ⟨generation, member⟩
  | waiting => cases phase
  | granted => cases phase

theorem awaits_renewing {s : Renewing} (awaits : Awaits ⟨.renewing s, seen s.calls⟩ e) :
    s.Awaits e := by
  cases e with
  | attempt id => exact granted_of_woken awaits
  | loginReply id reply => exact began_of_loggingIn awaits
  | _ => exact awaits

theorem awaits_simple {s : Simple} {calls : List Caller}
    (awaits : Awaits ⟨.simple s, seen calls⟩ e) : (s.mirror calls).Awaits e := by
  cases e with
  | attempt id => exact granted_of_woken awaits
  | loginReply id reply => exact began_of_loggingIn awaits
  | renewalReply n reply => exact awaits.elim
  | cycleLoginReply n reply => exact awaits.elim
  | _ => exact awaits

theorem Lined.moved (lined : Lined w) (awaits : w.Awaits e) :
    Lined (w.next now e) ∧ w.line.Moved e (w.manager.step now e).result (w.next now e).line := by
  cases lined with
  | renewing s line =>
      have heard := Renewing.step_heard s now e
      have there := awaits_renewing awaits
      have after : next ⟨.renewing s, seen s.calls⟩ now e =
          ⟨.renewing (s.next now e), seen (s.next now e).calls⟩ := by
        rw [heard.line]
        rfl
      rw [after]
      exact ⟨.renewing _ ((heard.moves there).inLine line), heard.moved line there⟩
  | simple s calls line =>
      obtain ⟨calls', heard⟩ := Simple.step_heard s e calls
      have there := awaits_simple awaits
      have after : next ⟨.simple s, seen calls⟩ now e =
          ⟨.simple (s.step e).session, seen calls'⟩ := by
        have same : seen calls' = _ := heard.line
        rw [same]
        rfl
      rw [after]
      exact ⟨.simple _ calls' ((heard.moves there).inLine line), heard.moved line there⟩

theorem Lined.shape (lined : Lined w) : w.line = [] ∨
    ∃ u phase queue, phase ≠ .waiting ∧ w.line = (u, phase) :: Line.waiters queue := by
  have standing : ∃ lock calls, Renewing.Standing lock calls ∧ w.line = seen calls := by
    cases lined with
    | renewing s line => exact ⟨s.lock, s.calls, line.standing, rfl⟩
    | simple s calls line => exact ⟨s.lock, calls, line.standing, rfl⟩
  obtain ⟨lock, calls, standing, same⟩ := standing
  rw [same]
  cases standing with
  | free => exact Or.inl rfl
  | held first queue admitted =>
      refine Or.inr ⟨first.id, first.stage.phase, queue, ?_, ?_⟩
      · intro waits
        cases stage : first.stage with
        | waiting => exact admitted stage
        | granted => rw [stage] at waits; cases waits
        | loggingIn generation => rw [stage] at waits; cases waits
      · exact congrArg ((first.id, first.stage.phase) :: ·) (Renewing.seen_waiters queue)

theorem Lined.logins_le (lined : Lined w) : w.line.logins.length ≤ 1 := by
  have idle (queue : List Nat) : (Line.waiters queue).logins = [] := by
    unfold Line.logins
    rw [List.filter_eq_nil_iff]
    intro c member
    obtain ⟨id, _, rfl⟩ := List.mem_map.mp member
    exact nofun
  rcases lined.shape with none | ⟨u, phase, queue, _, whole⟩
  · rw [none]
    exact Nat.zero_le 1
  · rw [whole]
    have first : (Line.logins ((u, phase) :: Line.waiters queue)).length ≤
        ((Line.waiters queue).logins).length + 1 := by
      unfold Line.logins
      rw [List.filter_cons]
      split
      · exact Nat.le_refl _
      · exact Nat.le_succ _
    rwa [idle queue] at first

theorem Lined.front (lined : Lined w) {v : Nat} (woken : (v, .woken) ∈ w.line) :
    ∃ queue, w.line = Line.letIn (v :: queue) := by
  rcases lined.shape with none | ⟨u, phase, queue, _, whole⟩
  · rw [none] at woken
    cases woken
  · rw [whole] at woken ⊢
    rcases List.mem_cons.mp woken with head | behind
    · cases head
      exact ⟨queue, rfl⟩
    · obtain ⟨_, _, other⟩ := List.mem_map.mp behind
      cases other

theorem Lined.below (lined : Lined w) {v : Nat} {phase : Phase} (there : (v, phase) ∈ w.line) :
    v < w.manager.callers := by
  cases lined with
  | renewing s line =>
      obtain ⟨stage, member, _⟩ := mem_seen.mp there
      exact line.below _ member
  | simple s calls line =>
      obtain ⟨stage, member, _⟩ := mem_seen.mp there
      exact line.below _ member

end Watched

namespace Manager

theorem callers_le (m : Manager) (now : Instant) (e : Event) :
    m.callers ≤ (m.next now e).callers := by
  cases m with
  | simple s =>
      obtain ⟨calls, heard⟩ := Simple.step_heard s e []
      exact heard.callers_le
  | renewing s => exact (Renewing.step_heard s now e).callers_le

end Manager

end Leasehold.Session

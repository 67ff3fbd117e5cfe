import Leasehold.Proofs.Session.Overtaking
import Leasehold.Proofs.Session.Provenance

/-!
# Calls after the end of a session

A session that has ended lets no caller log in and begins no cycle.  A cycle that
was in flight is not stopped: when its renewal turns out to be in vain it asks
for a login all the same.  This is the only call that is made after the shutdown
(`asks_after_shutdown_iff`).
-/

set_option autoImplicit false

namespace Leasehold.Session.Renewing

variable {s s' : Renewing} {now : Instant} {e : Event} {r : Request} {n : Nat} {c : Cycle}

def Vain (c : Cycle) (reply : Except VaultError Token) : Prop :=
  ∀ t, reply = .ok t → exhausted c.start.token t = .ok true

theorem renewalReply_turns_iff (s : Renewing) (now : Instant) (n : Nat)
    (reply : Except VaultError Token) :
    (s.renewalReply now n reply).result = .ok true ↔
      ∃ c, s.cycles.find? n = some c ∧ Vain c reply := by
  unfold renewalReply
  cases found : s.cycles.find? n with
  | none => simp
  | some c =>
      cases reply with
      | error error => simp [Vain]
      | ok t =>
          rcases gain : exhausted c.start.token t with beyond | spent
          · simp [Vain, gain]
          · cases spent with
            | true => simp [Vain, gain]
            | false =>
                have stays : ((s.countRenewal.conclude now n c (.ok t)).result.map
                    fun _ => false) ≠ .ok true := by
                  cases (s.countRenewal.conclude now n c (.ok t)).result <;> exact nofun
                simp [Vain, gain, stays]

theorem asks_renewalReply_iff {reply : Except VaultError Token}
    {answer : Except InstantOverflow Bool} :
    Event.asks? (.renewalReply n reply) answer = some r ↔
      answer = .ok true ∧ r = .cycleLogin n := by
  rcases answer with beyond | turns
  · simp [Event.asks?]
  · cases turns <;> simp [Event.asks?, eq_comm]

/-! ## No other call -/

theorem asks_terminated_iff (ended : s.terminated = true) :
    e.asks? (s.step now e).result = some r ↔
      ∃ n reply c, e = .renewalReply n reply ∧ r = .cycleLogin n ∧
        s.cycles.find? n = some c ∧ Vain c reply := by
  constructor
  · intro asks
    cases e with
    | begin demand =>
        change Event.asks? (.begin demand) (s.begin now demand).result = _ at asks
        unfold Renewing.begin at asks
        dsimp only at asks
        rw [if_pos ended] at asks
        cases asks
    | attempt id =>
        change Event.asks? (.attempt id) (s.attempt now id).result = _ at asks
        unfold Renewing.attempt at asks
        rw [if_pos ended] at asks
        cases asks
    | ring task =>
        obtain ⟨m, call, rings, _⟩ := ring_asks asks
        cases (ring_begins rings).1.symm.trans ended
    | renewalReply m reply =>
        obtain ⟨turns, rfl⟩ := asks_renewalReply_iff.mp asks
        obtain ⟨c, found, vain⟩ := (renewalReply_turns_iff s now m reply).mp turns
        exact ⟨m, reply, c, rfl, rfl, found, vain⟩
    | loginReply id reply => cases asks
    | cycleLoginReply m reply => cases asks
    | invalidate => cases asks
    | shutdown => cases asks
  · rintro ⟨m, reply, c, rfl, rfl, found, vain⟩
    have turns := (renewalReply_turns_iff s now m reply).mpr ⟨c, found, vain⟩
    exact asks_renewalReply_iff.mpr ⟨turns, rfl⟩

/-! ## Cycles that outlive the session -/

theorem Effect.renewing_before (effect : Effect s now e s') (ended : s.terminated = true)
    (flying : (n, c) ∈ s'.cycles.items) (stage : c.stage = .renewing) :
    (n, c) ∈ s.cycles.items := by
  cases effect.cycle_origin flying with
  | same there => exact there
  | began task t serving => cases serving.symm.trans ended
  | turned reply there turns => cases stage

theorem renewing_run (ended : s.terminated = true) (h : History Event)
    (flying : (n, c) ∈ (s.run h).cycles.items) (stage : c.stage = .renewing) :
    (n, c) ∈ s.cycles.items := by
  induction h generalizing s with
  | nil => exact flying
  | cons event rest ih =>
      have effect := step_effect s event.1 event.2
      have later : (s.next event.1 event.2).terminated = true := by
        refine effect.onward.terminated.trans ?_
        rw [ended, Bool.true_or]
      exact effect.renewing_before ended (ih later flying) stage

/-- After the shutdown an event leads to a call to the server exactly if it is the vain reply to the
renewal of a cycle; the call is the login of that cycle, which was waiting for this very reply when
the session was shut down.  Callers make no call any more, nor do timers that ring. -/
theorem asks_after_shutdown_iff (window : RenewalWindow) (before after : History Event)
    (end_ now : Instant) (e : Event) (r : Request)
    (awaits : (run { window } (before ++ (end_, .shutdown) :: after)).Awaits e) :
    let s := run { window } (before ++ (end_, .shutdown) :: after)
    e.asks? (s.step now e).result = some r ↔
      ∃ n reply c, e = .renewalReply n reply ∧ r = .cycleLogin n ∧
        (n, c) ∈ (run { window } before).cycles.items ∧ c.stage = .renewing ∧
        s.cycles.find? n = some c ∧ Vain c reply := by
  intro s
  have split : s = ((run { window } before).next end_ .shutdown).run after :=
    History.after_append _ before _
  have start : ((run { window } before).next end_ .shutdown).terminated = true := rfl
  have ended : s.terminated = true := by
    rw [split, terminated_run, start, Bool.true_or]
  rw [asks_terminated_iff ended]
  constructor
  · rintro ⟨n, reply, c, rfl, rfl, found, vain⟩
    obtain ⟨d, flying, stage⟩ := awaits
    cases found.symm.trans (Numbered.find?_eq_some_iff.mpr flying)
    have member : (n, c) ∈ s.cycles.items := flying
    rw [split] at member
    have before_end : (n, c) ∈ ((run { window } before).next end_ .shutdown).cycles.items :=
      renewing_run start after member stage
    exact ⟨n, reply, c, rfl, rfl, before_end, stage, found, vain⟩
  · rintro ⟨n, reply, c, rfl, rfl, _, _, found, vain⟩
    exact ⟨n, reply, c, rfl, rfl, found, vain⟩

def renewingAt30 : History Event := loggedInAt0 ++ [(⟨30000000000⟩, .ring 0)]

/-- The session is shut down while the renewal is in flight, which fails four seconds later. -/
theorem asks_after_shutdown_iff_failedAt35 :
    let s := run { window := halfMinute } (renewingAt30 ++ (⟨31000000000⟩, .shutdown) :: [])
    let e : Event := .renewalReply 0 (.error .rateLimited)
    (e.asks? (s.step ⟨35000000000⟩ e).result = some (.cycleLogin 0) ↔
      ∃ n reply c, e = .renewalReply n reply ∧ Request.cycleLogin 0 = .cycleLogin n ∧
        (n, c) ∈ (run { window := halfMinute } renewingAt30).cycles.items ∧
        c.stage = .renewing ∧ s.cycles.find? n = some c ∧ Vain c reply) :=
  asks_after_shutdown_iff halfMinute renewingAt30 [] ⟨31000000000⟩ ⟨35000000000⟩ _ _
    ⟨⟨0, ⟨0, minute "first" 0⟩, .renewing⟩, List.mem_singleton.mpr rfl, rfl⟩

/-- A session that has been shut down still makes a call to the server. -/
theorem logs_in_after_shutdown :
    ¬ ∀ (window : RenewalWindow) (before after : History Event) (end_ now : Instant) (e : Event)
      (r : Request), (run { window } (before ++ (end_, .shutdown) :: after)).Awaits e →
        e.asks? ((run { window } (before ++ (end_, .shutdown) :: after)).step now e).result ≠
          some r := by
  intro silent
  refine silent halfMinute renewingAt30 [] ⟨31000000000⟩ ⟨35000000000⟩
    (.renewalReply 0 (.error .rateLimited)) (.cycleLogin 0) ?_ rfl
  exact ⟨⟨0, ⟨0, minute "first" 0⟩, .renewing⟩, List.mem_singleton.mpr rfl, rfl⟩

end Leasehold.Session.Renewing

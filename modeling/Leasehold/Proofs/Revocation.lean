import Leasehold.Proofs.Crowd
import Leasehold.Proofs.Lease.Punctuality
import Leasehold.Proofs.Lease.Termination

/-!
# Revocations

A lease is revoked by one call to the server, and leaves the registry when the
call has ended, however it has ended.  Between the look at the container with
which a revocation begins and its end anything may happen to the container:
what stands under the identifier by then is what leaves (`revokeReply_forgets`),
and it does not come back (`Barred`).
-/

set_option autoImplicit false

namespace Leasehold

open Activity (Leads)

/-! ## What the end of a revocation does -/

namespace Container

variable {c c' : Container} {now : Instant} {e : Event} {config : LeaseConfig} {id : String}
  {entry : Entry} {l : LeaseInstance} {reply : Outcome Unit}

/-- An identifier is unbound, and nothing else; what stood under it is reported as revoked, if
anything did. -/
structure Forgets (c c' : Container) (id : String) : Prop where
  gone : c'.entries.get? id = none
  others : ∀ other, other ≠ id → c'.entries.get? other = c.entries.get? other
  told : c'.feed.sent = c.feed.sent ++
    ((c.entries.get? id).map fun entry => LeaseEvent.removed entry.lease .revoked).toList

theorem next_revokeReply (returned : reply ≠ .error .overflow) :
    c.next now (.revokeReply id reply) = (c.remove id .revoked).1 := by
  change (c.revokeReply id reply).container = _
  unfold revokeReply
  split
  · exact absurd rfl returned
  · rfl

theorem result_revokeReply : (c.step now (.revokeReply id reply)).result = reply := by
  change (c.revokeReply id reply).result = reply
  unfold revokeReply
  split <;> rfl

theorem timer_revokeReply : (c.step now (.revokeReply id reply)).timer = none := by
  change (c.revokeReply id reply).timer = none
  unfold revokeReply
  split <;> rfl

theorem revokeReply_forgets (returned : reply ≠ .error .overflow) :
    Forgets c (c.next now (.revokeReply id reply)) id := by
  rw [next_revokeReply returned]
  unfold remove
  cases bound : c.entries.get? id with
  | none => exact ⟨bound, fun _ _ => rfl, by simp [bound]⟩
  | some entry =>
      refine ⟨Dictionary.get?_erase_self _ _, ?_, ?_⟩
      · exact fun _ apart => Dictionary.get?_erase_of_ne apart _
      · rw [bound]
        rfl

theorem revokeReply_live (numbering : Numbering c) (returned : reply ≠ .error .overflow)
    {other : String} {n : Nat} (apart : other ≠ id) (bound : c.entries.get? other = some entry)
    (handed : entry.task = some n) :
    (c.next now (.revokeReply id reply)).timers.holds n = c.timers.holds n := by
  rw [next_revokeReply returned]
  unfold remove
  split
  · rfl
  · exact Numbered.holds_cancel_of_ne (numbering.handle_ne bound handed apart)

/-! ## What has left stays away -/

/-- A lease is not in the registry, and nothing that is still going on for it has an effect: a reply
to a cycle of it moves nothing, and no cycle begins for it. -/
structure Barred (c : Container) (l : LeaseInstance) : Prop where
  absent : ¬ c.Registers l
  cycles : ∀ n d, c.cycles.find? n = some d → d.lease.serial = l.serial →
    ∀ now e, e.cycle? = some n → Unmoved c (c.next now e)
  rings : ∀ t, t.work.lease.serial = l.serial → ∀ now,
    (c.ring t).result = none ∧ (c.next now (.ring t)).entries = c.entries

theorem gone_of_absent {twin : LeaseInstance} (absent : ¬ c.Registers l)
    (same : twin.serial = l.serial) : c.current twin = false := by
  apply Bool.eq_false_iff.mpr
  intro current
  obtain ⟨id, entry, bound, serial⟩ := registers_of_current current
  exact absent ⟨id, entry, bound, serial.trans same⟩

theorem ring_gone {t : Timer LeaseTask} (gone : c.current t.work.lease = false) :
    (c.ring t).result = none ∧ (c.ring t).container = c.start t.task := by
  have started : (c.start t.task).current t.work.lease = false := gone
  unfold ring
  cases work : t.work with
  | expiry l =>
      rw [work] at started
      exact ⟨rfl, removeIfCurrent_of_gone l .expired started⟩
  | renewal l =>
      rw [work] at started
      dsimp only [LeaseTask.lease] at started
      simp only [started]
      exact ⟨rfl, rfl⟩

theorem barred_of_absent (absent : ¬ c.Registers l) : Barred c l where
  absent := absent
  cycles := by
    intro n d found same now e answers
    refine (step_effect c now e).unmoved answers ?_
    intro twin other
    cases found.symm.trans other
    exact gone_of_absent absent same
  rings := by
    intro t same now
    obtain ⟨result, container⟩ := ring_gone (gone_of_absent absent same)
    have entries := congrArg Container.entries container
    exact ⟨result, entries⟩

/-- What a revocation has removed does not come back, whatever happens. -/
theorem barred_after_revokeReply (config : LeaseConfig) (before meanwhile : History Event)
    (bound : ((new config).run before).entries.get? id = some entry)
    (returned : reply ≠ .error .overflow) :
    Barred ((new config).run (before ++ (now, .revokeReply id reply) :: meanwhile))
      entry.lease := by
  have numbering := numbering_run config before
  have start : ¬ (((new config).run before).next now (.revokeReply id reply)).Registers
      entry.lease := by
    rintro ⟨other, twin, found, same⟩
    have forgets : Forgets ((new config).run before)
        (((new config).run before).next now (.revokeReply id reply)) id :=
      revokeReply_forgets returned
    by_cases own : other = id
    · rw [own, forgets.gone] at found
      cases found
    · rw [forgets.others other own] at found
      exact own (numbering.serial_once other twin id entry found bound same)
  have taken : entry.lease.serial <
      (((new config).run before).next now (.revokeReply id reply)).serials :=
    Nat.lt_of_lt_of_le (numbering.serial_lt id entry bound) (step_effect _ now _).serials_le
  refine barred_of_absent ?_
  rw [run, History.after_append]
  refine (History.invariant_after
    (I := fun c : Container => entry.lease.serial < c.serials ∧ ¬ c.Registers entry.lease)
    (fun c now e held => ?_) meanwhile ⟨taken, start⟩).2
  have effect := step_effect c now e
  exact ⟨Nat.lt_of_lt_of_le held.1 effect.serials_le, effect.absent held.1 held.2⟩

end Container

/-! ## The moves of a revocation -/

namespace LeaseService

variable {σ J : Type} {h : LeaseService σ J} {id : String}
  {finish : Outcome Unit → Activity σ J Unit}

def Untouched (h : LeaseService σ J) (m : Move σ) : Prop := h.get m.after = h.get m.before

def Undergoes (h : LeaseService σ J) (e : Container.Event) (m : Move σ) : Prop :=
  h.get m.after = (h.get m.before).next m.now e

/-- How far a revocation has come by its moves, and what is left of it: it has not begun; it has
found the container shut down and has been refused; its one call to the server is not over; or the
call is over, the container has been told, and the revocation ends with what the call has ended
with.  Only when an instant beyond the clock has ended the call, so that it has no result, nothing
is removed. -/
inductive Revokes (h : LeaseService σ J) (id : String)
    (finish : Outcome Unit → Activity σ J Unit) : List (Move σ) → Activity σ J Unit → Prop
  | ready : Revokes h id finish [] ((h.revoke id).bind finish)
  | refused (opening : Move σ) (rest : List (Move σ)) (q : Activity σ J Unit)
      (looks : h.Untouched opening) (closed : (h.get opening.before).shutDown = true)
      (ends : Leads (finish (.error (.error .shutdown))) rest q) :
      Revokes h id finish (opening :: rest) q
  | calls (opening : Move σ) (calling : List (Move σ)) (p : Activity σ J (Outcome Unit))
      (looks : h.Untouched opening) (serving : (h.get opening.before).shutDown = false)
      (call : Leads (h.backend.revokeLease id) calling p) :
      Revokes h id finish (opening :: calling)
        (p.bind fun reply => (h.happen (.revokeReply id reply)).bind finish)
  | answered (opening : Move σ) (calling : List (Move σ)) (reply : Outcome Unit) (m : Move σ)
      (rest : List (Move σ)) (q : Activity σ J Unit) (looks : h.Untouched opening)
      (serving : (h.get opening.before).shutDown = false)
      (call : Leads (h.backend.revokeLease id) calling (.done reply))
      (hears : h.Undergoes (.revokeReply id reply) m)
      (removes : reply ≠ .error .overflow →
        Container.Forgets (h.get m.before) (h.get m.after) id)
      (ends : Leads (finish reply) rest q) :
      Revokes h id finish (opening :: (calling ++ m :: rest)) q

def effects {ρ : Type} (h : LeaseService σ J) (c : Container.Change ρ) : Activity σ J ρ := do
  match c.timer with
  | some t => Activity.spawn (h.job t)
  | none => pure ()
  return c.result

theorem happen_eq (h : LeaseService σ J) (e : Container.Event) :
    h.happen e = (Activity.act fun now s =>
      let c := (h.get s).step now e
      (h.put c.container s, c)).bind h.effects := rfl

theorem effects_silent {ρ : Type} {c : Container.Change ρ} (silent : c.timer = none) :
    h.effects c = .done c.result := by
  unfold effects
  rw [silent]
  rfl

theorem happen_first {α : Type} (lawful : ∀ c s, h.get (h.put c s) = c) {e : Container.Event}
    (silent : ∀ (c : Container) now, (c.step now e).timer = none) {f : e.Answer → Activity σ J α}
    {moves : List (Move σ)} {q : Activity σ J α} (leads : Leads ((h.happen e).bind f) moves q) :
    (moves = [] ∧ q = (h.happen e).bind f) ∨ ∃ m rest, moves = m :: rest ∧ h.Undergoes e m ∧
      Leads (f ((h.get m.before).step m.now e).result) rest q := by
  rw [happen_eq, Dialogue.bind_assoc] at leads
  cases leads with
  | here => exact Or.inl ⟨rfl, rfl⟩
  | @move _ _ _ now s _ _ moves goes later =>
      cases goes
      refine Or.inr ⟨_, moves, rfl, lawful _ _, ?_⟩
      change Leads ((h.effects ((h.get s).step now e)).bind f) moves q at later
      rwa [effects_silent (silent _ _)] at later

def goOn (h : LeaseService σ J) (id : String) :
    Except VaultError Unit → Activity σ J (Outcome Unit)
  | .error e => .done (.error (.error e))
  | .ok () => (h.backend.revokeLease id).bind fun reply => h.happen (.revokeReply id reply)

theorem revoke_eq (h : LeaseService σ J) (id : String) :
    h.revoke id = (h.happen .openCall).bind (h.goOn id) := by
  unfold revoke
  change Dialogue.bind _ _ = _
  congr 1

theorem revoke_leads (lawful : ∀ c s, h.get (h.put c s) = c) {moves : List (Move σ)}
    {q : Activity σ J Unit} (leads : Leads ((h.revoke id).bind finish) moves q) :
    h.Revokes id finish moves q := by
  rw [revoke_eq, Dialogue.bind_assoc] at leads
  rcases happen_first lawful (fun _ _ => rfl) leads with
    ⟨rfl, rfl⟩ | ⟨opening, rest, rfl, looks, later⟩
  · rw [← Dialogue.bind_assoc, ← revoke_eq]
    exact .ready
  change Leads ((h.goOn id (h.get opening.before).openCall).bind finish) rest q at later
  unfold Container.openCall at later
  cases closed : (h.get opening.before).shutDown with
  | true =>
      rw [if_pos closed] at later
      exact .refused opening rest q looks closed later
  | false =>
      rw [if_neg (Bool.eq_false_iff.mp closed)] at later
      change Leads (((h.backend.revokeLease id).bind _).bind finish) rest q at later
      rw [Dialogue.bind_assoc] at later
      rcases later.of_bind with ⟨p, call, rfl⟩ | ⟨reply, calling, last, rfl, call, settled⟩
      · exact .calls opening rest p looks closed call
      · rcases happen_first lawful (fun _ _ => Container.timer_revokeReply) settled with
          ⟨rfl, rfl⟩ | ⟨m, rest, rfl, hears, ends⟩
        · rw [List.append_nil]
          exact .calls opening calling (.done reply) looks closed call
        · rw [Container.result_revokeReply] at ends
          refine .answered opening calling reply m rest q looks closed call hears ?_ ends
          intro returned
          rw [hears]
          exact Container.revokeReply_forgets returned

end LeaseService

open Container (Barred)

/-- Among any other tasks, a revocation that finds the container open makes one call to the server
and ends with what that has ended with.  By its last move the identifier is unbound, whatever has
become of the container meanwhile; what stood under it, and only that, is reported as revoked, and
the rest of the registry is as it was, the tasks of the other leases included.  The lease that has
been removed does not come back: whatever happens afterwards, what is still going on for it has no
effect. -/
theorem revocation_removes {σ J : Type} (h : LeaseService σ J)
    (lawful : ∀ c s, h.get (h.put c s) = c) (id : String)
    (finish : Outcome Unit → Activity σ J Unit) (code : J → Activity σ J Unit) (crowd : Crowd σ J)
    (history : History Nat) (n : Nat)
    (bound : crowd.tasks[n]? = some ((h.revoke id).bind finish)) :
    (∃ q, (crowd.after code history).tasks[n]? = some q ∧
      h.Revokes id finish (crowd.moves code n history) q) ∧
    ∀ m reply, h.Undergoes (.revokeReply id reply) m → reply ≠ .error .overflow →
      ∀ config before, h.get m.before = (Container.new config).run before →
        (∀ other twin task, other ≠ id → (h.get m.before).entries.get? other = some twin →
          twin.task = some task →
          (h.get m.after).timers.holds task = (h.get m.before).timers.holds task) ∧
        ∀ entry, (h.get m.before).entries.get? id = some entry → ∀ meanwhile,
          Barred ((Container.new config).run
            (before ++ (m.now, .revokeReply id reply) :: meanwhile)) entry.lease := by
  refine ⟨?_, ?_⟩
  · obtain ⟨q, left, leads⟩ := Crowd.leads_after code crowd history bound
    exact ⟨q, left, LeaseService.revoke_leads lawful leads⟩
  · intro m reply hears returned config before reached
    rw [hears, reached]
    refine ⟨?_, ?_⟩
    · intro other twin task apart found handed
      exact Container.revokeReply_live (Container.numbering_run config before) returned apart found
        handed
    · intro entry found meanwhile
      exact Container.barred_after_revokeReply config before meanwhile found returned

/-! ## A lease that is revoked while it is renewed -/

section InFlight

open Container (new slowlyRefused twoMinutes)

/-- A lease whose renewal has begun. -/
def renewing : History Container.Event :=
  [(⟨0⟩, .register (twoMinutes "a" 0)),
    (⟨60000000000⟩, .ring ⟨0, .ofSecs 60, .renewal ⟨0, twoMinutes "a" 0⟩⟩)]

/-- A revocation, and the renewal of its lease, over a server that refuses everything. -/
def renewedAndRevoked : Crowd Container (Timer LeaseTask) where
  state := (new {}).run (renewing.take 1)
  tasks :=
    [(slowlyRefused.revoke "a").bind fun _ => .done (),
      slowlyRefused.runTimer ⟨0, .ofSecs 60, .renewal ⟨0, twoMinutes "a" 0⟩⟩]

def revokedInFlight : History Nat :=
  [(⟨0⟩, 1), (⟨60000000000⟩, 1), (⟨60000000000⟩, 1), (⟨61000000000⟩, 0), (⟨61000000000⟩, 0),
    (⟨3661000000000⟩, 0)]

/-- The revocation is refused, and the lease is gone; the renewal that ends later is without effect,
also when an equal lease has been registered before. -/
theorem revocation_removes_revokedInFlight :
    let refused : Outcome Unit := .error (.error .rateLimited)
    let moves := renewedAndRevoked.moves slowlyRefused.runTimer 0 revokedInFlight
    (∃ q, (renewedAndRevoked.after slowlyRefused.runTimer revokedInFlight).tasks[0]? = some q ∧
      slowlyRefused.Revokes "a" (fun _ => .done ()) moves q) ∧
    ∃ opening call m, moves = [opening, call, m] ∧ m.before = (new {}).run renewing ∧
      slowlyRefused.Undergoes (.revokeReply "a" refused) m ∧
      Barred ((new {}).run (renewing ++ (m.now, .revokeReply "a" refused) ::
        [(⟨3662000000000⟩, .register (twoMinutes "a" 3662000000000)),
          (⟨3663000000000⟩, .renewalReply 0 (.ok (twoMinutes "a" 3663000000000)))]))
        ⟨0, twoMinutes "a" 0⟩ := by
  intro refused moves
  obtain ⟨revokes, aftermath⟩ := revocation_removes slowlyRefused (fun _ _ => rfl) "a"
    (fun _ => .done ()) slowlyRefused.runTimer renewedAndRevoked revokedInFlight 0 rfl
  let m : Move Container := ⟨⟨3661000000000⟩, (new {}).run renewing,
    ((new {}).run renewing).next ⟨3661000000000⟩ (.revokeReply "a" refused)⟩
  obtain ⟨_, bars⟩ := aftermath m (.error (.error .rateLimited)) rfl nofun {} renewing rfl
  exact ⟨revokes, _, _, m, rfl, rfl, rfl, bars ⟨⟨0, twoMinutes "a" 0⟩, true, some 0⟩ rfl _⟩

end InFlight

end Leasehold

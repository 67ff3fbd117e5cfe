import Leasehold.Proofs.History
import Leasehold.Session.Renewing

/-!
# Effects of events on a renewing session

`Effect` lists what an event can do to a session, each with the conditions under
which it does so, and `step_effect` says that nothing else happens.  Callers
move the lock and the calls in flight; only a login that ends, a cycle that ends
in its own generation, an invalidation and the shutdown reach the token.
-/

set_option autoImplicit false

namespace Leasehold.Session

def Event.cycle? : Event → Option Nat
  | .renewalReply id _ => some id
  | .cycleLoginReply id _ => some id
  | _ => none

def Event.invalidates : Event → Bool
  | .invalidate => true
  | _ => false

def Event.ends : Event → Bool
  | .shutdown => true
  | _ => false

theorem Event.steady_of_cycle? {e : Event} {id : Nat} (answers : e.cycle? = some id) :
    e.invalidates = false ∧ e.ends = false := by
  cases e <;> first | exact ⟨rfl, rfl⟩ | cases answers

/-- How a reply ends a cycle: with a renewed token that is a gain, or with the outcome of the login
that the cycle fell back to. -/
def Cycle.outcome? (c : Cycle) : Event → Option (Except VaultError Token)
  | .renewalReply _ (.ok t) =>
      match Renewing.exhausted c.start.token t with
      | .ok false => some (.ok t)
      | _ => none
  | .cycleLoginReply _ reply => some reply
  | _ => none

namespace Renewing

def next (s : Renewing) (now : Instant) (e : Event) : Renewing := (s.step now e).session

abbrev run (s : Renewing) (h : History Event) : Renewing := History.after next s h

/-- Whether what a cycle brings still counts: the session has not ended, and it is in the generation
in which the cycle began. -/
def Counts (s : Renewing) (c : Cycle) : Prop :=
  s.terminated = false ∧ s.generation = c.generation

def renew (s : Renewing) (now : Instant) (t : Token) (floor : Duration) : Renewing :=
  ((s.takeIn t).1.install now (s.takeIn t).2 floor).session

def fail (s : Renewing) (now : Instant) (e : VaultError) : Renewing :=
  ((s.degrade e).setTimer now s.pauseAfterFailure).session

def counted (s : Renewing) : Event → Renewing
  | .renewalReply _ _ => s.countRenewal
  | .cycleLoginReply _ (.ok _) => s.countLogin
  | _ => s

inductive Effect (s : Renewing) (now : Instant) : Event → Renewing → Prop
  | unheard (e : Event) (id : Nat) (answers : e.cycle? = some id)
      (unknown : s.cycles.find? id = none) :
      Effect s now e s
  | answered (demand : Demand) (atOnce : s.terminated = true ∨ s.usable now ≠ .ok none) :
      Effect s now (.begin demand) s.arrive
  | told (e : VaultError) (recorded : s.recorded = some e) (serving : s.terminated = false) :
      Effect s now (.begin .token) s.arrive.tell
  | queued (demand : Demand) (held : s.lock.holder.isSome = true) (serving : s.terminated = false)
      (unusable : s.usable now = .ok none) :
      Effect s now (.begin demand) (s.arrive.enter s.callers .waiting)
  | admitted (demand : Demand) (free : s.lock.holder.isSome = false)
      (serving : s.terminated = false) (unusable : s.usable now = .ok none) :
      Effect s now (.begin demand) (s.arrive.enter s.callers (.loggingIn s.generation))
  | gone (id : Nat) (atOnce : s.terminated = true ∨ s.usable now ≠ .ok none) :
      Effect s now (.attempt id) (s.without id)
  | refused (id : Nat) (reply : Except VaultError Token)
      (lost : s.terminated = true ∨ ∃ e, reply = .error e) :
      Effect s now (.loginReply id reply) (s.without id)
  | resumed (id : Nat) (serving : s.terminated = false) (unusable : s.usable now = .ok none) :
      Effect s now (.attempt id) (s.beginLogin id)
  | outdated (id : Nat) (t : Token) (serving : s.terminated = false)
      (changed : s.loginGeneration id ≠ some s.generation) :
      Effect s now (.loginReply id (.ok t)) ((s.countLogin.takeIn t).1.without id)
  | loggedIn (id : Nat) (t : Token) (serving : s.terminated = false)
      (unchanged : s.loginGeneration id = some s.generation) :
      Effect s now (.loginReply id (.ok t)) ((s.countLogin.renew now t .zero).without id)
  | missed (task : Nat) (idle : s.terminated = true ∨ s.token = none) :
      Effect s now (.ring task) (s.start task)
  | began (task : Nat) (t : TokenInstance) (serving : s.terminated = false)
      (installed : s.token = some t) :
      Effect s now (.ring task) ((s.start task).beginCycle t)
  | turned (id : Nat) (reply : Except VaultError Token) (c : Cycle)
      (found : s.cycles.find? id = some c)
      (failed : ∀ t, reply = .ok t → exhausted c.start.token t = .ok true) :
      Effect s now (.renewalReply id reply) (s.turnToLogin id)
  | broken (id : Nat) (t : Token) (c : Cycle) (found : s.cycles.find? id = some c)
      (beyond : ∀ spent, exhausted c.start.token t ≠ .ok spent) :
      Effect s now (.renewalReply id (.ok t)) (s.endCycle id)
  | discarded (e : Event) (id : Nat) (c : Cycle) (outcome : Except VaultError Token)
      (answers : e.cycle? = some id) (found : s.cycles.find? id = some c)
      (ends : c.outcome? e = some outcome) (stale : ¬ s.Counts c) :
      Effect s now e ((s.counted e).endCycle id)
  | renewed (e : Event) (id : Nat) (c : Cycle) (t : Token) (answers : e.cycle? = some id)
      (found : s.cycles.find? id = some c) (ends : c.outcome? e = some (.ok t))
      (counts : s.Counts c) :
      Effect s now e (((s.counted e).endCycle id).renew now t pauseBetweenCycles)
  | failed (e : Event) (id : Nat) (c : Cycle) (error : VaultError) (answers : e.cycle? = some id)
      (found : s.cycles.find? id = some c) (ends : c.outcome? e = some (.error error))
      (counts : s.Counts c) :
      Effect s now e (((s.counted e).endCycle id).fail now error)
  | invalidated : Effect s now .invalidate s.invalidate
  | shutdown : Effect s now .shutdown s.shutdown

variable {s : Renewing} {now : Instant}

/-! ## Nothing else happens -/

theorem tokenOrLogin_effect (demand : Demand) (serving : s.terminated = false) :
    Effect s now (.begin demand) (s.arrive.tokenOrLogin now s.callers).session := by
  have same : s.arrive.usable now = s.usable now := rfl
  simp only [tokenOrLogin, same]
  cases usable : s.usable now with
  | error beyond => exact .answered demand (Or.inr (by simp [usable]))
  | ok found =>
      cases found with
      | some t => exact .answered demand (Or.inr (by simp [usable]))
      | none =>
          dsimp only
          split
          · rename_i held
            exact .queued demand held serving usable
          · rename_i free
            exact .admitted demand (Bool.eq_false_iff.mpr free) serving usable

theorem begin_effect (demand : Demand) :
    Effect s now (.begin demand) (s.begin now demand).session := by
  unfold Renewing.begin
  dsimp only
  split
  · rename_i terminated
    exact .answered demand (Or.inl terminated)
  · rename_i serving
    have serves : s.terminated = false := by simpa using serving
    split
    · rename_i e recorded
      exact .told e recorded serves
    · exact tokenOrLogin_effect _ serves

theorem attempt_effect (id : Nat) : Effect s now (.attempt id) (s.attempt now id).session := by
  unfold Renewing.attempt
  split
  · rename_i terminated
    exact .gone id (Or.inl terminated)
  · rename_i serving
    split
    · rename_i usable
      exact .gone id (Or.inr (by simp [usable]))
    · rename_i usable
      exact .gone id (Or.inr (by simp [usable]))
    · rename_i usable
      exact .resumed id (by simpa using serving) usable

theorem loginReply_effect (id : Nat) (reply : Except VaultError Token) :
    Effect s now (.loginReply id reply) (s.loginReply now id reply).session := by
  cases reply with
  | error e => exact .refused id _ (Or.inr ⟨e, rfl⟩)
  | ok t =>
      simp only [loginReply]
      cases terminated : s.terminated with
      | true => exact .refused id _ (Or.inl terminated)
      | false =>
          by_cases unchanged : s.loginGeneration id = some s.generation
          · simp only [unchanged, Bool.false_eq_true, if_false, if_true]
            exact .loggedIn id t terminated unchanged
          · simp only [unchanged, Bool.false_eq_true, if_false]
            exact .outdated id t terminated unchanged

theorem ring_effect (task : Nat) : Effect s now (.ring task) (s.ring task).session := by
  unfold Renewing.ring
  split
  · rename_i terminated
    exact .missed task (Or.inl terminated)
  · rename_i serving
    split
    · rename_i empty
      exact .missed task (Or.inr empty)
    · rename_i t installed
      exact .began task t (by simpa using serving) installed

theorem conclude_effect (e : Event) (id : Nat) (c : Cycle) (outcome : Except VaultError Token)
    (answers : e.cycle? = some id) (found : s.cycles.find? id = some c)
    (ends : c.outcome? e = some outcome) :
    Effect s now e ((s.counted e).conclude now id c outcome).session := by
  have terminated : ((s.counted e).endCycle id).terminated = s.terminated := by
    unfold counted
    split <;> rfl
  have generation : ((s.counted e).endCycle id).generation = s.generation := by
    unfold counted
    split <;> rfl
  unfold conclude
  dsimp only
  rw [terminated, generation]
  split
  · rename_i stale
    refine .discarded e id c outcome answers found ends ?_
    rintro ⟨serving, same⟩
    rcases stale with ended | changed
    · rw [serving] at ended
      cases ended
    · exact changed same
  · rename_i fresh
    obtain ⟨serving, same⟩ := not_or.mp fresh
    have counts : s.Counts c := ⟨Bool.eq_false_iff.mpr serving, Decidable.not_not.mp same⟩
    cases outcome with
    | ok t => exact .renewed e id c t answers found ends counts
    | error error => exact .failed e id c error answers found ends counts

theorem renewalReply_effect (id : Nat) (reply : Except VaultError Token) :
    Effect s now (.renewalReply id reply) (s.renewalReply now id reply).session := by
  cases found : s.cycles.find? id with
  | none =>
      simp only [renewalReply, found]
      exact .unheard _ id rfl found
  | some c =>
      cases reply with
      | error e =>
          simp only [renewalReply, found]
          exact .turned id _ c found nofun
      | ok t =>
          cases gain : exhausted c.start.token t with
          | error beyond =>
              simp only [renewalReply, found, gain]
              exact .broken id t c found (by simp [gain])
          | ok spent =>
              cases spent with
              | true =>
                  simp only [renewalReply, found, gain]
                  exact .turned id _ c found (by rintro _ ⟨⟩; exact gain)
              | false =>
                  simp only [renewalReply, found, gain]
                  exact conclude_effect _ id c (.ok t) rfl found (by simp [Cycle.outcome?, gain])

theorem cycleLoginReply_effect (id : Nat) (reply : Except VaultError Token) :
    Effect s now (.cycleLoginReply id reply) (s.cycleLoginReply now id reply).session := by
  cases found : s.cycles.find? id with
  | none =>
      simp only [cycleLoginReply, found]
      exact .unheard _ id rfl found
  | some c =>
      simp only [cycleLoginReply, found]
      cases reply with
      | error e => exact conclude_effect _ id c (.error e) rfl found rfl
      | ok t => exact conclude_effect _ id c (.ok t) rfl found rfl

theorem step_effect (s : Renewing) (now : Instant) (e : Event) : Effect s now e (s.next now e) := by
  cases e with
  | begin demand => exact begin_effect demand
  | attempt caller => exact attempt_effect caller
  | loginReply caller reply => exact loginReply_effect caller reply
  | ring task => exact ring_effect task
  | renewalReply cycle reply => exact renewalReply_effect cycle reply
  | cycleLoginReply cycle reply => exact cycleLoginReply_effect cycle reply
  | invalidate => exact .invalidated
  | shutdown => exact .shutdown

end Renewing

end Leasehold.Session

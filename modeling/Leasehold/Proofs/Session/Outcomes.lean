import Leasehold.Proofs.Session.LateCalls
import Leasehold.Proofs.Session.Serving
import Leasehold.Proofs.Session.Timers

/-!
# Outcomes of the cycles of a session

A cycle renews its token if that can be renewed, and logs in if it cannot or if
the renewal has been in vain; from the renewal it goes on to the login and not
back.  Its last reply is its outcome: a renewed token that lasts as long as the
one before, or whatever the login has brought (`Yields`).  If the session has
been left alone since the cycle began, the outcome is what it settles on
(`Settles`).  `yields_one_outcome` puts this together.
-/

set_option autoImplicit false

namespace Leasehold.Session.Renewing

variable {s s' : Renewing} {window : RenewalWindow} {h : History Event} {now : Instant} {e : Event}
  {r : Request} {i k n p q : Nat} {c : Cycle} {t : TokenInstance} {old : Token}
  {outcome : Except VaultError Token}

/-! ## One reply -/

/-- The renewal of a token has been in vain: it has failed, or the renewed token is granted nothing,
or ends before the old one. -/
def Futile (old : Token) : Except VaultError Token → Prop
  | .error _ => True
  | .ok new => new.validity = .finite .zero ∨ ∃ last, old.expiry = .ok (some last) ∧
      ∃ ending, new.expiry = .ok (some ending) ∧ ending < last

def Outlasts (new old : Token) : Prop :=
  ∀ last, old.expiry = .ok (some last) →
    ∃ ending, new.expiry = .ok ending ∧ ∀ instant, ending = some instant → last ≤ instant

theorem exhausted_iff {new : Token} {spent : Bool} (compared : exhausted old new = .ok spent) :
    spent = true ↔ Futile old (.ok new) := by
  unfold exhausted at compared
  unfold Futile
  cases ends : old.expiry with
  | error beyond =>
      rw [ends] at compared
      cases compared
  | ok last =>
      rw [ends] at compared
      rw [Validity.exhausted_iff compared]
      simp [Token.expiry]

theorem outlasts_of_gain {new : Token} (gain : exhausted old new = .ok false) :
    Outlasts new old := by
  intro last ends
  unfold exhausted at gain
  rw [ends] at gain
  exact Validity.lasts_of_gain gain

theorem conclude_cycles (s : Renewing) (now : Instant) (n : Nat) (c : Cycle)
    (outcome : Except VaultError Token) :
    (s.conclude now n c outcome).session.cycles = s.cycles.remove n := by
  by_cases counts : s.Counts c
  · cases outcome with
    | ok new =>
        rw [conclude_renews counts]
        obtain ⟨_, _, same, _⟩ := renew_spec (s.endCycle n) now new pauseBetweenCycles
        exact congrArg Renewing.cycles same
    | error error =>
        rw [conclude_fails counts]
        obtain ⟨_, _, same, _⟩ := fail_spec (s.endCycle n) now error
        exact congrArg Renewing.cycles same
  · rw [conclude_discards counts]
    rfl

theorem not_flying_of_ends (now : Instant) (answers : e.cycle? = some n)
    (found : s.cycles.find? n = some c) (ends : c.outcome? e = some outcome) (d : Cycle) :
    (n, d) ∉ (s.next now e).cycles.items := by
  rw [(cycle_concludes now answers found ends).2, conclude_cycles]
  exact fun flying => (Numbered.mem_remove.mp flying).2 rfl

/-- Within the clock a reply to a cycle either is in vain and leads to the login, or it ends the
cycle. -/
theorem reply_cases (answers : e.cycle? = some n) (found : s.cycles.find? n = some c)
    (within : e.overflows (s.step now e).result = false) :
    (∃ reply, e = .renewalReply n reply ∧ Futile c.start.token reply ∧
        e.asks? (s.step now e).result = some (.cycleLogin n) ∧ c.outcome? e = none) ∨
      ∃ outcome, c.outcome? e = some outcome ∧
        (∀ reply, e = .renewalReply n reply → ¬ Futile c.start.token reply) ∧
        e.asks? (s.step now e).result = none ∧
        ∀ d, (n, d) ∉ (s.next now e).cycles.items := by
  cases e with
  | renewalReply m reply =>
      cases answers
      have turns := renewalReply_turns_iff s now n reply
      cases reply with
      | error error =>
          have asked := turns.mpr ⟨c, found, by rintro _ ⟨⟩⟩
          exact Or.inl ⟨_, rfl, trivial, asks_renewalReply_iff.mpr ⟨asked, rfl⟩, rfl⟩
      | ok new =>
          obtain ⟨spent, gain⟩ := not_broken found within
          cases spent with
          | true =>
              have asked := turns.mpr ⟨c, found, by rintro _ ⟨⟩; exact gain⟩
              refine Or.inl ⟨_, rfl, (exhausted_iff gain).mp rfl,
                asks_renewalReply_iff.mpr ⟨asked, rfl⟩, ?_⟩
              simp only [Cycle.outcome?, gain]
          | false =>
              have ends : c.outcome? (.renewalReply n (.ok new)) = some (.ok new) := by
                simp only [Cycle.outcome?, gain]
              refine Or.inr ⟨_, ends, ?_, ?_, not_flying_of_ends now rfl found ends⟩
              · rintro _ ⟨⟩ vain
                cases (exhausted_iff gain).mpr vain
              · apply Option.eq_none_iff_forall_ne_some.mpr
                intro r asks
                obtain ⟨twin, same, vain⟩ := turns.mp (asks_renewalReply_iff.mp asks).1
                cases found.symm.trans same
                cases gain.symm.trans (vain new rfl)
  | cycleLoginReply m reply =>
      cases answers
      exact Or.inr ⟨reply, rfl, by rintro _ ⟨⟩, rfl, not_flying_of_ends now rfl found rfl⟩
  | _ => cases answers

/-- What the outcome of a cycle that counts leaves. -/
theorem outcome_settles (now : Instant) (answers : e.cycle? = some n)
    (found : s.cycles.find? n = some c) (ends : c.outcome? e = some outcome)
    (counts : s.Counts c) :
    (s.next now e).terminated = false ∧
      match outcome with
      | .ok new => (s.next now e).token = some ⟨s.serials, new⟩ ∧ (s.next now e).degraded = false
      | .error error => (s.next now e).token = s.token ∧ (s.next now e).degraded = true ∧
          (s.next now e).recorded = some error := by
  rw [(cycle_concludes now answers found ends).2]
  obtain ⟨tally, counted⟩ := counted_spec s e
  rw [counted]
  cases outcome with
  | ok new =>
      rw [conclude_renews (s := { s with tally }) counts]
      obtain ⟨_, _, same, _⟩ :=
        renew_spec (Renewing.endCycle { s with tally } n) now new pauseBetweenCycles
      have same := same
      unfold renew at same
      rw [same]
      exact ⟨counts.1, rfl, rfl⟩
  | error error =>
      rw [conclude_fails (s := { s with tally }) counts]
      obtain ⟨_, _, same, _⟩ := fail_spec (Renewing.endCycle { s with tally } n) now error
      dsimp only
      rw [same]
      exact ⟨counts.1, rfl, rfl, rfl⟩

/-! ## Requests of a cycle -/

def firstRequest (t : Token) (n : Nat) : Request :=
  if t.renewable then .renewal n else .cycleLogin n

theorem Rings.begins (rings : Rings s h p n) (starts : (s.found h p).token = some t) :
    ∃ now task, h[p]? = some (now, .ring task) ∧
      ((s.found h p).ring task).result = some (n, (firstCall t.token).2) := by
  obtain ⟨now, task, call, here, result⟩ := rings
  obtain ⟨serving, rfl, _⟩ := ring_begins result
  exact ⟨now, task, here, ring_result task serving starts⟩

theorem Rings.asks (rings : Rings s h p n) (starts : (s.found h p).token = some t) :
    Opens s h p (firstRequest t.token n) := by
  obtain ⟨now, task, here, result⟩ := rings.begins starts
  refine ⟨now, .ring task, here, ?_⟩
  change Event.asks? (.ring task) ((s.found h p).ring task).result = _
  rw [result]
  unfold firstCall firstRequest
  cases t.token.renewable <;> rfl

theorem Opens.of_cycle (opens : Opens s h i r) (cycle : r = .renewal n ∨ r = .cycleLogin n) :
    (Rings s h i n ∧ ∃ t, (s.found h i).token = some t ∧ r = firstRequest t.token n) ∨
      r = .cycleLogin n ∧ ∃ now reply, h[i]? = some (now, .renewalReply n reply) ∧
        Event.asks? (.renewalReply n reply) ((s.found h i).renewalReply now n reply).result =
          some (.cycleLogin n) := by
  obtain ⟨now, e, here, asks⟩ := opens
  have other (id : Nat) : r ≠ .callerLogin id := by
    rintro rfl
    rcases cycle with same | same <;> cases same
  cases e with
  | begin demand =>
      change Event.asks? (.begin demand) ((s.found h i).begin now demand).result = _ at asks
      generalize ((s.found h i).begin now demand).result = answer at asks
      rcases answer with ⟨id, _ | _ | _⟩
      · cases asks
      · cases asks
      · exact absurd (Option.some.inj asks).symm (other id)
  | attempt id =>
      change Event.asks? (.attempt id) ((s.found h i).attempt now id).result = _ at asks
      generalize ((s.found h i).attempt now id).result = answer at asks
      cases answer with
      | answered result => cases asks
      | login => exact absurd (Option.some.inj asks).symm (other id)
  | ring task =>
      obtain ⟨m, call, result, requests⟩ := ring_asks asks
      obtain ⟨serving, number, t, installed, _⟩ := ring_begins result
      have rings : Rings s h i m := ⟨now, task, call, here, result⟩
      obtain ⟨_, _, there, opened⟩ := rings.asks installed
      cases here.symm.trans there
      have same : r = firstRequest t.token m := Option.some.inj (asks.symm.trans opened)
      have twin : m = n := by
        rcases cycle with rfl | rfl <;> rcases requests with one | one <;> cases one <;> rfl
      subst twin
      exact Or.inl ⟨rings, t, installed, same⟩
  | renewalReply m reply =>
      obtain ⟨turns, rfl⟩ := asks_renewalReply_iff.mp asks
      have twin : m = n := by
        rcases cycle with one | one <;> cases one
        rfl
      subst twin
      exact Or.inr ⟨rfl, now, reply, here, asks⟩
  | _ => cases asks

theorem renewalReply_turns {reply : Except VaultError Token}
    (turns : (s.renewalReply now n reply).result = .ok true) :
    (s.renewalReply now n reply).session = s.turnToLogin n := by
  obtain ⟨c, found, vain⟩ := (renewalReply_turns_iff s now n reply).mp turns
  unfold renewalReply
  rw [found]
  cases reply with
  | error error => rfl
  | ok new =>
      dsimp only
      rw [vain new rfl]

/-! ## One cycle -/

theorem loggingIn_between (le : i ≤ k) (begun : n < (s.found h i).cycles.issued)
    (turned : ∀ c, (n, c) ∈ (s.found h i).cycles.items → c.stage = .loggingIn)
    (flying : (n, c) ∈ (s.found h k).cycles.items) : c.stage = .loggingIn := by
  have both : n < (s.found h k).cycles.issued ∧
      ∀ c, (n, c) ∈ (s.found h k).cycles.items → c.stage = .loggingIn := by
    refine History.invariant_later (I := fun s : Renewing => n < s.cycles.issued ∧
      ∀ c, (n, c) ∈ s.cycles.items → c.stage = .loggingIn)
      (fun s now e held => ?_) le ⟨begun, turned⟩
    have effect := step_effect s now e
    refine ⟨Nat.lt_of_lt_of_le held.1 effect.onward.begun_le, ?_⟩
    intro c flying
    cases effect.cycle_origin flying with
    | same there => exact held.2 c there
    | began task t => exact absurd held.1 (Nat.lt_irrefl _)
    | turned reply there => rfl
  exact both.2 c flying

theorem Opens.loggingIn (opens : Opens s h i (.cycleLogin n)) :
    n < (s.found h (i + 1)).cycles.issued ∧
      ∀ c, (n, c) ∈ (s.found h (i + 1)).cycles.items → c.stage = .loggingIn := by
  rcases opens.of_cycle (n := n) (Or.inr rfl) with
    ⟨rings, t, installed, first⟩ | ⟨_, now, reply, here, asks⟩
  · refine ⟨rings.made.1, ?_⟩
    obtain ⟨now, task, call, here, result⟩ := rings
    obtain ⟨_, rfl, start, placed, session⟩ := ring_begins result
    cases installed.symm.trans placed
    have next : s.found h (i + 1) = ((s.found h i).start task).beginCycle t :=
      (found_succ here).trans session
    intro c flying
    rw [next] at flying
    rcases Numbered.mem_add.mp flying with before | ⟨_, rfl⟩
    · exact absurd (Numbered.lt_issued before) (Nat.lt_irrefl _)
    · unfold firstRequest at first
      unfold firstCall
      cases renewable : t.token.renewable with
      | true =>
          rw [renewable] at first
          cases first
      | false => rfl
  · have turns := (asks_renewalReply_iff.mp asks).1
    obtain ⟨c, found, _⟩ := (renewalReply_turns_iff _ now n reply).mp turns
    have begun := Numbered.lt_issued (Numbered.find?_eq_some_iff.mp found)
    have next : s.found h (i + 1) = (s.found h i).turnToLogin n :=
      (found_succ here).trans (renewalReply_turns turns)
    rw [next]
    refine ⟨begun, ?_⟩
    intro d flying
    obtain ⟨before, _, changed⟩ := Numbered.mem_change.mp flying
    rw [if_pos rfl] at changed
    rw [← changed]

theorem Opens.no_renewal {reply : Except VaultError Token} (awaited : Awaited { window } h)
    (opens : Opens { window } h i (.cycleLogin n)) (before : i < k)
    (here : h[k]? = some (now, .renewalReply n reply)) : False := by
  obtain ⟨c, flying, renewing⟩ := awaited.at_place here
  obtain ⟨begun, turned⟩ := opens.loggingIn
  cases renewing.symm.trans (loggingIn_between before begun turned flying)

theorem Opens.login_once (awaited : Awaited { window } h)
    (first : Opens { window } h i (.cycleLogin n))
    (second : Opens { window } h k (.cycleLogin n)) : i = k := by
  have apart {i k : Nat} (first : Opens { window } h i (.cycleLogin n))
      (second : Opens { window } h k (.cycleLogin n)) : ¬ i < k := by
    intro before
    rcases second.of_cycle (n := n) (Or.inr rfl) with
      ⟨⟨now, task, call, _, result⟩, _⟩ | ⟨_, now, reply, here, _⟩
    · have begun := Nat.lt_of_lt_of_le first.loggingIn.1 (begun_le_found { window } h before)
      rw [(ring_begins result).2.1] at begun
      exact Nat.lt_irrefl _ begun
    · exact first.no_renewal awaited before here
  have ge := Nat.le_of_not_lt (apart first second)
  exact Nat.le_antisymm (Nat.le_of_not_lt (apart second first)) ge

theorem WithinClock.at_place (within : WithinClock s h) (here : h[i]? = some (now, e)) :
    e.overflows ((s.found h i).step now e).result = false := History.Keeps.at_place within here

section Cycle

variable (rings : Rings { window } h p n) (starts : (found { window } h p).token = some t)
  (awaited : Awaited { window } h) (clock : WithinClock { window } h)

include rings starts awaited

theorem Rings.awaits (here : h[q]? = some (now, e)) (answers : e.cycle? = some n) :
    p < q ∧ ∃ c, (found { window } h q).cycles.find? n = some c ∧ c.start = t ∧
      c.generation = (found { window } h p).generation := by
  obtain ⟨c, flying⟩ := (awaited.at_place here).flying answers
  obtain ⟨p', before, began, generation, start⟩ :=
    cycle_found (Nat.le_of_lt (History.lt_length_of_place here)) flying
  obtain rfl := rings.unique began
  cases starts.symm.trans start
  exact ⟨before, c, Numbered.find?_eq_some_iff.mpr flying, rfl, generation.symm⟩

omit awaited in
theorem Rings.asks_renewal_iff :
    Opens { window } h i (.renewal n) ↔ i = p ∧ t.token.renewable = true := by
  constructor
  · intro opens
    rcases opens.of_cycle (n := n) (Or.inl rfl) with ⟨began, other, installed, same⟩ | ⟨other, _⟩
    · obtain rfl := rings.unique began
      cases starts.symm.trans installed
      unfold firstRequest at same
      split at same
      · rename_i renewable
        exact ⟨rfl, renewable⟩
      · cases same
    · cases other
  · rintro ⟨rfl, renewable⟩
    have asks := rings.asks starts
    unfold firstRequest at asks
    rwa [if_pos renewable] at asks

include clock in
theorem Rings.asks_login_iff : Opens { window } h i (.cycleLogin n) ↔
    i = p ∧ t.token.renewable = false ∨
      ∃ now reply, h[i]? = some (now, .renewalReply n reply) ∧ Futile t.token reply := by
  constructor
  · intro opens
    rcases opens.of_cycle (n := n) (Or.inr rfl) with
      ⟨began, other, installed, same⟩ | ⟨_, now, reply, here, asks⟩
    · obtain rfl := rings.unique began
      cases starts.symm.trans installed
      unfold firstRequest at same
      split at same
      · cases same
      · rename_i kept
        exact Or.inl ⟨rfl, Bool.eq_false_iff.mpr kept⟩
    · obtain ⟨_, c, found, rfl, _⟩ := rings.awaits starts awaited here rfl
      rcases reply_cases rfl found (clock.at_place here) with
        ⟨_, same, futile, _⟩ | ⟨_, _, _, silent, _⟩
      · cases same
        exact Or.inr ⟨now, reply, here, futile⟩
      · cases asks.symm.trans silent
  · rintro (⟨rfl, kept⟩ | ⟨now, reply, here, futile⟩)
    · have asks := rings.asks starts
      unfold firstRequest at asks
      rwa [if_neg (Bool.eq_false_iff.mp kept)] at asks
    · obtain ⟨_, c, found, rfl, _⟩ := rings.awaits starts awaited here rfl
      rcases reply_cases rfl found (clock.at_place here) with ⟨_, _, _, asks, _⟩ | ⟨_, _, gain, _⟩
      · exact ⟨now, _, here, asks⟩
      · exact absurd futile (gain reply rfl)

end Cycle

/-! ## Every cycle -/

/-- The outcome of a cycle that ends by an event at a place: a renewed token, which lasts, if the
cycle has asked for no login, and what the login has brought if it has. -/
inductive Yields (s : Renewing) (h : History Event) (n : Nat) (old : Token) (q : Nat) :
    Event → Except VaultError Token → Prop
  | renewed (new : Token) (unasked : ∀ i, ¬ Opens s h i (.cycleLogin n))
      (lasts : Outlasts new old) : Yields s h n old q (.renewalReply n (.ok new)) (.ok new)
  | loggedIn (reply : Except VaultError Token) (asked : ∃ i < q, Opens s h i (.cycleLogin n)) :
      Yields s h n old q (.cycleLoginReply n reply) reply

/-- A session settles on an outcome: it is active with the token, or degraded with the token that it
has, and the error recorded. -/
def Settles (s s' : Renewing) : Except VaultError Token → Prop
  | .ok new => s'.status = .active ∧ s'.token = some ⟨s.serials, new⟩
  | .error error => s'.status = .degraded ∧ s'.token = s.token ∧ s'.recorded = some error

/-- Between two places the session is neither invalidated nor shut down. -/
def LeftAlone (h : History Event) (p q : Nat) : Prop :=
  ∀ j now e, p < j → j < q → h[j]? = some (now, e) → e.invalidates = false ∧ e.ends = false

theorem LeftAlone.serving (alone : LeftAlone h p q) (rings : Rings s h p n) (before : p < q)
    (within : q ≤ h.length) : (s.found h q).terminated = false ∧
      (s.found h q).generation = (s.found h p).generation ∧ (s.found h q).token ≠ none := by
  refine History.holds_between (P := fun q => (s.found h q).terminated = false ∧
      (s.found h q).generation = (s.found h p).generation ∧ (s.found h q).token ≠ none)
    before within ?_ ?_
  · obtain ⟨serving, task, t, installed, next⟩ := rings.began
    rw [next]
    exact ⟨serving, rfl, fun none => nomatch none.symm.trans installed⟩
  · rintro j now e first last here ⟨serving, same, some⟩
    obtain ⟨steady, lasts⟩ := alone j now e first last here
    have onward := (step_effect (s.found h j) now e).onward
    rw [found_succ here]
    refine ⟨?_, ?_, ?_⟩
    · rw [onward.terminated, serving, lasts]
      rfl
    · rw [onward.generation, steady, same]
      exact UInt64.add_zero _
    · rcases onward.token with kept | ⟨_, gone | gone⟩ | ⟨t, placed, _⟩
      · rwa [kept]
      · cases steady.symm.trans gone
      · cases lasts.symm.trans gone
      · rw [placed]
        exact nofun

theorem outcome_of_renewal {reply : Except VaultError Token}
    (ends : c.outcome? (.renewalReply n reply) = some outcome) :
    ∃ new, reply = .ok new ∧ outcome = .ok new ∧ exhausted c.start.token new = .ok false := by
  cases reply with
  | error error => cases ends
  | ok new =>
      simp only [Cycle.outcome?] at ends
      split at ends
      · rename_i gain
        cases ends
        exact ⟨new, rfl, rfl, gain⟩
      · cases ends

theorem settles (answers : e.cycle? = some n) (found : s.cycles.find? n = some c)
    (ends : c.outcome? e = some outcome) (counts : s.Counts c) (installed : s.token ≠ none) :
    Settles s (s.next now e) outcome := by
  obtain ⟨serving, settled⟩ := outcome_settles now answers found ends counts
  cases outcome with
  | ok new =>
      obtain ⟨token, sound⟩ := settled
      refine ⟨?_, token⟩
      unfold status
      rw [serving, token, sound]
      rfl
  | error error =>
      obtain ⟨token, degraded, recorded⟩ := settled
      refine ⟨?_, token, recorded⟩
      obtain ⟨t, placed⟩ := Option.ne_none_iff_exists'.mp installed
      unfold status
      rw [serving, token, placed, degraded]
      rfl

/-- A cycle renews its token exactly once if it can be renewed, and not at all if not; it logs in
exactly once if the token cannot be renewed or its renewal has been in vain, and not at all
otherwise.  A reply that makes it log in changes nothing else.  The last reply is the outcome of the
cycle, on which the session settles if it has been left alone, and nothing comes for the cycle
behind it. -/
theorem yields_one_outcome (window : RenewalWindow) (h : History Event) (p n : Nat)
    (t : TokenInstance) (rings : Rings { window } h p n)
    (starts : (found { window } h p).token = some t) (awaited : Awaited { window } h)
    (clock : WithinClock { window } h) :
    (∃ now task, h[p]? = some (now, .ring task) ∧
      ((found { window } h p).ring task).result =
        some (n, if t.token.renewable then .renew t.token else .login)) ∧
    (∀ i, Opens { window } h i (.renewal n) ↔ i = p ∧ t.token.renewable = true) ∧
    (∀ i, Opens { window } h i (.cycleLogin n) ↔ i = p ∧ t.token.renewable = false ∨
      ∃ now reply, h[i]? = some (now, .renewalReply n reply) ∧ Futile t.token reply) ∧
    (∀ i k, Opens { window } h i (.cycleLogin n) → Opens { window } h k (.cycleLogin n) → i = k) ∧
    ∀ q now e, h[q]? = some (now, e) → e.cycle? = some n →
      (Opens { window } h q (.cycleLogin n) →
        Unaltered (found { window } h q) (found { window } h (q + 1))) ∧
      (¬ Opens { window } h q (.cycleLogin n) → ∃ outcome,
        Yields { window } h n t.token q e outcome ∧
        (LeftAlone h p q →
          Settles (found { window } h q) (found { window } h (q + 1)) outcome) ∧
        ∀ k now e, q < k → h[k]? = some (now, e) → e.cycle? ≠ some n) := by
  refine ⟨?_, fun i => rings.asks_renewal_iff starts,
    fun i => rings.asks_login_iff starts awaited clock, fun i k => Opens.login_once awaited, ?_⟩
  · obtain ⟨now, task, here, result⟩ := rings.begins starts
    refine ⟨now, task, here, result.trans ?_⟩
    unfold firstCall
    cases t.token.renewable <;> rfl
  · intro q now e here answers
    have within := Nat.le_of_lt (History.lt_length_of_place here)
    obtain ⟨before, c, found, start, generation⟩ := rings.awaits starts awaited here answers
    have flying := Numbered.find?_eq_some_iff.mp found
    rcases reply_cases answers found (clock.at_place here) with
      ⟨reply, rfl, _, asks, silent⟩ | ⟨outcome, ends, _, silent, gone⟩
    · refine ⟨fun _ => ?_, fun unasked => absurd ⟨now, _, here, asks⟩ unasked⟩
      rw [found_succ here]
      exact ((step_effect _ now _).unaltered_iff (numbering_found window h q) answers found).mpr
        (Or.inl silent)
    · refine ⟨?_, fun unasked => ?_⟩
      · rintro ⟨_, _, there, asks⟩
        cases here.symm.trans there
        cases silent.symm.trans asks
      · have silenced (k : Nat) (at_ : Instant) (other : Event) (after : q < k)
            (there : h[k]? = some (at_, other)) : other.cycle? ≠ some n := by
          intro also
          obtain ⟨_, d, later, _⟩ := rings.awaits starts awaited there also
          rw [← found_succ here] at gone
          have begun := Nat.lt_of_lt_of_le (Numbered.lt_issued flying)
            (begun_le_found { window } h (Nat.le_succ q))
          obtain ⟨b, still⟩ := flying_between after begun (Numbered.find?_eq_some_iff.mp later)
          exact gone b still
        refine ⟨outcome, ?_, ?_, silenced⟩
        · cases e with
          | renewalReply m reply =>
              cases answers
              obtain ⟨new, rfl, rfl, gain⟩ := outcome_of_renewal ends
              rw [start] at gain
              refine .renewed new ?_ (outlasts_of_gain gain)
              intro i opens
              rcases Nat.lt_trichotomy i q with earlier | rfl | later
              · exact opens.no_renewal awaited earlier here
              · exact unasked opens
              · rcases opens.of_cycle (n := n) (Or.inr rfl) with
                  ⟨again, _⟩ | ⟨_, at_, reply, there, _⟩
                · obtain rfl := rings.unique again
                  omega
                · exact silenced i at_ _ later there rfl
          | cycleLoginReply m reply =>
              cases answers
              cases ends
              exact .loggedIn outcome (pending_opened awaited within (awaited.at_place here))
          | _ => cases answers
        · intro alone
          obtain ⟨serving, same, installed⟩ := alone.serving rings before within
          rw [found_succ here]
          exact settles answers found ends ⟨serving, same.trans generation.symm⟩ installed

theorem awaited_failedAt32 : Awaited { window := halfMinute } failedAt32 :=
  ⟨trivial, ⟨0, List.mem_cons_self⟩, trivial, ⟨_, List.mem_cons_self, rfl⟩,
    ⟨_, List.mem_cons_self, rfl⟩, trivial⟩

theorem leftAlone_of_calm (calm : invalidations h = 0) (lasts : ends h = false) (p q : Nat) :
    LeftAlone h p q := by
  intro j now e _ _ here
  have member := List.mem_of_getElem? here
  exact ⟨Bool.eq_false_iff.mpr (List.countP_eq_zero.mp calm _ member),
    Bool.eq_false_iff.mpr (List.any_eq_false.mp lasts _ member)⟩

/-- A cycle that renews its token, and one that can neither do so nor log in. -/
theorem yields_one_outcome_renewedAt31 :
    let s : Renewing := { window := halfMinute }
    Settles (s.found renewedAt31 5) (s.found renewedAt31 6) (.ok (minute "renewed" 31)) ∧
    (∀ i, ¬ Opens s renewedAt31 i (.cycleLogin 0)) ∧
    Opens s failedAt32 2 (.renewal 0) ∧ Opens s failedAt32 3 (.cycleLogin 0) ∧
    Settles (s.found failedAt32 4) (s.found failedAt32 5) (.error .rateLimited) := by
  obtain ⟨_, _, _, _, ends⟩ := yields_one_outcome halfMinute renewedAt31 4 0
    ⟨0, minute "first" 0⟩ ⟨_, _, _, rfl, rfl⟩ rfl awaited_renewedAt31
    ⟨rfl, rfl, rfl, rfl, rfl, rfl, rfl, trivial⟩
  obtain ⟨_, renewals, again, once, fails⟩ := yields_one_outcome halfMinute failedAt32 2 0
    ⟨0, minute "first" 0⟩ ⟨_, _, _, rfl, rfl⟩ rfl awaited_failedAt32
    ⟨rfl, rfl, rfl, rfl, rfl, trivial⟩
  have asked : Opens { window := halfMinute } failedAt32 3 (.cycleLogin 0) :=
    (again 3).mpr (Or.inr ⟨_, _, rfl, trivial⟩)
  have last : ¬ Opens { window := halfMinute } failedAt32 4 (.cycleLogin 0) :=
    fun also => absurd (once 3 4 asked also) (by decide)
  have silent : ¬ Opens { window := halfMinute } renewedAt31 5 (.cycleLogin 0) := by
    rintro ⟨_, _, here, asks⟩
    cases here
    cases asks
  obtain ⟨outcome, yields, settles, _⟩ := (ends 5 _ _ rfl rfl).2 silent
  obtain ⟨failure, yields', settles', _⟩ := (fails 4 _ _ rfl rfl).2 last
  cases yields with
  | renewed new unasked lasts =>
      cases yields' with
      | loggedIn reply asked' =>
          exact ⟨settles (leftAlone_of_calm (by decide) (by decide) 4 5), unasked,
            (renewals 2).mpr ⟨rfl, rfl⟩, asked,
            settles' (leftAlone_of_calm (by decide) (by decide) 2 4)⟩

end Leasehold.Session.Renewing

import Leasehold.Proofs.Session.Observation
import Leasehold.Proofs.Session.Overtaking

/-!
# One login at a time

Callers that find no usable token log in one at a time, and the others wait for
them in line.  When a login succeeds the session is in service, and everybody
who was waiting goes on in turn and is given its token (`movedUp_between`); when
it fails the next in line goes on, and logs in only if there is still nothing to
be had.  `single_flight` puts this together.
-/

set_option autoImplicit false

namespace Leasehold.Session

namespace Manager

/-- The login of a caller, as long as it is in flight, belongs to the present generation. -/
def Owns (m : Manager) (id : Nat) : Prop :=
  match m with
  | .simple _ => True
  | .renewing s => Renewing.Made s s.generation (.callerLogin id)

end Manager

namespace Watched

open Renewing (InLine)

variable {w : Watched} {now : Instant} {e : Event} {id : Nat}

/-! ## One event -/

theorem Lined.next (lined : Lined w) (awaits : w.Awaits e) : Lined (w.next now e) :=
  (lined.moved awaits).1

theorem Lined.owns_next (lined : Lined w) (awaits : w.Awaits e) (steady : e.invalidates = false)
    (owns : w.manager.Owns id) : (w.next now e).manager.Owns id := by
  cases lined with
  | simple s calls line => trivial
  | renewing s line =>
      have made : Renewing.Made s s.generation (.callerLogin id) := owns
      have same : (s.next now e).generation = s.generation := by
        rw [(Renewing.step_effect s now e).onward.generation, steady]
        exact UInt64.add_zero s.generation
      change Renewing.Made (s.next now e) (s.next now e).generation (.callerLogin id)
      rw [same]
      exact made.next line (awaits_renewing awaits)

theorem Lined.owns_of_asks (lined : Lined w) (awaits : w.Awaits e)
    (asks : e.asks? (w.manager.step now e).result = some (.callerLogin id)) :
    (w.next now e).manager.Owns id := by
  cases lined with
  | simple s calls line => trivial
  | renewing s line =>
      change Renewing.Made (s.next now e) (s.next now e).generation (.callerLogin id)
      rw [(Renewing.step_effect s now e).onward.generation]
      have there := awaits_renewing awaits
      rcases Event.asks_callerLogin asks with ⟨demand, rfl⟩ | rfl
      · obtain ⟨_, _, made⟩ := Renewing.begin_made line asks
        exact (UInt64.add_zero s.generation).symm ▸ made
      · obtain ⟨_, made⟩ := Renewing.attempt_made line there asks
        exact (UInt64.add_zero s.generation).symm ▸ made

theorem Lined.loginReply (lined : Lined w) (t : Token)
    (awaits : w.Awaits (.loginReply id (.ok t))) (serving : w.manager.terminated = false)
    (owns : w.manager.Owns id) : (w.next now (.loginReply id (.ok t))).manager.InService := by
  cases lined with
  | simple s calls line =>
      obtain ⟨serves, installed⟩ := Simple.loginReply_spec s t serving
      refine ⟨serves, ?_⟩
      change (s.loginReply (.ok t)).session.token ≠ none
      rw [installed]
      exact nofun
  | renewing s line =>
      have unchanged := Renewing.Made.loginGeneration owns (awaits_renewing awaits)
      have installed := Renewing.loginReply_installs now t serving unchanged
      refine ⟨?_, ?_⟩
      · refine (Manager.terminated_next (.renewing s) now (.loginReply id (.ok t))).trans ?_
        exact (Bool.or_false _).trans serving
      · change (s.loginReply now id (.ok t)).session.token ≠ none
        rw [installed]
        exact nofun

/-! ## Every history -/

variable {c : SessionConfig} {h : History Event} {i j k : Nat}

def Opens (w : Watched) (h : History Event) (i id : Nat) : Prop :=
  ∃ now e, h[i]? = some (now, e) ∧
    e.asks? ((w.found h i).manager.step now e).result = some (.callerLogin id)

def Steady (h : History Event) (i k : Nat) : Prop :=
  ∀ p now e, i < p → p < k → h[p]? = some (now, e) → e.invalidates = false ∧ e.ends = false

/-- Whoever waits at a place and goes on before another one finds that the token in place has not
expired. -/
def LastsBetween (w : Watched) (h : History Event) (k j : Nat) : Prop :=
  ∀ p now v, (v, .waiting) ∈ (w.found h k).line → k < p → p < j →
    h[p]? = some (now, .attempt v) → (w.found h p).manager.Lasts now

theorem found_succ (here : h[i]? = some (now, e)) : w.found h (i + 1) = (w.found h i).next now e :=
  History.after_take_succ here

theorem lined_found (awaited : (ofConfig c).Awaited h) (i : Nat) : Lined ((ofConfig c).found h i) :=
  History.invariant_between (I := Lined) (fun _ _ _ lined awaits => lined.next awaits) awaited
    (Nat.zero_le i) (lined_ofConfig c)

theorem moved_found (awaited : (ofConfig c).Awaited h) (here : h[i]? = some (now, e)) :
    ((ofConfig c).found h i).line.Moved e (((ofConfig c).found h i).manager.step now e).result
      ((ofConfig c).found h (i + 1)).line := by
  rw [found_succ here]
  exact ((lined_found awaited i).moved (awaited.at_place here)).2

theorem owns_between (awaited : (ofConfig c).Awaited h) (opens : Opens (ofConfig c) h i id)
    (lt : i < k) (within : k ≤ h.length) (steady : Steady h i k) :
    ((ofConfig c).found h k).manager.terminated = false ∧
      ((ofConfig c).found h k).manager.Owns id := by
  obtain ⟨now, e, here, asks⟩ := opens
  refine History.holds_between (P := fun p => ((ofConfig c).found h p).manager.terminated = false ∧
    ((ofConfig c).found h p).manager.Owns id) lt within ?_ ?_
  · have serving := Manager.serving_of_asks asks
    have lasts : e.ends = false := by
      rcases Event.asks_callerLogin asks with ⟨demand, rfl⟩ | rfl
      · rfl
      · rfl
    rw [found_succ here]
    refine ⟨?_, (lined_found awaited i).owns_of_asks (awaited.at_place here) asks⟩
    refine (Manager.terminated_next _ now e).trans ?_
    rw [serving, lasts, Bool.or_false]
  · rintro p now e after before here ⟨serving, owns⟩
    obtain ⟨still, lasts⟩ := steady p now e after before here
    rw [found_succ here]
    refine ⟨?_, (lined_found awaited p).owns_next (awaited.at_place here) still owns⟩
    refine (Manager.terminated_next _ now e).trans ?_
    rw [serving, lasts, Bool.or_false]

theorem inService_between {t : Token} (awaited : (ofConfig c).Awaited h)
    (opens : Opens (ofConfig c) h i id) (here : h[k]? = some (now, .loginReply id (.ok t)))
    (lt : i < k) (lt' : k < j) (within : j ≤ h.length) (steady : Steady h i j) :
    ((ofConfig c).found h j).manager.InService := by
  have first : Steady h i k := fun p now e after before =>
    steady p now e after (Nat.lt_trans before lt')
  have lower := Nat.le_trans (Nat.le_of_lt lt') within
  obtain ⟨serving, owns⟩ := owns_between awaited opens lt lower first
  refine History.holds_between (P := fun p => ((ofConfig c).found h p).manager.InService) lt' within
    ?_ ?_
  · rw [found_succ here]
    exact (lined_found awaited k).loginReply t (awaited.at_place here) serving owns
  · intro p now e after before there service
    obtain ⟨still, lasts⟩ := steady p now e (Nat.lt_trans lt after) before there
    rw [found_succ there]
    exact service.next still lasts

/-- Some of those who waited have gone on since, and the others have moved up. -/
def MovedUp (w : Watched) (h : History Event) (k : Nat) (queue : List Nat) (p : Nat) : Prop :=
  ∃ gone left newer, queue = gone ++ left ∧
    (∀ v ∈ gone, ∃ q now, k < q ∧ q < p ∧ h[q]? = some (now, .attempt v)) ∧
    (left ≠ [] → (w.found h p).line = Line.letIn (left ++ newer))

theorem attempted_succ {p v : Nat}
    (gone : ∃ q now, k < q ∧ q < p ∧ h[q]? = some (now, .attempt v)) :
    ∃ q now, k < q ∧ q < p + 1 ∧ h[q]? = some (now, .attempt v) := by
  obtain ⟨q, at_, first, last, there⟩ := gone
  exact ⟨q, at_, first, Nat.lt_succ_of_lt last, there⟩

theorem MovedUp.stays {queue : List Nat} {p : Nat} {answer : e.Answer}
    (up : MovedUp w h k queue p)
    (moved : (w.found h p).line.Moved e answer (w.found h (p + 1)).line)
    (others : ∀ v, e ≠ .attempt v) : MovedUp w h k queue (p + 1) := by
  obtain ⟨gone, left, newer, whole, attempts, front⟩ := up
  have later := fun v member => attempted_succ (attempts v member)
  cases left with
  | nil => exact ⟨gone, [], newer, whole, later, fun some => absurd rfl some⟩
  | cons u rest =>
      obtain ⟨more, stays⟩ := moved.stays (front nofun) others
      refine ⟨gone, u :: rest, newer ++ more, whole, later, fun _ => ?_⟩
      rw [stays, ← List.append_assoc]
      rfl

/-- Only the head of the line goes on, and once it is served it makes room for the next. -/
theorem MovedUp.serves {queue : List Nat} {p v : Nat} (up : MovedUp w h k queue p) (after : k < p)
    (here : h[p]? = some (now, .attempt v)) (woken : (v, .woken) ∈ (w.found h p).line)
    (served : v ∈ queue →
      ∃ r, (w.found h p).line.Moved (.attempt v) (.answered r) (w.found h (p + 1)).line) :
    MovedUp w h k queue (p + 1) := by
  obtain ⟨gone, left, newer, whole, attempts, front⟩ := up
  have later := fun v member => attempted_succ (attempts v member)
  cases left with
  | nil => exact ⟨gone, [], newer, whole, later, fun some => absurd rfl some⟩
  | cons u rest =>
      have head := front nofun
      rw [head] at woken
      have first : v = u := Line.eq_of_woken woken
      have queued : v ∈ queue := by
        rw [whole, first]
        exact List.mem_append_right gone List.mem_cons_self
      obtain ⟨r, moved⟩ := served queued
      obtain ⟨rfl, next⟩ := moved.serves head
      refine ⟨gone ++ [v], rest, newer, ?_, ?_, fun _ => next⟩
      · rw [whole, List.append_assoc]
        rfl
      · intro u member
        rcases List.mem_append.mp member with earlier | new
        · exact later u earlier
        · rw [List.mem_singleton.mp new]
          exact ⟨p, now, after, Nat.lt_succ_self p, here⟩

theorem served_between {v : Nat}
    (service : ∀ p, k < p → p ≤ j → (w.found h p).manager.InService)
    (lasts : LastsBetween w h k j) (waits : (v, .waiting) ∈ (w.found h k).line) (p : Nat)
    (now : Instant) (after : k < p) (before : p < j) (here : h[p]? = some (now, .attempt v)) :
    ∃ t, (w.found h p).manager.token = some t ∧
      ((w.found h p).manager.step now (.attempt v)).result = .answered (.ok t) :=
  (service p after (Nat.le_of_lt before)).attempt (lasts p now v waits after before here) v

theorem movedUp_between {queue : List Nat} (awaited : (ofConfig c).Awaited h) (lt : k < j)
    (within : j ≤ h.length)
    (waited : ∀ v ∈ queue, (v, .waiting) ∈ ((ofConfig c).found h k).line)
    (start : ((ofConfig c).found h (k + 1)).line = Line.letIn queue)
    (service : ∀ p, k < p → p ≤ j → ((ofConfig c).found h p).manager.InService)
    (lasts : LastsBetween (ofConfig c) h k j) : MovedUp (ofConfig c) h k queue j := by
  refine History.holds_between (P := MovedUp (ofConfig c) h k queue) lt within ?_ ?_
  · refine ⟨[], queue, [], rfl, nofun, fun _ => ?_⟩
    rwa [List.append_nil]
  · intro p now e after before here up
    have moved := moved_found awaited here
    by_cases attempt : ∃ v, e = .attempt v
    · obtain ⟨v, rfl⟩ := attempt
      refine up.serves after here (awaited.at_place here) fun queued => ?_
      obtain ⟨t, _, answered⟩ :=
        served_between service lasts (waited v queued) p now after before here
      rw [answered] at moved
      exact ⟨_, moved⟩
    · exact up.stays moved (not_exists.mp attempt)

theorem Opens.attempts {p v : Nat} {phase : Phase} (awaited : (ofConfig c).Awaited h)
    (there : (v, phase) ∈ ((ofConfig c).found h k).line) (le : k ≤ p)
    (opens : Opens (ofConfig c) h p v) :
    ∃ now, h[p]? = some (now, .attempt v) ∧
      (((ofConfig c).found h p).manager.step now (.attempt v)).result = .login := by
  obtain ⟨now, e, here, asks⟩ := opens
  rcases Event.asks_callerLogin asks with ⟨demand, rfl⟩ | rfl
  · have older : v < ((ofConfig c).found h p).manager.callers := by
      refine History.holds_between (P := fun p => v < ((ofConfig c).found h p).manager.callers) le
        (Nat.le_of_lt (History.lt_length_of_place here)) ((lined_found awaited k).below there) ?_
      intro q now e _ _ here below
      rw [found_succ here]
      exact Nat.lt_of_lt_of_le below (Manager.callers_le _ now e)
    have number := Manager.begin_number ((ofConfig c).found h p).manager now demand
    rw [Event.asks_begin asks] at number
    exact absurd number (Nat.ne_of_lt older)
  · exact ⟨now, here, (Event.asks_attempt.mp asks).2⟩

section Served

variable {v : Nat} (awaited : (ofConfig c).Awaited h) (lt : k < j) (within : j ≤ h.length)
  (service : ∀ p, k < p → p ≤ j → ((ofConfig c).found h p).manager.InService)
  (lasts : LastsBetween (ofConfig c) h k j)
  (waits : (v, .waiting) ∈ ((ofConfig c).found h k).line)

include awaited service lasts waits in
theorem quiet_between (p : Nat) (after : k < p) (before : p < j) :
    ¬ Opens (ofConfig c) h p v := by
  intro opens
  obtain ⟨now, here, login⟩ := opens.attempts awaited waits (Nat.le_of_lt after)
  obtain ⟨t, _, answered⟩ := served_between service lasts waits p now after before here
  cases login.symm.trans answered

include awaited lt within service lasts waits in
/-- As long as a waiter has not gone on, it is the turn of one of those who waited. -/
theorem turn_between {reply : Except VaultError Token}
    (here : h[k]? = some (now, .loginReply id reply)) :
    (∃ p now, k < p ∧ p < j ∧ h[p]? = some (now, .attempt v)) ∨
      ((v, .waiting) ∈ ((ofConfig c).found h j).line ∨
        (v, .woken) ∈ ((ofConfig c).found h j).line) ∧
      ∃ u, (u, .waiting) ∈ ((ofConfig c).found h k).line ∧
        (u, .woken) ∈ ((ofConfig c).found h j).line := by
  obtain ⟨queue, whole, next⟩ := (moved_found awaited here).ends
  have waited : ∀ u ∈ queue, (u, .waiting) ∈ ((ofConfig c).found h k).line := by
    intro u member
    rw [whole]
    exact List.mem_cons_of_mem _ (List.mem_map_of_mem member)
  have queued : v ∈ queue := by
    rw [whole] at waits
    rcases List.mem_cons.mp waits with head | behind
    · cases head
    · obtain ⟨_, member, same⟩ := List.mem_map.mp behind
      cases same
      exact member
  obtain ⟨gone, left, newer, parts, attempts, front⟩ :=
    movedUp_between awaited lt within waited next service lasts
  rw [parts] at queued waited
  rcases List.mem_append.mp queued with earlier | still
  · exact Or.inl (attempts v earlier)
  · cases left with
    | nil => cases still
    | cons u rest =>
        have line := front nofun
        have first : (u, .woken) ∈ ((ofConfig c).found h j).line := by
          rw [line]
          exact List.mem_cons_self
        refine Or.inr ⟨?_, u, waited u (List.mem_append_right gone List.mem_cons_self), first⟩
        rcases List.mem_cons.mp still with rfl | behind
        · exact Or.inr first
        · left
          rw [line]
          exact List.mem_cons_of_mem _ (List.mem_map_of_mem (List.mem_append_left newer behind))

end Served

theorem woken_between {v : Nat} (awaited : (ofConfig c).Awaited h) (le : i ≤ j)
    (within : j ≤ h.length) (woken : (v, .woken) ∈ ((ofConfig c).found h i).line)
    (absent : ∀ p now, i ≤ p → p < j → h[p]? ≠ some (now, .attempt v)) :
    (v, .woken) ∈ ((ofConfig c).found h j).line := by
  refine History.holds_between (P := fun p => (v, .woken) ∈ ((ofConfig c).found h p).line) le within
    woken ?_
  intro p now e after before here held
  obtain ⟨queue, front⟩ := (lined_found awaited p).front held
  have others : ∀ u, e ≠ .attempt u := by
    rintro u rfl
    have there : (u, .woken) ∈ ((ofConfig c).found h p).line := awaited.at_place here
    rw [front] at there
    rw [Line.eq_of_woken there] at here
    exact absent p now after before here
  obtain ⟨more, stays⟩ := (moved_found awaited here).stays front others
  rw [stays]
  exact List.mem_cons_self

theorem opens_iff {v : Nat} (awaited : (ofConfig c).Awaited h)
    (here : h[i]? = some (now, .attempt v)) :
    Opens (ofConfig c) h i v ↔ ((ofConfig c).found h i).manager.terminated = false ∧
      ((ofConfig c).found h i).manager.usable now = .ok none := by
  rw [← Manager.attempt_login_iff _ now v]
  constructor
  · intro opens
    have there : (v, .woken) ∈ ((ofConfig c).found h i).line := awaited.at_place here
    obtain ⟨_, again, login⟩ := opens.attempts awaited there (Nat.le_refl i)
    cases here.symm.trans again
    exact login
  · intro login
    exact ⟨now, .attempt v, here, Event.asks_attempt.mpr ⟨rfl, login⟩⟩

/-- At most one caller logs in at a time.  After a login that has succeeded everybody who was
waiting is given the token in place when he goes on, and logs in no more; whoever has not gone on
stands in line, in which one of those who waited has been woken.  After a login that has failed the
next in line is woken; whoever has been woken stays so until he goes on, and then logs in exactly if
the session has not ended and has no usable token. -/
theorem single_flight (c : SessionConfig) (h : History Event)
    (awaited : (ofConfig c).Awaited h) :
    let w := ofConfig c
    (∀ i, (w.found h i).line.logins.length ≤ 1) ∧
    (∀ i k j id t now, Opens w h i id → h[k]? = some (now, .loginReply id (.ok t)) → i < k →
      k < j → j ≤ h.length → Steady h i j → LastsBetween w h k j →
      ∀ v, (v, .waiting) ∈ (w.found h k).line →
        (∀ p now, k < p → p < j → h[p]? = some (now, .attempt v) →
          ∃ t', (w.found h p).manager.token = some t' ∧
            ((w.found h p).manager.step now (.attempt v)).result = .answered (.ok t')) ∧
        (∀ p, k < p → p < j → ¬ Opens w h p v) ∧
        ((∃ p now, k < p ∧ p < j ∧ h[p]? = some (now, .attempt v)) ∨
          ((v, .waiting) ∈ (w.found h j).line ∨ (v, .woken) ∈ (w.found h j).line) ∧
            ∃ u, (u, .waiting) ∈ (w.found h k).line ∧ (u, .woken) ∈ (w.found h j).line)) ∧
    (∀ k id error now, h[k]? = some (now, .loginReply id (.error error)) →
      ∃ queue, (w.found h k).line = (id, .loggingIn) :: Line.waiters queue ∧
        (w.found h (k + 1)).line = Line.letIn queue) ∧
    (∀ i j v, (v, .woken) ∈ (w.found h i).line → i ≤ j → j ≤ h.length →
      (∀ p now, i ≤ p → p < j → h[p]? ≠ some (now, .attempt v)) →
      (v, .woken) ∈ (w.found h j).line) ∧
    (∀ i v now, h[i]? = some (now, .attempt v) →
      (Opens w h i v ↔ (w.found h i).manager.terminated = false ∧
        (w.found h i).manager.usable now = .ok none)) := by
  intro w
  refine ⟨?_, ?_, ?_, ?_, ?_⟩
  · exact fun i => (lined_found awaited i).logins_le
  · intro i k j id t now opens here lt lt' within steady lasts v waits
    have service (p : Nat) (after : k < p) (before : p ≤ j) :
        (w.found h p).manager.InService := by
      refine inService_between awaited opens here lt after (Nat.le_trans before within) ?_
      exact fun q _ e first last => steady q _ e first (Nat.lt_of_lt_of_le last before)
    refine ⟨?_, ?_, ?_⟩
    · exact served_between service lasts waits
    · exact quiet_between awaited service lasts waits
    · exact turn_between awaited lt' within service lasts waits here
  · exact fun k id error now here => (moved_found awaited here).ends
  · exact fun i j v woken le within => woken_between awaited le within woken
  · exact fun i v now here => opens_iff awaited here

/-- The first login fails, and the token of the second serves the two callers behind it. -/
def handedOn : History Event :=
  [(⟨0⟩, .begin .token), (⟨0⟩, .begin .current), (⟨0⟩, .begin .token),
    (⟨1000000000⟩, .loginReply 0 (.error .rateLimited)), (⟨1000000000⟩, .attempt 1),
    (⟨2000000000⟩, .begin .token),
    (⟨3000000000⟩, .loginReply 1 (.ok (Renewing.minute "first" 3))),
    (⟨3000000000⟩, .attempt 2), (⟨3000000000⟩, .attempt 3)]

def watchful : SessionConfig := { interval := .ofSecs 10, margin := .ofSecs 30 }

theorem handedOn_awaited : (ofConfig watchful).Awaited handedOn :=
  ⟨trivial, trivial, trivial, List.mem_cons_self, List.mem_cons_self, trivial, List.mem_cons_self,
    List.mem_cons_self, List.mem_cons_self, trivial⟩

theorem handedOn_steady : Steady handedOn 4 9 := by
  intro p now e after before here
  have places : p = 5 ∨ p = 6 ∨ p = 7 ∨ p = 8 := by omega
  rcases places with rfl | rfl | rfl | rfl
  all_goals
    cases here
    exact ⟨rfl, rfl⟩

theorem handedOn_lasts : LastsBetween (ofConfig watchful) handedOn 6 9 := by
  intro p now v _ after before here
  have places : p = 7 ∨ p = 8 := by omega
  rcases places with rfl | rfl
  all_goals
    cases here
    rintro t ⟨⟩
    rfl

theorem single_flight_handedOn :
    let w := ofConfig watchful
    (w.found handedOn 5).line.logins.length ≤ 1 ∧
    ((∃ t', (w.found handedOn 7).manager.token = some t' ∧
        ((w.found handedOn 7).manager.step ⟨3000000000⟩ (.attempt 2)).result = .answered (.ok t')) ∧
      ¬ Opens w handedOn 7 2 ∧
      ((∃ p now, 6 < p ∧ p < 9 ∧ handedOn[p]? = some (now, .attempt 2)) ∨
        ((2, .waiting) ∈ (w.found handedOn 9).line ∨ (2, .woken) ∈ (w.found handedOn 9).line) ∧
          ∃ u, (u, .waiting) ∈ (w.found handedOn 6).line ∧
            (u, .woken) ∈ (w.found handedOn 9).line)) ∧
    (∃ queue, (w.found handedOn 3).line = (0, .loggingIn) :: Line.waiters queue ∧
      (w.found handedOn 4).line = Line.letIn queue) ∧
    (3, .woken) ∈ (w.found handedOn 8).line ∧
    (Opens w handedOn 4 1 ↔ (w.found handedOn 4).manager.terminated = false ∧
      (w.found handedOn 4).manager.usable ⟨1000000000⟩ = .ok none) := by
  obtain ⟨single, shared, failed, woken, resumed⟩ :=
    single_flight watchful handedOn handedOn_awaited
  obtain ⟨served, quiet, progress⟩ :=
    shared 4 6 9 1 (Renewing.minute "first" 3) ⟨3000000000⟩ ⟨⟨1000000000⟩, _, rfl, rfl⟩ rfl
      (by decide) (by decide) (by decide) handedOn_steady handedOn_lasts 2
      (List.mem_cons_of_mem _ List.mem_cons_self)
  refine ⟨single 5, ⟨?_, ?_, progress⟩, ?_, ?_, ?_⟩
  · exact served 7 ⟨3000000000⟩ (by decide) (by decide) rfl
  · exact quiet 7 (by decide) (by decide)
  · exact failed 3 0 .rateLimited ⟨1000000000⟩ rfl
  · refine woken 8 8 3 List.mem_cons_self (by decide) (by decide) ?_
    intro p now after before
    omega
  · exact resumed 4 1 ⟨1000000000⟩ rfl

end Watched

end Leasehold.Session

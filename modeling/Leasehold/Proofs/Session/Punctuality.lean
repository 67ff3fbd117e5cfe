import Leasehold.Proofs.Session.Timers

/-!
# When the cycles of a session begin

Over punctual timers the next cycle begins when the timer in place is due,
unless something takes that timer's place before (`FiresNext`).  After a cycle
whose outcome counts it waits for a second, since what sets a timer then is a
cycle again or a caller's login (`spaced_after_counted`).  After a cycle that
the session has disowned none begins at all until a caller has logged in since
that cycle began (`login_since_disowned`); that login may have come before the
cycle ended, and then its timer may ring right after (`too_soon_discardedAt60`).
-/

set_option autoImplicit false

namespace Leasehold.Session

def Event.task? : Event → Option Nat
  | .ring task => some task
  | _ => none

namespace Renewing

variable {s : Renewing} {window : RenewalWindow} {h : History Event} {now set : Instant}
  {e : Event} {i j k n m p q : Nat} {t : TokenInstance} {u : Timer Unit} {d : Duration} {c : Cycle}

/-! ## The world outside -/

/-- Timers are punctual: what rings is live and has been set, and rings at the first whole
millisecond from when it is due, and no time passes beyond that while the task of a timer is
live. -/
structure Punctual (s : Renewing) (h : History Event) : Prop where
  rings : ∀ i now task, h[i]? = some (now, .ring task) →
    (s.found h i).timers.holds task = true ∧
      ∃ j < i, ∃ set u, s.SetsAt h j set u ∧ u.task = task ∧ now = ringAt set u.delay
  prompt : ∀ i now e j set u, h[i]? = some (now, e) → j < i → s.SetsAt h j set u →
    (s.found h i).timers.holds u.task = true → now ≤ ringAt set u.delay

def timerAt? (s : Renewing) (h : History Event) (i : Nat) : Option (Instant × Timer Unit) :=
  h[i]?.bind fun event => ((s.found h i).step event.1 event.2).timer.map fun u => (event.1, u)

theorem setsAt_iff : s.SetsAt h i set u ↔ (set, u) ∈ s.timerAt? h i := by
  unfold SetsAt timerAt?
  rw [Option.mem_def, Option.bind_eq_some_iff]
  constructor
  · rintro ⟨e, here, timer⟩
    exact ⟨(set, e), here, by rw [timer]; rfl⟩
  · rintro ⟨⟨instant, e⟩, here, timer⟩
    obtain ⟨_, found, same⟩ := Option.map_eq_some_iff.mp timer
    cases same
    exact ⟨e, here, found⟩

instance (s : Renewing) (h : History Event) : Decidable (Punctual s h) :=
  decidable_of_iff
    ((∀ i < h.length, ∀ event ∈ h[i]?, ∀ task ∈ event.2.task?,
        (s.found h i).timers.holds task = true ∧ ∃ j < i, ∃ x ∈ s.timerAt? h j,
          x.2.task = task ∧ event.1 = ringAt x.1 x.2.delay) ∧
      ∀ i < h.length, ∀ event ∈ h[i]?, ∀ j < i, ∀ x ∈ s.timerAt? h j,
        (s.found h i).timers.holds x.2.task = true → event.1 ≤ ringAt x.1 x.2.delay) <| by
    constructor
    · rintro ⟨rings, prompt⟩
      refine ⟨?_, ?_⟩
      · intro i now task here
        obtain ⟨live, j, before, ⟨set, u⟩, sets, number, instant⟩ :=
          rings i (History.lt_length_of_place here) (now, .ring task) here task rfl
        exact ⟨live, j, before, set, u, setsAt_iff.mpr sets, number, instant⟩
      · intro i now e j set u here before sets live
        exact prompt i (History.lt_length_of_place here) (now, e) here j before (set, u)
          (setsAt_iff.mp sets) live
    · rintro ⟨rings, prompt⟩
      refine ⟨?_, ?_⟩
      · rintro i _ ⟨now, e⟩ here task rung
        cases e with
        | ring other =>
            cases rung
            obtain ⟨live, j, before, set, u, sets, number, instant⟩ := rings i now task here
            exact ⟨live, j, before, _, setsAt_iff.mp sets, number, instant⟩
        | _ => cases rung
      · rintro i _ ⟨now, e⟩ here j before ⟨set, u⟩ sets live
        exact prompt i now e j set u here before (setsAt_iff.mpr sets) live

def ReplacesAt (s : Renewing) (h : History Event) (i : Nat) : Prop :=
  ∃ now e, h[i]? = some (now, e) ∧ (s.found h i).Replaces now e

/-- What comes next after a place: at an instant, or within a millisecond from then, a cycle begins
for the token that is in place, and only one, unless something replaces the timer before. -/
structure FiresNext (s : Renewing) (h : History Event) (j : Nat) (due : Instant) : Prop where
  on_time : ∀ k n now e, j < k → (∀ r, j < r → r < k → ¬ ReplacesAt s h r) →
    h[k]? = some (now, e) → Rings s h k n →
    (s.found h k).token = (s.found h (j + 1)).token ∧ due ≤ now ∧
      now.nanos < due.nanos + 1000000 ∧ ∀ i m, j < i → i < k → ¬ Rings s h i m
  begins : ∀ k now e, j < k → (∀ r, j < r → r < k → ¬ ReplacesAt s h r) →
    h[k]? = some (now, e) → due.nanos + 1000000 ≤ now.nanos →
    ∃ i n, j < i ∧ i < k ∧ Rings s h i n

def Ends (s : Renewing) (h : History Event) (q n : Nat) (c : Cycle) : Prop :=
  (n, c) ∈ (s.found h q).cycles.items ∧ ∀ d, (n, d) ∉ (s.found h (q + 1)).cycles.items

/-! ## One timer -/

theorem window_found (window : RenewalWindow) (h : History Event) (i : Nat) :
    (found { window } h i).window = window := by
  refine History.invariant_after (I := fun s : Renewing => s.window = window) ?_ (h.take i) rfl
  exact fun s now e held => (step_effect s now e).window_eq.trans held

/-- After a timer has been set, its task is the only one that can be live until something replaces
it, and it is live until it rings; token and service stay. -/
theorem SetsAt.since (sets : SetsAt { window } h j set u) (after : j < k) (within : k ≤ h.length)
    (spared : ∀ r, j < r → r < k → ¬ ReplacesAt { window } h r) :
    (found { window } h k).token = (found { window } h (j + 1)).token ∧
      (found { window } h k).terminated = false ∧
      ∀ n, (found { window } h k).timers.holds n = true ↔
        n = u.task ∧ ∀ i now, j < i → i < k → h[i]? ≠ some (now, .ring n) := by
  have ⟨e, here, timer⟩ := sets
  obtain ⟨serving, _, handed⟩ := step_timer timer
  refine History.holds_between (P := fun k =>
    (found { window } h k).token = (found { window } h (j + 1)).token ∧
      (found { window } h k).terminated = false ∧
      ∀ n, (found { window } h k).timers.holds n = true ↔
        n = u.task ∧ ∀ i now, j < i → i < k → h[i]? ≠ some (now, .ring n)) after within ?_ ?_
  · refine ⟨rfl, ?_, ?_⟩
    · have onward := (step_effect (found { window } h j) set e).onward.terminated
      rw [found_succ here, onward, serving, Bool.false_or]
      cases e with
      | shutdown => cases timer
      | _ => rfl
    · intro n
      rw [found_succ here, handed.live_iff (sole_run window (h.take j))
        (numbering_found window h j).slot_lt]
      refine (and_iff_left ?_).symm
      intro i now first last
      omega
  · rintro r now e first last there ⟨token, service, live⟩
    have spares : ¬ (found { window } h r).Replaces now e :=
      fun replaces => spared r first last ⟨now, e, there, replaces⟩
    obtain ⟨same, ends, tasks⟩ := untouched (numbering_found window h r) spares
    rw [found_succ there]
    refine ⟨same.trans token, ends.trans service, ?_⟩
    intro n
    rw [tasks, live, and_assoc]
    refine and_congr_right fun number => ?_
    constructor
    · rintro ⟨before, here⟩ i at_ after until_
      rcases Nat.lt_succ_iff_lt_or_eq.mp until_ with earlier | rfl
      · exact before i at_ after earlier
      · intro rings
        cases there.symm.trans rings
        exact here n rfl rfl
    · intro never
      refine ⟨fun i at_ after until_ => never i at_ after (Nat.lt_succ_of_lt until_), ?_⟩
      rintro task rfl rfl
      exact never r now first (Nat.lt_succ_self r) there

theorem rings_of_token {task : Nat} (here : h[i]? = some (now, .ring task))
    (serving : (s.found h i).terminated = false) (installed : (s.found h i).token ≠ none) :
    ∃ n, Rings s h i n := by
  obtain ⟨t, placed⟩ := Option.ne_none_iff_exists'.mp installed
  exact ⟨_, now, task, _, here, ring_result task serving placed⟩

theorem SetsAt.fires {due : Instant} (sets : SetsAt { window } h j set u)
    (punctual : Punctual { window } h) (sum : set.plus u.delay = .ok due)
    (installed : (found { window } h (j + 1)).token ≠ none) : FiresNext { window } h j due where
  on_time := by
    rintro k n now e after spared there ⟨_, task, call, rung, _⟩
    cases there.symm.trans rung
    have within := Nat.le_of_lt (History.lt_length_of_place there)
    obtain ⟨token, _, live⟩ := sets.since after within spared
    obtain ⟨holds, _, _, _, _, other, number, instant⟩ := punctual.rings k now task there
    obtain ⟨same, unrung⟩ := (live task).mp holds
    obtain ⟨_, rfl, rfl⟩ := sets.of_task other (same.symm.trans number.symm)
    obtain ⟨early, late⟩ := ringAt_bounds sum
    rw [← instant] at early late
    refine ⟨token, early, late, ?_⟩
    rintro i m first last ⟨at_, twin, _, rings, _⟩
    obtain ⟨_, _, before⟩ := sets.since first
      (Nat.le_of_lt (History.lt_length_of_place rings))
      fun r since until_ => spared r since (Nat.lt_trans until_ last)
    have holds := (punctual.rings i at_ twin rings).1
    obtain rfl := ((before twin).mp holds).1.trans same.symm
    exact unrung i at_ first last rings
  begins := by
    intro k now e after spared there late
    have within := Nat.le_of_lt (History.lt_length_of_place there)
    obtain ⟨_, _, live⟩ := sets.since after within spared
    apply Classical.byContradiction
    intro never
    have holds : (found { window } h k).timers.holds u.task = true := by
      refine (live u.task).mpr ⟨rfl, ?_⟩
      intro i at_ first last rings
      obtain ⟨token, serving, _⟩ := sets.since first
        (Nat.le_of_lt (History.lt_length_of_place rings))
        fun r since until_ => spared r since (Nat.lt_trans until_ last)
      obtain ⟨n, begun⟩ := rings_of_token rings serving (by rwa [token])
      exact never ⟨i, n, first, last, begun⟩
    have prompt := punctual.prompt k now e j set u there after sets holds
    have rings := (ringAt_bounds sum).2
    rw [Instant.le_iff] at prompt
    omega

/-! ## What sets a timer -/

theorem placed_by (installed : (s.next now e).token = some t) (new : s.token ≠ some t) :
    (∃ id, e = .loginReply id (.ok t.token) ∧ t.serial = s.serials ∧
        (s.next now e).serials = s.serials + 1) ∨
      ∃ n c, e.cycle? = some n ∧ (n, c) ∈ s.cycles.items ∧ s.Counts c := by
  have effect := step_effect s now e
  generalize s.next now e = after at installed effect ⊢
  cases effect with
  | loggedIn id token =>
      have placed := renew_places s.countLogin now token .zero
      obtain rfl := Option.some.inj (placed.1.symm.trans installed)
      exact Or.inl ⟨id, rfl, rfl, placed.2⟩
  | renewed e id c token answers found ends counts =>
      exact Or.inr ⟨id, c, answers, Numbered.find?_eq_some_iff.mp found, counts⟩
  | discarded e id c outcome =>
      obtain ⟨tally, same⟩ := discarded_spec s e id
      rw [same] at installed
      exact absurd installed new
  | failed e id c error =>
      obtain ⟨tally, timers, slot, same, _⟩ := failed_spec s now e id error
      rw [same] at installed
      exact absurd installed new
  | invalidated | shutdown => cases installed
  | _ => exact absurd installed new

/-- A timer is set for a second or more, unless a caller's login has put a token in place. -/
theorem SetsAt.pause_le (sets : SetsAt { window } h j set u)
    (quiet : ¬ Installs { window } h j) : pauseBetweenCycles ≤ u.delay := by
  obtain ⟨e, here, timer⟩ := sets
  obtain ⟨_, arms, _⟩ := step_timer timer
  generalize u.delay = d at arms
  cases arms with
  | placed token delay installed counted planned =>
      have new : (found { window } h j).token ≠ some ⟨(found { window } h j).serials, token⟩ :=
        fun before => Nat.lt_irrefl _ ((numbering_found window h j).token_lt _ before)
      rcases placed_by installed new with ⟨id, rfl, serial, more⟩ | ⟨n, c, answers, _⟩
      · rw [← found_succ here] at installed counted
        exact absurd ⟨id, _, ⟨set, _, here, rfl, serial, counted⟩, installed⟩ quiet
      · unfold Event.pause
        rw [answers, Duration.le_iff, Duration.nanos_max]
        exact Nat.le_max_right _ _
  | failed error fails =>
      unfold pauseAfterFailure
      rw [Duration.le_iff, Duration.nanos_max]
      exact Nat.le_max_right _ _

/-! ## Between two cycles -/

/-- A cycle ends by a reply with its outcome, within the clock. -/
theorem Effect.cycle_ended {s' : Renewing} (effect : Effect s now e s')
    (flying : (n, c) ∈ s.cycles.items) (gone : ∀ d, (n, d) ∉ s'.cycles.items)
    (within : e.overflows (s.step now e).result = false) :
    e.cycle? = some n ∧ ∃ outcome, c.outcome? e = some outcome := by
  have ends {id : Nat} {d : Cycle} {outcome : Except VaultError Token}
      (answers : e.cycle? = some id) (found : s.cycles.find? id = some d)
      (ends : d.outcome? e = some outcome) (cycles : s'.cycles = s.cycles.remove id) :
      e.cycle? = some n ∧ ∃ outcome, c.outcome? e = some outcome := by
    have same : n = id := by
      apply Classical.byContradiction
      intro other
      refine gone c ?_
      rw [cycles]
      exact Numbered.mem_remove.mpr ⟨flying, other⟩
    subst same
    obtain rfl := Numbered.eq_of_mem flying (Numbered.find?_eq_some_iff.mp found)
    exact ⟨answers, outcome, ends⟩
  cases effect with
  | discarded e id d outcome answers found done =>
      obtain ⟨tally, same⟩ := discarded_spec s e id
      exact ends answers found done (by rw [same])
  | renewed e id d token answers found done =>
      obtain ⟨tally, timers, slot, same, _⟩ := renewed_spec s now e id token
      exact ends answers found done (by rw [same])
  | failed e id d error answers found done =>
      obtain ⟨tally, timers, slot, same, _⟩ := failed_spec s now e id error
      exact ends answers found done (by rw [same])
  | broken id token d found beyond =>
      obtain ⟨spent, gain⟩ := not_broken found within
      exact absurd gain (beyond spent)
  | turned id reply d found => exact absurd (Numbered.mem_change.mpr ⟨c, flying, rfl⟩) (gone _)
  | began task token => exact absurd (Numbered.mem_add.mpr (Or.inl flying)) (gone c)
  | loggedIn id token =>
      obtain ⟨timers, slot, same, _⟩ := renew_spec s.countLogin now token .zero
      refine absurd ?_ (gone c)
      rw [same]
      exact flying
  | _ => exact absurd flying (gone c)

theorem install_slot {floor : Duration} (serving : s.terminated = false)
    (done : (s.install now t floor).result = .ok ()) (held : (s.install now t floor).session.slot =
      some k) : k = s.timers.issued := by
  unfold install at done held
  dsimp only at done held
  split at done
  · cases done
  · rename_i planned
    rw [planned] at held
    cases held
  · rename_i delay planned
    rw [planned] at held
    have handed := setTimer_handed (s := { s with token := some t, degraded := false }) serving now
      (max delay floor)
    exact (Option.some.inj (handed.slot.symm.trans held)).symm

theorem concluded_slot {outcome : Except VaultError Token} (answers : e.cycle? = some n)
    (flying : (n, c) ∈ s.cycles.items) (ends : c.outcome? e = some outcome) (counts : s.Counts c)
    (within : e.overflows (s.step now e).result = false)
    (held : (s.next now e).slot = some k) : k = s.timers.issued := by
  have found := Numbered.find?_eq_some_iff.mpr flying
  have next := (cycle_concludes now answers found ends).2
  rw [next] at held
  cases outcome with
  | ok token =>
      have done := renewed_within answers found ends counts within
      obtain ⟨tally, counted⟩ := counted_spec s e
      rw [counted] at held done
      rw [conclude_renews (s := { s with tally }) counts] at held
      exact install_slot (s := (Renewing.takeIn (Renewing.endCycle { s with tally } n) token).1)
        counts.1 done held
  | error error =>
      obtain ⟨tally, counted⟩ := counted_spec s e
      rw [counted, conclude_fails (s := { s with tally }) counts] at held
      have handed := setTimer_handed
        (s := Renewing.degrade (Renewing.endCycle { s with tally } n) error) counts.1 now
        s.pauseAfterFailure
      exact (Option.some.inj (handed.slot.symm.trans held)).symm

theorem slot_since (le : q + 1 ≤ k)
    (held : ∀ x, (s.found h (q + 1)).slot = some x → (s.found h q).timers.issued ≤ x) :
    ∀ x, (s.found h k).slot = some x → (s.found h q).timers.issued ≤ x := by
  have both : (s.found h q).timers.issued ≤ (s.found h k).timers.issued ∧
      ∀ x, (s.found h k).slot = some x → (s.found h q).timers.issued ≤ x := by
    refine History.invariant_later (I := fun s' : Renewing =>
      (s.found h q).timers.issued ≤ s'.timers.issued ∧
        ∀ x, s'.slot = some x → (s.found h q).timers.issued ≤ x)
      (fun s' now e held => ?_) le ⟨planned_le_found s h (Nat.le_succ q), held⟩
    have handover := (step_effect s' now e).onward.handover
    refine ⟨Nat.le_trans held.1 handover.issued_le, ?_⟩
    intro x new
    rcases handover.handle x new with before | ⟨rfl, _⟩
    · exact held.2 x before
    · exact held.1
  exact both.2

/-- After a cycle that counts the next one waits for a second, unless a caller's login comes
between. -/
theorem spaced_after_counted {ended : Instant} {e' : Event} (clock : WithinClock { window } h)
    (ordered : h.InOrder) (punctual : Punctual { window } h) (here : h[q]? = some (ended, e))
    (ends : Ends { window } h q n c) (counts : (found { window } h q).Counts c) (after : q < k)
    (there : h[k]? = some (now, e')) (rings : Rings { window } h k m)
    (quiet : ∀ j, q < j → j < k → ¬ Installs { window } h j) :
    ended.nanos + pauseBetweenCycles.nanos ≤ now.nanos := by
  obtain ⟨flying, gone⟩ := ends
  have within := clock.at_place here
  rw [found_succ here] at gone
  obtain ⟨answers, outcome, concludes⟩ :=
    (step_effect (found { window } h q) ended e).cycle_ended flying gone within
  obtain ⟨_, task, call, rung, _⟩ := rings
  cases there.symm.trans rung
  obtain ⟨holds, r, before, set, u, sets, rfl, rfl⟩ := punctual.rings k now task there
  -- The task that rings has been set when the cycle ended, or later.
  have since : q ≤ r := by
    obtain ⟨work, live⟩ := Numbered.holds_iff.mp holds
    have held := sole_run window (h.take k) _ work live
    have younger := slot_since (s := { window }) after (fun x held => by
      rw [found_succ here] at held
      exact Nat.le_of_eq (concluded_slot answers flying concludes counts within held).symm) _ held
    apply Nat.le_of_not_lt
    intro earlier
    have later := planned_le_found { window } h (show r + 1 ≤ q from earlier)
    have number := sets.number
    omega
  have pauses : pauseBetweenCycles ≤ u.delay := by
    apply sets.pause_le
    rcases Nat.lt_or_eq_of_le since with later | rfl
    · exact quiet r later before
    · rintro ⟨id, t, ⟨_, _, same, replies, _⟩, _⟩
      cases here.symm.trans same
      cases e with
      | loginReply caller reply => cases answers
      | _ => cases replies
  have ⟨_, at_, _⟩ := sets
  have order := ordered.le since here at_
  have rings := le_ringAt set pauses (by decide)
  rw [Instant.le_iff] at order
  omega

/-- Without a caller's login a session without a token remains without one. -/
theorem vacant_lasts (few : invalidations h < UInt64.size) (le : i ≤ k) (within : k ≤ h.length)
    (vacant : (found { window } h i).token = none)
    (quiet : ∀ j, i ≤ j → j < k → ¬ Installs { window } h j) :
    (found { window } h k).token = none := by
  refine History.holds_between (P := fun k => (found { window } h k).token = none) le within vacant
    ?_
  intro r now e first last here none
  apply Classical.byContradiction
  intro some
  obtain ⟨t, installed⟩ := Option.ne_none_iff_exists'.mp some
  have installed' := installed
  rw [found_succ here] at installed'
  rcases placed_by installed' (by rw [none]; exact nofun) with
    ⟨id, rfl, serial, more⟩ | ⟨n, c, _, flying, counts⟩
  · rw [← found_succ here] at more
    exact quiet r first last ⟨id, t, ⟨now, _, here, rfl, serial, more⟩, installed⟩
  · exact counts.token_found few (Nat.le_of_lt (History.lt_length_of_place here)) flying none

/-- When a cycle begins after one that does not count, a caller has logged in since that one
began. -/
theorem login_since_disowned (few : invalidations h < UInt64.size) (within : q ≤ h.length)
    (flying : (n, c) ∈ (found { window } h q).cycles.items)
    (stale : ¬ (found { window } h q).Counts c) (began : Rings { window } h p n) (after : q < k)
    (rings : Rings { window } h k m) : ∃ j, p < j ∧ j < k ∧ Installs { window } h j := by
  apply Classical.byContradiction
  intro never
  have quiet (j : Nat) (since : p < j) (until_ : j < k) : ¬ Installs { window } h j :=
    fun installs => never ⟨j, since, until_, installs⟩
  obtain ⟨now, task, call, rung, result⟩ := rings
  obtain ⟨serving, _, t, installed, _⟩ := ring_begins result
  obtain ⟨p', before, begins, generation, _⟩ := cycle_found within flying
  obtain rfl := began.unique begins
  -- Until the token has gone, the session is in the generation in which the cycle began.
  have owned : (found { window } h q).generation = (found { window } h p).generation ∨
      (found { window } h q).token = none := by
    refine History.holds_between (P := fun i =>
      (found { window } h i).generation = (found { window } h p).generation ∨
        (found { window } h i).token = none) (Nat.le_of_lt before) within (Or.inl rfl) ?_
    rintro i at_ e first last here (same | none)
    · cases raises : e.invalidates with
      | true =>
          cases e with
          | invalidate =>
              rw [found_succ here]
              exact Or.inr rfl
          | _ => cases raises
      | false =>
          have onward := (step_effect (found { window } h i) at_ e).onward.generation
          rw [raises] at onward
          rw [found_succ here, onward, same]
          exact Or.inl (UInt64.add_zero _)
    · rcases Nat.lt_or_eq_of_le first with since | rfl
      · right
        refine vacant_lasts few (Nat.le_succ i) (History.lt_length_of_place here) none ?_
        intro j from_ until_
        exact quiet j (by omega) (by omega)
      · obtain ⟨_, _, _, _, begun⟩ := began
        obtain ⟨_, _, _, placed, _⟩ := ring_begins begun
        cases none.symm.trans placed
  rcases owned with same | none
  · refine stale ⟨?_, same.trans generation⟩
    rw [found_run { window } h (Nat.le_of_lt after), terminated_run] at serving
    exact (Bool.or_eq_false_iff.mp serving).1
  · have vacant := vacant_lasts few (Nat.le_of_lt after)
      (Nat.le_of_lt (History.lt_length_of_place rung)) none
      fun j from_ until_ => quiet j (Nat.lt_of_lt_of_le before from_) until_
    cases vacant.symm.trans installed

/-- Over punctual timers the next cycle begins when the window of the token in place opens, not
sooner than a second after the cycle that has brought the token; or after a cycle that has failed,
when the shortest interval has passed, but a second at least.  A second passes between two cycles
without a caller's login between them, unless the session has disowned the first; then a caller has
logged in since that one began. -/
theorem begins_next_when_due (window : RenewalWindow) (h : History Event)
    (clock : WithinClock { window } h) (ordered : h.InOrder) (punctual : Punctual { window } h) :
    (∀ j set e t v, h[j]? = some (set, e) → (found { window } h (j + 1)).token = some t →
      (found { window } h j).token ≠ some t → t.token.validity = .finite v →
      ∃ due, window.due t.token.issued t.token.validity = .ok (some due) ∧
        (set.nanos + e.pause.nanos < Instant.limit →
          FiresNext { window } h j (max ⟨set.nanos + e.pause.nanos⟩ due))) ∧
    (∀ j set e error, h[j]? = some (set, e) → (found { window } h j).Fails e error →
      invalidations h < UInt64.size →
      set.nanos + (max window.interval pauseBetweenCycles).nanos < Instant.limit →
      FiresNext { window } h j ⟨set.nanos + (max window.interval pauseBetweenCycles).nanos⟩) ∧
    ∀ q n c ended e, h[q]? = some (ended, e) → Ends { window } h q n c →
      ∀ k m now e', q < k → h[k]? = some (now, e') → Rings { window } h k m →
        ((found { window } h q).Counts c → (∃ j, q < j ∧ j < k ∧ Installs { window } h j) ∨
          ended.nanos + pauseBetweenCycles.nanos ≤ now.nanos) ∧
        (¬ (found { window } h q).Counts c → invalidations h < UInt64.size →
          ∀ p, Rings { window } h p n → ∃ j, p < j ∧ j < k ∧ Installs { window } h j) := by
  refine ⟨?_, ?_, ?_⟩
  · intro j set e t v here installed new finite
    have placed := installed
    rw [found_succ here] at placed
    obtain ⟨delay, planned, timer⟩ := installed_timer placed new finite (clock.at_place here)
    rw [window_found] at planned
    obtain ⟨due, found, rfl⟩ := RenewalWindow.due_of_delay planned
    refine ⟨due, found, fun fits => ?_⟩
    have sets : SetsAt { window } h j set _ := ⟨e, here, timer⟩
    rw [finite] at found
    refine sets.fires punctual (RenewalWindow.plus_delay fits (RenewalWindow.due_finite found).2) ?_
    rw [installed]
    exact nofun
  · intro j set e error here fails few fits
    have timer := fails.timer set
    unfold pauseAfterFailure at timer
    rw [window_found] at timer
    have sets : SetsAt { window } h j set _ := ⟨e, here, timer⟩
    refine sets.fires punctual (Instant.plus_eq_ok_iff.mpr ⟨fits, rfl⟩) ?_
    rw [found_succ here, fails.token_kept]
    obtain ⟨n, c, _, found, counts⟩ := fails
    exact counts.token_found few (Nat.le_of_lt (History.lt_length_of_place here))
      (Numbered.find?_eq_some_iff.mp found)
  · intro q n c ended e here ends k m now e' after there rings
    refine ⟨fun counts => ?_, fun stale few p began => ?_⟩
    · apply Classical.or_iff_not_imp_left.mpr
      intro never
      refine spaced_after_counted clock ordered punctual here ends counts after there rings ?_
      exact fun j since until_ installs => never ⟨j, since, until_, installs⟩
    · exact login_since_disowned few (Nat.le_of_lt (History.lt_length_of_place here)) ends.1 stale
        began after rings

def retriedAt42 : History Event := failedAt32 ++ [(⟨42000000000⟩, .ring 1)]

/-- The application gives the first token up while its renewal is in flight, and logs in anew.  The
renewal ends half a second before the next one is due. -/
def discardedAt60 : History Event :=
  loggedInAt0 ++ [(⟨30000000000⟩, .ring 0), (⟨31000000000⟩, .invalidate),
    (⟨31000000000⟩, .begin .token), (⟨31000000000⟩, .loginReply 1 (.ok (minute "second" 31))),
    (⟨60500000000⟩, .renewalReply 0 (.ok (minute "first" 60))), (⟨61000000000⟩, .ring 1)]

theorem discardedAt60_within : WithinClock { window := halfMinute } discardedAt60 :=
  ⟨rfl, rfl, rfl, rfl, rfl, rfl, rfl, rfl, trivial⟩

theorem discardedAt60_punctual : Punctual { window := halfMinute } discardedAt60 := by decide

theorem discardedAt60_ends :
    Ends { window := halfMinute } discardedAt60 6 0 ⟨0, ⟨0, minute "first" 0⟩, .renewing⟩ :=
  ⟨List.mem_singleton.mpr rfl, fun _ member => nomatch member⟩

theorem begins_next_when_due_retriedAt42 :
    FiresNext { window := halfMinute } retriedAt42 1 ⟨30000000000⟩ ∧
    FiresNext { window := halfMinute } retriedAt42 4 ⟨42000000000⟩ ∧
    ((∃ j, 4 < j ∧ j < 5 ∧ Installs { window := halfMinute } retriedAt42 j) ∨
      32000000000 + pauseBetweenCycles.nanos ≤ 42000000000) ∧
    ∃ j, 2 < j ∧ j < 7 ∧ Installs { window := halfMinute } discardedAt60 j := by
  obtain ⟨placed, failed, ended⟩ := begins_next_when_due halfMinute retriedAt42
    ⟨rfl, rfl, rfl, rfl, rfl, rfl, trivial⟩ (by decide) (by decide)
  obtain ⟨_, _, again⟩ := begins_next_when_due halfMinute discardedAt60 discardedAt60_within
    (by decide) discardedAt60_punctual
  have flying : Ends { window := halfMinute } retriedAt42 4 0
      ⟨0, ⟨0, minute "first" 0⟩, .loggingIn⟩ :=
    ⟨List.mem_singleton.mpr rfl, fun _ member => nomatch member⟩
  refine ⟨?_, ?_, ?_, ?_⟩
  · obtain ⟨due, found, fires⟩ := placed 1 _ _ ⟨0, minute "first" 0⟩ (.ofSecs 60) rfl rfl nofun rfl
    cases found
    exact fires (by decide)
  · exact failed 4 _ _ .rateLimited rfl ⟨0, _, rfl, rfl, rfl, rfl⟩ (by decide) (by decide)
  · exact (ended 4 0 _ _ _ rfl flying 5 1 _ _ (by decide) rfl ⟨_, _, _, rfl, rfl⟩).1 ⟨rfl, rfl⟩
  · refine (again 6 0 _ _ _ rfl discardedAt60_ends 7 1 _ _ (by decide) rfl
      ⟨_, _, _, rfl, rfl⟩).2 (fun counts => ?_) (by decide) 2 ⟨_, _, _, rfl, rfl⟩
    cases counts.2

/-- A cycle may begin half a second after another one has ended, with no login between them. -/
theorem too_soon_discardedAt60 : ¬ ∀ (window : RenewalWindow) (h : History Event),
    WithinClock { window } h → h.InOrder → Punctual { window } h →
    invalidations h < UInt64.size →
    ∀ q n c ended e, h[q]? = some (ended, e) → Ends { window } h q n c →
      ∀ k m now e', q < k → h[k]? = some (now, e') → Rings { window } h k m →
        (∀ j instant id reply, q < j → j < k → h[j]? ≠ some (instant, .loginReply id reply)) →
        ended.nanos + pauseBetweenCycles.nanos ≤ now.nanos := by
  intro spaced
  have soon := spaced halfMinute discardedAt60 discardedAt60_within (by decide)
    discardedAt60_punctual (by decide) 6 0 _ _ _ rfl discardedAt60_ends 7 1 _ _ (by decide) rfl
    ⟨_, _, _, rfl, rfl⟩ (fun j _ _ _ after before => by omega)
  exact absurd soon (by decide)

end Renewing

end Leasehold.Session

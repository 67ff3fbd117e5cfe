import Leasehold.Proofs.Session.SingleFlight

/-!
# Logins that outlast an invalidation

A session without renewal puts the token of a login in place whenever the login
ends.  An invalidation takes away the token in place, but it does not disown the
login in flight: if that succeeds, its token serves callers that came after the
invalidation as well, until the next one (`served_across_iff`).
-/

set_option autoImplicit false

namespace Leasehold.Session

namespace Manager

variable {m : Manager} {now : Instant} {e : Event} {id : Nat} {t : TokenInstance}

def Renewless (m : Manager) : Prop := ∃ s, m = .simple s

def serials : Manager → Nat
  | .simple s => s.serials
  | .renewing s => s.serials

/-! ## What one event stores -/

inductive Stores (m : Manager) : Event → Manager → Prop
  | kept {e : Event} {m' : Manager} (token : m'.token = m.token) (serials : m'.serials = m.serials)
      (steady : e.invalidates = false) (lasts : e.ends = false) : Stores m e m'
  | emptied {e : Event} {m' : Manager} (gone : e.invalidates = true ∨ e.ends = true)
      (token : m'.token = none) (serials : m'.serials = m.serials) : Stores m e m'
  | taken {m' : Manager} (id : Nat) (t : Token) (serving : m.terminated = false)
      (token : m'.token = some ⟨m.serials, t⟩) (serials : m'.serials = m.serials + 1) :
      Stores m (.loginReply id (.ok t)) m'

theorem Renewless.next (renewless : m.Renewless) : (m.next now e).Renewless := by
  obtain ⟨s, rfl⟩ := renewless
  exact ⟨_, rfl⟩

theorem Renewless.stores (renewless : m.Renewless) (now : Instant) (e : Event) :
    Stores m e (m.next now e) := by
  obtain ⟨s, rfl⟩ := renewless
  cases e with
  | begin demand =>
      obtain ⟨lock, same⟩ := Simple.begin_spec s
      change Stores _ _ (.simple s.begin.session)
      rw [same]
      exact .kept rfl rfl rfl rfl
  | attempt id =>
      obtain ⟨lock, same⟩ := Simple.attempt_spec s
      change Stores _ _ (.simple s.attempt.session)
      rw [same]
      exact .kept rfl rfl rfl rfl
  | loginReply id reply =>
      change Stores _ _ (.simple (s.loginReply reply).session)
      cases reply with
      | error error => exact .kept rfl rfl rfl rfl
      | ok t =>
          unfold Simple.loginReply
          dsimp only
          split
          · exact .kept rfl rfl rfl rfl
          · rename_i serving
            exact .taken id t (Bool.eq_false_iff.mpr serving) rfl rfl
  | invalidate => exact .emptied (Or.inl rfl) rfl rfl
  | shutdown => exact .emptied (Or.inr rfl) rfl rfl
  | _ => exact .kept rfl rfl rfl rfl

theorem Stores.serials_le {m' : Manager} (stores : Stores m e m') : m.serials ≤ m'.serials := by
  cases stores with
  | kept token serials => exact Nat.le_of_eq serials.symm
  | emptied gone token serials => exact Nat.le_of_eq serials.symm
  | taken id t serving token serials => exact serials ▸ Nat.le_succ _

theorem Renewless.begin_callers (renewless : m.Renewless) (demand : Demand) :
    (m.next now (.begin demand)).callers = m.callers + 1 := by
  obtain ⟨s, rfl⟩ := renewless
  obtain ⟨lock, same⟩ := Simple.begin_spec s
  exact congrArg Simple.callers same

theorem Renewless.begin_result (renewless : m.Renewless) (now : Instant)
    (serving : m.terminated = false) (installed : m.token = some t) (demand : Demand) :
    (m.step now (.begin demand)).result = (m.callers, some (.answered (.ok t))) := by
  obtain ⟨s, rfl⟩ := renewless
  have serves : s.terminated = false := serving
  have token : s.token = some t := installed
  change s.begin.result = _
  unfold Simple.begin
  dsimp only
  rw [if_neg (Bool.eq_false_iff.mp serves), token]
  rfl

theorem Renewless.attempt_result (renewless : m.Renewless) (now : Instant) (id : Nat)
    (serving : m.terminated = false) (installed : m.token = some t) :
    (m.step now (.attempt id)).result = .answered (.ok t) := by
  have usable : m.usable now = .ok (some t) := by
    obtain ⟨s, rfl⟩ := renewless
    exact congrArg Except.ok installed
  rw [Manager.attempt_result, serving, usable]
  rfl

theorem Renewless.loginReply_serials (renewless : m.Renewless) (serving : m.terminated = false)
    (t : Token) : (m.next now (.loginReply id (.ok t))).serials = m.serials + 1 := by
  obtain ⟨s, rfl⟩ := renewless
  have serves : s.terminated = false := serving
  change (s.loginReply (.ok t)).session.serials = s.serials + 1
  unfold Simple.loginReply
  dsimp only
  rw [if_neg (Bool.eq_false_iff.mp serves)]
  rfl

theorem Renewless.returns (renewless : m.Renewless)
    (returned : e.returns? (m.step now e).result = some (id, .ok t)) :
    m.token = some t ∧ ((∃ demand, e = .begin demand) ∧ m.callers = id ∨ e = .attempt id) ∨
      e = .loginReply id (.ok t.token) ∧ t.serial = m.serials ∧
        (m.next now e).serials = m.serials + 1 := by
  obtain ⟨s, rfl⟩ := renewless
  cases e with
  | begin demand =>
      change Event.returns? (.begin demand) s.begin.result = _ at returned
      unfold Simple.begin at returned
      dsimp only at returned
      split at returned
      · cases returned
      · split at returned
        · rename_i installed
          cases returned
          exact Or.inl ⟨installed, Or.inl ⟨⟨demand, rfl⟩, rfl⟩⟩
        · cases held : s.lock.holder.isSome <;> rw [held] at returned <;> cases returned
  | attempt caller =>
      change Event.returns? (.attempt caller) s.attempt.result = _ at returned
      unfold Simple.attempt at returned
      split at returned
      · cases returned
      · split at returned
        · rename_i installed
          cases returned
          exact Or.inl ⟨installed, Or.inr rfl⟩
        · cases returned
  | loginReply caller reply =>
      change Event.returns? (.loginReply caller reply) (s.loginReply reply).result = _ at returned
      change _ ∨ _ ∧ _ ∧ (s.loginReply reply).session.serials = _
      cases reply with
      | error error => cases returned
      | ok token =>
          unfold Simple.loginReply at returned ⊢
          dsimp only at returned ⊢
          split at returned
          · cases returned
          · rename_i serving
            rw [if_neg serving]
            cases returned
            exact Or.inr ⟨rfl, rfl, rfl⟩
  | _ => cases returned

end Manager

namespace Watched

open Manager (Renewless Stores)

variable {w : Watched} {c : SessionConfig} {h : History Event} {now then_ : Instant} {e : Event}
  {i j k l m u id : Nat} {t : TokenInstance}

def Begins (w : Watched) (h : History Event) (l id : Nat) : Prop :=
  ∃ now e, h[l]? = some (now, e) ∧
    e.begins? ((w.found h l).manager.step now e).result = some id

def Returns (w : Watched) (h : History Event) (m id : Nat) (result : Outcome TokenInstance) :
    Prop :=
  ∃ now e, h[m]? = some (now, e) ∧
    e.returns? ((w.found h m).manager.step now e).result = some (id, result)

/-- At a place of a history the login of a caller ends with a token that is taken in. -/
def Obtains (w : Watched) (h : History Event) (k u : Nat) (t : TokenInstance) : Prop :=
  ∃ now, h[k]? = some (now, .loginReply u (.ok t.token)) ∧
    t.serial = (w.found h k).manager.serials ∧
    (w.found h (k + 1)).manager.serials = (w.found h k).manager.serials + 1

/-! ## What a history stores -/

theorem manager_ofConfig (renewless : c.enabled = false) :
    (ofConfig c).manager = .simple {} := by
  unfold ofConfig Manager.ofConfig
  rw [if_neg (Bool.eq_false_iff.mp renewless)]

theorem renewless_found (renewless : c.enabled = false) (i : Nat) :
    ((ofConfig c).found h i).manager.Renewless :=
  History.invariant_after (I := fun w : Watched => w.manager.Renewless)
    (fun _ _ _ held => held.next) (h.take i) ⟨{}, manager_ofConfig renewless⟩

theorem stores_found (renewless : c.enabled = false) (here : h[i]? = some (now, e)) :
    Stores ((ofConfig c).found h i).manager e ((ofConfig c).found h (i + 1)).manager := by
  rw [found_succ here]
  exact (renewless_found renewless i).stores now e

theorem callers_le_found (le : i ≤ k) :
    (w.found h i).manager.callers ≤ (w.found h k).manager.callers :=
  History.invariant_later
    (I := fun w' : Watched => (w.found h i).manager.callers ≤ w'.manager.callers)
    (fun w' now e held => Nat.le_trans held (Manager.callers_le w'.manager now e)) le
    (Nat.le_refl _)

theorem terminated_found (c : SessionConfig) (h : History Event) (i : Nat) :
    ((ofConfig c).found h i).manager.terminated = Renewing.ends (h.take i) := by
  have start : (ofConfig c).manager.terminated = false := by
    unfold ofConfig Manager.ofConfig
    split <;> rfl
  have run (w : Watched) (h : History Event) :
      (History.after next w h).manager.terminated =
        (w.manager.terminated || Renewing.ends h) := by
    induction h generalizing w with
    | nil => exact (Bool.or_false _).symm
    | cons event rest ih =>
        have step := Manager.terminated_next w.manager event.1 event.2
        refine (ih (w.next event.1 event.2)).trans ?_
        change ((w.manager.next event.1 event.2).terminated || Renewing.ends rest) = _
        rw [step, Bool.or_assoc]
        rfl
  exact (run _ _).trans (by rw [start, Bool.false_or])

theorem serials_le_found (renewless : c.enabled = false) (within : k ≤ h.length) (le : i ≤ k) :
    ((ofConfig c).found h i).manager.serials ≤ ((ofConfig c).found h k).manager.serials := by
  refine History.holds_between (P := fun k => ((ofConfig c).found h i).manager.serials ≤
    ((ofConfig c).found h k).manager.serials) le within (Nat.le_refl _) ?_
  exact fun p now e _ _ here held => Nat.le_trans held (stores_found renewless here).serials_le

theorem token_lt_found (renewless : c.enabled = false) (within : i ≤ h.length)
    (installed : ((ofConfig c).found h i).manager.token = some t) :
    t.serial < ((ofConfig c).found h i).manager.serials := by
  refine History.holds_at (P := fun i => ∀ t,
    ((ofConfig c).found h i).manager.token = some t →
      t.serial < ((ofConfig c).found h i).manager.serials) ?_ ?_ i within t installed
  · intro t installed
    change (ofConfig c).manager.token = some t at installed
    rw [manager_ofConfig renewless] at installed
    cases installed
  · intro i now e here below t installed
    cases stores_found renewless here with
    | kept token serials =>
        rw [serials]
        exact below t (token ▸ installed)
    | emptied gone token => cases token.symm.trans installed
    | taken id reply serving token serials =>
        cases token.symm.trans installed
        exact serials ▸ Nat.lt_succ_self _

theorem token_gone_found (renewless : c.enabled = false) (within : k ≤ h.length) (le : i ≤ k)
    (below : t.serial < ((ofConfig c).found h i).manager.serials)
    (gone : ((ofConfig c).found h i).manager.token ≠ some t) :
    ((ofConfig c).found h k).manager.token ≠ some t := by
  refine History.holds_between
    (P := fun k => ((ofConfig c).found h k).manager.token ≠ some t) le within gone ?_
  intro p now e after before here absent installed
  have counted := serials_le_found renewless
    (Nat.le_of_lt (History.lt_length_of_place here)) after
  cases stores_found renewless here with
  | kept token => exact absent (token ▸ installed)
  | emptied gone token => cases token.symm.trans installed
  | taken id reply serving token =>
      cases token.symm.trans installed
      exact Nat.lt_irrefl _ (Nat.lt_of_lt_of_le below counted)

/-! ## Callers and their logins -/

theorem Begins.number (renewless : c.enabled = false) (begins : Begins (ofConfig c) h l id) :
    ((ofConfig c).found h l).manager.callers = id ∧
      ((ofConfig c).found h (l + 1)).manager.callers = id + 1 := by
  obtain ⟨now, e, here, number⟩ := begins
  rw [found_succ here]
  cases e with
  | begin demand =>
      have same := (Manager.begin_number _ now demand).symm.trans (Option.some.inj number)
      refine ⟨same, ?_⟩
      rw [← same]
      exact (renewless_found renewless l).begin_callers demand
  | _ => cases number

theorem Begins.unique (renewless : c.enabled = false) (first : Begins (ofConfig c) h i id)
    (second : Begins (ofConfig c) h k id) : i = k := by
  have number := first.number renewless
  have number' := second.number renewless
  rcases Nat.lt_trichotomy i k with before | same | after
  · have fewer : ((ofConfig c).found h (i + 1)).manager.callers ≤ _ := callers_le_found before
    omega
  · exact same
  · have fewer : ((ofConfig c).found h (k + 1)).manager.callers ≤ _ := callers_le_found after
    omega

theorem Opens.counted (renewless : c.enabled = false) (awaited : (ofConfig c).Awaited h)
    (opens : Opens (ofConfig c) h i u) : u < ((ofConfig c).found h (i + 1)).manager.callers := by
  obtain ⟨now, e, here, asks⟩ := opens
  rcases Event.asks_callerLogin asks with ⟨demand, rfl⟩ | rfl
  · have begins : Begins (ofConfig c) h i u :=
      ⟨now, .begin demand, here, congrArg (Event.begins? _) (Event.asks_begin asks)⟩
    rw [(begins.number renewless).2]
    exact Nat.lt_succ_self u
  · have below := (lined_found awaited i).below (awaited.at_place here)
    exact Nat.lt_of_lt_of_le below (callers_le_found (Nat.le_succ i))

theorem Obtains.unique {v : Nat} (renewless : c.enabled = false)
    (first : Obtains (ofConfig c) h i u t) (second : Obtains (ofConfig c) h k v t) :
    i = k ∧ u = v := by
  obtain ⟨_, here, serial, more⟩ := first
  obtain ⟨_, there, serial', more'⟩ := second
  have same : i = k := by
    rcases Nat.lt_trichotomy i k with before | same | after
    · have counted : ((ofConfig c).found h (i + 1)).manager.serials ≤ _ :=
        serials_le_found renewless (Nat.le_of_lt (History.lt_length_of_place there)) before
      omega
    · exact same
    · have counted : ((ofConfig c).found h (k + 1)).manager.serials ≤ _ :=
        serials_le_found renewless (Nat.le_of_lt (History.lt_length_of_place here)) after
      omega
  subst same
  cases here.symm.trans there
  exact ⟨rfl, rfl⟩

theorem Obtains.installs (renewless : c.enabled = false) (obtains : Obtains (ofConfig c) h k u t) :
    ((ofConfig c).found h k).manager.terminated = false ∧
      ((ofConfig c).found h (k + 1)).manager.token = some t := by
  obtain ⟨now, here, serial, more⟩ := obtains
  have stores := stores_found renewless here
  generalize ((ofConfig c).found h k).manager = m at *
  generalize ((ofConfig c).found h (k + 1)).manager = m' at *
  obtain ⟨number, token⟩ := t
  generalize reply : Event.loginReply u (.ok token) = e at stores
  cases stores with
  | kept token serials => omega
  | emptied gone token serials => omega
  | taken id taken serving installed =>
      cases reply
      subst serial
      exact ⟨serving, installed⟩

theorem obtains_of_reply {token : Token} (renewless : c.enabled = false)
    (here : h[k]? = some (now, .loginReply u (.ok token)))
    (serving : ((ofConfig c).found h k).manager.terminated = false) :
    Obtains (ofConfig c) h k u ⟨((ofConfig c).found h k).manager.serials, token⟩ := by
  refine ⟨now, here, rfl, ?_⟩
  rw [found_succ here]
  exact (renewless_found renewless k).loginReply_serials serving token

/-! ## Tokens that stay in place -/

/-- A token is in place, the session has not ended, and nobody logs in. -/
structure Settled (w : Watched) (t : TokenInstance) : Prop where
  renewless : w.manager.Renewless
  serving : w.manager.terminated = false
  token : w.manager.token = some t
  idle : ∀ v, (v, .loggingIn) ∉ w.line

theorem not_loggingIn_letIn (v : Nat) (queue : List Nat) :
    (v, Phase.loggingIn) ∉ Line.letIn queue := by
  intro there
  cases queue with
  | nil => cases there
  | cons u rest =>
      rcases List.mem_cons.mp there with head | behind
      · cases head
      · obtain ⟨_, _, other⟩ := List.mem_map.mp behind
        cases other

theorem Settled.next (settled : Settled w t) (lined : Lined w) (awaits : w.Awaits e)
    (steady : e.invalidates = false) (lasts : e.ends = false) : Settled (w.next now e) t := by
  have moved : w.line.Moved e (w.manager.step now e).result (w.next now e).line :=
    (lined.moved awaits).2
  obtain ⟨renewless, serving, installed, idle⟩ := settled
  have stores := renewless.stores now e
  refine ⟨renewless.next, ?_, ?_, ?_⟩
  · change (w.manager.next now e).terminated = false
    rw [Manager.terminated_next, serving, lasts]
    rfl
  · change (w.manager.next now e).token = some t
    generalize w.manager.next now e = m at stores
    cases stores with
    | kept token => rwa [token]
    | emptied gone =>
        rcases gone with invalidates | ends
        · cases steady.symm.trans invalidates
        · cases lasts.symm.trans ends
    | taken id reply => exact absurd awaits (idle id)
  · intro v there
    have answered (demand : Demand) := renewless.begin_result now serving installed demand
    have served (id : Nat) := renewless.attempt_result now id serving installed
    generalize (w.next now e).line = line at moved there
    generalize before : w.line = line' at moved
    generalize answer : (w.manager.step now e).result = result at moved
    cases moved with
    | still _ _ _ aside => exact idle v (before ▸ there)
    | answered _ demand id r => exact idle v (before ▸ there)
    | queued _ demand id behind => cases (answered demand).symm.trans answer
    | admitted demand id => cases (answered demand).symm.trans answer
    | started id queue => cases (served id).symm.trans answer
    | served id queue r => exact not_loggingIn_letIn v queue there
    | ended id queue reply r => exact not_loggingIn_letIn v queue there

/-- The token of a login stays in place until an invalidation or the shutdown, and nobody logs in
meanwhile. -/
theorem Obtains.settled (renewless : c.enabled = false) (awaited : (ofConfig c).Awaited h)
    (obtains : Obtains (ofConfig c) h k u t) (lt : k < m) (within : m ≤ h.length)
    (steady : Steady h k m) : Settled ((ofConfig c).found h m) t := by
  refine History.holds_between (P := fun m => Settled ((ofConfig c).found h m) t) lt within ?_ ?_
  · obtain ⟨serving, installed⟩ := obtains.installs renewless
    obtain ⟨now, here, _⟩ := obtains
    obtain ⟨queue, _, line⟩ := (moved_found awaited here).ends
    refine ⟨renewless_found renewless (k + 1), ?_, installed, ?_⟩
    · rw [found_succ here]
      refine (Manager.terminated_next _ now _).trans ?_
      rw [serving]
      rfl
    · intro v there
      rw [line] at there
      exact not_loggingIn_letIn v queue there
  · intro p now e after before here settled
    obtain ⟨calm, lasts⟩ := steady p now e after before here
    rw [found_succ here]
    exact settled.next (lined_found awaited p) (awaited.at_place here) calm lasts

theorem Obtains.steady (renewless : c.enabled = false) (obtains : Obtains (ofConfig c) h k u t)
    (within : m ≤ h.length) (installed : ((ofConfig c).found h m).manager.token = some t) :
    k < m ∧ Steady h k m := by
  obtain ⟨_, here, serial, more⟩ := obtains
  have lt : k < m := by
    refine Nat.lt_of_not_le fun le => ?_
    have below := token_lt_found renewless within installed
    have counted := serials_le_found renewless
      (Nat.le_of_lt (History.lt_length_of_place here)) le
    omega
  refine ⟨lt, fun p now e after before there => ?_⟩
  have counted : ((ofConfig c).found h (k + 1)).manager.serials ≤
      ((ofConfig c).found h (p + 1)).manager.serials :=
    serials_le_found renewless (History.lt_length_of_place there)
      (Nat.succ_le_succ (Nat.le_of_lt after))
  cases stores_found renewless there with
  | kept token serials steady lasts => exact ⟨steady, lasts⟩
  | emptied gone token =>
      have absent : ((ofConfig c).found h (p + 1)).manager.token ≠ some t := by
        rw [token]
        exact nofun
      have below : t.serial < ((ofConfig c).found h (p + 1)).manager.serials := by omega
      exact absurd installed (token_gone_found renewless within before below absent)
  | taken id reply => exact ⟨rfl, rfl⟩

/-! ## Every history -/

/-- A caller that begins after an invalidation is returned the token of a login that began before it
exactly if that login succeeds after it, and the caller comes or goes on after that and before the
next invalidation or the shutdown. -/
theorem served_across_iff (c : SessionConfig) (renewless : c.enabled = false) (h : History Event)
    (awaited : (ofConfig c).Awaited h) (j l m id : Nat) (then_ : Instant)
    (invalidated : h[j]? = some (then_, .invalidate)) (later : j < l)
    (begins : Begins (ofConfig c) h l id) :
    (∃ t i k u, Returns (ofConfig c) h m id (.ok t) ∧ Opens (ofConfig c) h i u ∧
      Obtains (ofConfig c) h k u t ∧ i < j) ↔
    ∃ i k u, Opens (ofConfig c) h i u ∧ i < j ∧ j < k ∧ k < m ∧
      (∃ now token, h[k]? = some (now, .loginReply u (.ok token))) ∧
      Renewing.ends (h.take k) = false ∧ Steady h k m ∧
      (m = l ∨ ∃ now, h[m]? = some (now, .attempt id)) := by
  obtain ⟨number, counted⟩ := begins.number renewless
  constructor
  · rintro ⟨t, i, k, u, ⟨now, e, here, returned⟩, opens, obtains, earlier⟩
    have within := Nat.le_of_lt (History.lt_length_of_place here)
    rcases (renewless_found renewless m).returns returned with
      ⟨installed, comes⟩ | ⟨rfl, serial, more⟩
    · obtain ⟨serving, _⟩ := obtains.installs renewless
      obtain ⟨lt, steady⟩ := obtains.steady renewless within installed
      have turn : l ≤ m ∧ (m = l ∨ ∃ now, h[m]? = some (now, .attempt id)) := by
        rcases comes with ⟨⟨demand, rfl⟩, same⟩ | rfl
        · have also : Begins (ofConfig c) h m id :=
            ⟨now, .begin demand, here,
              congrArg some ((Manager.begin_number _ now demand).trans same)⟩
          obtain rfl := also.unique renewless begins
          exact ⟨Nat.le_refl m, Or.inl rfl⟩
        · refine ⟨?_, Or.inr ⟨now, here⟩⟩
          refine Nat.le_of_not_lt fun before => ?_
          have below := (lined_found awaited m).below (awaited.at_place here)
          have fewer : _ ≤ ((ofConfig c).found h l).manager.callers :=
            callers_le_found (Nat.le_of_lt before)
          omega
      have ⟨then', replied, _⟩ := obtains
      have barrier : j < k := by
        refine Nat.lt_of_not_le fun le => ?_
        rcases Nat.lt_or_eq_of_le le with before | rfl
        · have calm := steady j then_ _ before (Nat.lt_of_lt_of_le later turn.1) invalidated
          cases calm.1
        · cases replied.symm.trans invalidated
      refine ⟨i, k, u, opens, earlier, barrier, lt, ⟨then', _, replied⟩, ?_, steady, turn.2⟩
      rwa [← terminated_found c]
    · -- The caller's own login began with its call or later.
      have own : Obtains (ofConfig c) h m id t := by
        refine ⟨now, here, serial, ?_⟩
        rw [found_succ here]
        exact more
      obtain ⟨rfl, rfl⟩ := obtains.unique renewless own
      have below := opens.counted renewless awaited
      have fewer : ((ofConfig c).found h (i + 1)).manager.callers ≤ _ :=
        callers_le_found (Nat.lt_trans earlier later)
      omega
  · rintro ⟨i, k, u, opens, earlier, barrier, lt, ⟨then', token, replied⟩, serves, steady, turn⟩
    rw [← terminated_found c] at serves
    have obtains := obtains_of_reply renewless replied serves
    refine ⟨_, i, k, u, ?_, opens, obtains, earlier⟩
    rcases turn with rfl | ⟨now, here⟩
    · obtain ⟨now, e, here, begun⟩ := begins
      have within := Nat.le_of_lt (History.lt_length_of_place here)
      obtain ⟨_, serving, installed, _⟩ := obtains.settled renewless awaited lt within steady
      refine ⟨now, e, here, ?_⟩
      cases e with
      | begin demand =>
          rw [(renewless_found renewless m).begin_result _ serving installed demand, number]
          rfl
      | _ => cases begun
    · have within := Nat.le_of_lt (History.lt_length_of_place here)
      obtain ⟨_, serving, installed, _⟩ := obtains.settled renewless awaited lt within steady
      refine ⟨now, _, here, ?_⟩
      rw [(renewless_found renewless m).attempt_result _ _ serving installed]
      rfl

/-- The session is invalidated while a caller logs in, and the next one waits for that login. -/
def outlastedAt1 : History Event :=
  [(⟨0⟩, .begin .token), (⟨1000000000⟩, .invalidate), (⟨1000000000⟩, .begin .token),
    (⟨2000000000⟩, .loginReply 0 (.ok (Renewing.minute "old" 2))), (⟨2000000000⟩, .attempt 1)]

def unrenewed : SessionConfig := { enabled := false }

theorem outlastedAt1_awaited : (ofConfig unrenewed).Awaited outlastedAt1 :=
  ⟨trivial, trivial, trivial, List.mem_cons_self, List.mem_cons_self, trivial⟩

theorem served_across_iff_outlastedAt1 :
    let w := ofConfig unrenewed
    let h := outlastedAt1
    (∃ t i k u, Returns w h 4 1 (.ok t) ∧ Opens w h i u ∧ Obtains w h k u t ∧ i < 1) ↔
    ∃ i k u, Opens w h i u ∧ i < 1 ∧ 1 < k ∧ k < 4 ∧
      (∃ now token, h[k]? = some (now, .loginReply u (.ok token))) ∧
      Renewing.ends (h.take k) = false ∧ Steady h k 4 ∧
      (4 = 2 ∨ ∃ now, h[4]? = some (now, .attempt 1)) :=
  served_across_iff unrenewed rfl outlastedAt1 outlastedAt1_awaited 1 2 4 1 ⟨1000000000⟩ rfl
    (by decide) ⟨_, _, rfl, rfl⟩

/-- A caller that comes after an invalidation is returned the token of a login from before it. -/
theorem serves_across :
    ¬ ∀ (c : SessionConfig) (h : History Event), c.enabled = false → (ofConfig c).Awaited h →
      ∀ j l m id then_ t i k u, h[j]? = some (then_, .invalidate) → j < l →
        Begins (ofConfig c) h l id → Returns (ofConfig c) h m id (.ok t) →
        Opens (ofConfig c) h i u → Obtains (ofConfig c) h k u t → j ≤ i := by
  intro bars
  have barred := bars unrenewed outlastedAt1 rfl outlastedAt1_awaited 1 2 4 1 ⟨1000000000⟩
    ⟨0, Renewing.minute "old" 2⟩ 0 3 0 rfl (by decide) ⟨_, _, rfl, rfl⟩ ⟨_, _, rfl, rfl⟩
    ⟨_, _, rfl, rfl⟩ ⟨_, rfl, rfl, rfl⟩
  exact absurd barred (by decide)

end Watched

end Leasehold.Session

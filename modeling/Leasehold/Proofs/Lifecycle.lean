import Leasehold.Lifecycle
import Leasehold.Proofs.Lease.Termination
import Leasehold.Proofs.Session.Manager
import Leasehold.Proofs.Session.Overtaking

/-!
# The end of a lifecycle

The parts of a lifecycle can be reached, and shut down, one by one.  The shutdown
of both leaves an empty container behind in every case, but it looks at the
container alone to see whether there is anything left to do: once the container
has been shut down on its own, the session is passed over.  So the session has
ended after a shutdown exactly if it was shut down itself, or together with a
container that was still open (`shutdown_stops_iff`).
-/

set_option autoImplicit false

namespace Leasehold

/-! ## Calls of a session that has ended -/

namespace Session.Service

variable {σ J : Type} (h : Service σ J) (now : Instant)

theorem happen_alone (e : Event) (s : σ) :
    (h.happen e).alone now s =
      (((h.get s).step now e).result, now, h.put ((h.get s).step now e).session s) := by
  unfold happen
  rw [Activity.alone_bind]
  dsimp only [Activity.act, Activity.alone]
  generalize (h.get s).step now e = c
  obtain ⟨session, result, timer, woken⟩ := c
  cases timer <;> cases woken <;> rfl

theorem obtain_alone {s : σ} (ended : (h.get s).terminated = true) (demand : Demand) :
    (h.obtain demand).alone now s =
      (.error (.error .shutdown), now, h.put ((h.get s).next now (.begin demand)) s) := by
  unfold obtain
  rw [Activity.alone_bind, happen_alone, Manager.begin_terminated ended now demand]
  rfl

end Session.Service

/-! ## Events of a lifecycle -/

namespace Lifecycle

inductive Event where
  | session (e : Session.Event)
  | leases (e : Container.Event)
  | shutdown

def next (l : Lifecycle) (now : Instant) : Event → Lifecycle
  | .session e => { l with session := l.session.next now e }
  | .leases e => { l with leases := l.leases.next now e }
  | .shutdown => l.shutdown

abbrev run (l : Lifecycle) (h : History Event) : Lifecycle := History.after next l h

def Event.closes : Event → Bool
  | .leases e => e.ends
  | .shutdown => true
  | .session _ => false

def Closes (h : History Event) (i : Nat) : Prop :=
  ∃ now e, h[i]? = some (now, e) ∧ e.closes = true

/-- At a place of a history the session is shut down, on its own or with a container that has been
open until then. -/
def EndsSession (h : History Event) (i : Nat) : Prop :=
  ∃ now, h[i]? = some (now, .session .shutdown) ∨
    h[i]? = some (now, .shutdown) ∧ ∀ j < i, ¬ Closes h j

variable {l : Lifecycle} {h : History Event} {now : Instant} {e : Event} {i : Nat}

theorem EndsSession.lt_length (ends : EndsSession h i) : i < h.length := by
  obtain ⟨_, here | ⟨here, _⟩⟩ := ends
  · exact History.lt_length_of_place here
  · exact History.lt_length_of_place here

/-! ## What one event does -/

theorem shutdown_of_closed (closed : l.leases.shutDown = true) : l.shutdown = l := if_pos closed

theorem shutdown_of_open (opened : l.leases.shutDown = false) :
    l.shutdown = ⟨l.session.shutdown, l.leases.shutdown⟩ := if_neg (Bool.eq_false_iff.mp opened)

theorem shutDown_next (l : Lifecycle) (now : Instant) (e : Event) :
    (l.next now e).leases.shutDown = (l.leases.shutDown || e.closes) := by
  cases e with
  | session e => exact (Bool.or_false _).symm
  | leases e => exact l.leases.shutDown_next now e
  | shutdown =>
      change l.shutdown.leases.shutDown = (l.leases.shutDown || true)
      cases closed : l.leases.shutDown with
      | true => rw [shutdown_of_closed closed, closed, Bool.true_or]
      | false =>
          rw [shutdown_of_open closed]
          rfl

theorem emptied_next (now : Instant) (e : Event) (emptied : l.leases.Emptied) :
    (l.next now e).leases.Emptied := by
  cases e with
  | session e => exact emptied
  | leases e => exact (Container.step_effect l.leases now e).emptied emptied
  | shutdown =>
      change l.shutdown.leases.Emptied
      cases closed : l.leases.shutDown with
      | true => rwa [shutdown_of_closed closed]
      | false =>
          rw [shutdown_of_open closed]
          exact fun _ => rfl

theorem terminated_next_iff (l : Lifecycle) (now : Instant) (e : Event) :
    (l.next now e).session.terminated = true ↔ l.session.terminated = true ∨
      e = .session .shutdown ∨ e = .shutdown ∧ l.leases.shutDown = false := by
  cases e with
  | session e =>
      change (l.session.next now e).terminated = true ↔ _
      rw [Session.Manager.terminated_next, Bool.or_eq_true]
      cases e <;> simp [Session.Event.ends]
  | leases e =>
      change l.session.terminated = true ↔ _
      simp
  | shutdown =>
      change l.shutdown.session.terminated = true ↔ _
      cases closed : l.leases.shutDown with
      | true => simp [shutdown_of_closed closed]
      | false => simp [shutdown_of_open closed, Session.Manager.terminated_shutdown]

/-! ## What a history does -/

theorem shutDown_found_iff (fresh : l.leases.shutDown = false) (le : i ≤ h.length) :
    (l.run (h.take i)).leases.shutDown = true ↔ ∃ j < i, Closes h j := by
  refine History.holds_at (P := fun i =>
    (l.run (h.take i)).leases.shutDown = true ↔ ∃ j < i, Closes h j) ?_ ?_ i le
  · simp [run, History.after, fresh]
  · intro i now e here before
    have closes : e.closes = true ↔ Closes h i := by
      refine ⟨fun closes => ⟨now, e, here, closes⟩, ?_⟩
      rintro ⟨_, _, there, closes⟩
      cases here.symm.trans there
      exact closes
    rw [run, History.after_take_succ here, shutDown_next, Bool.or_eq_true, closes,
      Nat.exists_lt_succ_right]
    exact or_congr_left before

theorem terminated_found_iff (fresh : l.leases.shutDown = false) (le : i ≤ h.length) :
    (l.run (h.take i)).session.terminated = true ↔
      l.session.terminated = true ∨ ∃ j < i, EndsSession h j := by
  refine History.holds_at (P := fun i => (l.run (h.take i)).session.terminated = true ↔
    l.session.terminated = true ∨ ∃ j < i, EndsSession h j) ?_ ?_ i le
  · simp [run, History.after]
  · intro i now e here before
    have within := Nat.le_of_lt (History.lt_length_of_place here)
    have opened : (l.run (h.take i)).leases.shutDown = false ↔ ∀ j < i, ¬ Closes h j := by
      rw [← Bool.not_eq_true, shutDown_found_iff fresh within]
      simp
    have ends : e = .session .shutdown ∨
        e = .shutdown ∧ (l.run (h.take i)).leases.shutDown = false ↔ EndsSession h i := by
      rw [opened]
      constructor
      · rintro (rfl | ⟨rfl, none⟩)
        · exact ⟨now, Or.inl here⟩
        · exact ⟨now, Or.inr ⟨here, none⟩⟩
      · rintro ⟨_, there | ⟨there, none⟩⟩
        · cases here.symm.trans there
          exact Or.inl rfl
        · cases here.symm.trans there
          exact Or.inr ⟨rfl, none⟩
    rw [run, History.after_take_succ here, terminated_next_iff, ends, Nat.exists_lt_succ_right,
      ← or_assoc]
    exact or_congr_left before

theorem closed_run (l : Lifecycle) (before after : History Event) (end_ : Instant) :
    (l.run (before ++ (end_, .shutdown) :: after)).leases.shutDown = true := by
  rw [run, History.after_append]
  refine History.invariant_after (I := fun l : Lifecycle => l.leases.shutDown = true)
    (fun l now e closed => ?_) after ?_
  · rw [shutDown_next, closed, Bool.true_or]
  · rw [shutDown_next]
    exact Bool.or_true _

/-- After the shutdown of a lifecycle the registry is empty and stays so, every secret that is asked
for is refused before anything is asked of the server, and another shutdown changes nothing.  The
session is terminated, and then refuses every token, exactly if it was so from the start, or was
shut down on its own, or with a container that was still open. -/
theorem shutdown_stops_iff (m : Session.Manager) (config : LeaseConfig)
    (before after : History Event) (end_ : Instant) :
    let h := before ++ (end_, .shutdown) :: after
    let l := run ⟨m, .new config⟩ h
    l.leases.entries = [] ∧ l.shutdown = l ∧
    (∀ (σ J : Type) (service : LeaseService σ J) (s : σ) (now : Instant) (path : String),
      service.get s = l.leases →
        (service.read path).alone now s =
          (.error (.error .shutdown), now, service.put l.leases s)) ∧
    (l.session.status = .terminated ↔ m.status = .terminated ∨ ∃ i, EndsSession h i) ∧
    (l.session.status = .terminated →
      ∀ (σ J : Type) (service : Session.Service σ J) (s : σ) (now : Instant)
        (demand : Session.Demand), service.get s = l.session →
          (service.obtain demand).alone now s =
            (.error (.error .shutdown), now,
              service.put (l.session.next now (.begin demand)) s)) := by
  intro h l
  have closed : l.leases.shutDown = true := closed_run ⟨m, .new config⟩ before after end_
  have emptied : l.leases.Emptied :=
    History.invariant_after (I := fun l : Lifecycle => l.leases.Emptied)
      (fun l now e => emptied_next now e) h nofun
  refine ⟨emptied closed, shutdown_of_closed closed, ?_, ?_, ?_⟩
  · intro σ J service s now path there
    rw [← there]
    exact service.read_alone now (there ▸ closed) path
  · have terminated := terminated_found_iff (l := ⟨m, .new config⟩) (h := h) rfl (Nat.le_refl _)
    rw [List.take_length] at terminated
    rw [Session.Manager.status_terminated_iff, Session.Manager.status_terminated_iff]
    refine terminated.trans (or_congr_right ?_)
    constructor
    · rintro ⟨i, _, ends⟩
      exact ⟨i, ends⟩
    · rintro ⟨i, ends⟩
      exact ⟨i, ends.lt_length, ends⟩
  · intro status σ J service s now demand there
    rw [← there]
    exact service.obtain_alone now (there ▸ Session.Manager.status_terminated_iff.mp status) demand

/-- A token is in place when the container is shut down on its own. -/
def containerFirst : History Event :=
  (Session.Renewing.loggedInAt0.map fun event => (event.1, .session event.2)) ++
    [(⟨1⟩, .leases .shutdown)]

/-- The shutdown of a lifecycle may leave its session as it was. -/
theorem session_outlives_shutdown :
    ¬ ∀ (m : Session.Manager) (config : LeaseConfig) (before : History Event) (end_ : Instant),
      (run ⟨m, .new config⟩ (before ++ [(end_, .shutdown)])).session.status = .terminated := by
  intro stops
  have status := stops (.renewing { window := Session.Renewing.halfMinute }) {} containerFirst ⟨2⟩
  have active : (run ⟨.renewing { window := Session.Renewing.halfMinute }, .new {}⟩
      (containerFirst ++ [(⟨2⟩, .shutdown)])).session.status = .active := rfl
  cases active.symm.trans status

end Lifecycle

end Leasehold

import Leasehold.Lease.Service
import Leasehold.Proofs.Lease.Tally

/-!
# The end of a container

A container that has been shut down stays empty, sends no event and counts
nothing any more, whatever was in flight (`Effect.closed`).  It takes no lease
in: calls that come later end at their first look at the container, before
anything is asked of the server, and a read whose secret comes with a lease is
told of the shutdown (`shutdown_final`).
-/

set_option autoImplicit false

namespace Leasehold

/-! ## Calls of a service -/

theorem Activity.alone_bind {σ J α β : Type} (p : Activity σ J α) (f : α → Activity σ J β)
    (now : Instant) (s : σ) :
    (p >>= f).alone now s =
      (f (p.alone now s).1).alone (p.alone now s).2.1 (p.alone now s).2.2 := by
  change Activity.alone (Dialogue.bind p f) now s = _
  induction p generalizing now s with
  | done a => rfl
  | pause d next ih => exact ih () _ s
  | ask q next ih =>
      cases q with
      | act run => exact ih _ now (run now s).1
      | spawn job => exact ih () now s
      | park gate => exact ih () now s
      | wake gate => exact ih () now s

namespace LeaseService

variable {σ J : Type} (h : LeaseService σ J) (now : Instant) {s : σ}

theorem happen_alone (e : Container.Event) (s : σ) :
    (h.happen e).alone now s =
      (((h.get s).step now e).result, now, h.put ((h.get s).step now e).container s) := by
  unfold happen
  rw [Activity.alone_bind]
  dsimp only [Activity.act, Activity.alone]
  generalize (h.get s).step now e = c
  obtain ⟨container, result, timer⟩ := c
  cases timer with
  | none => rfl
  | some t => rfl

theorem read_alone (closed : (h.get s).shutDown = true) (path : String) :
    (h.read path).alone now s = (.error (.error .shutdown), now, h.put (h.get s) s) := by
  have refused : ((h.get s).step now .openCall).result = .error .shutdown := if_pos closed
  unfold read
  rw [Activity.alone_bind, happen_alone, refused]
  rfl

theorem revoke_alone (closed : (h.get s).shutDown = true) (id : String) :
    (h.revoke id).alone now s = (.error (.error .shutdown), now, h.put (h.get s) s) := by
  have refused : ((h.get s).step now .openCall).result = .error .shutdown := if_pos closed
  unfold revoke
  rw [Activity.alone_bind, happen_alone, refused]
  rfl

end LeaseService

namespace Container

variable {b c c' : Container} {now : Instant} {e : Event} {l : Lease}

/-! ## After the shutdown -/

def Event.ends : Event → Bool
  | .shutdown => true
  | _ => false

theorem Effect.shutDown (effect : Effect c now e c') (lasts : e.ends = false) :
    c'.shutDown = c.shutDown := by
  cases effect with
  | shutdown => cases lasts
  | _ => rfl

theorem shutDown_next (c : Container) (now : Instant) (e : Event) :
    (c.next now e).shutDown = (c.shutDown || e.ends) := by
  cases ends : e.ends with
  | false => rw [(step_effect c now e).shutDown ends, Bool.or_false]
  | true =>
      cases e with
      | shutdown => exact (Bool.or_true _).symm
      | _ => cases ends

/-- What is left of a container `b` that has been shut down. -/
structure Closed (b c : Container) : Prop where
  shutDown : c.shutDown = true
  entries : c.entries = []
  tally : c.tally = { b.tally with active := 0 }
  sent : c.feed.sent = b.feed.sent

theorem Effect.closed (effect : Effect c now e c') (closed : Closed b c) : Closed b c' := by
  have unbound : ∀ id entry, c.entries.get? id ≠ some entry := by
    intro id entry bound
    rw [closed.entries] at bound
    cases bound
  have shutDown : c'.shutDown = true := by
    apply Bool.not_eq_false _ |>.mp
    intro serving
    cases closed.shutDown.symm.trans (effect.serving_before serving)
  have entries : c'.entries = [] := effect.emptied (fun _ => closed.entries) shutDown
  cases effect.booking with
  | still same tally sent =>
      exact ⟨shutDown, entries, tally.trans closed.tally, sent.trans closed.sent⟩
  | registered new serving => cases closed.shutDown.symm.trans serving
  | renewed id old new bound => exact absurd bound (unbound id old)
  | rotated previous old new bound => exact absurd bound (unbound _ old)
  | removed id old reason bound => exact absurd bound (unbound id old)
  | closed ends none tally sent =>
      refine ⟨shutDown, entries, ?_, sent.trans closed.sent⟩
      rw [tally, closed.tally]
      rfl

theorem register_closed (closed : c.shutDown = true) (within : ¬ c.Overflows now (.register l)) :
    (c.register now l).result = .error (.error .shutdown) := by
  change ¬ (c.register now l).result = .error .overflow at within
  unfold register at within ⊢
  split
  · rename_i beyond
    rw [beyond] at within
    exact absurd rfl within
  · dsimp only
    rw [if_pos closed]

theorem readReply_closed {data : Json} (closed : c.shutDown = true)
    (within : ¬ c.Overflows now (.readReply (.ok ⟨data, some l⟩))) :
    (c.readReply now (.ok ⟨data, some l⟩)).result = .error (.error .shutdown) := by
  have lease : ¬ c.Overflows now (.register l) := by
    intro beyond
    have overflow : (c.register now l).result = .error .overflow := beyond
    apply within
    change (c.register now l).result.map _ = .error .overflow
    rw [overflow]
    rfl
  change (c.register now l).result.map _ = .error (.error .shutdown)
  rw [register_closed closed lease]
  rfl

/-- Whatever happens to a container after its shutdown, the registry and the gauge are empty, no
event is sent and no counter moves.  As long as no instant overflows, a read whose secret comes with
a lease is told of the shutdown; and so is every call that begins, which does nothing but look at
the container, whoever answers for the server. -/
theorem shutdown_final (config : LeaseConfig) (before after : History Event) (end_ : Instant) :
    let b := (new config).run before
    let c := (new config).run (before ++ (end_, .shutdown) :: after)
    c.entries = [] ∧ c.tally = { b.tally with active := 0 } ∧ c.feed.sent = b.feed.sent ∧
    (∀ now data l, ¬ c.Overflows now (.readReply (.ok ⟨data, some l⟩)) →
      (c.readReply now (.ok ⟨data, some l⟩)).result = .error (.error .shutdown)) ∧
    ∀ (σ J : Type) (h : LeaseService σ J) (s : σ) (now : Instant), h.get s = c →
      (∀ path, (h.read path).alone now s = (.error (.error .shutdown), now, h.put c s)) ∧
      (∀ id, (h.revoke id).alone now s = (.error (.error .shutdown), now, h.put c s)) ∧
      ∀ l, ¬ c.Overflows now (.register l) →
        (h.register l).alone now s =
          (.error (.error .shutdown), now, h.put (c.next now (.register l)) s) := by
  intro b c
  have closed : Closed b c := by
    change Closed b ((new config).run (before ++ (end_, .shutdown) :: after))
    rw [run, History.after_append]
    exact History.invariant_after (fun c now e held => (step_effect c now e).closed held) after
      ⟨rfl, rfl, rfl, rfl⟩
  refine ⟨closed.entries, closed.tally, closed.sent, ?_, ?_⟩
  · intro now data l within
    exact readReply_closed closed.shutDown within
  · intro σ J h s now there
    have shut : (h.get s).shutDown = true := there ▸ closed.shutDown
    rw [← there]
    refine ⟨h.read_alone now shut, h.revoke_alone now shut, ?_⟩
    intro l within
    refine (h.happen_alone now (.register l) s).trans ?_
    exact congrArg (·, now, _) (register_closed shut within)

/-- A service that has the shared state for itself, and a server that takes an hour to refuse. -/
def slowlyRefused : LeaseService Container (Timer LeaseTask) where
  get c := c
  put c _ := c
  job t := t
  backend :=
    { read := fun _ => .pause (.ofSecs 3600) fun _ => .done (.error (.error .rateLimited))
      renewLease := fun _ => .pause (.ofSecs 3600) fun _ => .done (.error (.error .rateLimited))
      revokeLease := fun _ => .pause (.ofSecs 3600) fun _ => .done (.error (.error .rateLimited)) }

theorem shutdown_final_readInFlight :
    let c := (new {}).run
      ([(⟨0⟩, .register (twoMinutes "a" 0)), (⟨1⟩, .openCall)] ++
        (⟨2⟩, .shutdown) :: [(⟨3⟩, .drop "a")])
    c.tally = {} ∧ c.feed.sent = [.registered ⟨0, twoMinutes "a" 0⟩] ∧
    (c.readReply ⟨4⟩ (.ok ⟨.null, some (twoMinutes "b" 4)⟩)).result = .error (.error .shutdown) ∧
    (slowlyRefused.read "db").alone ⟨5⟩ c = (.error (.error .shutdown), ⟨5⟩, c) ∧
    (slowlyRefused.revoke "a").alone ⟨5⟩ c = (.error (.error .shutdown), ⟨5⟩, c) ∧
    (slowlyRefused.register (twoMinutes "c" 5)).alone ⟨5⟩ c =
      (.error (.error .shutdown), ⟨5⟩, c.next ⟨5⟩ (.register (twoMinutes "c" 5))) := by
  intro c
  obtain ⟨_, tally, sent, reply, calls⟩ := shutdown_final {}
    [(⟨0⟩, .register (twoMinutes "a" 0)), (⟨1⟩, .openCall)] [(⟨3⟩, .drop "a")] ⟨2⟩
  obtain ⟨read, revoke, register⟩ := calls Container (Timer LeaseTask) slowlyRefused c ⟨5⟩ rfl
  exact ⟨tally, sent, reply ⟨4⟩ .null (twoMinutes "b" 4) nofun, read "db", revoke "a",
    register (twoMinutes "c" 5) nofun⟩

end Container

end Leasehold

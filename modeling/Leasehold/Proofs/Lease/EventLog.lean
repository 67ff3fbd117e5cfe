import Leasehold.Proofs.Lease.Registry

/-!
# The events as a log of the registry

A subscriber who starts from nothing and applies every event in order holds at
each moment what the registry holds, down to the very instances, until the
container is shut down (`replay_sent`).
-/

set_option autoImplicit false

namespace Leasehold

def Dictionary.mapValues {α β : Type} (f : α → β) (d : Dictionary α) : Dictionary β :=
  d.map fun b => (b.1, f b.2)

namespace Dictionary

variable {α β : Type}

theorem mapValues_put (f : α → β) (name : String) (v : α) (d : Dictionary α) :
    mapValues f (put name v d) = put name (f v) (mapValues f d) := by
  induction d with
  | nil => rfl
  | cons b rest ih =>
      simp only [put, mapValues, List.map_cons] at ih ⊢
      split
      · rfl
      · split
        · rfl
        · simp only [List.map_cons, ih]

theorem mapValues_erase (f : α → β) (name : String) (d : Dictionary α) :
    mapValues f (erase name d) = erase name (mapValues f d) := by
  induction d with
  | nil => rfl
  | cons b rest ih =>
      simp only [erase, mapValues, List.map_cons] at ih ⊢
      split
      · exact ih
      · simp only [List.map_cons, ih]

end Dictionary

/-- The registry of a subscriber after one more event. -/
def LeaseEvent.apply (registry : Dictionary LeaseInstance) :
    LeaseEvent → Dictionary LeaseInstance
  | .registered l => registry.put l.lease.id l
  | .renewed l => registry.put l.lease.id l
  | .rotated previous current =>
      (registry.erase previous.lease.id).put current.lease.id current
  | .removed l _ => registry.erase l.lease.id

def LeaseEvent.replay (events : List LeaseEvent) : Dictionary LeaseInstance :=
  events.foldl LeaseEvent.apply []

theorem LeaseEvent.replay_snoc (events : List LeaseEvent) (e : LeaseEvent) :
    replay (events ++ [e]) = e.apply (replay events) := by
  simp [replay]

namespace Container

variable {c c' : Container} {now : Instant} {e : Event}

def registry (c : Container) : Dictionary LeaseInstance := c.entries.mapValues Entry.lease

/-- A subscriber who has applied every event holds what the registry holds. -/
def Logged (c : Container) : Prop := LeaseEvent.replay c.feed.sent = c.registry

theorem Logged.forget (logged : c.Logged) {id : String} {entry : Entry}
    (own : entry.lease.lease.id = id) (reason : RemovalReason) :
    (c.forget id entry reason).Logged := by
  have replayed : LeaseEvent.replay c.feed.sent = c.entries.mapValues Entry.lease := logged
  change LeaseEvent.replay (c.feed.sent ++ [.removed entry.lease reason]) =
    (c.entries.erase id).mapValues Entry.lease
  rw [LeaseEvent.replay_snoc, replayed, Dictionary.mapValues_erase, LeaseEvent.apply, own]

theorem Logged.registered (logged : c.Logged) (now : Instant) (l : Lease) (managed : Bool)
    (delay : Option Duration) : (c.prepare now l managed delay).registered.Logged := by
  have replayed : LeaseEvent.replay c.feed.sent = c.entries.mapValues Entry.lease := logged
  let p := c.prepare now l managed delay
  change LeaseEvent.replay (c.feed.sent ++ [.registered p.entry.lease]) =
    (c.entries.put l.id p.entry).mapValues Entry.lease
  rw [LeaseEvent.replay_snoc, replayed, Dictionary.mapValues_put]
  rfl

/-- A renewed lease is announced under its own identifier and registered under that of the lease
before, so the two have to agree. -/
theorem Logged.renewed (logged : c.Logged) (now : Instant) (l : Lease) (managed : Bool)
    (delay : Option Duration) (previous : LeaseInstance) (kept : l.id = previous.lease.id) :
    ((c.prepare now l managed delay).renewed previous).Logged := by
  have replayed : LeaseEvent.replay c.feed.sent = c.entries.mapValues Entry.lease := logged
  let p := c.prepare now l managed delay
  change LeaseEvent.replay (c.feed.sent ++ [.renewed p.entry.lease]) =
    (c.entries.put previous.lease.id p.entry).mapValues Entry.lease
  rw [LeaseEvent.replay_snoc, replayed, Dictionary.mapValues_put, ← kept]
  rfl

theorem Logged.rotated (logged : c.Logged) (now : Instant) (l : Lease) (managed : Bool)
    (delay : Option Duration) (previous : LeaseInstance) :
    ((c.prepare now l managed delay).rotated previous).Logged := by
  have replayed : LeaseEvent.replay c.feed.sent = c.entries.mapValues Entry.lease := logged
  let p := c.prepare now l managed delay
  change LeaseEvent.replay (c.feed.sent ++ [.rotated previous p.entry.lease]) =
    ((c.entries.erase previous.lease.id).put l.id p.entry).mapValues Entry.lease
  rw [LeaseEvent.replay_snoc, replayed, Dictionary.mapValues_put, Dictionary.mapValues_erase]
  rfl

theorem Effect.logged (effect : Effect c now e c') (keeps : c.KeepsIdentifier e)
    (keyed : Keyed c.entries) (logged : c.shutDown = false → c.Logged)
    (serving : c'.shutDown = false) : c'.Logged := by
  cases effect with
  | nothing => exact logged serving
  | refused e l delay => exact logged serving
  | registered e l delay =>
      exact (logged serving).registered now l (c.config.manages l.path) delay
  | removed e id reason entry asked bound =>
      exact (logged serving).forget (keyed id entry bound) reason
  | shutdown => cases serving
  | missed t => exact logged serving
  | expired t l entry work current bound =>
      exact Logged.forget (c := c.start t.task) (logged serving) (keyed _ entry bound) .expired
  | began t l => exact logged serving
  | turned id reply d => exact logged serving
  | broken e id d => exact logged serving
  | ended e id d => exact logged serving
  | discarded e id d l delay => exact logged serving
  | lapsed id reply d entry found without current bound =>
      exact Logged.forget (c := c.endCycle id) (logged serving) (keyed _ entry bound) .expired
  | renewed id d l delay found =>
      exact Logged.renewed (c := c.endCycle id) (logged serving) now l true delay d.lease
        (keeps d found)
  | rotated id d data l delay =>
      exact Logged.rotated (c := c.endCycle id) (logged serving) now l true delay d.lease

/-- As long as the server keeps the identifiers of renewed leases and the container has not been
shut down, all events in order make up the registry. -/
theorem replay_sent (config : LeaseConfig) (h : History Event)
    (keeps : History.Keeps next (fun c _ e => c.KeepsIdentifier e) (new config) h)
    (serving : ((new config).run h).shutDown = false) :
    LeaseEvent.replay ((new config).run h).feed.sent = ((new config).run h).registry := by
  have both : Keyed ((new config).run h).entries ∧
      (((new config).run h).shutDown = false → ((new config).run h).Logged) := by
    refine History.invariant_after_keeping
      (I := fun c => Keyed c.entries ∧ (c.shutDown = false → c.Logged)) ?_ ?_ keeps
    · rintro c now e ⟨keyed, logged⟩ keepsId
      have effect := step_effect c now e
      exact ⟨effect.keyed keepsId keyed, effect.logged keepsId keyed logged⟩
    · refine ⟨?_, fun _ => rfl⟩
      intro id entry bound
      cases bound
  exact both.2 serving

/-- Two leases, of which the first is renewed and then displaces the second in a rotation. -/
def displacement : History Event :=
  [(⟨0⟩, .register (twoMinutes "a" 0)),
    (⟨0⟩, .register (twoMinutes "b" 0)),
    (⟨60⟩, .ring ⟨0, .ofSecs 60, .renewal ⟨0, twoMinutes "a" 0⟩⟩),
    (⟨61⟩, .renewalReply 0 (.ok (twoMinutes "a" 61))),
    (⟨120⟩, .ring ⟨2, .ofSecs 60, .renewal ⟨2, twoMinutes "a" 61⟩⟩),
    (⟨121⟩, .renewalReply 1 (.error (.error (.permissionDenied "renew")))),
    (⟨122⟩, .rotationReply 1 (.ok ⟨.null, some (twoMinutes "b" 122)⟩))]

theorem replay_sent_displacement :
    LeaseEvent.replay ((new {}).run displacement).feed.sent = [("b", ⟨3, twoMinutes "b" 122⟩)] := by
  refine replay_sent {} displacement ?_ rfl
  refine ⟨trivial, trivial, trivial, ?_, trivial, trivial, trivial, trivial⟩
  rintro d ⟨⟩
  rfl

end Container

end Leasehold

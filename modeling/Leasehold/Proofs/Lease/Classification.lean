import Leasehold.Proofs.Lease.Timers

/-!
# Leases that are renewed and leases that are kept

Renewals and rotations put leases into the registry without a look at the
settings: the entry is marked as managed and stands under the identifier of the
lease before, or of the new one.  That this agrees with the settings rests on
the timers: the timer of a renewal is set for a managed lease only
(`step_timer`), so the lease of every cycle is managed, and so is what takes its
place as long as the server answers for the same path.
-/

set_option autoImplicit false

namespace Leasehold

theorem LeaseConfig.manages_congr (config : LeaseConfig) {p q : String}
    (same : Text.withoutLeadingSlashes p = Text.withoutLeadingSlashes q) :
    config.manages p = config.manages q := by
  have trimmed : Text.trimStart Text.isSlash p.toList = Text.trimStart Text.isSlash q.toList := by
    simpa [Text.withoutLeadingSlashes] using congrArg String.toList same
  unfold LeaseConfig.manages
  rw [trimmed]

namespace Container

variable {c c' : Container} {now : Instant} {e : Event} {config : LeaseConfig} {h : History Event}
  {i : Nat}

/-! ## The world outside -/

/-- The server renews a lease under its identifier and at its path, and a path that is read again
brings a lease of that path, but for slashes in front. -/
def KeepsPlace (c : Container) (_ : Instant) : Event → Prop
  | .renewalReply n (.ok renewed) =>
      ∀ d, c.cycles.find? n = some d →
        renewed.id = d.lease.lease.id ∧ renewed.path = d.lease.lease.path
  | .rotationReply n (.ok ⟨_, some l⟩) =>
      ∀ d, c.cycles.find? n = some d →
        Text.withoutLeadingSlashes l.path = Text.withoutLeadingSlashes d.lease.lease.path
  | _ => True

theorem KeepsPlace.identifier (keeps : c.KeepsPlace now e) : c.KeepsIdentifier e := by
  match e with
  | .renewalReply n (.ok renewed) => exact fun d found => (keeps d found).1
  | .renewalReply n (.error fault) => trivial
  | .openCall | .readReply _ | .revokeReply _ _ | .register _ | .drop _ | .shutdown | .ring _
  | .rotationReply _ _ => trivial

theorem KeepsPlace.manages (keeps : c.KeepsPlace now e) {n : Nat} {d : Cycle} {l : Lease}
    (answers : e.cycle? = some n) (found : c.cycles.find? n = some d)
    (brought : e.lease? = some l) :
    config.manages l.path = config.manages d.lease.lease.path := by
  match e with
  | .renewalReply m (.ok renewed) =>
      cases answers
      cases brought
      rw [(keeps d found).2]
  | .rotationReply m (.ok ⟨data, some lease⟩) =>
      cases answers
      cases brought
      exact config.manages_congr (keeps d found)

/-! ## Timers -/

/-- What the timers are set for: the lease that an event brings, to be renewed if it is managed;
what comes from a cycle is always to be renewed. -/
inductive SetFor (c : Container) (e : Event) : LeaseTask → Prop
  | taken (l : Lease) (brought : e.lease? = some l) :
      SetFor c e (.of (c.config.manages l.path) ⟨c.serials, l⟩)
  | replaced (n : Nat) (d : Cycle) (l : Lease) (answers : e.cycle? = some n)
      (found : c.cycles.find? n = some d) (brought : e.lease? = some l) :
      SetFor c e (.renewal ⟨c.serials, l⟩)

theorem step_timer {t : Timer LeaseTask} (set : (c.step now e).timer = some t) :
    SetFor c e t.work := by
  obtain ⟨l, managed, d, takes, rfl⟩ := timer_takes set
  cases takes.takes with
  | fresh l delay brought => exact .taken l brought
  | replacing n start l delay answers found brought =>
      exact .replaced n start l answers found brought

/-! ## Entries and cycles -/

def Managed (config : LeaseConfig) (entries : Dictionary Entry) : Prop :=
  ∀ id entry, entries.get? id = some entry → entry.managed = config.manages entry.lease.lease.path

theorem Managed.put {entries : Dictionary Entry} {entry : Entry} (managed : Managed config entries)
    (id : String) (own : entry.managed = config.manages entry.lease.lease.path) :
    Managed config (entries.put id entry) := by
  intro other twin bound
  rcases Dictionary.get?_put_eq_some bound with ⟨_, rfl⟩ | ⟨_, before⟩
  · exact own
  · exact managed other twin before

theorem Managed.erase {entries : Dictionary Entry} (managed : Managed config entries)
    (id : String) : Managed config (entries.erase id) := by
  intro other twin bound
  exact managed other twin (Dictionary.get?_erase_eq_some bound).2

def CyclesManaged (config : LeaseConfig) (c : Container) : Prop :=
  ∀ n d, (n, d) ∈ c.cycles.items → config.manages d.lease.lease.path = true

theorem Effect.settings (effect : Effect c now e c') : c'.config = c.config := by
  cases effect <;> rfl

theorem Effect.managed (effect : Effect c now e c') (settings : c.config = config)
    (keeps : c.KeepsPlace now e) (cycles : CyclesManaged config c)
    (managed : Managed config c.entries) : Managed config c'.entries := by
  have replaced {n : Nat} {d : Cycle} {l : Lease} (answers : e.cycle? = some n)
      (found : c.cycles.find? n = some d) (brought : e.lease? = some l) :
      true = config.manages l.path := by
    rw [keeps.manages answers found brought]
    exact (cycles n d (Numbered.find?_eq_some_iff.mp found)).symm
  cases effect with
  | nothing | refused _ _ _ | missed _ | began _ _ | turned _ _ _ | broken _ _ _ | ended _ _ _
  | discarded _ _ _ _ _ => exact managed
  | registered e l delay => exact managed.put l.id (by rw [settings]; rfl)
  | removed e id reason entry => exact managed.erase id
  | shutdown => exact fun _ _ bound => nomatch bound
  | expired t l entry => exact managed.erase l.lease.id
  | lapsed id reply d entry => exact managed.erase d.lease.lease.id
  | renewed id d l delay found => exact managed.put d.lease.lease.id (replaced rfl found rfl)
  | rotated id d data l delay found =>
      exact (managed.erase d.lease.lease.id).put l.id (replaced rfl found rfl)

theorem Effect.cycles_of_rings {P : Lease → Prop} (effect : Effect c now e c')
    (rings : ∀ t l, e = .ring t → t.work = .renewal l → P l.lease)
    (cycles : ∀ n d, (n, d) ∈ c.cycles.items → P d.lease.lease) :
    ∀ n d, (n, d) ∈ c'.cycles.items → P d.lease.lease := by
  intro n d flying
  cases effect.cycle_origin flying with
  | same there => exact cycles n d there
  | began t l work current => exact rings t l rfl work
  | @turned _ before reply there => exact cycles n before there

theorem SetFor.managed {l : LeaseInstance} (set : SetFor c e (.renewal l))
    (settings : c.config = config) (keeps : c.KeepsPlace now e)
    (cycles : CyclesManaged config c) : config.manages l.lease.path = true := by
  generalize work : LeaseTask.renewal l = task at set
  cases set with
  | taken lease brought =>
      rw [settings] at work
      cases managed : config.manages lease.path with
      | false =>
          rw [managed] at work
          cases work
      | true =>
          rw [managed] at work
          cases work
          exact managed
  | replaced n d lease answers found brought =>
      cases work
      exact (keeps.manages answers found brought).trans
        (cycles n d (Numbered.find?_eq_some_iff.mp found))

/-! ## Every history -/

/-- What holds at a place of a history: all entries and cycles are as they should be, and so is what
the timers have been set for up to there. -/
structure Classified (config : LeaseConfig) (h : History Event) (i : Nat) : Prop where
  settings : ((new config).found h i).config = config
  keyed : Keyed ((new config).found h i).entries
  managed : Managed config ((new config).found h i).entries
  cycles : CyclesManaged config ((new config).found h i)
  timers : ∀ j < i, ∀ t l, (new config).Sets h j t → t.work = .renewal l →
    config.manages l.lease.path = true

theorem Classified.next (classified : Classified config h i) (here : h[i]? = some (now, e))
    (set : (new config).RingsAreSet h) (keeps : ((new config).found h i).KeepsPlace now e) :
    Classified config h (i + 1) := by
  obtain ⟨settings, keyed, managed, cycles, timers⟩ := classified
  have effect := step_effect ((new config).found h i) now e
  rw [← found_succ here] at effect
  refine ⟨?_, ?_, ?_, ?_, ?_⟩
  · exact effect.settings.trans settings
  · exact effect.keyed keeps.identifier keyed
  · exact effect.managed settings keeps cycles managed
  · refine effect.cycles_of_rings (P := fun l => config.manages l.path = true) ?_ cycles
    rintro t l rfl work
    obtain ⟨j, earlier, sets⟩ := set i now t here
    exact timers j earlier t l sets work
  · intro j earlier t l sets work
    rcases sets.before_or_now earlier here with before | timer
    · exact timers j before t l sets work
    · exact (work ▸ step_timer timer).managed settings keeps cycles

theorem classified_found (set : (new config).RingsAreSet h)
    (keeps : History.Keeps Container.next KeepsPlace (new config) h) (le : i ≤ h.length) :
    Classified config h i := by
  refine History.holds_at (P := Classified config h) ?_ ?_ i le
  · refine ⟨rfl, ?_, ?_, ?_, ?_⟩
    · intro id entry bound
      cases bound
    · intro id entry bound
      cases bound
    · intro n d flying
      cases flying
    · intro j before
      cases before
  · intro i now e here classified
    exact classified.next here set (keeps.at_place here)

/-- Over a server that renews a lease under its identifier and at its path, and reads a lease of the
path that it is asked for, every lease in the registry stands under its own identifier, and is
managed exactly if the settings say so of its path: whether it was registered, renewed, or came by
any number of rotations, and whether the timers honour cancellations or not. -/
theorem registry_classified (config : LeaseConfig) (h : History Event)
    (set : (new config).RingsAreSet h)
    (keeps : History.Keeps Container.next KeepsPlace (new config) h)
    (id : String) (entry : Entry) (bound : ((new config).run h).entries.get? id = some entry) :
    entry.lease.lease.id = id ∧ entry.managed = config.manages entry.lease.lease.path := by
  have classified := classified_found set keeps (Nat.le_refl h.length)
  rw [← found_length] at bound
  exact ⟨classified.keyed id entry bound, classified.managed id entry bound⟩

def databaseOnly : LeaseConfig := { endpoints := some ["/database"] }

/-- A lease at a path with slashes in front is rotated, beside one that is not managed. -/
def slashesInFront : History Event :=
  [(⟨0⟩, .register { twoMinutes "a" 0 with path := "//database/creds/app" }),
    (⟨0⟩, .register { twoMinutes "b" 0 with path := "kv/app" }),
    (⟨60⟩, .ring ⟨0, .ofSecs 60, .renewal ⟨0, { twoMinutes "a" 0 with
      path := "//database/creds/app" }⟩⟩),
    (⟨61⟩, .renewalReply 0 (.error (.error (.permissionDenied "renew")))),
    (⟨62⟩, .rotationReply 0 (.ok ⟨.null, some (twoMinutes "c" 62)⟩))]

theorem registry_classified_slashesInFront :
    ((new databaseOnly).run slashesInFront).entries.get? "c" =
        some ⟨⟨2, twoMinutes "c" 62⟩, true, some 2⟩ ∧
      (twoMinutes "c" 62).id = "c" ∧ true = databaseOnly.manages "database/creds/app" := by
  have bound : ((new databaseOnly).run slashesInFront).entries.get? "c" =
      some ⟨⟨2, twoMinutes "c" 62⟩, true, some 2⟩ := rfl
  refine ⟨bound, registry_classified databaseOnly slashesInFront ?_ ?_ "c" _ bound⟩
  · intro i now t here
    match i, here with
    | 2, rfl => exact ⟨0, by decide, ⟨0⟩, _, rfl, rfl⟩
    | 3, here | 4, here | _ + 5, here => cases here
  · refine ⟨trivial, trivial, trivial, trivial, ?_, trivial⟩
    rintro d ⟨⟩
    rfl

end Container

end Leasehold

import Leasehold.Proofs.Grants
import Leasehold.Proofs.Lease.Outcomes
import Leasehold.Proofs.Lease.Tally

/-!
# Renewals extend leases

A client renews a lease under its identifier, with its path and its payload, and
with an end.  A container takes such a lease only if it ends no sooner than the
one before, which ends as well, since a lease without an end has no timer and so
no cycle (`Begins.finite`).  Each renewal that subscribers hear of has taken the
place of what they held under the identifier (`Linked`), so along renewals that
nothing interrupts the expiry does not go down (`renewals_extend`).
-/

set_option autoImplicit false

namespace Leasehold

open Dialogue (Answered Reaches)
open Http (Query Response)

/-! ## Leases that last -/

/-- A lease ends no sooner than another: whenever it ends, the other one ends by then. -/
def Lease.Lasts (old extended : Lease) : Prop :=
  ∃ first last, old.expiry = .ok first ∧ extended.expiry = .ok last ∧
    ∀ i, last = some i → ∃ j, first = some j ∧ j ≤ i

structure Lease.Extends (old extended : Lease) : Prop where
  id : extended.id = old.id
  path : extended.path = old.path
  data : extended.data = old.data
  granted : extended.validity ≠ .finite .zero
  lasts : old.Lasts extended

namespace Lease

variable {a b c : Lease}

theorem Lasts.trans (first : a.Lasts b) (second : b.Lasts c) : a.Lasts c := by
  obtain ⟨i, j, begins, ends, le⟩ := first
  obtain ⟨j', k, begins', ends', le'⟩ := second
  cases ends.symm.trans begins'
  refine ⟨i, k, begins, ends', ?_⟩
  intro last same
  obtain ⟨middle, found, before⟩ := le' last same
  obtain ⟨first, found, earlier⟩ := le middle found
  exact ⟨first, found, Nat.le_trans earlier before⟩

theorem Lasts.refl (lasts : a.Lasts b) : b.Lasts b := by
  obtain ⟨_, last, _, ends, _⟩ := lasts
  exact ⟨last, last, ends, ends, fun i same => ⟨i, same, Nat.le_refl _⟩⟩

end Lease

theorem Client.renewLease_renewed {client : Client} {token : String} {l renewed : Lease}
    {told : List (Answered Query.Answer)}
    (reached : (client.renewLease token l).run.Reaches told (.done (.ok renewed))) :
    ∃ now secs renewable, renewed = l.renewed now (.finite (.ofSecs secs)) renewable := by
  unfold renewLease at reached
  cases renewable : l.renewable with
  | false =>
      rw [renewable] at reached
      cases (Dialogue.reaches_done reached).2
  | true =>
      rw [renewable] at reached
      obtain ⟨_, r, _, _, _, reached⟩ := Call.reaches_bind_ok reached
      obtain ⟨_, renewal, now, _, rfl⟩ := decoded_reaches reached
      exact ⟨now, renewal.leaseDuration, renewal.renewable, rfl⟩

namespace Container

variable {c c' : Container} {now : Instant} {e : Event} {config : LeaseConfig} {h : History Event}
  {i j n p : Nat} {l : LeaseInstance} {client : Client}

theorem lasts_of_gain {old extended : Lease} (finite : old.validity ≠ .infinite)
    (gain : exhausted old extended = .ok false) :
    extended.validity ≠ .finite .zero ∧ old.Lasts extended := by
  have worth : ¬ Vain old (.ok extended) := by
    intro vain
    cases (exhausted_iff gain).mpr vain
  refine ⟨fun nothing => worth (Or.inl nothing), ?_⟩
  unfold exhausted at gain
  cases first : old.expiry with
  | error beyond =>
      rw [first] at gain
      cases gain
  | ok start =>
      cases start with
      | none => exact absurd ((Validity.expiry_eq_none_iff first).mp rfl) finite
      | some start =>
          rw [first] at gain
          obtain ⟨last, expiry, later⟩ := Validity.lasts_of_gain gain
          exact ⟨some start, last, first, expiry, fun i same => ⟨start, rfl, later i same⟩⟩

/-! ## Cycles of leases with an end -/

theorem TakesIn.finite {lease : Lease} {managed : Bool} {d : Duration}
    (takes : TakesIn c now e lease managed (some d)) : lease.validity ≠ .infinite := by
  intro infinite
  cases takes with
  | fresh _ _ brought unasked due => cases (firstDelay_eq_none_iff due).mpr infinite
  | replacing n start _ _ answers found brought due =>
      cases (renewalDelay_eq_none_iff due).mpr infinite

theorem Sets.finite {t : Timer LeaseTask} (sets : c.Sets h j t) :
    t.work.lease.lease.validity ≠ .infinite := by
  obtain ⟨now, e, _, timer⟩ := sets
  obtain ⟨lease, managed, d, takes, rfl⟩ := timer_takes timer
  simpa using takes.takes.finite

theorem Begins.finite (begins : Begins c h p n l) (set : c.RingsAreSet h) :
    l.lease.validity ≠ .infinite := by
  obtain ⟨now, t, here, work, _⟩ := begins
  obtain ⟨j, _, sets⟩ := set p now t here
  have finite := sets.finite
  rwa [work] at finite

/-! ## The world outside -/

/-- A renewal that a cycle hears of is what the client makes of it. -/
def RenewedBy (client : Client) (c : Container) (_ : Instant) : Event → Prop
  | .renewalReply n (.ok renewed) => ∀ d, c.cycles.find? n = some d → ∃ token told,
      (client.renewLease token d.lease.lease).run.Reaches told (.done (.ok renewed))
  | _ => True

theorem RenewedBy.identifier (renewed : c.RenewedBy client now e) : c.KeepsIdentifier e := by
  match e with
  | .renewalReply n (.ok lease) =>
      intro d found
      obtain ⟨token, told, reached⟩ := renewed d found
      obtain ⟨_, _, _, rfl⟩ := Client.renewLease_renewed reached
      rfl
  | .renewalReply n (.error fault) => trivial
  | .openCall | .readReply _ | .revokeReply _ _ | .register _ | .drop _ | .shutdown | .ring _
  | .rotationReply _ _ => trivial

theorem extends_of_gain {extended : Lease} (begins : Begins (new config) h p n l)
    (set : (new config).RingsAreSet h) {token : String} {told : List (Answered Query.Answer)}
    (reached : (client.renewLease token l.lease).run.Reaches told (.done (.ok extended)))
    (gain : exhausted l.lease extended = .ok false) : l.lease.Extends extended := by
  obtain ⟨_, _, _, rfl⟩ := Client.renewLease_renewed reached
  obtain ⟨granted, lasts⟩ := lasts_of_gain (begins.finite set) gain
  exact ⟨rfl, rfl, rfl, granted, lasts⟩

/-! ## In the registry -/

/-- By the reply to a renewal one instance takes the place of another under an identifier. -/
def Replaces (c : Container) (h : History Event) (i : Nat) (id : String)
    (old extended : LeaseInstance) : Prop :=
  ∃ now n reply, h[i]? = some (now, .renewalReply n reply) ∧
    (c.found h i).get? id = some old ∧ (c.found h (i + 1)).get? id = some extended ∧
    old ≠ extended

theorem Effect.extends {reply : Outcome Lease} {id : String} {old extended : LeaseInstance}
    (effect : Effect c now (.renewalReply n reply) c') (before : c.get? id = some old)
    (after : c'.get? id = some extended) (other : old ≠ extended) :
    ∃ d, c.cycles.find? n = some d ∧ reply = .ok extended.lease ∧ id = d.lease.lease.id ∧
      c.current d.lease = true ∧ exhausted d.lease.lease extended.lease = .ok false := by
  have contrary (same : c'.get? id = c.get? id) : ∀ {P : Prop}, P := by
    rw [same, before] at after
    exact absurd (Option.some.inj after) other
  cases effect with
  | nothing | turned _ _ _ | broken _ _ _ | ended _ _ _ | discarded _ _ _ _ _ =>
      exact contrary rfl
  | refused _ l delay brought unasked => cases unasked
  | registered _ l delay brought unasked => cases unasked
  | removed _ id reason entry asked => cases asked
  | renewed _ d lease delay found gain due current =>
      by_cases own : id = d.lease.lease.id
      · subst own
        have placed := congrArg (Option.map Entry.lease)
          (Dictionary.get?_put_self d.lease.lease.id
            ((c.endCycle n).prepare now lease true delay).entry c.entries)
        cases after.symm.trans placed
        exact ⟨d, found, rfl, rfl, current, gain⟩
      · exact contrary
          (congrArg (Option.map Entry.lease) (Dictionary.get?_put_of_ne own _ c.entries))

theorem RingsAreSet.extends (set : (new config).RingsAreSet h)
    (answered : History.Keeps next (RenewedBy client) (new config) h) {reply : Outcome Lease}
    {extended : Lease} {d : Cycle} (here : h[i]? = some (now, .renewalReply n reply))
    (found : ((new config).found h i).cycles.find? n = some d) (brought : reply = .ok extended)
    (current : ((new config).found h i).current d.lease = true)
    (gain : exhausted d.lease.lease extended = .ok false) :
    ((new config).found h i).get? d.lease.lease.id = some d.lease ∧
      d.lease.lease.Extends extended := by
  subst brought
  have place := Nat.le_of_lt (History.lt_length_of_place here)
  obtain ⟨p, _, begins⟩ := cycle_begun place (Numbered.find?_eq_some_iff.mp found) rfl
  obtain ⟨token, told, reached⟩ := History.Keeps.at_place answered here d found
  obtain ⟨_, entry, bound, same⟩ := current_iff.mp current
  refine ⟨?_, extends_of_gain begins set reached gain⟩
  rw [get?, bound, Option.map_some, begins.entry_lease set place bound same]

theorem Replaces.extends {id : String} {old extended : LeaseInstance}
    (replaces : Replaces (new config) h i id old extended) (set : (new config).RingsAreSet h)
    (answered : History.Keeps next (RenewedBy client) (new config) h) :
    old.lease.Extends extended.lease := by
  obtain ⟨now, n, reply, here, before, after, other⟩ := replaces
  rw [found_succ here] at after
  obtain ⟨d, found, brought, rfl, current, gain⟩ :=
    (step_effect ((new config).found h i) now _).extends before after other
  obtain ⟨bound, extends_⟩ := set.extends answered here found brought current gain
  cases before.symm.trans bound
  exact extends_

end Container

/-! ## In the events that subscribers hear of -/

namespace LeaseEvent

variable {id : String} {events before after between : List LeaseEvent} {e : LeaseEvent}
  {old last : LeaseInstance}

def Touches (id : String) : LeaseEvent → Prop
  | .registered l | .renewed l | .removed l _ => l.lease.id = id
  | .rotated previous current => previous.lease.id = id ∨ current.lease.id = id

/-- Whatever happens to an identifier is that its lease is renewed. -/
def Unbroken (id : String) (events : List LeaseEvent) : Prop :=
  ∀ e ∈ events, e.Touches id → ∃ l, e = .renewed l

/-- Each renewal extends what a subscriber held under its identifier. -/
def Linked (events : List LeaseEvent) : Prop :=
  ∀ before l after, events = before ++ .renewed l :: after →
    ∃ old, (replay before).get? l.lease.id = some old ∧ old.lease.Extends l.lease

theorem get?_apply_of_not_touches (registry : Dictionary LeaseInstance)
    (elsewhere : ¬ e.Touches id) : (e.apply registry).get? id = registry.get? id := by
  cases e with
  | registered l => exact Dictionary.get?_put_of_ne (Ne.symm elsewhere) l registry
  | renewed l => exact Dictionary.get?_put_of_ne (Ne.symm elsewhere) l registry
  | rotated previous current =>
      obtain ⟨first, second⟩ := not_or.mp elsewhere
      exact (Dictionary.get?_put_of_ne (Ne.symm second) current _).trans
        (Dictionary.get?_erase_of_ne (Ne.symm first) registry)
  | removed l reason => exact Dictionary.get?_erase_of_ne (Ne.symm elsewhere) registry

/-- An event at the end of a list, found somewhere in it, is the last one or an earlier one. -/
theorem snoc_eq_append_cons {α : Type} {xs before after : List α} {x a : α}
    (same : xs ++ [x] = before ++ a :: after) :
    after = [] ∧ before = xs ∧ a = x ∨ ∃ rest, after = rest ++ [x] ∧ xs = before ++ a :: rest := by
  rcases List.eq_nil_or_concat after with rfl | ⟨rest, y, rfl⟩
  · obtain ⟨rfl, last⟩ := List.append_inj' same rfl
    cases last
    exact Or.inl ⟨rfl, rfl, rfl⟩
  · have longer : xs ++ [x] = (before ++ a :: rest) ++ [y] := by simpa using same
    obtain ⟨rfl, last⟩ := List.append_inj' longer rfl
    cases last
    exact Or.inr ⟨rest, List.concat_eq_append, rfl⟩

theorem Linked.snoc (linked : Linked events)
    (link : ∀ l, e = .renewed l →
      ∃ old, (replay events).get? l.lease.id = some old ∧ old.lease.Extends l.lease) :
    Linked (events ++ [e]) := by
  intro before l after same
  rcases snoc_eq_append_cons same with ⟨_, rfl, last⟩ | ⟨rest, _, earlier⟩
  · exact link l last.symm
  · exact linked before l rest earlier

/-- As long as only renewals are heard of an identifier, a subscriber holds under it what lasts as
long as the lease at the start. -/
theorem Linked.follow (linked : Linked (before ++ between)) (unbroken : Unbroken id between)
    {held : LeaseInstance} (holds : (replay before).get? id = some held)
    (lasts : old.lease.Lasts held.lease) :
    ∃ kept, (replay (before ++ between)).get? id = some kept ∧ old.lease.Lasts kept.lease := by
  induction between generalizing before held with
  | nil => exact ⟨held, by rwa [List.append_nil], lasts⟩
  | cons e rest ih =>
      have shifted : before ++ e :: rest = (before ++ [e]) ++ rest := by simp
      have onward : Unbroken id rest := fun x member => unbroken x (List.mem_cons_of_mem e member)
      rw [shifted] at linked ⊢
      by_cases touches : e.Touches id
      · obtain ⟨l, rfl⟩ := unbroken e List.mem_cons_self touches
        obtain ⟨previous, bound, extends_⟩ := linked before l rest shifted.symm
        change l.lease.id = id at touches
        subst touches
        cases holds.symm.trans bound
        refine ih linked onward ?_ (lasts.trans extends_.lasts)
        rw [replay_snoc]
        exact Dictionary.get?_put_self _ _ _
      · refine ih linked onward ?_ lasts
        rw [replay_snoc, get?_apply_of_not_touches _ touches, holds]

theorem Linked.lasts
    (linked : Linked (before ++ .renewed old :: (between ++ .renewed last :: after)))
    (same : last.lease.id = old.lease.id) (unbroken : Unbroken old.lease.id between) :
    old.lease.Lasts last.lease := by
  obtain ⟨start, _, begins⟩ := linked before old _ rfl
  have joined : before ++ .renewed old :: (between ++ .renewed last :: after) =
      (before ++ [.renewed old] ++ between) ++ .renewed last :: after := by simp
  obtain ⟨previous, bound, extends_⟩ := linked _ last after joined
  have earlier : Linked (before ++ [.renewed old] ++ between) := by
    intro front l back split
    refine linked front l (back ++ .renewed last :: after) ?_
    rw [joined, split]
    simp
  have holds : (replay (before ++ [.renewed old])).get? old.lease.id = some old := by
    rw [replay_snoc]
    exact Dictionary.get?_put_self _ _ _
  obtain ⟨kept, found, lasts⟩ := earlier.follow unbroken holds begins.lasts.refl
  rw [same] at bound
  cases bound.symm.trans found
  exact lasts.trans extends_.lasts

end LeaseEvent

namespace Container

variable {c c' : Container} {now : Instant} {e : Event} {config : LeaseConfig} {h : History Event}
  {i : Nat} {client : Client}

/-- What subscribers hear of by an event: nothing new, or one event; a renewal is that of a cycle
whose lease is still registered. -/
theorem Effect.sent (effect : Effect c now e c') : c'.feed.sent = c.feed.sent ∨
    ∃ x, c'.feed.sent = c.feed.sent ++ [x] ∧ ∀ l, x = .renewed l →
      ∃ n d, e = .renewalReply n (.ok l.lease) ∧ c.cycles.find? n = some d ∧
        c.current d.lease = true ∧ exhausted d.lease.lease l.lease = .ok false := by
  cases effect with
  | nothing | refused _ _ _ | shutdown | missed _ | began _ _ | turned _ _ _ | broken _ _ _
  | ended _ _ _ | discarded _ _ _ _ _ => exact Or.inl rfl
  | registered _ l delay => exact Or.inr ⟨_, rfl, nofun⟩
  | removed _ id reason entry => exact Or.inr ⟨_, rfl, nofun⟩
  | expired t l entry => exact Or.inr ⟨_, rfl, nofun⟩
  | lapsed n reply d entry => exact Or.inr ⟨_, rfl, nofun⟩
  | rotated n d data l delay => exact Or.inr ⟨_, rfl, nofun⟩
  | renewed n d l delay found gain due current =>
      refine Or.inr ⟨_, rfl, ?_⟩
      rintro _ ⟨⟩
      exact ⟨n, d, rfl, found, current, gain⟩

theorem logged_found (keeps : History.Keeps next (fun c _ e => c.KeepsIdentifier e) (new config) h)
    (i : Nat) : Keyed ((new config).found h i).entries ∧
      (((new config).found h i).shutDown = false → ((new config).found h i).Logged) := by
  refine History.invariant_between
    (I := fun c : Container => Keyed c.entries ∧ (c.shutDown = false → c.Logged)) ?_ keeps
    (Nat.zero_le i) ⟨nofun, fun _ => rfl⟩
  rintro c now e ⟨keyed, logged⟩ keepsId
  have effect := step_effect c now e
  exact ⟨effect.keyed keepsId keyed, effect.logged keepsId keyed logged⟩

theorem linked_found (set : (new config).RingsAreSet h)
    (answered : History.Keeps next (RenewedBy client) (new config) h) (le : i ≤ h.length) :
    LeaseEvent.Linked ((new config).found h i).feed.sent := by
  have keeps : History.Keeps next (fun c _ e => c.KeepsIdentifier e) (new config) h :=
    History.keeps_of_places fun i now e here =>
      (History.Keeps.at_place answered here).identifier
  refine History.holds_at (P := fun i => LeaseEvent.Linked ((new config).found h i).feed.sent)
    ?_ ?_ i le
  · intro before l after same
    cases before <;> cases same
  · intro i now e here linked
    rw [found_succ here]
    rcases (step_effect ((new config).found h i) now e).sent with same | ⟨x, more, renewal⟩
    · rwa [same]
    · rw [more]
      refine linked.snoc ?_
      rintro l rfl
      obtain ⟨n, d, rfl, found, current, gain⟩ := renewal l rfl
      obtain ⟨bound, extends_⟩ := set.extends answered here found rfl current gain
      have logged := (logged_found keeps i).2 (current_iff.mp current).1
      refine ⟨d.lease, ?_, extends_⟩
      rw [logged, registry, Dictionary.get?_mapValues, extends_.id]
      exact bound

/-- Over a client, whatever the server answers to it, a lease that takes the place of another by a
renewal has its identifier, its path and its payload, is granted something, and expires no sooner;
along renewals of one identifier that nothing else interrupts the expiry does not go down. -/
theorem renewals_extend (client : Client) (config : LeaseConfig) (h : History Event)
    (set : (new config).RingsAreSet h)
    (answered : History.Keeps next (RenewedBy client) (new config) h) :
    (∀ i id old extended, Replaces (new config) h i id old extended →
      old.lease.Extends extended.lease) ∧
    ∀ before old between last after, ((new config).run h).feed.sent =
        before ++ .renewed old :: (between ++ .renewed last :: after) →
      last.lease.id = old.lease.id → LeaseEvent.Unbroken old.lease.id between →
      old.lease.Lasts last.lease := by
  refine ⟨fun i id old extended replaces => replaces.extends set answered, ?_⟩
  intro before old between last after sent same unbroken
  have linked := linked_found set answered (Nat.le_refl h.length)
  rw [found_length, sent] at linked
  exact linked.lasts same unbroken

/-! ## A lease that is renewed twice -/

def grantsTwoMinutes : Response :=
  ⟨200, "\x7b\"lease_id\":\"a\",\"lease_duration\":120,\"renewable\":true\x7d".toUTF8.toList⟩

def renewedA (nanos : Nat) : Lease :=
  (twoMinutes "a" 0).renewed ⟨nanos⟩ (.finite (.ofSecs 120)) true

theorem reaches_renewedA (l : Lease) (id : l.id = "a")
    (validity : l.validity = .finite (.ofSecs 120)) (renewable : l.renewable = true)
    (now : Instant) : ((Client.ofTeam.underPolicy {}).renewLease "s.token" l).run.Reaches
      [created renewA.method renewA.url (.ok ()), executed renewA (.ok grantsTwoMinutes),
        ⟨.clock, now⟩]
      (.done (.ok (l.renewed now (.finite (.ofSecs 120)) true))) := by
  have url : (Client.ofTeam.underPolicy {}).endpoint.apiUrl "sys/leases/renew" = .ok renewA.url :=
    eq_ok_of_toOption (by decide +kernel)
  have headers : (Client.ofTeam.underPolicy {}).headers (some "s.token") = .ok renewA.headers :=
    Client.headers_of_valid (by decide) (by decide)
  have decoded : Client.decode Wire.renewal? grantsTwoMinutes = pure ⟨"a", 120, true⟩ := by
    have grant : grantsTwoMinutes.tree?.bind Wire.renewal? = some ⟨"a", 120, true⟩ := by
      decide +kernel
    unfold Client.decode
    rw [grant]
  unfold Client.renewLease Client.send
  rw [url, headers, renewable, id, validity]
  refine .ask (.ask ?_)
  change (do
    let body ← Client.decode Wire.renewal? grantsTwoMinutes
    let now ← Client.clock
    return l.renewed now (.finite (.ofSecs body.leaseDuration)) body.renewable :
      Call Lease).run.Reaches _ _
  rw [decoded]
  exact .ask (.here _)

def renewedTwice : History Event :=
  [(⟨0⟩, .register (twoMinutes "a" 0)),
    (⟨60⟩, .ring ⟨0, .ofSecs 60, .renewal ⟨0, twoMinutes "a" 0⟩⟩),
    (⟨61⟩, .renewalReply 0 (.ok (renewedA 61))),
    (⟨121⟩, .ring ⟨1, .ofSecs 60, .renewal ⟨1, renewedA 61⟩⟩),
    (⟨122⟩, .renewalReply 1 (.ok (renewedA 122)))]

theorem renewals_extend_renewedTwice :
    (twoMinutes "a" 0).Extends (renewedA 61) ∧ (renewedA 61).Lasts (renewedA 122) := by
  have set : (new {}).RingsAreSet renewedTwice := by
    intro i now t here
    match i, here with
    | 1, rfl => exact ⟨0, by decide, ⟨0⟩, _, rfl, rfl⟩
    | 3, rfl => exact ⟨2, by decide, ⟨61⟩, _, rfl, rfl⟩
    | 2, here | 4, here | _ + 5, here => cases here
  have answered :
      History.Keeps next (RenewedBy (Client.ofTeam.underPolicy {})) (new {}) renewedTwice := by
    refine ⟨trivial, trivial, ?_, trivial, ?_, trivial⟩
    · rintro d ⟨⟩
      exact ⟨"s.token", _, reaches_renewedA _ rfl rfl rfl ⟨61⟩⟩
    · rintro d ⟨⟩
      exact ⟨"s.token", _, reaches_renewedA _ rfl rfl rfl ⟨122⟩⟩
  obtain ⟨extends_, chain⟩ := renewals_extend (Client.ofTeam.underPolicy {}) {} renewedTwice set
    answered
  refine ⟨extends_ 2 "a" ⟨0, twoMinutes "a" 0⟩ ⟨1, renewedA 61⟩ ?_, ?_⟩
  · exact ⟨⟨61⟩, 0, _, rfl, rfl, rfl, nofun⟩
  · exact chain [.registered ⟨0, twoMinutes "a" 0⟩] ⟨1, renewedA 61⟩ [] ⟨2, renewedA 122⟩ [] rfl rfl
      nofun

end Container

end Leasehold

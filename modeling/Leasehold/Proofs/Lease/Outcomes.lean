import Leasehold.Proofs.Lease.Clock
import Leasehold.Proofs.Lease.EventLog
import Leasehold.Proofs.Lease.Stages

/-!
# Outcomes of cycles

A cycle has the lease that it began for, and from stage to stage it only goes
forward: a renewal in vain turns it to the read, and any other reply ends it.
What a last reply does to the registry of a lease that is still there is one of
three things, each a single step with a single event (`Concludes`), and the
lease is gone for good behind it (`one_outcome`).
-/

set_option autoImplicit false

namespace Leasehold

theorem Dictionary.get?_mapValues {α β : Type} (f : α → β) (name : String) (d : Dictionary α) :
    (mapValues f d).get? name = (d.get? name).map f := by
  induction d with
  | nil => rfl
  | cons b rest ih =>
      obtain ⟨n, v⟩ := b
      by_cases here : n = name
      · simp [mapValues, get?, here]
      · simpa [mapValues, get?, here] using ih

namespace Container

variable {c c' : Container} {now : Instant} {e : Event} {config : LeaseConfig} {h : History Event}
  {i k n p q : Nat} {l m : LeaseInstance} {d : Cycle}

/-! ## What a reply leads to -/

/-- The renewal of a lease has been in vain: it has failed, or the renewed lease is granted nothing,
or ends before the old one. -/
def Vain (old : Lease) : Outcome Lease → Prop
  | .error _ => True
  | .ok new => new.validity = .finite .zero ∨ ∃ last, old.expiry = .ok (some last) ∧
      ∃ ending, new.expiry = .ok (some ending) ∧ ending < last

theorem exhausted_iff {old new : Lease} {spent : Bool} (compared : exhausted old new = .ok spent) :
    spent = true ↔ Vain old (.ok new) := by
  unfold exhausted at compared
  unfold Vain
  cases ends : old.expiry with
  | error beyond =>
      rw [ends] at compared
      cases compared
  | ok last =>
      rw [ends] at compared
      rw [Validity.exhausted_iff compared]
      simp [Lease.expiry]

/-- A renewal in vain turns its cycle to the read; any other brings a lease that takes the place of
the one before, if that is still registered. -/
theorem renewalReply_cases {reply : Outcome Lease} (found : c.cycles.find? n = some d)
    (within : ¬ c.Overflows now (.renewalReply n reply)) :
    (Vain d.lease.lease reply ∧ (c.renewalReply now n reply).result =
        .ok (some d.lease.lease.path) ∧
        (c.renewalReply now n reply).container = c.turnToRotation n) ∨
      ∃ new delay, reply = .ok new ∧ ¬ Vain d.lease.lease reply ∧
        (c.renewalReply now n reply).result = .ok none ∧
        (c.renewalReply now n reply).container =
          if c.current d.lease then ((c.endCycle n).prepare now new true delay).renewed d.lease
          else ((c.endCycle n).prepare now new true delay).discarded := by
  change ¬ (c.renewalReply now n reply).result = .error {} at within
  unfold renewalReply at within ⊢
  rw [found] at within ⊢
  match reply with
  | .error .overflow => exact absurd rfl within
  | .error (.error fault) => exact Or.inl ⟨trivial, rfl, rfl⟩
  | .ok new =>
      dsimp only at within ⊢
      cases gain : exhausted d.lease.lease new with
      | error beyond =>
          rw [gain] at within
          exact absurd rfl within
      | ok spent =>
          rw [gain] at within
          cases spent with
          | true => exact Or.inl ⟨(exhausted_iff gain).mp rfl, rfl, rfl⟩
          | false =>
              have worth : ¬ Vain d.lease.lease (.ok new) := by
                intro vain
                cases (exhausted_iff gain).mpr vain
              dsimp only at within ⊢
              unfold commitRenewal at within ⊢
              cases due : (c.endCycle n).renewalDelay now new pauseBetweenCycles with
              | error beyond =>
                  rw [due] at within
                  exact absurd rfl within
              | ok delay => exact Or.inr ⟨new, delay, rfl, worth, rfl, rfl⟩

theorem rotationReply_cases {reply : Outcome Secret} (found : c.cycles.find? n = some d)
    (within : ¬ c.Overflows now (.rotationReply n reply)) :
    (∃ data new delay, reply = .ok ⟨data, some new⟩ ∧
        (c.rotationReply now n reply).container =
          if c.current d.lease then ((c.endCycle n).prepare now new true delay).rotated d.lease
          else ((c.endCycle n).prepare now new true delay).discarded) ∨
      (Event.rotationReply n reply).lease? = none ∧
        (c.rotationReply now n reply).container =
          (c.endCycle n).removeIfCurrent d.lease .expired := by
  change ¬ (c.rotationReply now n reply).result = .error {} at within
  unfold rotationReply at within ⊢
  rw [found] at within ⊢
  match reply with
  | .error .overflow => exact absurd rfl within
  | .error (.error fault) => exact Or.inr ⟨rfl, rfl⟩
  | .ok ⟨data, none⟩ => exact Or.inr ⟨rfl, rfl⟩
  | .ok ⟨data, some new⟩ =>
      dsimp only at within ⊢
      unfold commitRotation at within ⊢
      cases due : (c.endCycle n).renewalDelay now new pauseBetweenCycles with
      | error beyond =>
          rw [due] at within
          exact absurd rfl within
      | ok delay => exact Or.inl ⟨data, new, delay, rfl, rfl⟩

/-- What the last reply of a cycle does to a lease that is still registered: by one event the lease
is renewed in its place, or rotated, or removed because the read brought no lease. -/
inductive Concludes (c : Container) (l : LeaseInstance) (c' : Container) : Event → Prop
  | renewed (n : Nat) (new : Lease) (gain : ¬ Vain l.lease (.ok new))
      (registry : c'.registry = c.registry.put l.lease.id ⟨c.serials, new⟩)
      (sent : c'.feed.sent = c.feed.sent ++ [.renewed ⟨c.serials, new⟩]) :
      Concludes c l c' (.renewalReply n (.ok new))
  | rotated (n : Nat) (data : Json) (new : Lease)
      (registry : c'.registry = (c.registry.erase l.lease.id).put new.id ⟨c.serials, new⟩)
      (sent : c'.feed.sent = c.feed.sent ++ [.rotated l ⟨c.serials, new⟩]) :
      Concludes c l c' (.rotationReply n (.ok ⟨data, some new⟩))
  | removed (n : Nat) (reply : Outcome Secret)
      (without : (Event.rotationReply n reply).lease? = none)
      (registry : c'.registry = c.registry.erase l.lease.id)
      (sent : c'.feed.sent = c.feed.sent ++ [.removed l .expired]) :
      Concludes c l c' (.rotationReply n reply)

theorem registers_iff : c.Registers l ↔
    ∃ id m, c.registry.get? id = some m ∧ m.serial = l.serial := by
  unfold Registers registry
  constructor
  · rintro ⟨id, entry, bound, same⟩
    exact ⟨id, entry.lease, by rw [Dictionary.get?_mapValues, bound]; rfl, same⟩
  · rintro ⟨id, m, bound, same⟩
    rw [Dictionary.get?_mapValues] at bound
    obtain ⟨entry, found, rfl⟩ := Option.map_eq_some_iff.mp bound
    exact ⟨id, entry, found, same⟩

theorem Concludes.absent (concludes : Concludes c l c' e) (numbering : Numbering c)
    (current : c.current l = true) : ¬ c'.Registers l := by
  have younger := numbering.current_lt current
  obtain ⟨_, owner, place, own⟩ := current_iff.mp current
  have elsewhere : ∀ id m, id ≠ l.lease.id → c.registry.get? id = some m →
      m.serial ≠ l.serial := by
    intro id m other bound same
    rw [registry, Dictionary.get?_mapValues] at bound
    obtain ⟨entry, found, rfl⟩ := Option.map_eq_some_iff.mp bound
    exact other (numbering.serial_once id entry l.lease.id owner found place (same.trans own.symm))
  intro registers
  obtain ⟨id, m, bound, same⟩ := registers_iff.mp registers
  cases concludes with
  | renewed n new gain registry =>
      rw [registry] at bound
      rcases Dictionary.get?_put_eq_some bound with ⟨_, rfl⟩ | ⟨other, before⟩
      · exact Nat.ne_of_gt younger same
      · exact elsewhere id m other before same
  | rotated n data new registry =>
      rw [registry] at bound
      rcases Dictionary.get?_put_eq_some bound with ⟨_, rfl⟩ | ⟨_, before⟩
      · exact Nat.ne_of_gt younger same
      · obtain ⟨other, before⟩ := Dictionary.get?_erase_eq_some before
        exact elsewhere id m other before same
  | removed n reply without registry =>
      rw [registry] at bound
      obtain ⟨other, before⟩ := Dictionary.get?_erase_eq_some bound
      exact elsewhere id m other before same

theorem registry_put (entries : Dictionary Entry) (id : String) (entry : Entry) :
    (entries.put id entry).mapValues Entry.lease =
      (entries.mapValues Entry.lease).put id entry.lease :=
  Dictionary.mapValues_put Entry.lease id entry entries

theorem reply_concludes (answers : e.cycle? = some n) (found : c.cycles.find? n = some d)
    (within : ¬ c.Overflows now e) (current : c.current d.lease = true)
    (last : ∀ path, e.asks? (c.step now e).result ≠ some (n, .read path))
    (same : ∀ entry, c.entries.get? d.lease.lease.id = some entry →
      entry.lease.serial = d.lease.serial → entry.lease = d.lease) :
    Concludes c d.lease (c.next now e) e := by
  cases e with
  | renewalReply m reply =>
      cases answers
      change Concludes c d.lease (c.renewalReply now n reply).container _
      rcases renewalReply_cases found within with
        ⟨_, result, _⟩ | ⟨new, delay, rfl, gain, _, container⟩
      · refine absurd ?_ (last d.lease.lease.path)
        change Event.asks? (.renewalReply n reply) (c.renewalReply now n reply).result = _
        rw [result]
        rfl
      · rw [container, if_pos current]
        exact .renewed n new gain (registry_put _ _ _) rfl
  | rotationReply m reply =>
      cases answers
      change Concludes c d.lease (c.rotationReply now n reply).container _
      rcases rotationReply_cases found within with
        ⟨data, new, delay, rfl, container⟩ | ⟨without, container⟩
      · rw [container, if_pos current]
        refine .rotated n data new ?_ rfl
        exact (registry_put _ _ _).trans
          (congrArg (Dictionary.put new.id _) (Dictionary.mapValues_erase _ _ _))
      · obtain ⟨entry, bound, removed⟩ :=
          removeIfCurrent_of_current (c := c.endCycle n) d.lease .expired current
        obtain ⟨_, owner, place, own⟩ := current_iff.mp current
        cases place.symm.trans bound
        have lease := same entry place own
        rw [container, removed]
        refine .removed n reply without (Dictionary.mapValues_erase _ _ _) ?_
        rw [← lease]
        rfl
  | _ => cases answers

/-! ## Calls and replies -/

def Asks (c : Container) (h : History Event) (i n : Nat) (call : CycleCall) : Prop :=
  ∃ now e, h[i]? = some (now, e) ∧
    e.asks? ((c.found h i).step now e).result = some (n, call)

theorem firstCall_renew_iff {old lease : Lease} :
    (firstCall old).2 = .renew lease ↔ lease = old ∧ old.renewable = true := by
  unfold firstCall
  cases old.renewable <;> simp [eq_comm]

theorem firstCall_read_iff {old : Lease} {path : String} :
    (firstCall old).2 = .read path ↔ path = old.path ∧ old.renewable = false := by
  unfold firstCall
  cases old.renewable <;> simp [eq_comm]

theorem Asks.origin {call : CycleCall} (asks : Asks c h i n call) :
    (∃ l, Begins c h i n l ∧ call = (firstCall l.lease).2) ∨
      ∃ now reply path, h[i]? = some (now, .renewalReply n reply) ∧
        ((c.found h i).renewalReply now n reply).result = .ok (some path) ∧
        call = .read path := by
  obtain ⟨now, e, here, asks⟩ := asks
  cases e with
  | ring t =>
      have rings : ((c.found h i).ring t).result = some (n, call) := asks
      obtain ⟨l, work, _, _, rfl, _⟩ := ring_begins rings
      exact Or.inl ⟨l, ⟨now, t, here, work, rings⟩, rfl⟩
  | renewalReply m reply =>
      obtain ⟨path, result, rfl, rfl⟩ := Event.asks_renewalReply asks
      exact Or.inr ⟨now, reply, path, here, result, rfl⟩
  | _ => cases asks

theorem Begins.asks (begins : Begins c h p n l) : Asks c h p n (firstCall l.lease).2 := by
  obtain ⟨now, t, here, _, result⟩ := begins
  exact ⟨now, .ring t, here, result⟩

theorem reply_cases (answers : e.cycle? = some n) (found : c.cycles.find? n = some d)
    (within : ¬ c.Overflows now e) :
    (∃ reply, e = .renewalReply n reply ∧ Vain d.lease.lease reply ∧
        e.asks? (c.step now e).result = some (n, .read d.lease.lease.path) ∧
        c.next now e = c.turnToRotation n) ∨
      (∀ reply, e = .renewalReply n reply → ¬ Vain d.lease.lease reply) ∧
        e.asks? (c.step now e).result = none ∧ (c.next now e).cycles = c.cycles.remove n := by
  cases e with
  | renewalReply m reply =>
      cases answers
      change (∃ reply', _ ∧ _ ∧ Event.asks? (.renewalReply n reply)
        (c.renewalReply now n reply).result = _ ∧ (c.renewalReply now n reply).container = _) ∨
        _ ∧ Event.asks? (.renewalReply n reply) (c.renewalReply now n reply).result = _ ∧
        (c.renewalReply now n reply).container.cycles = _
      rcases renewalReply_cases found within with
        ⟨vain, result, container⟩ | ⟨new, delay, rfl, gain, result, container⟩
      · exact Or.inl ⟨reply, rfl, vain, by rw [result]; rfl, container⟩
      · refine Or.inr ⟨?_, by rw [result]; rfl, ?_⟩
        · rintro _ ⟨⟩
          exact gain
        · rw [container]
          split <;> rfl
  | rotationReply m reply =>
      cases answers
      change _ ∨ _ ∧ _ ∧ (c.rotationReply now n reply).container.cycles = _
      refine Or.inr ⟨nofun, rfl, ?_⟩
      rcases rotationReply_cases found within with
        ⟨data, new, delay, rfl, container⟩ | ⟨_, container⟩
      · rw [container]
        split <;> rfl
      · rw [container]
        unfold removeIfCurrent remove
        split
        · split <;> rfl
        · rfl
  | _ => cases answers

theorem WithinClock.at_place (within : WithinClock (new config) h) (here : h[i]? = some (now, e)) :
    ¬ ((new config).found h i).Overflows now e :=
  History.Keeps.at_place within here

/-- The last reply to a cycle leaves its lease out of the registry for good, and nothing more comes
for the cycle. -/
def Over (c : Container) (h : History Event) (n : Nat) (l : LeaseInstance) (q : Nat) : Prop :=
  ∀ k, q < k → k ≤ h.length → ¬ (c.found h k).Registers l ∧
    ∀ now e, h[k]? = some (now, e) → e.cycle? ≠ some n

section Cycle

variable (begins : Begins (new config) h p n l) (awaits : (new config).RepliesAreAwaited h)
  (within : WithinClock (new config) h)

include begins awaits

omit begins in
theorem renewalReply_once {reply other : Outcome Lease} {then_ : Instant}
    (within : WithinClock (new config) h) (here : h[i]? = some (now, .renewalReply n reply))
    (there : h[k]? = some (then_, .renewalReply n other)) : k ≤ i := by
  apply Nat.le_of_not_lt
  intro before
  obtain ⟨m, flying⟩ := awaits.at_place here
  have found := Numbered.find?_eq_some_iff.mpr flying
  have turned : Stages n (· = .rotating) ((new config).found h (i + 1)) := by
    rw [found_succ here]
    refine ⟨Nat.lt_of_lt_of_le (Numbered.lt_issued flying) (step_effect _ now _).begun_le, ?_⟩
    intro d after
    rcases reply_cases rfl found (within.at_place here) with ⟨_, _, _, _, next⟩ | ⟨_, _, cycles⟩
    · rw [next] at after
      obtain ⟨_, _, changed⟩ := Numbered.mem_change.mp after
      rw [if_pos rfl] at changed
      rw [← changed]
    · rw [cycles] at after
      exact absurd rfl (Numbered.mem_remove.mp after).2
  obtain ⟨_, waiting⟩ := awaits.at_place there
  cases (stages_between (S := (· = .rotating)) (fun _ _ => rfl) before turned).2 _ waiting

include within

theorem Begins.asks_read_iff (path : String) : Asks (new config) h i n (.read path) ↔
    path = l.lease.path ∧ (i = p ∧ l.lease.renewable = false ∨
      ∃ now reply, h[i]? = some (now, .renewalReply n reply) ∧ Vain l.lease reply) := by
  constructor
  · intro asks
    rcases asks.origin with ⟨m, began, call⟩ | ⟨now, reply, _, here, result, call⟩
    · obtain ⟨rfl, rfl⟩ := began.unique begins
      obtain ⟨same, kept⟩ := firstCall_read_iff.mp call.symm
      exact ⟨same, Or.inl ⟨rfl, kept⟩⟩
    · cases call
      obtain ⟨_, d, found, rfl⟩ := begins.awaited awaits here rfl
      rcases renewalReply_cases found (within.at_place here) with
        ⟨vain, asked, _⟩ | ⟨_, _, _, _, silent, _⟩
      · cases result.symm.trans asked
        exact ⟨rfl, Or.inr ⟨now, reply, here, vain⟩⟩
      · cases result.symm.trans silent
  · rintro ⟨rfl, ⟨rfl, kept⟩ | ⟨now, reply, here, vain⟩⟩
    · have asks := begins.asks
      rwa [firstCall_read_iff.mpr ⟨rfl, kept⟩] at asks
    · obtain ⟨_, d, found, rfl⟩ := begins.awaited awaits here rfl
      rcases reply_cases rfl found (within.at_place here) with ⟨_, _, _, asks, _⟩ | ⟨gain, _⟩
      · exact ⟨now, _, here, asks⟩
      · exact absurd vain (gain reply rfl)

theorem Begins.read_once {first second : String} (asks : Asks (new config) h i n (.read first))
    (again : Asks (new config) h k n (.read second)) : i = k := by
  obtain ⟨_, early⟩ := (begins.asks_read_iff awaits within first).mp asks
  obtain ⟨_, late⟩ := (begins.asks_read_iff awaits within second).mp again
  rcases early with ⟨rfl, kept⟩ | ⟨now, reply, here, _⟩ <;>
    rcases late with ⟨rfl, kept'⟩ | ⟨then_, other, there, _⟩
  · rfl
  · cases kept.symm.trans (begins.renewable_of_reply awaits there)
  · cases kept'.symm.trans (begins.renewable_of_reply awaits here)
  · exact Nat.le_antisymm (renewalReply_once awaits within there here)
      (renewalReply_once awaits within here there)

/-- The lease of a cycle is not in the registry when its last reply has been dealt with. -/
theorem Begins.absent_after (set : (new config).RingsAreSet h) (here : h[q]? = some (now, e))
    (answers : e.cycle? = some n)
    (last : ∀ path, ¬ Asks (new config) h q n (.read path)) :
    (((new config).found h q).current l = true →
        Concludes ((new config).found h q) l ((new config).found h (q + 1)) e) ∧
      ¬ ((new config).found h (q + 1)).Registers l := by
  obtain ⟨later, d, found, rfl⟩ := begins.awaited awaits here answers
  have place := Nat.le_of_lt (History.lt_length_of_place here)
  have numbering := numbering_found config h q
  have silent : ∀ path, e.asks? (((new config).found h q).step now e).result ≠
      some (n, .read path) := fun path asks => last path ⟨now, e, here, asks⟩
  have concludes (current : ((new config).found h q).current d.lease = true) :
      Concludes ((new config).found h q) d.lease ((new config).found h (q + 1)) e := by
    rw [found_succ here]
    refine reply_concludes answers found (within.at_place here) current silent ?_
    exact fun entry bound same => begins.entry_lease set place bound same
  refine ⟨concludes, ?_⟩
  cases current : ((new config).found h q).current d.lease with
  | true => exact (concludes current).absent numbering current
  | false =>
      intro registers
      have still := begins.current_of_registers (Nat.le_succ_of_le (Nat.le_of_lt later))
        (History.lt_length_of_place here) registers
      have taken := numbering.cycle_lt n d (Numbered.find?_eq_some_iff.mp found)
      have gone := gone_between (Nat.le_succ q) taken current
      rw [still] at gone
      cases gone

theorem Begins.over (set : (new config).RingsAreSet h) (here : h[q]? = some (now, e))
    (answers : e.cycle? = some n)
    (last : ∀ path, ¬ Asks (new config) h q n (.read path)) : Over (new config) h n l q := by
  obtain ⟨_, d, found, rfl⟩ := begins.awaited awaits here answers
  have member := Numbered.find?_eq_some_iff.mp found
  have absent := (begins.absent_after awaits within set here answers last).2
  have ended : Stages n (fun _ => False) ((new config).found h (q + 1)) := by
    rw [found_succ here]
    refine ⟨Nat.lt_of_lt_of_le (Numbered.lt_issued member) (step_effect _ now e).begun_le, ?_⟩
    intro twin flying
    rcases reply_cases answers found (within.at_place here) with
      ⟨_, _, _, asks, _⟩ | ⟨_, _, cycles⟩
    · exact last _ ⟨now, e, here, asks⟩
    · rw [cycles] at flying
      exact (Numbered.mem_remove.mp flying).2 rfl
  have taken : d.lease.serial < ((new config).found h (q + 1)).serials :=
    Nat.lt_of_lt_of_le ((numbering_found config h q).cycle_lt n d member)
      (serials_le_found (new config) h (Nat.le_succ q))
  have superseded : Superseded ((new config).found h (q + 1)) n d.lease :=
    ⟨absent, taken, ended.1, fun twin flying => (ended.2 twin flying).elim⟩
  intro k after within_
  refine ⟨?_, ?_⟩
  · have onward := History.invariant_later (I := fun c => Superseded c n d.lease)
      (fun c now e held => (step_effect c now e).superseded held) after superseded
    exact onward.absent
  · intro now e there waits
    obtain ⟨twin, flying⟩ := (awaits.at_place there).flying waits
    exact (stages_between (S := fun _ => False) (fun _ => id) after ended).2 twin flying

end Cycle

/-! ## Every cycle -/

/-- Over any server a cycle that has begun for a lease renews it exactly once if it can be renewed,
and not at all if not; it reads its path exactly once if it cannot be renewed or its renewal has
been in vain, and not at all otherwise.  A reply that makes it read changes nothing else.  The last
reply does by one event one of three things to a lease that is still registered, and nothing if it
is not; the lease is not registered behind it, and nothing more comes for the cycle. -/
theorem one_outcome (config : LeaseConfig) (h : History Event) (p n : Nat) (l : LeaseInstance)
    (begins : Begins (new config) h p n l) (set : (new config).RingsAreSet h)
    (awaits : (new config).RepliesAreAwaited h) (within : WithinClock (new config) h) :
    (∀ i lease, Asks (new config) h i n (.renew lease) ↔
      i = p ∧ lease = l.lease ∧ l.lease.renewable = true) ∧
    (∀ i path, Asks (new config) h i n (.read path) ↔
      path = l.lease.path ∧ (i = p ∧ l.lease.renewable = false ∨
        ∃ now reply, h[i]? = some (now, .renewalReply n reply) ∧ Vain l.lease reply)) ∧
    (∀ i k first second, Asks (new config) h i n (.read first) →
      Asks (new config) h k n (.read second) → i = k) ∧
    ∀ q now e, h[q]? = some (now, e) → e.cycle? = some n →
      (∀ path, Asks (new config) h q n (.read path) →
        Unmoved ((new config).found h q) ((new config).found h (q + 1))) ∧
      ((∀ path, ¬ Asks (new config) h q n (.read path)) →
        (((new config).found h q).current l = true →
          Concludes ((new config).found h q) l ((new config).found h (q + 1)) e) ∧
        (((new config).found h q).current l = false →
          Unmoved ((new config).found h q) ((new config).found h (q + 1))) ∧
        Over (new config) h n l q) := by
  refine ⟨?_, fun i path => begins.asks_read_iff awaits within path,
    fun i k _ _ => begins.read_once awaits within, ?_⟩
  · intro i lease
    constructor
    · intro asks
      rcases asks.origin with ⟨m, began, call⟩ | ⟨_, _, _, _, _, call⟩
      · obtain ⟨rfl, rfl⟩ := began.unique begins
        obtain ⟨same, renewable⟩ := firstCall_renew_iff.mp call.symm
        exact ⟨rfl, same, renewable⟩
      · cases call
    · rintro ⟨rfl, rfl, renewable⟩
      have asks := begins.asks
      rwa [firstCall_renew_iff.mpr ⟨rfl, renewable⟩] at asks
  · intro q now e here answers
    obtain ⟨_, d, found, rfl⟩ := begins.awaited awaits here answers
    refine ⟨?_, ?_⟩
    · rintro path ⟨_, _, there, asks⟩
      cases here.symm.trans there
      rw [found_succ here]
      rcases reply_cases answers found (within.at_place here) with
        ⟨_, _, _, _, next⟩ | ⟨_, silent, _⟩
      · rw [next]
        exact ⟨rfl, rfl, rfl, rfl⟩
      · cases silent.symm.trans asks
    · intro last
      refine ⟨(begins.absent_after awaits within set here answers last).1, ?_,
        begins.over awaits within set here answers last⟩
      intro gone
      rw [found_succ here]
      refine (step_effect _ now e).unmoved answers ?_
      intro twin flying
      cases found.symm.trans flying
      exact gone

/-- The renewal fails, and the read brings a lease under another identifier. -/
def failedThenRead : History Event :=
  [(⟨0⟩, .register (twoMinutes "a" 0)),
    (⟨60⟩, .ring ⟨0, .ofSecs 60, .renewal ⟨0, twoMinutes "a" 0⟩⟩),
    (⟨61⟩, .renewalReply 0 (.error (.error (.permissionDenied "renew")))),
    (⟨62⟩, .rotationReply 0 (.ok ⟨.null, some (twoMinutes "b" 62)⟩))]

theorem one_outcome_failedThenRead :
    Asks (new {}) failedThenRead 1 0 (.renew (twoMinutes "a" 0)) ∧
      Asks (new {}) failedThenRead 2 0 (.read "database/creds/app") ∧
      Unmoved ((new {}).found failedThenRead 2) ((new {}).found failedThenRead 3) ∧
      Concludes ((new {}).found failedThenRead 3) ⟨0, twoMinutes "a" 0⟩
        ((new {}).found failedThenRead 4)
        (.rotationReply 0 (.ok ⟨.null, some (twoMinutes "b" 62)⟩)) ∧
      Over (new {}) failedThenRead 0 ⟨0, twoMinutes "a" 0⟩ 3 := by
  have set : (new {}).RingsAreSet failedThenRead := by
    intro i now t here
    match i, here with
    | 1, rfl => exact ⟨0, Nat.zero_lt_one, ⟨0⟩, _, rfl, rfl⟩
    | 2, here | 3, here | _ + 4, here => cases here
  have awaits : (new {}).RepliesAreAwaited failedThenRead :=
    ⟨trivial, trivial, ⟨_, List.mem_singleton_self _⟩, ⟨_, List.mem_singleton_self _⟩, trivial⟩
  have begins : Begins (new {}) failedThenRead 1 0 ⟨0, twoMinutes "a" 0⟩ :=
    ⟨⟨60⟩, _, rfl, rfl, rfl⟩
  obtain ⟨renews, reads, _, ends⟩ := one_outcome {} failedThenRead 1 0 _ begins set awaits
    ⟨nofun, nofun, nofun, nofun, trivial⟩
  have asks : Asks (new {}) failedThenRead 2 0 (.read "database/creds/app") :=
    (reads 2 _).mpr ⟨rfl, Or.inr ⟨⟨61⟩, _, rfl, trivial⟩⟩
  have last : ∀ path, ¬ Asks (new {}) failedThenRead 3 0 (.read path) := by
    intro path again
    rcases ((reads 3 path).mp again).2 with ⟨absurd, _⟩ | ⟨_, _, absurd, _⟩ <;> cases absurd
  have registered : ((new {}).found failedThenRead 3).current ⟨0, twoMinutes "a" 0⟩ = true := rfl
  obtain ⟨concludes, _, gone⟩ := (ends 3 ⟨62⟩ _ rfl rfl).2 last
  exact ⟨(renews 1 _).mpr ⟨rfl, rfl, rfl⟩, asks, (ends 2 ⟨61⟩ _ rfl rfl).1 _ asks,
    concludes registered, gone⟩

end Container

end Leasehold

import Leasehold.Proofs.Lease.Attendance
import Leasehold.Proofs.Lease.Classification
import Leasehold.Proofs.Sums

/-!
# Leases and the range of the clock

A container needs the expiry of a lease that is not renewed when it is
registered, and that of one that is renewed when its renewal comes back; the
interval between two renewals counts only where some path is managed.  The sums
for the longest time to live are enough for every history (`within_of_grants`),
and some history needs them (`fits_of_within`).
-/

set_option autoImplicit false

namespace Leasehold

namespace Container

variable {c c' : Container} {config : LeaseConfig} {h : History Event} {now horizon : Instant}
  {e : Event} {l : Lease} {i most : Nat}

/-- The leases that the server grants by an event are issued up to a horizon, with times to live up
to a longest one; a lease that is renewed ends in any case. -/
def Event.Grants (horizon : Instant) (most : Nat) : Event → Prop
  | .register l | .readReply (.ok ⟨_, some l⟩) | .rotationReply _ (.ok ⟨_, some l⟩) =>
      l.issued ≤ horizon ∧ ∃ k ≤ most, l.validity = .ofTtlSecs k
  | .renewalReply _ (.ok l) => l.issued ≤ horizon ∧ ∃ k ≤ most, l.validity = .finite (.ofSecs k)
  | .readReply (.error fault) | .revokeReply _ (.error fault) | .renewalReply _ (.error fault)
  | .rotationReply _ (.error fault) => fault ≠ .overflow
  | _ => True

def WithinClock (c : Container) (h : History Event) : Prop :=
  History.Keeps next (fun c now e => ¬ c.Overflows now e) c h

/-- The sums that leases need: their expiry, and the shortest interval where any are renewed. -/
def Fits (config : LeaseConfig) (horizon : Instant) (most : Nat) : Prop :=
  most ≠ 0 → horizon.nanos + (Duration.ofSecs most).nanos < Instant.limit ∧
    ((∃ path, config.manages path = true) →
      horizon.nanos + config.window.interval.nanos < Instant.limit)

structure Granted (horizon : Instant) (most : Nat) (l : Lease) : Prop where
  issued : l.issued ≤ horizon
  validity : l.validity.AtMost most

theorem Granted.expiry (granted : Granted horizon most l) (fits : Fits config horizon most) :
    ∃ last, l.expiry = .ok last := by
  refine Validity.expiry_ok granted.issued fun d ends => ?_
  obtain ⟨some, shorter⟩ := granted.validity d ends
  have sums := (fits some).1
  omega

theorem renewalDelay_ok (granted : Granted horizon most l) (fits : Fits c.config horizon most)
    (renews : ∃ path, c.config.manages path = true) (now : Instant) (floor : Duration) :
    ∃ delay, c.renewalDelay now l floor = .ok delay := by
  obtain ⟨delay, planned⟩ := RenewalWindow.delay_ok (w := c.config.window) now granted.issued <| by
    intro d ends
    obtain ⟨some, shorter⟩ := granted.validity d ends
    obtain ⟨sums, next⟩ := fits some
    exact ⟨by omega, next renews⟩
  exact ⟨_, by simp only [renewalDelay, planned, Except.map]; rfl⟩

theorem firstDelay_ok (granted : Granted horizon most l) (fits : Fits c.config horizon most)
    (now : Instant) : ∃ delay, c.firstDelay now l = .ok delay := by
  unfold firstDelay
  split
  · rename_i managed
    exact renewalDelay_ok granted fits ⟨l.path, managed⟩ now .zero
  · obtain ⟨last, ends⟩ := granted.expiry fits
    exact ⟨_, by simp only [expiryDelay, ends, Except.map]; rfl⟩

theorem register_within (granted : Granted horizon most l) (fits : Fits c.config horizon most) :
    (c.register now l).result ≠ .error .overflow := by
  obtain ⟨delay, due⟩ := firstDelay_ok granted fits now
  unfold register
  rw [due]
  dsimp only
  split <;> exact nofun

structure Renewable (config : LeaseConfig) (horizon : Instant) (most : Nat) (l : Lease) : Prop where
  granted : Granted horizon most l
  renews : ∃ path, config.manages path = true

theorem granted_of_ttl (fresh : l.issued ≤ horizon ∧ ∃ k ≤ most, l.validity = .ofTtlSecs k) :
    Granted horizon most l := by
  obtain ⟨issued, k, le, validity⟩ := fresh
  exact ⟨issued, validity ▸ Validity.atMost_ofTtlSecs le⟩

/-- A renewed lease that is a gain is within the bounds: a grant of nothing is none. -/
theorem granted_of_gain {old : Lease} (issued : l.issued ≤ horizon)
    (ttl : ∃ k ≤ most, l.validity = .finite (.ofSecs k)) (gain : exhausted old l = .ok false) :
    Granted horizon most l := by
  obtain ⟨k, le, validity⟩ := ttl
  refine ⟨issued, ?_⟩
  rw [validity]
  refine Validity.atMost_ofSecs le ?_
  rintro rfl
  unfold exhausted at gain
  rw [validity] at gain
  cases ends : old.expiry with
  | error beyond => rw [ends] at gain; cases gain
  | ok last => rw [ends] at gain; cases gain

theorem exhausted_ok {old : Lease} (fits : Fits config horizon most)
    (before : Granted horizon most old) (issued : l.issued ≤ horizon)
    (ttl : ∃ k ≤ most, l.validity = .finite (.ofSecs k)) :
    ∃ spent, exhausted old l = .ok spent := by
  obtain ⟨last, ends⟩ := before.expiry fits
  obtain ⟨k, le, validity⟩ := ttl
  have compared : ∃ spent, (Validity.finite (.ofSecs k)).exhausted l.issued last = .ok spent := by
    refine Validity.exhausted_ok last issued ?_
    intro d same granted
    have some : k ≠ 0 := by
      rintro rfl
      rw [← Validity.finite.inj same] at granted
      simp [Duration.isZero, Duration.ofSecs] at granted
    obtain ⟨some, shorter⟩ := Validity.atMost_ofSecs le some d same
    have sums := (fits some).1
    omega
  obtain ⟨spent, gain⟩ := compared
  exact ⟨spent, by simp only [exhausted, ends, validity, Bind.bind, Except.bind, gain]⟩

theorem commitRenewal_within {previous : LeaseInstance}
    (fits : Fits c.config horizon most) (renewable : Renewable c.config horizon most l) :
    (c.commitRenewal now previous l).result = .ok () := by
  obtain ⟨delay, due⟩ :=
    renewalDelay_ok renewable.granted fits renewable.renews now pauseBetweenCycles
  unfold commitRenewal
  rw [due]

theorem commitRotation_within {previous : LeaseInstance}
    (fits : Fits c.config horizon most) (renewable : Renewable c.config horizon most l) :
    (c.commitRotation now previous l).result = .ok () := by
  obtain ⟨delay, due⟩ :=
    renewalDelay_ok renewable.granted fits renewable.renews now pauseBetweenCycles
  unfold commitRotation
  rw [due]

theorem renewalReply_within {n : Nat} {reply : Outcome Lease}
    (fits : Fits c.config horizon most)
    (cycles : ∀ n d, (n, d) ∈ c.cycles.items → Renewable c.config horizon most d.lease.lease)
    (grants : Event.Grants horizon most (.renewalReply n reply)) :
    (c.renewalReply now n reply).result ≠ .error {} := by
  unfold renewalReply
  cases flying : c.cycles.find? n with
  | none => exact nofun
  | some d =>
      have started := cycles n d (Numbered.find?_eq_some_iff.mp flying)
      match reply with
      | .error .overflow => exact absurd rfl grants
      | .error (.error fault) => exact nofun
      | .ok l =>
          obtain ⟨issued, ttl⟩ := grants
          obtain ⟨spent, gain⟩ := exhausted_ok fits started.granted issued ttl
          dsimp only
          rw [gain]
          cases spent with
          | true => exact nofun
          | false =>
              have granted := granted_of_gain issued ttl gain
              dsimp only
              rw [commitRenewal_within (c := c.endCycle n) fits ⟨granted, started.renews⟩]
              exact nofun

theorem rotationReply_within {n : Nat} {reply : Outcome Secret}
    (fits : Fits c.config horizon most)
    (cycles : ∀ n d, (n, d) ∈ c.cycles.items → Renewable c.config horizon most d.lease.lease)
    (grants : Event.Grants horizon most (.rotationReply n reply)) :
    (c.rotationReply now n reply).result ≠ .error {} := by
  unfold rotationReply
  cases flying : c.cycles.find? n with
  | none => exact nofun
  | some d =>
      have started := cycles n d (Numbered.find?_eq_some_iff.mp flying)
      match reply with
      | .error .overflow => exact absurd rfl grants
      | .error (.error fault) => exact nofun
      | .ok ⟨data, none⟩ => exact nofun
      | .ok ⟨data, some l⟩ =>
          dsimp only
          rw [commitRotation_within (c := c.endCycle n) fits
            ⟨granted_of_ttl grants, started.renews⟩]
          exact nofun

/-- A container whose cycles start from leases within the bounds, and that gets no others, needs
only sums that exist. -/
theorem step_within (settings : c.config = config) (fits : Fits config horizon most)
    (cycles : ∀ n d, (n, d) ∈ c.cycles.items → Renewable config horizon most d.lease.lease)
    (grants : e.Grants horizon most) : ¬ c.Overflows now e := by
  subst settings
  match e with
  | .openCall | .drop _ | .shutdown | .ring _ => exact id
  | .register l => exact register_within (granted_of_ttl grants) fits
  | .readReply (.error fault) =>
      intro overflow
      exact grants (Except.error.inj overflow)
  | .readReply (.ok ⟨data, none⟩) => exact nofun
  | .readReply (.ok ⟨data, some l⟩) =>
      have within : (c.register now l).result ≠ .error .overflow :=
        register_within (granted_of_ttl grants) fits
      intro overflow
      change (c.register now l).result.map _ = _ at overflow
      cases result : (c.register now l).result with
      | ok new => rw [result] at overflow; cases overflow
      | error fault =>
          rw [result] at overflow
          cases overflow
          exact within result
  | .revokeReply id (.ok ()) => exact nofun
  | .revokeReply id (.error .overflow) => exact absurd rfl grants
  | .revokeReply id (.error (.error fault)) => exact nofun
  | .renewalReply n reply => exact renewalReply_within fits cycles grants
  | .rotationReply n reply => exact rotationReply_within fits cycles grants

/-! ### Every history -/

/-- What holds at a place of a history: cycles start from leases within the bounds, in a container
that renews some, and so do the renewals that have been set up to there. -/
structure Bounded (config : LeaseConfig) (horizon : Instant) (most : Nat) (h : History Event)
    (i : Nat) : Prop where
  settings : ((new config).found h i).config = config
  cycles : ∀ n d, (n, d) ∈ ((new config).found h i).cycles.items →
    Renewable config horizon most d.lease.lease
  timers : ∀ j < i, ∀ t l, (new config).Sets h j t → t.work = .renewal l →
    Renewable config horizon most l.lease

theorem granted_of_timer {t : Timer LeaseTask} (grants : e.Grants horizon most)
    (set : (c.step now e).timer = some t) (brought : e.lease? = some l) :
    Granted horizon most l := by
  match e with
  | .register m =>
      cases brought
      exact granted_of_ttl grants
  | .readReply (.ok ⟨data, some m⟩) =>
      cases brought
      exact granted_of_ttl grants
  | .rotationReply n (.ok ⟨data, some m⟩) =>
      cases brought
      exact granted_of_ttl grants
  | .renewalReply n (.ok m) =>
      cases brought
      change (c.renewalReply now n (.ok l)).timer = some t at set
      unfold renewalReply at set
      cases flying : c.cycles.find? n with
      | none => rw [flying] at set; cases set
      | some d =>
          rw [flying] at set
          dsimp only at set
          cases gain : exhausted d.lease.lease l with
          | error beyond => rw [gain] at set; cases set
          | ok spent =>
              cases spent with
              | true => rw [gain] at set; cases set
              | false => exact granted_of_gain grants.1 grants.2 gain

theorem renewable_of_timer {t : Timer LeaseTask} {held : LeaseInstance}
    (settings : c.config = config)
    (cycles : ∀ n d, (n, d) ∈ c.cycles.items → Renewable config horizon most d.lease.lease)
    (grants : e.Grants horizon most) (set : (c.step now e).timer = some t)
    (work : t.work = .renewal held) : Renewable config horizon most held.lease := by
  have origin := step_timer set
  rw [work] at origin
  generalize task : LeaseTask.renewal held = planned at origin
  cases origin with
  | taken l brought =>
      cases managed : c.config.manages l.path with
      | false =>
          rw [managed] at task
          cases task
      | true =>
          rw [managed] at task
          cases task
          exact ⟨granted_of_timer grants set brought, l.path, settings ▸ managed⟩
  | replaced n d l answers found brought =>
      cases task
      exact ⟨granted_of_timer grants set brought,
        (cycles n d (Numbered.find?_eq_some_iff.mp found)).renews⟩

theorem Bounded.next (bounded : Bounded config horizon most h i) (here : h[i]? = some (now, e))
    (set : (new config).RingsAreSet h) (grants : e.Grants horizon most) :
    Bounded config horizon most h (i + 1) := by
  obtain ⟨settings, cycles, timers⟩ := bounded
  have effect := step_effect ((new config).found h i) now e
  rw [← found_succ here] at effect
  refine ⟨effect.settings.trans settings, ?_, ?_⟩
  · refine effect.cycles_of_rings ?_ cycles
    rintro t l rfl work
    obtain ⟨j, earlier, sets⟩ := set i now t here
    exact timers j earlier t l sets work
  · intro j earlier t l sets work
    rcases sets.before_or_now earlier here with before | timer
    · exact timers j before t l sets work
    · exact renewable_of_timer settings cycles grants timer work

theorem bounded_found (set : (new config).RingsAreSet h)
    (grants : ∀ b ∈ h, b.2.Grants horizon most) (le : i ≤ h.length) :
    Bounded config horizon most h i := by
  refine History.holds_at (P := Bounded config horizon most h) ⟨rfl, nofun, nofun⟩ ?_ i le
  intro i now e here bounded
  exact bounded.next here set (grants _ (List.mem_of_getElem? here))

theorem within_of_grants (fits : Fits config horizon most) (set : (new config).RingsAreSet h)
    (grants : ∀ b ∈ h, b.2.Grants horizon most) : WithinClock (new config) h := by
  refine History.keeps_of_places fun i now e here => ?_
  have bounded := bounded_found set grants (Nat.le_of_lt (History.lt_length_of_place here))
  exact step_within bounded.settings fits bounded.cycles (grants _ (List.mem_of_getElem? here))

def longestLease (path : String) (horizon : Instant) (most : Nat) : Lease where
  id := "lease"
  path := path
  data := .null
  issued := horizon
  validity := .ofTtlSecs most
  renewable := true

theorem firstDelay_of_within {path : String}
    (within : ¬ (new config).Overflows now (.register (longestLease path horizon most))) :
    ∃ delay, (new config).firstDelay now (longestLease path horizon most) = .ok delay := by
  cases due : (new config).firstDelay now (longestLease path horizon most) with
  | ok delay => exact ⟨delay, rfl⟩
  | error beyond =>
      refine absurd ?_ within
      show ((new config).register now (longestLease path horizon most)).result = .error .overflow
      unfold register
      rw [due]

theorem interval_fits {path : String} (managed : config.manages path = true) (some : most ≠ 0)
    (within : ¬ (new config).Overflows now (.register (longestLease path horizon most))) :
    horizon.nanos + config.window.interval.nanos < Instant.limit := by
  obtain ⟨delay, due⟩ := firstDelay_of_within within
  have same : (new config).config.manages (longestLease path horizon most).path = true := managed
  rw [firstDelay, if_pos same] at due
  cases planned : (new config).config.window.delay horizon (.ofTtlSecs most) now with
  | ok delay => exact RenewalWindow.fits_of_delay planned (Validity.ofTtlSecs_of_ne_zero some)
  | error beyond =>
      have beyond : (new config).renewalDelay now (longestLease path horizon most) .zero =
          .error beyond := by
        unfold renewalDelay longestLease
        rw [planned]
        rfl
      cases beyond.symm.trans due

theorem ttl_fits_of_expiry {path : String} {last : Option Instant} (some : most ≠ 0)
    (ends : (longestLease path horizon most).expiry = .ok last) :
    horizon.nanos + (Duration.ofSecs most).nanos < Instant.limit :=
  Validity.fits_of_expiry ends (Validity.ofTtlSecs_of_ne_zero some)

/-- A lease that is not renewed has to expire within the clock. -/
theorem ttl_fits_of_register {path : String} (kept : config.manages path = false) (some : most ≠ 0)
    (within : ¬ (new config).Overflows now (.register (longestLease path horizon most))) :
    horizon.nanos + (Duration.ofSecs most).nanos < Instant.limit := by
  obtain ⟨delay, due⟩ := firstDelay_of_within within
  have same : ¬ (new config).config.manages (longestLease path horizon most).path = true :=
    Bool.eq_false_iff.mp kept
  rw [firstDelay, if_neg same] at due
  cases ends : (longestLease path horizon most).expiry with
  | ok last => exact ttl_fits_of_expiry some ends
  | error beyond =>
      rw [expiryDelay, ends] at due
      cases due

/-- A lease that is renewed is registered, its timer rings, and it is renewed once. -/
def longestRenewal (path : String) (horizon : Instant) (most : Nat) (t : Timer LeaseTask) :
    History Event :=
  [(horizon, .register (longestLease path horizon most)), (horizon, .ring t),
    (horizon, .renewalReply 0 (.ok (longestLease path horizon most)))]

theorem overflows_of_exhausted {n : Nat} {d : Cycle} {beyond : InstantOverflow}
    (found : c.cycles.find? n = some d) (gain : exhausted d.lease.lease l = .error beyond) :
    c.Overflows now (.renewalReply n (.ok l)) := by
  simp [Overflows, Event.Overflowed, step, renewalReply, found, gain]

theorem timer_of_register {path : String} {t : Timer LeaseTask}
    (managed : config.manages path = true)
    (set : ((new config).register horizon (longestLease path horizon most)).timer = some t) :
    ∃ d, t = ⟨0, d, .renewal ⟨0, longestLease path horizon most⟩⟩ ∧
      next (new config) horizon (.register (longestLease path horizon most)) =
        ((new config).prepare horizon (longestLease path horizon most) true
          (some d)).registered := by
  have same : (new config).config.manages (longestLease path horizon most).path = true := managed
  cases due : (new config).firstDelay horizon (longestLease path horizon most) with
  | error beyond =>
      rw [register, due] at set
      cases set
  | ok delay =>
      rw [register, due, same] at set
      cases delay with
      | none => cases set
      | some d =>
          cases set
          refine ⟨d, rfl, ?_⟩
          show ((new config).register horizon (longestLease path horizon most)).container = _
          rw [register, due, same]
          rfl

theorem ttl_fits_of_renewal {path : String} {t : Timer LeaseTask}
    (managed : config.manages path = true) (some : most ≠ 0)
    (set : ((new config).register horizon (longestLease path horizon most)).timer = Option.some t)
    (within : WithinClock (new config) (longestRenewal path horizon most t)) :
    horizon.nanos + (Duration.ofSecs most).nanos < Instant.limit := by
  obtain ⟨-, -, renewal, -⟩ := within
  obtain ⟨d, rfl, registered⟩ := timer_of_register managed set
  rw [registered] at renewal
  cases ends : (longestLease path horizon most).expiry with
  | ok last => exact ttl_fits_of_expiry some ends
  | error beyond =>
      have gain : exhausted (longestLease path horizon most) (longestLease path horizon most) =
          .error beyond := by
        simp only [exhausted, ends, Bind.bind, Except.bind]
      exact absurd (overflows_of_exhausted (d := ⟨⟨0, _⟩, .renewing⟩) rfl gain) renewal

theorem grants_longestLease (path : String) (horizon : Instant) (most : Nat) :
    Event.Grants horizon most (.register (longestLease path horizon most)) :=
  ⟨Nat.le_refl _, most, Nat.le_refl _, rfl⟩

/-- The sums exist if no history needs others: a lease that is kept has to expire, and one that is
renewed is compared with its renewal. -/
theorem fits_of_within
    (within : ∀ h, (∀ b ∈ h, b.2.Grants horizon most) → (new config).RingsAreSet h →
      WithinClock (new config) h) : Fits config horizon most := by
  intro some
  have registers (path : String) :
      ¬ (new config).Overflows horizon (.register (longestLease path horizon most)) := by
    refine (within [(horizon, .register (longestLease path horizon most))] ?_ ?_).1
    · rintro _ (_ | ⟨_, ⟨⟩⟩)
      exact grants_longestLease path horizon most
    · intro i now t here
      match i, here with
      | 0, here => cases here
      | _ + 1, here => cases here
  refine ⟨?_, fun ⟨path, managed⟩ => interval_fits managed some (registers path)⟩
  cases managed : config.manages "" with
  | false => exact ttl_fits_of_register managed some (registers "")
  | true =>
      obtain ⟨delay, due⟩ := firstDelay_of_within (registers "")
      have waits : ∃ d, delay = Option.some d := by
        refine Option.ne_none_iff_exists'.mp fun none => ?_
        have infinite := (firstDelay_eq_none_iff due).mp none
        cases (Validity.ofTtlSecs_of_ne_zero some).symm.trans infinite
      obtain ⟨d, rfl⟩ := waits
      obtain ⟨t, set⟩ : ∃ t, ((new config).register horizon (longestLease "" horizon most)).timer =
          Option.some t := by
        rw [register, due]
        exact ⟨_, rfl⟩
      refine ttl_fits_of_renewal managed some set (within _ ?_ ?_)
      · rintro _ (_ | ⟨_, _ | ⟨_, _ | ⟨_, ⟨⟩⟩⟩⟩)
        · exact grants_longestLease "" horizon most
        · trivial
        · exact ⟨Nat.le_refl _, most, Nat.le_refl _, Validity.ofTtlSecs_of_ne_zero some⟩
      · intro i now t here
        match i, here with
        | 1, rfl => exact ⟨0, Nat.zero_lt_one, horizon, _, rfl, set⟩
        | 0, here | 2, here | _ + 3, here => cases here

end Container

end Leasehold

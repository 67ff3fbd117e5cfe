import Leasehold.Proofs.Session.Upkeep
import Leasehold.Proofs.Sums

/-!
# Tokens and the range of the clock

A session adds to the instant when a token was issued: its time to live, and the
interval between two renewals.  It works with tokens that the server grants, so
it needs no sum beyond the clock if those for the longest time to live exist
(`within_of_grants`); a login for that time and a caller behind it need both
(`fits_of_longestLogin`).
-/

set_option autoImplicit false

namespace Leasehold

namespace Session

/-- The tokens that the server grants by an event are issued up to a horizon, with times to live up
to a longest one. -/
def Event.Grants (horizon : Instant) (most : Nat) (e : Event) : Prop :=
  ∀ r t, e.replies? = some (r, .ok t) →
    t.issued ≤ horizon ∧ ∃ k ≤ most, t.validity = .ofTtlSecs k

namespace Renewing

variable {s s' : Renewing} {window : RenewalWindow} {h : History Event} {now horizon : Instant}
  {e : Event} {most : Nat}

structure Holds (s : Renewing) (P : Token → Prop) : Prop where
  token : ∀ t, s.token = some t → P t.token
  cycle : ∀ n c, (n, c) ∈ s.cycles.items → P c.start.token

theorem Effect.holds {P : Token → Prop} (effect : Effect s now e s')
    (grants : ∀ r t, e.replies? = some (r, .ok t) → P t) (holds : s.Holds P) : s'.Holds P := by
  constructor
  · intro t installed
    rcases effect.token_origin installed with before | ⟨r, replies, _⟩
    · exact holds.token t before
    · exact grants r t.token replies
  · intro n c flying
    cases effect.cycle_origin flying with
    | same there => exact holds.cycle n c there
    | began task t serving installed => exact holds.token t installed
    | @turned _ before reply there => exact holds.cycle n before there

structure Fits (window : RenewalWindow) (horizon : Instant) (t : Token) : Prop where
  issued : t.issued ≤ horizon
  sums : ∀ d, t.validity = .finite d →
    horizon.nanos + d.nanos < Instant.limit ∧ horizon.nanos + window.interval.nanos < Instant.limit

theorem Fits.expiry {t : Token} (fits : Fits window horizon t) :
    ∃ last, t.expiry = .ok last :=
  Validity.expiry_ok fits.issued fun d ends => (fits.sums d ends).1

theorem usable_ok (now : Instant) (held : s.Holds (Fits window horizon)) :
    ∃ found, s.usable now = .ok found := by
  unfold usable
  cases installed : s.token with
  | none => exact ⟨none, rfl⟩
  | some t =>
      obtain ⟨last, found⟩ := (held.token t installed).expiry
      have expired : ∃ expired, t.token.expired now = .ok expired := by
        unfold Token.expired Validity.elapsed
        unfold Token.expiry at found
        rw [found]
        cases last <;> exact ⟨_, rfl⟩
      obtain ⟨expired, looked⟩ := expired
      exact ⟨if expired then none else some t, by simp only [looked, Except.map]⟩

theorem install_ok {t : TokenInstance} {floor : Duration} (fits : Fits s.window horizon t.token) :
    (s.install now t floor).result = .ok () := by
  obtain ⟨delay, planned⟩ :=
    RenewalWindow.delay_ok (w := s.window) now fits.issued fits.sums
  unfold install
  dsimp only
  rw [planned]
  cases delay <;> rfl

theorem Effect.window_eq (effect : Effect s now e s') : s'.window = s.window := by
  cases effect with
  | loggedIn id t =>
      obtain ⟨timers, slot, same, _⟩ := renew_spec s.countLogin now t .zero
      rw [same]
      rfl
  | discarded e id d outcome =>
      obtain ⟨tally, same⟩ := discarded_spec s e id
      rw [same]
  | renewed e id d t =>
      obtain ⟨tally, timers, slot, same, _⟩ := renewed_spec s now e id t
      rw [same]
  | failed e id d error =>
      obtain ⟨tally, timers, slot, same, _⟩ := failed_spec s now e id error
      rw [same]
  | _ => rfl

theorem conclude_ok {id : Nat} {c : Cycle} {t : Token} (fits : Fits s.window horizon t) :
    (s.conclude now id c (.ok t)).result = .ok () := by
  unfold conclude
  dsimp only
  split
  · rfl
  · exact install_ok fits

/-- A session that works with tokens that fit, and gets no others, needs only sums that exist. -/
theorem step_within (same : s.window = window) (held : s.Holds (Fits window horizon))
    (grants : ∀ r t, e.replies? = some (r, .ok t) → Fits window horizon t) :
    e.overflows (s.step now e).result = false := by
  subst same
  obtain ⟨found, usable⟩ := usable_ok now held
  cases e with
  | begin demand =>
      change Event.overflows (.begin demand) (s.begin now demand).result = false
      unfold Renewing.begin
      dsimp only
      split
      · rfl
      · split
        · rfl
        · have same : s.arrive.usable now = .ok found := usable
          unfold tokenOrLogin
          rw [same]
          cases found with
          | some t => rfl
          | none =>
              dsimp only
              split <;> rfl
  | attempt id =>
      change Event.overflows (.attempt id) (s.attempt now id).result = false
      unfold Renewing.attempt
      rw [usable]
      split
      · rfl
      · cases found <;> rfl
  | loginReply id reply =>
      change Event.overflows (.loginReply id reply) (s.loginReply now id reply).result = false
      cases reply with
      | error error => rfl
      | ok t =>
          have fits := grants (.callerLogin id) t rfl
          unfold loginReply
          dsimp only
          split
          · rfl
          · split
            · rw [install_ok (s := (s.countLogin.takeIn t).1) (t := (s.countLogin.takeIn t).2) fits]
              rfl
            · rfl
  | renewalReply n reply =>
      change Event.overflows (.renewalReply n reply) (s.renewalReply now n reply).result = false
      unfold renewalReply
      cases flying : s.cycles.find? n with
      | none => rfl
      | some c =>
          cases reply with
          | error error => rfl
          | ok t =>
              have fits := grants (.renewal n) t rfl
              have old := held.cycle n c (Numbered.find?_eq_some_iff.mp flying)
              obtain ⟨last, ends⟩ := old.expiry
              obtain ⟨spent, gain⟩ := Validity.exhausted_ok last fits.issued
                fun d ends _ => (fits.sums d ends).1
              have compared : exhausted c.start.token t = .ok spent := by
                simp only [exhausted, ends, bind, Except.bind, gain]
              dsimp only
              rw [compared]
              cases spent with
              | true => rfl
              | false =>
                  dsimp only
                  rw [conclude_ok (s := s.countRenewal) fits]
                  rfl
  | cycleLoginReply n reply =>
      change Event.overflows (.cycleLoginReply n reply) (s.cycleLoginReply now n reply).result =
        false
      unfold cycleLoginReply
      cases flying : s.cycles.find? n with
      | none => rfl
      | some c =>
          cases reply with
          | ok t =>
              dsimp only
              rw [conclude_ok (s := s.countLogin) (grants (.cycleLogin n) t rfl)]
              rfl
          | error error =>
              dsimp only
              unfold conclude
              dsimp only
              split <;> rfl
  | ring task => rfl
  | invalidate => rfl
  | shutdown => rfl

theorem within_of_grants
    (fits : most ≠ 0 → horizon.nanos + (Duration.ofSecs most).nanos < Instant.limit ∧
      horizon.nanos + window.interval.nanos < Instant.limit)
    (grants : ∀ b ∈ h, b.2.Grants horizon most) : WithinClock { window } h := by
  have granted {e : Event} (grants : e.Grants horizon most) (r : Request) (t : Token)
      (replies : e.replies? = some (r, .ok t)) : Fits window horizon t := by
    obtain ⟨issued, k, le, validity⟩ := grants r t replies
    refine ⟨issued, fun d ends => ?_⟩
    rw [validity] at ends
    obtain ⟨some, shorter⟩ := Validity.atMost_ofTtlSecs le d ends
    have sums := fits some
    omega
  have run {s : Renewing} (same : s.window = window) (held : s.Holds (Fits window horizon)) :
      WithinClock s h := by
    induction h generalizing s with
    | nil => trivial
    | cons event rest ih =>
        have first := granted (grants event List.mem_cons_self)
        have effect := step_effect s event.1 event.2
        refine ⟨step_within same held first, ?_⟩
        refine ih (fun b member => grants b (List.mem_cons_of_mem event member)) ?_ ?_
        · exact effect.window_eq.trans same
        · exact effect.holds first held
  exact run rfl ⟨nofun, nofun⟩

theorem delay_of_install {t : TokenInstance} {floor : Duration}
    (done : (s.install now t floor).result = .ok ()) :
    ∃ delay, s.window.delay t.token.issued t.token.validity now = .ok delay := by
  unfold install at done
  dsimp only at done
  cases planned : s.window.delay t.token.issued t.token.validity now with
  | ok delay => exact ⟨delay, rfl⟩
  | error beyond =>
      rw [planned] at done
      cases done

/-- The token of a login is in place also when its renewal cannot be planned. -/
theorem loginReply_session {id : Nat} {t : Token} (serving : s.terminated = false)
    (unchanged : s.loginGeneration id = some s.generation) :
    (s.loginReply now id (.ok t)).session = (s.countLogin.renew now t .zero).without id := by
  unfold loginReply
  simp only [serving, unchanged, Bool.false_eq_true, if_false, if_true]
  rfl

theorem expiry_of_begin {t : TokenInstance} (serving : s.terminated = false)
    (silent : s.recorded = none) (installed : s.token = some t)
    (within : Event.overflows (.begin .token) (s.begin now .token).result = false) :
    ∃ last, t.token.expiry = .ok last := by
  cases ends : t.token.expiry with
  | ok last => exact ⟨last, rfl⟩
  | error beyond =>
      have unusable : s.arrive.usable now = .error beyond := by
        have same : s.arrive.token = some t := installed
        unfold Token.expiry at ends
        simp only [usable, same, Token.expired, Validity.elapsed, ends, bind, Except.bind,
          Except.map]
      unfold Renewing.begin tokenOrLogin at within
      simp only [serving, silent, unusable] at within
      cases within

def longestLogin (horizon : Instant) (most : Nat) : History Event :=
  [(horizon, .begin .token),
    (horizon, .loginReply 0 (.ok ⟨"token", horizon, .ofTtlSecs most, true⟩)),
    (horizon, .begin .token)]

theorem grants_longestLogin (horizon : Instant) (most : Nat) :
    ∀ b ∈ longestLogin horizon most, b.2.Grants horizon most := by
  intro b member r t replies
  simp only [longestLogin, List.mem_cons, List.not_mem_nil, or_false] at member
  rcases member with rfl | rfl | rfl
  · cases replies
  · cases replies
    exact ⟨Nat.le_refl _, most, Nat.le_refl _, rfl⟩
  · cases replies

theorem fits_of_longestLogin (some : most ≠ 0)
    (within : WithinClock { window } (longestLogin horizon most)) :
    horizon.nanos + (Duration.ofSecs most).nanos < Instant.limit ∧
      horizon.nanos + window.interval.nanos < Instant.limit := by
  obtain ⟨-, login, look, -⟩ := within
  have validity := Validity.ofTtlSecs_of_ne_zero some
  let s := next { window } horizon (.begin .token)
  let t : Token := ⟨"token", horizon, .ofTtlSecs most, true⟩
  constructor
  · have session : next s horizon (.loginReply 0 (.ok t)) =
        (s.countLogin.renew horizon t .zero).without 0 := loginReply_session rfl rfl
    obtain ⟨timers, slot, renewed, -⟩ := renew_spec s.countLogin horizon t .zero
    rw [renewed] at session
    change Event.overflows (.begin .token)
      ((next s horizon (.loginReply 0 (.ok t))).begin horizon .token).result = false at look
    rw [session] at look
    obtain ⟨last, ends⟩ := expiry_of_begin rfl rfl rfl look
    exact Validity.fits_of_expiry ends validity
  · have done := loginReply_within (s := s) (t := t) rfl rfl login
    obtain ⟨delay, planned⟩ := delay_of_install done
    exact RenewalWindow.fits_of_delay planned validity

end Renewing

end Session

end Leasehold

import Leasehold.Proofs.Lease.Effect
import Leasehold.Proofs.Session.Endless
import Leasehold.Proofs.Session.LateCalls
import Leasehold.Proofs.Vault.Requests

/-!
# Renewals that grant nothing

The server grants a renewed token or lease a number of seconds, which may be
zero or missing in its response.  The client takes that for a lease that has
ended, which is then read again, but for a token that never expires: the session
keeps it and never renews it (`turns_by_grant`).
-/

set_option autoImplicit false

namespace Leasehold

open Dialogue (Answered Reaches)
open Http (Query Response Transport)
open Json (Tree orDefault)

/-! ## What a response grants -/

namespace Wire

/-- The duration as it is written in a record whose first field has a name. -/
def duration? (first : String) (record : Tree) : Option (Option Tree) := do
  match ← record.fields? [first, "lease_duration", "renewable"] with
  | [_, duration, _] => return duration
  | _ => none

/-- The duration of a grant is missing, or zero. -/
def Grantless (written : Option Tree) : Prop :=
  written = none ∨ ∃ t, written = some t ∧ t.natural? = some 0

theorem grantless_iff {written : Option Tree} {secs : Nat}
    (read : orDefault Tree.natural? 0 written = some secs) : Grantless written ↔ secs = 0 := by
  cases written with
  | none =>
      cases read
      exact iff_of_true (Or.inl rfl) rfl
  | some t =>
      have value : t.natural? = some secs := read
      simp [Grantless, value]

theorem duration_of_fields {α : Type} {first : String} {record : Tree}
    (build : String → Nat → Bool → α) {a : α}
    (read : (do
      match ← record.fields? [first, "lease_duration", "renewable"] with
      | [name, duration, renewable] =>
          return build (← orDefault Tree.text? "" name) (← orDefault Tree.natural? 0 duration)
            (← orDefault Tree.truth? false renewable)
      | _ => none) = some a) :
    ∃ written name secs renewable, duration? first record = some written ∧
      orDefault Tree.natural? 0 written = some secs ∧ a = build name secs renewable := by
  obtain ⟨fields, found, read⟩ := Option.bind_eq_some_iff.mp read
  split at read
  · rename_i _ duration _
    obtain ⟨name, _, read⟩ := Option.bind_eq_some_iff.mp read
    obtain ⟨secs, value, read⟩ := Option.bind_eq_some_iff.mp read
    obtain ⟨renewable, _, read⟩ := Option.bind_eq_some_iff.mp read
    cases read
    refine ⟨duration, name, secs, renewable, ?_, value, rfl⟩
    unfold duration?
    rw [found]
    rfl
  · cases read

theorem Grant.duration {record : Tree} {grant : Grant} (read : Grant.ofTree? record = some grant) :
    ∃ written, duration? "client_token" record = some written ∧
      orDefault Tree.natural? 0 written = some grant.leaseDuration := by
  obtain ⟨written, _, _, _, found, value, rfl⟩ := duration_of_fields Grant.mk read
  exact ⟨written, found, value⟩

theorem Renewal.duration {record : Tree} {renewal : Renewal}
    (read : renewal? record = some renewal) :
    ∃ written, duration? "lease_id" record = some written ∧
      orDefault Tree.natural? 0 written = some renewal.leaseDuration := by
  obtain ⟨written, _, _, _, found, value, rfl⟩ := duration_of_fields Renewal.mk read
  exact ⟨written, found, value⟩

end Wire

/-! ## What a call ends with -/

/-- A transcript ends with a response, which is a success. -/
def Responds (told : List (Answered Query.Answer)) (r : Response) : Prop :=
  ∃ request, (executions told).getLast? = some (request, .ok r) ∧ r.success = true

theorem Responds.append {first last : List (Answered Query.Answer)} {r : Response}
    (responds : Responds last r) : Responds (first ++ last) r := by
  obtain ⟨request, ends, success⟩ := responds
  refine ⟨request, ?_, success⟩
  rw [executions_append, List.getLast?_append, ends]
  rfl

theorem Responds.silent {first last : List (Answered Query.Answer)} {r : Response}
    (responds : Responds first r) (silent : executions last = []) : Responds (first ++ last) r := by
  obtain ⟨request, ends, success⟩ := responds
  exact ⟨request, by rw [executions_append, silent, List.append_nil, ends], success⟩

/-- The last response of a transcript grants a token some seconds, which are so written. -/
def GrantsToken (told : List (Answered Query.Answer)) (written : Option Tree) (secs : Nat) : Prop :=
  ∃ r record, Responds told r ∧ r.tree?.bind (Wire.required? "auth") = some record ∧
    Wire.duration? "client_token" record = some written ∧
    orDefault Tree.natural? 0 written = some secs

def GrantsLease (told : List (Answered Query.Answer)) (written : Option Tree) (secs : Nat) : Prop :=
  ∃ r record, Responds told r ∧ r.tree? = some record ∧
    Wire.duration? "lease_id" record = some written ∧
    orDefault Tree.natural? 0 written = some secs

theorem Call.reaches_bind_ok {α β : Type} {x : Call α} {f : α → Call β} {b : β}
    {told : List (Answered Query.Answer)} (reached : (x >>= f).run.Reaches told (.done (.ok b))) :
    ∃ first a last, told = first ++ last ∧ x.run.Reaches first (.done (.ok a)) ∧
      (f a).run.Reaches last (.done (.ok b)) := by
  rcases Call.reaches_bind reached with ⟨rest, _, _, more⟩ | ⟨e, _, ended⟩ | found
  · exact absurd rfl (more _)
  · cases ended
  · exact found

namespace Client

variable {α : Type} {c : Client} {policy : RetryPolicy} {told : List (Answered Query.Answer)}

theorem decode_reaches {read : Tree → Option α} {r : Response} {a : α}
    (reached : (decode read r).run.Reaches told (.done (.ok a))) : r.tree?.bind read = some a := by
  unfold decode at reached
  split at reached
  · rename_i found
    obtain ⟨_, same⟩ := Dialogue.reaches_done reached
    cases same
    exact found
  · obtain ⟨_, other⟩ := Dialogue.reaches_done reached
    cases other

theorem execute_responds {path : String} {request : Http.Request} {response : Response}
    (reached : (do
      let response ← ExceptT.mk ((Transport.plain.retrying policy).execute request)
      match statusError? path response with
      | some e => throw e
      | none => return response : Call Response).run.Reaches told (.done (.ok response))) :
    Responds told response := by
  obtain ⟨first, answer, last, rfl, before, after⟩ := Call.reaches_bind_ok reached
  obtain ⟨outcomes, rfl, _, ends⟩ :=
    RetryPolicy.run_reaches (asksOnce_execute request) policy before
  split at after
  · cases (Dialogue.reaches_done after).2
  · rename_i sound
    obtain ⟨rfl, same⟩ := Dialogue.reaches_done after
    cases same
    refine ⟨request, ?_, success_of_statusError?_eq_none sound⟩
    rw [List.append_nil, executions_executed, List.getLast?_map, (ends _ rfl).last]
    rfl

theorem send_responds {method path : String} {token body : Option String} {response : Response}
    (reached : ((c.underPolicy policy).send method path token body).run.Reaches told
      (.done (.ok response))) : Responds told response := by
  unfold send at reached
  rw [underPolicy_transport] at reached
  obtain ⟨_, url, _, rfl, _, reached⟩ := Call.reaches_bind_ok reached
  obtain ⟨_, created, _, rfl, _, reached⟩ := Call.reaches_bind_ok reached
  obtain ⟨_, headers, _, rfl, _, reached⟩ := Call.reaches_bind_ok reached
  exact .append (.append (.append (execute_responds reached)))

theorem decoded_reaches {β : Type} {read : Tree → Option α} {r : Response}
    {build : α → Instant → β} {b : β}
    (reached : (do
      let a ← decode read r
      let now ← clock
      return build a now : Call β).run.Reaches told (.done (.ok b))) :
    executions told = [] ∧ ∃ a now, r.tree?.bind read = some a ∧ b = build a now := by
  obtain ⟨first, a, _, rfl, decoded, reached⟩ := Call.reaches_bind_ok reached
  obtain ⟨second, now, _, rfl, shown, reached⟩ := Call.reaches_bind_ok reached
  obtain ⟨rfl, same⟩ := Dialogue.reaches_done reached
  cases same
  refine ⟨?_, a, now, decode_reaches decoded, rfl⟩
  rw [executions_append, quiet_decode read r first _ decoded, executions_append,
    quiet_clock second _ shown]
  rfl

theorem renewToken_reaches {t new : Token}
    (reached : ((c.underPolicy policy).renewToken t).run.Reaches told (.done (.ok new))) :
    ∃ written secs, GrantsToken told written secs ∧ new.validity = .ofTtlSecs secs := by
  unfold renewToken at reached
  obtain ⟨first, r, last, rfl, sent, reached⟩ := Call.reaches_bind_ok reached
  obtain ⟨silent, grant, now, decoded, rfl⟩ := decoded_reaches reached
  obtain ⟨tree, parsed, decoded⟩ := Option.bind_eq_some_iff.mp decoded
  obtain ⟨record, found, decoded⟩ := Option.bind_eq_some_iff.mp decoded
  obtain ⟨written, duration, secs⟩ := Wire.Grant.duration decoded
  refine ⟨written, grant.leaseDuration, ⟨r, record, ?_, ?_, duration, secs⟩, rfl⟩
  · exact (send_responds sent).silent silent
  · rw [parsed]
    exact found

theorem renewLease_reaches {token : String} {l renewed : Lease}
    (reached : ((c.underPolicy policy).renewLease token l).run.Reaches told
      (.done (.ok renewed))) :
    ∃ written secs, GrantsLease told written secs ∧
      renewed.validity = .finite (.ofSecs secs) := by
  unfold renewLease at reached
  cases renewable : l.renewable with
  | false =>
      rw [renewable] at reached
      cases (Dialogue.reaches_done reached).2
  | true =>
      rw [renewable] at reached
      obtain ⟨first, r, last, rfl, sent, reached⟩ := Call.reaches_bind_ok reached
      obtain ⟨silent, renewal, now, decoded, rfl⟩ := decoded_reaches reached
      obtain ⟨record, parsed, decoded⟩ := Option.bind_eq_some_iff.mp decoded
      obtain ⟨written, duration, secs⟩ := Wire.Renewal.duration decoded
      refine ⟨written, renewal.leaseDuration, ⟨r, record, ?_, parsed, duration, secs⟩, rfl⟩
      exact (send_responds sent).silent silent

end Client

/-! ## What a renewal leads to -/

/-- Seconds granted at an instant end before the last instant of the validity before. -/
def EndsBefore (issued : Instant) (secs : Nat) (last : Option Instant) : Prop :=
  ∃ ending i, issued.plus (.ofSecs secs) = .ok ending ∧ last = some i ∧ ending < i

namespace Validity

variable {secs : Nat} {issued : Instant} {last : Option Instant}

theorem exhausted_ofSecs_iff :
    (Validity.finite (.ofSecs secs)).exhausted issued last = .ok true ↔
      secs = 0 ∨ EndsBefore issued secs last := by
  by_cases nothing : secs = 0
  · subst nothing
    exact iff_of_true rfl (Or.inl rfl)
  · have granted : (Duration.ofSecs secs).isZero = false := by
      simp only [Duration.isZero, Duration.ofSecs, beq_eq_false_iff_ne]
      omega
    have ends : secs = 0 ∨ EndsBefore issued secs last ↔ EndsBefore issued secs last :=
      or_iff_right nothing
    rw [ends]
    unfold Validity.exhausted EndsBefore
    simp only [granted]
    cases last with
    | none => simp
    | some i => cases issued.plus (.ofSecs secs) <;> simp [Except.map]

theorem exhausted_ofTtlSecs_iff :
    (Validity.ofTtlSecs secs).exhausted issued last = .ok true ↔
      secs ≠ 0 ∧ EndsBefore issued secs last := by
  unfold Validity.ofTtlSecs
  split
  · rename_i nothing
    exact iff_of_false nofun fun both => both.1 nothing
  · rename_i granted
    rw [exhausted_ofSecs_iff, or_iff_right granted]
    exact (and_iff_right granted).symm

end Validity

theorem except_bind_eq_true {ε α : Type} {x : Except ε α} {f : α → Except ε Bool} :
    (x >>= f) = .ok true ↔ ∃ a, x = .ok a ∧ f a = .ok true := by
  cases x with
  | error e => exact ⟨nofun, nofun⟩
  | ok a =>
      constructor
      · exact fun same => ⟨a, rfl, same⟩
      · rintro ⟨_, ⟨⟩, same⟩
        exact same

namespace Container

theorem renewalReply_rotates_iff {c : Container} {now : Instant} {n : Nat} {cycle : Cycle}
    {renewed : Lease} (found : c.cycles.find? n = some cycle) :
    (c.renewalReply now n (.ok renewed)).result = .ok (some cycle.lease.lease.path) ↔
      exhausted cycle.lease.lease renewed = .ok true := by
  unfold renewalReply
  rw [found]
  dsimp only
  rcases gain : exhausted cycle.lease.lease renewed with beyond | spent
  · simp
  · cases spent with
    | true => simp
    | false =>
        dsimp only
        cases ((c.endCycle n).commitRenewal now cycle.lease renewed).result <;>
          simp [Except.map]

end Container

namespace Session.Renewing

variable {window : RenewalWindow} {h : History Event} {now : Instant} {n : Nat} {cycle : Cycle}
  {new : Token}

theorem renewalReply_logs_in_iff {s : Renewing} (found : s.cycles.find? n = some cycle) :
    (s.renewalReply now n (.ok new)).result = .ok true ↔
      exhausted cycle.start.token new = .ok true := by
  rw [renewalReply_turns_iff, found]
  constructor
  · rintro ⟨_, ⟨⟩, vain⟩
    exact vain new rfl
  · intro spent
    refine ⟨cycle, rfl, ?_⟩
    rintro _ ⟨⟩
    exact spent

/-- A renewed token that counts as one without an end is kept, and no renewal is set for it. -/
theorem renewalReply_keeps (found : (run { window } h).cycles.find? n = some cycle)
    (counts : (run { window } h).Counts cycle) (endless : new.validity = .infinite)
    (gain : exhausted cycle.start.token new = .ok false) :
    ((run { window } h).renewalReply now n (.ok new)).session.token =
        some ⟨(run { window } h).serials, new⟩ ∧
      ((run { window } h).renewalReply now n (.ok new)).session.timers.items = [] := by
  have sole := sole_run window h
  generalize run { window } h = s at *
  have current : ¬ ((s.countRenewal.endCycle n).terminated = true ∨
      (s.countRenewal.endCycle n).generation ≠ cycle.generation) := by
    rintro (ended | changed)
    · cases counts.1.symm.trans ended
    · exact changed counts.2
  have renews : (s.renewalReply now n (.ok new)).session =
      (s.countRenewal.endCycle n).renew now new pauseBetweenCycles := by
    unfold renewalReply conclude
    rw [found]
    dsimp only
    rw [gain]
    dsimp only
    rw [if_neg current]
    rfl
  have still : Sole (s.countRenewal.endCycle n).timers (s.countRenewal.endCycle n).slot := sole
  have spared := renew_spares now new pauseBetweenCycles still
  obtain ⟨_, _, same, _⟩ := renew_spec (s.countRenewal.endCycle n) now new pauseBetweenCycles
  have token := congrArg Renewing.token same
  rw [renews]
  refine ⟨token, ?_⟩
  apply Classical.byContradiction
  intro set
  exact spared ⟨_, token, endless, set⟩

end Session.Renewing

open Session (Renewing)

/-- A lease whose renewal grants nothing is read again, and so is one that would end sooner than
before.  A session logs in anew only in the second case: a token that is granted nothing it takes
for one that never expires, keeps it and sets no renewal. -/
theorem turns_by_grant (client : Client) (policy : RetryPolicy) :
    (∀ (t new : Token) (told : List (Answered Query.Answer)),
      ((client.underPolicy policy).renewToken t).run.Reaches told (.done (.ok new)) →
      ∃ written secs, GrantsToken told written secs ∧
        ∀ (window : RenewalWindow) (h : History Session.Event) (now : Instant) (n : Nat)
          (cycle : Session.Cycle), (Renewing.run { window } h).cycles.find? n = some cycle →
          cycle.start.token = t →
          (((Renewing.run { window } h).renewalReply now n (.ok new)).result = .ok true ↔
            ∃ last, t.expiry = .ok last ∧ ¬ Wire.Grantless written ∧
              EndsBefore new.issued secs last) ∧
          (Wire.Grantless written → (∃ last, t.expiry = .ok last) →
            (Renewing.run { window } h).Counts cycle →
            new.validity = .infinite ∧
            ((Renewing.run { window } h).renewalReply now n (.ok new)).session.token =
              some ⟨(Renewing.run { window } h).serials, new⟩ ∧
            ((Renewing.run { window } h).renewalReply now n (.ok new)).session.timers.items =
              [])) ∧
    (∀ (token : String) (l renewed : Lease) (told : List (Answered Query.Answer)),
      ((client.underPolicy policy).renewLease token l).run.Reaches told (.done (.ok renewed)) →
      ∃ written secs, GrantsLease told written secs ∧
        ∀ (c : Container) (now : Instant) (n : Nat) (cycle : Container.Cycle),
          c.cycles.find? n = some cycle → cycle.lease.lease = l →
          ((c.renewalReply now n (.ok renewed)).result = .ok (some l.path) ↔
            ∃ last, l.expiry = .ok last ∧
              (Wire.Grantless written ∨ EndsBefore renewed.issued secs last))) := by
  constructor
  · intro t new told reached
    obtain ⟨written, secs, grants, validity⟩ := Client.renewToken_reaches reached
    refine ⟨written, secs, grants, ?_⟩
    obtain ⟨_, _, _, _, _, read⟩ := grants
    rintro window h now n cycle found rfl
    constructor
    · rw [Renewing.renewalReply_logs_in_iff found, Wire.grantless_iff read]
      unfold Renewing.exhausted
      rw [except_bind_eq_true]
      simp only [validity, Validity.exhausted_ofTtlSecs_iff]
    · rintro nothing ⟨last, ends⟩ counts
      have endless : new.validity = .infinite := by
        rw [validity, (Wire.grantless_iff read).mp nothing]
        rfl
      have gain : Renewing.exhausted cycle.start.token new = .ok false := by
        unfold Renewing.exhausted
        rw [ends, endless]
        rfl
      exact ⟨endless, Renewing.renewalReply_keeps found counts endless gain⟩
  · intro token l renewed told reached
    obtain ⟨written, secs, grants, validity⟩ := Client.renewLease_reaches reached
    refine ⟨written, secs, grants, ?_⟩
    obtain ⟨_, _, _, _, _, read⟩ := grants
    rintro c now n cycle found rfl
    rw [Container.renewalReply_rotates_iff found, Wire.grantless_iff read]
    unfold Container.exhausted
    rw [except_bind_eq_true]
    simp only [validity, Validity.exhausted_ofSecs_iff]

/-! ## A response without a duration -/

def withoutDuration : Response := ⟨200, "\x7b\"auth\":\x7b\x7d\x7d".toUTF8.toList⟩

def renewalRequest (method : String) (path : List String) (token body : String) : Http.Request where
  method := method
  url :=
    { scheme := "https"
      host := some (.ipv4 2130706433)
      port := some 8200
      path := .segments ("v1" :: path) }
  headers := [("x-vault-namespace", "team"), ("x-vault-token", token)]
  body := some body

/-- The renewal is answered without a duration, thirty seconds after the beginning. -/
def answeredAt30 (request : Http.Request) : List (Answered Query.Answer) :=
  [created request.method request.url (.ok ()), executed request (.ok withoutDuration),
    ⟨.clock, (⟨30000000000⟩ : Instant)⟩]

def renewSelf : Http.Request :=
  renewalRequest "POST" ["auth", "token", "renew-self"] "first" Wire.emptyBody

def renewA : Http.Request :=
  renewalRequest "PUT" ["sys", "leases", "renew"] "s.token"
    (Wire.renewBody "a" (.finite (.ofSecs 120)))

def unending : Token := ⟨"first", ⟨30000000000⟩, .infinite, false⟩

theorem reaches_renewSelf :
    ((Client.ofTeam.underPolicy {}).renewToken (Renewing.minute "first" 0)).run.Reaches
      (answeredAt30 renewSelf) (.done (.ok unending)) := by
  have url : (Client.ofTeam.underPolicy {}).endpoint.apiUrl "auth/token/renew-self" =
      .ok renewSelf.url := eq_ok_of_toOption (by decide +kernel)
  have headers : (Client.ofTeam.underPolicy {}).headers (some (Renewing.minute "first" 0).value) =
      .ok renewSelf.headers := Client.headers_of_valid (by decide) (by decide)
  have decoded : Client.decode Wire.auth? withoutDuration = pure {} := by
    have grant : withoutDuration.tree?.bind Wire.auth? = some {} := by decide +kernel
    unfold Client.decode
    rw [grant]
  unfold Client.renewToken Client.send
  rw [url, headers]
  refine .ask (.ask ?_)
  change (do
    let grant ← Client.decode Wire.auth? withoutDuration
    let now ← Client.clock
    return ⟨if grant.clientToken = "" then "first" else grant.clientToken, now,
      .ofTtlSecs grant.leaseDuration, grant.renewable⟩ : Call Token).run.Reaches _ _
  rw [decoded]
  exact .ask (.here _)

theorem reaches_renewA :
    ((Client.ofTeam.underPolicy {}).renewLease "s.token" (Container.twoMinutes "a" 0)).run.Reaches
      (answeredAt30 renewA)
      (.done (.ok ((Container.twoMinutes "a" 0).renewed ⟨30000000000⟩ (.finite .zero) false))) := by
  have url : (Client.ofTeam.underPolicy {}).endpoint.apiUrl "sys/leases/renew" = .ok renewA.url :=
    eq_ok_of_toOption (by decide +kernel)
  have headers : (Client.ofTeam.underPolicy {}).headers (some "s.token") = .ok renewA.headers :=
    Client.headers_of_valid (by decide) (by decide)
  have decoded : Client.decode Wire.renewal? withoutDuration = pure {} := by
    have grant : withoutDuration.tree?.bind Wire.renewal? = some {} := by decide +kernel
    unfold Client.decode
    rw [grant]
  unfold Client.renewLease Client.send
  rw [url, headers]
  refine .ask (.ask ?_)
  change (do
    let body ← Client.decode Wire.renewal? withoutDuration
    let now ← Client.clock
    return (Container.twoMinutes "a" 0).renewed now (.finite (.ofSecs body.leaseDuration))
      body.renewable : Call Lease).run.Reaches _ _
  rw [decoded]
  exact .ask (.here _)

/-- The lease is registered and its renewal begins. -/
def renewingA : History Container.Event :=
  [(⟨0⟩, .register (Container.twoMinutes "a" 0)),
    (⟨60⟩, .ring ⟨0, .ofSecs 60, .renewal ⟨0, Container.twoMinutes "a" 0⟩⟩)]

theorem grantless_at30 {written : Option Tree} {secs : Nat}
    (grants : GrantsToken (answeredAt30 renewSelf) written secs) : Wire.Grantless written := by
  obtain ⟨r, record, ⟨request, ends, _⟩, found, duration, _⟩ := grants
  have answer : some (renewSelf, Except.ok withoutDuration) = some (request, .ok r) := ends
  cases answer
  have missing : ((withoutDuration.tree?.bind (Wire.required? "auth")).bind
      (Wire.duration? "client_token")).map Option.isNone = some true := by decide +kernel
  rw [found, Option.bind_some, duration] at missing
  exact Or.inl (Option.isNone_iff_eq_none.mp (Option.some.inj missing))

theorem turns_by_grant_withoutDuration :
    let s := Renewing.run { window := Renewing.halfMinute } Renewing.renewingAt30
    let c := (Container.new {}).run renewingA
    let first := Renewing.minute "first" 0
    let a := Container.twoMinutes "a" 0
    let renewed := a.renewed ⟨30000000000⟩ (.finite .zero) false
    (∃ written secs, GrantsToken (answeredAt30 renewSelf) written secs ∧
      ((s.renewalReply ⟨30000000000⟩ 0 (.ok unending)).result = .ok true ↔
        ∃ last, first.expiry = .ok last ∧ ¬ Wire.Grantless written ∧
          EndsBefore unending.issued secs last) ∧
      (s.renewalReply ⟨30000000000⟩ 0 (.ok unending)).session.token =
        some ⟨s.serials, unending⟩ ∧
      (s.renewalReply ⟨30000000000⟩ 0 (.ok unending)).session.timers.items = []) ∧
    ∃ written secs, GrantsLease (answeredAt30 renewA) written secs ∧
      ((c.renewalReply ⟨30000000000⟩ 0 (.ok renewed)).result = .ok (some a.path) ↔
        ∃ last, a.expiry = .ok last ∧
          (Wire.Grantless written ∨ EndsBefore renewed.issued secs last)) := by
  obtain ⟨tokens, leases⟩ := turns_by_grant Client.ofTeam {}
  obtain ⟨written, secs, grants, turns⟩ := tokens _ _ _ reaches_renewSelf
  obtain ⟨written', secs', grants', rotates⟩ := leases _ _ _ _ reaches_renewA
  refine ⟨⟨written, secs, grants, ?_⟩, written', secs', grants', ?_⟩
  · obtain ⟨logsIn, keeps⟩ :=
      turns Renewing.halfMinute Renewing.renewingAt30 ⟨30000000000⟩ 0 _ rfl rfl
    exact ⟨logsIn, (keeps (grantless_at30 grants) ⟨_, rfl⟩ ⟨rfl, rfl⟩).2⟩
  · exact rotates _ ⟨30000000000⟩ 0 _ rfl rfl

/-- A token whose renewal grants nothing is kept without a login. -/
theorem keeps_grantless_token :
    ¬ ∀ (client : Client) (policy : RetryPolicy) (t new : Token)
      (told : List (Answered Query.Answer)) (written : Option Tree) (secs : Nat),
      ((client.underPolicy policy).renewToken t).run.Reaches told (.done (.ok new)) →
      GrantsToken told written secs → Wire.Grantless written → t.validity ≠ .infinite →
      ∀ (window : RenewalWindow) (h : History Session.Event) (now : Instant) (n : Nat)
        (cycle : Session.Cycle), (Renewing.run { window } h).cycles.find? n = some cycle →
        cycle.start.token = t →
        ((Renewing.run { window } h).renewalReply now n (.ok new)).result = .ok true := by
  intro logsIn
  obtain ⟨written, secs, grants, _⟩ := Client.renewToken_reaches reaches_renewSelf
  have turns := logsIn Client.ofTeam {} _ _ _ written secs reaches_renewSelf grants
    (grantless_at30 grants) nofun Renewing.halfMinute Renewing.renewingAt30 ⟨30000000000⟩ 0 _ rfl
    rfl
  cases turns

end Leasehold

import Leasehold.Proofs.Endpoint.Server
import Leasehold.Proofs.Vault.Requests

/-!
# Errors that find fault with the settings

A request may end with such an error only for the namespace, which is put into a
header field of each one.  The other errors come from the path, from the token,
from the status of the response, or from what carries the request.  So over a
transport that never finds fault with the settings (`Blameless`), as no agent
does, a client whose namespace is a header value spares its settings
(`Settled.perform`), and one that has no URL to send to does as well (`Blamed.only`,
`blamed_iff`).
-/

set_option autoImplicit false

namespace Leasehold

open Dialogue (Answered Reaches Open)
open Http (Agent Exchange Query Request Response Transport)

/-! ## What is answered -/

def VaultError.Blames (e : VaultError) : Prop := ∃ m, e = .invalidConfig m

/-- A transport, by what it may answer, none of whose errors finds fault with the settings. -/
structure Blameless (gives : Answered Query.Answer → Prop) : Prop where
  create : ∀ method url e, gives (created method url (.error e)) → ¬ e.Blames
  execute : ∀ request e, gives (executed request (.error e)) → ¬ e.Blames

namespace Http.Agent

/-- What an agent answers, whatever the other end of the connection does. -/
inductive Gives (a : Agent) : Answered Query.Answer → Prop
  | create (method : String) (url : Url) : Gives a ⟨.create method url, create url⟩
  | execute (request : Request) (outcome : Except VaultError Response)
      (heard : List (Answered fun _ : WireRequest => Option (List UInt8)))
      (sent : (a.execute request).Reaches heard (.done outcome)) :
      Gives a ⟨.execute request, outcome⟩
  | clock (now : Instant) : Gives a ⟨.clock, now⟩
  | readText (file : String) (text : Except String String) : Gives a ⟨.readText file, text⟩

theorem create_spares {url : Url} {e : VaultError} (failed : create url = .error e) :
    ¬ e.Blames := by
  unfold create at failed
  split at failed
  · cases failed
  · cases failed
    exact nofun

theorem send_spares {left : Nat} {r : WireRequest}
    {heard : List (Answered fun _ : WireRequest => Option (List UInt8))} {e : VaultError}
    (failed : (send left r).Reaches heard (.done (.error e))) : ¬ e.Blames := by
  have ends {told : List (Answered fun _ : WireRequest => Option (List UInt8))}
      {outcome : Except VaultError Response}
      (ended : Reaches (.done outcome) told (.done (.error e))) : outcome = .error e :=
    (Dialogue.done.inj (Dialogue.reaches_done ended).2).symm
  fun_induction send left r generalizing heard with
  | case1 left r sendable ih =>
      cases failed with
      | @ask _ octets _ _ _ later =>
          dsimp only at later
          cases answer : octets.bind (WireResponse.ofOctets? r.method) with
          | none =>
              rw [answer] at later
              cases ends later
              exact nofun
          | some response =>
              rw [answer] at later
              dsimp only at later
              cases redirected : next? r response with
              | none =>
                  rw [redirected] at later
                  have received := ends later
                  unfold receive at received
                  split at received
                  · cases received
                  · cases received
                    exact nofun
              | some again =>
                  rw [redirected] at later
                  cases left with
                  | zero =>
                      cases ends later
                      exact nofun
                  | succ left => exact ih again later
  | case2 left r unsendable =>
      cases ends failed
      exact nofun

theorem blameless (a : Agent) : Blameless a.Gives where
  create := by
    intro method url e given
    generalize same : (.error e : Except VaultError Unit) = outcome at given
    cases given
    exact create_spares same.symm
  execute := by
    rintro request e ⟨⟩
    rename_i heard sent
    exact send_spares sent

end Http.Agent

/-! ## Calls that find no fault with the settings -/

namespace Call

variable {α β : Type} {gives : Answered Query.Answer → Prop}

/-- A call that never ends with such an error if it is answered so. -/
def Spares (gives : Answered Query.Answer → Prop) (x : Call α) : Prop :=
  ∀ told e, (∀ t ∈ told, gives t) → x.run.Reaches told (.done (.error e)) → ¬ e.Blames

theorem spares_pure (value : α) : Spares gives (pure value : Call α) := by
  intro told e _ reached
  cases (Dialogue.reaches_done reached).2

theorem spares_throw {e : VaultError} (blameless : ¬ e.Blames) :
    Spares gives (throw e : Call α) := by
  intro told other _ reached
  cases (Dialogue.reaches_done reached).2
  exact blameless

theorem Spares.bind {x : Call α} {f : α → Call β} (spares : Spares gives x)
    (next : ∀ told value, x.run.Reaches told (.done (.ok value)) → Spares gives (f value)) :
    Spares gives (x >>= f) := by
  intro told e given reached
  rcases reaches_bind reached with ⟨rest, _, _, more⟩ | ⟨failed, before, same⟩ |
    ⟨first, value, last, rfl, before, after⟩
  · exact absurd rfl (more _)
  · cases same
    exact spares told e given before
  · have later (t) (member : t ∈ last) : gives t := given t (List.mem_append_right _ member)
    exact next first value before last e later after

theorem reaches_of_ok {x : Call α} {f : α → Call β} {value : α}
    {left : Exchange (Except VaultError β)} (first last : List (Answered Query.Answer))
    (before : x.run.Reaches first (.done (.ok value))) (after : (f value).run.Reaches last left) :
    (x >>= f).run.Reaches (first ++ last) left := by
  rw [run_bind]
  exact before.bind after

theorem reaches_of_error {x : Call α} {f : α → Call β} {e : VaultError}
    {told : List (Answered Query.Answer)} (failed : x.run.Reaches told (.done (.error e))) :
    (x >>= f).run.Reaches told (.done (.error e)) := by
  rw [run_bind, ← List.append_nil told]
  exact failed.bind (.here _)

end Call

namespace Client

variable {α : Type} {gives : Answered Query.Answer → Prop} {c : Client} {policy : RetryPolicy}

theorem spares_liftExcept {r : Except VaultError α} (blameless : ∀ e, r = .error e → ¬ e.Blames) :
    Call.Spares gives (send.liftExcept r) := by
  intro told e _ reached
  exact blameless e (Dialogue.done.inj (Dialogue.reaches_done reached).2).symm

theorem spares_clock : Call.Spares gives clock := by
  intro told e _ reached
  cases reached with
  | ask later => cases (Dialogue.reaches_done later).2

theorem spares_readText (file : String) :
    Call.Spares gives (ExceptT.lift (readText file) : Call (Except String String)) := by
  intro told e _ reached
  rcases readText_reaches reached with ⟨-, more⟩ | ⟨r, -, ended⟩
  · exact absurd rfl (more _)
  · cases ended

theorem spares_decode (read : Json.Tree → Option α) (r : Response) :
    Call.Spares gives (decode read r) := by
  unfold decode
  split
  · exact Call.spares_pure _
  · exact Call.spares_throw nofun

theorem spares_create (blameless : Blameless gives) (policy : RetryPolicy) (method : String)
    (url : Url) :
    Call.Spares gives (ExceptT.mk ((Transport.plain.retrying policy).create method url)) := by
  intro told e given reached
  obtain ⟨outcomes, rfl, -, ends⟩ :=
    RetryPolicy.run_reaches (asksOnce_create method url) policy reached
  have last := List.mem_of_getLast? (ends _ rfl).last
  exact blameless.create _ _ _ (given _ (List.mem_map_of_mem last))

theorem spares_execute (blameless : Blameless gives) (policy : RetryPolicy) (request : Request) :
    Call.Spares gives (ExceptT.mk ((Transport.plain.retrying policy).execute request)) := by
  intro told e given reached
  obtain ⟨outcomes, rfl, -, ends⟩ :=
    RetryPolicy.run_reaches (asksOnce_execute request) policy reached
  have last := List.mem_of_getLast? (ends _ rfl).last
  exact blameless.execute _ _ (given _ (List.mem_map_of_mem last))

theorem statusError?_spares {path : String} {r : Response} {e : VaultError}
    (signals : statusError? path r = some e) : ¬ e.Blames := by
  unfold statusError? at signals
  dsimp only at signals
  repeat' split at signals
  all_goals cases signals
  all_goals exact nofun

theorem headers_spares {token : Option String} {e : VaultError}
    (named : ∀ n ∈ c.namespace_, Http.validHeaderValue n = true)
    (failed : c.headers token = .error e) : ¬ e.Blames := by
  by_cases valid : ∀ t ∈ token, Http.validHeaderValue t = true
  · cases (headers_of_valid valid named).symm.trans failed
  · obtain ⟨t, given, invalid⟩ : ∃ t ∈ token, Http.validHeaderValue t = false := by
      simpa using valid
    obtain rfl := Option.mem_def.mp given
    unfold headers at failed
    simp only [invalid] at failed
    cases failed
    exact nofun

theorem apiUrl_spares {endpoint : Endpoint} {path : String} {e : VaultError}
    (failed : endpoint.apiUrl path = .error e) : ¬ e.Blames := by
  unfold Endpoint.apiUrl at failed
  split at failed
  · cases failed
  · cases failed
    exact nofun

/-- Nothing is left of the settings that a request could find fault with: the namespace is a header
value, or there is no URL to send anything to. -/
def Settled (c : Client) : Prop :=
  (∀ n ∈ c.namespace_, Http.validHeaderValue n = true) ∨ ∀ path u, c.endpoint.apiUrl path ≠ .ok u

theorem Settled.send (blameless : Blameless gives) (settled : c.Settled) (method path : String)
    (token body : Option String) :
    Call.Spares gives ((c.underPolicy policy).send method path token body) := by
  unfold Client.send
  rw [underPolicy_transport]
  refine (spares_liftExcept fun e failed => apiUrl_spares failed).bind fun told url resolved => ?_
  rcases settled with named | unresolved
  · refine (spares_create blameless policy method url).bind fun _ _ _ => ?_
    have spared (e : VaultError) (failed : c.headers token = .error e) : ¬ e.Blames :=
      headers_spares named failed
    refine (spares_liftExcept spared).bind fun _ headers _ => ?_
    refine (spares_execute blameless policy _).bind fun _ response _ => ?_
    split
    · rename_i e signals
      exact Call.spares_throw (statusError?_spares signals)
    · exact Call.spares_pure _
  · have found := (Dialogue.done.inj (Dialogue.reaches_done resolved).2).symm
    exact absurd found (unresolved path url)

theorem Settled.sendDecoded (blameless : Blameless gives) (settled : c.Settled) {β γ : Type}
    (method path : String) (token body : Option String) (read : Json.Tree → Option β)
    (f : β → Instant → γ) :
    Call.Spares gives (do
      let response ← (c.underPolicy policy).send method path token body
      let part ← decode read response
      let now ← clock
      return f part now) :=
  (settled.send blameless method path token body).bind fun _ response _ =>
    (spares_decode read response).bind fun _ _ _ =>
      spares_clock.bind fun _ _ _ => Call.spares_pure _

theorem Settled.kubernetesLogin (blameless : Blameless gives) (settled : c.Settled)
    (role jwtPath mount : String) :
    Call.Spares gives ((c.underPolicy policy).kubernetesLogin role jwtPath mount) := by
  unfold Client.kubernetesLogin
  refine (spares_readText jwtPath).bind fun _ read _ => ?_
  cases read with
  | error reason =>
      simp only [Call.throw_bind]
      exact Call.spares_throw nofun
  | ok jwt =>
      simp only [Call.pure_bind]
      refine (settled.send blameless _ _ _ _).bind fun _ response _ => ?_
      refine (spares_decode Wire.auth? response).bind fun _ grant _ => ?_
      split
      · refine (Call.spares_throw ?_).bind fun _ _ _ => spares_clock.bind fun _ _ _ =>
          Call.spares_pure _
        exact nofun
      · exact spares_clock.bind fun _ _ _ => Call.spares_pure _

theorem Settled.perform (blameless : Blameless gives) (settled : c.Settled) (op : Operation) :
    Call.Spares gives ((c.underPolicy policy).perform op) := by
  cases op with
  | login =>
      unfold Client.perform login
      split
      · exact settled.sendDecoded blameless _ _ _ _ _ _
      · exact settled.kubernetesLogin blameless _ _ _
  | renewToken t => exact settled.sendDecoded blameless _ _ _ _ _ _
  | read token path => exact settled.sendDecoded blameless _ _ _ _ _ _
  | renewLease token l =>
      show Call.Spares gives ((c.underPolicy policy).renewLease token l)
      unfold renewLease
      split
      · refine (Call.spares_throw ?_).bind fun _ _ _ => settled.sendDecoded blameless _ _ _ _ _ _
        exact nofun
      · exact settled.sendDecoded blameless _ _ _ _ _ _
  | revokeLease token leaseId =>
      exact (settled.send blameless _ _ _ _).bind fun _ _ _ => Call.spares_pure _

/-! ## A namespace that is no header value -/

/-- Some operation that is answered so ends with an error that finds fault with the settings. -/
def Blamed (c : Client) (gives : Answered Query.Answer → Prop) : Prop :=
  ∃ op told e, (∀ t ∈ told, gives t) ∧ (c.perform op).run.Reaches told (.done (.error e)) ∧ e.Blames

theorem create_answered (policy : RetryPolicy) (method : String) (url : Url) :
    ((Transport.plain.retrying policy).create method url).Reaches [created method url (.ok ())]
      (.done (.ok ())) := by
  show (RetryPolicy.attempt policy.backoff VaultError.retryable _ (policy.maxAttempts - 1)).Reaches
    _ _
  cases policy.maxAttempts - 1 <;> exact .ask (.here _)

theorem headers_refused {n : String} (named : c.namespace_ = some n)
    (invalid : Http.validHeaderValue n = false) :
    c.headers (some "") =
      .error (.invalidConfig ("namespace " ++ n ++ " is not a valid header value")) := by
  have empty : Http.validHeaderValue "" = true := rfl
  unfold headers
  simp only [empty, named, invalid]
  rfl

theorem send_refused {n : String} (named : c.namespace_ = some n)
    (invalid : Http.validHeaderValue n = false) {method path : String} {body : Option String}
    {url : Url} (resolved : c.endpoint.apiUrl path = .ok url) :
    ((c.underPolicy policy).send method path (some "") body).run.Reaches
      [created method url (.ok ())]
      (.done (.error (.invalidConfig ("namespace " ++ n ++ " is not a valid header value")))) := by
  have refused : (c.underPolicy policy).headers (some "") = _ := headers_refused named invalid
  have found : (c.underPolicy policy).endpoint.apiUrl path = .ok url := resolved
  unfold send
  rw [found, refused, underPolicy_transport]
  refine Call.reaches_of_ok [] [created method url (.ok ())] (.here _) ?_
  refine Call.reaches_of_ok [created method url (.ok ())] [] (create_answered policy method url) ?_
  exact Call.reaches_of_error (.here _)

/-- A client finds fault with its settings only for the namespace, and only if it has a URL to send
something to. -/
theorem Blamed.only (blameless : Blameless gives) (blamed : (c.underPolicy policy).Blamed gives) :
    (∃ n ∈ c.namespace_, Http.validHeaderValue n = false) ∧ c.endpoint.HasBase := by
  obtain ⟨op, told, e, given, reached, blames⟩ := blamed
  have unsettled : ¬ c.Settled := fun settled =>
    settled.perform blameless op told e given reached blames
  obtain ⟨invalid, resolved⟩ := not_or.mp unsettled
  refine ⟨by simpa using invalid, ?_⟩
  cases parsed : Url.parse c.endpoint.baseUrl with
  | ok b => exact ⟨b, parsed⟩
  | error err =>
      refine absurd (fun path u found => ?_) resolved
      cases (Endpoint.apiUrl_unparsed parsed path).symm.trans found

theorem blamed_iff (built : c.endpoint.Built) (a : Agent) :
    (c.underPolicy policy).Blamed a.Gives ↔
      (∃ n ∈ c.namespace_, Http.validHeaderValue n = false) ∧ c.endpoint.HasBase := by
  refine ⟨Blamed.only a.blameless, ?_⟩
  rintro ⟨⟨n, named, invalid⟩, b, parsed⟩
  have plain : Endpoint.Plain "sys/leases/revoke" := Url.forall_of_all (by decide)
  obtain ⟨reached, query, fragment, resolved⟩ := Endpoint.apiUrl_plain built parsed plain
  obtain ⟨scheme, -⟩ := Endpoint.base_web built parsed
  obtain ⟨⟨h, host, proper⟩, -⟩ := Url.parse_serves parsed (scheme ▸ built.web)
  have connects :
      Http.Agent.create { b with path := .segments reached, query, fragment } = .ok () := by
    have shown : Url.hostText? { b with path := .segments reached, query, fragment } =
        some (String.ofList h.text) := by
      unfold Url.hostText?
      rw [host]
      exact if_neg fun empty => proper.nonempty (List.isEmpty_iff.mp empty)
    unfold Http.Agent.create
    rw [shown]
  refine ⟨.revokeLease "" "", _, _, ?_,
    Call.reaches_of_error (send_refused named invalid resolved), _, rfl⟩
  intro t member
  obtain rfl := List.mem_singleton.mp member
  rw [← connects]
  exact .create _ _

end Client

end Leasehold

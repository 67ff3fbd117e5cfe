import Leasehold.Proofs.Vault.Blame

/-!
# What the validation of the settings leaves open

Validation reads a URI, but not a host in place of one, and it looks at the
namespace only for blanks.  So the endpoint of valid settings has a base URL if a
URI is given, and for a host if what it makes of the URL names a server; and the
client of the settings finds fault with them when it sends a request, if the
namespace is no header value, and over no transport that spares the settings
otherwise (`validate_settles`).
-/

set_option autoImplicit false

namespace Leasehold

open Http (Agent Transport)

namespace Config

variable {c : Config} {e : Endpoint}

theorem endpoint_of_valid (valid : c.validate = .ok ()) : ∃ e, c.endpoint = .ok e := by
  unfold validate at valid
  cases found : c.endpoint with
  | ok e => exact ⟨e, rfl⟩
  | error err =>
      rw [found] at valid
      cases valid

theorem endpoint_built (found : c.endpoint = .ok e) : e.Built := by
  unfold endpoint at found
  split at found
  · exact .ofUri found
  · exact .withScheme (.create c.host c.port) found

theorem endpoint_of_uri {uri : String} (given : c.uri = some uri)
    (visible : Text.blank uri = false) : c.endpoint = Endpoint.ofUri uri := by
  unfold endpoint
  rw [given]
  simp only [Option.filter_some, visible, Bool.not_false, if_true]

theorem endpoint_of_host (blank : ∀ uri ∈ c.uri, Text.blank uri = true)
    (found : c.endpoint = .ok e) : e.host = c.host ∧ e.port = c.port := by
  have none : c.uri.filter (!Text.blank ·) = none := by
    rw [Option.filter_eq_none_iff]
    intro uri given
    simp [blank uri given]
  unfold endpoint at found
  rw [none] at found
  obtain ⟨-, rfl⟩ := Endpoint.withScheme_ok found
  exact ⟨rfl, rfl⟩

/-- The client of the settings, up to what its endpoint is. -/
def client (c : Config) (e : Endpoint) : Client where
  endpoint := e
  namespace_ := c.namespace_
  authentication := c.authentication
  transport := Transport.plain

theorem ofConfig_eq (valid : c.validate = .ok ()) (found : c.endpoint = .ok e) :
    Client.ofConfig c =
      (Agent.ofName c.http.userAgent).map fun _ => (c.client e).underPolicy c.retry := by
  unfold Client.ofConfig
  rw [valid]
  cases Agent.ofName c.http.userAgent with
  | error err => rfl
  | ok a =>
      rw [found]
      rfl

/-- Requests of a client with these settings find fault with them: the namespace is no header value,
and there is a URL to send them to. -/
def Broken (c : Config) (e : Endpoint) : Prop :=
  (∃ n ∈ c.namespace_, Http.validHeaderValue n = false) ∧ e.HasBase

/-- What validated settings promise.  A URI has a base URL; a host in place of one need not, and a
plain path is resolved only where there is one.  A client then finds no fault with its settings but
for a namespace that is no header value, over any transport that finds none itself. -/
theorem validate_settles (valid : c.validate = .ok ()) :
    ∃ e, c.endpoint = .ok e ∧
      (∀ uri ∈ c.uri, Text.blank uri = false → e.HasBase) ∧
      ((∀ uri ∈ c.uri, Text.blank uri = true) →
        (e.HasBase ↔
          Url.NamesServer (Url.behindCredentials (Url.authorityOf c.host.toList c.port))) ∧
        (c.port < 65536 → Url.Delimited c.host.toList →
          (e.HasBase ↔ ∃ h, Url.specialHost c.host.toList = .ok h))) ∧
      (e.HasBase ↔ ∀ path, Endpoint.Plain path → ∃ u, e.apiUrl path = .ok u) ∧
      ∀ client, Client.ofConfig c = .ok client →
        (∀ gives, Blameless gives → client.Blamed gives → c.Broken e) ∧
          ∀ agent : Agent, client.Blamed agent.Gives ↔ c.Broken e := by
  obtain ⟨e, found⟩ := endpoint_of_valid valid
  have built := endpoint_built found
  refine ⟨e, found, ?_, ?_, Endpoint.hasBase_iff_plain built, ?_⟩
  · intro uri given visible
    rw [endpoint_of_uri given visible] at found
    exact Endpoint.ofUri_hasBase found
  · intro blank
    obtain ⟨host, port⟩ := endpoint_of_host blank found
    rw [← host, ← port]
    exact ⟨Endpoint.hasBase_iff_authority built.web,
      fun fits delimited => Endpoint.hasBase_iff_host built.web delimited fits⟩
  · intro client made
    rw [ofConfig_eq valid found] at made
    cases named : Agent.ofName c.http.userAgent with
    | error err =>
        rw [named] at made
        cases made
    | ok own =>
        rw [named] at made
        cases made
        exact ⟨fun gives blameless => Client.Blamed.only (c := c.client e) blameless,
          Client.blamed_iff (c := c.client e) built⟩

def ofBrokenName : Config where
  uri := some "http://vault:8200"
  namespace_ := some "a\nb"
  authentication := .token "s.token"

def ofBrokenHost : Config where
  host := "a b"
  authentication := .token "s.token"

theorem ofBrokenName_valid : ofBrokenName.validate = .ok () :=
  eq_ok_of_toOption (by decide +kernel)

theorem ofBrokenName_endpoint : ofBrokenName.endpoint =
    .ok { scheme := "http", host := "vault", port := 8200, path := "v1" } :=
  eq_ok_of_toOption (by decide +kernel)

theorem validate_settles_brokenName :
    ofBrokenName.validate = .ok () ∧
      ∃ e, ofBrokenName.endpoint = .ok e ∧ e.HasBase ∧
        ∀ (client : Client) (agent : Agent), Client.ofConfig ofBrokenName = .ok client →
          client.Blamed agent.Gives := by
  obtain ⟨e, found, ofUri, -, -, blamed⟩ := validate_settles ofBrokenName_valid
  have base := ofUri "http://vault:8200" rfl (by decide +kernel)
  refine ⟨ofBrokenName_valid, e, found, base, fun client agent made => ?_⟩
  exact ((blamed client made).2 agent).mpr ⟨⟨"a\nb", rfl, by decide⟩, base⟩

/-- Validation passes a host that is none and a namespace that is no header value. -/
theorem validate_passes :
    (¬ ∀ c : Config, c.validate = .ok () → ∃ e, c.endpoint = .ok e ∧ e.HasBase) ∧
      ¬ ∀ (c : Config) (client : Client) (agent : Agent), c.validate = .ok () →
        Client.ofConfig c = .ok client → ¬ client.Blamed agent.Gives := by
  constructor
  · intro claim
    have valid : ofBrokenHost.validate = .ok () := eq_ok_of_toOption (by decide +kernel)
    obtain ⟨e, found, b, parsed⟩ := claim ofBrokenHost valid
    cases found
    have refused : (Url.parse ({ host := "a b" } : Endpoint).baseUrl).toOption = none := by
      decide +kernel
    have read := congrArg Except.toOption parsed
    cases refused.symm.trans read
  · intro claim
    have agent : Agent.ofName ofBrokenName.http.userAgent =
        .ok { name := some "vault-lifecycle/0.1.0" } := if_pos (by decide)
    have made := ofConfig_eq ofBrokenName_valid ofBrokenName_endpoint
    rw [agent] at made
    have visible : Text.blank "http://vault:8200" = false := by decide +kernel
    have ofUri := (endpoint_of_uri rfl visible).symm.trans ofBrokenName_endpoint
    refine claim ofBrokenName _ {} ofBrokenName_valid made ?_
    exact (Client.blamed_iff (endpoint_built ofBrokenName_endpoint) _).mpr
      ⟨⟨"a\nb", rfl, by decide⟩, Endpoint.ofUri_hasBase ofUri⟩

end Config

end Leasehold

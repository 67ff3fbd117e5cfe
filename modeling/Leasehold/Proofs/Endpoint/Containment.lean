import Leasehold.Endpoint
import Leasehold.Proofs.Url.Resolution

/-!
# Whether a request keeps to the server

An API path is a reference, from which only the slashes in front are taken.  One
that leads to a place on the server keeps its scheme, host and port, and keeps to
the prefix of the API exactly if the segments of the place go on from it.  Any
other one leads to the same URL from every endpoint, so what server is configured
does not count, and some are left (`apiUrl_leads`).
-/

set_option autoImplicit false

namespace Leasehold.Endpoint

open Url

inductive Built : Endpoint → Prop where
  | create (host : String) (port : Nat) : Built { host, port }
  | ofUri {uri : String} {e : Endpoint} (found : ofUri uri = .ok e) : Built e
  | withScheme {e changed : Endpoint} {scheme : String} (built : Built e)
      (set : e.withScheme scheme = .ok changed) : Built changed
  | withPath {e : Endpoint} (built : Built e) (path : String) : Built (e.withPath path)

/-- A URL on the server of another one and below its path. -/
structure Within (b u : Url) : Prop where
  scheme : u.scheme = b.scheme
  host : u.host = b.host
  port : u.port = b.port
  path : b.path.text <+: u.path.text

def reference (e : Endpoint) (path : String) : Reference :=
  .of e.scheme (cleaned (Text.withoutLeadingSlashes path))

variable {e changed : Endpoint} {path : String} {b u : Url}

theorem withScheme_ok {scheme : String} (set : e.withScheme scheme = .ok changed) :
    Web scheme ∧ changed = { e with scheme } := by
  unfold withScheme at set
  split at set
  · rename_i web
    cases set
    exact ⟨web, rfl⟩
  · cases set

theorem withScheme_web {scheme : String} (set : e.withScheme scheme = .ok changed) :
    Web changed.scheme := by
  obtain ⟨web, rfl⟩ := withScheme_ok set
  exact web

/-- The path below which the API lives, from the path of a URI. -/
def pathBelow (url : Url) : String :=
  if Text.withoutOuterSlashes url.pathText = "" then "v1"
  else Text.withoutOuterSlashes url.pathText

/-- What a URI gives: the scheme, the host as it is shown, and the port of its URL, and a path. -/
theorem ofUri_eq_ok_iff {uri : String} : ofUri uri = .ok e ↔
    ∃ url, Url.parse uri = .ok url ∧ Web url.scheme ∧ url.scheme = e.scheme ∧
      url.hostText? = some e.host ∧ url.effectivePort? = some e.port ∧ pathBelow url = e.path := by
  unfold ofUri
  simp only [bind, Except.bind, pure, Except.pure, throw, throwThe, MonadExceptOf.throw]
  constructor
  · intro found
    cases parsed : Url.parse uri with
    | error err =>
        rw [parsed] at found
        cases found
    | ok url =>
        rw [parsed] at found
        dsimp only at found
        split at found
        · cases found
        rename_i set
        obtain ⟨web, rfl⟩ := withScheme_ok set
        split at found
        · rename_i host
          split at found
          · rename_i port
            cases found
            exact ⟨url, rfl, web, rfl, host, port, by rw [pathBelow]⟩
          · cases found
        · cases found
  · rintro ⟨url, parsed, web, scheme, host, port, path⟩
    obtain ⟨_, _, _, _⟩ := e
    dsimp only at scheme host port path
    subst scheme path
    have set : ({} : Endpoint).withScheme url.scheme = .ok { scheme := url.scheme } := if_pos web
    rw [parsed]
    simp only [set, host, port]
    rfl

theorem ofUri_web {uri : String} (found : ofUri uri = .ok e) : Web e.scheme := by
  obtain ⟨url, -, web, same, -⟩ := ofUri_eq_ok_iff.mp found
  rwa [← same]

theorem Built.web (built : Built e) : Web e.scheme := by
  induction built with
  | create host port => exact .inr rfl
  | ofUri found => exact ofUri_web found
  | withScheme _ set _ => exact withScheme_web set
  | withPath _ _ web => exact web

theorem baseUrl_starts (e : Endpoint) : ∃ t, e.baseUrl.toList = e.scheme.toList ++ ':' :: t := by
  simp only [baseUrl, String.toList_append, List.append_assoc]
  exact ⟨_, rfl⟩

theorem base_web (built : Built e) (parsed : Url.parse e.baseUrl = .ok b) :
    b.scheme = e.scheme ∧ ∃ base, b.path = .segments base ∧ base ≠ [] ∧ Slashless base := by
  obtain ⟨t, starts⟩ := e.baseUrl_starts
  exact parse_web built.web starts parsed

theorem apiUrl_of_join (parsed : Url.parse e.baseUrl = .ok b)
    (joined : b.join (Text.withoutLeadingSlashes path) = .ok u) : e.apiUrl path = .ok u := by
  simp only [apiUrl, parsed, Except.bind, joined]

theorem join_of_apiUrl (parsed : Url.parse e.baseUrl = .ok b) (found : e.apiUrl path = .ok u) :
    b.join (Text.withoutLeadingSlashes path) = .ok u := by
  simp only [apiUrl, parsed, Except.bind] at found
  split at found
  · rename_i joined
    cases found
    exact joined
  · cases found

section Places

variable {base reached : List String}

theorem apiUrl_on_server (built : Built e) (parsed : Url.parse e.baseUrl = .ok b)
    (found : e.apiUrl path = .ok u) (segments : b.path = .segments base)
    (leads : (e.reference path).segments? e.scheme base = some reached) :
    ∃ query fragment, u = { b with path := .segments reached, query, fragment } := by
  obtain ⟨scheme, -⟩ := base_web built parsed
  have web : Web b.scheme := scheme ▸ built.web
  obtain ⟨query, fragment, joined⟩ := join_local web segments (by rw [scheme]; exact leads)
  cases joined.symm.trans (join_of_apiUrl parsed found)
  exact ⟨query, fragment, rfl⟩

theorem within_iff (built : Built e) (parsed : Url.parse e.baseUrl = .ok b)
    (found : e.apiUrl path = .ok u) (segments : b.path = .segments base)
    (leads : (e.reference path).segments? e.scheme base = some reached) :
    Within b u ↔ Extends base reached := by
  obtain ⟨-, own, same, nonempty, plain⟩ := base_web built parsed
  cases segments.symm.trans same
  have compared : b.path.text <+: (Path.segments reached).text ↔ Extends base reached := by
    rw [segments]
    exact text_prefix_iff nonempty plain (Reference.segments?_slashless plain leads)
  obtain ⟨query, fragment, rfl⟩ := apiUrl_on_server built parsed found segments leads
  exact ⟨fun within => compared.mp within.path, fun starts =>
    ⟨rfl, rfl, rfl, compared.mpr starts⟩⟩

/-- What does not lead to a place on the server does not depend on the server. -/
theorem apiUrl_elsewhere (built : Built e) (parsed : Url.parse e.baseUrl = .ok b)
    (found : e.apiUrl path = .ok u) (segments : b.path = .segments base)
    (leaves : (e.reference path).segments? e.scheme base = none) {other : Endpoint} {b' : Url}
    (built' : Built other) (same : other.scheme = e.scheme)
    (parsed' : Url.parse other.baseUrl = .ok b') : other.apiUrl path = .ok u := by
  obtain ⟨scheme, -⟩ := base_web built parsed
  obtain ⟨scheme', base', segments', -⟩ := base_web built' parsed'
  have web : Web b.scheme := scheme ▸ built.web
  refine apiUrl_of_join parsed' ?_
  rw [← join_of_apiUrl parsed found]
  exact join_elsewhere web segments (by rw [scheme', same, scheme]) segments'
    (by rw [scheme]; exact leaves)

end Places

theorem parsed_at {scheme host : String} (web : Web scheme) (named : host = "a" ∨ host = "b") :
    ∃ b, Url.parse ({ scheme, host } : Endpoint).baseUrl = .ok b ∧
      b.host = some (.domain host) := by
  refine ⟨⟨scheme, "", "", some (.domain host), some 8200, .segments ["v1", ""], none, none⟩,
    eq_ok_of_toOption ?_, rfl⟩
  rcases web with rfl | rfl <;> rcases named with rfl | rfl <;> decide +kernel

/-- No URL keeps to two servers. -/
theorem exists_not_within {scheme : String} (web : Web scheme) (u : Url) :
    ∃ other b, Built other ∧ other.scheme = scheme ∧ Url.parse other.baseUrl = .ok b ∧
      ¬ Within b u := by
  have built (host : String) : Built { scheme, host } :=
    .withScheme (.create host 8200) (if_pos web)
  by_cases same : u.host = some (.domain "a")
  · obtain ⟨b, parsed, host⟩ := parsed_at web (Or.inr rfl)
    refine ⟨_, b, built "b", rfl, parsed, fun within => ?_⟩
    have clash := same.symm.trans (within.host.trans host)
    exact absurd clash (by decide)
  · obtain ⟨b, parsed, host⟩ := parsed_at web (Or.inl rfl)
    exact ⟨_, b, built "a", rfl, parsed, fun within => same (within.host.trans host)⟩

theorem apiUrl_leads (built : Built e) (parsed : Url.parse e.baseUrl = .ok b)
    (found : e.apiUrl path = .ok u) :
    ∃ base, b.path = .segments base ∧
      (∀ reached, (e.reference path).segments? e.scheme base = some reached →
        u.scheme = b.scheme ∧ u.host = b.host ∧ u.port = b.port ∧ u.path = .segments reached ∧
          (Within b u ↔ Extends base reached)) ∧
      ((e.reference path).segments? e.scheme base = none →
        (∀ other b', Built other → other.scheme = e.scheme → Url.parse other.baseUrl = .ok b' →
          other.apiUrl path = .ok u) ∧
        ∃ other b', Built other ∧ other.scheme = e.scheme ∧ Url.parse other.baseUrl = .ok b' ∧
          ¬ Within b' u) := by
  obtain ⟨-, base, segments, -⟩ := base_web built parsed
  refine ⟨base, segments, ?_, ?_⟩
  · intro reached leads
    have keeps := within_iff built parsed found segments leads
    obtain ⟨query, fragment, rfl⟩ := apiUrl_on_server built parsed found segments leads
    exact ⟨rfl, rfl, rfl, rfl, keeps⟩
  · intro leaves
    refine ⟨?_, exists_not_within built.web u⟩
    intro other b' built' same parsed'
    exact apiUrl_elsewhere built parsed found segments leaves built' same parsed'

def vault : Endpoint := { host := "vault" }

def vaultApi : Url :=
  { scheme := "https", host := some (.domain "vault"), port := some 8200,
    path := .segments ["v1", ""] }

def vaultSys : Url := { vaultApi with path := .segments ["sys"] }

theorem vault_parsed : Url.parse vault.baseUrl = .ok vaultApi :=
  eq_ok_of_toOption (by decide +kernel)

theorem apiUrl_leads_above :
    Built vault ∧ Url.parse vault.baseUrl = .ok vaultApi ∧ vault.apiUrl "../sys" = .ok vaultSys ∧
      ∃ base, vaultApi.path = .segments base ∧
        (∀ reached, (vault.reference "../sys").segments? vault.scheme base = some reached →
          vaultSys.scheme = vaultApi.scheme ∧ vaultSys.host = vaultApi.host ∧
            vaultSys.port = vaultApi.port ∧ vaultSys.path = .segments reached ∧
            (Within vaultApi vaultSys ↔ Extends base reached)) ∧
        ((vault.reference "../sys").segments? vault.scheme base = none →
          (∀ other b', Built other → other.scheme = vault.scheme →
            Url.parse other.baseUrl = .ok b' → other.apiUrl "../sys" = .ok vaultSys) ∧
          ∃ other b', Built other ∧ other.scheme = vault.scheme ∧
            Url.parse other.baseUrl = .ok b' ∧ ¬ Within b' vaultSys) := by
  have built : Built vault := .create "vault" 8200
  have found : vault.apiUrl "../sys" = .ok vaultSys := eq_ok_of_toOption (by decide +kernel)
  exact ⟨built, vault_parsed, found, apiUrl_leads built vault_parsed found⟩

/-- A path that is a URL of its own leads to the server that it names. -/
theorem leaves_server :
    ¬ ∀ (e : Endpoint) (b u : Url) (path : String), Built e → Url.parse e.baseUrl = .ok b →
      e.apiUrl path = .ok u → Within b u := by
  intro claim
  have found : vault.apiUrl "http://evil.example/secret" =
      .ok { scheme := "http", host := some (.domain "evil.example"),
            path := .segments ["secret"] } := eq_ok_of_toOption (by decide +kernel)
  have within := claim vault vaultApi _ _ (.create "vault" 8200) vault_parsed found
  exact absurd within.scheme (by decide)

end Leasehold.Endpoint

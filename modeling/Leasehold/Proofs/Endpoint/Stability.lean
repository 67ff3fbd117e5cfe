import Leasehold.Proofs.Endpoint.Server
import Leasehold.Proofs.Url.Verbatim

/-!
# Endpoints are read from what they are written as

An endpoint that a URI gives is in a normal form (`ofUri_normal`): its host stands
for itself, and its path, without slashes at its ends, is read as it stands.  The
base URL of such an endpoint is therefore read as its server and its path, so that
the endpoint comes out of it again (`ofUri_baseUrl`), and a plain path goes on
from there, character by character (`apiUrl_locates`).
-/

set_option autoImplicit false

namespace Leasehold.Endpoint

open Url

/-- An endpoint as URIs give it. -/
structure Normal (e : Endpoint) : Prop where
  web : Web e.scheme
  host : ∃ h : Host, h.Proper ∧ e.host.toList = h.text
  fits : e.port < 65536
  some : e.path ≠ ""
  trimmed : Text.Trimmed Text.isSlash e.path.toList
  verbatim : Verbatim e.path.toList

/-- The URL of a path on the server of an endpoint, and nothing else. -/
structure Locates (e : Endpoint) (path : String) (u : Url) : Prop where
  scheme : u.scheme = e.scheme
  anonymous : u.username = "" ∧ u.password = ""
  host : u.hostText? = some e.host
  port : u.effectivePort? = some e.port
  path : u.pathText = path
  query : u.query = none
  fragment : u.fragment = none

/-- The parts of a path behind the slash of its root, on the server of the endpoint. -/
def onServer (e : Endpoint) (h : Host) (s : List Char) : Url :=
  { server e.scheme h e.port with path := .segments ((Text.splitAt '/' s).map String.ofList) }

variable {e : Endpoint} {uri path : String} {h : Host}

/-! ## The normal form -/

theorem pathBelow_normal {url : Url} (verbatim : Verbatim url.path.text) :
    pathBelow url ≠ "" ∧ Text.Trimmed Text.isSlash (pathBelow url).toList ∧
      Verbatim (pathBelow url).toList := by
  unfold pathBelow
  split
  · have trimmed : Text.trim Text.isSlash "v1".toList = "v1".toList := by decide
    refine ⟨by decide, (Text.trim_eq_iff.mp trimmed).1, .of_plain ?_ ?_⟩
    · exact forall_of_all (by decide)
    · exact forall_of_all (by decide)
  · rename_i some
    refine ⟨some, ?_⟩
    rw [Text.withoutOuterSlashes, pathText, String.toList_ofList, String.toList_ofList]
    exact ⟨Text.trimmed_trim _ _, verbatim.trim⟩

theorem ofUri_normal (found : ofUri uri = .ok e) : e.Normal := by
  obtain ⟨h, proper, host, fits⟩ := ofUri_host found
  obtain ⟨url, parsed, web, scheme, -, -, path⟩ := ofUri_eq_ok_iff.mp found
  obtain ⟨some, trimmed, verbatim⟩ := pathBelow_normal (verbatim_of_parse parsed web)
  rw [path] at some trimmed verbatim
  exact ⟨scheme ▸ web, ⟨h, proper, host⟩, fits, some, trimmed, verbatim⟩

/-! ## The server -/

theorem effectivePort?_server (scheme : String) (h : Host) (p : Nat) :
    (server scheme h p).effectivePort? = some p := by
  unfold effectivePort? server shownPort
  dsimp only
  split
  · rename_i usual
    rw [usual, Option.none_or]
  · rw [Option.some_or]

theorem hostText?_server (proper : h.Proper) (scheme : String) (p : Nat) :
    (server scheme h p).hostText? = some (String.ofList h.text) :=
  if_neg fun empty => proper.nonempty (List.isEmpty_iff.mp empty)

theorem locates_onServer (proper : h.Proper) (host : e.host.toList = h.text) (s : List Char) :
    e.Locates (String.ofList ('/' :: s)) (e.onServer h s) where
  scheme := rfl
  anonymous := ⟨rfl, rfl⟩
  host := by
    have shown := hostText?_server proper e.scheme e.port
    rwa [← host, String.ofList_toList] at shown
  port := effectivePort?_server e.scheme h e.port
  path := congrArg String.ofList (text_splitAt s)
  query := rfl
  fragment := rfl

/-! ## The base URL -/

/-- The base URL is read as the server of the endpoint and its path, with a slash behind it. -/
theorem Normal.parse_baseUrl (normal : e.Normal) (proper : h.Proper)
    (host : e.host.toList = h.text) :
    Url.parse e.baseUrl = .ok (e.onServer h (e.path.toList ++ ['/'])) := by
  have verbatim : Verbatim (e.path.toList ++ ['/']) :=
    verbatim_append_slash.mpr ⟨normal.verbatim, Verbatim.nil⟩
  refine parse_verbatim normal.web proper normal.fits verbatim ?_
  rw [baseUrl_written, host, if_neg normal.some, String.toList_append]
  rfl

theorem Normal.pathBelow_eq (normal : e.Normal) {u : Url}
    (located : e.Locates (String.ofList ('/' :: (e.path.toList ++ ['/']))) u) :
    pathBelow u = e.path := by
  have within : Text.trim Text.isSlash ('/' :: (e.path.toList ++ ['/'])) = e.path.toList :=
    Text.trim_eq_iff.mpr ⟨normal.trimmed, ['/'], ['/'], List.forall_mem_singleton.mpr rfl,
      List.forall_mem_singleton.mpr rfl, rfl⟩
  have same : Text.withoutOuterSlashes u.pathText = e.path := by
    rw [located.path, Text.withoutOuterSlashes, String.toList_ofList, within, String.ofList_toList]
  rw [pathBelow, same, if_neg normal.some]

theorem Normal.ofUri_eq (normal : e.Normal) : ofUri e.baseUrl = .ok e := by
  obtain ⟨h, proper, host⟩ := normal.host
  have located := locates_onServer proper host (e.path.toList ++ ['/'])
  exact ofUri_eq_ok_iff.mpr ⟨_, normal.parse_baseUrl proper host, normal.web, rfl, located.host,
    located.port, normal.pathBelow_eq located⟩

/-- What a URI gives comes out of its base URL again. -/
theorem ofUri_baseUrl (found : ofUri uri = .ok e) : ofUri e.baseUrl = .ok e :=
  (ofUri_normal found).ofUri_eq

/-- A URI with credentials, a usual port, dots and slashes in its path, a query and a fragment. -/
def crowdedUri : String :=
  "HTTPS://me:pw@[2001:DB8:0:0::1]:443//a/./b/../c%20\"d//e\\?q=1#f"

def crowded : Endpoint := { host := "[2001:db8::1]", port := 443, path := "a/c%20%22d//e" }

theorem crowded_found : ofUri crowdedUri = .ok crowded := eq_ok_of_toOption (by decide +kernel)

theorem ofUri_baseUrl_crowded :
    ofUri crowdedUri = .ok crowded ∧ ofUri crowded.baseUrl = .ok crowded :=
  ⟨crowded_found, ofUri_baseUrl crowded_found⟩

/-! ## Plain paths -/

theorem join_onServer (web : Web e.scheme) {s : List Char} {text : String}
    (verbatim : Verbatim text.toList) (relative : scheme? text.toList = none)
    (front : ∀ c ∈ text.toList.head?, c ≠ '/') :
    (e.onServer h (s ++ ['/'])).join text = .ok (e.onServer h (s ++ '/' :: text.toList)) := by
  have above : (e.onServer h (s ++ ['/'])).path =
      .segments ((Text.splitAt '/' s).map String.ofList ++ [""]) := by
    rw [onServer, Text.splitAt_append, List.map_append]
    rfl
  rw [join_verbatim web above rfl rfl verbatim relative front, onServer, onServer,
    Text.splitAt_append _ s text.toList, List.map_append]

theorem Plain.verbatim (plain : Plain path) : Verbatim path.toList := by
  have each : ∀ c ∈ path.toList,
      (Percent.inPath c = false ∧ c ≠ '\\') ∧ c.toLower ∉ ['.', '%'] := fun c member =>
    forall_plain (P := fun c => (Percent.inPath c = false ∧ c ≠ '\\') ∧ c.toLower ∉ ['.', '%'])
      (by decide) (plain c member)
  exact .of_plain (fun c member => (each c member).1) fun c member => (each c member).2

/-- A plain path leads to the place that it names below the path of the endpoint. -/
theorem apiUrl_locates (found : ofUri uri = .ok e) (plain : Plain path) :
    ∃ u, e.apiUrl path = .ok u ∧
      e.Locates ("/" ++ e.path ++ "/" ++ Text.withoutLeadingSlashes path) u := by
  have normal := ofUri_normal found
  obtain ⟨h, proper, host⟩ := normal.host
  have below := plain.withoutLeadingSlashes
  have joined := join_onServer (h := h) (s := e.path.toList) normal.web below.verbatim
    below.relative (head_withoutLeadingSlashes path)
  have located := locates_onServer proper host
    (e.path.toList ++ '/' :: (Text.withoutLeadingSlashes path).toList)
  have written : String.ofList
      ('/' :: (e.path.toList ++ '/' :: (Text.withoutLeadingSlashes path).toList)) =
        "/" ++ e.path ++ "/" ++ Text.withoutLeadingSlashes path := by
    apply String.toList_inj.mp
    simp
  exact ⟨_, apiUrl_of_join (normal.parse_baseUrl proper host) joined, written ▸ located⟩

theorem apiUrl_locates_crowded :
    ofUri crowdedUri = .ok crowded ∧ Plain "//sys/leases//renew-1_2/" ∧
      ∃ u, crowded.apiUrl "//sys/leases//renew-1_2/" = .ok u ∧
        crowded.Locates ("/" ++ crowded.path ++ "/" ++
          Text.withoutLeadingSlashes "//sys/leases//renew-1_2/") u := by
  have plain : Plain "//sys/leases//renew-1_2/" := forall_of_all (by decide)
  exact ⟨crowded_found, plain, apiUrl_locates crowded_found plain⟩

end Leasehold.Endpoint

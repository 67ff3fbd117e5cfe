import Leasehold.Proofs.Endpoint.Containment
import Leasehold.Proofs.Url.Authority

/-!
# Whether an endpoint names a server

The base URL of an endpoint is put together from its parts.  It is a URL exactly if
what is read of them as its authority names a server (`hasBase_iff_authority`).  For
a host without delimiters this is to be the host of a URL (`hasBase_iff_host`), as
the host of a URI is (`ofUri_hasBase`).  Against a base that is a URL every plain
path is resolved, against one that is none no path is (`hasBase_iff_plain`).
-/

set_option autoImplicit false

namespace Leasehold.Endpoint

open Url

variable {e : Endpoint} {uri path : String} {b : Url} {h : Host}

def HasBase (e : Endpoint) : Prop := ∃ b, Url.parse e.baseUrl = .ok b

/-! ## Hosts -/

theorem baseUrl_written (e : Endpoint) : e.baseUrl.toList =
    serverText e.scheme e.host.toList e.port
      (if e.path = "" then "" else e.path ++ "/" : String).toList := by
  simp only [baseUrl, serverText, String.toList_append, Text.toList_toString]
  simp

theorem hasBase_iff_authority (web : Web e.scheme) : e.HasBase ↔
    NamesServer (behindCredentials (authorityOf e.host.toList e.port)) :=
  parse_ok_iff web e.baseUrl_written

theorem parsed_of_host (web : Web e.scheme) (delimited : Delimited e.host.toList)
    (fits : e.port < 65536) (host : specialHost e.host.toList = .ok h) :
    ∃ b, Url.parse e.baseUrl = .ok b ∧ b.host = some h ∧ b.port = shownPort e.scheme e.port :=
  (parse_delimited web delimited fits e.baseUrl_written).1 h host

/-- A host without delimiters makes the base URL a URL if it is the host of one. -/
theorem hasBase_iff_host (web : Web e.scheme) (delimited : Delimited e.host.toList)
    (fits : e.port < 65536) : e.HasBase ↔ ∃ h, specialHost e.host.toList = .ok h := by
  constructor
  · rintro ⟨b, parsed⟩
    cases host : specialHost e.host.toList with
    | ok h => exact ⟨h, rfl⟩
    | error err =>
        cases ((parse_delimited web delimited fits e.baseUrl_written).2 err host).symm.trans parsed
  · rintro ⟨h, host⟩
    obtain ⟨b, parsed, -⟩ := parsed_of_host web delimited fits host
    exact ⟨b, parsed⟩

theorem usualPort?_lt {scheme : String} {p : Nat} (usual : usualPort? scheme = some p) :
    p < 65536 := by
  unfold usualPort? at usual
  repeat' split at usual
  all_goals cases usual
  all_goals decide

theorem ofUri_host (found : ofUri uri = .ok e) :
    ∃ h : Host, h.Proper ∧ e.host.toList = h.text ∧ e.port < 65536 := by
  obtain ⟨url, parsed, web, -, shown, port, -⟩ := ofUri_eq_ok_iff.mp found
  obtain ⟨⟨h, host, proper⟩, small⟩ := parse_serves parsed web
  refine ⟨h, proper, ?_, ?_⟩
  · unfold hostText? at shown
    rw [host] at shown
    dsimp only at shown
    split at shown
    · cases shown
    · rw [← Option.some.inj shown, String.toList_ofList]
  · unfold effectivePort? at port
    cases own : url.port with
    | some p =>
        rw [own] at port
        cases port
        exact small _ own
    | none =>
        rw [own] at port
        exact usualPort?_lt port

theorem ofUri_hasBase (found : ofUri uri = .ok e) : e.HasBase := by
  obtain ⟨h, proper, host, fits⟩ := ofUri_host found
  obtain ⟨b, parsed, -⟩ := parsed_of_host (ofUri_web found) (host ▸ proper.delimited) fits
    (host ▸ proper.read)
  exact ⟨b, parsed⟩

/-! ## Plain paths -/

/-- A path of letters, digits, hyphens and underscores between slashes. -/
def Plain (path : String) : Prop :=
  ∀ c ∈ path.toList, c.isAlphanum = true ∨ c ∈ ['-', '_', '/']

theorem ascii_of_isAlphanum {c : Char} (name : c.isAlphanum = true) : c.toNat < 128 := by
  have below {most : UInt32} (le : c.val ≤ most) (ascii : most.toNat < 128) : c.toNat < 128 :=
    Nat.lt_of_le_of_lt (UInt32.le_iff_toNat_le.mp le) ascii
  rcases Bool.or_eq_true_iff.mp name with letter | digit
  · rcases Bool.or_eq_true_iff.mp letter with upper | lower
    · exact below (of_decide_eq_true upper).2 (by decide)
    · exact below (of_decide_eq_true (Bool.and_eq_true_iff.mp lower).2) (by decide)
  · exact below (of_decide_eq_true (Bool.and_eq_true_iff.mp digit).2) (by decide)

/-- What holds of the characters of plain paths is checked one by one. -/
theorem forall_plain {P : Char → Prop} (each : ∀ n < 128,
    (Char.ofNat n).isAlphanum = true ∨ Char.ofNat n ∈ ['-', '_', '/'] → P (Char.ofNat n)) {c : Char}
    (plain : c.isAlphanum = true ∨ c ∈ ['-', '_', '/']) : P c := by
  have marks : ∀ d ∈ ['-', '_', '/'], d.toNat < 128 := forall_of_all (by decide)
  have ascii : c.toNat < 128 := plain.elim ascii_of_isAlphanum (marks c)
  rw [← Char.ofNat_toNat c] at plain ⊢
  exact each c.toNat ascii plain

theorem plain_chars {c : Char} (plain : c.isAlphanum = true ∨ c ∈ ['-', '_', '/']) :
    0x20 < c.toNat ∧ c ≠ ':' ∧ c ≠ '\\' :=
  forall_plain (P := fun c => 0x20 < c.toNat ∧ c ≠ ':' ∧ c ≠ '\\') (by decide) plain

theorem scheme?_of_plain {s : List Char} (plain : ':' ∉ s) : scheme? s = none := by
  unfold scheme?
  split
  · split
    · rename_i colon
      have behind : ':' ∈ List.dropWhile inScheme _ := colon ▸ List.mem_cons_self
      exact absurd ((List.dropWhile_suffix _).subset behind) plain
    · rfl
  · rfl

theorem Plain.relative (plain : Plain path) : scheme? path.toList = none :=
  scheme?_of_plain fun colon => (plain_chars (plain _ colon)).2.1 rfl

theorem Plain.withoutLeadingSlashes (plain : Plain path) :
    Plain (Text.withoutLeadingSlashes path) := by
  intro c member
  rw [Text.withoutLeadingSlashes, String.toList_ofList] at member
  exact plain c ((List.dropWhile_suffix _).subset member)

theorem head_withoutLeadingSlashes (path : String) :
    ∀ c ∈ (Text.withoutLeadingSlashes path).toList.head?, c ≠ '/' := by
  intro c head
  rw [Text.withoutLeadingSlashes, String.toList_ofList] at head
  rintro rfl
  cases Text.head_trimStart Text.isSlash path.toList '/' head

theorem reference_plain (plain : Plain path) : ∃ s, e.reference path = .on (.fromHere s) := by
  have behind := plain.withoutLeadingSlashes
  have first := head_withoutLeadingSlashes path
  unfold reference Reference.of
  rw [cleaned_of_shown fun c member => (plain_chars (behind c member)).1, behind.relative]
  dsimp only
  cases text : (Text.withoutLeadingSlashes path).toList with
  | nil => exact ⟨[], rfl⟩
  | cons c rest =>
      rw [text] at first
      have member : c ∈ (Text.withoutLeadingSlashes path).toList := text ▸ List.mem_cons_self
      have slash : readsSlash c = false := by
        simp [readsSlash, first c rfl, (plain_chars (behind c member)).2.2]
      exact ⟨c :: rest, congrArg Reference.on (Place.of_plain slash rest)⟩

/-- A plain path leads to a place on the server of the base. -/
theorem apiUrl_plain (built : Built e) (parsed : Url.parse e.baseUrl = .ok b) (plain : Plain path) :
    ∃ reached query fragment,
      e.apiUrl path = .ok { b with path := .segments reached, query, fragment } := by
  obtain ⟨scheme, base, segments, -⟩ := base_web built parsed
  have web : Web b.scheme := scheme ▸ built.web
  obtain ⟨s, here⟩ := reference_plain (e := e) plain
  obtain ⟨reached, leads⟩ :
      ∃ reached, (e.reference path).segments? e.scheme base = some reached := by
    rw [here]
    exact ⟨_, rfl⟩
  obtain ⟨query, fragment, joined⟩ := join_local web segments (by rw [scheme]; exact leads)
  exact ⟨reached, query, fragment, apiUrl_of_join parsed joined⟩

theorem apiUrl_unparsed {err : UrlError} (invalid : Url.parse e.baseUrl = .error err)
    (path : String) : e.apiUrl path =
      .error (.invalidRequest ("invalid API path " ++ path ++ ": " ++ err.message)) := by
  unfold apiUrl
  rw [invalid]
  rfl

theorem hasBase_iff_plain (built : Built e) :
    e.HasBase ↔ ∀ path, Plain path → ∃ u, e.apiUrl path = .ok u := by
  constructor
  · rintro ⟨b, parsed⟩ path plain
    obtain ⟨reached, query, fragment, found⟩ := apiUrl_plain built parsed plain
    exact ⟨_, found⟩
  · intro resolved
    cases parsed : Url.parse e.baseUrl with
    | ok b => exact ⟨b, parsed⟩
    | error err =>
        obtain ⟨u, found⟩ := resolved "" nofun
        cases (apiUrl_unparsed parsed "").symm.trans found

end Leasehold.Endpoint

import Leasehold.Proofs.Url.Host
import Leasehold.Proofs.Url.Resolution
import Mathlib.Data.List.TakeWhile

/-!
# Servers are read from their texts

The URL of a web server has a host that stands for itself, and a port of sixteen
bits (`parse_serves`).  A name and a port behind the scheme are a URL exactly if
what is read of them as the authority names a server (`parse_ok_iff`); a name
without delimiters is read as the server of that name, if it is one, whatever path
follows (`parse_delimited`).
-/

set_option autoImplicit false

namespace Leasehold.Url

variable {scheme : String} {s rest : List Char} {h : Host}

/-! ## The host at the front of an authority -/

theorem hostEnd_append {bracketed : Bool}
    (free : ∀ c ∈ s, c ≠ '[' ∧ c ≠ ']' ∧ (c = ':' → bracketed = true)) (rest : List Char) :
    hostEnd bracketed (s ++ rest) =
      (s ++ (hostEnd bracketed rest).1, (hostEnd bracketed rest).2) := by
  induction s with
  | nil => rfl
  | cons c s ih =>
      obtain ⟨opens, closes, colon⟩ := free c List.mem_cons_self
      have later := ih fun d member => free d (List.mem_cons_of_mem c member)
      rw [List.cons_append, hostEnd, if_neg, if_neg opens, if_neg closes, later]
      · rfl
      · rintro ⟨same, outside⟩
        simp [colon same] at outside

/-- The characters that are dropped, end a host, or end the authority around it. -/
def delimiters : List Char := ['\t', '\n', '\r', '/', '\\', '?', '#', '@', ':', '[', ']']

/-- A text that stands in an authority as its host, whether it is one or not. -/
structure Delimited (name : List Char) : Prop where
  nonempty : name ≠ []
  kept : ∀ c ∈ name, (!(['\t', '\n', '\r'].contains c)) = true
  inside : ∀ c ∈ name, endsAuthority true c = false ∧ c ≠ '@'
  ends : ∀ rest, hostEnd false (name ++ ':' :: rest) = (name, ':' :: rest)

theorem ne_of_free {c d : Char} (free : c ∉ delimiters) (delimits : d ∈ delimiters) : c ≠ d := by
  rintro rfl
  exact free delimits

theorem kept_of_free {c : Char} (free : c ∉ delimiters) :
    (!(['\t', '\n', '\r'].contains c)) = true := by
  have dropped : ∀ d ∈ ['\t', '\n', '\r'], d ∈ delimiters := forall_of_all (by decide)
  simp only [Bool.not_eq_true', List.contains_eq_mem, decide_eq_false_iff_not]
  exact fun member => free (dropped c member)

theorem inside_of_free {c : Char} (free : c ∉ delimiters) :
    endsAuthority true c = false ∧ c ≠ '@' := by
  have other {d : Char} (delimits : d ∈ delimiters) : (c == d) = false :=
    beq_eq_false_iff_ne.mpr (ne_of_free free delimits)
  refine ⟨?_, ne_of_free free (by decide)⟩
  unfold endsAuthority
  rw [other (by decide), other (by decide), other (by decide), other (by decide)]
  rfl

theorem Delimited.of_free {name : List Char} (nonempty : name ≠ [])
    (free : ∀ c ∈ name, c ∉ delimiters) : Delimited name := by
  refine ⟨nonempty, fun c member => kept_of_free (free c member),
    fun c member => inside_of_free (free c member), fun rest => ?_⟩
  have colon : hostEnd false (':' :: rest) = ([], ':' :: rest) := by simp [hostEnd]
  have unbracketed : ∀ c ∈ name, c ≠ '[' ∧ c ≠ ']' ∧ (c = ':' → false = true) := fun c member =>
    ⟨ne_of_free (free c member) (by decide), ne_of_free (free c member) (by decide),
      fun colon => absurd colon (ne_of_free (free c member) (by decide))⟩
  rw [hostEnd_append unbracketed, colon, List.append_nil]

theorem Delimited.bracketed {inside : List Char} (free : ∀ c ∈ inside, c = ':' ∨ c ∉ delimiters) :
    Delimited ('[' :: inside ++ [']']) := by
  have each {P : Char → Prop} (opens : P '[') (closes : P ']') (colon : P ':')
      (other : ∀ c, c ∉ delimiters → P c) : ∀ c ∈ '[' :: inside ++ [']'], P c := by
    intro c member
    rw [List.cons_append, List.mem_cons, List.mem_append, List.mem_singleton] at member
    rcases member with rfl | within | rfl
    · exact opens
    · rcases free c within with rfl | plain
      · exact colon
      · exact other c plain
    · exact closes
  refine ⟨List.cons_ne_nil _ _, each (by decide) (by decide) (by decide) fun c => kept_of_free,
    each (by decide) (by decide) (by decide) fun c => inside_of_free, fun rest => ?_⟩
  have unbracketed : ∀ c ∈ inside, c ≠ '[' ∧ c ≠ ']' ∧ (c = ':' → true = true) := by
    intro c member
    rcases free c member with rfl | plain
    · decide
    · exact ⟨ne_of_free plain (by decide), ne_of_free plain (by decide), fun _ => rfl⟩
  have closing : hostEnd true (']' :: ':' :: rest) = ([']'], ':' :: rest) := by simp [hostEnd]
  rw [List.cons_append, List.cons_append, List.append_assoc, List.singleton_append, hostEnd,
    if_neg (by simp), if_pos rfl, hostEnd_append unbracketed, closing]

theorem free_of_allowed {c : Char} (allowed : Domain.forbidden c = false) : c ∉ delimiters := by
  have refused : ∀ d ∈ delimiters, Domain.forbidden d = true := forall_of_all (by decide)
  intro member
  cases (refused c member).symm.trans allowed

theorem free_of_digit {c : Char} (digit : c.isDigit = true) : c ∉ delimiters :=
  free_of_allowed (Domain.plain_of_isDigit digit).2.1

theorem Host.Proper.nonempty (proper : h.Proper) : h.text ≠ [] := by
  cases proper with
  | domain n valid nonempty word => rwa [Host.text, String.toList_ofList]
  | ipv4 a fits => simp [Host.text, Address.ipv4Text]
  | ipv6 ps eight small => exact List.cons_ne_nil _ _

theorem Host.Proper.delimited (proper : h.Proper) : Delimited h.text := by
  have name {s : List Char} (valid : Domain.valid s = true) : ∀ c ∈ s, c ∉ delimiters :=
    fun c member => free_of_allowed (Domain.chars_of_valid valid c member).2.1
  cases proper with
  | domain n valid nonempty word =>
      rw [Host.text, String.toList_ofList]
      exact .of_free nonempty (name valid)
  | ipv4 a fits =>
      exact .of_free (Host.Proper.ipv4 a fits).nonempty (name (Domain.valid_ipv4Text a))
  | ipv6 ps eight small =>
      refine .bracketed fun c member => ?_
      have digits : ∀ d < 16, Address.hexChar d ∉ delimiters := by decide
      rcases Address.mem_ipv6Text member with colon | ⟨d, digit, rfl⟩
      · exact Or.inl colon
      · exact Or.inr (digits d digit)

/-! ## The port behind it -/

theorem le_ofDigitChars (ds : List Char) (n : Nat) : n ≤ Nat.ofDigitChars 10 ds n := by
  induction ds generalizing n with
  | nil => exact Nat.le_refl n
  | cons c ds ih =>
      rw [Nat.ofDigitChars_cons]
      exact Nat.le_trans (by omega) (ih _)

theorem portNumber_eq {ds : List Char} {n : Nat} (fits : Nat.ofDigitChars 10 ds n ≤ 65535) :
    portNumber n ds = some (Nat.ofDigitChars 10 ds n) := by
  induction ds generalizing n with
  | nil => rfl
  | cons c ds ih =>
      rw [Nat.ofDigitChars_cons, Nat.mul_comm 10 n] at fits ⊢
      have step : n * 10 + (c.toNat - 48) ≤ 65535 := Nat.le_trans (le_ofDigitChars ds _) fits
      unfold portNumber
      dsimp only
      rw [if_pos step]
      exact ih fits

theorem portNumber_lt {ds : List Char} {n p : Nat} (small : n ≤ 65535)
    (read : portNumber n ds = some p) : p < 65536 := by
  induction ds generalizing n with
  | nil =>
      cases read
      exact Nat.lt_succ_of_le small
  | cons c ds ih =>
      unfold portNumber at read
      dsimp only at read
      split at read
      · exact ih ‹_› read
      · cases read

/-- A port is absent where it is the usual one. -/
def shownPort (scheme : String) (p : Nat) : Option Nat :=
  if usualPort? scheme = some p then none else some p

theorem isDigit_of_digit {c : Char} (digit : c.isDigit = true) : isDigit c = true := by
  simpa [Char.isDigit, isDigit, Char.le_def] using digit

theorem readPort_toDigits {p : Nat} (fits : p < 65536) :
    readPort scheme (Nat.toDigits 10 p) = .ok (shownPort scheme p, []) := by
  have digits : ∀ c ∈ Nat.toDigits 10 p, isDigit c = true :=
    fun c member => isDigit_of_digit (Text.isDigit_of_mem member)
  have value : portNumber 0 (Nat.toDigits 10 p) = some p := by
    have same := Nat.ofDigitChars_ten_toDigits (n := p)
    rw [portNumber_eq (by omega), same]
  have nonempty : (Nat.toDigits 10 p).isEmpty = false :=
    List.isEmpty_eq_false_iff.mpr Nat.toDigits_ne_nil
  unfold readPort
  dsimp only
  rw [List.dropWhile_eq_nil_iff.mpr digits, List.takeWhile_eq_self_iff.mpr digits]
  dsimp only
  unfold readPort.finish shownPort
  rw [value, nonempty]
  simp only [Bool.false_eq_true, false_or]
  split <;> rfl

theorem readPort_lt {answer : Option Nat × List Char} (read : readPort scheme s = .ok answer) :
    ∀ p ∈ answer.1, p < 65536 := by
  have finished {digits rest : List Char} (read : readPort.finish scheme digits rest = .ok answer) :
      ∀ p ∈ answer.1, p < 65536 := by
    unfold readPort.finish at read
    split at read
    · cases read
    · rename_i n value
      split at read
      · cases read
        exact nofun
      · cases read
        rintro p ⟨⟩
        exact portNumber_lt (by decide) value
  unfold readPort at read
  dsimp only at read
  split at read
  · split at read
    · exact finished read
    · cases read
  · exact finished read

theorem portNumber_eq_some {ds : List Char} {n p : Nat} (read : portNumber n ds = some p) :
    p = Nat.ofDigitChars 10 ds n := by
  induction ds generalizing n with
  | nil => exact (Option.some.inj read).symm
  | cons c ds ih =>
      unfold portNumber at read
      dsimp only at read
      split at read
      · rw [Nat.ofDigitChars_cons, Nat.mul_comm]
        exact ih read
      · cases read

theorem readPort_ok_iff (plain : '\\' ∉ s) :
    (∃ answer, readPort scheme s = .ok answer) ↔
      (∀ c ∈ s, isDigit c = true) ∧ Nat.ofDigitChars 10 s 0 < 65536 := by
  constructor
  · rintro ⟨answer, read⟩
    unfold readPort at read
    dsimp only at read
    split at read
    · rename_i c rest behind
      have member : c ∈ s := (List.dropWhile_suffix isDigit).subset (behind ▸ List.mem_cons_self)
      have other : c ≠ '\\' := fun backslash => plain (backslash ▸ member)
      rw [if_neg other] at read
      cases read
    · rename_i whole
      have digits := List.dropWhile_eq_nil_iff.mp whole
      rw [List.takeWhile_eq_self_iff.mpr digits] at read
      unfold readPort.finish at read
      cases value : portNumber 0 s with
      | none =>
          rw [value] at read
          cases read
      | some n => exact ⟨digits, portNumber_eq_some value ▸ portNumber_lt (by decide) value⟩
  · rintro ⟨digits, fits⟩
    unfold readPort
    dsimp only
    rw [List.dropWhile_eq_nil_iff.mpr digits, List.takeWhile_eq_self_iff.mpr digits]
    unfold readPort.finish
    rw [portNumber_eq (Nat.le_of_lt_succ fits)]
    dsimp only
    split <;> exact ⟨_, rfl⟩

def portBehind (scheme : String) : List Char → Except UrlError (Option Nat × List Char)
  | ':' :: digits => readPort scheme digits
  | s => .ok (none, s)

theorem portBehind_colon (digits : List Char) :
    portBehind scheme (':' :: digits) = readPort scheme digits := rfl

theorem portBehind_of_ne (other : ∀ digits, s ≠ ':' :: digits) :
    portBehind scheme s = .ok (none, s) := by
  unfold portBehind
  split
  · exact absurd rfl (other _)
  · rfl

theorem portBehind_ok_iff (plain : '\\' ∉ s) :
    (∃ answer, portBehind scheme s = .ok answer) ↔ ∀ digits, s = ':' :: digits →
      (∀ c ∈ digits, isDigit c = true) ∧ Nat.ofDigitChars 10 digits 0 < 65536 := by
  by_cases colon : ∃ digits, s = ':' :: digits
  · obtain ⟨digits, rfl⟩ := colon
    rw [portBehind_colon, readPort_ok_iff fun member => plain (List.mem_cons_of_mem _ member)]
    simp
  · have other := not_exists.mp colon
    rw [portBehind_of_ne other]
    exact ⟨fun _ digits same => absurd same (other digits), fun _ => ⟨_, rfl⟩⟩

theorem portBehind_lt {answer : Option Nat × List Char}
    (read : portBehind scheme s = .ok answer) : ∀ p ∈ answer.1, p < 65536 := by
  unfold portBehind at read
  split at read
  · exact readPort_lt read
  · cases read
    exact nofun

/-! ## Authorities -/

def credentialsPart (authority : List Char) : List Char :=
  ((splitCredentials authority).getD ([], authority)).1

def behindCredentials (authority : List Char) : List Char :=
  ((splitCredentials authority).getD ([], authority)).2

theorem behindCredentials_subset (authority : List Char) :
    behindCredentials authority ⊆ authority := by
  unfold behindCredentials splitCredentials
  dsimp only
  split
  · exact List.Subset.refl _
  · intro c member
    exact List.mem_reverse.mp ((List.takeWhile_prefix _).subset (List.mem_reverse.mp member))

theorem hostEnd_whole (bracketed : Bool) (s : List Char) :
    (hostEnd bracketed s).1 ++ (hostEnd bracketed s).2 = s := by
  fun_induction hostEnd bracketed s with
  | case1 => rfl
  | case2 => rfl
  | case3 bracketed c cs stops h rest split ih =>
      rw [split] at ih
      exact congrArg (c :: ·) ih

/-- The authority of a web server is read in two steps, its host and its port.  The other checks
refuse an empty host, which is no host anyway. -/
theorem readAuthority_web (web : Web scheme) (s : List Char) :
    readAuthority scheme s =
      (specialHost (hostEnd false (behindCredentials (splitAuthority true s).1)).1).bind fun h =>
        (portBehind scheme (hostEnd false (behindCredentials (splitAuthority true s).1)).2).map
          fun behind =>
            ({ scheme
               username := (credentials (credentialsPart (splitAuthority true s).1)).1
               password := (credentials (credentialsPart (splitAuthority true s).1)).2
               host := some h
               port := behind.1 }, behind.2 ++ (splitAuthority true s).2) := by
  unfold readAuthority behindCredentials credentialsPart
  rw [special_of_web web]
  simp only [bind, Except.bind, pure, Except.pure, throw, throwThe, MonadExceptOf.throw,
    Bool.true_and, if_true]
  generalize (splitCredentials (splitAuthority true s).1).getD ([], (splitAuthority true s).1) =
    sides
  obtain ⟨userinfo, server⟩ := sides
  dsimp only
  have whole := hostEnd_whole false server
  cases ends : hostEnd false server with
  | mk name tail =>
      rw [ends] at whole
      dsimp only at whole ⊢
      cases name with
      | nil =>
          have nameless : specialHost [] = .error .emptyHost := rfl
          rw [nameless]
          simp
      | cons c name =>
          rw [← whole]
          simp only [List.cons_append, List.isEmpty_cons, Bool.and_false, Bool.false_and,
            Bool.false_eq_true, if_false]
          cases found : specialHost (c :: name) with
          | error err => rfl
          | ok h =>
              have some : h ≠ .domain "" := by
                rintro rfl
                exact (specialHost_proper found).nonempty rfl
              simp only [some, decide_false, Bool.false_and, Bool.false_eq_true, if_false]
              split
              · rw [portBehind_colon]
                cases readPort scheme _ <;> rfl
              · rename_i other
                rw [portBehind_of_ne other]
                rfl

theorem readAuthority_eq_ok (web : Web scheme) {answer : Url × List Char}
    (read : readAuthority scheme s = .ok answer) :
    ∃ h port,
      specialHost (hostEnd false (behindCredentials (splitAuthority true s).1)).1 = .ok h ∧
      portBehind scheme (hostEnd false (behindCredentials (splitAuthority true s).1)).2 = .ok port ∧
      answer.1.host = some h ∧ answer.1.port = port.1 := by
  rw [readAuthority_web web] at read
  cases found : specialHost (hostEnd false (behindCredentials (splitAuthority true s).1)).1 with
  | error err =>
      rw [found] at read
      cases read
  | ok h =>
      rw [found, Except.bind] at read
      cases behind : portBehind scheme
          (hostEnd false (behindCredentials (splitAuthority true s).1)).2 with
      | error err =>
          rw [behind] at read
          cases read
      | ok port =>
          rw [behind] at read
          cases read
          exact ⟨h, port, rfl, rfl, rfl, rfl⟩

/-- A host, and digits behind a colon that write a port of sixteen bits, if there is one. -/
structure NamesServer (s : List Char) : Prop where
  host : ∃ h, specialHost (hostEnd false s).1 = .ok h
  port : ∀ digits, (hostEnd false s).2 = ':' :: digits →
    (∀ c ∈ digits, isDigit c = true) ∧ Nat.ofDigitChars 10 digits 0 < 65536

theorem readAuthority_ok_iff (web : Web scheme) :
    (∃ answer, readAuthority scheme s = .ok answer) ↔
      NamesServer (behindCredentials (splitAuthority true s).1) := by
  have plain : '\\' ∉ (hostEnd false (behindCredentials (splitAuthority true s).1)).2 := by
    intro member
    have within := hostEnd_whole false (behindCredentials (splitAuthority true s).1) ▸
      List.mem_append_right _ member
    have inside := List.mem_takeWhile_imp (behindCredentials_subset _ within)
    simp [endsAuthority] at inside
  constructor
  · rintro ⟨answer, read⟩
    obtain ⟨h, port, found, behind, -⟩ := readAuthority_eq_ok web read
    exact ⟨⟨h, found⟩, (portBehind_ok_iff plain).mp ⟨port, behind⟩⟩
  · rintro ⟨⟨h, found⟩, port⟩
    obtain ⟨behind, read⟩ := (portBehind_ok_iff plain).mpr port
    rw [readAuthority_web web, found, Except.bind, read]
    exact ⟨_, rfl⟩

def server (scheme : String) (h : Host) (p : Nat) : Url :=
  { scheme, host := some h, port := shownPort scheme p }

theorem readAuthority_delimited (web : Web scheme) {name : List Char} (delimited : Delimited name)
    {p : Nat} (fits : p < 65536) (rest : List Char) :
    readAuthority scheme (name ++ ':' :: Nat.toDigits 10 p ++ '/' :: rest) =
      (specialHost name).map fun h => (server scheme h p, '/' :: rest) := by
  have inside : ∀ c ∈ name ++ ':' :: Nat.toDigits 10 p, endsAuthority true c = false ∧ c ≠ '@' := by
    intro c member
    rcases List.mem_append.mp member with host | port
    · exact delimited.inside c host
    · rcases List.mem_cons.mp port with rfl | digit
      · decide
      · exact inside_of_free (free_of_digit (Text.isDigit_of_mem digit))
  have split : splitAuthority true (name ++ ':' :: Nat.toDigits 10 p ++ '/' :: rest) =
      (name ++ ':' :: Nat.toDigits 10 p, '/' :: rest) := by
    have each : ∀ c ∈ name ++ ':' :: Nat.toDigits 10 p, (!endsAuthority true c) = true :=
      fun c member => by rw [(inside c member).1]; rfl
    unfold splitAuthority
    rw [List.takeWhile_append_of_pos each, List.dropWhile_append_of_pos each]
    simp [endsAuthority]
  have anonymous : splitCredentials (name ++ ':' :: Nat.toDigits 10 p) = none := by
    have each : ∀ c ∈ (name ++ ':' :: Nat.toDigits 10 p).reverse, (c != '@') = true :=
      fun c member => bne_iff_ne.mpr (inside c (List.mem_reverse.mp member)).2
    unfold splitCredentials
    dsimp only
    rw [List.takeWhile_eq_self_iff.mpr each, List.reverse_reverse, if_pos rfl]
  have nobody : credentials [] = ("", "") := by decide
  rw [readAuthority_web web, split]
  unfold behindCredentials credentialsPart
  simp only [anonymous, Option.getD_none, delimited.ends, nobody, portBehind_colon,
    readPort_toDigits fits]
  cases specialHost name <;> rfl

/-! ## Whole URLs -/

structure Serves (u : Url) : Prop where
  host : ∃ h, u.host = some h ∧ h.Proper
  port : ∀ p ∈ u.port, p < 65536

theorem readAuthority_serves (web : Web scheme) {u : Url}
    (read : readAuthority scheme s = .ok (u, rest)) : u.Serves := by
  obtain ⟨h, port, found, behind, host, number⟩ := readAuthority_eq_ok web read
  refine ⟨⟨h, host, specialHost_proper found⟩, ?_⟩
  rw [number]
  exact portBehind_lt behind

theorem readBelow_scheme {u : Url} (read : readBelow scheme s = .ok u) : u.scheme = scheme := by
  obtain ⟨server, rest, query, fragment, authority, rfl⟩ := readBelow_eq read
  have same : server.scheme = scheme := readAuthority_scheme authority
  exact same

theorem readBelow_serves (web : Web scheme) {u : Url} (read : readBelow scheme s = .ok u) :
    u.Serves := by
  obtain ⟨server, rest, query, fragment, authority, rfl⟩ := readBelow_eq read
  obtain ⟨host, port⟩ := readAuthority_serves web authority
  exact ⟨host, port⟩

theorem fileUrl_scheme (host : Host) (segments : List String) (rest : List Char) :
    (fileUrl host segments rest).scheme = "file" := by
  unfold fileUrl
  dsimp only
  obtain ⟨query, fragment, same⟩ := readTail_eq _ rest
  rw [same]

theorem readFile_scheme {u : Url} (read : readFile s = .ok u) : u.scheme = "file" := by
  unfold readFile at read
  simp only [bind, Except.bind, pure, Except.pure] at read
  repeat' split at read
  all_goals cases read
  all_goals exact fileUrl_scheme _ _ _

theorem readScheme_web {u : Url} (read : readScheme scheme s = .ok u) (web : Web u.scheme) :
    Web scheme ∧ ∃ below, readBelow scheme below = .ok u := by
  have same (path : Path) (rest : List Char) :
      (readTail { scheme, path } rest).scheme = scheme := by
    obtain ⟨query, fragment, tail⟩ := readTail_eq { scheme, path } rest
    rw [tail]
  unfold readScheme at read
  split at read
  · rw [readFile_scheme read] at web
    exact absurd web (by unfold Web; decide)
  split at read
  · exact ⟨readBelow_scheme read ▸ web, _, read⟩
  rename_i plain
  split at read
  · exact ⟨readBelow_scheme read ▸ web, _, read⟩
  · cases read
    rw [same] at web
    exact absurd (special_of_web web) plain
  · cases read
    rw [same] at web
    exact absurd (special_of_web web) plain

theorem parse_serves {text : String} {u : Url} (parsed : parse text = .ok u) (web : Web u.scheme) :
    u.Serves := by
  unfold parse at parsed
  split at parsed
  · obtain ⟨web, below, read⟩ := readScheme_web parsed web
    exact readBelow_serves web read
  · cases parsed

def serverText (scheme : String) (name : List Char) (p : Nat) (path : List Char) : List Char :=
  scheme.toList ++ ':' :: '/' :: '/' :: (name ++ ':' :: Nat.toDigits 10 p ++ '/' :: path)

section Servers

variable {name path : List Char} {p : Nat} {text : String}

/-- A server is read as it stands, without what is dropped, and so is the path behind it if all of
it shows. -/
theorem cleaned_serverText (web : Web scheme)
    (written : text.toList = serverText scheme name p path) :
    ∃ rest, cleaned text =
        serverText scheme (name.filter fun c => !(['\t', '\n', '\r'].contains c)) p rest ∧
      ((∀ c ∈ path, 0x20 < c.toNat) → rest = path) := by
  have ahead : text.toList = scheme.toList ++ ':' :: '/' :: '/' ::
      (name ++ ':' :: Nat.toDigits 10 p) ++ '/' :: path := by simpa [serverText] using written
  have shown := shown_of_web web
  have first : ∀ c ∈ (scheme.toList ++ ':' :: '/' :: '/' ::
      (name ++ ':' :: Nat.toDigits 10 p)).head?, 0x20 < c.toNat := by
    intro c head
    rw [List.head?_append] at head
    cases front : scheme.toList.head? with
    | some d =>
        rw [front] at head
        cases head
        exact shown c (List.mem_of_head? front)
    | none =>
        rw [front] at head
        cases head
        decide
  have named := List.filter_eq_self.mpr fun c member => kept_of_shown (shown c member)
  have digits := List.filter_eq_self.mpr fun c member =>
    kept_of_free (free_of_digit (Text.isDigit_of_mem (n := p) member))
  obtain ⟨rest, cleaned, same⟩ := cleaned_append ahead first (by decide)
  refine ⟨rest, ?_, same⟩
  rw [cleaned, List.filter_append, named, List.filter_cons_of_pos (by decide),
    List.filter_cons_of_pos (by decide), List.filter_cons_of_pos (by decide), List.filter_append,
    List.filter_cons_of_pos (by decide), digits]
  simp [serverText]

theorem parse_serverText (web : Web scheme) (delimited : Delimited name) (fits : p < 65536)
    (read : cleaned text = serverText scheme name p path) :
    parse text = (specialHost name).map fun h =>
      readTail { server scheme h p with path := .segments (readSegments scheme [] [] path).1 }
        (readSegments scheme [] [] path).2 := by
  have host : (name ++ ':' :: Nat.toDigits 10 p ++ '/' :: path).dropWhile
      (fun c => c == '/' || c == '\\') = name ++ ':' :: Nat.toDigits 10 p ++ '/' :: path := by
    obtain ⟨c, cs, same⟩ := List.exists_cons_of_ne_nil delimited.nonempty
    have inside := (delimited.inside c (same ▸ List.mem_cons_self)).1
    rw [same]
    refine List.dropWhile_cons_of_neg ?_
    show ¬ (c == '/' || c == '\\') = true
    simp only [endsAuthority, Bool.true_and, Bool.or_eq_false_iff] at inside
    rw [inside.1.1.1, inside.2]
    decide
  have root : readPath scheme ('/' :: path) = readSegments scheme [] [] path := by simp [readPath]
  unfold parse
  rw [read, serverText, scheme?_web web]
  dsimp only
  unfold readScheme
  rw [if_neg (not_file_of_web web), if_pos (special_of_web web), List.dropWhile_cons_of_pos rfl,
    List.dropWhile_cons_of_pos rfl, host]
  unfold readBelow
  rw [readAuthority_delimited web delimited fits]
  cases specialHost name with
  | error err => rfl
  | ok h =>
      rw [← root]
      rfl

theorem parse_delimited (web : Web scheme) (delimited : Delimited name) (fits : p < 65536)
    (written : text.toList = serverText scheme name p path) :
    (∀ h, specialHost name = .ok h →
        ∃ b, parse text = .ok b ∧ b.host = some h ∧ b.port = shownPort scheme p) ∧
      ∀ err, specialHost name = .error err → parse text = .error err := by
  obtain ⟨rest, cleaned, -⟩ := cleaned_serverText web written
  rw [List.filter_eq_self.mpr delimited.kept] at cleaned
  have read := parse_serverText web delimited fits cleaned
  constructor
  · intro h found
    obtain ⟨query, fragment, tail⟩ := readTail_eq
      { server scheme h p with path := .segments (readSegments scheme [] [] rest).1 }
      (readSegments scheme [] [] rest).2
    rw [found] at read
    exact ⟨_, read.trans (congrArg Except.ok tail), rfl, rfl⟩
  · intro err refused
    rw [read, refused]
    rfl

/-- The authority that a host and a port make behind a scheme, whatever stands in the host. -/
def authorityOf (name : List Char) (p : Nat) : List Char :=
  let shown := name.filter fun c => !(['\t', '\n', '\r'].contains c)
  (splitAuthority true
    ((shown ++ ':' :: Nat.toDigits 10 p).dropWhile fun c => c == '/' || c == '\\')).1

theorem takeWhile_append_stop {q : Char → Bool} {c : Char} (stops : q c = false)
    (front rest : List Char) : (front ++ c :: rest).takeWhile q = front.takeWhile q := by
  induction front with
  | nil => exact List.takeWhile_cons_of_neg (Bool.eq_false_iff.mp stops)
  | cons d front ih =>
      rw [List.cons_append, List.takeWhile_cons, List.takeWhile_cons, ih]

theorem readBelow_ok_iff : (∃ u, readBelow scheme s = .ok u) ↔
    ∃ answer, readAuthority scheme s = .ok answer := by
  constructor
  · rintro ⟨u, read⟩
    obtain ⟨server, rest, -, -, authority, -⟩ := readBelow_eq read
    exact ⟨_, authority⟩
  · rintro ⟨answer, authority⟩
    unfold readBelow
    rw [authority]
    exact ⟨_, rfl⟩

/-- Behind a scheme, a host and a port are a URL exactly if their authority names a server. -/
theorem parse_ok_iff (web : Web scheme) (written : text.toList = serverText scheme name p path) :
    (∃ b, parse text = .ok b) ↔ NamesServer (behindCredentials (authorityOf name p)) := by
  obtain ⟨rest, cleaned, -⟩ := cleaned_serverText web written
  have stops (shown : List Char) :
      (shown ++ ':' :: Nat.toDigits 10 p ++ '/' :: rest).dropWhile
          (fun c => c == '/' || c == '\\') =
        (shown ++ ':' :: Nat.toDigits 10 p).dropWhile (fun c => c == '/' || c == '\\') ++
          '/' :: rest := by
    refine (List.dropWhile_append ..).trans (if_neg fun none => ?_)
    have all := List.dropWhile_eq_nil_iff.mp (List.isEmpty_iff.mp none)
    cases all ':' (List.mem_append_right _ List.mem_cons_self)
  unfold parse
  rw [cleaned, serverText, scheme?_web web]
  dsimp only
  unfold readScheme
  rw [if_neg (not_file_of_web web), if_pos (special_of_web web), List.dropWhile_cons_of_pos rfl,
    List.dropWhile_cons_of_pos rfl, readBelow_ok_iff, readAuthority_ok_iff web, stops]
  unfold authorityOf splitAuthority
  dsimp only
  rw [takeWhile_append_stop rfl]

end Servers

end Leasehold.Url

import Leasehold.Proofs.Text.Trim
import Leasehold.Proofs.Url.Path

/-!
# Where a reference leads

A text that is read relative to the URL of a web server is a URL of its own, or
names a server, or a place on the server of the base: from the root, or from
where the base is (`Reference`).  The places keep to the server of the base
(`join_local`); the rest is read without a look at it (`join_elsewhere`).
-/

set_option autoImplicit false

namespace Leasehold.Url

def Web (scheme : String) : Prop := scheme = "http" ∨ scheme = "https"

inductive Place where
  | server (s : List Char)
  | fromRoot (s : List Char)
  | fromHere (s : List Char)

inductive Reference where
  | whole (scheme : String) (s : List Char)
  | on (place : Place)

def Place.behindSlash (c : Char) : List Char → Place
  | [] => .fromRoot []
  | d :: rest =>
      if readsSlash d then
        .server (if c = '/' ∧ d = '/' then rest else rest.dropWhile readsSlash)
      else .fromRoot (d :: rest)

def Place.of : List Char → Place
  | [] => .fromHere []
  | c :: rest => if readsSlash c then .behindSlash c rest else .fromHere (c :: rest)

/-- The scheme of the base, without two slashes behind it, counts for nothing. -/
def Reference.of (scheme : String) (s : List Char) : Reference :=
  match scheme? s with
  | none => .on (.of s)
  | some (own, rest) =>
      if (rest.takeWhile readsSlash).length < 2 ∧ own = scheme then .on (.of rest)
      else .whole own rest

def pathless : List Char → Bool
  | [] => true
  | c :: _ => c == '?' || c == '#'

/-- The segments to which a place leads from those of the base, on its server. -/
def Place.segments? (scheme : String) (base : List String) : Place → Option (List String)
  | .server _ => none
  | .fromRoot s => some (walk scheme [] (writtenNames s))
  | .fromHere s =>
      some (if pathless s then base else walk scheme base.dropLast (writtenNames s))

def Reference.segments? (scheme : String) (base : List String) : Reference → Option (List String)
  | .whole _ _ => none
  | .on place => place.segments? scheme base

variable {scheme : String} {segments : List String} {s : List Char}

theorem special_of_web (web : Web scheme) : specialScheme scheme = true := by
  rcases web with rfl | rfl <;> decide

theorem not_file_of_web (web : Web scheme) : scheme ≠ "file" := by
  rcases web with rfl | rfl <;> decide

theorem Place.segments?_slashless {place : Place} {reached : List String}
    (plain : Slashless segments) (leads : place.segments? scheme segments = some reached) :
    Slashless reached := by
  cases place with
  | server s => cases leads
  | fromRoot s =>
      cases leads
      exact Slashless.nil.walk s
  | fromHere s =>
      rw [Place.segments?] at leads
      cases leads
      split
      · exact plain
      · have above : Slashless segments.dropLast := fun x member =>
          plain x ((List.dropLast_sublist segments).subset member)
        exact above.walk s

theorem Reference.segments?_slashless {reference : Reference} {reached : List String}
    (plain : Slashless segments) (leads : reference.segments? scheme segments = some reached) :
    Slashless reached := by
  cases reference with
  | whole own rest => cases leads
  | on place => exact Place.segments?_slashless plain leads

/-! ## What a base is read as -/

theorem readTail_eq (u : Url) (s : List Char) :
    ∃ query fragment, readTail u s = { u with query, fragment } := by
  unfold readTail
  dsimp only
  split
  · split <;> exact ⟨_, _, rfl⟩
  · exact ⟨_, _, rfl⟩
  · exact ⟨_, _, rfl⟩

theorem readAuthority_scheme {u : Url} {rest : List Char}
    (read : readAuthority scheme s = .ok (u, rest)) : u.scheme = scheme := by
  unfold readAuthority at read
  simp only [bind, Except.bind, pure, Except.pure, throw, throwThe, MonadExceptOf.throw] at read
  repeat' split at read
  all_goals cases read
  all_goals rfl

theorem readPath_written (web : Web scheme) (s : List Char) :
    ∃ rest, (readPath scheme s).1 = walk scheme [] (writtenNames rest) := by
  have special := special_of_web web
  unfold readPath
  dsimp only
  split
  · refine ⟨[], ?_⟩
    rw [if_pos special]
    simp [writtenNames, names, walk, addSegment, Percent.encode, isDoubleDot, isSingleDot, isDrive]
  · rename_i c cs
    split
    · exact ⟨cs, readSegments_written special [] cs⟩
    · rw [if_neg (by simp [special])]
      exact ⟨c :: cs, readSegments_written special [] (c :: cs)⟩

theorem readBelow_eq {u : Url} (read : readBelow scheme s = .ok u) :
    ∃ server rest query fragment, readAuthority scheme s = .ok (server, rest) ∧
      u = { server with path := .segments (readPath scheme rest).1, query, fragment } := by
  unfold readBelow at read
  simp only [bind, Except.bind, pure, Except.pure] at read
  split at read
  · cases read
  rename_i answer authority
  obtain ⟨server, rest⟩ := answer
  obtain ⟨query, fragment, same⟩ := readTail_eq
    { server with path := .segments (readPath scheme rest).1 } (readPath scheme rest).2
  dsimp only at read
  rw [same] at read
  cases read
  exact ⟨server, rest, query, fragment, authority, rfl⟩

theorem readBelow_walks (web : Web scheme) {u : Url} (read : readBelow scheme s = .ok u) :
    u.scheme = scheme ∧ ∃ path, u.path = .segments (walk scheme [] (writtenNames path)) := by
  obtain ⟨server, rest, query, fragment, authority, rfl⟩ := readBelow_eq read
  obtain ⟨path, written⟩ := readPath_written web rest
  have same : server.scheme = scheme := readAuthority_scheme authority
  exact ⟨same, path, congrArg Path.segments written⟩

theorem readBelow_web (web : Web scheme) {u : Url} (read : readBelow scheme s = .ok u) :
    u.scheme = scheme ∧ ∃ segments, u.path = .segments segments ∧ segments ≠ [] ∧
      Slashless segments := by
  obtain ⟨same, path, walked⟩ := readBelow_walks web read
  exact ⟨same, _, walked, walk_ne_nil (writtenNames_ne_nil path), Slashless.nil.walk path⟩

theorem forall_of_all {P : Char → Prop} [DecidablePred P] {l : List Char}
    (all : l.all (fun c => decide (P c)) = true) : ∀ c ∈ l, P c :=
  fun c member => of_decide_eq_true (List.all_eq_true.mp all c member)

theorem kept_of_shown {c : Char} (shown : 0x20 < c.toNat) :
    (!(['\t', '\n', '\r'].contains c)) = true := by
  have blank : ∀ d ∈ ['\t', '\n', '\r'], d.toNat ≤ 0x20 := forall_of_all (by decide)
  simp only [Bool.not_eq_true', List.contains_eq_mem, decide_eq_false_iff_not]
  exact fun member => Nat.not_lt.mpr (blank c member) shown

theorem not_low_of_shown {s : List Char} (shown : ∀ c ∈ s.head?, 0x20 < c.toNat) :
    ∀ c ∈ s.head?, decide (c.toNat ≤ 0x20) = false :=
  fun c head => decide_eq_false (Nat.not_le.mpr (shown c head))

theorem filter_trimEnd_of_shown {s : List Char} (shown : ∀ c ∈ s, 0x20 < c.toNat) :
    (Text.trimEnd (fun c => c.toNat ≤ 0x20) s).filter
      (fun c => !(['\t', '\n', '\r'].contains c)) = s := by
  have last : ∀ c ∈ s.reverse.head?, 0x20 < c.toNat :=
    fun c member => shown c (List.mem_reverse.mp (List.mem_of_head? member))
  rw [Text.trimEnd_eq_self (not_low_of_shown last)]
  exact List.filter_eq_self.mpr fun c member => kept_of_shown (shown c member)

theorem cleaned_of_shown {text : String} (shown : ∀ c ∈ text.toList, 0x20 < c.toNat) :
    cleaned text = text.toList := by
  have first : ∀ c ∈ text.toList.head?, 0x20 < c.toNat :=
    fun c member => shown c (List.mem_of_head? member)
  unfold cleaned Text.trim
  rw [Text.trimStart_eq_self (not_low_of_shown first), filter_trimEnd_of_shown shown]

theorem cleaned_append {text : String} {front path : List Char} {c : Char}
    (written : text.toList = front ++ c :: path) (first : ∀ d ∈ front.head?, 0x20 < d.toNat)
    (visible : 0x20 < c.toNat) :
    ∃ rest, cleaned text =
        front.filter (fun d => !(['\t', '\n', '\r'].contains d)) ++ c :: rest ∧
      ((∀ d ∈ path, 0x20 < d.toNat) → rest = path) := by
  have shown : ∀ d ∈ text.toList.head?, 0x20 < d.toNat := by
    rw [written]
    cases front with
    | nil => simpa using visible
    | cons d front => simpa using first d rfl
  unfold cleaned Text.trim
  rw [Text.trimStart_eq_self (not_low_of_shown shown), written,
    Text.trimEnd_append (by simpa using visible), List.filter_append, List.filter_cons,
    if_pos (kept_of_shown visible)]
  exact ⟨_, rfl, filter_trimEnd_of_shown⟩

theorem shown_of_web (web : Web scheme) : ∀ c ∈ scheme.toList, 0x20 < c.toNat := by
  rcases web with rfl | rfl <;> exact forall_of_all (by decide)

theorem cleaned_web (web : Web scheme) {text : String} {t : List Char}
    (starts : text.toList = scheme.toList ++ ':' :: t) :
    ∃ rest, cleaned text = scheme.toList ++ ':' :: rest := by
  have shown := shown_of_web web
  obtain ⟨rest, cleaned, -⟩ := cleaned_append starts
    (fun c head => shown c (List.mem_of_head? head)) (by decide)
  rw [List.filter_eq_self.mpr fun c member => kept_of_shown (shown c member)] at cleaned
  exact ⟨rest, cleaned⟩

theorem scheme?_web (web : Web scheme) (rest : List Char) :
    scheme? (scheme.toList ++ ':' :: rest) = some (scheme, rest) := by
  rcases web with rfl | rfl <;> rfl

theorem parse_web (web : Web scheme) {text : String} {t : List Char}
    (starts : text.toList = scheme.toList ++ ':' :: t) {u : Url} (parsed : parse text = .ok u) :
    u.scheme = scheme ∧ ∃ segments, u.path = .segments segments ∧ segments ≠ [] ∧
      Slashless segments := by
  obtain ⟨rest, text⟩ := cleaned_web web starts
  unfold parse at parsed
  rw [text, scheme?_web web] at parsed
  dsimp only at parsed
  unfold readScheme at parsed
  rw [if_neg (not_file_of_web web), if_pos (special_of_web web)] at parsed
  exact readBelow_web web parsed

/-! ## What a reference is read as -/

section References

variable {base other u : Url} {text : String}

theorem readRelative_cons (web : Web base.scheme) {c : Char} (query : c ≠ '?') (fragment : c ≠ '#')
    (rest : List Char) :
    readRelative base (c :: rest) =
      if readsSlash c then
        match rest with
        | d :: below =>
            if readsSlash d then
              if c = '/' ∧ d = '/' then readBelow base.scheme below
              else readBelow base.scheme (below.dropWhile readsSlash)
            else readRelative.absolute base rest
        | [] => readRelative.absolute base rest
      else
        .ok (readTail
          { base with
            path := .segments (readSegments base.scheme base.path.parent [] (c :: rest)).1
            query := none
            fragment := none }
          (readSegments base.scheme base.path.parent [] (c :: rest)).2) := by
  have special : base.special = true := special_of_web web
  unfold readRelative
  dsimp only
  split
  · rename_i empty
    cases empty
  · rename_i first
    cases first
    exact absurd rfl query
  · rename_i first
    cases first
    exact absurd rfl fragment
  · rename_i same
    cases same
    simp only [special, Bool.true_and]
    rfl

theorem absolute_eq (web : Web base.scheme) (s : List Char) :
    ∃ query fragment, readRelative.absolute base s =
      .ok { base with
        path := .segments (walk base.scheme [] (writtenNames s)), query, fragment } := by
  obtain ⟨query, fragment, read⟩ := readTail_eq
    { base with
      path := .segments (readSegments base.scheme [] [] s).1, query := none, fragment := none }
    (readSegments base.scheme [] [] s).2
  refine ⟨query, fragment, ?_⟩
  rw [readSegments_written (special_of_web web)] at read
  unfold readRelative.absolute
  dsimp only
  rw [readSegments_written (special_of_web web), read]

theorem Place.of_slash {c : Char} (slash : readsSlash c = true) (rest : List Char) :
    Place.of (c :: rest) = .behindSlash c rest := if_pos slash

theorem Place.of_plain {c : Char} (plain : readsSlash c = false) (rest : List Char) :
    Place.of (c :: rest) = .fromHere (c :: rest) := if_neg (by simp [plain])

theorem Place.behindSlash_slash {d : Char} (slash : readsSlash d = true) (c : Char)
    (rest : List Char) : Place.behindSlash c (d :: rest) =
      .server (if c = '/' ∧ d = '/' then rest else rest.dropWhile readsSlash) := if_pos slash

theorem Place.behindSlash_plain {d : Char} (plain : readsSlash d = false) (c : Char)
    (rest : List Char) : Place.behindSlash c (d :: rest) = .fromRoot (d :: rest) :=
  if_neg (by simp [plain])

theorem ne_of_readsSlash {c : Char} (slash : readsSlash c = true) : c ≠ '?' ∧ c ≠ '#' := by
  constructor <;> (rintro rfl; cases slash)

/-- A server that a text names is read without a look at that of the base. -/
theorem readRelative_server (web : Web base.scheme) {s below : List Char}
    (server : Place.of s = .server below) : readRelative base s = readBelow base.scheme below := by
  match s with
  | [] => cases server
  | c :: rest =>
      cases slash : readsSlash c with
      | false =>
          rw [Place.of_plain slash] at server
          cases server
      | true =>
          obtain ⟨query, fragment⟩ := ne_of_readsSlash slash
          rw [Place.of_slash slash] at server
          rw [readRelative_cons web query fragment, if_pos slash]
          match rest with
          | [] => cases server
          | d :: later =>
              dsimp only
              cases second : readsSlash d with
              | false =>
                  rw [Place.behindSlash_plain second] at server
                  cases server
              | true =>
                  rw [Place.behindSlash_slash second] at server
                  cases server
                  rw [if_pos rfl]
                  split <;> rfl

theorem readRelative_pathless (path : base.path = .segments segments) {s : List Char}
    (none : pathless s = true) : ∃ query fragment,
      readRelative base s = .ok { base with path := .segments segments, query, fragment } := by
  rw [← path]
  unfold readRelative
  dsimp only
  split
  · exact ⟨base.query, Option.none, rfl⟩
  · obtain ⟨query, fragment, read⟩ :=
      readTail_eq { base with query := Option.none, fragment := Option.none } _
    exact ⟨query, fragment, congrArg Except.ok read⟩
  · obtain ⟨query, fragment, read⟩ := readTail_eq { base with fragment := Option.none } _
    exact ⟨query, fragment, congrArg Except.ok read⟩
  · rename_i c rest query fragment
    simp only [pathless, Bool.or_eq_true, beq_iff_eq] at none
    rcases none with same | same
    · exact absurd same query
    · exact absurd same fragment

/-- A place on the server of the base leaves all but the path, the query and the fragment. -/
theorem readRelative_place (web : Web base.scheme) (path : base.path = .segments segments)
    {s : List Char} {reached : List String}
    (leads : (Place.of s).segments? base.scheme segments = some reached) :
    ∃ query fragment,
      readRelative base s = .ok { base with path := .segments reached, query, fragment } := by
  match s with
  | [] =>
      cases leads
      exact readRelative_pathless path rfl
  | c :: rest =>
      cases slash : readsSlash c with
      | false =>
          rw [Place.of_plain slash] at leads
          cases leads
          cases bare : pathless (c :: rest) with
          | true => exact readRelative_pathless path bare
          | false =>
              obtain ⟨query, fragment⟩ : c ≠ '?' ∧ c ≠ '#' := by simpa [pathless] using bare
              have parent : base.path.parent = segments.dropLast := by rw [path]; rfl
              rw [readRelative_cons web query fragment, if_neg (by simp [slash]), parent,
                readSegments_written (special_of_web web)]
              obtain ⟨query, fragment, read⟩ := readTail_eq _ _
              exact ⟨query, fragment, congrArg Except.ok read⟩
      | true =>
          obtain ⟨query, fragment⟩ := ne_of_readsSlash slash
          rw [readRelative_cons web query fragment, if_pos slash]
          rw [Place.of_slash slash] at leads
          match rest with
          | [] =>
              cases leads
              exact absolute_eq web []
          | d :: below =>
              dsimp only
              cases second : readsSlash d with
              | true =>
                  rw [Place.behindSlash_slash second] at leads
                  cases leads
              | false =>
                  rw [Place.behindSlash_plain second] at leads
                  cases leads
                  exact absolute_eq web (d :: below)

theorem Place.segments?_eq_none {place : Place}
    (leaves : place.segments? scheme segments = none) : ∃ below, place = .server below := by
  cases place with
  | server below => exact ⟨below, rfl⟩
  | fromRoot t => cases leaves
  | fromHere t => cases leaves

theorem join_whole {own : String} {rest : List Char}
    (whole : Reference.of base.scheme (cleaned text) = .whole own rest) :
    base.join text = readScheme own rest := by
  unfold Reference.of at whole
  unfold join
  dsimp only
  cases split : scheme? (cleaned text) with
  | none => rw [split] at whole; cases whole
  | some found =>
      obtain ⟨scheme, s⟩ := found
      rw [split] at whole
      dsimp only at whole ⊢
      split at whole
      · cases whole
      · rename_i apart
        cases whole
        refine if_neg fun relative => apart ?_
        simp only [Bool.and_eq_true, decide_eq_true_eq, beq_iff_eq] at relative
        exact ⟨relative.1.2, relative.2⟩

theorem join_on {place : Place} (web : Web base.scheme) (path : base.path = .segments segments)
    (on : Reference.of base.scheme (cleaned text) = .on place) :
    ∃ s, Place.of s = place ∧ base.join text = readRelative base s := by
  unfold Reference.of at on
  unfold join
  dsimp only
  cases split : scheme? (cleaned text) with
  | none =>
      rw [split] at on
      cases on
      refine ⟨cleaned text, rfl, ?_⟩
      simp only [path]
  | some found =>
      obtain ⟨scheme, s⟩ := found
      rw [split] at on
      dsimp only at on ⊢
      split at on
      · rename_i relative
        cases on
        refine ⟨s, rfl, if_pos ?_⟩
        obtain ⟨few, rfl⟩ := relative
        simp only [Bool.and_eq_true, decide_eq_true_eq, beq_self_eq_true, bne_iff_ne, and_true]
        exact ⟨⟨special_of_web web, not_file_of_web web⟩, few⟩
      · cases on

theorem join_local (web : Web base.scheme) (path : base.path = .segments segments)
    {reached : List String}
    (leads : (Reference.of base.scheme (cleaned text)).segments? base.scheme segments =
      some reached) :
    ∃ query fragment,
      base.join text = .ok { base with path := .segments reached, query, fragment } := by
  cases reference : Reference.of base.scheme (cleaned text) with
  | whole own rest => rw [reference] at leads; cases leads
  | on place =>
      obtain ⟨s, rfl, joined⟩ := join_on web path reference
      rw [reference] at leads
      rw [joined]
      exact readRelative_place web path leads

/-- Any other reference leads to one URL, from whatever server it is read. -/
theorem join_elsewhere (web : Web base.scheme) (path : base.path = .segments segments)
    (same : other.scheme = base.scheme) {segments' : List String}
    (path' : other.path = .segments segments')
    (leaves : (Reference.of base.scheme (cleaned text)).segments? base.scheme segments = none) :
    other.join text = base.join text := by
  have web' : Web other.scheme := same ▸ web
  cases reference : Reference.of base.scheme (cleaned text) with
  | whole own rest => rw [join_whole reference, join_whole (same ▸ reference)]
  | on place =>
      rw [reference] at leaves
      obtain ⟨below, rfl⟩ := Place.segments?_eq_none leaves
      obtain ⟨s, server, joined⟩ := join_on web path reference
      obtain ⟨s', server', joined'⟩ := join_on web' path' (same.symm ▸ reference)
      rw [joined, joined', readRelative_server web server, readRelative_server web' server', same]

end References

end Leasehold.Url

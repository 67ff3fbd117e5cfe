import Leasehold.Proofs.Url.Authority

/-!
# Paths that are read as they stand

A path without dot segments, in which nothing is escaped, has the parts between
its slashes for its segments (`readSegments_verbatim`).  Every URL of a web server
has such a path (`verbatim_of_parse`), which is therefore the same when it is read
again, behind a server (`parse_verbatim`) or relative to a base (`join_verbatim`).
-/

set_option autoImplicit false

namespace Leasehold.Url

/-- A path that is read as it stands. -/
structure Verbatim (s : List Char) : Prop where
  chars : ∀ c ∈ s, Percent.inPath c = false ∧ c ≠ '\\'
  dotless : ∀ n ∈ Text.splitAt '/' s, isSingleDot n = false ∧ isDoubleDot n = false

variable {scheme : String} {segments : List String} {s t : List Char}

/-! ## Putting together and trimming -/

theorem Verbatim.nil : Verbatim [] := ⟨nofun, by decide⟩

theorem verbatim_append_slash : Verbatim (s ++ '/' :: t) ↔ Verbatim s ∧ Verbatim t := by
  constructor
  · rintro ⟨chars, dotless⟩
    rw [Text.splitAt_append] at dotless
    exact ⟨⟨fun c member => chars c (List.mem_append_left _ member),
        fun n member => dotless n (List.mem_append_left _ member)⟩,
      ⟨fun c member => chars c (List.mem_append_right _ (List.mem_cons_of_mem _ member)),
        fun n member => dotless n (List.mem_append_right _ member)⟩⟩
  · rintro ⟨first, second⟩
    refine ⟨List.forall_mem_append.mpr ⟨first.chars, List.forall_mem_cons.mpr
      ⟨by decide, second.chars⟩⟩, ?_⟩
    rw [Text.splitAt_append]
    exact List.forall_mem_append.mpr ⟨first.dotless, second.dotless⟩

theorem verbatim_slash : Verbatim ('/' :: t) ↔ Verbatim t :=
  (verbatim_append_slash (s := [])).trans (and_iff_right Verbatim.nil)

theorem Verbatim.of_word {name : List Char}
    (plain : ∀ c ∈ name, Percent.inPath c = false ∧ readsSlash c = false)
    (single : isSingleDot name = false) (double : isDoubleDot name = false) : Verbatim name := by
  have free : '/' ∉ name := fun slash => absurd (plain '/' slash).2 (by decide)
  refine ⟨fun c member => ⟨(plain c member).1, ?_⟩, ?_⟩
  · rintro rfl
    exact absurd (plain _ member).2 (by decide)
  · rw [Text.splitAt_free free]
    exact List.forall_mem_singleton.mpr ⟨single, double⟩

/-- A dot is written as such, or as an escape. -/
theorem not_dots {name : List Char} (plain : ∀ c ∈ name, c.toLower ∉ ['.', '%']) :
    isSingleDot name = false ∧ isDoubleDot name = false := by
  have other (dots : List String)
      (led : dots.all (fun w => w.toList.any (['.', '%'].contains ·)) = true) :
      dots.contains (String.ofList (name.map Char.toLower)) = false := by
    refine Bool.eq_false_iff.mpr fun dot => ?_
    obtain ⟨c, there, mark⟩ :=
      List.any_eq_true.mp (List.all_eq_true.mp led _ (List.contains_iff_mem.mp dot))
    rw [String.toList_ofList] at there
    obtain ⟨d, member, rfl⟩ := List.mem_map.mp there
    exact plain d member (List.contains_iff_mem.mp mark)
  exact ⟨other _ (by decide), other _ (by decide)⟩

theorem Verbatim.of_plain (chars : ∀ c ∈ s, Percent.inPath c = false ∧ c ≠ '\\')
    (plain : ∀ c ∈ s, c.toLower ∉ ['.', '%']) : Verbatim s :=
  ⟨chars, fun _ part => not_dots fun c member => plain c (Text.mem_of_mem_splitAt part member)⟩

theorem Verbatim.behind_slashes {front : List Char}
    (slashes : ∀ c ∈ front, Text.isSlash c = true) (verbatim : Verbatim (front ++ s)) :
    Verbatim s := by
  induction front with
  | nil => exact verbatim
  | cons c front ih =>
      obtain ⟨slash, later⟩ := List.forall_mem_cons.mp slashes
      obtain rfl : c = '/' := beq_iff_eq.mp slash
      exact ih later (verbatim_slash.mp verbatim)

theorem Verbatim.before_slashes {back : List Char}
    (slashes : ∀ c ∈ back, Text.isSlash c = true) (verbatim : Verbatim (s ++ back)) :
    Verbatim s := by
  cases back with
  | nil => rwa [List.append_nil] at verbatim
  | cons c back =>
      obtain rfl : c = '/' := beq_iff_eq.mp (slashes c List.mem_cons_self)
      exact (verbatim_append_slash.mp verbatim).1

theorem Verbatim.trim (verbatim : Verbatim s) : Verbatim (Text.trim Text.isSlash s) := by
  obtain ⟨front, back, before, behind, whole⟩ := Text.exists_trim Text.isSlash s
  generalize Text.trim Text.isSlash s = core at whole ⊢
  subst whole
  exact (verbatim.before_slashes behind).behind_slashes before

/-! ## The path of a URL -/

theorem Verbatim.append_text (verbatim : Verbatim s) (each : ∀ x ∈ segments, Verbatim x.toList) :
    Verbatim (s ++ (Path.segments segments).text) := by
  induction segments generalizing s with
  | nil => rwa [show (Path.segments []).text = [] from rfl, List.append_nil]
  | cons x rest ih =>
      obtain ⟨first, later⟩ := List.forall_mem_cons.mp each
      exact verbatim_append_slash.mpr ⟨verbatim, ih first later⟩

theorem verbatim_walk (file : scheme ≠ "file") (s : List Char) :
    Verbatim (Path.segments (walk scheme [] (writtenNames s))).text :=
  Verbatim.nil.append_text <| forall_walk Verbatim.nil (List.forall_mem_nil _)
    (fun _ member => .of_word (plain_of_mem_written member)) fun same => absurd same file

theorem verbatim_of_parse {text : String} {u : Url} (parsed : parse text = .ok u)
    (web : Web u.scheme) : Verbatim u.path.text := by
  unfold parse at parsed
  split at parsed
  · obtain ⟨web, below, read⟩ := readScheme_web parsed web
    obtain ⟨-, path, walked⟩ := readBelow_walks web read
    rw [walked]
    exact verbatim_walk (not_file_of_web web) path
  · cases parsed

/-! ## Reading it -/

theorem shown_of_inPath {c : Char} (plain : Percent.inPath c = false) :
    0x20 < c.toNat ∧ ¬ (c = '?' ∨ c = '#') := by
  simp only [Percent.inPath, Percent.inFragment, Percent.inControls, Bool.or_eq_false_iff,
    decide_eq_false_iff_not, List.contains_eq_mem, List.mem_cons, not_or] at plain
  obtain ⟨⟨⟨low, -⟩, space, -⟩, hash, query, -⟩ := plain
  refine ⟨?_, by simp [hash, query]⟩
  have other : c.toNat ≠ 0x20 := fun same => space (Char.toNat_inj.mp same)
  omega

theorem Verbatim.shown (verbatim : Verbatim s) : ∀ c ∈ s, 0x20 < c.toNat :=
  fun c member => (shown_of_inPath (verbatim.chars c member).1).1

theorem writtenNames_eq_splitAt (chars : ∀ c ∈ s, Percent.inPath c = false ∧ c ≠ '\\') :
    writtenNames s = Text.splitAt '/' s := by
  induction s with
  | nil => rfl
  | cons c s ih =>
      obtain ⟨⟨plain, other⟩, later⟩ := List.forall_mem_cons.mp chars
      obtain ⟨first, rest, split⟩ := names_eq_cons s
      rw [Text.splitAt, ← ih later, writtenNames, writtenNames, split]
      split
      · rename_i slash
        rw [names, if_pos (by simp [slash, readsSlash]), split]
        rfl
      · rename_i slash
        rw [names_cons (by simp [readsSlash, slash, other]) (shown_of_inPath plain).2 split]
        simp [Percent.encode, Percent.encodeChar, plain]

theorem walk_dotless (file : scheme ≠ "file") {written : List (List Char)}
    (dotless : ∀ n ∈ written, isSingleDot n = false ∧ isDoubleDot n = false) :
    walk scheme segments written = segments ++ written.map String.ofList := by
  have added (name : List Char) (segments : List String) (slash : Bool)
      (dotless : isSingleDot name = false ∧ isDoubleDot name = false) :
      addSegment scheme segments name slash = segments ++ [String.ofList name] := by
    simp [addSegment, dotless, file]
  induction written generalizing segments with
  | nil => simp [walk]
  | cons name rest ih =>
      obtain ⟨first, later⟩ := List.forall_mem_cons.mp dotless
      cases rest with
      | nil => exact added name segments false first
      | cons next rest =>
          rw [walk, added name segments true first, ih later, List.append_assoc]
          rfl

theorem readSegments_whole {begun : List Char} (whole : ∀ c ∈ s, ¬ (c = '?' ∨ c = '#')) :
    (readSegments scheme segments begun s).2 = [] := by
  induction s generalizing segments begun with
  | nil => rfl
  | cons c s ih =>
      obtain ⟨first, later⟩ := List.forall_mem_cons.mp whole
      unfold readSegments
      rw [if_neg first]
      split <;> exact ih later

theorem readSegments_verbatim (web : Web scheme) (verbatim : Verbatim s) (segments : List String) :
    readSegments scheme segments [] s =
      (segments ++ (Text.splitAt '/' s).map String.ofList, []) := by
  refine Prod.ext ?_ (readSegments_whole fun c member =>
    (shown_of_inPath (verbatim.chars c member).1).2)
  rw [readSegments_written (special_of_web web), writtenNames_eq_splitAt verbatim.chars,
    walk_dotless (not_file_of_web web) verbatim.dotless]

theorem text_splitAt (s : List Char) :
    (Path.segments ((Text.splitAt '/' s).map String.ofList)).text = '/' :: s := by
  induction s with
  | nil => rfl
  | cons c s ih =>
      obtain ⟨first, rest, split⟩ := Text.splitAt_eq_cons '/' s
      rw [split] at ih
      rw [Text.splitAt, split]
      split
      · rename_i slash
        rw [slash, ← ih]
        rfl
      · simpa [Path.text] using ih

variable {h : Host} {p : Nat} {text : String} {base : Url}

theorem parse_verbatim (web : Web scheme) (proper : h.Proper) (fits : p < 65536)
    (verbatim : Verbatim s) (written : text.toList = serverText scheme h.text p s) :
    parse text = .ok
      { server scheme h p with path := .segments ((Text.splitAt '/' s).map String.ofList) } := by
  obtain ⟨rest, cleaned, same⟩ := cleaned_serverText web written
  rw [List.filter_eq_self.mpr proper.delimited.kept, same verbatim.shown] at cleaned
  rw [parse_serverText web proper.delimited fits cleaned, proper.read,
    readSegments_verbatim web verbatim]
  rfl

theorem join_verbatim (web : Web base.scheme) {above : List String}
    (path : base.path = .segments (above ++ [""])) (query : base.query = none)
    (fragment : base.fragment = none) (verbatim : Verbatim text.toList)
    (relative : scheme? text.toList = none) (front : ∀ c ∈ text.toList.head?, c ≠ '/') :
    base.join text = .ok
      { base with
        path := .segments (above ++ (Text.splitAt '/' text.toList).map String.ofList) } := by
  have joined : base.join text = readRelative base text.toList := by
    unfold join
    dsimp only
    rw [cleaned_of_shown verbatim.shown, relative]
    simp only [path]
  have parent : base.path.parent = above := by
    rw [path]
    exact List.dropLast_concat
  rw [joined]
  cases chars : text.toList with
  | nil =>
      simp only [readRelative, path, fragment]
      rfl
  | cons c rest =>
      rw [chars] at verbatim front
      obtain ⟨⟨plain, other⟩, -⟩ := List.forall_mem_cons.mp verbatim.chars
      obtain ⟨mark, hash⟩ := not_or.mp (shown_of_inPath plain).2
      rw [readRelative_cons web mark hash, if_neg (by simp [readsSlash, front c rfl, other]),
        parent, readSegments_verbatim web verbatim]
      simp only [readTail, query, fragment]

end Leasehold.Url

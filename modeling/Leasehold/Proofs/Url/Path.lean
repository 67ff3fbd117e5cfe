import Leasehold.Url.Parser

/-!
# The names of a path

A path is read as a walk over the names between its slashes, of which a double
dot leads up (`readSegments_written`).  As texts, the path where the walk ends
starts with that of the base exactly if its segments go on from those of the base
(`text_prefix_iff`).
-/

set_option autoImplicit false

namespace Leasehold.Url

def readsSlash (c : Char) : Bool := c == '/' || c == '\\'

def names : List Char → List (List Char)
  | [] => [[]]
  | c :: cs =>
      if readsSlash c then [] :: names cs
      else if c = '?' ∨ c = '#' then [[]]
      else
        match names cs with
        | name :: rest => (c :: name) :: rest
        | [] => [[c]]

def writtenNames (s : List Char) : List (List Char) :=
  (names s).map (Percent.encode Percent.inPath)

def walk (scheme : String) (segments : List String) : List (List Char) → List String
  | [] => segments
  | [last] => addSegment scheme segments last false
  | name :: next :: rest => walk scheme (addSegment scheme segments name true) (next :: rest)

variable {scheme : String} {segments : List String} {s : List Char}

/-! ## Names and segments -/

theorem names_eq_cons (s : List Char) : ∃ first rest, names s = first :: rest := by
  cases s with
  | nil => exact ⟨[], [], rfl⟩
  | cons c cs =>
      unfold names
      split
      · exact ⟨[], _, rfl⟩
      · split
        · exact ⟨[], [], rfl⟩
        · split
          · exact ⟨_, _, rfl⟩
          · exact ⟨_, _, rfl⟩

theorem names_cons {c : Char} {cs first : List Char} {rest : List (List Char)}
    (slash : readsSlash c = false) (inside : ¬ (c = '?' ∨ c = '#'))
    (split : names cs = first :: rest) : names (c :: cs) = (c :: first) :: rest := by
  unfold names
  simp only [slash, Bool.false_eq_true, if_false, if_neg inside, split]

theorem readSegments_eq (special : specialScheme scheme = true) {first : List Char}
    {rest : List (List Char)} (split : names s = first :: rest) (segments : List String)
    (begun : List Char) :
    (readSegments scheme segments begun s).1 =
      walk scheme segments ((begun ++ Percent.encode Percent.inPath first) ::
        rest.map (Percent.encode Percent.inPath)) := by
  -- A slash ends what has been begun of a name, so the claim is about any beginning.
  induction s generalizing segments begun first rest with
  | nil =>
      cases split
      simp [readSegments, walk, Percent.encode]
  | cons c cs ih =>
      obtain ⟨next, later, after⟩ := names_eq_cons cs
      have slashes :
          (c = '/' ∨ (c = '\\' ∧ specialScheme scheme = true)) ↔ readsSlash c = true := by
        simp [readsSlash, special]
      unfold readSegments
      by_cases slash : readsSlash c = true
      · rw [if_pos (slashes.mpr slash), ih after]
        unfold names at split
        rw [if_pos slash, after] at split
        cases split
        simp [walk, Percent.encode]
      · rw [if_neg (fun c => slash (slashes.mp c))]
        by_cases ends : c = '?' ∨ c = '#'
        · rw [if_pos ends]
          unfold names at split
          rw [if_neg slash, if_pos ends] at split
          cases split
          simp [walk, Percent.encode]
        · rw [if_neg ends, ih after]
          cases (names_cons (Bool.eq_false_iff.mpr slash) ends after).symm.trans split
          simp [Percent.encode]

theorem readSegments_written (special : specialScheme scheme = true) (segments : List String)
    (s : List Char) :
    (readSegments scheme segments [] s).1 = walk scheme segments (writtenNames s) := by
  obtain ⟨first, rest, split⟩ := names_eq_cons s
  rw [readSegments_eq special split, writtenNames, split]
  rfl

theorem addSegment_last_ne_nil (scheme : String) (segments : List String) (segment : List Char) :
    addSegment scheme segments segment false ≠ [] := by
  unfold addSegment
  split
  · simp
  · split
    · simp
    · split <;> simp

theorem walk_ne_nil {written : List (List Char)} (some : written ≠ []) :
    walk scheme segments written ≠ [] := by
  induction written generalizing segments with
  | nil => exact absurd rfl some
  | cons name rest ih =>
      cases rest with
      | nil => exact addSegment_last_ne_nil scheme segments name
      | cons next rest => exact ih (List.cons_ne_nil next rest)

/-! ## What holds of all segments -/

section Segments

variable {P : List Char → Prop}

theorem forall_snoc (each : ∀ s ∈ segments, P s.toList) {last : List Char} (holds : P last) :
    ∀ s ∈ segments ++ [String.ofList last], P s.toList := by
  intro s member
  rcases List.mem_append.mp member with before | added
  · exact each s before
  · obtain rfl := List.mem_singleton.mp added
    rwa [String.toList_ofList]

theorem forall_placeAbove (each : ∀ s ∈ segments, P s.toList) :
    ∀ s ∈ placeAbove segments, P s.toList := by
  unfold placeAbove
  split
  · exact nofun
  · split
    · exact each
    · exact fun s member => each s ((List.dropLast_sublist _).subset member)

theorem forall_addSegment (empty : P []) (each : ∀ s ∈ segments, P s.toList) {name : List Char}
    (own : isSingleDot name = false → isDoubleDot name = false → P name)
    (drive : scheme = "file" → P (name.take 1 ++ [':'])) (slash : Bool) :
    ∀ s ∈ addSegment scheme segments name slash, P s.toList := by
  unfold addSegment
  split
  · split
    · exact forall_placeAbove each
    · exact forall_snoc (forall_placeAbove each) empty
  · rename_i double
    split
    · split
      · exact each
      · exact forall_snoc each empty
    · rename_i single
      split
      · rename_i root
        intro s member
        obtain rfl := List.mem_singleton.mp member
        rw [String.toList_ofList]
        exact drive root.1
      · exact forall_snoc each
          (own (Bool.eq_false_iff.mpr single) (Bool.eq_false_iff.mpr double))

theorem forall_walk (empty : P []) (each : ∀ s ∈ segments, P s.toList) {written : List (List Char)}
    (own : ∀ n ∈ written, isSingleDot n = false → isDoubleDot n = false → P n)
    (drives : scheme = "file" → ∀ n ∈ written, P (n.take 1 ++ [':'])) :
    ∀ s ∈ walk scheme segments written, P s.toList := by
  induction written generalizing segments with
  | nil => exact each
  | cons name rest ih =>
      have first := forall_addSegment empty each (own name List.mem_cons_self)
        fun file => drives file name List.mem_cons_self
      cases rest with
      | nil => exact first false
      | cons next rest =>
          exact ih (first true) (fun n member => own n (List.mem_cons_of_mem name member))
            fun file n member => drives file n (List.mem_cons_of_mem name member)

end Segments

theorem readsSlash_of_mem_names {name : List Char} (member : name ∈ names s) :
    ∀ c ∈ name, readsSlash c = false := by
  induction s generalizing name with
  | nil =>
      obtain rfl := List.mem_singleton.mp member
      exact nofun
  | cons c cs ih =>
      obtain ⟨first, rest, split⟩ := names_eq_cons cs
      by_cases slash : readsSlash c = true
      · unfold names at member
        rw [if_pos slash] at member
        rcases List.mem_cons.mp member with rfl | later
        · exact nofun
        · exact ih later
      · by_cases ends : c = '?' ∨ c = '#'
        · unfold names at member
          rw [if_neg slash, if_pos ends] at member
          obtain rfl := List.mem_singleton.mp member
          exact nofun
        · have plain := Bool.eq_false_iff.mpr slash
          rw [names_cons plain ends split] at member
          rcases List.mem_cons.mp member with rfl | later
          · exact List.forall_mem_cons.mpr ⟨plain, ih (split ▸ List.mem_cons_self)⟩
          · exact ih (split ▸ List.mem_cons_of_mem first later)

theorem forall_encode {P : Char → Prop} {set : Char → Bool} {name : List Char} (sign : P '%')
    (digit : ∀ n < 16, P (Percent.hexDigit n)) (plain : ∀ c ∈ name, set c = false → P c) :
    ∀ c ∈ Percent.encode set name, P c := by
  intro c member
  obtain ⟨d, there, encoded⟩ := List.mem_flatMap.mp member
  unfold Percent.encodeChar at encoded
  split at encoded
  · obtain ⟨o, -, escaped⟩ := List.mem_flatMap.mp encoded
    have above : o.toNat / 16 < 16 := by
      have := o.toNat_lt
      omega
    have below : o.toNat % 16 < 16 := Nat.mod_lt _ (by decide)
    simp only [Percent.escape, List.mem_cons, List.not_mem_nil, or_false] at escaped
    rcases escaped with rfl | rfl | rfl
    · exact sign
    · exact digit _ above
    · exact digit _ below
  · rename_i kept
    obtain rfl := List.mem_singleton.mp encoded
    exact plain c there (Bool.eq_false_iff.mpr kept)

theorem plain_of_mem_written {n : List Char} (member : n ∈ writtenNames s) :
    ∀ c ∈ n, Percent.inPath c = false ∧ readsSlash c = false := by
  obtain ⟨name, there, rfl⟩ := List.mem_map.mp member
  exact forall_encode (by decide) (by decide) fun c inside kept =>
    ⟨kept, readsSlash_of_mem_names there c inside⟩

/-- Segments between which a slash can stand for nothing else. -/
def Slashless (segments : List String) : Prop := ∀ s ∈ segments, '/' ∉ s.toList

theorem Slashless.nil : Slashless [] := nofun

theorem Slashless.walk (slashless : Slashless segments) (s : List Char) :
    Slashless (walk scheme segments (writtenNames s)) := by
  have plain (n : List Char) (member : n ∈ writtenNames s) : '/' ∉ n := fun slash =>
    absurd (plain_of_mem_written member '/' slash).2 (by decide)
  refine forall_walk (P := ('/' ∉ ·)) List.not_mem_nil slashless
    (fun n member _ _ => plain n member)
    fun _ n member => ?_
  rw [List.mem_append]
  rintro (first | colon)
  · exact plain n member (List.mem_of_mem_take first)
  · simp at colon

theorem writtenNames_ne_nil (s : List Char) : writtenNames s ≠ [] := by
  obtain ⟨first, rest, split⟩ := names_eq_cons s
  simp [writtenNames, split]

/-! ## Places below a base -/

/-- Segments that go on from those of a base: from its last segment, if that does not end with a
slash, and behind those before it. -/
def Extends (base segments : List String) : Prop :=
  ∃ y more, segments = base.dropLast ++ y :: more ∧
    (base.getLast?.getD "").toList <+: y.toList

/-- What stands behind a segment in the text of a path. -/
def Behind (t : List Char) : Prop := ∀ c rest, t = c :: rest → c = '/'

theorem behind_text (segments : List String) : Behind (Path.segments segments).text := by
  cases segments with
  | nil => exact nofun
  | cons s rest =>
      rintro c more ⟨⟩
      rfl

theorem prefix_append_iff {a b t : List Char} (plain : '/' ∉ a) (behind : Behind t) :
    a <+: b ++ t ↔ a <+: b := by
  induction a generalizing b with
  | nil => simp
  | cons x a ih =>
      obtain ⟨other, later⟩ := not_or.mp (mt List.mem_cons.mpr plain)
      cases b with
      | cons y b => rw [List.cons_append, List.cons_prefix_cons, List.cons_prefix_cons, ih later]
      | nil =>
          refine ⟨fun starts => ?_, fun starts => absurd starts (by simp)⟩
          cases t with
          | nil => exact starts
          | cons c rest =>
              obtain ⟨rfl, -⟩ := List.cons_prefix_cons.mp starts
              exact absurd (behind _ rest rfl).symm other

theorem append_slash_prefix_iff {a b c t : List Char} (plain : '/' ∉ a) (other : '/' ∉ b)
    (behind : Behind t) : a ++ '/' :: c <+: b ++ t ↔ a = b ∧ '/' :: c <+: t := by
  induction a generalizing b with
  | nil =>
      cases b with
      | nil => simp
      | cons y b =>
          refine ⟨fun starts => ?_, fun ⟨same, _⟩ => nomatch same⟩
          obtain ⟨rfl, -⟩ := List.cons_prefix_cons.mp starts
          exact absurd List.mem_cons_self other
  | cons x a ih =>
      obtain ⟨first, later⟩ := not_or.mp (mt List.mem_cons.mpr plain)
      cases b with
      | nil =>
          refine ⟨fun starts => ?_, fun ⟨same, _⟩ => nomatch same⟩
          cases t with
          | nil => simp at starts
          | cons d rest =>
              obtain ⟨rfl, -⟩ := List.cons_prefix_cons.mp starts
              exact absurd (behind _ rest rfl).symm first
      | cons y b =>
          have plain' : '/' ∉ b := fun member => other (List.mem_cons_of_mem y member)
          rw [List.cons_append, List.cons_append, List.cons_prefix_cons, ih later plain',
            List.cons.injEq, and_assoc]

/-- As texts, a path starts with another exactly if its segments go on from those of that one. -/
theorem text_prefix_iff {base segments : List String} (some : base ≠ [])
    (plain : Slashless base) (other : Slashless segments) :
    (Path.segments base).text <+: (Path.segments segments).text ↔ Extends base segments := by
  induction base generalizing segments with
  | nil => exact absurd rfl some
  | cons s rest ih =>
      cases segments with
      | nil =>
          refine ⟨fun starts => absurd starts (by simp [Path.text]), fun ⟨y, more, same, _⟩ => ?_⟩
          cases rest <;> simp at same
      | cons y more =>
          have text (x : String) (l : List String) : (Path.segments (x :: l)).text =
              '/' :: (x.toList ++ (Path.segments l).text) := rfl
          have first := plain s List.mem_cons_self
          have second := other y List.mem_cons_self
          rw [text, text, List.cons_prefix_cons]
          -- The last segment of the base may go on in the other path; one before it is the same.
          cases rest with
          | nil =>
              rw [show (Path.segments []).text = [] from rfl, List.append_nil,
                prefix_append_iff first (behind_text more)]
              constructor
              · exact fun ⟨_, starts⟩ => ⟨y, more, rfl, starts⟩
              · rintro ⟨_, _, ⟨⟩, starts⟩
                exact ⟨rfl, starts⟩
          | cons next later =>
              rw [text next later, append_slash_prefix_iff first second (behind_text more),
                ← text next later, ih (List.cons_ne_nil next later)
                  (fun x member => plain x (List.mem_cons_of_mem s member))
                  (fun x member => other x (List.mem_cons_of_mem y member))]
              constructor
              · rintro ⟨_, same, z, deeper, rfl, starts⟩
                obtain rfl : s = y := String.toList_inj.mp same
                exact ⟨z, deeper, rfl, starts⟩
              · rintro ⟨z, deeper, same, starts⟩
                cases same
                exact ⟨rfl, rfl, z, deeper, rfl, starts⟩

end Leasehold.Url

import Leasehold.Json.Record
import Leasehold.Proofs.Json.Scalars
import Leasehold.Proofs.Text.Utf8

/-!
# Values are read back from their texts

A value without real numbers is determined by its text: what the printer writes
is read as the tree of the value (`ofSource?_print`), whatever stands in its
strings, and the tree denotes the value again if no more levels are nested than
there is room for (`value?_tree`).  The members of an object are found in the
tree under their names (`fields?_tree`).
-/

set_option autoImplicit false

namespace Leasehold

namespace Json

/-- A value without real numbers, nested at most `room` levels deep.  Its integers are those of
64 bits, and the names in its objects are distinct and in order. -/
inductive Exact : Nat → Json → Prop
  | null {room : Nat} : Exact room .null
  | bool {room : Nat} (b : Bool) : Exact room (.bool b)
  | integer {room : Nat} {i : Int} (low : -9223372036854775808 ≤ i) (high : i < UInt64.size) :
      Exact room (.number (.integer i))
  | string {room : Nat} (s : String) : Exact room (.string s)
  | array {room : Nat} {items : List Json} (each : ∀ v ∈ items, Exact room v) :
      Exact (room + 1) (.array items)
  | object {room : Nat} {members : List (String × Json)} (ordered : Dictionary.Ordered members)
      (each : ∀ m ∈ members, Exact room m.2) : Exact (room + 1) (.object members)

mutual

/-- The tree that is written for a value.  For a real number, which none of the statements here is
about, it is `null`. -/
def tree : Json → Tree
  | .null => .null
  | .bool b => .bool b
  | .number (.integer i) => .numeral (integerNumeral i)
  | .number (.real _) => .null
  | .string s => .string (some s)
  | .array items => .array (trees items)
  | .object members => .object (memberTrees members)

def trees : List Json → List Tree
  | [] => []
  | v :: vs => v.tree :: trees vs

def memberTrees : List (String × Json) → List (Option String × Tree)
  | [] => []
  | (n, v) :: ms => (some n, v.tree) :: memberTrees ms

end

variable {room fuel : Nat} {v : Json} {rest : Source}

theorem Exact.mono {more : Nat} (exact : Exact room v) (le : room ≤ more) : Exact more v := by
  induction exact generalizing more with
  | null => exact .null
  | bool b => exact .bool b
  | integer low high => exact .integer low high
  | string s => exact .string s
  | array each ih =>
      obtain ⟨more, rfl⟩ := Nat.exists_eq_add_of_lt le
      exact .array fun v member => ih v member (by omega)
  | object ordered each ih =>
      obtain ⟨more, rfl⟩ := Nat.exists_eq_add_of_lt le
      exact .object ordered fun m member => ih m member (by omega)

/-! ## What a text begins with -/

theorem skipBlank_of_not_mem {c : Char} (solid : c ∉ [' ', '\n', '\t', '\r']) (s : Source) :
    Tree.skipBlank (some c :: s) = some c :: s := by
  rw [Tree.skipBlank, if_neg]
  simpa using solid

theorem value_of_isDigit {c : Char} (digit : c.isDigit = true) (fuel : Nat) (s : Source) :
    Tree.value (fuel + 1) (some c :: s) = Tree.numeralFrom false (some c :: s) := by
  have solid : c ∉ [' ', '\n', '\t', '\r'] := by
    intro blank
    simp only [List.mem_cons, List.not_mem_nil, or_false] at blank
    rcases blank with rfl | rfl | rfl | rfl <;> cases digit
  rw [Tree.value, skipBlank_of_not_mem solid]
  split <;> first | rfl | (rename_i other; cases other; cases digit)

theorem value_bracket {c : Char} (solid : c ∉ [' ', '\n', '\t', '\r']) (more : c ≠ ']')
    (fuel : Nat) (s : Source) :
    Tree.value (fuel + 1) (some '[' :: some c :: s) =
      (Tree.items fuel (some c :: s)).map fun (ts, r) => (.array ts, r) := by
  rw [Tree.value, skipBlank_of_not_mem (by decide)]
  simp only [skipBlank_of_not_mem solid]
  split
  · rename_i other
    cases other
    exact absurd rfl more
  · rfl

theorem Exact.print_cons (exact : Exact room v) :
    ∃ c cs, v.print = c :: cs ∧ c ∉ [' ', '\n', '\t', '\r'] ∧ c ≠ ']' := by
  cases exact with
  | null => exact ⟨'n', _, rfl, by decide, by decide⟩
  | bool b => cases b <;> exact ⟨_, _, rfl, by decide, by decide⟩
  | @integer _ i =>
      have text : print (.number (.integer i)) = _ := numberText_integer i
      rw [text]
      split
      · exact ⟨'-', _, rfl, by decide, by decide⟩
      · cases digits : Nat.toDigits 10 i.natAbs with
        | nil => exact absurd digits Nat.toDigits_ne_nil
        | cons c cs =>
            have digit : c.isDigit = true := Text.isDigit_of_mem (digits ▸ List.mem_cons_self)
            refine ⟨c, cs, rfl, ?_, ?_⟩
            · intro blank
              simp only [List.mem_cons, List.not_mem_nil, or_false] at blank
              rcases blank with rfl | rfl | rfl | rfl <;> cases digit
            · rintro rfl
              cases digit
  | string s => exact ⟨'"', _, rfl, by decide, by decide⟩
  | array each => exact ⟨'[', _, rfl, by decide, by decide⟩
  | object ordered each => exact ⟨'{', _, rfl, by decide, by decide⟩

/-! ## What is read of a text -/

/-- A value is read back from its text, as long as there is fuel for each character. -/
def ReadsBack (v : Json) : Prop :=
  ∀ fuel rest, v.print.length ≤ fuel → Ends rest →
    Tree.value fuel (v.print.map some ++ rest) = some (v.tree, rest)

theorem ends_cons {c : Char} (stop : c = ',' ∨ c = ']' ∨ c = '}') : Ends (some c :: rest) := by
  rintro _ _ ⟨⟩
  exact stop

theorem items_printItems {items : List Json} (each : ∀ v ∈ items, ReadsBack v)
    (more : items ≠ []) (enough : (printItems items).length ≤ fuel) :
    Tree.items fuel ((printItems items).map some ++ rest) = some (trees items, rest) := by
  induction items generalizing fuel rest with
  | nil => exact absurd rfl more
  | cons v vs ih =>
      have reads := each v List.mem_cons_self
      cases vs with
      | nil =>
          have text : printItems [v] = v.print ++ [']'] := rfl
          rw [text, List.length_append, List.length_singleton] at enough
          obtain ⟨fuel, rfl⟩ : ∃ f, fuel = f + 1 := ⟨fuel - 1, by omega⟩
          have first := reads fuel (some ']' :: rest) (by omega) (ends_cons (by simp))
          rw [text, List.map_append, List.append_assoc, Tree.items]
          change (Tree.value fuel (v.print.map some ++ some ']' :: rest) >>= _) = _
          rw [first]
          rfl
      | cons w ws =>
          have text : printItems (v :: w :: ws) = v.print ++ ',' :: printItems (w :: ws) := rfl
          rw [text, List.length_append, List.length_cons] at enough
          obtain ⟨fuel, rfl⟩ : ∃ f, fuel = f + 1 := ⟨fuel - 1, by omega⟩
          have later : Tree.items fuel ((printItems (w :: ws)).map some ++ rest) =
              some (trees (w :: ws), rest) :=
            ih (fun u member => each u (List.mem_cons_of_mem v member)) nofun (by omega)
          have first := reads fuel (some ',' :: ((printItems (w :: ws)).map some ++ rest))
            (by omega) (ends_cons (by simp))
          rw [text, List.map_append, List.append_assoc, Tree.items]
          change (Tree.value fuel (v.print.map some ++
            some ',' :: ((printItems (w :: ws)).map some ++ rest)) >>= _) = _
          rw [first]
          change (Tree.items fuel ((printItems (w :: ws)).map some ++ rest) >>= _) = _
          rw [later]
          rfl

theorem members_cons {n : String} {c : Char} (reads : ReadsBack v)
    (enough : v.print.length ≤ fuel) (stop : c = ',' ∨ c = '}') :
    Tree.members (fuel + 1) ((quote n.toList ++ ':' :: v.print).map some ++ some c :: rest) =
      if c = '}' then some ([(some n, v.tree)], rest)
      else (Tree.members fuel rest).map fun (ms, r) => ((some n, v.tree) :: ms, r) := by
  have text : (quote n.toList ++ ':' :: v.print).map some ++ some c :: rest =
      some '"' :: ((n.toList.flatMap escapeChar).map some ++
        some '"' :: some ':' :: (v.print.map some ++ some c :: rest)) := by
    simp [quote]
  have name := stringFrom_quoted n.toList (some ':' :: (v.print.map some ++ some c :: rest))
  have value := reads fuel (some c :: rest) enough (ends_cons (stop.imp_right Or.inr))
  rw [String.ofList_toList] at name
  rw [text, Tree.members, skipBlank_of_not_mem (by decide)]
  simp only [name, skipBlank_of_not_mem (c := ':') (by decide), value, Option.bind_eq_bind,
    Option.bind_some]
  rcases stop with rfl | rfl
  · rw [skipBlank_of_not_mem (by decide), if_neg (by decide), Option.map_eq_bind]
    rfl
  · rw [skipBlank_of_not_mem (by decide), if_pos rfl]
    rfl

theorem members_printMembers {members : List (String × Json)}
    (each : ∀ m ∈ members, ReadsBack m.2) (more : members ≠ [])
    (enough : (printMembers members).length ≤ fuel) :
    Tree.members fuel ((printMembers members).map some ++ rest) =
      some (memberTrees members, rest) := by
  induction members generalizing fuel rest with
  | nil => exact absurd rfl more
  | cons m ms ih =>
      obtain ⟨n, v⟩ := m
      have reads : ReadsBack v := each (n, v) List.mem_cons_self
      cases ms with
      | nil =>
          have text : printMembers [(n, v)] = (quote n.toList ++ ':' :: v.print) ++ ['}'] := by
            simp [printMembers]
          rw [text, List.length_append, List.length_append, List.length_cons,
            List.length_singleton] at enough
          obtain ⟨fuel, rfl⟩ : ∃ f, fuel = f + 1 := ⟨fuel - 1, by omega⟩
          rw [text, List.map_append, List.append_assoc]
          exact members_cons reads (by omega) (Or.inr rfl)
      | cons m' ms =>
          have text : printMembers ((n, v) :: m' :: ms) =
              (quote n.toList ++ ':' :: v.print) ++ ',' :: printMembers (m' :: ms) := by
            simp [printMembers]
          rw [text, List.length_append, List.length_append, List.length_cons, List.length_cons]
            at enough
          obtain ⟨fuel, rfl⟩ : ∃ f, fuel = f + 1 := ⟨fuel - 1, by omega⟩
          have later : Tree.members fuel ((printMembers (m' :: ms)).map some ++ rest) =
              some (memberTrees (m' :: ms), rest) :=
            ih (fun u member => each u (List.mem_cons_of_mem _ member)) nofun (by omega)
          rw [text, List.map_append, List.append_assoc, List.map_cons, List.cons_append]
          refine (members_cons reads (by omega) (Or.inl rfl)).trans ?_
          rw [if_neg (by decide), later]
          rfl

theorem ReadsBack.of_succ (some_ : v.print ≠ [])
    (reads : ∀ fuel rest, v.print.length ≤ fuel + 1 → Ends rest →
      Tree.value (fuel + 1) (v.print.map some ++ rest) = some (v.tree, rest)) : ReadsBack v := by
  intro fuel rest enough ends
  have positive := List.length_pos_iff.mpr some_
  obtain ⟨fuel, rfl⟩ : ∃ f, fuel = f + 1 := ⟨fuel - 1, by omega⟩
  exact reads fuel rest enough ends

theorem readsBack_integer (i : Int) : ReadsBack (.number (.integer i)) := by
  have text : print (.number (.integer i)) = _ := numberText_integer i
  refine .of_succ ?_ fun fuel rest _ ends => ?_
  · rw [text]
    exact List.append_ne_nil_of_right_ne_nil _ Nat.toDigits_ne_nil
  · rw [text]
    split
    · rename_i negative
      have sign : integerNumeral i = ⟨true, digitsOf i.natAbs, none, none⟩ := by
        simp [integerNumeral, negative]
      rw [List.map_append, List.append_assoc, tree, sign]
      exact numeralFrom_toDigits true i.natAbs ends
    · rename_i positive
      have sign : integerNumeral i = ⟨false, digitsOf i.natAbs, none, none⟩ := by
        simp [integerNumeral, positive]
      rw [List.nil_append, tree, sign, ← numeralFrom_toDigits false i.natAbs ends]
      cases digits : Nat.toDigits 10 i.natAbs with
      | nil => exact absurd digits Nat.toDigits_ne_nil
      | cons c cs =>
          exact value_of_isDigit (Text.isDigit_of_mem (digits ▸ List.mem_cons_self)) fuel _

theorem readsBack_string (s : String) : ReadsBack (.string s) := by
  refine .of_succ nofun fun fuel rest _ _ => ?_
  have text : (print (.string s)).map some ++ rest =
      some '"' :: ((s.toList.flatMap escapeChar).map some ++ some '"' :: rest) := by
    simp [print, quote]
  have reads := stringFrom_quoted s.toList rest
  rw [String.ofList_toList] at reads
  rw [text, Tree.value, skipBlank_of_not_mem (by decide)]
  simp only [reads, Option.map_some, tree]

theorem printItems_cons (v : Json) (vs : List Json) :
    ∃ after, printItems (v :: vs) = v.print ++ after := by
  cases vs with
  | nil => exact ⟨_, rfl⟩
  | cons w ws => exact ⟨_, rfl⟩

theorem printMembers_cons (m : String × Json) (ms : List (String × Json)) :
    ∃ after, printMembers (m :: ms) = '"' :: after := by
  cases ms with
  | nil => exact ⟨_, rfl⟩
  | cons n ns => exact ⟨_, rfl⟩

/-- In whatever order its members stand, an object is read back if each of them is. -/
theorem readsBack_object {members : List (String × Json)} (each : ∀ m ∈ members, ReadsBack m.2) :
    ReadsBack (.object members) := by
  refine .of_succ nofun fun fuel rest enough _ => ?_
  rw [print, List.length_cons] at enough
  change Tree.value (fuel + 1) (some '{' :: ((printMembers members).map some ++ rest)) = _
  cases members with
  | nil => rfl
  | cons m ms =>
      have reads : Tree.members fuel ((printMembers (m :: ms)).map some ++ rest) =
          some (memberTrees (m :: ms), rest) :=
        members_printMembers each nofun (Nat.le_of_succ_le_succ enough)
      obtain ⟨after, first⟩ := printMembers_cons m ms
      rw [first] at reads ⊢
      change (Tree.members fuel (('"' :: after).map some ++ rest)).map _ = _
      rw [reads]
      rfl

theorem Exact.readsBack (exact : Exact room v) : ReadsBack v := by
  induction exact with
  | null => exact .of_succ nofun fun _ _ _ _ => rfl
  | bool b => cases b <;> exact .of_succ nofun fun _ _ _ _ => rfl
  | integer low high => exact readsBack_integer _
  | string s => exact readsBack_string s
  | @array room items each ih =>
      refine .of_succ nofun fun fuel rest enough _ => ?_
      rw [print, List.length_cons] at enough
      change Tree.value (fuel + 1) (some '[' :: ((printItems items).map some ++ rest)) = _
      cases items with
      | nil => rfl
      | cons v vs =>
          have reads : Tree.items fuel ((printItems (v :: vs)).map some ++ rest) =
              some (trees (v :: vs), rest) :=
            items_printItems ih nofun (Nat.le_of_succ_le_succ enough)
          obtain ⟨c, cs, text, solid, more⟩ := (each v List.mem_cons_self).print_cons
          obtain ⟨after, first⟩ := printItems_cons v vs
          rw [first, text] at reads ⊢
          refine (value_bracket solid more fuel ((cs ++ after).map some ++ rest)).trans ?_
          change (Tree.items fuel ((c :: cs ++ after).map some ++ rest)).map _ = _
          rw [reads]
          rfl
  | object ordered each ih => exact readsBack_object ih

/-- The text of a value that reads back is read as the tree of the value, and nothing else. -/
theorem ReadsBack.ofSource?_print (reads : ReadsBack v) :
    Tree.ofSource? (v.print.map some) = some v.tree := by
  have reads := reads (2 * (v.print.map some).length + 2) [] (by simp; omega) nofun
  rw [List.append_nil] at reads
  simp only [Tree.ofSource?, reads, Option.bind_eq_bind, Option.bind_some]
  rfl

/-! ## What a tree denotes -/

theorem values?_trees {items : List Json}
    (each : ∀ v ∈ items, Tree.value? room v.tree = some v) :
    Tree.values? room (trees items) = some items := by
  induction items with
  | nil => rfl
  | cons v vs ih =>
      have later := ih fun u member => each u (List.mem_cons_of_mem v member)
      simp [trees, Tree.values?, each v List.mem_cons_self, later]

theorem memberValues?_memberTrees {members : List (String × Json)}
    (each : ∀ m ∈ members, Tree.value? room m.2.tree = some m.2) :
    Tree.memberValues? room (memberTrees members) = some members := by
  induction members with
  | nil => rfl
  | cons m ms ih =>
      have first := each m List.mem_cons_self
      have later := ih fun u member => each u (List.mem_cons_of_mem m member)
      simp [memberTrees, Tree.memberValues?, first, later]

theorem Exact.value?_tree (exact : Exact room v) : Tree.value? room v.tree = some v := by
  induction exact with
  | null => simp only [tree, Tree.value?]
  | bool b => simp only [tree, Tree.value?]
  | integer low high =>
      simp only [tree, Tree.value?, number?_integerNumeral low high, Option.map_some]
  | string s => simp only [tree, Tree.value?, Option.map_some]
  | array each ih => simp only [tree, Tree.value?, values?_trees ih, Option.map_some]
  | object ordered each ih =>
      simp only [tree, Tree.value?, memberValues?_memberTrees ih, Option.map_some, ofMembers,
        Dictionary.ofList_of_ordered ordered]

/-! ## Fields -/

theorem named_memberTrees (members : List (String × Json)) :
    (memberTrees members).mapM (fun m => m.1.map fun n => (n, m.2)) =
      some (members.map fun m => (m.1, m.2.tree)) := by
  induction members with
  | nil => rfl
  | cons m ms ih => simp [memberTrees, ih]

theorem memberOnce?_of_ordered {members : List (String × Json)}
    (ordered : Dictionary.Ordered members) (name : String) :
    Tree.memberOnce? name (members.map fun m => (m.1, m.2.tree)) =
      some ((Dictionary.get? name members).map tree) := by
  induction members with
  | nil => rfl
  | cons m ms ih =>
      obtain ⟨after, tail⟩ := List.pairwise_cons.mp ordered
      unfold Tree.memberOnce? Dictionary.get?
      rw [List.map_cons]
      by_cases same : m.1 = name
      · -- Those behind have greater names.
        have none : (ms.map fun m => (m.1, m.2.tree)).filter (fun m => m.1 == name) = [] := by
          rw [List.filter_eq_nil_iff]
          intro b member
          obtain ⟨m', there, rfl⟩ := List.mem_map.mp member
          have later := after m' there
          rw [same] at later
          simpa using Ne.symm (String.ne_of_lt later)
        rw [List.filter_cons_of_pos (by simpa using same), none, if_pos same]
        rfl
      · rw [List.filter_cons_of_neg (by simpa using same), if_neg same]
        exact ih tail

theorem fields?_tree {members : List (String × Json)} (ordered : Dictionary.Ordered members)
    (names : List String) :
    (tree (.object members)).fields? names =
      some (names.map fun n => (Dictionary.get? n members).map tree) := by
  have each : names.mapM (fun n => Tree.memberOnce? n (members.map fun m => (m.1, m.2.tree))) =
      some (names.map fun n => (Dictionary.get? n members).map tree) := by
    simp only [memberOnce?_of_ordered ordered]
    exact List.mapM_pure
  simp only [tree, Tree.fields?, named_memberTrees, Option.bind_eq_bind, Option.bind_some, each]

end Json

end Leasehold

/-!
# Dictionaries

Values under distinct names, kept in the order of the names.  `put` binds a
name anew, `erase` unbinds it, and `get?` says what it is bound to.
-/

set_option autoImplicit false

namespace Leasehold

abbrev Dictionary (α : Type) := List (String × α)

namespace Dictionary

variable {α : Type}

def get? (name : String) : Dictionary α → Option α
  | [] => none
  | (n, v) :: rest => if n = name then some v else get? name rest

def put (name : String) (value : α) : Dictionary α → Dictionary α
  | [] => [(name, value)]
  | (n, v) :: rest =>
      if name < n then (name, value) :: (n, v) :: rest
      else if name = n then (name, value) :: rest
      else (n, v) :: put name value rest

def erase (name : String) : Dictionary α → Dictionary α
  | [] => []
  | (n, v) :: rest => if n = name then erase name rest else (n, v) :: erase name rest

/-- The dictionary of bindings as they were written: of several with one name the last counts. -/
def ofList (written : List (String × α)) : Dictionary α :=
  written.foldl (fun d b => put b.1 b.2 d) []

def values (d : Dictionary α) : List α := d.map Prod.snd

@[simp] theorem get?_nil (name : String) : get? name ([] : Dictionary α) = none := rfl

@[simp] theorem get?_put_self (name : String) (v : α) (d : Dictionary α) :
    get? name (put name v d) = some v := by
  induction d with
  | nil => simp [put, get?]
  | cons b rest ih =>
      obtain ⟨n, w⟩ := b
      unfold put
      split
      · simp [get?]
      · split
        · simp [get?]
        · rename_i h
          simp [get?, Ne.symm h, ih]

theorem get?_put_of_ne {name other : String} (h : other ≠ name) (v : α) (d : Dictionary α) :
    get? other (put name v d) = get? other d := by
  induction d with
  | nil => simp [put, get?, Ne.symm h]
  | cons b rest ih =>
      obtain ⟨n, w⟩ := b
      unfold put
      split
      · simp [get?, Ne.symm h]
      · split
        · rename_i hn
          subst hn
          simp [get?, Ne.symm h]
        · by_cases hn : n = other <;> simp [get?, hn, ih]

@[simp] theorem get?_erase_self (name : String) (d : Dictionary α) :
    get? name (erase name d) = none := by
  induction d with
  | nil => rfl
  | cons b rest ih =>
      obtain ⟨n, w⟩ := b
      by_cases h : n = name <;> simp [erase, get?, h, ih]

theorem get?_erase_of_ne {name other : String} (h : other ≠ name) (d : Dictionary α) :
    get? other (erase name d) = get? other d := by
  induction d with
  | nil => rfl
  | cons b rest ih =>
      obtain ⟨n, w⟩ := b
      by_cases hn : n = name
      · subst hn
        simp [erase, get?, Ne.symm h, ih]
      · simp [erase, get?, hn, ih]

theorem get?_put_eq_some {name other : String} {v w : α} {d : Dictionary α}
    (h : get? other (put name v d) = some w) :
    other = name ∧ w = v ∨ other ≠ name ∧ get? other d = some w := by
  by_cases ho : other = name
  · subst ho
    rw [get?_put_self] at h
    exact Or.inl ⟨rfl, (Option.some.inj h).symm⟩
  · exact Or.inr ⟨ho, by rwa [get?_put_of_ne ho] at h⟩

theorem get?_erase_eq_some {name other : String} {w : α} {d : Dictionary α}
    (h : get? other (erase name d) = some w) : other ≠ name ∧ get? other d = some w := by
  have ho : other ≠ name := by
    rintro rfl
    rw [get?_erase_self] at h
    cases h
  exact ⟨ho, by rwa [get?_erase_of_ne ho] at h⟩

theorem mem_values {name : String} {v : α} {d : Dictionary α} (h : get? name d = some v) :
    v ∈ d.values := by
  induction d with
  | nil => cases h
  | cons b rest ih =>
      obtain ⟨n, w⟩ := b
      by_cases hn : n = name
      · simp only [get?, hn, if_true, Option.some.injEq] at h
        simp [values, h]
      · simp only [get?, hn, if_false] at h
        exact List.mem_cons_of_mem w (ih h)

/-! ## Order and size -/

def Ordered (d : Dictionary α) : Prop := d.Pairwise fun a b => a.1 < b.1

theorem mem_put {name : String} {v : α} {b : String × α} {d : Dictionary α}
    (member : b ∈ put name v d) : b = (name, v) ∨ b ∈ d := by
  induction d with
  | nil => exact Or.inl (List.mem_singleton.mp member)
  | cons first rest ih =>
      unfold put at member
      split at member
      · exact List.mem_cons.mp member
      · split at member
        · rcases List.mem_cons.mp member with new | old
          · exact Or.inl new
          · exact Or.inr (List.mem_cons_of_mem first old)
        · rcases List.mem_cons.mp member with rfl | later
          · exact Or.inr List.mem_cons_self
          · rcases ih later with new | old
            · exact Or.inl new
            · exact Or.inr (List.mem_cons_of_mem first old)

theorem mem_ofList {b : String × α} {written : List (String × α)}
    (member : b ∈ ofList written) : b ∈ written := by
  have fold (written : List (String × α)) {start : Dictionary α}
      (member : b ∈ written.foldl (fun d b => put b.1 b.2 d) start) : b ∈ start ∨ b ∈ written := by
    induction written generalizing start with
    | nil => exact Or.inl member
    | cons first rest ih =>
        rcases ih member with before | later
        · rcases mem_put before with rfl | old
          · exact Or.inr List.mem_cons_self
          · exact Or.inl old
        · exact Or.inr (List.mem_cons_of_mem first later)
  exact (fold written member).resolve_left List.not_mem_nil

theorem put_of_last {name : String} {v : α} {d : Dictionary α} (last : ∀ b ∈ d, b.1 < name) :
    put name v d = d ++ [(name, v)] := by
  induction d with
  | nil => rfl
  | cons first rest ih =>
      have before := last first List.mem_cons_self
      have other : name ≠ first.1 := by
        rintro rfl
        exact String.lt_irrefl _ before
      have later := ih fun b member => last b (List.mem_cons_of_mem first member)
      rw [put, if_neg (String.lt_asymm before), if_neg other, later]
      rfl

theorem ofList_of_ordered {d : Dictionary α} (ordered : Ordered d) : ofList d = d := by
  have fold (rest : List (String × α)) {start : Dictionary α} (ordered : Ordered (start ++ rest)) :
      rest.foldl (fun d b => put b.1 b.2 d) start = start ++ rest := by
    induction rest generalizing start with
    | nil => exact (List.append_nil start).symm
    | cons b rest ih =>
        have last : ∀ a ∈ start, a.1 < b.1 := fun a member =>
          (List.pairwise_append.mp ordered).2.2 a member b List.mem_cons_self
        have shape : start ++ b :: rest = start ++ [b] ++ rest := by simp
        rw [List.foldl_cons, put_of_last last, shape]
        exact ih (shape ▸ ordered)
  exact fold d ordered

theorem mem_erase {name : String} {b : String × α} {d : Dictionary α}
    (member : b ∈ erase name d) : b ∈ d := by
  induction d with
  | nil => exact member
  | cons first rest ih =>
      unfold erase at member
      split at member
      · exact List.mem_cons_of_mem first (ih member)
      · rcases List.mem_cons.mp member with rfl | later
        · exact List.mem_cons_self
        · exact List.mem_cons_of_mem first (ih later)

theorem get?_eq_none {name : String} {d : Dictionary α} (absent : ∀ b ∈ d, b.1 ≠ name) :
    get? name d = none := by
  induction d with
  | nil => rfl
  | cons first rest ih =>
      unfold get?
      rw [if_neg (absent first List.mem_cons_self)]
      exact ih fun b member => absent b (List.mem_cons_of_mem first member)

theorem erase_of_absent {name : String} {d : Dictionary α} (absent : ∀ b ∈ d, b.1 ≠ name) :
    erase name d = d := by
  induction d with
  | nil => rfl
  | cons first rest ih =>
      unfold erase
      rw [if_neg (absent first List.mem_cons_self)]
      exact congrArg (first :: ·) (ih fun b member => absent b (List.mem_cons_of_mem first member))

namespace Ordered

variable {d : Dictionary α}

theorem put (ordered : Ordered d) (name : String) (v : α) : Ordered (put name v d) := by
  induction d with
  | nil => exact List.pairwise_singleton _ _
  | cons first rest ih =>
      obtain ⟨after, tail⟩ := List.pairwise_cons.mp ordered
      unfold Dictionary.put
      split
      · rename_i before
        refine List.pairwise_cons.mpr ⟨?_, ordered⟩
        intro b member
        rcases List.mem_cons.mp member with rfl | later
        · exact before
        · exact String.lt_trans before (after b later)
      · rename_i behind
        split
        · rename_i same
          exact List.pairwise_cons.mpr ⟨fun b later => same ▸ after b later, tail⟩
        · rename_i other
          refine List.pairwise_cons.mpr ⟨?_, ih tail⟩
          intro b member
          rcases mem_put member with rfl | later
          · exact Std.lt_of_le_of_ne (String.not_lt.mp behind) (Ne.symm other)
          · exact after b later

theorem erase (ordered : Ordered d) (name : String) : Ordered (erase name d) := by
  induction d with
  | nil => exact ordered
  | cons first rest ih =>
      obtain ⟨after, tail⟩ := List.pairwise_cons.mp ordered
      unfold Dictionary.erase
      split
      · exact ih tail
      · exact List.pairwise_cons.mpr ⟨fun b member => after b (mem_erase member), ih tail⟩

theorem ofList (written : List (String × α)) : Ordered (Dictionary.ofList written) := by
  have fold (written : List (String × α)) {start : Dictionary α} (ordered : Ordered start) :
      Ordered (written.foldl (fun d b => Dictionary.put b.1 b.2 d) start) := by
    induction written generalizing start with
    | nil => exact ordered
    | cons b rest ih => exact ih (ordered.put b.1 b.2)
  exact fold written List.Pairwise.nil

theorem length_put (ordered : Ordered d) (name : String) (v : α) :
    (Dictionary.put name v d).length = d.length + if (get? name d).isSome then 0 else 1 := by
  induction d with
  | nil => rfl
  | cons first rest ih =>
      obtain ⟨after, tail⟩ := List.pairwise_cons.mp ordered
      unfold Dictionary.put
      split
      · rename_i before
        have absent : ∀ b ∈ first :: rest, b.1 ≠ name := by
          intro b member same
          have behind : name < b.1 := by
            rcases List.mem_cons.mp member with rfl | later
            · exact before
            · exact String.lt_trans before (after b later)
          rw [same] at behind
          exact String.lt_irrefl name behind
        rw [get?_eq_none absent]
        rfl
      · split
        · rename_i same
          simp [get?, same]
        · rename_i other
          have later := ih tail
          simp only [get?, Ne.symm other, if_false, List.length_cons]
          omega

theorem length_erase (ordered : Ordered d) {name : String} {v : α} (bound : get? name d = some v) :
    (Dictionary.erase name d).length + 1 = d.length := by
  induction d with
  | nil => cases bound
  | cons first rest ih =>
      obtain ⟨after, tail⟩ := List.pairwise_cons.mp ordered
      unfold get? at bound
      unfold Dictionary.erase
      split at bound
      · rename_i same
        have absent : ∀ b ∈ rest, b.1 ≠ name := by
          intro b later twin
          have before := after b later
          rw [same, twin] at before
          exact String.lt_irrefl name before
        rw [if_pos same, erase_of_absent absent, List.length_cons]
      · rename_i other
        rw [if_neg other, List.length_cons, List.length_cons, ih tail bound]

end Ordered

end Dictionary

end Leasehold

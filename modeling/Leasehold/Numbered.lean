/-!
# Numbered things

Things that come and go, each under a number of its own.  A number is given
once: the next one is greater than all before, whether the things under those
are still there or gone.  Tasks of a schedule and cycles in flight are kept so.
-/

set_option autoImplicit false

namespace Leasehold

/-- The things that are there, in the order in which they came, and how many have come so far. -/
structure Numbered (α : Type) where
  items : List (Nat × α)
  issued : Nat
  below : ∀ b ∈ items, b.1 < issued
  distinct : (items.map Prod.fst).Nodup

namespace Numbered

variable {α : Type}

def empty : Numbered α where
  items := []
  issued := 0
  below := fun _ member => absurd member List.not_mem_nil
  distinct := List.nodup_nil

def add (s : Numbered α) (x : α) : Numbered α where
  items := s.items ++ [(s.issued, x)]
  issued := s.issued + 1
  below := by
    intro b member
    rcases List.mem_append.mp member with old | new
    · exact Nat.lt_succ_of_lt (s.below b old)
    · rw [List.mem_singleton.mp new]
      exact Nat.lt_succ_self s.issued
  distinct := by
    rw [List.map_append, List.map_singleton, List.nodup_append]
    refine ⟨s.distinct, List.nodup_cons.mpr ⟨List.not_mem_nil, List.nodup_nil⟩, ?_⟩
    intro n old m new same
    obtain ⟨b, member, rfl⟩ := List.mem_map.mp old
    have lower := s.below b member
    rw [same, List.mem_singleton.mp new] at lower
    exact Nat.lt_irrefl s.issued lower

def remove (s : Numbered α) (n : Nat) : Numbered α where
  items := s.items.filter fun b => b.1 != n
  issued := s.issued
  below := fun b member => s.below b (List.mem_filter.mp member).1
  distinct := s.distinct.sublist (List.filter_sublist.map Prod.fst)

def cancel (s : Numbered α) : Option Nat → Numbered α
  | none => s
  | some n => s.remove n

def cancelAll (s : Numbered α) (handles : List Nat) : Numbered α := handles.foldl remove s

def change (s : Numbered α) (n : Nat) (f : α → α) : Numbered α where
  items := s.items.map fun b => if b.1 = n then (b.1, f b.2) else b
  issued := s.issued
  below := by
    intro b member
    obtain ⟨a, old, rfl⟩ := List.mem_map.mp member
    have lower := s.below a old
    split <;> exact lower
  distinct := by
    have same : (Prod.fst ∘ fun b : Nat × α => if b.1 = n then (b.1, f b.2) else b) = Prod.fst := by
      funext b
      simp only [Function.comp]
      split <;> rfl
    rw [List.map_map, same]
    exact s.distinct

def find? (s : Numbered α) (n : Nat) : Option α := s.items.lookup n

def holds (s : Numbered α) (n : Nat) : Bool := (s.find? n).isSome

theorem lookup_eq_some_iff_of_nodup {items : List (Nat × α)} (distinct : (items.map Prod.fst).Nodup)
    {n : Nat} {x : α} : items.lookup n = some x ↔ (n, x) ∈ items := by
  induction items with
  | nil => simp
  | cons b rest ih =>
      obtain ⟨m, y⟩ := b
      obtain ⟨head, tail⟩ := List.nodup_cons.mp distinct
      by_cases here : n = m
      · subst here
        have elsewhere : (n, x) ∉ rest := fun member =>
          head (List.mem_map.mpr ⟨(n, x), member, rfl⟩)
        simp [elsewhere, eq_comm]
      · have other : (n == m) = false := beq_false_of_ne here
        simp [List.lookup_cons, other, here, ih tail]

theorem find?_eq_some_iff {s : Numbered α} {n : Nat} {x : α} :
    s.find? n = some x ↔ (n, x) ∈ s.items :=
  lookup_eq_some_iff_of_nodup s.distinct

theorem holds_iff {s : Numbered α} {n : Nat} : s.holds n = true ↔ ∃ x, (n, x) ∈ s.items := by
  simp [holds, Option.isSome_iff_exists, find?_eq_some_iff]

theorem lt_issued {s : Numbered α} {n : Nat} {x : α} (member : (n, x) ∈ s.items) : n < s.issued :=
  s.below (n, x) member

theorem eq_of_mem {s : Numbered α} {n : Nat} {x y : α} (first : (n, x) ∈ s.items)
    (second : (n, y) ∈ s.items) : x = y := by
  rw [← find?_eq_some_iff] at first second
  exact Option.some.inj (first.symm.trans second)

theorem mem_add {s : Numbered α} {n : Nat} {x y : α} :
    (n, y) ∈ (s.add x).items ↔ (n, y) ∈ s.items ∨ n = s.issued ∧ y = x := by
  simp [add]

theorem mem_remove {s : Numbered α} {n m : Nat} {y : α} :
    (n, y) ∈ (s.remove m).items ↔ (n, y) ∈ s.items ∧ n ≠ m := by
  simp [remove]

theorem mem_change {s : Numbered α} {n m : Nat} {f : α → α} {y : α} :
    (n, y) ∈ (s.change m f).items ↔
      ∃ x, (n, x) ∈ s.items ∧ (if n = m then f x else x) = y := by
  constructor
  · intro member
    obtain ⟨⟨k, x⟩, old, same⟩ := List.mem_map.mp member
    by_cases here : k = m
    · simp only [here, if_true, Prod.mk.injEq] at same
      exact ⟨x, by rwa [← same.1, ← here], by rw [if_pos same.1.symm]; exact same.2⟩
    · simp only [here, if_false, Prod.mk.injEq] at same
      obtain ⟨rfl, rfl⟩ := same
      exact ⟨x, old, if_neg here⟩
  · rintro ⟨x, old, rfl⟩
    refine List.mem_map.mpr ⟨(n, x), old, ?_⟩
    split <;> rfl

theorem mem_cancel {s : Numbered α} {handle : Option Nat} {n : Nat} {y : α} :
    (n, y) ∈ (s.cancel handle).items ↔ (n, y) ∈ s.items ∧ handle ≠ some n := by
  cases handle with
  | none => simp [cancel]
  | some m => simp [cancel, mem_remove, eq_comm]

theorem mem_cancelAll {handles : List Nat} :
    ∀ {s : Numbered α} {n : Nat} {y : α},
      (n, y) ∈ (s.cancelAll handles).items ↔ (n, y) ∈ s.items ∧ n ∉ handles := by
  induction handles with
  | nil => simp [cancelAll]
  | cons m rest ih =>
      intro s n y
      have unfolded : s.cancelAll (m :: rest) = (s.remove m).cancelAll rest := rfl
      rw [unfolded, ih, mem_remove, List.mem_cons, not_or, and_assoc]

theorem holds_remove_self (s : Numbered α) (n : Nat) : (s.remove n).holds n = false := by
  rw [Bool.eq_false_iff]
  intro held
  obtain ⟨x, member⟩ := holds_iff.mp held
  exact (mem_remove.mp member).2 rfl

theorem holds_remove_of_ne {s : Numbered α} {n m : Nat} (other : n ≠ m) :
    (s.remove m).holds n = s.holds n := by
  rw [Bool.eq_iff_iff, holds_iff, holds_iff]
  simp only [mem_remove, other, ne_eq, not_false_iff, and_true]

theorem holds_add {s : Numbered α} {x : α} {n : Nat} :
    (s.add x).holds n = true ↔ s.holds n = true ∨ n = s.issued := by
  simp only [holds_iff, mem_add, exists_or, exists_and_left, exists_eq, and_true]

theorem holds_remove {s : Numbered α} {n m : Nat} :
    (s.remove m).holds n = true ↔ s.holds n = true ∧ n ≠ m := by
  simp only [holds_iff, mem_remove, exists_and_right]

theorem holds_cancel_of_ne {s : Numbered α} {handle : Option Nat} {n : Nat}
    (other : handle ≠ some n) : (s.cancel handle).holds n = s.holds n := by
  rw [Bool.eq_iff_iff, holds_iff, holds_iff]
  simp only [mem_cancel, other, ne_eq, not_false_iff, and_true]

theorem holds_add_of_lt {s : Numbered α} {x : α} {n : Nat} (lower : n < s.issued) :
    (s.add x).holds n = s.holds n := by
  rw [Bool.eq_iff_iff, holds_iff, holds_iff]
  simp only [mem_add, Nat.ne_of_lt lower, false_and, or_false]

@[simp] theorem issued_cancel (s : Numbered α) (handle : Option Nat) :
    (s.cancel handle).issued = s.issued := by
  cases handle <;> rfl

@[simp] theorem issued_cancelAll (s : Numbered α) (handles : List Nat) :
    (s.cancelAll handles).issued = s.issued := by
  induction handles generalizing s with
  | nil => rfl
  | cons m rest ih => exact ih (s.remove m)

theorem remove_add_of_lt {s : Numbered α} {x : α} {n : Nat} (lower : n < s.issued) :
    (s.add x).remove n = (s.remove n).add x := by
  have last : (s.issued != n) = true := bne_iff_ne.mpr (Nat.ne_of_gt lower)
  simp [add, remove, last]

theorem find?_remove_of_ne {s : Numbered α} {n m : Nat} (other : n ≠ m) :
    (s.remove m).find? n = s.find? n := by
  ext x
  simp only [find?_eq_some_iff, mem_remove, other, ne_eq, not_false_iff, and_true]

theorem find?_add (s : Numbered α) (x : α) (n : Nat) :
    (s.add x).find? n = if n = s.issued then some x else s.find? n := by
  ext y
  rw [find?_eq_some_iff, mem_add]
  split
  · rename_i last
    subst last
    have absent : (s.issued, y) ∉ s.items := fun member => Nat.lt_irrefl _ (lt_issued member)
    simp [absent, eq_comm]
  · rename_i other
    rw [find?_eq_some_iff]
    simp only [other, false_and, or_false]

theorem find?_change (s : Numbered α) (n m : Nat) (f : α → α) :
    (s.change m f).find? n = if n = m then (s.find? n).map f else s.find? n := by
  ext y
  rw [find?_eq_some_iff, mem_change]
  split
  · simp only [Option.map_eq_some_iff, find?_eq_some_iff]
  · simp only [find?_eq_some_iff, exists_eq_right]

theorem remove_remove_comm (s : Numbered α) (n m : Nat) :
    (s.remove n).remove m = (s.remove m).remove n := by
  simp only [remove, List.filter_filter, Bool.and_comm]

theorem change_remove_comm (s : Numbered α) (n m : Nat) (f : α → α) :
    (s.remove n).change m f = (s.change m f).remove n := by
  have same : (fun b : Nat × α => b.1 != n) ∘ (fun b => if b.1 = m then (b.1, f b.2) else b) =
      fun b => b.1 != n := by
    funext b
    simp only [Function.comp]
    split <;> rfl
  simp only [remove, change, List.filter_map, same]

theorem eq_singleton_of_nodup {β : Type} {xs : List β} {b : β} (distinct : xs.Nodup)
    (member : b ∈ xs) (only : ∀ x ∈ xs, x = b) : xs = [b] := by
  match xs with
  | [] => cases member
  | [x] => rw [only x List.mem_cons_self]
  | x :: y :: rest =>
      have first := only x List.mem_cons_self
      have second := only y (List.mem_cons_of_mem x List.mem_cons_self)
      have apart := (List.nodup_cons.mp distinct).1
      rw [first, second] at apart
      exact absurd List.mem_cons_self apart

theorem filter_eq_singleton {s : Numbered α} {p : Nat × α → Bool} {n : Nat} {x : α}
    (member : (n, x) ∈ s.items) (passes : p (n, x) = true)
    (only : ∀ m y, (m, y) ∈ s.items → p (m, y) = true → m = n) :
    s.items.filter p = [(n, x)] := by
  have distinct : s.items.Nodup := List.Pairwise.of_map Prod.fst
    (fun _ _ different same => different (congrArg Prod.fst same)) s.distinct
  refine eq_singleton_of_nodup (distinct.sublist List.filter_sublist)
    (List.mem_filter.mpr ⟨member, passes⟩) ?_
  rintro ⟨m, y⟩ kept
  obtain ⟨other, passed⟩ := List.mem_filter.mp kept
  obtain rfl := only m y other passed
  rw [eq_of_mem other member]

theorem items_remove_add (s : Numbered α) (x : α) :
    ((s.add x).remove s.issued).items = s.items := by
  have kept : s.items.filter (fun b => b.1 != s.issued) = s.items := by
    rw [List.filter_eq_self]
    intro b member
    have lower := s.below b member
    simp only [bne_iff_ne]
    omega
  simp [remove, add, kept]

end Numbered

end Leasehold

import Leasehold.Text.Trim
import Mathlib.Data.List.TakeWhile

/-!
# What is left of a trimmed text

Trimming takes characters of a set from both ends of a text and leaves one that
has none of them there; which text that is, this settles (`trim_eq_iff`).
-/

set_option autoImplicit false

namespace Leasehold.Text

structure Trimmed (set : Char → Bool) (s : List Char) : Prop where
  first : ∀ c ∈ s.head?, set c = false
  last : ∀ c ∈ s.reverse.head?, set c = false

variable {set : Char → Bool} {s t front back : List Char}

theorem head_trimStart (set : Char → Bool) (s : List Char) :
    ∀ c ∈ (trimStart set s).head?, set c = false := by
  intro c head
  have outside := List.head?_dropWhile_not set s
  rw [trimStart, Option.mem_def] at head
  rwa [head] at outside

theorem trimStart_eq_self (first : ∀ c ∈ s.head?, set c = false) : trimStart set s = s := by
  cases s with
  | nil => rfl
  | cons c s => exact List.dropWhile_cons_of_neg (Bool.eq_false_iff.mp (first c rfl))

theorem trimEnd_eq_self (last : ∀ c ∈ s.reverse.head?, set c = false) : trimEnd set s = s := by
  rw [trimEnd, ← trimStart, trimStart_eq_self last, List.reverse_reverse]

theorem trimEnd_append {c : Char} (keeps : set c = false) (a t : List Char) :
    trimEnd set (a ++ c :: t) = a ++ c :: trimEnd set t := by
  unfold trimEnd
  rw [List.reverse_append, List.reverse_cons, List.append_assoc, List.dropWhile_append]
  split
  · rename_i blank
    simp [List.isEmpty_iff.mp blank, keeps]
  · simp

theorem trimEnd_prefix (set : Char → Bool) (s : List Char) : trimEnd set s <+: s := by
  have behind := List.reverse_prefix.mpr (List.dropWhile_suffix set (l := s.reverse))
  rwa [List.reverse_reverse] at behind

theorem trimmed_trim (set : Char → Bool) (s : List Char) : Trimmed set (trim set s) := by
  constructor
  · intro c head
    obtain ⟨back, same⟩ := trimEnd_prefix set (trimStart set s)
    refine head_trimStart set s c ?_
    rw [trim, Option.mem_def] at head
    rw [← same, List.head?_append, head]
    rfl
  · rw [trim, trimEnd, List.reverse_reverse]
    exact head_trimStart set _

theorem trim_append (before : ∀ c ∈ front, set c = true) (behind : ∀ c ∈ back, set c = true)
    (trimmed : Trimmed set t) : trim set (front ++ t ++ back) = t := by
  unfold trim trimStart
  rw [List.append_assoc, List.dropWhile_append_of_pos before]
  cases t with
  | nil =>
      rw [List.nil_append, List.dropWhile_eq_nil_iff.mpr behind]
      rfl
  | cons c t =>
      rw [List.cons_append,
        List.dropWhile_cons_of_neg (Bool.eq_false_iff.mp (trimmed.first c rfl)), ← List.cons_append,
        trimEnd, List.reverse_append,
        List.dropWhile_append_of_pos fun d member => behind d (List.mem_reverse.mp member)]
      exact trimEnd_eq_self trimmed.last

theorem exists_trim (set : Char → Bool) (s : List Char) :
    ∃ front back, (∀ c ∈ front, set c = true) ∧ (∀ c ∈ back, set c = true) ∧
      s = front ++ trim set s ++ back := by
  refine ⟨s.takeWhile set, ((trimStart set s).reverse.takeWhile set).reverse,
    fun c member => ?_, fun c member => ?_, ?_⟩
  · exact List.mem_takeWhile_imp member
  · exact List.mem_takeWhile_imp (List.mem_reverse.mp member)
  · rw [trim, trimEnd, List.append_assoc, ← List.reverse_append, List.takeWhile_append_dropWhile,
      List.reverse_reverse, trimStart, List.takeWhile_append_dropWhile]

/-- Trimming leaves the one text with none of the characters at its ends that is the given one
without some of them. -/
theorem trim_eq_iff : trim set s = t ↔
    Trimmed set t ∧ ∃ front back, (∀ c ∈ front, set c = true) ∧ (∀ c ∈ back, set c = true) ∧
      s = front ++ t ++ back := by
  constructor
  · rintro rfl
    exact ⟨trimmed_trim set s, exists_trim set s⟩
  · rintro ⟨trimmed, front, back, before, behind, rfl⟩
    exact trim_append before behind trimmed

structure Stripped (text core : String) : Prop where
  solid : Trimmed isBlank core.toList
  around : ∃ front back, (∀ c ∈ front, isBlank c = true) ∧ (∀ c ∈ back, isBlank c = true) ∧
    text.toList = front ++ core.toList ++ back

theorem stripped_iff {text core : String} : Stripped text core ↔ trimmed text = core := by
  rw [trimmed, ← String.toList_inj, String.toList_ofList, trim_eq_iff]
  exact ⟨fun ⟨solid, around⟩ => ⟨solid, around⟩, fun ⟨solid, around⟩ => ⟨solid, around⟩⟩

end Leasehold.Text

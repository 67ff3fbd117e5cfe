import Leasehold.Json.Printer
import Leasehold.Json.Tree
import Leasehold.Proofs.Url.Address

/-!
# Strings and integers are read back

What the printer writes of a string is read as one piece for each character: the
character itself, or a code unit for a control character that has no letter of
its own.  What it writes of an integer of 64 bits is read as a sign and its
digits, up to the first character that is no part of a numeral.
-/

set_option autoImplicit false

namespace Leasehold.Json

open Leasehold.Json.Tree (pieces)

/-! ## Strings -/

/-- The piece as which a character is read that has been written. -/
def pieceOf (c : Char) : Piece :=
  if c.toNat < 0x20 ∧ c ∉ ['\x08', '\x0c', '\n', '\r', '\t'] then .unit c.toNat else .char c

theorem hexDigit?_hexChar : ∀ n < 16, Text.hexDigit? (hexChar n) = some n := by decide

theorem pieces_plain {c : Char} (quote : c ≠ '"') (backslash : c ≠ '\\') (s : Source) :
    pieces (some c :: s) =
      if c.toNat < 0x20 then none else (pieces s).map fun (ps, r) => (.char c :: ps, r) := by
  rw [pieces]
  · exact quote
  all_goals simp_all

theorem pieces_unit {n : Nat} (control : n < 0x20) (s : Source) :
    pieces (some '\\' :: some 'u' :: some '0' :: some '0' :: some (hexChar (n / 16)) ::
      some (hexChar (n % 16)) :: s) = (pieces s).map fun (ps, r) => (.unit n :: ps, r) := by
  have zero : Text.hexDigit? '0' = some 0 := by decide
  have high := hexDigit?_hexChar (n / 16) (by omega)
  have low := hexDigit?_hexChar (n % 16) (by omega)
  have whole : ((0 * 16 + 0) * 16 + n / 16) * 16 + n % 16 = n := by omega
  rw [pieces]
  simp only [Option.bind_some, zero, high, low, whole]

theorem pieces_escapeChar (c : Char) (s : Source) :
    pieces ((escapeChar c).map some ++ s) =
      (pieces s).map fun (ps, r) => (pieceOf c :: ps, r) := by
  unfold escapeChar
  split
  · rfl
  · rfl
  · rfl
  · rfl
  · rfl
  · rfl
  · rfl
  · rename_i quote backslash b f n r t
    split
    · rename_i control
      have piece : pieceOf c = .unit c.toNat := by
        unfold pieceOf
        refine if_pos ⟨control, ?_⟩
        simp only [List.mem_cons, List.not_mem_nil, or_false, not_or]
        exact ⟨b, f, n, r, t⟩
      rw [piece]
      exact pieces_unit control s
    · rename_i plain
      have piece : pieceOf c = .char c := by
        unfold pieceOf
        rw [if_neg fun control => plain control.1]
      rw [piece, List.map_singleton, List.singleton_append, pieces_plain quote backslash,
        if_neg plain]

theorem text_pieceOf (c : Char) (ps : List Piece) :
    Piece.text (pieceOf c :: ps) = (Piece.text ps).map (c :: ·) := by
  unfold pieceOf
  split
  · rename_i control
    have below : c.toNat < 0xD800 ∨ 0xDFFF < c.toNat := Or.inl (by omega)
    conv => lhs; unfold Piece.text
    simp only [below, if_true, Char.ofNat_toNat]
  · rfl

theorem pieces_quoted (s : List Char) (rest : Source) :
    pieces ((s.flatMap escapeChar).map some ++ some '"' :: rest) = some (s.map pieceOf, rest) := by
  induction s with
  | nil => rfl
  | cons c s ih =>
      rw [List.flatMap_cons, List.map_append, List.append_assoc, pieces_escapeChar, ih]
      rfl

theorem text_pieces (s : List Char) : Piece.text (s.map pieceOf) = some s := by
  induction s with
  | nil => rfl
  | cons c s ih =>
      rw [List.map_cons, text_pieceOf, ih]
      rfl

theorem stringFrom_quoted (s : List Char) (rest : Source) :
    Tree.stringFrom ((s.flatMap escapeChar).map some ++ some '"' :: rest) =
      some (some (String.ofList s), rest) := by
  simp only [Tree.stringFrom, pieces_quoted, Option.map_some, text_pieces]

/-! ## Integers -/

def digitsOf (n : Nat) : List Nat := (Nat.toDigits 10 n).map fun c => c.toNat - 48

def integerNumeral (i : Int) : Numeral := ⟨decide (i < 0), digitsOf i.natAbs, none, none⟩

/-- What may follow a value in a text: nothing, or what goes on in an array or an object. -/
def Ends (s : Source) : Prop := ∀ c r, s = some c :: r → c = ',' ∨ c = ']' ∨ c = '}'

variable {n : Nat} {i : Int} {rest : Source}

theorem numberText_integer (i : Int) :
    numberText (.integer i) = (if i < 0 then ['-'] else []) ++ Nat.toDigits 10 i.natAbs := by
  cases i with
  | ofNat n => exact Text.toList_toString n
  | negSucc n =>
      have text : numberText (.integer (Int.negSucc n)) =
          ("-" ++ toString (n + 1)).toList := rfl
      rw [text, String.toList_append, Text.toList_toString, if_pos (Int.negSucc_lt_zero n)]
      rfl

theorem digit?_of_isDigit {c : Char} (digit : c.isDigit = true) :
    Tree.digit? (some c) = some (c.toNat - 48) := by
  have bounds : '0' ≤ c ∧ c ≤ '9' := by
    simpa [Char.isDigit, Char.le_def] using digit
  exact if_pos bounds

theorem digits_of_ends (ends : Ends rest) : Tree.digits rest = ([], rest) := by
  cases rest with
  | nil => rfl
  | cons unit r =>
      have none : Tree.digit? unit = none := by
        cases unit with
        | none => rfl
        | some c => rcases ends c r rfl with rfl | rfl | rfl <;> rfl
      rw [Tree.digits, none]

theorem digits_append {ds : List Char} (digits : ∀ c ∈ ds, c.isDigit = true) (ends : Ends rest) :
    Tree.digits (ds.map some ++ rest) = (ds.map fun c => c.toNat - 48, rest) := by
  induction ds with
  | nil => exact digits_of_ends ends
  | cons c ds ih =>
      have later := ih fun d member => digits d (List.mem_cons_of_mem c member)
      rw [List.map_cons, List.cons_append, Tree.digits,
        digit?_of_isDigit (digits c List.mem_cons_self), later]
      rfl

theorem digitsOf_ne_nil (n : Nat) : digitsOf n ≠ [] :=
  fun none => Nat.toDigits_ne_nil (List.map_eq_nil_iff.mp none)

theorem digitsOf_ne_zero_cons (n : Nat) (d : Nat) (ds : List Nat) : digitsOf n ≠ 0 :: d :: ds := by
  intro zero
  rcases Nat.eq_zero_or_pos n with rfl | positive
  · cases zero
  · have first := Text.head?_toDigits positive
    unfold digitsOf at zero
    cases text : Nat.toDigits 10 n with
    | nil => exact Nat.toDigits_ne_nil text
    | cons c cs =>
        have digit : c.isDigit = true := Text.isDigit_of_mem (text ▸ List.mem_cons_self)
        rw [text] at zero first
        have value : c.toNat - 48 = 0 := (List.cons.inj zero).1
        have low : 48 ≤ c.toNat := by
          have bounds : '0' ≤ c ∧ c ≤ '9' := by
            simpa [Char.isDigit, Char.le_def] using digit
          exact bounds.1
        have code : '0'.toNat = 48 := rfl
        have same : c = '0' := Char.toNat_inj.mp (by omega)
        exact first (same ▸ rfl)

/-- The digits of a number are read up to where the numeral ends. -/
theorem numeralFrom_toDigits (negative : Bool) (n : Nat) (ends : Ends rest) :
    Tree.numeralFrom negative ((Nat.toDigits 10 n).map some ++ rest) =
      some (.numeral ⟨negative, digitsOf n, none, none⟩, rest) := by
  have digits : Tree.digits ((Nat.toDigits 10 n).map some ++ rest) = (digitsOf n, rest) :=
    digits_append (fun c member => Text.isDigit_of_mem member) ends
  have whole : Tree.wholeDigits ((Nat.toDigits 10 n).map some ++ rest) =
      some (digitsOf n, rest) := by
    have some : Tree.digits1 ((Nat.toDigits 10 n).map some ++ rest) = some (digitsOf n, rest) := by
      rw [Tree.digits1, digits]
      split
      · rename_i none
        exact absurd (Prod.mk.inj none).1 (digitsOf_ne_nil n)
      · rfl
    rw [Tree.wholeDigits, some]
    split
    · rename_i zero
      exact absurd (Prod.mk.inj (Option.some.inj zero)).1 (digitsOf_ne_zero_cons n _ _)
    · rfl
  have fraction : Tree.fractionPart rest = some (none, rest) := by
    unfold Tree.fractionPart
    split
    · rcases ends _ _ rfl with other | other | other <;> cases other
    · rfl
  have exponent : Tree.exponentPart rest = some (none, rest) := by
    unfold Tree.exponentPart
    split
    · rcases ends _ _ rfl with other | other | other <;> cases other
    · rcases ends _ _ rfl with other | other | other <;> cases other
    · rfl
  simp only [Tree.numeralFrom, whole, fraction, exponent, Option.bind_eq_bind, Option.bind_some]
  rfl

theorem le_ofDigitChars (ds : List Char) (a : Nat) : a ≤ Nat.ofDigitChars 10 ds a := by
  induction ds generalizing a with
  | nil => exact Nat.le_refl a
  | cons c ds ih =>
      rw [Nat.ofDigitChars_cons]
      have later := ih (10 * a + (c.toNat - '0'.toNat))
      omega

theorem take64_of_lt {ds : List Char} {a : Nat} (fits : Nat.ofDigitChars 10 ds a < UInt64.size) :
    Numeral.take64 a (ds.map fun c => c.toNat - 48) = (Nat.ofDigitChars 10 ds a, []) := by
  induction ds generalizing a with
  | nil => rfl
  | cons c ds ih =>
      rw [Nat.ofDigitChars_cons, Nat.mul_comm] at fits ⊢
      have below : a * 10 + (c.toNat - 48) < UInt64.size :=
        Nat.lt_of_le_of_lt (le_ofDigitChars ds _) fits
      rw [List.map_cons, Numeral.take64, if_pos below]
      exact ih fits

theorem number?_integerNumeral (low : -9223372036854775808 ≤ i) (high : i < UInt64.size) :
    (integerNumeral i).number? = some (.integer i) := by
  have taken : Numeral.take64 0 (digitsOf i.natAbs) = (i.natAbs, []) := by
    have value := Nat.ofDigitChars_ten_toDigits (n := i.natAbs)
    have fits : Nat.ofDigitChars 10 (Nat.toDigits 10 i.natAbs) 0 < UInt64.size := by
      rw [value]
      have size : UInt64.size = 18446744073709551616 := rfl
      omega
    rw [digitsOf, take64_of_lt fits, value]
  unfold Numeral.number? integerNumeral
  dsimp only
  rw [taken]
  by_cases negative : i < 0
  · have some : i.natAbs ≠ 0 := by omega
    have inside : ¬ 9223372036854775808 < i.natAbs := by omega
    have value : -(i.natAbs : Int) = i := by omega
    rw [if_neg (by simp), if_neg (by simp [negative]), if_neg (not_or.mpr ⟨some, inside⟩), value]
  · have value : (i.natAbs : Int) = i := by omega
    rw [if_neg (by simp), if_pos (by simp [negative]), value]

end Leasehold.Json

import Leasehold.Proofs.Text.Utf8
import Leasehold.Proofs.Url.Address
import Leasehold.Url.Parser

/-!
# Hosts are read from their texts

The host of a web server is shown as a domain name in ASCII or as the text of an
address (`specialHost_proper`).  Read again, it is the same host
(`Host.Proper.read`): nothing in it is an escape or is folded.
-/

set_option autoImplicit false

namespace Leasehold

/-! ## Characters of ASCII -/

namespace Utf8

theorem encodeChar_ascii {c : Char} (ascii : c.toNat < 128) : encodeChar c = [c.toNat.toUInt8] := by
  unfold encodeChar
  rw [if_pos ascii]

theorem encode_cons_ascii {c : Char} (ascii : c.toNat < 128) (s : List Char) :
    encode (c :: s) = c.toNat.toUInt8 :: encode s := by
  unfold encode
  rw [List.flatMap_cons, encodeChar_ascii ascii]
  rfl

end Utf8

theorem Percent.decode_plain {s : List Char} (ascii : ∀ c ∈ s, c.toNat < 128) (plain : '%' ∉ s) :
    decode s = Utf8.encode s := by
  unfold decode
  induction s with
  | nil => rfl
  | cons c s ih =>
      obtain ⟨other, later⟩ := not_or.mp (mt List.mem_cons.mpr plain)
      have first := ascii c List.mem_cons_self
      have rest := ih (fun d member => ascii d (List.mem_cons_of_mem c member)) later
      have octet : c.toNat.toUInt8 ≠ 37 := by
        intro same
        have value := congrArg UInt8.toNat same
        rw [Utf8.toNat_toUInt8 (by omega)] at value
        exact other (Char.toNat_inj.mp value.symm)
      rw [Utf8.encode_cons_ascii first]
      generalize Utf8.encode s = os at rest ⊢
      match os with
      | [] => rfl
      | [o] => rfl
      | o :: p :: tail => rw [decodeOctets, if_neg octet, rest]

/-! ## Domain names -/

namespace Domain

variable {s : List Char}

theorem joinLabels_cons (c : Char) (label : List Char) (labels : List (List Char)) :
    joinLabels ((c :: label) :: labels) = c :: joinLabels (label :: labels) := by
  cases labels <;> rfl

theorem joinLabels_splitAt (s : List Char) : joinLabels (Text.splitAt '.' s) = s := by
  induction s with
  | nil => rfl
  | cons c s ih =>
      obtain ⟨first, rest, split⟩ := Text.splitAt_eq_cons '.' s
      unfold Text.splitAt
      by_cases dot : c = '.'
      · rw [if_pos dot, split, joinLabels, ← split, ih, dot]
        · rfl
        · simp
      · rw [if_neg dot, split]
        dsimp only
        rw [joinLabels_cons, ← split, ih]

theorem mem_splitAt {c : Char} (member : c ∈ s) :
    c = '.' ∨ ∃ label ∈ Text.splitAt '.' s, c ∈ label := by
  induction s with
  | nil => cases member
  | cons d s ih =>
      obtain ⟨first, rest, split⟩ := Text.splitAt_eq_cons '.' s
      unfold Text.splitAt
      by_cases dot : d = '.'
      · rw [if_pos dot]
        rcases List.mem_cons.mp member with rfl | later
        · exact Or.inl dot
        · rcases ih later with same | ⟨label, there, inside⟩
          · exact Or.inl same
          · exact Or.inr ⟨label, List.mem_cons_of_mem _ there, inside⟩
      · rw [if_neg dot, split]
        dsimp only
        rcases List.mem_cons.mp member with rfl | later
        · exact Or.inr ⟨_, List.mem_cons_self, List.mem_cons_self⟩
        · rcases ih later with same | ⟨label, there, inside⟩
          · exact Or.inl same
          · rw [split] at there
            rcases List.mem_cons.mp there with rfl | behind
            · exact Or.inr ⟨_, List.mem_cons_self, List.mem_cons_of_mem d inside⟩
            · exact Or.inr ⟨label, List.mem_cons_of_mem _ behind, inside⟩

theorem chars_of_valid (valid : valid s = true) :
    ∀ c ∈ s, c.toNat < 128 ∧ forbidden c = false ∧ c.toLower = c := by
  intro c member
  rcases mem_splitAt member with rfl | ⟨label, there, inside⟩
  · decide
  · have labels := (Bool.and_eq_true_iff.mp valid).1
    have chars := (Bool.and_eq_true_iff.mp (List.all_eq_true.mp labels label there)).1
    simpa [and_assoc] using List.all_eq_true.mp chars c inside

theorem toAscii?_of_valid (valid : Domain.valid s = true) : toAscii? s = some s := by
  have chars := chars_of_valid valid
  have folded : s.mapM fold = some (s.map fun c => [c]) := by
    refine mapM_of_forall fun c member => ?_
    obtain ⟨ascii, -, lower⟩ := chars c member
    unfold fold
    rw [if_pos ascii, lower]
  have composed : compose (s.map fun c => [c]).flatten = s := by
    have same : (s.map fun c => [c]).flatten = s := by
      rw [← List.flatMap_def, List.flatMap_singleton']
    rw [same]
    unfold compose
    refine if_pos (List.all_eq_true.mpr fun c member => decide_eq_true ?_)
    exact Nat.lt_trans (chars c member).1 (by decide)
  have labels : (Text.splitAt '.' s).mapM asciiLabel? = some (Text.splitAt '.' s) := by
    have kept := mapM_of_forall (l := Text.splitAt '.' s) (f := asciiLabel?) (g := id)
      fun label member => ?_
    · rwa [List.map_id] at kept
    · have labels := (Bool.and_eq_true_iff.mp valid).1
      have chars := (Bool.and_eq_true_iff.mp (List.all_eq_true.mp labels label member)).1
      unfold asciiLabel?
      refine if_pos (List.all_eq_true.mpr fun c inside => ?_)
      have all := List.all_eq_true.mp chars c inside
      simp only [Bool.and_eq_true] at all
      exact all.1.1
  unfold toAscii?
  rw [folded]
  simp only [Option.bind_eq_bind, Option.bind_some]
  rw [composed, labels]
  simp only [Option.bind_some]
  rw [joinLabels_splitAt, if_pos valid]

/-! ## Names of digits -/

theorem digit_plain : ∀ n < 58, 48 ≤ n →
    (Char.ofNat n).toNat < 128 ∧ forbidden (Char.ofNat n) = false ∧
      (Char.ofNat n).toLower = Char.ofNat n := by decide

theorem plain_of_isDigit {c : Char} (digit : c.isDigit = true) :
    c.toNat < 128 ∧ forbidden c = false ∧ c.toLower = c := by
  have bounds : 48 ≤ c.toNat ∧ c.toNat ≤ 57 := by
    simpa [Char.isDigit, Char.le_def, UInt32.le_iff_toNat_le] using digit
  have plain := digit_plain c.toNat (by omega) bounds.1
  rwa [Char.ofNat_toNat] at plain

theorem take_ne_sign {label : List Char} (digits : ∀ c ∈ label, c.isDigit = true) :
    label.take 4 ≠ sign := by
  intro same
  have first : 'x' ∈ label.take 4 := by
    rw [same]
    exact List.mem_cons_self
  exact absurd (digits 'x' (List.mem_of_mem_take first)) (by decide)

theorem validLabel_of_digits {label : List Char} (digits : ∀ c ∈ label, c.isDigit = true) :
    validLabel label = true := by
  unfold validLabel
  rw [Bool.and_eq_true]
  refine ⟨List.all_eq_true.mpr fun c member => ?_, ?_⟩
  · obtain ⟨ascii, allowed, lower⟩ := plain_of_isDigit (digits c member)
    simp [ascii, allowed, lower]
  · simp [take_ne_sign digits]

theorem valid_of_digits (digits : ∀ label ∈ Text.splitAt '.' s, ∀ c ∈ label, c.isDigit = true) :
    valid s = true := by
  unfold valid
  dsimp only
  rw [Bool.and_eq_true]
  refine ⟨List.all_eq_true.mpr fun label member => validLabel_of_digits (digits label member), ?_⟩
  have shown : (Text.splitAt '.' s).map shownLabel = Text.splitAt '.' s := by
    refine (List.map_congr_left fun label member => ?_).trans (List.map_id _)
    unfold shownLabel
    exact if_neg (take_ne_sign (digits label member))
  have left : (Text.splitAt '.' s).any (·.any fromRight) = false := by
    refine List.any_eq_false.mpr fun label member => ?_
    rw [Bool.not_eq_true, List.any_eq_false]
    intro c inside
    have ascii := (plain_of_isDigit (digits label member c inside)).1
    unfold fromRight
    rw [decide_eq_false (by omega), Bool.false_and]
    exact Bool.false_ne_true
  unfold directionsFit
  rw [shown, left]
  rfl

theorem valid_ipv4Text (a : Nat) : valid (Address.ipv4Text a) = true := by
  refine valid_of_digits fun label member c inside => ?_
  rw [Address.splitAt_ipv4Text] at member
  simp only [List.mem_cons, List.not_mem_nil, or_false] at member
  rcases member with rfl | rfl | rfl | rfl <;> exact Text.isDigit_of_mem inside

end Domain

namespace Url

open Address (ipv4Text ipv6Text hexChar)

inductive Host.Proper : Host → Prop
  | domain (name : List Char) (valid : Domain.valid name = true) (nonempty : name ≠ [])
      (word : Address.endsInNumber name = false) : Proper (.domain (String.ofList name))
  | ipv4 (a : Nat) (fits : a < 2 ^ 32) : Proper (.ipv4 a)
  | ipv6 (ps : List Nat) (eight : ps.length = 8) (small : ∀ n ∈ ps, n < 65536) : Proper (.ipv6 ps)

variable {s : List Char} {h : Host}

theorem bracketedHost_proper (read : bracketedHost s = .ok h) : h.Proper := by
  unfold bracketedHost at read
  split at read
  · split at read
    · rename_i found
      cases read
      obtain ⟨eight, small⟩ := Address.ipv6?_sound found
      exact .ipv6 _ eight small
    · cases read
  · cases read

theorem specialHost_proper (read : specialHost s = .ok h) : h.Proper := by
  unfold specialHost at read
  split at read
  · exact bracketedHost_proper read
  · simp only [bind, Except.bind, pure, Except.pure, throw, throwThe, MonadExceptOf.throw] at read
    split at read
    · split at read
      · rename_i name named
        split at read
        · cases read
        rename_i full
        have nonempty : name ≠ [] := fun empty => full (List.isEmpty_iff.mpr empty)
        split at read
        · split at read
          · rename_i a address
            cases read
            exact .ipv4 a (Address.ipv4?_lt address)
          · cases read
        · rename_i word
          cases read
          exact .domain name (Domain.toAscii?_valid named) nonempty (Bool.eq_false_iff.mpr word)
      · cases read
    · cases read

theorem specialHost_of_valid {name : List Char} (valid : Domain.valid name = true)
    (nonempty : name ≠ []) :
    specialHost name =
      if Address.endsInNumber name then
        match Address.ipv4? name with
        | some a => .ok (.ipv4 a)
        | none => .error .invalidIpv4
      else .ok (.domain (String.ofList name)) := by
  have chars := Domain.chars_of_valid valid
  have plain (c : Char) (refused : Domain.forbidden c = true) : c ∉ name := by
    intro member
    cases (chars c member).2.1.symm.trans refused
  have decoded : (Utf8.scan (Percent.decode name)).mapM id = some name := by
    rw [Percent.decode_plain (fun c member => (chars c member).1) (plain '%' (by decide)),
      Utf8.scan_encode]
    have read := mapM_of_forall (l := name.map some) (f := id) (g := fun c => c.getD ' ')
      fun c member => ?_
    · simpa [Function.comp_def] using read
    · obtain ⟨d, -, rfl⟩ := List.mem_map.mp member
      rfl
  unfold specialHost
  split
  · exact absurd List.mem_cons_self (plain '[' (by decide))
  · rw [decoded]
    simp only [bind, Except.bind, pure, Except.pure, throw, throwThe, MonadExceptOf.throw]
    rw [Domain.toAscii?_of_valid valid]
    exact if_neg fun empty => nonempty (List.isEmpty_iff.mp empty)

theorem Host.Proper.read (proper : h.Proper) : specialHost h.text = .ok h := by
  cases proper with
  | domain name valid nonempty word =>
      rw [Host.text, String.toList_ofList, specialHost_of_valid valid nonempty,
        if_neg (by simp [word])]
  | ipv4 a fits =>
      have nonempty : ipv4Text a ≠ [] := by simp [ipv4Text]
      rw [Host.text, specialHost_of_valid (Domain.valid_ipv4Text a) nonempty,
        if_pos (Address.endsInNumber_ipv4Text a), Address.ipv4?_text fits]
  | ipv6 ps eight small =>
      have last : ('[' :: ipv6Text ps ++ [']']).getLast? = some ']' := List.getLast?_concat
      have inside : (('[' :: ipv6Text ps ++ [']']).drop 1).dropLast = ipv6Text ps :=
        List.dropLast_concat
      show bracketedHost ('[' :: ipv6Text ps ++ [']']) = _
      unfold bracketedHost
      rw [if_pos last, inside, Address.ipv6?_text eight small]

end Url

end Leasehold

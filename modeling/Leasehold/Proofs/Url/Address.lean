import Leasehold.Url.Address
import Mathlib.Algebra.Group.Nat.Defs

/-!
# Addresses are read from their texts

The text of an address is one of many that write it, and is read as that address
again.  For IPv4 this is so since a decimal number has no zero in front
(`ipv4?_text`).  For IPv6 the pieces of the text are read one by one, and the gap
is filled with the zeros that were left out for it (`ipv6?_text`).
-/

set_option autoImplicit false

namespace Leasehold

/-! ## Lists that are read one by one -/

section Lists

variable {α β : Type} {f : α → Option β} {l : List α} {found : List β}

theorem length_of_mapM (mapped : l.mapM f = some found) : found.length = l.length := by
  induction l generalizing found with
  | nil =>
      cases mapped
      rfl
  | cons a l ih =>
      rw [List.mapM_cons] at mapped
      obtain ⟨b, -, mapped⟩ := Option.bind_eq_some_iff.mp mapped
      obtain ⟨later, rest, same⟩ := Option.bind_eq_some_iff.mp mapped
      cases same
      exact congrArg Nat.succ (ih rest)

theorem forall_of_mapM {P : β → Prop} (each : ∀ a b, f a = some b → P b)
    (mapped : l.mapM f = some found) : ∀ b ∈ found, P b := by
  induction l generalizing found with
  | nil =>
      cases mapped
      exact nofun
  | cons a l ih =>
      rw [List.mapM_cons] at mapped
      obtain ⟨b, first, mapped⟩ := Option.bind_eq_some_iff.mp mapped
      obtain ⟨later, rest, same⟩ := Option.bind_eq_some_iff.mp mapped
      cases same
      exact List.forall_mem_cons.mpr ⟨each a b first, ih rest⟩

theorem mapM_of_forall {g : α → β} (each : ∀ a ∈ l, f a = some (g a)) :
    l.mapM f = some (l.map g) := by
  induction l with
  | nil => rfl
  | cons a l ih =>
      rw [List.mapM_cons, each a List.mem_cons_self,
        ih fun b member => each b (List.mem_cons_of_mem a member)]
      rfl

end Lists

namespace Text

/-! ## Parts between separators -/

theorem splitAt_eq_cons (sep : Char) (s : List Char) :
    ∃ first rest, splitAt sep s = first :: rest := by
  cases s with
  | nil => exact ⟨[], [], rfl⟩
  | cons c s =>
      unfold splitAt
      split
      · exact ⟨[], _, rfl⟩
      · split <;> exact ⟨_, _, rfl⟩

theorem splitAt_append (sep : Char) (s rest : List Char) :
    splitAt sep (s ++ sep :: rest) = splitAt sep s ++ splitAt sep rest := by
  induction s with
  | nil => simp [splitAt]
  | cons c s ih =>
      obtain ⟨first, more, split⟩ := splitAt_eq_cons sep s
      rw [split] at ih
      rw [List.cons_append, splitAt, splitAt, ih, split]
      split <;> rfl

theorem splitAt_free {sep : Char} {p : List Char} (free : sep ∉ p) : splitAt sep p = [p] := by
  induction p with
  | nil => rfl
  | cons c p ih =>
      obtain ⟨other, later⟩ := not_or.mp (mt List.mem_cons.mpr free)
      rw [splitAt, if_neg (Ne.symm other), ih later]

theorem mem_of_mem_splitAt {sep c : Char} {s p : List Char} (part : p ∈ splitAt sep s)
    (member : c ∈ p) : c ∈ s := by
  induction s generalizing p with
  | nil =>
      obtain rfl := List.mem_singleton.mp part
      exact member
  | cons d s ih =>
      obtain ⟨first, rest, split⟩ := splitAt_eq_cons sep s
      rw [splitAt, split] at part
      rw [split] at ih
      split at part
      · rcases List.mem_cons.mp part with rfl | later
        · cases member
        · exact List.mem_cons_of_mem d (ih later member)
      · rcases List.mem_cons.mp part with rfl | later
        · rcases List.mem_cons.mp member with rfl | inside
          · exact List.mem_cons_self
          · exact List.mem_cons_of_mem d (ih List.mem_cons_self inside)
        · exact List.mem_cons_of_mem d (ih (List.mem_cons_of_mem first later) member)

/-! ## Decimal numbers -/

theorem toList_toString (n : Nat) : (toString n).toList = Nat.toDigits 10 n := Nat.toList_repr

theorem isDigit_of_mem {n : Nat} {c : Char} (member : c ∈ Nat.toDigits 10 n) : c.isDigit = true :=
  Nat.isDigit_of_mem_toDigits (by decide) (by decide) member

theorem digitValue?_of_isDigit {c : Char} (digit : c.isDigit = true) :
    digitValue? 10 c = some (c.toNat - 48) := by
  have bounds : '0' ≤ c ∧ c ≤ '9' := by
    simpa [Char.isDigit, Char.le_def] using digit
  have below : c.toNat ≤ 57 := bounds.2
  unfold digitValue?
  rw [if_pos bounds, if_pos (by omega)]

theorem number?_of_digits {ds : List Char} (digits : ∀ c ∈ ds, c.isDigit = true) (start : Nat) :
    ds.foldlM (fun n c => (digitValue? 10 c).map (n * 10 + ·)) start =
      some (Nat.ofDigitChars 10 ds start) := by
  induction ds generalizing start with
  | nil => rfl
  | cons c ds ih =>
      rw [List.foldlM_cons, digitValue?_of_isDigit (digits c List.mem_cons_self)]
      rw [Nat.ofDigitChars_cons, Nat.mul_comm 10 start]
      exact ih (fun d member => digits d (List.mem_cons_of_mem c member)) _

theorem number?_toDigits (n : Nat) : number? 10 (Nat.toDigits 10 n) = some n := by
  rw [number?, number?_of_digits (fun c member => isDigit_of_mem member),
    Nat.ofDigitChars_ten_toDigits]

theorem digitValue?_lt {radix v : Nat} {c : Char} (found : digitValue? radix c = some v) :
    v < radix := by
  unfold digitValue? at found
  dsimp only at found
  generalize (if '0' ≤ c ∧ c ≤ '9' then c.toNat - 48 else if 'a' ≤ c ∧ c ≤ 'f' then c.toNat - 87
    else if 'A' ≤ c ∧ c ≤ 'F' then c.toNat - 55 else 16) = value at found
  split at found
  · rename_i small
    cases found
    exact small
  · cases found

theorem head?_toDigits {n : Nat} (positive : 0 < n) : (Nat.toDigits 10 n).head? ≠ some '0' := by
  induction n using Nat.strongRecOn with
  | ind n ih =>
      by_cases small : n < 10
      · rw [Nat.toDigits_of_lt_base small, List.head?_cons]
        revert positive
        clear ih
        decide +revert
      · rw [Nat.toDigits_of_base_le (by decide) (by omega), List.head?_append]
        have first := ih (n / 10) (by omega) (by omega)
        cases head : (Nat.toDigits 10 (n / 10)).head? with
        | none => exact absurd (List.head?_eq_none_iff.mp head) Nat.toDigits_ne_nil
        | some c => rwa [head] at first

end Text

namespace Address

open Text (digitValue? number? splitAt)

/-! ## IPv4 -/

theorem ipv4Number?_toDigits (n : Nat) : ipv4Number? (Nat.toDigits 10 n) = some n := by
  have read := Text.number?_toDigits n
  rcases Nat.eq_zero_or_pos n with rfl | positive
  · rfl
  · have first := Text.head?_toDigits positive
    unfold ipv4Number?
    split
    · rename_i empty
      exact absurd empty Nat.toDigits_ne_nil
    · rename_i zero
      exact absurd (by rw [zero]; rfl) first
    · rename_i zero
      exact absurd (by rw [zero]; rfl) first
    · rename_i zero
      exact absurd (by rw [zero]; rfl) first
    · exact read

theorem dot_not_mem_toDigits (n : Nat) : '.' ∉ Nat.toDigits 10 n :=
  fun member => absurd (Text.isDigit_of_mem member) (by decide)

theorem ipv4Text_eq (a : Nat) : ipv4Text a =
    Nat.toDigits 10 (a / 16777216 % 256) ++ '.' :: (Nat.toDigits 10 (a / 65536 % 256) ++
      '.' :: (Nat.toDigits 10 (a / 256 % 256) ++ '.' :: Nat.toDigits 10 (a % 256))) := by
  simp only [ipv4Text, Text.toList_toString, List.append_assoc, List.cons_append]

theorem splitAt_ipv4Text (a : Nat) : splitAt '.' (ipv4Text a) =
    [Nat.toDigits 10 (a / 16777216 % 256), Nat.toDigits 10 (a / 65536 % 256),
      Nat.toDigits 10 (a / 256 % 256), Nat.toDigits 10 (a % 256)] := by
  simp only [ipv4Text_eq, Text.splitAt_append, Text.splitAt_free (dot_not_mem_toDigits _)]
  rfl

theorem dottedParts_ipv4Text (a : Nat) : dottedParts (ipv4Text a) =
    [Nat.toDigits 10 (a / 16777216 % 256), Nat.toDigits 10 (a / 65536 % 256),
      Nat.toDigits 10 (a / 256 % 256), Nat.toDigits 10 (a % 256)] := by
  unfold dottedParts
  rw [splitAt_ipv4Text]
  exact if_neg fun empty => Nat.toDigits_ne_nil (Option.some.inj empty.2)

theorem endsInNumber_ipv4Text (a : Nat) : endsInNumber (ipv4Text a) = true := by
  unfold endsInNumber
  rw [dottedParts_ipv4Text]
  simp [ipv4Number?_toDigits]

/-- Octets leave as much to what stands behind them as the places behind them hold. -/
theorem octets_le (leading : List Nat) (place : Nat) (few : place + leading.length ≤ 4)
    (octets : ∀ x ∈ leading, x ≤ 255) (n : Nat) :
    (leading.zipIdx place).foldl (fun n (x, i) => n + x * Nat.pow 256 (3 - i)) n +
        256 ^ (4 - (place + leading.length)) ≤ n + 256 ^ (4 - place) := by
  induction leading generalizing place n with
  | nil => exact Nat.le_refl _
  | cons x leading ih =>
      rw [List.length_cons] at few ⊢
      have later := ih (place + 1) (by omega)
        (fun y member => octets y (List.mem_cons_of_mem x member)) (n + x * 256 ^ (3 - place))
      have first : (x + 1) * 256 ^ (3 - place) ≤ 256 * 256 ^ (3 - place) :=
        Nat.mul_le_mul_right _ (Nat.succ_le_succ (octets x List.mem_cons_self))
      have whole : 256 ^ (4 - place) = 256 * 256 ^ (3 - place) := by
        rw [show 4 - place = (3 - place) + 1 by omega, Nat.pow_succ, Nat.mul_comm]
      rw [Nat.add_mul, Nat.one_mul] at first
      rw [show 4 - (place + 1) = 3 - place by omega, Nat.add_right_comm place 1,
        Nat.add_assoc place] at later
      rw [List.zipIdx_cons, List.foldl_cons, whole]
      exact Nat.le_trans later (by omega)

theorem ipv4?_lt {s : List Char} {a : Nat} (read : ipv4? s = some a) : a < 2 ^ 32 := by
  unfold ipv4? at read
  simp only [Option.bind_eq_bind, Option.pure_def] at read
  split at read
  · cases read
  rename_i few
  obtain ⟨numbers, mapped, read⟩ := Option.bind_eq_some_iff.mp read
  obtain ⟨last, found, read⟩ := Option.bind_eq_some_iff.mp read
  have count : numbers.length ≤ 4 := by
    rw [length_of_mapM mapped]
    omega
  obtain ⟨leading, rfl⟩ := List.getLast?_eq_some_iff.mp found
  rw [List.dropLast_concat] at read
  rw [List.length_append, List.length_singleton] at count
  split at read
  · cases read
  rename_i octets
  split at read
  · cases read
  rename_i fits
  cases read
  have bound := octets_le leading 0 (by omega) (by simpa using octets) last
  rw [Nat.zero_add] at bound
  have room : last < 256 ^ (4 - leading.length) := Nat.not_le.mp fits
  exact Nat.add_lt_add_iff_right.mp (Nat.lt_of_le_of_lt bound (by omega))

theorem ipv4?_text {a : Nat} (small : a < 2 ^ 32) : ipv4? (ipv4Text a) = some a := by
  have octet (n : Nat) : n % 256 ≤ 255 := Nat.le_of_lt_succ (Nat.mod_lt n (by decide))
  have sum : a % 256 + a / 16777216 % 256 * 16777216 + a / 65536 % 256 * 65536 +
      a / 256 % 256 * 256 = a := by omega
  unfold ipv4?
  rw [dottedParts_ipv4Text]
  simp only [List.mapM_cons, List.mapM_nil, ipv4Number?_toDigits]
  simpa [octet, Nat.mod_lt] using sum

/-! ## The pieces of IPv6 -/

def Stops (s : List Char) : Prop := ∀ c rest, s = c :: rest → digitValue? 16 c = none

theorem stops_nil : Stops [] := nofun

theorem stops_colon (s : List Char) : Stops (':' :: s) := by
  rintro c rest ⟨⟩
  decide

theorem piece_of_stops {s : List Char} (stops : Stops s) (k : Nat) : piece k s = (0, 0, s) := by
  cases k with
  | zero => rfl
  | succ k =>
      cases s with
      | nil => rfl
      | cons c rest => simp only [piece, stops c rest rfl]

def hexChar (d : Nat) : Char := if d < 10 then Char.ofNat (48 + d) else Char.ofNat (87 + d)

theorem digitValue?_hexChar : ∀ d < 16, digitValue? 16 (hexChar d) = some d := by decide

theorem hexChar_ne_colon : ∀ d < 16, hexChar d ≠ ':' := by decide

theorem piece_hexChar {d : Nat} (digit : d < 16) (k : Nat) (s : List Char) :
    piece (k + 1) (hexChar d :: s) =
      (d * Nat.pow 16 (piece k s).2.1 + (piece k s).1, (piece k s).2.1 + 1, (piece k s).2.2) := by
  simp only [piece, digitValue?_hexChar d digit]

theorem hexReversed_succ (fuel n : Nat) : hexReversed (fuel + 1) n =
    hexChar (n % 16) :: if n < 16 then [] else hexReversed fuel (n / 16) := by
  rw [hexReversed]
  split <;> rfl

theorem length_hexReversed_le (fuel n : Nat) : (hexReversed fuel n).length ≤ fuel := by
  induction fuel generalizing n with
  | zero => exact Nat.le_refl 0
  | succ fuel ih =>
      rw [hexReversed_succ, List.length_cons]
      split
      · exact Nat.succ_le_succ (Nat.zero_le fuel)
      · exact Nat.succ_le_succ (ih (n / 16))

theorem piece_hexReversed {fuel n k m used : Nat} {s rest : List Char} (small : n < 16 ^ fuel)
    (read : piece k s = (m, used, rest)) :
    piece (k + (hexReversed fuel n).length) ((hexReversed fuel n).reverse ++ s) =
      (n * 16 ^ used + m, used + (hexReversed fuel n).length, rest) := by
  induction fuel generalizing n k m used s with
  | zero =>
      obtain rfl : n = 0 := by simpa using small
      simpa [hexReversed] using read
  | succ fuel ih =>
      have last : n % 16 < 16 := Nat.mod_lt n (by decide)
      have behind : piece (k + 1) (hexChar (n % 16) :: s) =
          (n % 16 * 16 ^ used + m, used + 1, rest) := by
        rw [piece_hexChar last, read]
        rfl
      rw [hexReversed_succ]
      split
      · rename_i one
        rw [Nat.mod_eq_of_lt one] at behind ⊢
        exact behind
      · have before : n / 16 < 16 ^ fuel := by
          rw [Nat.pow_succ] at small
          omega
        have value : n / 16 * 16 ^ (used + 1) + (n % 16 * 16 ^ used + m) = n * 16 ^ used + m := by
          rw [Nat.pow_succ, Nat.mul_comm (16 ^ used), ← Nat.mul_assoc, ← Nat.add_assoc,
            ← Nat.add_mul, Nat.mul_comm (n / 16), Nat.div_add_mod]
        have found := ih before behind
        rw [value] at found
        simpa [Nat.add_assoc, Nat.add_comm 1] using found

theorem piece_hexText {n : Nat} (small : n < 65536) {rest : List Char} (stops : Stops rest) :
    piece 4 (hexText n ++ rest) = (n, (hexText n).length, rest) := by
  have few := length_hexReversed_le 4 n
  have digits : n < 16 ^ 4 := small
  have found := piece_hexReversed digits (piece_of_stops stops (4 - (hexReversed 4 n).length))
  rw [Nat.sub_add_cancel few] at found
  simpa [hexText] using found

theorem mem_hexReversed {fuel n : Nat} {c : Char} (member : c ∈ hexReversed fuel n) :
    ∃ d < 16, c = hexChar d := by
  induction fuel generalizing n with
  | zero => cases member
  | succ fuel ih =>
      rw [hexReversed_succ] at member
      rcases List.mem_cons.mp member with rfl | later
      · exact ⟨n % 16, Nat.mod_lt n (by decide), rfl⟩
      · split at later
        · cases later
        · exact ih later

theorem mem_hexText {n : Nat} {c : Char} (member : c ∈ hexText n) : ∃ d < 16, c = hexChar d :=
  mem_hexReversed (List.mem_reverse.mp member)

theorem hexText_eq_cons (n : Nat) : ∃ c rest, hexText n = c :: rest ∧ c ≠ ':' := by
  have some : hexText n ≠ [] := by simp [hexText, hexReversed_succ]
  obtain ⟨c, rest, same⟩ := List.exists_cons_of_ne_nil some
  obtain ⟨d, digit, rfl⟩ := mem_hexText (same ▸ List.mem_cons_self : c ∈ hexText n)
  exact ⟨_, rest, same, hexChar_ne_colon d digit⟩

/-! ## The text of IPv6 -/

namespace Pieces

theorem foldl_push_front (front ns : List Nat) :
    ns.foldl push ⟨front, none⟩ = ⟨front ++ ns, none⟩ := by
  induction ns generalizing front with
  | nil => rw [List.append_nil]; rfl
  | cons n ns ih =>
      rw [List.foldl_cons]
      exact (ih (front ++ [n])).trans (by rw [List.append_assoc]; rfl)

theorem foldl_push_back (front back ns : List Nat) :
    ns.foldl push ⟨front, some back⟩ = ⟨front, some (back ++ ns)⟩ := by
  induction ns generalizing back with
  | nil => rw [List.append_nil]; rfl
  | cons n ns ih =>
      rw [List.foldl_cons]
      exact (ih (back ++ [n])).trans (by rw [List.append_assoc]; rfl)

/-- How many more pieces there may be: a gap stands for one at least. -/
def room (p : Pieces) : Nat := 8 - (p.count + if p.back.isSome then 1 else 0)

theorem room_push (p : Pieces) (n : Nat) : (p.push n).room = p.room - 1 := by
  obtain ⟨front, back⟩ := p
  cases back with
  | none => simp [push, room, count]; omega
  | some b => simp [push, room, count]; omega

end Pieces

section Reading

variable {n fuel : Nat} {p : Pieces} {ns : List Nat} {tail : List Char}

theorem not_full (room : 0 < p.room) : ¬ 8 ≤ p.count + (if p.back.isSome then 1 else 0) :=
  Nat.not_le.mpr (Nat.lt_of_sub_pos room)

theorem piecesFrom_last (small : n < 65536) (room : 0 < p.room) :
    piecesFrom (fuel + 1) p (hexText n) = some (p.push n) := by
  have read := piece_hexText small stops_nil
  obtain ⟨c, cs, same, other⟩ := hexText_eq_cons n
  rw [List.append_nil, same] at read
  rw [same, piecesFrom, if_neg (not_full room), read]
  · rfl
  · exact nofun
  · rintro rest ⟨⟩
    exact other rfl

theorem piecesFrom_next (small : n < 65536) (room : 0 < p.room) (more : tail ≠ []) :
    piecesFrom (fuel + 1) p (hexText n ++ ':' :: tail) = piecesFrom fuel (p.push n) tail := by
  have read := piece_hexText small (stops_colon tail)
  obtain ⟨c, cs, same, other⟩ := hexText_eq_cons n
  rw [same, List.cons_append] at read
  rw [same, List.cons_append, piecesFrom, if_neg (not_full room), read]
  · exact if_neg (by simp [more])
  · exact nofun
  · rintro rest ⟨⟩
    exact other rfl

theorem joinPieces_cons (some : ns ≠ []) (n : Nat) :
    joinPieces (n :: ns) = hexText n ++ ':' :: joinPieces ns := by
  cases ns with
  | nil => exact absurd rfl some
  | cons m later => rfl

theorem joinPieces_eq_cons (some : ns ≠ []) : ∃ c cs, joinPieces ns = c :: cs ∧ c ≠ ':' := by
  cases ns with
  | nil => exact absurd rfl some
  | cons n rest =>
      obtain ⟨c, cs, same, other⟩ := hexText_eq_cons n
      cases rest with
      | nil => exact ⟨c, cs, same, other⟩
      | cons m later =>
          exact ⟨c, _, by rw [joinPieces_cons (List.cons_ne_nil m later), same]; rfl, other⟩

theorem joinPieces_ne_nil (some : ns ≠ []) : joinPieces ns ≠ [] := by
  obtain ⟨c, cs, same, -⟩ := joinPieces_eq_cons some
  rw [same]
  exact List.cons_ne_nil c cs

theorem length_le_joinPieces (ns : List Nat) : ns.length ≤ (joinPieces ns).length := by
  induction ns with
  | nil => exact Nat.le_refl 0
  | cons n rest ih =>
      obtain ⟨c, cs, same, -⟩ := hexText_eq_cons n
      cases rest with
      | nil => simp [joinPieces, same]
      | cons m later =>
          rw [joinPieces_cons (List.cons_ne_nil m later), same]
          simp only [List.length_cons, List.length_append] at ih ⊢
          omega

theorem piecesFrom_join (small : ∀ n ∈ ns, n < 65536) (room : ns.length ≤ p.room)
    (enough : ns.length ≤ fuel) :
    piecesFrom fuel p (joinPieces ns) = some (ns.foldl Pieces.push p) := by
  induction ns generalizing p fuel with
  | nil => cases fuel <;> rfl
  | cons n rest ih =>
      rw [List.length_cons] at room enough
      obtain ⟨fuel, rfl⟩ : ∃ k, fuel = k + 1 := ⟨fuel - 1, by omega⟩
      have first := small n List.mem_cons_self
      cases rest with
      | nil => exact piecesFrom_last first (by omega)
      | cons m later =>
          have more := List.cons_ne_nil m later
          rw [joinPieces_cons more, piecesFrom_next first (by omega) (joinPieces_ne_nil more)]
          exact ih (fun x member => small x (List.mem_cons_of_mem n member))
            (by rw [Pieces.room_push]; omega) (by omega)

/-- Pieces in front of the gap are read one by one up to it. -/
theorem piecesFrom_gap (front : List Nat) (fuel : Nat) (some : ns ≠ [])
    (small : ∀ n ∈ ns, n < 65536) (room : front.length + ns.length < 8)
    (enough : ns.length < fuel) :
    piecesFrom fuel ⟨front, none⟩ (joinPieces ns ++ ':' :: ':' :: tail) =
      piecesFrom (fuel - ns.length - 1) ⟨front ++ ns, Option.some []⟩ tail := by
  induction ns generalizing front fuel with
  | nil => exact absurd rfl some
  | cons n rest ih =>
      rw [List.length_cons] at room enough
      obtain ⟨fuel, rfl⟩ : ∃ k, fuel = k + 1 := ⟨fuel - 1, by omega⟩
      have first := small n List.mem_cons_self
      have free : 0 < (⟨front, none⟩ : Pieces).room := by
        show 0 < 8 - (front.length + 0 + 0)
        omega
      cases rest with
      | nil =>
          rw [joinPieces, piecesFrom_next first free (List.cons_ne_nil ':' tail)]
          obtain ⟨fuel, rfl⟩ : ∃ k, fuel = k + 1 := ⟨fuel - 1, by simp at enough; omega⟩
          exact if_neg (by simp [Pieces.push, Pieces.count]; simp at room; omega)
      | cons m later =>
          have more := List.cons_ne_nil m later
          rw [joinPieces_cons more, List.append_assoc, List.cons_append,
            piecesFrom_next first free (by simp)]
          have reached := ih (front ++ [n]) fuel more
            (fun x member => small x (List.mem_cons_of_mem n member))
            (by simp at room ⊢; omega) (by omega)
          rw [List.append_assoc, List.singleton_append] at reached
          exact reached.trans (by congr 1; simp)

/-- The gap stands for the zeros that are left out. -/
theorem fill_gap {front back zeros : List Nat} (some : zeros ≠ []) (zero : ∀ z ∈ zeros, z = 0)
    (eight : (front ++ zeros ++ back).length = 8) :
    (⟨front, Option.some back⟩ : Pieces).fill = Option.some (front ++ zeros ++ back) := by
  have few : 0 < zeros.length := List.length_pos_iff.mpr some
  rw [List.length_append, List.length_append] at eight
  have missing : 8 - (front.length + back.length) = zeros.length := by omega
  have replaced : zeros = List.replicate zeros.length 0 := List.eq_replicate_iff.mpr ⟨rfl, zero⟩
  unfold Pieces.fill Pieces.count
  simp only [Option.getD_some]
  rw [if_pos (by omega), missing, ← replaced]

end Reading

theorem zeroRun_le (ns : List Nat) : zeroRun ns ≤ ns.length := by
  fun_induction zeroRun ns with
  | case1 rest ih => exact Nat.succ_le_succ ih
  | case2 ns => exact Nat.zero_le _

theorem take_zeroRun (ns : List Nat) : ∀ z ∈ ns.take (zeroRun ns), z = 0 := by
  fun_induction zeroRun ns with
  | case1 rest ih =>
      intro z member
      rcases List.mem_cons.mp member with rfl | later
      · rfl
      · exact ih z later
  | case2 ns =>
      intro z member
      cases member

theorem longestZeros_splits (ns : List Nat) (place : Nat) :
    ∃ front zeros back, ns = front ++ zeros ++ back ∧ (∀ z ∈ zeros, z = 0) ∧
      longestZeros place ns = (place + front.length, zeros.length) := by
  induction ns generalizing place with
  | nil => exact ⟨[], [], [], rfl, nofun, rfl⟩
  | cons n rest ih =>
      obtain ⟨front, zeros, back, same, zero, found⟩ := ih (place + 1)
      unfold longestZeros
      dsimp only
      rw [found]
      dsimp only
      split
      · refine ⟨n :: front, zeros, back, by rw [same]; rfl, zero, ?_⟩
        simp
        omega
      · refine ⟨[], (n :: rest).take (zeroRun (n :: rest)), (n :: rest).drop (zeroRun (n :: rest)),
          (List.take_append_drop _ _).symm, take_zeroRun _, ?_⟩
        rw [List.length_take, Nat.min_eq_left (zeroRun_le _)]
        rfl

theorem ipv6?_gap (s : List Char) :
    ipv6? (':' :: ':' :: s) = (piecesFrom (s.length + 2) ⟨[], some []⟩ s).bind Pieces.fill := by
  unfold ipv6?
  rw [if_neg (by simp)]
  rfl

theorem ipv6?_front {s : List Char} {c : Char} {cs : List Char} (starts : s = c :: cs)
    (other : c ≠ ':') (more : 2 ≤ s.length) :
    ipv6? s = (piecesFrom s.length ⟨[], none⟩ s).bind Pieces.fill := by
  unfold ipv6?
  rw [if_neg (Nat.not_lt.mpr more)]
  split
  · cases starts
    exact absurd rfl other
  · cases starts
    exact absurd rfl other
  · rfl

theorem ipv6?_text {ps : List Nat} (eight : ps.length = 8) (small : ∀ n ∈ ps, n < 65536) :
    ipv6? (ipv6Text ps) = some ps := by
  obtain ⟨front, zeros, back, same, zero, found⟩ := longestZeros_splits ps 0
  rw [Nat.zero_add] at found
  unfold ipv6Text
  rw [found]
  dsimp only
  split
  · have whole : ps ≠ [] := by
      rintro rfl
      cases eight
    obtain ⟨c, cs, starts, other⟩ := joinPieces_eq_cons whole
    have long := length_le_joinPieces ps
    have room : ps.length ≤ (⟨[], none⟩ : Pieces).room := Nat.le_of_eq eight
    rw [ipv6?_front starts other (by omega), piecesFrom_join small room long,
      Pieces.foldl_push_front]
    exact if_pos eight
  · rename_i gap
    have before : ps.take front.length = front := by
      rw [same, List.append_assoc, List.take_left]
    have behind : ps.drop (front.length + zeros.length) = back := by
      rw [same, ← List.length_append, List.drop_left]
    have filled : (⟨front, some back⟩ : Pieces).fill = some ps := by
      rw [same]
      exact fill_gap (by rintro rfl; exact gap (by decide)) zero (same ▸ eight)
    have long := length_le_joinPieces back
    have smallBehind : ∀ n ∈ back, n < 65536 :=
      fun n member => small n (by rw [same]; exact List.mem_append_right _ member)
    have sum : front.length + zeros.length + back.length = 8 := by
      rw [← List.length_append, ← List.length_append, ← same, eight]
    -- The pieces behind the gap are read in the same way, whether there are some in front or not.
    have tail (fuel : Nat) (enough : back.length ≤ fuel) :
        (piecesFrom fuel ⟨front, some []⟩ (joinPieces back)).bind Pieces.fill = some ps := by
      have room : back.length ≤ (⟨front, some []⟩ : Pieces).room := by
        show back.length ≤ 8 - (front.length + 0 + 1)
        omega
      rw [piecesFrom_join smallBehind room enough, Pieces.foldl_push_back]
      exact filled
    rw [before, behind]
    cases front with
    | nil => exact (ipv6?_gap _).trans (tail _ (by omega))
    | cons n rest =>
        have more := List.cons_ne_nil n rest
        obtain ⟨c, cs, starts, other⟩ := joinPieces_eq_cons more
        have smallFront : ∀ x ∈ n :: rest, x < 65536 := fun x member =>
          small x (by rw [same, List.append_assoc]; exact List.mem_append_left _ member)
        have longFront := length_le_joinPieces (n :: rest)
        have total : (joinPieces (n :: rest) ++ ':' :: ':' :: joinPieces back).length =
            (joinPieces (n :: rest)).length + ((joinPieces back).length + 2) := List.length_append
        have room : ([] : List Nat).length + (n :: rest).length < 8 := by
          rw [List.length_nil]
          omega
        rw [ipv6?_front (by rw [starts]; rfl) other (by omega),
          piecesFrom_gap [] _ more smallFront room (by omega)]
        exact tail _ (by omega)

theorem mem_joinPieces {ns : List Nat} {c : Char} (member : c ∈ joinPieces ns) :
    c = ':' ∨ ∃ d < 16, c = hexChar d := by
  induction ns with
  | nil => cases member
  | cons n rest ih =>
      cases rest with
      | nil => exact Or.inr (mem_hexText member)
      | cons m later =>
          rw [joinPieces_cons (List.cons_ne_nil m later)] at member
          rcases List.mem_append.mp member with first | behind
          · exact Or.inr (mem_hexText first)
          · rcases List.mem_cons.mp behind with colon | further
            · exact Or.inl colon
            · exact ih further

theorem mem_ipv6Text {ps : List Nat} {c : Char} (member : c ∈ ipv6Text ps) :
    c = ':' ∨ ∃ d < 16, c = hexChar d := by
  unfold ipv6Text at member
  dsimp only at member
  split at member
  · exact mem_joinPieces member
  · rcases List.mem_append.mp member with before | behind
    · exact mem_joinPieces before
    · rcases List.mem_cons.mp behind with colon | behind
      · exact Or.inl colon
      · rcases List.mem_cons.mp behind with colon | behind
        · exact Or.inl colon
        · exact mem_joinPieces behind

/-! ## What is read as IPv6 -/

theorem piece_lt (k : Nat) (s : List Char) :
    (piece k s).1 < 16 ^ (piece k s).2.1 ∧ (piece k s).2.1 ≤ k := by
  induction k generalizing s with
  | zero => exact ⟨Nat.one_pos, Nat.le_refl 0⟩
  | succ k ih =>
      cases s with
      | nil => exact ⟨Nat.one_pos, Nat.zero_le _⟩
      | cons c cs =>
          unfold piece
          split
          · exact ⟨Nat.one_pos, Nat.zero_le _⟩
          · rename_i v digit
            obtain ⟨below, few⟩ := ih cs
            refine ⟨?_, Nat.succ_le_succ few⟩
            have bound : (v + 1) * 16 ^ (piece k cs).2.1 ≤ 16 * 16 ^ (piece k cs).2.1 :=
              Nat.mul_le_mul_right _ (Text.digitValue?_lt digit)
            show v * 16 ^ (piece k cs).2.1 + (piece k cs).1 < 16 ^ ((piece k cs).2.1 + 1)
            rw [Nat.pow_succ, Nat.mul_comm (16 ^ _)]
            rw [Nat.add_mul, Nat.one_mul] at bound
            omega

theorem piece_small (s : List Char) : (piece 4 s).1 < 65536 := by
  obtain ⟨below, few⟩ := piece_lt 4 s
  exact Nat.lt_of_lt_of_le below (Nat.pow_le_pow_right (by decide) few)

theorem octet?_le {s : List Char} {n : Nat} (read : octet? s = some n) : n ≤ 255 := by
  unfold octet? at read
  split at read
  · cases read
  · cases read
    decide
  · cases read
  · obtain ⟨m, -, bound⟩ := Option.bind_eq_some_iff.mp read
    split at bound
    · rename_i small
      cases bound
      exact small
    · cases bound

theorem embedded?_small {s : List Char} {found : List Nat} (read : embedded? s = some found) :
    ∀ n ∈ found, n < 65536 := by
  unfold embedded? at read
  obtain ⟨octets, mapped, read⟩ := Option.bind_eq_some_iff.mp read
  have bounds := forall_of_mapM (P := (· ≤ 255)) (fun _ _ => octet?_le) mapped
  split at read
  · rename_i a b c d
    cases read
    have first := bounds a (by simp)
    have second := bounds b (by simp)
    have third := bounds c (by simp)
    have fourth := bounds d (by simp)
    simp only [List.mem_cons, List.not_mem_nil, or_false, forall_eq_or_imp, forall_eq]
    omega
  · cases read

def Pieces.Small (p : Pieces) : Prop :=
  (∀ n ∈ p.front, n < 65536) ∧ ∀ n ∈ p.back.getD [], n < 65536

theorem Pieces.Small.push {p : Pieces} (small : p.Small) {n : Nat} (fits : n < 65536) :
    (p.push n).Small := by
  have snoc (l : List Nat) (each : ∀ x ∈ l, x < 65536) : ∀ x ∈ l ++ [n], x < 65536 := by
    intro x member
    rcases List.mem_append.mp member with before | last
    · exact each x before
    · exact List.mem_singleton.mp last ▸ fits
  obtain ⟨front, back⟩ := p
  cases back with
  | none => exact ⟨snoc front small.1, small.2⟩
  | some b => exact ⟨small.1, snoc b small.2⟩

theorem Pieces.Small.pushes {p : Pieces} (small : p.Small) {ns : List Nat}
    (fit : ∀ n ∈ ns, n < 65536) : (ns.foldl Pieces.push p).Small := by
  induction ns generalizing p with
  | nil => exact small
  | cons n ns ih =>
      exact ih (small.push (fit n List.mem_cons_self))
        (fun x member => fit x (List.mem_cons_of_mem n member))

theorem piecesFrom_small {fuel : Nat} {p found : Pieces} {s : List Char} (small : p.Small)
    (read : piecesFrom fuel p s = some found) : found.Small := by
  have fits {s : List Char} {n used : Nat} {rest : List Char}
      (first : piece 4 s = (n, used, rest)) : n < 65536 := by
    have bound := piece_small s
    rwa [first] at bound
  fun_induction piecesFrom fuel p s with
  | case1 fuel p =>
      cases read
      exact small
  | case4 fuel p s _ ih => exact ih ⟨small.1, nofun⟩ read
  | case7 fuel p s _ _ _ n used _ first =>
      cases read
      exact small.push (fits first)
  | case9 fuel p s _ _ _ n used rest _ first =>
      obtain ⟨last, written, rfl⟩ := Option.map_eq_some_iff.mp read
      exact small.pushes (embedded?_small written)
  | case11 fuel p s _ _ _ n used next _ first ih => exact ih (small.push (fits first)) read
  | case2 | case3 | case5 | case6 | case8 | case10 | case12 => cases read

theorem fill_sound {p : Pieces} {ps : List Nat} (small : p.Small) (filled : p.fill = some ps) :
    ps.length = 8 ∧ ∀ n ∈ ps, n < 65536 := by
  obtain ⟨front, back⟩ := p
  unfold Pieces.fill at filled
  cases back with
  | none =>
      dsimp only at filled
      split at filled
      · rename_i eight
        cases filled
        exact ⟨eight, small.1⟩
      · cases filled
  | some b =>
      dsimp only at filled
      split at filled
      · rename_i few
        cases filled
        have count : Pieces.count ⟨front, some b⟩ = front.length + b.length := rfl
        rw [count] at few ⊢
        refine ⟨by simp; omega, fun n member => ?_⟩
        rcases List.mem_append.mp member with before | behind
        · rcases List.mem_append.mp before with first | zero
          · exact small.1 n first
          · rw [(List.mem_replicate.mp zero).2]
            decide
        · exact small.2 n behind
      · cases filled

theorem ipv6?_sound {s : List Char} {ps : List Nat} (read : ipv6? s = some ps) :
    ps.length = 8 ∧ ∀ n ∈ ps, n < 65536 := by
  have front : (⟨[], none⟩ : Pieces).Small := ⟨nofun, nofun⟩
  have gap : (⟨[], some []⟩ : Pieces).Small := ⟨nofun, nofun⟩
  unfold ipv6? at read
  simp only [Option.bind_eq_bind] at read
  split at read
  · cases read
  · split at read
    · obtain ⟨p, found, filled⟩ := Option.bind_eq_some_iff.mp read
      exact fill_sound (piecesFrom_small gap found) filled
    · cases read
    · obtain ⟨p, found, filled⟩ := Option.bind_eq_some_iff.mp read
      exact fill_sound (piecesFrom_small front found) filled

end Address

end Leasehold

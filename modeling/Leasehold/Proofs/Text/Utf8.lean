import Leasehold.Text.Utf8

/-!
# Text is read back from its octets

A character is written as one octet, or as a first one, which tells how many
there are and bounds the second, and those that follow.  Read octet by octet,
they complete the character again and nothing else (`scan_encode`).
-/

set_option autoImplicit false

namespace Leasehold.Utf8

/-! ## First octets -/

theorem lead_one {n : Nat} (small : n < 0x80) : lead n = .whole (Char.ofNat n) := by
  unfold lead
  rw [if_pos (by omega)]

theorem lead_two {k : Nat} (low : 2 ≤ k) (high : k < 32) :
    lead (0xC0 + k) = .part ⟨1, 0x80, 0xBF, k⟩ := by
  unfold lead
  rw [if_neg (by omega), if_neg (by omega), if_pos (by omega), Nat.add_sub_cancel_left]

theorem lead_three {k : Nat} (high : k < 16) :
    lead (0xE0 + k) =
      .part ⟨2, if k = 0 then 0xA0 else 0x80, if k = 13 then 0x9F else 0xBF, k⟩ := by
  unfold lead
  rw [if_neg (by omega), if_neg (by omega), if_neg (by omega)]
  by_cases first : k = 0
  · subst first
    rfl
  · by_cases surrogate : k = 13
    · subst surrogate
      rfl
    · rw [if_neg (by omega), if_neg (by omega), if_pos (by omega), if_neg first,
        if_neg surrogate, Nat.add_sub_cancel_left]

theorem lead_four {k : Nat} (high : k < 5) :
    lead (0xF0 + k) =
      .part ⟨3, if k = 0 then 0x90 else 0x80, if k = 4 then 0x8F else 0xBF, k⟩ := by
  unfold lead
  rw [if_neg (by omega), if_neg (by omega), if_neg (by omega), if_neg (by omega),
    if_neg (by omega), if_neg (by omega)]
  by_cases first : k = 0
  · subst first
    rfl
  · by_cases last : k = 4
    · subst last
      rfl
    · rw [if_neg (by omega), if_pos (by omega), if_neg first, if_neg last,
        Nat.add_sub_cancel_left]

/-! ## Octet by octet -/

theorem toNat_toUInt8 {k : Nat} (fits : k < 256) : k.toUInt8.toNat = k := by
  rw [Nat.toUInt8, UInt8.toNat_ofNat']
  exact Nat.mod_eq_of_lt fits

variable {k : Nat} {b : Begun} {rest : List UInt8}

theorem scanFrom_whole {c : Char} (fits : k < 256) (leads : lead k = .whole c) :
    scanFrom none (k.toUInt8 :: rest) = some c :: scanFrom none rest := by
  rw [scanFrom, toNat_toUInt8 fits]
  simp only [feed, start, leads]
  rfl

theorem scanFrom_part (fits : k < 256) (leads : lead k = .part b) :
    scanFrom none (k.toUInt8 :: rest) = scanFrom (some b) rest := by
  rw [scanFrom, toNat_toUInt8 fits]
  simp only [feed, start, leads]
  rfl

variable {owed low high bits d : Nat}

theorem scanFrom_next (six : d < 64) (above : low ≤ 0x80 + d) (below : 0x80 + d ≤ high) :
    scanFrom (some ⟨owed + 2, low, high, bits⟩) ((0x80 + d).toUInt8 :: rest) =
      scanFrom (some ⟨owed + 1, 0x80, 0xBF, bits * 64 + d⟩) rest := by
  have bounds : low ≤ 0x80 + d ∧ 0x80 + d ≤ high := ⟨above, below⟩
  have more : ¬ owed + 2 ≤ 1 := by omega
  rw [scanFrom, toNat_toUInt8 (by omega)]
  simp only [feed, bounds, more, and_self, if_true, if_false, Nat.add_sub_cancel_left]
  rfl

theorem scanFrom_last (six : d < 64) (above : low ≤ 0x80 + d) (below : 0x80 + d ≤ high) :
    scanFrom (some ⟨1, low, high, bits⟩) ((0x80 + d).toUInt8 :: rest) =
      some (Char.ofNat (bits * 64 + d)) :: scanFrom none rest := by
  have bounds : low ≤ 0x80 + d ∧ 0x80 + d ≤ high := ⟨above, below⟩
  rw [scanFrom, toNat_toUInt8 (by omega)]
  simp only [feed, bounds, and_self, if_true, Nat.le_refl, Nat.add_sub_cancel_left]
  rfl

/-! ## Characters -/

theorem scanFrom_encodeChar (c : Char) :
    scanFrom none (encodeChar c ++ rest) = some c :: scanFrom none rest := by
  have valid : c.toNat < 0xD800 ∨ 0xDFFF < c.toNat ∧ c.toNat < 0x110000 := c.valid
  have same : Char.ofNat c.toNat = c := Char.ofNat_toNat c
  unfold encodeChar
  generalize c.toNat = n at valid same
  dsimp only
  split
  · rename_i one
    rw [List.singleton_append, scanFrom_whole (by omega) (lead_one one), same]
  split
  · rename_i two
    have bits : n / 64 * 64 + n % 64 = n := by omega
    rw [List.cons_append, List.singleton_append,
      scanFrom_part (by omega) (lead_two (by omega) (by omega)),
      scanFrom_last (by omega) (by omega) (by omega), bits, same]
  split
  · rename_i three
    have bits : (n / 4096 * 64 + n / 64 % 64) * 64 + n % 64 = n := by omega
    rw [List.cons_append, List.cons_append, List.singleton_append,
      scanFrom_part (by omega) (lead_three (by omega)),
      scanFrom_next (by omega) (by split <;> omega) (by split <;> omega),
      scanFrom_last (by omega) (by omega) (by omega), bits, same]
  · have bits :
        ((n / 262144 * 64 + n / 4096 % 64) * 64 + n / 64 % 64) * 64 + n % 64 = n := by omega
    rw [List.cons_append, List.cons_append, List.cons_append, List.singleton_append,
      scanFrom_part (by omega) (lead_four (by omega)),
      scanFrom_next (by omega) (by split <;> omega) (by split <;> omega),
      scanFrom_next (by omega) (by omega) (by omega),
      scanFrom_last (by omega) (by omega) (by omega), bits, same]

/-- Whatever is written is read back, character by character. -/
theorem scan_encode (s : List Char) : scan (encode s) = s.map some := by
  unfold scan encode
  induction s with
  | nil => rfl
  | cons c s ih => rw [List.flatMap_cons, scanFrom_encodeChar, ih, List.map_cons]

end Leasehold.Utf8

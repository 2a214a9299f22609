import Mathlib

/-!
# Texts in the order of their bytes

* `Text.bytes` : the bytes of a text in UTF-8.
* `Text.continuation` : the bytes of a character behind its first one, of six bits each.
* `Text.Width` : how many these are, and what marks the first one.
* `Text.encode_append_lt` : the bytes of two characters part at one that is less for the lesser character, whatever follows.
* `Text.bytes_lt_bytes_iff` : the order of texts by their characters is that by their bytes.
-/

namespace FilterTree.Text

open String (utf8EncodeChar)

def bytes (s : String) : List UInt8 := s.toByteArray.data.toList

theorem bytes_eq_flatMap (s : String) : bytes s = s.toList.flatMap utf8EncodeChar := by
  rw [bytes, ← String.utf8Encode_toList, List.utf8Encode, List.toList_data_toByteArray]

/-! ## The bytes of a character -/

theorem ofNat_cons_lt {a b : Nat} {xs ys : List UInt8} (ha : a < 256) (hb : b < 256) (h : a < b ∨ a = b ∧ xs < ys) :
    UInt8.ofNat a :: xs < UInt8.ofNat b :: ys := by
  rw [List.cons_lt_cons_iff, UInt8.lt_iff_toNat_lt, UInt8.toNat_ofNat_of_lt' ha, UInt8.toNat_ofNat_of_lt' hb]
  rcases h with less | ⟨rfl, rest⟩
  · exact .inl less
  · exact .inr ⟨rfl, rest⟩

/-- The last bytes of a character with a number: six bits each, from the highest. -/
def continuation (n : Nat) : Nat → List UInt8
  | 0 => []
  | k + 1 => UInt8.ofNat (n / 64 ^ k % 64 + 128) :: continuation n k

/-- What two numbers do not share in their high bits, they show in the bytes for the low ones. -/
theorem continuation_append_lt {m n k : Nat} {xs ys : List UInt8} (less : m < n) (high : m / 64 ^ k = n / 64 ^ k) :
    continuation m k ++ xs < continuation n k ++ ys := by
  induction k with
  | zero =>
    rw [Nat.pow_zero, Nat.div_one, Nat.div_one] at high
    omega
  | succ k ih =>
    have digit : ∀ a, a / 64 ^ (k + 1) = a / 64 ^ k / 64 := fun a => by rw [Nat.pow_succ, Nat.div_div_eq_div_mul]
    rw [digit, digit] at high
    rw [continuation, continuation, List.cons_append, List.cons_append]
    refine ofNat_cons_lt (by omega) (by omega) ?_
    by_cases same : m / 64 ^ k = n / 64 ^ k
    · exact .inr ⟨by rw [same], ih same⟩
    · have below : m / 64 ^ k ≤ n / 64 ^ k := Nat.div_le_div_right (Nat.le_of_lt less)
      exact .inl (by omega)

/-- How many bytes follow the first one of a character with a number, and what marks that one. -/
inductive Width (n : Nat) : Nat → Nat → Prop where
  | one (below : n < 0x80) : Width n 0 0
  | two (above : 0x80 ≤ n) (below : n < 0x800) : Width n 1 0xC0
  | three (above : 0x800 ≤ n) (below : n < 0x10000) : Width n 2 0xE0
  | four (above : 0x10000 ≤ n) (below : n < 0x110000) : Width n 3 0xF0

namespace Width

variable {m n k l a b : Nat}

theorem mark_eq (hm : Width m k a) (hn : Width n k b) : a = b := by
  cases hm <;> cases hn <;> rfl

theorem first_lt (h : Width n k a) : n / 64 ^ k + a < 256 := by
  cases h <;> omega

theorem first_lt_first (hm : Width m k a) (hn : Width n l b) (less : m < n) (other : k ≠ l) :
    m / 64 ^ k + a < n / 64 ^ l + b := by
  cases hm <;> cases hn <;> omega

end Width

/-- The first byte of a character shows how many follow, and the high bits. -/
theorem exists_encode_eq (c : Char) : ∃ k mark, Width c.toNat k mark ∧
    utf8EncodeChar c = UInt8.ofNat (c.toNat / 64 ^ k + mark) :: continuation c.toNat k := by
  have most : c.toNat < 0x110000 := by
    have valid := c.valid
    simp only [UInt32.isValidChar, Nat.isValidChar] at valid
    show c.val.toNat < _
    omega
  unfold utf8EncodeChar
  simp only [Char.toNat_val]
  rcases Nat.lt_or_ge c.toNat 0x80 with below | above
  · refine ⟨0, 0, .one below, ?_⟩
    rw [if_pos (by omega)]
    simp [continuation]
  rcases Nat.lt_or_ge c.toNat 0x800 with below | above
  · refine ⟨1, 0xC0, .two ‹_› below, ?_⟩
    rw [if_neg (by omega), if_pos (by omega), Nat.mod_eq_of_lt (by omega)]
    simp [continuation]
  rcases Nat.lt_or_ge c.toNat 0x10000 with below | above
  · refine ⟨2, 0xE0, .three ‹_› below, ?_⟩
    rw [if_neg (by omega), if_neg (by omega), if_pos (by omega), Nat.mod_eq_of_lt (by omega)]
    simp [continuation]
  · refine ⟨3, 0xF0, .four above most, ?_⟩
    rw [if_neg (by omega), if_neg (by omega), if_neg (by omega), Nat.mod_eq_of_lt (by omega)]
    simp [continuation]

theorem encode_append_lt {c d : Char} (h : c < d) (xs ys : List UInt8) :
    utf8EncodeChar c ++ xs < utf8EncodeChar d ++ ys := by
  have less : c.toNat < d.toNat := h
  obtain ⟨k, a, width_c, hc⟩ := exists_encode_eq c
  obtain ⟨l, b, width_d, hd⟩ := exists_encode_eq d
  rw [hc, hd, List.cons_append, List.cons_append]
  refine ofNat_cons_lt width_c.first_lt width_d.first_lt ?_
  by_cases size : k = l
  · subst size
    obtain rfl := width_c.mark_eq width_d
    by_cases high : c.toNat / 64 ^ k = d.toNat / 64 ^ k
    · exact .inr ⟨by rw [high], continuation_append_lt less high⟩
    · have below : c.toNat / 64 ^ k ≤ d.toNat / 64 ^ k := Nat.div_le_div_right (Nat.le_of_lt less)
      exact .inl (by omega)
  · exact .inl (width_c.first_lt_first width_d less size)

/-! ## Texts -/

theorem flatMap_encode_lt {cs ds : List Char} (h : cs < ds) :
    cs.flatMap utf8EncodeChar < ds.flatMap utf8EncodeChar := by
  induction cs generalizing ds with
  | nil =>
    cases ds with
    | nil => exact absurd h (List.lt_irrefl _)
    | cons d ds =>
      obtain ⟨x, xs, hx⟩ := List.exists_cons_of_ne_nil (String.utf8EncodeChar_ne_nil (c := d))
      rw [List.flatMap_cons, hx]
      exact List.nil_lt_cons ..
  | cons c cs ih =>
    cases ds with
    | nil => cases h
    | cons d ds =>
      rw [List.flatMap_cons, List.flatMap_cons]
      rcases List.cons_lt_cons_iff.1 h with less | ⟨rfl, rest⟩
      · exact encode_append_lt less _ _
      · exact List.append_left_lt (ih rest)

theorem bytes_lt_bytes_iff {s t : String} : bytes s < bytes t ↔ s < t := by
  have mono : ∀ {s t : String}, s < t → bytes s < bytes t := by
    intro s t h
    rw [bytes_eq_flatMap, bytes_eq_flatMap]
    exact flatMap_encode_lt h
  refine ⟨fun h => ?_, mono⟩
  rcases lt_trichotomy s t with less | rfl | greater
  · exact less
  · exact absurd h (List.lt_irrefl _)
  · exact absurd h (List.lt_asymm (mono greater))

end FilterTree.Text

import FilterTree.Proofs.Json.Written

/-!
# The text of a double is a numeral

* `Decimal.zero_of_mantissa` : only the two zeros have no digits.
* `Scientific.Proper` : digits of a positive number, of which the first is no zero. `Binary.proper_shortest` : those that a
  double is written with.
* `Scientific.Proper.positional`, `Scientific.Proper.exponential` : both layouts of such digits are those of a numeral.
* `exists_written_of_json?` : so is the text of a double that has one.
-/

namespace FilterTree

namespace Json

/-! ## Digits -/

theorem digits_replicate (n : Nat) : Digits (List.replicate n '0') := by
  intro c hc
  rw [List.eq_of_mem_replicate hc]
  rfl

theorem Digits.append {ds es : List Char} (h : Digits ds) (h' : Digits es) : Digits (ds ++ es) := by
  intro c hc
  rcases List.mem_append.1 hc with hc | hc
  · exact h c hc
  · exact h' c hc

end Json

namespace Decimal

open Json (Digits Whole Numeral FractionWritten ExponentWritten SignWritten digits_replicate)

/-! ## Zeros -/

theorem toBits_inj {x y : Float} (h : x.toBits = y.toBits) : x = y := by
  obtain ⟨⟨bits, valid⟩⟩ := x
  obtain ⟨⟨bits', valid'⟩⟩ := y
  change bits = bits' at h
  subst h
  rfl

theorem bits_of_mantissa {bits : UInt64} (h : (Binary.ofBits bits).mantissa = 0) : bits = 0 ∨ bits = 0x8000000000000000 := by
  have below := bits.toNat_lt
  unfold Binary.ofBits at h
  dsimp only at h
  split at h
  · rename_i exponent
    have high : bits.toNat / 2 ^ 52 % 2 ^ 11 = 0 := by
      rw [← Nat.and_two_pow_sub_one_eq_mod, ← Nat.shiftRight_eq_div_pow]
      simpa using exponent
    have low : bits.toNat % 2 ^ 52 = 0 := by
      rw [← Nat.and_two_pow_sub_one_eq_mod]
      simpa using h
    have sign : bits.toNat = 0 ∨ bits.toNat = 0x8000000000000000 := by omega
    rcases sign with clear | set
    · exact .inl (UInt64.toNat_inj.1 clear)
    · exact .inr (UInt64.toNat_inj.1 set)
  · dsimp only at h
    omega

theorem zero_of_mantissa {x : Float} (h : (Binary.ofBits x.toBits).mantissa = 0) : (x == 0) = true := by
  rcases bits_of_mantissa h with bits | bits
  · have zero : x = 0 := toBits_inj (by rw [bits]; decide +kernel)
    rw [zero]
    decide +kernel
  · have zero : x = -0.0 := toBits_inj (by rw [bits]; decide +kernel)
    rw [zero]
    decide +kernel

/-! ## The digits -/

/-- Digits of a positive number, of which the first is no zero. -/
def Scientific.Proper (s : Scientific) : Prop :=
  ∃ d ds, s.digits = d :: ds ∧ d.isDigit = true ∧ d ≠ '0' ∧ Digits ds

theorem whole_of_pos {n : Nat} (h : 0 < n) : ∃ d ds, ofNat n = d :: ds ∧ d.isDigit = true ∧ d ≠ '0' ∧ Digits ds := by
  have value := value_ofNat n
  have whole := Json.whole_ofNat n
  revert value whole
  generalize ofNat n = cs
  intro value whole
  cases whole with
  | zero =>
    have zero : 0 = n := value
    omega
  | @positive d ds digit nonzero more => exact ⟨d, ds, rfl, digit, nonzero, more⟩

theorem dropWhile_append_singleton {d : Char} (nonzero : d ≠ '0') (cs : List Char) :
    (cs ++ [d]).dropWhile (· == '0') = cs.dropWhile (· == '0') ++ [d] := by
  rw [List.dropWhile_append]
  split
  · rename_i none
    rw [List.isEmpty_iff.1 none, List.nil_append, List.dropWhile_cons_of_neg (by simpa using nonzero)]
  · rfl

theorem Scientific.proper_ofStep {n : Nat} (h : 0 < n) (place : Int) : (ofStep n place).Proper := by
  obtain ⟨d, ds, digits, digit, nonzero, more⟩ := whole_of_pos h
  refine ⟨d, (ds.reverse.dropWhile (· == '0')).reverse, ?_, digit, nonzero, ?_⟩
  · show ((ofNat n).reverse.dropWhile (· == '0')).reverse = _
    rw [digits, List.reverse_cons, dropWhile_append_singleton nonzero, List.reverse_append, List.reverse_singleton,
      List.singleton_append]
  · intro c hc
    have mem : c ∈ ds.reverse := (List.dropWhile_suffix _).subset (List.mem_reverse.1 hc)
    exact more c (List.mem_reverse.1 mem)

namespace Span

theorem pos_of_contains {s : Span} (low : 0 < s.low) {n : Nat} (h : s.contains n = true) : 0 < n := by
  unfold contains at h
  simp only [Bool.and_eq_true, Bool.or_eq_true, decide_eq_true_eq, beq_iff_eq] at h
  have above : 0 < n * s.denominator := by omega
  exact Nat.pos_of_mul_pos_right above

theorem contains_of_nearest? {t : Tie} {s : Span} {n : Nat} (h : s.nearest? t = some n) : s.contains n = true := by
  unfold nearest? at h
  dsimp only at h
  split at h
  · cases h
  · rename_i here _
    cases h
    exact here
  · rename_i _ next
    cases h
    exact next
  · rename_i here next
    cases h
    split
    · exact here
    · exact next

end Span

theorem Binary.low_pos {b : Binary} (h : 0 < b.mantissa) : 0 < b.span.low := by
  have factor : 0 < 4 * b.mantissa - if b.atPower then 1 else 2 := by split <;> omega
  exact Nat.mul_pos factor (Nat.pow_pos (by decide))

theorem Binary.proper_shortest {b : Binary} (h : 0 < b.mantissa) (t : Tie) : (shortest t b).Proper := by
  unfold shortest
  dsimp only
  cases hit : (List.range 17).findSome? fun (k : Nat) =>
      ((b.span.on (b.span.leadingPlace - k)).nearest? t).map fun n => Scientific.ofStep n (b.span.leadingPlace - k) with
  | some s =>
    obtain ⟨k, -, found⟩ := List.exists_of_findSome?_eq_some hit
    obtain ⟨n, nearest, rfl⟩ := Option.map_eq_some_iff.1 found
    have low : 0 < (b.span.on (b.span.leadingPlace - k)).low := Nat.mul_pos (low_pos h) (Nat.pow_pos (by decide))
    exact Scientific.proper_ofStep (Span.pos_of_contains low (Span.contains_of_nearest? nearest)) _
  | none =>
    have middle : 0 < b.span.middle := Nat.mul_pos (by omega) (Nat.pow_pos (by decide))
    exact Scientific.proper_ofStep (Nat.mul_pos middle (Nat.pow_pos (by decide))) _

/-! ## The layouts -/

/-- A text that makes a numeral behind any sign. -/
def IsMagnitude (cs : List Char) : Prop :=
  ∀ negative s, SignWritten negative s → ∃ m : Numeral, m.Written (s ++ cs)

theorem digits_ofNat (n : Nat) : Digits (ofNat n) := fun _ => isDigit_of_mem_ofNat

theorem ofNat_ne_nil (n : Nat) : ofNat n ≠ [] := by
  have whole := Json.whole_ofNat n
  intro eq
  rw [eq] at whole
  cases whole

theorem exponentWritten_ofNat (k : Nat) : ExponentWritten (some ⟨false, ofNat k⟩) ('e' :: '+' :: ofNat k) :=
  .some (.inl rfl) .plus (ofNat_ne_nil k) (digits_ofNat k)

theorem exponentWritten_negSucc (k : Nat) :
    ExponentWritten (some ⟨true, ofNat (k + 1)⟩) ('e' :: ofInt (.negSucc k)) :=
  .some (.inl rfl) .minus (ofNat_ne_nil (k + 1)) (digits_ofNat (k + 1))

theorem isMagnitude_pointed {ds fs : List Char} (whole : Whole ds) (nonempty : fs ≠ []) (digits : Digits fs) :
    IsMagnitude (ds ++ '.' :: fs) := by
  intro negative s sign
  have written := Numeral.Written.mk sign whole (.some nonempty digits) .none
  rw [List.append_nil] at written
  exact ⟨_, written⟩

namespace Scientific.Proper

variable {s : Scientific}

theorem positional (h : s.Proper) : IsMagnitude (positional true s) := by
  obtain ⟨d, ds, digits, digit, nonzero, more⟩ := h
  have all : Digits s.digits := by
    rw [digits]
    intro c hc
    rcases List.mem_cons.1 hc with rfl | hc
    · exact digit
    · exact more c hc
  unfold Decimal.positional
  cases s.exponent with
  | negSucc k =>
    have nonempty : List.replicate k '0' ++ s.digits ≠ [] := by rw [digits]; simp
    exact isMagnitude_pointed .zero nonempty ((digits_replicate k).append all)
  | ofNat k =>
    have whole : Whole (s.digits.take (k + 1) ++ List.replicate (k + 1 - s.digits.length) '0') := by
      rw [digits, List.take_succ_cons, List.cons_append]
      have some : Digits (ds.take k) := fun c hc => more c (List.mem_of_mem_take hc)
      exact .positive digit nonzero (some.append (digits_replicate _))
    dsimp only
    split
    · exact isMagnitude_pointed whole (List.cons_ne_nil _ _) (digits_replicate 1)
    · rename_i part nonempty
      exact isMagnitude_pointed whole nonempty fun c hc => all c (List.mem_of_mem_drop hc)

theorem exponential (h : s.Proper) : IsMagnitude (exponential s) := by
  obtain ⟨d, ds, digits, digit, nonzero, more⟩ := h
  have single : Whole [d] := .positive digit nonzero nofun
  intro negative sgn sign
  unfold Decimal.exponential
  rw [digits]
  cases ds with
  | nil =>
    cases s.exponent with
    | ofNat k => exact ⟨_, .mk sign single .none (exponentWritten_ofNat k)⟩
    | negSucc k => exact ⟨_, .mk sign single .none (exponentWritten_negSucc k)⟩
  | cons r rs =>
    have fraction : FractionWritten (r :: rs) ('.' :: r :: rs) := .some (List.cons_ne_nil _ _) more
    cases s.exponent with
    | ofNat k => exact ⟨_, .mk sign single fraction (exponentWritten_ofNat k)⟩
    | negSucc k => exact ⟨_, .mk sign single fraction (exponentWritten_negSucc k)⟩

end Scientific.Proper

theorem exists_signWritten (x : Float) : ∃ negative, SignWritten negative (sign x) := by
  unfold sign
  split
  · exact ⟨true, .minus⟩
  · exact ⟨false, .plus⟩

theorem exists_written_of_json? {x : Float} {text : String} (h : json? x = some text) :
    ∃ m : Numeral, m.Written text.toList := by
  unfold json? at h
  split at h
  · cases h
  · cases h
    rw [String.toList_ofList]
    obtain ⟨negative, sign⟩ := exists_signWritten x
    unfold magnitude
    split
    · exact isMagnitude_pointed .zero (List.cons_ne_nil _ _) (digits_replicate 1) _ _ sign
    · rename_i nonzero
      have mantissa : 0 < (Binary.ofBits x.toBits).mantissa := by
        by_contra none
        exact nonzero (zero_of_mantissa (Nat.eq_zero_of_not_pos none))
      have proper := Binary.proper_shortest mantissa .even
      dsimp only
      split
      · exact proper.positional _ _ sign
      · exact proper.exponential _ _ sign

end Decimal

end FilterTree

import FilterTree.Proofs.Json.Written
import Mathlib

/-!
# Integers

What numerals without point and exponent stand for, however many digits they have.

* `Whole.ofNat_value` : digits that do not begin with a zero are those of their value.
* `gather_rest_eq_nil_iff` : digits are all gathered just when their value stays below the bound.
* `Numeral.IsInteger`, `Numeral.value` : numerals without point and exponent, and the integers that they denote.
* `Numeral.IsInteger.exists_int`, `Numeral.IsInteger.exists_uint` : an integer that fits a word is read as that word.
* `Numeral.IsInteger.float_or_error` : any other is read as a double, or it is too large.
* `Numeral.IsInteger.ofInt_value` : but for a negative zero, it is written in one way.
-/

namespace FilterTree

/-! ## Digits -/

namespace Decimal

theorem toNat_of_isDigit {c : Char} (h : c.isDigit = true) : 48 ≤ c.toNat ∧ c.toNat ≤ 57 := by
  rw [Char.isDigit, Bool.and_eq_true, decide_eq_true_eq, decide_eq_true_eq] at h
  exact ⟨UInt32.le_iff_toNat_le.1 h.1, UInt32.le_iff_toNat_le.1 h.2⟩

theorem digit_lt {c : Char} (h : c.isDigit = true) : digit c < 10 := by
  have range := toNat_of_isDigit h
  show c.toNat - 48 < 10
  omega

theorem digitChar_digit {c : Char} (h : c.isDigit = true) : (digit c).digitChar = c := by
  have chars : ∀ n < 10, Nat.digitChar n = Char.ofNat (n + 48) := by decide
  have code : digit c + 48 = c.toNat := Nat.sub_add_cancel (toNat_of_isDigit h).1
  rw [chars _ (digit_lt h), code, Char.ofNat_toNat]

end Decimal

namespace Json

theorem Whole.ofNat_value {ds : List Char} (h : Whole ds) : Decimal.ofNat (Decimal.value ds) = ds := by
  cases h with
  | zero => rfl
  | @positive d ds first nonzero more =>
    have positive : 1 ≤ Decimal.value [d] := by
      have value : Decimal.value [d] = Decimal.digit d := by simp [Decimal.value]
      rw [value, Nat.one_le_iff_ne_zero]
      intro zero
      have char := Decimal.digitChar_digit first
      rw [zero] at char
      exact nonzero char.symm
    -- The digits behind the first are added one by one; the number stays positive, so that none of them is lost.
    induction ds using List.reverseRecOn with
    | nil =>
      have value : Decimal.value [d] = Decimal.digit d := by simp [Decimal.value]
      rw [value, Decimal.ofNat_of_lt (Decimal.digit_lt first), Decimal.digitChar_digit first]
    | append_singleton ds c ih =>
      have front : Digits ds := fun e he => more e (List.mem_append_left _ he)
      have last : c.isDigit = true := more c (List.mem_append_right _ List.mem_cons_self)
      have small := Decimal.digit_lt last
      have grown : 1 ≤ Decimal.value (d :: ds) := positive.trans (le_gathered _ ds)
      have tens : (Decimal.value (d :: ds) * 10 + Decimal.digit c) / 10 = Decimal.value (d :: ds) := by omega
      have ones : (Decimal.value (d :: ds) * 10 + Decimal.digit c) % 10 = Decimal.digit c := by omega
      rw [← List.cons_append, Decimal.value_append_singleton, Decimal.ofNat_eq_append (by omega), tens, ones, ih front,
        Decimal.digitChar_digit last]

theorem gather_rest_eq_nil_iff {bound n : Nat} (start : n < bound) {cs : List Char} :
    (gather bound n cs).2 = [] ↔ cs.foldl (fun n c => n * 10 + Decimal.digit c) n < bound := by
  constructor
  · intro all
    induction cs generalizing n with
    | nil => exact start
    | cons c cs ih =>
      rw [gather] at all
      by_cases next : n * 10 + Decimal.digit c < bound
      · rw [if_pos next] at all
        exact ih next all
      · rw [if_neg next] at all
        cases all
  · intro below
    rw [gather_eq_of_lt below]

namespace Numeral

def IsInteger (m : Numeral) : Prop := m.fraction = [] ∧ m.exponent = none

def value (m : Numeral) : Int := if m.negative then -(Decimal.value m.whole : Int) else Decimal.value m.whole

theorem natAbs_value (m : Numeral) : m.value.natAbs = Decimal.value m.whole := by
  rw [value]
  split
  · rw [Int.natAbs_neg, Int.natAbs_natCast]
  · rw [Int.natAbs_natCast]

namespace IsInteger

variable {m : Numeral} {w : List Char} (h : m.IsInteger)

include h

theorem eq_append (written : m.Written w) : Whole m.whole ∧ ∃ s, SignWritten m.negative s ∧ w = s ++ m.whole := by
  obtain ⟨sign, whole, fraction, exponent⟩ := written
  obtain ⟨rfl, rfl⟩ := h
  cases exponent
  cases fraction with
  | none => exact ⟨whole, _, sign, by simp⟩
  | some nonempty => exact absurd rfl nonempty

/-- But for a negative zero, an integer is written in one way. -/
theorem ofInt_value (written : m.Written w) (sign : m.negative = true → m.value ≠ 0) : Decimal.ofInt m.value = w := by
  obtain ⟨whole, s, signed, rfl⟩ := h.eq_append written
  have digits := whole.ofNat_value
  obtain ⟨negative, ds, fs, e⟩ := m
  cases signed with
  | plus => exact digits
  | minus =>
    cases size : Decimal.value ds with
    | zero => exact absurd (congrArg (fun n : Nat => -(n : Int)) size) (sign rfl)
    | succ n =>
      show Decimal.ofInt (-(Decimal.value ds : Int)) = '-' :: ds
      rw [size] at digits ⊢
      exact congrArg ('-' :: ·) digits

theorem number_of_lt (small : Decimal.value m.whole < significandBound) :
    m.number = .ok (ofWhole m.negative (Decimal.value m.whole)) := by
  have all : gather significandBound 0 m.whole = (Decimal.value m.whole, []) := gather_eq_of_lt small
  simp [number, h.1, h.2, all]

/-- More digits than count are read as a double, or their number is too large for one. -/
theorem number_of_le (large : significandBound ≤ Decimal.value m.whole) :
    (∃ x, m.number = .ok (.float x)) ∨ ∃ unread, m.number = .error unread := by
  have rest : (gather significandBound 0 m.whole).2 ≠ [] :=
    fun all => Nat.not_lt.2 large ((gather_rest_eq_nil_iff (by decide)).1 all)
  have scaled : ∀ {negative n e}, (∃ x, ofScaled negative n e = .ok (.float x)) ∨
      ∃ unread, ofScaled negative n e = .error unread := by
    intro negative n e
    unfold ofScaled
    split
    · exact .inl ⟨_, rfl⟩
    · exact .inr ⟨_, rfl⟩
  simpa [number, h.1, h.2, rest] using scaled

theorem exists_int (sign : m.negative = true → m.value ≠ 0) (lower : -2 ^ 63 ≤ m.value) (upper : m.value < 2 ^ 63) :
    ∃ n : Int64, m.number = .ok (.int n) ∧ n.toInt = m.value := by
  have size := m.natAbs_value
  have small : Decimal.value m.whole < significandBound := by
    unfold significandBound
    omega
  rw [h.number_of_lt small, ofWhole]
  cases negative : m.negative with
  | true =>
    have value : m.value = -(Decimal.value m.whole : Int) := if_pos negative
    have counts : ¬(Decimal.value m.whole = 0 ∨ signedBound < Decimal.value m.whole) := by
      have nonzero := sign negative
      unfold signedBound
      omega
    refine ⟨_, by rw [if_pos rfl, if_neg counts], ?_⟩
    rw [value]
    exact Int64.toInt_ofInt_of_le (by omega) (by omega)
  | false =>
    have value : m.value = Decimal.value m.whole := if_neg (by simp [negative])
    have below : Decimal.value m.whole < signedBound := by
      unfold signedBound
      omega
    refine ⟨_, by rw [if_neg Bool.false_ne_true, if_pos below], ?_⟩
    rw [value]
    exact Int64.toInt_ofNat_of_lt below

theorem exists_uint (lower : 2 ^ 63 ≤ m.value) (upper : m.value < 2 ^ 64) :
    ∃ n : UInt64, m.number = .ok (.uint n) ∧ n.toNat = m.value := by
  have positive : ¬m.negative = true := by
    intro negative
    have value : m.value = -(Decimal.value m.whole : Int) := if_pos negative
    omega
  have value : m.value = Decimal.value m.whole := if_neg positive
  have small : Decimal.value m.whole < significandBound := by
    unfold significandBound
    omega
  have large : ¬Decimal.value m.whole < signedBound := by
    unfold signedBound
    omega
  refine ⟨_, by rw [h.number_of_lt small, ofWhole, if_neg positive, if_neg large], ?_⟩
  rw [value, UInt64.toNat_ofNat_of_lt' small]

theorem float_or_error (other : (m.negative = true ∧ m.value = 0) ∨ m.value < -2 ^ 63 ∨ 2 ^ 64 ≤ m.value) :
    (∃ x, m.number = .ok (.float x)) ∨ 2 ^ 64 ≤ m.value.natAbs ∧ ∃ unread, m.number = .error unread := by
  by_cases small : Decimal.value m.whole < significandBound
  · have negative : m.negative = true := by
      by_contra positive
      have value : m.value = Decimal.value m.whole := if_neg positive
      unfold significandBound at small
      rcases other with ⟨negative, -⟩ | below | above
      · exact positive negative
      · omega
      · omega
    have value : m.value = -(Decimal.value m.whole : Int) := if_pos negative
    have double : Decimal.value m.whole = 0 ∨ signedBound < Decimal.value m.whole := by
      unfold signedBound
      omega
    exact .inl ⟨_, by rw [h.number_of_lt small, ofWhole, if_pos negative, if_pos double]⟩
  · rcases h.number_of_le (Nat.not_lt.1 small) with float | error
    · exact .inl float
    · refine .inr ⟨?_, error⟩
      rw [m.natAbs_value]
      exact Nat.not_lt.1 small

end IsInteger

end Numeral

end Json

end FilterTree

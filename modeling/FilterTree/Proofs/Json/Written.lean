import FilterTree.Proofs.Json.Numeral
import FilterTree.Proofs.Json.Quoted
import Mathlib.Data.List.Forall2

/-!
# What the writer writes

* `textWritten_escape` : the written form of a text is one of its spellings.
* `Numeral.exists_written` : the digits of a number that is no double are a numeral that stands for it, if any numeral does.
* `itemsWritten_compact`, `membersWritten_compact` : elements and members with commas between them are those of a script.
-/

namespace FilterTree.Json

/-! ## Texts -/

theorem quad_control {n : Nat} (h : n < 32) : Quad n ['0', '0', hexDigit (n / 16), hexDigit (n % 16)] := by
  have value : ∀ n < 32, Text.hexNumber? 0 ['0', '0', hexDigit (n / 16), hexDigit (n % 16)] = some n := by decide
  exact ⟨rfl, value n h⟩

theorem charWritten_escape (c : Char) : CharWritten c (escape c) := by
  have short : ∀ {d e : Char}, c = d → shortEscape? e = some d → CharWritten c ['\\', e] := by
    rintro d e rfl h
    exact .short h
  unfold escape
  by_cases quote : c = '"'
  · rw [if_pos quote]
    exact short quote rfl
  rw [if_neg quote]
  by_cases backslash : c = '\\'
  · rw [if_pos backslash]
    exact short backslash rfl
  rw [if_neg backslash]
  by_cases b : c = '\x08'
  · rw [if_pos b]
    exact short b rfl
  rw [if_neg b]
  by_cases f : c = '\x0c'
  · rw [if_pos f]
    exact short f rfl
  rw [if_neg f]
  by_cases n : c = '\n'
  · rw [if_pos n]
    exact short n rfl
  rw [if_neg n]
  by_cases r : c = '\r'
  · rw [if_pos r]
    exact short r rfl
  rw [if_neg r]
  by_cases t : c = '\t'
  · rw [if_pos t]
    exact short t rfl
  rw [if_neg t]
  by_cases control : c < ' '
  · rw [if_pos control]
    have small : c.toNat < 32 := UInt32.lt_iff_toNat_lt.1 control
    have low : isLowSurrogate c.toNat = false := by simp [isLowSurrogate]; omega
    have high : isHighSurrogate c.toNat = false := by simp [isHighSurrogate]; omega
    have code := CharWritten.code (quad_control small) low high
    rwa [Char.ofNat_toNat] at code
  · rw [if_neg control]
    exact .plain ⟨quote, backslash, control⟩

theorem textWritten_escape (cs : List Char) : TextWritten cs (cs.flatMap escape) := by
  induction cs with
  | nil => exact .nil
  | cons c cs ih =>
    rw [List.flatMap_cons]
    exact .cons (charWritten_escape c) ih

theorem textOf?_escape (s : String) : textOf? (s.toList.flatMap escape) = some s :=
  textOf?_eq_some_iff.2 (textWritten_escape s.toList)

/-! ## Whole numbers -/

theorem Whole.append_digit {ds : List Char} (h : Whole ds) (nonzero : ds ≠ ['0']) {d : Char} (digit : d.isDigit = true) :
    Whole (ds ++ [d]) := by
  cases h with
  | zero => exact absurd rfl nonzero
  | @positive c ds first ne more =>
    refine .positive first ne ?_
    intro e he
    rcases List.mem_append.1 he with he | he
    · exact more e he
    · rw [List.mem_singleton.1 he]
      exact digit

theorem whole_ofNat (n : Nat) : Whole (Decimal.ofNat n) := by
  induction n using Nat.strongRecOn with
  | _ n ih =>
    by_cases small : n < 10
    · rw [Decimal.ofNat_of_lt small]
      by_cases zero : n = 0
      · rw [zero]
        exact .zero
      · have nonzero : n.digitChar ≠ '0' := by
          intro eq
          have value := Decimal.digit_digitChar small
          rw [eq] at value
          exact zero value.symm
        exact .positive (Decimal.isDigit_digitChar small) nonzero fun d hd => absurd hd List.not_mem_nil
    · have nonzero : Decimal.ofNat (n / 10) ≠ ['0'] := by
        intro eq
        have value := Decimal.value_ofNat (n / 10)
        rw [eq] at value
        have zero : 0 = n / 10 := value
        omega
      rw [Decimal.ofNat_eq_append (by omega)]
      exact (ih (n / 10) (by omega)).append_digit nonzero (Decimal.isDigit_digitChar (by omega))

theorem le_gathered (n : Nat) (cs : List Char) : n ≤ cs.foldl (fun n c => n * 10 + Decimal.digit c) n := by
  induction cs generalizing n with
  | nil => exact Nat.le_refl n
  | cons c cs ih =>
    have := ih (n * 10 + Decimal.digit c)
    rw [List.foldl_cons]
    omega

theorem gather_eq_of_lt {bound n : Nat} {cs : List Char}
    (h : cs.foldl (fun n c => n * 10 + Decimal.digit c) n < bound) :
    gather bound n cs = (cs.foldl (fun n c => n * 10 + Decimal.digit c) n, []) := by
  induction cs generalizing n with
  | nil => rfl
  | cons c cs ih =>
    rw [List.foldl_cons] at h ⊢
    have next : n * 10 + Decimal.digit c < bound := Nat.lt_of_le_of_lt (le_gathered _ cs) h
    rw [gather, if_pos next, ih h]

theorem gather_ofNat {bound n : Nat} (h : n < bound) : gather bound 0 (Decimal.ofNat n) = (n, []) := by
  have value : (Decimal.ofNat n).foldl (fun n c => n * 10 + Decimal.digit c) 0 = n := Decimal.value_ofNat n
  rw [gather_eq_of_lt (by rw [value]; exact h), value]

theorem gather_lt {bound n : Nat} (h : n < bound) (cs : List Char) : (gather bound n cs).1 < bound := by
  induction cs generalizing n with
  | nil => exact h
  | cons c cs ih =>
    rw [gather]
    by_cases next : n * 10 + Decimal.digit c < bound
    · rw [if_pos next]
      exact ih next
    · rw [if_neg next]
      exact h

namespace Numeral

def ofDigits (negative : Bool) (n : Nat) : Numeral := ⟨negative, Decimal.ofNat n, [], none⟩

theorem number_ofDigits (negative : Bool) {n : Nat} (h : n < significandBound) :
    (ofDigits negative n).number = .ok (ofWhole negative n) := by
  simp [number, ofDigits, gather_ofNat h]

theorem written_ofDigits {negative : Bool} {s : List Char} (sign : SignWritten negative s) (n : Nat) :
    (ofDigits negative n).Written (s ++ Decimal.ofNat n) := by
  have written := Written.mk sign (whole_ofNat n) .none .none
  rwa [List.append_nil, List.append_nil] at written

/-- A numeral without point and exponent is the only one that stands for an unsigned word, and only for one that is no
signed word. -/
theorem signedBound_le_of_number {m : Numeral} {n : UInt64} (h : m.number = .ok (.uint n)) : signedBound ≤ n.toNat := by
  have scaled : ∀ {negative k e}, ofScaled negative k e ≠ .ok (.uint n) := by
    intro negative k e h
    unfold ofScaled at h
    split at h
    · cases h
    · cases h
  have bound : (gather significandBound 0 m.whole).1 < significandBound := gather_lt (by decide) m.whole
  unfold number at h
  dsimp only at h
  cases exponent : m.exponent with
  | some e =>
    rw [exponent] at h
    dsimp only at h
    unfold ofExponent at h
    split at h
    · exact absurd h scaled
    · split at h
      · cases h
      · cases h
  | none =>
    rw [exponent] at h
    dsimp only at h
    split at h
    · unfold ofWhole at h
      split at h
      · split at h
        · cases h
        · cases h
      · rename_i positive
        split at h
        · cases h
        · rename_i large
          cases h
          rw [UInt64.toNat_ofNat_of_lt' bound]
          exact Nat.le_of_not_lt large
    · exact absurd h scaled

theorem exists_written_uint {n : UInt64} (large : signedBound ≤ n.toNat) :
    ∃ m : Numeral, m.Written (Number.uint n).chars ∧ m.number = .ok (.uint n) := by
  refine ⟨ofDigits false n.toNat, written_ofDigits .plus _, ?_⟩
  rw [number_ofDigits false n.toNat_lt, ofWhole, if_neg Bool.false_ne_true, if_neg (by omega), UInt64.ofNat_toNat]

theorem exists_written_int (n : Int64) : ∃ m : Numeral, m.Written (Number.int n).chars ∧ m.number = .ok (.int n) := by
  have read := n.ofInt_toInt
  have upper := n.toInt_lt
  have lower := n.le_toInt
  rw [Number.chars]
  cases value : n.toInt with
  | ofNat k =>
    rw [value] at read upper
    have small : k < signedBound := Int.ofNat_lt.1 upper
    have eq : Int64.ofNat k = n := by rw [← Int64.ofInt_eq_ofNat]; exact read
    refine ⟨ofDigits false k, written_ofDigits .plus k, ?_⟩
    rw [number_ofDigits false (Nat.lt_trans small (by decide)), ofWhole, if_neg Bool.false_ne_true, if_pos small, eq]
  | negSucc k =>
    rw [value] at read lower
    have small : k + 1 ≤ signedBound := by
      unfold signedBound
      omega
    have counts : ¬(k + 1 = 0 ∨ signedBound < k + 1) := by omega
    have eq : Int64.ofInt (-((k + 1 : Nat) : Int)) = n := read
    refine ⟨ofDigits true (k + 1), written_ofDigits .minus (k + 1), ?_⟩
    rw [number_ofDigits true (Nat.lt_of_le_of_lt small (by decide)), ofWhole, if_pos rfl, if_neg counts, eq]

/-- The digits of a number that is no double are a numeral that stands for it, if any numeral does. -/
theorem exists_written {m : Numeral} {n : Number} (h : m.number = .ok n) (noFloat : ∀ x, n ≠ .float x) :
    ∃ m' : Numeral, m'.Written n.chars ∧ m'.number = .ok n := by
  cases n with
  | float x => exact absurd rfl (noFloat x)
  | uint n => exact exists_written_uint (signedBound_le_of_number h)
  | int n => exact exists_written_int n

end Numeral

open Script

/-! ## Elements and members -/

theorem compactItems_cons (v : Json) (vs : List Json) :
    compactItems (v :: vs) = v.compact ++ vs.flatMap fun v => ',' :: v.compact := by
  induction vs generalizing v with
  | nil => rw [compactItems, List.flatMap_nil, List.append_nil]
  | cons w vs ih =>
    rw [compactItems, ih w, List.flatMap_cons, List.cons_append]
    exact nofun

theorem compactMembers_cons (m : String × Json) (ms : List (String × Json)) :
    compactMembers (m :: ms) = quote m.1 ++ ':' :: m.2.compact ++
      ms.flatMap fun m => ',' :: (quote m.1 ++ ':' :: m.2.compact) := by
  induction ms generalizing m with
  | nil => rw [compactMembers, List.flatMap_nil, List.append_nil]
  | cons n ms ih =>
    rw [compactMembers, ih n, List.flatMap_cons]
    · simp
    · exact nofun

theorem itemsWritten_compact {ds : List Script} {vs : List Json}
    (h : List.Forall₂ (fun d v => Written d v.compact) ds vs) : ItemsWritten true ds (compactItems vs) := by
  have more : ∀ {ds : List Script} {vs : List Json}, List.Forall₂ (fun d v => Written d v.compact) ds vs →
      ItemsWritten false ds (vs.flatMap fun v => ',' :: v.compact) := by
    intro ds vs h
    induction h with
    | nil => exact .nil blank_nil
    | cons hd _ ih => exact .cons (.more blank_nil blank_nil) hd ih
  cases h with
  | nil => exact .nil blank_nil
  | cons hd h =>
    rw [compactItems_cons]
    exact .cons (.first blank_nil) hd (more h)

def WrittenMember (m : List Char × Script) (j : String × Json) : Prop :=
  m.1 = j.1.toList.flatMap escape ∧ m.2.Written j.2.compact

theorem membersWritten_compact {ms : List (List Char × Script)} {js : List (String × Json)}
    (h : List.Forall₂ WrittenMember ms js) : MembersWritten true ms (compactMembers js) := by
  have more : ∀ {first p ms js} {m : List Char × Script} {j : String × Json}, Lead first p → WrittenMember m j →
      MembersWritten false ms js → MembersWritten first (m :: ms) (p ++ (quote j.1 ++ ':' :: j.2.compact ++ js)) := by
    rintro first p ms js ⟨key, d⟩ ⟨name, v⟩ lead ⟨rfl, hd⟩ later
    have member := MembersWritten.cons lead (textWritten_escape name.toList).wellQuoted blank_nil blank_nil hd later
    have regroup : quote name ++ ':' :: v.compact ++ js =
        '"' :: (name.toList.flatMap escape ++ '"' :: ([] ++ ':' :: ([] ++ (v.compact ++ js)))) := by simp [quote]
    rwa [regroup]
  cases h with
  | nil => exact .nil blank_nil
  | @cons m j ms js hm h =>
    rw [compactMembers_cons]
    refine more (.first blank_nil) hm ?_
    induction h with
    | nil => exact .nil blank_nil
    | cons hm' _ ih => exact more (.more blank_nil blank_nil) hm' ih

end FilterTree.Json

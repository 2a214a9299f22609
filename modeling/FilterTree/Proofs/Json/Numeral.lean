import FilterTree.Proofs.Json.Grammar

/-!
# Reading numerals

* `numeral_written` : the reader of numerals takes a whole spelling off the front of a text, where a value can end.
* `written_of_numeral` : it takes nothing else.
-/

namespace FilterTree.Json

/-! ## Digits -/

theorem startsWithDigit_of_stops {rest : List Char} (h : Stops rest) : startsWithDigit rest = false := by
  match rest with
  | [] => rfl
  | c :: rest => exact isDigit_of_isStop h

theorem leadingDigits_append {ds rest : List Char} (h : Digits ds) (behind : startsWithDigit rest = false) :
    leadingDigits (ds ++ rest) = ds := by
  rw [leadingDigits, List.takeWhile_append_of_pos h]
  match rest with
  | [] => simp
  | c :: rest =>
    have other : ¬c.isDigit = true := by simpa [startsWithDigit] using behind
    rw [List.takeWhile_cons_of_neg other, List.append_nil]

theorem dropDigits_append {ds rest : List Char} (h : Digits ds) (behind : startsWithDigit rest = false) :
    dropDigits (ds ++ rest) = rest := by
  rw [dropDigits, List.dropWhile_append_of_pos h]
  match rest with
  | [] => rfl
  | c :: rest =>
    have other : ¬c.isDigit = true := by simpa [startsWithDigit] using behind
    rw [List.dropWhile_cons_of_neg other]

theorem digits_leadingDigits (cs : List Char) : Digits (leadingDigits cs) :=
  List.all_eq_true.1 List.all_takeWhile

theorem leadingDigits_append_dropDigits (cs : List Char) : leadingDigits cs ++ dropDigits cs = cs :=
  List.takeWhile_append_dropWhile

/-! ## The parts of a numeral -/

theorem minus_written {negative : Bool} {s rest : List Char} (h : SignWritten negative s) (behind : rest.head? ≠ some '-') :
    minus (s ++ rest) = (negative, rest) := by
  cases h with
  | minus => rfl
  | plus =>
    rw [List.nil_append]
    unfold minus
    split
    · exact absurd rfl behind
    · rfl

theorem written_minus (cs : List Char) : ∃ s, SignWritten (minus cs).1 s ∧ cs = s ++ (minus cs).2 := by
  unfold minus
  split
  · exact ⟨['-'], .minus, rfl⟩
  · exact ⟨[], .plus, rfl⟩

theorem Whole.head_ne_minus {ds : List Char} (h : Whole ds) (rest : List Char) : (ds ++ rest).head? ≠ some '-' := by
  cases h with
  | zero => simp
  | positive digit =>
    intro eq
    rw [Option.some.inj eq] at digit
    exact absurd digit (by decide)

theorem wholePart_written {missing : Cause} {ds rest : List Char} (h : Whole ds) (behind : startsWithDigit rest = false) :
    wholePart missing (ds ++ rest) = .ok (ds, rest) := by
  cases h with
  | zero =>
    show wholePart missing ('0' :: rest) = _
    rw [wholePart, if_pos rfl, behind]
    rfl
  | @positive d ds digit nonzero more =>
    show wholePart missing (d :: (ds ++ rest)) = _
    rw [wholePart, if_neg nonzero, if_pos digit, leadingDigits_append more behind, dropDigits_append more behind]

theorem written_of_wholePart {missing : Cause} {cs ds rest : List Char} (h : wholePart missing cs = .ok (ds, rest)) :
    Whole ds ∧ cs = ds ++ rest := by
  match cs with
  | [] => cases h
  | c :: cs =>
    rw [wholePart] at h
    by_cases zero : c = '0'
    · rw [if_pos zero] at h
      by_cases more : startsWithDigit cs = true
      · rw [if_pos more] at h
        cases h
      · rw [if_neg more] at h
        cases h
        exact ⟨.zero, by rw [zero]; rfl⟩
    · rw [if_neg zero] at h
      by_cases digit : c.isDigit = true
      · rw [if_pos digit] at h
        cases h
        refine ⟨.positive digit zero (digits_leadingDigits cs), ?_⟩
        rw [List.cons_append, leadingDigits_append_dropDigits]
      · rw [if_neg digit] at h
        cases h

theorem fractionPart_written {missing : Cause} {fs f rest : List Char} (h : FractionWritten fs f)
    (behind : startsWithDigit rest = false) (point : rest.head? ≠ some '.') :
    fractionPart missing (f ++ rest) = .ok (fs, rest) := by
  cases h with
  | none =>
    rw [List.nil_append]
    unfold fractionPart
    split
    · exact absurd rfl point
    · rfl
  | some nonempty digits =>
    show fractionPart missing ('.' :: (fs ++ rest)) = _
    rw [fractionPart, leadingDigits_append digits behind, dropDigits_append digits behind]
    obtain ⟨d, ds, rfl⟩ := List.exists_cons_of_ne_nil nonempty
    rfl

theorem written_of_fractionPart {missing : Cause} {cs fs rest : List Char} (h : fractionPart missing cs = .ok (fs, rest)) :
    ∃ f, FractionWritten fs f ∧ cs = f ++ rest := by
  unfold fractionPart at h
  split at h
  · rename_i cs
    split at h
    · cases h
    · rename_i nonempty
      cases h
      refine ⟨'.' :: leadingDigits cs, .some nonempty (digits_leadingDigits cs), ?_⟩
      rw [List.cons_append, leadingDigits_append_dropDigits]
  · cases h
    exact ⟨[], .none, rfl⟩

theorem exponentSign_written {negative : Bool} {s ds : List Char} (h : ExponentSignWritten negative s) (nonempty : ds ≠ [])
    (digits : Digits ds) (rest : List Char) : exponentSign (s ++ (ds ++ rest)) = (negative, ds ++ rest) := by
  obtain ⟨d, ds, rfl⟩ := List.exists_cons_of_ne_nil nonempty
  have digit := digits d List.mem_cons_self
  cases h with
  | plus => rfl
  | minus => rfl
  | none =>
    show exponentSign (d :: (ds ++ rest)) = (false, d :: (ds ++ rest))
    unfold exponentSign
    split
    · rename_i eq
      rw [(List.cons.inj eq).1] at digit
      exact absurd digit (by decide)
    · rename_i eq
      rw [(List.cons.inj eq).1] at digit
      exact absurd digit (by decide)
    · rfl

theorem written_exponentSign (cs : List Char) :
    ∃ s, ExponentSignWritten (exponentSign cs).1 s ∧ cs = s ++ (exponentSign cs).2 := by
  unfold exponentSign
  split
  · exact ⟨['-'], .minus, rfl⟩
  · exact ⟨['+'], .plus, rfl⟩
  · exact ⟨[], .none, rfl⟩

theorem exponentPart_written {missing : Cause} {e : Option Exponent} {x rest : List Char} (h : ExponentWritten e x)
    (behind : Stops rest) : exponentPart missing (x ++ rest) = .ok (e, rest) := by
  cases h with
  | none =>
    match rest with
    | [] => rfl
    | c :: rest =>
      have other : ¬(c = 'e' ∨ c = 'E') := by
        rintro (rfl | rfl)
        · exact absurd behind (show ¬IsStop 'e' by decide)
        · exact absurd behind (show ¬IsStop 'E' by decide)
      show exponentPart missing (c :: rest) = _
      rw [exponentPart, if_neg other]
  | @some negative letter s ds mark sign nonempty digits =>
    have calm := startsWithDigit_of_stops behind
    show exponentPart missing (letter :: (s ++ ds ++ rest)) = _
    rw [exponentPart, if_pos mark, List.append_assoc, exponentSign_written sign nonempty digits, exponentDigits]
    obtain ⟨d, ds, rfl⟩ := List.exists_cons_of_ne_nil nonempty
    simp only [leadingDigits_append digits calm, dropDigits_append digits calm]

theorem written_of_exponentPart {missing : Cause} {e : Option Exponent} {cs rest : List Char}
    (h : exponentPart missing cs = .ok (e, rest)) : ∃ x, ExponentWritten e x ∧ cs = x ++ rest := by
  match cs with
  | [] =>
    cases h
    exact ⟨[], .none, rfl⟩
  | c :: cs =>
    rw [exponentPart] at h
    by_cases mark : c = 'e' ∨ c = 'E'
    · rw [if_pos mark] at h
      unfold exponentDigits at h
      obtain ⟨s, sign, split⟩ := written_exponentSign cs
      split at h
      · cases h
      · rename_i nonempty
        cases h
        refine ⟨c :: (s ++ leadingDigits (exponentSign cs).2), .some mark sign nonempty (digits_leadingDigits _), ?_⟩
        rw [List.cons_append, List.append_assoc, leadingDigits_append_dropDigits, ← split]
    · rw [if_neg mark] at h
      cases h
      exact ⟨[], .none, rfl⟩

/-! ## Whole numerals -/

theorem ExponentWritten.head {e : Option Exponent} {x rest : List Char} (h : ExponentWritten e x) (behind : Stops rest) :
    startsWithDigit (x ++ rest) = false ∧ (x ++ rest).head? ≠ Option.some '.' := by
  cases h with
  | none =>
    exact ⟨startsWithDigit_of_stops behind, head_ne_of_stops behind (by decide)⟩
  | some mark =>
    rcases mark with rfl | rfl
    · exact ⟨rfl, by simp⟩
    · exact ⟨rfl, by simp⟩

theorem FractionWritten.head {fs f rest : List Char} (h : FractionWritten fs f) (behind : startsWithDigit rest = false) :
    startsWithDigit (f ++ rest) = false := by
  cases h with
  | none => exact behind
  | some => rfl

/-- A spelling of a numeral is read whole where a value can end. -/
theorem numeral_written {missing : Cause} {m : Numeral} {w rest : List Char} (h : m.Written w) (behind : Stops rest) :
    numeral missing (w ++ rest) = .ok (m, rest) := by
  obtain ⟨sign, whole, fraction, exponent⟩ := h
  obtain ⟨calm, point⟩ := exponent.head behind
  rw [numeral]
  simp only [List.append_assoc, minus_written sign (whole.head_ne_minus _), wholePart_written whole (fraction.head calm),
    fractionPart_written fraction calm point, exponentPart_written exponent behind]

theorem written_of_numeral {missing : Cause} {m : Numeral} {cs rest : List Char}
    (h : numeral missing cs = .ok (m, rest)) : ∃ w, m.Written w ∧ cs = w ++ rest := by
  obtain ⟨s, sign, split⟩ := written_minus cs
  unfold numeral at h
  cases hwhole : wholePart missing (minus cs).2 with
  | error fault =>
    rw [hwhole] at h
    cases h
  | ok p =>
    obtain ⟨ds, behind⟩ := p
    simp only [hwhole] at h
    cases hfraction : fractionPart missing behind with
    | error fault =>
      rw [hfraction] at h
      cases h
    | ok p =>
      obtain ⟨fs, behind'⟩ := p
      simp only [hfraction] at h
      cases hexponent : exponentPart missing behind' with
      | error fault =>
        rw [hexponent] at h
        cases h
      | ok p =>
        obtain ⟨e, behind''⟩ := p
        simp only [hexponent] at h
        obtain ⟨whole, eq⟩ := written_of_wholePart hwhole
        obtain ⟨f, fraction, rfl⟩ := written_of_fractionPart hfraction
        obtain ⟨x, exponent, rfl⟩ := written_of_exponentPart hexponent
        cases h
        refine ⟨_, .mk sign whole fraction exponent, ?_⟩
        rw [eq] at split
        rw [split]
        simp only [List.append_assoc]

end FilterTree.Json

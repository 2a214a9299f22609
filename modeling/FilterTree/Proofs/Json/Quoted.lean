import FilterTree.Json.Unread
import FilterTree.Proofs.Json.Grammar

/-!
# Reading what stands between quotes

* `quoted_eq_ok_iff` : the reader of texts finds what their spellings say.
* `passQuoted_eq_ok_iff` : the reader that drops texts finds the closing quote of whatever may stand between quotes.
* `textOf?` : the text that characters between quotes stand for, if they have a meaning.
* `textOf?_eq_some_iff` : it is the one they are a spelling of.
-/

namespace FilterTree.Json

/-! ## Numbered escapes -/

theorem length_le_size (cs : List Char) : cs.length ≤ size cs := by
  induction cs with
  | nil => exact Nat.le_refl 0
  | cons c cs ih =>
    have := c.utf8Size_pos
    rw [List.length_cons, size]
    omega

theorem hexQuad_append {n : Nat} {ds : List Char} (h : Quad n ds) (rest : List Char) :
    hexQuad (ds ++ rest) = .ok (n, rest) := by
  obtain ⟨len, value⟩ := h
  have long : ¬size (ds ++ rest) < 4 := by
    have := length_le_size (ds ++ rest)
    rw [List.length_append] at this
    omega
  match ds, len with
  | [a, b, c, d], _ =>
    have found : quadValue? ([a, b, c, d] ++ rest) = some (n, rest) := by
      show (Text.hexNumber? 0 [a, b, c, d]).map (fun n => (n, rest)) = some (n, rest)
      rw [value]
      rfl
    rw [hexQuad, if_neg long, found]

theorem quad_of_hexQuad {n : Nat} {cs rest : List Char} (h : hexQuad cs = .ok (n, rest)) :
    ∃ ds, Quad n ds ∧ cs = ds ++ rest := by
  unfold hexQuad at h
  by_cases short : size cs < 4
  · rw [if_pos short] at h
    cases h
  · rw [if_neg short] at h
    cases found : quadValue? cs with
    | none =>
      rw [found] at h
      cases h
    | some r =>
      rw [found] at h
      cases h
      unfold quadValue? at found
      split at found
      · rename_i a b c d rest'
        obtain ⟨m, value, eq⟩ := Option.map_eq_some_iff.1 found
        cases eq
        exact ⟨[a, b, c, d], ⟨rfl, value⟩, rfl⟩
      · cases found

theorem lowSurrogate_append {m n : Nat} {es : List Char} (h : Quad n es) (low : isLowSurrogate n = true)
    (rest : List Char) : lowSurrogate m ('\\' :: 'u' :: (es ++ rest)) = .ok (pairValue m n, rest) := by
  simp only [lowSurrogate, pairMark, if_pos, hexQuad_append h, low]

theorem quad_of_lowSurrogate {m : Nat} {c : Char} {cs rest : List Char} (h : lowSurrogate m cs = .ok (c, rest)) :
    ∃ n es, Quad n es ∧ isLowSurrogate n = true ∧ c = pairValue m n ∧ cs = '\\' :: 'u' :: (es ++ rest) := by
  have mark : ∀ {mark : Char} {cs rest : List Char}, pairMark mark cs = .ok rest → cs = mark :: rest := by
    intro mark cs rest h
    match cs with
    | [] => cases h
    | c :: cs =>
      rw [pairMark] at h
      by_cases eq : c = mark
      · rw [if_pos eq] at h
        rw [eq, Except.ok.inj h]
      · rw [if_neg eq] at h
        cases h
  unfold lowSurrogate at h
  cases first : pairMark '\\' cs with
  | error fault =>
    rw [first] at h
    cases h
  | ok inner =>
    simp only [first] at h
    cases second : pairMark 'u' inner with
    | error fault =>
      rw [second] at h
      cases h
    | ok digits =>
      simp only [second] at h
      cases quad : hexQuad digits with
      | error fault =>
        rw [quad] at h
        cases h
      | ok p =>
        obtain ⟨n, behind⟩ := p
        simp only [quad] at h
        by_cases low : isLowSurrogate n = true
        · rw [if_pos low] at h
          obtain ⟨es, hes, split⟩ := quad_of_hexQuad quad
          obtain ⟨value, left⟩ := Prod.mk.inj (Except.ok.inj h)
          exact ⟨n, es, hes, low, value.symm, by rw [mark first, mark second, split, left]⟩
        · rw [if_neg low] at h
          cases h

theorem numbered_append {n : Nat} {ds : List Char} (h : Quad n ds) (low : isLowSurrogate n = false)
    (high : isHighSurrogate n = false) (rest : List Char) : numbered (ds ++ rest) = .ok (Char.ofNat n, rest) := by
  simp only [numbered, hexQuad_append h, low, high, Bool.false_eq_true, if_false]

theorem isLowSurrogate_of_high {n : Nat} (h : isHighSurrogate n = true) : isLowSurrogate n = false := by
  simp only [isHighSurrogate, isLowSurrogate, Bool.and_eq_true, decide_eq_true_eq, Bool.and_eq_false_iff,
    decide_eq_false_iff_not] at h ⊢
  omega

theorem numbered_pair_append {m n : Nat} {ds es : List Char} (h : Quad m ds) (high : isHighSurrogate m = true)
    (h' : Quad n es) (low : isLowSurrogate n = true) (rest : List Char) :
    numbered (ds ++ '\\' :: 'u' :: (es ++ rest)) = .ok (pairValue m n, rest) := by
  simp only [numbered, hexQuad_append h, isLowSurrogate_of_high high, high, Bool.false_eq_true, if_false, if_true,
    lowSurrogate_append h' low]

/-! ## Escapes -/

theorem afterBackslash_append {c : Char} {w : List Char} (h : CharWritten c ('\\' :: w)) (rest : List Char) :
    afterBackslash (w ++ rest) = .ok (c, rest) := by
  cases h with
  | plain h => exact absurd rfl h.2.1
  | @short c e h =>
    have letter : e ≠ 'u' := by
      rintro rfl
      cases h
    show afterBackslash (e :: rest) = .ok (c, rest)
    rw [afterBackslash, if_neg letter, h]
  | @code n ds h low high =>
    show afterBackslash ('u' :: (ds ++ rest)) = .ok (Char.ofNat n, rest)
    rw [afterBackslash, if_pos rfl, numbered_append h low high]
  | @pair m n ds es h high h' low =>
    show afterBackslash ('u' :: (ds ++ '\\' :: 'u' :: es ++ rest)) = .ok (pairValue m n, rest)
    rw [afterBackslash, if_pos rfl, List.append_assoc]
    exact numbered_pair_append h high h' low rest

theorem written_of_numbered {c : Char} {cs rest : List Char} (h : numbered cs = .ok (c, rest)) :
    ∃ w, CharWritten c ('\\' :: 'u' :: w) ∧ cs = w ++ rest := by
  unfold numbered at h
  cases quad : hexQuad cs with
  | error fault =>
    rw [quad] at h
    cases h
  | ok p =>
    obtain ⟨n, behind⟩ := p
    simp only [quad] at h
    obtain ⟨ds, hds, rfl⟩ := quad_of_hexQuad quad
    by_cases low : isLowSurrogate n = true
    · rw [if_pos low] at h
      cases h
    · rw [if_neg low] at h
      by_cases high : isHighSurrogate n = true
      · rw [if_pos high] at h
        obtain ⟨m, es, hes, hlow, value, rfl⟩ := quad_of_lowSurrogate h
        rw [value]
        exact ⟨_, .pair hds high hes hlow, by simp⟩
      · rw [if_neg high] at h
        cases h
        exact ⟨ds, .code hds (by simpa using low) (by simpa using high), rfl⟩

theorem written_of_afterBackslash {c : Char} {cs rest : List Char} (h : afterBackslash cs = .ok (c, rest)) :
    ∃ w, CharWritten c ('\\' :: w) ∧ cs = w ++ rest := by
  match cs with
  | [] => cases h
  | e :: cs =>
    rw [afterBackslash] at h
    by_cases letter : e = 'u'
    · rw [if_pos letter] at h
      obtain ⟨w, hw, rfl⟩ := written_of_numbered h
      exact ⟨'u' :: w, hw, by rw [letter]; rfl⟩
    · rw [if_neg letter] at h
      cases short : shortEscape? e with
      | none =>
        rw [short] at h
        cases h
      | some d =>
        rw [short] at h
        cases h
        exact ⟨[e], .short short, rfl⟩

/-! ## Texts -/

theorem quoted_plain {c : Char} (h : IsPlain c) (cs : List Char) :
    quoted (c :: cs) = match quoted cs with
      | .error fault => .error fault
      | .ok (inner, rest) => .ok (c :: inner, rest) := by
  obtain ⟨quote, backslash, control⟩ := h
  cases run : quoted cs with
  | error fault => rw [quoted, if_neg quote, if_neg backslash, if_neg control, run]
  | ok p =>
    obtain ⟨inner, rest⟩ := p
    rw [quoted, if_neg quote, if_neg backslash, if_neg control, run]

theorem quoted_escape {c : Char} {w : List Char} (h : CharWritten c ('\\' :: w)) (cs : List Char) :
    quoted ('\\' :: (w ++ cs)) = match quoted cs with
      | .error fault => .error fault
      | .ok (inner, rest) => .ok (c :: inner, rest) := by
  rw [quoted, if_neg (by decide), if_pos rfl]
  split
  · rename_i fault eq
    rw [afterBackslash_append h cs] at eq
    cases eq
  · rename_i d rest eq
    rw [afterBackslash_append h cs] at eq
    cases eq
    rfl

theorem quoted_written {cs raw : List Char} (h : TextWritten cs raw) (rest : List Char) :
    quoted (raw ++ '"' :: rest) = .ok (cs, rest) := by
  induction h with
  | nil =>
    show quoted ('"' :: rest) = .ok ([], rest)
    rw [quoted, if_pos rfl]
  | @cons c cs w ws hc _ ih =>
    rw [List.append_assoc]
    cases hc with
    | plain plain =>
      show quoted (c :: (ws ++ '"' :: rest)) = .ok (c :: cs, rest)
      rw [quoted_plain plain, ih]
    | short h => exact (quoted_escape (.short h) _).trans (by rw [ih])
    | code h low high => exact (quoted_escape (.code h low high) _).trans (by rw [ih])
    | pair h high h' low => exact (quoted_escape (.pair h high h' low) _).trans (by rw [ih])

theorem written_of_quoted {cs inner rest : List Char} (h : quoted cs = .ok (inner, rest)) :
    ∃ raw, TextWritten inner raw ∧ cs = raw ++ '"' :: rest := by
  fun_induction quoted cs generalizing inner rest with
  | case1 | case3 | case4 | case6 | case7 => cases h
  | case2 cs =>
    cases h
    exact ⟨[], .nil, rfl⟩
  | case5 cs _ _ run _ _ eq _ ih =>
    cases h
    obtain ⟨raw, hraw, rfl⟩ := ih eq
    obtain ⟨w, hw, rfl⟩ := written_of_afterBackslash run
    exact ⟨'\\' :: w ++ raw, .cons hw hraw, by simp⟩
  | case8 c cs quote backslash control _ _ eq ih =>
    cases h
    obtain ⟨raw, hraw, rfl⟩ := ih eq
    exact ⟨[c] ++ raw, .cons (.plain ⟨quote, backslash, control⟩) hraw, rfl⟩

/-- The reader of texts finds what their spellings say. -/
theorem quoted_eq_ok_iff {cs inner rest : List Char} :
    quoted cs = .ok (inner, rest) ↔ ∃ raw, TextWritten inner raw ∧ cs = raw ++ '"' :: rest := by
  constructor
  · exact written_of_quoted
  · rintro ⟨raw, hraw, rfl⟩
    exact quoted_written hraw rest

/-! ## Texts that are dropped -/

theorem wellQuoted_append {ws vs : List Char} (h : WellQuoted ws) (h' : WellQuoted vs) : WellQuoted (ws ++ vs) := by
  induction h with
  | nil => exact h'
  | plain plain _ ih => exact .plain plain ih
  | short short _ ih => exact .short short ih
  | code quad _ ih =>
    show WellQuoted ('\\' :: 'u' :: (_ ++ _ ++ vs))
    rw [List.append_assoc]
    exact .code quad ih

theorem CharWritten.wellQuoted {c : Char} {w : List Char} (h : CharWritten c w) : WellQuoted w := by
  have quad : ∀ {n : Nat} {ds : List Char}, Quad n ds → WellQuoted ('\\' :: 'u' :: ds) := by
    intro n ds h
    simpa using WellQuoted.code h .nil
  cases h with
  | plain plain => exact .plain plain .nil
  | short short => exact .short short .nil
  | code h => exact quad h
  | pair h _ h' => exact wellQuoted_append (quad h) (quad h')

theorem TextWritten.wellQuoted {cs raw : List Char} (h : TextWritten cs raw) : WellQuoted raw := by
  induction h with
  | nil => exact .nil
  | cons hc _ ih => exact wellQuoted_append hc.wellQuoted ih

theorem passQuoted_escape {w rest : List Char} (h : passEscape (w ++ rest) = .ok rest) :
    passQuoted ('\\' :: (w ++ rest)) = passQuoted rest := by
  rw [passQuoted, if_neg (by decide), if_pos rfl]
  split
  · rename_i fault eq
    rw [h] at eq
    cases eq
  · rename_i rest' eq
    rw [h] at eq
    cases eq
    rfl

theorem passQuoted_wellQuoted {raw : List Char} (h : WellQuoted raw) (rest : List Char) :
    passQuoted (raw ++ '"' :: rest) = .ok rest := by
  induction h with
  | nil =>
    show passQuoted ('"' :: rest) = .ok rest
    rw [passQuoted, if_pos rfl]
  | @plain c ws plain _ ih =>
    obtain ⟨quote, backslash, control⟩ := plain
    show passQuoted (c :: (ws ++ '"' :: rest)) = .ok rest
    rw [passQuoted, if_neg quote, if_neg backslash, if_neg control, ih]
  | @short c e ws short _ ih =>
    have letter : e ≠ 'u' := by
      rintro rfl
      cases short
    refine (passQuoted_escape (w := [e]) ?_).trans ih
    show passEscape (e :: (ws ++ '"' :: rest)) = _
    rw [passEscape, if_neg letter, short]
    rfl
  | @code n ds ws quad _ ih =>
    have escape : passEscape ('u' :: ds ++ (ws ++ '"' :: rest)) = .ok (ws ++ '"' :: rest) := by
      show passEscape ('u' :: (ds ++ (ws ++ '"' :: rest))) = _
      rw [passEscape, if_pos rfl, hexQuad_append quad]
    have regroup : '\\' :: 'u' :: (ds ++ ws) ++ '"' :: rest = '\\' :: ('u' :: ds ++ (ws ++ '"' :: rest)) := by simp
    rw [regroup]
    exact (passQuoted_escape escape).trans ih

theorem wellQuoted_of_passQuoted {cs rest : List Char} (h : passQuoted cs = .ok rest) :
    ∃ raw, WellQuoted raw ∧ cs = raw ++ '"' :: rest := by
  fun_induction passQuoted cs generalizing rest with
  | case1 | case3 | case5 => cases h
  | case2 cs =>
    cases h
    exact ⟨[], .nil, rfl⟩
  | case4 cs behind run _ ih =>
    obtain ⟨raw, hraw, rfl⟩ := ih h
    cases cs with
    | nil => cases run
    | cons e cs =>
      rw [passEscape] at run
      by_cases letter : e = 'u'
      · rw [if_pos letter] at run
        cases quad : hexQuad cs with
        | error fault =>
          rw [quad] at run
          cases run
        | ok p =>
          obtain ⟨n, behind⟩ := p
          rw [quad] at run
          cases run
          obtain ⟨ds, hds, rfl⟩ := quad_of_hexQuad quad
          exact ⟨'\\' :: 'u' :: (ds ++ raw), .code hds hraw, by rw [letter]; simp⟩
      · rw [if_neg letter] at run
        cases short : shortEscape? e with
        | none =>
          rw [short] at run
          cases run
        | some c =>
          rw [short] at run
          cases run
          exact ⟨'\\' :: e :: raw, .short short hraw, rfl⟩
  | case6 c cs quote backslash control ih =>
    obtain ⟨raw, hraw, rfl⟩ := ih h
    exact ⟨c :: raw, .plain ⟨quote, backslash, control⟩ hraw, rfl⟩

/-- The reader that drops texts finds the closing quote. -/
theorem passQuoted_eq_ok_iff {cs rest : List Char} :
    passQuoted cs = .ok rest ↔ ∃ raw, WellQuoted raw ∧ cs = raw ++ '"' :: rest := by
  constructor
  · exact wellQuoted_of_passQuoted
  · rintro ⟨raw, hraw, rfl⟩
    exact passQuoted_wellQuoted hraw rest

/-- Where a text ends does not depend on what it says. -/
theorem WellQuoted.unique {raw raw' rest rest' : List Char} (h : WellQuoted raw) (h' : WellQuoted raw')
    (eq : raw ++ '"' :: rest = raw' ++ '"' :: rest') : raw = raw' ∧ rest = rest' := by
  have found := passQuoted_wellQuoted h rest
  rw [eq, passQuoted_wellQuoted h' rest'] at found
  obtain rfl := Except.ok.inj found
  exact ⟨List.append_cancel_right eq, rfl⟩

/-! ## The text that a spelling stands for -/

/-- The text that characters between quotes stand for, if they have a meaning. -/
def textOf? (raw : List Char) : Option String :=
  match quoted (raw ++ ['"']) with
  | .ok (cs, []) => some (String.ofList cs)
  | _ => none

theorem textOf?_eq_some_iff {raw : List Char} {s : String} : textOf? raw = some s ↔ TextWritten s.toList raw := by
  constructor
  · intro h
    unfold textOf? at h
    split at h
    · rename_i cs eq
      cases h
      obtain ⟨raw', written, split⟩ := quoted_eq_ok_iff.1 eq
      rw [List.append_cancel_right split, String.toList_ofList]
      exact written
    · cases h
  · intro h
    rw [textOf?, quoted_written h]
    simp

theorem textOf?_plain {s : String} (plain : PlainText s) : textOf? s.toList = some s := by
  rw [textOf?_eq_some_iff]
  unfold PlainText at plain
  generalize s.toList = cs at plain
  induction cs with
  | nil => exact .nil
  | cons c cs ih =>
    exact .cons (.plain (plain c List.mem_cons_self)) (ih fun d hd => plain d (List.mem_cons_of_mem _ hd))

theorem textWritten_plain {s : String} (plain : PlainText s) : TextWritten s.toList s.toList :=
  textOf?_eq_some_iff.1 (textOf?_plain plain)

/-- The reader of texts reads what stands between quotes as far as it has a meaning. -/
theorem toOption_quoted {raw : List Char} (h : WellQuoted raw) (rest : List Char) :
    (quoted (raw ++ '"' :: rest)).toOption = (textOf? raw).map fun s => (s.toList, rest) := by
  cases run : quoted (raw ++ '"' :: rest) with
  | ok p =>
    obtain ⟨cs, behind⟩ := p
    obtain ⟨raw', written, split⟩ := quoted_eq_ok_iff.1 run
    obtain ⟨rfl, rfl⟩ := h.unique written.wellQuoted split
    have text : textOf? raw = some (String.ofList cs) := textOf?_eq_some_iff.2 (by rwa [String.toList_ofList])
    rw [text]
    simp [Except.toOption]
  | error fault =>
    cases text : textOf? raw with
    | none => rfl
    | some s =>
      rw [quoted_written (textOf?_eq_some_iff.1 text)] at run
      cases run

end FilterTree.Json

import FilterTree.Json.Enclosure

/-!
# Values that nobody asks for

The value of an unknown key is checked and dropped. The check is the grammar alone: nothing is decoded, so an
escape may hold any four digits, a number may be of any size, and there is no limit to the nesting.

* `passQuoted` : the text behind a closing quote.
* `passKey` : the text behind a key and its colon.
* `passScalar` : the text behind a value without brackets.
* `pass` : the text behind a value. The brackets that are open around the place are its only state.
-/

namespace FilterTree.Json

def passEscape : List Char → Except Fault (List Char)
  | [] => .error (.here .endInText [])
  | c :: rest =>
    if c = 'u' then
      match hexQuad rest with
      | .error fault => .error fault
      | .ok (_, rest) => .ok rest
    else match shortEscape? c with
      | some _ => .ok rest
      | none => .error (.next .invalidEscape (c :: rest))

theorem length_passEscape_lt {cs rest : List Char} (h : passEscape cs = .ok rest) :
    rest.length < cs.length := by
  unfold passEscape at h
  split at h
  · cases h
  · split at h
    · split at h
      · cases h
      · rename_i quad
        cases h
        exact Nat.lt_succ_of_lt (length_hexQuad_lt quad)
    · split at h
      · cases h
        exact Nat.lt_succ_self _
      · cases h

def passQuoted : List Char → Except Fault (List Char)
  | [] => .error (.here .endInText [])
  | c :: cs =>
    if c = '"' then .ok cs
    else if c = '\\' then
      match _run : passEscape cs with
      | .error fault => .error fault
      | .ok rest => passQuoted rest
    else if c < ' ' then .error (.here .controlCharacter (c :: cs))
    else passQuoted cs
termination_by cs => cs.length
decreasing_by
  · exact Nat.lt_succ_of_lt (length_passEscape_lt _run)
  · exact Nat.lt_succ_self _

theorem length_passQuoted_lt {cs rest : List Char} (h : passQuoted cs = .ok rest) :
    rest.length < cs.length := by
  fun_induction passQuoted cs generalizing rest with
  | case1 => cases h
  | case2 => cases h; exact Nat.lt_succ_self _
  | case3 => cases h
  | case4 _ _ run _ ih => exact Nat.lt_succ_of_lt (Nat.lt_trans (ih h) (length_passEscape_lt run))
  | case5 => cases h
  | case6 _ _ _ _ _ ih => exact Nat.lt_succ_of_lt (ih h)

def passKey (cs : List Char) : Except Fault (List Char) :=
  match skipBlanks cs with
  | [] => .error (.here .endInObject [])
  | c :: rest =>
    if c = '"' then
      match passQuoted rest with
      | .error fault => .error fault
      | .ok rest => colon rest
    else .error (.next .keyNotText (c :: rest))

theorem length_passKey_lt {cs rest : List Char} (h : passKey cs = .ok rest) : rest.length < cs.length := by
  unfold passKey at h
  have shorter := length_skipBlanks_le cs
  split at h
  · cases h
  · rename_i eq
    rw [eq, List.length_cons] at shorter
    split at h
    · split at h
      · cases h
      · rename_i run
        have := length_passQuoted_lt run
        have := length_colon_lt h
        omega
    · cases h

def passScalar (c : Char) (rest : List Char) : Except Fault (List Char) :=
  if c = 'n' then word ['u', 'l', 'l'] rest
  else if c = 't' then word ['r', 'u', 'e'] rest
  else if c = 'f' then word ['a', 'l', 's', 'e'] rest
  else if c = '"' then passQuoted rest
  else if c = '-' ∨ c.isDigit then
    match numeral .invalidNumber (c :: rest) with
    | .error fault => .error fault
    | .ok (_, rest) => .ok rest
  else .error (.next .expectedValue (c :: rest))

theorem length_passScalar_le {c : Char} {cs rest : List Char} (h : passScalar c cs = .ok rest) :
    rest.length ≤ cs.length := by
  unfold passScalar at h
  split at h
  · exact length_word_le h
  · split at h
    · exact length_word_le h
    · split at h
      · exact length_word_le h
      · split at h
        · exact Nat.le_of_lt (length_passQuoted_lt h)
        · split at h
          · split at h
            · cases h
            · rename_i run
              cases h
              exact Nat.le_of_lt_succ (length_numeral_lt run)
          · cases h

/-- What may follow at a place inside brackets. -/
inductive Stage where
  /-- A value. -/
  | value
  /-- The first element or member, or the closing bracket. -/
  | first
  /-- A comma or the closing bracket. -/
  | more

def passToValue : Enclosure → List Char → Except Fault (List Char)
  | .list, cs => .ok cs
  | .object, cs => passKey cs

theorem length_passToValue_le {e : Enclosure} {cs rest : List Char} (h : passToValue e cs = .ok rest) :
    rest.length ≤ cs.length := by
  match e with
  | .list => cases h; exact Nat.le_refl _
  | .object => exact Nat.le_of_lt (length_passKey_lt h)

/-- The text behind a value, or behind the brackets that are open around the place, innermost first. -/
def pass (opened : List Enclosure) (stage : Stage) (cs : List Char) : Except Fault (List Char) :=
  match stage, opened with
  | .value, _ => match _start : skipBlanks cs with
    | [] => .error (.here .endInValue [])
    | c :: rest =>
      if c = '[' then pass (.list :: opened) .first rest
      else if c = '\x7b' then pass (.object :: opened) .first rest
      else match _run : passScalar c rest with
        | .error fault => .error fault
        | .ok rest => pass opened .more rest
  | _, [] => .ok cs
  | .first, e :: outer => match _start : skipBlanks cs with
    | [] => .error (.here e.endCause [])
    | c :: rest =>
      if c = e.closer then pass outer .more rest
      else match _run : passToValue e (c :: rest) with
        | .error fault => .error fault
        | .ok rest => pass opened .value rest
  | .more, e :: outer => match _start : skipBlanks cs with
    | [] => .error (.here e.endCause [])
    | c :: rest =>
      if c = e.closer then pass outer .more rest
      else if c = ',' then
        match _run : passToValue e rest with
        | .error fault => .error fault
        | .ok rest => pass opened .value rest
      else .error (.next e.expectedEnd (c :: rest))
termination_by 2 * cs.length + (match stage with | .first => 1 | _ => 0)
decreasing_by
  all_goals
    have shorter := length_lt_of_skipBlanks _start
  · omega
  · omega
  · have := length_passScalar_le _run
    omega
  · omega
  · have := length_passToValue_le _run
    simp only [List.length_cons] at this
    omega
  · omega
  · have := length_passToValue_le _run
    omega

theorem length_pass_le {opened : List Enclosure} {stage : Stage} {cs rest : List Char}
    (h : pass opened stage cs = .ok rest) : rest.length ≤ cs.length := by
  fun_induction pass opened stage cs generalizing rest with
  | case1 | case4 | case7 | case9 | case11 | case13 | case15 => cases h
  | case2 _ _ _ start ih => exact Nat.le_trans (ih h) (Nat.le_of_lt (length_lt_of_skipBlanks start))
  | case3 _ _ _ start _ ih => exact Nat.le_trans (ih h) (Nat.le_of_lt (length_lt_of_skipBlanks start))
  | case5 _ _ _ _ start _ _ _ run ih =>
    have := ih h
    have := length_passScalar_le run
    have := length_lt_of_skipBlanks start
    omega
  | case6 => cases h; exact Nat.le_refl _
  | case8 _ _ _ _ start ih => exact Nat.le_trans (ih h) (Nat.le_of_lt (length_lt_of_skipBlanks start))
  | case10 _ _ _ _ _ start _ _ run ih =>
    have := ih h
    have := length_passToValue_le run
    have := length_lt_of_skipBlanks start
    simp only [List.length_cons] at *
    omega
  | case12 _ _ _ _ start ih => exact Nat.le_trans (ih h) (Nat.le_of_lt (length_lt_of_skipBlanks start))
  | case14 _ _ _ _ _ run start _ ih =>
    have := ih h
    have := length_passToValue_le run
    have := length_lt_of_skipBlanks start
    omega

end FilterTree.Json

import FilterTree.Json.Reader

/-!
# Texts between quotes

* `hexQuad` : four digits to base sixteen.
* `afterBackslash` : the character that an escape stands for. Two escapes in a row make up a character beyond
  the basic plane.
* `quoted` : the characters up to the closing quote.
-/

namespace FilterTree.Json

def quadValue? : List Char → Option (Nat × List Char)
  | a :: b :: c :: d :: rest => (Text.hexNumber? 0 [a, b, c, d]).map fun n => (n, rest)
  | _ => none

/-- Four digits to base sixteen. A text of fewer than four bytes ends too early, whatever it holds. -/
def hexQuad (cs : List Char) : Result Nat :=
  if size cs < 4 then .error (.here .endInText [])
  else match quadValue? cs with
    | some r => .ok r
    | none => .error (.placed .invalidEscape (size cs - 4))

def isHighSurrogate (n : Nat) : Bool := 0xD800 ≤ n && n ≤ 0xDBFF

def isLowSurrogate (n : Nat) : Bool := 0xDC00 ≤ n && n ≤ 0xDFFF

/-- The character that a pair of halves stands for. -/
def pairValue (high low : Nat) : Char := Char.ofNat ((high - 0xD800) * 0x400 + (low - 0xDC00) + 0x10000)

def pairMark (mark : Char) : List Char → Except Fault (List Char)
  | [] => .error (.here .endInText [])
  | c :: rest => if c = mark then .ok rest else .error (.next .missingSurrogate (c :: rest))

/-- The second half of a pair, which has to follow its first half at once. -/
def lowSurrogate (high : Nat) (cs : List Char) : Result Char :=
  match pairMark '\\' cs with
  | .error fault => .error fault
  | .ok cs => match pairMark 'u' cs with
    | .error fault => .error fault
    | .ok cs => match hexQuad cs with
      | .error fault => .error fault
      | .ok (low, rest) =>
        if isLowSurrogate low then .ok (pairValue high low, rest) else .error (.here .loneSurrogate rest)

/-- The character of a numbered escape, from its digits on. -/
def numbered (cs : List Char) : Result Char :=
  match hexQuad cs with
  | .error fault => .error fault
  | .ok (n, rest) =>
    if isLowSurrogate n then .error (.here .loneSurrogate rest)
    else if isHighSurrogate n then lowSurrogate n rest
    else .ok (Char.ofNat n, rest)

def shortEscape? (c : Char) : Option Char :=
  if c = '"' ∨ c = '\\' ∨ c = '/' then some c
  else if c = 'b' then some '\x08'
  else if c = 'f' then some '\x0c'
  else if c = 'n' then some '\n'
  else if c = 'r' then some '\r'
  else if c = 't' then some '\t'
  else none

def afterBackslash : List Char → Result Char
  | [] => .error (.here .endInText [])
  | c :: rest =>
    if c = 'u' then numbered rest
    else match shortEscape? c with
      | some d => .ok (d, rest)
      | none => .error (.next .invalidEscape (c :: rest))

theorem length_quadValue?_lt {cs rest : List Char} {n : Nat} (h : quadValue? cs = some (n, rest)) :
    rest.length < cs.length := by
  unfold quadValue? at h
  split at h
  · obtain ⟨_, _, eq⟩ := Option.map_eq_some_iff.1 h
    obtain rfl : _ = rest := congrArg Prod.snd eq
    simp only [List.length_cons]
    omega
  · cases h

theorem length_hexQuad_lt {cs rest : List Char} {n : Nat} (h : hexQuad cs = .ok (n, rest)) :
    rest.length < cs.length := by
  unfold hexQuad at h
  split at h
  · cases h
  · split at h
    · rename_i quad
      cases h
      exact length_quadValue?_lt quad
    · cases h

theorem length_pairMark_lt {mark : Char} {cs rest : List Char} (h : pairMark mark cs = .ok rest) :
    rest.length < cs.length := by
  unfold pairMark at h
  split at h
  · cases h
  · split at h
    · cases h
      exact Nat.lt_succ_self _
    · cases h

theorem length_lowSurrogate_lt {high : Nat} {cs rest : List Char} {c : Char}
    (h : lowSurrogate high cs = .ok (c, rest)) : rest.length < cs.length := by
  unfold lowSurrogate at h
  split at h
  · cases h
  · rename_i first
    split at h
    · cases h
    · rename_i second
      split at h
      · cases h
      · rename_i quad
        split at h
        · rw [← rest_eq_of_ok h]
          have := length_pairMark_lt first
          have := length_pairMark_lt second
          have := length_hexQuad_lt quad
          omega
        · cases h

theorem length_numbered_lt {cs rest : List Char} {c : Char} (h : numbered cs = .ok (c, rest)) :
    rest.length < cs.length := by
  unfold numbered at h
  split at h
  · cases h
  · rename_i quad
    have := length_hexQuad_lt quad
    split at h
    · cases h
    · split at h
      · have := length_lowSurrogate_lt h
        omega
      · cases h
        assumption

theorem length_afterBackslash_lt {cs rest : List Char} {c : Char} (h : afterBackslash cs = .ok (c, rest)) :
    rest.length < cs.length := by
  unfold afterBackslash at h
  split at h
  · cases h
  · split at h
    · exact Nat.lt_succ_of_lt (length_numbered_lt h)
    · split at h
      · cases h
        exact Nat.lt_succ_self _
      · cases h

/-- The characters up to the closing quote, and the text behind it. -/
def quoted : List Char → Result (List Char)
  | [] => .error (.here .endInText [])
  | c :: cs =>
    if c = '"' then .ok ([], cs)
    else if c = '\\' then
      match _run : afterBackslash cs with
      | .error fault => .error fault
      | .ok (d, rest) => match quoted rest with
        | .error fault => .error fault
        | .ok (inner, rest) => .ok (d :: inner, rest)
    else if c < ' ' then .error (.here .controlCharacter cs)
    else match quoted cs with
      | .error fault => .error fault
      | .ok (inner, rest) => .ok (c :: inner, rest)
termination_by cs => cs.length
decreasing_by
  · exact Nat.lt_succ_of_lt (length_afterBackslash_lt _run)
  · exact Nat.lt_succ_self _

theorem length_quoted_lt {cs inner rest : List Char} (h : quoted cs = .ok (inner, rest)) :
    rest.length < cs.length := by
  fun_induction quoted cs generalizing inner rest with
  | case1 => cases h
  | case2 => cases h; exact Nat.lt_succ_self _
  | case3 => cases h
  | case4 => cases h
  | case5 _ _ _ run _ _ eq _ ih =>
    cases h
    have := length_afterBackslash_lt run
    have := ih eq
    simp only [List.length_cons]
    omega
  | case6 => cases h
  | case7 => cases h
  | case8 _ _ _ _ _ _ _ eq ih =>
    cases h
    have := ih eq
    simp only [List.length_cons]
    omega

end FilterTree.Json

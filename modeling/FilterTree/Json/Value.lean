import FilterTree.Json.Enclosure

/-!
# Reading values

* `Reader.scalar` : a value without brackets.
* `mismatch` : the fault where a value of another kind stands. A scalar is read first, so that its own faults
  come before this one; brackets are not entered.
* `Reader.text`, `Reader.list` : a value of one kind.
* `Reader.value` : any value. Readers of what has brackets are given the reader of what stands inside them, or
  nothing where no level of nesting is left.
* `Json.reader` : any value within a number of levels.
-/

namespace FilterTree.Json

def found : Json → Found
  | .null => .null
  | .bool b => .bool b
  | .number n => .number n
  | .text s => .text s
  | .list _ => .list
  | .object _ => .object

/-- A word that stands for a value, of which the first letter has been read. -/
def wordValue (letters : List Char) (v : Json) (cs : List Char) : Result Json :=
  match word letters cs with
  | .ok rest => .ok (v, rest)
  | .error fault => .error fault

theorem length_wordValue_le {letters cs rest : List Char} {v w : Json}
    (h : wordValue letters v cs = .ok (w, rest)) : rest.length ≤ cs.length := by
  unfold wordValue at h
  split at h
  · rename_i run
    cases h
    exact length_word_le run
  · cases h

/-- A value without brackets. No blank may stand before it. -/
def scalar : List Char → Result Json
  | [] => .error (.here .endInValue [])
  | c :: rest =>
    if c = 'n' then wordValue ['u', 'l', 'l'] .null rest
    else if c = 't' then wordValue ['r', 'u', 'e'] (.bool true) rest
    else if c = 'f' then wordValue ['a', 'l', 's', 'e'] (.bool false) rest
    else if c = '"' then
      match quoted rest with
      | .ok (inner, rest) => .ok (.text (String.ofList inner), rest)
      | .error fault => .error fault
    else if c = '-' ∨ c.isDigit then (Reader.number.map Json.number).run (c :: rest)
    else .error (.next .expectedValue (c :: rest))

theorem length_scalar_lt {cs rest : List Char} {v : Json} (h : scalar cs = .ok (v, rest)) :
    rest.length < cs.length := by
  unfold scalar at h
  split at h
  · cases h
  · split at h
    · exact Nat.lt_succ_of_le (length_wordValue_le h)
    · split at h
      · exact Nat.lt_succ_of_le (length_wordValue_le h)
      · split at h
        · exact Nat.lt_succ_of_le (length_wordValue_le h)
        · split at h
          · split at h
            · rename_i run
              cases h
              exact Nat.lt_succ_of_lt (length_quoted_lt run)
            · cases h
          · split at h
            · exact (Reader.number.map Json.number).shortens h
            · cases h

/-- The fault where a value of another kind stands. No blank may stand before it. -/
def mismatch (expected : Expected) (cs : List Char) : Fault :=
  match cs with
  | '[' :: _ => .here (.mismatch .list expected) cs
  | '\x7b' :: _ => .here (.mismatch .object expected) cs
  | _ => match scalar cs with
    | .ok (v, rest) => .here (.mismatch v.found expected) rest
    | .error fault => fault

/-- What stands between brackets, of which the opening one begins the text, if a level of nesting is left. -/
def bracketed {α : Type} (e : Enclosure) (inside : Option (List Char → Result α)) : List Char → Result α
  | [] => .error (.here .endInValue [])
  | c :: rest => match inside with
    | none => .error (.next .tooNested (c :: rest))
    | some body => e.settle (body rest)

theorem length_bracketed_lt {α : Type} {e : Enclosure} {inside : Option (List Char → Result α)}
    {cs rest : List Char} {a : α}
    (le : ∀ body, inside = some body → ∀ cs b inner, body cs = .ok (b, inner) → inner.length ≤ cs.length)
    (h : bracketed e inside cs = .ok (a, rest)) : rest.length < cs.length := by
  unfold bracketed at h
  split at h
  · cases h
  · split at h
    · cases h
    · exact Nat.lt_succ_of_lt (Enclosure.length_settle_lt (le _ rfl _) h)

def Reader.text : Reader String where
  run cs := match skipBlanks cs with
    | [] => .error (.here .endInValue [])
    | c :: rest =>
      if c = '"' then
        (quoted rest).map fun p => (String.ofList p.1, p.2)
      else .error (mismatch .text (c :: rest))
  shortens {cs a rest} h := by
    split at h
    · cases h
    · rename_i start
      split at h
      · obtain ⟨⟨inner, left⟩, run, eq⟩ := eq_ok_of_map h
        cases eq
        exact Nat.lt_trans (length_quoted_lt run) (length_lt_of_skipBlanks start)
      · cases h

def listBody {α : Type} (item : Option (Reader α)) : Option (List Char → Result (List α)) :=
  item.map fun r => elements r true

theorem length_listBody_le {α : Type} {item : Option (Reader α)} {body : List Char → Result (List α)}
    (h : listBody item = some body) (cs : List Char) (as : List α) (rest : List Char)
    (run : body cs = .ok (as, rest)) : rest.length ≤ cs.length := by
  obtain ⟨r, _, rfl⟩ := Option.map_eq_some_iff.1 h
  exact length_elements_le run

def Reader.list {α : Type} (item : Option (Reader α)) : Reader (List α) where
  run cs := match skipBlanks cs with
    | [] => .error (.here .endInValue [])
    | c :: rest =>
      if c = '[' then bracketed .list (listBody item) (c :: rest) else .error (mismatch .list (c :: rest))
  shortens {cs a rest} h := by
    split at h
    · cases h
    · rename_i start
      have := length_lt_of_skipBlanks start
      split at h
      · have := length_bracketed_lt (fun _ => length_listBody_le) h
        simp only [List.length_cons] at this
        omega
      · cases h

/-- The members of an object up to the closing bracket, which is left in place. -/
def entries (item : Reader Json) (first : Bool) (cs : List Char) : Result (List (String × Json)) :=
  match _start : Enclosure.object.next first cs with
  | .error fault => .error fault
  | .ok none => .ok ([], cs)
  | .ok (some inner) => match _key : Reader.key.run inner with
    | .error fault => .error fault
    | .ok (key, rest) => match _colon : colon rest with
      | .error fault => .error fault
      | .ok rest => match _run : item.run rest with
        | .error fault => .error fault
        | .ok (v, rest) => match entries item false rest with
          | .error fault => .error fault
          | .ok (ms, rest) => .ok ((key, v) :: ms, rest)
termination_by cs.length
decreasing_by
  have := Enclosure.length_next_le _start
  have := Reader.key.shortens _key
  have := length_colon_lt _colon
  have := item.shortens _run
  omega

theorem length_entries_le {item : Reader Json} {first : Bool} {cs rest : List Char}
    {ms : List (String × Json)} (h : entries item first cs = .ok (ms, rest)) : rest.length ≤ cs.length := by
  fun_induction entries item first cs generalizing ms rest with
  | case2 => cases h; exact Nat.le_refl _
  | case7 _ _ _ start _ _ key _ c _ _ run _ _ eq ih =>
    cases h
    have := ih eq
    have := Enclosure.length_next_le start
    have := Reader.key.shortens key
    have := length_colon_lt c
    have := item.shortens run
    omega
  | _ => cases h

def objectBody (item : Option (Reader Json)) : Option (List Char → Result (List (String × Json))) :=
  item.map fun r => entries r true

theorem length_objectBody_le {item : Option (Reader Json)} {body : List Char → Result (List (String × Json))}
    (h : objectBody item = some body) (cs : List Char) (ms : List (String × Json)) (rest : List Char)
    (run : body cs = .ok (ms, rest)) : rest.length ≤ cs.length := by
  obtain ⟨r, _, rfl⟩ := Option.map_eq_some_iff.1 h
  exact length_entries_le run

def Reader.value (item : Option (Reader Json)) : Reader Json where
  run cs := match skipBlanks cs with
    | [] => .error (.here .endInValue [])
    | c :: rest =>
      if c = '[' then
        match bracketed .list (listBody item) (c :: rest) with
        | .ok (vs, rest) => .ok (.list vs, rest)
        | .error fault => .error fault
      else if c = '\x7b' then
        match bracketed .object (objectBody item) (c :: rest) with
        | .ok (ms, rest) => .ok (.object ms, rest)
        | .error fault => .error fault
      else scalar (c :: rest)
  shortens {cs a rest} h := by
    split at h
    · cases h
    · rename_i start
      have shorter := length_lt_of_skipBlanks start
      split at h
      · split at h
        · rename_i run
          cases h
          have := length_bracketed_lt (fun _ => length_listBody_le) run
          simp only [List.length_cons] at this
          omega
        · cases h
      · split at h
        · split at h
          · rename_i run
            cases h
            have := length_bracketed_lt (fun _ => length_objectBody_le) run
            simp only [List.length_cons] at this
            omega
          · cases h
        · have := length_scalar_lt h
          simp only [List.length_cons] at this
          omega

/-- Any value with at most so many levels of brackets. -/
def reader : Nat → Reader Json
  | 0 => .value none
  | levels + 1 => .value (some (reader levels))

end FilterTree.Json

import FilterTree.Json.Numeral
import FilterTree.Json.Quoted

/-!
# Lists and objects

* `Enclosure` : a list or an object, as brackets around a sequence.
* `Enclosure.next` : the start of the next element or member, or nothing before the closing bracket.
* `Enclosure.leave` : the closing bracket.
* `Enclosure.settle` : what is read between brackets, closed. A loose fault is placed where the attempt to leave
  the innermost brackets around it ends.
* `colon`, `Reader.key` : the two parts of a member before its value.
* `elements`, `members` : the sequence between the brackets.
-/

namespace FilterTree.Json

/-- The two kinds of brackets around a sequence. -/
inductive Enclosure where
  | list
  | object
deriving DecidableEq

namespace Enclosure

def closer : Enclosure → Char
  | .list => ']'
  | .object => '\x7d'

/-- The cause where the text ends between the brackets. -/
def endCause : Enclosure → Cause
  | .list => .endInList
  | .object => .endInObject

/-- The cause where neither a comma nor the closing bracket follows. -/
def expectedEnd : Enclosure → Cause
  | .list => .expectedListEnd
  | .object => .expectedObjectEnd

/-- The start of the next element or member, behind its comma unless it is the first. -/
def next (e : Enclosure) (first : Bool) (cs : List Char) : Except Fault (Option (List Char)) :=
  match skipBlanks cs with
  | [] => .error (.here e.endCause [])
  | c :: rest =>
    if c = e.closer then .ok none
    else if first then .ok (some (c :: rest))
    else if c = ',' then
      match skipBlanks rest with
      | [] => .error (.here .endInValue [])
      | d :: rest =>
        if d = e.closer then .error (.next .trailingComma (d :: rest)) else .ok (some (d :: rest))
    else .error (.next e.expectedEnd (c :: rest))

/-- The text behind the closing bracket, or a fault and the text where the search for it ended. A list looks past
a comma, an object does not. -/
def leave (e : Enclosure) (cs : List Char) : Except (Fault × List Char) (List Char) :=
  match skipBlanks cs with
  | [] => .error (.here e.endCause [], [])
  | c :: rest =>
    if c = e.closer then .ok rest
    else if c = ',' then
      match e with
      | .object => .error (.next .trailingComma (c :: rest), c :: rest)
      | .list => match skipBlanks rest with
        | ']' :: rest => .error (.next .trailingComma (']' :: rest), ']' :: rest)
        | rest => .error (.next .trailingCharacters rest, rest)
    else .error (.next .trailingCharacters (c :: rest), c :: rest)

def reach (e : Enclosure) (cs : List Char) : List Char :=
  match e.leave cs with
  | .ok rest => rest
  | .error (_, rest) => rest

def settle {α : Type} (e : Enclosure) : Result α → Result α
  | .ok (a, cs) => match e.leave cs with
    | .ok rest => .ok (a, rest)
    | .error (fault, _) => .error fault
  | .error (.loose cause cs) => .error (.here cause (e.reach cs))
  | .error (.placed cause left) => .error (.placed cause left)

theorem length_next_le {e : Enclosure} {first : Bool} {cs rest : List Char}
    (h : e.next first cs = .ok (some rest)) : rest.length ≤ cs.length := by
  unfold next at h
  have outer := length_skipBlanks_le cs
  split at h
  · cases h
  · rename_i c inner eq
    rw [eq] at outer
    have := length_skipBlanks_le inner
    split at h
    · cases h
    · split at h
      · cases h
        exact outer
      · split at h
        · split at h
          · cases h
          · rename_i eq
            rw [eq] at this
            split at h
            · cases h
            · cases h
              simp only [List.length_cons] at this outer ⊢
              omega
        · cases h

theorem length_leave_lt {e : Enclosure} {cs rest : List Char} (h : e.leave cs = .ok rest) :
    rest.length < cs.length := by
  unfold leave at h
  have shorter := length_skipBlanks_le cs
  split at h
  · cases h
  · rename_i eq
    rw [eq, List.length_cons] at shorter
    split at h
    · cases h
      exact shorter
    · split at h
      · split at h
        · cases h
        · split at h
          · cases h
          · cases h
      · cases h

theorem length_settle_lt {α : Type} {e : Enclosure} {r : Result α} {a : α} {cs rest : List Char}
    (le : ∀ b inner, r = .ok (b, inner) → inner.length ≤ cs.length) (h : e.settle r = .ok (a, rest)) :
    rest.length < cs.length := by
  unfold settle at h
  split at h
  · rename_i inner
    split at h
    · rename_i run
      cases h
      exact Nat.lt_of_lt_of_le (length_leave_lt run) (le _ _ rfl)
    · cases h
  · cases h
  · cases h

end Enclosure

def colon (cs : List Char) : Except Fault (List Char) :=
  match skipBlanks cs with
  | [] => .error (.here .endInObject [])
  | c :: rest => if c = ':' then .ok rest else .error (.next .expectedColon (c :: rest))

theorem length_colon_lt {cs rest : List Char} (h : colon cs = .ok rest) : rest.length < cs.length := by
  unfold colon at h
  have shorter := length_skipBlanks_le cs
  split at h
  · cases h
  · rename_i eq
    rw [eq, List.length_cons] at shorter
    split at h
    · cases h
      exact shorter
    · cases h

def Reader.key : Reader String where
  run
    | [] => .error (.here .endInObject [])
    | c :: rest =>
      if c = '"' then
        match quoted rest with
        | .ok (inner, rest) => .ok (String.ofList inner, rest)
        | .error fault => .error fault
      else .error (.next .keyNotText (c :: rest))
  shortens {cs a rest} h := by
    split at h
    · cases h
    · split at h
      · split at h
        · rename_i run
          cases h
          exact Nat.lt_succ_of_lt (length_quoted_lt run)
        · cases h
      · cases h

/-- The elements up to the closing bracket, which is left in place. -/
def elements {α : Type} (item : Reader α) (first : Bool) (cs : List Char) : Result (List α) :=
  match _start : Enclosure.list.next first cs with
  | .error fault => .error fault
  | .ok none => .ok ([], cs)
  | .ok (some inner) => match _run : item.run inner with
    | .error fault => .error fault
    | .ok (a, rest) => match elements item false rest with
      | .error fault => .error fault
      | .ok (as, rest) => .ok (a :: as, rest)
termination_by cs.length
decreasing_by exact Nat.lt_of_lt_of_le (item.shortens _run) (Enclosure.length_next_le _start)

theorem length_elements_le {α : Type} {item : Reader α} {first : Bool} {cs rest : List Char} {as : List α}
    (h : elements item first cs = .ok (as, rest)) : rest.length ≤ cs.length := by
  fun_induction elements item first cs generalizing as rest with
  | case1 => cases h
  | case2 => cases h; exact Nat.le_refl _
  | case3 => cases h
  | case4 => cases h
  | case5 _ _ _ start _ _ run _ _ eq ih =>
    cases h
    have := ih eq
    have := item.shortens run
    have := Enclosure.length_next_le start
    omega

end FilterTree.Json

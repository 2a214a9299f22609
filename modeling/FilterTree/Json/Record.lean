import FilterTree.Json.Value
import FilterTree.Json.Unread

/-!
# Records

A record has a fixed list of fields. It is written as an object, in any order and with unknown keys between,
or as a list of the fields' values, of which the last ones may be missing.

* `Fields` : the names of the fields in order, each with the reader of its value.
* `named` : the fields of an object up to the closing bracket. No field may be given twice.
* `positional` : the fields of a list up to the closing bracket.
* `Reader.record` : a record in either form, as the values that it gives.
-/

namespace FilterTree.Json

variable {β : Type}

abbrev Fields (β : Type) := List (String × Reader β)

def Fields.reader? (fields : Fields β) (name : String) : Option (Reader β) :=
  (fields.find? (·.1 == name)).map (·.2)

/-- The value of a member whose key has been read, behind its colon: a field's value, or one that is dropped. -/
def memberValue (field : Option (Reader β)) (cs : List Char) : Result (Option β) :=
  match colon cs with
  | .error fault => .error fault
  | .ok cs => match field with
    | some r => match r.run cs with
      | .error fault => .error fault
      | .ok (v, rest) => .ok (some v, rest)
    | none => match pass [] .value cs with
      | .error fault => .error fault
      | .ok rest => .ok (none, rest)

theorem length_memberValue_lt {field : Option (Reader β)} {cs rest : List Char} {v : Option β}
    (h : memberValue field cs = .ok (v, rest)) : rest.length < cs.length := by
  unfold memberValue at h
  split at h
  · cases h
  · rename_i c
    have := length_colon_lt c
    split at h
    · rename_i r
      split at h
      · cases h
      · rename_i run
        cases h
        exact Nat.lt_trans (r.shortens run) this
    · split at h
      · cases h
      · rename_i run
        cases h
        exact Nat.lt_of_le_of_lt (length_pass_le run) this

/-- The fields of an object up to the closing bracket, which is left in place. A field that was `seen` before is
refused at its key. -/
def named (fields : Fields β) (seen : List String) (first : Bool) (cs : List Char) : Result (List β) :=
  match _start : Enclosure.object.next first cs with
  | .error fault => .error fault
  | .ok none => .ok ([], cs)
  | .ok (some inner) => match _key : Reader.key.run inner with
    | .error fault => .error fault
    | .ok (key, rest) =>
      if key ∈ seen then .error (.loose (.duplicateKey key) rest)
      else match _run : memberValue (fields.reader? key) rest with
        | .error fault => .error fault
        | .ok (none, rest) => named fields seen false rest
        | .ok (some v, rest) => match named fields (key :: seen) false rest with
          | .error fault => .error fault
          | .ok (vs, rest) => .ok (v :: vs, rest)
termination_by cs.length
decreasing_by
  all_goals
    have := Enclosure.length_next_le _start
    have := Reader.key.shortens _key
    have := length_memberValue_lt _run
    omega

theorem length_named_le {fields : Fields β} {seen : List String} {first : Bool} {cs rest : List Char}
    {vs : List β} (h : named fields seen first cs = .ok (vs, rest)) : rest.length ≤ cs.length := by
  fun_induction named fields seen first cs generalizing vs rest with
  | case2 => cases h; exact Nat.le_refl _
  | case6 _ _ _ _ start _ _ key _ _ run ih =>
    have := ih h
    have := Enclosure.length_next_le start
    have := Reader.key.shortens key
    have := length_memberValue_lt run
    omega
  | case8 _ _ _ _ start _ _ key _ _ _ run _ _ eq ih =>
    cases h
    have := ih eq
    have := Enclosure.length_next_le start
    have := Reader.key.shortens key
    have := length_memberValue_lt run
    omega
  | _ => cases h

/-- The fields of a list up to the closing bracket, or up to the text behind the last of them. -/
def positional (first : Bool) : Fields β → List Char → Result (List β)
  | [], cs => .ok ([], cs)
  | (_, r) :: fields, cs => match Enclosure.list.next first cs with
    | .error fault => .error fault
    | .ok none => .ok ([], cs)
    | .ok (some inner) => match r.run inner with
      | .error fault => .error fault
      | .ok (v, rest) => match positional false fields rest with
        | .error fault => .error fault
        | .ok (vs, rest) => .ok (v :: vs, rest)

theorem length_positional_le {fields : Fields β} {first : Bool} {cs rest : List Char} {vs : List β}
    (h : positional first fields cs = .ok (vs, rest)) : rest.length ≤ cs.length := by
  induction fields generalizing first cs vs rest with
  | nil => cases h; exact Nat.le_refl _
  | cons field fields ih =>
    simp only [positional] at h
    split at h
    · cases h
    · cases h
      exact Nat.le_refl _
    · rename_i start
      split at h
      · cases h
      · rename_i run
        split at h
        · cases h
        · rename_i eq
          cases h
          have := ih eq
          have := Enclosure.length_next_le start
          have := field.2.shortens run
          omega

def Reader.record (expected : Expected) (fields : Option (Fields β)) : Reader (List β) where
  run cs := match skipBlanks cs with
    | [] => .error (.here .endInValue [])
    | c :: rest =>
      if c = '[' then bracketed .list (fields.map (positional true)) (c :: rest)
      else if c = '\x7b' then bracketed .object (fields.map (named · [] true)) (c :: rest)
      else .error (mismatch expected (c :: rest))
  shortens {cs a rest} h := by
    split at h
    · cases h
    · rename_i start
      have := length_lt_of_skipBlanks start
      split at h
      · have := length_bracketed_lt (fun body eq cs b inner run => by
          obtain ⟨fs, _, rfl⟩ := Option.map_eq_some_iff.1 eq
          exact length_positional_le run) h
        simp only [List.length_cons] at this
        omega
      · split at h
        · have := length_bracketed_lt (fun body eq cs b inner run => by
            obtain ⟨fs, _, rfl⟩ := Option.map_eq_some_iff.1 eq
            exact length_named_le run) h
          simp only [List.length_cons] at this
          omega
        · cases h

end FilterTree.Json

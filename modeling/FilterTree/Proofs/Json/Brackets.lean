import FilterTree.Proofs.Json.Decodes

/-!
# What readers make of lists and objects

* `Enclosure.next_lead`, `Enclosure.next_closer`, `Enclosure.leave_closer` : the steps between brackets, and what a text is
  where they succeed.
* `Reader.Decodes.list` : a list is read by reading its elements.
* `Script.value?`, `Reader.Decodes.value` : any value, given what is made of the values inside brackets.
* `Script.json?`, `decodes_reader` : any value within a number of levels.
-/

namespace FilterTree.Json

open Script

/-! ## Steps between brackets -/

namespace Enclosure

theorem next_lead (e : Enclosure) {first : Bool} {p : List Char} (lead : Lead first p) {c : Char} (start : ¬IsStop c)
    (rest : List Char) : e.next first (p ++ c :: rest) = .ok (some (c :: rest)) := by
  have closer : c ≠ e.closer := by
    rintro rfl
    cases e with
    | list => exact start (by decide)
    | object => exact start (by decide)
  cases lead with
  | first blank =>
    rw [next, skipBlanks_blank_append blank (not_isBlank_of_not_isStop start)]
    simp only [if_neg closer, if_pos]
  | @more a b before behind =>
    have comma : ',' ≠ e.closer := by cases e <;> decide
    rw [List.append_assoc, List.cons_append, next, skipBlanks_blank_append before (by decide)]
    simp only [if_neg comma, Bool.false_eq_true, if_false, if_pos,
      skipBlanks_blank_append behind (not_isBlank_of_not_isStop start), if_neg closer]

theorem next_closer (e : Enclosure) (first : Bool) {b : List Char} (blank : Blank b) (rest : List Char) :
    e.next first (b ++ e.closer :: rest) = .ok none := by
  rw [next, skipBlanks_blank_append blank e.isBlank_closer]
  simp only [if_pos]

theorem lead_of_next {e : Enclosure} {first : Bool} {cs inner : List Char} (h : e.next first cs = .ok (some inner)) :
    ∃ p, Lead first p ∧ cs = p ++ inner := by
  obtain ⟨b, blank, split⟩ := blank_skipBlanks cs
  unfold next at h
  cases start : skipBlanks cs with
  | nil =>
    rw [start] at h
    cases h
  | cons c left =>
    simp only [start] at h
    rw [start] at split
    by_cases closer : c = e.closer
    · rw [if_pos closer] at h
      cases h
    · rw [if_neg closer] at h
      cases first with
      | true =>
        cases h
        exact ⟨b, .first blank, split⟩
      | false =>
        by_cases comma : c = ','
        · obtain ⟨b', blank', split'⟩ := blank_skipBlanks left
          rw [if_neg Bool.false_ne_true, if_pos comma] at h
          cases next : skipBlanks left with
          | nil =>
            rw [next] at h
            cases h
          | cons d more =>
            simp only [next] at h
            by_cases closed : d = e.closer
            · rw [if_pos closed] at h
              cases h
            · rw [if_neg closed] at h
              cases h
              refine ⟨b ++ ',' :: b', .more blank blank', ?_⟩
              rw [split, split', next, comma]
              simp
        · rw [if_neg Bool.false_ne_true, if_neg comma] at h
          cases h

theorem leave_closer (e : Enclosure) {b : List Char} (blank : Blank b) (rest : List Char) :
    e.leave (b ++ e.closer :: rest) = .ok rest := by
  rw [leave, skipBlanks_blank_append blank e.isBlank_closer]
  simp only [if_pos]

theorem closer_of_leave {e : Enclosure} {cs rest : List Char} (h : e.leave cs = .ok rest) :
    ∃ b, Blank b ∧ cs = b ++ e.closer :: rest := by
  obtain ⟨b, blank, split⟩ := blank_skipBlanks cs
  unfold leave at h
  cases start : skipBlanks cs with
  | nil =>
    rw [start] at h
    cases h
  | cons c left =>
    simp only [start] at h
    rw [start] at split
    by_cases closer : c = e.closer
    · rw [if_pos closer] at h
      cases h
      exact ⟨b, blank, by rw [split, closer]⟩
    · rw [if_neg closer] at h
      by_cases comma : c = ','
      · rw [if_pos comma] at h
        split at h
        · cases h
        · split at h
          · cases h
          · cases h
      · rw [if_neg comma] at h
        cases h

variable {α β : Type}

theorem settle_ok (e : Enclosure) {a : α} {b : List Char} (blank : Blank b) (rest : List Char) :
    e.settle (.ok (a, b ++ e.closer :: rest)) = .ok (a, rest) := by
  rw [settle, e.leave_closer blank]

theorem settle_error (e : Enclosure) (fault : Fault) : (e.settle (.error fault : Result α)).toOption = none := by
  cases fault <;> rfl

/-- To close the brackets does not look at what has been read between them. -/
theorem settle_map (e : Enclosure) (f : α → β) (r : Result α) :
    (e.settle (r.map fun p => (f p.1, p.2))).toOption = (e.settle r).toOption.map fun p => (f p.1, p.2) := by
  match r with
  | .error fault => rw [settle_error, Except.map, settle_error, Option.map_none]
  | .ok (a, cs) =>
    rw [Except.map, settle, settle]
    cases e.leave cs <;> rfl

theorem leave_of_settle {e : Enclosure} {r : Result α} {a : α} {rest : List Char} (h : e.settle r = .ok (a, rest)) :
    ∃ left, r = .ok (a, left) ∧ e.leave left = .ok rest := by
  match r with
  | .error (.loose cause cs) => cases h
  | .error (.placed cause left) => cases h
  | .ok (b, cs) =>
    rw [settle] at h
    cases left : e.leave cs with
    | error p =>
      rw [left] at h
      cases h
    | ok rest' =>
      rw [left] at h
      cases h
      exact ⟨cs, rfl, left⟩

end Enclosure

theorem items_of_leave {cs rest : List Char} (first : Bool) (h : Enclosure.list.leave cs = .ok rest) :
    ∃ ds w, ItemsWritten first ds w ∧ cs = w ++ ']' :: rest := by
  obtain ⟨b, blank, split⟩ := Enclosure.closer_of_leave h
  exact ⟨[], b, .nil blank, split⟩

theorem members_of_leave {cs rest : List Char} (first : Bool) (h : Enclosure.object.leave cs = .ok rest) :
    ∃ ms w, MembersWritten first ms w ∧ cs = w ++ '\x7d' :: rest := by
  obtain ⟨b, blank, split⟩ := Enclosure.closer_of_leave h
  exact ⟨[], b, .nil blank, split⟩

/-! ## Elements -/

section

variable {α : Type} {item : Reader α}

theorem elements_of_none {first : Bool} {cs : List Char} (h : Enclosure.list.next first cs = .ok none) :
    elements item first cs = .ok ([], cs) := by
  rw [elements]
  split
  · rename_i eq
    rw [h] at eq
    cases eq
  · rfl
  · rename_i eq
    rw [h] at eq
    cases eq

theorem elements_of_some {first : Bool} {cs inner : List Char} (h : Enclosure.list.next first cs = .ok (some inner)) :
    elements item first cs = match item.run inner with
      | .error fault => .error fault
      | .ok (a, rest) => (elements item false rest).map fun p => (a :: p.1, p.2) := by
  rw [elements]
  split
  · rename_i eq
    rw [h] at eq
    cases eq
  · rename_i eq
    rw [h] at eq
    cases eq
  · rename_i eq
    rw [h] at eq
    cases eq
    cases item.run inner with
    | error fault => rfl
    | ok p =>
      obtain ⟨a, rest⟩ := p
      dsimp only
      cases elements item false rest <;> rfl

theorem elements_written {first : Bool} {p : List Char} (lead : Lead first p) {d : Script} {w : List Char} (hd : d.Written w)
    (rest : List Char) :
    elements item first (p ++ (w ++ rest)) = match item.run (w ++ rest) with
      | .error fault => .error fault
      | .ok (a, rest) => (elements item false rest).map fun p => (a :: p.1, p.2) := by
  obtain ⟨c, cs, rfl, start⟩ := hd.head
  exact elements_of_some (Enclosure.list.next_lead lead start (cs ++ rest))

theorem toOption_elements {δ : Script → Option α} (h : item.Decodes δ) {first : Bool} {ds : List Script} {w : List Char}
    (written : ItemsWritten first ds w) (rest : List Char) :
    (Enclosure.list.settle (elements item first (w ++ ']' :: rest))).toOption = (ds.mapM δ).map (·, rest) := by
  induction ds generalizing first w with
  | nil =>
    cases written with
    | nil blank =>
      have next : Enclosure.list.next first (w ++ ']' :: rest) = .ok none := Enclosure.list.next_closer first blank rest
      rw [elements_of_none next]
      exact congrArg Except.toOption (Enclosure.list.settle_ok blank rest)
  | cons d ds ih =>
    cases written with
    | @cons _ _ _ p w ws lead hd more =>
      have stop := more.stops rest
      rw [List.append_assoc, List.append_assoc, elements_written lead hd, List.mapM_cons]
      cases value : δ d with
      | none =>
        obtain ⟨fault, run⟩ := h.run_of_none hd blank_nil stop value
        rw [List.nil_append] at run
        rw [run]
        exact Enclosure.settle_error _ fault
      | some a =>
        have run := h.run_of_some hd blank_nil stop value
        rw [List.nil_append] at run
        rw [run]
        dsimp only
        rw [Enclosure.settle_map, ih more]
        cases ds.mapM δ <;> rfl

theorem written_of_elements {δ : Script → Option α} (h : item.Decodes δ) {first : Bool} {cs left rest : List Char}
    {as : List α} (run : elements item first cs = .ok (as, left)) (closed : Enclosure.list.leave left = .ok rest) :
    ∃ ds w, ItemsWritten first ds w ∧ cs = w ++ ']' :: rest := by
  fun_induction elements item first cs generalizing as left with
  | case1 | case3 | case4 => cases run
  | case2 =>
    cases run
    exact items_of_leave _ closed
  | case5 first cs inner start a behind found as' left' eq ih =>
    cases run
    obtain ⟨ds, ws, more, rfl⟩ := ih eq closed
    obtain ⟨p, lead, rfl⟩ := Enclosure.lead_of_next start
    obtain ⟨b, d, w, blank, written, rfl⟩ := h.written found
    exact ⟨d :: ds, _, .cons (lead_append lead blank) written more, by simp⟩

end

/-! ## Levels of nesting -/

/-- A reader and a function of what stands inside brackets, or neither where no level of nesting is left. -/
inductive MayDecode {α : Type} : Option (Reader α) → Option (Script → Option α) → Prop where
  | none : MayDecode none none
  | some {r : Reader α} {δ : Script → Option α} (h : r.Decodes δ) : MayDecode (some r) (some δ)

def Script.items? {α : Type} (δ : Option (Script → Option α)) (ds : List Script) : Option (List α) := δ.bind (ds.mapM ·)

/-- The values of the elements of a list, where a level of nesting is left for them. -/
def Script.list? {α : Type} (δ : Option (Script → Option α)) : Script → Option (List α)
  | .list ds => items? δ ds
  | _ => none

section

variable {α : Type} {item : Option (Reader α)} {δ : Option (Script → Option α)}

theorem MayDecode.toOption_list (h : MayDecode item δ) {ds : List Script} {w : List Char}
    (written : ItemsWritten true ds w) (rest : List Char) :
    (bracketed .list (listBody item) ('[' :: (w ++ ']' :: rest))).toOption = (items? δ ds).map (·, rest) := by
  cases h with
  | none => rfl
  | some h => exact toOption_elements h written rest

theorem MayDecode.written_of_list (h : MayDecode item δ) {c : Char} {cs rest : List Char} {as : List α}
    (run : bracketed .list (listBody item) (c :: cs) = .ok (as, rest)) :
    ∃ ds w, ItemsWritten true ds w ∧ cs = w ++ ']' :: rest := by
  cases h with
  | none => cases run
  | some h =>
    obtain ⟨left, read, closed⟩ := Enclosure.leave_of_settle run
    exact written_of_elements h read closed

theorem MayDecode.list (h : MayDecode item δ) : (Reader.list item).Decodes (Script.list? δ) where
  reads {d w b rest} written blank stop := by
    obtain ⟨c, cs, rfl, found⟩ := written.reached blank rest
    simp only [Reader.list, found]
    by_cases isList : ∃ ds, d = .list ds
    · obtain ⟨ds, rfl⟩ := isList
      cases written with
      | @list _ w items =>
        rw [if_pos rfl, List.append_assoc]
        exact h.toOption_list items rest
    · have other : c ≠ '[' := by
        rintro rfl
        exact isList written.begins.list
      rw [if_neg other, toOption_error]
      unfold Script.list?
      split
      · exact absurd ⟨_, rfl⟩ isList
      · rfl
  written {cs rest a} run := by
    obtain ⟨b, blank, split⟩ := blank_skipBlanks cs
    unfold Reader.list at run
    dsimp only at run
    split at run
    · cases run
    · rename_i c inner start
      by_cases opening : c = '['
      · rw [if_pos opening] at run
        obtain ⟨ds, w, items, eq⟩ := h.written_of_list run
        refine ⟨b, .list ds, _, blank, .list items, ?_⟩
        rw [split, start, opening, eq]
        simp
      · rw [if_neg opening] at run
        cases run

end

/-! ## Members -/

/-- A member with more of them, the closing brace and what stands behind the object. -/
theorem member_append (p key a b w ws rest : List Char) :
    p ++ '"' :: (key ++ '"' :: (a ++ ':' :: (b ++ (w ++ ws)))) ++ '\x7d' :: rest =
      p ++ '"' :: (key ++ '"' :: (a ++ ':' :: (b ++ (w ++ (ws ++ '\x7d' :: rest))))) := by simp

def Script.members? {α : Type} (δ : Script → Option α) (ms : List (List Char × Script)) : Option (List (String × α)) :=
  ms.mapM fun m => (textOf? m.1).bind fun key => (δ m.2).map (key, ·)

theorem toOption_key {key : List Char} (closed : WellQuoted key) (rest : List Char) :
    (Reader.key.run ('"' :: (key ++ '"' :: rest))).toOption = (textOf? key).map (·, rest) := by
  have read := toOption_quoted closed rest
  simp only [Reader.key, if_pos]
  cases run : quoted (key ++ '"' :: rest) with
  | error fault =>
    rw [run] at read
    cases text : textOf? key with
    | none => rfl
    | some s =>
      rw [text] at read
      cases read
  | ok p =>
    rw [run] at read
    cases text : textOf? key with
    | none =>
      rw [text] at read
      cases read
    | some s =>
      rw [text] at read
      cases read
      simp [toOption_ok]

theorem written_of_key {cs rest : List Char} {k : String} (run : Reader.key.run cs = .ok (k, rest)) :
    ∃ key, WellQuoted key ∧ cs = '"' :: (key ++ '"' :: rest) := by
  match cs with
  | [] => cases run
  | c :: cs =>
    simp only [Reader.key] at run
    by_cases quote : c = '"'
    · rw [if_pos quote] at run
      cases found : quoted cs with
      | error fault =>
        rw [found] at run
        cases run
      | ok p =>
        obtain ⟨inner, left⟩ := p
        rw [found] at run
        cases run
        obtain ⟨raw, written, rfl⟩ := quoted_eq_ok_iff.1 found
        exact ⟨raw, written.wellQuoted, by rw [quote]⟩
    · rw [if_neg quote] at run
      cases run

section

variable {item : Reader Json}

theorem entries_of_none {first : Bool} {cs : List Char} (h : Enclosure.object.next first cs = .ok none) :
    entries item first cs = .ok ([], cs) := by
  rw [entries]
  split
  · rename_i eq
    rw [h] at eq
    cases eq
  · rfl
  · rename_i eq
    rw [h] at eq
    cases eq

theorem entries_of_some {first : Bool} {cs inner : List Char} (h : Enclosure.object.next first cs = .ok (some inner)) :
    entries item first cs = match Reader.key.run inner with
      | .error fault => .error fault
      | .ok (key, rest) => match colon rest with
        | .error fault => .error fault
        | .ok rest => match item.run rest with
          | .error fault => .error fault
          | .ok (v, rest) => (entries item false rest).map fun p => ((key, v) :: p.1, p.2) := by
  rw [entries]
  split
  · rename_i eq
    rw [h] at eq
    cases eq
  · rename_i eq
    rw [h] at eq
    cases eq
  · rename_i eq
    rw [h] at eq
    cases eq
    split
    · rename_i run
      rw [run]
    · rename_i run
      simp only [run]
      split
      · rename_i run
        rw [run]
      · rename_i run
        simp only [run]
        split
        · rename_i run
          rw [run]
        · rename_i rest run
          simp only [run]
          cases entries item false rest <;> rfl

theorem toOption_entries {δ : Script → Option Json} (h : item.Decodes δ) {first : Bool} {ms : List (List Char × Script)}
    {w : List Char} (written : MembersWritten first ms w) (rest : List Char) :
    (Enclosure.object.settle (entries item first (w ++ '\x7d' :: rest))).toOption = (members? δ ms).map (·, rest) := by
  induction ms generalizing first w with
  | nil =>
    cases written with
    | nil blank =>
      have next : Enclosure.object.next first (w ++ '\x7d' :: rest) = .ok none :=
        Enclosure.object.next_closer first blank rest
      rw [entries_of_none next]
      exact congrArg Except.toOption (Enclosure.object.settle_ok blank rest)
  | cons m ms ih =>
    cases written with
    | @cons _ key d _ p a b w ws lead closed before behind hd more =>
      have next := Enclosure.object.next_lead lead (c := '"') (by decide)
        (key ++ '"' :: (a ++ ':' :: (b ++ (w ++ (ws ++ '\x7d' :: rest)))))
      have stop := more.stops rest
      have quoted := toOption_key closed (a ++ ':' :: (b ++ (w ++ (ws ++ '\x7d' :: rest))))
      rw [member_append, entries_of_some next, members?, List.mapM_cons, ← members?]
      cases text : textOf? key with
      | none =>
        rw [text] at quoted
        obtain ⟨fault, run⟩ := eq_error_of_toOption quoted
        rw [run]
        exact Enclosure.settle_error _ fault
      | some k =>
        rw [text] at quoted
        rw [eq_ok_of_toOption quoted]
        simp only [colon_append before]
        cases value : δ d with
        | none =>
          obtain ⟨fault, run⟩ := h.run_of_none hd behind stop value
          rw [run]
          exact Enclosure.settle_error _ fault
        | some v =>
          rw [h.run_of_some hd behind stop value]
          dsimp only
          rw [Enclosure.settle_map, ih more]
          cases members? δ ms <;> rfl

theorem written_of_entries {δ : Script → Option Json} (h : item.Decodes δ) {first : Bool} {cs left rest : List Char}
    {vs : List (String × Json)} (run : entries item first cs = .ok (vs, left))
    (closed : Enclosure.object.leave left = .ok rest) :
    ∃ ms w, MembersWritten first ms w ∧ cs = w ++ '\x7d' :: rest := by
  fun_induction entries item first cs generalizing vs left with
  | case2 =>
    cases run
    exact members_of_leave _ closed
  | case7 first cs inner start k behind read behind' c v left' found vs' left'' eq ih =>
    cases run
    obtain ⟨ms, ws, more, rfl⟩ := ih eq closed
    obtain ⟨p, lead, rfl⟩ := Enclosure.lead_of_next start
    obtain ⟨key, quoted, rfl⟩ := written_of_key read
    obtain ⟨a, before, rfl⟩ := eq_of_colon c
    obtain ⟨b, d, w, blank, written, rfl⟩ := h.written found
    exact ⟨(key, d) :: ms, _, .cons lead quoted before blank written more, by simp⟩
  | _ => cases run

end

/-! ## Any value -/

/-- The value that a script stands for, where a function says what the values inside brackets stand for. -/
def Script.value? (δ : Option (Script → Option Json)) : Script → Option Json
  | .list ds => (items? δ ds).map .list
  | .object ms => (δ.bind (members? · ms)).map .object
  | d => d.scalar?

theorem Script.value?_of_isScalar (δ : Option (Script → Option Json)) {d : Script} (h : d.IsScalar) :
    d.value? δ = d.scalar? := by
  cases d with
  | list => cases h
  | object => cases h
  | _ => rfl

section

variable {item : Option (Reader Json)} {δ : Option (Script → Option Json)}

theorem MayDecode.toOption_object (h : MayDecode item δ) {ms : List (List Char × Script)} {w : List Char}
    (written : MembersWritten true ms w) (rest : List Char) :
    (bracketed .object (objectBody item) ('\x7b' :: (w ++ '\x7d' :: rest))).toOption =
      (δ.bind (members? · ms)).map (·, rest) := by
  cases h with
  | none => rfl
  | some h => exact toOption_entries h written rest

theorem MayDecode.written_of_object (h : MayDecode item δ) {c : Char} {cs rest : List Char} {vs : List (String × Json)}
    (run : bracketed .object (objectBody item) (c :: cs) = .ok (vs, rest)) :
    ∃ ms w, MembersWritten true ms w ∧ cs = w ++ '\x7d' :: rest := by
  cases h with
  | none => cases run
  | some h =>
    obtain ⟨left, read, closed⟩ := Enclosure.leave_of_settle run
    exact written_of_entries h read closed

theorem Reader.value_list {cs rest : List Char} (start : skipBlanks cs = '[' :: rest) : (Reader.value item).run cs =
    (bracketed .list (listBody item) ('[' :: rest)).map fun p => (Json.list p.1, p.2) := by
  simp only [Reader.value, start]
  rw [if_pos trivial]
  cases bracketed .list (listBody item) ('[' :: rest) <;> rfl

theorem Reader.value_object {cs rest : List Char} (start : skipBlanks cs = '\x7b' :: rest) : (Reader.value item).run cs =
    (bracketed .object (objectBody item) ('\x7b' :: rest)).map fun p => (Json.object p.1, p.2) := by
  simp only [Reader.value, start]
  rw [if_neg (by decide), if_pos trivial]
  cases bracketed .object (objectBody item) ('\x7b' :: rest) <;> rfl

theorem Reader.value_scalar {c : Char} {cs rest : List Char} (start : skipBlanks cs = c :: rest) (square : c ≠ '[')
    (curly : c ≠ '\x7b') : (Reader.value item).run cs = scalar (c :: rest) := by
  simp only [Reader.value, start]
  rw [if_neg square, if_neg curly]

theorem MayDecode.value (h : MayDecode item δ) : (Reader.value item).Decodes (Script.value? δ) where
  reads {d w b rest} written blank stop := by
    obtain ⟨c, cs, rfl, found⟩ := written.reached blank rest
    by_cases scalar : d.IsScalar
    · obtain ⟨square, curly⟩ := written.ne_bracket scalar
      rw [Reader.value_scalar found square curly, Script.value?_of_isScalar δ scalar]
      exact toOption_scalar written scalar stop
    · cases written with
      | @list ds w items =>
        rw [Reader.value_list found, toOption_map, List.append_assoc, List.singleton_append, h.toOption_list items rest,
          Script.value?, Option.map_map, Option.map_map]
        rfl
      | @object ms w members =>
        rw [Reader.value_object found, toOption_map, List.append_assoc, List.singleton_append,
          h.toOption_object members rest, Script.value?, Option.map_map, Option.map_map]
        rfl
      | _ => exact absurd trivial scalar
  written {cs rest a} run := by
    obtain ⟨b, blank, split⟩ := blank_skipBlanks cs
    cases start : skipBlanks cs with
    | nil =>
      simp only [Reader.value, start] at run
      cases run
    | cons c inner =>
      rw [start] at split
      by_cases square : c = '['
      · subst square
        rw [Reader.value_list start] at run
        obtain ⟨⟨vs, left⟩, read, eq⟩ := eq_ok_of_map run
        cases eq
        obtain ⟨ds, w, items, rfl⟩ := h.written_of_list read
        exact ⟨b, .list ds, _, blank, .list items, by simp [split]⟩
      by_cases curly : c = '\x7b'
      · subst curly
        rw [Reader.value_object start] at run
        obtain ⟨⟨ms, left⟩, read, eq⟩ := eq_ok_of_map run
        cases eq
        obtain ⟨ds, w, members, rfl⟩ := h.written_of_object read
        exact ⟨b, .object ds, _, blank, .object members, by simp [split]⟩
      rw [Reader.value_scalar start square curly] at run
      obtain ⟨d, w, written, eq⟩ := written_of_scalar run
      exact ⟨b, d, w, blank, written, by rw [split, eq]⟩

end

/-- The value that a script stands for, if it has a meaning and at most so many levels of brackets. -/
def Script.json? : Nat → Script → Option Json
  | 0 => value? none
  | levels + 1 => value? (some (json? levels))

theorem decodes_reader (levels : Nat) : (reader levels).Decodes (Script.json? levels) := by
  induction levels with
  | zero => exact MayDecode.none.value
  | succ levels ih => exact (MayDecode.some ih).value

theorem Script.number_of_value? {δ : Option (Script → Option Json)} {d : Script} {n : Number}
    (h : d.value? δ = some (.number n)) : ∃ m : Numeral, d = .number m ∧ m.number = .ok n := by
  cases d with
  | null => cases h
  | bool b => cases h
  | number m =>
    obtain ⟨k, value, eq⟩ := Option.map_eq_some_iff.1 h
    cases eq
    exact ⟨m, rfl, eq_ok_of_toOption value⟩
  | text raw =>
    obtain ⟨s, -, eq⟩ := Option.map_eq_some_iff.1 h
    cases eq
  | list ds =>
    obtain ⟨js, -, eq⟩ := Option.map_eq_some_iff.1 h
    cases eq
  | object ms =>
    obtain ⟨js, -, eq⟩ := Option.map_eq_some_iff.1 h
    cases eq

theorem Script.number_of_json? {levels : Nat} {d : Script} {n : Number} (h : d.json? levels = some (.number n)) :
    ∃ m : Numeral, d = .number m ∧ m.number = .ok n := by
  cases levels <;> exact number_of_value? h

theorem Script.list_of_json? {levels : Nat} {d : Script} {js : List Json} (h : d.json? levels = some (.list js)) :
    ∃ inner ds, d = .list ds ∧ ds.mapM (json? inner) = some js := by
  have values : ∀ {δ}, d.value? δ = some (.list js) → ∃ ds, d = .list ds ∧ items? δ ds = some js := by
    intro δ h
    cases d with
    | null => cases h
    | bool b => cases h
    | list ds =>
      obtain ⟨ks, value, eq⟩ := Option.map_eq_some_iff.1 h
      cases eq
      exact ⟨ds, rfl, value⟩
    | _ =>
      obtain ⟨_, -, eq⟩ := Option.map_eq_some_iff.1 h
      cases eq
  cases levels with
  | zero =>
    obtain ⟨ds, -, none⟩ := values h
    cases none
  | succ inner =>
    obtain ⟨ds, rfl, some⟩ := values h
    exact ⟨inner, ds, rfl, some⟩

end FilterTree.Json

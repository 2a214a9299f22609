import FilterTree.Proofs.Json.Brackets

/-!
# What readers make of records

* `Decoders` : the names of the fields of a record in order, each with what is made of the script of its value.
* `Script.positional?`, `Script.named?` : the values of the fields in a list, and in an object, in the order of the text.
* `Script.record?` : those of a record in either form.
* `FieldsDecode.record` : the reader of a record makes just that of it.
-/

namespace FilterTree.Json

open Script

variable {β : Type}

/-- The names of the fields of a record, each with what is made of the script of its value. -/
abbrev Decoders (β : Type) := List (String × (Script → Option β))

def Decoders.decoder? (δs : Decoders β) (name : String) : Option (Script → Option β) :=
  (δs.find? (·.1 == name)).map (·.2)

/-- The readers of the fields of a record make of the scripts what the functions make of them. -/
def FieldsDecode (fields : Fields β) (δs : Decoders β) : Prop :=
  List.Forall₂ (fun f g => f.1 = g.1 ∧ f.2.Decodes g.2) fields δs

namespace Script

/-- The values of the fields in a list. There may be fewer elements than fields, but not more. -/
def positional? : Decoders β → List Script → Option (List β)
  | _, [] => some []
  | [], _ :: _ => none
  | (_, δ) :: δs, d :: ds => (δ d).bind fun v => (positional? δs ds).map (v :: ·)

def member? (δ : Option (Script → Option β)) (d : Script) : Option (Option β) :=
  match δ with
  | some δ => (δ d).map some
  | none => some none

/-- The values of the fields in an object. Every key must have a meaning. No field may be given twice, and what is no
field does not count. -/
def named? (δs : Decoders β) (seen : List String) : List (List Char × Script) → Option (List β)
  | [] => some []
  | (key, d) :: ms => (textOf? key).bind fun name =>
    if name ∈ seen then none
    else match δs.decoder? name with
      | some δ => (δ d).bind fun v => (named? δs (name :: seen) ms).map (v :: ·)
      | none => named? δs seen ms

/-- The values of the fields of a record in either form, where a level of nesting is left for them. -/
def record? (δs : Option (Decoders β)) : Script → Option (List β)
  | .list ds => δs.bind (positional? · ds)
  | .object ms => δs.bind (named? · [] ms)
  | _ => none

end Script

theorem Script.record?_none (d : Script) : d.record? (none : Option (Decoders β)) = none := by
  cases d <;> rfl

/-! ## Lists of fields -/

theorem Enclosure.leave_lead {first : Bool} {p : List Char} (lead : Lead first p) {c : Char} (start : ¬IsStop c)
    (rest : List Char) : ∃ fault, Enclosure.list.leave (p ++ c :: rest) = .error fault := by
  have closer : c ≠ ']' := by
    rintro rfl
    exact start (by decide)
  cases lead with
  | first blank =>
    have comma : c ≠ ',' := by
      rintro rfl
      exact start (by decide)
    rw [leave, skipBlanks_blank_append blank (not_isBlank_of_not_isStop start)]
    simp only [Enclosure.closer, if_neg closer, if_neg comma]
    exact ⟨_, rfl⟩
  | @more a b before behind =>
    have comma : ',' ≠ ']' := by decide
    rw [List.append_assoc, List.cons_append, leave, skipBlanks_blank_append before (by decide)]
    simp only [Enclosure.closer, if_neg comma, if_pos,
      skipBlanks_blank_append behind (not_isBlank_of_not_isStop start)]
    split
    · rename_i eq
      exact absurd (List.cons.inj eq).1 closer
    · exact ⟨_, rfl⟩

theorem positional_cons (name : String) (r : Reader β) (fields : Fields β) {first : Bool} {cs inner : List Char}
    (next : Enclosure.list.next first cs = .ok (some inner)) :
    positional first ((name, r) :: fields) cs = match r.run inner with
      | .error fault => .error fault
      | .ok (v, rest) => (positional false fields rest).map fun p => (v :: p.1, p.2) := by
  simp only [positional, next]
  cases r.run inner with
  | error fault => rfl
  | ok p =>
    obtain ⟨v, rest⟩ := p
    dsimp only
    cases positional false fields rest <;> rfl

theorem positional_written (name : String) (r : Reader β) (fields : Fields β) {first : Bool} {p : List Char}
    (lead : Lead first p) {d : Script} {w : List Char} (hd : d.Written w) (rest : List Char) :
    positional first ((name, r) :: fields) (p ++ (w ++ rest)) = match r.run (w ++ rest) with
      | .error fault => .error fault
      | .ok (v, rest) => (positional false fields rest).map fun p => (v :: p.1, p.2) := by
  obtain ⟨c, cs, rfl, start⟩ := hd.head
  exact positional_cons name r fields (Enclosure.list.next_lead lead start (cs ++ rest))

theorem FieldsDecode.toOption_positional {fields : Fields β} {δs : Decoders β} (h : FieldsDecode fields δs) {first : Bool}
    {ds : List Script} {w : List Char} (written : ItemsWritten first ds w) (rest : List Char) :
    (Enclosure.list.settle (positional first fields (w ++ ']' :: rest))).toOption = (positional? δs ds).map (·, rest) := by
  induction h generalizing first ds w with
  | nil =>
    cases written with
    | nil blank => exact congrArg Except.toOption (Enclosure.list.settle_ok blank rest)
    | @cons _ d ds p w ws lead hd more =>
      obtain ⟨c, cs, rfl, start⟩ := hd.head
      obtain ⟨fault, left⟩ := Enclosure.leave_lead lead start (cs ++ (ws ++ ']' :: rest))
      rw [List.append_assoc, List.append_assoc, List.cons_append, positional, Enclosure.settle, left]
      rfl
  | @cons f g fields δs decodes _ ih =>
    obtain ⟨name, r⟩ := f
    obtain ⟨name', δ⟩ := g
    cases written with
    | nil blank =>
      have next : Enclosure.list.next first (w ++ ']' :: rest) = .ok none := Enclosure.list.next_closer first blank rest
      rw [positional, next]
      exact congrArg Except.toOption (Enclosure.list.settle_ok blank rest)
    | @cons _ d ds p w ws lead hd more =>
      have stop := more.stops rest
      rw [List.append_assoc, List.append_assoc, positional_written name r fields lead hd, positional?]
      cases value : δ d with
      | none =>
        obtain ⟨fault, run⟩ := decodes.2.run_of_none hd blank_nil stop value
        rw [List.nil_append] at run
        rw [run]
        exact Enclosure.settle_error _ fault
      | some v =>
        have run := decodes.2.run_of_some hd blank_nil stop value
        rw [List.nil_append] at run
        rw [run]
        dsimp only
        rw [Enclosure.settle_map, ih more]
        cases positional? δs ds <;> rfl

theorem FieldsDecode.written_of_positional {fields : Fields β} {δs : Decoders β} (h : FieldsDecode fields δs)
    {first : Bool} {cs left rest : List Char} {vs : List β} (run : positional first fields cs = .ok (vs, left))
    (closed : Enclosure.list.leave left = .ok rest) : ∃ ds w, ItemsWritten first ds w ∧ cs = w ++ ']' :: rest := by
  induction h generalizing first cs vs with
  | nil =>
    cases run
    exact items_of_leave first closed
  | @cons f g fields δs decodes _ ih =>
    obtain ⟨name, r⟩ := f
    cases next : Enclosure.list.next first cs with
    | error fault =>
      rw [positional, next] at run
      cases run
    | ok start =>
      cases start with
      | none =>
        rw [positional, next] at run
        cases run
        exact items_of_leave first closed
      | some inner =>
        rw [positional_cons name r fields next] at run
        cases found : r.run inner with
        | error fault =>
          rw [found] at run
          cases run
        | ok p =>
          obtain ⟨v, behind⟩ := p
          rw [found] at run
          obtain ⟨⟨vs', left'⟩, others, eq⟩ := eq_ok_of_map run
          cases eq
          obtain ⟨ds, ws, more, rfl⟩ := ih others
          obtain ⟨p, lead, rfl⟩ := Enclosure.lead_of_next next
          obtain ⟨b, d, w, blank, written, rfl⟩ := decodes.2.written found
          exact ⟨d :: ds, _, .cons (lead_append lead blank) written more, by simp⟩

/-! ## Objects with fields -/

theorem FieldsDecode.decoder? {fields : Fields β} {δs : Decoders β} (h : FieldsDecode fields δs) (name : String) :
    MayDecode (fields.reader? name) (δs.decoder? name) := by
  induction h with
  | nil => exact .none
  | @cons f g fields δs head _ ih =>
    unfold Fields.reader? Decoders.decoder?
    by_cases eq : f.1 = name
    · have eq' : g.1 = name := head.1 ▸ eq
      rw [List.find?_cons_of_pos (by simpa using eq), List.find?_cons_of_pos (by simpa using eq')]
      exact .some head.2
    · have ne : g.1 ≠ name := head.1 ▸ eq
      rw [List.find?_cons_of_neg (by simpa using eq), List.find?_cons_of_neg (by simpa using ne)]
      exact ih

/-- The value of a member is read if it is that of a field, and dropped if not. -/
theorem MayDecode.toOption_memberValue {field : Option (Reader β)} {δ : Option (Script → Option β)} (h : MayDecode field δ)
    {d : Script} {a b w rest : List Char} (before : Blank a) (behind : Blank b) (written : d.Written w) (stop : Stops rest) :
    (memberValue field (a ++ ':' :: (b ++ (w ++ rest)))).toOption = (member? δ d).map (·, rest) := by
  rw [memberValue, colon_append before]
  cases h with
  | none =>
    simp only [pass_written written behind stop]
    rfl
  | @some r δ h =>
    dsimp only
    rw [member?]
    cases value : δ d with
    | none =>
      obtain ⟨fault, run⟩ := h.run_of_none written behind stop value
      rw [run]
      rfl
    | some v =>
      rw [h.run_of_some written behind stop value]
      rfl

theorem MayDecode.written_of_memberValue {field : Option (Reader β)} {δ : Option (Script → Option β)}
    (h : MayDecode field δ) {cs rest : List Char} {v : Option β} (run : memberValue field cs = .ok (v, rest)) :
    ∃ a b d w, Blank a ∧ Blank b ∧ Script.Written d w ∧ cs = a ++ ':' :: (b ++ (w ++ rest)) := by
  unfold memberValue at run
  cases found : colon cs with
  | error fault =>
    rw [found] at run
    cases run
  | ok behind =>
    simp only [found] at run
    obtain ⟨a, before, rfl⟩ := eq_of_colon found
    cases h with
    | none =>
      cases passed : pass [] .value behind with
      | error fault =>
        rw [passed] at run
        cases run
      | ok left =>
        rw [passed] at run
        cases run
        obtain ⟨b, d, w, blank, written, rfl⟩ := written_of_pass passed
        exact ⟨a, b, d, w, before, blank, written, rfl⟩
    | @some r δ h =>
      cases read : r.run behind with
      | error fault =>
        simp only [read] at run
        cases run
      | ok p =>
        obtain ⟨u, left⟩ := p
        simp only [read] at run
        cases run
        obtain ⟨b, d, w, blank, written, rfl⟩ := h.written read
        exact ⟨a, b, d, w, before, blank, written, rfl⟩

section

variable {fields : Fields β} {seen : List String} {first : Bool} {cs inner : List Char}

theorem named_of_none (h : Enclosure.object.next first cs = .ok none) : named fields seen first cs = .ok ([], cs) := by
  rw [named]
  split
  · rename_i eq
    rw [h] at eq
    cases eq
  · rfl
  · rename_i eq
    rw [h] at eq
    cases eq

theorem named_of_some (h : Enclosure.object.next first cs = .ok (some inner)) :
    named fields seen first cs = match Reader.key.run inner with
      | .error fault => .error fault
      | .ok (name, rest) =>
        if name ∈ seen then .error (.loose (.duplicateKey name) rest)
        else match memberValue (fields.reader? name) rest with
          | .error fault => .error fault
          | .ok (none, rest) => named fields seen false rest
          | .ok (some v, rest) => (named fields (name :: seen) false rest).map fun p => (v :: p.1, p.2) := by
  rw [named]
  split
  · rename_i eq
    rw [h] at eq
    cases eq
  · rename_i eq
    rw [h] at eq
    cases eq
  · rename_i eq
    rw [h] at eq
    cases eq
    split
    · rename_i run
      rw [run]
    · rename_i name rest run
      simp only [run]
      split
      · rfl
      · split
        · rename_i run
          rw [run]
        · rename_i run
          rw [run]
        · rename_i left run
          simp only [run]
          cases named fields (name :: seen) false left <;> rfl

end

theorem named_written {fields : Fields β} (seen : List String) {first : Bool} {p key : List Char} (lead : Lead first p)
    (closed : WellQuoted key) {name : String} (text : textOf? key = some name) (rest : List Char) :
    named fields seen first (p ++ '"' :: (key ++ '"' :: rest)) =
      if name ∈ seen then .error (.loose (.duplicateKey name) rest)
      else match memberValue (fields.reader? name) rest with
        | .error fault => .error fault
        | .ok (none, rest) => named fields seen false rest
        | .ok (some v, rest) => (named fields (name :: seen) false rest).map fun p => (v :: p.1, p.2) := by
  have next := Enclosure.object.next_lead lead (c := '"') (by decide) (key ++ '"' :: rest)
  have read := toOption_key closed rest
  rw [text] at read
  rw [named_of_some next, eq_ok_of_toOption read]

theorem FieldsDecode.toOption_named {fields : Fields β} {δs : Decoders β} (h : FieldsDecode fields δs)
    {seen : List String} {first : Bool} {ms : List (List Char × Script)} {w : List Char}
    (written : MembersWritten first ms w) (rest : List Char) :
    (Enclosure.object.settle (named fields seen first (w ++ '\x7d' :: rest))).toOption =
      (named? δs seen ms).map (·, rest) := by
  induction ms generalizing seen first w with
  | nil =>
    cases written with
    | nil blank =>
      have next : Enclosure.object.next first (w ++ '\x7d' :: rest) = .ok none :=
        Enclosure.object.next_closer first blank rest
      rw [named_of_none next]
      exact congrArg Except.toOption (Enclosure.object.settle_ok blank rest)
  | cons m ms ih =>
    cases written with
    | @cons _ key d _ p a b w ws lead closed before behind hd more =>
      have stop := more.stops rest
      rw [member_append, named?]
      cases text : textOf? key with
      | none =>
        have next := Enclosure.object.next_lead lead (c := '"') (by decide)
          (key ++ '"' :: (a ++ ':' :: (b ++ (w ++ (ws ++ '\x7d' :: rest)))))
        have quoted := toOption_key closed (a ++ ':' :: (b ++ (w ++ (ws ++ '\x7d' :: rest))))
        rw [text] at quoted
        obtain ⟨fault, run⟩ := eq_error_of_toOption quoted
        rw [named_of_some next, run]
        exact Enclosure.settle_error _ fault
      | some name =>
        rw [named_written seen lead closed text]
        simp only [Option.bind_some]
        by_cases again : name ∈ seen
        · rw [if_pos again, if_pos again]
          exact Enclosure.settle_error _ _
        · rw [if_neg again, if_neg again]
          have value := (h.decoder? name).toOption_memberValue before behind hd stop
          cases field : δs.decoder? name with
          | none =>
            rw [field] at value
            rw [eq_ok_of_toOption value]
            exact ih more
          | some δ =>
            rw [field, member?] at value
            dsimp only at value ⊢
            cases found : δ d with
            | none =>
              rw [found] at value
              obtain ⟨fault, run⟩ := eq_error_of_toOption value
              rw [run]
              exact Enclosure.settle_error _ fault
            | some v =>
              rw [found] at value
              rw [eq_ok_of_toOption value]
              dsimp only
              rw [Enclosure.settle_map, ih more]
              cases named? δs (name :: seen) ms <;> rfl

theorem FieldsDecode.written_of_named {fields : Fields β} {δs : Decoders β} (h : FieldsDecode fields δs)
    {seen : List String} {first : Bool} {cs left rest : List Char} {vs : List β}
    (run : named fields seen first cs = .ok (vs, left)) (closed : Enclosure.object.leave left = .ok rest) :
    ∃ ms w, MembersWritten first ms w ∧ cs = w ++ '\x7d' :: rest := by
  -- A member in front of members, whether its value is that of a field or dropped.
  have member : ∀ {first : Bool} {cs inner behind left : List Char} {name : String} {v : Option β},
      Enclosure.object.next first cs = .ok (some inner) → Reader.key.run inner = .ok (name, behind) →
      memberValue (fields.reader? name) behind = .ok (v, left) →
      (∃ ms w, MembersWritten false ms w ∧ left = w ++ '\x7d' :: rest) →
      ∃ ms w, MembersWritten first ms w ∧ cs = w ++ '\x7d' :: rest := by
    rintro first cs inner behind left name v start read value ⟨ms, ws, more, rfl⟩
    obtain ⟨p, lead, rfl⟩ := Enclosure.lead_of_next start
    obtain ⟨key, quoted, rfl⟩ := written_of_key read
    obtain ⟨a, b, d, w, before, blank, written, rfl⟩ := (h.decoder? name).written_of_memberValue value
    exact ⟨(key, d) :: ms, _, .cons lead quoted before blank written more, by simp⟩
  fun_induction named fields seen first cs generalizing vs left with
  | case2 =>
    cases run
    exact members_of_leave _ closed
  | case6 _ _ _ _ start _ _ read _ _ value ih => exact member start read value (ih run closed)
  | case8 _ _ _ _ start _ _ read _ _ _ value _ _ eq ih =>
    cases run
    exact member start read value (ih eq closed)
  | _ => cases run

/-! ## Records -/

theorem decodes_record (expected : Expected) {fields : Option (Fields β)} {δs : Option (Decoders β)}
    (h : Option.Rel FieldsDecode fields δs) : (Reader.record expected fields).Decodes (record? δs) where
  reads {d w b rest} written blank stop := by
    obtain ⟨c, cs, rfl, found⟩ := written.reached blank rest
    simp only [Reader.record, found]
    by_cases scalar : d.IsScalar
    · obtain ⟨square, curly⟩ := written.ne_bracket scalar
      rw [if_neg square, if_neg curly]
      cases d with
      | list => cases scalar
      | object => cases scalar
      | _ => rfl
    · cases written with
      | list items =>
        rw [if_pos rfl, List.append_assoc]
        cases h with
        | none => rfl
        | some h => exact h.toOption_positional items rest
      | object members =>
        rw [if_neg (by decide), if_pos rfl, List.append_assoc]
        cases h with
        | none => rfl
        | some h => exact h.toOption_named members rest
      | _ => exact absurd trivial scalar
  written {cs rest a} run := by
    obtain ⟨b, blank, split⟩ := blank_skipBlanks cs
    unfold Reader.record at run
    dsimp only at run
    split at run
    · cases run
    · rename_i c inner start
      rw [start] at split
      by_cases square : c = '['
      · rw [if_pos square] at run
        cases h with
        | none => cases run
        | some h =>
          obtain ⟨left, read, closed⟩ := Enclosure.leave_of_settle run
          obtain ⟨ds, w, items, eq⟩ := h.written_of_positional read closed
          refine ⟨b, .list ds, _, blank, .list items, ?_⟩
          rw [split, square, eq]
          simp
      · rw [if_neg square] at run
        by_cases curly : c = '\x7b'
        · rw [if_pos curly] at run
          cases h with
          | none => cases run
          | some h =>
            obtain ⟨left, read, closed⟩ := Enclosure.leave_of_settle run
            obtain ⟨ms, w, members, eq⟩ := h.written_of_named read closed
            refine ⟨b, .object ms, _, blank, .object members, ?_⟩
            rw [split, curly, eq]
            simp
        · rw [if_neg curly] at run
          cases run

end FilterTree.Json

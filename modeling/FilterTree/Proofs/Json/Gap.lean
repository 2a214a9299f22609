import FilterTree.Proofs.Json.Slot
import FilterTree.Proofs.Json.Written

/-!
# Scripts with a gap for a number

A fault with a place is passed on by all readers around the one that meets it, if what stands in front of it is read.

* `Reader.Refuses` : a reader refuses every spelling of a script, for a given cause.
* `Reader.refuses_number` : a number out of range is refused.
* `Reader.Refuses.list`, `Reader.Refuses.value`, `Reader.Refuses.record` : so is what has a refused script inside, where it
  would be read with some other script in its place.
* `Reader.Fills` : what a reader makes of a script with a number put in its gap is a function of what the number stands for,
  unless it makes nothing of the script whatever the number. A number out of range is refused for that reason.
* `Reader.fills_number` : a number alone.
* `Reader.Fills.list`, `Reader.Fills.value`, `FieldsDecode.fills` : the same in an element of a list and in a field of a
  record.
-/

namespace FilterTree.Json

open Script

/-! ## Refusals from inside -/

/-- The reader refuses every spelling of a script for a cause, at some place. -/
def Reader.Refuses {α : Type} (r : Reader α) (cause : Cause) (d : Script) : Prop :=
  ∀ ⦃w b rest : List Char⦄, d.Written w → Blank b → Stops rest → ∃ left, r.run (b ++ (w ++ rest)) = .error (.placed cause left)

theorem Reader.refuses_number {m : Numeral} {unread : Nat} (h : m.number = .error unread) (levels : Nat) :
    (reader levels).Refuses .numberOutOfRange (.number m) := by
  have refused : ∀ item, (Reader.value item).Refuses .numberOutOfRange (.number m) := by
    intro item w b rest written blank stop
    obtain ⟨c, cs, rfl, found⟩ := written.reached blank rest
    obtain ⟨square, curly⟩ := written.ne_bracket trivial
    cases written with
    | number spelled =>
      obtain ⟨n, t, f, quote, -, -⟩ := ne_of_number spelled.head
      refine ⟨size rest + unread, ?_⟩
      rw [Reader.value_scalar found square curly, scalar, if_neg n, if_neg t, if_neg f, if_neg quote, if_pos spelled.head,
        ← List.cons_append]
      simp only [Reader.map, Reader.number, numeral_written spelled stop, h]
  cases levels with
  | zero => exact refused none
  | succ levels => exact refused (some (reader levels))

namespace Reader.Refuses

variable {α β : Type} {r : Reader α} {cause : Cause} {d : Script}

theorem map (h : r.Refuses cause d) (f : α → β) : (r.map f).Refuses cause d := by
  intro w b rest written blank stop
  obtain ⟨left, run⟩ := h written blank stop
  exact ⟨left, by simp only [Reader.map, run]⟩

theorem choose (h : r.Refuses cause d) (other : Cause) (f : α → Option β) : (r.choose other f).Refuses cause d := by
  intro w b rest written blank stop
  obtain ⟨left, run⟩ := h written blank stop
  exact ⟨left, by simp only [Reader.choose, run]⟩

theorem orNull (h : r.Refuses cause d) (ne : d ≠ .null) : r.orNull.Refuses cause d := by
  intro w b rest written blank stop
  obtain ⟨c, cs, rfl, found⟩ := written.reached blank rest
  have other : c ≠ 'n' := by
    rintro rfl
    exact ne written.begins.null
  obtain ⟨left, run⟩ := h written blank_nil stop
  refine ⟨left, ?_⟩
  rw [List.nil_append, List.cons_append] at run
  rw [r.orNull_run found other, run]
  rfl

theorem read (h : r.Refuses cause d) {text : String} (spans : d.Spans text) :
    ∃ place, r.read text = .error ⟨cause, some place⟩ := by
  obtain ⟨a, w, b, before, written, behind, split⟩ := spans
  have stop : Stops b := List.append_nil b ▸ Stops.blank_append behind trivial
  obtain ⟨left, run⟩ := h written before stop
  refine ⟨.before text left, ?_⟩
  rw [Reader.read, split, run]
  rfl

/-! ## Lists -/

section

variable {δ : Script → Option α} {e : Script} {ds es : List Script} {vs : List α}

theorem elements (h : r.Refuses cause d) (decodes : r.Decodes δ) (other : (ds ++ e :: es).mapM δ = some vs) {first : Bool}
    {w : List Char} (written : ItemsWritten first (ds ++ d :: es) w) (rest : List Char) :
    ∃ left, Json.elements r first (w ++ ']' :: rest) = .error (.placed cause left) := by
  induction ds generalizing first w vs with
  | nil =>
    cases written with
    | @cons _ _ _ p w ws lead hd more =>
      obtain ⟨left, run⟩ := h hd blank_nil (more.stops rest)
      rw [List.nil_append] at run
      exact ⟨left, by rw [List.append_assoc, List.append_assoc, elements_written lead hd, run]⟩
  | cons d' ds ih =>
    cases written with
    | @cons _ _ _ p w ws lead hd more =>
      rw [List.cons_append, List.mapM_cons] at other
      obtain ⟨v, value, others⟩ := Option.bind_eq_some_iff.1 other
      obtain ⟨us, values, -⟩ := Option.bind_eq_some_iff.1 others
      have run := decodes.run_of_some hd blank_nil (more.stops rest) value
      rw [List.nil_append] at run
      obtain ⟨left, refused⟩ := ih values more
      refine ⟨left, ?_⟩
      rw [List.append_assoc, List.append_assoc, elements_written lead hd, run]
      dsimp only
      rw [refused]
      rfl

theorem bracketed (h : r.Refuses cause d) (decodes : r.Decodes δ) (other : (ds ++ e :: es).mapM δ = some vs)
    {w : List Char} (written : ItemsWritten true (ds ++ d :: es) w) (rest : List Char) :
    ∃ left, Json.bracketed .list (listBody (some r)) ('[' :: (w ++ ']' :: rest)) = .error (.placed cause left) := by
  obtain ⟨left, refused⟩ := h.elements decodes other written rest
  refine ⟨left, ?_⟩
  show Enclosure.list.settle (Json.elements r true (w ++ ']' :: rest)) = _
  rw [refused]
  rfl

/-- A list with a refused element is refused, where it would be read with another element in its place. -/
theorem list (h : r.Refuses cause d) (decodes : r.Decodes δ) (other : (ds ++ e :: es).mapM δ = some vs) :
    (Reader.list (some r)).Refuses cause (.list (ds ++ d :: es)) := by
  intro w b rest written blank stop
  obtain ⟨c, cs, rfl, found⟩ := written.reached blank rest
  cases written with
  | @list _ w items =>
    simp only [Reader.list, found]
    rw [if_true, List.append_assoc]
    exact h.bracketed decodes other items rest

end

theorem value {r : Reader Json} (h : r.Refuses cause d) {δ : Script → Option Json} (decodes : r.Decodes δ) {e : Script}
    {ds es : List Script} {vs : List Json} (other : (ds ++ e :: es).mapM δ = some vs) :
    (Reader.value (some r)).Refuses cause (.list (ds ++ d :: es)) := by
  intro w b rest written blank stop
  obtain ⟨c, cs, rfl, found⟩ := written.reached blank rest
  cases written with
  | @list _ w items =>
    obtain ⟨left, refused⟩ := h.bracketed decodes other items rest
    refine ⟨left, ?_⟩
    rw [Reader.value_list found, List.append_assoc, List.singleton_append, refused]
    rfl

end Reader.Refuses

/-! ## Records -/

section

variable {β : Type} {fields : Fields β} {δs : Decoders β} {name : String} {cause : Cause} {d e : Script} {vs : List β}

theorem FieldsDecode.positional_refuses (h : FieldsDecode fields δs) (bad : ∀ r, (name, r) ∈ fields → r.Refuses cause d)
    {ds es : List Script} (place : (fields.map Prod.fst)[ds.length]? = some name)
    (other : positional? δs (ds ++ e :: es) = some vs) {first : Bool} {w : List Char}
    (written : ItemsWritten first (ds ++ d :: es) w) (rest : List Char) :
    ∃ left, positional first fields (w ++ ']' :: rest) = .error (.placed cause left) := by
  induction h generalizing ds first w vs with
  | nil => cases place
  | @cons f g fields δs decodes _ ih =>
    obtain ⟨name', r⟩ := f
    obtain ⟨name'', δ⟩ := g
    cases ds with
    | nil =>
      obtain rfl : name' = name := Option.some.inj place
      cases written with
      | @cons _ _ _ p w ws lead hd more =>
        obtain ⟨left, run⟩ := bad r List.mem_cons_self hd blank_nil (more.stops rest)
        rw [List.nil_append] at run
        exact ⟨left, by rw [List.append_assoc, List.append_assoc, positional_written name' r fields lead hd, run]⟩
    | cons d' ds =>
      cases written with
      | @cons _ _ _ p w ws lead hd more =>
        obtain ⟨v, value, others⟩ := Option.bind_eq_some_iff.1 other
        obtain ⟨us, values, -⟩ := Option.map_eq_some_iff.1 others
        have run := decodes.2.run_of_some hd blank_nil (more.stops rest) value
        rw [List.nil_append] at run
        obtain ⟨left, refused⟩ := ih (fun r hr => bad r (List.mem_cons_of_mem _ hr)) place values more
        refine ⟨left, ?_⟩
        rw [List.append_assoc, List.append_assoc, positional_written name' r fields lead hd, run]
        dsimp only
        rw [refused]
        rfl

theorem Fields.exists_reader? {name : String} (field : name ∈ fields.map Prod.fst) :
    ∃ r, fields.reader? name = some r ∧ (name, r) ∈ fields := by
  cases found : fields.find? (·.1 == name) with
  | none =>
    obtain ⟨f, hf, rfl⟩ := List.mem_map.1 field
    exact absurd (List.find?_eq_none.1 found f hf) (by simp)
  | some f =>
    have eq : f.1 = name := by simpa using List.find?_some found
    refine ⟨f.2, ?_, eq ▸ List.mem_of_find?_eq_some found⟩
    rw [Fields.reader?, found, Option.map_some]

theorem FieldsDecode.named_refuses (h : FieldsDecode fields δs) (bad : ∀ r, (name, r) ∈ fields → r.Refuses cause d)
    {key : List Char} (text : textOf? key = some name) (field : name ∈ fields.map Prod.fst)
    {ms ns : List (List Char × Script)} {seen : List String} (other : named? δs seen (ms ++ (key, e) :: ns) = some vs)
    {first : Bool} {w : List Char} (written : MembersWritten first (ms ++ (key, d) :: ns) w) (rest : List Char) :
    ∃ left, named fields seen first (w ++ '\x7d' :: rest) = .error (.placed cause left) := by
  induction ms generalizing seen first w vs with
  | nil =>
    cases written with
    | @cons _ key d _ p a b w ws lead closed before behind hd more =>
      have new : name ∉ seen := by
        intro again
        rw [List.nil_append, named?_of_mem text again] at other
        cases other
      obtain ⟨r, reader, mem⟩ := Fields.exists_reader? field
      obtain ⟨left, run⟩ := bad r mem hd behind (more.stops rest)
      refine ⟨left, ?_⟩
      rw [member_append, named_written seen lead closed text, if_neg new, reader, memberValue, colon_append before]
      dsimp only
      rw [run]
  | cons m ms ih =>
    cases written with
    | @cons _ key' d' _ p a b w ws lead closed before behind hd more =>
      rw [List.cons_append] at other
      cases text' : textOf? key' with
      | none =>
        rw [named?_of_key_none text'] at other
        cases other
      | some name' =>
        rw [member_append, named_written seen lead closed text']
        by_cases again : name' ∈ seen
        · rw [named?_of_mem text' again] at other
          cases other
        · rw [if_neg again]
          have value := (h.decoder? name').toOption_memberValue before behind hd (more.stops rest)
          cases field' : δs.decoder? name' with
          | none =>
            rw [named?_unknown text' field' again] at other
            rw [field'] at value
            rw [eq_ok_of_toOption value]
            exact ih other more
          | some δ' =>
            rw [named?_field text' field' again] at other
            obtain ⟨v, held, others⟩ := Option.bind_eq_some_iff.1 other
            obtain ⟨us, values, -⟩ := Option.map_eq_some_iff.1 others
            rw [field', member?, held] at value
            rw [eq_ok_of_toOption value]
            obtain ⟨left, refused⟩ := ih values more
            refine ⟨left, ?_⟩
            dsimp only
            rw [refused]
            rfl

theorem FieldsDecode.refuses (h : FieldsDecode fields δs) (bad : ∀ r, (name, r) ∈ fields → r.Refuses cause d)
    {C : Script → Script} (slot : Slot (fields.map Prod.fst) name C) (other : (C e).record? (some δs) = some vs)
    (expected : Expected) : (Reader.record expected (some fields)).Refuses cause (C d) := by
  intro w b rest written blank stop
  obtain ⟨c, cs, rfl, found⟩ := written.reached blank rest
  cases slot with
  | member field written_key =>
    cases written with
    | object members =>
      obtain ⟨left, refused⟩ := h.named_refuses bad (textOf?_eq_some_iff.2 written_key) field other members rest
      refine ⟨left, ?_⟩
      simp only [Reader.record, found]
      rw [if_neg (by decide), if_true, List.append_assoc]
      show Enclosure.object.settle (named fields [] true _) = _
      rw [List.singleton_append, refused]
      rfl
  | item place =>
    cases written with
    | list items =>
      obtain ⟨left, refused⟩ := h.positional_refuses bad place other items rest
      refine ⟨left, ?_⟩
      simp only [Reader.record, found]
      rw [if_true, List.append_assoc]
      show Enclosure.list.settle (positional true fields _) = _
      rw [List.singleton_append, refused]
      rfl

end

/-! ## Gaps -/

/-- What a reader makes of a script with a number in its gap: nothing whatever the number, or else a function of what the
number stands for. The function has a given property, and a number out of range is refused as such. -/
inductive Reader.Fills {α : Type} (r : Reader α) (δ : Script → Option α) (C : Script → Script) (P : (Number → α) → Prop) :
    Prop where
  | never (h : ∀ m, δ (C (.number m)) = none)
  | always (G : Number → α) (property : P G) (value : ∀ m : Numeral, δ (C (.number m)) = m.number.toOption.map G)
    (fault : ∀ (m : Numeral) (unread : Nat), m.number = .error unread → r.Refuses .numberOutOfRange (C (.number m)))

theorem Numeral.exists_number : ∃ (m : Numeral) (n : Number), m.number = .ok n :=
  ⟨ofDigits false 0, _, number_ofDigits false (by decide)⟩

theorem Reader.fills_number (levels : Nat) :
    (reader levels).Fills (json? levels) (fun d => d) fun G => G = Json.number := by
  refine .always Json.number rfl ?_ ?_
  · intro m
    cases levels <;> rfl
  · intro m unread h
    exact refuses_number h levels

namespace Reader.Fills

variable {α β : Type} {r : Reader α} {δ : Script → Option α} {C : Script → Script} {P : (Number → α) → Prop}
  {Q : (Number → β) → Prop}

theorem imp (h : r.Fills δ C P) {P' : (Number → α) → Prop} (weaker : ∀ G, P G → P' G) : r.Fills δ C P' := by
  cases h with
  | never h => exact .never h
  | always G property value fault => exact .always G (weaker G property) value fault

theorem map (h : r.Fills δ C P) (f : α → β) :
    (r.map f).Fills (fun d => (δ d).map f) C fun H => ∃ G, P G ∧ H = fun n => f (G n) := by
  cases h with
  | never h => exact .never fun m => by rw [h m, Option.map_none]
  | always G property value fault =>
    refine .always _ ⟨G, property, rfl⟩ ?_ ?_
    · intro m
      rw [value m, Option.map_map]
      rfl
    · intro m unread h
      exact (fault m unread h).map f

theorem choose (h : r.Fills δ C P) (cause : Cause) (f : α → Option β)
    (step : ∀ G, P G → (∀ n, f (G n) = none) ∨ ∃ H, Q H ∧ ∀ n, f (G n) = some (H n)) :
    (r.choose cause f).Fills (fun d => (δ d).bind f) C Q := by
  cases h with
  | never h => exact .never fun m => by rw [h m, Option.bind_none]
  | always G property value fault =>
    rcases step G property with none | ⟨H, holds, some⟩
    · refine .never fun m => ?_
      rw [value m]
      cases m.number.toOption with
      | none => rfl
      | some n => exact none n
    · refine .always H holds ?_ ?_
      · intro m
        rw [value m]
        cases m.number.toOption with
        | none => rfl
        | some n => exact some n
      · intro m unread h
        exact (fault m unread h).choose cause f

theorem orNull (h : r.Fills δ C P) (ne : ∀ m, C (.number m) ≠ .null) :
    r.orNull.Fills (Script.orNull δ) C fun H => ∃ G, P G ∧ H = fun n => some (G n) := by
  cases h with
  | never h => exact .never fun m => by rw [orNull_of_ne δ (ne m), h m, Option.map_none]
  | always G property value fault =>
    refine .always _ ⟨G, property, rfl⟩ ?_ ?_
    · intro m
      rw [orNull_of_ne δ (ne m), value m, Option.map_map]
      rfl
    · intro m unread h
      exact (fault m unread h).orNull (ne m)

/-- Where the values are one for what is in the gap and others that do not depend on it. -/
theorem inserts (h : r.Fills δ C P) {f : Script → Option (List α)} (inserts : Inserts f δ) :
    (∀ m, f (C (.number m)) = none) ∨
    ∃ G vs ws, P G ∧ (∀ m : Numeral, f (C (.number m)) = m.number.toOption.map fun n => vs ++ G n :: ws) ∧
      (∃ d n, f (C d) = some (vs ++ G n :: ws)) ∧
      ∀ (m : Numeral) (unread : Nat), m.number = .error unread → r.Refuses .numberOutOfRange (C (.number m)) := by
  cases h with
  | never h => exact .inl fun m => inserts.eq_none (h m)
  | always G property value fault =>
    rcases inserts with never | ⟨vs, ws, values⟩
    · exact .inl fun m => never (C (.number m))
    · have read : ∀ m : Numeral, f (C (.number m)) = m.number.toOption.map fun n => vs ++ G n :: ws := by
        intro m
        rw [values, value m, Option.map_map]
        rfl
      obtain ⟨m, n, number⟩ := Numeral.exists_number
      exact .inr ⟨G, vs, ws, property, read, ⟨.number m, n, by rw [read m, number]; rfl⟩, fault⟩

theorem list (h : r.Fills δ C P) (decodes : r.Decodes δ) (ds es : List Script) :
    (Reader.list (some r)).Fills (list? (some δ)) (fun d => .list (ds ++ C d :: es)) fun H =>
      ∃ G vs ws, P G ∧ H = fun n => vs ++ G n :: ws := by
  rcases h.inserts (.mapM δ ds es) with never | ⟨G, vs, ws, property, read, ⟨d, n, other⟩, fault⟩
  · exact .never never
  · exact .always _ ⟨G, vs, ws, property, rfl⟩ read fun m unread h => (fault m unread h).list decodes other

theorem value {r : Reader Json} {δ : Script → Option Json} {P : (Number → Json) → Prop} (h : r.Fills δ C P)
    (decodes : r.Decodes δ) (ds es : List Script) :
    (Reader.value (some r)).Fills (value? (some δ)) (fun d => .list (ds ++ C d :: es)) fun H =>
      ∃ G vs ws, P G ∧ H = fun n => .list (vs ++ G n :: ws) := by
  rcases h.inserts (.mapM δ ds es) with never | ⟨G, vs, ws, property, read, ⟨d, n, other⟩, fault⟩
  · exact .never fun m => congrArg (Option.map Json.list) (never m)
  · refine .always _ ⟨G, vs, ws, property, rfl⟩ ?_ fun m unread h => (fault m unread h).value decodes other
    intro m
    show Option.map Json.list _ = _
    exact (congrArg (Option.map Json.list) (read m)).trans (Option.map_map ..)

end Reader.Fills

theorem FieldsDecode.fills {β : Type} {fields : Fields β} {δs : Decoders β} (h : FieldsDecode fields δs)
    (nodup : (δs.map Prod.fst).Nodup) {name : String} {r : Reader β} {δ : Script → Option β} (here : (name, r) ∈ fields)
    (field : (name, δ) ∈ δs) {A C : Script → Script} (slot : Slot (δs.map Prod.fst) name A)
    {P : (Number → β) → Prop} (value : r.Fills δ C P) (expected : Expected) :
    (Reader.record expected (some fields)).Fills (record? (some δs)) (fun d => A (C d)) fun H =>
      ∃ G vs ws, P G ∧ (H = fun n => vs ++ G n :: ws) ∧ ∃ d n, (A (C d)).record? (some δs) = some (vs ++ G n :: ws) := by
  have names : fields.map Prod.fst = δs.map Prod.fst := by
    rw [← List.forall₂_eq_eq_eq, List.forall₂_map_left_iff, List.forall₂_map_right_iff]
    exact h.imp fun _ _ both => both.1
  rcases value.inserts (slot.inserts nodup field) with never | ⟨G, vs, ws, property, read, ⟨d, n, other⟩, fault⟩
  · exact .never never
  · refine .always _ ⟨G, vs, ws, property, rfl, d, n, other⟩ read fun m unread refused => ?_
    refine h.refuses ?_ (names ▸ slot) other expected
    intro r' here'
    rw [← names] at nodup
    obtain rfl : r' = r := congrArg Prod.snd (List.inj_on_of_nodup_map nodup here' here rfl)
    exact fault m unread refused

end FilterTree.Json

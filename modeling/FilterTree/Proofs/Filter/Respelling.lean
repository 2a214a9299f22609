import FilterTree.Compile
import FilterTree.Proofs.Filter.Decoders
import FilterTree.Proofs.Json.Members
import Mathlib

/-!
# Spellings of a filter

* `Role` : what a value in the text of a filter is read as: a node, the rules of a group, a condition, or any other value.
* `Rewrite` : one change of a script that does not change what is meant: members in another order, an unknown key, a null,
  the list in place of the object, and another spelling of a text or key; all of them at any depth.
* `Respelled` : texts of scripts that differ by such changes. Blanks are no part of a script.
* `eqvGen_list_null` : a null at the end of the list of a record's fields may be left out.
* `Filter.ofText_respelled` : respelled texts denote the same filter.
-/

namespace FilterTree

open Json Json.Script

/-! ## Changes of the spelling -/

/-- What a value in the text of a filter is read as. -/
inductive Role where
  | node
  | rules
  | condition
  | value
deriving DecidableEq

namespace Role

/-- The fields of a record, in the order of its list form. -/
def fields? : Role → Option (List String)
  | .node => some ["glue", "field", "condition", "includes", "rules"]
  | .condition => some ["type", "filter"]
  | .rules => none
  | .value => none

def member : Role → String → Role
  | .node, name => if name = "condition" then .condition else if name = "rules" then .rules else .value
  | _, _ => .value

def item (role : Role) (i : Nat) : Role :=
  match role, role.fields? with
  | .rules, _ => .node
  | role, some names => match names[i]? with
    | some name => role.member name
    | none => .value
  | _, none => .value

theorem item_eq_member {role : Role} {names : List String} {i : Nat} {name : String} (record : role.fields? = some names)
    (found : names[i]? = some name) : role.item i = role.member name := by
  cases role with
  | node =>
    cases record
    simp only [item, fields?, found]
  | condition =>
    cases record
    simp only [item, fields?, found]
  | rules => cases record
  | value => cases record

end Role

/-- One change of a script that does not change what it is read as. -/
inductive Rewrite : Role → Script → Script → Prop where
  | text {role : Role} {cs raw raw' : List Char} (h : TextWritten cs raw) (h' : TextWritten cs raw') :
    Rewrite role (.text raw) (.text raw')
  | key {role : Role} {cs raw raw' : List Char} {d : Script} {ms ns : List (List Char × Script)} (h : TextWritten cs raw)
    (h' : TextWritten cs raw') : Rewrite role (.object (ms ++ (raw, d) :: ns)) (.object (ms ++ (raw', d) :: ns))
  | member {role : Role} {name : String} {key : List Char} {d e : Script} {ms ns : List (List Char × Script)}
    (named : TextWritten name.toList key) (h : Rewrite (role.member name) d e) :
    Rewrite role (.object (ms ++ (key, d) :: ns)) (.object (ms ++ (key, e) :: ns))
  | item {role : Role} {d e : Script} {ds es : List Script} (h : Rewrite (role.item ds.length) d e) :
    Rewrite role (.list (ds ++ d :: es)) (.list (ds ++ e :: es))
  | permute {role : Role} {names : List String} {ms ns : List (List Char × Script)} (record : role.fields? = some names)
    (h : ms.Perm ns) : Rewrite role (.object ms) (.object ns)
  | unknown {role : Role} {names : List String} {name : String} {key : List Char} {ms : List (List Char × Script)}
    (record : role.fields? = some names) (named : TextWritten name.toList key) (other : name ∉ names) (d : Script) :
    Rewrite role (.object ms) (.object ((key, d) :: ms))
  | null {role : Role} {names : List String} {name : String} {key : List Char} {ms : List (List Char × Script)}
    (record : role.fields? = some names) (named : TextWritten name.toList key) (field : name ∈ names)
    (absent : ∀ m ∈ ms, ¬TextWritten name.toList m.1) : Rewrite role (.object ms) (.object ((key, .null) :: ms))
  | list {role : Role} {names : List String} {ds : List Script} (record : role.fields? = some names)
    (short : ds.length ≤ names.length) : Rewrite role (.list ds) (.object (zipMembers names ds))

/-- Texts of scripts that differ by changes of the spelling of a node. -/
def Respelled (s t : String) : Prop := ∃ d e : Script, d.Spans s ∧ Relation.EqvGen (Rewrite .node) d e ∧ e.Spans t

/-! ## Names and nulls -/

theorem Role.plain_fields {role : Role} {names : List String} (record : role.fields? = some names) :
    names.Nodup ∧ ∀ name ∈ names, PlainText name := by
  cases role with
  | node =>
    cases record
    decide
  | condition =>
    cases record
    decide
  | rules => cases record
  | value => cases record

/-- A null at the end of the list of a record's fields may be left out. -/
theorem eqvGen_list_null {role : Role} {names : List String} {ds : List Script} (record : role.fields? = some names)
    (short : ds.length < names.length) : Relation.EqvGen (Rewrite role) (.list (ds ++ [.null])) (.list ds) := by
  obtain ⟨nodup, plain⟩ := Role.plain_fields record
  obtain ⟨before, name, after, rfl, len⟩ : ∃ before name after, names = before ++ name :: after ∧ before.length = ds.length := by
    refine ⟨names.take ds.length, names[ds.length], names.drop (ds.length + 1), ?_, ?_⟩
    · rw [← List.drop_eq_getElem_cons short, List.take_append_drop]
    · rw [List.length_take]
      omega
  have whole : zipMembers (before ++ name :: after) (ds ++ [.null]) = zipMembers before ds ++ [(name.toList, .null)] := by
    rw [zipMembers, List.zip_append len, List.map_append, List.zip_cons_cons, List.zip_nil_right, zipMembers]
    rfl
  have front : zipMembers (before ++ name :: after) ds = zipMembers before ds := by
    have padded : (before ++ name :: after).zip (ds ++ []) = before.zip ds ++ (name :: after).zip [] := List.zip_append len
    rw [List.append_nil, List.zip_nil_right, List.append_nil] at padded
    rw [zipMembers, padded, zipMembers]
  have here : name ∈ before ++ name :: after := by simp
  have absent : ∀ m ∈ zipMembers before ds, ¬TextWritten name.toList m.1 := by
    intro m hm written
    obtain ⟨⟨other, d⟩, mem, rfl⟩ := List.mem_map.1 hm
    have earlier : other ∈ before := (List.of_mem_zip mem).1
    have same := textOf?_eq_some_iff.2 written
    rw [textOf?_plain (plain other (List.mem_append_left _ earlier))] at same
    rw [Option.some.inj same] at earlier
    exact List.disjoint_of_nodup_append nodup earlier List.mem_cons_self
  have added : Rewrite role (.object (zipMembers before ds)) (.object ((name.toList, .null) :: zipMembers before ds)) :=
    .null record (textWritten_plain (plain name here)) here absent
  have moved : Rewrite role (.object ((name.toList, .null) :: zipMembers before ds))
      (.object (zipMembers before ds ++ [(name.toList, .null)])) :=
    .permute record (List.perm_append_singleton _ _).symm
  have long : Rewrite role (.list (ds ++ [.null])) (.object (zipMembers (before ++ name :: after) (ds ++ [.null]))) :=
    .list record (by rw [List.length_append]; exact short)
  have brief : Rewrite role (.list ds) (.object (zipMembers (before ++ name :: after) ds)) :=
    .list record (Nat.le_of_lt short)
  rw [whole] at long
  rw [front] at brief
  exact .trans _ _ _ (.rel _ _ long) (.trans _ _ _ (.symm _ _ (.trans _ _ _ (.rel _ _ added) (.rel _ _ moved)))
    (.symm _ _ (.rel _ _ brief)))

/-! ## What a change does to a value -/

theorem textOf?_eq_of_written {cs raw raw' : List Char} (h : TextWritten cs raw) (h' : TextWritten cs raw') :
    textOf? raw = textOf? raw' := by
  have same : ∀ {raw : List Char}, TextWritten cs raw → textOf? raw = some (String.ofList cs) := by
    intro raw h
    rw [textOf?_eq_some_iff, String.toList_ofList]
    exact h
  rw [same h, same h']

theorem Rewrite.ne_null {role : Role} {d e : Script} (h : Rewrite role d e) : d ≠ .null ∧ e ≠ .null := by
  cases h <;> exact ⟨nofun, nofun⟩

theorem Rewrite.orNull {α : Type} {δ : Script → Option α} {role : Role} {d e : Script} (h : Rewrite role d e)
    (same : δ d = δ e) : d.orNull δ = e.orNull δ := by
  obtain ⟨left, right⟩ := h.ne_null
  rw [orNull_of_ne δ left, orNull_of_ne δ right, same]

theorem mapM_congr {α β : Type} {f : α → Option β} {xs ys : List α} {x y : α} (same : f x = f y) :
    (xs ++ x :: ys).mapM f = (xs ++ y :: ys).mapM f := by
  simp only [List.mapM_append, List.mapM_cons, same]

/-- A change of a value makes no difference if a change of the values inside its brackets makes none. -/
theorem value?_rewrite {δ : Option (Script → Option Json)}
    (inner : ∀ ε, δ = some ε → ∀ d e, Rewrite .value d e → ε d = ε e) {d e : Script} (h : Rewrite .value d e) :
    d.value? δ = e.value? δ := by
  cases h with
  | text h h' =>
    show (textOf? _).map Json.text = (textOf? _).map Json.text
    rw [textOf?_eq_of_written h h']
  | key h h' =>
    cases δ with
    | none => rfl
    | some ε =>
      show (members? ε _).map Json.object = (members? ε _).map Json.object
      rw [members?, members?, mapM_congr]
      rw [textOf?_eq_of_written h h']
  | member named h =>
    cases δ with
    | none => rfl
    | some ε =>
      show (members? ε _).map Json.object = (members? ε _).map Json.object
      rw [members?, members?, mapM_congr]
      rw [inner ε rfl _ _ h]
  | item h =>
    cases δ with
    | none => rfl
    | some ε =>
      show (List.mapM ε _).map Json.list = (List.mapM ε _).map Json.list
      rw [mapM_congr (inner ε rfl _ _ h)]
  | permute record => cases record
  | unknown record => cases record
  | null record => cases record
  | list record => cases record

theorem json?_rewrite {d e : Script} (h : Rewrite .value d e) (levels : Nat) : d.json? levels = e.json? levels := by
  induction levels generalizing d e with
  | zero =>
    refine value?_rewrite ?_ h
    intro ε eq
    cases eq
  | succ levels ih =>
    refine value?_rewrite ?_ h
    intro ε eq d e h
    cases eq
    exact ih h

theorem text?_rewrite {d e : Script} (h : Rewrite .value d e) : d.text? = e.text? := by
  have view : ∀ d : Script, d.text? = (d.json? 0).bind fun | .text s => some s | _ => none := by
    intro d
    cases d with
    | text raw =>
      show textOf? raw = ((textOf? raw).map Json.text).bind _
      cases textOf? raw <;> rfl
    | number m =>
      show none = (m.number.toOption.map Json.number).bind _
      cases m.number.toOption <;> rfl
    | _ => rfl
  rw [view, view, json?_rewrite h 0]

theorem Literal.ofScript?_rewrite {d e : Script} (h : Rewrite .value d e) (levels : Nat) :
    Literal.ofScript? levels d = Literal.ofScript? levels e := by
  rw [Literal.ofScript?, Literal.ofScript?, json?_rewrite h levels]

theorem Operand.ofScript?_rewrite {d e : Script} (h : Rewrite .value d e) (levels : Nat) :
    Operand.ofScript? levels d = Operand.ofScript? levels e := by
  rw [Operand.ofScript?, Operand.ofScript?, json?_rewrite h levels]

theorem Literal.listOfScript?_rewrite {d e : Script} (h : Rewrite .value d e) (levels : Nat) :
    Literal.listOfScript? levels d = Literal.listOfScript? levels e := by
  cases levels with
  | zero => cases h <;> rfl
  | succ levels =>
    cases h with
    | item h =>
      show List.mapM (Literal.ofScript? levels) _ = List.mapM (Literal.ofScript? levels) _
      rw [mapM_congr (Literal.ofScript?_rewrite h levels)]
    | list record => cases record
    | _ => rfl

/-! ## What a change does to a record -/

section

variable {α β : Type} {δs : Decoders β} {amount : List β → α}

/-- A change of a record makes no difference to what the record amounts to, if its fields do not see a change of their
values. -/
theorem record?_rewrite {role : Role} (regular : Regular δs amount) (record : role.fields? = some (δs.map Prod.fst))
    (inner : ∀ f ∈ δs, ∀ d e, Rewrite (role.member f.1) d e → f.2 d = f.2 e) {d e : Script} (h : Rewrite role d e) :
    (d.record? (some δs)).map amount = (e.record? (some δs)).map amount := by
  have fields : ∀ {names : List String}, role.fields? = some names → names = δs.map Prod.fst := by
    intro names eq
    rw [record] at eq
    exact (Option.some.inj eq).symm
  cases h with
  | text => rfl
  | key h h' =>
    show (named? δs [] _).map amount = (named? δs [] _).map amount
    rw [named?_congr]
    intro seen
    rw [named?, named?, textOf?_eq_of_written h h']
  | @member _ name key d e ms ns named h =>
    show (named? δs [] _).map amount = (named? δs [] _).map amount
    rw [named?_congr]
    intro seen
    rw [named?_cons (textOf?_eq_some_iff.2 named), named?_cons (textOf?_eq_some_iff.2 named)]
    cases field : δs.decoder? name with
    | none => rfl
    | some δ =>
      have same : δ d = δ e := inner (name, δ) (mem_of_decoder? field) d e h
      simp only [same]
  | @item _ d e ds es h =>
    show (positional? δs _).map amount = (positional? δs _).map amount
    rw [positional?_congr]
    intro f found
    have place : (δs.map Prod.fst)[ds.length]? = some f.1 := by
      rw [List.getElem?_map, found]
      rfl
    rw [Role.item_eq_member record place] at h
    exact inner f (List.mem_of_getElem? found) d e h
  | permute _ perm => exact regular.permute perm
  | unknown record' named other d =>
    rw [fields record'] at other
    show _ = (named? δs [] _).map amount
    rw [named?_unknown (textOf?_eq_some_iff.2 named) (decoder?_eq_none other) List.not_mem_nil]
    rfl
  | null record' named field absent =>
    rw [fields record'] at field
    refine (regular.missing (textOf?_eq_some_iff.2 named) field ?_).symm
    intro m hm text
    exact absent m hm (textOf?_eq_some_iff.1 text)
  | @list _ names ds record' short =>
    rw [fields record'] at short ⊢
    rw [List.length_map] at short
    show (positional? δs ds).map amount = (named? δs [] _).map amount
    rw [regular.zip short]

end

/-! ## Conditions and filters -/

namespace Condition

def Entry.name : Entry → String
  | .operator _ => "type"
  | .operand _ => "filter"

theorem name_of_decoders {levels : Nat} :
    ∀ f ∈ decoders levels, ∀ (d : Script) (v : Entry), f.2 d = some v → v.name = f.1 := by
  intro f hf d v value
  rcases mem_decoders hf with rfl | rfl
  all_goals
    obtain ⟨_, -, rfl⟩ := Option.map_eq_some_iff.1 value
    rfl

theorem ofEntries_perm {vs ws : List Entry} (h : vs.Perm ws) (nodup : (vs.map Entry.name).Nodup) :
    ofEntries vs = ofEntries ws := by
  have operator : ∀ v : Entry, v.operator?.isSome = true → v.name = "type" := by
    intro v hv
    cases v with
    | operator => rfl
    | operand => cases hv
  have operand : ∀ v : Entry, v.operand?.isSome = true → v.name = "filter" := by
    intro v hv
    cases v with
    | operator => cases hv
    | operand => rfl
  rw [ofEntries, ofEntries, findSome?_perm operator h nodup, findSome?_perm operand h nodup]

theorem ofEntries_absent {vs : List Entry} (h : ∀ v ∈ vs, v.name ≠ "filter") :
    ofEntries (.operand .absent :: vs) = ofEntries vs := by
  have none_given : vs.findSome? Entry.operand? = none := by
    rw [List.findSome?_eq_none_iff]
    intro v hv
    cases v with
    | operator => rfl
    | operand => exact absurd rfl (h _ hv)
  rw [ofEntries, ofEntries, none_given]
  rfl

theorem regular (levels : Nat) : Regular (decoders levels) ofEntries where
  nodup := by
    show ["type", "filter"].Nodup
    decide
  plain f hf := by
    have plain : ∀ name ∈ ["type", "filter"], PlainText name := by decide
    exact textOf?_plain (plain f.1 (List.mem_map_of_mem hf))
  perm read perm := ofEntries_perm perm (nodup_of_named? name_of_decoders read).1
  null f hf := by
    rcases mem_decoders hf with rfl | rfl
    · exact ⟨.operator none, rfl, fun _ => rfl⟩
    · refine ⟨.operand .absent, ?_, ?_⟩
      · show (Operand.ofScript? levels .null).map Entry.operand = _
        rw [Operand.ofScript?_null]
        rfl
      · intro ms vs read
        have others := (nodup_of_named? name_of_decoders read).2
        exact ofEntries_absent fun v hv eq => others v hv (by rw [eq]; exact List.mem_cons_self)

theorem ofScript?_rewrite {d e : Script} (h : Rewrite .condition d e) (levels : Nat) :
    ofScript? levels d = ofScript? levels e := by
  cases levels with
  | zero =>
    show (d.record? none).map ofEntries = (e.record? none).map ofEntries
    rw [record?_none, record?_none]
  | succ levels =>
    refine record?_rewrite (regular levels) rfl ?_ h
    intro f hf d e h
    rcases mem_decoders hf with rfl | rfl
    · show (d.orNull text?).map Entry.operator = (e.orNull text?).map Entry.operator
      rw [h.orNull (text?_rewrite h)]
    · show (Operand.ofScript? levels d).map Entry.operand = (Operand.ofScript? levels e).map Entry.operand
      rw [Operand.ofScript?_rewrite h levels]

end Condition

namespace Filter

def Entry.name : Entry → String
  | .glue _ => "glue"
  | .field _ => "field"
  | .condition _ => "condition"
  | .includes _ => "includes"
  | .rules _ => "rules"

variable {levels : Nat} {rules : Script → Option (List Filter)}

theorem name_of_decoders : ∀ f ∈ decoders levels rules, ∀ (d : Script) (v : Entry), f.2 d = some v → v.name = f.1 := by
  intro f hf d v value
  rcases mem_decoders hf with rfl | rfl | rfl | rfl | rfl
  all_goals
    obtain ⟨_, -, rfl⟩ := Option.map_eq_some_iff.1 value
    rfl

theorem ofEntries_perm {vs ws : List Entry} (h : vs.Perm ws) (nodup : (vs.map Entry.name).Nodup) :
    ofEntries vs = ofEntries ws := by
  have glue : ∀ v : Entry, v.glue?.isSome = true → v.name = "glue" := by
    intro v hv
    cases v <;> first | rfl | cases hv
  have field : ∀ v : Entry, v.field?.isSome = true → v.name = "field" := by
    intro v hv
    cases v <;> first | rfl | cases hv
  have condition : ∀ v : Entry, v.condition?.isSome = true → v.name = "condition" := by
    intro v hv
    cases v <;> first | rfl | cases hv
  have includes : ∀ v : Entry, v.includes?.isSome = true → v.name = "includes" := by
    intro v hv
    cases v <;> first | rfl | cases hv
  have rules : ∀ v : Entry, v.rules?.isSome = true → v.name = "rules" := by
    intro v hv
    cases v <;> first | rfl | cases hv
  rw [ofEntries, ofEntries, findSome?_perm rules h nodup, findSome?_perm glue h nodup, findSome?_perm field h nodup,
    findSome?_perm condition h nodup, findSome?_perm includes h nodup]

theorem regular (levels : Nat) (rules : Script → Option (List Filter)) : Regular (decoders levels rules) ofEntries where
  nodup := by
    show ["glue", "field", "condition", "includes", "rules"].Nodup
    decide
  plain f hf := by
    have plain : ∀ name ∈ ["glue", "field", "condition", "includes", "rules"], PlainText name := by decide
    exact textOf?_plain (plain f.1 (List.mem_map_of_mem hf))
  perm read perm := ofEntries_perm perm (nodup_of_named? name_of_decoders read).1
  null f hf := by
    rcases mem_decoders hf with rfl | rfl | rfl | rfl | rfl
    · exact ⟨.glue none, rfl, fun _ => rfl⟩
    · exact ⟨.field none, rfl, fun _ => rfl⟩
    · exact ⟨.condition none, rfl, fun _ => rfl⟩
    · exact ⟨.includes none, rfl, fun _ => rfl⟩
    · exact ⟨.rules none, rfl, fun _ => rfl⟩

theorem ofScript?_rewrite_both (levels : Nat) :
    (∀ d e, Rewrite .node d e → ofScript? levels d = ofScript? levels e) ∧
    ∀ d e, Rewrite .rules d e → listOfScript? levels d = listOfScript? levels e := by
  induction levels with
  | zero =>
    constructor
    · intro d e _
      rw [ofScript?]
      show (d.record? none).map ofEntries = (e.record? none).map ofEntries
      rw [record?_none, record?_none]
    · intro d e h
      rw [listOfScript?]
      cases h <;> rfl
  | succ levels ih =>
    obtain ⟨node, list⟩ := ih
    constructor
    · intro d e h
      rw [ofScript?]
      refine record?_rewrite (regular levels _) rfl ?_ h
      intro f hf d e h
      rcases mem_decoders hf with rfl | rfl | rfl | rfl | rfl
      · show (d.orNull text?).map Entry.glue = (e.orNull text?).map Entry.glue
        rw [h.orNull (text?_rewrite h)]
      · show (d.orNull text?).map Entry.field = (e.orNull text?).map Entry.field
        rw [h.orNull (text?_rewrite h)]
      · show (d.orNull _).map Entry.condition = (e.orNull _).map Entry.condition
        rw [h.orNull (Condition.ofScript?_rewrite h levels)]
      · show (d.orNull _).map Entry.includes = (e.orNull _).map Entry.includes
        rw [h.orNull (Literal.listOfScript?_rewrite h levels)]
      · show (d.orNull _).map Entry.rules = (e.orNull _).map Entry.rules
        rw [h.orNull (list d e h)]
    · intro d e h
      rw [listOfScript?]
      cases h with
      | item h =>
        show List.mapM (ofScript? levels) _ = List.mapM (ofScript? levels) _
        rw [mapM_congr (node _ _ h)]
      | list record => cases record
      | _ => rfl

theorem ofScript?_eqvGen {d e : Script} (h : Relation.EqvGen (Rewrite .node) d e) (levels : Nat) :
    ofScript? levels d = ofScript? levels e := by
  induction h with
  | rel d e h => exact (ofScript?_rewrite_both levels).1 d e h
  | refl d => rfl
  | symm d e _ ih => exact ih.symm
  | trans d e f _ _ ih ih' => exact ih.trans ih'

/-- Whether and what a text denotes does not depend on its spelling. A text that denotes a filter is the text of a script,
and every text of a script that differs from that one by members in another order, unknown keys, nulls, lists in place of
objects and other spellings of texts and keys, at any depth, denotes the same filter. So a catalog makes the same of both:
the same clause, or the same refusal. -/
theorem ofText_respelled {s : String} {f : Filter} (h : ofText s = .ok f) :
    (∃ d : Script, d.Spans s) ∧
    ∀ t, Respelled s t → ofText t = .ok f ∧ ∀ c : Catalog, (ofText t).bind (compile c) = (ofText s).bind (compile c) := by
  refine ⟨?_, ?_⟩
  · obtain ⟨d, spans, -⟩ := ofText_eq_ok_iff.1 h
    exact ⟨d, spans⟩
  · rintro t ⟨d, e, left, same, right⟩
    have denoted : ofText t = .ok f := by
      apply eq_ok_of_toOption
      rw [toOption_ofText right, ← ofScript?_eqvGen same, ← toOption_ofText left, h]
      rfl
    exact ⟨denoted, fun c => by rw [denoted, h]⟩

/-- The list form of a leaf, with a number for a letter of its field. -/
theorem ofText_respelled_list :
    ofText "\x7b\"field\":\"id\"\x7d" = .ok (test "id" .vacant) ∧
    ofText " [null, \"\\u0069d\"]" = .ok (test "id" .vacant) := by
  have glue : TextWritten "glue".toList "glue".toList := textWritten_plain (by decide)
  have field : TextWritten "field".toList "field".toList := textWritten_plain (by decide)
  have id : TextWritten "id".toList "id".toList := textWritten_plain (by decide)
  have code : Quad 0x69 ['0', '0', '6', '9'] := ⟨rfl, by decide⟩
  have escaped : TextWritten "id".toList "\\u0069d".toList :=
    .cons (.code code rfl rfl) (.cons (.plain (by decide)) .nil)
  have space : Blank [' '] := by simp [Blank, isBlank]
  have object : Spans (.object [("field".toList, .text "id".toList)]) "\x7b\"field\":\"id\"\x7d" :=
    ⟨[], _, [], blank_nil, .object (.cons (.first blank_nil) field.wellQuoted blank_nil blank_nil (.text id.wellQuoted)
      (.nil blank_nil)), blank_nil, by decide⟩
  have items : ItemsWritten true [.null, .text "\\u0069d".toList] "null, \"\\u0069d\"".toList :=
    .cons (.first blank_nil) .null (.cons (.more blank_nil space) (.text escaped.wellQuoted) (.nil blank_nil))
  have list : Spans (.list [.null, .text "\\u0069d".toList]) " [null, \"\\u0069d\"]" :=
    ⟨[' '], _, [], space, .list items, blank_nil, by decide⟩
  have denoted : ofText "\x7b\"field\":\"id\"\x7d" = .ok (test "id" .vacant) :=
    ofText_eq_ok_iff.2 ⟨_, object, by cbv⟩
  have absent : ∀ m ∈ [("field".toList, Script.text "id".toList)], ¬TextWritten "glue".toList m.1 := by
    intro m hm written
    rw [List.mem_singleton.1 hm] at written
    have same := (textOf?_eq_some_iff.2 written).symm.trans (textOf?_eq_some_iff.2 field)
    exact absurd (Option.some.inj same) (by decide)
  have completed : Rewrite .node (.object [("field".toList, .text "id".toList)])
      (.object [("glue".toList, .null), ("field".toList, .text "id".toList)]) :=
    .null rfl glue (by decide) absent
  have record : Role.node.fields? = some ["glue", "field", "condition", "includes", "rules"] := rfl
  have listed : Rewrite .node (.list [.null, .text "id".toList])
      (.object [("glue".toList, .null), ("field".toList, .text "id".toList)]) :=
    .list record (show 2 ≤ 5 by decide)
  have respelled : Rewrite .node (.list ([.null] ++ .text "id".toList :: [])) (.list ([.null] ++ .text "\\u0069d".toList :: [])) :=
    .item (.text id escaped)
  refine ⟨denoted, ((ofText_respelled denoted).2 _ ⟨_, _, object, ?_, list⟩).1⟩
  exact .trans _ _ _ (.rel _ _ completed) (.trans _ _ _ (.symm _ _ (.rel _ _ listed)) (.rel _ _ respelled))

end Filter

end FilterTree

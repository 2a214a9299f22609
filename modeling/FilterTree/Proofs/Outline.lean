import FilterTree.Compile
import FilterTree.Proofs.Layout
import Mathlib

/-!
# Fields, placeholders and values

* `Catalog.Templated` : a catalog whose further operators are given by templates.
* `Catalog.exists_templated_iff` : these are the catalogs that have no other handlers.
* `Catalog.Templated.allow`, `Catalog.Templated.register` : more fields or a template more leave such a catalog one.
* `Template.length_values` : a template takes as many values as it has question marks.
* `placeholders` : the number of question marks in a text.
* `Leaf.outline` : the texts of a leaf's clause between the places of its field. They do not depend on the field.
* `Leaf.written` : how many times the field is written.
* `Clause.HasOutline` : a clause that is texts with a field between them, with a value for each of their question marks.
* `Leaf.hasOutline_compile` : the clause of a leaf has its outline, and so (`Leaf.placeholders_sql`) a question mark for
  each value, besides those of the field.
* `placeholders_assemble` : the question marks of a layout are its values and those of the fields that are written.
* `Filter.placeholders_compile` : so it is for a filter. The two numbers are equal just when no field that is written
  has a question mark, and then the values of each leaf stand where its question marks stand.
-/

namespace FilterTree

/-! ## Catalogs of templates -/

namespace Catalog

/-- The further operators of a catalog are those with a template, and mean what it says. -/
def Templated (c : Catalog) (t? : String → Option Template) : Prop :=
  ∀ keyword, c.handler? keyword = (t? keyword).map Template.apply

theorem exists_templated_iff {c : Catalog} :
    (∃ t?, c.Templated t?) ↔ ∀ keyword h, c.handler? keyword = some h → ∃ t : Template, h = t.apply := by
  constructor
  · rintro ⟨t?, hc⟩ keyword h found
    rw [hc keyword] at found
    obtain ⟨t, -, rfl⟩ := Option.map_eq_some_iff.1 found
    exact ⟨t, rfl⟩
  · intro all
    have choice : ∀ keyword, ∃ t : Option Template, c.handler? keyword = t.map Template.apply := by
      intro keyword
      cases found : c.handler? keyword with
      | none => exact ⟨none, rfl⟩
      | some h =>
        obtain ⟨t, rfl⟩ := all keyword h found
        exact ⟨some t, rfl⟩
    exact ⟨fun keyword => (choice keyword).choose, fun keyword => (choice keyword).choose_spec⟩

theorem templated_unrestricted : unrestricted.Templated fun _ => none := fun _ => rfl

theorem Templated.allow {c : Catalog} {t? : String → Option Template} (hc : c.Templated t?) (fields : List String) :
    (c.allow fields).Templated t? := hc

theorem Templated.register {c : Catalog} {t? : String → Option Template} (hc : c.Templated t?)
    (keyword : String) (t : Template) :
    (c.register keyword t.apply).Templated fun x => if x = keyword then some t else t? x := by
  intro x
  rw [handler?_register]
  dsimp only
  by_cases hx : x = keyword
  · rw [if_pos hx, if_pos hx]
    rfl
  · rw [if_neg hx, if_neg hx]
    exact hc x

end Catalog

theorem Template.length_values {arity : Nat} {operator : String} {x : Operand} {vs : List Literal}
    (h : values arity operator x = .ok vs) : vs.length = arity := by
  match arity with
  | 0 =>
    cases h
    rfl
  | 1 =>
    obtain ⟨v, -, rfl⟩ := Json.eq_ok_of_map h
    rfl
  | n + 2 =>
    simp only [values] at h
    split at h
    · split at h
      · rename_i hlen
        cases h
        exact hlen
      · cases h
    · cases h

/-! ## Where the field stands in a test -/

/-- The number of question marks in a text. -/
def placeholders (s : String) : Nat := s.toList.count '?'

@[simp] theorem placeholders_empty : placeholders "" = 0 := rfl

@[simp] theorem placeholders_append (s t : String) :
    placeholders (s ++ t) = placeholders s + placeholders t := by
  rw [placeholders, String.toList_append, List.count_append]
  rfl

theorem placeholders_eq_zero_iff {s : String} : placeholders s = 0 ↔ '?' ∉ s.toList :=
  List.count_eq_zero

theorem placeholders_intercalate (s : String) (ts : List String) :
    placeholders (s.intercalate ts) = (ts.map placeholders).sum + (ts.length - 1) * placeholders s := by
  induction ts with
  | nil => simp
  | cons t ts ih =>
    cases ts with
    | nil => simp
    | cons u ts =>
      rw [String.intercalate_cons_cons, placeholders_append, placeholders_append, ih]
      simp only [List.map_cons, List.sum_cons, List.length_cons, Nat.add_sub_cancel, Nat.add_mul, Nat.one_mul]
      omega

/-! ## Templates -/

def outlineOf (text : String) : List String := (marker.split text.toList).map String.ofList

theorem fill_eq_intercalate (field text : String) : fill field text = field.intercalate (outlineOf text) := by
  rw [← String.toList_inj, fill, outlineOf, String.toList_intercalate, String.toList_ofList, List.map_map]
  simp [Text.Mark.fill, Function.comp_def]

theorem intercalate_outlineOf (text : String) : (String.ofList marker.chars).intercalate (outlineOf text) = text := by
  rw [← String.toList_inj, outlineOf, String.toList_intercalate, String.toList_ofList, List.map_map]
  simpa [Function.comp_def] using marker.intercalate_split text.toList

/-- The mark for the field has no question mark, so none is lost between the marks. -/
theorem sum_placeholders_outlineOf (text : String) :
    ((outlineOf text).map placeholders).sum = placeholders text := by
  have counted := placeholders_intercalate (String.ofList marker.chars) (outlineOf text)
  rw [intercalate_outlineOf, show placeholders (String.ofList marker.chars) = 0 by decide, Nat.mul_zero,
    Nat.add_zero] at counted
  exact counted.symm

/-- A clause that is made of texts with a field between them, and of a value for each question mark in these. -/
structure Clause.HasOutline (k : Clause) (field : String) (ts : List String) : Prop where
  sql : k.sql = field.intercalate ts
  params : k.params.length = (ts.map placeholders).sum

theorem Clause.HasOutline.empty (field : String) : Clause.empty.HasOutline field [""] :=
  ⟨String.intercalate_singleton.symm, rfl⟩

theorem Template.hasOutline_apply {t : Template} {field operator : String} {x : Operand} {k : Clause}
    (h : t.apply field operator x = .ok k) : k.HasOutline field (outlineOf t.text) := by
  unfold apply at h
  split at h
  · rename_i vs hvs
    cases h
    refine ⟨fill_eq_intercalate field t.text, ?_⟩
    rw [length_values hvs, sum_placeholders_outlineOf, arity, placeholders]
  · cases h

/-! ## Operators -/

namespace Operator

def Range.outline (r : Range) (b : Bounds) : List String :=
  match b.low, b.high with
  | some _, some _ => ["( ", " " ++ r.low ++ " ? " ++ r.connective ++ " ", " " ++ r.high ++ " ? )"]
  | some _, none => ["", " " ++ r.low ++ " ?"]
  | none, some _ => ["", " " ++ r.high ++ " ?"]
  | none, none => [""]

def outline (o : Operator) (x : Operand) : List String :=
  match o.range? with
  | some r => match x.bounds o.keyword with
    | .ok b => r.outline b
    | .error _ => [""]
  | none => outlineOf o.template

theorem placeholders_range {o : Operator} {r : Range} (h : o.range? = some r) :
    placeholders r.low = 0 ∧ placeholders r.connective = 0 ∧ placeholders r.high = 0 := by
  cases o <;> cases h <;> decide

theorem Range.hasOutline_compile {r : Range} (field : String) (b : Bounds) (hlow : placeholders r.low = 0)
    (hconn : placeholders r.connective = 0) (hhigh : placeholders r.high = 0) :
    (r.compile field b).HasOutline field (r.outline b) := by
  obtain ⟨low, high⟩ := b
  have space : placeholders " " = 0 := by decide
  have mark : placeholders " ?" = 1 := by decide
  cases low with
  | none =>
    cases high with
    | none => exact .empty field
    | some h =>
      refine ⟨?_, ?_⟩
      · simp [compile, outline, comparison, String.append_assoc]
      · simp [compile, outline, hhigh, space, mark]
  | some l =>
    cases high with
    | none =>
      refine ⟨?_, ?_⟩
      · simp [compile, outline, comparison, String.append_assoc]
      · simp [compile, outline, hlow, space, mark]
    | some h =>
      have opening : placeholders "( " = 0 := by decide
      have marks : placeholders " ? " = 1 ∧ placeholders " ? )" = 1 := by decide
      refine ⟨?_, ?_⟩
      · simp [compile, outline, comparison, String.append_assoc]
      · simp [compile, outline, hlow, hconn, hhigh, space, opening, marks.1, marks.2]

theorem placeholders_template {o : Operator} (h : o.range? = none) : placeholders o.template = 1 := by
  cases o <;> first | rfl | cases h

theorem hasOutline_compile {o : Operator} {field : String} {x : Operand} {k : Clause}
    (h : o.compile field x = .ok k) : k.HasOutline field (o.outline x) := by
  unfold compile at h
  unfold outline
  cases hr : o.range? with
  | some r =>
    rw [hr] at h
    obtain ⟨b, hb, rfl⟩ := Json.eq_ok_of_map h
    obtain ⟨hlow, hconn, hhigh⟩ := placeholders_range hr
    simp only [hb]
    exact r.hasOutline_compile field b hlow hconn hhigh
  | none =>
    rw [hr] at h
    obtain ⟨v, -, rfl⟩ := Json.eq_ok_of_map h
    refine ⟨fill_eq_intercalate field o.template, ?_⟩
    rw [sum_placeholders_outlineOf, placeholders_template hr]
    rfl

end Operator

/-! ## Leaves -/

def Condition.outline (t? : String → Option Template) (x : Condition) : List String :=
  if x.operator.isEmpty then [""]
  else match Operator.ofKeyword? x.operator with
    | some o => o.outline x.operand
    | none => match t? x.operator with
      | some t => outlineOf t.text
      | none => [""]

namespace Leaf

def outline (t? : String → Option Template) (l : Leaf) : List String :=
  if l.includes.isEmpty then l.condition.outline t?
  else ["", " IN(" ++ String.intercalate ", " (l.includes.map fun _ => "?") ++ ")"]

/-- How many times the field is written. -/
def written (t? : String → Option Template) (l : Leaf) : Nat := (l.outline t?).length - 1

end Leaf

theorem hasOutline_memberClause (field : String) (vs : List Literal) :
    (memberClause field vs).HasOutline field
      ["", " IN(" ++ String.intercalate ", " (vs.map fun _ => "?") ++ ")"] := by
  have brackets : placeholders " IN(" = 0 ∧ placeholders ")" = 0 ∧ placeholders ", " = 0 := by decide
  refine ⟨?_, ?_⟩
  · simp [memberClause, String.append_assoc]
  · have mark : placeholders "?" = 1 := by decide
    simp [memberClause, brackets.1, brackets.2.1, brackets.2.2, placeholders_intercalate, mark]

theorem Condition.hasOutline_compile {c : Catalog} {t? : String → Option Template} (hc : c.Templated t?)
    {x : Condition} {field : String} {k : Clause} (h : x.compile field c = .ok k) :
    k.HasOutline field (x.outline t?) := by
  unfold compile at h
  unfold outline
  by_cases vacant : x.operator.isEmpty = true
  · rw [if_pos vacant] at h ⊢
    cases h
    exact .empty field
  · rw [if_neg vacant] at h ⊢
    cases ho : Operator.ofKeyword? x.operator with
    | some o =>
      simp only [ho] at h ⊢
      exact Operator.hasOutline_compile h
    | none =>
      simp only [ho, hc x.operator] at h ⊢
      cases ht : t? x.operator with
      | none =>
        simp only [ht] at h
        cases h
      | some t =>
        simp only [ht] at h ⊢
        exact t.hasOutline_apply h

theorem Leaf.hasOutline_compile {c : Catalog} {t? : String → Option Template} (hc : c.Templated t?)
    {l : Leaf} {k : Clause} (h : l.compile c = .ok k) : k.HasOutline l.field (l.outline t?) := by
  unfold compile at h
  unfold outline
  split at h
  · rename_i degenerate
    rw [isDegenerate, Bool.and_eq_true, Bool.and_eq_true] at degenerate
    cases h
    rw [if_pos degenerate.2, Condition.outline, if_pos degenerate.1.2]
    exact .empty l.field
  · split at h
    · cases h
    · split at h
      · rename_i filled
        cases h
        rw [if_neg (by simpa using filled)]
        exact hasOutline_memberClause l.field l.includes
      · rename_i bare
        rw [if_pos (by simpa using bare)]
        exact Condition.hasOutline_compile hc h

/-- A leaf has as many question marks as values, and those of its field each time it is written. -/
theorem Leaf.placeholders_sql {c : Catalog} {t? : String → Option Template} (hc : c.Templated t?)
    {l : Leaf} {k : Clause} (h : l.compile c = .ok k) :
    placeholders k.sql = k.params.length + l.written t? * placeholders l.field := by
  obtain ⟨hsql, hparams⟩ := hasOutline_compile hc h
  rw [hsql, placeholders_intercalate, ← hparams, written]

/-! ## Placeholders of a filter -/

/-- The question marks of the fields, each as many times as the field is written. -/
def fieldPlaceholders (t? : String → Option Template) (ls : List Leaf) : Nat :=
  (ls.map fun l => l.written t? * placeholders l.field).sum

section

variable {c : Catalog} {t? : String → Option Template}

theorem placeholders_text (x : Punctuation) : placeholders x.text = 0 := by
  cases x with
  | opening => decide
  | closing => decide
  | glue g => cases g <;> decide

theorem fieldPlaceholders_eq_zero_iff {ls : List Leaf} :
    fieldPlaceholders t? ls = 0 ↔ ∀ l ∈ ls, 0 < l.written t? → '?' ∉ l.field.toList := by
  rw [fieldPlaceholders, List.sum_eq_zero_iff, List.forall_mem_map]
  apply forall₂_congr
  intro l _
  rw [Nat.mul_eq_zero, placeholders_eq_zero_iff, Nat.pos_iff_ne_zero, or_iff_not_imp_left]

theorem placeholders_assemble (hc : c.Templated t?) {ps : List Piece} {k : Clause}
    (h : assemble c ps = .ok k) :
    placeholders k.sql = k.params.length + fieldPlaceholders t? (leavesOf ps) := by
  induction ps generalizing k with
  | nil =>
    cases h
    rfl
  | cons p ps ih =>
    rw [assemble_cons] at h
    obtain ⟨a, b, ha, hb, rfl⟩ := chain_eq_ok h
    have rest := ih hb
    rw [Clause.sql_append, Clause.params_append, placeholders_append, List.length_append, rest]
    cases p with
    | fixed x =>
      cases ha
      rw [placeholders_text, leavesOf_fixed_cons, List.length_nil]
      omega
    | leaf l =>
      have first := Leaf.placeholders_sql hc ha
      have split : fieldPlaceholders t? (leavesOf (.leaf l :: ps)) =
          l.written t? * placeholders l.field + fieldPlaceholders t? (leavesOf ps) := rfl
      rw [first, split]
      omega

/-- Where one leaf stands in a layout, the clause is what stands before it, its own, and what stands behind it. -/
theorem assemble_around {left right : List Piece} {l : Leaf} {k : Clause}
    (h : assemble c (left ++ .leaf l :: right) = .ok k) :
    ∃ a m b, assemble c left = .ok a ∧ l.compile c = .ok m ∧ assemble c right = .ok b ∧ k = a ++ (m ++ b) := by
  rw [assemble_append, assemble_cons] at h
  obtain ⟨a, mb, ha, hmb, rfl⟩ := chain_eq_ok h
  obtain ⟨m, b, hm, hb, rfl⟩ := chain_eq_ok hmb
  exact ⟨a, m, b, ha, hm, hb, rfl⟩

theorem exists_around {ps : List Piece} {before after : List Leaf} {l : Leaf}
    (h : leavesOf ps = before ++ l :: after) :
    ∃ left right, ps = left ++ .leaf l :: right ∧ leavesOf left = before ∧ leavesOf right = after := by
  induction ps generalizing before with
  | nil => simp at h
  | cons p ps ih =>
    cases p with
    | fixed x =>
      obtain ⟨left, right, rfl, hl, hr⟩ := ih h
      exact ⟨.fixed x :: left, right, rfl, hl, hr⟩
    | leaf m =>
      rw [leavesOf_leaf_cons] at h
      cases before with
      | nil =>
        obtain ⟨rfl, rfl⟩ := List.cons.inj h
        exact ⟨[], ps, rfl, rfl, rfl⟩
      | cons b before =>
        obtain ⟨rfl, hrest⟩ := List.cons.inj h
        obtain ⟨left, right, rfl, hl, hr⟩ := ih hrest
        exact ⟨.leaf m :: left, right, rfl, by rw [leavesOf_leaf_cons, hl], hr⟩

end

namespace Filter

/-- A leaf's clause is its outline with the field in between. The text of a filter's clause has a question mark for each
value, and those of the fields that are written. The two numbers are equal just when no field that is written has a
question mark. Then to the left of what a leaf says there are as many question marks as there are values in front of its
own. -/
theorem placeholders_compile {c : Catalog} {t? : String → Option Template} (hc : c.Templated t?) {f : Filter}
    {k : Clause} (h : f.compile c = .ok k) :
    (∀ l ∈ f.leaves, ∃ m, l.compile c = .ok m ∧ m.sql = l.field.intercalate (l.outline t?)) ∧
    placeholders k.sql = k.params.length + (f.leaves.map fun l => l.written t? * placeholders l.field).sum ∧
    (placeholders k.sql = k.params.length ↔ ∀ l ∈ f.leaves, 0 < l.written t? → '?' ∉ l.field.toList) ∧
    ((∀ l ∈ f.leaves, 0 < l.written t? → '?' ∉ l.field.toList) →
      ∀ before l after, f.leaves = before ++ l :: after →
        ∃ left right a m b, f.pieces = left ++ .leaf l :: right ∧ leavesOf left = before ∧
          assemble c left = .ok a ∧ l.compile c = .ok m ∧ assemble c right = .ok b ∧
          k.sql = a.sql ++ (m.sql ++ b.sql) ∧ k.params = a.params ++ (m.params ++ b.params) ∧
          placeholders a.sql = a.params.length) := by
  have laid : assemble c f.pieces = .ok k := (compile_eq_assemble c f).symm.trans h
  have total := placeholders_assemble hc laid
  rw [leavesOf_pieces] at total
  refine ⟨?_, total, ?_, ?_⟩
  · intro l hl
    obtain ⟨before, after, hf⟩ := List.append_of_mem hl
    obtain ⟨left, right, hp, -, -⟩ := exists_around ((leavesOf_pieces f).trans hf)
    rw [hp] at laid
    obtain ⟨a, m, b, -, hm, -, -⟩ := assemble_around laid
    exact ⟨m, hm, (Leaf.hasOutline_compile hc hm).sql⟩
  · rw [total, ← fieldPlaceholders_eq_zero_iff]
    omega
  · intro plain before l after hf
    obtain ⟨left, right, hp, hbefore, -⟩ := exists_around ((leavesOf_pieces f).trans hf)
    rw [hp] at laid
    obtain ⟨a, m, b, ha, hm, hb, rfl⟩ := assemble_around laid
    refine ⟨left, right, a, m, b, hp, hbefore, ha, hm, hb, rfl, rfl, ?_⟩
    have plain_before : fieldPlaceholders t? before = 0 :=
      fieldPlaceholders_eq_zero_iff.2 fun d hd => plain d (hf ▸ List.mem_append_left _ hd)
    rw [placeholders_assemble hc ha, hbefore, plain_before, Nat.add_zero]

theorem placeholders_compile_range :
    (any [test "a" (.range "between" (some (.int 1)) (some (.int 2))), member "b?" [.null]]).compile
        (Catalog.unrestricted.register "regex" (Template.apply ⟨"\x7bfield\x7d REGEXP ?", by decide⟩)) =
      .ok ⟨"( ( a > ? AND a < ? ) OR b? IN(?) )", [.int 1, .int 2, .null]⟩ ∧
    placeholders "( ( a > ? AND a < ? ) OR b? IN(?) )" = 3 + (2 * 0 + 1 * 1) := by
  have compiled : (any [test "a" (.range "between" (some (.int 1)) (some (.int 2))), member "b?" [.null]]).compile
      (Catalog.unrestricted.register "regex" (Template.apply ⟨"\x7bfield\x7d REGEXP ?", by decide⟩)) =
    .ok ⟨"( ( a > ? AND a < ? ) OR b? IN(?) )", [.int 1, .int 2, .null]⟩ := by cbv
  have templated := Catalog.templated_unrestricted.register "regex" ⟨"\x7bfield\x7d REGEXP ?", by decide⟩
  have marks := (placeholders_compile templated compiled).2.1
  refine ⟨compiled, marks.trans ?_⟩
  cbv

end Filter

end FilterTree

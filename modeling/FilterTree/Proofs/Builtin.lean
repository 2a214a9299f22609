import FilterTree.Proofs.Acceptance
import FilterTree.Proofs.Lookups
import FilterTree.Proofs.Outline
import Mathlib

/-!
# Built-in operators and their templates

* `Operator.published` : the template of a built-in operator, as a further operator could have it.
* `Operand.HasOpenEnd` : a list of two values with a null among them.
* `Operator.outlineOf_range` : the template of a range is the text that the operator writes for two ends.
* `Operator.exists_halves` : it is made of a comparison for either end.
* `Operator.compile_eq_apply_iff` : an operator means what its template says, but for ranges with an open end.
* `Operator.compile_template` : all of this, and what is written where an end is open.
-/

namespace FilterTree

/-- A list of two values with a null among them. -/
def Operand.HasOpenEnd (x : Operand) : Prop := ∃ low high, x = .many [low, high] ∧ (low = .null ∨ high = .null)

theorem Literal.present_eq_some {v : Literal} (h : v ≠ .null) : v.present = some v := by
  cases v with
  | null => exact absurd rfl h
  | _ => rfl

namespace Operator

variable {o : Operator} {r : Range} {field : String} {x : Operand}

theorem placeholders_eq_arity (o : Operator) : placeholders o.template = o.arity := by
  cases o <;> rfl

theorem not_blank_template (o : Operator) : ¬Text.AllBlank o.template := by
  intro blank
  have none_taken : placeholders o.template = 0 := List.count_eq_zero.2 fun mark => absurd (blank _ mark) (by decide)
  rw [placeholders_eq_arity, arity] at none_taken
  split at none_taken <;> cases none_taken

/-- The template of a built-in operator. -/
def published (o : Operator) : Template := ⟨o.template, o.not_blank_template⟩

theorem ofText_template (o : Operator) : Template.ofText o.template = .ok o.published :=
  dif_neg o.published.not_blank

theorem arity_published (o : Operator) : o.published.arity = o.arity := o.placeholders_eq_arity

theorem compile_test {c : Catalog} (allowed : c.isAllowed field = true) :
    (Filter.test field ⟨o.keyword, x⟩).compile c = o.compile field x := by
  have given : o.keyword.isEmpty = false := by cases o <;> decide
  rw [Filter.test, Filter.compile, Leaf.compile, Leaf.isDegenerate, given, allowed, Condition.compile, given, ofKeyword?_keyword]
  simp

/-! ## Ranges -/

theorem outlineOf_range (h : o.range? = some r) (low high : Literal) :
    outlineOf o.template = r.outline ⟨some low, some high⟩ := by
  cases o <;> cases h <;> cbv

theorem range_compile_both (h : o.range? = some r) (field : String) (low high : Literal) :
    r.compile field ⟨some low, some high⟩ = ⟨fill field o.template, [low, high]⟩ := by
  obtain ⟨low_plain, connective_plain, high_plain⟩ := placeholders_range h
  refine Clause.ext ?_ rfl
  rw [fill_eq_intercalate, outlineOf_range h low high]
  exact (r.hasOutline_compile field ⟨some low, some high⟩ low_plain connective_plain high_plain).sql

/-- The template of a range is made of a comparison for either end. -/
theorem exists_halves (h : o.range? = some r) : ∃ low high : String,
    o.template = "( " ++ low ++ " " ++ r.connective ++ " " ++ high ++ " )" ∧ placeholders low = 1 ∧ placeholders high = 1 ∧
    ∀ field, fill field low = comparison field r.low ∧ fill field high = comparison field r.high := by
  have filled : ∀ field sign, outlineOf (comparison (String.ofList marker.chars) sign) = ["", " " ++ sign ++ " ?"] →
      fill field (comparison (String.ofList marker.chars) sign) = comparison field sign := by
    intro field sign outline
    rw [fill_eq_intercalate, outline]
    simp [comparison, String.append_assoc]
  refine ⟨comparison (String.ofList marker.chars) r.low, comparison (String.ofList marker.chars) r.high,
    ?_, ?_, ?_, fun field => ⟨filled field _ ?_, filled field _ ?_⟩⟩ <;>
  cases o <;> cases h <;> cbv

theorem params_range (r : Range) (field : String) (b : Bounds) :
    (r.compile field b).params = b.low.toList ++ b.high.toList := by
  obtain ⟨low, high⟩ := b
  cases low <;> cases high <;> rfl

theorem compile_pair (h : o.range? = some r) (field : String) (low high : Literal) :
    o.compile field (.many [low, high]) = .ok (r.compile field ⟨low.present, high.present⟩) := by
  rw [compile, h]
  rfl

theorem apply_pair (h : o.range? = some r) (field operator : String) (low high : Literal) :
    o.published.apply field operator (.many [low, high]) = .ok ⟨fill field o.template, [low, high]⟩ := by
  rw [Template.apply, arity_published, arity_of_range h]
  rfl

/-! ## Two ways to one clause -/

theorem compile_eq_apply_of_misfit (misfit : ¬x.Fits o.arity) :
    o.compile field x = o.published.apply field o.keyword x := by
  rw [compile_eq_error_iff.2 ⟨misfit, rfl⟩, Template.apply_eq_error_iff.2 ⟨?_, rfl⟩, arity_published]
  rwa [arity_published]

theorem compile_eq_apply_of_closed (closed : ¬(o.isRange = true ∧ x.HasOpenEnd)) :
    o.compile field x = o.published.apply field o.keyword x := by
  by_cases fits : x.Fits o.arity
  · rw [isRange_eq] at closed
    cases range : o.range? with
    | none =>
      rw [arity_of_single range] at fits
      obtain ⟨v, rfl⟩ := fits
      rw [compile, range, Template.apply, arity_published, arity_of_single range]
      rfl
    | some r =>
      rw [arity_of_range range] at fits
      obtain ⟨low, high, rfl⟩ := Operand.fits_two_iff.1 fits
      have given : low ≠ .null ∧ high ≠ .null :=
        not_or.1 fun opened => closed ⟨by rw [range]; rfl, low, high, rfl, opened⟩
      rw [compile_pair range, apply_pair range, Literal.present_eq_some given.1, Literal.present_eq_some given.2,
        range_compile_both range]
  · exact compile_eq_apply_of_misfit fits

/-- An operator means what its template says, but for ranges with an open end: these bind a value less. -/
theorem compile_eq_apply_iff : o.compile field x = o.published.apply field o.keyword x ↔
    ¬(o.isRange = true ∧ x.HasOpenEnd) := by
  refine ⟨?_, compile_eq_apply_of_closed⟩
  rintro same ⟨range, low, high, rfl, opened⟩
  rw [isRange_eq, Option.isSome_iff_exists] at range
  obtain ⟨r, range⟩ := range
  rw [compile_pair range, apply_pair range] at same
  have values : low.present.toList ++ high.present.toList = [low, high] := by
    rw [← params_range r field ⟨low.present, high.present⟩, Except.ok.inj same]
  have count := congrArg List.length values
  rcases opened with rfl | rfl
  · cases high <;> simp [Literal.present, Literal.isNull] at count
  · cases low <;> simp [Literal.present, Literal.isNull] at count

/-- A test with the keyword of a built-in operator and an allowed field means what the template of the operator says as that of
a further operator would, errors included. The only exceptions are ranges with an open end. The template of a range is made of
two halves, and of these the operator writes those whose end is given. -/
theorem compile_template (o : Operator) : ∃ t, Template.ofText o.template = .ok t ∧
    (∀ (c : Catalog) (field : String) (x : Operand), c.isAllowed field = true →
      (Filter.test field ⟨o.keyword, x⟩).compile c = o.compile field x) ∧
    (∀ field x, o.compile field x = t.apply field o.keyword x ↔ ¬(o.isRange = true ∧ x.HasOpenEnd)) ∧
    (o.isRange = true → ∃ low connective high : String,
      o.template = "( " ++ low ++ " " ++ connective ++ " " ++ high ++ " )" ∧ placeholders low = 1 ∧ placeholders high = 1 ∧
      ∀ field v, o.compile field (.many [.null, .null]) = .ok .empty ∧
        (v ≠ .null → o.compile field (.many [v, .null]) = .ok ⟨fill field low, [v]⟩ ∧
          o.compile field (.many [.null, v]) = .ok ⟨fill field high, [v]⟩)) := by
  refine ⟨o.published, ofText_template o, fun c field x => compile_test, fun field x => compile_eq_apply_iff, ?_⟩
  intro range
  rw [isRange_eq, Option.isSome_iff_exists] at range
  obtain ⟨r, range⟩ := range
  obtain ⟨low, high, template, one_low, one_high, filled⟩ := exists_halves range
  refine ⟨low, r.connective, high, template, one_low, one_high, fun field v => ⟨?_, fun given => ⟨?_, ?_⟩⟩⟩
  · rw [compile_pair range]
    rfl
  · rw [compile_pair range, Literal.present_eq_some given, (filled field).1]
    rfl
  · rw [compile_pair range, Literal.present_eq_some given, (filled field).2]
    rfl

/-- A range over a field that looks like the mark for the field. With both ends it is the template, with one end a half of it. -/
theorem compile_template_notBetween :
    let field := "\x7bfield\x7d?"
    (Filter.test field ⟨"notBetween", .many [.int 1, .int 2]⟩).compile .unrestricted =
      .ok ⟨"( \x7bfield\x7d? < ? OR \x7bfield\x7d? > ? )", [.int 1, .int 2]⟩ ∧
    ∃ low connective high : String, notBetween.template = "( " ++ low ++ " " ++ connective ++ " " ++ high ++ " )" ∧
      fill field low = "\x7bfield\x7d? < ?" ∧ fill field high = "\x7bfield\x7d? > ?" := by
  intro field
  obtain ⟨t, made, tests, agree, halves⟩ := compile_template .notBetween
  have text : t.text = notBetween.template := by
    cases made
    rfl
  obtain ⟨low, connective, high, template, -, -, half⟩ := halves rfl
  obtain ⟨-, given⟩ := half field (.int 1)
  obtain ⟨low_half, high_half⟩ := given (by decide)
  refine ⟨?_, low, connective, high, template, ?_, ?_⟩
  · have closed : ¬(notBetween.isRange = true ∧ (Operand.many [.int 1, .int 2]).HasOpenEnd) := by
      rintro ⟨-, _, _, eq, opened⟩
      cases eq
      rcases opened with opened | opened <;> cases opened
    refine (tests .unrestricted field (.many [.int 1, .int 2]) rfl).trans (((agree field _).2 closed).trans ?_)
    obtain ⟨text, filled⟩ := t
    subst text
    cbv
  · have written : notBetween.compile field (.many [.int 1, .null]) = .ok ⟨"\x7bfield\x7d? < ?", [.int 1]⟩ := by cbv
    rw [low_half, Except.ok.injEq, Clause.mk.injEq] at written
    exact written.1
  · have written : notBetween.compile field (.many [.null, .int 1]) = .ok ⟨"\x7bfield\x7d? > ?", [.int 1]⟩ := by cbv
    rw [high_half, Except.ok.injEq, Clause.mk.injEq] at written
    exact written.1

end Operator

end FilterTree

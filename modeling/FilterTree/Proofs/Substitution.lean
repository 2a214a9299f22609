import FilterTree.Proofs.Builtin
import Mathlib

/-!
# The field in place of its marks

* `Text.Mark.BeginsOnce` : a mark whose first character does not come again in it, so that two of its places never overlap.
* `Text.Mark.not_infix_of_mem_split` : no mark is left in the pieces of a text.
* `Text.Mark.split_intercalate` : pieces without mark are the pieces of the text that they make.
* `Template.Cut` : texts without mark for the field that are a given text with the mark between them.
* `Template.cut_iff` : every text has one cut, its outline.
* `Operator.exists_part` : a built-in operator writes a part of its template, and but for ranges with an open end all of it.
* `Template.exists_unique_cut` : what is written for a template or a built-in operator is the cut with the field between its
  texts. The field itself is not searched for marks.
-/

namespace FilterTree

/-! ## Pieces of a text -/

namespace Text

theorem behind?_eq_none_iff {ms cs : List Char} : behind? ms cs = none ↔ ¬ms <+: cs := by
  simp only [Option.eq_none_iff_forall_ne_some, ne_eq, behind?_eq_some_iff, List.IsPrefix, not_exists, @eq_comm _ cs]

namespace Mark

variable {m : Mark}

/-- The first character of the mark does not come again in it. -/
def BeginsOnce (m : Mark) : Prop := m.first ∉ m.more

theorem split_cons_of_absent {c : Char} {cs : List Char} (h : ¬m.chars <+: c :: cs) :
    m.split (c :: cs) = (m.split cs).modifyHead (c :: ·) := by
  rw [split]
  split
  · rename_i found
    rw [behind?_eq_none_iff.2 h] at found
    cases found
  · rfl

theorem prefix_of_split_eq_cons {p cs : List Char} {ps : List (List Char)} (h : m.split cs = p :: ps) : p <+: cs := by
  have whole := m.intercalate_split cs
  rw [h] at whole
  cases ps with
  | nil => exact ⟨[], by simpa using whole⟩
  | cons q qs => exact ⟨_, by simpa [intercalate_cons (List.cons_ne_nil q qs)] using whole⟩

theorem not_infix_of_mem_split {p cs : List Char} (h : p ∈ m.split cs) : ¬m.chars <:+: p := by
  have empty : ¬m.chars <:+: [] := fun inside => List.cons_ne_nil m.first m.more (List.infix_nil.1 inside)
  fun_induction split m cs generalizing p with
  | case1 =>
    rw [List.mem_singleton.1 h]
    exact empty
  | case2 c cs rest found ih =>
    rcases List.mem_cons.1 h with rfl | later
    · exact empty
    · exact ih later
  | case3 c cs missing ih =>
    obtain ⟨q, qs, pieces⟩ := List.exists_cons_of_ne_nil (m.split_ne_nil cs)
    rw [pieces] at ih h
    rcases List.mem_cons.1 h with rfl | later
    · -- The piece has grown by a character, with which no mark begins: the piece begins the text.
      intro inside
      rcases List.infix_cons_iff.1 inside with front | behind
      · have begins : c :: q <+: c :: cs := List.cons_prefix_cons.2 ⟨rfl, prefix_of_split_eq_cons pieces⟩
        exact behind?_eq_none_iff.1 missing (front.trans begins)
      · exact ih List.mem_cons_self behind
    · exact ih (List.mem_cons_of_mem q later)

theorem split_of_not_infix {p : List Char} (free : ¬m.chars <:+: p) : m.split p = [p] := by
  induction p with
  | nil => rw [split]
  | cons c p ih =>
    have rest : ¬m.chars <:+: p := fun inside => free (List.infix_cons inside)
    rw [split_cons_of_absent fun front => free front.isInfix, ih rest]
    rfl

/-- Where a text without mark stands in front of a mark, no mark begins in the text: it would end within the one behind, whose
first character it has no second time. -/
theorem not_prefix_append {c : Char} {p cs : List Char} (once : m.BeginsOnce) (free : ¬m.chars <:+: c :: p) :
    ¬m.chars <+: c :: p ++ (m.chars ++ cs) := by
  rintro ⟨rest, eq⟩
  rcases List.append_eq_append_iff.1 eq with ⟨q, inner, -⟩ | ⟨q, across, next⟩
  · exact free ⟨[], q, by rw [List.nil_append, inner]⟩
  · cases q with
    | nil => exact free ⟨[], [], by rw [across]; simp⟩
    | cons d q =>
      have first : m.first = d := (List.cons.inj next).1
      have more : m.more = p ++ d :: q := (List.cons.inj across).2
      exact once (by rw [more, first]; simp)

theorem split_append {p : List Char} (once : m.BeginsOnce) (free : ¬m.chars <:+: p) (cs : List Char) :
    m.split (p ++ (m.chars ++ cs)) = p :: m.split cs := by
  induction p with
  | nil => exact m.split_chars_append cs
  | cons c p ih =>
    have rest : ¬m.chars <:+: p := fun inside => free (List.infix_cons inside)
    have apart : ¬m.chars <+: c :: (p ++ (m.chars ++ cs)) := not_prefix_append once free
    rw [List.cons_append, split_cons_of_absent apart, ih rest]
    rfl

theorem split_intercalate {ps : List (List Char)} (once : m.BeginsOnce) (nonempty : ps ≠ [])
    (free : ∀ p ∈ ps, ¬m.chars <:+: p) : m.split (m.chars.intercalate ps) = ps := by
  induction ps with
  | nil => exact absurd rfl nonempty
  | cons p ps ih =>
    obtain ⟨first, others⟩ := List.forall_mem_cons.1 free
    cases ps with
    | nil => rw [List.intercalate_singleton, split_of_not_infix first]
    | cons q qs =>
      have more : q :: qs ≠ [] := List.cons_ne_nil q qs
      rw [intercalate_cons more, List.append_assoc, split_append once first, ih more others]

end Mark

end Text

/-! ## Cuts of a template -/

theorem marker_beginsOnce : marker.BeginsOnce := by
  unfold Text.Mark.BeginsOnce
  decide

namespace Template

/-- Texts without mark for the field that are a given text with the mark between them. -/
structure Cut (text : String) (ts : List String) : Prop where
  nonempty : ts ≠ []
  joined : (String.ofList marker.chars).intercalate ts = text
  free : ∀ t ∈ ts, ¬marker.chars <:+: t.toList

theorem cut_outlineOf (text : String) : Cut text (outlineOf text) := by
  refine ⟨?_, intercalate_outlineOf text, ?_⟩
  · rw [outlineOf, ne_eq, List.map_eq_nil_iff]
    exact marker.split_ne_nil text.toList
  · intro t ht
    obtain ⟨p, hp, rfl⟩ := List.mem_map.1 ht
    rw [String.toList_ofList]
    exact Text.Mark.not_infix_of_mem_split hp

theorem cut_iff {text : String} {ts : List String} : Cut text ts ↔ ts = outlineOf text := by
  constructor
  · rintro ⟨nonempty, rfl, free⟩
    have pieces : marker.split (marker.chars.intercalate (ts.map String.toList)) = ts.map String.toList := by
      refine Text.Mark.split_intercalate marker_beginsOnce (by simpa using nonempty) ?_
      exact List.forall_mem_map.2 free
    rw [outlineOf, String.toList_intercalate, String.toList_ofList, pieces, List.map_map]
    simp [Function.comp_def]
  · rintro rfl
    exact cut_outlineOf text

end Template

/-! ## Parts of the template of an operator -/

theorem Clause.hasOutline_fill {text : String} {vs : List Literal} (field : String) (count : vs.length = placeholders text) :
    (⟨fill field text, vs⟩ : Clause).HasOutline field (outlineOf text) :=
  ⟨fill_eq_intercalate field text, count.trans (sum_placeholders_outlineOf text).symm⟩

theorem outlineOf_empty : outlineOf "" = [""] := by
  have cut : Template.Cut "" [""] := ⟨List.cons_ne_nil _ _, rfl, by decide⟩
  exact (Template.cut_iff.1 cut).symm

namespace Operator

variable {o : Operator} {x : Operand}

/-- What an operator writes for a closed operand is its template with the field for the marks. -/
theorem hasOutline_of_closed (closed : ¬(o.isRange = true ∧ x.HasOpenEnd)) {field : String} {k : Clause}
    (written : o.compile field x = .ok k) : k.HasOutline field (outlineOf o.template) := by
  rw [compile_eq_apply_of_closed closed] at written
  exact Template.hasOutline_apply written

/-- What a range writes for an open operand is a part of its template with the field for the marks: the half whose end is given,
if any is. -/
theorem exists_part_of_open (isRange : o.isRange = true) (opened : x.HasOpenEnd) :
    ∃ part : String, part.toList <:+: o.template.toList ∧
      ∀ field k, o.compile field x = .ok k → k.HasOutline field (outlineOf part) := by
  rw [isRange_eq, Option.isSome_iff_exists] at isRange
  obtain ⟨r, range⟩ := isRange
  obtain ⟨low, high, rfl, missing⟩ := opened
  obtain ⟨lower, upper, template, one_lower, one_upper, filled⟩ := exists_halves range
  have lower_within : lower.toList <:+: o.template.toList :=
    ⟨"( ".toList, (" " ++ r.connective ++ " " ++ upper ++ " )").toList, by simp [template]⟩
  have upper_within : upper.toList <:+: o.template.toList :=
    ⟨("( " ++ lower ++ " " ++ r.connective ++ " ").toList, " )".toList, by simp [template]⟩
  by_cases noLow : low = .null
  · by_cases noHigh : high = .null
    · refine ⟨"", List.nil_infix, fun field k written => ?_⟩
      rw [compile_pair range, noLow, noHigh] at written
      cases written
      rw [outlineOf_empty]
      exact .empty field
    · refine ⟨upper, upper_within, fun field k written => ?_⟩
      rw [compile_pair range, noLow, Literal.present_eq_some noHigh] at written
      cases written
      show Clause.HasOutline ⟨comparison field r.high, [high]⟩ field _
      rw [← (filled field).2]
      exact Clause.hasOutline_fill field one_upper.symm
  · have noHigh : high = .null := missing.resolve_left noLow
    refine ⟨lower, lower_within, fun field k written => ?_⟩
    rw [compile_pair range, noHigh, Literal.present_eq_some noLow] at written
    cases written
    show Clause.HasOutline ⟨comparison field r.low, [low]⟩ field _
    rw [← (filled field).1]
    exact Clause.hasOutline_fill field one_lower.symm

end Operator

/-! ## What is written -/

namespace Template

theorem text_of_ofText {text : String} {t : Template} (made : ofText text = .ok t) : t.text = text := by
  unfold ofText at made
  split at made
  · cases made
  · cases made
    rfl

/-- A template that is accepted has one cut: there is one way to write it as texts without mark for the field, with the mark
between them. Its clauses are the field between these texts, so that a mark in the field, or one that the field makes with the
text beside it, stays. Its arity counts the question marks of the texts, whatever the field. So it is with the templates of the
built-in operators. A range with an open end has a part of its template in place of the whole. -/
theorem exists_unique_cut :
    (∀ text t, ofText text = .ok t → ∃ ts, (∀ us, Cut text us ↔ us = ts) ∧ t.arity = (ts.map placeholders).sum ∧
      ∀ field operator x k, t.apply field operator x = .ok k →
        k.sql = field.intercalate ts ∧ k.params.length = t.arity) ∧
    ∀ o : Operator, ∃ ts, (∀ us, Cut o.template us ↔ us = ts) ∧ o.arity = (ts.map placeholders).sum ∧
      (∀ field x k, ¬(o.isRange = true ∧ x.HasOpenEnd) → o.compile field x = .ok k →
        k.sql = field.intercalate ts ∧ k.params.length = o.arity) ∧
      ∀ x, o.isRange = true → x.HasOpenEnd →
        ∃ part us, part.toList <:+: o.template.toList ∧ (∀ vs, Cut part vs ↔ vs = us) ∧
          ∀ field k, o.compile field x = .ok k →
            k.sql = field.intercalate us ∧ k.params.length = (us.map placeholders).sum := by
  refine ⟨?_, fun o => ?_⟩
  · intro text t made
    obtain rfl := text_of_ofText made
    have counted : t.arity = ((outlineOf t.text).map placeholders).sum := (sum_placeholders_outlineOf t.text).symm
    refine ⟨outlineOf t.text, fun us => cut_iff, counted, fun field operator x k written => ?_⟩
    obtain ⟨sql, params⟩ := hasOutline_apply written
    exact ⟨sql, params.trans counted.symm⟩
  · have counted : o.arity = ((outlineOf o.template).map placeholders).sum := by
      rw [sum_placeholders_outlineOf, o.placeholders_eq_arity]
    refine ⟨outlineOf o.template, fun us => cut_iff, counted, ?_, ?_⟩
    · intro field x k closed written
      obtain ⟨sql, params⟩ := Operator.hasOutline_of_closed closed written
      exact ⟨sql, params.trans counted.symm⟩
    · intro x isRange opened
      obtain ⟨part, within, outline⟩ := Operator.exists_part_of_open isRange opened
      refine ⟨part, outlineOf part, within, fun vs => cut_iff, fun field k written => ?_⟩
      obtain ⟨sql, params⟩ := outline field k written
      exact ⟨sql, params⟩

/-- A template whose texts make a mark where the field between them is empty, with that field, and ranges over the mark itself. -/
theorem exists_unique_cut_adjacent :
    let text := "\x7bfi\x7bfield\x7deld\x7d = ?"
    let field := "\x7bfield\x7d"
    (∃ t, ofText text = .ok t ∧ (∀ us, Cut text us ↔ us = ["\x7bfi", "eld\x7d = ?"]) ∧ t.arity = 1 ∧
      ∃ k, t.apply "" "is" (.one (.int 1)) = .ok k ∧ k.sql = field ++ " = ?") ∧
    (∃ k, Operator.between.compile field (.many [.int 1, .int 2]) = .ok k ∧
      k.sql = "( " ++ field ++ " > ? AND " ++ field ++ " < ? )") ∧
    ∃ k part us, Operator.between.compile field (.many [.int 1, .null]) = .ok k ∧
      part.toList <:+: Operator.between.template.toList ∧ (∀ vs, Cut part vs ↔ vs = us) ∧
      k.sql = field.intercalate us ∧ k.params.length = (us.map placeholders).sum := by
  intro text field
  have filled : ¬Text.AllBlank text := by decide
  have made : ofText text = .ok ⟨text, filled⟩ := dif_neg filled
  obtain ⟨templates, operators⟩ := exists_unique_cut
  obtain ⟨ts, unique, arity, sql⟩ := templates text _ made
  have cut : ["\x7bfi", "eld\x7d = ?"] = ts := (unique _).1 ⟨List.cons_ne_nil _ _, by decide, by decide⟩
  subst cut
  have applied : (⟨text, filled⟩ : Template).apply "" "is" (.one (.int 1)) = .ok ⟨fill "" text, [.int 1]⟩ := by cbv
  obtain ⟨ts, whole, -, closed, half⟩ := operators .between
  have cut : ["( ", " > ? AND ", " < ? )"] = ts := (whole _).1 ⟨List.cons_ne_nil _ _, by decide, by decide⟩
  subst cut
  have opened : (Operand.many [.int 1, .null]).HasOpenEnd := ⟨.int 1, .null, rfl, .inr rfl⟩
  have both : ¬(Operator.between.isRange = true ∧ (Operand.many [.int 1, .int 2]).HasOpenEnd) := by
    rintro ⟨-, _, _, eq, missing⟩
    cases eq
    rcases missing with missing | missing <;> cases missing
  obtain ⟨part, us, within, cuts, written⟩ := half _ rfl opened
  refine ⟨⟨_, made, unique, ?_, _, applied, ?_⟩, ⟨_, rfl, ?_⟩, _, part, us, rfl, within, cuts, written _ _ rfl⟩
  · exact arity.trans (by decide)
  · exact (sql _ _ _ _ applied).1.trans (by decide)
  · exact (closed _ _ _ both rfl).1.trans (by decide)

end Template

end FilterTree

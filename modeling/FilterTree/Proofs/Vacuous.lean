import FilterTree.Proofs.Correctness

/-!
# Filters that restrict nothing, and holes in a text

* `Template.FieldOnly` : a template that is nothing but marks for the field.
* `Leaf.Vacuous`, `Filter.Vacuous` : the filters whose clause has no text. A group is vacuous without rules, and with one
  vacuous rule; a group of several never is.
* `Sql.HasHole` : a text with an empty word between its spaces.
* `Filter.HasGap` : a filter in which a group of several has a vacuous rule.
* `Filter.sql_eq_empty_iff`, `Filter.hasHole_sql_iff` : what is vacuous is what has no text, and holes come from gaps.
* `Filter.compile_vacuous` : both, of a filter that compiles.
-/

namespace FilterTree

open Sql

/-! ## Vacuous filters -/

def Template.FieldOnly (t : Template) : Prop := ∃ n, t.text.toList = (List.replicate n marker.chars).flatten

/-- The leaves that restrict nothing: without a set of values, and with no operator, with a range that is open at both ends,
or with a template that writes an empty field and no more. -/
def Leaf.Vacuous (t? : String → Option Template) (l : Leaf) : Prop :=
  l.includes = [] ∧
    (l.condition.operator = "" ∨
      (∃ o, Operator.ofKeyword? l.condition.operator = some o ∧ o.isRange = true ∧
        l.condition.operand = .many [.null, .null]) ∨
      (Operator.ofKeyword? l.condition.operator = none ∧ l.field = "" ∧
        ∃ t, t? l.condition.operator = some t ∧ t.FieldOnly))

/-- The filters that restrict nothing. -/
inductive Filter.Vacuous (t? : String → Option Template) : Filter → Prop where
  | leaf {l : Leaf} (h : l.Vacuous t?) : Vacuous t? (.leaf l)
  | empty (glue : Glue) : Vacuous t? (.group glue [])
  | single (glue : Glue) {r : Filter} (h : Vacuous t? r) : Vacuous t? (.group glue [r])

def Sql.IsWord (s : String) : Prop := s ≠ "" ∧ s.toList.all isNameChar = true

instance (s : String) : Decidable (Sql.IsWord s) := inferInstanceAs (Decidable (_ ∧ _))

/-- A text with an empty word: two spaces side by side, or one at an end. -/
def Sql.HasHole (s : String) : Prop := "" ∈ words s

instance (s : String) : Decidable (Sql.HasHole s) := inferInstanceAs (Decidable (_ ∈ _))

/-- Somewhere in the filter, a group of several has a vacuous rule. -/
def Filter.HasGap (t? : String → Option Template) (f : Filter) : Prop :=
  ∃ n ∈ f.nodes, 2 ≤ n.rules.length ∧ ∃ r ∈ n.rules, r.Vacuous t?

/-! ## Texts without characters -/

theorem intercalate_eq_empty_iff {s : String} {ts : List String} :
    s.intercalate ts = "" ↔ (∀ t ∈ ts, t = "") ∧ (ts.length ≤ 1 ∨ s = "") := by
  induction ts with
  | nil => simp
  | cons t ts ih =>
    cases ts with
    | nil => simp
    | cons u ts =>
      rw [String.intercalate_cons_cons, String.append_eq_empty_iff, String.append_eq_empty_iff, ih]
      simp only [List.forall_mem_cons, List.length_cons]
      constructor
      · rintro ⟨⟨ht, hs⟩, ⟨hu, hts⟩, -⟩
        exact ⟨⟨ht, hu, hts⟩, .inr hs⟩
      · rintro ⟨⟨ht, hu, hts⟩, short | hs⟩
        · omega
        · exact ⟨⟨ht, hs⟩, ⟨hu, hts⟩, .inr hs⟩

theorem outlineOf_blank_iff {text : String} :
    (∀ p ∈ outlineOf text, p = "") ↔ ∃ n, text.toList = (List.replicate n marker.chars).flatten := by
  have lists : (∀ p ∈ outlineOf text, p = "") ↔ ∀ p ∈ marker.split text.toList, p = [] := by
    rw [outlineOf, List.forall_mem_map]
    exact forall₂_congr fun p _ => String.ofList_eq_empty_iff
  rw [lists]
  constructor
  · intro blank
    have pieces := List.eq_replicate_of_mem blank
    have whole := marker.intercalate_split text.toList
    obtain ⟨n, hn⟩ : ∃ n, (marker.split text.toList).length = n + 1 :=
      ⟨_, (Nat.succ_pred_eq_of_pos (List.length_pos_of_ne_nil (marker.split_ne_nil _))).symm⟩
    rw [pieces, hn] at whole
    refine ⟨n, whole.symm.trans ?_⟩
    clear whole pieces hn lists blank
    induction n with
    | zero => rfl
    | succ n ih =>
      rw [List.replicate_succ, List.replicate_succ, List.intercalate_cons_cons, ← List.replicate_succ, ih,
        List.replicate_succ, List.flatten_cons, List.nil_append]
  · rintro ⟨n, hn⟩
    rw [hn]
    clear hn lists
    induction n with
    | zero => simp [Text.Mark.split]
    | succ n ih =>
      rw [List.replicate_succ, List.flatten_cons, Text.Mark.split_chars_append]
      exact List.forall_mem_cons.2 ⟨rfl, ih⟩

/-! ## Leaves -/

namespace Operator

theorem sql_eq_empty_iff {o : Operator} {field : String} {x : Operand} {k : Clause} (h : o.compile field x = .ok k) :
    k.sql = "" ↔ o.isRange = true ∧ x = .many [.null, .null] := by
  rw [isRange_eq]
  unfold compile at h
  cases hr : o.range? with
  | some r =>
    rw [hr] at h
    obtain ⟨b, hb, rfl⟩ := Json.eq_ok_of_map h
    obtain ⟨low, high, rfl, rfl⟩ := Operand.bounds_eq_ok hb
    cases low <;> cases high <;> simp [Range.compile, comparison, Clause.empty, Literal.present, Literal.isNull]
  | none =>
    rw [hr] at h
    obtain ⟨v, -, rfl⟩ := Json.eq_ok_of_map h
    obtain ⟨s, hs⟩ := exists_shape_of_range? hr
    show fill field o.template = "" ↔ _
    rw [fill_template hs, String.intercalate_cons_of_ne_nil s.rest_ne_nil]
    simp

end Operator

/-- A template is a text with characters, so that it writes nothing only where it writes an empty field and no more. -/
theorem Template.fill_eq_empty_iff (t : Template) (field : String) :
    fill field t.text = "" ↔ field = "" ∧ t.FieldOnly := by
  rw [fill_eq_intercalate, intercalate_eq_empty_iff, outlineOf_blank_iff]
  constructor
  · rintro ⟨marks, short | unnamed⟩
    · have bare : t.text = "" := by
        rw [← intercalate_outlineOf t.text, intercalate_eq_empty_iff]
        exact ⟨outlineOf_blank_iff.2 marks, .inl short⟩
      refine absurd ?_ t.not_blank
      rw [bare]
      intro x hx
      cases hx
    · exact ⟨unnamed, marks⟩
  · rintro ⟨unnamed, marks⟩
    exact ⟨marks, .inr unnamed⟩

theorem Template.sql_of_apply {t : Template} {field operator : String} {x : Operand} {k : Clause}
    (h : t.apply field operator x = .ok k) : k.sql = fill field t.text := by
  rw [(t.hasOutline_apply h).sql, fill_eq_intercalate]

namespace Leaf

variable {c : Catalog} {t? : String → Option Template} {l : Leaf} {k : Clause}

theorem sql_eq_empty_iff (hc : c.Templated t?) (h : l.compile c = .ok k) : k.sql = "" ↔ l.Vacuous t? := by
  rcases compile_cases h with ⟨filled, rfl⟩ | ⟨bare, written⟩
  · simp [Vacuous, filled, memberClause]
  · rw [Vacuous, and_iff_right bare]
    rcases Condition.compile_cases written with ⟨vacant, rfl⟩ | ⟨given, o, ho, built⟩ | ⟨given, ho, handler, found, applied⟩
    · simp [vacant]
    · rw [Operator.sql_eq_empty_iff built]
      simp [given, ho]
    · rw [hc l.condition.operator] at found
      obtain ⟨t, ht, rfl⟩ := Option.map_eq_some_iff.1 found
      rw [Template.sql_of_apply applied, t.fill_eq_empty_iff]
      simp [given, ho, ht]

theorem params_eq_nil_of_sql_eq_empty (hc : c.Templated t?) {l : Leaf} {k : Clause} (h : l.compile c = .ok k)
    (blank : k.sql = "") : k.params = [] := by
  obtain ⟨sql, params⟩ := hasOutline_compile hc h
  rw [sql, intercalate_eq_empty_iff] at blank
  rw [← List.length_eq_zero_iff, params, List.sum_eq_zero_iff, List.forall_mem_map]
  intro p hp
  rw [blank.1 p hp]
  rfl

end Leaf

/-! ## Holes -/

namespace Sql

@[simp] theorem hasHole_append_space (s t : String) : HasHole (s ++ " " ++ t) ↔ HasHole s ∨ HasHole t := by
  rw [HasHole, words_append_space, List.mem_append]
  rfl

theorem not_hasHole_of_space_not_mem {s : String} (unspaced : ' ' ∉ s.toList) (nonempty : s ≠ "") : ¬HasHole s := by
  rw [HasHole, words_eq_singleton unspaced, List.mem_singleton]
  exact nonempty.symm

theorem IsWord.space_not_mem {s : String} (h : IsWord s) : ' ' ∉ s.toList :=
  fun hs => absurd (List.all_eq_true.1 h.2 ' ' hs) (by decide)

theorem IsWord.not_hasHole {s : String} (h : IsWord s) : ¬HasHole s :=
  not_hasHole_of_space_not_mem h.space_not_mem h.1

theorem hasHole_brackets (s : String) : HasHole ("( " ++ s ++ " )") ↔ HasHole s := by
  simp [HasHole, words_brackets]

theorem hasHole_joiner (g : Glue) (s t : String) : HasHole (s ++ g.joiner ++ t) ↔ HasHole s ∨ HasHole t := by
  have display : g.display ≠ "" := by cases g <;> decide
  simp [HasHole, Glue.words_joiner, display.symm]

theorem hasHole_intercalate (g : Glue) {ts : List String} (nonempty : ts ≠ []) :
    HasHole (g.joiner.intercalate ts) ↔ ∃ t ∈ ts, HasHole t := by
  induction ts with
  | nil => exact absurd rfl nonempty
  | cons t ts ih =>
    cases ts with
    | nil => simp
    | cons u ts =>
      rw [String.intercalate_cons_cons, hasHole_joiner, ih (List.cons_ne_nil u ts)]
      simp only [List.mem_cons, exists_eq_or_imp]

theorem not_hasHole_comparison {field : String} (word : IsWord field) (sign : Sign) :
    ¬HasHole (Operator.comparison field sign.word) := by
  have cut : Operator.comparison field sign.word = field ++ " " ++ (sign.word ++ " " ++ "?") := by
    rw [← String.toList_inj]
    simp [Operator.comparison]
  have signs : ¬HasHole (sign.word ++ " " ++ "?") := by cases sign <;> decide +kernel
  rw [cut, hasHole_append_space, not_or]
  exact ⟨word.not_hasHole, signs⟩

theorem not_hasHole_range {field : String} (word : IsWord field) (below : Sign) (g : Glue) (above : Sign) {b : Bounds}
    (text : (Operator.Range.compile ⟨below.word, g.display, above.word⟩ field b).sql ≠ "") :
    ¬HasHole (Operator.Range.compile ⟨below.word, g.display, above.word⟩ field b).sql := by
  obtain ⟨low, high⟩ := b
  cases low with
  | none =>
    cases high with
    | none => exact absurd rfl text
    | some v => exact not_hasHole_comparison word above
  | some v =>
    cases high with
    | none => exact not_hasHole_comparison word below
    | some w =>
      have both : (Operator.Range.compile ⟨below.word, g.display, above.word⟩ field ⟨some v, some w⟩).sql =
          "( " ++ (Operator.comparison field below.word ++ g.joiner ++ Operator.comparison field above.word) ++ " )" := by
        simp [Operator.Range.compile, Glue.joiner, String.append_assoc]
      rw [both, hasHole_brackets, hasHole_joiner, not_or]
      exact ⟨not_hasHole_comparison word below, not_hasHole_comparison word above⟩

theorem not_hasHole_single {s : Shape} {field : String} (word : IsWord field) :
    ¬HasHole (" ".intercalate (s.first field :: s.rest)) := by
  have field_unspaced := word.space_not_mem
  have unspaced : ' ' ∉ (s.first field).toList := by
    cases s with
    | instr found => simpa [Shape.first] using field_unspaced
    | _ => exact field_unspaced
  have nonempty : s.first field ≠ "" := by
    cases s with
    | instr found => simp [Shape.first]
    | _ => exact word.1
  have filled : ∀ s ∈ Shape.all, "" ∉ s.rest := by decide
  rw [HasHole, words_intercalate (List.cons_ne_nil _ _) (List.forall_mem_cons.2 ⟨unspaced, s.space_not_mem_rest⟩),
    List.mem_cons, not_or]
  exact ⟨nonempty.symm, filled s s.mem_all⟩

theorem not_hasHole_memberClause {field : String} (word : IsWord field) {vs : List Literal} (nonempty : vs ≠ []) :
    ¬HasHole (memberClause field vs).sql := by
  have cut : (memberClause field vs).sql =
      field ++ " " ++ ("IN(" ++ ", ".intercalate (vs.map fun _ => "?") ++ ")") := by
    rw [← String.toList_inj]
    simp [memberClause]
  have set : ∀ w ∈ words ("IN(" ++ ", ".intercalate (vs.map fun _ => "?") ++ ")"), w ≠ "" :=
    forall_of_marks? (by decide) (by decide) (by decide) (by decide) (marks?_words nonempty)
  rw [cut, hasHole_append_space, not_or]
  exact ⟨word.not_hasHole, fun hole => set "" hole rfl⟩

end Sql

theorem Operator.not_hasHole_compile {o : Operator} {field : String} {x : Operand} {k : Clause}
    (h : o.compile field x = .ok k) (word : IsWord field) (text : k.sql ≠ "") : ¬HasHole k.sql := by
  unfold compile at h
  cases hr : o.range? with
  | none =>
    rw [hr] at h
    obtain ⟨v, -, rfl⟩ := Json.eq_ok_of_map h
    obtain ⟨s, hs⟩ := exists_shape_of_range? hr
    show ¬HasHole (fill field o.template)
    rw [fill_template hs]
    exact not_hasHole_single word
  | some r =>
    rw [hr] at h
    obtain ⟨b, -, rfl⟩ := Json.eq_ok_of_map h
    cases o <;> cases hr
    · exact not_hasHole_range word .gt .and .lt text
    · exact not_hasHole_range word .lt .or .gt text

theorem Leaf.not_hasHole_compile {c : Catalog} {l : Leaf} {k : Clause} (h : l.compile c = .ok k)
    (builtin : l.IsBuiltin) (word : l.isDegenerate = false → IsWord l.field) (text : k.sql ≠ "") : ¬HasHole k.sql := by
  rcases compile_cases h with ⟨filled, rfl⟩ | ⟨bare, written⟩
  · have field_word := word (by simp [isDegenerate, filled])
    exact not_hasHole_memberClause field_word filled
  · rcases Condition.compile_cases written with ⟨-, rfl⟩ | ⟨given, o, -, built⟩ | ⟨given, unknown, -⟩
    · exact absurd rfl text
    · have field_word := word (by simp [isDegenerate, given])
      exact Operator.not_hasHole_compile built field_word text
    · rcases builtin with included | vacant | known
      · exact absurd bare included
      · exact absurd vacant given
      · rw [unknown] at known
        cases known

/-! ## Filters -/

namespace Filter

variable {c : Catalog} {t? : String → Option Template}

@[simp] theorem vacuous_leaf_iff {l : Leaf} : (leaf l).Vacuous t? ↔ l.Vacuous t? :=
  ⟨fun | .leaf h => h, .leaf⟩

@[simp] theorem vacuous_single_iff {glue : Glue} {r : Filter} : (group glue [r]).Vacuous t? ↔ r.Vacuous t? :=
  ⟨fun | .single _ h => h, .single glue⟩

theorem not_vacuous_several {glue : Glue} {r r' : Filter} {rs : List Filter} :
    ¬(group glue (r :: r' :: rs)).Vacuous t? := nofun

theorem hasGap_group_iff {glue : Glue} {rules : List Filter} :
    (group glue rules).HasGap t? ↔
      (2 ≤ rules.length ∧ ∃ r ∈ rules, r.Vacuous t?) ∨ ∃ r ∈ rules, r.HasGap t? := by
  constructor
  · rintro ⟨n, hn, several, hr⟩
    rcases List.mem_cons.1 hn with rfl | hn
    · exact .inl ⟨several, hr⟩
    · obtain ⟨r, mem, below⟩ := mem_nodesAll.1 hn
      exact .inr ⟨r, mem, n, below, several, hr⟩
  · rintro (⟨several, hr⟩ | ⟨r, mem, n, below, gap⟩)
    · exact ⟨group glue rules, self_mem_nodes _, several, hr⟩
    · exact ⟨n, mem_nodes_of_mem mem below, gap⟩

theorem not_hasGap_leaf {l : Leaf} : ¬(leaf l).HasGap t? := by
  rintro ⟨n, hn, several, -⟩
  rw [List.mem_singleton.1 hn] at several
  cases several

/-- The text of a filter is empty just when the filter restricts nothing, and then it has no values. -/
theorem sql_eq_empty_iff (hc : c.Templated t?) {f : Filter} {k : Clause} (h : f.compile c = .ok k) :
    (k.sql = "" ↔ f.Vacuous t?) ∧ (k.sql = "" → k.params = []) := by
  induction f using Filter.induction generalizing k with
  | leaf l => exact ⟨(Leaf.sql_eq_empty_iff hc h).trans vacuous_leaf_iff.symm, Leaf.params_eq_nil_of_sql_eq_empty hc h⟩
  | group glue rules ih =>
    rw [compile_group] at h
    obtain ⟨ks, hks, rfl⟩ := Json.eq_ok_of_map h
    have each := compileAll_eq_ok_iff.1 hks
    rcases rules with _ | ⟨r, _ | ⟨r', rs⟩⟩
    · cases each
      exact ⟨iff_of_true rfl (.empty glue), fun _ => rfl⟩
    · obtain ⟨k, ks, hk, others, rfl⟩ := List.forall₂_cons_left_iff.1 each
      cases List.forall₂_nil_left_iff.1 others
      rw [Clause.join_singleton, vacuous_single_iff]
      exact ih r List.mem_cons_self hk
    · have several : 1 < ks.length := by
        rw [← each.length_eq, List.length_cons, List.length_cons]
        omega
      have text : (Clause.join glue.joiner ks).sql ≠ "" := by simp [Clause.join, several]
      exact ⟨iff_of_false text not_vacuous_several, fun blank => absurd blank text⟩

theorem exists_mem_iff_of_forall₂ {P : Filter → Prop} {Q : Clause → Prop} {fs : List Filter} {ks : List Clause}
    (h : List.Forall₂ (fun f k => P f ↔ Q k) fs ks) : (∃ k ∈ ks, Q k) ↔ ∃ f ∈ fs, P f := by
  induction h with
  | nil => simp
  | cons head _ ih => simp only [List.mem_cons, exists_eq_or_imp, head, ih]

/-- The text of a filter of built-in tests has a hole just where a connective lacks a side. -/
theorem hasHole_sql_iff (hc : c.Templated t?) {f : Filter} {k : Clause} (h : f.compile c = .ok k)
    (builtin : ∀ l ∈ f.leaves, l.IsBuiltin) (words : ∀ l ∈ f.leaves, l.isDegenerate = false → IsWord l.field) :
    HasHole k.sql ↔ f.Vacuous t? ∨ f.HasGap t? := by
  induction f using Filter.induction generalizing k with
  | leaf l =>
    have here : l ∈ (leaf l).leaves := List.mem_singleton_self l
    rw [or_iff_left not_hasGap_leaf, ← (sql_eq_empty_iff hc h).1]
    constructor
    · intro hole
      by_contra text
      exact Leaf.not_hasHole_compile h (builtin l here) (words l here) text hole
    · intro blank
      have hole : HasHole "" := by decide
      rwa [blank]
  | group glue rules ih =>
    rw [compile_group] at h
    obtain ⟨ks, hks, rfl⟩ := Json.eq_ok_of_map h
    have each := compileAll_eq_ok_iff.1 hks
    have holes : ∀ r ∈ rules, ∀ k, r.compile c = .ok k → (r.Vacuous t? ∨ r.HasGap t? ↔ HasHole k.sql) := by
      intro r hr k hk
      exact (ih r hr hk (fun l hl => builtin l (mem_leaves_of_mem hr hl))
        (fun l hl => words l (mem_leaves_of_mem hr hl))).symm
    rw [hasGap_group_iff]
    rcases rules with _ | ⟨r, _ | ⟨r', rs⟩⟩
    · cases each
      have hole : HasHole "" := by decide
      exact iff_of_true hole (.inl (.empty glue))
    · obtain ⟨k, ks, hk, others, rfl⟩ := List.forall₂_cons_left_iff.1 each
      cases List.forall₂_nil_left_iff.1 others
      rw [Clause.join_singleton, ← holes r List.mem_cons_self k hk]
      simp
    · have several : 1 < ks.length := by
        rw [← each.length_eq, List.length_cons, List.length_cons]
        omega
      have text : (Clause.join glue.joiner ks).sql = "( " ++ glue.joiner.intercalate (ks.map Clause.sql) ++ " )" :=
        if_pos several
      have nonempty : ks.map Clause.sql ≠ [] := by
        rw [← List.length_pos_iff, List.length_map]
        omega
      have paired := ((List.forall₂_and_left _ _).2 ⟨holes, each⟩).imp fun r k hk => hk.1 k hk.2
      have somewhere : (∃ t ∈ ks.map Clause.sql, HasHole t) ↔ ∃ k ∈ ks, HasHole k.sql := by simp
      rw [text, hasHole_brackets, hasHole_intercalate glue nonempty, somewhere, exists_mem_iff_of_forall₂ paired,
        or_iff_right not_vacuous_several]
      simp only [List.length_cons, Nat.le_add_left, true_and, and_or_left, exists_or]

/-- When a filter becomes no filter, and when its text has a hole. In a catalog of templates, the text of a filter is empty
just when the filter is vacuous, and then there are no values. Where all operators are built in and the fields are words,
a text that is not empty has an empty word between its spaces just when a group of several has a vacuous rule. -/
theorem compile_vacuous (hc : c.Templated t?) {f : Filter} {k : Clause} (h : f.compile c = .ok k) :
    (k.sql = "" ↔ f.Vacuous t?) ∧ (f.Vacuous t? → k.params = []) ∧
    ((∀ l ∈ f.leaves, l.IsBuiltin) → (∀ l ∈ f.leaves, l.isDegenerate = false → IsWord l.field) → k.sql ≠ "" →
      (HasHole k.sql ↔ f.HasGap t?)) := by
  obtain ⟨blank, bare⟩ := sql_eq_empty_iff hc h
  refine ⟨blank, fun vacuous => bare (blank.2 vacuous), ?_⟩
  intro builtin words text
  rw [hasHole_sql_iff hc h builtin words, or_iff_right (fun vacuous => text (blank.2 vacuous))]

/-- A group around the blank leaf leaves a connective without its right side. -/
theorem compile_vacuous_blank :
    (any [test "a" (.ofValue "equal" (.int 1)), all [blank]]).compile .unrestricted = .ok ⟨"( a = ? OR  )", [.int 1]⟩ ∧
    ¬(any [test "a" (.ofValue "equal" (.int 1)), all [blank]]).Vacuous (fun _ => none) ∧
    (any [test "a" (.ofValue "equal" (.int 1)), all [blank]]).HasGap fun _ => none := by
  have compiled : (any [test "a" (.ofValue "equal" (.int 1)), all [blank]]).compile .unrestricted =
      .ok ⟨"( a = ? OR  )", [.int 1]⟩ := by cbv
  obtain ⟨empty, -, holes⟩ := compile_vacuous Catalog.templated_unrestricted compiled
  refine ⟨compiled, fun vacuous => absurd (empty.2 vacuous) (by decide), ?_⟩
  exact (holes (by decide) (by decide) (by decide)).1 (by decide +kernel)

end Filter

end FilterTree

import FilterTree.Proofs.Sql.Formula
import FilterTree.Proofs.Templates
import FilterTree.Proofs.Vacuous
import Mathlib

/-!
# Groups of templates

A template is written as it stands, without brackets. What becomes of its connectives in a group is told here, of any operators
whatever.

* `Nested` : words whose brackets match.
* `HasOpenOr` : words with an `OR` outside of all brackets.
* `Disjunction.conjunction_of_not_hasOpenOr` : a formula without such an `OR` is a conjunction.
* `Disjunction.exists_or` : `OR` between two formulas makes their disjunction.
* `Conjunction.exists_and` : `AND` between two conjunctions makes their conjunction.
* `Disjunction.exists_and` : between any two formulas it makes a formula that follows from both.
* `Sql.tokens` : the words of a text that are not empty.
* `Sql.exists_chain` : texts with a connective between them are read, if two of them always are.
* `Sql.Enclosed` : words with matching brackets and each `OR` inside of some.
* `Filter.enclosed_compile` : so are the words of a filter with built-in operators.
* `Filter.parse_group` : the text of a group can be read if those of its rules can. Under `OR` it means any rule. Under `AND`
  it follows from all rules together, and means all of them where no template leaves an `OR` outside of brackets.
* `Filter.parse_group_open_or` : with such a template it can mean less.
-/

namespace FilterTree.Sql

variable {ws vs : List String} {x y : Formula (List String)}

/-! ## Brackets -/

/-- Words whose brackets match: none is closed before it is opened, and none stays open. -/
structure Nested (ws : List String) : Prop where
  closed_le : ∀ us vs, ws = us ++ vs → us.count ")" ≤ us.count "("
  balanced : ws.count "(" = ws.count ")"

/-- Words with an `OR` in front of which all brackets are closed. -/
def HasOpenOr (ws : List String) : Prop := ∃ us vs, ws = us ++ "OR" :: vs ∧ us.count "(" = us.count ")"

namespace Nested

theorem of_plain (opening : "(" ∉ ws) (closing : ")" ∉ ws) : Nested ws := by
  refine ⟨?_, by rw [List.count_eq_zero.2 opening, List.count_eq_zero.2 closing]⟩
  rintro us vs rfl
  have none_closed : us.count ")" = 0 := List.count_eq_zero.2 fun h => closing (List.mem_append_left vs h)
  omega

theorem append (h : Nested ws) (h' : Nested vs) : Nested (ws ++ vs) := by
  refine ⟨?_, by rw [List.count_append, List.count_append, h.balanced, h'.balanced]⟩
  intro us rest split
  rcases List.append_eq_append_iff.1 split with ⟨more, rfl, later⟩ | ⟨more, earlier, -⟩
  · rw [List.count_append, List.count_append, h.balanced]
    exact Nat.add_le_add_left (h'.closed_le more rest later) _
  · exact h.closed_le us more earlier

theorem joined (h : Nested ws) (h' : Nested vs) {w : String} (opening : w ≠ "(") (closing : w ≠ ")") :
    Nested (ws ++ w :: vs) := by
  have connective : Nested [w] := of_plain (by simpa using opening.symm) (by simpa using closing.symm)
  exact h.append (connective.append h')

/-- Behind an opening bracket and up to a place between matching ones, not all brackets are closed. -/
theorem count_lt (h : Nested ws) {us rest : List String} (inside : ws = us ++ rest) :
    ("(" :: us).count ")" < ("(" :: us).count "(" := by
  rw [List.count_cons_self, List.count_cons_of_ne (by decide)]
  exact Nat.lt_succ_of_le (h.closed_le us rest inside)

/-- Words in brackets are cut within the brackets, or else in front of them or behind them. -/
theorem cut_brackets {us rest : List String} (h : "(" :: (ws ++ [")"]) = us ++ rest) :
    us = [] ∨ rest = [] ∨ ∃ us' rest', us = "(" :: us' ∧ rest = rest' ++ [")"] ∧ ws = us' ++ rest' := by
  rcases us with _ | ⟨u, us⟩
  · exact .inl rfl
  · obtain ⟨rfl, inner⟩ := List.cons.inj h
    rcases List.eq_nil_or_concat rest with rfl | ⟨rest', w, rfl⟩
    · exact .inr (.inl rfl)
    · rw [List.concat_eq_append] at inner ⊢
      have ends : ws ++ [")"] = (us ++ rest') ++ [w] := inner.trans (List.append_assoc us rest' [w]).symm
      obtain ⟨same, closing⟩ := List.append_inj' ends rfl
      exact .inr (.inr ⟨us, rest', rfl, closing ▸ rfl, same⟩)

theorem brackets (h : Nested ws) : Nested ("(" :: (ws ++ [")"])) := by
  have balanced : ("(" :: (ws ++ [")"])).count "(" = ("(" :: (ws ++ [")"])).count ")" := by
    rw [List.count_cons_self, List.count_cons_of_ne (by decide), List.count_append, List.count_append, h.balanced]
    rfl
  refine ⟨?_, balanced⟩
  intro us rest split
  rcases cut_brackets split with rfl | rfl | ⟨us', rest', rfl, rfl, inside⟩
  · exact Nat.zero_le _
  · rw [List.append_nil] at split
    exact (split ▸ balanced).ge
  · exact (h.count_lt inside).le

theorem not_hasOpenOr_brackets (h : Nested ws) : ¬HasOpenOr ("(" :: (ws ++ [")"])) := by
  rintro ⟨us, rest, split, balanced⟩
  rcases cut_brackets split with rfl | behind | ⟨us', rest', rfl, -, inside⟩
  · exact absurd (List.cons.inj split).1 (by decide)
  · cases behind
  · exact absurd balanced (h.count_lt inside).ne'

end Nested

/-! ## The brackets of a formula -/

mutual

theorem Factor.nested {ws : List String} {x : Formula (List String)} : Factor ws x → Nested ws
  | .atom _ plain =>
    .of_plain (fun h => Bool.noConfusion (plain _ h : isMark "(" = false))
      (fun h => Bool.noConfusion (plain _ h : isMark ")" = false))
  | .group inner => (Disjunction.nested inner).brackets

theorem Conjunction.nested {ws : List String} {x : Formula (List String)} : Conjunction ws x → Nested ws
  | .factor h => Factor.nested h
  | .and left right => (Conjunction.nested left).joined (Factor.nested right) (by decide) (by decide)

theorem Disjunction.nested {ws : List String} {x : Formula (List String)} : Disjunction ws x → Nested ws
  | .conjunction h => Conjunction.nested h
  | .or left right => (Disjunction.nested left).joined (Conjunction.nested right) (by decide) (by decide)

end

theorem Factor.not_hasOpenOr (h : Factor ws x) : ¬HasOpenOr ws := by
  cases h with
  | atom nonempty plain =>
    rintro ⟨us, rest, rfl, -⟩
    have mark := plain "OR" (List.mem_append_right us List.mem_cons_self)
    cases mark
  | group inner => exact inner.nested.not_hasOpenOr_brackets

/-- The last `OR` of a disjunction is outside of all brackets. -/
theorem Disjunction.conjunction_of_not_hasOpenOr (h : Disjunction ws x) (closed : ¬HasOpenOr ws) : Conjunction ws x := by
  cases h with
  | conjunction h => exact h
  | or left right => exact absurd ⟨_, _, rfl, left.nested.balanced⟩ closed

/-! ## Connectives between formulas -/

theorem Disjunction.exists_or {ws vs : List String} {x y : Formula (List String)} (h : Disjunction ws x) :
    Disjunction vs y → ∃ z, Disjunction (ws ++ "OR" :: vs) z ∧ ∀ v, z.Holds v ↔ x.Holds v ∨ y.Holds v
  | .conjunction h' => ⟨.or x y, .or h h', fun _ => Iff.rfl⟩
  | @Disjunction.or us rest p q left right => by
    -- The grammar adds conjunctions on the right, so those of the second formula follow one after the other.
    obtain ⟨z, hz, holds⟩ := Disjunction.exists_or h left
    refine ⟨.or z q, ?_, ?_⟩
    · rw [← List.cons_append, ← List.append_assoc]
      exact .or hz right
    · intro v
      show z.Holds v ∨ q.Holds v ↔ x.Holds v ∨ p.Holds v ∨ q.Holds v
      rw [holds, or_assoc]

theorem Conjunction.exists_and {ws vs : List String} {x y : Formula (List String)} (h : Conjunction ws x) :
    Conjunction vs y → ∃ z, Conjunction (ws ++ "AND" :: vs) z ∧ ∀ v, z.Holds v ↔ x.Holds v ∧ y.Holds v
  | .factor h' => ⟨.and x y, .and h h', fun _ => Iff.rfl⟩
  | @Conjunction.and us rest p q left right => by
    obtain ⟨z, hz, holds⟩ := Conjunction.exists_and h left
    refine ⟨.and z q, ?_, ?_⟩
    · rw [← List.cons_append, ← List.append_assoc]
      exact .and hz right
    · intro v
      show z.Holds v ∧ q.Holds v ↔ x.Holds v ∧ p.Holds v ∧ q.Holds v
      rw [holds, and_assoc]

/-- `AND` between a formula and a conjunction takes the last conjunction of the formula away from the others. -/
theorem Disjunction.exists_and_conjunction (h : Disjunction ws x) (h' : Conjunction vs y) :
    ∃ z, Disjunction (ws ++ "AND" :: vs) z ∧ ∀ v, x.Holds v ∧ y.Holds v → z.Holds v := by
  cases h with
  | conjunction h =>
    obtain ⟨z, hz, holds⟩ := h.exists_and h'
    exact ⟨z, .conjunction hz, fun v => (holds v).2⟩
  | @or us rest p q left right =>
    obtain ⟨z, hz, holds⟩ := right.exists_and h'
    refine ⟨.or p z, ?_, ?_⟩
    · rw [List.append_assoc, List.cons_append]
      exact .or left hz
    · rintro v ⟨hp | hq, hy⟩
      · exact .inl hp
      · exact .inr ((holds v).2 ⟨hq, hy⟩)

/-- `AND` between two formulas makes a formula that follows from both. It need not be their conjunction, as `AND` binds
tighter than an `OR` outside of brackets. -/
theorem Disjunction.exists_and {ws vs : List String} {x y : Formula (List String)} (h : Disjunction ws x) :
    Disjunction vs y → ∃ z, Disjunction (ws ++ "AND" :: vs) z ∧ ∀ v, x.Holds v ∧ y.Holds v → z.Holds v
  | .conjunction h' => h.exists_and_conjunction h'
  | @Disjunction.or us rest p q left right => by
    obtain ⟨z, hz, holds⟩ := Disjunction.exists_and h left
    refine ⟨.or z q, ?_, ?_⟩
    · rw [← List.cons_append, ← List.append_assoc]
      exact .or hz right
    · rintro v ⟨hx, hp | hq⟩
      · exact .inl (holds v ⟨hx, hp⟩)
      · exact .inr hq

end FilterTree.Sql

namespace FilterTree

open Sql

/-! ## Words of texts with a connective between them -/

namespace Sql

/-- The words of a text between its spaces. Spaces side by side have none between them. -/
def tokens (s : String) : List String := (words s).filter (· ≠ "")

@[simp] theorem tokens_empty : tokens "" = [] := by decide

theorem tokens_eq_words {s : String} (h : ¬HasHole s) : tokens s = words s := by
  refine List.filter_eq_self.2 ?_
  intro w hw
  refine decide_eq_true ?_
  rintro rfl
  exact h hw

theorem tokens_joiner (g : Glue) (s t : String) : tokens (s ++ g.joiner ++ t) = tokens s ++ g.display :: tokens t := by
  have display : g.display ≠ "" := by cases g <;> decide
  rw [tokens, Glue.words_joiner, List.filter_append, List.filter_cons_of_pos (by simpa using display)]
  rfl

theorem tokens_brackets (s : String) : tokens ("( " ++ s ++ " )") = "(" :: (tokens s ++ [")"]) := by
  rw [tokens, words_brackets, List.filter_cons_of_pos (by decide), List.filter_append]
  rfl

/-- A connective can be put between texts one after the other, if it can be put between two. What is known of the formulas of
all texts and of the formula that they make is carried along. -/
theorem exists_chain {g : Glue} {G : List String → Formula (List String) → Prop}
    {P : List (Formula (List String)) → Formula (List String) → Prop} (single : ∀ x, P [x] x)
    (more : ∀ {ws vs x y xs}, G ws x → G vs y → P xs y → ∃ z, G (ws ++ g.display :: vs) z ∧ P (x :: xs) z)
    {ts : List String} {xs : List (Formula (List String))} (each : List.Forall₂ (fun t x => G (tokens t) x) ts xs)
    (nonempty : ts ≠ []) : ∃ z, G (tokens (g.joiner.intercalate ts)) z ∧ P xs z := by
  induction each with
  | nil => exact absurd rfl nonempty
  | @cons t x ts xs first others ih =>
    rcases ts with _ | ⟨u, ts⟩
    · cases others
      rw [String.intercalate_singleton]
      exact ⟨x, first, single x⟩
    · obtain ⟨y, hy, rest⟩ := ih (List.cons_ne_nil u ts)
      rw [String.intercalate_cons_cons, tokens_joiner]
      exact more first hy rest

section

variable {ts : List String} {xs : List (Formula (List String))}

theorem exists_disjunction_or (each : List.Forall₂ (fun t x => Disjunction (tokens t) x) ts xs) (nonempty : ts ≠ []) :
    ∃ z, Disjunction (tokens (Glue.or.joiner.intercalate ts)) z ∧ ∀ v, z.Holds v ↔ ∃ x ∈ xs, x.Holds v := by
  refine exists_chain (g := .or) (P := fun xs z => ∀ v, z.Holds v ↔ ∃ x ∈ xs, x.Holds v) (by simp) ?_ each nonempty
  intro ws vs x y xs hx hy rest
  obtain ⟨z, hz, holds⟩ := hx.exists_or hy
  refine ⟨z, hz, fun v => ?_⟩
  rw [holds, rest, List.exists_mem_cons_iff]

theorem exists_conjunction_and (each : List.Forall₂ (fun t x => Conjunction (tokens t) x) ts xs) (nonempty : ts ≠ []) :
    ∃ z, Conjunction (tokens (Glue.and.joiner.intercalate ts)) z ∧ ∀ v, z.Holds v ↔ ∀ x ∈ xs, x.Holds v := by
  refine exists_chain (g := .and) (P := fun xs z => ∀ v, z.Holds v ↔ ∀ x ∈ xs, x.Holds v) (by simp) ?_ each nonempty
  intro ws vs x y xs hx hy rest
  obtain ⟨z, hz, holds⟩ := hx.exists_and hy
  refine ⟨z, hz, fun v => ?_⟩
  rw [holds, rest, List.forall_mem_cons]

theorem exists_disjunction_and (each : List.Forall₂ (fun t x => Disjunction (tokens t) x) ts xs) (nonempty : ts ≠ []) :
    ∃ z, Disjunction (tokens (Glue.and.joiner.intercalate ts)) z ∧ ∀ v, (∀ x ∈ xs, x.Holds v) → z.Holds v := by
  refine exists_chain (g := .and) (P := fun xs z => ∀ v, (∀ x ∈ xs, x.Holds v) → z.Holds v) (by simp) ?_ each nonempty
  intro ws vs x y xs hx hy rest
  obtain ⟨z, hz, holds⟩ := hx.exists_and hy
  refine ⟨z, hz, fun v all => ?_⟩
  rw [List.forall_mem_cons] at all
  exact holds v ⟨all.1, rest v all.2⟩

end

/-! ## Texts without an open connective -/

/-- Words with matching brackets, and each `OR` inside of some. -/
def Enclosed (ws : List String) : Prop := Nested ws ∧ ¬HasOpenOr ws

theorem enclosed_nil : Enclosed [] := by
  refine ⟨.of_plain List.not_mem_nil List.not_mem_nil, ?_⟩
  rintro ⟨us, vs, split, -⟩
  exact List.cons_ne_nil _ _ (List.append_eq_nil_iff.1 split.symm).2

theorem Factor.enclosed {ws : List String} {x : Formula (List String)} (h : Factor ws x) : Enclosed ws :=
  ⟨h.nested, h.not_hasOpenOr⟩

theorem Nested.enclosed_brackets {ws : List String} (h : Nested ws) : Enclosed ("(" :: (ws ++ [")"])) :=
  ⟨h.brackets, h.not_hasOpenOr_brackets⟩

theorem nested_intercalate (g : Glue) {ts : List String} (h : ∀ t ∈ ts, Nested (tokens t)) :
    Nested (tokens (g.joiner.intercalate ts)) := by
  induction ts with
  | nil =>
    rw [String.intercalate_nil, tokens_empty]
    exact enclosed_nil.1
  | cons t ts ih =>
    have ⟨first, others⟩ := List.forall_mem_cons.1 h
    rcases ts with _ | ⟨u, ts⟩
    · rwa [String.intercalate_singleton]
    · rw [String.intercalate_cons_cons, tokens_joiner]
      exact first.joined (ih others) (by cases g <;> decide) (by cases g <;> decide)

end Sql

theorem Leaf.enclosed_compile {c : Catalog} {l : Leaf} {k : Clause} (h : l.compile c = .ok k) (builtin : l.IsBuiltin)
    (name : k.sql ≠ "" → IsName l.field) : Enclosed (tokens k.sql) := by
  by_cases text : k.sql = ""
  · rw [text, tokens_empty]
    exact enclosed_nil
  · have word : IsWord l.field := ⟨(name text).1, (name text).2.1⟩
    obtain ⟨x, -, factor, -⟩ := (Leaf.says_compile h builtin name).asks text
    rw [tokens_eq_words (Leaf.not_hasHole_compile h builtin (fun _ => word) text)]
    exact factor.enclosed

theorem Settings.toCatalog_singleton {depth : Nat} {keyword text : String} (free : Operator.ofKeyword? keyword = none)
    (filled : ¬Text.AllBlank text) :
    (⟨none, depth, .ofList [(keyword, text)]⟩ : Settings).toCatalog =
      .ok (Catalog.unrestricted.register keyword (Template.apply ⟨text, filled⟩)) := by
  show Catalog.unrestricted.addTemplates refuses [(keyword, text)] = _
  rw [Catalog.addTemplates, refuses, free, Template.ofText, dif_neg filled]
  rfl

theorem forall_mem_of_forall₂ {α β : Type} {R : α → β → Prop} {Q : β → Prop} {as : List α} {bs : List β}
    (each : List.Forall₂ R as bs) (h : ∀ a ∈ as, ∀ b, R a b → Q b) : ∀ b ∈ bs, Q b := by
  induction each with
  | nil => exact fun b hb => absurd hb List.not_mem_nil
  | @cons a b as bs first _ ih =>
    have ⟨head, others⟩ := List.forall_mem_cons.1 h
    exact List.forall_mem_cons.2 ⟨head b first, ih others⟩

namespace Filter

theorem tokens_join (g : Glue) {ks : List Clause} (several : 2 ≤ ks.length) :
    tokens (Clause.join g.joiner ks).sql = "(" :: (tokens (g.joiner.intercalate (ks.map Clause.sql)) ++ [")"]) := by
  rw [← tokens_brackets]
  exact congrArg tokens (if_pos several)

theorem enclosed_compile {c : Catalog} {f : Filter} {k : Clause} (h : f.compile c = .ok k)
    (builtin : ∀ l ∈ f.leaves, l.IsBuiltin)
    (names : ∀ l ∈ f.leaves, ∀ m, l.compile c = .ok m → m.sql ≠ "" → IsName l.field) : Enclosed (tokens k.sql) := by
  induction f using Filter.induction generalizing k with
  | leaf l =>
    have here : l ∈ (leaf l).leaves := List.mem_singleton_self l
    exact Leaf.enclosed_compile h (builtin l here) (names l here k h)
  | group glue rules ih =>
    rw [compile_group] at h
    obtain ⟨ks, hks, rfl⟩ := Json.eq_ok_of_map h
    have each := compileAll_eq_ok_iff.1 hks
    have enclosed : ∀ k ∈ ks, Enclosed (tokens k.sql) := forall_mem_of_forall₂ each fun r hr k compiled =>
      ih r hr compiled (fun l hl => builtin l (mem_leaves_of_mem hr hl)) fun l hl => names l (mem_leaves_of_mem hr hl)
    rcases ks with _ | ⟨k, _ | ⟨k', ks⟩⟩
    · exact enclosed_nil
    · rw [Clause.join_singleton]
      exact enclosed k List.mem_cons_self
    · rw [tokens_join glue (Nat.le_add_left 2 _)]
      refine (nested_intercalate glue ?_).enclosed_brackets
      exact List.forall_mem_map.2 fun k hk => (enclosed k hk).1

/-- A group of rules whose texts can be read has a text that can be read, whatever operators are registered. Under `OR` it
means any of the rules. Under `AND` it follows from all of them, and it means all of them if no rule with a registered
operator has a text with an `OR` outside of brackets. -/
theorem parse_group {c : Catalog} {glue : Glue} {rules : List Filter} (several : 2 ≤ rules.length) {ks : List Clause}
    {xs : List (Formula (List String))} (compiled : List.Forall₂ (fun r k => r.compile c = .ok k) rules ks)
    (parsed : List.Forall₂ (fun k x => parse (tokens (Clause.sql k)) = some x) ks xs)
    (names : ∀ r ∈ rules, ∀ l ∈ r.leaves, ∀ m, l.compile c = .ok m → m.sql ≠ "" → IsName l.field) :
    ∃ k x, (group glue rules).compile c = .ok k ∧ parse (tokens k.sql) = some x ∧
      (glue = .or → ∀ v, x.Holds v ↔ ∃ y ∈ xs, y.Holds v) ∧
      (glue = .and → ∀ v, (∀ y ∈ xs, y.Holds v) → x.Holds v) ∧
      (glue = .and →
        (∀ r ∈ rules, ∀ k, r.compile c = .ok k → (∃ l ∈ r.leaves, ¬l.IsBuiltin) → ¬HasOpenOr (tokens k.sql)) →
        ∀ v, x.Holds v ↔ ∀ y ∈ xs, y.Holds v) := by
  have compiled_group : (group glue rules).compile c = .ok (Clause.join glue.joiner ks) := by
    rw [compile_group, compileAll_eq_ok_iff.2 compiled]
    rfl
  have several_clauses : 2 ≤ ks.length := compiled.length_eq ▸ several
  have nonempty : ks.map Clause.sql ≠ [] := by
    rw [ne_eq, List.map_eq_nil_iff]
    rintro rfl
    exact absurd several_clauses (by decide)
  have read : ∀ {x}, Disjunction (tokens (glue.joiner.intercalate (ks.map Clause.sql))) x →
      parse (tokens (Clause.join glue.joiner ks).sql) = some x := by
    intro x inner
    rw [tokens_join glue several_clauses]
    exact parse_of_disjunction (.conjunction (.factor (.group inner)))
  have each : List.Forall₂ (fun t x => Disjunction (tokens t) x) (ks.map Clause.sql) xs :=
    List.forall₂_map_left_iff.2 (parsed.imp fun _ _ => disjunction_of_parse)
  cases glue with
  | or =>
    obtain ⟨x, hx, holds⟩ := exists_disjunction_or each nonempty
    exact ⟨_, x, compiled_group, read hx, fun _ => holds, nofun, nofun⟩
  | and =>
    by_cases closed : ∀ k ∈ ks, ¬HasOpenOr (tokens k.sql)
    · have conjunctions : List.Forall₂ (fun t x => Conjunction (tokens t) x) (ks.map Clause.sql) xs := by
        refine List.forall₂_map_left_iff.2 (((List.forall₂_and_left _ _).2 ⟨closed, parsed⟩).imp ?_)
        rintro k x ⟨closed, parsed⟩
        exact (disjunction_of_parse parsed).conjunction_of_not_hasOpenOr closed
      obtain ⟨x, hx, holds⟩ := exists_conjunction_and conjunctions nonempty
      exact ⟨_, x, compiled_group, read (.conjunction hx), nofun, fun _ v => (holds v).2, fun _ _ => holds⟩
    · obtain ⟨x, hx, follows⟩ := exists_disjunction_and each nonempty
      refine ⟨_, x, compiled_group, read hx, nofun, fun _ => follows, fun _ templates => absurd ?_ closed⟩
      refine forall_mem_of_forall₂ compiled fun r hr k compiled => ?_
      by_cases builtin : ∀ l ∈ r.leaves, l.IsBuiltin
      · exact (enclosed_compile compiled builtin (names r hr)).2
      · push Not at builtin
        exact templates r hr k compiled builtin

/-- A template in brackets of its own beside a group of built-in tests. -/
theorem parse_group_brackets :
    let s : Settings := ⟨none, 32, .ofList [("maybe", "( \x7bfield\x7d = ? OR \x7bfield\x7d IS NULL )")]⟩
    ∃ c k x, s.toCatalog = .ok c ∧
      (all [test "a" (.ofValue "maybe" (.int 1)), any [test "b" (.ofValue "equal" (.int 2)), member "c" [.null]]]).compile c =
        .ok k ∧
      parse (tokens k.sql) = some x ∧
      ∀ v, x.Holds v ↔ (v ["a", "=", "?"] ∨ v ["a", "IS", "NULL"]) ∧ (v ["b", "=", "?"] ∨ v ["c", "IN(?)"]) := by
  intro s
  have accepted : s.toCatalog = .ok (Catalog.unrestricted.register "maybe"
      (Template.apply ⟨"( \x7bfield\x7d = ? OR \x7bfield\x7d IS NULL )", by decide⟩)) :=
    Settings.toCatalog_singleton (by decide) (by decide)
  have first : (test "a" (.ofValue "maybe" (.int 1))).compile (Catalog.unrestricted.register "maybe"
      (Template.apply ⟨"( \x7bfield\x7d = ? OR \x7bfield\x7d IS NULL )", by decide⟩)) =
    .ok ⟨"( a = ? OR a IS NULL )", [.int 1]⟩ := by cbv
  have second : (any [test "b" (.ofValue "equal" (.int 2)), member "c" [.null]]).compile (Catalog.unrestricted.register "maybe"
      (Template.apply ⟨"( \x7bfield\x7d = ? OR \x7bfield\x7d IS NULL )", by decide⟩)) =
    .ok ⟨"( b = ? OR c IN(?) )", [.int 2, .null]⟩ := by cbv
  have named : ∀ r ∈ [test "a" (.ofValue "maybe" (.int 1)), any [test "b" (.ofValue "equal" (.int 2)), member "c" [.null]]],
    ∀ l ∈ r.leaves, IsName l.field := by decide
  have read_first : parse (tokens "( a = ? OR a IS NULL )") =
    some (.or (.atom ["a", "=", "?"]) (.atom ["a", "IS", "NULL"])) := by cbv
  have read_second : parse (tokens "( b = ? OR c IN(?) )") =
    some (.or (.atom ["b", "=", "?"]) (.atom ["c", "IN(?)"])) := by cbv
  obtain ⟨k, x, compiled, parsed, -, -, means⟩ := @parse_group _ .and _ (by decide) _ _
    (.cons first (.cons second .nil)) (.cons read_first (.cons read_second .nil)) fun r hr l hl _ _ _ => named r hr l hl
  refine ⟨_, k, x, accepted, compiled, parsed, fun v => (means rfl ?_ v).trans (by simp [Formula.Holds])⟩
  have bracketed : tokens "( a = ? OR a IS NULL )" = "(" :: (["a", "=", "?", "OR", "a", "IS", "NULL"] ++ [")"]) := by cbv
  have inner : Nested ["a", "=", "?", "OR", "a", "IS", "NULL"] := .of_plain (by decide) (by decide)
  intro r hr k compiled foreign
  rcases List.mem_cons.1 hr with rfl | hr
  · rw [first, Except.ok.injEq] at compiled
    rw [← compiled, bracketed]
    exact inner.not_hasOpenOr_brackets
  · rw [List.mem_singleton.1 hr] at foreign
    exact absurd foreign (by decide)

/-- A template with an `OR` outside of brackets. Under `AND` the second rule goes with half of the template only, so that a row
with `a = ?` passes whatever its `b`. -/
theorem parse_group_open_or :
    let s : Settings := ⟨none, 32, .ofList [("maybe", "\x7bfield\x7d = ? OR \x7bfield\x7d IS NULL")]⟩
    ∃ c j k m x y z v, s.toCatalog = .ok c ∧
      (test "a" (.ofValue "maybe" (.int 1))).compile c = .ok j ∧ parse (tokens j.sql) = some x ∧
      (test "b" (.ofValue "equal" (.int 2))).compile c = .ok k ∧ parse (tokens k.sql) = some y ∧
      (all [test "a" (.ofValue "maybe" (.int 1)), test "b" (.ofValue "equal" (.int 2))]).compile c = .ok m ∧
      parse (tokens m.sql) = some z ∧ z.Holds v ∧ ¬(x.Holds v ∧ y.Holds v) := by
  intro s
  refine ⟨_, ⟨"a = ? OR a IS NULL", [.int 1]⟩, ⟨"b = ?", [.int 2]⟩, ⟨"( a = ? OR a IS NULL AND b = ? )", [.int 1, .int 2]⟩,
    .or (.atom ["a", "=", "?"]) (.atom ["a", "IS", "NULL"]), .atom ["b", "=", "?"],
    .or (.atom ["a", "=", "?"]) (.and (.atom ["a", "IS", "NULL"]) (.atom ["b", "=", "?"])), fun a => a = ["a", "=", "?"],
    Settings.toCatalog_singleton (by decide) (by decide), by cbv, by cbv, by cbv, by cbv, by cbv, by cbv, .inl rfl, ?_⟩
  rintro ⟨-, other⟩
  have differ : ["b", "=", "?"] ≠ ["a", "=", "?"] := by decide
  exact differ other

end Filter

end FilterTree

import FilterTree.Operator
import FilterTree.Proofs.Layout
import FilterTree.Proofs.Outline
import FilterTree.Proofs.Sql.Test
import Mathlib

/-!
# The text of a filter means the filter

The meaning of a filter without any text is what it asks of a row, of which only the atomic tests are known.

* `Operator.shape?` : the atomic test that an operator on one value stands for.
* `Bounds.Holds` : what a range asks. An open end asks nothing.
* `Leaf.Holds` : what a leaf asks: membership, nothing, or what its operator says.
* `Filter.Holds` : all rules or any rule of a group.
* `Filter.NoGap` : the filters in which no connective stands beside an empty text.
* `Glue.Chain` : the part of the grammar that a glue connects.
* `Clause.Says` : a clause that is empty and asks nothing, or whose words are an operand that asks a given condition.
* `Leaf.says_compile` : so is the clause of a leaf whose operator is built in.
* `Filter.says_compile` : and that of a filter of such leaves, where no text is missing beside a connective.
* `Filter.meaning_compile` : the text of a filter, read as a formula with its values for the marks, asks what the filter
  asks.
-/

namespace FilterTree

open Sql

/-! ## What a filter asks -/

def Operator.shape? : Operator → Option Shape
  | .equal => some (.compare .eq)
  | .notEqual => some (.compare .ne)
  | .contains => some (.instr true)
  | .notContains => some (.instr false)
  | .lessOrEqual => some (.compare .le)
  | .greaterOrEqual => some (.compare .ge)
  | .less => some (.compare .lt)
  | .greater => some (.compare .gt)
  | .beginsWith => some (.begins true)
  | .notBeginsWith => some (.begins false)
  | .endsWith => some (.ends true)
  | .notEndsWith => some (.ends false)
  | .between => none
  | .notBetween => none

def Glue.Joined (g : Glue) (p q : Prop) : Prop :=
  match g with
  | .and => p ∧ q
  | .or => p ∨ q

/-- What a range asks: the comparisons with its ends, of which an open end has none. -/
def Bounds.Holds (test : Test → Prop) (field : String) (below : Sign) (g : Glue) (above : Sign) (b : Bounds) : Prop :=
  match b.low, b.high with
  | some low, some high =>
    g.Joined (test (.single (.compare below) field low)) (test (.single (.compare above) field high))
  | some low, none => test (.single (.compare below) field low)
  | none, some high => test (.single (.compare above) field high)
  | none, none => True

/-- What an operator asks of a field. It asks nothing that can be met of an operand that it does not take. -/
def Operator.Holds (test : Test → Prop) (field : String) (o : Operator) (x : Operand) : Prop :=
  match o, x with
  | .between, .many [low, high] => Bounds.Holds test field .gt .and .lt ⟨low.present, high.present⟩
  | .notBetween, .many [low, high] => Bounds.Holds test field .lt .or .gt ⟨low.present, high.present⟩
  | o, .one v => ∃ s, o.shape? = some s ∧ test (.single s field v)
  | _, _ => False

namespace Leaf

/-- The leaves without any operator that is not built in: those with a set of values, and those whose operator is empty
or built in. -/
def IsBuiltin (l : Leaf) : Prop :=
  l.includes ≠ [] ∨ l.condition.operator = "" ∨ (Operator.ofKeyword? l.condition.operator).isSome = true

instance (l : Leaf) : Decidable l.IsBuiltin := inferInstanceAs (Decidable (_ ∨ _ ∨ _))

/-- What a leaf asks. A set of values comes before the operator. -/
def Holds (test : Test → Prop) (l : Leaf) : Prop :=
  if l.includes.isEmpty then
    if l.condition.operator.isEmpty then True
    else ∃ o, Operator.ofKeyword? l.condition.operator = some o ∧ o.Holds test l.field l.condition.operand
  else test (.member l.field l.includes)

end Leaf

namespace Filter

mutual

/-- What a filter asks. A group without rules asks nothing, whatever its glue. -/
def Holds (test : Test → Prop) : Filter → Prop
  | .leaf l => l.Holds test
  | .group .and rules => AllHold test rules
  | .group .or rules => rules = [] ∨ AnyHolds test rules

def AllHold (test : Test → Prop) : List Filter → Prop
  | [] => True
  | f :: fs => f.Holds test ∧ AllHold test fs

def AnyHolds (test : Test → Prop) : List Filter → Prop
  | [] => False
  | f :: fs => f.Holds test ∨ AnyHolds test fs

end

end Filter

/-! ## Connectives -/

namespace Glue

def Chain : Glue → List String → Formula (List String) → Prop
  | .and => Conjunction
  | .or => Disjunction

theorem joined_assoc (g : Glue) (p q r : Prop) : g.Joined (g.Joined p q) r ↔ g.Joined p (g.Joined q r) := by
  cases g with
  | and => exact and_assoc
  | or => exact or_assoc

theorem words_joiner (g : Glue) (s t : String) : words (s ++ g.joiner ++ t) = words s ++ g.display :: words t := by
  have display : words g.display = [g.display] := words_eq_singleton (by cases g <;> decide)
  have cut : s ++ g.joiner ++ t = s ++ " " ++ (g.display ++ " " ++ t) := by
    simp [joiner, String.append_assoc]
  rw [cut, words_append_space, words_append_space, display, List.singleton_append]

variable {g : Glue} {ws us : List String} {vs ls : List Literal} {φ ψ : (Test → Prop) → Prop}

theorem asks_chain (h : Asks Factor ws vs φ) : Asks g.Chain ws vs φ := by
  cases g with
  | and => exact h.conjunction
  | or => exact h.conjunction.disjunction

theorem asks_disjunction (h : Asks g.Chain ws vs φ) : Asks Disjunction ws vs φ := by
  cases g with
  | and => exact Asks.disjunction h
  | or => exact h

theorem asks_joined (h : Asks g.Chain ws vs φ) (h' : Asks Factor us ls ψ) :
    Asks g.Chain (ws ++ g.display :: us) (vs ++ ls) fun test => g.Joined (φ test) (ψ test) := by
  cases g with
  | and => exact Asks.and h h'
  | or => exact Asks.or h h'.conjunction

end Glue

theorem words_brackets (s : String) : words ("( " ++ s ++ " )") = "(" :: (words s ++ [")"]) := by
  have opening : words "(" = ["("] := words_eq_singleton (by decide)
  have closing : words ")" = [")"] := words_eq_singleton (by decide)
  have cut : "( " ++ s ++ " )" = "(" ++ " " ++ (s ++ " " ++ ")") := by
    rw [← String.toList_inj]
    simp
  rw [cut, words_append_space, words_append_space, opening, closing, List.singleton_append]

/-- A text without words asks nothing that could be read. -/
theorem ne_empty_of_asks {s : String} {vs : List Literal} {φ : (Test → Prop) → Prop}
    (h : Asks Disjunction (words s) vs φ) : s ≠ "" := by
  rintro rfl
  obtain ⟨x, t, hx, hbind, -⟩ := h
  have parsed : parse (words "") = some (.atom [""]) := by decide
  rw [parse_of_disjunction hx] at parsed
  cases parsed
  cases hbind []

/-- An empty clause where nothing is asked, or one whose words are an operand that asks what is asked. -/
def Clause.Says (k : Clause) (φ : (Test → Prop) → Prop) : Prop :=
  (k = .empty ∧ ∀ test, φ test) ∨ Asks Factor (words k.sql) k.params φ

namespace Clause.Says

variable {k : Clause} {φ ψ : (Test → Prop) → Prop}

theorem congr (h : k.Says φ) (hφ : ∀ test, φ test ↔ ψ test) : k.Says ψ := by
  rcases h with ⟨empty, vacuous⟩ | asks
  · exact .inl ⟨empty, fun test => (hφ test).1 (vacuous test)⟩
  · exact .inr (asks.congr hφ)

theorem asks (h : k.Says φ) (nonempty : k.sql ≠ "") : Asks Factor (words k.sql) k.params φ := by
  rcases h with ⟨rfl, -⟩ | asks
  · exact absurd rfl nonempty
  · exact asks

theorem meaning? (h : k.Says φ) : ∃ m, k.meaning? = some m ∧ ∀ test, m test ↔ φ test := by
  rcases h with ⟨rfl, vacuous⟩ | asks
  · exact ⟨fun _ => True, Clause.meaning?_of_isEmpty rfl rfl, fun test => iff_of_true trivial (vacuous test)⟩
  · have said := asks.conjunction.disjunction
    exact Clause.meaning?_of_asks (ne_empty_of_asks said) said

end Clause.Says

/-! ## Leaves -/

theorem Operand.single_eq_ok {x : Operand} {operator : String} {v : Literal} (h : x.single operator = .ok v) :
    x = .one v := by
  unfold single at h
  split at h
  · rw [Except.ok.inj h]
  · cases h

theorem Operand.bounds_eq_ok {x : Operand} {operator : String} {b : Bounds} (h : x.bounds operator = .ok b) :
    ∃ low high, x = .many [low, high] ∧ b = ⟨low.present, high.present⟩ := by
  unfold bounds at h
  split at h
  · rename_i low high
    cases h
    exact ⟨low, high, rfl, rfl⟩
  · cases h

namespace Operator

theorem words_comparison {field : String} (h : IsName field) (s : Sign) :
    words (comparison field s.word) = (Shape.compare s).first field :: (Shape.compare s).rest := by
  have name : words field = [field] := words_eq_singleton (h.not_mem (by decide))
  have sign : words s.word = [s.word] := words_eq_singleton (by cases s <;> decide)
  have mark : words "?" = ["?"] := words_eq_singleton (by decide)
  have cut : comparison field s.word = field ++ " " ++ (s.word ++ " " ++ "?") := by
    rw [← String.toList_inj]
    simp [comparison]
  rw [cut, words_append_space, words_append_space, name, sign, mark]
  rfl

theorem asks_comparison {field : String} (h : IsName field) (s : Sign) (v : Literal) :
    Asks Factor (words (comparison field s.word)) [v] fun test => test (.single (.compare s) field v) := by
  rw [words_comparison h]
  exact asks_single h v

def around : Shape → String × String
  | .instr _ => ("INSTR(", ",")
  | _ => ("", "")

theorem first_eq (s : Shape) (field : String) : s.first field = (around s).1 ++ field ++ (around s).2 := by
  cases s <;> simp [Shape.first, around]

theorem outlineOf_template {o : Operator} {s : Shape} (h : o.shape? = some s) :
    outlineOf o.template = [(around s).1, (around s).2 ++ " " ++ " ".intercalate s.rest] := by
  cases o <;> cases h <;> cbv

theorem fill_template {o : Operator} {s : Shape} (h : o.shape? = some s) (field : String) :
    fill field o.template = " ".intercalate (s.first field :: s.rest) := by
  rw [fill_eq_intercalate, outlineOf_template h, String.intercalate_cons_of_ne_nil s.rest_ne_nil, first_eq]
  simp [String.append_assoc]

theorem asks_template {o : Operator} {s : Shape} (h : o.shape? = some s) {field : String} (name : IsName field)
    (v : Literal) : Asks Factor (words (fill field o.template)) [v] fun test => test (.single s field v) := by
  rw [fill_template h, words_intercalate (List.cons_ne_nil _ _)
    (List.forall_mem_cons.2 ⟨Shape.space_not_mem_first name, s.space_not_mem_rest⟩)]
  exact asks_single name v

theorem says_range {field : String} (below : Sign) (g : Glue) (above : Sign) (b : Bounds)
    (name : (Range.compile ⟨below.word, g.display, above.word⟩ field b).sql ≠ "" → IsName field) :
    (Range.compile ⟨below.word, g.display, above.word⟩ field b).Says fun test =>
      b.Holds test field below g above := by
  obtain ⟨low, high⟩ := b
  cases low with
  | none =>
    cases high with
    | none => exact .inl ⟨rfl, fun _ => trivial⟩
    | some v => exact .inr (asks_comparison (name (by simp [Range.compile, comparison])) above v)
  | some v =>
    cases high with
    | none => exact .inr (asks_comparison (name (by simp [Range.compile, comparison])) below v)
    | some w =>
      have field_name := name (by simp [Range.compile])
      have text : (Range.compile ⟨below.word, g.display, above.word⟩ field ⟨some v, some w⟩).sql =
          "( " ++ (comparison field below.word ++ g.joiner ++ comparison field above.word) ++ " )" := by
        simp [Range.compile, Glue.joiner, String.append_assoc]
      have both := Glue.asks_joined (g := g) (Glue.asks_chain (asks_comparison field_name below v))
        (asks_comparison field_name above w)
      refine .inr ?_
      rw [text, words_brackets, Glue.words_joiner]
      exact (Glue.asks_disjunction both).group

theorem says_single {o : Operator} {s : Shape} (h : o.shape? = some s) {field : String} (v : Literal)
    (name : fill field o.template ≠ "" → IsName field) :
    Clause.Says ⟨fill field o.template, [v]⟩ fun test => o.Holds test field (.one v) := by
  have field_name := name (by
    rw [fill_template h, String.intercalate_cons_of_ne_nil s.rest_ne_nil]
    simp)
  refine .inr ((asks_template h field_name v).congr ?_)
  intro test
  cases o <;> simp [Operator.Holds, h]

theorem exists_shape_of_range? {o : Operator} (h : o.range? = none) : ∃ s, o.shape? = some s := by
  cases o <;> first | exact ⟨_, rfl⟩ | cases h

theorem says_compile {o : Operator} {field : String} {x : Operand} {k : Clause} (h : o.compile field x = .ok k)
    (name : k.sql ≠ "" → IsName field) : k.Says fun test => o.Holds test field x := by
  unfold compile at h
  cases hr : o.range? with
  | none =>
    rw [hr] at h
    obtain ⟨v, hv, rfl⟩ := Json.eq_ok_of_map h
    obtain rfl := Operand.single_eq_ok hv
    obtain ⟨s, hs⟩ := exists_shape_of_range? hr
    exact says_single hs v name
  | some r =>
    rw [hr] at h
    obtain ⟨b, hb, rfl⟩ := Json.eq_ok_of_map h
    obtain ⟨low, high, rfl, rfl⟩ := Operand.bounds_eq_ok hb
    cases o <;> cases hr
    · exact says_range .gt .and .lt _ name
    · exact says_range .lt .or .gt _ name

end Operator

theorem says_memberClause {field : String} {vs : List Literal} (nonempty : vs ≠ [])
    (name : (memberClause field vs).sql ≠ "" → IsName field) :
    (memberClause field vs).Says fun test => test (.member field vs) := by
  have field_name := name (by simp [memberClause])
  have text : (memberClause field vs).sql =
      field ++ " " ++ ("IN(" ++ ", ".intercalate (vs.map fun _ => "?") ++ ")") := by
    rw [← String.toList_inj]
    simp [memberClause]
  refine .inr ?_
  rw [text, words_append_space, words_eq_singleton (field_name.not_mem (by decide)), List.singleton_append]
  exact asks_member field_name nonempty

theorem Leaf.says_compile {c : Catalog} {l : Leaf} {k : Clause} (h : l.compile c = .ok k) (builtin : l.IsBuiltin)
    (name : k.sql ≠ "" → IsName l.field) : k.Says fun test => l.Holds test := by
  unfold compile at h
  split at h
  · rename_i degenerate
    rw [isDegenerate, Bool.and_eq_true, Bool.and_eq_true] at degenerate
    cases h
    refine .inl ⟨rfl, ?_⟩
    intro test
    show l.Holds test
    rw [Holds, if_pos degenerate.2, if_pos degenerate.1.2]
    trivial
  · split at h
    · cases h
    · split at h
      · rename_i filled
        cases h
        have nonempty : l.includes ≠ [] := by simpa using filled
        simpa [Holds, nonempty] using says_memberClause nonempty name
      · rename_i bare
        have none_included : l.includes = [] := by simpa using bare
        unfold Condition.compile at h
        split at h
        · rename_i vacant
          cases h
          exact .inl ⟨rfl, fun test => by simp [Holds, none_included, vacant]⟩
        · rename_i given
          split at h
          · rename_i o ho
            simpa [Holds, none_included, given, ho] using Operator.says_compile h name
          · rename_i unknown
            rcases builtin with included | vacant | known
            · exact absurd none_included included
            · exact absurd (by rw [vacant]; rfl) given
            · rw [unknown] at known
              cases known

/-! ## Groups -/

theorem intercalate_merge (s a b : String) (ts : List String) :
    s.intercalate (a :: b :: ts) = s.intercalate ((a ++ s ++ b) :: ts) := by
  cases ts with
  | nil => simp
  | cons t ts => simp [String.append_assoc]

namespace Filter

def Connected (g : Glue) (test : Test → Prop) (fs : List Filter) : Prop :=
  match g with
  | .and => AllHold test fs
  | .or => AnyHolds test fs

theorem joined_nil (g : Glue) (test : Test → Prop) (p : Prop) : g.Joined p (Connected g test []) ↔ p := by
  cases g with
  | and => exact and_iff_left trivial
  | or => exact or_iff_left id

theorem connected_cons (g : Glue) (test : Test → Prop) (f : Filter) (fs : List Filter) :
    Connected g test (f :: fs) ↔ g.Joined (f.Holds test) (Connected g test fs) := by
  cases g <;> exact Iff.rfl

theorem holds_group_cons (g : Glue) (test : Test → Prop) (f : Filter) (fs : List Filter) :
    (group g (f :: fs)).Holds test ↔ g.Joined (f.Holds test) (Connected g test fs) := by
  cases g with
  | and => exact Iff.rfl
  | or => exact or_iff_right (List.cons_ne_nil f fs)

/-- Where filters follow a text with the glue in front of each, what they ask is added to what the text asks. -/
theorem asks_intercalate (g : Glue) {fs : List Filter} {ks : List Clause}
    (each : List.Forall₂ (fun f k => Asks Factor (words k.sql) k.params fun test => f.Holds test) fs ks)
    {s : String} {vs : List Literal} {φ : (Test → Prop) → Prop} (h : Asks g.Chain (words s) vs φ) :
    Asks g.Chain (words (g.joiner.intercalate (s :: ks.map Clause.sql))) (vs ++ ks.flatMap Clause.params) fun test =>
      g.Joined (φ test) (Connected g test fs) := by
  -- The grammar adds operands on the right, so the text in front grows with each filter.
  induction each generalizing s vs φ with
  | nil =>
    simpa using h.congr fun test => (joined_nil g test (φ test)).symm
  | @cons f k fs ks hk _ ih =>
    have joined := Glue.asks_joined h hk
    rw [← Glue.words_joiner] at joined
    have all := ih joined
    rw [List.map_cons, intercalate_merge, List.flatMap_cons, ← List.append_assoc]
    refine all.congr ?_
    intro test
    rw [Glue.joined_assoc, connected_cons]

def HasText (c : Catalog) (f : Filter) : Prop := ∀ k, f.compile c = .ok k → k.sql ≠ ""

instance (c : Catalog) (f : Filter) : Decidable (f.HasText c) :=
  match h : f.compile c with
  | .error _ => .isTrue fun k hk => by
    rw [h] at hk
    cases hk
  | .ok k => decidable_of_iff (k.sql ≠ "") ⟨fun text m hm => by
    rw [h] at hm
    cases hm
    exact text, fun text => text k h⟩

/-- Where a group has several rules, each of them has a text. -/
def NoGap (c : Catalog) (f : Filter) : Prop :=
  ∀ n ∈ f.nodes, 2 ≤ n.rules.length → ∀ r ∈ n.rules, r.HasText c

instance (c : Catalog) (f : Filter) : Decidable (f.NoGap c) :=
  inferInstanceAs (Decidable (∀ n ∈ f.nodes, 2 ≤ n.rules.length → ∀ r ∈ n.rules, r.HasText c))

theorem NoGap.of_mem {c : Catalog} {glue : Glue} {rules : List Filter} (h : (group glue rules).NoGap c) {r : Filter}
    (hr : r ∈ rules) : r.NoGap c :=
  fun n hn => h n (mem_nodes_of_mem hr hn)

theorem asks_group (glue : Glue) {f g : Filter} {fs : List Filter} {ks : List Clause}
    (each : List.Forall₂ (fun f k => Asks Factor (words k.sql) k.params fun test => f.Holds test) (f :: g :: fs) ks) :
    Asks Factor (words (Clause.join glue.joiner ks).sql) (Clause.join glue.joiner ks).params fun test =>
      (group glue (f :: g :: fs)).Holds test := by
  cases each with
  | @cons _ k _ ks hk others =>
    have several : 1 < (k :: ks).length := by
      rw [List.length_cons, ← others.length_eq, List.length_cons]
      omega
    have text : (Clause.join glue.joiner (k :: ks)).sql =
        "( " ++ glue.joiner.intercalate (k.sql :: ks.map Clause.sql) ++ " )" := if_pos several
    rw [text, words_brackets]
    have all := asks_intercalate glue others (Glue.asks_chain hk)
    exact (Glue.asks_disjunction all).group.congr fun test => (holds_group_cons glue test f (g :: fs)).symm

theorem says_compile {c : Catalog} {f : Filter} {k : Clause} (h : f.compile c = .ok k)
    (builtin : ∀ l ∈ f.leaves, l.IsBuiltin)
    (names : ∀ l ∈ f.leaves, ∀ m, l.compile c = .ok m → m.sql ≠ "" → IsName l.field)
    (gaps : f.NoGap c) : k.Says fun test => f.Holds test := by
  induction f using Filter.induction generalizing k with
  | leaf l =>
    have here : l ∈ (leaf l).leaves := List.mem_singleton_self l
    exact Leaf.says_compile h (builtin l here) (names l here k h)
  | group glue rules ih =>
    rw [compile_group] at h
    obtain ⟨ks, hks, rfl⟩ := Json.eq_ok_of_map h
    have each := compileAll_eq_ok_iff.1 hks
    have sound : ∀ r ∈ rules, ∀ k, r.compile c = .ok k → k.Says fun test => r.Holds test := by
      intro r hr k hk
      exact ih r hr hk (fun l hl => builtin l (mem_leaves_of_mem hr hl))
        (fun l hl => names l (mem_leaves_of_mem hr hl)) (gaps.of_mem hr)
    rcases rules with _ | ⟨r, _ | ⟨r', rs⟩⟩
    · cases each
      refine .inl ⟨rfl, ?_⟩
      intro test
      cases glue with
      | and => trivial
      | or => exact .inl rfl
    · obtain ⟨k, ks, hk, others, rfl⟩ := List.forall₂_cons_left_iff.1 each
      cases List.forall₂_nil_left_iff.1 others
      rw [Clause.join_singleton]
      refine (sound r List.mem_cons_self k hk).congr ?_
      intro test
      rw [holds_group_cons, joined_nil]
    · -- Without a gap none of the rules has the empty clause, so each of them is an operand.
      have texts := gaps (group glue (r :: r' :: rs)) (self_mem_nodes _) (by simp [Filter.rules])
      have operands := (List.forall₂_and_left _ _).2 ⟨fun r hr => And.intro (sound r hr) (texts r hr), each⟩
      refine .inr (asks_group glue (operands.imp ?_))
      intro r k hk
      exact (hk.1.1 k hk.2).asks (hk.1.2 k hk.2)

/-- Compilation is correct. Where all operators are built in, all fields that are written are names, and no text is
missing beside a connective, the clause of a filter can be read as a formula with a value for each of its marks, and
whatever the tests mean, a row meets the formula just when it meets the filter. -/
theorem meaning_compile {c : Catalog} {f : Filter} {k : Clause} (h : f.compile c = .ok k)
    (builtin : ∀ l ∈ f.leaves, l.IsBuiltin)
    (names : ∀ l ∈ f.leaves, ∀ m, l.compile c = .ok m → m.sql ≠ "" → IsName l.field)
    (gaps : f.NoGap c) :
    ∃ m, k.meaning? = some m ∧
      ∀ {Row : Type*} (test : Test → Row → Prop) (row : Row), m (test · row) ↔ f.Holds (test · row) := by
  obtain ⟨m, hm, sound⟩ := (says_compile h builtin names gaps).meaning?
  exact ⟨m, hm, fun test row => sound (test · row)⟩

theorem meaning_compile_nested :
    (all [test "name" (.ofValue "beginsWith" (.text "jo")),
        any [test "age" (.range "notBetween" (some (.int 18)) (some (.int 65))),
          member "role" [.text "admin", .null]]]).compile .unrestricted =
      .ok ⟨"( name LIKE CONCAT(?, '%') AND ( ( age < ? OR age > ? ) OR role IN(?, ?) ) )",
        [.text "jo", .int 18, .int 65, .text "admin", .null]⟩ ∧
    ∃ m, Clause.meaning? ⟨"( name LIKE CONCAT(?, '%') AND ( ( age < ? OR age > ? ) OR role IN(?, ?) ) )",
        [.text "jo", .int 18, .int 65, .text "admin", .null]⟩ = some m ∧
      ∀ {Row : Type*} (test : Test → Row → Prop) (row : Row), m (test · row) ↔
        test (.single (.begins true) "name" (.text "jo")) row ∧
          ((test (.single (.compare .lt) "age" (.int 18)) row ∨ test (.single (.compare .gt) "age" (.int 65)) row) ∨
            test (.member "role" [.text "admin", .null]) row) := by
  have compiled : (all [test "name" (.ofValue "beginsWith" (.text "jo")),
      any [test "age" (.range "notBetween" (some (.int 18)) (some (.int 65))),
        member "role" [.text "admin", .null]]]).compile .unrestricted =
      .ok ⟨"( name LIKE CONCAT(?, '%') AND ( ( age < ? OR age > ? ) OR role IN(?, ?) ) )",
        [.text "jo", .int 18, .int 65, .text "admin", .null]⟩ := by cbv
  have named : ∀ l ∈ (all [test "name" (.ofValue "beginsWith" (.text "jo")),
      any [test "age" (.range "notBetween" (some (.int 18)) (some (.int 65))),
        member "role" [.text "admin", .null]]]).leaves, IsName l.field := by decide
  obtain ⟨m, hm, sound⟩ := meaning_compile compiled (by decide) (fun l hl _ _ _ => named l hl) (by decide +kernel)
  refine ⟨compiled, m, hm, fun test row => (sound test row).trans ?_⟩
  have begins : Operator.ofKeyword? "beginsWith" = some .beginsWith := by decide
  have beyond : Operator.ofKeyword? "notBetween" = some .notBetween := by decide
  simp [all, any, Filter.Holds, AllHold, AnyHolds, Filter.test, member, Leaf.Holds, Condition.ofValue, Condition.range,
    begins, beyond, Operator.Holds, Operator.shape?, Bounds.Holds, Glue.Joined, Literal.present, Literal.isNull]

end Filter

end FilterTree

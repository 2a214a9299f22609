import FilterTree.Command.Listing
import FilterTree.Proofs.Json.Double
import FilterTree.Proofs.Preparation
import Mathlib

/-!
# A listing tells the tree

* `Filter.Shape` : what is left of a filter without its fields, operators and values.
* `Filter.levels` : the nodes of a filter with their levels, each group in front of its rules.
* `Filter.OneLine` : the filters whose texts have no line feed.
* `printedLines` : the lines of a printed text.
* `Filter.isGreatest_levels` : the depth of a filter is the level of its deepest node.
* `Glue.describe_injective`, `Leaf.describe_ne_group`, `Leaf.isDegenerate_eq_of_describe` : a line tells a group from a leaf,
  the groups by glue and number of rules, and the leaf that tests nothing from the others.
* `Filter.shape_of_listing_append` : so the lines of a filter tell its shape, and where they end.
* `Filter.printedLines_listing` : a printed listing has a line for each node, and tells the shape of the filter.
-/

namespace FilterTree

/-! ## Shapes and levels -/

/-- What is left of a filter without its fields, operators and values: its groups, and its leaves of which some test
nothing. -/
inductive Filter.Shape where
  | leaf (degenerate : Bool)
  | group (glue : Glue) (rules : List Filter.Shape)

namespace Filter

mutual

/-- The shape of a filter. -/
def shape : Filter → Shape
  | .leaf l => .leaf l.isDegenerate
  | .group glue rules => .group glue (shapeAll rules)

def shapeAll : List Filter → List Shape
  | [] => []
  | f :: fs => f.shape :: shapeAll fs

end

mutual

/-- The nodes with their levels, the root on a given one. -/
def levels (level : Nat) : Filter → List (Nat × Filter)
  | .leaf l => [(level, .leaf l)]
  | .group glue rules => (level, .group glue rules) :: levelsAll (level + 1) rules

def levelsAll (level : Nat) : List Filter → List (Nat × Filter)
  | [] => []
  | f :: fs => f.levels level ++ levelsAll level fs

end

def describe : Filter → String
  | .leaf l => l.describe false
  | .group glue rules => glue.describe false rules.length

theorem mem_levelsAll {level : Nat} {fs : List Filter} {p : Nat × Filter} :
    p ∈ levelsAll level fs ↔ ∃ f ∈ fs, p ∈ f.levels level := by
  induction fs with
  | nil => simp [levelsAll]
  | cons f fs ih => rw [levelsAll, List.mem_append, ih, List.exists_mem_cons_iff]

theorem map_snd_levels (f : Filter) (level : Nat) : (f.levels level).map Prod.snd = f.nodes := by
  induction f using Filter.induction generalizing level with
  | leaf l => rfl
  | group glue rules ih =>
    have below : (levelsAll (level + 1) rules).map Prod.snd = nodesAll rules := by
      induction rules with
      | nil => rfl
      | cons f fs ihs =>
        have ⟨first, others⟩ := List.forall_mem_cons.1 ih
        rw [levelsAll, List.map_append, first, ihs others, nodesAll]
    rw [levels, List.map_cons, below, nodes]

theorem lt_of_mem_levels {f : Filter} {level : Nat} {p : Nat × Filter} (hp : p ∈ f.levels level) :
    p.1 < level + f.depth := by
  induction f using Filter.induction generalizing level with
  | leaf l =>
    rw [List.mem_singleton.1 hp, depth]
    exact Nat.lt_succ_self level
  | group glue rules ih =>
    rw [depth]
    rcases List.mem_cons.1 hp with rfl | hp
    · exact Nat.lt_add_of_pos_right (by omega)
    · obtain ⟨r, hr, hp⟩ := mem_levelsAll.1 hp
      have deeper := ih r hr hp
      have below := depthAll_le_iff.1 (Nat.le_refl _) r hr
      omega

theorem exists_mem_levels (f : Filter) (level : Nat) : ∃ n, (level + f.depth - 1, n) ∈ f.levels level := by
  induction f using Filter.induction generalizing level with
  | leaf l => exact ⟨.leaf l, List.mem_singleton_self _⟩
  | group glue rules ih =>
    by_cases nonempty : rules = []
    · rw [nonempty]
      exact ⟨_, List.mem_cons_self⟩
    · obtain ⟨r, hr, deepest⟩ := exists_depth_eq_depthAll nonempty
      obtain ⟨n, hn⟩ := ih r hr (level + 1)
      have here : level + (group glue rules).depth - 1 = level + 1 + r.depth - 1 := by
        rw [depth, deepest]
        omega
      exact ⟨n, here ▸ List.mem_cons_of_mem _ (mem_levelsAll.2 ⟨r, hr, hn⟩)⟩

/-- The depth is the level of the deepest node, where the root is on level one. -/
theorem isGreatest_levels (f : Filter) : IsGreatest {d | ∃ n, (d, n) ∈ f.levels 1} f.depth := by
  constructor
  · obtain ⟨n, hn⟩ := f.exists_mem_levels 1
    rw [Nat.add_sub_cancel_left] at hn
    exact ⟨n, hn⟩
  · rintro d ⟨n, hn⟩
    have below := lt_of_mem_levels hn
    omega

theorem listing_eq (f : Filter) (level : Nat) :
    f.listing false level = (f.levels level).map fun p => indent p.1 ++ p.2.describe := by
  induction f using Filter.induction generalizing level with
  | leaf l => rfl
  | group glue rules ih =>
    have below : listingAll false (level + 1) rules =
        (levelsAll (level + 1) rules).map fun p => indent p.1 ++ p.2.describe := by
      induction rules with
      | nil => rfl
      | cons f fs ihs =>
        have ⟨first, others⟩ := List.forall_mem_cons.1 ih
        rw [listingAll, first, ihs others, levelsAll, List.map_append]
    rw [listing, below]
    rfl

end Filter

/-! ## The texts of numbers -/

/-- The characters in the texts of values that are not texts themselves. -/
def isPlain (c : Char) : Bool := c.isAlphanum || c == '-' || c == '.'

def Plain (cs : List Char) : Prop := cs ≠ [] ∧ ∀ c ∈ cs, isPlain c = true

theorem isPlain_of_isDigit {c : Char} (h : c.isDigit = true) : isPlain c = true := by
  simp [isPlain, Char.isAlphanum, h]

theorem Plain.of_digits {ds : List Char} (nonempty : ds ≠ []) (h : Json.Digits ds) : Plain ds :=
  ⟨nonempty, fun c hc => isPlain_of_isDigit (h c hc)⟩

theorem Plain.cons {c : Char} {cs : List Char} (hc : isPlain c = true) (h : Plain cs) : Plain (c :: cs) :=
  ⟨List.cons_ne_nil c cs, List.forall_mem_cons.2 ⟨hc, h.2⟩⟩

theorem Plain.append {cs ds : List Char} (h : Plain cs) (h' : Plain ds) : Plain (cs ++ ds) :=
  ⟨List.append_ne_nil_of_left_ne_nil h.1 ds, List.forall_mem_append.2 ⟨h.2, h'.2⟩⟩

theorem Plain.not_mem {cs : List Char} (h : Plain cs) {c : Char} (hc : isPlain c = false) : c ∉ cs := by
  intro mem
  rw [h.2 c mem] at hc
  cases hc

namespace Decimal

open Json (Digits)

theorem plain_ofNat (n : Nat) : Plain (ofNat n) := .of_digits (ofNat_ne_nil n) (digits_ofNat n)

theorem plain_ofInt (z : Int) : Plain (ofInt z) := by
  cases z with
  | ofNat n => exact plain_ofNat n
  | negSucc n => exact (plain_ofNat (n + 1)).cons rfl

theorem Scientific.Proper.plain_positional {s : Scientific} (h : s.Proper) : Plain (Decimal.positional false s) := by
  obtain ⟨d, ds, digits, digit, -, more⟩ := h
  have all : Digits s.digits := by
    rw [digits]
    exact List.forall_mem_cons.2 ⟨digit, more⟩
  unfold Decimal.positional
  cases s.exponent with
  | negSucc k =>
    have part : Plain (List.replicate k '0' ++ s.digits) :=
      .of_digits (by rw [digits]; simp) ((Json.digits_replicate k).append all)
    exact (part.cons rfl).cons rfl
  | ofNat k =>
    have whole : Plain (s.digits.take (k + 1) ++ List.replicate (k + 1 - s.digits.length) '0') := by
      have first : Digits (s.digits.take (k + 1)) := fun c hc => all c (List.mem_of_mem_take hc)
      exact .of_digits (by rw [digits]; simp) (first.append (Json.digits_replicate _))
    dsimp only
    split
    · exact whole
    · rename_i part nonempty
      exact whole.append (.cons rfl (.of_digits nonempty fun c hc => all c (List.mem_of_mem_drop hc)))

theorem plain_sign_append (x : Float) {cs : List Char} (h : Plain cs) : Plain (sign x ++ cs) := by
  unfold sign
  split
  · exact h.cons rfl
  · exact h

theorem plain_plain (x : Float) : Plain (plain x).toList := by
  unfold plain
  split
  · exact ⟨by decide, by simp [isPlain]⟩
  · split
    · rw [String.toList_ofList]
      exact plain_sign_append x ⟨by decide, by simp [isPlain]⟩
    · rw [String.toList_ofList]
      refine plain_sign_append x ?_
      unfold magnitude
      split
      · exact ⟨by decide, by simp [isPlain]⟩
      · rename_i nonzero
        have mantissa : 0 < (Binary.ofBits x.toBits).mantissa := by
          by_contra none
          exact nonzero (zero_of_mantissa (Nat.eq_zero_of_not_pos none))
        exact (Binary.proper_shortest mantissa .up).plain_positional

end Decimal

/-! ## The ends of lines -/

/-- The last character of a text is the bracket that closes. -/
def Closes (s : String) : Prop := s.toList.getLast? = some ')'

instance (s : String) : Decidable (Closes s) := inferInstanceAs (Decidable (_ = _))

theorem closes_append {s t : String} (nonempty : t ≠ "") : Closes (s ++ t) ↔ Closes t := by
  have some : t.toList ≠ [] := by simpa using nonempty
  rw [Closes, Closes, String.toList_append, List.getLast?_append_of_ne_nil _ some]

theorem not_closes_of_plain {s : String} (h : Plain s.toList) : ¬Closes s :=
  fun closes => h.not_mem (by decide) (List.mem_of_getLast? closes)

namespace Literal

/-- A value that is no text is written with letters, digits, minus signs and points. -/
theorem plain_display_or_text (v : Literal) : Plain v.display.toList ∨ ∃ s, v = .text s := by
  cases v with
  | null => exact .inl ⟨by decide, by simp [display, isPlain]⟩
  | bool b =>
    refine .inl ?_
    cases b <;> exact ⟨by decide, by simp [display, Json.truth, isPlain]⟩
  | int n =>
    rw [display, String.toList_ofList]
    exact .inl (Decimal.plain_ofInt _)
  | uint n =>
    rw [display, String.toList_ofList]
    exact .inl (Decimal.plain_ofNat _)
  | float x => exact .inl (Decimal.plain_plain x)
  | text s => exact .inr ⟨s, rfl⟩

theorem not_closes_display (v : Literal) : ¬Closes v.display := by
  rcases v.plain_display_or_text with plain | ⟨s, rfl⟩
  · exact not_closes_of_plain plain
  · rw [display, closes_append (by decide)]
    decide

theorem display_ne_empty (v : Literal) : v.display ≠ "" := by
  rcases v.plain_display_or_text with plain | ⟨s, rfl⟩
  · intro empty
    exact plain.1 (String.toList_eq_nil_iff.2 empty)
  · simp [display]

/-- A value is written on one line, unless it is a text with a line feed. -/
def OneLine (v : Literal) : Prop := ∀ s, v = .text s → '\n' ∉ s.toList

theorem OneLine.not_mem_display {v : Literal} (h : v.OneLine) : '\n' ∉ v.display.toList := by
  rcases v.plain_display_or_text with plain | ⟨s, rfl⟩
  · exact plain.not_mem (by decide)
  · simpa [display] using h s rfl

end Literal

theorem Operand.not_closes_display (x : Operand) : ¬Closes x.display := by
  cases x with
  | one v => exact v.not_closes_display
  | many vs =>
    rw [display, closes_append (by decide)]
    decide

theorem Operand.display_ne_empty (x : Operand) : x.display ≠ "" := by
  cases x with
  | one v => exact v.display_ne_empty
  | many vs => simp [display]

theorem Glue.closes_describe (g : Glue) (n : Nat) : Closes (g.describe false n) := by
  rw [describe, closes_append (by decide)]
  decide

/-- Of the leaves only the one that tests nothing has a line that ends in a bracket. -/
theorem Leaf.closes_describe_iff {l : Leaf} : Closes (l.describe false) ↔ l.isDegenerate = true := by
  unfold describe
  simp only [Style.paint_colourless]
  split
  · rename_i degenerate
    exact iff_of_true (by decide) degenerate
  · rename_i tests
    refine iff_of_false ?_ tests
    split
    · rw [closes_append (by decide)]
      decide
    · rw [closes_append l.condition.operand.display_ne_empty]
      exact l.condition.operand.not_closes_display

/-! ## What a line tells -/

theorem count_injective {m n : Nat} (h : Json.count m = Json.count n) : m = n := by
  rw [Json.count, Json.count, String.ofList_inj] at h
  rw [← Decimal.value_ofNat m, h, Decimal.value_ofNat]

theorem Glue.describe_injective {g h : Glue} {m n : Nat} (eq : g.describe false m = h.describe false n) :
    g = h ∧ m = n := by
  have chars := congrArg String.toList eq
  cases g <;> cases h <;> simp [describe, display] at chars
  all_goals exact ⟨rfl, count_injective (String.toList_inj.1 chars)⟩

theorem Leaf.describe_ne_group (l : Leaf) (g : Glue) (n : Nat) : l.describe false ≠ g.describe false n := by
  intro eq
  have degenerate : l.isDegenerate = true := closes_describe_iff.1 (eq ▸ g.closes_describe n)
  have chars := congrArg String.toList eq
  cases g <;> simp [describe, degenerate, Glue.describe, Glue.display] at chars

theorem Leaf.isDegenerate_eq_of_describe {l m : Leaf} (eq : l.describe false = m.describe false) :
    l.isDegenerate = m.isDegenerate := by
  rw [Bool.eq_iff_iff, ← closes_describe_iff, ← closes_describe_iff, eq]

theorem eq_of_indent_append {level : Nat} {s t : String} (h : indent level ++ s = indent level ++ t) : s = t :=
  String.append_right_inj _ |>.1 h

namespace Filter

/-- Filters with as many rules whose shapes can be cancelled in front of other lines. -/
theorem shapeAll_of_listingAll_append {level : Nat} {fs gs : List Filter} {rest rest' : List String}
    (each : ∀ f ∈ fs, ∀ (g : Filter) (rest rest' : List String),
      f.listing false level ++ rest = g.listing false level ++ rest' → f.shape = g.shape ∧ rest = rest')
    (len : fs.length = gs.length) (h : listingAll false level fs ++ rest = listingAll false level gs ++ rest') :
    shapeAll fs = shapeAll gs ∧ rest = rest' := by
  induction fs generalizing gs with
  | nil =>
    obtain rfl := List.length_eq_zero_iff.1 len.symm
    exact ⟨rfl, h⟩
  | cons f fs ih =>
    obtain ⟨g, gs, rfl⟩ := List.exists_cons_of_length_eq_add_one len.symm
    have ⟨first, others⟩ := List.forall_mem_cons.1 each
    rw [listingAll, listingAll, List.append_assoc, List.append_assoc] at h
    obtain ⟨shape, behind⟩ := first g _ _ h
    obtain ⟨shapes, end_eq⟩ := ih others (Nat.succ.inj len) behind
    rw [shapeAll, shapeAll, shape, shapes]
    exact ⟨rfl, end_eq⟩

/-- In front of other lines, the listing of a filter tells its shape and where it ends. The number of rules in the line of a
group tells how many listings follow. -/
theorem shape_of_listing_append (f : Filter) : ∀ (level : Nat) (g : Filter) (rest rest' : List String),
    f.listing false level ++ rest = g.listing false level ++ rest' → f.shape = g.shape ∧ rest = rest' := by
  induction f using Filter.induction with
  | leaf l =>
    intro level g rest rest' h
    cases g with
    | leaf m =>
      rw [listing, listing] at h
      obtain ⟨line, behind⟩ := List.cons.inj h
      have degenerate := Leaf.isDegenerate_eq_of_describe (eq_of_indent_append line)
      rw [shape, shape, degenerate]
      exact ⟨rfl, behind⟩
    | group glue rules =>
      rw [listing, listing] at h
      obtain ⟨line, -⟩ := List.cons.inj h
      exact absurd (eq_of_indent_append line) (l.describe_ne_group glue rules.length)
  | group glue rules ih =>
    intro level g rest rest' h
    cases g with
    | leaf m =>
      rw [listing, listing] at h
      obtain ⟨line, -⟩ := List.cons.inj h
      exact absurd (eq_of_indent_append line).symm (m.describe_ne_group glue rules.length)
    | group glue' rules' =>
      rw [listing, listing] at h
      obtain ⟨line, behind⟩ := List.cons.inj h
      obtain ⟨rfl, len⟩ := Glue.describe_injective (eq_of_indent_append line)
      obtain ⟨shapes, end_eq⟩ := shapeAll_of_listingAll_append (fun r hr => ih r hr (level + 1)) len behind
      rw [shape, shape, shapes]
      exact ⟨rfl, end_eq⟩

end Filter

/-! ## Lines of a printed text -/

/-- The lines of a text: what stands in front of each line feed. -/
def printedLines (s : String) : List String := ((s.toList.splitOn '\n').map String.ofList).dropLast

theorem splitOn_unlines {ls : List String} (h : ∀ l ∈ ls, '\n' ∉ l.toList) :
    (unlines ls).toList.splitOn '\n' = ls.map String.toList ++ [[]] := by
  induction ls with
  | nil => rfl
  | cons l ls ih =>
    have ⟨first, others⟩ := List.forall_mem_cons.1 h
    have cut : (unlines (l :: ls)).toList = l.toList ++ '\n' :: (unlines ls).toList := by simp [unlines]
    rw [cut, List.splitOn_append_cons_self, List.splitOn_eq_singleton first, ih others]
    rfl

theorem printedLines_unlines {ls : List String} (h : ∀ l ∈ ls, '\n' ∉ l.toList) : printedLines (unlines ls) = ls := by
  rw [printedLines, splitOn_unlines h, List.map_append, List.map_map, List.map_singleton, List.dropLast_concat]
  simp [Function.comp_def]

theorem not_mem_intercalate {c : Char} {s : String} {ts : List String} (hs : c ∉ s.toList)
    (h : ∀ t ∈ ts, c ∉ t.toList) : c ∉ (s.intercalate ts).toList := by
  induction ts with
  | nil => simp
  | cons t ts ih =>
    have ⟨first, others⟩ := List.forall_mem_cons.1 h
    rcases ts with _ | ⟨u, ts⟩
    · rwa [String.intercalate_singleton]
    · rw [String.intercalate_cons_cons, String.toList_append, String.toList_append, List.mem_append, List.mem_append]
      rintro ((mem | mem) | mem)
      · exact first mem
      · exact hs mem
      · exact ih others mem

def Leaf.OneLine (l : Leaf) : Prop :=
  '\n' ∉ l.field.toList ∧ '\n' ∉ l.condition.operator.toList ∧ ∀ s, .text s ∈ l.literals → '\n' ∉ s.toList

/-- A filter without line feeds in its fields, its operators and its texts. -/
def Filter.OneLine (f : Filter) : Prop := ∀ l ∈ f.leaves, l.OneLine

theorem not_mem_displays {vs : List Literal} (h : ∀ v ∈ vs, v.OneLine) :
    '\n' ∉ (String.intercalate ", " (vs.map Literal.display)).toList :=
  not_mem_intercalate (by decide) (List.forall_mem_map.2 fun v hv => (h v hv).not_mem_display)

theorem Operand.not_mem_display {x : Operand} (h : ∀ v ∈ x.literals, v.OneLine) : '\n' ∉ x.display.toList := by
  cases x with
  | one v => exact (h v (List.mem_singleton_self v)).not_mem_display
  | many vs =>
    have listed : '\n' ∉ (String.intercalate ", " (vs.map Literal.display)).toList := not_mem_displays h
    rw [display]
    generalize String.intercalate ", " (vs.map Literal.display) = shown at listed
    simp [listed]

theorem Leaf.OneLine.not_mem_describe {l : Leaf} (h : l.OneLine) : '\n' ∉ (l.describe false).toList := by
  obtain ⟨field, operator, texts⟩ := h
  have values : ∀ v ∈ l.literals, v.OneLine := by
    rintro v hv s rfl
    exact texts s hv
  unfold describe
  simp only [Style.paint_colourless]
  split
  · decide
  · split
    · have included := not_mem_displays fun v hv => values v (List.mem_append_right _ hv)
      generalize String.intercalate ", " (l.includes.map Literal.display) = shown at included
      simp [field, included]
    · have shown := Operand.not_mem_display fun v hv => values v (List.mem_append_left _ hv)
      simp [field, operator, shown]

theorem Glue.not_mem_describe (g : Glue) (n : Nat) : '\n' ∉ (g.describe false n).toList := by
  have digits : '\n' ∉ (Json.count n).toList := by
    rw [Json.count, String.toList_ofList]
    exact (Decimal.plain_ofNat n).not_mem (by decide)
  cases g <;> simp [describe, display, digits]

namespace Filter

theorem mem_leaves_of_mem_nodes {f : Filter} {l : Leaf} (h : leaf l ∈ f.nodes) : l ∈ f.leaves := by
  induction f using Filter.induction with
  | leaf m =>
    cases List.mem_singleton.1 h
    exact List.mem_singleton_self l
  | group glue rules ih =>
    rw [nodes] at h
    rcases List.mem_cons.1 h with root | below
    · cases root
    · obtain ⟨r, hr, mem⟩ := mem_nodesAll.1 below
      exact mem_leaves_of_mem hr (ih r hr mem)

theorem OneLine.not_mem_describe {f n : Filter} (h : f.OneLine) (hn : n ∈ f.nodes) : '\n' ∉ n.describe.toList := by
  cases n with
  | leaf l => exact (h l (mem_leaves_of_mem_nodes hn)).not_mem_describe
  | group glue rules => exact glue.not_mem_describe rules.length

/-- The printed listing of a filter without line feeds has a line for each node, in the order of the tree. A node is indented
by two spaces for each level, and the depth of the filter is the level of its deepest node. Filters with the same printed
listing have the same shape. -/
theorem printedLines_listing {f : Filter} (h : f.OneLine) :
    printedLines (unlines (f.listing false 1)) =
      (f.levels 1).map (fun p => String.ofList (List.replicate (2 * p.1) ' ') ++ p.2.describe) ∧
    (f.levels 1).map Prod.snd = f.nodes ∧
    IsGreatest {d | ∃ n, (d, n) ∈ f.levels 1} f.depth ∧
    ∀ g : Filter, g.OneLine → unlines (g.listing false 1) = unlines (f.listing false 1) → g.shape = f.shape := by
  have lines : ∀ {f : Filter}, f.OneLine → printedLines (unlines (f.listing false 1)) = f.listing false 1 := by
    intro f h
    refine printedLines_unlines ?_
    rw [listing_eq, List.forall_mem_map]
    intro p hp
    have node : p.2 ∈ f.nodes := f.map_snd_levels 1 ▸ List.mem_map_of_mem hp
    have described := h.not_mem_describe node
    simp [indent, described]
  refine ⟨?_, f.map_snd_levels 1, f.isGreatest_levels, ?_⟩
  · rw [lines h, listing_eq]
    rfl
  · intro g hg same
    have listed : g.listing false 1 = f.listing false 1 := by rw [← lines hg, same, lines h]
    exact (shape_of_listing_append g 1 f [] [] (by rw [listed])).1

/-- Leaves that look like a group, like the leaf that tests nothing and like a deeper line. -/
theorem printedLines_listing_lookalikes :
    let f := any [test "AND (2" (.ofValue "rules)" .null), all [blank, test "  (empty)" ⟨"", .absent⟩]]
    printedLines (unlines (f.listing false 1)) =
      ["  OR (2 rules)", "    AND (2 rules) NULL", "    AND (2 rules)", "      (empty)", "        (empty)  NULL"] ∧
    ∀ g : Filter, g.OneLine → unlines (g.listing false 1) = unlines (f.listing false 1) → g.shape = f.shape := by
  intro f
  have oneLine : f.OneLine := by
    simp [f, any, all, test, blank, OneLine, Leaf.OneLine, leaves, leavesAll, Leaf.literals, Operand.literals, Leaf.blank,
      Condition.vacant, Condition.ofValue, Operand.absent]
  obtain ⟨lines, -, -, shape⟩ := printedLines_listing oneLine
  refine ⟨lines.trans ?_, shape⟩
  have two : Json.count 2 = "2" := by
    rw [Json.count, Decimal.ofNat_of_lt (by decide)]
    rfl
  simp only [f, any, all, test, blank, levels, levelsAll, List.map_cons, List.map_nil, List.cons_append, List.nil_append,
    describe, Glue.describe, List.length_cons, List.length_nil, Style.paint_colourless, Nat.reduceAdd, two]
  decide

end Filter

end FilterTree
